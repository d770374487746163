import OpenController.Lemmas.UartLinkRun

/-!
# What a host sends arrives

Twenty bytes that start no frame bring the parser into step with the host, whatever came before, and from then on every frame of the
host is dispatched.
-/

namespace OpenController

open UartWorld

variable {w v : UartWorld} {pad : List Byte} {fs : List HostFrame}

/-- From any state that is reached in which no hole of the stream is left to be dealt with, the wire carries bytes that start no frame,
and then frames of the host. However the handler and the poll take turns, if the ring has room for the bytes of each activation: once
everything is fed, the frames have been dispatched, each once and in order, after what there was before; and the parser holds nothing.
The bytes before the frames have to be twenty, or the parser and the ring empty, and then nothing else is dispatched. -/
theorem host_frames_dispatched (h : UartRun w) (hwhole : w.Whole) (hpad : ∀ b ∈ pad, NotHeader b)
    (hsync : 20 ≤ pad.length ∨ w.rx.parser.buf = [] ∧ w.pending = [])
    (hsent : After w (pad ++ fs.flatMap HostFrame.bytes) v) (hfed : v.pending = []) :
    v.rx.parser.buf = [] ∧ ∃ before, v.calls = w.calls ++ before ++ fs.map HostFrame.means ∧
      (w.rx.parser.buf = [] ∧ w.pending = [] → before = []) := by
  have hok := uartRun_ok h
  obtain ⟨-, -, s, hparser, hdispatched, hstream⟩ := hsent.carried hok hwhole
  -- the bytes fed: what was in the ring, the bytes that start no frame, and the frames
  rw [hfed, List.append_nil] at hstream
  obtain ⟨ring, s, rfl, hring, hrest⟩ := List.map_eq_append_iff.mp hstream
  obtain ⟨quiet, frames, rfl, hquiet, hframes⟩ := List.map_eq_append_iff.mp hrest
  have hlen : quiet.length = pad.length := by rw [← hquiet, List.length_map]
  have hnone : ∀ x ∈ quiet, UartParser.window Prod.snd x = 0 := by
    intro x hx
    exact hpad x.2 (hquiet ▸ List.mem_map_of_mem hx)
  have hnew : w.rx.parser.buf = [] ∧ w.pending = [] →
      ring = [] ∧ (UartParser.feed Prod.snd w.rx.parser (ring ++ quiet)).1.buf = [] ∧
        (UartParser.feed Prod.snd w.rx.parser (ring ++ quiet)).2 = [] := by
    rintro ⟨hbuf, hpend⟩
    obtain rfl : ring = [] := by simpa [hpend] using hring
    exact ⟨rfl, UartParser.feed_drops hbuf hnone⟩
  have hempty : (UartParser.feed Prod.snd w.rx.parser (ring ++ quiet)).1.buf = [] := by
    rcases hsync with hlong | hidle
    · rw [UartParser.feed_append]
      exact UartParser.feed_empties (UartParser.feed_stretches hok.waits ring).1 hnone (by omega)
    · exact (hnew hidle).2.1
  obtain ⟨hend, hall⟩ := UartParser.feed_frames hempty fs hframes
  rw [← List.append_assoc, UartParser.feed_append] at hparser hdispatched
  refine ⟨hparser ▸ hend, (UartParser.feed Prod.snd w.rx.parser (ring ++ quiet)).2.map fun f => dispatchFrame (f.map Prod.snd), ?_, ?_⟩
  · have hmeans : (UartParser.feed Prod.snd (UartParser.feed Prod.snd w.rx.parser (ring ++ quiet)).1 frames).2.map
        (fun f => dispatchFrame (f.map Prod.snd)) = fs.map HostFrame.means := by
      have hcomp := congrArg (List.map dispatchFrame) hall
      simpa [Function.comp_def, HostFrame.dispatchFrame_bytes] using hcomp
    rw [calls, calls, hdispatched, List.map_append, List.map_append, hmeans, List.append_assoc]
  · intro hidle
    rw [(hnew hidle).2.2]
    rfl

/-- Power on, and a header that is fed before the host starts. -/
def strayHeader : UartWorld := (UartWorld.init.activate [some 0xA9]).poll.poll.poll.poll.poll

/-- The parser waits for a name that does not come, and still dispatches the frames of the host. -/
theorem host_frames_dispatched_stray : ∃ v : UartWorld, strayHeader.rx.parser.buf.map Prod.snd = [0xA9] ∧ v.rx.parser.buf = [] ∧
    ∃ before, v.calls = strayHeader.calls ++ before ++ [.frame 0xA6 0x58 [], .onAck] ∧
      (strayHeader.rx.parser.buf = [] ∧ strayHeader.pending = [] → before = []) := by
  have hstray : UartRun strayHeader := (UartRun.activate [some 0xA9] .init (by decide)).poll.poll.poll.poll.poll
  have hhere : After strayHeader [] strayHeader := .here
  have hquiet := (hhere.activate (List.replicate 20 0) (by decide +kernel)).polls 100
  have hsent := (hquiet.activate ([HostFrame.command 0x58, .ack].flatMap HostFrame.bytes) (by decide +kernel)).polls 30
  exact ⟨_, by decide +kernel, host_frames_dispatched hstray (by unfold Whole; decide +kernel) (by decide) (Or.inl (by decide))
    hsent (by decide +kernel)⟩

end OpenController
