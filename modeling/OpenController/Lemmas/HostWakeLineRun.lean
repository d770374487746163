import OpenController.HostWakeLine
import OpenController.Lemmas.HostWakeStep
import OpenController.Lib.History

/-!
# CHWAKE and the wire, across runs

The clock `since` runs from the raise of CHWAKE in the guard time, and from the last copy once a frame is out; `LineInv` says so,
with what every step and every copy had to wait for.
-/

namespace OpenController

/-! ## Histories of steps and copies -/

variable {log : List StepEntry} {wire : List (Nat × HostWakeEvent)} {g t now now' : Nat}

@[simp] theorem wireLog_snoc (log : List StepEntry) (e : StepEntry) :
    wireLog (log ++ [e]) = wireLog log ++ e.shows.map (e.time, ·) := by
  simp [wireLog]

@[simp] theorem lastLine_snoc (log : List StepEntry) (e : StepEntry) : lastLine (log ++ [e]) = e.out.line := by
  simp [lastLine]

@[simp] theorem lastCopy_copy (wire : List (Nat × HostWakeEvent)) (τ : Nat) (f : Frame) (led first : Bool) :
    lastCopy (wire ++ [(τ, .copy f led first)]) = some (τ, first) := by
  simp [lastCopy]

@[simp] theorem lastCopy_retired (wire : List (Nat × HostWakeEvent)) (τ : Nat) (led abandoned : Bool) :
    lastCopy (wire ++ [(τ, .retired led abandoned)]) = lastCopy wire := by
  simp [lastCopy]

/-- The last copy is a copy. -/
theorem mem_of_lastCopy {c : Nat × Bool} (h : lastCopy wire = some c) : ∃ f led, (c.1, .copy f led c.2) ∈ wire := by
  induction wire using List.reverseRecOn with
  | nil => exact nomatch h
  | append_singleton wire e ih =>
    have hold (hl : lastCopy wire = some c) : ∃ f led, (c.1, .copy f led c.2) ∈ wire ++ [e] := by
      obtain ⟨f, led, hm⟩ := ih hl
      exact ⟨f, led, List.mem_append_left _ hm⟩
    obtain ⟨τ, ev⟩ := e
    cases ev with
    | copy f led first =>
      rw [lastCopy_copy] at h
      obtain rfl := Option.some.inj h
      exact ⟨f, led, by simp⟩
    | accepted f | refused f | ledSet f | ack | retired led abandoned => exact hold (by simpa [lastCopy] using h)

/-- CHWAKE has been high since a step at least `g` ago. -/
def HighFor (g now : Nat) (log : List StepEntry) : Prop :=
  ∃ p s q, log = p ++ s :: q ∧ s.time + g ≤ now ∧ ∀ x ∈ s :: q, x.out.line = true

/-- Every copy went out at least `d` ago. -/
def CopiedFor (d now : Nat) (wire : List (Nat × HostWakeEvent)) : Prop :=
  ∀ τ f led first, (τ, .copy f led first) ∈ wire → τ + d ≤ now

/-- Of every frame retired after a resend or abandoned, the last copy went out at least two ACK timeouts ago. -/
def Settled (t now : Nat) (wire : List (Nat × HostWakeEvent)) : Prop :=
  ∀ a ρ led abandoned b, wire = a ++ (ρ, .retired led abandoned) :: b →
    ∀ τ first, lastCopy a = some (τ, first) → first = false ∨ abandoned = true → τ + 2 * t ≤ now

/-- A step that sends drives CHWAKE high, and finds it high for the guard time. -/
def SendFits (g : Nat) (log : List StepEntry) (e : StepEntry) : Prop :=
  e.out.send = true → e.out.line = true ∧ HighFor g e.time log

/-- A copy waits for the ACK timeout of the copies of its frame, and for the quarantine of frames retired before it. -/
def CopyFits (t : Nat) (wire : List (Nat × HostWakeEvent)) (e : Nat × HostWakeEvent) : Prop :=
  match e.2 with
  | .copy _ _ first => (first = false → CopiedFor t e.1 wire) ∧ (2 * t < 4294967296 → Settled t e.1 wire)
  | _ => True

theorem HighFor.mono (h : HighFor g now log) (hle : now ≤ now') : HighFor g now' log := by
  obtain ⟨p, s, q, hlog, hs, hq⟩ := h
  exact ⟨p, s, q, hlog, hs.trans hle, hq⟩

/-- CHWAKE was high when a clock was set, and the clock shows the time since. -/
theorem HighFor.later {τ : Nat} (h : HighFor 0 τ log) (hle : τ ≤ now) (hg : g ≤ sub32 (u32 now) (u32 τ)) : HighFor g now log := by
  obtain ⟨p, s, q, hlog, hs, hq⟩ := h
  have hpast := hg.trans (sub32_le hle)
  exact ⟨p, s, q, hlog, by omega, hq⟩

theorem HighFor.snoc (h : HighFor g now log) {e : StepEntry} (he : e.out.line = true) : HighFor g now (log ++ [e]) := by
  obtain ⟨p, s, q, rfl, hs, hq⟩ := h
  refine ⟨p, s, q ++ [e], by simp, hs, fun x hx => ?_⟩
  rw [← List.cons_append] at hx
  rcases List.mem_append.mp hx with hx | hx
  · exact hq x hx
  · rwa [List.mem_singleton.mp hx]

theorem Settled.mono (h : Settled t now wire) (hle : now ≤ now') : Settled t now' wire :=
  fun a ρ led ab b he τ first hl hr => (h a ρ led ab b he τ first hl hr).trans hle

/-- A new event matters only if it is a retirement after a resend, or of an abandoned frame. -/
theorem Settled.snoc (h : Settled t now wire) {e : Nat × HostWakeEvent}
    (he : ∀ led abandoned, e.2 = .retired led abandoned → ∀ τ first, lastCopy wire = some (τ, first) →
      first = false ∨ abandoned = true → τ + 2 * t ≤ now) : Settled t now (wire ++ [e]) := by
  intro a ρ led ab b hab τ first hl hr
  rcases List.eq_nil_or_concat b with rfl | ⟨b', y, rfl⟩
  · obtain ⟨rfl, hx⟩ := List.append_inj' hab rfl
    obtain rfl : e = (ρ, .retired led ab) := by simpa using hx
    exact he led ab rfl τ first hl hr
  · rw [List.concat_eq_append, ← List.cons_append, ← List.append_assoc] at hab
    exact h a ρ led ab b' (List.append_inj' hab rfl).1 τ first hl hr

/-- Two ACK timeouts after the last copy. -/
theorem settled_of_copiedFor (h : CopiedFor (2 * t) now wire) : Settled t now wire := by
  rintro a ρ led ab b rfl τ first hl -
  obtain ⟨f, l, hm⟩ := mem_of_lastCopy hl
  exact h τ f l first (List.mem_append_left _ hm)

/-- Every copy had gone out when a clock was set, and the clock shows the time since. -/
theorem CopiedFor.later {τ d : Nat} (h : CopiedFor 0 τ wire) (hle : τ ≤ now) (hd : d ≤ sub32 (u32 now) (u32 τ)) :
    CopiedFor d now wire := by
  intro σ f led first hm
  have hσ := h σ f led first hm
  have hpast := hd.trans (sub32_le hle)
  omega

theorem CopiedFor.mono {d : Nat} (h : CopiedFor d now wire) (hle : now ≤ now') : CopiedFor d now' wire :=
  fun τ f led first hm => (h τ f led first hm).trans hle

theorem CopiedFor.snoc {d : Nat} (h : CopiedFor d now wire) {e : Nat × HostWakeEvent}
    (he : ∀ f led first, e.2 = .copy f led first → e.1 + d ≤ now) : CopiedFor d now (wire ++ [e]) := by
  intro τ f led first hm
  rcases List.mem_append.mp hm with hm | hm
  · exact h τ f led first hm
  · obtain rfl := List.mem_singleton.mp hm
    exact he f led first rfl

namespace HostWake

/-! ## The invariant -/

/-- What holds between the steps. In the guard time the clock `since` runs from a step since which CHWAKE has been high; when a
frame is out or late ACKs are discarded CHWAKE has been high for the guard time, and the clock runs from the last copy; except in
the quarantine, no frame is left that waits for one. -/
structure LineInv (g t now : Nat) (hw : HostWake) (log : List StepEntry) : Prop where
  ok : Ok hw
  guardTicks : hw.guardTicks = g
  timeout : hw.ackTimeoutTicks = t
  line : hw.state = .idle ↔ lastLine log = false
  past : CopiedFor 0 now (wireLog log)
  raised : hw.state = .guard → ∃ τ ≤ now, hw.since = u32 τ ∧ HighFor 0 τ log
  high : hw.state = .waitAck ∨ hw.state = .quarantine → HighFor g now log
  sent : hw.state = .waitAck ∨ hw.state = .quarantine → ∃ τ ≤ now, hw.since = u32 τ ∧ CopiedFor 0 τ (wireLog log)
  once : hw.state = .waitAck → hw.attempts = 1 → ∀ c, lastCopy (wireLog log) = some c → c.2 = true
  settled : 2 * t < 4294967296 → hw.state ≠ .quarantine → Settled t now (wireLog log)
  sends : Throughout (SendFits g) log
  copies : Throughout (CopyFits t) (wireLog log)

variable {hw hw' : HostWake} {m : Fin 256}

theorem LineInv.mono (h : LineInv g t now hw log) (hle : now ≤ now') : LineInv g t now' hw log where
  ok := h.ok
  guardTicks := h.guardTicks
  timeout := h.timeout
  line := h.line
  past := h.past.mono hle
  raised hs := by
    obtain ⟨τ, hτ, hrest⟩ := h.raised hs
    exact ⟨τ, hτ.trans hle, hrest⟩
  high hs := (h.high hs).mono hle
  sent hs := by
    obtain ⟨τ, hτ, hrest⟩ := h.sent hs
    exact ⟨τ, hτ.trans hle, hrest⟩
  once := h.once
  settled hlt hs := (h.settled hlt hs).mono hle
  sends := h.sends
  copies := h.copies

/-- The clocks and the state are all that matters. -/
theorem LineInv.congr (h : LineInv g t now hw log) (hok : Ok hw') (hg : hw'.guardTicks = hw.guardTicks)
    (ht : hw'.ackTimeoutTicks = hw.ackTimeoutTicks) (hs : hw'.state = hw.state) (hsince : hw'.since = hw.since)
    (ha : hw'.attempts = hw.attempts) : LineInv g t now hw' log where
  ok := hok
  guardTicks := hg.trans h.guardTicks
  timeout := ht.trans h.timeout
  line := by
    rw [hs]
    exact h.line
  past := h.past
  raised := by
    rw [hs, hsince]
    exact h.raised
  high := by
    rw [hs]
    exact h.high
  sent := by
    rw [hs, hsince]
    exact h.sent
  once := by
    rw [hs, ha]
    exact h.once
  settled := by
    rw [hs]
    exact h.settled
  sends := h.sends
  copies := h.copies

/-! ## Operations -/

theorem lineInv_init (g t : Fin 4294967296) (m : Fin 256) (now : Nat) : LineInv g t now (init g t m) [] where
  ok := ok_init g t m
  guardTicks := rfl
  timeout := rfl
  line := by simp [init, lastLine]
  past := by simp [CopiedFor, wireLog]
  raised := nofun
  high := by simp [init]
  sent := by simp [init]
  once := nofun
  settled _ _ := by simp [Settled, wireLog]
  sends := throughout_nil
  copies := throughout_nil

theorem lineInv_enqueue (h : LineInv g t now hw log) (cmd val : Byte) : LineInv g t now (hw.enqueue cmd val).1 log := by
  have hok := ok_enqueue hw cmd val h.ok
  by_cases hf : hw.count ≥ hostWakeQueueSize
  · rw [enqueue, if_pos hf] at hok ⊢
    exact h.congr hok rfl rfl rfl rfl rfl
  · rw [enqueue, if_neg hf] at hok ⊢
    exact h.congr hok rfl rfl rfl rfl rfl

theorem lineInv_onAck (h : LineInv g t now hw log) : LineInv g t now hw.onAck log := by
  have hok := ok_onAck hw h.ok
  unfold onAck at hok ⊢
  split
  · rename_i hs
    rw [if_pos hs] at hok
    exact h.congr hok rfl rfl rfl rfl rfl
  · exact h

/-! ## Steps -/

/-- A step sends a copy: CHWAKE has been high for the guard time, and a resend waits for the ACK timeout. -/
theorem lineInv_copy {r : HostWake × HostWakeStep} {evs : List HostWakeEvent} {f : Frame} {led first : Bool}
    (hok : Ok r.1) (hg : r.1.guardTicks = g) (ht : r.1.ackTimeoutTicks = t) (hs : r.1.state = .waitAck)
    (hsince : r.1.since = u32 now) (hline : r.2.line = true) (hhigh : HighFor g now log) (hsends : Throughout (SendFits g) log)
    (hwire : wireLog (log ++ [⟨now, r.2, evs⟩]) = wire ++ [(now, .copy f led first)]) (hcopies : Throughout (CopyFits t) wire)
    (hpast : CopiedFor 0 now wire) (hfirst : first = false → CopiedFor t now wire) (hone : r.1.attempts = 1 → first = true)
    (hsettled : 2 * t < 4294967296 → Settled t now wire) : LineInv g t now r.1 (log ++ [⟨now, r.2, evs⟩]) where
  ok := hok
  guardTicks := hg
  timeout := ht
  line := by simp [hs, hline]
  past := by
    rw [hwire]
    exact hpast.snoc fun _ _ _ _ => Nat.le_refl now
  raised := by simp [hs]
  high _ := hhigh.snoc hline
  sent _ := by
    rw [hwire]
    exact ⟨now, Nat.le_refl now, hsince, hpast.snoc fun _ _ _ _ => Nat.le_refl now⟩
  once _ ha c hc := by
    rw [hwire, lastCopy_copy] at hc
    obtain rfl := Option.some.inj hc
    exact hone ha
  settled hlt _ := by
    rw [hwire]
    exact (hsettled hlt).snoc nofun
  sends := hsends.snoc fun _ => ⟨hline, hhigh⟩
  copies := by
    rw [hwire]
    exact hcopies.snoc ⟨hfirst, hsettled⟩

/-- The next frame is taken, perhaps after a retirement. -/
theorem lineInv_sendNext (evs : List HostWakeEvent) (hsz : Sized hw) (hp : hw.havePending = true) (hg : hw.guardTicks = g)
    (ht : hw.ackTimeoutTicks = t) (hhigh : HighFor g now log) (hsends : Throughout (SendFits g) log)
    (hwire : wireLog log ++ evs.map (now, ·) = wire) (hcopies : Throughout (CopyFits t) wire) (hpast : CopiedFor 0 now wire)
    (hsettled : 2 * t < 4294967296 → Settled t now wire) :
    LineInv g t now (hw.sendNext (u32 now)).1 (log ++ [⟨now, (hw.sendNext (u32 now)).2,
      evs ++ [.copy ⟨(hw.sendNext (u32 now)).2.cmd, (hw.sendNext (u32 now)).2.val⟩ (hw.sendNext (u32 now)).1.sendingLatest true]⟩]) := by
  have hkeep := keeps_sendNext hw (u32 now)
  have hfirst : true = false → CopiedFor t now wire := nofun
  have hwire' (out : HostWakeStep) (c : HostWakeEvent) : wireLog (log ++ [⟨now, out, evs ++ [c]⟩]) = wire ++ [(now, c)] := by
    rw [wireLog_snoc, List.map_append, ← List.append_assoc, hwire]
    rfl
  exact lineInv_copy (ok_sendNext hw (u32 now) hsz hp) (hkeep.guardTicks.trans hg) (hkeep.ackTimeoutTicks.trans ht) rfl rfl rfl
    hhigh hsends (hwire' _ _) hcopies hpast hfirst (fun _ => rfl) hsettled

/-- A frame is retired: nothing is left that waits for a quarantine, if its only copy was ACKed. -/
theorem lineInv_retired (h : LineInv g t now hw log) (hs : hw.state = .waitAck) (abandoned : Bool) :
    let wire := wireLog log ++ [(now, .retired hw.sendingLatest abandoned)]
    Throughout (CopyFits t) wire ∧ CopiedFor 0 now wire ∧
      (hw.attempts ≤ 1 → abandoned = false → 2 * t < 4294967296 → Settled t now wire) := by
  intro wire
  refine ⟨h.copies.snoc trivial, h.past.snoc nofun, fun hone hab hlt => ?_⟩
  have hone' : hw.attempts = 1 := Nat.le_antisymm hone (h.ok.copies hs).1
  refine (h.settled hlt (by simp [hs])).snoc fun led ab he τ first hl hr => ?_
  obtain ⟨-, rfl⟩ : hw.sendingLatest = led ∧ abandoned = ab := by simpa using he
  have hfirst : first = true := h.once hs hone' _ hl
  rcases hr with hr | hr
  · exact nomatch hfirst.symm.trans hr
  · exact nomatch hab.symm.trans hr

/-- Every step keeps the invariant. -/
theorem lineInv_stepsTo (h : LineInv g t now hw log) {r : HostWake × HostWakeStep} {lost : Bool}
    (hr : StepsTo hw (u32 now) r lost) : LineInv g t now r.1 (log ++ [⟨now, r.2, hw.eventsTo r⟩]) := by
  have hok := ok_stepsTo h.ok hr
  -- A step that sends nothing, by the state it leaves.
  have hquiet (line : Bool) (evs : List HostWakeEvent) : Throughout (SendFits g) (log ++ [⟨now, .quiet line, evs⟩]) :=
    h.sends.snoc (by rintro ⟨⟩)
  have hfree (hs : hw.state = .quarantine) (ht : u32 (2 * hw.ackTimeoutTicks) ≤ sub32 (u32 now) hw.since)
      (hlt : 2 * t < 4294967296) : Settled t now (wireLog log) := by
    obtain ⟨τ, hτ, hsince, hcopied⟩ := h.sent (.inr hs)
    rw [hsince, h.timeout, u32_of_lt hlt] at ht
    exact settled_of_copiedFor (hcopied.later hτ ht)
  cases hr with
  | stay hi =>
    rw [eventsTo_self]
    have hhigh {τ d : Nat} (hs : hw.state ≠ .idle) (hh : HighFor d τ log) :
        HighFor d τ (log ++ [⟨now, .quiet (decide (hw.state ≠ .idle)), []⟩]) := hh.snoc (decide_eq_true hs)
    refine ⟨hok, h.guardTicks, h.timeout, ?_, ?_, ?_, ?_, ?_, ?_, ?_, hquiet _ _, ?_⟩
    · simp [HostWakeStep.quiet]
    · simpa using h.past
    · intro hs
      obtain ⟨τ, hτ, hsince, hh⟩ := h.raised hs
      exact ⟨τ, hτ, hsince, hhigh (fun hn => by cases hs.symm.trans hn) hh⟩
    · intro hs
      refine hhigh (fun hn => ?_) (h.high hs)
      rcases hs with hs | hs <;> cases hs.symm.trans hn
    · simpa using h.sent
    · simpa using h.once
    · simpa using h.settled
    · simpa using h.copies
  | rise hs hp =>
    rw [eventsTo_rise]
    refine ⟨hok, h.guardTicks, h.timeout, ?_, ?_, ?_, ?_, ?_, by rintro ⟨⟩, ?_, hquiet _ _, ?_⟩
    · simp [HostWakeStep.quiet]
    · simpa using h.past
    · intro _
      refine ⟨now, Nat.le_refl now, rfl, log, _, [], rfl, Nat.le_refl now, ?_⟩
      simp [HostWakeStep.quiet]
    · simp
    · simp
    · intro hlt _
      simpa using h.settled hlt (by simp [hs])
    · simpa using h.copies
  | wake hs ht =>
    obtain ⟨τ, hτ, hsince, hh⟩ := h.raised hs
    rw [hsince, h.guardTicks] at ht
    rw [eventsTo_sendNext hw hw _ rfl]
    exact lineInv_sendNext [] h.ok.toSized (h.ok.guardPending hs) h.guardTicks h.timeout (hh.later hτ ht) h.sends (by simp)
      h.copies h.past fun hlt => h.settled hlt (by simp [hs])
  | free hs ht hp =>
    rw [eventsTo_sendNext hw hw _ rfl]
    exact lineInv_sendNext [] h.ok.toSized hp h.guardTicks h.timeout (h.high (.inr hs)) h.sends (by simp) h.copies h.past
      (hfree hs ht)
  | resend hs ht ha =>
    obtain ⟨τ, hτ, hsince, hcopied⟩ := h.sent (.inl hs)
    rw [hsince, h.timeout] at ht
    rw [eventsTo_transmit hw _ h.ok hs ha]
    have hcount : (hw.transmit (u32 now)).1.attempts = 1 → false = true := by
      obtain ⟨h1, -⟩ := h.ok.copies hs
      have hlt := h.ok.max_lt
      have hu : u8 (hw.attempts + 1) = hw.attempts + 1 := u8_of_lt (by omega)
      simp only [transmit, hu]
      omega
    exact lineInv_copy hok h.guardTicks h.timeout rfl rfl rfl (h.high (.inl hs)) h.sends (wireLog_snoc log _) h.copies h.past
      (fun _ => hcopied.later hτ ht) hcount fun hlt => h.settled hlt (by simp [hs])
  | discard hs abandoned ha hre =>
    obtain ⟨hcopies, hpast, -⟩ := lineInv_retired h hs abandoned
    have hset := settles_retiring hw abandoned
    rw [eventsTo_retired]
    refine ⟨hok, hset.guardTicks.trans h.guardTicks, hset.ackTimeoutTicks.trans h.timeout, ?_, ?_, by rintro ⟨⟩, ?_, ?_,
      by rintro ⟨⟩, ?_, hquiet _ _, ?_⟩
    · simp [HostWakeStep.quiet, inState]
    · simpa using hpast
    · intro _
      exact (h.high (.inl hs)).snoc rfl
    · intro _
      obtain ⟨τ, hτ, hsince, hcopied⟩ := h.sent (.inl hs)
      refine ⟨τ, hτ, hset.since.trans hsince, ?_⟩
      rw [wireLog_snoc]
      exact hcopied.snoc (by rintro _ _ _ ⟨⟩)
    · simp [inState]
    · simpa using hcopies
  | finish hs ha hre hp =>
    obtain ⟨hcopies, hpast, hsettled⟩ := lineInv_retired h hs false
    have hset := settles_retiring hw false
    rw [eventsTo_retired]
    refine ⟨hok, hset.guardTicks.trans h.guardTicks, hset.ackTimeoutTicks.trans h.timeout, ?_, ?_, by rintro ⟨⟩, ?_, ?_,
      by rintro ⟨⟩, ?_, hquiet _ _, ?_⟩
    · simp [HostWakeStep.quiet, inState]
    · simpa using hpast
    · simp [inState]
    · simp [inState]
    · intro hlt _
      simpa using hsettled hre rfl hlt
    · simpa using hcopies
  | follow hs ha hre hp =>
    obtain ⟨hcopies, hpast, hsettled⟩ := lineInv_retired h hs false
    have hset := settles_retiring hw false
    rw [eventsTo_follow]
    exact lineInv_sendNext [.retired hw.sendingLatest false] (sized_retiring hw false h.ok hs) hp
      (hset.guardTicks.trans h.guardTicks) (hset.ackTimeoutTicks.trans h.timeout) (h.high (.inl hs)) h.sends rfl hcopies hpast
      (hsettled hre rfl)
  | lower hs ht hp =>
    rw [eventsTo_inState]
    refine ⟨hok, h.guardTicks, h.timeout, ?_, ?_, by rintro ⟨⟩, ?_, ?_, by rintro ⟨⟩, ?_, hquiet _ _, ?_⟩
    · simp [HostWakeStep.quiet, inState]
    · simpa using h.past
    · simp [inState]
    · simp [inState]
    · intro hlt _
      simpa using hfree hs ht hlt
    · simpa using h.copies

theorem lineRun_inv {g t : Fin 4294967296} (h : LineRun g t m now hw log) : LineInv g t now hw log := by
  induction h with
  | init now => exact lineInv_init g t m now
  | enqueue cmd val _ ih => exact lineInv_enqueue ih cmd val
  | setLatest cmd val _ ih => exact ih.congr (ok_setLatest _ cmd val ih.ok) rfl rfl rfl rfl rfl
  | onAck _ ih => exact lineInv_onAck ih
  | clearLost _ ih => exact ih.congr { ih.ok with } rfl rfl rfl rfl rfl
  | step now' _ hle ih => exact lineInv_stepsTo (ih.mono hle) (stepsTo_step _ _)

end HostWake
end OpenController
