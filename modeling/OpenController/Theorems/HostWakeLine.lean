import OpenController.Lemmas.HostWakeLineRun

/-!
# CHWAKE is high for the guard time before a frame

Before a frame goes out CHWAKE has been high for the guard time, resends are an ACK timeout apart, and after a resend or an
abandoned frame the wire is quiet for two. The counter may wrap, and steps may be arbitrarily far apart.
-/

namespace OpenController

open HostWake

/-- For every run at nondecreasing times: (a) a step that sends drives CHWAKE high, and an earlier step was at least `guardTicks`
before it, since which every step has driven CHWAKE high; (b) two copies of the same frame are at least `ackTimeoutTicks` apart;
(c) once a frame that was sent more than once or abandoned is retired, nothing is sent until two ACK timeouts after its last copy,
as long as the counter can tell them; (d) CHWAKE is low exactly when the machine is in its idle state; (e) when it is idle besides,
CHWAKE is low and nothing is queued, pending or outstanding. -/
theorem hostWake_line (g t : Fin 4294967296) (m : Fin 256) (now : Nat) (hw : HostWake) (log : List StepEntry)
    (h : LineRun g t m now hw log) :
    (∀ a e b, log = a ++ e :: b → e.out.send = true → e.out.line = true ∧
      ∃ p s q, a = p ++ s :: q ∧ s.time + g.val ≤ e.time ∧ ∀ x ∈ s :: q, x.out.line = true) ∧
    (∀ a τ f led first b τ' f' led' c,
      wireLog log = a ++ (τ, .copy f led first) :: b ++ (τ', .copy f' led' false) :: c →
      (∀ σ f'' led'', (σ, .copy f'' led'' true) ∉ b) → τ + t.val ≤ τ') ∧
    (2 * t.val < 4294967296 → ∀ a ρ led abandoned b τ' f led' first c,
      wireLog log = a ++ (ρ, .retired led abandoned) :: b ++ (τ', .copy f led' first) :: c →
      ∀ τ once, lastCopy a = some (τ, once) → once = false ∨ abandoned = true → τ + 2 * t.val ≤ τ') ∧
    (hw.state = .idle ↔ lastLine log = false) ∧
    (hw.isIdle = true → lastLine log = false ∧ hw.count = 0 ∧ hw.latestPending = false ∧ hw.current = none) := by
  have hinv := lineRun_inv h
  refine ⟨fun a e b he => hinv.sends a e b he, ?_, ?_, hinv.line, fun hi => ?_⟩
  · intro a τ f led first b τ' f' led' c he _
    obtain ⟨hresend, -⟩ := hinv.copies _ (τ', .copy f' led' false) c he
    exact hresend rfl τ f led first (by simp)
  · intro hlt a ρ led abandoned b τ' f led' first c he τ once hl hr
    obtain ⟨-, hsettled⟩ := hinv.copies _ (τ', .copy f led' first) c he
    exact hsettled hlt a ρ led abandoned b rfl τ once hl hr
  · rw [isIdle, Bool.and_eq_true, decide_eq_true_eq, Bool.not_eq_true', havePending, Bool.or_eq_false_iff] at hi
    obtain ⟨hs, hcount, hpend⟩ := hi
    exact ⟨hinv.line.mp hs, by simpa using hcount, hpend, by simp [current, hs]⟩

/-- The counter wraps during the guard time; the frame is sent twice, and the next one waits for the quarantine. -/
theorem hostWake_line_wrap : ∃ hw log, LineRun 10 100 3 4294967600 hw log ∧
    wireLog log = [(4294967300, .copy ⟨0x5B, 0x32⟩ false true), (4294967400, .copy ⟨0x5B, 0x32⟩ false false),
      (4294967410, .retired false false), (4294967600, .copy ⟨0x5B, 0x33⟩ false true)] ∧
    4294967400 + 2 * 100 ≤ 4294967600 := by
  have h0 := LineRun.enqueue 0x5B 0x32 (.init (g := 10) (t := 100) (m := 3) 4294967290)
  have h1 := ((h0.step 4294967290 (by decide)).step 4294967300 (by decide)).step 4294967400 (by decide)
  have h2 := ((h1.onAck.step 4294967410 (by decide)).enqueue 0x5B 0x33).step 4294967600 (by decide)
  obtain ⟨-, -, hquarantine, -, -⟩ := hostWake_line 10 100 3 _ _ _ h2
  refine ⟨_, _, h2, by decide +kernel, ?_⟩
  exact hquarantine (by decide) [(4294967300, .copy ⟨0x5B, 0x32⟩ false true), (4294967400, .copy ⟨0x5B, 0x32⟩ false false)]
    4294967410 false false [] 4294967600 ⟨0x5B, 0x33⟩ false true [] (by decide +kernel) 4294967400 false rfl (.inl rfl)

end OpenController
