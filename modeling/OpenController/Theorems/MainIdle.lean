import OpenController.Lemmas.MainIdleRun

/-!
# No wake is lost

Whatever comes while the module goes into the idle wait, the core does not begin to wait, or wakes at once.
-/

namespace OpenController

open Idle

/-- The core never waits with a wake left behind: it waits for an event, in a shallow sleep with interrupts masked, and the event
latch is set as soon as there is anything to wake for. -/
theorem idle_loses_no_wake {s : Idle} (h : IdleRun s) (hwaits : s.core ≠ .runs) :
    s.core = .waitsForEvent ∧ s.sleepDeep = false ∧ s.masked = true ∧ (s.event = true ∨ s.Quiet) := by
  have hok := ok_run h
  rcases hok.core with hc | ⟨hc, hpc, hd⟩
  · exact absurd hc hwaits
  have hnot : (s.core != .runs) = true := by rw [hc]; rfl
  refine ⟨hc, hd, by rw [hok.masked, hpc]; rfl, ?_⟩
  rcases hok.fifo (by rw [knowsFifo, hpc]; exact hnot) with he | hfifo
  · exact .inl he
  rcases hok.heartbeat (by rw [knowsHeartbeat, hpc]; exact hnot) with he | hbeat
  · exact .inl he
  · exact .inr ⟨hok.may (by rw [hpc]; decide), hok.rx (by rw [knowsRx, hpc]; exact hnot), hfifo, hbeat⟩

/-- Statements of the wait are done one after another. -/
theorem idleRun_steps {s : Idle} (h : IdleRun s) (n : Nat) (hcore : ∀ k < n, (Idle.step^[k] s).core = .runs) :
    IdleRun (Idle.step^[n] s) := by
  induction n with
  | zero => exact h
  | succ n ih =>
    rw [Function.iterate_succ_apply']
    exact .step (ih fun k hk => hcore k (Nat.lt_succ_of_lt hk)) (hcore n (Nat.lt_succ_self n))

/-- The loop stands before the idle wait, and nothing was received. -/
def beforeWait : Idle := { Idle.start ⟨fun _ => 0, 0, 0, false, .reset⟩ with pc := .mask }

/-- A byte is received while the core waits. -/
def byteInWait : Idle := (Idle.step^[10] beforeWait).receive 0x61

/-- It wakes the core. -/
theorem idle_loses_no_wake_byte : byteInWait.core = .waitsForEvent ∧ byteInWait.event = true := by
  have hrun : IdleRun byteInWait :=
    .receive (idleRun_steps (.enter (.start _) rfl rfl rfl) 10 (by decide)) 0x61
  obtain ⟨hcore, -, -, he | hquiet⟩ := idle_loses_no_wake hrun (by decide)
  · exact ⟨hcore, he⟩
  · exact absurd hquiet.fifo (by decide)

end OpenController
