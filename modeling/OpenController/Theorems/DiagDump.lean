import OpenController.DiagDump
import OpenController.Theorems.DiagFrame

/-!
# A crash is not lost

What the counters of the power layer were when the watchdog reset the module is what the first whole dump after it shows, whatever
the module does until then: it goes on running, refuses dumps while it is connected, loses bytes of others, and is reset again.
-/

namespace OpenController

/-- A record that was left is still there, and the dumps show theirs. -/
structure Diag.Ok (d : Diag) : Prop where
  frozen : ∀ r ∈ d.crash, d.frozen = true ∧ d.pwr = r
  dumps : ∀ p ∈ d.dumps, ∃ s, decode p.2 = some (diagPayloadVersion, s) ∧ ∀ r ∈ p.1, s.pwrRecord = r

namespace Diag

variable {d : Diag}

theorem ok_powerOn (h : DiagPowerOn d) : d.Ok := by
  obtain ⟨d₀, status, hs, rfl⟩ := h
  refine ⟨fun r hr => ?_, fun p hp => absurd hp List.not_mem_nil⟩
  rw [boot, hs] at hr
  cases hr

theorem ok_boot (h : d.Ok) (status : BitVec 8) : (d.boot status).Ok := by
  refine ⟨fun r hr => ?_, h.dumps⟩
  cases hs : watchdogReset status with
  | false =>
    rw [boot, hs] at hr
    cases hr
  | true =>
    rw [boot, hs] at hr ⊢
    refine ⟨rfl, ?_⟩
    obtain rfl := Option.some.inj hr
    cases hc : d.crash with
    | none => rfl
    | some r => exact (h.frozen r hc).2

theorem ok_count (h : d.Ok) (f : PwrRecord → PwrRecord) : (d.count f).Ok := by
  rw [count]
  split
  · exact h
  · rename_i hf
    exact ⟨fun r hr => absurd (h.frozen r hr).1 hf, h.dumps⟩

/-- A dump shows the record that was left. -/
theorem ok_send (h : d.Ok) (sent : Nat) : (d.diagDumpSend sent).Ok := by
  rw [diagDumpSend]
  split
  · rename_i hsent
    refine ⟨nofun, fun p hp => ?_⟩
    rcases List.mem_append.mp hp with hp | hp
    · exact h.dumps p hp
    · obtain rfl := List.mem_singleton.mp hp
      refine ⟨d.snapshot, decode_iff_format.mpr (if_neg hsent.1), fun r hr => ?_⟩
      exact (h.frozen r hr).2
  · exact h

theorem ok_zero (h : d.Ok) : d.diagDumpZero.Ok := by
  rw [diagDumpZero]
  split
  · exact h
  · exact ⟨nofun, h.dumps⟩

theorem ok_run (h : DiagRun d) : d.Ok := by
  refine Reach.invariant (I := Ok) (fun _ h0 => ok_powerOn h0) (fun op d d' _ hd hop => ?_) h
  subst hop
  cases op with
  | boot status => exact ok_boot hd status
  | rf _ _ => exact ⟨hd.frozen, hd.dumps⟩
  | wfi | loopPass | stage _ | veto _ | sleepUntil _ =>
    rw [DiagOp.apply]
    exact ok_count hd _
  | fault _ => exact ⟨hd.frozen, hd.dumps⟩
  | send sent => exact ok_send hd sent
  | zero => exact ok_zero hd

end Diag

/-- As long as a record is left, the counters are what they were when the watchdog reset the module; and each whole dump is read as a
snapshot that shows the record that was left until then. -/
theorem dumps_show_the_crash {d : Diag} (h : DiagRun d) :
    (∀ r ∈ d.crash, d.pwr = r) ∧ ∀ p ∈ d.dumps, ∃ s, decode p.2 = some (diagPayloadVersion, s) ∧ ∀ r ∈ p.1, s.pwrRecord = r :=
  ⟨fun r hr => ((Diag.ok_run h).frozen r hr).2, (Diag.ok_run h).dumps⟩

theorem diagRun_foldl {d : Diag} (h : DiagRun d) (ops : List DiagOp) : DiagRun (ops.foldl (fun d op => op.apply d) d) := by
  induction ops generalizing d with
  | nil => exact h
  | cons op ops ih => exact ih (.step op h rfl)

/-- A keyboard without power. -/
def unpowered : Diag :=
  ⟨.idle, ⟨0, 0, 0, 0, 0, 0, 0, 0, 0, 0, 0, 0, 0, 0, 0, 0⟩, .zero, ⟨0, 0, 0, 0⟩, 0, false, none, []⟩

/-- It is powered on, the main loop makes two passes, and the watchdog resets the module. It goes on running, a dump loses bytes, the watchdog resets
it again, and then a dump gets out. -/
def crashedTwice : Diag :=
  [DiagOp.loopPass, .loopPass, .boot 2, .loopPass, .send 10, .wfi, .boot 2, .send 92].foldl (fun d op => op.apply d)
    (unpowered.boot 1)

/-- It shows the two passes. -/
theorem dumps_show_the_crash_twice : crashedTwice.dumps.length = 1 ∧
    ∀ p ∈ crashedTwice.dumps, ∃ s, decode p.2 = some (diagPayloadVersion, s) ∧ s.pwrLoopPasses = 2 := by
  have hrun : DiagRun crashedTwice := diagRun_foldl (.init ⟨unpowered, 1, rfl, rfl⟩) _
  refine ⟨by decide +kernel, fun p hp => ?_⟩
  obtain ⟨s, hs, hr⟩ := (dumps_show_the_crash hrun).2 p hp
  have hcrash : p.1 = some { PwrRecord.zero with loopPasses := 2 } := by
    have hall : ∀ p ∈ crashedTwice.dumps, p.1 = some { PwrRecord.zero with loopPasses := 2 } := by decide +kernel
    exact hall p hp
  exact ⟨s, hs, congrArg PwrRecord.loopPasses (hr _ hcrash)⟩

end OpenController
