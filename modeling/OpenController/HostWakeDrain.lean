import OpenController.HostQueue

/-!
# Draining host wake

Before the module sleeps, and before the bootloader, host wake is stepped until it is idle, with nothing more offered to it. The
frames that are owed are counted, and the runs of such steps: time moves by at most one tick from a step to the next, and the host
may ACK at any moment.
-/

namespace OpenController
namespace HostWake

/-- The frames that have not been sent, or are the outstanding queued frame. -/
def pending (hw : HostWake) : Nat := hw.count + hw.latestPending.toNat

/-- An LED frame is outstanding, or the quarantine of the last frame is not over. -/
def settling (hw : HostWake) : Bool :=
  decide (hw.state = .waitAck) && hw.sendingLatest || decide (hw.state = .quarantine)

/-- The frames the machine is not done with. -/
def owed (hw : HostWake) : Nat := hw.pending + hw.settling.toNat

/-- The most ticks one frame takes: every attempt times out, and the quarantine ends two ACK timeouts after the last of them. -/
def frameTicks (hw : HostWake) : Nat := (hw.maxAttempts + 1) * hw.ackTimeoutTicks

/-- The machine `time` ticks after the first of a run of steps, which is at the time `start`: from a step to the next there is at
most one tick, nothing is offered, and ACKs arrive in any pattern. -/
inductive Drains (hw₀ : HostWake) (start : Nat) : Nat → HostWake → Prop where
  | first {hw} (h : hw = hw₀ ∨ hw = hw₀.onAck) : Drains hw₀ start 0 (hw.step (u32 start)).1
  | onAck {time hw} : Drains hw₀ start time hw → Drains hw₀ start time hw.onAck
  | step {time time' hw} : Drains hw₀ start time hw → time ≤ time' → time' ≤ time + 1 →
      Drains hw₀ start time' (hw.step (u32 (start + time'))).1

/-- A step at every tick, and no ACK. -/
def stepped (hw : HostWake) (start : Nat) : Nat → HostWake
  | 0 => (hw.step (u32 start)).1
  | time + 1 => ((hw.stepped start time).step (u32 (start + (time + 1)))).1

theorem drains_stepped (hw : HostWake) (start time : Nat) : Drains hw start time (hw.stepped start time) := by
  induction time with
  | zero => exact .first (.inl rfl)
  | succ time ih => exact ih.step (Nat.le_succ time) (Nat.le_refl _)

end HostWake
end OpenController
