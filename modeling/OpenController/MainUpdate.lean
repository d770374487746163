import OpenController.MainLoop
import OpenController.RfBond

/-!
# The bond before a firmware update

`OpenBoot_Service` saves what `bond_save_pending` says before it takes the link down, and requests the update once the UART has
drained. A save that the first poll has already turned into a queued event is not looked at again.
-/

namespace OpenController

/-- The UART has drained, or had its time. -/
def Main.Drained (board : Board) (fifoIdle : Bool) (now : Nat) (m : Main) : Prop :=
  fifoIdle = true ∨ ¬sub32 now m.openboot.start < rtcClockTicksUs board 20000

instance (board : Board) (fifoIdle : Bool) (now : Nat) (m : Main) : Decidable (m.Drained board fifoIdle now) :=
  inferInstanceAs (Decidable (_ ∨ _))

/-- No save that is pending is given up, and none is queued when the update is requested. -/
def MainOp.KeepsSave (board : Board) (op : MainOp) (m : Main) : Prop :=
  match op with
  | .call (.frame cmd sub _) => LeavesLink cmd sub → m.rf.bondSavePending = false
  | .call (.openBootService fifoIdle now) =>
    m.openboot.state ≠ 0 → m.Drained board fifoIdle now → m.rf.tmos.waits .saveBond = false
  | .event (some e) u => e.GivesUpNothing u.rf
  | _ => True

instance (board : Board) (op : MainOp) (m : Main) : Decidable (op.KeepsSave board m) :=
  match op with
  | .call (.frame cmd sub _) => inferInstanceAs (Decidable (LeavesLink cmd sub → m.rf.bondSavePending = false))
  | .call (.openBootService fifoIdle now) => inferInstanceAs (Decidable
      (m.openboot.state ≠ 0 → m.Drained board fifoIdle now → m.rf.tmos.waits .saveBond = false))
  | .event (some e) u => inferInstanceAs (Decidable (e.GivesUpNothing u.rf))
  | .call .connectedTick | .call .ledResync | .call (.powerService ..) | .call (.lowPower ..) | .call .other
  | .event none _ => instDecidableTrue

/-- The debt of a session is in order, and after the end none from before `OpenBoot_Service` took the link down is left. If `c`
no save is pending. -/
structure Main.SavesOk (c : Prop) (m : Main) : Prop where
  catches : m.rf.CatchOk
  saves : m.rf.SaveOk (m.log.due ≠ none)
  idle : c → m.rf.bondSavePending = false
  ended : m.updated = true → m.log.due = none

end OpenController
