import OpenController.Lemmas.MainUpdateRun

/-!
# A firmware update loses no fresh bond

When the update is requested, every bond that was owed a save when `OpenBoot_Service` took the link down has been saved, as long
as no save was given up before, and none is queued then. It fails otherwise: `update_keeps_the_bond_false`.
-/

namespace OpenController

variable {board : Board} {m : Main}

/-- However interrupts run into the main loop, as long as no teardown and no silent probe finds a save pending, and no
`RF_EVT_SAVE_BOND` is queued when the update is requested: at the end, no bond of a session from before `OpenBoot_Service` took
the link down is left unsaved. -/
theorem update_keeps_the_bond (h : MainReach board (MainOp.KeepsSave board) m) (hu : m.updated = true) : m.log.due = none :=
  (savesOk_reach h).ended hu

/-- The first poll of a session is caught, and the turnaround timer fires before the next pass; in it the host asks for an
update, and the link is taken down. -/
def pollThenUpdate : List MainInput :=
  mainConnectUp ++ [.interrupt (.poll 0), .interrupt .tmr0Cycle, .interrupt .tmr0Irq,
    RfOp.input (.command 0x81), .call (.openBootService false 0)]

/-- The UART takes two passes to drain, and the bond is saved in the second. -/
theorem update_keeps_the_bond_slowly :
    let m := (mainInit newKeyboard).after clockedBoard (pollThenUpdate ++ [.process, .call (.openBootService false 1),
      .process, .call (.openBootService true 2)])
    m.updated = true ∧ m.log.due = none := by
  intro m
  have h : MainReach clockedBoard (MainOp.KeepsSave clockedBoard) m :=
    MainReach.after (.init ⟨_, ⟨_, _, _, _, rfl⟩, rfl⟩) (by decide +kernel)
  have hu : m.updated = true := by decide +kernel
  exact ⟨hu, update_keeps_the_bond h hu⟩

/-- The UART has drained by the next pass, whose event is the response to the poll: the update is requested with
`RF_EVT_SAVE_BOND` queued, and the bond was not saved. -/
theorem update_keeps_the_bond_false : ∃ m, MainReach clockedBoard (fun _ _ => True) m ∧ m.updated = true ∧
    m.log.due = some m.rf.bond.storedDongleMac := by
  refine ⟨(mainInit newKeyboard).after clockedBoard (pollThenUpdate ++ [.process, .call (.openBootService true 1)]), ?_, ?_, ?_⟩
  · exact MainReach.after (.init ⟨_, ⟨_, _, _, _, rfl⟩, rfl⟩) (by decide +kernel)
  · decide +kernel
  · decide +kernel

end OpenController
