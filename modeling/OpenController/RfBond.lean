import OpenController.RfCatch

/-!
# The save of a fresh bond

A session that is not a silent probe owes the flash its bond. The debt is a flag (`bond_save_pending`) until the first poll, and a
queued `RF_EVT_SAVE_BOND` from then on.
-/

namespace OpenController

/-- One state after another: the debt is the same, the bond is kept, and a save that was pending is pending or queued. -/
@[mk_iff]
structure Rf.BondStep (s t : Rf) : Prop where
  owed : t.log.owed = s.log.owed
  bond : s.bond.hasBond = true → t.bond.hasBond = true ∧ t.bond.storedDongleMac = s.bond.storedDongleMac
  pending : t.bondSavePending = s.bondSavePending ∨ t.bondSavePending = false ∧ t.tmos.waits .saveBond = true
  waits : s.tmos.waits .saveBond = true → t.tmos.waits .saveBond = true

/-- The debt is for the bond. -/
def Rf.OwesBond (s : Rf) : Prop := ∀ mac ∈ s.log.owed, s.bond.hasBond = true ∧ s.bond.storedDongleMac = mac

/-- The debt is for the bond, and its save is pending or queued. If `d` it is queued. -/
structure Rf.SaveOk (d : Prop) (s : Rf) : Prop where
  known : s.OwesBond
  posted : s.log.owed ≠ none → s.bondSavePending = true ∨ s.tmos.waits .saveBond = true
  due : d → s.tmos.waits .saveBond = true

/-- No save is pending: what is owed is queued. -/
def Rf.SaveIdle (d : Prop) (s : Rf) : Prop := s.SaveOk d ∧ s.bondSavePending = false

/-- A statement that is such a step. -/
def BondStmt (f : Rf → Rf) : Prop := ∀ s : Rf, s.BondStep (f s)

/-- A statement that is such a step when no save is pending. -/
def IdleStmt (f : Rf → Rf) : Prop := ∀ s : Rf, s.bondSavePending = false → s.BondStep (f s)

/-- A teardown, or the start of a silent probe's session, finds no save pending. -/
def RfEvt.GivesUpNothing (s : Rf) : RfEvt → Prop
  | .disconnect => s.state = .connected → s.bondSavePending = false
  | .enterConnected => s.state = .pairing → s.rest.probe = true → s.rest.probeWake = false → s.bondSavePending = false
  | _ => True

instance (s : Rf) (e : RfEvt) : Decidable (e.GivesUpNothing s) := by
  cases e <;> first | exact instDecidableTrue | exact inferInstanceAs (Decidable (_ → _))

/-- The command takes the link down, and the bond stays: the host selects another transport. -/
def LeavesLink (cmd sub : Byte) : Prop := cmd = 0xA6 ∧ (sub = 0x11 ∨ sub = 0x31 ∨ sub = 0x32 ∨ sub = 0x33)

instance (cmd sub : Byte) : Decidable (LeavesLink cmd sub) := inferInstanceAs (Decidable (_ ∧ _))

end OpenController
