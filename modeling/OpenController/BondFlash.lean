import OpenController.RfTask

/-!
# The bonds that reach flash

The bonds that a LEN-15 packet can store, and the DataFlash calls that saving one makes.
-/

namespace OpenController

/-- A DataFlash call that changes the bond page. -/
inductive EepromOp where
  | erase
  | write (rec : RfBondRecord)
  deriving DecidableEq, Repr

/-- What the call does to the page. -/
def EepromOp.apply (st : EepromStatus) (page : Nat → Byte) (op : EepromOp) : Nat → Byte :=
  match op with
  | .erase => eepromErase st page
  | .write rec => eepromWrite st rec page

/-- The calls that `rf_save_bond_to_flash` makes. -/
def rfSaveBondOps (st : EepromStatus) (b : Bond) (page : Nat → Byte) : List EepromOp :=
  if !b.hasBond then []
  else
    let want := rfBuildBondRecord b
    let cur := RfBondRecord.ofPage page
    let haveCur := st.read = 0
    if haveCur ∧ rfBondRecordValid cur ∧ rfBondRecordMatches cur want then []
    else if ¬haveCur ∨ ¬rfBondFlashIsErased cur then
      if st.erase ≠ 0 then [.erase] else [.erase, .write want]
    else [.write want]

/-- They are what it does to the page. -/
theorem rfSaveBondToFlash_eq (st : EepromStatus) (b : Bond) (page : Nat → Byte) :
    rfSaveBondToFlash st b page = (rfSaveBondOps st b page).foldl (EepromOp.apply st) page := by
  unfold rfSaveBondToFlash rfSaveBondOps
  dsimp only
  split
  · rfl
  · split
    · rfl
    · split
      · split
        · rename_i he
          simp [EepromOp.apply, eepromErase, he]
        · rfl
      · rfl

/-- All DataFlash calls succeed. -/
def EepromStatus.Succeeds (st : EepromStatus) : Prop := st.read = 0 ∧ st.erase = 0 ∧ st.write = 0

/-- The packet is one that the pairing branch of the callback looks at. -/
def RxBuf.Pairs (buf : RxBuf) (s : Rf) : Prop := s.state = .pairing ∧ buf.len = 15 ∧ buf.typeTag < 5

instance (buf : RxBuf) (s : Rf) : Decidable (buf.Pairs s) := inferInstanceAs (Decidable (_ ∧ _ ∧ _))

/-- A bond that a LEN-15 packet can store: the first packet of a fresh pairing, or the packet of the bonded dongle that a connection
then starts with. -/
inductive StoredBond : Bond → Prop where
  | first {s : Rf} {buf : RxBuf} (h : buf.Pairs s) (hb : s.bond.hasBond = false) :
      StoredBond (s.rf2g4StatusCallBack .rxData 0 (some buf)).bond
  | session {s : Rf} {buf : RxBuf} (h : buf.Pairs s) (hb : s.bond.hasBond = true)
      (hmac : macEqual s.bond.storedDongleMac buf.dongleMac = true) (hi : 20 ≤ buf.effInterval ∧ buf.effInterval ≤ 40) :
      StoredBond (rfEnterConnected.exec (s.rf2g4StatusCallBack .rxData 0 (some buf))).bond

end OpenController
