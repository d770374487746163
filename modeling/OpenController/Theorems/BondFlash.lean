import OpenController.Lemmas.BondFlashAux
import OpenController.Lemmas.RfPairingAux

/-!
# A bond that was saved is loaded again

After a save and a reset the bond is what it was, and saving it again touches nothing, exactly when its session access address is
neither zero nor the one of the pairing channels. The callback takes any address from a packet, and the record of those two is never
valid.
-/

namespace OpenController

open Prog RfStatements

variable {st : EepromStatus} {b : Bond} {page : Nat → Byte}

/-! ## The bonds that are stored -/

/-- A connection starts with the session access address and the type tag of the offer. -/
theorem bond_rfEnterConnected {s : Rf} (hs : s.state = .pairing) : (rfEnterConnected.exec s).bond =
    { s.bond with storedSessionAa := s.pending.sessionAa, storedTypeTag := s.pending.typeTag } := by
  have htail (silentProbe : Bool) : Each (fun f => ∀ s : Rf, (f s).bond = s.bond) (do
      rfTmr0Stop
      let idx ← .read fun s => s.hop.prevDataIdx
      rfStartRx (dataChannels.getD idx 0)
      pficEnableTmr0
      rfStopTaskAtomic .disconnect
      rfStartTaskAtomic .disconnect rfConnectedTimeoutTicks
      announceSession silentProbe) := by simp
  rw [exec, rfEnterConnected, run_read_bind, whenever, if_pos hs, run_read_bind, run_bind]
  exact (htail _).view_run (v := Rf.bond) _

/-- A bond that was stored is one, and its session access address is a word. -/
theorem StoredBond.bounded (h : StoredBond b) : b.hasBond = true ∧ b.storedSessionAa < 4294967296 := by
  cases h with
  | @first s buf hp hb =>
    have hbond : (s.rf2g4StatusCallBack .rxData 0 (some buf)).bond = ⟨true, buf.dongleMac, buf.sessionAa, buf.typeTag⟩ := by
      rw [Rf.callback_pairs hp, Rf.onPairPacket]
      simp [hb, Rf.setEvent]
    rw [hbond]
    exact ⟨rfl, sessionAa_lt buf⟩
  | @session s buf hp hb hmac hi =>
    have hoffer : (s.rf2g4StatusCallBack .rxData 0 (some buf)).state = .pairing ∧
        (s.rf2g4StatusCallBack .rxData 0 (some buf)).bond = s.bond ∧
        (s.rf2g4StatusCallBack .rxData 0 (some buf)).pending.sessionAa = buf.sessionAa := by
      have hrange : ¬(buf.effInterval < 20 ∨ buf.effInterval > 40) := by omega
      rw [Rf.callback_pairs hp, Rf.onPairPacket]
      simp [hb, hmac, hrange, Rf.setEvent, hp.1]
    obtain ⟨hstate, hbond, haa⟩ := hoffer
    rw [bond_rfEnterConnected hstate, hbond, haa]
    exact ⟨hb, sessionAa_lt buf⟩

/-! ## Saving and loading -/

/-- What a bond that was saved should be: after a reset it is loaded as it was, and another save makes no call. -/
def Bond.Persists (st : EepromStatus) (b : Bond) (page : Nat → Byte) : Prop :=
  rfLoadBondFromFlash st (rfSaveBondToFlash st b page) rfClearBondRam = (b, true) ∧
    rfSaveBondOps st b (rfSaveBondToFlash st b page) = []

instance (st : EepromStatus) (b : Bond) (page : Nat → Byte) : Decidable (b.Persists st page) := inferInstanceAs (Decidable (_ ∧ _))

/-- With calls that succeed, whatever is in the page: a bond that a LEN-15 packet stored is loaded as it was after a save and a reset,
and saving it again makes no call, exactly when its session access address is neither zero nor that of the pairing channels. -/
theorem bond_persists (hst : st.Succeeds) (hb : StoredBond b) (page : Nat → Byte) :
    b.Persists st page ↔ b.storedSessionAa ≠ 0 ∧ b.storedSessionAa ≠ rfDefaultAccessAddr := by
  obtain ⟨hbond, haa⟩ := hb.bounded
  have hrec : RfBondRecord.ofPage (rfSaveBondToFlash st b page) = rfBuildBondRecord b := ofPage_save hst hbond haa
  have hvalid := rfBondRecordValid_build b
  have hread := hst.1
  constructor
  · rintro ⟨hload, -⟩
    rw [← hvalid]
    by_contra hinvalid
    rw [rfLoadBondFromFlash, if_neg (not_not.mpr hread), hrec, if_pos (by simpa using hinvalid)] at hload
    exact nomatch hload
  · intro hlegal
    have hvalid' := hvalid.mpr hlegal
    refine ⟨?_, ?_⟩
    · rw [rfLoadBondFromFlash, if_neg (not_not.mpr hread), hrec, if_neg (by simpa using hvalid')]
      simp [rfBuildBondRecord, ← hbond]
    · have hmatch : rfBondRecordMatches (rfBuildBondRecord b) (rfBuildBondRecord b) = true := beq_self_eq_true _
      simp [rfSaveBondOps, hbond, hread, hrec, hvalid', hmatch]

/-- A keyboard in its pairing window. -/
def pairingKeyboard : Rf := newKeyboard.after [.process, .command 0x30, .command 0x51]

/-- The offer of a dongle with a session access address that a record may have. -/
def legalOffer : RxBuf := fun i => if i = 1 then 15 else if i = 2 then 0x11 else 0

/-- It is stored over a page that held something else. -/
theorem bond_persists_rewritten :
    (pairingKeyboard.rf2g4StatusCallBack .rxData 0 (some legalOffer)).bond.Persists ⟨0, 0, 0⟩ fun i => BitVec.ofNat 8 i :=
  (bond_persists ⟨rfl, rfl, rfl⟩ (.first (s := pairingKeyboard) (by decide +kernel) (by decide +kernel)) _).mpr (by decide +kernel)

/-- The session access address that `offerPacket` offers is zero: after a reset there is no bond. -/
theorem bond_persists_false : ∃ b, StoredBond b ∧ ¬b.Persists ⟨0, 0, 0⟩ fun _ => 0xFF :=
  ⟨_, .first (show offerPacket.Pairs pairingKeyboard by decide +kernel) (by decide +kernel), by decide +kernel⟩

end OpenController
