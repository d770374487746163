import OpenController.BondFlash
import OpenController.Lemmas.RfStatements
import Mathlib.Data.List.GetD

/-!
# Records and bytes

A record that was written to a page is the record that is read from it: the bytes of a number stand for it, and the bytes of a
record are its fields in their order.
-/

namespace OpenController

/-! ## Numbers -/

@[simp] theorem length_leBytes (n x : Nat) : (leBytes n x).length = n := by
  induction n generalizing x with
  | zero => rfl
  | succ n ih => rw [leBytes, List.length_cons, ih]

theorem leNat_leBytes {n x : Nat} (h : x < 256 ^ n) : leNat (leBytes n x) = x := by
  induction n generalizing x with
  | zero =>
    rw [Nat.pow_zero, Nat.lt_one_iff] at h
    rw [h]
    rfl
  | succ n ih =>
    rw [Nat.pow_succ] at h
    rw [leBytes, leNat, ih (by omega), BitVec.toNat_ofNat]
    omega

theorem leNat_lt (l : List Byte) : leNat l < 256 ^ l.length := by
  induction l with
  | nil => exact Nat.one_pos
  | cons b l ih =>
    have hb := b.isLt
    rw [leNat, List.length_cons, Nat.pow_succ]
    omega

theorem leBytes_leNat (l : List Byte) : leBytes l.length (leNat l) = l := by
  induction l with
  | nil => rfl
  | cons b l ih =>
    have hb := b.isLt
    have hlow : BitVec.ofNat 8 (b.toNat + 256 * leNat l) = b := by
      apply BitVec.eq_of_toNat_eq
      rw [BitVec.toNat_ofNat]
      omega
    have hhigh : (b.toNat + 256 * leNat l) / 256 = leNat l := by omega
    rw [List.length_cons, leNat, leBytes, hlow, hhigh, ih]

/-! ## Records -/

attribute [ext] RfBondRecord

namespace RfBondRecord

/-- The fields hold what their types can. -/
structure Bounded (rec : RfBondRecord) : Prop where
  magic : rec.magic < 256 ^ 4
  reserved0 : rec.reserved0 < 256 ^ 2
  sessionAa : rec.sessionAa < 256 ^ 4
  reserved1 : rec.reserved1 < 256 ^ 2
  checksum : rec.checksum < 256 ^ 4

theorem bounded_ofPage (page : Nat → Byte) : (ofPage page).Bounded :=
  ⟨leNat_lt _, leNat_lt _, leNat_lt _, leNat_lt _, leNat_lt _⟩

@[simp] theorem length_bytes (rec : RfBondRecord) : rec.bytes.length = 24 := by simp [bytes, body]

/-- The bytes of a record determine it. -/
theorem bytes_injective {a b : RfBondRecord} (ha : a.Bounded) (hb : b.Bounded) (h : a.bytes = b.bytes) : a = b := by
  simp only [bytes, body, List.append_assoc] at h
  obtain ⟨hmagic, h⟩ := List.append_inj h (by simp)
  obtain ⟨htag, h⟩ := List.append_inj h (by simp)
  obtain ⟨hres0, h⟩ := List.append_inj h (by simp)
  obtain ⟨haa, h⟩ := List.append_inj h (by simp)
  obtain ⟨hmac, h⟩ := List.append_inj h (by simp)
  obtain ⟨hres1, hsum⟩ := List.append_inj h (by simp)
  have hval {n x y : Nat} (hx : x < 256 ^ n) (hy : y < 256 ^ n) (he : leBytes n x = leBytes n y) : x = y := by
    rw [← leNat_leBytes hx, he, leNat_leBytes hy]
  obtain ⟨hver, htag⟩ : a.version = b.version ∧ a.typeTag = b.typeTag := by simpa using htag
  exact RfBondRecord.ext (hval ha.magic hb.magic hmagic) hver htag (hval ha.reserved0 hb.reserved0 hres0)
    (hval ha.sessionAa hb.sessionAa haa) (Vector.toList_inj.mp hmac) (hval ha.reserved1 hb.reserved1 hres1)
    (hval ha.checksum hb.checksum hsum)

/-- The bytes of the record at the start of a page are the bytes there. -/
theorem bytes_ofPage (page : Nat → Byte) : (ofPage page).bytes = (List.range 24).map page := by
  have h4 (a b c d : Byte) : leBytes 4 (leNat [a, b, c, d]) = [a, b, c, d] := leBytes_leNat [a, b, c, d]
  have h2 (a b : Byte) : leBytes 2 (leNat [a, b]) = [a, b] := leBytes_leNat [a, b]
  simp only [bytes, body, ofPage, h4, h2]
  rfl

end RfBondRecord

/-! ## The page -/

/-- A record written over set bits is there. -/
theorem map_eepromWrite {st : EepromStatus} (hw : st.write = 0) (rec : RfBondRecord) {page : Nat → Byte}
    (hones : ∀ i < 24, page i = 0xff) : (List.range 24).map (eepromWrite st rec page) = rec.bytes := by
  have hall (b : Byte) : 0xff &&& b = b := BitVec.allOnes_and
  apply List.ext_getElem
  · simp
  · intro i hi hi'
    have hlt : i < 24 := by simpa using hi
    rw [List.getElem_map, List.getElem_range, eepromWrite, if_pos hw, if_pos hi', hones i hlt, hall, List.getD_eq_getElem _ _ hi']

/-- A page that reads as erased has its bits set. -/
theorem ones_of_erased {page : Nat → Byte} (h : rfBondFlashIsErased (.ofPage page) = true) : ∀ i < 24, page i = 0xff := by
  intro i hi
  rw [rfBondFlashIsErased, RfBondRecord.bytes_ofPage, List.all_eq_true] at h
  exact beq_iff_eq.mp (h (page i) (List.mem_map.mpr ⟨i, List.mem_range.mpr hi, rfl⟩))

/-! ## Saving and loading -/

section

variable {st : EepromStatus} {b : Bond} {page : Nat → Byte}

theorem bounded_build (b : Bond) (haa : b.storedSessionAa < 4294967296) : (rfBuildBondRecord b).Bounded :=
  ⟨(by decide : rfBondMagic < 256 ^ 4), Nat.succ_pos _, haa, Nat.succ_pos _, Nat.mod_lt _ (by decide)⟩

/-- After a save the record is at the start of the page, whatever was there before. -/
theorem ofPage_save (hst : st.Succeeds) (hb : b.hasBond = true) (haa : b.storedSessionAa < 4294967296) :
    RfBondRecord.ofPage (rfSaveBondToFlash st b page) = rfBuildBondRecord b := by
  obtain ⟨hr, he, hw⟩ := hst
  refine RfBondRecord.bytes_injective (RfBondRecord.bounded_ofPage _) (bounded_build b haa) ?_
  unfold rfSaveBondToFlash
  simp only [hb, hr, he, Bool.not_true, Bool.false_eq_true, if_false, not_true, false_or]
  split
  · rename_i hsame
    exact beq_iff_eq.mp hsame.2.2
  · split
    · rw [RfBondRecord.bytes_ofPage]
      exact map_eepromWrite hw _ fun i _ => by rw [eepromErase, if_pos he]
    · rename_i herased
      rw [RfBondRecord.bytes_ofPage]
      exact map_eepromWrite hw _ (ones_of_erased (not_not.mp herased))

/-- A record's checksum is not about the checksum in it. -/
theorem rfBondChecksum_checksum (rec : RfBondRecord) (checksum : Nat) :
    rfBondChecksum { rec with checksum := checksum } = rfBondChecksum rec := rfl

/-- The record of a bond is valid, except for the two session addresses that no record may have. -/
theorem rfBondRecordValid_build (b : Bond) : rfBondRecordValid (rfBuildBondRecord b) = true ↔
    b.storedSessionAa ≠ 0 ∧ b.storedSessionAa ≠ rfDefaultAccessAddr := by
  have hsum : (rfBuildBondRecord b).checksum = rfBondChecksum (rfBuildBondRecord b) := (rfBondChecksum_checksum _ _).symm
  have haa : (rfBuildBondRecord b).sessionAa = b.storedSessionAa := rfl
  have hkind : ¬((rfBuildBondRecord b).magic ≠ rfBondMagic ∨ (rfBuildBondRecord b).version ≠ rfBondVersion) := by
    simp [rfBuildBondRecord]
  rw [rfBondRecordValid, if_neg hkind, if_neg (not_not.mpr hsum), haa]
  simp

end

end OpenController
