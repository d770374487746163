import OpenController.Lib.Word
import Mathlib.Algebra.Ring.Nat

/-!
# The bond, and its record in flash

The bond is the dongle a keyboard is paired with and the parameters of the last session. It is kept in a 24-byte record
(`rf_bond_record_t`) at the start of a page of DataFlash.
-/

namespace OpenController

/-- A six-byte address. -/
abbrev Mac := Vector Byte 6

/-- `mac_equal`. -/
def macEqual (a b : Mac) : Bool := a == b

/-- The bytes of a number, lowest first. -/
def leBytes : Nat → Nat → List Byte
  | 0, _ => []
  | n + 1, x => BitVec.ofNat 8 x :: leBytes n (x / 256)

/-- The number some bytes stand for, lowest first. -/
def leNat : List Byte → Nat
  | [] => 0
  | b :: l => b.toNat + 256 * leNat l

/-- `has_bond` and the `stored_` variables. -/
structure Bond where
  hasBond : Bool
  storedDongleMac : Mac
  storedSessionAa : Nat
  storedTypeTag : Byte
  deriving DecidableEq, Repr

/-- The access address of the pairing channels (`RF_DEFAULT_ACCESS_ADDR`). -/
def rfDefaultAccessAddr : Nat := 0x71764126

/-- `RF_BOND_MAGIC`. -/
def rfBondMagic : Nat := 0x3244424b

/-- `RF_BOND_VERSION`. -/
def rfBondVersion : Byte := 1

/-- The size of the bond page (`RF_BOND_EEPROM_ERASE_LEN`). -/
def rfBondEepromEraseLen : Nat := 256

/-- `rf_bond_record_t`. -/
structure RfBondRecord where
  magic : Nat
  version : Byte
  typeTag : Byte
  reserved0 : Nat
  sessionAa : Nat
  dongleMac : Mac
  reserved1 : Nat
  checksum : Nat
  deriving DecidableEq, Repr

namespace RfBondRecord

/-- The bytes of the record before its checksum. -/
def body (rec : RfBondRecord) : List Byte :=
  leBytes 4 rec.magic ++ [rec.version, rec.typeTag] ++ leBytes 2 rec.reserved0 ++ leBytes 4 rec.sessionAa ++
    rec.dongleMac.toList ++ leBytes 2 rec.reserved1

/-- The bytes of the record. -/
def bytes (rec : RfBondRecord) : List Byte := rec.body ++ leBytes 4 rec.checksum

/-- The record at the start of a page. -/
def ofPage (page : Nat → Byte) : RfBondRecord where
  magic := leNat [page 0, page 1, page 2, page 3]
  version := page 4
  typeTag := page 5
  reserved0 := leNat [page 6, page 7]
  sessionAa := leNat [page 8, page 9, page 10, page 11]
  dongleMac := Vector.ofFn fun i => page (12 + i)
  reserved1 := leNat [page 18, page 19]
  checksum := leNat [page 20, page 21, page 22, page 23]

end RfBondRecord

/-- `rf_bond_checksum`. -/
def rfBondChecksum (rec : RfBondRecord) : Nat := u32 ((rec.body.map (·.toNat)).sum)

/-- `rf_bond_record_valid`. -/
def rfBondRecordValid (rec : RfBondRecord) : Bool :=
  if rec.magic ≠ rfBondMagic ∨ rec.version ≠ rfBondVersion then false
  else if rec.checksum ≠ rfBondChecksum rec then false
  else if rec.sessionAa = 0 ∨ rec.sessionAa = rfDefaultAccessAddr then false
  else true

/-- `rf_build_bond_record`. -/
def rfBuildBondRecord (b : Bond) : RfBondRecord :=
  let rec_ : RfBondRecord :=
    { magic := rfBondMagic, version := rfBondVersion, typeTag := b.storedTypeTag, reserved0 := 0,
      sessionAa := b.storedSessionAa, dongleMac := b.storedDongleMac, reserved1 := 0, checksum := 0 }
  { rec_ with checksum := rfBondChecksum rec_ }

/-- `rf_bond_record_matches`. -/
def rfBondRecordMatches (a b : RfBondRecord) : Bool := a.bytes == b.bytes

/-- `rf_bond_flash_is_erased`. -/
def rfBondFlashIsErased (rec : RfBondRecord) : Bool := rec.bytes.all (· == 0xff)

/-- What the DataFlash calls answer, 0 for success. -/
structure EepromStatus where
  read : Nat
  erase : Nat
  write : Nat
  deriving DecidableEq, Repr

/-- `EEPROM_ERASE` of the bond page. -/
def eepromErase (st : EepromStatus) (page : Nat → Byte) : Nat → Byte := if st.erase = 0 then fun _ => 0xff else page

/-- `EEPROM_WRITE` of a record: a write only clears bits. -/
def eepromWrite (st : EepromStatus) (rec : RfBondRecord) (page : Nat → Byte) : Nat → Byte :=
  if st.write = 0 then fun i => if i < rec.bytes.length then page i &&& rec.bytes.getD i 0 else page i else page

/-- `rf_load_bond_from_flash`: the second component is what it returns. -/
def rfLoadBondFromFlash (st : EepromStatus) (page : Nat → Byte) (b : Bond) : Bond × Bool :=
  if st.read ≠ 0 then (b, false)
  else
    let rec_ := RfBondRecord.ofPage page
    if !rfBondRecordValid rec_ then (b, false)
    else ({ hasBond := true, storedDongleMac := rec_.dongleMac, storedSessionAa := rec_.sessionAa,
            storedTypeTag := rec_.typeTag }, true)

/-- `rf_save_bond_to_flash`: the bond page after it. -/
def rfSaveBondToFlash (st : EepromStatus) (b : Bond) (page : Nat → Byte) : Nat → Byte :=
  if !b.hasBond then page
  else
    let want := rfBuildBondRecord b
    let cur := RfBondRecord.ofPage page
    let haveCur := st.read = 0
    if haveCur ∧ rfBondRecordValid cur ∧ rfBondRecordMatches cur want then page
    else if ¬haveCur ∨ ¬rfBondFlashIsErased cur then
      if st.erase ≠ 0 then page else eepromWrite st want (eepromErase st page)
    else eepromWrite st want page

/-- `rf_clear_bond_ram`. -/
def rfClearBondRam : Bond :=
  { hasBond := false, storedDongleMac := Vector.replicate 6 0, storedSessionAa := 0, storedTypeTag := 0 }

end OpenController
