import Mathlib.Data.Nat.Notation

/-!
# Machine words

The fixed-width unsigned integers of C, as natural numbers reduced after each operation. A byte whose bits are read or written
is a `BitVec 8`.
-/

namespace OpenController

/-- A byte of data (`uint8_t`). -/
abbrev Byte := BitVec 8

/-- A value stored in a `uint8_t`. -/
def u8 (n : Nat) : Nat := n % 256

/-- A value stored in a `uint16_t`. -/
def u16 (n : Nat) : Nat := n % 65536

/-- A value stored in a `uint32_t`. -/
def u32 (n : Nat) : Nat := n % 4294967296

/-- The difference of two `uint8_t` values, stored in a `uint8_t`. -/
def sub8 (a b : Nat) : Nat := (a + 256 - b % 256) % 256

/-- The difference of two `uint32_t` values, stored in a `uint32_t`. -/
def sub32 (a b : Nat) : Nat := (a + 4294967296 - b % 4294967296) % 4294967296

theorem u8_of_lt {n : Nat} (h : n < 256) : u8 n = n := Nat.mod_eq_of_lt h

theorem u32_of_lt {n : Nat} (h : n < 4294967296) : u32 n = n := Nat.mod_eq_of_lt h

/-- A free-running counter never shows more than the time that has passed. -/
theorem sub32_le {s t : Nat} (h : s ≤ t) : sub32 (u32 t) (u32 s) ≤ t - s := by
  simp only [sub32, u32]
  omega

end OpenController
