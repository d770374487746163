import Mathlib.Logic.Function.Basic
import Mathlib.Data.Int.ModEq

/-!
# Circular arrays

A circular array of `N` slots is a function `Nat → α` read below `N`. `view slots N h n` is what it holds: `n` elements from
the index `h` on. The index may be kept below `N` (a head that wraps at `N`) or run free in a wider counter whose modulus is a
multiple of `N`: `view_mod` covers both.
-/

namespace OpenController.Ring

variable {α : Type _}

/-- The `n` elements from the index `h` on, of a circular array of `N` slots. -/
def view (slots : Nat → α) (N h n : Nat) : List α := (List.range n).map fun i => slots ((h + i) % N)

@[simp] theorem view_zero (slots : Nat → α) (N h : Nat) : view slots N h 0 = [] := rfl

@[simp] theorem length_view (slots : Nat → α) (N h n : Nat) : (view slots N h n).length = n := by
  simp [view]

/-- The newest element is the last one of the view. -/
theorem view_succ (slots : Nat → α) (N h n : Nat) :
    view slots N h (n + 1) = view slots N h n ++ [slots ((h + n) % N)] := by
  simp [view, List.range_succ]

/-- The oldest element is the first one of the view. -/
theorem view_cons (slots : Nat → α) (N h n : Nat) :
    view slots N h (n + 1) = slots (h % N) :: view slots N (h + 1) n := by
  simp only [view, List.range_succ_eq_map, List.map_cons, List.map_map, Nat.add_zero, List.cons.injEq, true_and]
  apply List.map_congr_left
  intro i _
  simp only [Function.comp]
  congr 2
  omega

/-- An index that wraps at a multiple of the number of slots reads the same elements. -/
theorem view_mod (slots : Nat → α) {N M : Nat} (hd : N ∣ M) (h n : Nat) : view slots N (h % M) n = view slots N h n := by
  apply List.map_congr_left
  intro i _
  congr 1
  rw [Nat.add_mod, Nat.mod_mod_of_dvd _ hd, ← Nat.add_mod]

/-- Two different offsets below the number of slots name two different slots. -/
theorem slot_ne {N h i n : Nat} (hi : i < n) (hn : n < N) : (h + i) % N ≠ (h + n) % N := by
  intro he
  have hmod : i ≡ n [MOD N] := Nat.ModEq.add_left_cancel' h he
  exact absurd (Nat.ModEq.eq_of_lt_of_lt hmod (by omega) hn) (Nat.ne_of_lt hi)

/-- Writing the slot at the offset `n` leaves the elements before it. -/
theorem view_update_of_le (slots : Nat → α) {N h k n : Nat} (hk : k ≤ n) (hn : n < N) (x : α) :
    view (Function.update slots ((h + n) % N) x) N h k = view slots N h k := by
  apply List.map_congr_left
  intro i hi
  rw [List.mem_range] at hi
  exact Function.update_of_ne (slot_ne (by omega) hn) _ _

/-- Writing the free slot after the newest element, and counting it, adds an element at the end. -/
theorem view_push (slots : Nat → α) {N h n : Nat} (hn : n < N) (x : α) :
    view (Function.update slots ((h + n) % N) x) N h (n + 1) = view slots N h n ++ [x] := by
  rw [view_succ, view_update_of_le slots (Nat.le_refl n) hn, Function.update_self]

/-- Overwriting the newest element replaces the last one of the view. -/
theorem view_overwrite (slots : Nat → α) {N h n : Nat} (hn : n < N) (x : α) :
    view (Function.update slots ((h + n) % N) x) N h (n + 1) = (view slots N h (n + 1)).dropLast ++ [x] := by
  rw [view_push slots hn, view_succ, List.dropLast_concat]

end OpenController.Ring
