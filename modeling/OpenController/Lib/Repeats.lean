import Mathlib.Data.List.Induction
import Mathlib.Data.List.Range

/-!
# Lists with repetitions

`Repeats xs ys` says that `ys` is `xs` with elements said again: in their order, none left out, and each repetition right after
what it repeats. It is what a receiver sees of a sender that sends a message again until it is acknowledged.
-/

namespace OpenController

variable {α β : Type _}

/-- The elements of the first list, in their order, each at least once. -/
inductive Repeats : List α → List α → Prop where
  | nil : Repeats [] []
  | new {xs ys} (x : α) : Repeats xs ys → Repeats (xs ++ [x]) (ys ++ [x])
  | again {xs ys} {x : α} : Repeats (xs ++ [x]) ys → Repeats (xs ++ [x]) (ys ++ [x])

namespace Repeats

variable {xs ys : List α}

/-- What is said last is the last element. -/
theorem getLast? (h : Repeats xs ys) : ys.getLast? = xs.getLast? := by
  induction h with
  | nil => rfl
  | new x _ _ => rw [List.getLast?_concat, List.getLast?_concat]
  | again _ _ => rw [List.getLast?_concat, List.getLast?_concat]

theorem map (f : α → β) (h : Repeats xs ys) : Repeats (xs.map f) (ys.map f) := by
  induction h with
  | nil => exact nil
  | new x _ ih =>
    rw [List.map_append, List.map_append]
    exact new (f x) ih
  | again _ ih =>
    rw [List.map_append] at ih ⊢
    rw [List.map_append]
    exact again ih

/-- Numbers that never go down, and are those below `n`. -/
theorem range {l : List Nat} {n : Nat} (hsorted : l.Pairwise (· ≤ ·)) (hlt : ∀ k ∈ l, k < n) (hall : ∀ k < n, k ∈ l) :
    Repeats (List.range n) l := by
  induction l using List.reverseRecOn generalizing n with
  | nil =>
    cases n with
    | zero => exact nil
    | succ n => exact absurd (hall n (Nat.lt_succ_self n)) List.not_mem_nil
  | append_singleton l k ih =>
    obtain ⟨hl, -, hle⟩ := List.pairwise_append.mp hsorted
    have hle : ∀ j ∈ l, j ≤ k := fun j hj => hle j hj k (List.mem_singleton_self k)
    have hk : k < n := hlt k (List.mem_append_right _ (List.mem_singleton_self k))
    -- the last number is the greatest of them
    obtain rfl : n = k + 1 := by
      by_contra hne
      rcases List.mem_append.mp (hall (k + 1) (by omega)) with hj | hj
      · exact absurd (hle _ hj) (by omega)
      · exact absurd (List.mem_singleton.mp hj) (by omega)
    have below : ∀ j < k, j ∈ l := fun j hj =>
      (List.mem_append.mp (hall j (by omega))).resolve_right fun he => absurd (List.mem_singleton.mp he) (by omega)
    by_cases hmem : k ∈ l
    · have hold : Repeats (List.range (k + 1)) l := by
        refine ih hl (fun j hj => Nat.lt_succ_of_le (hle j hj)) fun j hj => ?_
        rcases Nat.lt_succ_iff_lt_or_eq.mp hj with hlt | rfl
        · exact below j hlt
        · exact hmem
      rw [List.range_succ] at hold ⊢
      exact again hold
    · rw [List.range_succ]
      exact new k (ih hl (fun j hj => Nat.lt_of_le_of_ne (hle j hj) fun he => hmem (he ▸ hj)) below)

end Repeats
end OpenController
