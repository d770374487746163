import Mathlib.Data.List.Induction

/-!
# Histories

A list of what happened, oldest first. `Throughout` says of every element that it fits those before it.
-/

namespace OpenController

variable {α : Type _} {P : List α → α → Prop} {l : List α}

/-- Every element fits the elements before it. -/
def Throughout (P : List α → α → Prop) (l : List α) : Prop := ∀ a e b, l = a ++ e :: b → P a e

theorem throughout_nil : Throughout P [] := by
  intro a e b h
  simp at h

/-- A history grows by one element that fits it. -/
theorem Throughout.snoc (h : Throughout P l) {x : α} (hx : P l x) : Throughout P (l ++ [x]) := by
  intro a e b he
  rcases List.eq_nil_or_concat b with rfl | ⟨b', y, rfl⟩
  · obtain ⟨rfl, hxe⟩ := List.append_inj' he rfl
    obtain rfl : x = e := by simpa using hxe
    exact hx
  · rw [List.concat_eq_append, ← List.cons_append, ← List.append_assoc] at he
    exact h a e b' (List.append_inj' he rfl).1

/-- A history that grows by elements nothing is said of. -/
theorem Throughout.append (h : Throughout P l) {l' : List α} (hl : ∀ x ∈ l', ∀ a, P a x) : Throughout P (l ++ l') := by
  induction l' using List.reverseRecOn with
  | nil => rwa [List.append_nil]
  | append_singleton l' x ih =>
    rw [← List.append_assoc]
    refine (ih fun y hy => hl y (List.mem_append_left _ hy)).snoc (hl x ?_ _)
    exact List.mem_append_right _ (List.mem_singleton_self x)

end OpenController
