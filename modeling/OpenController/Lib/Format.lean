import Mathlib.Data.List.Basic
import Mathlib.Logic.Equiv.Defs

/-!
# Formats

A format writes values as lists of symbols and reads them back from the front of a list, and carries the proofs that the two are
inverse. Formats are put together from smaller ones, in the order of the fields of a record.
-/

namespace OpenController

/-- How values are written and read: what was written is read back, whatever follows it, and what is read was written so. -/
structure Format (α β : Type) where
  put : α → List β
  get : List β → Option (α × List β)
  get_put : ∀ a l, get (put a ++ l) = some (a, l)
  put_get : ∀ {a l l'}, get l = some (a, l') → l = put a ++ l'

namespace Format

variable {α γ β : Type}

/-- A single symbol. -/
def symbol : Format β β where
  put b := [b]
  get
    | [] => none
    | b :: l => some (b, l)
  get_put _ _ := rfl
  put_get {a l l'} h := by
    cases l with
    | nil => cases h
    | cons b l =>
      obtain ⟨rfl, rfl⟩ := Prod.mk.inj (Option.some.inj h)
      rfl

/-- One value and then another. -/
def seq (p : Format α β) (q : Format γ β) : Format (α × γ) β where
  put x := p.put x.1 ++ q.put x.2
  get l :=
    match p.get l with
    | none => none
    | some (a, l') =>
      match q.get l' with
      | none => none
      | some (c, l'') => some ((a, c), l'')
  get_put x l := by simp only [List.append_assoc, p.get_put, q.get_put]
  put_get {x l l'} h := by
    cases hp : p.get l with
    | none => simp only [hp] at h; cases h
    | some r =>
      obtain ⟨a, l₁⟩ := r
      cases hq : q.get l₁ with
      | none => simp only [hp, hq] at h; cases h
      | some r =>
        obtain ⟨c, l₂⟩ := r
        simp only [hp, hq] at h
        obtain ⟨rfl, rfl⟩ := Prod.mk.inj (Option.some.inj h)
        rw [p.put_get hp, q.put_get hq, List.append_assoc]

/-- The same format, for the values that stand for others. -/
def as (e : α ≃ γ) (p : Format α β) : Format γ β where
  put c := p.put (e.symm c)
  get l := (p.get l).map fun r => (e r.1, r.2)
  get_put c l := by rw [p.get_put, Option.map_some, e.apply_symm_apply]
  put_get {c l l'} h := by
    obtain ⟨⟨a, l₁⟩, hp, he⟩ := Option.map_eq_some_iff.mp h
    obtain ⟨rfl, rfl⟩ := Prod.mk.inj he
    rw [e.symm_apply_apply]
    exact p.put_get hp

/-- The value that a whole list is. -/
def whole (p : Format α β) (l : List β) : Option α :=
  match p.get l with
  | some (a, []) => some a
  | _ => none

/-- What is read as a whole is what is written. -/
theorem whole_eq_some {p : Format α β} {a : α} {l : List β} : p.whole l = some a ↔ l = p.put a := by
  refine ⟨fun h => ?_, fun h => ?_⟩
  · rw [whole] at h
    split at h
    · rename_i b hp
      obtain rfl := Option.some.inj h
      rw [p.put_get hp, List.append_nil]
    · cases h
  · have hp := p.get_put a []
    rw [List.append_nil] at hp
    rw [h, whole, hp]

/-- All values take the same room. -/
def Takes (p : Format α β) (n : Nat) : Prop := ∀ a, (p.put a).length = n

/-- A symbol takes one. -/
theorem takes_symbol : (symbol : Format β β).Takes 1 := fun _ => rfl

/-- A sequence takes what its parts take. -/
theorem Takes.seq {p : Format α β} {q : Format γ β} {m n : Nat} (hp : p.Takes m) (hq : q.Takes n) : (p.seq q).Takes (m + n) := by
  intro x
  exact List.length_append.trans (congrArg₂ (· + ·) (hp x.1) (hq x.2))

/-- Another name for what is read takes as much. -/
theorem Takes.as {p : Format α β} {n : Nat} (hp : p.Takes n) (e : α ≃ γ) : (p.as e).Takes n := fun c => hp (e.symm c)

end Format
end OpenController
