import Mathlib.Logic.Basic

/-!
# Costs paid from a potential

A run is a list of actions on a state of any type. What an action costs, and what it brings in, depend on the state it is done in. If
every action pays for itself from what it brings in and from a potential of the state, a run costs no more than what it brings in and
the potential it starts with.
-/

namespace OpenController

namespace Potential

variable {σ ι : Type} (step : ι → σ → σ)

/-- The state after a run. -/
def final (l : List ι) (s : σ) : σ := l.foldl (fun s a => step a s) s

/-- Every action of a run meets a condition in the state it is done in. -/
def Along (ok : ι → σ → Prop) : List ι → σ → Prop
  | [], _ => True
  | a :: l, s => ok a s ∧ Along ok l (step a s)

/-- What the actions of a run add up to. -/
def total (f : ι → σ → Nat) : List ι → σ → Nat
  | [], _ => 0
  | a :: l, s => f a s + total f l (step a s)

instance decidableAlong (ok : ι → σ → Prop) [∀ a s, Decidable (ok a s)] : (l : List ι) → (s : σ) → Decidable (Along step ok l s)
  | [], _ => isTrue trivial
  | a :: l, s =>
    have := decidableAlong ok l (step a s)
    inferInstanceAs (Decidable (ok a s ∧ Along step ok l (step a s)))

variable {step} {I : σ → Prop} {ok : ι → σ → Prop} {f g : ι → σ → Nat} {l : List ι} {s : σ}

theorem total_add : total step (fun a s => f a s + g a s) l s = total step f l s + total step g l s := by
  induction l generalizing s with
  | nil => rfl
  | cons a l ih =>
    simp only [total, ih]
    omega

theorem total_mul (k : Nat) : total step (fun a s => k * f a s) l s = k * total step f l s := by
  induction l generalizing s with
  | nil => rfl
  | cons a l ih => simp only [total, ih, Nat.mul_add]

/-- A quantity that no action lowers grows by what the actions add to it. -/
theorem total_growth {m : σ → Nat} (hkeep : ∀ a s, I s → I (step a s)) (hm : ∀ a s, I s → m s ≤ m (step a s)) (hs : I s) :
    m s + total step (fun a s => m (step a s) - m s) l s = m (final step l s) := by
  induction l generalizing s with
  | nil => rfl
  | cons a l ih =>
    have ha := hm a s hs
    have hl := ih (hkeep a s hs)
    simp only [total, final, List.foldl_cons] at hl ⊢
    omega

/-- A run whose actions pay for themselves from what they bring in and from the potential. -/
theorem Along.total_le {φ : σ → Nat} (h : Along step ok l s) (hkeep : ∀ a s, I s → ok a s → I (step a s))
    (hpay : ∀ a s, I s → ok a s → f a s + φ (step a s) ≤ φ s + g a s) (hs : I s) :
    total step f l s + φ (final step l s) ≤ φ s + total step g l s := by
  induction l generalizing s with
  | nil => exact Nat.le_of_eq (Nat.add_comm _ _)
  | cons a l ih =>
    have ha := hpay a s hs h.1
    have hl := ih h.2 (hkeep a s hs h.1)
    simp only [total, final, List.foldl_cons] at hl ⊢
    omega

end Potential
end OpenController
