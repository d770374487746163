import Mathlib.Logic.Basic

/-!
# Reachable states

The states a system reaches from its initial ones by labelled steps, and the rule for its invariants.
-/

namespace OpenController

/-- The states reached from the initial ones. -/
inductive Reach {σ ι : Type} (init : σ → Prop) (step : ι → σ → σ → Prop) : σ → Prop where
  | init {s} : init s → Reach init step s
  | step {s t} (a : ι) : Reach init step s → step a s t → Reach init step t

namespace Reach

variable {σ ι : Type} {init : σ → Prop} {step step' : ι → σ → σ → Prop} {I : σ → Prop}

/-- What holds initially and is preserved by every step from a reachable state holds of every reachable state. -/
theorem invariant (h0 : ∀ s, init s → I s) (hs : ∀ a s t, Reach init step s → I s → step a s t → I t) {s : σ}
    (h : Reach init step s) : I s := by
  induction h with
  | init hi => exact h0 _ hi
  | step a hr ha ih => exact hs a _ _ hr ih ha

/-- A system with more steps reaches more. -/
theorem mono (hle : ∀ a s t, step a s t → step' a s t) {s : σ} (h : Reach init step s) : Reach init step' s := by
  induction h with
  | init hi => exact .init hi
  | step a _ ha ih => exact .step a ih (hle a _ _ ha)

end Reach
end OpenController
