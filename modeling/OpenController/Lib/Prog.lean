import Mathlib.Logic.Basic

/-!
# Programs that can be interrupted between statements

A program does one statement after another on a state of any type: a statement changes the state, and what comes next may depend
on the state it saw. `run` runs it alone. `Runs env` runs it with steps of an environment (`env`: an interrupt handler, the
hardware) between any two statements, before the first and after the last. `Triple` is the rule set for the second: assertions
that hold between statements must be `Stable` under the environment.
-/

namespace OpenController

/-- A program: it returns, or does a statement and goes on, depending on the state the statement saw. -/
inductive Prog (σ : Type) (α : Type) where
  | ret (a : α)
  | stmt (f : σ → σ) (next : σ → Prog σ α)

namespace Prog

variable {σ α β : Type}

/-- One program and then another. -/
def bind : Prog σ α → (α → Prog σ β) → Prog σ β
  | ret a, g => g a
  | stmt f next, g => stmt f fun s => (next s).bind g

instance : Monad (Prog σ) where
  pure := ret
  bind := bind

/-- The statement that changes the state. -/
def modify (f : σ → σ) : Prog σ Unit := stmt f fun _ => ret ()

/-- The statement that reads the state. -/
def read (g : σ → α) : Prog σ α := stmt id fun s => ret (g s)

/-! ## A program alone -/

/-- The result and the state after an undisturbed run. -/
def run : Prog σ α → σ → α × σ
  | ret a, s => (a, s)
  | stmt f next, s => (next s).run (f s)

/-- The state after an undisturbed run. -/
def exec (p : Prog σ α) (s : σ) : σ := (p.run s).2

@[simp] theorem run_pure (a : α) (s : σ) : (pure a : Prog σ α).run s = (a, s) := rfl

@[simp] theorem run_modify (f : σ → σ) (s : σ) : (modify f).run s = ((), f s) := rfl

@[simp] theorem run_read (g : σ → α) (s : σ) : (read g : Prog σ α).run s = (g s, s) := rfl

@[simp] theorem run_bind (p : Prog σ α) (g : α → Prog σ β) (s : σ) : (p >>= g).run s = (g (p.run s).1).run (p.run s).2 := by
  induction p generalizing s with
  | ret a => rfl
  | stmt f next ih => exact ih s (f s)

theorem run_read_bind (g : σ → α) (k : α → Prog σ β) (s : σ) : (read g >>= k).run s = (k (g s)).run s := rfl

/-- A sequence of programs may be grouped either way. -/
@[simp] theorem bind_bind {γ : Type} (p : Prog σ α) (f : α → Prog σ β) (g : β → Prog σ γ) :
    p >>= f >>= g = p >>= fun a => f a >>= g := by
  induction p with
  | ret a => rfl
  | stmt h next ih => exact congrArg (stmt h) (funext ih)

@[simp] theorem run_ite (c : Prop) [Decidable c] (p q : Prog σ α) (s : σ) :
    (if c then p else q).run s = if c then p.run s else q.run s := by
  split <;> rfl

/-! ## A program among interrupts -/

/-- A run of a program with steps of the environment between its statements. -/
inductive Runs (env : σ → σ → Prop) : Prog σ α → σ → α → σ → Prop where
  | ret (a : α) (s : σ) : Runs env (ret a) s a s
  | stmt {f next s a t} : Runs env (next s) (f s) a t → Runs env (stmt f next) s a t
  | env {p s u a t} : env s u → Runs env p u a t → Runs env p s a t

/-- With an environment that does nothing there is the undisturbed run. -/
theorem runs_run (env : σ → σ → Prop) (p : Prog σ α) (s : σ) : Runs env p s (p.run s).1 (p.run s).2 := by
  induction p generalizing s with
  | ret a => exact Runs.ret a s
  | stmt f next ih => exact Runs.stmt (ih s (f s))

/-- With an environment that never does anything there is no other run. -/
theorem Runs.eq_run {env : σ → σ → Prop} (henv : ∀ s t, ¬env s t) {p : Prog σ α} {s t : σ} {a : α} (h : Runs env p s a t) :
    p.run s = (a, t) := by
  induction h with
  | ret a s => rfl
  | stmt _ ih => exact ih
  | env he _ _ => exact absurd he (henv _ _)

/-- The state before the statement `k`, counting from 0, of an undisturbed run. -/
def before : Nat → Prog σ α → σ → σ
  | _, ret _, s => s
  | 0, stmt _ _, s => s
  | k + 1, stmt f next, s => before k (next s) (f s)

/-- The result and the state after a run with one step of the environment, before the statement `k`. -/
def interrupted (g : σ → σ) : Nat → Prog σ α → σ → α × σ
  | _, ret a, s => (a, g s)
  | 0, stmt f next, s => (stmt f next).run (g s)
  | k + 1, stmt f next, s => interrupted g k (next s) (f s)

theorem runs_interrupted {env : σ → σ → Prop} {g : σ → σ} {k : Nat} {p : Prog σ α} {s : σ}
    (h : env (p.before k s) (g (p.before k s))) : Runs env p s (p.interrupted g k s).1 (p.interrupted g k s).2 := by
  induction p generalizing k s with
  | ret a =>
    have hs : env s (g s) := by cases k <;> exact h
    cases k <;> exact Runs.env hs (Runs.ret a (g s))
  | stmt f next ih =>
    cases k with
    | zero => exact Runs.env h (runs_run env _ _)
    | succ k => exact Runs.stmt (ih s h)

/-- A run of one program and then another is a run of each. -/
theorem Runs.of_bind {env : σ → σ → Prop} {p : Prog σ α} {g : α → Prog σ β} {s t : σ} {b : β} (h : Runs env (p >>= g) s b t) :
    ∃ a u, Runs env p s a u ∧ Runs env (g a) u b t := by
  generalize hq : p >>= g = q at h
  induction h generalizing p with
  | ret b s =>
    cases p with
    | ret a => exact ⟨a, s, Runs.ret a s, (show g a = Prog.ret b from hq) ▸ Runs.ret b s⟩
    | stmt f next => cases hq
  | @stmt f' next' s b t hr ih =>
    cases p with
    | ret a => exact ⟨a, s, Runs.ret a s, (show g a = Prog.stmt f' next' from hq) ▸ Runs.stmt hr⟩
    | stmt f next =>
      injection hq with hf hn
      subst hf
      obtain ⟨a, u, h1, h2⟩ := ih (p := next s) (congrFun hn s)
      exact ⟨a, u, Runs.stmt h1, h2⟩
  | env he _ ih =>
    obtain ⟨a, u, h1, h2⟩ := ih hq
    exact ⟨a, u, Runs.env he h1, h2⟩

/-- One program runs and then another: the two run. -/
theorem Runs.bind {env : σ → σ → Prop} {p : Prog σ α} {g : α → Prog σ β} {s u t : σ} {a : α} {b : β} (hp : Runs env p s a u)
    (hg : Runs env (g a) u b t) : Runs env (p >>= g) s b t := by
  induction hp with
  | ret a s => exact hg
  | stmt _ ih => exact Runs.stmt (ih hg)
  | env he _ ih => exact Runs.env he (ih hg)

/-- What the environment does after a program belongs to the program's run. -/
theorem Runs.tail {env : σ → σ → Prop} {p : Prog σ α} {s u t : σ} {a : α} {b : β} (hp : Runs env p s a u)
    (hu : Runs env (Prog.ret b) u b t) : Runs env p s a t := by
  induction hp with
  | ret a s =>
    generalize hq : Prog.ret b = q at hu
    induction hu with
    | ret b s => exact Runs.ret a s
    | stmt _ _ => cases hq
    | env he _ ih => exact Runs.env he (ih hq)
  | stmt _ ih => exact Runs.stmt (ih hu)
  | env he _ ih => exact Runs.env he (ih hu)

/-- The environment acts, and then a statement is done. -/
theorem Runs.of_stmt {env : σ → σ → Prop} {f : σ → σ} {next : σ → Prog σ α} {s t : σ} {a : α} (h : Runs env (Prog.stmt f next) s a t) :
    ∃ u, Runs env (Prog.ret ()) s () u ∧ Runs env (next u) (f u) a t := by
  generalize hq : Prog.stmt f next = q at h
  induction h with
  | ret _ _ => cases hq
  | @stmt f' next' s a t hr _ =>
    injection hq with hf hn
    subst hf hn
    exact ⟨s, Runs.ret () s, hr⟩
  | env he _ ih =>
    obtain ⟨u, hu, hr⟩ := ih hq
    exact ⟨u, Runs.env he hu, hr⟩

/-- An environment that does more has more runs. -/
theorem Runs.mono {env env' : σ → σ → Prop} (hle : ∀ s t, env s t → env' s t) {p : Prog σ α} {s t : σ} {a : α}
    (h : Runs env p s a t) : Runs env' p s a t := by
  induction h with
  | ret a s => exact Runs.ret a s
  | stmt _ ih => exact Runs.stmt ih
  | env he _ ih => exact Runs.env (hle _ _ he) ih

/-- The environment does not falsify an assertion. -/
def Stable (env : σ → σ → Prop) (P : σ → Prop) : Prop := ∀ s t, env s t → P s → P t

/-- From a state with `pre`, every run ends with `post`. -/
def Triple (env : σ → σ → Prop) (pre : σ → Prop) (p : Prog σ α) (post : α → σ → Prop) : Prop :=
  ∀ s a t, pre s → Runs env p s a t → post a t

namespace Triple

variable {env : σ → σ → Prop} {pre pre' : σ → Prop} {post post' : α → σ → Prop}

theorem conseq {p : Prog σ α} (h : Triple env pre p post) (hpre : ∀ s, pre' s → pre s) (hpost : ∀ a s, post a s → post' a s) :
    Triple env pre' p post' :=
  fun s a t hs hr => hpost a t (h s a t (hpre s hs) hr)

/-- A statement: its precondition is stable, and from every state that has it, what follows ends with the postcondition. -/
theorem stmt {f : σ → σ} {next : σ → Prog σ α} (hst : Stable env pre)
    (h : ∀ s, pre s → Triple env (fun t => t = f s) (next s) post) : Triple env pre (Prog.stmt f next) post := by
  intro s a t hs hr
  generalize hp : Prog.stmt f next = p at hr
  induction hr with
  | ret a s => cases hp
  | @stmt f' next' s a t hr _ =>
    injection hp with hf hn
    subst hf hn
    exact h s hs (f s) a t rfl hr
  | env he _ ih => exact ih (hst _ _ he hs) hp

/-- Two things that hold of every run. -/
theorem and {p : Prog σ α} (h : Triple env pre p post) (h' : Triple env pre' p post') :
    Triple env (fun s => pre s ∧ pre' s) p fun a s => post a s ∧ post' a s :=
  fun s a t hs hr => ⟨h s a t hs.1 hr, h' s a t hs.2 hr⟩

/-- What holds in an environment holds in one that does less. -/
theorem mono {env' : σ → σ → Prop} {p : Prog σ α} (h : Triple env pre p post) (hle : ∀ s t, env' s t → env s t) :
    Triple env' pre p post :=
  fun s a t hs hr => h s a t hs (hr.mono hle)

theorem pure {a : α} (hst : Stable env (post a)) (h : ∀ s, pre s → post a s) : Triple env pre (Pure.pure a) post := by
  intro s b t hs hr
  have hs' := h s hs
  generalize hp : (Pure.pure a : Prog σ α) = p at hr
  change Prog.ret a = p at hp
  clear hs
  induction hr with
  | ret b s =>
    injection hp with hab
    exact hab ▸ hs'
  | stmt _ _ => cases hp
  | env he _ ih => exact ih (hst _ _ he hs') hp

theorem bind {p : Prog σ α} {g : α → Prog σ β} {mid : α → σ → Prop} {q : β → σ → Prop} (hp : Triple env pre p mid)
    (hg : ∀ a, Triple env (mid a) (g a) q) : Triple env pre (p >>= g) q := by
  intro s b t hs hr
  obtain ⟨a, u, h1, h2⟩ := hr.of_bind
  exact hg a u b t (hp s a u hs h1) h2

theorem modify {f : σ → σ} {post : Unit → σ → Prop} (hpre : Stable env pre) (hpost : Stable env (post ()))
    (h : ∀ s, pre s → post () (f s)) : Triple env pre (Prog.modify f) post :=
  stmt hpre fun s hs => pure hpost fun _ ht => ht ▸ h s hs

theorem read {g : σ → α} (hpre : Stable env pre) (hpost : ∀ a, Stable env (post a)) (h : ∀ s, pre s → post (g s) s) :
    Triple env pre (Prog.read g) post :=
  stmt hpre fun s hs => pure (hpost (g s)) fun _ ht => ht ▸ h s hs

theorem ite {c : Prop} [Decidable c] {p q : Prog σ α} (hp : c → Triple env pre p post) (hq : ¬c → Triple env pre q post) :
    Triple env pre (if c then p else q) post := by
  split
  · exact hp ‹_›
  · exact hq ‹_›

end Triple

/-! ## Invariants of every statement -/

/-- Every statement of a program has a property, whatever states it sees. -/
def Each (P : (σ → σ) → Prop) : Prog σ α → Prop
  | ret _ => True
  | stmt f next => P f ∧ ∀ s, Each P (next s)

theorem Each.bind {P : (σ → σ) → Prop} {p : Prog σ α} {g : α → Prog σ β} (hp : Each P p) (hg : ∀ a, Each P (g a)) :
    Each P (p >>= g) := by
  induction p with
  | ret a => exact hg a
  | stmt f next ih => exact ⟨hp.1, fun s => ih s (hp.2 s)⟩

theorem Each.ite {P : (σ → σ) → Prop} {c : Prop} [Decidable c] {p q : Prog σ α} (hp : Each P p) (hq : Each P q) :
    Each P (if c then p else q) := by
  split
  · exact hp
  · exact hq

theorem Each.mono {P Q : (σ → σ) → Prop} {p : Prog σ α} (h : Each P p) (hle : ∀ f, P f → Q f) : Each Q p := by
  induction p with
  | ret a => trivial
  | stmt f next ih => exact ⟨hle f h.1, fun s => ih s (h.2 s)⟩

theorem Each.modify {P : (σ → σ) → Prop} {f : σ → σ} (h : P f) : Each P (modify f) := ⟨h, fun _ => trivial⟩

theorem Each.read {P : (σ → σ) → Prop} {g : σ → α} (h : P id) : Each P (read g) := ⟨h, fun _ => trivial⟩

theorem Each.pure {P : (σ → σ) → Prop} {a : α} : Each P (pure a : Prog σ α) := trivial

/-! ### The statements of a sequence -/

section Sequence

variable {P : (σ → σ) → Prop} {f : σ → σ} {r : σ → α}

@[simp] theorem each_pure (a : α) : Each P (pure a : Prog σ α) := trivial

@[simp] theorem each_modify : Each P (modify f) ↔ P f := ⟨fun h => h.1, Each.modify⟩

@[simp] theorem each_read : Each P (read r) ↔ P id := ⟨fun h => h.1, Each.read⟩

@[simp] theorem each_read_bind {g : α → Prog σ β} : Each P (read r >>= g) ↔ P id ∧ ∀ s, Each P (g (r s)) := Iff.rfl

@[simp] theorem each_stmt {next : σ → Prog σ α} : Each P (stmt f next) ↔ P f ∧ ∀ s, Each P (next s) := Iff.rfl

@[simp] theorem each_stmt_bind {next : σ → Prog σ α} {g : α → Prog σ β} :
    Each P (stmt f next >>= g) ↔ P f ∧ ∀ s, Each P (next s >>= g) := Iff.rfl

@[simp] theorem each_pure_bind {a : α} {g : α → Prog σ β} : Each P (pure a >>= g) ↔ Each P (g a) := Iff.rfl

@[simp] theorem each_ite {c : Prop} [Decidable c] {p q : Prog σ α} :
    Each P (if c then p else q) ↔ (c → Each P p) ∧ (¬c → Each P q) := by
  by_cases h : c <;> simp [h]

/-- A program without a result, and then another: the statements of both. -/
@[simp] theorem each_then [Nonempty σ] {p : Prog σ Unit} {g : Unit → Prog σ α} :
    Each P (p >>= g) ↔ Each P p ∧ Each P (g ()) := by
  refine ⟨fun h => ?_, fun h => h.1.bind fun _ => h.2⟩
  induction p with
  | ret _ => exact ⟨trivial, h⟩
  | stmt f next ih =>
    have hnext : ∀ s, Each P (next s) ∧ Each P (g ()) := fun s => ih s (h.2 s)
    obtain ⟨s⟩ := ‹Nonempty σ›
    exact ⟨⟨h.1, fun s => (hnext s).1⟩, (hnext s).2⟩

end Sequence

/-- What no statement changes is the same after a run. -/
theorem Each.view_run {τ : Type} {v : σ → τ} {p : Prog σ α} (h : Each (fun f => ∀ s, v (f s) = v s) p) (s : σ) :
    v (p.run s).2 = v s := by
  induction p generalizing s with
  | ret a => rfl
  | stmt f next ih => exact (ih s (h.2 s) (f s)).trans (h.1 s)

/-- An assertion that every statement and the environment keep holds throughout. -/
theorem Each.triple {env : σ → σ → Prop} {I : σ → Prop} {p : Prog σ α} (h : Each (fun f => ∀ s, I s → I (f s)) p)
    (hst : Stable env I) : Triple env I p fun _ => I := by
  intro s a t hs hr
  induction hr with
  | ret a s => exact hs
  | stmt _ ih => exact ih (h.2 _) (h.1 _ hs)
  | env he _ ih => exact ih h (hst _ _ he hs)

/-! ## Assertions kept -/

/-- A program keeps an assertion among the steps of an environment. -/
abbrev Kept (env : σ → σ → Prop) (I : σ → Prop) (p : Prog σ α) : Prop := Triple env I p fun _ => I

namespace Kept

variable {env : σ → σ → Prop} {I : σ → Prop}

theorem bind {p : Prog σ α} {g : α → Prog σ β} (hp : Kept env I p) (hg : ∀ a, Kept env I (g a)) : Kept env I (p >>= g) :=
  Triple.bind hp hg

theorem ite {c : Prop} [Decidable c] {p q : Prog σ α} (hp : c → Kept env I p) (hq : ¬c → Kept env I q) :
    Kept env I (if c then p else q) :=
  Triple.ite hp hq

theorem read (hst : Stable env I) (g : σ → α) : Kept env I (Prog.read g) := Triple.read hst (fun _ => hst) fun _ hs => hs

theorem pure (hst : Stable env I) (a : α) : Kept env I (Pure.pure a) := Triple.pure hst fun _ hs => hs

theorem modify (hst : Stable env I) {f : σ → σ} (h : ∀ s, I s → I (f s)) : Kept env I (Prog.modify f) :=
  Triple.modify hst hst h

end Kept

/-! ## Properties of sequences -/

/-- A property that a sequence of programs has when its parts do. -/
structure Composes (K : {α : Type} → Prog σ α → Prop) : Prop where
  pure : ∀ {α : Type} (a : α), K (Pure.pure a : Prog σ α)
  read : ∀ {α : Type} (g : σ → α), K (Prog.read g)
  bind : ∀ {α β : Type} {p : Prog σ α} {g : α → Prog σ β}, K p → (∀ a, K (g a)) → K (p >>= g)

/-- An alternative has a property that both programs have. -/
theorem ite_of {K : Prog σ α → Prop} {c : Prop} [Decidable c] {p q : Prog σ α} (hp : c → K p) (hq : ¬c → K q) :
    K (if c then p else q) := by
  split
  · exact hp ‹_›
  · exact hq ‹_›

theorem Kept.composes {env : σ → σ → Prop} {I : σ → Prop} (hst : Stable env I) : Composes fun p => Kept env I p :=
  ⟨Kept.pure hst, Kept.read hst, Kept.bind⟩

/-! ## The states of a run -/

/-- A run of a program goes through a state. -/
inductive Visits (env : σ → σ → Prop) : Prog σ α → σ → σ → Prop where
  | here (p : Prog σ α) (s : σ) : Visits env p s s
  | stmt {f next s u} : Visits env (next s) (f s) u → Visits env (stmt f next) s u
  | env {p s t u} : env s t → Visits env p t u → Visits env p s u

/-- From a state with `pre`, an assertion holds in every state that a run goes through. -/
def Safe (env : σ → σ → Prop) (pre : σ → Prop) (p : Prog σ α) (I : σ → Prop) : Prop := ∀ s u, pre s → Visits env p s u → I u

section Visits

variable {env : σ → σ → Prop} {pre I : σ → Prop}

/-- A run goes through its last state. -/
theorem Runs.visits {p : Prog σ α} {s t : σ} {a : α} (h : Runs env p s a t) : Visits env p s t := by
  induction h with
  | ret a s => exact Visits.here _ s
  | stmt _ ih => exact Visits.stmt ih
  | env he _ ih => exact Visits.env he ih

/-- A state of a run of one program and then another is one of the first, or one of the second after a run of the first. -/
theorem Visits.of_bind {p : Prog σ α} {g : α → Prog σ β} {s u : σ} (h : Visits env (p >>= g) s u) :
    Visits env p s u ∨ ∃ a t, Runs env p s a t ∧ Visits env (g a) t u := by
  generalize hq : p >>= g = q at h
  induction h generalizing p with
  | here q s => exact .inl (Visits.here p s)
  | @stmt f' next' s u hv ih =>
    cases p with
    | ret a => exact .inr ⟨a, s, Runs.ret a s, (show g a = Prog.stmt f' next' from hq) ▸ Visits.stmt hv⟩
    | stmt f next =>
      injection hq with hf hn
      subst hf
      rcases ih (p := next s) (congrFun hn s) with hp | ⟨a, t, hr, hg⟩
      · exact .inl (Visits.stmt hp)
      · exact .inr ⟨a, t, Runs.stmt hr, hg⟩
  | env he _ ih =>
    rcases ih hq with hp | ⟨a, t, hr, hg⟩
    · exact .inl (Visits.env he hp)
    · exact .inr ⟨a, t, Runs.env he hr, hg⟩

theorem Safe.bind {p : Prog σ α} {g : α → Prog σ β} {mid : α → σ → Prop} (hp : Safe env pre p I) (hm : Triple env pre p mid)
    (hg : ∀ a, Safe env (mid a) (g a) I) : Safe env pre (p >>= g) I := by
  intro s u hs hv
  rcases hv.of_bind with hv | ⟨a, t, hr, hv⟩
  · exact hp s u hs hv
  · exact hg a t u (hm s a t hs hr) hv

theorem Safe.conseq {pre' I' : σ → Prop} {p : Prog σ α} (h : Safe env pre p I) (hpre : ∀ s, pre' s → pre s)
    (hI : ∀ s, I s → I' s) : Safe env pre' p I' :=
  fun s u hs hv => hI u (h s u (hpre s hs) hv)

/-- An assertion that every statement and the environment keep holds in every state. -/
theorem Each.safe {p : Prog σ α} (h : Each (fun f => ∀ s, I s → I (f s)) p) (hst : Stable env I) : Safe env I p I := by
  intro s u hs hv
  induction hv with
  | here _ _ => exact hs
  | stmt _ ih => exact ih (h.2 _) (h.1 _ hs)
  | env he _ ih => exact ih h (hst _ _ he hs)

/-- What holds throughout holds at the end. -/
theorem Safe.triple {p : Prog σ α} (h : Safe env pre p I) : Triple env pre p fun _ => I :=
  fun s _ t hs hr => h s t hs hr.visits

end Visits

/-! ## A program on a part of the state -/

/-- A program that runs on a part of a larger state. -/
def zoom {τ : Type} (get : τ → σ) (put : σ → τ → τ) : Prog σ α → Prog τ α
  | ret a => ret a
  | stmt f next => stmt (fun t => put (f (get t)) t) fun t => (next (get t)).zoom get put

section Zoom

@[simp] theorem zoom_pure {τ : Type} (get : τ → σ) (put : σ → τ → τ) (a : α) : (pure a : Prog σ α).zoom get put = pure a := rfl

@[simp] theorem zoom_modify {τ : Type} (get : τ → σ) (put : σ → τ → τ) (f : σ → σ) :
    (modify f).zoom get put = modify fun t => put (f (get t)) t := rfl

/-- A statement that reads the part reads it. -/
theorem zoom_read {τ : Type} {get : τ → σ} {put : σ → τ → τ} (hput : ∀ t, put (get t) t = t) (g : σ → α) :
    (read g).zoom get put = read fun t => g (get t) :=
  congrArg (fun f => stmt f fun t => ret (g (get t))) (funext hput)

@[simp] theorem zoom_bind {τ : Type} (get : τ → σ) (put : σ → τ → τ) (p : Prog σ α) (g : α → Prog σ β) :
    (p >>= g).zoom get put = p.zoom get put >>= fun a => (g a).zoom get put := by
  induction p with
  | ret a => rfl
  | stmt f next ih => exact congrArg (stmt _) (funext fun t => ih (get t))

@[simp] theorem zoom_ite {τ : Type} (get : τ → σ) (put : σ → τ → τ) (c : Prop) [Decidable c] (p q : Prog σ α) :
    (if c then p else q).zoom get put = if c then p.zoom get put else q.zoom get put := by
  split <;> rfl

variable {τ : Type} {get : τ → σ} {put : σ → τ → τ} {env : σ → σ → Prop} {env' : τ → τ → Prop}

/-- Its runs are runs on the part. -/
theorem Runs.of_zoom (hget : ∀ s t, get (put s t) = s) (henv : ∀ t u, env' t u → get u = get t ∨ env (get t) (get u))
    {p : Prog σ α} {t u : τ} {a : α} (h : Runs env' (p.zoom get put) t a u) : Runs env p (get t) a (get u) := by
  generalize hq : p.zoom get put = q at h
  induction h generalizing p with
  | ret a t =>
    cases p with
    | ret b =>
      obtain rfl : b = a := by injection hq
      exact Runs.ret b _
    | stmt f next => cases hq
  | @stmt f' next' t a u hr ih =>
    cases p with
    | ret b => cases hq
    | stmt f next =>
      injection hq with hf hn
      subst hf
      have hrest := ih (p := next (get t)) (congrFun hn t)
      rw [hget] at hrest
      exact Runs.stmt hrest
  | env he _ ih =>
    rcases henv _ _ he with hsame | hstep
    · exact hsame ▸ ih hq
    · exact Runs.env hstep (ih hq)

/-- What holds of the part. -/
theorem Triple.zoom (hget : ∀ s t, get (put s t) = s) (henv : ∀ t u, env' t u → get u = get t ∨ env (get t) (get u))
    {p : Prog σ α} {pre : σ → Prop} {post : α → σ → Prop} (h : Triple env pre p post) :
    Triple env' (fun t => pre (get t)) (p.zoom get put) fun a t => post a (get t) :=
  fun _ _ _ ht hr => h _ _ _ ht (hr.of_zoom hget henv)

/-- An assertion that every statement on the part and the environment keep. -/
theorem Each.zoom {J : τ → Prop} {p : Prog σ α} (hst : Stable env' J) (h : Each (fun f => ∀ t, J t → J (put (f (get t)) t)) p) :
    Kept env' J (p.zoom get put) := by
  refine Each.triple ?_ hst
  induction p with
  | ret a => trivial
  | stmt f next ih => exact ⟨h.1, fun t => ih (get t) (h.2 (get t))⟩

/-- The statements of a program on the part are its statements, done on the part. -/
theorem Each.on {P : (τ → τ) → Prop} {p : Prog σ α} (h : Each (fun f => P fun t => put (f (get t)) t) p) : Each P (p.zoom get put) := by
  induction p with
  | ret a => trivial
  | stmt f next ih => exact ⟨h.1, fun t => ih (get t) (h.2 (get t))⟩

/-- What does not depend on the part. -/
theorem Kept.zoom {J : τ → Prop} (hst : Stable env' J) (hput : ∀ s t, J t → J (put s t)) (p : Prog σ α) :
    Kept env' J (p.zoom get put) := by
  refine Each.zoom hst ?_
  induction p with
  | ret a => trivial
  | stmt f next ih => exact ⟨fun t ht => hput _ t ht, ih⟩

theorem Triple.zoom_bind {pre : τ → Prop} {mid : α → τ → Prop} {post : β → τ → Prop} {p : Prog σ α} {g : α → Prog σ β}
    (hp : Triple env' pre (p.zoom get put) mid) (hg : ∀ a, Triple env' (mid a) ((g a).zoom get put) post) :
    Triple env' pre ((p >>= g).zoom get put) post := by
  rw [Prog.zoom_bind]
  exact hp.bind hg

theorem Triple.zoom_read {pre : τ → Prop} {post : α → τ → Prop} {g : σ → α} (hput : ∀ t, put (get t) t = t)
    (hpre : Stable env' pre) (hpost : ∀ a, Stable env' (post a)) (h : ∀ t, pre t → post (g (get t)) t) :
    Triple env' pre ((Prog.read g).zoom get put) post :=
  (Prog.zoom_read hput g).symm ▸ Triple.read hpre hpost h

/-- An assertion on the whole, of programs on the part. -/
theorem Kept.composes_zoom {J : τ → Prop} (hst : Stable env' J) (hput : ∀ t, put (get t) t = t) :
    Composes fun p => Kept env' J (p.zoom get put) where
  pure a := Kept.pure hst a
  read g := (zoom_read hput g).symm ▸ Kept.read hst _
  bind hp hg := by
    rw [zoom_bind]
    exact hp.bind hg

end Zoom

end Prog
end OpenController
