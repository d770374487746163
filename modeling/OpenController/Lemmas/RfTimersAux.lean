import OpenController.Lemmas.RfLinkRun
import OpenController.RfTimers

/-!
# Timers that run once and in time

The events whose timer never runs while they are queued, and the end of a probe that is handled in time: what each call of TMOS
keeps of it.
-/

namespace OpenController

/-- The events whose timer does not run while they are queued. -/
def RfEvt.once : RfEvt → Bool
  | .disconnect | .pairTimeout | .restIdle | .restStage2 | .restProbeTimeout => true
  | _ => false

namespace Tmos

/-- No event that comes once is armed and queued, and the end of a probe is not late. -/
structure InTime (t : Tmos) : Prop where
  once : ∀ e : RfEvt, e.once = true → t.armed e = true → t.waits e = false
  prompt : ∀ d, t.due .restProbeTimeout d → t.now < d + restGap

namespace InTime

variable {t : Tmos} {e : RfEvt}

theorem init : Tmos.init.InTime := ⟨nofun, nofun⟩

theorem stopTask (h : t.InTime) (e : RfEvt) : (t.stopTask e).InTime where
  once e' he' ha := by
    simp only [armed_stopTask, Bool.and_eq_true] at ha
    simp [h.once e' he' ha.2]
  prompt d hd := by
    by_cases he : e = .restProbeTimeout
    · subst he
      simp [due, Tmos.stopTask] at hd
    · refine h.prompt d ?_
      simpa [due, Tmos.stopTask, Function.update_of_ne (Ne.symm he)] using hd

theorem take (h : t.InTime) (e : RfEvt) : (t.take e).InTime where
  once e' he' ha := by simp [h.once e' he' ha]
  prompt d hd := by
    refine h.prompt d (hd.imp_right fun hq => ?_)
    by_cases he : e = .restProbeTimeout
    · subst he
      simp [Tmos.take] at hq
    · simpa [Tmos.take, Function.update_of_ne (Ne.symm he)] using hq

theorem setEvent (h : t.InTime) (he : e.once = false) : (t.setEvent e).InTime where
  once e' he' ha := by
    have hne : e' ≠ e := fun h' => nomatch (h' ▸ he').symm.trans he
    simp [hne, h.once e' he' ha]
  prompt d hd := by
    have hne : e ≠ .restProbeTimeout := fun h' => nomatch (h' ▸ he : RfEvt.once .restProbeTimeout = false)
    refine h.prompt d (hd.imp_right fun hq => ?_)
    simpa [Tmos.setEvent, Function.update_of_ne hne.symm] using hq

/-- A timer starts, of an event that is not queued or may be. -/
theorem startTask (h : t.InTime) (hw : e.once = true → t.waits e = false) (n : Nat) : (t.startTask e n).InTime where
  once e' he' ha := by
    by_cases hne : e' = e
    · subst hne
      exact hw he'
    · exact h.once e' he' (by simpa [hne] using ha)
  prompt d hd := by
    by_cases he : e = .restProbeTimeout
    · subst he
      rcases hd with hd | hd
      · have hn : t.now + n = d := by simpa [Tmos.startTask] using hd
        show t.now < d + restGap
        have hg : 0 < restGap := by decide
        omega
      · exact h.prompt d (.inr hd)
    · refine h.prompt d (hd.imp_left fun hq => ?_)
      simpa [Tmos.startTask, Function.update_of_ne (Ne.symm he)] using hq

/-- The timer of an event starts anew. -/
theorem restart (h : t.InTime) (e : RfEvt) (n : Nat) : ((t.stopTask e).startTask e n).InTime :=
  (h.stopTask e).startTask (fun _ => by simp) n

theorem expire (h : t.InTime) (e : RfEvt) : (t.expire e).InTime where
  once e' he' ha := by
    simp only [armed_expire, Bool.and_eq_true, decide_eq_true_eq] at ha
    simp [h.once e' he' ha.2, ha.1]
  prompt d hd := by
    have hn : (t.expire e).now = t.now := by
      unfold Tmos.expire
      split <;> rfl
    rw [hn]
    refine h.prompt d ?_
    unfold Tmos.expire at hd
    cases ht : t.timers e with
    | none => simpa [ht] using hd
    | some deadline =>
      simp only [ht] at hd
      by_cases he : e = .restProbeTimeout
      · subst he
        have hq : t.queued .restProbeTimeout = none := by
          have := h.once .restProbeTimeout rfl (by simp [armed, ht])
          simpa [waits] using this
        simp only [due, Function.update_self, hq, Option.getD_none, Option.some.injEq, reduceCtorEq, false_or] at hd
        exact .inl (hd ▸ ht)
      · simpa [due, Function.update_of_ne (Ne.symm he)] using hd

theorem advance (h : t.InTime) {n : Nat} (hn : ∀ d, t.due .restProbeTimeout d → t.now + n < d + restGap) :
    (t.advance n).InTime :=
  ⟨h.once, hn⟩

/-- An event that comes once and is taken from the queue will not come again. -/
theorem not_live_take (h : t.InTime) (he : e.once = true) (hw : t.waits e = true) : (t.take e).live e = false := by
  cases ha : t.armed e with
  | false => simp [live, ha]
  | true => cases hw.symm.trans (h.once e he ha)

end InTime

/-! ## The next probe -/

/-- The next probe starts after the end of the one in flight is handled. -/
def Paced (t : Tmos) : Prop :=
  ∃ d b, t.timers .restProbe = some d ∧ t.due .restProbeTimeout b ∧ b + restGap ≤ d

namespace Paced

variable {t : Tmos} {e : RfEvt}

theorem live (h : t.Paced) : t.live .restProbe = true := by
  obtain ⟨d, _, hd, _⟩ := h
  simp [Tmos.live, armed, hd]

/-- What is done to other events does not matter. -/
theorem congr {t' : Tmos} (h1 : t'.timers .restProbe = t.timers .restProbe)
    (h2 : t'.timers .restProbeTimeout = t.timers .restProbeTimeout)
    (h3 : t'.queued .restProbeTimeout = t.queued .restProbeTimeout) : t'.Paced ↔ t.Paced := by
  unfold Paced due
  rw [h1, h2, h3]

@[simp] theorem stopTask (h1 : e ≠ .restProbe) (h2 : e ≠ .restProbeTimeout) : (t.stopTask e).Paced ↔ t.Paced :=
  congr (Function.update_of_ne h1.symm ..) (Function.update_of_ne h2.symm ..) (Function.update_of_ne h2.symm ..)

@[simp] theorem startTask (h1 : e ≠ .restProbe) (h2 : e ≠ .restProbeTimeout) (n : Nat) : (t.startTask e n).Paced ↔ t.Paced :=
  congr (Function.update_of_ne h1.symm ..) (Function.update_of_ne h2.symm ..) rfl

@[simp] theorem setEvent (h2 : e ≠ .restProbeTimeout) : (t.setEvent e).Paced ↔ t.Paced :=
  congr rfl rfl (Function.update_of_ne h2.symm ..)

@[simp] theorem take (h2 : e ≠ .restProbeTimeout) : (t.take e).Paced ↔ t.Paced :=
  congr rfl rfl (Function.update_of_ne h2.symm ..)

/-- The end of the probe expires first: were the timer of the next probe at its deadline, the end of this one would be late. -/
theorem expire (h : t.Paced) (hi : t.InTime) (he : ∀ d, t.timers e = some d → d ≤ t.now) : (t.expire e).Paced := by
  obtain ⟨d, b, hd, hb, hle⟩ := h
  have hne : e ≠ .restProbe := by
    rintro rfl
    have h1 := he d hd
    have h2 := hi.prompt b hb
    omega
  refine ⟨d, b, ?_, ?_, hle⟩
  · unfold Tmos.expire
    split
    · exact hd
    · simpa [Function.update_of_ne hne.symm] using hd
  · unfold Tmos.expire
    cases ht : t.timers e with
    | none => exact hb
    | some deadline =>
      by_cases h2 : e = .restProbeTimeout
      · subst h2
        have hq : t.queued .restProbeTimeout = none := by
          simpa [waits] using hi.once .restProbeTimeout rfl (by simp [armed, ht])
        have hb' : deadline = b := by simpa [due, ht, hq] using hb
        exact .inr (by simp [hq, hb'])
      · simpa [due, Function.update_of_ne (Ne.symm h2)] using hb

/-- A probe starts with the time of the next one known. -/
theorem start {t : Tmos} (h : t.timers .restProbe = some (t.now + kbdRestProbeTicks)) :
    (t.startTask .restProbeTimeout kbdRestProbeTimeoutTicks).Paced := by
  refine ⟨t.now + kbdRestProbeTicks, t.now + kbdRestProbeTimeoutTicks, ?_, .inl (by simp [Tmos.startTask]), ?_⟩
  · simpa [Tmos.startTask] using h
  · have h : kbdRestProbeTimeoutTicks + restGap = kbdRestProbeTicks := by decide
    omega

end Paced
end Tmos
end OpenController
