import OpenController.Lemmas.RfCadenceStep
import OpenController.Lemmas.RfSleepRun

/-!
# The cadence of the rest over runs

In a rest the end of a probe and the second stage are due at a time. The time until then is a potential that probes and rests bring
in, and the time pays for the probes. The next probe is due one period after the last one, whatever comes in between.
-/

namespace OpenController

/-! ## When an event is due -/

namespace Tmos

variable {t : Tmos} {e e' : RfEvt} {u late : Nat}

/-- When an event is due depends on its timer and its place in the queue. -/
theorem dueBy_congr {t' : Tmos} (ht : t'.timers e = t.timers e) (hq : t'.queued e = t.queued e) : t'.dueBy e = t.dueBy e := by
  unfold dueBy
  rw [ht, hq]

/-- An event in the queue is due since it was put there. -/
theorem dueBy_queued (h : t.queued e = some u) : t.dueBy e = some u := by simp [dueBy, h]

/-- What expires is due since its deadline. -/
theorem dueBy_expire (t : Tmos) (e e' : RfEvt) : (t.expire e).dueBy e' = t.dueBy e' := by
  by_cases he : e' = e
  · subst he
    cases ht : t.timers e' with
    | none => rw [expire_none ht]
    | some u => cases hq : t.queued e' <;> simp [dueBy, expire, ht, hq]
  · exact dueBy_congr (expire_ne he).1 (expire_ne he).2

/-- What is due by a time is due then. -/
theorem dueBy_due (h : t.dueBy e = some u) : t.due e u := by
  unfold dueBy at h
  cases hq : t.queued e with
  | none =>
    rw [hq, Option.none_or] at h
    exact .inl h
  | some v =>
    rw [hq, Option.some_or] at h
    exact .inr (hq.trans h)

/-- An event that is not alive is not in the queue. -/
theorem queued_of_dead (h : t.live e = false) : t.queued e = none := by
  simpa [live, waits] using (Bool.or_eq_false_iff.1 h).2

/-- A timer that starts, of an event that is not queued. -/
theorem dueBy_start (n : Nat) (h : t.queued e = none) : (t.startTask e n).dueBy e = some (t.now + n) := by
  simp [dueBy, startTask, h]

/-- Another timer that starts leaves it. -/
theorem dueBy_start_ne (n : Nat) (h : e' ≠ e) : (t.startTask e n).dueBy e' = t.dueBy e' :=
  dueBy_congr (Function.update_of_ne h ..) rfl

/-- So does another that stops. -/
theorem dueBy_stop_ne (h : e' ≠ e) : (t.stopTask e).dueBy e' = t.dueBy e' :=
  dueBy_congr (Function.update_of_ne h ..) (Function.update_of_ne h ..)

/-- And another event that is taken. -/
theorem dueBy_take_ne (h : e' ≠ e) : (t.take e).dueBy e' = t.dueBy e' := dueBy_congr rfl (Function.update_of_ne h ..)

/-- How many ticks are left until an event has to be handled, when it may be late. -/
def left (late : Nat) (t : Tmos) (e : RfEvt) : Nat := (t.dueBy e).elim 0 fun u => u + late - t.now

/-- The time left depends on when the event is due. -/
theorem left_congr {t' : Tmos} (late : Nat) (hd : t'.dueBy e = t.dueBy e) (hnow : t'.now = t.now) :
    t'.left late e = t.left late e := by
  unfold left
  rw [hd, hnow]

/-- It ends so many ticks after that. -/
theorem left_some (late : Nat) (h : t.dueBy e = some u) : t.left late e = u + late - t.now := by simp [left, h]

/-- How long a phase can still last that an event ends. -/
def leftIf (late : Nat) (on : Bool) (t : Tmos) (e : RfEvt) : Nat := if on then t.left late e else 0

/-- Outside of the phase no time is left. -/
theorem leftIf_off {on : Bool} (h : on = false) : t.leftIf late on e = 0 := by simp [leftIf, h]

/-- Inside it is what is left of the event. -/
theorem leftIf_on {on : Bool} (h : on = true) (hu : t.dueBy e = some u) : t.leftIf late on e = u + late - t.now := by
  simp [leftIf, h, left_some late hu]

/-- It depends on the phase and on when the event is due. -/
theorem leftIf_congr {t' : Tmos} {on on' : Bool} (hon : on' = on) (hd : t'.dueBy e = t.dueBy e) (hnow : t'.now = t.now) :
    t'.leftIf late on' e = t.leftIf late on e := by
  unfold leftIf
  rw [hon, left_congr late hd hnow]

/-- A phase lasts at the expense of what is left of it. -/
theorem leftIf_advance {on : Bool} {ticks : Nat} (hu : on = true → ∃ u, t.dueBy e = some u ∧ t.now + ticks ≤ u + late) :
    (if on then ticks else 0) + (t.advance ticks).leftIf late on e ≤ t.leftIf late on e := by
  cases on with
  | false => exact Nat.le_refl _
  | true =>
    obtain ⟨u, hd, hle⟩ := hu rfl
    have hafter : (t.advance ticks).leftIf late true e = u + late - (t.now + ticks) := leftIf_on (t := t.advance ticks) rfl hd
    rw [if_pos rfl, hafter, leftIf_on rfl hd]
    omega

end Tmos

namespace RfDoze

variable {d d' : RfDoze} {op : RfOp} {n late : Nat}

/-- A step that is not about the rest leaves its events due when they were. -/
theorem Stays.dueBy (h : Stays d d') {e : RfEvt} (he : e.ofRest = true) : d'.tmos.dueBy e = d.tmos.dueBy e :=
  Tmos.dueBy_congr (h.timers e he) (h.queued e he)

/-- In a rest the end of a probe and the second stage are due. -/
structure Fits (d : RfDoze) : Prop where
  probing : d.probing = true → d.rests = true ∧
    ∃ u, d.tmos.dueBy .restProbeTimeout = some u ∧ u ≤ d.tmos.now + kbdRestProbeTimeoutTicks
  first : d.rests = true → d.first = true → ∃ u, d.tmos.dueBy .restStage2 = some u ∧ u ≤ d.tmos.now + kbdRestStage2Ticks

/-- It leaves the ends due, too. -/
theorem Fits.stays (h : d.Fits) (hs : Stays d d') : d'.Fits where
  probing hp := by
    rw [hs.rests, hs.dueBy rfl, hs.now]
    exact h.probing (hs.probing ▸ hp)
  first hr hf := by
    rw [hs.dueBy rfl, hs.now]
    exact h.first (hs.rests ▸ hr) (hs.first ▸ hf)

/-- A rest is entered with its second stage due. -/
theorem fits_enter (hstage : d.tmos.live .restStage2 = false) : d.enter.Fits where
  probing hp := absurd hp Bool.false_ne_true
  first _ _ := by
    refine ⟨d.tmos.now + kbdRestStage2Ticks, Tmos.dueBy_start _ ?_, Nat.le_refl _⟩
    simpa [Tmos.startTask, Tmos.stopTask] using Tmos.queued_of_dead hstage

/-- A probe starts with its end due. -/
theorem Fits.probeStart (h : d.Fits) (hfree : d.Free) : (d.take .restProbe).probe.Fits where
  probing _ := by
    refine ⟨hfree.1, d.tmos.now + kbdRestProbeTimeoutTicks, Tmos.dueBy_start _ ?_, Nat.le_refl _⟩
    simp [Tmos.stopTask]
  first hr hf := by
    obtain ⟨u, hu, hle⟩ := h.first hr hf
    exact ⟨u, by simpa [take, probe, Tmos.take, Tmos.dueBy, Tmos.startTask, Tmos.stopTask] using hu, hle⟩

/-- Every step of a rest keeps the ends due. -/
theorem Fits.step (h : d.Fits) (hstep : Step op n d d') : d'.Fits := by
  cases hstep with
  | stays hs => exact h.stays hs
  | ended hended =>
    refine ⟨fun hp => ?_, fun hr => ?_⟩
    · exact absurd (hended.probing.symm.trans hp) (by decide)
    · exact absurd (hended.rests.symm.trans hr) (by decide)
  | enter _ hstage hs => exact (fits_enter hstage).stays hs
  | probe _ hfree hs => exact (h.probeStart hfree).stays hs
  | probeEnd hp hs =>
    refine Fits.stays ⟨fun hp => absurd hp Bool.false_ne_true, fun hr hf => ?_⟩ hs
    rw [probeEnd, Tmos.dueBy_stop_ne (by decide)]
    exact h.first hr hf
  | @skip d e _ _ hend hsecond =>
    refine ⟨fun hp => ?_, fun hr hf => ?_⟩
    · have hne : RfEvt.restProbeTimeout ≠ e := fun he => absurd ((hend he.symm).symm.trans hp) (by decide)
      rw [take, Tmos.dueBy_take_ne hne]
      exact h.probing hp
    · have hne : RfEvt.restStage2 ≠ e := fun he => absurd ((hsecond he.symm).symm.trans hf) (by decide)
      rw [take, Tmos.dueBy_take_ne hne]
      exact h.first hr hf
  | second _ =>
    refine ⟨fun hp => ?_, fun _ hf => absurd hf Bool.false_ne_true⟩
    rw [second, take, Tmos.dueBy_stop_ne (by decide), Tmos.dueBy_take_ne (by decide)]
    exact h.probing hp
  | expire =>
    refine ⟨fun hp => ?_, fun hr hf => ?_⟩
    · rw [Tmos.dueBy_expire, Tmos.expire_now]
      exact h.probing hp
    · rw [Tmos.dueBy_expire, Tmos.expire_now]
      exact h.first hr hf
  | advance =>
    refine ⟨fun hp => ?_, fun hr hf => ?_⟩
    · obtain ⟨hr, u, hu, hle⟩ := h.probing hp
      exact ⟨hr, u, hu, Nat.le_trans hle (Nat.add_le_add_right (Nat.le_add_right _ _) _)⟩
    · obtain ⟨u, hu, hle⟩ := h.first hr hf
      exact ⟨u, hu, Nat.le_trans hle (Nat.add_le_add_right (Nat.le_add_right _ _) _)⟩

/-- No step takes an entry into a rest back. -/
theorem Step.entries_le (hstep : Step op n d d') : d.entries ≤ d'.entries := by
  cases hstep with
  | stays hs | probe _ _ hs | probeEnd _ hs => exact Nat.le_of_eq hs.entries.symm
  | ended hended => exact Nat.le_of_eq hended.entries.symm
  | enter _ _ hs => exact Nat.le_trans (Nat.le_succ _) (Nat.le_of_eq hs.entries.symm)
  | skip | second | expire | advance => exact Nat.le_refl _

/-! ## What a probe costs -/

/-- How long a probe can still last. -/
def probeLeft (late : Nat) (d : RfDoze) : Nat := d.tmos.leftIf late d.probing .restProbeTimeout

/-- Where no time passes, a phase lasts no longer. -/
theorem lasts_none (d d' : RfDoze) (on : Bool) (h : d'.tmos.now = d.tmos.now) : (if on then d'.tmos.now - d.tmos.now else 0) = 0 := by
  split <;> omega

/-- No probe, no time left. -/
theorem probeLeft_ended (h : d.probing = false) : d.probeLeft late = 0 := Tmos.leftIf_off h

/-- A step that is not about the rest takes no time of a probe. -/
theorem Stays.probeLeft (h : Stays d d') : d'.probeLeft late = d.probeLeft late := Tmos.leftIf_congr h.probing (h.dueBy rfl) h.now

/-- A probe lasts its time at most, and as long as its end may be late. -/
theorem Fits.probeLeft_le (h : d.Fits) : d.probeLeft late ≤ kbdRestProbeTimeoutTicks + late := by
  unfold probeLeft
  cases hp : d.probing with
  | false =>
    rw [Tmos.leftIf_off rfl]
    exact Nat.zero_le _
  | true =>
    obtain ⟨-, u, hu, hle⟩ := h.probing hp
    rw [Tmos.leftIf_on rfl hu]
    omega

/-- A probe brings in the time it may last, and lasts at the expense of it. -/
theorem Step.probeLeft_le (hstep : Step op n d d') (hf : d.Fits) (ho : op.RestsBy late d.tmos) :
    (if d.probing then d'.tmos.now - d.tmos.now else 0) + d'.probeLeft late ≤
      d.probeLeft late + (kbdRestProbeTimeoutTicks + late) * n := by
  cases hstep with
  | stays hs =>
    rw [lasts_none d d' _ hs.now, hs.probeLeft]
    omega
  | ended hended =>
    rw [lasts_none d d' _ hended.now, probeLeft_ended hended.probing]
    exact Nat.zero_le _
  | enter _ _ hs =>
    rw [lasts_none d d' _ hs.now, probeLeft_ended hs.probing]
    exact Nat.zero_le _
  | probe _ hfree hs =>
    have hle : (d.take .restProbe).probe.probeLeft late ≤ kbdRestProbeTimeoutTicks + late := (hf.probeStart hfree).probeLeft_le
    rw [lasts_none d d' _ hs.now, hs.probeLeft]
    omega
  | probeEnd _ hs =>
    rw [lasts_none d d' _ hs.now, probeLeft_ended hs.probing]
    exact Nat.zero_le _
  | @skip d e _ _ hend _ =>
    rw [lasts_none d (d.take e) _ rfl]
    cases hp : d.probing with
    | false =>
      rw [probeLeft_ended (d := d.take e) hp]
      exact Nat.zero_le _
    | true =>
      have hne : RfEvt.restProbeTimeout ≠ e := fun he => absurd ((hend he.symm).symm.trans hp) (by decide)
      have hsame : (d.take e).probeLeft late = d.probeLeft late := Tmos.leftIf_congr rfl (Tmos.dueBy_take_ne hne) rfl
      omega
  | second _ =>
    have hdue : (d.take .restStage2).second.tmos.dueBy .restProbeTimeout = d.tmos.dueBy .restProbeTimeout := by
      rw [RfDoze.second, RfDoze.take, Tmos.dueBy_stop_ne (by decide), Tmos.dueBy_take_ne (by decide)]
    have hsame : (d.take .restStage2).second.probeLeft late = d.probeLeft late := Tmos.leftIf_congr rfl hdue rfl
    rw [lasts_none d (d.take .restStage2).second _ rfl, hsame]
    omega
  | @expire e d =>
    have hsame : probeLeft late { d with tmos := d.tmos.expire e } = d.probeLeft late :=
      Tmos.leftIf_congr rfl (Tmos.dueBy_expire ..) (Tmos.expire_now ..)
    rw [lasts_none d { d with tmos := d.tmos.expire e } _ (Tmos.expire_now ..), hsame]
    omega
  | @advance ticks d =>
    have hticks : (d.tmos.advance ticks).now - d.tmos.now = ticks := Nat.add_sub_cancel_left ..
    rw [hticks]
    refine Tmos.leftIf_advance fun hp => ?_
    obtain ⟨-, u, hu, -⟩ := hf.probing hp
    exact ⟨u, hu, ho .restProbeTimeout (by simp) u (Tmos.dueBy_due hu)⟩

/-! ## How soon the next probe comes -/

/-- How far the time until the next probe has run. -/
def credit (d : RfDoze) : Nat :=
  if d.rests && d.first then
    if d.tmos.waits .restProbe then kbdRestProbeTicks
    else (d.tmos.timers .restProbe).elim 0 fun u => kbdRestProbeTicks - (u - d.tmos.now)
  else 0

/-- The credit is one period at most. -/
theorem credit_le (d : RfDoze) : d.credit ≤ kbdRestProbeTicks := by
  unfold credit
  split
  · split
    · exact Nat.le_refl _
    · cases d.tmos.timers .restProbe with
      | none => exact Nat.zero_le _
      | some u => exact Nat.sub_le _ _
  · exact Nat.zero_le _

/-- Outside of the first stage there is none. -/
theorem credit_ended (h : ¬(d.rests = true ∧ d.first = true)) : d.credit = 0 := if_neg (by simpa using h)

/-- It depends on the rest, its stage and the timer of the probes. -/
theorem credit_congr (hr : d'.rests = d.rests) (hf : d'.first = d.first)
    (ht : d'.tmos.timers .restProbe = d.tmos.timers .restProbe) (hq : d'.tmos.queued .restProbe = d.tmos.queued .restProbe)
    (hnow : d'.tmos.now = d.tmos.now) : d'.credit = d.credit := by
  unfold credit Tmos.waits
  rw [hr, hf, ht, hq, hnow]

/-- A probe that is queued has waited for its period. -/
theorem credit_queued (hr : d.rests = true) (hf : d.first = true) (hw : d.tmos.waits .restProbe = true) :
    d.credit = kbdRestProbeTicks := by
  simp [credit, hr, hf, hw]

/-- While the timer runs, it is what has run of the period. -/
theorem credit_armed {u : Nat} (hr : d.rests = true) (hf : d.first = true) (ht : d.tmos.timers .restProbe = some u)
    (hw : d.tmos.waits .restProbe = false) : d.credit = kbdRestProbeTicks - (u - d.tmos.now) := by
  simp [credit, hr, hf, ht, hw]

/-- Without a probe to come there is none. -/
theorem credit_dead (ht : d.tmos.timers .restProbe = none) (hw : d.tmos.waits .restProbe = false) : d.credit = 0 := by
  simp [credit, ht, hw]

/-- So has one whose timer is over. -/
theorem credit_past {u : Nat} (hr : d.rests = true) (hf : d.first = true) (ht : d.tmos.timers .restProbe = some u)
    (hu : u ≤ d.tmos.now) : d.credit = kbdRestProbeTicks := by
  simp [credit, hr, hf, ht, Nat.sub_eq_zero_of_le hu]

/-- The timer of the next probe has just started. -/
theorem credit_fresh (hq : d.tmos.queued .restProbe = none) (ht : d.tmos.timers .restProbe = some (d.tmos.now + kbdRestProbeTicks)) :
    d.credit = 0 := by
  simp [credit, Tmos.waits, hq, ht]

/-- A probe that starts leaves none queued. -/
theorem queued_probe (d : RfDoze) : (d.take .restProbe).probe.tmos.queued .restProbe = none := by
  simp [take, probe, Tmos.take, Tmos.startTask, Tmos.stopTask]

/-- A rest is entered with none queued. -/
theorem queued_enter (h : d.tmos.live .restProbe = false) : d.enter.tmos.queued .restProbe = none := by
  simpa [enter, Tmos.startTask, Tmos.stopTask] using Tmos.queued_of_dead h

/-- The next probe is due one period after the one that starts. -/
theorem timers_probe (d : RfDoze) : (d.take .restProbe).probe.tmos.timers .restProbe = some (d.tmos.now + kbdRestProbeTicks) := by
  simp [take, probe, Tmos.take, Tmos.startTask, Tmos.stopTask]

/-- The first one is due one period after the rest was entered. -/
theorem timers_enter (d : RfDoze) : d.enter.tmos.timers .restProbe = some (d.tmos.now + kbdRestProbeTicks) := by
  simp [enter, Tmos.startTask, Tmos.stopTask]

/-- The end of a probe leaves the next one queued as it was. -/
theorem queued_probeEnd (d : RfDoze) : d.probeEnd.tmos.queued .restProbe = d.tmos.queued .restProbe := by
  simp [probeEnd, Tmos.stopTask]

/-- It leaves its timer, too. -/
theorem timers_probeEnd (d : RfDoze) : d.probeEnd.tmos.timers .restProbe = d.tmos.timers .restProbe := by
  simp [probeEnd, Tmos.stopTask]

/-- The time in the first stage pays for the probes. -/
theorem Step.credit_le (hstep : Step op n d d') (ho : op.OnTime d.tmos) :
    kbdRestProbeTicks * n + d'.credit ≤ d.credit + if d.rests && d.first then d'.tmos.now - d.tmos.now else 0 := by
  have hle := d'.credit_le
  cases hstep with
  | stays hs =>
    rw [credit_congr hs.rests hs.first (hs.timers _ rfl) (hs.queued _ rfl) hs.now]
    omega
  | ended hended =>
    rw [credit_ended fun hr => absurd (hended.rests.symm.trans hr.1) (by decide)]
    omega
  | enter hprobe _ hs =>
    have hfresh : d'.credit = 0 :=
      credit_fresh ((hs.queued _ rfl).trans (queued_enter hprobe)) (by rw [hs.timers _ rfl, hs.now]; exact timers_enter d)
    omega
  | probe hn hfree hs =>
    have hfresh : d'.credit = 0 :=
      credit_fresh ((hs.queued _ rfl).trans (queued_probe d)) (by rw [hs.timers _ rfl, hs.now]; exact timers_probe d)
    have hfull := credit_queued hfree.1 hfree.2.2 (Tmos.next_eq_some hn)
    omega
  | probeEnd _ hs =>
    have hsame : d'.credit = d.probeEnd.credit := credit_congr hs.rests hs.first (hs.timers _ rfl) (hs.queued _ rfl) hs.now
    have hkept : d.probeEnd.credit = d.credit := credit_congr rfl rfl (timers_probeEnd d) (queued_probeEnd d) rfl
    omega
  | @skip d e hn _ _ _ =>
    by_cases hrf : d.rests = true ∧ d.first = true
    · by_cases he : RfEvt.restProbe = e
      · subst he
        have hfull := credit_queued hrf.1 hrf.2 (Tmos.next_eq_some hn)
        omega
      · have hsame : (d.take e).credit = d.credit := credit_congr rfl rfl rfl (Function.update_of_ne he ..) rfl
        omega
    · have hnone : (d.take e).credit = 0 := credit_ended hrf
      omega
  | second _ =>
    rw [credit_ended fun hf => absurd hf.2 Bool.false_ne_true]
    omega
  | @expire e d =>
    by_cases hrf : d.rests = true ∧ d.first = true
    · by_cases he : RfEvt.restProbe = e
      · subst he
        cases ht : d.tmos.timers .restProbe with
        | none =>
          have hsame : ({ d with tmos := d.tmos.expire .restProbe } : RfDoze) = d := by rw [Tmos.expire_none ht]
          rw [hsame]
          omega
        | some u =>
          have hfull := credit_past hrf.1 hrf.2 ht (ho u ht)
          omega
      · have hsame : credit { d with tmos := d.tmos.expire e } = d.credit :=
          credit_congr rfl rfl (Tmos.expire_ne he).1 (Tmos.expire_ne he).2 (Tmos.expire_now ..)
        omega
    · have hnone : credit { d with tmos := d.tmos.expire e } = 0 := credit_ended hrf
      omega
  | @advance ticks d =>
    have hticks : (d.tmos.advance ticks).now - d.tmos.now = ticks := Nat.add_sub_cancel_left ..
    have hfull := credit_le { d with tmos := d.tmos.advance ticks }
    by_cases hrf : d.rests = true ∧ d.first = true
    · have hdozes : (d.rests && d.first) = true := Bool.and_eq_true_iff.2 hrf
      dsimp only
      rw [hticks, if_pos hdozes]
      by_cases hw : d.tmos.waits .restProbe = true
      · rw [credit_queued hrf.1 hrf.2 hw]
        omega
      · cases ht : d.tmos.timers .restProbe with
        | none =>
          have hnone : credit { d with tmos := d.tmos.advance ticks } = 0 := credit_dead ht (by simpa using hw)
          omega
        | some u =>
          have hbefore : d.credit = kbdRestProbeTicks - (u - d.tmos.now) := credit_armed hrf.1 hrf.2 ht (by simpa using hw)
          have hafter : credit { d with tmos := d.tmos.advance ticks } = kbdRestProbeTicks - (u - (d.tmos.now + ticks)) :=
            credit_armed (d := { d with tmos := d.tmos.advance ticks }) hrf.1 hrf.2 ht (by simpa using hw)
          omega
    · have hnone : credit { d with tmos := d.tmos.advance ticks } = 0 := credit_ended hrf
      rw [hnone]
      exact Nat.zero_le _

/-! ## How long the first stage lasts -/

/-- How long the first stage of a rest can still last. -/
def stageLeft (late : Nat) (d : RfDoze) : Nat := d.tmos.leftIf late (d.rests && d.first) .restStage2

/-- After the first stage nothing of it is left. -/
theorem stageLeft_ended (h : (d.rests && d.first) = false) : d.stageLeft late = 0 := Tmos.leftIf_off h

/-- A step that is not about the rest takes no time of the stage. -/
theorem Stays.stageLeft (h : Stays d d') : d'.stageLeft late = d.stageLeft late :=
  Tmos.leftIf_congr (by rw [h.rests, h.first]) (h.dueBy rfl) h.now

/-- The first stage lasts its time at most, and as long as its end may be late. -/
theorem Fits.stageLeft_le (h : d.Fits) : d.stageLeft late ≤ kbdRestStage2Ticks + late := by
  unfold stageLeft
  cases hrf : d.rests && d.first with
  | false =>
    rw [Tmos.leftIf_off rfl]
    exact Nat.zero_le _
  | true =>
    obtain ⟨hr, hfirst⟩ := Bool.and_eq_true_iff.1 hrf
    obtain ⟨u, hu, hle⟩ := h.first hr hfirst
    rw [Tmos.leftIf_on rfl hu]
    omega

/-- A rest brings in the time its first stage may last, and lasts at the expense of it. -/
theorem Step.stageLeft_le (hstep : Step op n d d') (hf : d.Fits) (ho : op.RestsBy late d.tmos) :
    (if d.rests && d.first then d'.tmos.now - d.tmos.now else 0) + d'.stageLeft late ≤
      d.stageLeft late + (kbdRestStage2Ticks + late) * (d'.entries - d.entries) := by
  cases hstep with
  | stays hs =>
    rw [lasts_none d d' _ hs.now, hs.stageLeft]
    omega
  | ended hended =>
    rw [lasts_none d d' _ hended.now, stageLeft_ended (by rw [hended.rests]; rfl)]
    exact Nat.zero_le _
  | enter _ hstage hs =>
    have hone : d'.entries - d.entries = 1 := by
      rw [hs.entries]
      exact Nat.add_sub_cancel_left ..
    have hle : d.enter.stageLeft late ≤ kbdRestStage2Ticks + late := (fits_enter hstage).stageLeft_le
    rw [lasts_none d d' _ hs.now, hs.stageLeft, hone]
    omega
  | probe _ hfree hs =>
    have hdue : (d.take .restProbe).probe.tmos.dueBy .restStage2 = d.tmos.dueBy .restStage2 := by
      rw [RfDoze.probe, Tmos.dueBy_start_ne _ (by decide), Tmos.dueBy_stop_ne (by decide), Tmos.dueBy_start_ne _ (by decide)]
      exact Tmos.dueBy_take_ne (by decide)
    have hsame : (d.take .restProbe).probe.stageLeft late = d.stageLeft late := Tmos.leftIf_congr rfl hdue rfl
    rw [lasts_none d d' _ hs.now, hs.stageLeft, hsame]
    omega
  | probeEnd _ hs =>
    have hsame : d.probeEnd.stageLeft late = d.stageLeft late := Tmos.leftIf_congr rfl (Tmos.dueBy_stop_ne (by decide)) rfl
    rw [lasts_none d d' _ hs.now, hs.stageLeft, hsame]
    omega
  | @skip d e _ _ _ hsecond =>
    rw [lasts_none d (d.take e) _ rfl]
    cases hrf : d.rests && d.first with
    | false =>
      rw [stageLeft_ended (d := d.take e) hrf]
      exact Nat.zero_le _
    | true =>
      have hfirst := (Bool.and_eq_true_iff.1 hrf).2
      have hne : RfEvt.restStage2 ≠ e := fun he => absurd ((hsecond he.symm).symm.trans hfirst) (by decide)
      have hsame : (d.take e).stageLeft late = d.stageLeft late := Tmos.leftIf_congr rfl (Tmos.dueBy_take_ne hne) rfl
      omega
  | second _ =>
    rw [lasts_none d (d.take .restStage2).second _ rfl, stageLeft_ended (Bool.and_false _)]
    exact Nat.zero_le _
  | @expire e d =>
    have hsame : stageLeft late { d with tmos := d.tmos.expire e } = d.stageLeft late :=
      Tmos.leftIf_congr rfl (Tmos.dueBy_expire ..) (Tmos.expire_now ..)
    rw [lasts_none d { d with tmos := d.tmos.expire e } _ (Tmos.expire_now ..), hsame]
    omega
  | @advance ticks d =>
    have hticks : (d.tmos.advance ticks).now - d.tmos.now = ticks := Nat.add_sub_cancel_left ..
    rw [hticks]
    refine Nat.le_add_right_of_le (Tmos.leftIf_advance fun hrf => ?_)
    obtain ⟨hr, hfirst⟩ := Bool.and_eq_true_iff.1 hrf
    obtain ⟨u, hu, -⟩ := hf.first hr hfirst
    exact ⟨u, hu, ho .restStage2 (by simp) u (Tmos.dueBy_due hu)⟩

/-! ## When the last probe started -/

/-- The next probe of a rest is due one period after the last one, and a probe that runs is to end after its time. -/
structure Paced (late last : Nat) (d : RfDoze) : Prop where
  due : d.tmos.dueBy .restProbe = some (last + kbdRestProbeTicks)
  since : last ≤ d.tmos.now
  inTime : d.tmos.now ≤ last + kbdRestProbeTicks + late
  prompt : ∀ u, d.tmos.queued .restProbe = some u → u ≤ d.tmos.now
  ends : d.probing = true → d.tmos.dueBy .restProbeTimeout = some (last + kbdRestProbeTimeoutTicks) ∧
    d.tmos.now ≤ last + kbdRestProbeTimeoutTicks + late

/-- A step that is not about the rest leaves the pace. -/
theorem Paced.stays {last : Nat} (h : d.Paced late last) (hs : Stays d d') : d'.Paced late last where
  due := (hs.dueBy rfl).trans h.due
  since := by rw [hs.now]; exact h.since
  inTime := by rw [hs.now]; exact h.inTime
  prompt u hu := by
    rw [hs.now]
    exact h.prompt u ((hs.queued _ rfl).symm.trans hu)
  ends hp := by
    rw [hs.dueBy rfl, hs.now]
    exact h.ends (hs.probing ▸ hp)

/-- No probe is skipped: the last one has ended when the next one is due. -/
theorem Paced.free {last : Nat} (h : d.Paced late last) (hlate : late < restGap) (hr : d.rests = true)
    (hfirst : d.first = true) (hn : d.tmos.next = some .restProbe) : d.Free := by
  refine ⟨hr, Bool.eq_false_iff.2 fun hp => ?_, hfirst⟩
  obtain ⟨u, hu⟩ := Option.isSome_iff_exists.mp (Tmos.next_eq_some hn)
  have hpast := h.prompt u hu
  obtain rfl : u = last + kbdRestProbeTicks := Option.some.inj ((Tmos.dueBy_queued hu).symm.trans h.due)
  have hend := (h.ends hp).2
  simp only [restGap, kbdRestProbeTicks, kbdRestProbeTimeoutTicks] at hlate hpast hend
  omega

/-- Every step of a rest in its first stage keeps the pace. -/
theorem Paced.step {last : Nat} (h : d.rests = true → d.first = true → d.Paced late last) (hlate : late < restGap)
    (hstep : Step op n d d') (ht : op.OnTime d.tmos) (ho : op.RestsBy late d.tmos) (hr : d'.rests = true) (hfirst : d'.first = true) :
    d'.Paced late (if n = 0 ∧ d'.entries - d.entries = 0 then last else d.tmos.now) := by
  cases hstep with
  | stays hs =>
    rw [if_pos ⟨rfl, by rw [hs.entries, Nat.sub_self]⟩]
    exact (h (hs.rests ▸ hr) (hs.first ▸ hfirst)).stays hs
  | ended hended => exact absurd (hended.rests.symm.trans hr) (by decide)
  | enter hprobe _ hs =>
    have hone : d'.entries - d.entries = 1 := by
      rw [hs.entries]
      exact Nat.add_sub_cancel_left ..
    have hnow : d.enter.tmos.now = d.tmos.now := rfl
    rw [if_neg fun hsame => absurd (hone.symm.trans hsame.2) (by decide)]
    refine Paced.stays ⟨?_, Nat.le_of_eq hnow.symm, by omega, fun u hu => ?_, fun hp => absurd hp Bool.false_ne_true⟩ hs
    · simp [Tmos.dueBy, queued_enter hprobe, timers_enter]
    · simp [queued_enter hprobe] at hu
  | probe _ hfree hs =>
    have hnow : (d.take .restProbe).probe.tmos.now = d.tmos.now := rfl
    rw [if_neg fun hsame => absurd hsame.1 (by decide)]
    refine Paced.stays ⟨?_, Nat.le_of_eq hnow.symm, by omega, fun u hu => ?_, fun _ => ⟨?_, by omega⟩⟩ hs
    · simp [Tmos.dueBy, queued_probe, timers_probe]
    · simp [queued_probe] at hu
    · exact Tmos.dueBy_start _ (by simp [Tmos.stopTask])
  | probeEnd _ hs =>
    have hentries : d'.entries - d.entries = 0 := by
      rw [hs.entries]
      exact Nat.sub_self _
    rw [if_pos ⟨rfl, hentries⟩]
    have hp := h (hs.rests.symm.trans hr) (hs.first.symm.trans hfirst)
    have hended : d.probeEnd.Paced late last :=
      ⟨(Tmos.dueBy_stop_ne (by decide)).trans hp.due, hp.since, hp.inTime,
        fun u hu => hp.prompt u ((queued_probeEnd d).symm.trans hu),
        fun hprobing => absurd hprobing Bool.false_ne_true⟩
    exact hended.stays hs
  | @skip d e hn hskip hend _ =>
    rw [if_pos ⟨rfl, Nat.sub_self _⟩]
    have hp : d.Paced late last := h hr hfirst
    have hne : RfEvt.restProbe ≠ e := by
      rintro rfl
      exact hskip rfl (hp.free hlate hr hfirst hn)
    refine ⟨(Tmos.dueBy_take_ne hne).trans hp.due, hp.since, hp.inTime,
      fun u hu => hp.prompt u ((Function.update_of_ne hne ..).symm.trans hu), fun hprobing => ?_⟩
    have hne' : RfEvt.restProbeTimeout ≠ e := fun he => absurd ((hend he.symm).symm.trans hprobing) (by decide)
    rw [RfDoze.take, Tmos.dueBy_take_ne hne']
    exact hp.ends hprobing
  | second _ => exact absurd hfirst Bool.false_ne_true
  | @expire e d =>
    rw [if_pos ⟨rfl, Nat.sub_self _⟩]
    have hp : d.Paced late last := h hr hfirst
    refine ⟨(Tmos.dueBy_expire ..).trans hp.due, ?_, ?_, fun u hu => ?_, fun hprobing => ?_⟩
    · rw [Tmos.expire_now]
      exact hp.since
    · rw [Tmos.expire_now]
      exact hp.inTime
    · rw [Tmos.expire_now]
      have hdue := (Tmos.dueBy_expire d.tmos e .restProbe).symm.trans (Tmos.dueBy_queued hu)
      rcases Tmos.dueBy_due hdue with htimer | hqueued
      · by_cases he : RfEvt.restProbe = e
        · exact ht u (he ▸ htimer)
        · exact hp.prompt u ((Tmos.expire_ne he).2.symm.trans hu)
      · exact hp.prompt u hqueued
    · rw [Tmos.dueBy_expire, Tmos.expire_now]
      exact hp.ends hprobing
  | @advance ticks d =>
    rw [if_pos ⟨rfl, Nat.sub_self _⟩]
    have hp : d.Paced late last := h hr hfirst
    have hby {e : RfEvt} {u : Nat} (he : e ∈ [RfEvt.restProbe, .restProbeTimeout, .restStage2]) (hu : d.tmos.dueBy e = some u) :
        d.tmos.now + ticks ≤ u + late := ho e he u (Tmos.dueBy_due hu)
    refine ⟨hp.due, Nat.le_add_right_of_le hp.since, hby (by simp) hp.due,
      fun u hu => Nat.le_add_right_of_le (hp.prompt u hu), fun hprobing => ?_⟩
    exact ⟨(hp.ends hprobing).1, hby (by simp) (hp.ends hprobing).1⟩

end RfDoze

/-! ## The RF task -/

/-- A keyboard that boots does not rest. -/
theorem rests_doze_booted {s : Rf} (h : RfBooted s) : s.doze.rests = false := by
  obtain ⟨mac, macValid, flash, hw, rfl⟩ := h
  simp only [Rf.doze, RfLink.doze, Rf.link, rfTaskInit]
  split <;> rfl

/-- So nothing has to be due. -/
theorem fits_doze_booted {s : Rf} (h : RfBooted s) : s.doze.Fits := by
  refine ⟨fun hp => ?_, fun hr => absurd ((rests_doze_booted h).symm.trans hr) (by decide)⟩
  obtain ⟨mac, macValid, flash, hw, rfl⟩ := h
  have hnone : (rfTaskInit mac macValid flash hw).doze.probing = false := rfl
  exact absurd (hnone.symm.trans hp) (by decide)

/-- In every state that is reached the ends are due. -/
theorem fits_doze_reach {s : Rf} (h : RfReach s) : s.doze.Fits := by
  refine Reach.invariant (I := fun s => s.doze.Fits) (fun s => fits_doze_booted) ?_ h
  rintro op s t hs hf rfl
  exact hf.step (doze_apply op (RfLink.inv_reach hs) (clear_reach hs))

/-- The radio is on in a rest only while it probes. -/
theorem radioOn_le {s : Rf} (h : RfReach s) (op : RfOp) :
    op.radioOn s ≤ if s.doze.probing then (op.apply s).doze.tmos.now - s.doze.tmos.now else 0 := by
  unfold RfOp.radioOn
  split
  · rename_i hon
    obtain ⟨⟨hrests, hwake⟩, hshut⟩ := hon
    have hprobe : s.rest.probe = true := by
      refine hrests.resolve_left fun hr => ?_
      have hasleep : s.radio.shut = true := sleepOk_disturbed h.disturbed (if_pos (.inr hr))
      exact absurd (hshut.symm.trans hasleep) (by decide)
    have hprobing : s.doze.probing = true := by simp [Rf.doze, RfLink.doze, Rf.link, hprobe, hwake]
    rw [if_pos hprobing]
    exact Nat.le_refl _
  · exact Nat.zero_le _

end OpenController
