import OpenController.Lemmas.RfCadenceRun
import OpenController.Theorems.RfDuty

/-!
# The cadence of the rest

In the first stage of a rest the link probes its dongle every `KBD_REST_PROBE_TICKS`, and no probe is left out. In a rest the radio is
on only in the probes, for no more than `KBD_REST_PROBE_TIMEOUT_TICKS` each, and the first stage lasts no longer than
`KBD_REST_STAGE2_TICKS`.
-/

namespace OpenController

variable {late : Nat} {ops : List RfOp} {s : Rf}

/-! ## How long the radio is on -/

theorem doze_apply_reach (h : RfReach s) (op : RfOp) : RfDoze.Step op (op.probes s) s.doze (op.apply s).doze :=
  doze_apply op (RfLink.inv_reach h) (clear_reach h)

/-- The radio is on at the expense of the probes. -/
theorem radioOn_total_le (h : RfReach s) (hk : s.RestsBy late ops) :
    s.total RfOp.radioOn ops ≤ (kbdRestProbeTimeoutTicks + late) * (s.total RfOp.probes ops + 1) := by
  have hpaid := hk.total_le (I := RfReach) (φ := fun s => s.doze.probeLeft late) (f := RfOp.radioOn)
    (g := fun op s => (kbdRestProbeTimeoutTicks + late) * op.probes s) (fun op s hs _ => .step op hs rfl)
    (fun op s hs ho => by
      have hon := radioOn_le hs op
      have hprobe := (doze_apply_reach hs op).probeLeft_le (fits_doze_reach hs) ho.2
      omega) h
  rw [Potential.total_mul] at hpaid
  have hstart : s.doze.probeLeft late ≤ kbdRestProbeTimeoutTicks + late := (fits_doze_reach h).probeLeft_le
  rw [Nat.mul_add, Nat.mul_one]
  unfold Rf.total
  omega

theorem rests_doze : s.doze.rests = true ↔ s.Rests := by
  have hdoze : s.doze.rests = ((decide (s.state = .resting) || s.rest.probe) && !s.rest.probeWake) := rfl
  simp [hdoze, Rf.Rests]

theorem first_doze : s.doze.first = true ↔ s.rest.stage = 1 := decide_eq_true_iff

theorem dozed_eq (op : RfOp) (s : Rf) :
    op.dozed s = if s.doze.rests && s.doze.first then (op.apply s).doze.tmos.now - s.doze.tmos.now else 0 := by
  have hdozes : (s.doze.rests && s.doze.first) = true ↔ s.Rests ∧ s.rest.stage = 1 := by
    rw [Bool.and_eq_true_iff, rests_doze, first_doze]
  unfold RfOp.dozed
  simp only [hdozes]
  rfl

/-- The time in the first stage pays for the probes. -/
theorem probes_total_le (h : RfReach s) (hk : s.RestsBy late ops) :
    kbdRestProbeTicks * s.total RfOp.probes ops ≤ s.total RfOp.dozed ops + kbdRestProbeTicks := by
  have hpaid := hk.total_le (I := RfReach) (φ := fun s => s.doze.credit) (f := fun op s => kbdRestProbeTicks * op.probes s)
    (g := RfOp.dozed) (fun op s hs _ => .step op hs rfl)
    (fun op s hs ho => by
      rw [dozed_eq]
      exact (doze_apply_reach hs op).credit_le ho.1) h
  rw [Potential.total_mul] at hpaid
  have hstart := s.doze.credit_le
  unfold Rf.total
  omega

/-- From any state that is reached, however a run goes on: in its rests the radio is on for no more than
`KBD_REST_PROBE_TIMEOUT_TICKS` of every `KBD_REST_PROBE_TICKS` that pass in the first stage, and two probes. Where the events of a rest
are handled late, each probe is longer by that. -/
theorem rest_duty (h : RfReach s) (hk : s.RestsBy late ops) :
    kbdRestProbeTicks * s.total RfOp.radioOn ops ≤
      (kbdRestProbeTimeoutTicks + late) * (s.total RfOp.dozed ops + 2 * kbdRestProbeTicks) := by
  have hprobes := probes_total_le h hk
  calc kbdRestProbeTicks * s.total RfOp.radioOn ops
      ≤ kbdRestProbeTicks * ((kbdRestProbeTimeoutTicks + late) * (s.total RfOp.probes ops + 1)) :=
        Nat.mul_le_mul_left _ (radioOn_total_le h hk)
    _ = (kbdRestProbeTimeoutTicks + late) * (kbdRestProbeTicks * s.total RfOp.probes ops + kbdRestProbeTicks) := by
        rw [Nat.mul_left_comm, Nat.mul_add, Nat.mul_one]
    _ ≤ _ := Nat.mul_le_mul_left _ (by omega)

/-- A rest whose probes nobody answers. The timers expire and their events are handled at once. -/
def restOn (probes : Nat) : List RfOp :=
  .advance kbdRestProbeTicks :: (List.replicate probes
    [RfOp.expire .restProbe, .process, .process, .txFinish, .process, .advance kbdRestProbeTimeoutTicks, .expire .restProbeTimeout,
      .process, .advance restGap]).flatten

/-- A keyboard that rests. -/
def restingKeyboard : Rf := newKeyboard.after (pairUp ++ connectAndRest)

/-- Two probes: the radio is on for 1280 ticks of 4848. -/
theorem rest_duty_unanswered : restingKeyboard.total RfOp.radioOn (restOn 2) = 1280 ∧
    restingKeyboard.total RfOp.dozed (restOn 2) = 4848 ∧
    kbdRestProbeTicks * restingKeyboard.total RfOp.radioOn (restOn 2) ≤
      (kbdRestProbeTimeoutTicks + 0) * (restingKeyboard.total RfOp.dozed (restOn 2) + 2 * kbdRestProbeTicks) :=
  ⟨by decide +kernel, by decide +kernel, rest_duty (RfReach.after (.init ⟨_, _, _, _, rfl⟩) _) (by decide +kernel)⟩

/-! ## How long the first stage lasts -/

/-- The entries into a rest of a run. -/
theorem total_restEnters (h : RfReach s) (ops : List RfOp) :
    s.trace.restEntries + s.total RfOp.restEnters ops = (s.after ops).trace.restEntries :=
  Potential.total_growth (m := fun s : Rf => s.trace.restEntries) (I := RfReach) (fun op _ hs => .step op hs rfl)
    (fun op _ hs => (doze_apply_reach hs op).entries_le) h

/-- From any state that is reached, however a run goes on: the link is in the first stage of a rest for no more than
`KBD_REST_STAGE2_TICKS` for the start and for each entry into a rest, and what its events are handled late. -/
theorem first_stage_ends (h : RfReach s) (hk : s.RestsBy late ops) :
    s.total RfOp.dozed ops ≤
      (kbdRestStage2Ticks + late) * ((s.after ops).trace.restEntries - s.trace.restEntries + 1) := by
  have hpaid := hk.total_le (I := RfReach) (φ := fun s => s.doze.stageLeft late) (f := RfOp.dozed)
    (g := fun op s => (kbdRestStage2Ticks + late) * op.restEnters s) (fun op s hs _ => .step op hs rfl)
    (fun op s hs ho => by
      rw [dozed_eq]
      exact (doze_apply_reach hs op).stageLeft_le (fits_doze_reach hs) ho.2) h
  rw [Potential.total_mul] at hpaid
  have hstart : s.doze.stageLeft late ≤ kbdRestStage2Ticks + late := (fits_doze_reach h).stageLeft_le
  have henters : s.trace.restEntries + Potential.total RfOp.apply RfOp.restEnters ops s = (s.after ops).trace.restEntries :=
    total_restEnters h ops
  rw [← henters, Nat.add_sub_cancel_left, Nat.mul_add, Nat.mul_one]
  unfold Rf.total
  omega

/-- The second stage begins, and the link sleeps on. -/
def sleepOn : List RfOp := [.advance kbdRestStage2Ticks, .expire .restStage2, .process, .advance 4000]

theorem first_stage_ends_sleepOn : restingKeyboard.total RfOp.dozed sleepOn = kbdRestStage2Ticks ∧
    restingKeyboard.total RfOp.dozed sleepOn ≤ (kbdRestStage2Ticks + kbdRestStage2Ticks) *
      ((restingKeyboard.after sleepOn).trace.restEntries - restingKeyboard.trace.restEntries + 1) :=
  ⟨by decide +kernel, first_stage_ends (RfReach.after (.init ⟨_, _, _, _, rfl⟩) _) (by decide +kernel)⟩

/-! ## When the probes start -/

theorem paced_reach {w : RfPaced} (h : RfPacedReach late w) (hlate : late < restGap) :
    RfReach w.rf ∧ (w.rf.doze.rests = true → w.rf.doze.first = true → w.rf.doze.Paced late w.last) := by
  refine Reach.invariant
    (I := fun w => RfReach w.rf ∧ (w.rf.doze.rests = true → w.rf.doze.first = true → w.rf.doze.Paced late w.last)) ?_ ?_ h
  · intro w hb
    exact ⟨.init hb, fun hr => absurd ((rests_doze_booted hb).symm.trans hr) (by decide)⟩
  · rintro op w w' - ⟨hs, hp⟩ ⟨⟨ht, ho⟩, rfl⟩
    exact ⟨.step op hs rfl, fun hr hfirst => RfDoze.Paced.step hp hlate (doze_apply_reach hs op) ht ho hr hfirst⟩

/-- In a run whose timers expire no earlier than their deadlines, and whose events are handled on time, or less late than a probe and
the next one are apart, while the link is in the first stage of a rest: the last probe, or the entry into the rest, is no further back
than `KBD_REST_PROBE_TICKS`; the next one does not start before; and it is not left out, since the handler of its event starts it. -/
theorem probes_keep_time {w : RfPaced} (h : RfPacedReach late w) (hlate : late < restGap) (hr : w.rf.Rests)
    (hs : w.rf.rest.stage = 1) :
    w.last ≤ w.rf.tmos.now ∧ w.rf.tmos.now ≤ w.last + kbdRestProbeTicks + late ∧
    (w.rf.tmos.next = some .restProbe → (RfOp.process.apply w.rf).ProbeStarted ∧ w.last + kbdRestProbeTicks ≤ w.rf.tmos.now) := by
  obtain ⟨hreach, hpaced⟩ := paced_reach h hlate
  have hrests : w.rf.doze.rests = true := rests_doze.2 hr
  have hfirst : w.rf.doze.first = true := first_doze.2 hs
  have hp := hpaced hrests hfirst
  refine ⟨hp.since, hp.inTime, fun hn => ⟨?_, ?_⟩⟩
  · have hsilent : w.rf.rest.probe = false := by
      simpa [Rf.doze, RfLink.doze, Rf.link, hr.2] using (hp.free hlate hrests hfirst hn).2.1
    have hresting : w.rf.state = .resting := hr.1.resolve_right (by simp [hsilent])
    have hstarts : w.rf.StartsProbe := ⟨hn, hresting, hs⟩
    exact hstarts.process (RfLink.inv_reach hreach)
  · obtain ⟨u, hu⟩ := Option.isSome_iff_exists.mp (Tmos.next_eq_some hn)
    have hdue : w.last + kbdRestProbeTicks = u := Option.some.inj (hp.due.symm.trans (Tmos.dueBy_queued hu))
    exact hdue ▸ hp.prompt u hu

/-- The states of the meter after a list of things that happen. -/
def RfPaced.after (w : RfPaced) (ops : List RfOp) : RfPaced := ops.foldl (fun w op => w.apply op) w

theorem RfPacedReach.after {w : RfPaced} (h : RfPacedReach late w) {ops : List RfOp}
    (hk : Potential.Along RfPaced.apply (fun op w => op.OnTime w.rf.tmos ∧ op.RestsBy late w.rf.tmos) ops w) :
    RfPacedReach late (w.after ops) := by
  induction ops generalizing w with
  | nil => exact h
  | cons op ops ih => exact ih (.step op h ⟨hk.1, rfl⟩) hk.2

/-- The keyboard pairs, rests after its time and probes once, and its next probe is due. -/
def probeDue : List RfOp :=
  pairUp ++ [.process, .advance kbdRestIdleTicks, .expire .restIdle, .process] ++ restOn 1 ++ [.expire .restProbe]

theorem probes_keep_time_probeDue :
    (RfPaced.after ⟨newKeyboard, 0⟩ probeDue).last = kbdRestIdleTicks + kbdRestProbeTicks ∧
    (RfOp.process.apply (RfPaced.after ⟨newKeyboard, 0⟩ probeDue).rf).ProbeStarted ∧
    (RfPaced.after ⟨newKeyboard, 0⟩ probeDue).last + kbdRestProbeTicks ≤
      (RfPaced.after ⟨newKeyboard, 0⟩ probeDue).rf.tmos.now := by
  have hreach : RfPacedReach 0 (RfPaced.after ⟨newKeyboard, 0⟩ probeDue) :=
    RfPacedReach.after (.init ⟨_, _, _, _, rfl⟩) (by decide +kernel)
  have hnext := (probes_keep_time hreach (by decide) (by decide +kernel) (by decide +kernel)).2.2
  exact ⟨by decide +kernel, hnext (by decide +kernel)⟩

end OpenController
