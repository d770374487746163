import OpenController.Lemmas.RfDutyRun
import OpenController.Theorems.RfRotation

/-!
# The duty cycle of the search

In a search for the bonded dongle the receiver listens for `KBD_PAIR_RX_WINDOW_TICKS` of every `RF_PAIR_BCAST_TICKS`, and no window is
cut short by the end of an earlier one.
-/

namespace OpenController

variable {late : Nat} {ops : List RfOp} {s : Rf}

/-! ## No more than its share -/

/-- The time that passes in a run. -/
theorem total_ticks (ops : List RfOp) (s : Rf) : s.tmos.now + s.total RfOp.ticks ops = (s.after ops).tmos.now :=
  Potential.total_growth (m := fun s : Rf => s.tmos.now) (I := fun _ => True) (fun _ _ _ => trivial)
    (fun op s _ => (duty_apply op s).grows.1) trivial

/-- The entries into PAIRING of a run. -/
theorem total_enters (ops : List RfOp) (s : Rf) :
    s.trace.pairEntries + s.total RfOp.enters ops = (s.after ops).trace.pairEntries :=
  Potential.total_growth (m := fun s : Rf => s.trace.pairEntries) (I := fun _ => True) (fun _ _ _ => trivial)
    (fun op s _ => (duty_apply op s).grows.2) trivial

/-- The receiver listens at the expense of the beacons and of the entries into PAIRING. -/
theorem listened_le (hf : s.duty.Fits) (hk : s.EndsBy late ops) :
    s.total RfOp.listened ops ≤
      (kbdPairRxWindowTicks + late) * (s.total RfOp.beacons ops + s.total RfOp.enters ops + 1) := by
  have hpaid := hk.total_le (I := fun s => s.duty.Fits) (φ := fun s => s.duty.left late) (f := RfOp.listened)
    (g := fun op s => (kbdPairRxWindowTicks + late) * (op.beacons s + op.enters s))
    (fun op s hs _ => hs.step (duty_apply op s)) (fun op s hs ho => (duty_apply op s).left_le hs ho.2) hf
  rw [Potential.total_mul, Potential.total_add] at hpaid
  have hstart : s.duty.left late ≤ kbdPairRxWindowTicks + late := hf.left_le
  rw [Nat.mul_add, Nat.mul_one]
  unfold Rf.total
  omega

/-- Time and the entries into PAIRING pay for the beacons. -/
theorem beacons_le (hk : s.EndsBy late ops) :
    rfPairBcastTicks * s.total RfOp.beacons ops ≤ s.total RfOp.ticks ops + rfPairBcastTicks * (s.total RfOp.enters ops + 1) := by
  have hpaid := hk.total_le (I := fun _ => True) (φ := fun s => s.duty.credit) (f := fun op s => rfPairBcastTicks * op.beacons s)
    (g := fun op s => op.ticks s + rfPairBcastTicks * op.enters s) (fun _ _ _ _ => trivial)
    (fun op s _ ho => (duty_apply op s).credit_le ho.1) trivial
  rw [Potential.total_mul, Potential.total_add, Potential.total_mul] at hpaid
  have hstart := s.duty.credit_le
  rw [Nat.mul_add, Nat.mul_one]
  unfold Rf.total
  omega

/-- From any state that is reached, however a run goes on: the receiver listens in searches for no more than
`KBD_PAIR_RX_WINDOW_TICKS` of every `RF_PAIR_BCAST_TICKS` that pass, and two windows for the start and for each entry into PAIRING.
Where the end of a window is handled late, each window is longer by that. -/
theorem search_duty (h : RfReach s) (hk : s.EndsBy late ops) :
    rfPairBcastTicks * s.total RfOp.listened ops ≤ (kbdPairRxWindowTicks + late) *
      ((s.after ops).tmos.now - s.tmos.now +
        2 * rfPairBcastTicks * ((s.after ops).trace.pairEntries - s.trace.pairEntries + 1)) := by
  have hticks := total_ticks ops s
  have henters := total_enters ops s
  have hlistened := Nat.mul_le_mul_left rfPairBcastTicks (listened_le (fits_reach h) hk)
  have hwindows : rfPairBcastTicks * (s.total RfOp.beacons ops + s.total RfOp.enters ops + 1) ≤
      s.total RfOp.ticks ops + 2 * rfPairBcastTicks * (s.total RfOp.enters ops + 1) := by
    have hbeacons := beacons_le hk
    rw [Nat.add_assoc, Nat.mul_add, Nat.mul_assoc 2]
    omega
  calc rfPairBcastTicks * s.total RfOp.listened ops
      ≤ rfPairBcastTicks * ((kbdPairRxWindowTicks + late) * (s.total RfOp.beacons ops + s.total RfOp.enters ops + 1)) := hlistened
    _ = (kbdPairRxWindowTicks + late) * (rfPairBcastTicks * (s.total RfOp.beacons ops + s.total RfOp.enters ops + 1)) :=
        Nat.mul_left_comm ..
    _ ≤ (kbdPairRxWindowTicks + late) *
          (s.total RfOp.ticks ops + 2 * rfPairBcastTicks * (s.total RfOp.enters ops + 1)) := Nat.mul_le_mul_left _ hwindows
    _ = _ := by rw [← hticks, ← henters, Nat.add_sub_cancel_left, Nat.add_sub_cancel_left]

/-- Beacons to which nobody answers. The timers expire and their events are handled at once. -/
def searchOn (beacons : Nat) : List RfOp :=
  (List.replicate beacons
    [RfOp.process, .txFinish, .process, .advance 6, .expire .pairRxOff, .process, .advance 26, .expire .pairBcast]).flatten

/-- Three beacons: the receiver listens for 18 ticks of 96. -/
theorem search_duty_unanswered : bondedKeyboard.total RfOp.listened (searchOn 3) = 18 ∧
    (bondedKeyboard.after (searchOn 3)).tmos.now = 96 ∧
    rfPairBcastTicks * bondedKeyboard.total RfOp.listened (searchOn 3) ≤ (kbdPairRxWindowTicks + 0) *
      ((bondedKeyboard.after (searchOn 3)).tmos.now - bondedKeyboard.tmos.now +
        2 * rfPairBcastTicks * ((bondedKeyboard.after (searchOn 3)).trace.pairEntries - bondedKeyboard.trace.pairEntries + 1)) :=
  ⟨by decide +kernel, by decide +kernel, search_duty (.init ⟨_, _, _, _, rfl⟩) (by decide +kernel)⟩

/-! ## No less than its window -/

/-- In a run whose timers expire on time, a window of a search that ends because its time is over was listened in for all of it: when
`RF_EVT_PAIR_RX_OFF` is handled, the receiver has listened for `KBD_PAIR_RX_WINDOW_TICKS` without a break, and it is shut. -/
theorem window_in_full {w : RfStreak} (h : RfStreakReach w) (hs : w.rf.duty.searching = true)
    (hn : w.rf.tmos.next = some .pairRxOff) :
    w.rf.duty.listens = true ∧ kbdPairRxWindowTicks ≤ w.heard ∧ (RfOp.process.apply w.rf).duty.listens = false := by
  obtain ⟨hf, hheard⟩ := heard_reach h
  obtain ⟨u, hu, -⟩ := hf.ends hs hn
  obtain ⟨hlong, hpast⟩ := hheard hs u hu
  have hend : u ≤ w.rf.tmos.now := hpast (hu.ends hn).2
  have hnow : w.rf.duty.tmos.now = w.rf.tmos.now := rfl
  refine ⟨hu.listens hs, by omega, ?_⟩
  have hshut : (RfOp.process.apply w.rf).duty = (w.rf.duty.take .pairRxOff).close := by
    show (tmosProcess.run w.rf).2.duty = _
    rw [run_tmosProcess hn]
    exact duty_onPairRxOff hs
  rw [hshut]
  exact Bool.and_false _

/-- The states of the meter after a list of things that happen. -/
def RfStreak.after (w : RfStreak) (ops : List RfOp) : RfStreak := ops.foldl (fun w op => w.apply op) w

theorem RfStreakReach.after {w : RfStreak} (h : RfStreakReach w) {ops : List RfOp}
    (hk : Potential.Along RfStreak.apply (fun op w => op.OnTime w.rf.tmos) ops w) : RfStreakReach (w.after ops) := by
  induction ops generalizing w with
  | nil => exact h
  | cons op ops ih => exact ih (.step op h ⟨hk.1, rfl⟩) hk.2

/-- A beacon is sent late, while the end of its last window is queued: the end that is handled in the new window is its own. -/
def beaconLate : List RfOp :=
  [.process, .txFinish, .process, .advance 32, .expire .pairRxOff, .expire .pairBcast, .process, .txFinish, .process, .advance 6,
    .expire .pairRxOff]

theorem window_in_full_beaconLate :
    (RfStreak.after ⟨bondedKeyboard, 0⟩ beaconLate).rf.duty.listens = true ∧
    kbdPairRxWindowTicks ≤ (RfStreak.after ⟨bondedKeyboard, 0⟩ beaconLate).heard ∧
    (RfOp.process.apply (RfStreak.after ⟨bondedKeyboard, 0⟩ beaconLate).rf).duty.listens = false := by
  have hreach : RfStreakReach (RfStreak.after ⟨bondedKeyboard, 0⟩ beaconLate) :=
    RfStreakReach.after (.init ⟨⟨_, _, _, _, rfl⟩, rfl⟩) (by decide +kernel)
  exact window_in_full hreach (by decide +kernel) (by decide +kernel)

end OpenController
