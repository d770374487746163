import OpenController.Lemmas.RfCatchUpRun

/-!
# The hop catches up, whatever the schedule

However many calls it takes and however many of them are clamped, the index and the anchor go on together, so two schedules that have
caught up are on one channel, but at the boundary of a tick.
-/

namespace OpenController

open Prog

variable {start now later : Int} {s₀ s t : Rf} {k r n : Nat}

/-! ## The run of the calls -/

theorem rtcAhead_rtcAt {x y : Int} (h : x ≤ y) (hlt : y - x < 2831155200) : (rtcAhead (rtcAt y) (rtcAt x) : Int) = y - x := by
  obtain ⟨hx, rx, hrx⟩ := rtcAt_spec x
  obtain ⟨hy, ry, hry⟩ := rtcAt_spec y
  rw [rtcAhead, rtc32kWrap_eq]
  omega

/-- The session goes on, so many steps further, its anchor at most `RF_HOP_DESYNC_INTERVALS` intervals ago. -/
structure Rf.Catching (start now : Int) (s₀ : Rf) (k r : Nat) (s : Rf) : Prop extends RfHop.Stepped start now k r s₀.hop s.hop where
  connected : s.state = .connected
  idle : s.resp.responsePending = false
  noEnd : s.rest.quietPending = false
  locked : s.hop.provisional = false
  interval : s.hop.connInterval = s₀.hop.connInterval
  since : r = 1 → 2 ≤ s.hop.sinceRx
  lag : now - (start + k * s₀.hop.connInterval - r) ≤ s₀.hop.connInterval * rfHopDesyncIntervals

namespace Rf.Catching

theorem anchorTime (h : Rf.Catching start now s₀ k r s) (hi : HopInterval s₀.hop.connInterval) :
    s.anchorTime now = start + k * s₀.hop.connInterval - r := by
  have hlag := h.lag
  have hhi := hi.2
  rw [rfHopDesyncIntervals] at hlag
  rw [Rf.anchorTime, h.anchor, rtcAhead_rtcAt h.past (by omega)]
  omega

theorem hop (h : Rf.Catching start now s₀ k r s) (hi : HopInterval s₀.hop.connInterval) : s.hop.InRange := by
  refine ⟨h.interval.symm ▸ hi, ?_, ?_⟩
  · rw [h.index]
    exact Nat.mod_lt _ (by decide)
  · rw [h.anchor]
    exact rtcAt_lt _

/-- A call makes some steps more, and is done or has made five. -/
theorem call (h : Rf.Catching start now s₀ k r s) (hi : HopInterval s₀.hop.connInterval) (hle : now ≤ later)
    (hlag : later - (start + k * s₀.hop.connInterval - r) ≤ s₀.hop.connInterval * rfHopDesyncIntervals) (ht : TickAt later s t) :
    ∃ step r', Rf.Catching start later s₀ (k + step) r' t ∧
      (later - (start + (k + step : Nat) * s₀.hop.connInterval - r') ≤ s₀.hop.connInterval ∨ step = 5 ∧ r' = r) := by
  have hset : s.hop.interval = s.hop.connInterval := by
    have hlo := hi.1
    rw [RfHop.interval, if_pos (by rw [h.interval]; omega)]
  have hquieted : t.Quieted (s.hop.advance (rtcAt later) s.hop.interval).1 (rtcAt later) :=
    quieted_rfConnectedTick (s.atTime later) () t ⟨h.connected, rfl, rfl, h.idle, h.noEnd⟩ ht
  have hpast : start + k * s₀.hop.connInterval - r ≤ later := Int.le_trans h.past hle
  obtain ⟨step, r', hadv⟩ := RfHop.advances (h.hop hi) h.locked h.anchor hpast (by rw [h.interval]; exact hlag)
  rw [← hset, ← hquieted.hop] at hadv
  have hinterval := h.interval
  have hway : ((k + step : Nat) : Int) * s₀.hop.connInterval = k * s₀.hop.connInterval + step * s₀.hop.connInterval := by
    rw [Int.natCast_add, Int.add_mul]
  -- the tick is given back once
  obtain ⟨back, hback, hback1, hsince⟩ : ∃ back : Nat, back = r + r' ∧ back ≤ 1 ∧ (back = 1 → 2 ≤ t.hop.sinceRx) := by
    have hr1 := h.back
    rcases hadv.back with rfl | ⟨rfl, _, hone, htwo⟩
    · exact ⟨r, rfl, hr1, fun hr => hadv.since (h.since hr)⟩
    · refine ⟨r + 1, rfl, ?_, fun _ => by omega⟩
      by_contra hr
      have := h.since (by omega)
      omega
  have hstep0 : r' = 1 → step = 1 := fun hr' => hadv.back.elim (fun h0 => by omega) fun h1 => h1.2.1
  have hway1 : (r' : Int) ≤ step * s₀.hop.connInterval := by
    have hlo := hi.1
    rcases hadv.back with rfl | ⟨rfl, rfl, _⟩
    · exact Int.mul_nonneg (Int.natCast_nonneg _) (Int.natCast_nonneg _)
    · omega
  have hpast' := hadv.past
  have hend := hadv.lag
  have hanchor := hadv.anchor
  rw [hinterval] at hpast' hend hanchor
  refine ⟨step, back, ⟨⟨hback1, ?_, ?_, ?_⟩, hquieted.connected, hquieted.idle, hquieted.noEnd, hadv.locked,
    hadv.interval.trans hinterval, hsince, ?_⟩, ?_⟩
  · rw [hadv.index, h.index, Nat.mod_add_mod, Nat.add_assoc]
  · rw [hanchor, hway]
    exact congrArg rtcAt (by omega)
  · rw [hway]
    omega
  · rw [hway]
    omega
  · rw [hway]
    rcases hend with hdone | hfive
    · exact .inl (by omega)
    · exact .inr ⟨hfive, by omega⟩

theorem init (h : s₀.InSession start) (hquiet : s₀.rest.quietPending = false) : Rf.Catching start start s₀ 0 0 s₀ := by
  have hindex : s₀.hop.prevDataIdx = (s₀.hop.prevDataIdx + 0) % numDataChannels := (Nat.mod_eq_of_lt h.hop.index).symm
  have hstart : start + (0 : Nat) * s₀.hop.connInterval - (0 : Nat) = start := by omega
  refine ⟨⟨by decide, hindex, ?_, ?_⟩, h.connected, h.idle, hquiet, h.locked, rfl, nofun, ?_⟩
  · rw [hstart]
    exact h.anchor
  · omega
  · rw [hstart, rfHopDesyncIntervals]
    omega

theorem run (h : s₀.InSession start) (hquiet : s₀.rest.quietPending = false) (hr : TickRun start s₀ now s) :
    ∃ k r, Rf.Catching start now s₀ k r s := by
  induction hr with
  | start => exact ⟨0, 0, .init h hquiet⟩
  | call _ hle hlag ht ih =>
    obtain ⟨k, r, hs⟩ := ih
    rw [hs.anchorTime h.hop.interval, hs.interval] at hlag
    obtain ⟨step, r', hstep, _⟩ := hs.call h.hop.interval hle hlag ht
    exact ⟨k + step, r', hstep⟩

/-- Each call at one time takes five intervals off the lag, unless it is done. -/
theorem again (h : Rf.Catching start now s₀ k r s) (hi : HopInterval s₀.hop.connInterval) (ht : TickAgain now s n t) :
    ∃ k' r', Rf.Catching start now s₀ k' r' t ∧
      (now - (start + k' * s₀.hop.connInterval - r') ≤ s₀.hop.connInterval ∨
        now - (start + k' * s₀.hop.connInterval - r') + n * (5 * s₀.hop.connInterval) ≤ s₀.hop.connInterval * rfHopDesyncIntervals) := by
  induction ht with
  | zero => exact ⟨k, r, h, .inr (by have := h.lag; omega)⟩
  | @succ n t u _ ht ih =>
    obtain ⟨k', r', hs, hlag⟩ := ih
    obtain ⟨step, r'', hu, hend⟩ := hs.call hi (Int.le_refl now) hs.lag ht
    refine ⟨k' + step, r'', hu, ?_⟩
    rcases hend with hdone | ⟨rfl, rfl⟩
    · exact .inl hdone
    · -- five steps, so the call before was not done
      have hpast := hu.past
      have hr1 := hu.back
      have hlo := hi.1
      have hway : ((k' + 5 : Nat) : Int) * s₀.hop.connInterval = k' * s₀.hop.connInterval + 5 * s₀.hop.connInterval := by
        rw [Int.natCast_add, Int.add_mul]
        rfl
      have hcount : ((n + 1 : Nat) : Int) * (5 * s₀.hop.connInterval) = n * (5 * s₀.hop.connInterval) + 5 * s₀.hop.connInterval := by
        rw [Int.natCast_add, Int.add_mul]
        omega
      rw [hway] at hpast ⊢
      rw [hcount]
      rcases hlag with hdone | hmore
      · omega
      · exact .inr (by omega)

/-- Two schedules that have caught up. -/
theorem channels {k' r' : Nat} (h : Rf.Catching start now s₀ k r s) (h' : Rf.Catching start now s₀ k' r' t)
    (hi : HopInterval s₀.hop.connInterval) (hdone : now - (start + k * s₀.hop.connInterval - r) ≤ s₀.hop.connInterval)
    (hle : k ≤ k') : k' = k ∨ k' = k + 1 ∧
      ((now - start) % s₀.hop.connInterval = 0 ∨ (now - start) % s₀.hop.connInterval = s₀.hop.connInterval - 1) := by
  obtain ⟨d, rfl⟩ := Nat.exists_eq_add_of_le hle
  have hway : ((k + d : Nat) : Int) * s₀.hop.connInterval = k * s₀.hop.connInterval + d * s₀.hop.connInterval := by
    rw [Int.natCast_add, Int.add_mul]
  have hpast := h'.past
  have hback := h.back
  have hback' := h'.back
  have hlo := hi.1
  rw [hway] at hpast
  rcases d with _ | _ | d
  · exact .inl rfl
  · refine .inr ⟨rfl, ?_⟩
    have hmod : (now - start) % s₀.hop.connInterval = (now - start - k * s₀.hop.connInterval) % s₀.hop.connInterval :=
      (Int.sub_mul_emod_self_right _ _ _).symm
    rw [hmod]
    have hone : ((0 + 1 : Nat) : Int) * s₀.hop.connInterval = s₀.hop.connInterval := by omega
    rw [hone] at hpast
    have hnear : now - start - k * s₀.hop.connInterval = s₀.hop.connInterval ∨
        now - start - k * s₀.hop.connInterval = s₀.hop.connInterval - 1 := by omega
    rcases hnear with hwhole | htick
    · exact .inl (by rw [hwhole, Int.emod_self])
    · exact .inr (by rw [htick]; exact Int.emod_eq_of_lt (by omega) (by omega))
  · have htwo : 2 * (s₀.hop.connInterval : Int) ≤ (d + 1 + 1 : Nat) * s₀.hop.connInterval :=
      Int.mul_le_mul_of_nonneg_right (by omega) (Int.natCast_nonneg _)
    omega

end Rf.Catching

/-- For every schedule of calls, with no poll caught, no response pending and no probe to end, each at most
`RF_HOP_DESYNC_INTERVALS` intervals after the anchor:

the index and the anchor have made the same steps, but for one tick, and the anchor is not ahead of now;

thirteen more calls at the same time leave it at most an interval behind;

another schedule that is at most an interval behind at that time too has the same index, or the neighbour's at the boundary of a tick. -/
theorem hop_catches_up (h : s₀.InSession start) (hquiet : s₀.rest.quietPending = false) (hr : TickRun start s₀ now s) :
    (∃ k r, s₀.hop.Stepped start now k r s.hop ∧ s.anchorTime now = start + k * s₀.hop.connInterval - r) ∧
    (∀ n t, TickAgain now s n t → 13 ≤ n → now - t.anchorTime now ≤ s₀.hop.connInterval) ∧
    (∀ t, TickRun start s₀ now t → now - s.anchorTime now ≤ s₀.hop.connInterval → now - t.anchorTime now ≤ s₀.hop.connInterval →
      s.hop.prevDataIdx = t.hop.prevDataIdx ∨
        ((now - start) % s₀.hop.connInterval = 0 ∨ (now - start) % s₀.hop.connInterval = s₀.hop.connInterval - 1) ∧
          (t.hop.prevDataIdx = (s.hop.prevDataIdx + 1) % numDataChannels ∨
            s.hop.prevDataIdx = (t.hop.prevDataIdx + 1) % numDataChannels)) := by
  have hi := h.hop.interval
  obtain ⟨k, r, hs⟩ := Rf.Catching.run h hquiet hr
  refine ⟨⟨k, r, hs.toStepped, hs.anchorTime hi⟩, fun n t ht hn => ?_, fun t ht hdone hdone' => ?_⟩
  · obtain ⟨k', r', hu, hlag⟩ := hs.again hi ht
    rw [hu.anchorTime hi]
    rcases hlag with hlag | hlag
    · exact hlag
    · have hpast := hu.past
      have hlo := hi.1
      have hcalls : 13 * (5 * (s₀.hop.connInterval : Int)) ≤ n * (5 * s₀.hop.connInterval) :=
        Int.mul_le_mul_of_nonneg_right (by omega) (by omega)
      rw [rfHopDesyncIntervals] at hlag
      omega
  · obtain ⟨k', r', hu⟩ := Rf.Catching.run h hquiet ht
    rw [hs.anchorTime hi] at hdone
    rw [hu.anchorTime hi] at hdone'
    have hnext (j : Nat) : (s₀.hop.prevDataIdx + (j + 1)) % numDataChannels =
        ((s₀.hop.prevDataIdx + j) % numDataChannels + 1) % numDataChannels := by rw [Nat.mod_add_mod, Nat.add_assoc]
    rcases Nat.le_total k k' with hle | hle
    · rcases hs.channels hu hi hdone hle with rfl | ⟨rfl, hbound⟩
      · exact .inl (hs.index.trans hu.index.symm)
      · exact .inr ⟨hbound, .inl (by rw [hu.index, hs.index, hnext])⟩
    · rcases hu.channels hs hi hdone' hle with rfl | ⟨rfl, hbound⟩
      · exact .inl (hs.index.trans hu.index.symm)
      · exact .inr ⟨hbound, .inr (by rw [hs.index, hu.index, hnext])⟩

/-! ## Runs -/

instance (interval : Nat) : Decidable (HopInterval interval) := inferInstanceAs (Decidable (_ ∧ _))

theorem tickAt_exec (now : Int) (s : Rf) : TickAt now s (rfConnectedTick.exec (s.atTime now)) := runs_run _ _ _

/-- A session starts, and a poll is caught and answered. -/
def firstAnswered : Rf := newKeyboard.after (connectUp ++ [.poll 0, .tmr0Cycle, .tmr0Irq, .process, .txFinish, .process])

/-- The main loop is late by seven intervals: the first call makes five steps. -/
theorem hop_catches_up_late : ∃ k r, firstAnswered.hop.Stepped (-13) 200 k r (rfConnectedTick.exec (firstAnswered.atTime 200)).hop := by
  have hsession : firstAnswered.InSession (-13) :=
    ⟨by decide +kernel, by decide +kernel, ⟨by decide +kernel, by decide +kernel, by decide +kernel⟩, by decide +kernel, by decide +kernel⟩
  have hrun : TickRun (-13) firstAnswered 200 (rfConnectedTick.exec (firstAnswered.atTime 200)) :=
    .call .start (by decide) (by decide +kernel) (tickAt_exec 200 firstAnswered)
  obtain ⟨k, r, hsteps, _⟩ := (hop_catches_up hsession (by decide +kernel) hrun).1
  exact ⟨k, r, hsteps⟩

theorem atTime_of_rtc (h : s.hw.rtc = rtcAt now) : s.atTime now = s := by
  rw [Rf.atTime, ← h]

/-- A probe of the resting policy catches its dongle, and answers two polls. -/
def probeAnswered : Rf :=
  newKeyboard.after (connectUp ++ [.expire .restIdle, .process, .expire .restProbe, .process, .process, .txFinish, .process, .offer,
    .process, .poll 0, .tmr0Cycle, .tmr0Irq, .process, .txFinish, .process, .poll 1, .tmr0Cycle, .tmr0Irq, .process, .txFinish, .process])

/-- The probe is due to end, so the first call ends the session, and no later one catches up: the anchor stays 113 ticks behind. -/
theorem hop_catches_up_false : ∃ t, probeAnswered.InSession (-13) ∧ TickRun (-13) probeAnswered 100 t ∧
    ∀ n, TickAgain 100 t n t ∧ ¬(100 - t.anchorTime 100 ≤ probeAnswered.hop.connInterval) := by
  have hsession : probeAnswered.InSession (-13) :=
    ⟨by decide +kernel, by decide +kernel, ⟨by decide +kernel, by decide +kernel, by decide +kernel⟩, by decide +kernel, by decide +kernel⟩
  have hover : (rfConnectedTick.exec (probeAnswered.atTime 100)).state = .resting := by decide +kernel
  have hrtc : (rfConnectedTick.exec (probeAnswered.atTime 100)).hw.rtc = rtcAt 100 := by decide +kernel
  have hanchor : (rfConnectedTick.exec (probeAnswered.atTime 100)).anchorTime 100 = -13 := by decide +kernel
  have hrun : TickRun (-13) probeAnswered 100 (rfConnectedTick.exec (probeAnswered.atTime 100)) :=
    .call .start (by decide) (by decide +kernel) (tickAt_exec 100 probeAnswered)
  generalize rfConnectedTick.exec (probeAnswered.atTime 100) = t at hover hrtc hanchor hrun
  have hnone : rfConnectedTick.exec t = t := by
    rw [exec, rfConnectedTick, run_read_bind, whenever, if_neg (by rw [hover]; decide)]
    rfl
  have htick : TickAt 100 t t := by
    rw [TickAt, atTime_of_rtc hrtc]
    have hruns := tickAt_exec 100 t
    rwa [TickAt, atTime_of_rtc hrtc, hnone] at hruns
  refine ⟨t, hsession, hrun, fun n => ⟨?_, ?_⟩⟩
  · induction n with
    | zero => exact .zero
    | succ n ih => exact .succ ih htick
  · rw [hanchor]
    decide +kernel

end OpenController
