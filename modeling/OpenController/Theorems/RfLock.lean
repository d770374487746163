import OpenController.Lemmas.RfLockRun

/-!
# The hop follows the dongle

Once a poll was caught on the dongle's channel with the anchor near its reference, the index is that of the dongle's poll whenever
a poll is reported, whichever polls are caught or lost in between.
-/

namespace OpenController

variable {d : Dongle} {s s₀ t : Rf} {buf : RxBuf} {k₀ k : Nat} {ticked : Bool}

/-- A poll that is caught on the dongle's channel, within six ticks of its reference, locks the hop. -/
theorem lockOk_caught (hd : 20 ≤ d.interval) (hpoll : s.CatchesPoll buf) (hcaught : s₀ = s.rf2g4StatusCallBack .rxData 0 (some buf))
    (hrtc : s.hw.rtc = d.tick k₀ % rtc32kWrap) (hinterval : s.hop.connInterval = d.interval)
    (hindex : s₀.hop.prevDataIdx = (d.index + k₀) % numDataChannels)
    (hanchor : RtcNear 6 (rtcBackdate32k s.hw.rtc (rfPollBackdateBase + buf.len / 8)) s₀.hop.hopAnchor) :
    s₀.LockOk d (d.tick k₀) s₀.log.sessions 0 := by
  have hp : s.Polled buf s₀ := hcaught ▸ Rf.polled_callback hpoll
  have hhw : s₀.hw = s.hw := hcaught ▸ s.callback_hw .rxData 0 (some buf)
  obtain ⟨off, hlo, hhi, ha⟩ := hanchor
  have hlen := hpoll.2
  have hshort : buf.len / 8 ≤ 1 := by omega
  refine ⟨by rw [hhw, hrtc], Nat.le_refl _, fun _ _ => ⟨k₀, off - (buf.len / 8 : Nat), ?_, ?_⟩⟩
  · refine ⟨?_, ?_, hindex, ?_, ?_, by omega, fun _ => by omega, by omega⟩
    · rw [hp.hop]
      unfold RfHop.hopServo
      dsimp only
      repeat' split
      all_goals exact hinterval
    · rw [hp.hop]
    · rw [ha, hrtc, rtcBackdate_tick d k₀ hshort, rtcAt_rtcAt_add]
      exact congrArg rtcAt (by omega)
    · rw [rfPollBackdateBase]
      omega
  · rw [d.tick_succ]
    omega

/-- The dongle's polls come every `d.interval` ticks of the RTC. One is caught on the channel of its index, and leaves the anchor
within six ticks of its reference. From then on, as long as the session lasts, the index is the dongle's at the time of every poll,
and the anchor is within eight ticks of the poll's reference, whatever its length. -/
theorem hop_follows_the_dongle (hd : 20 ≤ d.interval) (hd' : d.interval ≤ 40) (hpoll : s.CatchesPoll buf)
    (hcaught : s₀ = s.rf2g4StatusCallBack .rxData 0 (some buf)) (hrtc : s.hw.rtc = d.tick k₀ % rtc32kWrap)
    (hinterval : s.hop.connInterval = d.interval) (hindex : s₀.hop.prevDataIdx = (d.index + k₀) % numDataChannels)
    (hanchor : RtcNear 6 (rtcBackdate32k s.hw.rtc (rfPollBackdateBase + buf.len / 8)) s₀.hop.hopAnchor)
    (hr : HopRun d (d.tick k₀) s₀ (d.tick k) ticked t) (hsession : t.log.sessions = s₀.log.sessions) (hc : t.state = .connected) :
    t.hop.prevDataIdx = (d.index + k) % numDataChannels ∧
      ∀ len, len = 1 ∨ len = 3 ∨ len = 10 →
        RtcNear 8 (rtcBackdate32k t.hw.rtc (rfPollBackdateBase + len / 8)) t.hop.hopAnchor := by
  have hlock := lockOk_run hd hd' (lockOk_caught hd hpoll hcaught hrtc hinterval hindex hanchor) hr
  obtain ⟨n, off, hf, hlt⟩ := hlock.locked hsession hc
  obtain rfl := RfHop.Locked.eq_of_tick hd hf (Nat.lt_of_le_of_lt (Nat.le_add_right _ _) hlt)
  have hearly := hf.early
  have hlate := hf.late
  refine ⟨hf.index, fun len hlen => ?_⟩
  have hshort : len / 8 ≤ 1 := by omega
  refine ⟨off + (len / 8 : Nat), by omega, by omega, ?_⟩
  rw [hlock.rtc, rtcBackdate_tick d n hshort, rtcAt_rtcAt_add, hf.anchor]
  exact congrArg rtcAt (by omega)

/-- A keyboard that connects shortly before the RTC goes round, and answers the first poll. -/
def connectLate : Rf := newKeyboard.after (.hardware ⟨rtc32kWrap - 30, 0, 0, ⟨0, 0, 0⟩⟩ :: connectUp)

/-- The next two polls are lost, and the RTC goes round before the second. -/
theorem hop_follows_the_dongle_wrap :
    let d : Dongle := ⟨rtc32kWrap - 30, 28, 1⟩
    let t := (connectLate.after [.poll 0, .txFinish]).ticksAlone (d.tick 0) 56
    d.tick 2 = rtc32kWrap + 26 ∧ t.hop.prevDataIdx = (d.index + 2) % numDataChannels := by
  intro d t
  have hfinish : HopRun d (d.tick 0) (connectLate.after [.poll 0]) (d.tick 0) false (connectLate.after [.poll 0, .txFinish]) :=
    .call .other .start (.env (.callback .txFinish 0 none nofun) (.ret () _))
  have hrun : HopRun d (d.tick 0) (connectLate.after [.poll 0]) (d.tick 2) false t := hfinish.alone (by decide +kernel) 56
  have hpoll : connectLate.CatchesPoll (pollPacket 0) := by decide +kernel
  refine ⟨rfl, (hop_follows_the_dongle (by decide) (by decide) hpoll rfl (by decide +kernel) (by decide +kernel) (by decide +kernel)
    ⟨-1, by decide, by decide, by decide +kernel⟩ hrun (by decide +kernel) (by decide +kernel)).1⟩

end OpenController
