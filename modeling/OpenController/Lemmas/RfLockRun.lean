import OpenController.Lemmas.RfCalls
import OpenController.Lemmas.RfHearsAux
import OpenController.Lemmas.RtcAux
import OpenController.RfLock

/-!
# The lock across runs

A poll moves the anchor one tick towards its reference, a hop moves it by an interval, or by one tick less. Between two polls the
hop is due before the next one, and `RF_ConnectedTick` makes it in time; so the lock is kept at every tick, whichever polls are
caught.
-/

namespace OpenController

open Prog RfStatements

variable {d : Dongle} {time session slack n : Nat} {off : Int} {h : RfHop} {s t : Rf}

namespace Dongle

theorem tick_succ (d : Dongle) (k : Nat) : d.tick (k + 1) = d.tick k + d.interval := by
  rw [tick, tick, Nat.succ_mul, Nat.add_assoc]

theorem tick_mono (d : Dongle) {k l : Nat} (h : k ≤ l) : d.tick k ≤ d.tick l :=
  Nat.add_le_add_left (Nat.mul_le_mul_right _ h) _

end Dongle

/-! ## The servo and the hop -/

/-- The reference of a poll (`back` is what its length adds to the backdate). -/
theorem rtcBackdate_tick (d : Dongle) (k : Nat) {back : Nat} (hb : back ≤ 1) :
    rtcBackdate32k (d.tick k % rtc32kWrap) (rfPollBackdateBase + back) = rtcAt (d.tick k - rfPollBackdateBase - back) := by
  rw [← rtcAt_natCast, rtcBackdate32k_rtcAt _ (by rw [rfPollBackdateBase]; omega)]
  exact congrArg rtcAt (by omega)

/-- However long the poll was (`back` is what its length adds to the backdate), the offset from the reference of a short poll stays
within six ticks on the late side and seven on the early one. -/
theorem servoOffset_bounds {back : Int} (hb : 0 ≤ back) (hb' : back ≤ 1) (hlo : -8 ≤ off) (hhi : off ≤ 6) :
    -7 ≤ servoOffset (off + back) - back ∧ servoOffset (off + back) - back ≤ 6 := by
  unfold servoOffset
  rw [servoDeadband]
  split
  · omega
  · split <;> omega

namespace RfHop

/-- At the time of a poll the hop waits for that poll. -/
theorem Locked.eq_of_tick {k : Nat} (hd : 20 ≤ d.interval) (hf : h.Follows d (d.tick k) n off) (hlt : d.tick k < d.tick (n + 1)) :
    n = k := by
  have hle : k ≤ n := by
    by_contra hk
    exact absurd (d.tick_mono (Nat.lt_of_not_le hk)) (Nat.not_le_of_lt hlt)
  have hge : n ≤ k := by
    by_contra hk
    have hmono := d.tick_mono (Nat.lt_of_not_le hk)
    have hpast := hf.past
    have hearly := hf.early
    rw [d.tick_succ] at hmono
    rw [rfPollBackdateBase] at hpast
    omega
  exact Nat.le_antisymm hge hle

/-- A poll that is caught keeps the lock. -/
theorem Locked.polled {k len : Nat} (hd : 20 ≤ d.interval) (hl : h.Locked d (d.tick k) slack)
    (hlen : len = 1 ∨ len = 3 ∨ len = 10) :
    { h.hopServo (rtcBackdate32k (d.tick k % rtc32kWrap) (rfPollBackdateBase + len / 8)) with
      sinceRx := 0, provisional := false }.Locked d (d.tick k) slack := by
  obtain ⟨n, off, hf, hlt⟩ := hl
  obtain rfl := Locked.eq_of_tick hd hf (Nat.lt_of_le_of_lt (Nat.le_add_right _ _) hlt)
  have hshort : len / 8 ≤ 1 := by omega
  have hanchor : h.hopAnchor = rtcAt (d.tick n - rfPollBackdateBase - (len / 8 : Nat) + (off + (len / 8 : Nat))) := by
    rw [hf.anchor]
    exact congrArg rtcAt (by omega)
  have hearly := hf.early
  have hlate := hf.late
  rw [rtcBackdate_tick d n hshort, hopServo_rtcAt hanchor (by omega) (by omega)]
  obtain ⟨hlo, hhi⟩ := servoOffset_bounds (by omega) (Int.ofNat_le.mpr hshort) hearly hlate
  refine ⟨n, _, ⟨hf.interval, rfl, hf.index, ?_, ?_, Int.le_trans (by decide) hlo, fun _ => hlo, hhi⟩, hlt⟩
  · exact congrArg rtcAt (by omega)
  · rw [rfPollBackdateBase]
    omega

/-- The hop is made as soon as an interval and more has passed since the anchor, so after `RF_ConnectedTick` it is not behind the
dongle for another tick. -/
theorem Locked.advance (hd : 20 ≤ d.interval) (hd' : d.interval ≤ 40) (hl : h.Locked d time 0) :
    (h.advance (time % rtc32kWrap) d.interval).1.Locked d time 1 := by
  obtain ⟨n, off, hf, hlt⟩ := hl
  have hpast := hf.past
  have hearly := hf.early
  have hlate := hf.late
  rw [rfPollBackdateBase] at hpast
  rw [d.tick_succ] at hlt
  have helapsed : (rtcDelta32k (time % rtc32kWrap) h.hopAnchor : Int) = time - (d.tick n - 12 + off) := by
    rw [← rtcAt_natCast, hf.anchor, rfPollBackdateBase]
    exact rtcDelta32k_rtcAt (by omega) (by omega)
  unfold RfHop.advance
  dsimp only
  generalize rtcDelta32k (time % rtc32kWrap) h.hopAnchor = elapsed at helapsed
  have hsync : ¬elapsed > d.interval * rfHopDesyncIntervals := by
    rw [rfHopDesyncIntervals]
    omega
  rw [if_neg (by rw [hf.locked]; decide), if_neg hsync]
  by_cases hdue : elapsed > d.interval
  · have hstep : elapsed / d.interval = 1 := Nat.div_eq_of_lt_le (by omega) (by omega)
    have hadd : rtcAdd32k h.hopAnchor (d.interval * 1) = rtcAt (d.tick (n + 1) - rfPollBackdateBase + off) := by
      rw [hf.anchor, rtcAdd32k_rtcAt _ (by omega), d.tick_succ]
      exact congrArg rtcAt (by omega)
    have hindex : (h.prevDataIdx + 1) % numDataChannels = d.channelIdx (n + 1) := by
      rw [hf.index, Dongle.channelIdx, Dongle.channelIdx, Nat.mod_add_mod, Nat.add_assoc]
    have htime : time + 1 < d.tick (n + 1 + 1) := by
      rw [d.tick_succ, d.tick_succ]
      omega
    rw [if_pos hdue, hstep, if_neg (by decide), hadd]
    by_cases hone : h.sinceRx = 1
    · have hfresh := hf.fresh (Nat.le_of_eq hone)
      rw [if_pos ⟨rfl, hone⟩, rtcBackdate32k_rtcAt _ (by decide)]
      refine ⟨n + 1, off - 1, ⟨hf.interval, hf.locked, hindex, ?_, ?_, by omega, ?_, by omega⟩, htime⟩
      · exact congrArg rtcAt (by omega)
      · rw [rfPollBackdateBase, d.tick_succ]
        omega
      · intro hrx
        rw [hone] at hrx
        exact absurd (show 2 ≤ 1 from hrx) (by decide)
    · rw [if_neg fun hc => hone hc.2]
      refine ⟨n + 1, off, ⟨hf.interval, hf.locked, hindex, rfl, ?_, hearly, fun hrx => hf.fresh ?_, hlate⟩, htime⟩
      · rw [rfPollBackdateBase, d.tick_succ]
        omega
      · dsimp only at hrx
        split at hrx <;> omega
  · rw [if_neg hdue]
    refine ⟨n, off, hf, ?_⟩
    rw [d.tick_succ]
    omega

end RfHop

/-! ## Interrupts -/

theorem hopStep_spec (hi : HopStep d time s t) :
    t.hw.rtc = s.hw.rtc ∧ (s.Bystander t ∨ ∃ buf, d.PollsAt time ∧ s.Polled buf t) := by
  cases hi with
  | callback sta rsr rxBuf hpoll =>
    refine ⟨by rw [s.callback_hw], ?_⟩
    rcases s.callback_spec sta rsr rxBuf with hb | ⟨buf, hsta, hrsr, hbuf, hp⟩
    · exact .inl hb
    · exact .inr ⟨buf, hpoll hsta hrsr buf hbuf hp.catches, hp⟩
  | tmr0Cycle => exact ⟨rfl, .inl (.of_eq rfl rfl rfl rfl rfl rfl rfl)⟩
  | tmr0Irq => exact ⟨by rw [s.tmr0IRQHandler_hw], .inl s.bystander_tmr0IRQHandler⟩
  | expire e => exact ⟨rfl, .inl (.of_eq rfl rfl rfl rfl rfl rfl rfl)⟩
  | advance ticks => exact ⟨rfl, .inl (.of_eq rfl rfl rfl rfl rfl rfl rfl)⟩
  | hardware hw hrtc => exact ⟨hrtc, .inl (.of_eq rfl rfl rfl rfl rfl rfl rfl)⟩

/-- What happens between two statements leaves the session as it is, and the clock; the hop is as it was, but for a poll. -/
theorem hopStep_frame (hi : HopStep d time s t) : t.hw.rtc = s.hw.rtc ∧ t.state = s.state ∧ t.log.sessions = s.log.sessions ∧
    (t.hop = s.hop ∧ (s.resp.responsePending = false → t.resp.responsePending = false) ∨
      ∃ buf : RxBuf, d.PollsAt time ∧ (buf.len = 1 ∨ buf.len = 3 ∨ buf.len = 10) ∧
        t.hop = { s.hop.hopServo (rtcBackdate32k s.hw.rtc (rfPollBackdateBase + buf.len / 8)) with
          sinceRx := 0, provisional := false }) := by
  obtain ⟨hrtc, hb | ⟨buf, hat, hp⟩⟩ := hopStep_spec hi
  · refine ⟨hrtc, hb.state, by rw [hb.log], .inl ⟨hb.hop, fun hq => ?_⟩⟩
    rcases hb.resp with hr | hr
    · rw [hr, hq]
    · rw [hr]
  · refine ⟨hrtc, hp.state, ?_, .inr ⟨buf, hat, hp.catches.2, hp.hop⟩⟩
    rcases hp.queue with ⟨_, _, hlog⟩ | ⟨_, _, hlog⟩
    · rw [hlog]
      rfl
    · rw [hlog]

theorem stable_lockOk (hd : 20 ≤ d.interval) : Stable (HopStep d time) (Rf.LockOk d time session slack) := by
  intro s t hi h
  obtain ⟨hrtc, hs, hn, hhop⟩ := hopStep_frame hi
  refine ⟨hrtc.trans h.rtc, hn ▸ h.since, fun hsame hc => ?_⟩
  have hlock := h.locked (hn.symm.trans hsame) (hs.symm.trans hc)
  rcases hhop with ⟨hhop, _⟩ | ⟨buf, ⟨k, rfl⟩, hlen, hhop⟩
  · rwa [hhop]
  · rw [hhop, h.rtc]
    exact hlock.polled hd hlen

/-! ## Statements that leave the hop alone -/

/-- One state after another in which the hop of a session is the same, and no response is due that was not. -/
structure Rf.SameHop (s t : Rf) : Prop where
  hw : t.hw = s.hw
  sessions : t.log.sessions = s.log.sessions
  hop : t.state = .connected → s.state = .connected ∧ t.hop = s.hop
  pending : s.resp.responsePending = false → t.resp.responsePending = false

theorem Rf.sameHop_iff : s.SameHop t ↔ t.hw = s.hw ∧ t.log.sessions = s.log.sessions ∧
    (t.state = .connected → s.state = .connected ∧ t.hop = s.hop) ∧
    (s.resp.responsePending = false → t.resp.responsePending = false) :=
  ⟨fun h => ⟨h.hw, h.sessions, h.hop, h.pending⟩, fun ⟨h1, h2, h3, h4⟩ => ⟨h1, h2, h3, h4⟩⟩

/-- A statement that leaves the hop of a session alone. -/
def SameHopStmt (f : Rf → Rf) : Prop := ∀ s : Rf, s.SameHop (f s)

attribute [local simp] SameHopStmt Rf.sameHop_iff

theorem Rf.LockOk.sameHop (h : s.LockOk d time session slack) (hs : s.SameHop t) : t.LockOk d time session slack := by
  refine ⟨by rw [hs.hw, h.rtc], hs.sessions ▸ h.since, fun hsame hc => ?_⟩
  obtain ⟨hconn, hhop⟩ := hs.hop hc
  rw [hhop]
  exact h.locked (hs.sessions.symm.trans hsame) hconn

/-- A call that keeps the lock. -/
abbrev Locks (d : Dongle) (time session slack : Nat) {α : Type} (p : RfM α) : Prop :=
  Kept (HopStep d time) (Rf.LockOk d time session slack) p

theorem locks_of {α : Type} {p : RfM α} (hd : 20 ≤ d.interval) (h : Each SameHopStmt p) : Locks d time session slack p :=
  Each.triple (h.mono fun _ hf s hs => hs.sameHop (hf s)) (stable_lockOk hd)

/-! ## `RF_ConnectedTick` -/

/-- Before the hop: the lock, and no response is pending if a poll is due at the next tick (`due`). -/
def Rf.Waits (d : Dongle) (time session slack : Nat) (due : Prop) (s : Rf) : Prop :=
  s.LockOk d time session slack ∧ (due → s.resp.responsePending = false)

/-- After it: the lock, also at the next tick if a poll is due there. -/
def Rf.Hopped (d : Dongle) (time session slack : Nat) (due : Prop) (s : Rf) : Prop :=
  s.LockOk d time session slack ∧ (due → s.LockOk d time session 1)

/-- Before the hop, with the interval of the session read. -/
def Rf.Reads (d : Dongle) (time session slack : Nat) (due : Prop) (interval : Nat) (s : Rf) : Prop :=
  s.Waits d time session slack due ∧ (s.log.sessions = session → s.state = .connected → interval = d.interval)

variable {due : Prop} {interval : Nat}

theorem RfHop.Locked.mono {slack' : Nat} (hl : h.Locked d time slack) (hle : slack' ≤ slack) : h.Locked d time slack' := by
  obtain ⟨n, off, hf, hlt⟩ := hl
  exact ⟨n, off, hf, Nat.lt_of_le_of_lt (Nat.add_le_add_left hle time) hlt⟩

theorem Rf.LockOk.mono {slack' : Nat} (h : s.LockOk d time session slack) (hle : slack' ≤ slack) :
    s.LockOk d time session slack' :=
  ⟨h.rtc, h.since, fun hsame hc => (h.locked hsame hc).mono hle⟩

theorem Rf.LockOk.hopped (h : s.LockOk d time session 1) (hle : slack ≤ 1) : s.Hopped d time session slack due :=
  ⟨h.mono hle, fun _ => h⟩

theorem stable_waits (hd : 20 ≤ d.interval) (hdue : due → ¬d.PollsAt time) :
    Stable (HopStep d time) (Rf.Waits d time session slack due) := by
  rintro s t hi ⟨h, hq⟩
  refine ⟨stable_lockOk hd s t hi h, fun hc => ?_⟩
  obtain ⟨_, _, _, ⟨_, hkeep⟩ | ⟨_, hat, _⟩⟩ := hopStep_frame hi
  · exact hkeep (hq hc)
  · exact absurd hat (hdue hc)

theorem stable_hopped (hd : 20 ≤ d.interval) : Stable (HopStep d time) (Rf.Hopped d time session slack due) :=
  fun s t hi ⟨h, hr⟩ => ⟨stable_lockOk hd s t hi h, fun hc => stable_lockOk hd s t hi (hr hc)⟩

theorem stable_reads (hd : 20 ≤ d.interval) (hdue : due → ¬d.PollsAt time) :
    Stable (HopStep d time) (Rf.Reads d time session slack due interval) := by
  rintro s t hi ⟨h, hq⟩
  obtain ⟨_, hs, hn, _⟩ := hopStep_frame hi
  exact ⟨stable_waits hd hdue s t hi h, fun hsame hc => hq (hn.symm.trans hsame) (hs.symm.trans hc)⟩

theorem Rf.Waits.sameHop (h : s.Waits d time session slack due) (hs : s.SameHop t) : t.Waits d time session slack due :=
  ⟨h.1.sameHop hs, fun hc => hs.pending (h.2 hc)⟩

theorem Rf.Reads.sameHop (h : s.Reads d time session slack due interval) (hs : s.SameHop t) : t.Reads d time session slack due interval :=
  ⟨h.1.sameHop hs, fun hsame hc => h.2 (hs.sessions.symm.trans hsame) (hs.hop hc).1⟩

/-- The hop, and the receiver on its channel. -/
theorem locks_rfHopTick (hd : 20 ≤ d.interval) (hd' : d.interval ≤ 40) (hle : slack ≤ 1) (hdue : due → ¬d.PollsAt time) :
    Triple (HopStep d time) (Rf.Reads d time session slack due interval) (rfHopTick interval) fun _ => Rf.Hopped d time session slack due := by
  have hadvance : Triple (HopStep d time) (Rf.Reads d time session slack due interval) (rfAdvance interval)
      fun _ => Rf.LockOk d time session 1 := by
    refine Triple.stmt (stable_reads hd hdue) fun s hs => Triple.pure (stable_lockOk hd) ?_
    rintro t rfl
    obtain ⟨⟨h, _⟩, hi⟩ := hs
    refine ⟨h.rtc, h.since, fun hsame hc => ?_⟩
    dsimp only
    rw [hi hsame hc, h.rtc]
    exact ((h.locked hsame hc).mono (Nat.zero_le slack)).advance hd hd'
  refine hadvance.bind fun advanced => ?_
  have hrest : Locks d time session 1 (whenever advanced do
      let pending ← rfPendingAgain
      whenever (pending = false) do
        let idx ← .read fun s => s.hop.prevDataIdx
        rfStartRx (dataChannels.getD idx 0)) := locks_of hd (by simp)
  exact hrest.conseq (fun _ hs => hs) fun _ _ hs => hs.hopped hle

/-- Either the hop is made, or a response is pending, and then no poll is due. -/
theorem locks_rfHopOrWait (hd : 20 ≤ d.interval) (hd' : d.interval ≤ 40) (hle : slack ≤ 1) (hdue : due → ¬d.PollsAt time) :
    Triple (HopStep d time) (Rf.Waits d time session slack due) rfHopOrWait fun _ => Rf.Hopped d time session slack due := by
  have hinterval : Triple (HopStep d time) (Rf.Waits d time session slack due) (.read fun s => s.hop.interval)
      fun interval => Rf.Reads d time session slack due interval := by
    refine Triple.read (stable_waits hd hdue) (fun _ => stable_reads hd hdue) fun s hs => ⟨hs, fun hsame hc => ?_⟩
    obtain ⟨n, off, hf, _⟩ := hs.1.locked hsame hc
    rw [RfHop.interval, if_pos (by rw [hf.interval]; omega), hf.interval]
  refine hinterval.bind fun interval => ?_
  have hpending : Triple (HopStep d time) (Rf.Reads d time session slack due interval) rfPending
      fun pending s => s.Reads d time session slack due interval ∧ (due → pending = false) := by
    refine Triple.stmt (stable_reads hd hdue) fun s hs => Triple.pure ?_ fun t ht => ?_
    · exact fun s t hi hs => ⟨stable_reads hd hdue s t hi hs.1, hs.2⟩
    · subst ht
      exact ⟨hs.sameHop ⟨rfl, rfl, fun hc => ⟨hc, rfl⟩, id⟩, hs.1.2⟩
  refine hpending.bind fun pending => Triple.ite (fun hp => ?_) fun _ => ?_
  · -- the response owns the radio; no poll is due at the next tick
    by_cases hnow : due
    · rintro s a t ⟨_, hq⟩ _
      exact nomatch hp.symm.trans (hq hnow)
    · have hwait : Kept (HopStep d time) (Rf.Reads d time session slack due interval)
          (.read fun s => decide (rtcDelta32k s.hw.rtc s.resp.responseArmedRtc ≤ interval * 2)) :=
        Kept.read (stable_reads hd hdue) _
      have hclear : Kept (HopStep d time) (Rf.Reads d time session slack due interval) rfReleaseResponse :=
        Kept.modify (stable_reads hd hdue) fun s hs => hs.sameHop ⟨rfl, rfl, fun hc => ⟨hc, rfl⟩, fun _ => rfl⟩
      refine Triple.conseq (Triple.bind hwait fun waits => ?_) (fun _ hs => hs.1) fun _ _ hs => hs
      refine Triple.ite (fun _ => Triple.bind hclear fun _ => locks_rfHopTick hd hd' hle hdue) fun _ => ?_
      exact Triple.pure (stable_hopped hd) fun s hs => ⟨hs.1.1, fun hc => absurd hc hnow⟩
  · exact (locks_rfHopTick hd hd' hle hdue).conseq (fun _ hs => hs.1) fun _ _ hs => hs

/-- The end of a probe ends the session. -/
theorem locks_restProbeEnd (hd : 20 ≤ d.interval) (hle : slack ≤ 1) (caught : Bool) :
    Triple (HopStep d time) (Rf.LockOk d time session slack) (restProbeEnd caught) fun _ => Rf.Hopped d time session slack due := by
  have hkeep : ∀ {p : RfM Unit}, Each SameHopStmt p → Locks d time session slack p := locks_of hd
  have hend : Triple (HopStep d time) (Rf.LockOk d time session slack) (setState .resting) fun _ => Rf.LockOk d time session 1 :=
    Triple.modify (stable_lockOk hd) (stable_lockOk hd) fun s h => ⟨h.rtc, h.since, fun _ hc => nomatch hc⟩
  have hshut : Locks d time session 1 rfShut := locks_of hd (by simp)
  unfold restProbeEnd restGoQuiet
  iterate 15 refine Triple.bind (hkeep (by simp)) fun _ => ?_
  refine Triple.bind hend fun _ => ?_
  exact hshut.conseq (fun _ hs => hs) fun _ _ hs => hs.hopped hle

/-- `RF_ConnectedTick`, with no response pending if a poll is due at the next tick (`due`): no poll comes at this one. -/
theorem locks_tick (hd : 20 ≤ d.interval) (hd' : d.interval ≤ 40) (hle : slack ≤ 1) (hdue : due → ¬d.PollsAt time) :
    Triple (HopStep d time) (Rf.Waits d time session slack due) rfConnectedTick fun _ => Rf.Hopped d time session slack due := by
  have hstable : Stable (HopStep d time) (Rf.Waits d time session slack due) := stable_waits hd hdue
  have hstate : Triple (HopStep d time) (Rf.Waits d time session slack due) (.read fun s => s.state)
      fun state s => s.Waits d time session slack due ∧ s.state = state := by
    refine Triple.read hstable (fun _ s t hi hs => ?_) fun s hs => ⟨hs, rfl⟩
    exact ⟨hstable s t hi hs.1, (hopStep_frame hi).2.1.trans hs.2⟩
  refine hstate.bind fun state => Triple.ite (fun _ => ?_) fun hne => ?_
  · have hquiet : Kept (HopStep d time) (Rf.Waits d time session slack due)
        (.read fun s => s.rest.quietPending && !s.resp.responsePending) := Kept.read hstable _
    have hkick : Kept (HopStep d time) (Rf.Waits d time session slack due) rearmSupervision := by
      have heach : Each SameHopStmt rearmSupervision := by simp
      exact Each.triple (heach.mono fun f hf s hs => hs.sameHop (hf s)) hstable
    refine Triple.conseq (Triple.bind hquiet fun quiet => ?_) (fun _ hs => hs.1) fun _ _ hs => hs
    refine Triple.ite (fun _ => ?_) fun _ => Triple.bind hkick fun _ => locks_rfHopOrWait hd hd' hle hdue
    exact (locks_restProbeEnd hd hle true).conseq (fun _ hs => hs.1) fun _ _ hs => hs
  · refine Triple.pure (stable_hopped hd) fun s hs => ⟨hs.1.1, fun _ => ?_⟩
    exact ⟨hs.1.1.rtc, hs.1.1.since, fun _ hc => absurd (hs.2.symm.trans hc) hne⟩

/-! ## A connection -/

/-- No session is on. -/
def Rf.Apart (time session : Nat) (s : Rf) : Prop :=
  s.hw.rtc = time % rtc32kWrap ∧ session ≤ s.log.sessions ∧ s.state = .pairing

theorem stable_apart : Stable (HopStep d time) (Rf.Apart time session) := by
  rintro s t hi ⟨hr, hn, hs⟩
  obtain ⟨hrtc, hstate, hsess, _⟩ := hopStep_frame hi
  exact ⟨hrtc.trans hr, hsess ▸ hn, hstate.trans hs⟩

/-- A connection starts another session. -/
theorem locks_rfEnterConnected (hd : 20 ≤ d.interval) : Locks d time session slack rfEnterConnected := by
  have hkeep : ∀ {f : Rf → Rf}, Keeps (Rf.Apart time session) f → Kept (HopStep d time) (Rf.Apart time session) (.modify f) :=
    fun h => Kept.modify stable_apart h
  have hconnect : ∀ silentProbe, Triple (HopStep d time) (Rf.Apart time session) (setConnected silentProbe)
      fun _ => Rf.LockOk d time session slack := by
    intro silentProbe
    refine Triple.modify stable_apart (stable_lockOk hd) fun s hs => ⟨hs.1, Nat.le_succ_of_le hs.2.1, fun hsame _ => ?_⟩
    have hsession := hs.2.1
    have hnext : s.log.sessions + 1 = session := hsame
    omega
  have hstart : ∀ silentProbe, Triple (HopStep d time) (Rf.Apart time session) (startSession silentProbe)
      fun _ => Rf.LockOk d time session slack := by
    intro silentProbe
    unfold startSession
    iterate 15 refine Triple.bind (hkeep (by simp [Rf.Apart])) fun _ => ?_
    exact hconnect silentProbe
  refine kept_inState (stable_lockOk hd) (fun s t hi => (hopStep_frame hi).2.1) ?_
  refine Triple.conseq (Triple.bind (Kept.read stable_apart _) fun silentProbe => ?_)
    (fun s hs => ⟨hs.1.rtc, hs.1.since, hs.2⟩) fun _ _ hs => hs
  exact (hstart silentProbe).bind fun _ => locks_of hd (by simp)

/-! ## Every run -/

theorem locks_connectedTick (hd : 20 ≤ d.interval) (hd' : d.interval ≤ 40) (hle : slack ≤ 1) : Locks d time session slack rfConnectedTick :=
  (locks_tick hd hd' hle (False.elim (C := ¬d.PollsAt time))).conseq (fun _ hs => ⟨hs, nofun⟩) fun _ _ hs => hs.1

theorem locks_rfProcessEvent (hd : 20 ≤ d.interval) (e : RfEvt) : Locks d time session slack (rfProcessEvent e) := by
  cases e with
  | enterConnected => exact locks_rfEnterConnected hd
  | _ => exact locks_of hd (by simp [rfProcessEvent])

theorem partsKeep_lockOk (hd : 20 ≤ d.interval) (hd' : d.interval ≤ 40) (hle : slack ≤ 1) :
    PartsKeep (HopStep d time) (Rf.LockOk d time session slack) where
  stable := stable_lockOk hd
  out o := fun s hs => hs.sameHop ⟨rfl, rfl, fun hc => ⟨hc, rfl⟩, id⟩
  transport is2g4 := locks_of hd (by simp)
  ledResync := locks_of hd (by simp)
  drop := locks_of hd (by simp)
  select := locks_of hd (by simp)
  pair := locks_of hd (by simp)
  disconnect := locks_of hd (by simp)
  unpair := locks_of hd (by simp [unpair])
  report r := locks_of hd (by simp)
  flush := locks_of hd (by simp)
  process := kept_tmosProcess (stable_lockOk hd) (fun s hs => hs.sameHop ⟨rfl, rfl, fun hc => ⟨hc, rfl⟩, id⟩)
    (locks_rfProcessEvent hd)
  tick := locks_connectedTick hd hd' hle

/-- Two polls are not reported one tick after the other. -/
theorem Dongle.PollsAt.not_succ (hd : 20 ≤ d.interval) (h : d.PollsAt (time + 1)) : ¬d.PollsAt time := by
  rintro ⟨k, rfl⟩
  obtain ⟨l, hl⟩ := h
  rcases Nat.lt_or_ge k l with hlt | hge
  · have hmono := d.tick_mono (Nat.succ_le_of_lt hlt)
    rw [d.tick_succ] at hmono
    omega
  · have hmono := d.tick_mono hge
    omega

/-- Unless a poll is reported at the next tick, the hop is not behind there. -/
theorem Rf.LockOk.ahead (h : s.LockOk d time session 0) (hnot : ¬d.PollsAt (time + 1)) : s.LockOk d time session 1 := by
  refine ⟨h.rtc, h.since, fun hsame hc => ?_⟩
  obtain ⟨n, off, hf, hlt⟩ := h.locked hsame hc
  have hne : time + 1 ≠ d.tick (n + 1) := fun he => hnot ⟨n + 1, he⟩
  exact ⟨n, off, hf, by omega⟩

/-- The next tick. -/
theorem Rf.LockOk.next (h : s.LockOk d time session 1) :
    { s with hw := { s.hw with rtc := (time + 1) % rtc32kWrap } }.LockOk d (time + 1) session 0 := by
  refine ⟨rfl, h.since, fun hsame hc => ?_⟩
  obtain ⟨n, off, hf, hlt⟩ := h.locked hsame hc
  have hpast := hf.past
  exact ⟨n, off, ⟨hf.interval, hf.locked, hf.index, hf.anchor, by omega, hf.early, hf.fresh, hf.late⟩, hlt⟩

/-- At every tick of a run the hop of the session is locked, and once `RF_ConnectedTick` has run it is so for the next. -/
theorem lockOk_run {start : Nat} {s₀ : Rf} {ticked : Bool} (hd : 20 ≤ d.interval) (hd' : d.interval ≤ 40)
    (h₀ : s₀.LockOk d start session 0) (hr : HopRun d start s₀ time ticked s) : s.LockOk d time session ticked.toNat := by
  induction hr with
  | start => exact h₀
  | call call _ hcall ih => exact (partsKeep_lockOk hd hd' (Bool.toNat_le _)).program call _ _ _ ih hcall
  | @tick time ticked s t _ hp htick ih =>
    have hpre : s.Waits d time session 0 (d.PollsAt (time + 1)) := ⟨ih.mono (Nat.zero_le _), hp⟩
    obtain ⟨hlock, hhopped⟩ := locks_tick hd hd' (Nat.zero_le 1) (Dongle.PollsAt.not_succ hd) _ _ _ hpre htick
    by_cases hpoll : d.PollsAt (time + 1)
    · exact hhopped hpoll
    · exact hlock.ahead hpoll
  | next _ ih => exact ih.next

/-! ## Ticks without polls -/

/-- `RF_ConnectedTick` makes no response due. -/
theorem connectedTick_idle (h : s.resp.responsePending = false) : (rfConnectedTick.exec s).resp.responsePending = false := by
  have heach : Each (Keeps fun s => s.resp.responsePending = false) rfConnectedTick := by simp
  have hkept : Kept (fun _ _ => False) (fun s => s.resp.responsePending = false) rfConnectedTick :=
    Each.triple heach fun _ _ hf => hf.elim
  exact hkept s _ _ h (runs_run (fun _ _ => False) rfConnectedTick s)

/-- While no response is due the run can go on with `RF_ConnectedTick` alone. -/
theorem HopRun.alone {start : Nat} {s₀ : Rf} (hr : HopRun d start s₀ time false s) (h : s.resp.responsePending = false)
    (ticks : Nat) : HopRun d start s₀ (time + ticks) false (s.ticksAlone time ticks) := by
  induction ticks generalizing time s with
  | zero => exact hr
  | succ ticks ih =>
    have htick := HopRun.tick hr (fun _ => h) (runs_run _ rfConnectedTick s)
    have hnext := ih htick.next (connectedTick_idle h)
    rwa [Nat.add_right_comm, Nat.add_assoc] at hnext

end OpenController
