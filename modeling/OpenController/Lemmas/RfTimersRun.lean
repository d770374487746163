import OpenController.Lemmas.RfTimersAux

/-!
# The timers over timed runs

What the timers have to do with the link in every state a timed run reaches, one lemma for each operation of the link.
-/

namespace OpenController
namespace RfLink

/-- The link has the timers it needs, and no others. -/
structure Owned (l : RfLink) : Prop where
  inTime : l.tmos.InTime
  boot : l.tmos.waits .start = true → l.state = .idle
  beacon : l.state = .pairing → l.tmos.live .pairBcast = true
  supervised : l.state = .connected → l.tmos.live .disconnect = true
  session : l.state = .connected → l.probe = false → l.tmos.live .restIdle = true
  bounded : l.probe = true → l.tmos.live .restProbeTimeout = true
  cadence : l.state = .resting → l.stage = 1 → l.tmos.live .restProbe = true ∧ l.tmos.live .restStage2 = true
  paced : l.probe = true → l.wake = false → l.stage = 1 → l.tmos.live .restStage2 = true ∧ l.tmos.Paced
  ofDisconnect : l.tmos.live .disconnect = true → l.state = .connected
  ofWindow : l.tmos.live .pairTimeout = true → l.state = .pairing ∧ l.flavor = .fresh
  ofIdle : l.tmos.live .restIdle = true → l.state = .connected ∧ l.probe = false
  ofProbe : l.tmos.live .restProbe = true → l.stage = 1 ∧ (l.state = .resting ∨ l.probe = true)
  ofStage2 : l.tmos.live .restStage2 = true → l.stage = 1 ∧ (l.state = .resting ∨ l.probe = true)

namespace Owned

variable {l l' : RfLink}

/-- Only the events of the link matter. -/
theorem same (h : l.Owned) (hs : Same l l') : l'.Owned := by
  have hl : ∀ e, e.ofLink = true → l'.tmos.live e = l.tmos.live e := fun e he => by
    simp only [Tmos.live, Tmos.armed, Tmos.waits, hs.timers e he, hs.queued e he]
  exact {
    inTime := {
      once := fun e he => by
        have hk : e.ofLink = true := by cases e <;> first | rfl | cases he
        simpa only [Tmos.armed, Tmos.waits, hs.timers e hk, hs.queued e hk] using h.inTime.once e he
      prompt := fun d => by
        simpa only [Tmos.due, hs.timers .restProbeTimeout rfl, hs.queued .restProbeTimeout rfl, hs.now] using h.inTime.prompt d }
    boot := fun hw => by
      rw [Tmos.waits, hs.queued _ rfl] at hw
      exact hs.state ▸ h.boot hw
    beacon := by simpa only [hl .pairBcast rfl, hs.state] using h.beacon
    supervised := by simpa only [hl .disconnect rfl, hs.state] using h.supervised
    session := by simpa only [hl .restIdle rfl, hs.state, hs.probe] using h.session
    bounded := by simpa only [hl .restProbeTimeout rfl, hs.probe] using h.bounded
    cadence := by simpa only [hl .restProbe rfl, hl .restStage2 rfl, hs.state, hs.stage] using h.cadence
    paced := fun hp hw hst => by
      obtain ⟨h1, h2⟩ := h.paced (hs.probe ▸ hp) (hs.wake ▸ hw) (hs.stage ▸ hst)
      exact ⟨(hl _ rfl).trans h1, (Tmos.Paced.congr (hs.timers _ rfl) (hs.timers _ rfl) (hs.queued _ rfl)).2 h2⟩
    ofDisconnect := by simpa only [hl .disconnect rfl, hs.state] using h.ofDisconnect
    ofWindow := by simpa only [hl .pairTimeout rfl, hs.state, hs.flavor] using h.ofWindow
    ofIdle := by simpa only [hl .restIdle rfl, hs.state, hs.probe] using h.ofIdle
    ofProbe := by simpa only [hl .restProbe rfl, hs.state, hs.probe, hs.stage] using h.ofProbe
    ofStage2 := by simpa only [hl .restStage2 rfl, hs.state, hs.probe, hs.stage] using h.ofStage2 }

/-! ## What does not run -/

theorem no_disconnect (h : l.Owned) (hs : l.state ≠ .connected) : l.tmos.live .disconnect = false := by
  cases hl : l.tmos.live .disconnect with
  | false => rfl
  | true => exact absurd (h.ofDisconnect hl) hs

theorem no_window (h : l.Owned) (hs : l.state ≠ .pairing) : l.tmos.live .pairTimeout = false := by
  cases hl : l.tmos.live .pairTimeout with
  | false => rfl
  | true => exact absurd (h.ofWindow hl).1 hs

theorem no_idle (h : l.Owned) (hs : ¬(l.state = .connected ∧ l.probe = false)) : l.tmos.live .restIdle = false := by
  cases hl : l.tmos.live .restIdle with
  | false => rfl
  | true => exact absurd (h.ofIdle hl) hs

theorem no_probe (h : l.Owned) (hs : ¬(l.state = .resting ∨ l.probe = true)) : l.tmos.live .restProbe = false := by
  cases hl : l.tmos.live .restProbe with
  | false => rfl
  | true => exact absurd (h.ofProbe hl).2 hs

theorem no_stage2 (h : l.Owned) (hs : ¬(l.state = .resting ∨ l.probe = true)) : l.tmos.live .restStage2 = false := by
  cases hl : l.tmos.live .restStage2 with
  | false => rfl
  | true => exact absurd (h.ofStage2 hl).2 hs

/-! ## The operations of the link -/

/-- The supervision timer starts anew. -/
theorem supervise (h : l.Owned) (hc : l.state = .connected) :
    { l with tmos := (l.tmos.stopTask .disconnect).startTask .disconnect rfConnectedTimeoutTicks }.Owned where
  inTime := h.inTime.restart ..
  boot := by simpa using h.boot
  beacon := by simpa using h.beacon
  supervised := by simp
  session := by simpa using h.session
  bounded := by simpa using h.bounded
  cadence := by simpa using h.cadence
  paced := by simpa using h.paced
  ofDisconnect _ := hc
  ofWindow := by simpa using h.ofWindow
  ofIdle := by simpa using h.ofIdle
  ofProbe := by simpa using h.ofProbe
  ofStage2 := by simpa using h.ofStage2

/-- The inactivity timer starts anew. -/
theorem rearmIdle (h : l.Owned) (hc : l.state = .connected) (hp : l.probe = false) (n : Nat) :
    { l with tmos := (l.tmos.stopTask .restIdle).startTask .restIdle n }.Owned where
  inTime := h.inTime.restart ..
  boot := by simpa using h.boot
  beacon := by simpa using h.beacon
  supervised := by simpa using h.supervised
  session := by simp
  bounded := by simpa using h.bounded
  cadence := by simpa using h.cadence
  paced := by simpa using h.paced
  ofDisconnect := by simpa using h.ofDisconnect
  ofWindow := by simpa using h.ofWindow
  ofIdle _ := ⟨hc, hp⟩
  ofProbe := by simpa using h.ofProbe
  ofStage2 := by simpa using h.ofStage2

theorem armIdle (h : l.Owned) : l.armIdle.Owned := by
  unfold RfLink.armIdle
  split
  · rename_i hc
    exact h.rearmIdle hc.1 hc.2 _
  · exact h

/-- A probe becomes the session. -/
theorem promote (h : l.Owned) (hc : l.state = .connected) : l.promote.Owned := by
  unfold RfLink.promote RfLink.armIdle
  rw [if_pos ⟨hc, rfl⟩]
  exact {
    inTime := ((((h.inTime.stopTask .restProbe).stopTask .restProbeTimeout).stopTask .restStage2).restart ..).restart ..
    boot := by simpa using h.boot
    beacon := fun hb => nomatch hc.symm.trans hb
    supervised := by simp
    session := by simp
    bounded := nofun
    cadence := nofun
    paced := nofun
    ofDisconnect := fun _ => hc
    ofWindow := by simpa using h.ofWindow
    ofIdle := fun _ => ⟨hc, rfl⟩
    ofProbe := by simp
    ofStage2 := by simp }

/-- The radio goes off, and what is left of the resting policy stays. -/
theorem goQuiet (ht : l.tmos.InTime) (hs : l.tmos.waits .start = false) (hi : l.tmos.live .restIdle = false)
    (hc : l.stage = 1 → l.tmos.live .restProbe = true ∧ l.tmos.live .restStage2 = true)
    (h1 : l.tmos.live .restProbe = true → l.stage = 1) (h2 : l.tmos.live .restStage2 = true → l.stage = 1) :
    l.goQuiet.Owned where
  inTime := (((((ht.stopTask .disconnect).stopTask .pairBcast).stopTask .pairRxOff).stopTask .pairTimeout).stopTask
    .enterConnected).stopTask .restProbeTimeout
  boot := by simp [RfLink.goQuiet, hs]
  beacon := nofun
  supervised := nofun
  session := nofun
  bounded := nofun
  cadence := by simpa [RfLink.goQuiet] using hc
  paced := nofun
  ofDisconnect := by simp [RfLink.goQuiet]
  ofWindow := by simp [RfLink.goQuiet]
  ofIdle := by simp [RfLink.goQuiet, hi]
  ofProbe hl := ⟨h1 (by simpa [RfLink.goQuiet] using hl), .inl rfl⟩
  ofStage2 hl := ⟨h2 (by simpa [RfLink.goQuiet] using hl), .inl rfl⟩

/-- A silent probe ends, its end being taken from the queue or still to come: the next one, and stage 2, are to come too. -/
theorem probeEnd (h : l.Owned) {t : Tmos} (htm : t = l.tmos ∨ t = l.tmos.take .restProbeTimeout) (caught : Bool)
    (hs : l.tmos.waits .start = false) (hp : l.probe = true) (hw : l.wake = false) :
    ({ l with tmos := t }.probeEnd caught).Owned := by
  have ht : t.InTime := by
    rcases htm with rfl | rfl
    · exact h.inTime
    · exact h.inTime.take _
  have hl : ∀ e : RfEvt, e ≠ .restProbeTimeout → t.live e = l.tmos.live e := by
    intro e he
    rcases htm with rfl | rfl
    · rfl
    · simp [he]
  have hs' : t.waits .start = false := by rcases htm with rfl | rfl <;> simp [hs]
  have hi : t.live .restIdle = false := by
    rw [hl .restIdle nofun]
    exact h.no_idle fun hc => nomatch hp.symm.trans hc.2
  have hc : l.stage = 1 → t.live .restProbe = true ∧ t.live .restStage2 = true := by
    intro hst
    obtain ⟨h1, h2⟩ := h.paced hp hw hst
    rw [hl .restProbe nofun, hl .restStage2 nofun]
    exact ⟨h2.live, h1⟩
  have h1 : t.live .restProbe = true → l.stage = 1 := by
    rw [hl .restProbe nofun]
    exact fun h' => (h.ofProbe h').1
  have h2 : t.live .restStage2 = true → l.stage = 1 := by
    rw [hl .restStage2 nofun]
    exact fun h' => (h.ofStage2 h').1
  cases caught
  · exact goQuiet ht hs' hi hc h1 h2
  · exact goQuiet ht hs' hi hc h1 h2

/-- The link goes to rest from a session, as its inactivity timer expires. -/
theorem enterRest (h : l.Owned) (hs : l.tmos.waits .start = false) (hc : l.state = .connected) (hp : l.probe = false)
    (hw : l.tmos.waits .restIdle = true) : { l with tmos := l.tmos.take .restIdle }.enterRest.Owned := by
  have hn : ¬(l.state = .resting ∨ l.probe = true) := by simp [hc, hp]
  have h2 := h.no_stage2 hn
  have h2w : l.tmos.waits .restStage2 = false := by
    simp only [Tmos.live, Bool.or_eq_false_iff] at h2
    exact h2.2
  have hi := h.inTime.not_live_take rfl hw
  have ht : (l.tmos.take .restIdle).InTime := h.inTime.take _
  unfold RfLink.enterRest RfLink.goQuiet
  exact {
    inTime := by
      refine Tmos.InTime.startTask (Tmos.InTime.startTask (e := .restProbe) ?_ (by rintro ⟨⟩) _) (fun _ => by simp [h2w]) _
      exact (((((ht.stopTask .disconnect).stopTask .pairBcast).stopTask .pairRxOff).stopTask .pairTimeout).stopTask
        .enterConnected).stopTask .restProbeTimeout
    boot := by simp [hs]
    beacon := by rintro ⟨⟩
    supervised := by rintro ⟨⟩
    session := by rintro ⟨⟩
    bounded := by rintro ⟨⟩
    cadence := by simp
    paced := by rintro ⟨⟩
    ofDisconnect := by simp
    ofWindow := by simp
    ofIdle := by
      rw [Tmos.live_startTask, Tmos.live_startTask]
      simp only [Tmos.live_stopTask, hi]
      simp
    ofProbe := fun _ => ⟨rfl, .inl rfl⟩
    ofStage2 := fun _ => ⟨rfl, .inl rfl⟩ }

/-- A probe starts. Unless a report woke it, the time of the next one is known. -/
theorem probeStart (ht : l.tmos.InTime) (hb : l.hasBond = true) (hm : l.macValid = true) (hs : l.tmos.waits .start = false)
    (hd : l.tmos.live .disconnect = false) (hi : l.tmos.live .restIdle = false)
    (hst : l.wake = false → l.stage = 1 →
      l.tmos.live .restStage2 = true ∧ l.tmos.timers .restProbe = some (l.tmos.now + kbdRestProbeTicks))
    (h1 : l.tmos.live .restProbe = true → l.stage = 1) (h2 : l.tmos.live .restStage2 = true → l.stage = 1) :
    l.probeStart.Owned := by
  unfold RfLink.probeStart
  rw [if_pos (by simp [hb, hm])]
  dsimp only [search]
  exact {
    inTime := by
      refine Tmos.InTime.restart (Tmos.InTime.setEvent ?_ rfl) ..
      exact ((ht.stopTask .enterConnected).stopTask .pairTimeout).stopTask .pairRxOff
    boot := by simp [hs]
    beacon := by simp
    supervised := nofun
    session := nofun
    bounded := by simp
    cadence := nofun
    paced := by
      intro _ hw hst'
      obtain ⟨h3, h4⟩ := hst hw hst'
      refine ⟨by simpa using h3, Tmos.Paced.start ?_⟩
      simpa [Tmos.stopTask, Tmos.setEvent] using h4
    ofDisconnect := by simp [hd]
    ofWindow := by simp
    ofIdle := by simp [hi]
    ofProbe := fun hl => ⟨h1 (by simpa using hl), .inr rfl⟩
    ofStage2 := fun hl => ⟨h2 (by simpa using hl), .inr rfl⟩ }

/-- An event is taken that the link does not need. -/
theorem take (h : l.Owned) (e : RfEvt) (hd : e ≠ .disconnect) (hi : e ≠ .restIdle) (h2 : e ≠ .restStage2)
    (hb : e = .pairBcast → l.state ≠ .pairing) (hp : e = .restProbe → ¬(l.state = .resting ∧ l.stage = 1))
    (ht : e = .restProbeTimeout → l.probe = false) : { l with tmos := l.tmos.take e }.Owned where
  inTime := h.inTime.take e
  boot hw := h.boot (by simp at hw; exact hw.2)
  beacon hs := by
    rw [Tmos.live_take, if_neg fun he => hb he.symm hs]
    exact h.beacon hs
  supervised := by simpa [hd.symm] using h.supervised
  session := by simpa [hi.symm] using h.session
  bounded hpr := by
    rw [Tmos.live_take, if_neg fun he => nomatch (ht he.symm).symm.trans hpr]
    exact h.bounded hpr
  cadence hs hst := by
    rw [Tmos.live_take, Tmos.live_take, if_neg fun he => hp he.symm ⟨hs, hst⟩, if_neg h2.symm]
    exact h.cadence hs hst
  paced hpr hw hst := by
    rw [Tmos.live_take, if_neg h2.symm]
    exact (h.paced hpr hw hst).imp_right (Tmos.Paced.take fun he => nomatch (ht he).symm.trans hpr).2
  ofDisconnect hl := h.ofDisconnect (Tmos.live_of_take hl)
  ofWindow hl := h.ofWindow (Tmos.live_of_take hl)
  ofIdle hl := h.ofIdle (Tmos.live_of_take hl)
  ofProbe hl := h.ofProbe (Tmos.live_of_take hl)
  ofStage2 hl := h.ofStage2 (Tmos.live_of_take hl)

/-- The search of a probe has caught the dongle. -/
theorem caughtProbe (h : l.Owned) (hs : l.tmos.waits .start = false) (hp : l.state = .pairing) (hpr : l.probe = true) :
    { l with
      state := .connected
      tmos := ((((l.tmos.stopTask .pairBcast).stopTask .pairTimeout).stopTask .pairRxOff).stopTask .disconnect).startTask
        .disconnect rfConnectedTimeoutTicks }.Owned where
  inTime := (((h.inTime.stopTask .pairBcast).stopTask .pairTimeout).stopTask .pairRxOff).restart ..
  boot := by simp [hs]
  beacon := nofun
  supervised := by simp
  session _ hpr' := nomatch hpr.symm.trans hpr'
  bounded := by simpa using h.bounded
  cadence := nofun
  paced := by simpa using h.paced
  ofDisconnect _ := rfl
  ofWindow := by simp
  ofIdle := by simp [h.no_idle fun hc => nomatch hp.symm.trans hc.1]
  ofProbe hl := ⟨(h.ofProbe (by simpa using hl)).1, .inr hpr⟩
  ofStage2 hl := ⟨(h.ofStage2 (by simpa using hl)).1, .inr hpr⟩

/-- A search the host asked for has caught the dongle. -/
theorem caughtSession (h : l.Owned) (hs : l.tmos.waits .start = false) (hp : l.state = .pairing) (hpr : l.probe = false)
    (u : List UartOut) :
    { l with
      state := .connected
      uart := u
      tmos := (((((l.tmos.stopTask .pairBcast).stopTask .pairTimeout).stopTask .pairRxOff).stopTask .disconnect).startTask
        .disconnect rfConnectedTimeoutTicks) }.armIdle.Owned := by
  have hn : ¬(l.state = .resting ∨ l.probe = true) := by simp [hp, hpr]
  unfold RfLink.armIdle
  rw [if_pos ⟨rfl, hpr⟩]
  exact {
    inTime := ((((h.inTime.stopTask .pairBcast).stopTask .pairTimeout).stopTask .pairRxOff).restart ..).restart ..
    boot := by simp [hs]
    beacon := nofun
    supervised := by simp
    session := by simp
    bounded := fun hpr' => nomatch hpr.symm.trans hpr'
    cadence := nofun
    paced := fun hpr' => nomatch hpr.symm.trans hpr'
    ofDisconnect := fun _ => rfl
    ofWindow := by simp
    ofIdle := fun _ => ⟨rfl, hpr⟩
    ofProbe := by simp [h.no_probe hn]
    ofStage2 := by simp [h.no_stage2 hn] }

/-- A connection. -/
theorem connect (h : l.Owned) (hs : l.tmos.waits .start = false) : l.connect.Owned := by
  unfold RfLink.connect
  split
  · rename_i hp
    dsimp only
    by_cases hpr : l.probe = true
    · have hc := h.caughtProbe hs hp hpr
      split
      · exact hc
      · exact hc.promote rfl
    · rw [if_neg (by simp [hpr]), if_neg hpr]
      exact h.caughtSession hs hp (by simpa using hpr) _
  · exact h

theorem broadcast (h : l.Owned) (hm : l.macValid = true) :
    { l with tmos := l.tmos.take .pairBcast }.broadcast.Owned := by
  unfold RfLink.broadcast
  rw [if_pos hm]
  exact {
    inTime := ((h.inTime.take .pairBcast).startTask (e := .pairBcast) nofun _).stopTask .pairRxOff
    boot := by simpa using h.boot
    beacon := by simp
    supervised := by simpa using h.supervised
    session := by simpa using h.session
    bounded := by simpa using h.bounded
    cadence := by simpa using h.cadence
    paced := by simpa using h.paced
    ofDisconnect := by simpa using h.ofDisconnect
    ofWindow := by simpa using h.ofWindow
    ofIdle := by simpa using h.ofIdle
    ofProbe := by simpa using h.ofProbe
    ofStage2 := by simpa using h.ofStage2 }

/-- The supervision time is over. -/
theorem lapse (h : l.Owned) (hw : l.tmos.waits .disconnect = true) :
    { l with tmos := l.tmos.take .disconnect }.lapse.Owned := by
  have hc := h.ofDisconnect (Tmos.live_of_waits hw)
  have hd := h.inTime.not_live_take rfl hw
  have hwin := h.no_window (by simp [hc])
  unfold RfLink.lapse
  rw [if_pos hc]
  unfold RfLink.cancel RfLink.out
  exact {
    inTime := ((((h.inTime.take .disconnect).stopTask .restIdle).stopTask .restProbe).stopTask .restProbeTimeout).stopTask
      .restStage2
    boot := fun _ => rfl
    beacon := nofun
    supervised := nofun
    session := nofun
    bounded := nofun
    cadence := nofun
    paced := nofun
    ofDisconnect := by simp only [Tmos.live_stopTask, hd, Bool.and_false]; exact nofun
    ofWindow := by simp [hwin]
    ofIdle := by simp
    ofProbe := by simp
    ofStage2 := by simp }

theorem drop (h : l.Owned) : l.drop.Owned where
  inTime := ((((((((h.inTime.stopTask .restIdle).stopTask .restProbe).stopTask .restProbeTimeout).stopTask
    .restStage2).stopTask .pairBcast).stopTask .pairTimeout).stopTask .pairRxOff).stopTask .enterConnected).stopTask
    .disconnect
  boot _ := rfl
  beacon := nofun
  supervised := nofun
  session := nofun
  bounded := nofun
  cadence := nofun
  paced := nofun
  ofDisconnect := by simp [RfLink.drop]
  ofWindow := by simp [RfLink.drop]
  ofIdle := by simp [RfLink.drop, cancel]
  ofProbe := by simp [RfLink.drop, cancel]
  ofStage2 := by simp [RfLink.drop, cancel]

/-- The bond is forgotten, once the link is dropped. -/
theorem forget (h : l.Owned) : l.drop.forget.Owned where
  inTime := (((((h.drop.inTime.stopTask .restIdle).stopTask .restProbe).stopTask .restProbeTimeout).stopTask
    .restStage2).stopTask .discardHid)
  boot _ := rfl
  beacon := nofun
  supervised := nofun
  session := nofun
  bounded := nofun
  cadence := nofun
  paced := nofun
  ofDisconnect := by simp [RfLink.forget, RfLink.drop, cancel]
  ofWindow := by simp [RfLink.forget, RfLink.drop, cancel]
  ofIdle := by simp [RfLink.forget, cancel]
  ofProbe := by simp [RfLink.forget, cancel]
  ofStage2 := by simp [RfLink.forget, cancel]

/-- A pairing the user asked for, while the end of the last window is not queued. -/
theorem enterPairing (h : l.Owned) (hs : l.tmos.waits .start = false) (hw : l.tmos.waits .pairTimeout = false) :
    l.enterPairing.Owned := by
  unfold RfLink.enterPairing
  split
  · exact h
  · rename_i hn
    have hc : l.state ≠ .connected := by
      rintro hc
      simp [hc] at hn
    have hd := h.no_disconnect hc
    exact {
      inTime := by
        refine Tmos.InTime.startTask (Tmos.InTime.setEvent ?_ rfl) (fun _ => by simp [cancel, hw]) _
        exact (((((h.inTime.stopTask .restIdle).stopTask .restProbe).stopTask .restProbeTimeout).stopTask
          .restStage2).stopTask .enterConnected).stopTask .pairRxOff
      boot := by simp [cancel, hs]
      beacon := by simp
      supervised := nofun
      session := nofun
      bounded := nofun
      cadence := nofun
      paced := nofun
      ofDisconnect := by simp [cancel, hd]
      ofWindow := fun _ => ⟨rfl, rfl⟩
      ofIdle := by simp [cancel]
      ofProbe := by simp [cancel]
      ofStage2 := by simp [cancel] }

/-- The policy is called off while there is no session. -/
theorem cancel (h : l.Owned) (hc : l.state ≠ .connected) : l.cancel.Owned where
  inTime := (((h.inTime.stopTask .restIdle).stopTask .restProbe).stopTask .restProbeTimeout).stopTask .restStage2
  boot := by simpa [RfLink.cancel] using h.boot
  beacon := by simpa [RfLink.cancel] using h.beacon
  supervised hc' := absurd hc' hc
  session hc' := absurd hc' hc
  bounded := nofun
  cadence := nofun
  paced := nofun
  ofDisconnect := by simpa [RfLink.cancel] using h.ofDisconnect
  ofWindow := by simpa [RfLink.cancel] using h.ofWindow
  ofIdle := by simp [RfLink.cancel]
  ofProbe := by simp [RfLink.cancel]
  ofStage2 := by simp [RfLink.cancel]

/-- An event that is none of the link's is stopped. -/
theorem stopOther (h : l.Owned) {e : RfEvt} (he : e.ofLink = false) : { l with tmos := l.tmos.stopTask e }.Owned :=
  h.same (Same.stopTask he)

/-- The search for the bonded dongle, from no session. -/
theorem search (h : l.Owned) (hs : l.tmos.waits .start = false) (hc : l.state ≠ .connected) :
    { l.cancel with tmos := l.cancel.tmos.stopTask .enterConnected }.search.Owned where
  inTime := ((((h.cancel hc).inTime.stopTask .enterConnected).stopTask .pairTimeout).stopTask .pairRxOff).setEvent rfl
  boot := by simp [RfLink.search, RfLink.cancel, hs]
  beacon := by simp [RfLink.search]
  supervised := nofun
  session := nofun
  bounded := nofun
  cadence := nofun
  paced := nofun
  ofDisconnect := by simp [RfLink.search, RfLink.cancel, h.no_disconnect hc]
  ofWindow := by simp [RfLink.search]
  ofIdle := by simp [RfLink.search, RfLink.cancel]
  ofProbe := by simp [RfLink.search, RfLink.cancel]
  ofStage2 := by simp [RfLink.search, RfLink.cancel]

theorem select (h : l.Owned) (hs : l.tmos.waits .start = false) : l.select.Owned := by
  have hd := h.stopOther (e := .discardHid) rfl
  unfold RfLink.select
  dsimp only
  split
  · exact hd
  · split
    · rename_i hc
      split
      · exact hd.promote hc
      · exact hd
    · rename_i hc
      split
      · exact hd.search (by simp [hs]) hc
      · exact hd.cancel hc

/-- A report. -/
theorem report (h : l.Owned) (hi : l.Inv) (e : Bool) : { l with empty := e }.wakeRest.Owned := by
  have he : { l with empty := e }.Owned :=
    ⟨h.inTime, h.boot, h.beacon, h.supervised, h.session, h.bounded, h.cadence, h.paced, h.ofDisconnect, h.ofWindow, h.ofIdle,
      h.ofProbe, h.ofStage2⟩
  unfold RfLink.wakeRest
  dsimp only
  split
  · rename_i hr
    obtain ⟨_, hb, hm, hp, _⟩ := hi.resting hr
    have hs : l.tmos.waits .start = false := by
      cases hs : l.tmos.waits .start with
      | false => rfl
      | true => exact nomatch hr.symm.trans (h.boot hs)
    refine probeStart ?_ hb hm (by simp [hs]) ?_ ?_ nofun (by simp) (by simp)
    · exact (h.inTime.stopTask .restProbe).stopTask .restStage2
    · simp [h.no_disconnect (by simp [show l.state = .resting from hr])]
    · simp [h.no_idle fun hc => nomatch hr.symm.trans hc.1]
  · split
    · rename_i hp
      have hw : { l with empty := e, wake := true, quiet := false }.Owned :=
        ⟨h.inTime, h.boot, h.beacon, h.supervised, h.session, h.bounded, h.cadence, nofun, h.ofDisconnect, h.ofWindow, h.ofIdle,
          h.ofProbe, h.ofStage2⟩
      split
      · rename_i hc
        exact hw.promote hc
      · exact hw
    · exact he.armIdle

/-! ## Steps -/

/-- `RF_EVT_START` finds the link idle. -/
theorem start (h : l.Owned) (hw : l.tmos.waits .start = true) :
    { l with tmos := l.tmos.take .start, state := .idle }.Owned := by
  have hi : { l with state := RfState.idle } = l := by rw [← h.boot hw]
  have ht := h.take .start nofun nofun nofun nofun nofun nofun
  rw [← hi] at ht
  exact ht

/-- The end of a pairing window that is fresh. -/
theorem closeWindow (h : l.Owned) (hi : l.Inv) (hw : l.tmos.waits .pairTimeout = true) :
    { l with state := .idle, tmos := (l.tmos.take .pairTimeout).stopTask .pairRxOff }.Owned := by
  obtain ⟨hp, _⟩ := h.ofWindow (Tmos.live_of_waits hw)
  have hpr := (hi.window (Tmos.live_of_waits hw)).1
  have hn : ¬(l.state = .resting ∨ l.probe = true) := by simp [hp, hpr]
  have hd := h.inTime.not_live_take rfl hw
  exact {
    inTime := (h.inTime.take .pairTimeout).stopTask .pairRxOff
    boot := fun _ => rfl
    beacon := nofun
    supervised := nofun
    session := nofun
    bounded := fun hpr' => nomatch hpr.symm.trans hpr'
    cadence := nofun
    paced := fun hpr' => nomatch hpr.symm.trans hpr'
    ofDisconnect := by simp [h.no_disconnect (by simp [hp])]
    ofWindow := by simp only [Tmos.live_stopTask, hd, Bool.and_false]; exact nofun
    ofIdle := by simp [h.no_idle fun hc => nomatch hp.symm.trans hc.1]
    ofProbe := by simp [h.no_probe hn]
    ofStage2 := by simp [h.no_stage2 hn] }

/-- The probes stop. -/
theorem enterStage2 (h : l.Owned) (hw : l.tmos.waits .restStage2 = true) :
    { l with stage := 2, tmos := (l.tmos.take .restStage2).stopTask .restProbe }.Owned := by
  have hd := h.inTime.not_live_take rfl hw
  exact {
    inTime := (h.inTime.take .restStage2).stopTask .restProbe
    boot := by simpa using h.boot
    beacon := by simpa using h.beacon
    supervised := by simpa using h.supervised
    session := by simpa using h.session
    bounded := by simpa using h.bounded
    cadence := nofun
    paced := nofun
    ofDisconnect := by simpa using h.ofDisconnect
    ofWindow := by simpa using h.ofWindow
    ofIdle := by simpa using h.ofIdle
    ofProbe := by simp
    ofStage2 := by simp only [Tmos.live_stopTask, hd, Bool.and_false]; exact nofun }

/-- A probe that a report woke goes on searching. -/
theorem searchOn (h : l.Owned) (hw : l.wake = true) (n : Nat) :
    { l with tmos := (l.tmos.take .restProbeTimeout).startTask .restProbeTimeout n }.Owned where
  inTime := by
    refine (h.inTime.take .restProbeTimeout).startTask (fun _ => ?_) n
    simp
  boot := by simpa using h.boot
  beacon := by simpa using h.beacon
  supervised := by simpa using h.supervised
  session := by simpa using h.session
  bounded := by simp
  cadence := by simpa using h.cadence
  paced _ hw' := nomatch hw.symm.trans hw'
  ofDisconnect := by simpa using h.ofDisconnect
  ofWindow := by simpa using h.ofWindow
  ofIdle := by simpa using h.ofIdle
  ofProbe := by simpa using h.ofProbe
  ofStage2 := by simpa using h.ofStage2

/-- The link cannot rest yet: the inactivity timer runs again. -/
theorem retryIdle (h : l.Owned) (hc : l.state = .connected) (hp : l.probe = false) (n : Nat) :
    { l with tmos := (l.tmos.take .restIdle).startTask .restIdle n }.Owned where
  inTime := by
    refine (h.inTime.take .restIdle).startTask (fun _ => ?_) n
    simp
  boot := by simpa using h.boot
  beacon := by simpa using h.beacon
  supervised := by simpa using h.supervised
  session := by simp
  bounded := by simpa using h.bounded
  cadence := by simpa using h.cadence
  paced := by simpa using h.paced
  ofDisconnect := by simpa using h.ofDisconnect
  ofWindow := by simpa using h.ofWindow
  ofIdle _ := ⟨hc, hp⟩
  ofProbe := by simpa using h.ofProbe
  ofStage2 := by simpa using h.ofStage2

/-- The handler of an event that was queued. -/
theorem handle (h : l.Owned) (hi : l.Inv) {e : RfEvt} (hn : l.tmos.next = some e) (hr : e ≠ .restIdle) :
    ({ l with tmos := l.tmos.take e }.handle e).Owned := by
  have hw := Tmos.next_eq_some hn
  by_cases he : e = .start
  · subst he
    exact h.start hw
  have hs : l.tmos.waits .start = false := Inv.started hn he
  cases e with
  | start => exact absurd rfl he
  | restIdle => exact absurd rfl hr
  | pairBcast =>
    dsimp only [RfLink.handle]
    split
    · rename_i hp
      exact h.broadcast (hi.pairing hp)
    · rename_i hp
      exact h.take .pairBcast nofun nofun nofun (fun _ => hp) nofun nofun
  | pairTimeout =>
    dsimp only [RfLink.handle]
    rw [if_pos (h.ofWindow (Tmos.live_of_waits hw)).1]
    exact h.closeWindow hi hw
  | enterConnected => exact (h.take .enterConnected nofun nofun nofun nofun nofun nofun).connect (by simp [hs])
  | restProbe =>
    dsimp only [RfLink.handle]
    split
    · rename_i hr'
      obtain ⟨_, hb, hm, hp, hwk⟩ := hi.resting hr'.1
      have hc : ¬l.state = .connected := by simp [show l.state = .resting from hr'.1]
      refine probeStart ?_ hb hm (by simp [hs]) (by simp [h.no_disconnect hc]) ?_ ?_ (fun _ => hr'.2) (fun _ => hr'.2)
      · exact (h.inTime.take .restProbe).startTask (e := .restProbe) nofun _
      · simp [h.no_idle fun hc' => hc hc'.1]
      · intro _ _
        exact ⟨by simpa using (h.cadence hr'.1 hr'.2).2, by simp [Tmos.startTask]⟩
    · rename_i hr'
      exact h.take .restProbe nofun nofun nofun nofun (fun _ => hr') nofun
  | restProbeTimeout =>
    dsimp only [RfLink.handle]
    split
    · rename_i hp
      split
      · rename_i hwk
        exact h.searchOn hwk _
      · rename_i hwk
        exact h.probeEnd (.inr rfl) false hs hp (by simpa using hwk)
    · rename_i hp
      exact h.take .restProbeTimeout nofun nofun nofun nofun nofun fun _ => by simpa using hp
  | restStage2 =>
    dsimp only [RfLink.handle]
    rw [if_pos (h.ofStage2 (Tmos.live_of_waits hw)).1]
    exact h.enterStage2 hw
  | disconnect => exact h.lapse hw
  | rxRestart | pairRxOff | respond | notifyLed | discardHid | saveBond => exact h.same (Same.take rfl)

/-- The rest of the link does not matter. -/
theorem others (h : l.Owned) (q b e : Bool) (u : List UartOut) :
    { l with quiet := q, hasBond := b, empty := e, uart := u }.Owned :=
  ⟨h.inTime, h.boot, h.beacon, h.supervised, h.session, h.bounded, h.cadence, h.paced, h.ofDisconnect, h.ofWindow, h.ofIdle,
    h.ofProbe, h.ofStage2⟩

/-- An offer is queued. -/
theorem offer (h : l.Owned) : { l with tmos := l.tmos.setEvent .enterConnected }.Owned where
  inTime := h.inTime.setEvent rfl
  boot := by simpa using h.boot
  beacon := by simpa using h.beacon
  supervised := by simpa using h.supervised
  session := by simpa using h.session
  bounded := by simpa using h.bounded
  cadence := by simpa using h.cadence
  paced := by simpa using h.paced
  ofDisconnect := by simpa using h.ofDisconnect
  ofWindow := by simpa using h.ofWindow
  ofIdle := by simpa using h.ofIdle
  ofProbe := by simpa using h.ofProbe
  ofStage2 := by simpa using h.ofStage2

/-- A timer expires, at its deadline or later. -/
theorem expire (h : l.Owned) (hi : l.Inv) {e : RfEvt} (ht : ∀ d, l.tmos.timers e = some d → d ≤ l.tmos.now) :
    { l with tmos := l.tmos.expire e }.Owned where
  inTime := h.inTime.expire e
  boot := by simpa [hi.untimed.1] using h.boot
  beacon := by simpa using h.beacon
  supervised := by simpa using h.supervised
  session := by simpa using h.session
  bounded := by simpa using h.bounded
  cadence := by simpa using h.cadence
  paced hp hw hst := by
    obtain ⟨h1, h2⟩ := h.paced hp hw hst
    exact ⟨by simpa using h1, h2.expire h.inTime ht⟩
  ofDisconnect := by simpa using h.ofDisconnect
  ofWindow := by simpa using h.ofWindow
  ofIdle := by simpa using h.ofIdle
  ofProbe := by simpa using h.ofProbe
  ofStage2 := by simpa using h.ofStage2

/-- The host leaves for another transport. -/
theorem leave (h : l.Owned) :
    { l.drop with tmos := (l.drop.tmos.stopTask .discardHid).startTask .discardHid kbdReselectKeepTicks }.Owned :=
  (h.drop.stopOther rfl).same (Same.startTask (e := .discardHid) rfl _)

/-- Every step of a timed run, but a pairing window opened anew while the end of the last one is queued. -/
theorem step {op : RfOp} (h : l.Owned) (hi : l.Inv) (ht : op.Timely l.tmos) (ho : op.OpensWindowOnce l.tmos)
    (hs : Step op l l') : l'.Owned := by
  cases hs with
  | same hs => exact h.same hs
  | report e => exact h.report hi e
  | select u => exact (h.select (ht rfl)).others _ _ _ u
  | leave u => exact h.leave.others _ _ _ u
  | pair u => exact (h.enterPairing (ht rfl) (ho rfl rfl)).others _ _ _ u
  | unpair u => exact h.forget.others _ _ _ u
  | factoryPair u =>
    have hw : l.drop.forget.tmos.waits .start = false := by simp [RfLink.forget, RfLink.drop, RfLink.cancel, ht rfl]
    have hp : l.drop.forget.tmos.waits .pairTimeout = false := by simp [RfLink.forget, RfLink.drop, RfLink.cancel]
    exact (h.forget.enterPairing hw hp).others _ _ _ u
  | told u => exact h.others _ _ _ u
  | event hn _ hr => exact h.handle hi hn hr
  | idleOver hn hc hp he => exact h.enterRest (Inv.started hn (by rintro ⟨⟩)) hc hp (Tmos.next_eq_some hn)
  | idleRetry hn hc hp => exact h.retryIdle hc hp _
  | idleSkip hn hc => exact absurd (h.ofIdle (Tmos.live_of_waits (Tmos.next_eq_some hn))) hc
  | caughtProbe hc hq =>
    obtain ⟨hp, hw⟩ := hi.quiet hq
    refine h.probeEnd (.inl rfl) true ?_ hp hw
    cases hs : l.tmos.waits .start with
    | false => rfl
    | true => cases hp.symm.trans (hi.boot hs).1
  | supervise hc hs => exact (h.supervise hc).same hs
  | firstPacket hp hb hs => exact (h.others _ true _ _).same hs
  | offer hp hb hs => exact h.offer.same hs
  | answer hp hw hs => exact (h.others true _ _ _).same hs
  | expire => exact h.expire hi ht
  | advance =>
    exact ⟨h.inTime.advance ht, h.boot, h.beacon, h.supervised, h.session, h.bounded, h.cadence, h.paced, h.ofDisconnect,
      h.ofWindow, h.ofIdle, h.ofProbe, h.ofStage2⟩
  | quiesce => exact h.drop

end Owned
/-- The timers at boot. -/
theorem owned_boot (mac : Mac) (macValid : Bool) (flash : Nat → Byte) (hw : RfHw) :
    (rfTaskInit mac macValid flash hw).link.Owned := by
  unfold rfTaskInit Rf.link
  generalize (rfLoadBondFromFlash hw.eeprom flash rfClearBondRam).1 = bond
  dsimp only
  split
  · exact {
      inTime := Tmos.InTime.init.setEvent rfl
      boot := by simp
      beacon := by simp
      supervised := nofun
      session := nofun
      bounded := nofun
      cadence := nofun
      paced := nofun
      ofDisconnect := by simp
      ofWindow := by simp
      ofIdle := by simp
      ofProbe := by simp
      ofStage2 := by simp }
  · exact {
      inTime := Tmos.InTime.init.setEvent rfl
      boot := fun _ => rfl
      beacon := nofun
      supervised := nofun
      session := nofun
      bounded := nofun
      cadence := nofun
      paced := nofun
      ofDisconnect := by simp
      ofWindow := by simp
      ofIdle := by simp
      ofProbe := by simp
      ofStage2 := by simp }

/-- The timers in every state a timed run reaches. -/
theorem owned_reach {s : Rf} (h : RfTimedReach RfOp.OpensWindowOnce s) : s.link.Owned ∧ s.link.Inv := by
  refine h.invariant (I := fun s => s.link.Owned ∧ s.link.Inv) ?_ ?_
  · rintro s ⟨mac, macValid, flash, hw, rfl⟩
    exact ⟨owned_boot mac macValid flash hw, inv_boot mac macValid flash hw⟩
  · rintro op s t _ ⟨ho, hi⟩ ⟨ht, hok, rfl⟩
    exact ⟨ho.step hi ht hok (step_apply op s), hi.step (step_apply op s)⟩

end RfLink
end OpenController
