import OpenController.Lemmas.RfDutyStep
import OpenController.Lemmas.RfLinkRun
import OpenController.RfCadence

/-!
# What the link does to its rest

Outside a rest its timers do not run, and each step of the link is a step of the rest. One lemma for each operation of the link.
-/

namespace OpenController

/-- The events of a rest are three. -/
theorem ofRest_all {P : RfEvt → Prop} (hprobe : P .restProbe) (htimeout : P .restProbeTimeout) (hstage : P .restStage2) (e : RfEvt)
    (he : e.ofRest = true) : P e := by
  cases e with
  | restProbe => exact hprobe
  | restProbeTimeout => exact htimeout
  | restStage2 => exact hstage
  | _ => exact absurd he (by decide)

namespace RfDoze

variable {d d' d'' : RfDoze}

/-- Two steps that are not about the rest are none. -/
theorem Stays.trans (h : Stays d d') (h' : Stays d' d'') : Stays d d'' where
  rests := h'.rests.trans h.rests
  probing := h'.probing.trans h.probing
  first := h'.first.trans h.first
  entries := h'.entries.trans h.entries
  now := h'.now.trans h.now
  timers e he := (h'.timers e he).trans (h.timers e he)
  queued e he := (h'.queued e he).trans (h.queued e he)

/-- A rest ends after a step that is not about it. -/
theorem Ended.after (h : Ended d' d'') (hentries : d'.entries = d.entries) (hnow : d'.tmos.now = d.tmos.now) : Ended d d'' :=
  ⟨h.rests, h.probing, h.entries.trans hentries, h.now.trans hnow⟩

end RfDoze

namespace RfLink

variable {l l' : RfLink} {op : RfOp}

/-! ## No rest, no timers -/

/-- IDLE is no rest. -/
theorem idle_ne : RfState.idle ≠ .resting := by decide

/-- Nor is PAIRING. -/
theorem pairing_ne : RfState.pairing ≠ .resting := by decide

/-- Nor is a session. -/
theorem connected_ne : RfState.connected ≠ .resting := by decide

/-- The timers of the probes and of the second stage run in a rest only. -/
def Clear (l : RfLink) : Prop :=
  l.state ≠ .resting → l.probe = false → l.tmos.live .restProbe = false ∧ l.tmos.live .restStage2 = false

/-- What is not about the link leaves its events alive or not. -/
theorem Same.live (hs : Same l l') {e : RfEvt} (he : e.ofLink = true) : l'.tmos.live e = l.tmos.live e := by
  simp only [Tmos.live, Tmos.armed, Tmos.waits, hs.timers e he, hs.queued e he]

/-- It starts no timer of a rest. -/
theorem Clear.same (h : l.Clear) (hs : Same l l') : l'.Clear := by
  intro hr hp
  rw [hs.live rfl, hs.live rfl]
  exact h (hs.state ▸ hr) (hs.probe ▸ hp)

/-- A rest that is cancelled leaves no timer. -/
theorem clear_cancel (l : RfLink) : l.cancel.Clear := fun _ _ => by simp [cancel]

/-- Nor does a link that is taken down. -/
theorem clear_drop (l : RfLink) : l.drop.Clear := fun _ _ => by simp [drop, cancel]

/-- Nor does a probe that becomes the session. -/
theorem clear_promote (l : RfLink) : l.promote.Clear := by
  intro _ _
  unfold promote armIdle
  split <;> simp

/-- A probe starts, and its time runs. -/
theorem clear_probeStart (l : RfLink) : l.probeStart.Clear := by
  intro _ hp
  unfold probeStart at hp ⊢
  split
  · rename_i h
    rw [if_pos h] at hp
    exact absurd (show true = false from hp) (by decide)
  · simp [cancel]

/-- The inactivity timer is none of a rest. -/
theorem Clear.armIdle (h : l.Clear) : l.armIdle.Clear := by
  unfold RfLink.armIdle
  split
  · intro hr hp
    simpa using h hr hp
  · exact h

/-- A pairing starts. -/
theorem clear_enterPairing (h : l.Clear) : l.enterPairing.Clear := by
  unfold enterPairing
  split
  · exact h
  · intro _ _
    simp [cancel]

/-- The host selects 2.4 GHz. -/
theorem clear_select (h : l.Clear) : l.select.Clear := by
  have hstop : Clear { l with tmos := l.tmos.stopTask .discardHid } := fun hr hp => by simpa using h hr hp
  unfold select
  dsimp only
  split
  · exact hstop
  · split
    · split
      · exact clear_promote _
      · exact hstop
    · split
      · intro _ _
        simp [search, cancel]
      · exact clear_cancel _

/-- A report wakes a rest. -/
theorem clear_wakeRest (h : l.Clear) : l.wakeRest.Clear := by
  unfold wakeRest
  split
  · exact clear_probeStart _
  · split
    · rename_i hp
      dsimp only
      split
      · exact clear_promote _
      · exact fun _ hp' => absurd (hp.symm.trans hp') (by decide)
    · exact h.armIdle

/-- The link connects. -/
theorem clear_connect (h : l.Clear) : l.connect.Clear := by
  unfold connect
  split
  · rename_i hs
    have hup (hp : l.probe = false) : l.tmos.live .restProbe = false ∧ l.tmos.live .restStage2 = false :=
      h (by rw [hs]; exact pairing_ne) hp
    dsimp only
    split
    · intro _ hp
      simpa using hup hp
    · split
      · exact clear_promote _
      · refine Clear.armIdle fun _ hp => ?_
        simpa [out] using hup hp
  · exact h

/-- An event is taken. -/
theorem Clear.take (h : l.Clear) (e : RfEvt) : Clear { l with tmos := l.tmos.take e } := by
  intro hr hp
  obtain ⟨hprobe, hstage⟩ := h hr hp
  have hdead {e' : RfEvt} (hd : l.tmos.live e' = false) : (l.tmos.take e).live e' = false :=
    Bool.eq_false_iff.2 fun hl => absurd (Tmos.live_of_take hl) (by simp [hd])
  exact ⟨hdead hprobe, hdead hstage⟩

/-- A state of the link for another one, neither of them a rest. -/
theorem Clear.setState (h : l.Clear) (hr : l.state ≠ .resting) (st : RfState) : Clear { l with state := st } := fun _ hp => h hr hp

/-- Every handler leaves no timer running outside of a rest. -/
theorem clear_handle (hi : l.Inv) (h : l.Clear) {e : RfEvt} (hn : l.tmos.next = some e) :
    ({ l with tmos := l.tmos.take e }.handle e).Clear := by
  have hw := Tmos.next_eq_some hn
  have htake := h.take e
  cases e with
  | start =>
    have hr : l.state ≠ .resting := by
      rcases (hi.boot hw).2 with hs | hs <;> rw [hs] <;> decide
    exact htake.setState hr .idle
  | pairBcast =>
    unfold handle
    dsimp only
    split
    · rename_i hs
      unfold broadcast
      split
      · intro hr hp
        simpa using h hr hp
      · exact htake.setState (by rw [hs]; exact pairing_ne) .idle
    · exact htake
  | pairTimeout =>
    unfold handle
    dsimp only
    split
    · rename_i hs
      intro _ hp
      simpa using h (by rw [hs]; exact pairing_ne) hp
    · exact htake
  | enterConnected => exact clear_connect htake
  | restProbe =>
    unfold handle
    dsimp only
    split
    · exact clear_probeStart _
    · exact htake
  | restProbeTimeout =>
    unfold handle
    dsimp only
    split
    · rename_i hp
      split
      · exact fun _ hp' => absurd (hp.symm.trans hp') (by decide)
      · exact fun hr => absurd rfl hr
    · exact htake
  | restStage2 =>
    unfold handle
    dsimp only
    split
    · intro hr hp
      have hdead := htake hr hp
      simp only [Tmos.live_stopTask]
      simp [hdead]
    · exact htake
  | disconnect =>
    show (lapse _).Clear
    unfold lapse
    split
    · exact fun _ _ => by simp [out, cancel]
    · exact htake
  | rxRestart | pairRxOff | respond | notifyLed | discardHid | saveBond | restIdle => exact htake

/-- So does every step of the link. -/
theorem Clear.step (h : l.Clear) (hi : l.Inv) (hs : Step op l l') : l'.Clear := by
  cases hs with
  | same hs => exact h.same hs
  | report e => exact clear_wakeRest h
  | select u => exact clear_select h
  | leave u => exact fun _ _ => by simp [drop, cancel]
  | pair u => exact clear_enterPairing h
  | unpair u => exact fun _ _ => by simp [forget, drop, cancel]
  | factoryPair u => exact clear_enterPairing fun _ _ => by simp [forget, drop, cancel]
  | told u => exact h
  | event hn _ _ => exact clear_handle hi h hn
  | idleOver _ _ _ _ => exact fun hr => absurd rfl hr
  | idleRetry _ _ _ =>
    intro hr hp
    simpa using h.take .restIdle hr hp
  | idleSkip _ _ => exact h.take .restIdle
  | caughtProbe _ _ => exact fun hr => absurd rfl hr
  | supervise hc hs =>
    refine Clear.same (fun hr hp => ?_) hs
    simpa using h hr hp
  | firstPacket _ _ hs | answer _ _ hs =>
    refine Clear.same ?_ hs
    exact h
  | offer _ _ hs =>
    refine Clear.same (fun hr hp => ?_) hs
    simpa using h hr hp
  | expire | advance =>
    intro hr hp
    simpa using h hr hp
  | quiesce => exact clear_drop l

/-! ## The rest of the link -/

open RfDoze (Stays Ended)

/-- What is not about the link is not about its rest. -/
theorem Same.stays (hs : Same l l') : Stays l.doze l'.doze where
  rests := by simp only [doze, hs.state, hs.probe, hs.wake]
  probing := by simp only [doze, hs.probe, hs.wake]
  first := by simp only [doze, hs.stage]
  entries := hs.rests
  now := hs.now
  timers := ofRest_all (hs.timers _ rfl) (hs.timers _ rfl) (hs.timers _ rfl)
  queued := ofRest_all (hs.queued _ rfl) (hs.queued _ rfl) (hs.queued _ rfl)

/-- The link neither rests nor probes, or a report has ended the rest. -/
theorem ended (h : l'.state ≠ .resting ∧ l'.probe = false ∨ l'.wake = true) (hentries : l'.rests = l.rests)
    (hnow : l'.tmos.now = l.tmos.now) : Ended l.doze l'.doze where
  rests := by rcases h with ⟨hs, hp⟩ | hw <;> simp [doze, *]
  probing := by rcases h with ⟨hs, hp⟩ | hw <;> simp [doze, *]
  entries := hentries
  now := hnow

/-- The inactivity timer starts, and there is no rest. -/
theorem ended_armIdle (hr : l'.state ≠ .resting) (hp : l'.probe = false) (hentries : l'.rests = l.rests)
    (hnow : l'.tmos.now = l.tmos.now) : Ended l.doze l'.armIdle.doze := by
  unfold armIdle
  split <;> exact ended (.inl ⟨hr, hp⟩) hentries hnow

/-- A probe becomes the session: the rest has ended. -/
theorem ended_promote (hr : l'.state ≠ .resting) (hentries : l'.rests = l.rests) (hnow : l'.tmos.now = l.tmos.now) :
    Ended l.doze l'.promote.doze :=
  ended_armIdle hr rfl hentries hnow

/-- The link is taken down: it has ended. -/
theorem ended_drop (l : RfLink) : Ended l.doze l.drop.doze := ended (.inl ⟨idle_ne, rfl⟩) rfl rfl

/-- The bond is forgotten: it has ended. -/
theorem ended_forget (l : RfLink) : Ended l.doze l.drop.forget.doze := by
  have hdrop := ended_drop l
  have hstate : l.drop.state = .idle := rfl
  generalize l.drop = d at hdrop hstate ⊢
  have hforget : Ended d.doze d.forget.doze := ended (.inl ⟨by rw [forget, cancel, hstate]; exact idle_ne, rfl⟩) rfl rfl
  exact hforget.after hdrop.entries hdrop.now

/-- What is told does not matter. -/
theorem doze_told (l : RfLink) (u : List UartOut) : { l with uart := u }.doze = l.doze := rfl

/-- A report ends the rest. -/
theorem ended_wakeRest (l : RfLink) : Ended l.doze l.wakeRest.doze := by
  unfold wakeRest
  split
  · unfold probeStart
    split
    · exact ended (.inr rfl) rfl rfl
    · exact ended (.inl ⟨idle_ne, rfl⟩) rfl rfl
  · rename_i hr
    split
    · dsimp only
      split
      · exact ended_promote hr rfl rfl
      · exact ended (.inr rfl) rfl rfl
    · rename_i hp
      exact ended_armIdle hr (by simpa using hp) rfl rfl

/-- The link is as it was, and the timers of a rest are. -/
theorem stays {t : Tmos} (hnow : t.now = l.tmos.now) (ht : ∀ e, e.ofRest = true → t.timers e = l.tmos.timers e)
    (hq : ∀ e, e.ofRest = true → t.queued e = l.tmos.queued e) : Stays l.doze { l with tmos := t }.doze :=
  ⟨rfl, rfl, rfl, rfl, hnow, ht, hq⟩

/-- A timer stops that is none of a rest. -/
theorem stays_stop {e : RfEvt} (he : e.ofRest = false) : Stays l.doze { l with tmos := l.tmos.stopTask e }.doze := by
  have hne {e' : RfEvt} (he' : e'.ofRest = true) : e' ≠ e := by
    rintro rfl
    simp [he] at he'
  exact stays rfl (fun _ he' => Function.update_of_ne (hne he') ..) fun _ he' => Function.update_of_ne (hne he') ..

/-- An event is queued or taken that is none of a rest. -/
theorem stays_queue {e : RfEvt} (he : e.ofRest = false) (v : Option Nat) :
    Stays l.doze { l with tmos := { l.tmos with queued := Function.update l.tmos.queued e v } }.doze := by
  refine stays rfl (fun _ _ => rfl) fun e' he' => Function.update_of_ne ?_ ..
  rintro rfl
  simp [he] at he'

/-! ## The steps of the link -/

/-- The host selects 2.4 GHz: a rest goes on, or has ended. -/
theorem select_doze (hi : l.Inv) : Stays l.doze l.select.doze ∨ Ended l.doze l.select.doze := by
  have hstop : Stays l.doze { l with tmos := l.tmos.stopTask .discardHid }.doze := stays_stop rfl
  unfold select
  dsimp only
  split
  · exact .inl hstop
  · split
    · rename_i hc
      split
      · exact .inr (ended_promote (by rw [hc]; exact connected_ne) rfl rfl)
      · exact .inl hstop
    · split
      · exact .inr (ended (.inl ⟨pairing_ne, rfl⟩) rfl rfl)
      · rename_i hb
        have hr : l.state ≠ .resting := by
          intro hr
          exact hb (hi.resting hr).2.1
        exact .inr (ended (.inl ⟨hr, rfl⟩) rfl rfl)

/-- A pairing ends a rest, if it starts. -/
theorem enterPairing_doze (l : RfLink) : Stays l.doze l.enterPairing.doze ∨ Ended l.doze l.enterPairing.doze := by
  unfold enterPairing
  split
  · exact .inl (stays rfl (fun _ _ => rfl) fun _ _ => rfl)
  · exact .inr (ended (.inl ⟨pairing_ne, rfl⟩) rfl rfl)

/-- The search has caught the dongle: a silent probe goes on, and otherwise there is no rest. -/
theorem step_connect (l : RfLink) : RfDoze.Step op 0 l.doze ({ l with tmos := l.tmos.take .enterConnected }.connect).doze := by
  unfold connect
  split
  · rename_i hs
    have hpairing : l.state = .pairing := hs
    dsimp only
    split
    · refine .stays ⟨?_, rfl, rfl, rfl, rfl, ofRest_all rfl rfl rfl, ofRest_all rfl rfl rfl⟩
      · simp [doze, hpairing]
    · split
      · exact .ended (ended_promote connected_ne rfl rfl)
      · rename_i hp
        have hprobe : l.probe = false := by simpa using hp
        exact .ended (ended_armIdle connected_ne hprobe rfl rfl)
  · exact .stays (stays_queue rfl none)

/-- The handler of an event that starts no probe. -/
theorem step_handle (hi : l.Inv) {e : RfEvt} (hn : l.tmos.next = some e) (hp : e ≠ .restProbe) :
    RfDoze.Step .process 0 l.doze ({ l with tmos := l.tmos.take e }.handle e).doze := by
  have hw := Tmos.next_eq_some hn
  cases e with
  | start => exact .ended (ended (.inl ⟨idle_ne, (hi.boot hw).1⟩) rfl rfl)
  | pairBcast =>
    show RfDoze.Step _ _ _ (ite _ _ _ : RfLink).doze
    split
    · rename_i hs
      have hvalid : l.macValid = true := hi.pairing hs
      unfold broadcast
      rw [if_pos hvalid]
      exact .stays ⟨rfl, rfl, rfl, rfl, rfl, ofRest_all rfl rfl rfl, ofRest_all rfl rfl rfl⟩
    · exact .stays (stays_queue rfl none)
  | pairTimeout =>
    show RfDoze.Step _ _ _ (ite _ _ _ : RfLink).doze
    split
    · exact .ended (ended (.inl ⟨idle_ne, (hi.window (Tmos.live_of_waits hw)).1⟩) rfl rfl)
    · exact .stays (stays_queue rfl none)
  | enterConnected => exact step_connect l
  | restProbe => exact absurd rfl hp
  | restProbeTimeout =>
    show RfDoze.Step _ _ _ (ite _ _ _ : RfLink).doze
    split
    · rename_i hprobe
      split
      · rename_i hwake
        exact .ended (ended (.inr hwake) rfl rfl)
      · rename_i hwake
        have hsilent : l.wake = false := by simpa using hwake
        have hprobing : l.probe = true := hprobe
        refine .probeEnd (by simp [doze, hsilent, hprobing]) ⟨?_, rfl, rfl, rfl, rfl, ofRest_all rfl rfl rfl, ofRest_all rfl rfl rfl⟩
        · simp [doze, probeEnd, goQuiet, RfDoze.probeEnd, hprobing, hsilent]
    · rename_i hprobe
      have hnone : l.probe = false := by simpa using hprobe
      exact .skip hn (fun h => absurd h (by decide)) (fun _ => by simp [doze, hnone]) fun h => absurd h (by decide)
  | restStage2 =>
    show RfDoze.Step _ _ _ (ite _ _ _ : RfLink).doze
    split
    · exact .second hn
    · rename_i hstage
      exact .skip hn (fun h => absurd h (by decide)) (fun h => absurd h (by decide)) fun _ => decide_eq_false hstage
  | disconnect =>
    show RfDoze.Step _ _ _ (lapse _).doze
    unfold lapse
    split
    · exact .ended (ended (.inl ⟨idle_ne, rfl⟩) rfl rfl)
    · exact .stays (stays_queue rfl none)
  | rxRestart | pairRxOff | respond | notifyLed | discardHid | saveBond | restIdle => exact .stays (stays_queue rfl none)

/-- The handler of the event that does. -/
theorem step_restProbe (hi : l.Inv) (hn : l.tmos.next = some .restProbe) :
    RfDoze.Step .process (if l.state = .resting ∧ l.stage = 1 then 1 else 0) l.doze
      ({ l with tmos := l.tmos.take .restProbe }.handle .restProbe).doze := by
  show RfDoze.Step _ _ _ (ite _ _ _ : RfLink).doze
  by_cases hfree : l.state = .resting ∧ l.stage = 1
  · rw [if_pos hfree, if_pos hfree]
    obtain ⟨-, hb, hm, hp, hw⟩ := hi.resting hfree.1
    unfold probeStart
    rw [if_pos (show (l.hasBond && l.macValid) = true by rw [hb, hm]; rfl)]
    refine .probe hn ⟨?_, ?_, ?_⟩ ⟨?_, ?_, rfl, rfl, rfl, ofRest_all rfl rfl rfl, ofRest_all rfl rfl rfl⟩
    · simp [doze, hfree.1, hw]
    · simp [doze, hp]
    · simp [doze, hfree.2]
    · simp [doze, search, RfDoze.take, RfDoze.probe, hw, hfree.1]
    · simp [doze, search, RfDoze.take, RfDoze.probe, hw]
  · rw [if_neg hfree, if_neg hfree]
    refine .skip hn (fun _ h => ?_) (fun h => absurd h (by decide)) fun h => absurd h (by decide)
    obtain ⟨hr, hp, hf⟩ := h
    simp only [doze, Bool.and_eq_true, Bool.or_eq_true, Bool.and_eq_false_iff, decide_eq_true_eq, Bool.not_eq_true',
      Bool.not_eq_false'] at hr hp hf
    rcases hp with hp | hwake
    · simp [hp] at hr
      exact hfree ⟨hr.1, hf⟩
    · simp [hwake] at hr

/-- A step of the link that starts no probe is a step of the rest. -/
theorem Step.doze (hs : Step op l l') (hi : l.Inv) (hc : l.Clear) (hn : op = .process → l.tmos.next ≠ some .restProbe) :
    RfDoze.Step op 0 l.doze l'.doze := by
  cases hs with
  | same hs => exact .stays hs.stays
  | report e => exact .ended ((ended_wakeRest { l with empty := e }).after rfl rfl)
  | select u =>
    rw [doze_told]
    exact (select_doze hi).elim .stays .ended
  | leave u =>
    have hdrop := ended_drop l
    generalize l.drop = d at hdrop ⊢
    exact .ended ⟨hdrop.rests, hdrop.probing, hdrop.entries, hdrop.now⟩
  | pair u =>
    rw [doze_told]
    exact (enterPairing_doze l).elim .stays .ended
  | unpair u =>
    rw [doze_told]
    exact .ended (ended_forget l)
  | factoryPair u =>
    rw [doze_told]
    have hforget := ended_forget l
    rcases enterPairing_doze l.drop.forget with hstays | hended
    · exact .ended ⟨hstays.rests.trans hforget.rests, hstays.probing.trans hforget.probing, hstays.entries.trans hforget.entries,
        hstays.now.trans hforget.now⟩
    · exact .ended (hended.after hforget.entries hforget.now)
  | told u => exact .stays ⟨rfl, rfl, rfl, rfl, rfl, fun _ _ => rfl, fun _ _ => rfl⟩
  | event hnext _ _ => exact step_handle hi hnext fun h => hn rfl (h ▸ hnext)
  | idleOver hnext hup hp _ =>
    have hclear := hc (by rw [hup]; exact connected_ne) hp
    have hw : l.wake = false := by
      cases hw : l.wake with
      | false => rfl
      | true => exact absurd (hp.symm.trans (hi.wake hw)) (by decide)
    refine .enter hclear.1 hclear.2 ⟨?_, ?_, rfl, rfl, rfl, ofRest_all rfl rfl rfl, ofRest_all rfl rfl rfl⟩
    · rfl
    · rfl
  | idleRetry _ _ _ =>
    exact .stays ⟨rfl, rfl, rfl, rfl, rfl, ofRest_all rfl rfl rfl, ofRest_all rfl rfl rfl⟩
  | idleSkip _ _ => exact .stays (stays_queue rfl none)
  | caughtProbe _ hq =>
    obtain ⟨hp, hw⟩ := hi.quiet hq
    refine .probeEnd (by simp [RfLink.doze, hp, hw]) ⟨?_, rfl, rfl, rfl, rfl, ofRest_all rfl rfl rfl, ofRest_all rfl rfl rfl⟩
    · simp [RfLink.doze, probeEnd, goQuiet, RfDoze.probeEnd, hp, hw]
  | supervise _ hs =>
    have hsame : Stays l.doze { l with tmos := (l.tmos.stopTask .disconnect).startTask .disconnect rfConnectedTimeoutTicks }.doze :=
      stays rfl (ofRest_all rfl rfl rfl) (ofRest_all rfl rfl rfl)
    exact .stays (hsame.trans hs.stays)
  | firstPacket _ _ hs | answer _ _ hs =>
    have hsame := hs.stays
    exact .stays ⟨hsame.rests, hsame.probing, hsame.first, hsame.entries, hsame.now, hsame.timers, hsame.queued⟩
  | offer _ _ hs =>
    exact .stays ((stays_queue rfl _).trans hs.stays)
  | expire => exact .expire
  | advance => exact .advance
  | quiesce => exact .ended (ended_drop l)

end RfLink

/-! ## The RF task -/

/-- The rest of a state of the RF task. -/
abbrev Rf.doze (s : Rf) : RfDoze := s.link.doze

/-- What the handler of `RF_EVT_REST_PROBE` does to the link. -/
theorem link_process_restProbe {s : Rf} (hn : s.tmos.next = some .restProbe) :
    (RfOp.process.apply s).link = ({ s.link with tmos := s.link.tmos.take .restProbe }).handle .restProbe := by
  show (tmosProcess.run s).2.link = _
  rw [run_tmosProcess hn, link_rfProcessEvent rfl (by decide)]
  rfl

/-- Whatever happens to the RF task is a step of the rest. -/
theorem doze_apply (op : RfOp) {s : Rf} (hi : s.link.Inv) (hc : s.link.Clear) :
    RfDoze.Step op (op.probes s) s.doze (op.apply s).doze := by
  have hother (hn : op = .process → s.tmos.next ≠ some .restProbe) : RfDoze.Step op (op.probes s) s.doze (op.apply s).doze := by
    have hzero : op.probes s = 0 := by
      unfold RfOp.probes
      split
      · exact if_neg fun h => hn rfl h.1
      · rfl
    rw [hzero]
    exact (step_apply op s).doze hi hc hn
  by_cases hop : op = .process
  · subst hop
    by_cases hn : s.tmos.next = some .restProbe
    · have hprobes : RfOp.process.probes s = if s.state = .resting ∧ s.rest.stage = 1 then 1 else 0 := by
        simp only [RfOp.probes, Rf.StartsProbe, hn, true_and]
      show RfDoze.Step _ _ s.link.doze (RfOp.process.apply s).link.doze
      rw [link_process_restProbe hn, hprobes]
      exact RfLink.step_restProbe hi hn
    · exact hother fun _ => hn
  · exact hother fun h => absurd h hop

/-- The handler of `RF_EVT_REST_PROBE` starts a probe, if the link rests in its first stage. -/
theorem Rf.StartsProbe.process {s : Rf} (hs : s.StartsProbe) (hi : s.link.Inv) : (RfOp.process.apply s).ProbeStarted := by
  obtain ⟨hn, hresting, hstage⟩ := hs
  obtain ⟨-, hbond, hmac, -, -⟩ := hi.resting hresting
  have hable : (s.link.hasBond && s.link.macValid) = true := by rw [hbond, hmac]; rfl
  have hlink : (RfOp.process.apply s).link =
      ({ s.link with tmos := (s.link.tmos.take .restProbe).startTask .restProbe kbdRestProbeTicks } : RfLink).probeStart := by
    rw [link_process_restProbe hn]
    exact if_pos ⟨hresting, hstage⟩
  rw [RfLink.probeStart, if_pos hable] at hlink
  have htmos := congrArg RfLink.tmos hlink
  have hnow := congrArg Tmos.now htmos
  exact ⟨congrArg RfLink.probe hlink, ⟨congrArg RfLink.state hlink, congrArg RfLink.flavor hlink⟩,
    congrArg (fun t => t.waits .pairBcast) htmos, (congrArg (fun t => t.timers .restProbeTimeout) htmos).trans (hnow ▸ rfl),
    (congrArg (fun t => t.timers .restProbe) htmos).trans (hnow ▸ rfl)⟩

/-- In every state that is reached the timers run in a rest only. -/
theorem clear_reach {s : Rf} (h : RfReach s) : s.link.Clear := by
  refine Reach.invariant (I := fun s => s.link.Clear) ?_ ?_ h
  · rintro s ⟨mac, macValid, flash, hw, rfl⟩ _ _
    simp only [Rf.link, rfTaskInit]
    split <;> simp
  · rintro op s t hs hc rfl
    exact hc.step (RfLink.inv_reach hs) (step_apply op s)

end OpenController
