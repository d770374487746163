import OpenController.Lemmas.RfCalls
import OpenController.Lemmas.RfHearsAux
import OpenController.Lemmas.TmosAux
import OpenController.RfSupervision

/-!
# The supervision timer, across runs

Whenever `RF_EVT_DISCONNECT` is due in a session, the supervision time lies between the start of the session and its due time, and,
unless a poll waits to be noted, between every poll and its due time too. Wherever the session starts or a poll is noted the timer is
stopped first, and started anew.
-/

namespace OpenController

open Prog RfStatements

variable {w w' : SupervisionWorld} {s t : Rf}

/-- The times are past, and so is the time a queued `RF_EVT_DISCONNECT` was due. -/
structure TimesOk (w : SupervisionWorld) : Prop where
  starts : ∀ t ∈ w.starts, t ≤ w.rf.tmos.now
  polls : ∀ t ∈ w.polls, t ≤ w.rf.tmos.now
  queued : ∀ d, w.rf.tmos.queued .disconnect = some d → d ≤ w.rf.tmos.now
  drops : ∀ d ∈ w.drops, d.Overdue

/-- In a session the timer leaves the supervision time after its start, and after every poll that does not wait to be noted. -/
structure SupervisionOk (w : SupervisionWorld) : Prop extends TimesOk w where
  started : w.rf.state = .connected → ∀ d, w.rf.tmos.due .disconnect d → ∀ t ∈ w.starts, t + rfConnectedTimeoutTicks ≤ d
  polled : w.rf.state = .connected → ∀ d, w.rf.tmos.due .disconnect d → w.rf.supervisionKick = false →
    ∀ t ∈ w.polls, t + rfConnectedTimeoutTicks ≤ d

/-- There is no session. -/
def AwayOk (w : SupervisionWorld) : Prop := TimesOk w ∧ w.rf.state ≠ .connected

/-- The supervision timer has been stopped. -/
def StoppedOk (w : SupervisionWorld) : Prop := TimesOk w ∧ ∀ d, ¬w.rf.tmos.due .disconnect d

/-- Without a session there is nothing to supervise. -/
theorem AwayOk.ok (h : AwayOk w) : SupervisionOk w :=
  { h.1 with
    started := fun hc => absurd hc h.2
    polled := fun hc => absurd hc h.2 }

/-- A timer that is stopped is never early. -/
theorem StoppedOk.ok (h : StoppedOk w) : SupervisionOk w :=
  { h.1 with
    started := fun _ d hd => absurd hd (h.2 d)
    polled := fun _ d hd => absurd hd (h.2 d) }

/-! ## Interrupts -/

/-- The time, when `RF_EVT_DISCONNECT` was due if it is queued, and whether a poll waits to be noted. -/
def Rf.supervision (s : Rf) : Nat × Option Nat × Bool := (s.tmos.now, s.tmos.queued .disconnect, s.supervisionKick)

/-- A poll that is caught asks for the timer to start anew, and does nothing else to it. -/
theorem supervision_onPoll (s : Rf) (buf : RxBuf) : (s.onPoll buf).supervision =
    (s.tmos.now, s.tmos.queued .disconnect, s.supervisionKick || decide (buf.len = 1 ∨ buf.len = 3 ∨ buf.len = 10)) := by
  have hsave : ∀ s : Rf, s.dueBondSave.supervision = s.supervision := by
    intro s
    unfold Rf.dueBondSave
    split <;> rfl
  have hack : ∀ (s : Rf) (rxCtrl : Byte), (s.ackPoll rxCtrl).supervision = s.supervision := by
    intro s rxCtrl
    unfold Rf.ackPoll
    repeat' split
    all_goals rfl
  have hled : ∀ (s : Rf) (buf : RxBuf), (s.relayLed buf).supervision = s.supervision := by
    intro s buf
    simp only [Rf.relayLed]
    repeat' split
    all_goals rfl
  unfold Rf.onPoll
  split
  · next hlen =>
    rw [decide_eq_false (by omega), Bool.or_false]
    rfl
  · next hlen =>
    rw [decide_eq_true (by omega), Bool.or_true]
    have hlatch (u : Rf) : u.latchResponse.supervision = (u.supervision.1, u.supervision.2.1, true) := rfl
    rw [hlatch, hled, hack, hsave]
    rfl

/-- The callback notes a poll, and leaves the timers alone. -/
theorem callback_supervision (s : Rf) (sta : RfSta) (rsr : Nat) (rxBuf : Option RxBuf) :
    (s.rf2g4StatusCallBack sta rsr rxBuf).supervision =
      (s.tmos.now, s.tmos.queued .disconnect, s.supervisionKick || decide (s.PollsWith sta rsr rxBuf)) := by
  have hpair : ∀ (s : Rf) (buf : RxBuf), (s.onPairPacket buf).supervision = s.supervision := by
    intro s buf
    unfold Rf.onPairPacket
    repeat' split
    all_goals rfl
  have hnone (t : Rf) (hn : ¬s.PollsWith sta rsr rxBuf) (ht : t.supervision = s.supervision) : t.supervision =
      (s.tmos.now, s.tmos.queued .disconnect, s.supervisionKick || decide (s.PollsWith sta rsr rxBuf)) := by
    rw [decide_eq_false hn, Bool.or_false]
    exact ht
  cases sta with
  | txFinish => exact hnone _ (fun h => absurd h.1 (by decide)) rfl
  | txFail => exact hnone _ (fun h => absurd h.1 (by decide)) rfl
  | other => exact hnone _ (fun h => absurd h.1 (by decide)) rfl
  | rxData =>
    cases rxBuf with
    | none => exact hnone _ Rf.not_pollsWith_none rfl
    | some buf =>
      have hpolls : s.PollsWith .rxData rsr (some buf) ↔ rsr = 0 ∧ s.CatchesPoll buf := by simp [Rf.PollsWith]
      by_cases hrsr : rsr = 0
      · subst hrsr
        by_cases hp : s.state = .pairing ∧ buf.len = 15 ∧ buf 6 < 5
        · refine hnone _ (fun h => ?_) ((congrArg Rf.supervision (if_pos hp)).trans (hpair _ buf))
          exact absurd (hp.1.symm.trans (hpolls.mp h).2.1) (by decide)
        · by_cases hc : s.state = .connected
          · have hcb : s.rf2g4StatusCallBack .rxData 0 (some buf) = { s with rssi := buf 0 }.onPoll buf :=
              (if_neg hp).trans (if_pos hc)
            have hdec : decide (s.PollsWith .rxData 0 (some buf)) = decide (buf.len = 1 ∨ buf.len = 3 ∨ buf.len = 10) :=
              decide_eq_decide.mpr ⟨fun h => (hpolls.mp h).2.2, fun h => hpolls.mpr ⟨rfl, hc, h⟩⟩
            rw [hcb, hdec]
            exact supervision_onPoll _ buf
          · have hcb : s.rf2g4StatusCallBack .rxData 0 (some buf) = { s with rssi := buf 0 }.setEvent .rxRestart :=
              (if_neg hp).trans (if_neg hc)
            exact hnone _ (fun h => hc (hpolls.mp h).2.1) (by rw [hcb]; rfl)
      · have hcb : s.rf2g4StatusCallBack .rxData rsr (some buf) = s.setEvent .rxRestart := if_pos hrsr
        exact hnone _ (fun h => hrsr (hpolls.mp h).1) (by rw [hcb]; rfl)

/-- What happens between two statements: time passes, the timer may expire, and a poll that is caught waits to be noted. -/
structure Passes (w w' : SupervisionWorld) : Prop where
  now : w.rf.tmos.now ≤ w'.rf.tmos.now
  state : w'.rf.state = w.rf.state
  starts : w'.starts = w.starts
  drops : w'.drops = w.drops
  polls : w'.polls = w.polls ∨ w'.polls = w.polls ++ [w.rf.tmos.now] ∧ w'.rf.supervisionKick = true
  kick : w'.rf.supervisionKick = false → w.rf.supervisionKick = false
  due : ∀ d, w'.rf.tmos.due .disconnect d → w.rf.tmos.due .disconnect d
  queued : ∀ d, w'.rf.tmos.queued .disconnect = some d → w.rf.tmos.queued .disconnect = some d ∨ d ≤ w.rf.tmos.now

/-- When the timer expires, the event is due when the timer was, or since it was queued. -/
theorem queued_expire (t : Tmos) (e : RfEvt) (d : Nat) (h : (t.expire e).queued .disconnect = some d) :
    t.queued .disconnect = some d ∨ t.timers .disconnect = some d ∧ (t.expire e).timers .disconnect = none := by
  unfold Tmos.expire at h ⊢
  cases he : t.timers e with
  | none =>
    rw [he] at h
    exact .inl h
  | some deadline =>
    rw [he] at h
    by_cases hd : e = .disconnect
    · subst hd
      simp only [Function.update_self] at h ⊢
      cases hq : t.queued .disconnect with
      | none =>
        rw [hq] at h
        exact .inr ⟨he.trans h, trivial⟩
      | some q =>
        rw [hq] at h
        exact .inl h
    · simp only [Function.update_of_ne (Ne.symm hd)] at h
      exact .inl h

/-- The supervision timer runs on if another expires. -/
theorem timers_expire (t : Tmos) (e : RfEvt) (d : Nat) (h : (t.expire e).timers .disconnect = some d) :
    t.timers .disconnect = some d := by
  unfold Tmos.expire at h
  split at h
  · exact h
  · by_cases hd : e = .disconnect
    · subst hd
      simp at h
    · simpa only [Function.update_of_ne (Ne.symm hd)] using h

/-- What happens between two statements is time passing. -/
theorem supervisionHears_passes (h : SupervisionHears w w') : Passes w w' := by
  cases h with
  | callback sta rsr rxBuf _ =>
    have hview := callback_supervision w.rf sta rsr rxBuf
    have hnow : (w.rf.rf2g4StatusCallBack sta rsr rxBuf).tmos.now = w.rf.tmos.now := congrArg Prod.fst hview
    have hqueued : (w.rf.rf2g4StatusCallBack sta rsr rxBuf).tmos.queued .disconnect = w.rf.tmos.queued .disconnect :=
      congrArg (·.2.1) hview
    have hkick : (w.rf.rf2g4StatusCallBack sta rsr rxBuf).supervisionKick =
        (w.rf.supervisionKick || decide (w.rf.PollsWith sta rsr rxBuf)) := congrArg (·.2.2) hview
    have htimers := congrFun (w.rf.callback_timers sta rsr rxBuf) .disconnect
    exact {
      now := Nat.le_of_eq hnow.symm
      state := (w.rf.callback_spec sta rsr rxBuf).elim (·.state) fun ⟨_, _, _, _, hp⟩ => hp.state
      starts := rfl
      drops := rfl
      polls := by
        by_cases hp : w.rf.PollsWith sta rsr rxBuf
        · exact .inr ⟨if_pos hp, hkick.trans (by simp [hp])⟩
        · exact .inl (if_neg hp)
      kick := fun hk => ((Bool.or_eq_false_iff).mp (hkick.symm.trans hk)).1
      due := fun d hd => hd.imp htimers.symm.trans hqueued.symm.trans
      queued := fun d hd => .inl (hqueued.symm.trans hd) }
  | elsewhere he hd =>
    cases he with
    | tmr0Cycle => exact ⟨Nat.le_refl _, rfl, rfl, rfl, .inl rfl, id, fun _ => id, fun _ => .inl⟩
    | tmr0Irq =>
      have hb := w.rf.bystander_tmr0IRQHandler
      have hview : w.rf.tmr0IRQHandler.supervision = w.rf.supervision := by
        simp only [Rf.tmr0IRQHandler]
        repeat' split
        all_goals rfl
      have hqueued : w.rf.tmr0IRQHandler.tmos.queued .disconnect = w.rf.tmos.queued .disconnect := congrArg (·.2.1) hview
      have htimers := congrFun w.rf.tmr0IRQHandler_timers .disconnect
      exact {
        now := Nat.le_of_eq (congrArg Prod.fst hview).symm
        state := hb.state
        starts := rfl
        drops := rfl
        polls := .inl rfl
        kick := (congrArg (·.2.2) hview).symm.trans
        due := fun d hd => hd.imp htimers.symm.trans hqueued.symm.trans
        queued := fun d hd => .inl (hqueued.symm.trans hd) }
    | expire e =>
      have hnow : (w.rf.tmos.expire e).now = w.rf.tmos.now := by
        unfold Tmos.expire
        split <;> rfl
      exact {
        now := Nat.le_of_eq hnow.symm
        state := rfl
        starts := rfl
        drops := rfl
        polls := .inl rfl
        kick := id
        due := fun d hd' => by
          rcases hd' with ht | hq
          · exact .inl (timers_expire _ e d ht)
          · exact (queued_expire _ e d hq).elim .inr fun h => .inl h.1
        queued := fun d hq => (queued_expire _ e d hq).imp id fun h => hd .disconnect d h.1 h.2 }
    | advance ticks => exact ⟨Nat.le_add_right _ _, rfl, rfl, rfl, .inl rfl, id, fun _ => id, fun _ => .inl⟩
    | hardware hw => exact ⟨Nat.le_refl _, rfl, rfl, rfl, .inl rfl, id, fun _ => id, fun _ => .inl⟩

namespace Passes

variable (hp : Passes w w')
include hp

/-- The times stay past. -/
theorem times (h : TimesOk w) : TimesOk w' where
  starts := fun t ht => Nat.le_trans (h.starts t (hp.starts ▸ ht)) hp.now
  polls := fun t ht => by
    rcases hp.polls with he | ⟨he, _⟩ <;> rw [he] at ht
    · exact Nat.le_trans (h.polls t ht) hp.now
    · rcases List.mem_append.mp ht with ht | ht
      · exact Nat.le_trans (h.polls t ht) hp.now
      · exact List.mem_singleton.mp ht ▸ hp.now
  queued := fun d hd => Nat.le_trans ((hp.queued d hd).elim (h.queued d) id) hp.now
  drops := fun d hd => h.drops d (hp.drops ▸ hd)

/-- The timer stays late enough. -/
theorem supervision (h : SupervisionOk w) : SupervisionOk w' :=
  { hp.times h.toTimesOk with
    started := fun hc d hd t ht => h.started (hp.state.symm.trans hc) d (hp.due d hd) t (hp.starts ▸ ht)
    polled := fun hc d hd hk t ht => by
      rcases hp.polls with he | ⟨_, hkick⟩
      · exact h.polled (hp.state.symm.trans hc) d (hp.due d hd) (hp.kick hk) t (he ▸ ht)
      · exact nomatch hk.symm.trans hkick }

end Passes

/-- The times are past whatever happens between two statements. -/
theorem stable_timesOk : Stable SupervisionHears TimesOk := fun _ _ hi h => (supervisionHears_passes hi).times h

/-- And the timer leaves the supervision time. -/
theorem stable_supervisionOk : Stable SupervisionHears SupervisionOk := fun _ _ hi h => (supervisionHears_passes hi).supervision h

/-- No interrupt starts a session. -/
theorem stable_awayOk : Stable SupervisionHears AwayOk := fun _ _ hi h =>
  ⟨(supervisionHears_passes hi).times h.1, fun hc => h.2 ((supervisionHears_passes hi).state.symm.trans hc)⟩

/-- No interrupt starts the timer. -/
theorem stable_stoppedOk : Stable SupervisionHears StoppedOk := fun _ _ hi h =>
  ⟨(supervisionHears_passes hi).times h.1, fun d hd => h.2 d ((supervisionHears_passes hi).due d hd)⟩

/-! ## Statements -/

/-- A statement does not touch the time, and at most takes `RF_EVT_DISCONNECT` from the queue. -/
@[mk_iff]
structure Rf.Timed (s t : Rf) : Prop where
  now : t.tmos.now = s.tmos.now
  queued : t.tmos.queued .disconnect = s.tmos.queued .disconnect ∨ t.tmos.queued .disconnect = none

/-- Nor does it touch what supervision depends on, but that it may stop the timer or take the link down. -/
@[mk_iff]
structure Rf.Aside (s t : Rf) : Prop extends s.Timed t where
  timer : t.tmos.timers .disconnect = s.tmos.timers .disconnect ∨ t.tmos.timers .disconnect = none
  state : t.state = .connected → s.state = .connected
  sessions : t.log.sessions = s.log.sessions
  probe : s.rest.probe = true → t.rest.probe = true
  kick : t.supervisionKick = s.supervisionKick

/-- A statement that does not touch the time leaves the times past. -/
theorem watch_times (h : TimesOk w) (ht : w.rf.Timed t) : TimesOk (w.watch t) where
  starts := fun τ hτ => by
    have hnow : (w.watch t).rf.tmos.now = w.rf.tmos.now := ht.now
    rw [hnow]
    simp only [SupervisionWorld.watch] at hτ
    split at hτ
    · rcases List.mem_append.mp hτ with hτ | hτ
      · exact h.starts τ hτ
      · exact Nat.le_of_eq (List.mem_singleton.mp hτ)
    · exact h.starts τ hτ
  polls := fun τ hτ => Nat.le_trans (h.polls τ hτ) (Nat.le_of_eq ht.now.symm)
  queued := fun d hd => by
    rcases ht.queued with he | he
    · exact Nat.le_trans (h.queued d (he.symm.trans hd)) (Nat.le_of_eq ht.now.symm)
    · exact nomatch he.symm.trans hd
  drops := h.drops

/-- What is due after the statement was due before it. -/
theorem Rf.Aside.due (h : s.Aside t) {d : Nat} (hd : t.tmos.due .disconnect d) : s.tmos.due .disconnect d := by
  rcases hd with hd | hd
  · rcases h.timer with he | he
    · exact .inl (he.symm.trans hd)
    · exact nomatch he.symm.trans hd
  · rcases h.queued with he | he
    · exact .inr (he.symm.trans hd)
    · exact nomatch he.symm.trans hd

/-- A statement that is no matter of supervision keeps it. -/
theorem watch_aside (h : SupervisionOk w) (ht : w.rf.Aside t) : SupervisionOk (w.watch t) := by
  have hstarts : (w.watch t).starts = w.starts := by
    refine if_neg fun hstarts => ?_
    rcases hstarts with hne | ⟨_, hp, hq⟩
    · exact hne ht.sessions
    · exact nomatch (ht.probe hp).symm.trans hq
  exact { watch_times h.toTimesOk ht.toTimed with
    started := fun hc d hd τ hτ => h.started (ht.state hc) d (ht.due hd) τ (hstarts ▸ hτ)
    polled := fun hc d hd hk τ hτ => h.polled (ht.state hc) d (ht.due hd) (ht.kick.symm.trans hk) τ hτ }

/-- From worlds with `pre`, every run of a program of the RF task ends with `post`. -/
abbrev SupervisionTriple {α : Type} (pre : SupervisionWorld → Prop) (p : RfM α) (post : α → SupervisionWorld → Prop) : Prop :=
  Triple SupervisionHears pre (p.zoom SupervisionWorld.rf SupervisionWorld.watch) post

/-- A program keeps the timer in order. -/
abbrev SupervisionKept {α : Type} (p : RfM α) : Prop := SupervisionTriple SupervisionOk p fun _ => SupervisionOk

/-- To watch a state that did not change notes nothing. -/
theorem watch_rf (w : SupervisionWorld) : w.watch w.rf = w := by
  have hnot : ¬w.rf.StartsSession w.rf := by
    rintro (hne | ⟨_, hp, hq⟩)
    · exact hne rfl
    · exact nomatch hp.symm.trans hq
  simp [SupervisionWorld.watch, hnot]

/-- Calls that keep the supervision compose. -/
theorem composes_supervisionKept : Composes fun p => SupervisionKept p := Kept.composes_zoom stable_supervisionOk watch_rf

/-- Every state is kept so. -/
def TimedStmt (f : Rf → Rf) : Prop := ∀ s : Rf, s.Timed (f s)

def AsideStmt (f : Rf → Rf) : Prop := ∀ s : Rf, s.Aside (f s)

/-- A statement starts no session. -/
def AwayStmt (f : Rf → Rf) : Prop := ∀ s : Rf, s.Timed (f s) ∧ ((f s).state = .connected → s.state = .connected)

/-- A statement does not start the timer. -/
def StoppedStmt (f : Rf → Rf) : Prop := ∀ s : Rf, s.Timed (f s) ∧
  ((f s).tmos.timers .disconnect = s.tmos.timers .disconnect ∨ (f s).tmos.timers .disconnect = none)

variable {α : Type} {p : RfM α}

/-- A call that does not touch the time. -/
theorem times_of (h : Each TimedStmt p) : SupervisionTriple TimesOk p fun _ => TimesOk :=
  Each.zoom stable_timesOk (h.mono fun _ hf w hw => watch_times hw (hf w.rf))

/-- A call that is no matter of supervision. -/
theorem supervision_of (h : Each AsideStmt p) : SupervisionKept p :=
  Each.zoom stable_supervisionOk (h.mono fun _ hf w hw => watch_aside hw (hf w.rf))

/-- A call that starts no session. -/
theorem awayOk_of (h : Each AwayStmt p) : SupervisionTriple AwayOk p fun _ => AwayOk :=
  Each.zoom stable_awayOk (h.mono fun _ hf w hw => ⟨watch_times hw.1 (hf w.rf).1, fun hc => hw.2 ((hf w.rf).2 hc)⟩)

/-- A call that does not start the timer. -/
theorem stopped_of (h : Each StoppedStmt p) : SupervisionTriple StoppedOk p fun _ => StoppedOk := by
  refine Each.zoom stable_stoppedOk (h.mono fun f hf w hw => ⟨watch_times hw.1 (hf w.rf).1, fun d hd => hw.2 d ?_⟩)
  obtain ⟨htimed, htimer⟩ := hf w.rf
  rcases hd with hd | hd
  · rcases htimer with he | he
    · exact .inl (he.symm.trans hd)
    · exact nomatch he.symm.trans hd
  · rcases htimed.queued with he | he
    · exact .inr (he.symm.trans hd)
    · exact nomatch he.symm.trans hd

/-! ## The timer -/

attribute [local simp] TimedStmt AsideStmt AwayStmt StoppedStmt Rf.timed_iff Rf.aside_iff Tmos.stopTask Tmos.startTask Tmos.setEvent

/-- The supervision timer stops. -/
theorem stopped_disconnect : SupervisionTriple TimesOk (rfStopTaskAtomic .disconnect) fun _ => StoppedOk := by
  refine Triple.modify stable_timesOk stable_stoppedOk fun w hw => ⟨watch_times hw (by simp), fun d hd => ?_⟩
  rcases hd with hd | hd <;> simp [SupervisionWorld.watch] at hd

/-- The timer starts anew: the supervision time lies ahead. -/
theorem started_disconnect : SupervisionTriple StoppedOk (rfStartTaskAtomic .disconnect rfConnectedTimeoutTicks) fun _ =>
    SupervisionOk := by
  refine Triple.modify stable_stoppedOk stable_supervisionOk fun w ⟨hw, hnone⟩ => ?_
  have htimes : TimesOk (w.watch { w.rf with tmos := w.rf.tmos.startTask .disconnect rfConnectedTimeoutTicks }) :=
    watch_times hw (by simp)
  have hdue : ∀ d, (w.rf.tmos.startTask .disconnect rfConnectedTimeoutTicks).due .disconnect d →
      d = w.rf.tmos.now + rfConnectedTimeoutTicks := by
    intro d hd
    rcases hd with hd | hd
    · exact (by simpa using hd : _ = d).symm
    · exact absurd (.inr hd) (hnone d)
  exact { htimes with
    started := fun _ d hd τ hτ => by
      rw [hdue d hd]
      exact Nat.add_le_add_right (htimes.starts τ hτ) _
    polled := fun _ d hd _ τ hτ => by
      rw [hdue d hd]
      exact Nat.add_le_add_right (htimes.polls τ hτ) _ }

/-- The timer is stopped, and starts anew. -/
theorem supervision_restart (k : RfM α) (hk : SupervisionTriple SupervisionOk k fun _ => SupervisionOk) :
    SupervisionTriple TimesOk (do
      rfStopTaskAtomic .disconnect
      rfStartTaskAtomic .disconnect rfConnectedTimeoutTicks
      k) fun _ => SupervisionOk :=
  Triple.zoom_bind stopped_disconnect fun _ => Triple.zoom_bind started_disconnect fun _ => hk

/-- The timer of the probe becomes that of the session. -/
theorem supervision_promote : SupervisionTriple TimesOk restPromoteToNormal fun _ => SupervisionOk := by
  iterate 8 refine Triple.zoom_bind (times_of (by simp)) fun _ => ?_
  exact supervision_restart _ (supervision_of (by simp))

/-- A link that goes quiet is not supervised. -/
theorem stopped_restGoQuiet : SupervisionTriple TimesOk restGoQuiet fun _ => StoppedOk := by
  refine Triple.zoom_bind (times_of (by simp)) fun _ => Triple.zoom_bind stopped_disconnect fun _ => ?_
  exact stopped_of (by simp)

/-- The link is taken down. -/
theorem awayOk_setState {st : RfState} (h : st ≠ .connected) : SupervisionTriple TimesOk (setState st) fun _ => AwayOk :=
  Triple.modify stable_timesOk stable_awayOk fun w hw => ⟨watch_times hw (by simp), h⟩

/-- Nor is one that the host takes down. -/
theorem awayOk_rfDisconnect : SupervisionTriple TimesOk rfDisconnect fun _ => AwayOk := by
  iterate 9 refine Triple.zoom_bind (times_of (by simp)) fun _ => ?_
  exact Triple.zoom_bind (awayOk_setState nofun) fun _ => awayOk_of (by simp)

/-! ## Every call -/

/-- What is done whatever the state of the link leaves the timer in order. -/
theorem supervision_from {post : α → SupervisionWorld → Prop} (h : SupervisionTriple TimesOk p post)
    (hpost : ∀ a w, post a w → SupervisionOk w) : SupervisionKept p :=
  h.conseq (fun _ hw => hw.toTimesOk) hpost

/-- A program in a state that reads what the times say only. -/
theorem supervision_times {st : RfState} {p : RfM Unit} (h : SupervisionTriple TimesOk p fun _ => SupervisionOk) :
    SupervisionTriple (fun w => SupervisionOk w ∧ w.rf.state = st) p fun _ => SupervisionOk :=
  h.conseq (fun _ hw => hw.1.toTimesOk) fun _ _ hw => hw

/-- A program that runs when a condition holds. -/
theorem supervision_when {P : Rf → Bool} {pre : SupervisionWorld → Prop} (hst : Stable SupervisionHears pre)
    (hpre : ∀ w, SupervisionOk w → P w.rf = true → pre w) {p : RfM Unit}
    (hp : SupervisionTriple pre p fun _ => SupervisionOk) : SupervisionKept (do
      let b ← .read P
      whenever b p) := by
  have hread : SupervisionTriple SupervisionOk (.read P) fun b w => SupervisionOk w ∧ (b = true → pre w) :=
    Triple.zoom_read watch_rf stable_supervisionOk
      (fun _ w w' hi hw => ⟨stable_supervisionOk w w' hi hw.1, fun hb => hst w w' hi (hw.2 hb)⟩) fun w hw => ⟨hw, hpre w hw⟩
  refine Triple.zoom_bind hread fun b => ite_of (K := fun q => SupervisionTriple _ q fun _ => SupervisionOk) (fun hb => ?_) fun _ => ?_
  · exact hp.conseq (fun w hw => hw.2 hb) fun _ _ hw => hw
  · exact (composes_supervisionKept.pure ()).conseq (fun w hw => hw.1) fun _ _ hw => hw

/-- A handler that runs in one state of the link. -/
theorem supervision_inState {st : RfState} {p : RfM Unit}
    (hp : SupervisionTriple (fun w => SupervisionOk w ∧ w.rf.state = st) p fun _ => SupervisionOk) : SupervisionKept (do
      let state ← .read fun s => s.state
      whenever (state = st) p) := by
  have hstable : Stable SupervisionHears fun w => SupervisionOk w ∧ w.rf.state = st := fun w w' hi hw =>
    ⟨stable_supervisionOk w w' hi hw.1, (supervisionHears_passes hi).state.trans hw.2⟩
  have hread : SupervisionTriple SupervisionOk (.read fun s => s.state) fun state w =>
      SupervisionOk w ∧ (state = st → w.rf.state = st) :=
    Triple.zoom_read watch_rf stable_supervisionOk
      (fun _ w w' hi hw => ⟨stable_supervisionOk w w' hi hw.1, fun he => (hstable w w' hi ⟨hw.1, hw.2 he⟩).2⟩) fun _ hw => ⟨hw, id⟩
  refine Triple.zoom_bind hread fun state => ite_of (K := fun q => SupervisionTriple _ q fun _ => SupervisionOk) (fun he => ?_) fun _ => ?_
  · exact hp.conseq (fun w hw => ⟨hw.1, hw.2 he⟩) fun _ _ hw => hw
  · exact (composes_supervisionKept.pure ()).conseq (fun w hw => hw.1) fun _ _ hw => hw

/-- The host selects 2.4 GHz: a session that is up stays supervised. -/
theorem supervision_rfSelect2G4 : SupervisionKept rfSelect2G4 := by
  have hK := composes_supervisionKept
  have hread : SupervisionTriple SupervisionOk (.read fun s => s.state) fun state w =>
      SupervisionOk w ∧ (state ≠ .connected → AwayOk w) := by
    refine Triple.zoom_read watch_rf stable_supervisionOk (fun _ w w' hi hw => ?_) fun w hw => ⟨hw, fun hne => ⟨hw.toTimesOk, hne⟩⟩
    exact ⟨stable_supervisionOk w w' hi hw.1, fun hne => stable_awayOk w w' hi (hw.2 hne)⟩
  have hkeep : SupervisionKept keepProbe := by
    refine hK.bind (hK.read _) fun probe => hK.bind (ite_of (K := fun q => SupervisionKept q) (fun _ => ?_) fun _ => hK.pure _) fun _ => hK.read _
    exact hK.bind (supervision_of (by simp)) fun _ => supervision_from supervision_promote fun _ _ hw => hw
  have hsearch : SupervisionTriple AwayOk searchBonded fun _ => AwayOk := awayOk_of (by simp)
  refine hK.bind (supervision_of (by simp)) fun _ => hK.bind (hK.read _) fun valid =>
    ite_of (K := fun q => SupervisionKept q) (fun _ => hK.pure _) fun _ => Triple.zoom_bind hread fun state => ?_
  refine ite_of (K := fun q => SupervisionTriple _ q fun _ => SupervisionOk) (fun _ => ?_) fun hne => ?_
  · exact hkeep.conseq (fun w hw => hw.1) fun _ _ hw => hw
  · exact hsearch.conseq (fun w hw => hw.2 hne) fun _ _ hw => hw.ok

/-- The host asks for a pairing. -/
theorem supervision_rfEnterPairing : SupervisionKept rfEnterPairing := by
  have hK := composes_supervisionKept
  have hread : SupervisionTriple SupervisionOk (.read fun s => !s.keyboardMacValid || decide (s.state = .connected)) fun ignored w =>
      SupervisionOk w ∧ (ignored = false → AwayOk w) := by
    refine Triple.zoom_read watch_rf stable_supervisionOk (fun _ w w' hi hw => ?_) fun w hw => ⟨hw, fun hi => ⟨hw.toTimesOk, ?_⟩⟩
    · exact ⟨stable_supervisionOk w w' hi hw.1, fun hne => stable_awayOk w w' hi (hw.2 hne)⟩
    · exact of_decide_eq_false (Bool.or_eq_false_iff.mp hi).2
  refine Triple.zoom_bind hread fun ignored => ite_of (K := fun q => SupervisionTriple _ q fun _ => SupervisionOk) (fun _ => ?_) fun hi => ?_
  · exact (hK.pure _).conseq (fun w hw => hw.1) fun _ _ hw => hw
  · exact (awayOk_of (by simp)).conseq (fun w hw => hw.2 (Bool.eq_false_iff.mpr hi)) fun _ _ hw => hw.ok

/-- A session starts, and its timer with it. -/
theorem supervision_rfEnterConnected : SupervisionKept rfEnterConnected := by
  have hK := composes_supervisionKept
  refine supervision_inState (supervision_times ?_)
  iterate 6 refine Triple.zoom_bind (times_of (by simp)) fun _ => ?_
  refine supervision_restart _ (ite_of (K := fun q => SupervisionKept q) (fun _ => hK.bind (hK.read _) fun probe => ?_) fun _ => hK.pure _)
  refine ite_of (K := fun q => SupervisionKept q) (fun _ => ?_) fun _ => supervision_of (by simp)
  exact supervision_from supervision_promote fun _ _ hw => hw

/-- A poll that waited is noted: the timer starts anew. -/
theorem supervision_rearmSupervision : SupervisionKept rearmSupervision := by
  have hK := composes_supervisionKept
  refine hK.bind (hK.read _) fun kick => ite_of (K := fun q => SupervisionKept q) (fun _ => ?_) fun _ => hK.pure _
  refine supervision_from (Triple.zoom_bind (times_of (by simp)) fun _ => ?_) fun _ _ hw => hw
  exact Triple.zoom_bind stopped_disconnect fun _ => started_disconnect

/-- A probe ends. -/
theorem supervision_restProbeEnd (caught : Bool) : SupervisionKept (restProbeEnd caught) := by
  have hnote : Each TimedStmt (.modify fun s : Rf => { s with trace :=
      if caught then { s.trace with restProbeCatches := s.trace.restProbeCatches + 1 }
      else { s.trace with restProbeMisses := s.trace.restProbeMisses + 1 } }) := by simp
  exact supervision_from (Triple.zoom_bind (times_of hnote) fun _ => stopped_restGoQuiet) fun _ _ hw => hw.ok

/-- The tick of the connected link. -/
theorem supervision_rfConnectedTick : SupervisionKept rfConnectedTick := by
  have hK := composes_supervisionKept
  have hdo : SupervisionKept (do
      let quiet ← .read fun s => s.rest.quietPending && !s.resp.responsePending
      if quiet then restProbeEnd true
      else do
        rearmSupervision
        rfHopOrWait) := by
    refine hK.bind (hK.read _) fun quiet => ite_of (K := fun q => SupervisionKept q) (fun _ => supervision_restProbeEnd true) fun _ => ?_
    exact hK.bind supervision_rearmSupervision fun _ => supervision_of (by simp)
  exact supervision_inState (hdo.conseq (fun w hw => hw.1) fun _ _ hw => hw)

/-- The timer has run out, and the session ends. -/
theorem supervision_onDisconnect : SupervisionKept onDisconnect := by
  refine supervision_inState (supervision_times ?_)
  iterate 6 refine Triple.zoom_bind (times_of (by simp)) fun _ => ?_
  refine Triple.zoom_bind (awayOk_setState nofun) fun _ => ?_
  exact (awayOk_of (by simp)).conseq (fun _ hw => hw) fun _ _ hw => hw.ok

/-- The link rests. -/
theorem supervision_restEnter : SupervisionKept restEnter := by
  have hrests : SupervisionTriple TimesOk restEnter fun _ => StoppedOk :=
    Triple.zoom_bind (times_of (by simp)) fun _ => Triple.zoom_bind stopped_restGoQuiet fun _ => stopped_of (by simp)
  exact supervision_from hrests fun _ _ hw => hw.ok

/-- A probe is due. -/
theorem supervision_onRestProbe : SupervisionKept onRestProbe := by
  refine supervision_when stable_awayOk (fun w hw hdue => ⟨hw.toTimesOk, fun hc => ?_⟩) ?_
  · have hrests : w.rf.state = .resting := of_decide_eq_true ((Bool.and_eq_true _ _).mp hdue).1
    exact nomatch hc.symm.trans hrests
  · exact (awayOk_of (by simp)).conseq (fun _ hw => hw) fun _ _ hw => hw.ok

/-- Every handler keeps the supervision. -/
theorem supervision_rfProcessEvent (e : RfEvt) : SupervisionKept (rfProcessEvent e) := by
  have hK := composes_supervisionKept
  cases e with
  | enterConnected => exact supervision_rfEnterConnected
  | restIdle =>
    refine hK.bind (hK.read _) fun due => ite_of (K := fun q => SupervisionKept q) (fun _ => hK.bind (hK.read _) fun rests => ?_) fun _ => hK.pure _
    exact ite_of (K := fun q => SupervisionKept q) (fun _ => supervision_restEnter) fun _ => supervision_of (by simp)
  | restProbe => exact supervision_onRestProbe
  | restProbeTimeout =>
    refine hK.bind (hK.read _) fun probe => ite_of (K := fun q => SupervisionKept q) (fun _ => hK.bind (hK.read _) fun wake => ?_) fun _ => hK.pure _
    exact ite_of (K := fun q => SupervisionKept q) (fun _ => supervision_of (by simp)) fun _ => supervision_restProbeEnd false
  | disconnect => exact supervision_onDisconnect
  | _ => exact supervision_of (by simp [rfProcessEvent])

/-- A report that wakes a rest does so, too. -/
theorem supervision_rfQueueHIDReport (report : Report) : SupervisionKept (rfQueueHIDReport report) := by
  have hK := composes_supervisionKept
  have hread : SupervisionTriple SupervisionOk (.read fun s => s.state) fun state w =>
      SupervisionOk w ∧ (state = .resting → AwayOk w) := by
    refine Triple.zoom_read watch_rf stable_supervisionOk (fun _ w w' hi hw => ?_) fun w hw => ⟨hw, fun hr => ⟨hw.toTimesOk, fun hc => ?_⟩⟩
    · exact ⟨stable_supervisionOk w w' hi hw.1, fun hr => stable_awayOk w w' hi (hw.2 hr)⟩
    · exact nomatch hc.symm.trans hr
  have helse : SupervisionKept (do
      let probe ← .read fun s => s.rest.probe
      if probe then do
        wakeProbe
        let state ← .read fun s => s.state
        whenever (state = .connected) restPromoteToNormal
      else do
        let state ← .read fun s => s.state
        whenever (state = .connected) restArmIdle) := by
    refine hK.bind (hK.read _) fun probe => ite_of (K := fun q => SupervisionKept q) (fun _ => ?_) fun _ => supervision_of (by simp)
    refine hK.bind (supervision_of (by simp)) fun _ => hK.bind (hK.read _) fun state => ?_
    exact ite_of (K := fun q => SupervisionKept q) (fun _ => supervision_from supervision_promote fun _ _ hw => hw) fun _ => hK.pure _
  refine hK.bind (supervision_of (by simp)) fun _ => Triple.zoom_bind hread fun state => ?_
  refine ite_of (K := fun q => SupervisionTriple _ q fun _ => SupervisionOk) (fun hr => ?_) fun _ => ?_
  · exact (awayOk_of (by simp)).conseq (fun w hw => hw.2 hr) fun _ _ hw => hw.ok
  · exact helse.conseq (fun w hw => hw.1) fun _ _ hw => hw

/-- What the host asks for keeps it. -/
theorem hostParts_supervision : HostParts fun p => SupervisionKept p where
  toComposes := composes_supervisionKept
  out o := supervision_of (by simp)
  transport is2g4 := supervision_of (by simp)
  drop := supervision_of (by simp)
  select := supervision_rfSelect2G4
  pair := supervision_rfEnterPairing
  disconnect := supervision_from awayOk_rfDisconnect fun _ _ hw => hw.ok
  unpair := supervision_from (Triple.zoom_bind awayOk_rfDisconnect fun _ => awayOk_of (by simp)) fun _ _ hw => hw.ok

/-- Every call but a pass of TMOS. -/
theorem supervision_call {call : RfCall} (h : call ≠ .process) : SupervisionKept call.program := by
  have hK := composes_supervisionKept
  cases call with
  | frame cmd sub payload =>
    refine ite_of (K := fun q => SupervisionKept q) (fun _ => supervision_rfQueueHIDReport payload) fun _ => ?_
    exact ite_of (K := fun q => SupervisionKept q) (fun _ => hostParts_supervision.handleCommand sub) fun _ => hK.pure _
  | process => exact absurd rfl h
  | connectedTick => exact supervision_rfConnectedTick
  | ledResync => exact supervision_of (by simp [RfCall.program])
  | quiesce => exact hK.bind (supervision_of (by simp)) fun _ => hostParts_supervision.disconnect
  | other => exact hK.pure _

/-! ## The end of a session -/

/-- The supervision time has passed since the start of the session, and since every poll that does not wait to be noted. -/
structure LateOk (w : SupervisionWorld) : Prop extends SupervisionOk w where
  late : w.rf.state = .connected → ∀ t ∈ w.starts, t + rfConnectedTimeoutTicks ≤ w.rf.tmos.now
  unheard : w.rf.state = .connected → w.rf.supervisionKick = false → ∀ t ∈ w.polls, t + rfConnectedTimeoutTicks ≤ w.rf.tmos.now

/-- The time stays past once it is. -/
theorem stable_lateOk : Stable SupervisionHears LateOk := by
  intro w w' hi h
  have hp := supervisionHears_passes hi
  exact { hp.supervision h.toSupervisionOk with
    late := fun hc t ht => Nat.le_trans (h.late (hp.state.symm.trans hc) t (hp.starts ▸ ht)) hp.now
    unheard := fun hc hk t ht => by
      rcases hp.polls with he | ⟨_, hkick⟩
      · exact Nat.le_trans (h.unheard (hp.state.symm.trans hc) (hp.kick hk) t (he ▸ ht)) hp.now
      · exact nomatch hk.symm.trans hkick }

/-- To take an event is no matter of supervision. -/
theorem aside_take (s : Rf) : s.Aside { s with tmos := s.tmos.next.elim s.tmos s.tmos.take } := by
  cases s.tmos.next with
  | none => simp
  | some e =>
    by_cases he : e = .disconnect
    · simp [Tmos.take, he]
    · simp [Tmos.take, Function.update_of_ne (Ne.symm he)]

/-- When TMOS takes `RF_EVT_DISCONNECT`, it was due. -/
theorem late_tmosTake : SupervisionTriple SupervisionOk tmosTake fun next w =>
    SupervisionOk w ∧ (next = some .disconnect → LateOk w) := by
  refine Triple.stmt stable_supervisionOk fun w hw => Triple.pure (fun w w' hi h => ?_) fun w' hw' => ?_
  · exact ⟨stable_supervisionOk w w' hi h.1, fun hn => stable_lateOk w w' hi (h.2 hn)⟩
  · subst hw'
    have hok := watch_aside hw (aside_take w.rf)
    refine ⟨hok, fun hn => ?_⟩
    have hwaits : w.rf.tmos.waits .disconnect = true := Tmos.next_eq_some hn
    obtain ⟨d, hd⟩ := Option.isSome_iff_exists.mp hwaits
    have hpast := hw.queued d hd
    have htake : w.rf.tmos.next.elim w.rf.tmos w.rf.tmos.take = w.rf.tmos.take .disconnect := by rw [hn]; rfl
    have hstarts : (w.watch { w.rf with tmos := w.rf.tmos.next.elim w.rf.tmos w.rf.tmos.take }).starts = w.starts := by
      simp [SupervisionWorld.watch, Rf.StartsSession]
    have hnow : (w.rf.tmos.next.elim w.rf.tmos w.rf.tmos.take).now = w.rf.tmos.now := by rw [htake]; rfl
    exact { hok with
      late := fun hc t ht => by
        rw [hstarts] at ht
        exact Nat.le_trans (Nat.le_trans (hw.started hc d (.inr hd) t ht) hpast) (Nat.le_of_eq hnow.symm)
      unheard := fun hc hk t ht =>
        Nat.le_trans (Nat.le_trans (hw.polled hc d (.inr hd) hk t ht) hpast) (Nat.le_of_eq hnow.symm) }

/-- A step keeps it, unless a poll is caught while the session ends. -/
theorem supervision_step {step : SupervisionStep} (h : SupervisionOk w) (hl : step.Leads w w') (hu : step.Unheard w') :
    SupervisionOk w' := by
  cases step with
  | call c => exact supervision_call hl.1 w () w' h hl.2
  | event next u =>
    obtain ⟨htake, v, hhandle, rfl⟩ := hl
    obtain ⟨hok, hlate⟩ := late_tmosTake w next u h htake
    have hv : SupervisionOk v := by
      cases next with
      | none => exact composes_supervisionKept.pure () u () v hok hhandle
      | some e => exact supervision_rfProcessEvent e u () v hok hhandle
    unfold SupervisionWorld.handled
    split
    · next hdrop =>
      obtain ⟨rfl, hc⟩ := hdrop
      have hunheard : u.rf.supervisionKick = false ∧ v.polls = u.polls := by
        have hif := hu hc
        rwa [SupervisionWorld.handled, if_pos ⟨rfl, hc⟩] at hif
      exact { hv with
        drops := fun d hd => by
          rcases List.mem_append.mp hd with hd | hd
          · exact hv.drops d hd
          · obtain rfl := List.mem_singleton.mp hd
            intro t ht
            rcases List.mem_append.mp ht with ht | ht
            · exact (hlate rfl).late hc t ht
            · exact (hlate rfl).unheard hc hunheard.1 t (hunheard.2 ▸ ht) }
    · exact hv

/-- At the boot there is no session. -/
theorem supervision_start (h : RfBooted s) : SupervisionOk (.start s) := by
  obtain ⟨mac, macValid, flash, hw, rfl⟩ := h
  have hnone : ∀ d, ¬(rfTaskInit mac macValid flash hw).tmos.due .disconnect d := by
    intro d hd
    simp only [rfTaskInit] at hd
    split at hd <;> simp [Tmos.due, Tmos.init] at hd
  exact {
    starts := nofun
    polls := nofun
    queued := fun d hd => absurd (.inr hd) (hnone d)
    drops := nofun
    started := fun _ d hd => absurd hd (hnone d)
    polled := fun _ d hd => absurd hd (hnone d) }

/-- The supervision holds in every state that is reached. -/
theorem supervision_reach (h : SupervisionReach SupervisionStep.Unheard w) : SupervisionOk w :=
  h.invariant (fun _ ⟨_, hs, he⟩ => he ▸ supervision_start hs) fun _ _ _ _ hw ⟨hl, hu⟩ => supervision_step hw hl hu

end OpenController
