import OpenController.Lemmas.TmosAux
import OpenController.RfLink

/-!
# The RF task moves its link

Each function of the RF task does to the link what the link's operation of that name does, and so each thing that can happen to
the RF task is a step of the link.
-/

namespace OpenController

open Prog

/-- A branch that is taken. -/
theorem whenever_pos {c : Prop} [Decidable c] (h : c) (p : RfM Unit) : whenever c p = p := if_pos h

/-- A branch that is not taken. -/
theorem whenever_neg {c : Prop} [Decidable c] (h : ¬c) (p : RfM Unit) : whenever c p = pure () := if_neg h

/-! ## Steps that are not about the link -/

namespace RfLink
namespace Same

/-- To do nothing is not about the link. -/
theorem refl (l : RfLink) : Same l l :=
  ⟨rfl, rfl, rfl, rfl, rfl, rfl, rfl, rfl, id, rfl, rfl, rfl, fun _ => rfl, rfl, fun _ _ => rfl, fun _ _ => rfl⟩

/-- Nor is what leaves the link as it is. -/
theorem of_eq {l l' : RfLink} (h : l' = l) : Same l l' := h ▸ refl l

/-- Nor are two such steps, one after the other. -/
theorem trans {a b c : RfLink} (h : Same a b) (h' : Same b c) : Same a c where
  state := h'.state.trans h.state
  flavor := h'.flavor.trans h.flavor
  stage := h'.stage.trans h.stage
  probe := h'.probe.trans h.probe
  wake := h'.wake.trans h.wake
  quiet := h'.quiet.trans h.quiet
  hasBond := h'.hasBond.trans h.hasBond
  macValid := h'.macValid.trans h.macValid
  empty := h'.empty ∘ h.empty
  rests := h'.rests.trans h.rests
  catches := h'.catches.trans h.catches
  misses := h'.misses.trans h.misses
  told b := (h'.told b).trans (h.told b)
  now := h'.now.trans h.now
  timers e he := (h'.timers e he).trans (h.timers e he)
  queued e he := (h'.queued e he).trans (h.queued e he)

/-- Timers and queue of other events. -/
theorem tmos {l : RfLink} {t : Tmos} (hnow : t.now = l.tmos.now)
    (h : ∀ e, e.ofLink = true → t.timers e = l.tmos.timers e ∧ t.queued e = l.tmos.queued e) :
    Same l { l with tmos := t } :=
  { refl l with now := hnow, timers := fun e he => (h e he).1, queued := fun e he => (h e he).2 }

/-- An entry of another event does not show at an event of the link. -/
theorem update_ne {f : RfEvt → Option Nat} {e e' : RfEvt} {v : Option Nat} (he : e.ofLink = false) (he' : e'.ofLink = true) :
    Function.update f e v e' = f e' :=
  Function.update_of_ne (fun h => by simp [h, he] at he') ..

/-- Another event's timer starts. -/
theorem startTask {l : RfLink} {e : RfEvt} (h : e.ofLink = false) (n : Nat) : Same l { l with tmos := l.tmos.startTask e n } :=
  tmos rfl fun _ h' => ⟨update_ne h h', rfl⟩

/-- Another event's timer stops. -/
theorem stopTask {l : RfLink} {e : RfEvt} (h : e.ofLink = false) : Same l { l with tmos := l.tmos.stopTask e } :=
  tmos rfl fun _ h' => ⟨update_ne h h', update_ne h h'⟩

/-- Another event is queued. -/
theorem setEvent {l : RfLink} {e : RfEvt} (h : e.ofLink = false) : Same l { l with tmos := l.tmos.setEvent e } :=
  tmos rfl fun _ h' => ⟨rfl, update_ne h h'⟩

/-- Another event is taken. -/
theorem take {l : RfLink} {e : RfEvt} (h : e.ofLink = false) : Same l { l with tmos := l.tmos.take e } :=
  tmos rfl fun _ h' => ⟨rfl, update_ne h h'⟩

/-- Other things for the keyboard's processor. -/
theorem out {l : RfLink} {o : UartOut} (h : ∀ b, o ≠ .status b) : Same l (l.out o) :=
  { refl l with told := fun b => by simp [RfLink.told, RfLink.out, List.count_append, h b] }

/-- The queue can only have become empty. -/
theorem setEmpty {l : RfLink} {e : Bool} (h : l.empty = true → e = true) : Same l { l with empty := e } :=
  { refl l with empty := h }

end Same
end RfLink

open RfLink (Same)

/-- A program whose statements are not about the link is not. -/
theorem Same.run {α : Type} {p : RfM α} (h : Each (fun f => ∀ s : Rf, Same s.link (f s).link) p) (s : Rf) :
    Same s.link (p.run s).2.link := by
  induction p generalizing s with
  | ret a => exact Same.refl _
  | stmt f next ih => exact (h.1 s).trans (ih s (h.2 s) (f s))

/-! ## The resting policy -/

/-- `rest_arm_idle`. -/
theorem link_restArmIdle (s : Rf) : (restArmIdle.run s).2.link = s.link.armIdle := by
  unfold restArmIdle RfLink.armIdle
  rw [run_read_bind]
  by_cases h : s.state = .connected ∧ s.rest.probe = false
  · rw [if_pos (show s.link.state = .connected ∧ s.link.probe = false from h), whenever_pos (by simp [h])]
    rfl
  · rw [if_neg (show ¬(s.link.state = .connected ∧ s.link.probe = false) from h), whenever_neg (by simpa using h)]
    rfl

/-- `rest_enter`. -/
theorem link_restEnter (s : Rf) : (restEnter.run s).2.link = s.link.enterRest := rfl

/-- `rest_probe_start`. -/
theorem link_restProbeStart (s : Rf) : (restProbeStart.run s).2.link = s.link.probeStart := by
  unfold restProbeStart RfLink.probeStart
  rw [run_read_bind]
  by_cases h : (s.bond.hasBond && s.keyboardMacValid) = true
  · rw [if_pos (show (s.link.hasBond && s.link.macValid) = true from h), if_neg (by simp [h])]
    rfl
  · rw [if_neg (show ¬(s.link.hasBond && s.link.macValid) = true from h), if_pos (by simp only [h, Bool.not_false])]
    rfl

/-- `rest_probe_end`. -/
theorem link_restProbeEnd (caught : Bool) (s : Rf) : ((restProbeEnd caught).run s).2.link = s.link.probeEnd caught := by
  cases caught <;> rfl

/-- `rest_promote_to_normal`. -/
theorem link_restPromoteToNormal (s : Rf) : (restPromoteToNormal.run s).2.link = s.link.promote := by
  have h : restPromoteToNormal.run s = restArmIdle.run { s with
      rest := ⟨0, false, false, 0, false⟩
      tmos := ((((s.tmos.stopTask .restProbe).stopTask .restProbeTimeout).stopTask .restStage2).stopTask .disconnect).startTask
        .disconnect rfConnectedTimeoutTicks } := rfl
  rw [h, link_restArmIdle]
  rfl

/-! ## The radio -/

/-- The statements of `rf_configure_if_needed` set the radio, or read. -/
theorem each_rfConfigureIfNeeded {P : (Rf → Rf) → Prop} (hid : P id) (hr : ∀ g : Rf → RfRadio, P fun s => { s with radio := g s })
    (aa : Nat) : Each P (rfConfigureIfNeeded aa) := by
  refine Each.bind (Each.read hid) fun needed => Each.ite ?_ (Each.modify (hr _))
  refine Each.bind (Each.bind (Each.read hid) fun _ => Each.bind (Each.modify (hr _)) fun _ => Each.pure) fun status => ?_
  exact Each.ite (Each.bind (Each.modify (hr _)) fun _ => Each.modify (hr _)) Each.pure

/-- The statements of `rf_start_rx` set the radio, or read; the first one shuts it. -/
theorem each_rfStartRx {P : (Rf → Rf) → Prop} (hid : P id) (hr : ∀ g : Rf → RfRadio, P fun s => { s with radio := g s })
    (hs : Each P rfShut) (channel : Nat) : Each P (rfStartRx channel) :=
  Each.bind hs fun _ => Each.bind (Each.modify (hr _)) fun _ => Each.bind (Each.read hid) fun aa =>
    Each.bind (each_rfConfigureIfNeeded hid hr aa) fun _ => Each.modify (hr _)

/-- The receiver is not part of the link. -/
theorem link_rfStartRx (channel : Nat) (s : Rf) : ((rfStartRx channel).run s).2.link = s.link :=
  Each.view_run (each_rfStartRx (fun _ => rfl) (fun _ _ => rfl) (Each.modify fun _ => rfl) channel) s

/-! ## The connection -/

/-- A timer of the link stops with that of the RF task. -/
theorem link_rfStopTaskAtomic (e : RfEvt) (s : Rf) :
    ((rfStopTaskAtomic e).run s).2.link = { s.link with tmos := s.link.tmos.stopTask e } := rfl

/-- It starts with it. -/
theorem link_rfStartTaskAtomic (e : RfEvt) (ticks : Nat) (s : Rf) :
    ((rfStartTaskAtomic e ticks).run s).2.link = { s.link with tmos := s.link.tmos.startTask e ticks } := rfl

/-- The turnaround timer is not part of the link. -/
theorem link_pficEnableTmr0 (s : Rf) : (pficEnableTmr0.run s).2.link = s.link := rfl

/-- A session is announced, unless a silent probe caught it. -/
theorem link_announceSession (silentProbe : Bool) (s : Rf) :
    ((announceSession silentProbe).run s).2.link =
      if silentProbe then s.link
      else if s.link.probe then s.link.promote
      else ((s.link.out (.status 0x32)).out (.status 0x23)).armIdle := by
  unfold announceSession
  cases silentProbe with
  | true => rfl
  | false =>
    rw [whenever_pos rfl, run_read_bind, run_ite, if_neg Bool.false_ne_true]
    by_cases h : s.rest.probe = true
    · rw [if_pos h, if_pos (show s.link.probe = true from h), link_restPromoteToNormal]
    · rw [if_neg h, if_neg (show ¬s.link.probe = true from h)]
      exact link_restArmIdle _

/-- `rf_enter_connected` connects the link. -/
theorem link_rfEnterConnected (s : Rf) : (rfEnterConnected.run s).2.link = s.link.connect := by
  unfold rfEnterConnected RfLink.connect
  rw [run_read_bind]
  by_cases h : s.state = .pairing
  · rw [whenever_pos h, run_read_bind, if_pos (show s.link.state = .pairing from h)]
    simp only [run_bind, link_announceSession, link_rfStartTaskAtomic, link_rfStopTaskAtomic, link_pficEnableTmr0,
      link_rfStartRx]
    rfl
  · rw [whenever_neg h, if_neg (show ¬s.link.state = .pairing from h)]
    rfl

/-! ## The events -/

/-- The handler of `RF_EVT_START`. -/
theorem link_onStart (s : Rf) : (onStart.run s).2.link = s.link.handle .start := rfl

/-- A beacon is not about the link. -/
theorem link_sendBeacon (s : Rf) : (sendBeacon.run s).2.link = s.link := by
  have h : Each (fun f => ∀ s, (f s).link = s.link) sendBeacon := by
    refine Each.bind (Each.modify fun _ => rfl) fun _ => Each.bind (Each.read fun _ => rfl) fun payload => ?_
    refine Each.bind (Each.modify fun _ => rfl) fun _ => Each.bind (Each.read fun _ => rfl) fun aa => ?_
    refine Each.bind (each_rfConfigureIfNeeded (fun _ => rfl) (fun _ _ => rfl) aa) fun _ => ?_
    exact Each.bind ⟨fun _ => rfl, fun _ => trivial⟩ fun _ => Each.modify fun _ => rfl
  exact h.view_run s

/-- But that the next one is timed is. -/
theorem link_rfPairBroadcast (s : Rf) : (rfPairBroadcast.run s).2.link = s.link.broadcast := by
  unfold rfPairBroadcast RfLink.broadcast
  rw [run_read_bind]
  by_cases h : s.keyboardMacValid = true
  · rw [if_pos (show s.link.macValid = true from h), if_neg (by simp [h])]
    rw [run_bind, ← link_sendBeacon s]
    rfl
  · rw [if_neg (show ¬s.link.macValid = true from h), if_pos (by simp only [h, Bool.not_false])]
    rfl

/-- The handler of `RF_EVT_PAIR_TIMEOUT`. -/
theorem link_onPairTimeout (s : Rf) : (onPairTimeout.run s).2.link = s.link.handle .pairTimeout := by
  unfold onPairTimeout
  dsimp only [RfLink.handle]
  rw [run_read_bind]
  by_cases h : s.state = .pairing
  · rw [whenever_pos h, if_pos (show s.link.state = .pairing from h)]
    rfl
  · rw [whenever_neg h, if_neg (show ¬s.link.state = .pairing from h)]
    rfl

/-- The handler of `RF_EVT_REST_PROBE`. -/
theorem link_onRestProbe (s : Rf) : (onRestProbe.run s).2.link = s.link.handle .restProbe := by
  unfold onRestProbe
  dsimp only [RfLink.handle]
  rw [run_read_bind]
  by_cases h : s.state = .resting ∧ s.rest.stage = 1
  · rw [whenever_pos (by simp [h]), if_pos (show s.link.state = .resting ∧ s.link.stage = 1 from h), run_bind,
      link_restProbeStart]
    rfl
  · rw [whenever_neg (by simpa using h), if_neg (show ¬(s.link.state = .resting ∧ s.link.stage = 1) from h)]
    rfl

/-- The handler of `RF_EVT_REST_PROBE_TIMEOUT`. -/
theorem link_onRestProbeTimeout (s : Rf) : (onRestProbeTimeout.run s).2.link = s.link.handle .restProbeTimeout := by
  unfold onRestProbeTimeout
  dsimp only [RfLink.handle]
  rw [run_read_bind]
  by_cases h : s.rest.probe = true
  · rw [whenever_pos h, run_read_bind, if_pos (show s.link.probe = true from h)]
    by_cases hw : s.rest.probeWake = true
    · rw [if_pos hw, if_pos (show s.link.wake = true from hw)]
      rfl
    · rw [if_neg hw, if_neg (show ¬s.link.wake = true from hw)]
      exact link_restProbeEnd false s
  · rw [whenever_neg h, if_neg (show ¬s.link.probe = true from h)]
    rfl

/-- The handler of `RF_EVT_REST_STAGE2`. -/
theorem link_onRestStage2 (s : Rf) : (onRestStage2.run s).2.link = s.link.handle .restStage2 := by
  unfold onRestStage2
  dsimp only [RfLink.handle]
  rw [run_read_bind]
  by_cases h : s.rest.stage = 1
  · rw [whenever_pos h, if_pos (show s.link.stage = 1 from h)]
    rfl
  · rw [whenever_neg h, if_neg (show ¬s.link.stage = 1 from h)]
    rfl

/-- The handler of `RF_EVT_DISCONNECT`: the link lapses. -/
theorem link_onDisconnect (s : Rf) : (onDisconnect.run s).2.link = s.link.lapse := by
  unfold onDisconnect RfLink.lapse
  rw [run_read_bind]
  by_cases h : s.state = .connected
  · rw [whenever_pos h, if_pos (show s.link.state = .connected from h)]
    rfl
  · rw [whenever_neg h, if_neg (show ¬s.link.state = .connected from h)]
    rfl

/-! ## The events that are not about the link -/

/-- A statement that is not about the link. -/
def SameStmt (f : Rf → Rf) : Prop := ∀ s : Rf, Same s.link (f s).link

/-- To read is not about the link. -/
theorem SameStmt.id : SameStmt id := fun _ => Same.refl _

/-- A branch has the statements it has when it is taken. -/
theorem each_whenever {P : (Rf → Rf) → Prop} {c : Prop} [Decidable c] {p : RfM Unit} (h : Each P p) : Each P (whenever c p) :=
  Each.ite h Each.pure

/-- The receiver starts. -/
theorem same_startRx (channel : Nat) : Each SameStmt (rfStartRx channel) :=
  each_rfStartRx SameStmt.id (fun _ _ => Same.refl _) (Each.modify fun _ => Same.refl _) channel

/-- The receiver starts again, and its window is timed. -/
theorem same_onRxRestart : Each SameStmt onRxRestart := by
  refine Each.bind (Each.read SameStmt.id) fun live => each_whenever ?_
  refine Each.bind (Each.read SameStmt.id) fun channel => Each.bind (same_startRx channel) fun _ => ?_
  refine Each.bind (Each.read SameStmt.id) fun closes => each_whenever ?_
  exact Each.bind (Each.modify fun _ => Same.refl _) fun _ => Each.modify fun _ => Same.startTask rfl _

/-- The window closes. -/
theorem same_onPairRxOff : Each SameStmt onPairRxOff := by
  refine Each.bind (Each.read SameStmt.id) fun closes => each_whenever ?_
  refine Each.bind (Each.bind (Each.modify fun _ => Same.refl _) fun _ => Each.modify fun _ => Same.refl _) fun _ => ?_
  exact Each.modify fun _ => Same.refl _

/-- A response goes out. -/
theorem same_rfDoResponseTx : Each SameStmt rfDoResponseTx := by
  refine Each.bind (Each.read SameStmt.id) fun pending => each_whenever ?_
  refine Each.bind (Each.modify fun _ => Same.refl _) fun _ => Each.bind (Each.read SameStmt.id) fun ctrl => ?_
  refine Each.bind (Each.read SameStmt.id) fun head => Each.bind (Each.modify fun _ => Same.refl _) fun _ => ?_
  refine Each.bind ⟨fun _ => Same.refl _, fun _ => trivial⟩ fun status => Each.bind (each_whenever ?_) fun _ => each_whenever ?_
  · exact Each.bind (Each.modify fun _ => Same.refl _) fun _ => each_whenever (Each.modify fun _ => Same.refl _)
  · exact Each.bind (Each.modify fun _ => Same.refl _) fun _ => Each.modify fun _ => Same.setEvent rfl

/-- The LED byte is handed over: it is no status. -/
theorem same_onNotifyLed : Each SameStmt onNotifyLed := by
  refine Each.bind (Each.read SameStmt.id) fun led => Each.bind (Each.read SameStmt.id) fun last => each_whenever ?_
  refine Each.bind (Each.modify fun s => Same.out (l := s.link) nofun) fun _ => ?_
  refine Each.bind (Each.modify fun _ => Same.refl _) fun _ => Each.bind (Each.read SameStmt.id) fun pending => ?_
  exact each_whenever (Each.modify fun _ => Same.setEvent rfl)

/-- The queue is discarded. -/
theorem same_rfDiscardHidQueue : Each SameStmt rfDiscardHidQueue :=
  Each.bind (Each.modify fun s => Same.setEmpty (l := s.link) fun _ => by simp [RfHid.isEmpty]) fun _ =>
    Each.modify fun _ => Same.refl _

/-- So it is when the timer asks for it. -/
theorem same_onDiscardHid : Each SameStmt onDiscardHid :=
  Each.bind (Each.read SameStmt.id) fun _ => each_whenever same_rfDiscardHidQueue

/-- The hop goes on. -/
theorem same_rfHopTick (interval : Nat) : Each SameStmt (rfHopTick interval) := by
  refine Each.bind ⟨fun _ => Same.refl _, fun _ => trivial⟩ fun advanced => each_whenever ?_
  refine Each.bind (Each.read SameStmt.id) fun pending => each_whenever ?_
  exact Each.bind (Each.read SameStmt.id) fun idx => same_startRx _

/-- A pending response is waited for, or the hop goes on. -/
theorem same_rfHopOrWait : Each SameStmt rfHopOrWait := by
  refine Each.bind (Each.read SameStmt.id) fun interval => Each.bind (Each.read SameStmt.id) fun pending => ?_
  refine Each.ite (Each.bind (Each.read SameStmt.id) fun waits => each_whenever ?_) (same_rfHopTick interval)
  exact Each.bind (Each.modify fun _ => Same.refl _) fun _ => same_rfHopTick interval

end OpenController
