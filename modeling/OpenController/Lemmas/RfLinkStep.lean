import OpenController.Lemmas.RfLinkAux

/-!
# What happens to the RF task is a step of its link

The main loop, the radio's callback and the host's frames, each a step of the link, and so `step_apply`: whatever happens.
-/

namespace OpenController

open Prog
open RfLink (Same)

/-! ## The main loop -/

/-- `RF_EVT_REST_IDLE`: the link rests with nothing queued, or the timer starts anew. -/
theorem step_onRestIdle {s : Rf} (h : s.tmos.next = some .restIdle) :
    RfLink.Step .process s.link (onRestIdle.run { s with tmos := s.tmos.take .restIdle }).2.link := by
  unfold onRestIdle
  rw [run_read_bind]
  by_cases hd : s.state = .connected ∧ s.rest.probe = false
  · rw [whenever_pos (by simp [hd]), run_read_bind]
    by_cases hr : (s.hid.isEmpty && !s.resp.responsePending && !s.hid.keyHeld) = true
    · rw [if_pos hr, link_restEnter]
      simp only [Bool.and_eq_true] at hr
      exact .idleOver h hd.1 hd.2 hr.1.1
    · rw [if_neg hr]
      exact .idleRetry h hd.1 hd.2
  · rw [whenever_neg (by simpa using hd)]
    exact .idleSkip h hd

/-- The handler of an event of the link, `RF_EVT_REST_IDLE` apart, does to the link what the event does. -/
theorem link_rfProcessEvent {e : RfEvt} (he : e.ofLink = true) (hne : e ≠ .restIdle) (s : Rf) :
    ((rfProcessEvent e).run s).2.link = s.link.handle e := by
  cases e with
  | start => exact link_onStart s
  | pairBcast =>
    unfold rfProcessEvent
    dsimp only [RfLink.handle]
    rw [run_read_bind]
    by_cases h : s.state = .pairing
    · rw [whenever_pos h, if_pos (show s.link.state = .pairing from h), link_rfPairBroadcast]
    · rw [whenever_neg h, if_neg (show ¬s.link.state = .pairing from h)]
      rfl
  | pairTimeout => exact link_onPairTimeout s
  | enterConnected => exact link_rfEnterConnected s
  | restIdle => exact absurd rfl hne
  | restProbe => exact link_onRestProbe s
  | restProbeTimeout => exact link_onRestProbeTimeout s
  | restStage2 => exact link_onRestStage2 s
  | disconnect => exact link_onDisconnect s
  | rxRestart | pairRxOff | respond | notifyLed | discardHid | saveBond => simp [RfEvt.ofLink] at he

/-- The handler of any other event is not about the link. -/
theorem same_rfProcessEvent {e : RfEvt} (he : e.ofLink = false) : Each SameStmt (rfProcessEvent e) := by
  cases e with
  | rxRestart => exact same_onRxRestart
  | pairRxOff => exact same_onPairRxOff
  | respond => exact Each.bind (Each.read SameStmt.id) fun _ => each_whenever same_rfDoResponseTx
  | notifyLed => exact same_onNotifyLed
  | discardHid => exact same_onDiscardHid
  | saveBond => exact Each.modify fun _ => Same.refl _
  | start | pairBcast | pairTimeout | enterConnected | restIdle | restProbe | restProbeTimeout | restStage2
  | disconnect => simp [RfEvt.ofLink] at he

/-- A pass of TMOS is a step of the link. -/
theorem step_tmosProcess (s : Rf) : RfLink.Step .process s.link (tmosProcess.run s).2.link := by
  cases hn : s.tmos.next with
  | none =>
    have h : (tmosProcess.run s).2 = s := by simp [tmosProcess, Prog.run, hn]
    exact .same (Same.of_eq (congrArg Rf.link h))
  | some e =>
    have ht : tmosProcess.run s = (rfProcessEvent e).run { s with tmos := s.tmos.take e } := by simp [tmosProcess, Prog.run, hn]
    rw [ht]
    by_cases hl : e.ofLink = true
    · by_cases hr : e = .restIdle
      · subst hr
        exact step_onRestIdle hn
      · rw [link_rfProcessEvent hl hr]
        exact .event hn hl hr
    · have hl : e.ofLink = false := by simpa using hl
      exact .same ((Same.take (l := s.link) hl).trans (Same.run (same_rfProcessEvent hl) { s with tmos := s.tmos.take e }))

/-- So is a tick of the connected link. -/
theorem step_rfConnectedTick (s : Rf) : RfLink.Step .connectedTick s.link (rfConnectedTick.run s).2.link := by
  unfold rfConnectedTick
  rw [run_read_bind]
  by_cases hc : s.state = .connected
  · rw [whenever_pos hc, run_read_bind]
    by_cases hq : (s.rest.quietPending && !s.resp.responsePending) = true
    · rw [if_pos hq, link_restProbeEnd]
      exact .caughtProbe hc (Bool.and_eq_true_iff.1 hq).1
    · rw [if_neg hq, run_bind]
      have hw := Same.run same_rfHopOrWait (rearmSupervision.run s).2
      by_cases hk : s.supervisionKick = true
      · have hr : (rearmSupervision.run s).2.link = { s.link with
            tmos := (s.link.tmos.stopTask .disconnect).startTask .disconnect rfConnectedTimeoutTicks } := by
          unfold rearmSupervision
          rw [run_read_bind, whenever_pos hk]
          rfl
        exact .supervise hc (hr ▸ hw)
      · have hr : (rearmSupervision.run s).2.link = s.link := by
          unfold rearmSupervision
          rw [run_read_bind, whenever_neg hk]
          rfl
        exact .same (hr ▸ hw)
  · rw [whenever_neg hc]
    exact .same (Same.refl _)

/-! ## The radio's callback -/

/-- An event that is not about the link. -/
theorem same_setEvent {s : Rf} {e : RfEvt} (h : e.ofLink = false) : Same s.link (s.setEvent e).link := Same.setEvent h

/-- The save of the bond is not about it. -/
theorem same_dueBondSave (s : Rf) : Same s.link s.dueBondSave.link := by
  unfold Rf.dueBondSave
  split
  · exact Same.setEvent (l := s.link) rfl
  · exact Same.refl _

/-- A report that is acknowledged leaves the queue. -/
theorem same_ackPoll (s : Rf) (rxCtrl : Byte) : Same s.link (s.ackPoll rxCtrl).link := by
  unfold Rf.ackPoll
  split
  · split
    · dsimp only
      split
      · refine Same.setEmpty (l := s.link) fun h => ?_
        have ht : s.hid.tail = s.hid.head := by simpa [Rf.link, RfHid.isEmpty] using h
        exact absurd ht ‹s.hid.tail ≠ s.hid.head›
      · exact Same.refl _
    · exact Same.refl _
  · exact Same.refl _

/-- Nor is an LED byte. -/
theorem same_relayLed (s : Rf) (buf : RxBuf) : Same s.link (s.relayLed buf).link := by
  unfold Rf.relayLed
  split
  · dsimp only
    split
    · exact Same.setEvent (l := s.link) rfl
    · exact Same.refl _
  · exact Same.refl _

/-- Nor a poll. -/
theorem same_onPoll (s : Rf) (buf : RxBuf) : Same s.link (s.onPoll buf).link := by
  unfold Rf.onPoll
  split
  · exact Same.setEvent (l := s.link) rfl
  · have h1 : Same s.link (s.lockHop buf.len).link := Same.refl _
    exact (((h1.trans (same_dueBondSave _)).trans (same_ackPoll _ _)).trans (same_relayLed _ buf)).trans (Same.refl _)

/-- A packet while pairing with no bond makes one; one from the bonded dongle offers a session. -/
theorem step_onPairPacket {s : Rf} (hp : s.state = .pairing) (buf : RxBuf) (sta : RfSta) (rsr : Nat) (b : Option RxBuf) :
    RfLink.Step (.callback sta rsr b) s.link (s.onPairPacket buf).link := by
  unfold Rf.onPairPacket
  by_cases hb : s.bond.hasBond = true
  · rw [if_neg (by simp [hb])]
    split
    · split
      · exact .same (same_setEvent rfl)
      · exact .offer hp hb (Same.refl _)
    · exact .same (same_setEvent rfl)
  · rw [if_pos (by simpa using hb)]
    exact .firstPacket hp (by simpa [Rf.link] using hb) (Same.setEvent (l := { s.link with hasBond := true }) rfl)

/-- A beacon of a probe may have been its last. -/
theorem step_onTxFinish (s : Rf) (sta : RfSta) (rsr : Nat) (b : Option RxBuf) :
    RfLink.Step (.callback sta rsr b) s.link s.onTxFinish.link := by
  unfold Rf.onTxFinish
  by_cases h : s.resp.responsePending = true ∧ s.rest.probe = true ∧ (!s.rest.probeWake) = true
  · simp only [if_pos h]
    by_cases ha : u8 (s.rest.answers + 1) ≥ kbdRestProbeAnswers
    · simp only [ha, decide_true, Bool.true_or]
      exact .answer h.2.1 (by simpa [Rf.link] using h.2.2) (Same.setEvent (l := { s.link with quiet := true }) rfl)
    · simp only [ha, decide_false, Bool.false_or]
      exact .same (Same.setEvent (l := s.link) rfl)
  · simp only [if_neg h]
    exact .same (Same.setEvent (l := s.link) rfl)

/-- Whatever the radio reports is a step of the link. -/
theorem step_rf2g4StatusCallBack (sta : RfSta) (rsr : Nat) (b : Option RxBuf) (s : Rf) :
    RfLink.Step (.callback sta rsr b) s.link (s.rf2g4StatusCallBack sta rsr b).link := by
  cases sta with
  | rxData =>
    cases b with
    | none => exact .same (same_setEvent rfl)
    | some buf =>
      unfold Rf.rf2g4StatusCallBack
      dsimp only
      split
      · exact .same (same_setEvent rfl)
      · unfold Rf.onRxData
        dsimp only
        split
        · rename_i h
          exact step_onPairPacket (s := { s with rssi := buf 0 }) h.1 buf .rxData rsr (some buf)
        · split
          · exact .same (same_onPoll { s with rssi := buf 0 } buf)
          · exact .same (Same.setEvent (l := s.link) rfl)
  | txFinish => exact step_onTxFinish s .txFinish rsr b
  | txFail => exact .same (Same.setEvent (l := s.link) rfl)
  | other => exact .same (same_setEvent rfl)

/-- The turnaround timer is not about the link. -/
theorem same_tmr0IRQHandler (s : Rf) : Same s.link s.tmr0IRQHandler.link := by
  unfold Rf.tmr0IRQHandler
  split
  · exact Same.refl _
  · dsimp only
    split
    · exact Same.setEvent (l := s.link) rfl
    · exact Same.refl _

/-! ## What the host asks for -/

/-- A probe becomes the session when the host selects 2.4 GHz. -/
theorem link_keepProbe (s : Rf) : (keepProbe.run s).2.link = if s.link.probe then s.link.promote else s.link := by
  unfold keepProbe
  rw [run_read_bind]
  by_cases h : s.rest.probe = true
  · rw [whenever_pos h, if_pos (show s.link.probe = true from h)]
    simp only [run_bind, run_read, link_restPromoteToNormal]
    rfl
  · rw [whenever_neg h, if_neg (show ¬s.link.probe = true from h)]
    rfl

/-- A keyboard with a bond searches. -/
theorem link_searchBonded (s : Rf) :
    (searchBonded.run s).2.link =
      if s.link.hasBond then { s.link.cancel with tmos := s.link.cancel.tmos.stopTask .enterConnected }.search
      else s.link.cancel := by
  unfold searchBonded
  rw [run_bind, run_read_bind]
  by_cases h : s.bond.hasBond = true
  · rw [whenever_pos (show (restCancel.run s).2.bond.hasBond = true from h), if_pos (show s.link.hasBond = true from h)]
    rfl
  · rw [whenever_neg (show ¬(restCancel.run s).2.bond.hasBond = true from h), if_neg (show ¬s.link.hasBond = true from h)]
    rfl

/-- `RF_Select2G4`, as the link sees it. -/
theorem link_rfSelect2G4 (s : Rf) : (rfSelect2G4.run s).2.link = s.link.select := by
  unfold rfSelect2G4 RfLink.select
  rw [run_bind, ← link_rfStopTaskAtomic, run_read_bind]
  generalize ((rfStopTaskAtomic .discardHid).run s).2 = u
  dsimp only
  by_cases hv : u.keyboardMacValid = true
  · rw [if_neg (by simp [hv]), if_neg (show ¬(!u.link.macValid) = true by simp [Rf.link, hv]), run_read_bind]
    by_cases hc : u.state = .connected
    · rw [if_pos hc, if_pos (show u.link.state = .connected from hc), link_keepProbe]
    · rw [if_neg hc, if_neg (show ¬u.link.state = .connected from hc), link_searchBonded]
      rfl
  · rw [if_pos (by simpa using hv), if_pos (show (!u.link.macValid) = true by simpa [Rf.link] using hv)]
    rfl

/-- `RF_EnterPairing`, as the link sees it. -/
theorem link_rfEnterPairing (s : Rf) : (rfEnterPairing.run s).2.link = s.link.enterPairing := by
  unfold rfEnterPairing RfLink.enterPairing
  rw [run_read_bind]
  by_cases h : (!s.keyboardMacValid || decide (s.state = .connected)) = true
  · rw [if_pos h, if_pos (show (!s.link.macValid || decide (s.link.state = .connected)) = true from h)]
    rfl
  · rw [if_neg h, if_neg (show ¬(!s.link.macValid || decide (s.link.state = .connected)) = true from h)]
    rfl

/-- `RF_Disconnect`, as the link sees it. -/
theorem link_rfDisconnect (s : Rf) : (rfDisconnect.run s).2.link = s.link.drop := rfl

/-- The queue is empty if it was discarded. -/
theorem link_onDiscardHid (s : Rf) :
    (onDiscardHid.run s).2.link = { s.link with empty := s.link.empty || decide (s.link.state = .idle) } := by
  unfold onDiscardHid
  rw [run_read_bind]
  by_cases h : s.state = .idle
  · rw [whenever_pos h]
    have ht : (rfDiscardHidQueue.run s).2.link = { s.link with empty := s.hid.tail == s.hid.tail } := rfl
    rw [ht]
    simp [show s.link.state = .idle from h]
  · rw [whenever_neg h]
    simp [show ¬s.link.state = .idle from h]

/-- `RF_ClearBond`, as the link sees it. -/
theorem link_rfClearBond (s : Rf) : (rfClearBond.run s).2.link = s.link.forget := by
  simp only [rfClearBond, run_bind, link_onDiscardHid]
  rfl

/-! ## Reports -/

/-- A report wakes a rest, as the link sees it. -/
theorem link_wakeRest (s : Rf) : (wakeRest.run s).2.link = s.link.wakeRest := by
  unfold wakeRest RfLink.wakeRest
  rw [run_read_bind]
  by_cases hr : s.state = .resting
  · rw [if_pos hr, if_pos (show s.link.state = .resting from hr)]
    simp only [run_bind, link_restProbeStart]
    rfl
  · rw [if_neg hr, if_neg (show ¬s.link.state = .resting from hr), run_read_bind]
    by_cases hp : s.rest.probe = true
    · rw [if_pos hp, if_pos (show s.link.probe = true from hp), run_bind, run_read_bind]
      by_cases hc : s.state = .connected
      · rw [whenever_pos (show (wakeProbe.run s).2.state = .connected from hc), link_restPromoteToNormal]
        exact (if_pos (show s.link.state = .connected from hc)).symm
      · rw [whenever_neg (show ¬(wakeProbe.run s).2.state = .connected from hc)]
        exact (if_neg (show ¬s.link.state = .connected from hc)).symm
    · rw [if_neg hp, if_neg (show ¬s.link.probe = true from hp), run_read_bind]
      by_cases hc : s.state = .connected
      · rw [whenever_pos hc, link_restArmIdle]
      · rw [whenever_neg hc, RfLink.armIdle, if_neg (fun h => hc h.1)]
        rfl

/-- A report that is queued changes nothing of the link but whether the queue is empty. -/
theorem link_queueReport (report : Report) (s : Rf) :
    ((queueReport report).run s).2.link = { s.link with empty := ((queueReport report).run s).2.hid.isEmpty } := by
  have h : Each (fun f => ∀ s : Rf, { (f s).link with empty := true } = { s.link with empty := true }) (queueReport report) := by
    refine Each.bind (Each.read fun _ => rfl) fun changed => each_whenever (Each.bind (Each.read fun _ => rfl) fun room => ?_)
    refine Each.ite ?_ ?_
    · exact Each.bind (Each.modify fun _ => rfl) fun _ => Each.bind (Each.modify fun _ => rfl) fun _ =>
        Each.bind (Each.modify fun _ => rfl) fun _ => Each.modify fun _ => rfl
    · exact Each.bind (Each.modify fun _ => rfl) fun _ => Each.bind (Each.modify fun _ => rfl) fun _ => Each.modify fun _ => rfl
  have hv := h.view_run (v := fun s : Rf => { s.link with empty := true }) s
  generalize ((queueReport report).run s).2 = u at hv
  exact congrArg (fun l : RfLink => { l with empty := u.hid.isEmpty }) hv

/-- `RF_QueueHIDReport`, as the link sees it. -/
theorem link_rfQueueHIDReport (report : Report) (s : Rf) :
    ((rfQueueHIDReport report).run s).2.link =
      { s.link with empty := ((queueReport report).run s).2.hid.isEmpty }.wakeRest := by
  unfold rfQueueHIDReport
  rw [run_bind, link_wakeRest, link_queueReport]

/-! ## The frames of the host -/

/-- A status byte is sent to the host. -/
theorem link_keyboardUartSendStatus (b : Byte) (s : Rf) :
    ((keyboardUartSendStatus b).run s).2.link = { s.link with uart := s.link.uart ++ [.status b] } := rfl

/-- The transport is not part of the link. -/
theorem link_setTransport (is2g4 : Bool) (s : Rf) : ((setTransport is2g4).run s).2.link = s.link := rfl

/-- The timer to discard the queue starts. -/
theorem link_rfDropQueueUnlessReselected (s : Rf) :
    (rfDropQueueUnlessReselected.run s).2.link = { s.link with
      tmos := (s.link.tmos.stopTask .discardHid).startTask .discardHid kbdReselectKeepTicks } := rfl

/-- Every command is a step of the link. -/
theorem step_handleCommand (sub : Byte) (payload : Report) (s : Rf) :
    RfLink.Step (.frame 0xA6 sub payload) s.link ((handleCommand sub).run s).2.link := by
  unfold handleCommand
  by_cases h11 : sub = 0x11
  · rw [if_pos h11]
    simp only [run_bind, link_keyboardUartSendStatus, link_rfDropQueueUnlessReselected, link_rfDisconnect, link_setTransport]
    exact .leave _
  rw [if_neg h11]
  by_cases h30 : sub = 0x30
  · subst h30
    rw [if_pos rfl]
    simp only [run_bind, link_keyboardUartSendStatus, link_rfSelect2G4, link_setTransport]
    exact .select _
  rw [if_neg h30]
  by_cases h31 : sub = 0x31 ∨ sub = 0x32 ∨ sub = 0x33
  · rw [if_pos h31]
    simp only [run_bind, link_keyboardUartSendStatus, link_rfDropQueueUnlessReselected, link_rfDisconnect, link_setTransport]
    exact .leave _
  rw [if_neg h31]
  by_cases h51 : sub = 0x51
  · subst h51
    rw [if_pos rfl, run_read_bind]
    by_cases ht : s.transportIs2g4 = true
    · rw [whenever_pos ht, run_read_bind]
      by_cases hv : s.keyboardMacValid = true
      · rw [if_neg (by simp [hv]), run_bind, run_ite]
        split
        · simp only [run_bind, link_keyboardUartSendStatus, link_rfEnterPairing]
          exact .pair _
        · rw [link_keyboardUartSendStatus, link_rfEnterPairing]
          exact .pair _
      · rw [if_pos (by simpa using hv)]
        exact .told _
    · rw [whenever_neg ht]
      exact .same (Same.refl _)
  rw [if_neg h51]
  by_cases h52 : sub = 0x52
  · subst h52
    rw [if_pos rfl]
    simp only [run_bind, link_keyboardUartSendStatus, link_rfClearBond, link_rfDisconnect]
    exact .unpair _
  rw [if_neg h52]
  by_cases h53 : sub = 0x53
  · rw [if_pos h53]
    exact .told _
  rw [if_neg h53]
  by_cases h63 : sub = 0x63
  · subst h63
    rw [if_pos rfl, run_bind, run_read_bind]
    by_cases hv : ((setTransport true).run s).2.keyboardMacValid = true
    · rw [if_neg (by simp [hv])]
      simp only [run_bind, link_keyboardUartSendStatus, link_rfEnterPairing, link_rfClearBond, link_rfDisconnect,
        link_setTransport]
      exact .factoryPair _
    · rw [if_pos (by simpa using hv)]
      exact .told _
  rw [if_neg h63]
  exact .same (Same.refl _)

/-- Whatever happens to the RF task is a step of the link. -/
theorem step_apply (op : RfOp) (s : Rf) : RfLink.Step op s.link (op.apply s).link := by
  cases op with
  | frame cmd sub payload =>
    show RfLink.Step _ s.link ((handleUartFrame cmd sub payload).run s).2.link
    unfold handleUartFrame
    by_cases h1 : cmd = 0xA1
    · subst h1
      rw [if_pos rfl, link_rfQueueHIDReport]
      exact .report _
    · rw [if_neg h1]
      by_cases h6 : cmd = 0xA6
      · subst h6
        rw [if_pos rfl]
        exact step_handleCommand sub payload s
      · rw [if_neg h6]
        exact .same (Same.refl _)
  | process => exact step_tmosProcess s
  | connectedTick => exact step_rfConnectedTick s
  | callback sta rsr buf => exact step_rf2g4StatusCallBack sta rsr buf s
  | tmr0Cycle => exact .same (Same.refl _)
  | tmr0Irq => exact .same (same_tmr0IRQHandler s)
  | expire e => exact .expire
  | advance ticks => exact .advance
  | hardware hw => exact .same (Same.refl _)
  | ledResync => exact .same (Same.refl _)
  | quiesce =>
    have h : (takeDown.run s).2.link = (rfFlushBondSave.run s).2.link.drop := by
      unfold takeDown
      rw [run_bind]
      rfl
    have hf : (rfFlushBondSave.run s).2.link = s.link := by
      unfold rfFlushBondSave
      rw [run_read_bind]
      by_cases hp : s.bondSavePending = true
      · rw [whenever_pos hp]
        rfl
      · rw [whenever_neg hp]
        rfl
    have hq : (RfOp.quiesce.apply s).link = s.link.drop := h.trans (congrArg RfLink.drop hf)
    exact hq ▸ .quiesce

end OpenController
