import OpenController.RfHears

/-!
# What a callback does

Between two statements of the main loop the callback takes a poll (`Polled`), or it is a `Bystander`: it changes nothing that the
hop, the FIFO and the state of the link depend on, but that a response may be over.
-/

namespace OpenController
namespace Rf

/-- What happened was not a poll. -/
structure Bystander (s t : Rf) : Prop where
  state : t.state = s.state
  hop : t.hop = s.hop
  hid : ∃ b, t.hid = { s.hid with txDownInflight := b }
  resp : t.resp = s.resp ∨ t.resp = { s.resp with responsePending := false }
  radio : ∃ aa, t.radio = { s.radio with accessAddr := aa }
  pair : t.pair = s.pair
  log : t.log = s.log

/-- A poll was caught. -/
structure Polled (buf : RxBuf) (s t : Rf) : Prop where
  catches : s.CatchesPoll buf
  state : t.state = s.state
  hop : t.hop = { s.hop.hopServo (rtcBackdate32k s.hw.rtc (rfPollBackdateBase + buf.len / 8)) with
    sinceRx := 0, provisional := false }
  hid : t.hid = (s.ackPoll (buf 2)).hid
  resp : t.resp = {
    txCtrl := (s.ackPoll (buf 2)).resp.txCtrl
    responseChannel := s.radio.channel
    responseCtrl := (s.ackPoll (buf 2)).resp.txCtrl
    responsePending := true
    responseArmedRtc := s.hw.rtc }
  radio : t.radio = s.radio
  pair : t.pair = s.pair
  log : t.log = { (s.ackPoll (buf 2)).log with caughtOn := s.radio.tuned }

variable {s t : Rf}

theorem Bystander.of_eq (state : t.state = s.state) (hop : t.hop = s.hop) (hid : t.hid = s.hid) (resp : t.resp = s.resp)
    (radio : t.radio = s.radio) (pair : t.pair = s.pair) (log : t.log = s.log) : s.Bystander t :=
  ⟨state, hop, ⟨_, hid⟩, .inl resp, ⟨_, radio⟩, pair, log⟩

theorem bystander_setEvent (s : Rf) (e : RfEvt) : s.Bystander (s.setEvent e) := .of_eq rfl rfl rfl rfl rfl rfl rfl

theorem Bystander.setEvent (h : s.Bystander t) (e : RfEvt) : s.Bystander (t.setEvent e) :=
  ⟨h.state, h.hop, h.hid, h.resp, h.radio, h.pair, h.log⟩

theorem bystander_onPairPacket (s : Rf) (buf : RxBuf) : s.Bystander (s.onPairPacket buf) := by
  unfold onPairPacket
  repeat' split
  all_goals exact ⟨rfl, rfl, ⟨_, rfl⟩, .inl rfl, ⟨_, rfl⟩, rfl, rfl⟩

theorem dueBondSave_of (s : Rf) : s.dueBondSave.state = s.state ∧ s.dueBondSave.hop = s.hop ∧ s.dueBondSave.hid = s.hid ∧
    s.dueBondSave.resp = s.resp ∧ s.dueBondSave.radio = s.radio ∧ s.dueBondSave.pair = s.pair ∧
    s.dueBondSave.log = s.log ∧ s.dueBondSave.hw = s.hw := by
  unfold dueBondSave
  split <;> exact ⟨rfl, rfl, rfl, rfl, rfl, rfl, rfl, rfl⟩

/-- What the link's part of a poll changes depends on the FIFO, the control byte and the log. -/
theorem ackPoll_congr (hid : t.hid = s.hid) (resp : t.resp = s.resp) (log : t.log = s.log) (rxCtrl : Byte) :
    (t.ackPoll rxCtrl).hid = (s.ackPoll rxCtrl).hid ∧ (t.ackPoll rxCtrl).resp = (s.ackPoll rxCtrl).resp ∧
      (t.ackPoll rxCtrl).log = (s.ackPoll rxCtrl).log := by
  unfold ackPoll
  simp only [hid, resp]
  repeat' split
  all_goals simp [noteRetired, hid, resp, log]

theorem ackPoll_of (s : Rf) (rxCtrl : Byte) : (s.ackPoll rxCtrl).state = s.state ∧ (s.ackPoll rxCtrl).hop = s.hop ∧
    (s.ackPoll rxCtrl).radio = s.radio ∧ (s.ackPoll rxCtrl).pair = s.pair ∧ (s.ackPoll rxCtrl).hw = s.hw := by
  unfold ackPoll
  repeat' split
  all_goals exact ⟨rfl, rfl, rfl, rfl, rfl⟩

theorem relayLed_of (s : Rf) (buf : RxBuf) : (s.relayLed buf).state = s.state ∧ (s.relayLed buf).hop = s.hop ∧
    (s.relayLed buf).hid = s.hid ∧ (s.relayLed buf).resp = s.resp ∧ (s.relayLed buf).radio = s.radio ∧
    (s.relayLed buf).pair = s.pair ∧ (s.relayLed buf).log = s.log ∧ (s.relayLed buf).hw = s.hw := by
  simp only [relayLed]
  repeat' split
  all_goals exact ⟨rfl, rfl, rfl, rfl, rfl, rfl, rfl, rfl⟩

theorem polled_onPoll {buf : RxBuf} (h : s.CatchesPoll buf) : s.Polled buf (s.onPoll buf) := by
  have hlen : ¬(buf.len ≠ 1 ∧ buf.len ≠ 3 ∧ buf.len ≠ 10) := by
    have := h.2
    omega
  obtain ⟨h1, h2, h3, h4, h5, h6, h7, h8⟩ := dueBondSave_of (s.lockHop buf.len)
  obtain ⟨k1, k2, k3, k4, k5⟩ := ackPoll_of (s.lockHop buf.len).dueBondSave (buf 2)
  obtain ⟨c1, c2, c3⟩ := ackPoll_congr (s := s) h3 h4 h7 (buf 2)
  obtain ⟨l1, l2, l3, l4, l5, l6, l7, l8⟩ := relayLed_of ((s.lockHop buf.len).dueBondSave.ackPoll (buf 2)) buf
  rw [onPoll, if_neg hlen]
  refine ⟨h, ?_, ?_, ?_, ?_, ?_, ?_, ?_⟩
  all_goals simp only [latchResponse, l1, l2, l3, l4, l5, l6, l7, l8, k1, k2, k3, k4, k5, h1, h2, h5, h6, h8, c1, c2, c3]
  all_goals rfl

/-- A poll retires the head of the FIFO or leaves the FIFO as it is. -/
theorem Polled.queue {buf : RxBuf} (h : s.Polled buf t) :
    (s.Retires buf ∧ t.hid = { s.hid with headSent := false, head := u8 (s.hid.head + 1) } ∧
        t.log = { s.noteRetired.log with caughtOn := s.radio.tuned }) ∨
      (¬s.Retires buf ∧ (t.hid = s.hid ∨ t.hid = { s.hid with headSent := false }) ∧
        t.log = { s.log with caughtOn := s.radio.tuned }) := by
  rw [h.hid, h.log]
  unfold Retires ackPoll
  by_cases hflip : (buf 2 ^^^ s.resp.txCtrl) &&& 1 ≠ 0
  · rw [if_pos hflip]
    by_cases hsent : s.hid.headSent = true
    · rw [if_pos hsent]
      by_cases hne : s.hid.tail ≠ s.hid.head
      · rw [if_pos hne]
        exact .inl ⟨⟨h.catches, hflip, hsent, hne⟩, rfl, rfl⟩
      · rw [if_neg hne]
        exact .inr ⟨fun hr => hne hr.2.2.2, .inr rfl, rfl⟩
    · rw [if_neg hsent]
      exact .inr ⟨fun hr => hsent hr.2.2.1, .inl rfl, rfl⟩
  · rw [if_neg hflip]
    exact .inr ⟨fun hr => hflip hr.2.1, .inl rfl, rfl⟩

/-- A poll that the callback catches. -/
theorem polled_callback {buf : RxBuf} (h : s.CatchesPoll buf) : s.Polled buf (s.rf2g4StatusCallBack .rxData 0 (some buf)) := by
  have hstate : ¬(s.state = .pairing ∧ buf.len = 15 ∧ buf 6 < 5) := fun hp => nomatch h.1.symm.trans hp.1
  have hcb : s.rf2g4StatusCallBack .rxData 0 (some buf) = { s with rssi := buf 0 }.onPoll buf :=
    (if_neg hstate).trans (if_pos h.1)
  have hpoll : { s with rssi := buf 0 }.Polled buf ({ s with rssi := buf 0 }.onPoll buf) := polled_onPoll h
  obtain ⟨c1, c2, c3⟩ := ackPoll_congr (s := s) (t := { s with rssi := buf 0 }) rfl rfl rfl (buf 2)
  rw [hcb]
  refine ⟨h, hpoll.state, hpoll.hop, c1 ▸ hpoll.hid, ?_, hpoll.radio, hpoll.pair, ?_⟩
  · rw [hpoll.resp, c2]
  · rw [hpoll.log, c3]

/-- The callback takes a poll, or it is a bystander. -/
theorem callback_spec (s : Rf) (sta : RfSta) (rsr : Nat) (rxBuf : Option RxBuf) :
    s.Bystander (s.rf2g4StatusCallBack sta rsr rxBuf) ∨
      ∃ buf, sta = .rxData ∧ rsr = 0 ∧ rxBuf = some buf ∧ s.Polled buf (s.rf2g4StatusCallBack sta rsr rxBuf) := by
  cases sta with
  | txFinish => exact .inl ⟨rfl, rfl, ⟨_, rfl⟩, .inr rfl, ⟨_, rfl⟩, rfl, rfl⟩
  | txFail => exact .inl ⟨rfl, rfl, ⟨_, rfl⟩, .inr rfl, ⟨_, rfl⟩, rfl, rfl⟩
  | other => exact .inl (s.bystander_setEvent _)
  | rxData =>
    cases rxBuf with
    | none => exact .inl (s.bystander_setEvent _)
    | some buf =>
      by_cases hrsr : rsr = 0
      · subst hrsr
        have hcb : s.rf2g4StatusCallBack .rxData 0 (some buf) = s.onRxData buf := rfl
        rw [hcb]
        by_cases hp : s.state = .pairing ∧ buf.len = 15 ∧ buf 6 < 5
        · have hon : s.onRxData buf = { s with rssi := buf 0 }.onPairPacket buf := if_pos hp
          rw [hon]
          have hb := bystander_onPairPacket { s with rssi := buf 0 } buf
          exact .inl ⟨hb.state, hb.hop, hb.hid, hb.resp, hb.radio, hb.pair, hb.log⟩
        · by_cases hc : s.state = .connected
          · by_cases hlen : buf.len = 1 ∨ buf.len = 3 ∨ buf.len = 10
            · exact .inr ⟨buf, rfl, rfl, rfl, polled_callback ⟨hc, hlen⟩⟩
            · have hon : s.onRxData buf = { s with rssi := buf 0 }.setEvent .rxRestart :=
                (if_neg hp).trans ((if_pos hc).trans (if_pos (by omega)))
              rw [hon]
              exact .inl (.of_eq rfl rfl rfl rfl rfl rfl rfl)
          · have hon : s.onRxData buf = { s with rssi := buf 0 }.setEvent .rxRestart := (if_neg hp).trans (if_neg hc)
            rw [hon]
            exact .inl (.of_eq rfl rfl rfl rfl rfl rfl rfl)
      · have hcb : s.rf2g4StatusCallBack .rxData rsr (some buf) = s.setEvent .rxRestart := if_pos hrsr
        rw [hcb]
        exact .inl (s.bystander_setEvent _)

/-- What no callback changes: what the hardware answers, the timers, the flash, what the host chose, and whether the queue is to be
discarded. -/
def fixture (s : Rf) : RfHw × (RfEvt → Option Nat) × (Nat → Byte) × Bool × Bool × Option Nat :=
  (s.hw, s.tmos.timers, s.flash, s.transportIs2g4, s.keyboardMacValid, s.tmos.queued .discardHid)

theorem callback_fixture (s : Rf) (sta : RfSta) (rsr : Nat) (rxBuf : Option RxBuf) :
    (s.rf2g4StatusCallBack sta rsr rxBuf).fixture = s.fixture := by
  have hpair : ∀ (s : Rf) (buf : RxBuf), (s.onPairPacket buf).fixture = s.fixture := by
    intro s buf
    unfold onPairPacket
    repeat' split
    all_goals rfl
  have hsave : ∀ s : Rf, s.dueBondSave.fixture = s.fixture := by
    intro s
    unfold dueBondSave
    split <;> rfl
  have hack : ∀ (s : Rf) (rxCtrl : Byte), (s.ackPoll rxCtrl).fixture = s.fixture := by
    intro s rxCtrl
    unfold ackPoll
    repeat' split
    all_goals rfl
  have hled : ∀ (s : Rf) (buf : RxBuf), (s.relayLed buf).fixture = s.fixture := by
    intro s buf
    simp only [relayLed]
    repeat' split
    all_goals rfl
  have hpoll : ∀ (s : Rf) (buf : RxBuf), (s.onPoll buf).fixture = s.fixture := by
    intro s buf
    unfold onPoll
    split
    · rfl
    · exact (hled _ buf).trans ((hack _ _).trans (hsave _))
  unfold rf2g4StatusCallBack onRxData
  cases sta with
  | rxData =>
    cases rxBuf with
    | none => rfl
    | some buf =>
      dsimp only
      repeat' split
      · rfl
      · exact hpair _ _
      · exact hpoll _ _
      · rfl
  | _ => rfl

theorem tmr0IRQHandler_fixture (s : Rf) : s.tmr0IRQHandler.fixture = s.fixture := by
  simp only [tmr0IRQHandler]
  repeat' split
  all_goals rfl

/-- The flags of the resting policy are the business of a transmission that completes. -/
theorem callback_rest_of_ne {sta : RfSta} (hsta : sta ≠ .txFinish) (s : Rf) (rsr : Nat) (rxBuf : Option RxBuf) :
    (s.rf2g4StatusCallBack sta rsr rxBuf).rest = s.rest := by
  have hpair : ∀ (s : Rf) (buf : RxBuf), (s.onPairPacket buf).rest = s.rest := by
    intro s buf
    unfold onPairPacket
    repeat' split
    all_goals rfl
  have hsave : ∀ s : Rf, s.dueBondSave.rest = s.rest := by
    intro s
    unfold dueBondSave
    split <;> rfl
  have hack : ∀ (s : Rf) (rxCtrl : Byte), (s.ackPoll rxCtrl).rest = s.rest := by
    intro s rxCtrl
    unfold ackPoll
    repeat' split
    all_goals rfl
  have hled : ∀ (s : Rf) (buf : RxBuf), (s.relayLed buf).rest = s.rest := by
    intro s buf
    simp only [relayLed]
    repeat' split
    all_goals rfl
  have hpoll : ∀ (s : Rf) (buf : RxBuf), (s.onPoll buf).rest = s.rest := by
    intro s buf
    unfold onPoll
    split
    · rfl
    · exact (hled _ buf).trans ((hack _ _).trans (hsave _))
  unfold rf2g4StatusCallBack onRxData
  cases sta with
  | txFinish => exact absurd rfl hsta
  | rxData =>
    cases rxBuf with
    | none => rfl
    | some buf =>
      dsimp only
      repeat' split
      · rfl
      · exact hpair _ _
      · exact hpoll _ _
      · rfl
  | _ => rfl

/-- A transmission that is not a response does not count. -/
theorem callback_rest (s : Rf) (sta : RfSta) (rsr : Nat) (rxBuf : Option RxBuf) (h : s.resp.responsePending = false) :
    (s.rf2g4StatusCallBack sta rsr rxBuf).rest = s.rest := by
  by_cases hsta : sta = .txFinish
  · subst hsta
    have hnot : ¬(s.resp.responsePending ∧ s.rest.probe ∧ !s.rest.probeWake) := fun hc => nomatch h.symm.trans hc.1
    exact if_neg hnot
  · exact callback_rest_of_ne hsta s rsr rxBuf

theorem callback_hw (s : Rf) (sta : RfSta) (rsr : Nat) (rxBuf : Option RxBuf) :
    (s.rf2g4StatusCallBack sta rsr rxBuf).hw = s.hw := congrArg Prod.fst (s.callback_fixture sta rsr rxBuf)

theorem callback_timers (s : Rf) (sta : RfSta) (rsr : Nat) (rxBuf : Option RxBuf) :
    (s.rf2g4StatusCallBack sta rsr rxBuf).tmos.timers = s.tmos.timers := congrArg (·.2.1) (s.callback_fixture sta rsr rxBuf)

theorem callback_flash (s : Rf) (sta : RfSta) (rsr : Nat) (rxBuf : Option RxBuf) :
    (s.rf2g4StatusCallBack sta rsr rxBuf).flash = s.flash := congrArg (·.2.2.1) (s.callback_fixture sta rsr rxBuf)

theorem tmr0IRQHandler_timers (s : Rf) : s.tmr0IRQHandler.tmos.timers = s.tmos.timers :=
  congrArg (·.2.1) s.tmr0IRQHandler_fixture

theorem tmr0IRQHandler_hw (s : Rf) : s.tmr0IRQHandler.hw = s.hw := congrArg Prod.fst s.tmr0IRQHandler_fixture

theorem bystander_tmr0IRQHandler (s : Rf) : s.Bystander s.tmr0IRQHandler := by
  simp only [tmr0IRQHandler]
  repeat' split
  all_goals exact .of_eq rfl rfl rfl rfl rfl rfl rfl

end Rf

variable {ok : Hearing} {s t : Rf}

/-- Between two statements a poll is caught, which the radio hears and which satisfies the condition, or nothing much happens. -/
theorem hears_spec (h : RfHears ok s t) : s.Bystander t ∨ ∃ buf, s.radio.receiving = true ∧ ok s buf ∧ s.Polled buf t := by
  cases h with
  | packet rsr buf hr hk =>
    rcases s.callback_spec .rxData rsr (some buf) with hb | ⟨buf', _, h0, he, hp⟩
    · exact .inl hb
    · obtain rfl : buf = buf' := Option.some.inj he
      exact .inr ⟨buf, hr, hk h0, hp⟩
  | status sta rsr rxBuf hl hs =>
    rcases s.callback_spec sta rsr rxBuf with hb | ⟨buf, hsta, _, he, _⟩
    · exact .inl hb
    · exact absurd (he.symm.trans (hs hsta)) nofun
  | tmr0Cycle => exact .inl (.of_eq rfl rfl rfl rfl rfl rfl rfl)
  | tmr0Irq => exact .inl s.bystander_tmr0IRQHandler
  | expire e => exact .inl (.of_eq rfl rfl rfl rfl rfl rfl rfl)
  | advance ticks => exact .inl (.of_eq rfl rfl rfl rfl rfl rfl rfl)
  | hardware hw => exact .inl (.of_eq rfl rfl rfl rfl rfl rfl rfl)

theorem interrupt_spec (h : RfInterrupt s t) : s.Bystander t ∨ ∃ buf, s.Polled buf t := by
  cases h with
  | callback sta rsr rxBuf hl =>
    rcases s.callback_spec sta rsr rxBuf with hb | ⟨buf, _, _, _, hp⟩
    · exact .inl hb
    · exact .inr ⟨buf, hp⟩
  | tmr0Cycle => exact .inl (.of_eq rfl rfl rfl rfl rfl rfl rfl)
  | tmr0Irq => exact .inl s.bystander_tmr0IRQHandler
  | expire e => exact .inl (.of_eq rfl rfl rfl rfl rfl rfl rfl)
  | advance ticks => exact .inl (.of_eq rfl rfl rfl rfl rfl rfl rfl)
  | hardware hw => exact .inl (.of_eq rfl rfl rfl rfl rfl rfl rfl)

/-- No interrupt moves the link. -/
theorem state_interrupt (h : RfInterrupt s t) : t.state = s.state := by
  rcases interrupt_spec h with hb | ⟨buf, hp⟩
  · exact hb.state
  · exact hp.state

/-- What the host chose is no interrupt's to change. -/
theorem host_interrupt (h : RfInterrupt s t) : t.transportIs2g4 = s.transportIs2g4 ∧ t.keyboardMacValid = s.keyboardMacValid := by
  cases h with
  | callback sta rsr rxBuf _ =>
    have hfixture := s.callback_fixture sta rsr rxBuf
    exact ⟨congrArg (·.2.2.2.1) hfixture, congrArg (·.2.2.2.2.1) hfixture⟩
  | tmr0Irq =>
    have hfixture := s.tmr0IRQHandler_fixture
    exact ⟨congrArg (·.2.2.2.1) hfixture, congrArg (·.2.2.2.2.1) hfixture⟩
  | _ => exact ⟨rfl, rfl⟩

end OpenController
