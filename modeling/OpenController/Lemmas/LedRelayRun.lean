import OpenController.LedRelay
import OpenController.Lemmas.TmosAux
import OpenController.Lemmas.RfHearsAux

/-!
# LED relays, statement by statement

A relay is either posted or the byte handed over last. In the handler that byte changes under a relay's feet, so the assertions
between its statements say which byte a relay that was not posted can be.
-/

namespace OpenController

open Prog

/-! ## The callback -/

namespace Rf

variable {s t u : Rf}

/-- Nothing about the LEDs changed. -/
structure LedStill (s t : Rf) : Prop where
  led : t.led = s.led
  waits : t.tmos.waits .notifyLed = s.tmos.waits .notifyLed
  handed : t.ledsHanded = s.ledsHanded

theorem LedStill.trans (h : s.LedStill t) (h' : t.LedStill u) : s.LedStill u :=
  ⟨h'.led.trans h.led, h'.waits.trans h.waits, h'.handed.trans h.handed⟩

theorem ledStill_refl (s : Rf) : s.LedStill s := ⟨rfl, rfl, rfl⟩

theorem ledStill_setEvent (s : Rf) {e : RfEvt} (h : e ≠ .notifyLed) : s.LedStill (s.setEvent e) :=
  ⟨rfl, by simp [setEvent, Ne.symm h], rfl⟩

/-- A byte was relayed: it is the pending one, and posted unless it is the one handed over last. -/
structure LedRelay (b : Byte) (s t : Rf) : Prop where
  led : t.led = { s.led with pendingLed := b }
  waits : t.tmos.waits .notifyLed = (decide (b ≠ s.led.lastLedSent) || s.tmos.waits .notifyLed)
  handed : t.ledsHanded = s.ledsHanded

theorem ledStill_dueBondSave (s : Rf) : s.LedStill s.dueBondSave := by
  unfold dueBondSave
  split
  · exact ⟨rfl, by simp [setEvent], rfl⟩
  · exact s.ledStill_refl

theorem ledStill_ackPoll (s : Rf) (rxCtrl : Byte) : s.LedStill (s.ackPoll rxCtrl) := by
  unfold ackPoll
  repeat' split
  all_goals exact ⟨rfl, rfl, rfl⟩

theorem ledStill_onPairPacket (s : Rf) (buf : RxBuf) : s.LedStill (s.onPairPacket buf) := by
  unfold onPairPacket
  repeat' split
  all_goals exact ⟨rfl, by simp [setEvent], rfl⟩

/-- A poll relays the LED byte that it holds. -/
theorem led_onPoll (s : Rf) (buf : RxBuf) (hlen : buf.len = 1 ∨ buf.len = 3 ∨ buf.len = 10) :
    if buf.len = 3 ∧ buf 3 = 0xA1 then s.LedRelay (buf 4) (s.onPoll buf) else s.LedStill (s.onPoll buf) := by
  have hpoll : s.onPoll buf = ((((s.lockHop buf.len).dueBondSave.ackPoll (buf 2)).relayLed buf).latchResponse) :=
    if_neg (by omega)
  have hbefore : s.LedStill ((s.lockHop buf.len).dueBondSave.ackPoll (buf 2)) :=
    LedStill.trans (t := s.lockHop buf.len) ⟨rfl, rfl, rfl⟩ ((ledStill_dueBondSave _).trans (ledStill_ackPoll _ _))
  rw [hpoll]
  generalize (s.lockHop buf.len).dueBondSave.ackPoll (buf 2) = u at hbefore
  split
  · rename_i hled
    rw [relayLed, if_pos hled]
    dsimp only
    split
    · rename_i hne
      rw [hbefore.led] at hne
      refine ⟨?_, ?_, hbefore.handed⟩
      · simp [latchResponse, setEvent, hbefore.led]
      · simp [latchResponse, setEvent, hne]
    · rename_i heq
      rw [hbefore.led] at heq
      refine ⟨?_, ?_, hbefore.handed⟩
      · simp [latchResponse, hbefore.led]
      · rw [decide_eq_false heq]
        exact hbefore.waits
  · rename_i hled
    rw [relayLed, if_neg hled]
    exact ⟨hbefore.led, hbefore.waits, hbefore.handed⟩

/-- What the callback does to the LEDs. -/
theorem led_callback (s : Rf) (sta : RfSta) (rsr : Nat) (rxBuf : Option RxBuf) :
    s.ledRelayed sta rsr rxBuf = [] ∧ s.LedStill (s.rf2g4StatusCallBack sta rsr rxBuf) ∨
      ∃ b, s.ledRelayed sta rsr rxBuf = [b] ∧ s.LedRelay b (s.rf2g4StatusCallBack sta rsr rxBuf) := by
  cases sta with
  | txFinish => exact .inl ⟨rfl, rfl, by simp [rf2g4StatusCallBack, onTxFinish, setEvent], rfl⟩
  | txFail => exact .inl ⟨rfl, rfl, by simp [rf2g4StatusCallBack, onTxFail, setEvent], rfl⟩
  | other => exact .inl ⟨rfl, s.ledStill_setEvent (by rintro ⟨⟩)⟩
  | rxData =>
    cases rxBuf with
    | none => exact .inl ⟨rfl, s.ledStill_setEvent (by rintro ⟨⟩)⟩
    | some buf =>
      by_cases hrsr : rsr = 0
      · subst hrsr
        by_cases hpoll : s.CatchesPoll buf
        · have hstate : ¬(s.state = .pairing ∧ buf.len = 15 ∧ buf 6 < 5) := fun hp => by cases hpoll.1.symm.trans hp.1
          have hon : s.rf2g4StatusCallBack .rxData 0 (some buf) = { s with rssi := buf 0 }.onPoll buf :=
            (if_neg hstate).trans (if_pos hpoll.1)
          have hled := led_onPoll { s with rssi := buf 0 } buf hpoll.2
          rw [hon]
          split at hled
          · rename_i h
            exact .inr ⟨buf 4, if_pos ⟨rfl, hpoll, h⟩, hled.led, hled.waits, hled.handed⟩
          · rename_i h
            exact .inl ⟨if_neg fun hr => h hr.2.2, hled.led, hled.waits, hled.handed⟩
        · refine .inl ⟨if_neg fun hr => hpoll hr.2.1, LedStill.trans (t := { s with rssi := buf 0 }) ⟨rfl, rfl, rfl⟩ ?_⟩
          change LedStill _ (s.onRxData buf)
          by_cases hp : s.state = .pairing ∧ buf.len = 15 ∧ buf 6 < 5
          · have hon : s.onRxData buf = { s with rssi := buf 0 }.onPairPacket buf := if_pos hp
            rw [hon]
            exact ledStill_onPairPacket _ buf
          · have hon : s.onRxData buf = { s with rssi := buf 0 }.setEvent .rxRestart := by
              by_cases hc : s.state = .connected
              · have hlen : buf.len ≠ 1 ∧ buf.len ≠ 3 ∧ buf.len ≠ 10 :=
                  ⟨fun h => hpoll ⟨hc, .inl h⟩, fun h => hpoll ⟨hc, .inr (.inl h)⟩, fun h => hpoll ⟨hc, .inr (.inr h)⟩⟩
                exact (if_neg hp).trans ((if_pos hc).trans (if_pos hlen))
              · exact (if_neg hp).trans (if_neg hc)
            rw [hon]
            exact ledStill_setEvent _ (by rintro ⟨⟩)
      · have hcb : s.rf2g4StatusCallBack .rxData rsr (some buf) = s.setEvent .rxRestart := if_pos hrsr
        rw [hcb]
        exact .inl ⟨if_neg fun hr => hrsr hr.1, s.ledStill_setEvent (by rintro ⟨⟩)⟩

end Rf

/-! ## The handler -/

variable {w w' : LedWorld}

/-- An interrupt relays a byte, or nothing about the LEDs changes. -/
theorem ledInterrupt_spec (h : LedInterrupt w w') : w'.relayed = w.relayed ∧ w.rf.LedStill w'.rf ∨
    ∃ b, b ≠ 0xFF ∧ w'.relayed = w.relayed ++ [b] ∧ w.rf.LedRelay b w'.rf := by
  cases h with
  | callback sta rsr rxBuf hb =>
    rcases w.rf.led_callback sta rsr rxBuf with ⟨hnone, hstill⟩ | ⟨b, hsome, hrelay⟩
    · exact .inl ⟨by simp [hnone], hstill⟩
    · exact .inr ⟨b, hb b (by simp [hsome]), by simp [hsome], hrelay⟩
  | elsewhere t led waits handed => exact .inl ⟨rfl, led, waits, handed⟩

/-- Bytes were relayed. The last one is pending, and it is posted unless it is one that `S` allows. `last` was handed over last, and
`handed` are all. -/
structure LedAt (S : Byte → Prop) (last : Byte) (handed : List Byte) (w : LedWorld) : Prop where
  newest : w.relayed.getLast? = some w.rf.led.pendingLed
  real : w.rf.led.pendingLed ≠ 0xFF
  posted : w.Quiet → S w.rf.led.pendingLed
  last : w.rf.led.lastLedSent = last
  handed : w.rf.ledsHanded = handed

/-- The callback does not post the byte that was handed over last. -/
theorem stable_ledAt {S : Byte → Prop} {last : Byte} {handed : List Byte} (hlast : S last) :
    Stable LedInterrupt (LedAt S last handed) := by
  intro w w' hi h
  rcases ledInterrupt_spec hi with ⟨hrel, hstill⟩ | ⟨b, hb, hrel, hrelay⟩
  · refine ⟨?_, ?_, fun hq => ?_, ?_, hstill.handed.trans h.handed⟩
    · rw [hrel, hstill.led, h.newest]
    · rw [hstill.led]
      exact h.real
    · rw [hstill.led]
      exact h.posted (hstill.waits.symm.trans hq)
    · rw [hstill.led, h.last]
  · have hpending : w'.rf.led.pendingLed = b := by rw [hrelay.led]
    refine ⟨?_, hpending ▸ hb, fun hq => ?_, ?_, hrelay.handed.trans h.handed⟩
    · rw [hrel, hpending, List.getLast?_concat]
    · have hsame : b = last := by
        have := hrelay.waits.symm.trans hq
        simp only [Bool.or_eq_false_iff, decide_eq_false_iff_not, not_not] at this
        exact this.1.trans h.last
      rw [hpending, hsame]
      exact hlast
    · rw [hrelay.led]
      exact h.last

theorem LedAt.mono {S S' : Byte → Prop} {last : Byte} {handed : List Byte} (h : LedAt S last handed w) (hS : ∀ b, S b → S' b) :
    LedAt S' last handed w :=
  ⟨h.newest, h.real, fun hq => hS _ (h.posted hq), h.last, h.handed⟩

/-- What the handler left: the byte it handed over, or the byte it would have handed over was handed over last. -/
def LedHandled (last : Byte) (handed : List Byte) (w : LedWorld) : Prop :=
  (∃ led, LedAt (· = led) led (handed ++ [led]) w) ∨ last ≠ 0xFF ∧ LedAt (· = last) last handed w

theorem stable_ledHandled (last : Byte) (handed : List Byte) : Stable LedInterrupt (LedHandled last handed) := by
  rintro w w' hi (⟨led, h⟩ | ⟨hlast, h⟩)
  · exact .inl ⟨led, stable_ledAt (S := (· = led)) rfl w w' hi h⟩
  · exact .inr ⟨hlast, stable_ledAt (S := (· = last)) rfl w w' hi h⟩

section Handler

variable (last : Byte) (handed : List Byte)

/-- From the store of `last_led_sent` on: a byte that the handler compared too early is looked at again. -/
theorem led_recheck (led : Byte) :
    Triple LedInterrupt (LedAt (fun b => b = led ∨ b = last) led (handed ++ [led]))
      ((do
        let pending ← Prog.read fun w => w.rf.led.pendingLed
        if pending ≠ led then Prog.modify fun w => { w with rf := w.rf.setEvent .notifyLed } else pure () : Prog LedWorld Unit))
      fun _ => LedHandled last handed := by
  have hread : Triple LedInterrupt (LedAt (fun b => b = led ∨ b = last) led (handed ++ [led]))
      (Prog.read fun w => w.rf.led.pendingLed) fun pending => LedAt (fun b => b = led ∨ b = pending) led (handed ++ [led]) :=
    Triple.read (stable_ledAt (.inl rfl)) (fun pending => stable_ledAt (.inl rfl)) fun w h =>
      ⟨h.newest, h.real, fun _ => .inr rfl, h.last, h.handed⟩
  refine hread.bind fun pending => Triple.ite (fun _ => ?_) fun hp => ?_
  · refine Triple.modify (stable_ledAt (.inl rfl)) (stable_ledHandled last handed) fun w h => .inl ⟨led, ?_⟩
    have hposted : ¬({ w with rf := w.rf.setEvent .notifyLed } : LedWorld).Quiet := by simp [LedWorld.Quiet, Rf.setEvent]
    exact ⟨h.newest, h.real, fun hq => absurd hq hposted, h.last, h.handed⟩
  · refine Triple.pure (stable_ledHandled last handed) fun w h => .inl ⟨led, h.mono fun b hb => ?_⟩
    rcases hb with hb | hb
    · exact hb
    · exact hb.trans (not_not.mp hp)

/-- The handler, once the event is taken. The byte that it read may be replaced by one it is compared with later. -/
theorem led_onNotifyLed : Triple LedInterrupt (LedAt (fun _ => True) last handed)
    (onNotifyLed.zoom LedWorld.rf fun s w => { w with rf := s }) fun _ => LedHandled last handed := by
  have hpending : Triple LedInterrupt (LedAt (fun _ => True) last handed) (Prog.read fun w => w.rf.led.pendingLed)
      fun led w => led ≠ 0xFF ∧ LedAt (fun b => b = led ∨ b = last) last handed w :=
    Triple.read (stable_ledAt trivial) (fun led w w' hi h => ⟨h.1, stable_ledAt (.inr rfl) w w' hi h.2⟩) fun w h =>
      ⟨h.real, h.newest, h.real, fun _ => .inl rfl, h.last, h.handed⟩
  have hlast (led : Byte) : Triple LedInterrupt (fun w => led ≠ 0xFF ∧ LedAt (fun b => b = led ∨ b = last) last handed w)
      (Prog.read fun w => w.rf.led.lastLedSent)
      fun b w => b = last ∧ led ≠ 0xFF ∧ LedAt (fun b => b = led ∨ b = last) last handed w :=
    Triple.read (fun w w' hi h => ⟨h.1, stable_ledAt (.inr rfl) w w' hi h.2⟩)
      (fun b w w' hi h => ⟨h.1, h.2.1, stable_ledAt (.inr rfl) w w' hi h.2.2⟩) fun w h => ⟨h.2.last, h⟩
  have hsend (led : Byte) : Triple LedInterrupt (LedAt (fun b => b = led ∨ b = last) last handed)
      (Prog.modify fun w => { w with rf := w.rf.out (.led led) })
      fun _ => LedAt (fun b => b = led ∨ b = last) last (handed ++ [led]) :=
    Triple.modify (stable_ledAt (.inr rfl)) (stable_ledAt (.inr rfl)) fun w h =>
      ⟨h.newest, h.real, h.posted, h.last, by simp [Rf.out, Rf.ledsHanded, ← h.handed]⟩
  have hstore (led : Byte) : Triple LedInterrupt (LedAt (fun b => b = led ∨ b = last) last (handed ++ [led]))
      (Prog.modify fun w => { w with rf := { w.rf with led := { w.rf.led with lastLedSent := led } } })
      fun _ => LedAt (fun b => b = led ∨ b = last) led (handed ++ [led]) :=
    Triple.modify (stable_ledAt (.inr rfl)) (stable_ledAt (.inl rfl)) fun w h =>
      ⟨h.newest, h.real, h.posted, rfl, h.handed⟩
  have hread {α : Type} (g : Rf → α) : (Prog.read g).zoom LedWorld.rf (fun s w => { w with rf := s }) = Prog.read fun w => g w.rf :=
    zoom_read (fun _ => rfl) g
  simp only [onNotifyLed, whenever, keyboardUartSendLed, rfSetEventAtomic, zoom_bind, zoom_ite, zoom_modify, zoom_pure, hread]
  refine hpending.bind fun led => (hlast led).bind fun b => Triple.ite (fun _ => ?_) fun heq => ?_
  · refine Triple.conseq ((hsend led).bind fun _ => (hstore led).bind fun _ => led_recheck last handed led) ?_ fun _ _ h => h
    rintro w ⟨-, -, h⟩
    exact h
  · refine Triple.pure (stable_ledHandled last handed) ?_
    rintro w ⟨rfl, hreal, h⟩
    obtain rfl : led = b := not_not.mp heq
    exact .inr ⟨hreal, h.mono fun b hb => hb.elim id id⟩

theorem led_handleNotifyLed : Triple LedInterrupt (LedAt (fun _ => True) last handed)
    (handleNotifyLed.zoom LedWorld.rf fun s w => { w with rf := s }) fun _ => LedHandled last handed := by
  rw [handleNotifyLed, zoom_bind, zoom_modify]
  refine Triple.bind (Triple.modify (stable_ledAt trivial) (stable_ledAt trivial) fun w h => ?_)
    fun _ => led_onNotifyLed last handed
  exact ⟨h.newest, h.real, fun _ => trivial, h.last, h.handed⟩

end Handler

/-! ## Steps -/

/-- Between two steps: nothing was relayed yet, or the last byte relayed was handed over unless it is posted. -/
def LedOk (w : LedWorld) : Prop :=
  (w.rf.led.lastLedSent = 0xFF ∨ w.rf.ledsHanded.getLast? = some w.rf.led.lastLedSent) ∧
    (w.relayed = [] ∧ w.Quiet ∧ w.rf.ledsHanded = [] ∨
      LedAt (fun b => b = 0xFF ∨ w.rf.ledsHanded.getLast? = some b) w.rf.led.lastLedSent w.rf.ledsHanded w)

theorem ledOk_boot (h : LedBooted w) : LedOk w := ⟨.inl h.1, .inl ⟨h.2.2.2, h.2.1, h.2.2.1⟩⟩

theorem ledOk_resync (h : LedOk w) : LedOk w.resync := by
  refine ⟨.inl rfl, ?_⟩
  rcases h.2 with hnone | hsome
  · exact .inl hnone
  · exact .inr ⟨hsome.newest, hsome.real, hsome.posted, rfl, rfl⟩

theorem ledOk_interrupt (hi : LedInterrupt w w') (h : LedOk w) : LedOk w' := by
  obtain ⟨hsent, hnone | hsome⟩ := h
  · rcases ledInterrupt_spec hi with ⟨hrel, hstill⟩ | ⟨b, hb, hrel, hrelay⟩
    · refine ⟨?_, .inl ⟨hrel.trans hnone.1, hstill.waits.trans hnone.2.1, hstill.handed.trans hnone.2.2⟩⟩
      rw [hstill.led, hstill.handed]
      exact hsent
    · have hempty : w'.rf.ledsHanded = [] := hrelay.handed.trans hnone.2.2
      have hlast : w.rf.led.lastLedSent = 0xFF := by
        rcases hsent with h | h
        · exact h
        · rw [hnone.2.2] at h
          exact nomatch h
      refine ⟨.inl (by rw [hrelay.led, hlast]), .inr ⟨?_, ?_, fun hq => ?_, rfl, rfl⟩⟩
      · rw [hrel, hrelay.led, List.getLast?_concat]
      · rw [hrelay.led]
        exact hb
      · have hwaits := hrelay.waits.symm.trans hq
        rw [hlast, decide_eq_true hb] at hwaits
        exact nomatch hwaits
  · have hst := stable_ledAt (S := fun b => b = 0xFF ∨ w.rf.ledsHanded.getLast? = some b) hsent w w' hi hsome
    have hlast := hst.last
    have hhanded := hst.handed
    rw [LedOk, hlast, hhanded]
    exact ⟨hsent, .inr hst⟩

/-- The handler has handed over a byte, unless the last one handed over was not forgotten. -/
theorem led_notify (hq : ¬w.Quiet) (hr : Prog.Runs LedInterrupt (handleNotifyLed.zoom LedWorld.rf fun s w => { w with rf := s }) w () w')
    (h : LedOk w) : LedHandled w.rf.led.lastLedSent w.rf.ledsHanded w' := by
  obtain ⟨-, hnone | hsome⟩ := h
  · exact absurd hnone.2.1 hq
  · exact led_handleNotifyLed _ _ w () w' (hsome.mono fun _ _ => trivial) hr

theorem LedHandled.ok {last : Byte} {handed : List Byte} (hsent : last = 0xFF ∨ handed.getLast? = some last)
    (h : LedHandled last handed w) : LedOk w := by
  rcases h with ⟨led, h⟩ | ⟨-, h⟩
  · have hlast := h.last
    have hhanded := h.handed
    rw [LedOk, hlast, hhanded]
    refine ⟨.inr List.getLast?_concat, .inr (h.mono fun b hb => .inr ?_)⟩
    rw [hb, List.getLast?_concat]
  · have hlast := h.last
    have hhanded := h.handed
    rw [LedOk, hlast, hhanded]
    exact ⟨hsent, .inr (h.mono fun b hb => hb ▸ hsent)⟩

theorem ledOk_step (hs : LedStep w w') (h : LedOk w) : LedOk w' := by
  cases hs with
  | interrupt hi => exact ledOk_interrupt hi h
  | notify hq hr => exact (led_notify hq hr h).ok h.1
  | resync => exact ledOk_resync h

end OpenController
