import OpenController.Lemmas.RfCatchRun
import OpenController.Lemmas.RfHearsAux
import OpenController.Lemmas.RtcAux
import OpenController.RfRange

/-!
# The range of the hop across runs

The callback and every statement keep the hop in range. The interval comes from the packet of a catch, so a catch that waits offers
one in range; the connection that takes it is the only statement that writes the interval.
-/

namespace OpenController

open Prog RfStatements

variable {s t : Rf}

/-! ## The arithmetic -/

/-- One subtraction brings a sum of 32 bits into the range of the RTC. -/
theorem rtcReduce_lt {t : Nat} (h : t < 4294967296) : rtcReduce 1 t < rtc32kWrap := by
  rw [rtcReduce, rtcReduce, rtc32kWrap_eq]
  split <;> omega

/-- The second round of the loop finds nothing to do. -/
theorem rtcAdd32k_lt (t ticks : Nat) : rtcAdd32k t ticks < rtc32kWrap := by
  have hsum : u32 (t + ticks) < 4294967296 := Nat.mod_lt _ (by decide)
  rw [rtcAdd32k, rtcReduce, rtc32kWrap_eq]
  split
  · rw [rtcReduce, rtcReduce, rtc32kWrap_eq]
    split <;> omega
  · omega

/-- To go back stays in the range. -/
theorem rtcBackdate32k_lt {t ticks : Nat} (ht : t < rtc32kWrap) (hticks : ticks ≤ rtc32kWrap) : rtcBackdate32k t ticks < rtc32kWrap := by
  rw [← rtcAt_of_lt ht, rtcBackdate32k_rtcAt _ hticks]
  exact rtcAt_lt _

namespace RfHop

variable {h : RfHop}

/-- The servo moves the anchor within the range. -/
theorem InRange.hopServo (hr : h.InRange) (ref : Nat) : (h.hopServo ref).InRange := by
  unfold RfHop.hopServo
  dsimp only
  split
  · exact ⟨hr.interval, hr.index, rtcAdd32k_lt _ _⟩
  · split
    · exact ⟨hr.interval, hr.index, rtcBackdate32k_lt hr.anchor (by decide)⟩
    · exact hr

/-- The masked section keeps the hop in range. -/
theorem InRange.advance (hr : h.InRange) {now : Nat} (hn : now < rtc32kWrap) (interval : Nat) : (h.advance now interval).1.InRange := by
  have hanchor : ∀ ticks, rtcAdd32k h.hopAnchor ticks < rtc32kWrap := rtcAdd32k_lt _
  have hrollback : ∀ (c : Prop) [Decidable c] ticks,
      (if c then rtcBackdate32k (rtcAdd32k h.hopAnchor ticks) 1 else rtcAdd32k h.hopAnchor ticks) < rtc32kWrap := by
    intro c _ ticks
    split
    · exact rtcBackdate32k_lt (hanchor _) (by decide)
    · exact hanchor _
  unfold RfHop.advance
  dsimp only
  split
  · split
    · exact ⟨hr.interval, hr.index, hanchor _⟩
    · exact hr
  · split
    · exact ⟨hr.interval, hr.index, rtcBackdate32k_lt hn (by decide)⟩
    · split
      · exact ⟨hr.interval, Nat.mod_lt _ (by decide), hrollback _ _⟩
      · exact hr

end RfHop

/-! ## Interrupts -/

/-- The hop is in range, and so is the interval that a catch offers. -/
structure Rf.RangeOk (s : Rf) : Prop extends s.HopRange where
  offer : s.tmos.live .enterConnected = true → HopInterval s.pending.interval

/-- The hop is in range, and so is the interval that a connection is about to take. -/
def Rf.Offers (s : Rf) : Prop := s.RangeOk ∧ HopInterval s.pending.interval

/-- The pending values after a callback: those of the packet, or the same. -/
theorem pending_callback (s : Rf) (sta : RfSta) (rsr : Nat) (rxBuf : Option RxBuf) :
    let t := s.rf2g4StatusCallBack sta rsr rxBuf
    (t.pending = s.pending ∧ (t.tmos.live .enterConnected = true → s.tmos.live .enterConnected = true)) ∨
      HopInterval t.pending.interval ∧ t.pending.anchor = rtcBackdate32k s.hw.rtc rfHopAnchorBackdate := by
  have calm {u : Rf} (h : s.Calm u) :
      u.pending = s.pending ∧ (u.tmos.live .enterConnected = true → s.tmos.live .enterConnected = true) := by
    refine ⟨h.pending, fun hl => ?_⟩
    rw [Tmos.live, Bool.or_eq_true] at hl ⊢
    exact hl.imp h.armed h.waits
  rcases s.callback_cases sta rsr rxBuf with hcalm | ⟨_, buf, _, heq⟩
  · exact .inl (calm hcalm)
  · dsimp only
    rw [heq]
    unfold Rf.onPairPacket
    split
    · exact .inl ⟨rfl, by simp [Rf.setEvent]⟩
    · split
      · by_cases hout : buf.effInterval < 20 ∨ buf.effInterval > 40
        · rw [if_pos hout]
          exact .inl (calm ((s.calm_rssi _).trans (Rf.calm_setEvent _ (by rintro ⟨⟩))))
        · have hin : HopInterval buf.effInterval := ⟨by omega, by omega⟩
          rw [if_neg hout]
          exact .inr ⟨hin, rfl⟩
      · exact .inl (calm ((s.calm_rssi _).trans (Rf.calm_setEvent _ (by rintro ⟨⟩))))

/-- Whatever the radio reports leaves the hop in range. -/
theorem hopRange_callback (h : s.HopRange) (sta : RfSta) (rsr : Nat) (rxBuf : Option RxBuf) :
    (s.rf2g4StatusCallBack sta rsr rxBuf).HopRange := by
  have hhw := s.callback_hw sta rsr rxBuf
  have hpending : (s.rf2g4StatusCallBack sta rsr rxBuf).pending.anchor < rtc32kWrap := by
    rcases pending_callback s sta rsr rxBuf with ⟨hp, _⟩ | ⟨_, hp⟩
    · rw [hp]
      exact h.pendingAnchor
    · rw [hp]
      exact rtcBackdate32k_lt h.now (by decide)
  have hnow : (s.rf2g4StatusCallBack sta rsr rxBuf).hw.rtc < rtc32kWrap := hhw ▸ h.now
  rcases s.callback_spec sta rsr rxBuf with hb | ⟨buf, _, _, _, hp⟩
  · refine ⟨hb.hop ▸ h.hop, hpending, ?_, hnow⟩
    rcases hb.resp with hr | hr
    · exact hr ▸ h.armed
    · rw [hr]
      exact h.armed
  · have hservo := h.hop.hopServo (rtcBackdate32k s.hw.rtc (rfPollBackdateBase + buf.len / 8))
    refine ⟨?_, hpending, ?_, hnow⟩
    · rw [hp.hop]
      exact ⟨hservo.interval, hservo.index, hservo.anchor⟩
    · rw [hp.resp]
      exact h.now

/-- And a catch that waits offers an interval in range. -/
theorem rangeOk_callback (h : s.RangeOk) (sta : RfSta) (rsr : Nat) (rxBuf : Option RxBuf) :
    (s.rf2g4StatusCallBack sta rsr rxBuf).RangeOk := by
  refine ⟨hopRange_callback h.toHopRange sta rsr rxBuf, fun hl => ?_⟩
  rcases pending_callback s sta rsr rxBuf with ⟨hp, hlive⟩ | ⟨hoffer, _⟩
  · rw [hp]
    exact h.offer (hlive hl)
  · exact hoffer

/-- What a connection is about to take stays in range. -/
theorem offers_callback (h : s.Offers) (sta : RfSta) (rsr : Nat) (rxBuf : Option RxBuf) :
    (s.rf2g4StatusCallBack sta rsr rxBuf).Offers := by
  refine ⟨rangeOk_callback h.1 sta rsr rxBuf, ?_⟩
  rcases pending_callback s sta rsr rxBuf with ⟨hp, _⟩ | ⟨hoffer, _⟩
  · rw [hp]
    exact h.2
  · exact hoffer

/-- What happens between two statements is a callback, or leaves the hop and the catch as they are. -/
theorem clock_cases (hi : RfClock s t) : (∃ sta rsr rxBuf, t = s.rf2g4StatusCallBack sta rsr rxBuf) ∨
    t.hop = s.hop ∧ t.pending = s.pending ∧ t.resp = s.resp ∧
      (t.tmos.live .enterConnected = true → s.tmos.live .enterConnected = true) := by
  have irq : s.tmr0IRQHandler.hop = s.hop ∧ s.tmr0IRQHandler.pending = s.pending ∧ s.tmr0IRQHandler.resp = s.resp ∧
      (s.tmr0IRQHandler.tmos.live .enterConnected = true → s.tmos.live .enterConnected = true) := by
    simp only [Rf.tmr0IRQHandler]
    repeat' split
    all_goals simp [Rf.setEvent]
  cases hi.1 with
  | callback sta rsr rxBuf => exact .inl ⟨sta, rsr, rxBuf, rfl⟩
  | interrupt h =>
    cases h with
    | callback sta rsr rxBuf => exact .inl ⟨sta, rsr, rxBuf, rfl⟩
    | tmr0Irq => exact .inr irq
    | tmr0Cycle => exact .inr ⟨rfl, rfl, rfl, id⟩
    | hardware hw => exact .inr ⟨rfl, rfl, rfl, id⟩
    | expire e => exact .inr ⟨rfl, rfl, rfl, by simp⟩
    | advance ticks => exact .inr ⟨rfl, rfl, rfl, by simp⟩

/-- The range holds between two statements. -/
theorem stable_rangeOk : Stable RfClock Rf.RangeOk := by
  intro s t hi h
  rcases clock_cases hi with ⟨sta, rsr, rxBuf, rfl⟩ | ⟨hhop, hpending, hresp, hlive⟩
  · exact rangeOk_callback h sta rsr rxBuf
  · exact ⟨⟨hhop ▸ h.hop, hpending ▸ h.pendingAnchor, hresp ▸ h.armed, hi.2⟩, fun hl => hpending ▸ h.offer (hlive hl)⟩

/-- So does that of the interval offered. -/
theorem stable_offers : Stable RfClock Rf.Offers := by
  intro s t hi h
  refine ⟨stable_rangeOk s t hi h.1, ?_⟩
  rcases clock_cases hi with ⟨sta, rsr, rxBuf, rfl⟩ | ⟨_, hpending, _⟩
  · exact (offers_callback h sta rsr rxBuf).2
  · exact hpending ▸ h.2

/-! ## Statements -/

/-- One state after another in which the hop is in range if it was, and no catch waits that did not. -/
structure Rf.KeepsRange (s t : Rf) : Prop where
  hop : t.hop = s.hop ∨ ∃ interval, t.hop = (s.hop.advance s.hw.rtc interval).1
  pending : t.pending = s.pending
  armed : t.resp.responseArmedRtc = s.resp.responseArmedRtc
  now : t.hw = s.hw
  live : t.tmos.live .enterConnected = true → s.tmos.live .enterConnected = true

/-- The step, field by field. -/
theorem Rf.keepsRange_iff : s.KeepsRange t ↔ (t.hop = s.hop ∨ ∃ interval, t.hop = (s.hop.advance s.hw.rtc interval).1) ∧
    t.pending = s.pending ∧ t.resp.responseArmedRtc = s.resp.responseArmedRtc ∧ t.hw = s.hw ∧
    (t.tmos.live .enterConnected = true → s.tmos.live .enterConnected = true) :=
  ⟨fun h => ⟨h.hop, h.pending, h.armed, h.now, h.live⟩, fun ⟨h1, h2, h3, h4, h5⟩ => ⟨h1, h2, h3, h4, h5⟩⟩

/-- Such a step keeps the range. -/
theorem Rf.KeepsRange.rangeOk (h : s.KeepsRange t) (hs : s.RangeOk) : t.RangeOk := by
  refine ⟨⟨?_, h.pending ▸ hs.pendingAnchor, h.armed ▸ hs.armed, h.now ▸ hs.now⟩, fun hl => h.pending ▸ hs.offer (h.live hl)⟩
  rcases h.hop with hhop | ⟨interval, hhop⟩
  · exact hhop ▸ hs.hop
  · exact hhop ▸ hs.hop.advance hs.now interval

/-- And what a connection is about to take. -/
theorem Rf.KeepsRange.offers (h : s.KeepsRange t) (hs : s.Offers) : t.Offers := ⟨h.rangeOk hs.1, h.pending ▸ hs.2⟩

/-- A statement that keeps the hop in range. -/
def RangeStmt (f : Rf → Rf) : Prop := ∀ s : Rf, s.KeepsRange (f s)

section Statements

attribute [local simp] RangeStmt Rf.keepsRange_iff

/-- A timer stops. -/
@[local simp] theorem range_stop (e : RfEvt) : Each RangeStmt (rfStopTaskAtomic e) := by
  simp

attribute [-simp] rfStopTaskAtomic

/-- The hop advances as the masked section has it. -/
@[local simp] theorem range_rfHopTick (interval : Nat) : Each RangeStmt (rfHopTick interval) := by
  rw [rfHopTick, rfAdvance, each_stmt_bind]
  refine ⟨fun s => ⟨.inr ⟨interval, rfl⟩, rfl, rfl, rfl, id⟩, fun s => ?_⟩
  simp

/-- The host selects 2.4 GHz. -/
theorem range_rfSelect2G4 : Each RangeStmt rfSelect2G4 := by
  simp

/-- The host asks for a pairing. -/
theorem range_rfEnterPairing : Each RangeStmt rfEnterPairing := by
  simp

/-- Every command of the host. -/
theorem range_handleCommand (sub : Byte) : Each RangeStmt (handleCommand sub) := by
  unfold handleCommand
  refine Each.ite (by simp) (Each.ite (Each.bind (by simp) fun _ => range_rfSelect2G4.bind fun _ => by simp)
    (Each.ite (by simp) (Each.ite ?_ (Each.ite (by simp) (Each.ite (by simp) (Each.ite ?_ (by simp)))))))
  · refine Each.bind (by simp) fun is2g4 => Each.ite (Each.bind (by simp) fun valid => ?_) (by simp)
    exact Each.ite (by simp) (range_rfEnterPairing.bind fun _ => by simp)
  · refine Each.bind (by simp) fun _ => Each.bind (by simp) fun valid => Each.ite (by simp) ?_
    refine Each.bind (by simp) fun _ => Each.bind (by simp) fun _ => range_rfEnterPairing.bind fun _ => by simp

/-- Every call but a pass of TMOS. -/
theorem range_program {call : RfCall} (h : call ≠ .process) : Each RangeStmt call.program := by
  cases call with
  | process => exact absurd rfl h
  | frame cmd sub payload => simp [RfCall.program, handleUartFrame, range_handleCommand]
  | connectedTick => simp [RfCall.program, -rfHopTick]
  | ledResync => simp [RfCall.program]
  | quiesce => simp [RfCall.program]
  | other => simp [RfCall.program]

/-- The handlers but the one that connects. -/
theorem range_rfProcessEvent {e : RfEvt} (h : e ≠ .enterConnected) : Each RangeStmt (rfProcessEvent e) := by
  cases e with
  | enterConnected => exact absurd rfl h
  | _ => simp [rfProcessEvent]

/-- A catch that is taken no longer waits. -/
theorem range_take : RangeStmt fun s => { s with tmos := s.tmos.next.elim s.tmos s.tmos.take } := by
  intro s
  refine ⟨.inl rfl, rfl, rfl, rfl, fun hl => ?_⟩
  dsimp only at hl
  cases hn : s.tmos.next with
  | none => rwa [hn] at hl
  | some e =>
    rw [hn] at hl
    exact Tmos.live_of_take hl

/-- A statement of a connection that writes the hop. -/
theorem offers_hop {f : Rf → Rf} (hop : ∀ s : Rf, s.Offers → (f s).hop.InRange)
    (same : ∀ s : Rf, { s with hop := (f s).hop }.KeepsRange (f s)) : Each (Keeps Rf.Offers) (.modify f) := by
  refine Each.modify fun s hs => (same s).offers ?_
  exact ⟨⟨⟨hop s hs, hs.1.pendingAnchor, hs.1.armed, hs.1.now⟩, hs.1.offer⟩, hs.2⟩

/-- The hop of a session is what its catch offered: the interval, the channel after the type tag, and the anchor. -/
theorem offers_startSession (silentProbe : Bool) : Each (Keeps Rf.Offers) (startSession silentProbe) := by
  have keep {p : RfM Unit} (h : Each RangeStmt p) : Each (Keeps Rf.Offers) p := h.mono fun _ hf s hs => (hf s).offers hs
  unfold startSession
  iterate 6 refine (keep (by simp)).bind fun _ => ?_
  refine Each.bind (offers_hop (fun s hs => ⟨hs.2, hs.1.hop.index, hs.1.hop.anchor⟩) (by simp)) fun _ => ?_
  refine Each.bind (offers_hop (fun s hs => ⟨hs.1.hop.interval, Nat.mod_lt _ (by decide), hs.1.hop.anchor⟩) (by simp)) fun _ => ?_
  iterate 2 refine (keep (by simp)).bind fun _ => ?_
  refine Each.bind (offers_hop (fun s hs => ⟨hs.1.hop.interval, hs.1.hop.index, hs.1.pendingAnchor⟩) (by simp)) fun _ => ?_
  refine Each.bind (offers_hop (fun s hs => ⟨hs.1.hop.interval, hs.1.hop.index, hs.1.hop.anchor⟩) (by simp)) fun _ => ?_
  refine (keep (by simp)).bind fun _ => ?_
  refine Each.bind (offers_hop (fun s hs => ⟨hs.1.hop.interval, hs.1.hop.index, hs.1.hop.anchor⟩) (by simp)) fun _ => ?_
  exact keep (by simp)

/-- The connection takes an interval in range. -/
theorem offers_rfEnterConnected : Each (Keeps Rf.Offers) rfEnterConnected := by
  have keep {p : RfM Unit} (h : Each RangeStmt p) : Each (Keeps Rf.Offers) p := h.mono fun _ hf s hs => (hf s).offers hs
  refine (Each.read fun _ hs => hs).bind fun state => Each.ite ?_ trivial
  refine (Each.read fun _ hs => hs).bind fun silentProbe => (offers_startSession silentProbe).bind fun _ => keep ?_
  simp

end Statements

/-! ## Calls -/

/-- A call of such statements is safe at every statement. -/
theorem safe_rangeOk {α : Type} {p : RfM α} (h : Each RangeStmt p) : Safe RfClock Rf.RangeOk p Rf.RangeOk :=
  Each.safe (h.mono fun _ hf s hs => (hf s).rangeOk hs) stable_rangeOk

/-- A catch that is taken offers an interval in range. -/
theorem triple_take_range : Triple RfClock Rf.RangeOk tmosTake fun next s =>
    s.RangeOk ∧ (next = some .enterConnected → s.Offers) := by
  refine Triple.stmt stable_rangeOk fun s hs => Triple.pure (fun u v hi hu => ?_) fun t ht => ?_
  · exact ⟨stable_rangeOk u v hi hu.1, fun hn => stable_offers u v hi (hu.2 hn)⟩
  · subst ht
    have hok := (range_take s).rangeOk hs
    exact ⟨hok, fun hn => ⟨hok, hs.offer (Tmos.live_of_waits (Tmos.next_eq_some hn))⟩⟩

/-- To take an event is. -/
theorem safe_tmosTake : Safe RfClock Rf.RangeOk tmosTake Rf.RangeOk :=
  safe_rangeOk ⟨range_take, fun _ => trivial⟩

/-- A pass of TMOS is. -/
theorem safe_tmosProcess : Safe RfClock Rf.RangeOk tmosProcess Rf.RangeOk := by
  rw [tmosProcess_eq]
  refine safe_tmosTake.bind triple_take_range fun next => ?_
  cases next with
  | none => exact (safe_rangeOk Each.pure).conseq (fun _ hs => hs.1) fun _ hs => hs
  | some e =>
    by_cases he : e = .enterConnected
    · subst he
      exact (Each.safe offers_rfEnterConnected stable_offers).conseq (fun _ hs => hs.2 rfl) fun _ hs => hs.1
    · exact (safe_rangeOk (range_rfProcessEvent he)).conseq (fun _ hs => hs.1) fun _ hs => hs

/-- Every call is. -/
theorem safe_program (call : RfCall) : Safe RfClock Rf.RangeOk call.program Rf.RangeOk := by
  by_cases h : call = .process
  · subst h
    exact safe_tmosProcess
  · exact safe_rangeOk (range_program h)

/-- At the boot the hop is in range. -/
theorem rangeOk_boot (h : RfBooted s) (hnow : s.hw.rtc < rtc32kWrap) : s.RangeOk := by
  obtain ⟨mac, macValid, flash, hw, rfl⟩ := h
  have hhop : RfHop.InRange ⟨rfPairInterval, 0, 0, 0, false⟩ := ⟨⟨by decide, by decide⟩, by decide, by decide⟩
  have hzero : 0 < rtc32kWrap := by decide
  refine ⟨⟨hhop, hzero, hzero, hnow⟩, fun hl => ?_⟩
  simp only [rfTaskInit] at hl
  split at hl <;> simp at hl

/-- Between any two calls, the hop is in range. -/
theorem rangeOk_clocked (h : RfClocked s) : s.RangeOk :=
  h.invariant (fun _ hb => rangeOk_boot hb.1 hb.2) fun call s t _ hs hr => (safe_program call).triple s () t hs hr

end OpenController
