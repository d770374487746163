import OpenController.Lemmas.RfCatchAux

/-!
# Catches across runs

An interrupt that makes a catch makes a fresh one, so `CatchOk` holds throughout every call of the main loop. PAIRING is entered
only with the radio shut and no catch waiting; the bond is forgotten only when the link is idle; and a connection that has passed
its guard holds a fresh catch to its end.
-/

namespace OpenController

open Prog

attribute [local simp] CalmStmt Rf.calm_iff

variable {s t : Rf}

/-! ## Interrupts -/

namespace Rf

/-- An event other than a catch is calm. -/
theorem calm_setEvent {e : RfEvt} (s : Rf) (he : e ≠ .enterConnected) : s.Calm (s.setEvent e) := by
  simp [Rf.setEvent, he.symm]

/-- A packet while pairing makes the first bond of a fresh pairing, or a fresh catch, or nothing. -/
theorem onPairPacket_cases (s : Rf) {buf : RxBuf} (hlen : buf.len = 15) :
    (s.onPairPacket buf).tmos.armed .enterConnected = s.tmos.armed .enterConnected ∧
      (s.onPairPacket buf).trace.uses = s.trace.uses ∧
      (s.bond.hasBond = false ∧ (s.onPairPacket buf).tmos.waits .enterConnected = s.tmos.waits .enterConnected ∨
        s.Calm (s.onPairPacket buf) ∨ (s.onPairPacket buf).use.Fresh) := by
  unfold Rf.onPairPacket
  cases hb : s.bond.hasBond with
  | false => exact ⟨rfl, rfl, .inl ⟨rfl, by simp [Rf.setEvent]⟩⟩
  | true =>
    simp only [Bool.not_true, Bool.false_eq_true, if_false]
    by_cases hm : macEqual s.bond.storedDongleMac buf.dongleMac = true
    · simp only [hm, if_true]
      split
      · exact ⟨rfl, rfl, .inr (.inl (s.calm_setEvent nofun))⟩
      · exact ⟨rfl, rfl, .inr (.inr ⟨hb, _, rfl, rfl, hlen, (eq_of_beq hm).symm, rfl⟩)⟩
    · simp only [hm, Bool.false_eq_true, if_false]
      exact ⟨rfl, rfl, .inr (.inl (s.calm_setEvent nofun))⟩

/-- The signal strength is no catch. -/
theorem calm_rssi (s : Rf) (b : Byte) : s.Calm { s with rssi := b } := by
  simp

/-- The save of the bond is none. -/
theorem calm_dueBondSave (s : Rf) : s.Calm s.dueBondSave := by
  unfold dueBondSave
  split <;> simp [Rf.setEvent]

/-- An acknowledgement is none. -/
theorem calm_ackPoll (s : Rf) (rxCtrl : Byte) : s.Calm (s.ackPoll rxCtrl) := by
  unfold ackPoll
  repeat' split
  all_goals simp [noteRetired]

/-- An LED byte is none. -/
theorem calm_relayLed (s : Rf) (buf : RxBuf) : s.Calm (s.relayLed buf) := by
  simp only [relayLed, Rf.setEvent]
  repeat' split
  all_goals simp

/-- A poll is none. -/
theorem calm_onPoll (s : Rf) (buf : RxBuf) : s.Calm (s.onPoll buf) := by
  unfold onPoll
  split
  · exact s.calm_setEvent nofun
  · have hlock : s.Calm (s.lockHop buf.len) := by simp [lockHop]
    have hrest := (hlock.trans (calm_dueBondSave _)).trans ((calm_ackPoll _ (buf 2)).trans (calm_relayLed _ buf))
    exact hrest.trans (by simp [latchResponse])

/-- The callback is calm, unless it takes a packet while pairing. -/
theorem callback_cases (s : Rf) (sta : RfSta) (rsr : Nat) (rxBuf : Option RxBuf) :
    s.Calm (s.rf2g4StatusCallBack sta rsr rxBuf) ∨ s.state = .pairing ∧
      ∃ buf : RxBuf, buf.len = 15 ∧ s.rf2g4StatusCallBack sta rsr rxBuf = { s with rssi := buf 0 }.onPairPacket buf := by
  cases sta with
  | txFinish => exact .inl (by simp [rf2g4StatusCallBack, onTxFinish, Rf.setEvent])
  | txFail => exact .inl (by simp [rf2g4StatusCallBack, onTxFail, Rf.setEvent])
  | other => exact .inl (s.calm_setEvent nofun)
  | rxData =>
    cases rxBuf with
    | none => exact .inl (s.calm_setEvent nofun)
    | some buf =>
      simp only [rf2g4StatusCallBack]
      split
      · exact .inl (s.calm_setEvent nofun)
      · simp only [onRxData]
        split
        · exact .inr ⟨‹_ ∧ _ ∧ _›.1, buf, ‹_ ∧ _ ∧ _›.2.1, rfl⟩
        · split
          · exact .inl ((s.calm_rssi _).trans (calm_onPoll _ buf))
          · exact .inl ((s.calm_rssi _).trans (calm_setEvent _ nofun))

end Rf

/-- An interrupt is calm, or a packet of fifteen bytes that the keyboard hears while pairing. -/
theorem interrupt_cases (h : RfInterrupt s t) (ha : s.tmos.armed .enterConnected = false) :
    s.Calm t ∧ (s.radio.shut = true → t.radio.shut = true) ∨ s.radio.shut = false ∧ (s.Calm t ∨ s.state = .pairing ∧
      ∃ buf : RxBuf, buf.len = 15 ∧ t = { s with rssi := buf 0 }.onPairPacket buf) := by
  cases h with
  | callback sta rsr rxBuf hlive => exact .inr ⟨hlive, s.callback_cases sta rsr rxBuf⟩
  | tmr0Cycle => exact .inl ⟨by simp, id⟩
  | tmr0Irq =>
    refine .inl ?_
    unfold Rf.tmr0IRQHandler
    split
    · exact ⟨by simp, id⟩
    · dsimp only
      split <;> exact ⟨by simp [Rf.setEvent], id⟩
  | expire e => exact .inl ⟨by simp [ha], id⟩
  | advance ticks => exact .inl ⟨by simp, id⟩
  | hardware hw => exact .inl ⟨by simp, id⟩

/-! ## Assertions that interrupts keep -/

/-- The link is not pairing. -/
def Rf.Elsewhere (s : Rf) : Prop := s.CatchOk ∧ s.state ≠ .pairing

/-- A connection holds a fresh catch. -/
def Rf.Holds (s : Rf) : Prop := s.CatchOk ∧ s.use.Fresh

/-- The radio is shut. -/
def Rf.Shut (s : Rf) : Prop := s.CatchOk ∧ s.radio.shut = true

/-- The radio is shut and no catch waits. -/
def Rf.Swept (s : Rf) : Prop := s.CatchOk ∧ s.radio.shut = true ∧ s.tmos.waits .enterConnected = false

/-- That packet is a fresh catch. -/
theorem catchOk_onPairPacket (h : s.CatchOk) (hp : s.state = .pairing) {buf : RxBuf} (hlen : buf.len = 15) :
    (s.onPairPacket buf).CatchOk := by
  obtain ⟨ha, hu, hcases⟩ := s.onPairPacket_cases hlen
  refine ⟨ha.trans h.armed, fun _ hw => ?_, hu ▸ h.uses⟩
  rcases hcases with ⟨hb, hw'⟩ | hcalm | hfresh
  · -- without a bond no catch waits
    have := (h.waiting hp (hw' ▸ hw)).1
    simp [Rf.use, hb] at this
  · exact hcalm.fresh (h.waiting hp (hcalm.waits hw))
  · exact hfresh

/-- A catch that waits stays fresh. -/
theorem stable_catchOk : Stable RfInterrupt Rf.CatchOk := by
  intro s t hi h
  rcases interrupt_cases hi h.armed with ⟨hcalm, _⟩ | ⟨_, hcalm | ⟨hp, buf, hlen, rfl⟩⟩
  · exact hcalm.catchOk h
  · exact hcalm.catchOk h
  · exact catchOk_onPairPacket ((s.calm_rssi (buf 0)).catchOk h) hp hlen

/-- No interrupt starts a pairing. -/
theorem stable_elsewhere : Stable RfInterrupt Rf.Elsewhere := by
  rintro s t hi ⟨h, hp⟩
  have hcalm : s.Calm t → t.state ≠ .pairing := fun hc => hc.state.elim (fun he => he ▸ hp) id
  refine ⟨stable_catchOk s t hi h, ?_⟩
  rcases interrupt_cases hi h.armed with ⟨hc, _⟩ | ⟨_, hc | ⟨hq, _⟩⟩
  · exact hcalm hc
  · exact hcalm hc
  · exact absurd hq hp

/-- What a connection holds stays fresh. -/
theorem stable_holds : Stable RfInterrupt Rf.Holds := by
  rintro s t hi ⟨h, hf⟩
  refine ⟨stable_catchOk s t hi h, ?_⟩
  rcases interrupt_cases hi h.armed with ⟨hc, _⟩ | ⟨_, hc | ⟨_, buf, hlen, rfl⟩⟩
  · exact hc.fresh hf
  · exact hc.fresh hf
  · rcases (Rf.onPairPacket_cases { s with rssi := buf 0 } hlen).2.2 with ⟨hb, _⟩ | hc | hfresh
    · exact absurd (hf.1.symm.trans hb) nofun
    · exact ((s.calm_rssi _).trans hc).fresh hf
    · exact hfresh

/-- No interrupt opens a radio that is shut. -/
theorem stable_shut : Stable RfInterrupt Rf.Shut := by
  rintro s t hi ⟨h, hs⟩
  refine ⟨stable_catchOk s t hi h, ?_⟩
  rcases interrupt_cases hi h.armed with ⟨_, hk⟩ | ⟨hl, _⟩
  · exact hk hs
  · exact absurd (hs.symm.trans hl) nofun

/-- Nothing is caught while it is. -/
theorem stable_swept : Stable RfInterrupt Rf.Swept := by
  rintro s t hi ⟨h, hs, hw⟩
  refine ⟨stable_catchOk s t hi h, ?_⟩
  rcases interrupt_cases hi h.armed with ⟨hc, hk⟩ | ⟨hl, _⟩
  · exact ⟨hk hs, Bool.eq_false_iff.mpr fun h' => nomatch hw.symm.trans (hc.waits h')⟩
  · exact absurd (hs.symm.trans hl) nofun

/-! ## Calm calls -/

section Calm

variable {α : Type} {p : RfM α}

/-- A calm call keeps the catches fresh. -/
theorem keeps_catchOk (h : Each CalmStmt p) : Triple RfInterrupt Rf.CatchOk p fun _ => Rf.CatchOk :=
  Each.triple (h.mono fun _ hf s => (hf s).catchOk) stable_catchOk

/-- It does outside PAIRING. -/
theorem keeps_elsewhere (h : Each CalmStmt p) : Triple RfInterrupt Rf.Elsewhere p fun _ => Rf.Elsewhere := by
  refine Each.triple (h.mono fun _ hf s hs => ?_) stable_elsewhere
  exact ⟨(hf s).catchOk hs.1, (hf s).state.elim (fun he => he ▸ hs.2) id⟩

/-- It does in a connection. -/
theorem keeps_holds (h : Each CalmStmt p) : Triple RfInterrupt Rf.Holds p fun _ => Rf.Holds :=
  Each.triple (h.mono fun _ hf s hs => ⟨(hf s).catchOk hs.1, (hf s).fresh hs.2⟩) stable_holds

end Calm

/-! ## An entry into PAIRING -/

/-- With the radio shut first, no catch can be made once the old ones are swept. -/
theorem triple_sweep {α : Type} {p : RfM α} (h : Triple RfInterrupt Rf.Swept p fun _ => Rf.CatchOk) :
    Triple RfInterrupt Rf.CatchOk (do
      rfShut
      rfStopTaskAtomic .enterConnected
      p) fun _ => Rf.CatchOk := by
  have hshut : Triple RfInterrupt Rf.CatchOk rfShut fun _ => Rf.Shut := by
    refine Triple.modify stable_catchOk stable_shut fun s hs => ?_
    exact ⟨Rf.Calm.catchOk (by simp) hs, rfl⟩
  have hsweep : Triple RfInterrupt Rf.Shut (rfStopTaskAtomic .enterConnected) fun _ => Rf.Swept := by
    refine Triple.modify stable_shut stable_swept fun s hs => ?_
    exact ⟨Rf.Calm.catchOk (by simp) hs.1, hs.2, by simp⟩
  exact hshut.bind fun _ => hsweep.bind fun _ => h

/-- PAIRING is entered with no catch waiting. -/
theorem triple_setPairing : Triple RfInterrupt Rf.Swept setPairing fun _ => Rf.CatchOk := by
  refine Triple.modify stable_swept stable_catchOk fun s hs => ?_
  exact ⟨hs.1.armed, fun _ hw => absurd (hs.2.2.symm.trans hw) nofun, hs.1.uses⟩

/-- A search that starts has no catch of an earlier one. -/
theorem triple_enterBondedSearch : Triple RfInterrupt Rf.Swept enterBondedSearch fun _ => Rf.CatchOk :=
  triple_setPairing.bind fun _ => keeps_catchOk (by simp)

/-- A call that leaves the catches in order. -/
abbrev Orderly {α : Type} (p : RfM α) : Prop := Triple RfInterrupt Rf.CatchOk p fun _ => Rf.CatchOk

/-- A branch is orderly if it is when taken. -/
theorem Orderly.whenever {c : Prop} [Decidable c] {p : RfM Unit} (h : Orderly p) : Orderly (whenever c p) :=
  Triple.ite (fun _ => h) fun _ => keeps_catchOk (by simp)

/-- To read is orderly. -/
theorem Orderly.read {α : Type} (g : Rf → α) : Orderly (.read g : RfM α) := keeps_catchOk (by simp)

/-- A probe starts with a sweep. -/
theorem orderly_restProbeStart : Orderly restProbeStart := by
  refine Triple.bind (Orderly.read _) fun able => Triple.ite (fun _ => keeps_catchOk (by simp)) fun _ => ?_
  refine Triple.bind (keeps_catchOk (by simp)) fun _ => Triple.bind (keeps_catchOk (by simp)) fun _ => ?_
  refine Triple.bind (keeps_catchOk (by simp)) fun _ => Triple.bind (keeps_catchOk (by simp)) fun _ => ?_
  exact triple_sweep (triple_enterBondedSearch.bind fun _ => keeps_catchOk (by simp))

/-- So does a search. -/
theorem orderly_searchBonded : Orderly searchBonded := by
  refine Triple.bind (keeps_catchOk (by simp)) fun _ => Triple.bind (Orderly.read _) fun hasBond => ?_
  refine Triple.bind (Orderly.whenever (Triple.bind (keeps_catchOk (by simp)) fun _ => ?_)) fun _ => Orderly.read _
  exact triple_sweep triple_enterBondedSearch

/-- The host selects 2.4 GHz. -/
theorem orderly_rfSelect2G4 : Orderly rfSelect2G4 := by
  refine Triple.bind (keeps_catchOk (by simp)) fun _ => Triple.bind (Orderly.read _) fun valid => ?_
  refine Triple.ite (fun _ => keeps_catchOk (by simp)) fun _ => Triple.bind (Orderly.read _) fun state => ?_
  exact Triple.ite (fun _ => keeps_catchOk (by simp)) fun _ => orderly_searchBonded

/-- A pairing starts with a sweep, too. -/
theorem orderly_rfEnterPairing : Orderly rfEnterPairing := by
  refine Triple.bind (Orderly.read _) fun ignored => Triple.ite (fun _ => keeps_catchOk (by simp)) fun _ => ?_
  refine Triple.bind (keeps_catchOk (by simp)) fun _ => Triple.bind (keeps_catchOk (by simp)) fun _ => ?_
  exact triple_sweep (triple_setPairing.bind fun _ => keeps_catchOk (by simp))

/-! ## The bond forgotten -/

/-- `RF_Disconnect` leaves a link that is not pairing. -/
theorem triple_rfDisconnect : Triple RfInterrupt Rf.CatchOk rfDisconnect fun _ => Rf.Elsewhere := by
  have hidle : Triple RfInterrupt Rf.CatchOk (setState .idle) fun _ => Rf.Elsewhere := by
    refine Triple.modify stable_catchOk stable_elsewhere fun s hs => ?_
    exact ⟨Rf.Calm.catchOk (by simp) hs, nofun⟩
  unfold rfDisconnect
  iterate 9 refine Triple.bind (keeps_catchOk (by simp)) fun _ => ?_
  exact hidle.bind fun _ => keeps_elsewhere (by simp)

/-- `RF_ClearBond` is called when the link is not pairing. -/
theorem triple_rfClearBond : Triple RfInterrupt Rf.Elsewhere rfClearBond fun _ => Rf.Elsewhere := by
  have hforget : Triple RfInterrupt Rf.Elsewhere forgetBond fun _ => Rf.Elsewhere := by
    refine Each.triple ?_ stable_elsewhere
    simp only [forgetBond, each_then, each_modify]
    refine ⟨fun s hs => ⟨⟨hs.1.armed, fun hp => absurd hp hs.2, hs.1.uses⟩, hs.2⟩, fun s hs => ?_, fun s hs => ?_, fun s hs => ?_⟩
    all_goals exact ⟨⟨hs.1.armed, fun hp => absurd hp hs.2, hs.1.uses⟩, hs.2⟩
  unfold rfClearBond
  refine Triple.bind (keeps_elsewhere (by simp)) fun _ => hforget.bind fun _ => ?_
  exact keeps_elsewhere (by simp)

/-! ## The connection -/

/-- To note the use of a catch changes nothing of it. -/
theorem Rf.Holds.noteUse {s : Rf} (h : s.Holds) : s.noteUse.Holds := by
  refine ⟨⟨h.1.armed, fun _ _ => h.2, fun u hu => ?_⟩, h.2⟩
  rcases List.mem_append.mp hu with hu | hu
  · exact h.1.uses u hu
  · rw [List.mem_singleton.mp hu]
    exact h.2

/-- Until it is connected, a connection holds its catch: each value it uses is of a fresh one. -/
theorem triple_startSession (silentProbe : Bool) :
    Triple RfInterrupt Rf.Holds (startSession silentProbe) fun _ => Rf.CatchOk := by
  have hkeep : ∀ {f : Rf → Rf}, CalmStmt f → Triple RfInterrupt Rf.Holds (.modify f) fun _ => Rf.Holds := fun h =>
    keeps_holds (each_modify.mpr h)
  have huse : ∀ {f : Rf → Rf}, (∀ s : Rf, s.noteUse.Calm (f s)) → Triple RfInterrupt Rf.Holds (.modify f) fun _ => Rf.Holds :=
    fun h => Triple.modify stable_holds stable_holds fun s hs =>
      ⟨(h s).catchOk hs.noteUse.1, (h s).fresh hs.noteUse.2⟩
  unfold startSession
  iterate 3 refine Triple.bind (keeps_holds (by simp)) fun _ => ?_
  refine Triple.bind (huse (by simp [Rf.noteUse])) fun _ => Triple.bind (huse (by simp [Rf.noteUse])) fun _ => ?_
  refine Triple.bind (hkeep (by simp)) fun _ => Triple.bind (huse (by simp [Rf.noteUse])) fun _ => ?_
  iterate 3 refine Triple.bind (hkeep (by simp)) fun _ => ?_
  refine Triple.bind (huse (by simp [Rf.noteUse])) fun _ => ?_
  exact (keeps_holds (by simp)).conseq (fun _ hs => hs) fun _ _ hs => hs.1

/-- `RF_EVT_ENTER_CONNECTED` was taken: if the link is still pairing, the catch is fresh. -/
def Rf.Ready (s : Rf) : Prop := s.CatchOk ∧ (s.state = .pairing → s.use.Fresh)

/-- The catch stays fresh until the handler uses it. -/
theorem stable_ready : Stable RfInterrupt Rf.Ready := by
  rintro s t hi ⟨h, hf⟩
  by_cases hp : s.state = .pairing
  · have ht := stable_holds s t hi ⟨h, hf hp⟩
    exact ⟨ht.1, fun _ => ht.2⟩
  · have ht := stable_elsewhere s t hi ⟨h, hp⟩
    exact ⟨ht.1, fun hq => absurd hq ht.2⟩

/-- The connection uses a fresh catch. -/
theorem triple_rfEnterConnected : Triple RfInterrupt Rf.Ready rfEnterConnected fun _ => Rf.CatchOk := by
  have hguard : Triple RfInterrupt Rf.Ready (.read fun s => s.state)
      fun state s => s.CatchOk ∧ (state = .pairing → s.Holds) := by
    refine Triple.read stable_ready (fun state s t hi hs => ?_) fun s hs => ⟨hs.1, fun hp => ⟨hs.1, hs.2 hp⟩⟩
    exact ⟨stable_catchOk s t hi hs.1, fun hp => stable_holds s t hi (hs.2 hp)⟩
  refine hguard.bind fun state => Triple.ite (fun hp => ?_) fun _ => ?_
  · have hsilent : Triple RfInterrupt Rf.Holds (.read fun s : Rf => s.rest.probe && !s.rest.probeWake) fun _ => Rf.Holds :=
      keeps_holds (by simp)
    refine Triple.conseq (hsilent.bind fun silentProbe => ?_) (fun s hs => hs.2 hp) fun _ _ hs => hs
    refine (triple_startSession silentProbe).bind fun _ => keeps_catchOk ?_
    simp [pficEnableTmr0]
  · exact (keeps_catchOk (by simp)).conseq (fun _ hs => hs.1) fun _ _ hs => hs

/-- The handlers but that of `RF_EVT_ENTER_CONNECTED`. -/
theorem orderly_rfProcessEvent {e : RfEvt} (h : e ≠ .enterConnected) : Orderly (rfProcessEvent e) := by
  cases e with
  | enterConnected => exact absurd rfl h
  | restProbe =>
    refine Triple.bind (Orderly.read _) fun due => Orderly.whenever ?_
    exact Triple.bind (keeps_catchOk (by simp)) fun _ => orderly_restProbeStart
  | _ => exact keeps_catchOk (by simp [rfProcessEvent, saveBond])

/-- Half of a pass of TMOS: a catch that is taken is fresh, if the link is still pairing. -/
theorem triple_take : Triple RfInterrupt Rf.CatchOk
    (.stmt (fun s => { s with tmos := s.tmos.next.elim s.tmos s.tmos.take }) fun s => pure s.tmos.next)
    fun next s => s.CatchOk ∧ (next = some .enterConnected → s.Ready) := by
  refine Triple.stmt stable_catchOk fun s hs => Triple.pure (fun u v hi hu => ?_) fun t ht => ?_
  · exact ⟨stable_catchOk u v hi hu.1, fun hn => stable_ready u v hi (hu.2 hn)⟩
  · have hcalm : s.Calm t := by
      subst ht
      cases s.tmos.next <;> simp
    refine ⟨hcalm.catchOk hs, fun hn => ⟨hcalm.catchOk hs, fun hp => hcalm.fresh (hs.waiting ?_ (Tmos.next_eq_some hn))⟩⟩
    exact hcalm.state.elim (fun he => he ▸ hp) fun hne => absurd hp hne

/-- A pass of TMOS. -/
theorem orderly_tmosProcess : Orderly tmosProcess := by
  refine triple_take.bind fun next => ?_
  cases next with
  | none => exact (keeps_catchOk (by simp)).conseq (fun _ hs => hs.1) fun _ _ hs => hs
  | some e =>
    by_cases he : e = .enterConnected
    · subst he
      exact triple_rfEnterConnected.conseq (fun _ hs => hs.2 rfl) fun _ _ hs => hs
    · exact (orderly_rfProcessEvent he).conseq (fun _ hs => hs.1) fun _ _ hs => hs

/-! ## The frames of the host -/

/-- A report wakes a rest. -/
theorem orderly_wakeRest : Orderly wakeRest := by
  refine Triple.bind (Orderly.read _) fun state => Triple.ite (fun _ => ?_) fun _ => keeps_catchOk (by simp [wakeProbe])
  iterate 3 refine Triple.bind (keeps_catchOk (by simp)) fun _ => ?_
  exact orderly_restProbeStart

/-- `A6 52`, and the start of `A6 63`: the link is taken down, and the bond is forgotten. -/
theorem orderly_unpair {α : Type} {p : RfM α} (h : Orderly p) : Orderly (do
    rfDisconnect
    rfClearBond
    p) := by
  refine triple_rfDisconnect.bind fun _ => triple_rfClearBond.bind fun _ => ?_
  exact h.conseq (fun _ hs => hs.1) fun _ _ hs => hs

/-- Every command of the host. -/
theorem orderly_handleCommand (sub : Byte) : Orderly (handleCommand sub) := by
  have hquiet : ∀ {p : RfM Unit}, Each CalmStmt p → Orderly p := keeps_catchOk
  unfold handleCommand
  refine Triple.ite (fun _ => hquiet ?_) fun _ => Triple.ite (fun _ => ?_) fun _ => Triple.ite (fun _ => hquiet ?_) fun _ =>
    Triple.ite (fun _ => ?_) fun _ => Triple.ite (fun _ => ?_) fun _ => Triple.ite (fun _ => hquiet ?_) fun _ =>
    Triple.ite (fun _ => ?_) fun _ => hquiet ?_
  · simp [setTransport, rfDropQueueUnlessReselected]
  · refine Triple.bind (hquiet (by simp [setTransport])) fun _ => orderly_rfSelect2G4.bind fun hasBond => ?_
    exact hquiet (by simp)
  · simp [setTransport, rfDropQueueUnlessReselected]
  · refine Triple.bind (Orderly.read _) fun is2g4 => Orderly.whenever (Triple.bind (Orderly.read _) fun valid => ?_)
    refine Triple.ite (fun _ => hquiet (by simp)) fun _ => orderly_rfEnterPairing.bind fun entered => ?_
    exact hquiet (by simp)
  · exact orderly_unpair (hquiet (by simp))
  · simp [keyboardUartSendBattery, Rf.out]
  · refine Triple.bind (hquiet (by simp [setTransport])) fun _ => Triple.bind (Orderly.read _) fun valid => ?_
    refine Triple.ite (fun _ => hquiet (by simp)) fun _ => orderly_unpair ?_
    exact orderly_rfEnterPairing.bind fun _ => hquiet (by simp)
  · simp

/-- Every call of the main loop. -/
theorem orderly_program (call : RfCall) : Orderly call.program := by
  cases call with
  | frame cmd sub payload =>
    refine Triple.ite (fun _ => ?_) fun _ => Triple.ite (fun _ => orderly_handleCommand sub) fun _ => keeps_catchOk (by simp)
    exact Triple.bind (keeps_catchOk (by simp)) fun _ => orderly_wakeRest
  | process => exact orderly_tmosProcess
  | connectedTick => exact keeps_catchOk (by simp [RfCall.program])
  | ledResync => exact keeps_catchOk (by simp [RfCall.program, rfLedResync])
  | quiesce => exact keeps_catchOk (by simp [RfCall.program])
  | other => exact keeps_catchOk (by simp [RfCall.program])

/-! ## Every run -/

/-- At the boot no catch waits. -/
theorem catchOk_boot (h : RfBooted s) : s.CatchOk := by
  obtain ⟨mac, macValid, flash, hw, rfl⟩ := h
  have hwaits : (rfTaskInit mac macValid flash hw).tmos.waits .enterConnected = false := by
    simp only [rfTaskInit]
    split <;> simp
  refine ⟨?_, fun _ hw' => absurd (hwaits.symm.trans hw') nofun, nofun⟩
  simp only [rfTaskInit]
  split <;> simp

/-- Between any two calls of the main loop, the catches are in order. -/
theorem catchOk_interleaved (h : RfInterleaved s) : s.CatchOk :=
  h.invariant (fun _ => catchOk_boot) fun call s t _ hs hr => orderly_program call s () t hs hr

end OpenController
