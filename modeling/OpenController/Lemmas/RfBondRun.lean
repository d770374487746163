import OpenController.Lemmas.RfCalls
import OpenController.Lemmas.RfCatchRun
import OpenController.Lemmas.RfHearsAux
import OpenController.Lemmas.RfLinkStep
import OpenController.Lemmas.RfStatements
import OpenController.RfBond
import OpenController.RfSleep

/-!
# The save of a fresh bond, across calls

What the calls of the main loop do to the debt of a session, with interrupts between any two statements: a poll turns the flag
into a queued event, a session makes a debt, a save pays it, and a teardown gives up what is pending.
-/

namespace OpenController

open Prog RfStatements

variable {d : Prop} {s t : Rf}

/-! ## Interrupts -/

namespace Rf.BondStep

/-- Nothing happens. -/
theorem rfl' (s : Rf) : s.BondStep s := ⟨rfl, fun h => ⟨h, rfl⟩, .inl rfl, id⟩

/-- One step after another is a step. -/
theorem trans {u : Rf} (h : s.BondStep t) (h' : t.BondStep u) : s.BondStep u := by
  refine ⟨h'.owed.trans h.owed, fun hb => ?_, ?_, fun hw => h'.waits (h.waits hw)⟩
  · obtain ⟨hb', hm⟩ := h.bond hb
    obtain ⟨hb'', hm'⟩ := h'.bond hb'
    exact ⟨hb'', hm'.trans hm⟩
  · rcases h'.pending with hp | hp
    · exact h.pending.imp hp.trans fun h => ⟨hp.trans h.1, h'.waits h.2⟩
    · exact .inr hp

/-- The debt is still for the bond. -/
theorem owesBond (h : s.BondStep t) (hs : s.OwesBond) : t.OwesBond := by
  intro mac hm
  obtain ⟨hb, he⟩ := hs mac (h.owed ▸ hm)
  obtain ⟨hb', hm'⟩ := h.bond hb
  exact ⟨hb', hm'.trans he⟩

/-- A save that is pending or queued stays pending or queued. -/
theorem posted (h : s.BondStep t) (hs : s.bondSavePending = true ∨ s.tmos.waits .saveBond = true) :
    t.bondSavePending = true ∨ t.tmos.waits .saveBond = true := by
  rcases hs with hp | hw
  · exact h.pending.imp (·.trans hp) (·.2)
  · exact .inr (h.waits hw)

/-- So the save of the debt is still to come. -/
theorem saveOk (h : s.BondStep t) (hs : s.SaveOk d) : t.SaveOk d :=
  ⟨h.owesBond hs.known, fun ho => h.posted (hs.posted (h.owed ▸ ho)), fun hd => h.waits (hs.due hd)⟩

/-- An event that is queued takes no save away. -/
theorem setEvent (h : s.BondStep t) (e : RfEvt) : s.BondStep (t.setEvent e) := by
  refine ⟨h.owed, h.bond, ?_, fun hw => ?_⟩
  · exact h.pending.imp id fun hp => ⟨hp.1, by simp [Rf.setEvent, hp.2]⟩
  · simp [Rf.setEvent, h.waits hw]

/-- A save that is not pending does not become pending. -/
theorem idle (h : s.BondStep t) (hs : s.bondSavePending = false) : t.bondSavePending = false :=
  h.pending.elim (·.trans hs) (·.1)

end Rf.BondStep

namespace Rf

/-- A packet of the pairing touches no bond. -/
theorem bondStep_onPairPacket (s : Rf) (buf : RxBuf) : s.BondStep (s.onPairPacket buf) := by
  unfold onPairPacket
  cases hb : s.bond.hasBond with
  | false =>
    refine ⟨rfl, fun h => (nomatch hb.symm.trans h), .inl rfl, fun hw => ?_⟩
    simp [Rf.setEvent, hw]
  | true =>
    simp only [Bool.not_true, Bool.false_eq_true, if_false]
    split
    · split
      · exact (BondStep.rfl' s).setEvent _
      · simp [Rf.bondStep_iff, Rf.setEvent]
    · exact (BondStep.rfl' s).setEvent _

/-- The first poll of a session queues the save that is pending. -/
theorem bondStep_dueBondSave (s : Rf) : s.BondStep s.dueBondSave := by
  unfold dueBondSave
  split
  · exact ⟨rfl, fun h => ⟨h, rfl⟩, .inr ⟨rfl, by simp [Rf.setEvent]⟩, fun hw => by simp [Rf.setEvent]⟩
  · exact .rfl' s

/-- An acknowledgement is none of the bond's business. -/
theorem bondStep_ackPoll (s : Rf) (rxCtrl : Byte) : s.BondStep (s.ackPoll rxCtrl) := by
  unfold ackPoll
  repeat' split
  all_goals exact ⟨rfl, fun h => ⟨h, rfl⟩, .inl rfl, id⟩

/-- Nor is an LED byte. -/
theorem bondStep_relayLed (s : Rf) (buf : RxBuf) : s.BondStep (s.relayLed buf) := by
  unfold relayLed
  split
  · dsimp only
    split
    · simp [Rf.bondStep_iff, Rf.setEvent]
    · exact ⟨rfl, fun h => ⟨h, rfl⟩, .inl rfl, id⟩
  · exact .rfl' s

/-- A poll is a step of the bond. -/
theorem bondStep_onPoll (s : Rf) (buf : RxBuf) : s.BondStep (s.onPoll buf) := by
  unfold onPoll
  split
  · exact (BondStep.rfl' s).setEvent _
  · have hlock : s.BondStep (s.lockHop buf.len) := ⟨rfl, fun h => ⟨h, rfl⟩, .inl rfl, id⟩
    have hrest := (hlock.trans (bondStep_dueBondSave _)).trans ((bondStep_ackPoll _ (buf 2)).trans (bondStep_relayLed _ buf))
    exact hrest.trans ⟨rfl, fun h => ⟨h, rfl⟩, .inl rfl, id⟩

/-- So is whatever the radio reports. -/
theorem bondStep_callback (s : Rf) (sta : RfSta) (rsr : Nat) (rxBuf : Option RxBuf) :
    s.BondStep (s.rf2g4StatusCallBack sta rsr rxBuf) := by
  have hrssi (b : Byte) : s.BondStep { s with rssi := b } := ⟨rfl, fun h => ⟨h, rfl⟩, .inl rfl, id⟩
  cases sta with
  | txFinish => simp [bondStep_iff, rf2g4StatusCallBack, onTxFinish, Rf.setEvent]
  | txFail => simp [bondStep_iff, rf2g4StatusCallBack, onTxFail, Rf.setEvent]
  | other => exact (BondStep.rfl' s).setEvent _
  | rxData =>
    cases rxBuf with
    | none => exact (BondStep.rfl' s).setEvent _
    | some buf =>
      simp only [rf2g4StatusCallBack, onRxData]
      repeat' split
      · exact (BondStep.rfl' s).setEvent _
      · exact (hrssi _).trans (bondStep_onPairPacket _ buf)
      · exact (hrssi _).trans (bondStep_onPoll _ buf)
      · exact (hrssi _).setEvent _

end Rf

/-- And every interrupt. -/
theorem bondStep_interrupt (h : RfInterrupt s t) : s.BondStep t := by
  cases h with
  | callback sta rsr rxBuf _ => exact s.bondStep_callback sta rsr rxBuf
  | tmr0Irq =>
    unfold Rf.tmr0IRQHandler
    split
    · exact .rfl' s
    · dsimp only
      split
      · simp [Rf.bondStep_iff, Rf.setEvent]
      · exact ⟨rfl, fun h => ⟨h, rfl⟩, .inl rfl, id⟩
  | expire e => exact ⟨rfl, fun h => ⟨h, rfl⟩, .inl rfl, fun hw => by simp [hw]⟩
  | tmr0Cycle | advance | hardware => exact ⟨rfl, fun h => ⟨h, rfl⟩, .inl rfl, id⟩

/-- No interrupt loses the save of a debt. -/
theorem stable_saveOk : Stable RfInterrupt (Rf.SaveOk d) := fun _ _ hi hs => (bondStep_interrupt hi).saveOk hs

/-- While no save is pending, what is owed stays queued. -/
theorem stable_saveIdle : Stable RfInterrupt (Rf.SaveIdle d) := fun _ _ hi hs =>
  ⟨(bondStep_interrupt hi).saveOk hs.1, (bondStep_interrupt hi).idle hs.2⟩

/-- The debt stays one for the bond. -/
theorem stable_owesBond : Stable RfInterrupt Rf.OwesBond := fun _ _ hi hs => (bondStep_interrupt hi).owesBond hs

/-! ## Calls that leave the debt alone -/

attribute [local simp] BondStmt IdleStmt Rf.bondStep_iff

/-- A call of such statements keeps the save to come. -/
theorem saves_of {α : Type} {p : RfM α} (h : Each BondStmt p) : Kept RfInterrupt (Rf.SaveOk d) p :=
  Each.triple (h.mono fun _ hf s hs => (hf s).saveOk hs) stable_saveOk

/-- So does a call that runs while no save is pending. -/
theorem idle_of {α : Type} {p : RfM α} (h : Each IdleStmt p) : Kept RfInterrupt (Rf.SaveIdle d) p :=
  Each.triple (h.mono fun _ hf s hs => ⟨(hf s hs.2).saveOk hs.1, (hf s hs.2).idle hs.2⟩) stable_saveIdle

/-! ## Debts -/

/-- The debt is for the bond, and if `d` its save is queued. -/
def Rf.Owes (d : Prop) (s : Rf) : Prop := s.OwesBond ∧ (d → s.tmos.waits .saveBond = true)

/-- There is no debt. -/
def Rf.Free (d : Prop) (s : Rf) : Prop := s.log.owed = none ∧ (d → s.tmos.waits .saveBond = true)

/-- Without a debt no save has to come. -/
theorem Rf.Free.saveOk (h : s.Free d) : s.SaveOk d :=
  ⟨fun _ hm => (nomatch h.1.symm.trans hm), fun ho => absurd h.1 ho, h.2⟩

/-- The debt and its queued save stay. -/
theorem stable_owes : Stable RfInterrupt (Rf.Owes d) := fun s t hi hs =>
  ⟨stable_owesBond s t hi hs.1, fun hd => (bondStep_interrupt hi).waits (hs.2 hd)⟩

/-- No interrupt makes a debt. -/
theorem stable_free : Stable RfInterrupt (Rf.Free d) := fun _ _ hi hs =>
  ⟨(bondStep_interrupt hi).owed.trans hs.1, fun hd => (bondStep_interrupt hi).waits (hs.2 hd)⟩

/-- No interrupt makes a save pending. -/
theorem stable_saved : Stable RfInterrupt fun s => s.bondSavePending = false := fun _ _ hi hs => (bondStep_interrupt hi).idle hs

/-! ## A save -/

/-- A save pays the debt. -/
theorem owed_saveBond (h : s.OwesBond) : (saveBond.exec s).log.owed = none := by
  change (if s.log.owed = some s.bond.storedDongleMac then none else s.log.owed) = none
  cases ho : s.log.owed with
  | none => simp
  | some mac => rw [(h mac ho).2, if_pos rfl]

/-- The save pays the debt. -/
theorem free_saveBond : Triple RfInterrupt (Rf.Owes d) saveBond fun _ => Rf.Free d :=
  Triple.modify stable_owes stable_free fun _ hs => ⟨owed_saveBond hs.1, hs.2⟩

/-- What is pending is saved at once. -/
theorem saves_rfFlushBondSave : Triple RfInterrupt (Rf.SaveOk d) rfFlushBondSave fun _ => Rf.SaveIdle d := by
  have hpending : Triple RfInterrupt (Rf.SaveOk d) (.read fun s => s.bondSavePending)
      fun pending s => s.SaveOk d ∧ (pending = false → s.bondSavePending = false) :=
    Triple.read stable_saveOk (fun _ s t hi hs => ⟨stable_saveOk s t hi hs.1, fun hp => stable_saved s t hi (hs.2 hp)⟩)
      fun _ hs => ⟨hs, id⟩
  have howes : Stable RfInterrupt fun s : Rf => s.Owes d ∧ s.bondSavePending = false := fun s t hi hs =>
    ⟨stable_owes s t hi hs.1, stable_saved s t hi hs.2⟩
  have hclear : Triple RfInterrupt (Rf.SaveOk d) (.modify fun s => { s with bondSavePending := false })
      fun _ (s : Rf) => s.Owes d ∧ s.bondSavePending = false :=
    Triple.modify stable_saveOk howes fun s hs => ⟨⟨hs.known, hs.due⟩, rfl⟩
  have hsave : Triple RfInterrupt (fun s : Rf => s.Owes d ∧ s.bondSavePending = false) saveBond fun _ => Rf.SaveIdle d :=
    Triple.modify howes stable_saveIdle fun s hs =>
      ⟨Rf.Free.saveOk (s := saveBond.exec s) ⟨owed_saveBond hs.1.1, hs.1.2⟩, hs.2⟩
  refine hpending.bind fun pending => Triple.ite (fun _ => ?_) fun hp => ?_
  · exact Triple.conseq (hclear.bind fun _ => hsave) (fun s hs => hs.1) fun _ _ hs => hs
  · exact Triple.pure stable_saveIdle fun s hs => ⟨hs.1, hs.2 (by simpa using hp)⟩

/-- The host takes the link down when no save is pending. -/
theorem idle_rfDisconnect : Kept RfInterrupt (Rf.SaveIdle d) rfDisconnect := idle_of (by simp +contextual)

/-- The link is taken down with nothing pending any more. -/
theorem saves_takeDown : Triple RfInterrupt (Rf.SaveOk d) takeDown fun _ => Rf.SaveIdle d :=
  saves_rfFlushBondSave.bind fun _ => idle_rfDisconnect

/-! ## The bond is forgotten -/

/-- A pending save is given up only with the bond. -/
theorem saves_unpair : Kept RfInterrupt (Rf.SaveOk d) unpair := by
  have howes : ∀ {α : Type} {p : RfM α}, Each (fun f => ∀ s : Rf, (f s).log.owed = s.log.owed ∧ (f s).bond = s.bond ∧
      (s.tmos.waits .saveBond = true → (f s).tmos.waits .saveBond = true)) p → Kept RfInterrupt (Rf.Owes d) p := by
    refine fun h => Each.triple (h.mono fun f hf s hs => ⟨?_, fun hd => (hf s).2.2 (hs.2 hd)⟩) stable_owes
    rw [Rf.OwesBond, (hf s).1, (hf s).2.1]
    exact hs.1
  have hfree : ∀ {α : Type} {p : RfM α}, Each (fun f => ∀ s : Rf, (s.log.owed = none → (f s).log.owed = none) ∧
      (s.tmos.waits .saveBond = true → (f s).tmos.waits .saveBond = true)) p → Kept RfInterrupt (Rf.Free d) p :=
    fun h => Each.triple (h.mono fun f hf s hs => ⟨(hf s).1 hs.1, fun hd => (hf s).2 (hs.2 hd)⟩) stable_free
  have hfirst : Triple RfInterrupt (Rf.Owes d)
      (.modify fun s => { s with bond := { s.bond with hasBond := false }, log := { s.log with owed := none } })
      fun _ => Rf.Free d :=
    Triple.modify stable_owes stable_free fun _ hs => ⟨rfl, hs.2⟩
  have hforget : Triple RfInterrupt (Rf.Owes d) forgetBond fun _ => Rf.Free d := hfirst.bind fun _ => hfree (by simp)
  have hclear : Triple RfInterrupt (Rf.Owes d) rfClearBond fun _ => Rf.Free d :=
    Triple.bind (howes (by simp)) fun _ => hforget.bind fun _ => hfree (by simp)
  have hunpair : Triple RfInterrupt (Rf.Owes d) unpair fun _ => Rf.Free d := Triple.bind (howes (by simp)) fun _ => hclear
  exact hunpair.conseq (fun s hs => ⟨hs.known, hs.due⟩) fun _ _ hs => hs.saveOk

/-! ## Sessions -/

/-- An interrupt neither moves the link nor starts, wakes or ends a probe. -/
theorem rest_interrupt (h : RfInterrupt s t) :
    t.state = s.state ∧ t.rest.probe = s.rest.probe ∧ t.rest.probeWake = s.rest.probeWake := by
  cases h with
  | callback sta rsr rxBuf _ =>
    have hstep := step_rf2g4StatusCallBack sta rsr rxBuf s
    cases hstep with
    | same h => exact ⟨h.state, h.probe, h.wake⟩
    | firstPacket _ _ h | offer _ _ h | answer _ _ h => exact ⟨h.state, h.probe, h.wake⟩
  | tmr0Irq =>
    unfold Rf.tmr0IRQHandler
    split
    · exact ⟨rfl, rfl, rfl⟩
    · dsimp only
      split <;> exact ⟨rfl, rfl, rfl⟩
  | tmr0Cycle | expire | advance | hardware => exact ⟨rfl, rfl, rfl⟩

/-- A session is about to start with a bond, and a silent one with no save pending. -/
def Rf.Starts (d : Prop) (silentProbe : Bool) (s : Rf) : Prop :=
  s.SaveOk d ∧ s.bond.hasBond = true ∧ (silentProbe = true → s.bondSavePending = false)

/-- What a session starts with survives a step. -/
theorem Rf.BondStep.starts {silentProbe : Bool} (h : s.BondStep t) (hs : s.Starts d silentProbe) : t.Starts d silentProbe :=
  ⟨h.saveOk hs.1, (h.bond hs.2.1).1, fun hp => h.idle (hs.2.2 hp)⟩

/-- A session starts, with the debt that its bond makes. -/
theorem saves_startSession (silentProbe : Bool) :
    Triple RfInterrupt (Rf.Starts d silentProbe) (startSession silentProbe) fun _ => Rf.SaveOk d := by
  have hst : Stable RfInterrupt (Rf.Starts d silentProbe) := fun _ _ hi hs => (bondStep_interrupt hi).starts hs
  have hkeep : ∀ {p : RfM Unit}, Each BondStmt p → Kept RfInterrupt (Rf.Starts d silentProbe) p :=
    fun h => Each.triple (h.mono fun _ hf s hs => (hf s).starts hs) hst
  -- the flag is set before the session owes anything
  have hflag : Stable RfInterrupt fun s : Rf => s.SaveOk d ∧ s.bond.hasBond = true ∧
      (silentProbe = false → s.bondSavePending = true ∨ s.tmos.waits .saveBond = true) := fun s t hi hs =>
    have hb := bondStep_interrupt hi
    ⟨hb.saveOk hs.1, (hb.bond hs.2.1).1, fun hp => hb.posted (hs.2.2 hp)⟩
  have hpend : Triple RfInterrupt (Rf.Starts d silentProbe) (.modify fun s => { s with bondSavePending := !silentProbe })
      fun _ (s : Rf) => s.SaveOk d ∧ s.bond.hasBond = true ∧
        (silentProbe = false → s.bondSavePending = true ∨ s.tmos.waits .saveBond = true) := by
    refine Triple.modify hst hflag fun s hs => ⟨⟨hs.1.known, fun ho => ?_, hs.1.due⟩, hs.2.1, fun hp => .inl (by simp [hp])⟩
    cases silentProbe with
    | false => exact .inl rfl
    | true => exact .inr ((hs.1.posted ho).resolve_left fun hp => nomatch (hs.2.2 rfl).symm.trans hp)
  have hconnect : Triple RfInterrupt (fun s : Rf => s.SaveOk d ∧ s.bond.hasBond = true ∧
      (silentProbe = false → s.bondSavePending = true ∨ s.tmos.waits .saveBond = true)) (setConnected silentProbe)
      fun _ => Rf.SaveOk d := by
    refine Triple.modify hflag stable_saveOk fun s hs => ?_
    cases silentProbe with
    | true => exact ⟨hs.1.known, hs.1.posted, hs.1.due⟩
    | false =>
      refine ⟨fun mac hm => ⟨hs.2.1, ?_⟩, fun _ => hs.2.2 rfl, hs.1.due⟩
      exact Option.some.inj hm
  unfold startSession
  iterate 14 refine Triple.bind (hkeep (by simp [Rf.noteUse])) fun _ => ?_
  exact hpend.bind fun _ => hconnect

/-- The event was taken: while the link is still pairing there is a bond. -/
def Rf.Enters (d : Prop) (s : Rf) : Prop :=
  s.SaveOk d ∧ (s.state = .pairing → s.bond.hasBond = true) ∧ RfEvt.enterConnected.GivesUpNothing s

/-- The bond is still there when the link is still pairing. -/
theorem stable_enters : Stable RfInterrupt (Rf.Enters d) := by
  intro s t hi hs
  have hb := bondStep_interrupt hi
  obtain ⟨hst, hp, hw⟩ := rest_interrupt hi
  refine ⟨hb.saveOk hs.1, fun ht => (hb.bond (hs.2.1 (hst ▸ ht))).1, fun ht hp' hw' => ?_⟩
  exact hb.idle (hs.2.2 (hst ▸ ht) (hp ▸ hp') (hw ▸ hw'))

/-- The handler that connects. -/
theorem saves_rfEnterConnected : Triple RfInterrupt (Rf.Enters d) rfEnterConnected fun _ => Rf.SaveOk d := by
  have hpairing : Stable RfInterrupt fun s : Rf => s.Enters d ∧ s.state = .pairing := fun s t hi hs =>
    ⟨stable_enters s t hi hs.1, (rest_interrupt hi).1.trans hs.2⟩
  have hstarts (silentProbe : Bool) : Stable RfInterrupt (Rf.Starts d silentProbe) := fun _ _ hi hs =>
    (bondStep_interrupt hi).starts hs
  have hstate : Triple RfInterrupt (Rf.Enters d) (.read fun s => s.state)
      fun state s => s.Enters d ∧ (state = .pairing → s.state = .pairing) := by
    refine Triple.read stable_enters (fun state s t hi hs => ?_) fun s hs => ⟨hs, id⟩
    exact ⟨stable_enters s t hi hs.1, fun hp => (rest_interrupt hi).1.trans (hs.2 hp)⟩
  have hsilent : Triple RfInterrupt (fun s : Rf => s.Enters d ∧ s.state = .pairing)
      (.read fun s => s.rest.probe && !s.rest.probeWake) fun silentProbe s => s.Starts d silentProbe := by
    refine Triple.read hpairing hstarts fun s hs => ⟨hs.1.1, hs.1.2.1 hs.2, fun hp => ?_⟩
    simp only [Bool.and_eq_true, Bool.not_eq_true'] at hp
    exact hs.1.2.2 hs.2 hp.1 hp.2
  refine hstate.bind fun state => Triple.ite (fun hp => ?_) fun _ => Triple.pure stable_saveOk fun s hs => hs.1.1
  refine Triple.conseq (hsilent.bind fun silentProbe => (saves_startSession silentProbe).bind fun _ => ?_)
    (fun s hs => ⟨hs.1, hs.2 hp⟩) fun _ _ hs => hs
  exact saves_of (by simp)

/-! ## Events -/

/-- Half of a pass of TMOS. What is left of a debt when `RF_EVT_SAVE_BOND` is taken is paid by the handler. -/
theorem saves_take : Triple RfInterrupt (Rf.SaveOk d) tmosTake fun next s =>
    s.OwesBond ∧ (next ≠ some .saveBond → s.SaveOk d) := by
  refine Triple.stmt stable_saveOk fun s hs => Triple.pure (fun u v hi hu => ?_) fun t ht => ?_
  · exact ⟨stable_owesBond u v hi hu.1, fun hn => stable_saveOk u v hi (hu.2 hn)⟩
  · subst ht
    refine ⟨hs.known, fun hn => ?_⟩
    have hwaits : (s.tmos.next.elim s.tmos s.tmos.take).waits .saveBond = s.tmos.waits .saveBond := by
      cases hnext : s.tmos.next with
      | none => rfl
      | some e =>
        have hne : RfEvt.saveBond ≠ e := fun he => hn (he ▸ hnext)
        simp [hne]
    exact ⟨hs.known, fun ho => hwaits ▸ hs.posted ho, fun hd => hwaits ▸ hs.due hd⟩

/-- The link lapses, with no save given up. -/
theorem saves_onDisconnect : Triple RfInterrupt (fun s => s.SaveOk d ∧ RfEvt.disconnect.GivesUpNothing s) onDisconnect
    fun _ => Rf.SaveOk d := by
  have hst : Stable RfInterrupt fun s : Rf => s.SaveOk d ∧ RfEvt.disconnect.GivesUpNothing s := fun s t hi hs =>
    ⟨stable_saveOk s t hi hs.1, fun ht => stable_saved s t hi (hs.2 ((rest_interrupt hi).1 ▸ ht))⟩
  have hstate : Triple RfInterrupt (fun s : Rf => s.SaveOk d ∧ RfEvt.disconnect.GivesUpNothing s) (.read fun s => s.state)
      fun state s => s.SaveOk d ∧ (state = .connected → s.bondSavePending = false) := by
    refine Triple.read hst (fun state s t hi hs => ?_) fun s hs => ⟨hs.1, fun hc => hs.2 hc⟩
    exact ⟨stable_saveOk s t hi hs.1, fun hc => stable_saved s t hi (hs.2 hc)⟩
  refine hstate.bind fun state => Triple.ite (fun hc => ?_) fun _ => Triple.pure stable_saveOk fun s hs => hs.1
  exact (idle_of (by simp +contextual)).conseq (fun s hs => ⟨hs.1, hs.2 hc⟩) fun _ _ hs => hs.1

/-- The handlers that neither connect, nor end a session, nor save. -/
theorem saves_rfProcessEvent {e : RfEvt} (he : e ≠ .enterConnected) (hd : e ≠ .disconnect) (hb : e ≠ .saveBond) :
    Kept RfInterrupt (Rf.SaveOk d) (rfProcessEvent e) := by
  cases e with
  | enterConnected => exact absurd rfl he
  | disconnect => exact absurd rfl hd
  | saveBond => exact absurd rfl hb
  | _ => exact saves_of (by simp [rfProcessEvent])

/-! ## The frames of the host -/

/-- A command that selects another transport gives up nothing, when no save is pending. -/
theorem saves_leave {sub : Byte} (h : sub = 0x11 ∨ sub = 0x31 ∨ sub = 0x32 ∨ sub = 0x33) :
    Triple RfInterrupt (Rf.SaveIdle d) (handleCommand sub) fun _ => Rf.SaveOk d := by
  have hleave {q : RfM Unit} (hq : Each IdleStmt q) : Kept RfInterrupt (Rf.SaveIdle d) (do
      setTransport false
      rfDisconnect
      q) :=
    Kept.bind (idle_of (by simp)) fun _ => idle_rfDisconnect.bind fun _ => idle_of hq
  have hkeep : Kept RfInterrupt (Rf.SaveIdle d) (handleCommand sub) := by
    unfold handleCommand
    refine Kept.ite (fun _ => hleave (by simp)) fun h11 => ?_
    have h3 := h.resolve_left h11
    rw [if_neg (by rcases h3 with rfl | rfl | rfl <;> decide), if_pos h3]
    exact hleave (by simp)
  exact hkeep.conseq (fun _ hs => hs) fun _ _ hs => hs.1

/-- The commands that do not take the link down. -/
theorem saves_handleCommand {sub : Byte} (h : ¬(sub = 0x11 ∨ sub = 0x31 ∨ sub = 0x32 ∨ sub = 0x33)) :
    Kept RfInterrupt (Rf.SaveOk d) (handleCommand sub) := by
  have hread : ∀ {α : Type} (g : Rf → α), Kept RfInterrupt (Rf.SaveOk d) (.read g) := Kept.read stable_saveOk
  have thenUnpair {q : RfM Unit} (hq : Kept RfInterrupt (Rf.SaveOk d) q) : Kept RfInterrupt (Rf.SaveOk d) (do
      rfDisconnect
      rfClearBond
      q) := by
    have hu : Kept RfInterrupt (Rf.SaveOk d) (unpair >>= fun _ => q) := saves_unpair.bind fun _ => hq
    rwa [unpair, bind_bind] at hu
  unfold handleCommand
  rw [if_neg fun he => h (.inl he)]
  refine Kept.ite (fun _ => ?_) fun _ => ?_
  · refine Kept.bind (saves_of (by simp)) fun _ => Kept.bind (p := rfSelect2G4) (saves_of (by simp)) fun hasBond => ?_
    exact saves_of (by simp)
  rw [if_neg fun he => h (.inr he)]
  refine Kept.ite (fun _ => ?_) fun _ => Kept.ite (fun _ => thenUnpair (saves_of (by simp))) fun _ => ?_
  · refine (hread _).bind fun is2g4 => Kept.ite (fun _ => (hread _).bind fun valid => ?_) fun _ => Kept.pure stable_saveOk ()
    refine Kept.ite (fun _ => saves_of (by simp)) fun _ => Kept.bind (p := rfEnterPairing) (saves_of (by simp)) fun entered => ?_
    exact saves_of (by simp)
  refine Kept.ite (fun _ => saves_of (by simp)) fun _ => Kept.ite (fun _ => ?_) fun _ => saves_of (by simp)
  refine Kept.bind (saves_of (by simp)) fun _ => (hread _).bind fun valid => Kept.ite (fun _ => saves_of (by simp)) fun _ => ?_
  exact thenUnpair (Kept.bind (p := rfEnterPairing) (saves_of (by simp)) fun entered => saves_of (by simp))

/-- Every frame of the host, if no save is pending when it takes the link down. -/
theorem saves_handleUartFrame (cmd sub : Byte) (payload : Report) :
    Triple RfInterrupt (fun s => s.SaveOk d ∧ (LeavesLink cmd sub → s.bondSavePending = false)) (handleUartFrame cmd sub payload)
      fun _ => Rf.SaveOk d := by
  refine Triple.ite (fun _ => (saves_of (by simp)).conseq (fun s hs => hs.1) fun _ _ hs => hs) fun _ => Triple.ite (fun hc => ?_)
    fun _ => Triple.pure stable_saveOk fun s hs => hs.1
  by_cases hl : sub = 0x11 ∨ sub = 0x31 ∨ sub = 0x32 ∨ sub = 0x33
  · exact (saves_leave hl).conseq (fun s hs => ⟨hs.1, hs.2 ⟨hc, hl⟩⟩) fun _ _ hs => hs
  · exact (saves_handleCommand hl).conseq (fun s hs => hs.1) fun _ _ hs => hs

end OpenController
