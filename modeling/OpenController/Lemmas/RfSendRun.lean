import OpenController.Lemmas.RfCalls
import OpenController.Lemmas.RfHearsAux
import OpenController.RfSend

/-!
# What was sent, across runs

`SendOk` holds throughout every call of the main loop when no poll retires the head that a response was chosen from. The report
chosen is then still the head when its transmission has started.
-/

namespace OpenController

open Prog RfStatements

variable {ok : Hearing} {s t : Rf}

/-! ## What it does not depend on -/

section SendOk

variable (hid : RfHid) (log : RfLog)

/-- Of the log, what entered and what the radio did do not matter. -/
theorem RfHid.sendOk_log (entered : List Report) (caughtOn : Nat) (answers : List Answer) (stretch : RfStretch) (owed : Option Mac)
    (savesDropped : Nat) :
    hid.SendOk { log with
      entered := entered, caughtOn := caughtOn, answers := answers, stretch := stretch, owed := owed, savesDropped := savesDropped } ↔
      hid.SendOk log :=
  ⟨fun h => ⟨h.head_lt, h.tail_lt, h.count_le, h.sent, h.retired⟩, fun h => ⟨h.head_lt, h.tail_lt, h.count_le, h.sent, h.retired⟩⟩

/-- Of the FIFO, the copy of the newest report and what is in flight do not matter. -/
theorem RfHid.sendOk_hid (lastQueued : Report) (lastQueuedValid txDownInflight : Bool) :
    RfHid.SendOk { hid with lastQueued := lastQueued, lastQueuedValid := lastQueuedValid, txDownInflight := txDownInflight } log ↔
      hid.SendOk log :=
  ⟨fun h => ⟨h.head_lt, h.tail_lt, h.count_le, h.sent, h.retired⟩, fun h => ⟨h.head_lt, h.tail_lt, h.count_le, h.sent, h.retired⟩⟩

/-- The mark of the head may be cleared. -/
theorem RfHid.sendOk_unmark : (hid.SendOk log → RfHid.SendOk { hid with headSent := false } log) ↔ True :=
  iff_true_intro fun h => ⟨h.head_lt, h.tail_lt, h.count_le, nofun, h.retired⟩

end SendOk

attribute [local simp] Rf.SendOk RfHid.sendOk_log RfHid.sendOk_hid RfHid.sendOk_unmark

/-! ## Interrupts -/

namespace Rf.SendOk

/-- What is not about the FIFO keeps it. -/
theorem bystander (h : s.SendOk) (hb : s.Bystander t) : t.SendOk := by
  obtain ⟨b, hhid⟩ := hb.hid
  rw [Rf.SendOk, hhid, hb.log]
  exact ⟨h.head_lt, h.tail_lt, h.count_le, h.sent, h.retired⟩

/-- A poll retires a head that was sent, or nothing. -/
theorem polled (h : s.SendOk) {buf : RxBuf} (hp : s.Polled buf t) : t.SendOk := by
  have hhead := h.head_lt
  have htail := h.tail_lt
  have hcount := h.count_le
  rcases hp.queue with ⟨⟨_, _, hsent, hne⟩, hhid, hlog⟩ | ⟨_, hhid | hhid, hlog⟩
  · rw [Rf.SendOk, hhid, hlog]
    refine ⟨?_, htail, ?_, nofun, fun x hx => ?_⟩
    · simp only [u8]
      omega
    · simp only [RfHid.count, sub8, u8] at *
      omega
    · rcases List.mem_append.mp hx with hx | hx
      · exact h.retired x hx
      · rw [List.mem_singleton.mp hx]
        exact (h.sent hsent).2
  · rw [Rf.SendOk, hhid, hlog]
    exact ⟨hhead, htail, hcount, h.sent, h.retired⟩
  · rw [Rf.SendOk, hhid, hlog]
    exact ⟨hhead, htail, hcount, nofun, h.retired⟩

/-- So does every interrupt. -/
theorem hears (h : s.SendOk) (hi : RfHears ok s t) : t.SendOk := by
  rcases hears_spec hi with hb | ⟨buf, _, _, hp⟩
  · exact h.bystander hb
  · exact h.polled hp

end Rf.SendOk

/-- It holds between two statements. -/
theorem stable_sendOk : Stable (RfHears ok) Rf.SendOk := fun _ _ hi h => h.hears hi

/-- A call that keeps what was sent in order. -/
abbrev Sends {α : Type} (ok : Hearing) (p : RfM α) : Prop := Kept (RfHears ok) Rf.SendOk p

/-- A call whose statements keep it does. -/
theorem sends_of {α : Type} {p : RfM α} (h : Each (Keeps Rf.SendOk) p) : Sends ok p := Each.triple h stable_sendOk

/-! ## Reports -/

/-- The FIFO has a free slot. -/
def Rf.Room (s : Rf) : Prop := s.SendOk ∧ s.hid.count < hidFifoSlots

/-- The FIFO was full, and at most its head has left since. -/
def Rf.Full (s : Rf) : Prop :=
  s.SendOk ∧ (s.hid.count = hidFifoSlots ∨ s.hid.count + 1 = hidFifoSlots ∧ s.hid.headSent = false)

/-- Interrupts leave the FIFO as it is, or take its head and the mark of it. -/
theorem queue_hears (hi : RfHears ok s t) : t.hid.tail = s.hid.tail ∧ (t.hid.headSent = true → s.hid.headSent = true) ∧
    (t.hid.head = s.hid.head ∨ s.hid.headSent = true ∧ s.hid.tail ≠ s.hid.head ∧ t.hid.headSent = false ∧
      t.hid.head = u8 (s.hid.head + 1)) := by
  rcases hears_spec hi with hb | ⟨buf, _, _, hp⟩
  · obtain ⟨b, hhid⟩ := hb.hid
    rw [hhid]
    exact ⟨rfl, id, .inl rfl⟩
  · rcases hp.queue with ⟨⟨_, _, hsent, hne⟩, hhid, _⟩ | ⟨_, hhid | hhid, _⟩ <;> rw [hhid]
    · exact ⟨rfl, nofun, .inr ⟨hsent, hne, rfl, rfl⟩⟩
    · exact ⟨rfl, id, .inl rfl⟩
    · exact ⟨rfl, nofun, .inl rfl⟩

/-- A slot that is free stays free. -/
theorem stable_room : Stable (RfHears ok) Rf.Room := by
  rintro s t hi ⟨h, hroom⟩
  refine ⟨h.hears hi, ?_⟩
  obtain ⟨htail, _, hhead | ⟨_, hne, _, hhead⟩⟩ := queue_hears hi
  · rw [RfHid.count, htail, hhead]
    exact hroom
  · have := h.head_lt
    have := h.tail_lt
    rw [RfHid.count, htail, hhead]
    simp only [RfHid.count, sub8, u8] at hroom ⊢
    omega

/-- A full FIFO loses its head at most. -/
theorem stable_full : Stable (RfHears ok) Rf.Full := by
  rintro s t hi ⟨h, hfull⟩
  refine ⟨h.hears hi, ?_⟩
  obtain ⟨htail, hmark, hhead | ⟨hsent, hne, hclear, hhead⟩⟩ := queue_hears hi
  · rw [RfHid.count, htail, hhead]
    refine hfull.imp id fun hf => ⟨hf.1, Bool.eq_false_iff.mpr fun ht => ?_⟩
    exact nomatch hf.2.symm.trans (hmark ht)
  · have := h.head_lt
    have := h.tail_lt
    rcases hfull with hf | ⟨_, hf⟩
    · refine .inr ⟨?_, hclear⟩
      rw [RfHid.count, htail, hhead]
      simp only [RfHid.count, sub8, u8, hidFifoSlots] at hf ⊢
      omega
    · exact nomatch hf.symm.trans hsent

/-- A slot other than the head's is written. -/
theorem Rf.SendOk.writeSlot (h : s.SendOk) (i : Nat) (r : Report)
    (hi : s.hid.headSent = true → i % hidFifoSlots ≠ s.hid.head % hidFifoSlots) :
    RfHid.SendOk (s.hid.writeSlot i r) s.log := by
  refine ⟨h.head_lt, h.tail_lt, h.count_le, fun hs => ?_, h.retired⟩
  have hhead : (s.hid.writeSlot i r).headReport = s.hid.headReport := Function.update_of_ne (Ne.symm (hi hs)) _ _
  rw [hhead]
  exact h.sent hs

/-- The report is written to a slot that is not the head's. -/
theorem sends_queueReport (report : Report) : Sends ok (queueReport report) := by
  refine Triple.bind (sends_of (by simp)) fun changed => Triple.ite (fun _ => ?_) fun _ => sends_of (by simp)
  have hroom : Triple (RfHears ok) Rf.SendOk (.read fun s => decide (s.hid.count < hidFifoSlots))
      fun room s => if room then s.Room else s.Full := by
    refine Triple.read stable_sendOk (fun room => ?_) fun s h => ?_
    · cases room
      · exact stable_full
      · exact stable_room
    · by_cases hc : s.hid.count < hidFifoSlots
      · rw [decide_eq_true hc, if_pos rfl]
        exact ⟨h, hc⟩
      · have := h.count_le
        rw [decide_eq_false hc, if_neg Bool.false_ne_true]
        exact ⟨h, .inl (by omega)⟩
  refine hroom.bind fun room => ?_
  cases room with
  | true =>
    have hslot : Triple (RfHears ok) Rf.Room (.modify fun s => { s with hid := s.hid.writeSlot s.hid.tail report })
        fun _ => Rf.Room := by
      refine Triple.modify stable_room stable_room fun s h => ⟨h.1.writeSlot _ _ fun hs => ?_, h.2⟩
      have hne := (h.1.sent hs).1
      have hc := h.2
      have := h.1.head_lt
      have := h.1.tail_lt
      simp only [RfHid.count, sub8, hidFifoSlots] at hc ⊢
      omega
    have hpublish : Triple (RfHears ok) Rf.Room (.modify fun s => { s with
        hid := { s.hid with tail := u8 (s.hid.tail + 1) }
        log := { s.log with entered := s.log.entered ++ [report] } }) fun _ => Rf.SendOk := by
      refine Triple.modify stable_room stable_sendOk fun s h => ?_
      have hc := h.2
      have hh := h.1.head_lt
      have ht := h.1.tail_lt
      refine ⟨hh, ?_, ?_, fun hs => ⟨?_, (h.1.sent hs).2⟩, h.1.retired⟩
      all_goals simp only [RfHid.count, sub8, u8, hidFifoSlots] at hc ⊢
      all_goals omega
    exact hslot.bind fun _ => hpublish.bind fun _ => sends_of (by simp)
  | false =>
    have hslot : Triple (RfHears ok) Rf.Full (.modify fun s => { s with
        hid := s.hid.writeSlot (sub8 s.hid.tail 1) report
        log := { s.log with entered := s.log.entered.dropLast ++ [report] } }) fun _ => Rf.SendOk := by
      refine Triple.modify stable_full stable_sendOk fun s h => ?_
      have hw := h.1.writeSlot (sub8 s.hid.tail 1) report fun hs => ?_
      · exact ⟨hw.head_lt, hw.tail_lt, hw.count_le, hw.sent, hw.retired⟩
      · have hf := h.2
        have := h.1.head_lt
        have := h.1.tail_lt
        simp only [RfHid.count, sub8, hidFifoSlots] at hf ⊢
        omega
    exact hslot.bind fun _ => sends_of (by simp)

/-! ## Responses -/

/-- More has been sent. -/
theorem RfHid.SendOk.mono {hid : RfHid} {log log' : RfLog} (h : hid.SendOk log) (sessions : log'.sessions = log.sessions)
    (passed : log'.passed = log.passed) (retired : log'.retired = log.retired) (started : ∀ x ∈ log.started, x ∈ log'.started) :
    hid.SendOk log' where
  head_lt := h.head_lt
  tail_lt := h.tail_lt
  count_le := h.count_le
  sent hs := by
    rw [sessions, passed]
    exact ⟨(h.sent hs).1, started _ (h.sent hs).2⟩
  retired x hx := started x (h.retired x (retired ▸ hx))

/-- The report chosen for a response is the head of the FIFO. -/
def Rf.Chosen (head : Option Report) (s : Rf) : Prop :=
  s.SendOk ∧ ∀ r ∈ head, s.hid.tail ≠ s.hid.head ∧ s.hid.headReport = r

/-- It was sent, if the transmission started. -/
def Rf.Sent (status : Nat) (head : Option Report) (s : Rf) : Prop :=
  s.Chosen head ∧ (status = 0 → ∀ r ∈ head, ⟨s.log.sessions, s.log.passed, r⟩ ∈ s.log.started)

/-- From the choice of a report on, until a transmission has started, no poll retires the head. -/
theorem Rf.Chosen.hears {head : Option Report} (h : s.Chosen head)
    (hq : s.log.stretch = .selected ∨ s.radio.receiving = false) (hi : RfHears .keepsSelected s t) :
    t.Chosen head ∧ t.log.stretch = s.log.stretch ∧ t.radio.receiving = s.radio.receiving ∧ t.log.sessions = s.log.sessions ∧
      t.log.passed = s.log.passed ∧ t.log.started = s.log.started := by
  have hsend := h.1.hears hi
  rcases hears_spec hi with hb | ⟨buf, hr, hk, hp⟩
  · obtain ⟨b, hhid⟩ := hb.hid
    obtain ⟨aa, hradio⟩ := hb.radio
    rw [hb.log, hradio]
    refine ⟨⟨hsend, ?_⟩, rfl, rfl, rfl, rfl, rfl⟩
    rw [hhid]
    exact h.2
  · have hsel : s.log.stretch = .selected := hq.resolve_right fun hr' => nomatch hr.symm.trans hr'
    rcases hp.queue with ⟨hret, _, _⟩ | ⟨_, hhid, hlog⟩
    · exact absurd hret (hk hsel)
    · rw [hlog, hp.radio]
      refine ⟨⟨hsend, ?_⟩, rfl, rfl, rfl, rfl, rfl⟩
      rcases hhid with hhid | hhid <;> rw [hhid] <;> exact h.2

/-- The report chosen stays the head until `RF_Shut`. -/
theorem stable_chosen_selected (head : Option Report) :
    Stable (RfHears .keepsSelected) fun s => s.Chosen head ∧ s.log.stretch = .selected := by
  rintro s t hi ⟨h, hsel⟩
  obtain ⟨ht, hst, _⟩ := h.hears (.inl hsel) hi
  exact ⟨ht, hst.trans hsel⟩

/-- And while the radio is off. -/
theorem stable_chosen_shut (head : Option Report) :
    Stable (RfHears .keepsSelected) fun s => s.Chosen head ∧ s.radio.receiving = false := by
  rintro s t hi ⟨h, hr⟩
  obtain ⟨ht, _, hrt, _⟩ := h.hears (.inr hr) hi
  exact ⟨ht, hrt.trans hr⟩

/-- So it does after the transmission has started. -/
theorem stable_sent (status : Nat) (head : Option Report) :
    Stable (RfHears .keepsSelected) fun s => s.Sent status head ∧ s.radio.receiving = false := by
  rintro s t hi ⟨⟨h, hsent⟩, hr⟩
  obtain ⟨ht, _, hrt, hn, hp, hs⟩ := h.hears (.inr hr) hi
  refine ⟨⟨ht, ?_⟩, hrt.trans hr⟩
  rw [hn, hp, hs]
  exact hsent

/-- What is chosen is the head. -/
theorem Rf.SendOk.chosen (h : s.SendOk) : s.Chosen s.selectHead := by
  refine ⟨h, fun r hr => ?_⟩
  rw [Rf.selectHead, RfHid.count] at hr
  have := h.head_lt
  have := h.tail_lt
  split at hr
  · rename_i hc
    refine ⟨fun he => hc ?_, Option.some.inj hr⟩
    simp only [sub8]
    omega
  · cases hr

/-- The head is marked as sent once the report chosen has gone out. -/
theorem sends_markSent (head : Option Report) (hs : head.isSome) :
    Triple (RfHears .keepsSelected) (fun s => s.Sent 0 head ∧ s.radio.receiving = false)
      (.modify fun s => { s with hid := { s.hid with headSent := true } }) fun _ => Rf.SendOk := by
  refine Triple.modify (stable_sent 0 head) stable_sendOk ?_
  rintro s ⟨⟨⟨h, hc⟩, hsent⟩, _⟩
  obtain ⟨r, hr⟩ := Option.isSome_iff_exists.mp hs
  obtain ⟨hne, hhead⟩ := hc r hr
  exact ⟨h.head_lt, h.tail_lt, h.count_le, fun _ => ⟨hne, hhead ▸ hsent rfl r hr⟩, h.retired⟩

/-- The head is chosen with interrupts masked. -/
theorem sends_select : Triple (RfHears .keepsSelected) Rf.SendOk rfSelectHead
    fun head s => s.Chosen head ∧ s.log.stretch = .selected := by
  refine Triple.stmt stable_sendOk fun s h => Triple.pure (stable_chosen_selected _) ?_
  rintro _ rfl
  obtain ⟨hs, hc⟩ := h.chosen
  exact ⟨⟨hs.mono rfl rfl rfl fun _ hx => hx, hc⟩, rfl⟩

/-- `RF_Shut`, before the response. -/
theorem sends_shut (head : Option Report) : Triple (RfHears .keepsSelected) (fun s => s.Chosen head ∧ s.log.stretch = .selected)
    rfShut fun _ s => s.Chosen head ∧ s.radio.receiving = false := by
  refine Triple.modify (stable_chosen_selected head) (stable_chosen_shut head) ?_
  rintro s ⟨⟨hs, hc⟩, _⟩
  exact ⟨⟨hs.mono rfl rfl rfl fun _ hx => hx, hc⟩, rfl⟩

/-- The transmission starts, with the head still chosen. -/
theorem sends_tx (ctrl : Byte) (head : Option Report) :
    Triple (RfHears .keepsSelected) (fun s => s.Chosen head ∧ s.radio.receiving = false) (rfTxResponse ctrl head)
      fun status s => s.Sent status head ∧ s.radio.receiving = false := by
  refine Triple.stmt (stable_chosen_shut head) fun s h => Triple.pure (stable_sent _ head) ?_
  rintro _ rfl
  obtain ⟨⟨hs, hc⟩, _⟩ := h
  refine ⟨⟨⟨hs.mono rfl rfl rfl fun x hx => ?_, hc⟩, fun h0 r hr => ?_⟩, rfl⟩
  · dsimp only
    split
    · exact List.mem_append_left _ hx
    · exact hx
  · dsimp only
    rw [if_pos h0, Option.mem_def.mp hr]
    exact List.mem_append_right _ (List.mem_singleton_self _)

/-- A response marks the head that it sends. -/
theorem sends_rfDoResponseTx : Sends .keepsSelected rfDoResponseTx := by
  refine Triple.bind (sends_of (by simp)) fun pending => Triple.ite (fun _ => ?_) fun _ => sends_of (by simp)
  refine Triple.bind (sends_of (by simp)) fun _ => Triple.bind (sends_of (by simp)) fun ctrl => ?_
  refine sends_select.bind fun head => (sends_shut head).bind fun _ => (sends_tx ctrl head).bind fun status => ?_
  have hmark : Triple (RfHears .keepsSelected) (fun s => s.Sent status head ∧ s.radio.receiving = false)
      (whenever (status = 0 ∧ head.isSome) do
        .modify fun s => { s with hid := { s.hid with headSent := true } }
        whenever (head.any Report.down) (.modify fun s => { s with hid := { s.hid with txDownInflight := true } }))
      fun _ => Rf.SendOk := by
    refine Triple.ite ?_ fun _ => Triple.pure stable_sendOk fun s h => h.1.1.1
    rintro ⟨rfl, hs⟩
    exact (sends_markSent head hs).bind fun _ => sends_of (by simp)
  exact hmark.bind fun _ => sends_of (by simp)

/-! ## The queue discarded -/

/-- The queue was emptied, and the mark of its head is still to be cleared. -/
def Rf.Emptied (s : Rf) : Prop := s.hid.tail = s.hid.head ∧ RfHid.SendOk { s.hid with headSent := false } s.log

/-- Nothing of an empty queue is retired. -/
theorem stable_emptied : Stable (RfHears ok) Rf.Emptied := by
  rintro s t hi ⟨he, h⟩
  rcases hears_spec hi with hb | ⟨buf, _, _, hp⟩
  · obtain ⟨b, hhid⟩ := hb.hid
    rw [Rf.Emptied, hhid, hb.log]
    exact ⟨he, h.head_lt, h.tail_lt, h.count_le, nofun, h.retired⟩
  · rcases hp.queue with ⟨⟨_, _, _, hne⟩, _⟩ | ⟨_, hhid, hlog⟩
    · exact absurd he hne
    · rw [Rf.Emptied, hlog]
      rcases hhid with hhid | hhid <;> rw [hhid] <;> exact ⟨he, h.head_lt, h.tail_lt, h.count_le, nofun, h.retired⟩

/-- The queue is discarded. -/
theorem sends_rfDiscardHidQueue : Sends ok rfDiscardHidQueue := by
  have hempty : Triple (RfHears ok) Rf.SendOk (.modify fun s => { s with
      hid := { s.hid with head := s.hid.tail }
      log := { s.log with passed := s.log.passed + s.hid.count } }) fun _ => Rf.Emptied := by
    refine Triple.modify stable_sendOk stable_emptied fun s h => ?_
    have htail := h.tail_lt
    refine ⟨rfl, htail, htail, ?_, nofun, h.retired⟩
    simp only [RfHid.count, sub8]
    omega
  exact hempty.bind fun _ => Triple.modify stable_emptied stable_sendOk fun s h => h.2

/-- So it is when the timer asks for it. -/
theorem sends_onDiscardHid : Sends ok onDiscardHid :=
  (Kept.read stable_sendOk _).bind fun _ => Kept.ite (fun _ => sends_rfDiscardHidQueue) fun _ => Kept.pure stable_sendOk ()

/-! ## A new session -/

/-- The head is not marked. -/
def Rf.Unmarked (s : Rf) : Prop := s.SendOk ∧ s.hid.headSent = false

/-- No interrupt marks the head. -/
theorem stable_unmarked : Stable (RfHears ok) Rf.Unmarked := by
  rintro s t hi ⟨h, hm⟩
  refine ⟨h.hears hi, Bool.eq_false_iff.mpr fun ht => ?_⟩
  exact nomatch hm.symm.trans ((queue_hears hi).2.1 ht)

/-- A session starts with its head unmarked. -/
theorem sends_startSession (silentProbe : Bool) : Sends ok (startSession silentProbe) := by
  have hunmark : Triple (RfHears ok) Rf.SendOk (.modify fun s => { s with hid := { s.hid with headSent := false } })
      fun _ => Rf.Unmarked :=
    Triple.modify stable_sendOk stable_unmarked fun s h => ⟨⟨h.head_lt, h.tail_lt, h.count_le, nofun, h.retired⟩, rfl⟩
  have hkeep : ∀ {f : Rf → Rf}, (∀ s, (f s).hid = s.hid) → (∀ s, (f s).log = s.log) →
      Kept (RfHears ok) Rf.Unmarked (.modify f) := by
    intro f hhid hlog
    refine Kept.modify stable_unmarked fun s h => ?_
    rw [Rf.Unmarked, Rf.SendOk, hhid, hlog]
    exact h
  have hconnect : Triple (RfHears ok) Rf.Unmarked (setConnected silentProbe) fun _ => Rf.SendOk := by
    refine Triple.modify stable_unmarked stable_sendOk fun s h => ?_
    exact ⟨h.1.head_lt, h.1.tail_lt, h.1.count_le, fun hs => (nomatch h.2.symm.trans hs), h.1.retired⟩
  unfold startSession
  iterate 9 refine Kept.bind (sends_of (by simp)) fun _ => ?_
  refine hunmark.bind fun _ => ?_
  iterate 5 refine Triple.bind (hkeep (fun _ => rfl) fun _ => rfl) fun _ => ?_
  exact hconnect

/-- The handler that connects. -/
theorem sends_rfEnterConnected : Sends ok rfEnterConnected := by
  refine (Kept.read stable_sendOk _).bind fun state => Kept.ite (fun _ => ?_) fun _ => Kept.pure stable_sendOk ()
  exact (Kept.read stable_sendOk _).bind fun _ => (sends_startSession _).bind fun _ => sends_of (by simp)

/-- Every handler keeps what was sent in order. -/
theorem sends_rfProcessEvent (e : RfEvt) : Sends .keepsSelected (rfProcessEvent e) := by
  cases e with
  | enterConnected => exact sends_rfEnterConnected
  | respond =>
    refine (Kept.read stable_sendOk _).bind fun state => Kept.ite (fun _ => sends_rfDoResponseTx) fun _ => ?_
    exact Kept.pure stable_sendOk ()
  | discardHid => exact sends_onDiscardHid
  | _ => exact sends_of (by simp [rfProcessEvent])

/-! ## Every run -/

/-- So does every part of a call. -/
theorem partsKeep_sendOk : PartsKeep (RfHears .keepsSelected) Rf.SendOk where
  stable := stable_sendOk
  out o := by simp
  transport is2g4 := sends_of (by simp)
  ledResync := sends_of (by simp)
  drop := sends_of (by simp)
  select := sends_of (by simp)
  pair := sends_of (by simp)
  disconnect := sends_of (by simp)
  unpair := by
    iterate 6 refine Kept.bind (sends_of (by simp)) fun _ => ?_
    exact sends_onDiscardHid
  flush := sends_of (by simp)
  report r := (sends_queueReport r).bind fun _ => sends_of (by simp)
  process := kept_tmosProcess stable_sendOk (by simp) sends_rfProcessEvent
  tick := sends_of (by simp)

/-- At the boot nothing was sent. -/
theorem sendOk_boot (h : RfBooted s) : s.SendOk := by
  obtain ⟨mac, macValid, flash, hw, rfl⟩ := h
  exact ⟨Nat.succ_pos 255, Nat.succ_pos 255, (by decide : sub8 0 0 ≤ hidFifoSlots), nofun, nofun⟩

/-- It holds in every state that is reached. -/
theorem sendOk_heard (h : RfHeard .keepsSelected s) : s.SendOk := partsKeep_sendOk.reach (fun _ => sendOk_boot) h

end OpenController
