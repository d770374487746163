import OpenController.HidDiscard
import OpenController.Lemmas.HidQueueRun
import OpenController.Lemmas.RfBondRun
import OpenController.Lemmas.RfCalls

/-!
# Leaving 2.4 GHz, across calls

The FIFO is linked to the entries in every state. What is queued when the host leaves stays in the FIFO or leaves it while the link
is quiet, and only `rf_discard_hid_queue` lets it leave then. What a response is chosen from afterwards entered later.
-/

namespace OpenController

open Prog RfStatements

variable {n : Nat} {sent : List HidFrame} {s t : Rf}

/-- An interrupt is one for the queue. -/
theorem queueInterrupt_of (s t : Rf) (h : RfInterrupt s t) : QueueInterrupt s t := .interrupt h

/-! ## Interrupts -/

namespace Rf

/-- What an interrupt does to the FIFO and its entries: an acknowledgement takes the head at most. -/
structure FifoStep (s t : Rf) : Prop where
  fifo : t.hid.fifo = s.hid.fifo
  tail : t.hid.tail = s.hid.tail
  entered : t.log.entered = s.log.entered
  started : t.log.started = s.log.started
  head : t.hid.head = s.hid.head ∧ t.log.passed = s.log.passed ∨
    s.hid.tail ≠ s.hid.head ∧ t.hid.head = u8 (s.hid.head + 1) ∧ t.log.passed = s.log.passed + 1

/-- Every interrupt is such a step. -/
theorem fifoStep_interrupt (h : RfInterrupt s t) : s.FifoStep t := by
  rcases interrupt_spec h with hb | ⟨buf, hp⟩
  · obtain ⟨b, hhid⟩ := hb.hid
    constructor
    all_goals simp [hhid, hb.log]
  · rcases hp.queue with ⟨hr, hhid, hlog⟩ | ⟨_, hhid | hhid, hlog⟩
    · constructor
      all_goals simp [hhid, hlog, noteRetired, hr.2.2.2]
    all_goals
      constructor
      all_goals simp [hhid, hlog]

end Rf

/-- More has left the FIFO. -/
theorem RfLog.HeadAfter.mono {log log' : RfLog} {r : Report} (h : log.HeadAfter n r) (entered : log'.entered = log.entered)
    (passed : log.passed ≤ log'.passed) : log'.HeadAfter n r := by
  obtain ⟨k, hn, hk, hr⟩ := h
  exact ⟨k, hn, hk.trans passed, entered.symm ▸ hr⟩

namespace Rf

/-- The FIFO is in order and linked to the entries, and only reports of later entries were sent. -/
structure Tracks (n : Nat) (sent : List HidFrame) (s : Rf) : Prop extends s.SentAfter n sent where
  inOrder : s.Queued s.entries

/-- What entered has left the FIFO or is in it. -/
theorem Linked.length (h : s.Linked) : s.log.entered.length = s.log.passed + s.hid.count := by
  have hlen := congrArg List.length h.queue
  have hle := h.passed_le
  rw [List.length_drop, RfHid.queue, Ring.length_view] at hlen
  omega

namespace Tracks

/-- The same entries, of which more have left the FIFO, and the same frames. -/
theorem of_linked (h : s.Tracks n sent) (hl : t.Linked) (hq : t.Queued t.entries) (entered : t.log.entered = s.log.entered)
    (started : t.log.started = s.log.started) (passed : s.log.passed ≤ t.log.passed) : t.Tracks n sent := by
  refine ⟨⟨hl, entered.symm ▸ h.entered, ?_⟩, hq⟩
  obtain ⟨fs, hfs, hafter⟩ := h.started
  exact ⟨fs, started.trans hfs, fun f hf => (hafter f hf).imp_right (·.mono entered passed)⟩

theorem keep (h : s.Tracks n sent) (hk : s.FifoKeep t) : t.Tracks n sent := by
  have hqueue : t.hid.queue = s.hid.queue := by
    rw [RfHid.queue, RfHid.queue, RfHid.count, RfHid.count, hk.fifo, hk.head, hk.tail]
  have hentries : t.entries = s.entries := by rw [Rf.entries, Rf.entries, hk.retired, hqueue]
  refine h.of_linked ⟨?_, ?_⟩ ?_ hk.entered hk.started hk.passed.ge
  · rw [hk.passed, hk.entered]
    exact h.passed_le
  · rw [hk.passed, hk.entered, hqueue]
    exact h.queue
  · rw [hentries]
    exact h.inOrder.congr hk.fifo hk.head hk.tail hk.retired

theorem interrupt (h : s.Tracks n sent) (hi : RfInterrupt s t) : t.Tracks n sent := by
  have hacked := h.inOrder.acked (acked_interrupt (.interrupt hi))
  have hq : t.Queued t.entries := hacked.entries.symm ▸ hacked
  obtain ⟨hfifo, htail, hentered, hstarted, ⟨hhead, hpassed⟩ | ⟨hne, hhead, hpassed⟩⟩ := fifoStep_interrupt hi
  · have hqueue : t.hid.queue = s.hid.queue := by
      rw [RfHid.queue, RfHid.queue, RfHid.count, RfHid.count, hfifo, hhead, htail]
    refine h.of_linked ⟨?_, ?_⟩ hq hentered hstarted hpassed.ge
    · rw [hpassed, hentered]
      exact h.passed_le
    · rw [hpassed, hentered, hqueue]
      exact h.queue
  · obtain ⟨hqueue, hcount⟩ := queue_retire t.hid h.inOrder.head_lt h.inOrder.tail_lt hne hfifo htail hhead
    have hlen := h.length
    refine h.of_linked ⟨?_, ?_⟩ hq hentered hstarted (by omega)
    · rw [hpassed, hentered]
      omega
    · rw [hpassed, hentered, ← List.drop_drop, h.queue, hqueue]
      rfl

end Tracks
end Rf

/-- The entries stay linked between two statements. -/
theorem stable_tracks (n : Nat) (sent : List HidFrame) : Stable RfInterrupt (Rf.Tracks n sent) := fun _ _ hi h => h.interrupt hi

/-! ## Phases -/

namespace Rf

/-- The first `n` entries have left the FIFO. -/
def Gone (n : Nat) (sent : List HidFrame) (s : Rf) : Prop := s.Tracks n sent ∧ n ≤ s.log.passed

/-- Some may still be in it, and the link is quiet. -/
def Paused (n : Nat) (sent : List HidFrame) (s : Rf) : Prop := s.Tracks n sent ∧ s.Quiet

/-- Since the host left. -/
def Left (n : Nat) (sent : List HidFrame) (s : Rf) : Prop := s.Gone n sent ∨ s.Tracks n sent ∧ s.Away

/-- Nor is the link brought up, or what the host chose changed. -/
@[mk_iff]
structure AwayKeep (s t : Rf) : Prop extends s.FifoKeep t where
  state : s.state = .idle → t.state = .idle
  probe : s.rest.probe = false → t.rest.probe = false
  transport : s.transportIs2g4 = false → t.transportIs2g4 = false
  mac : t.keyboardMacValid = s.keyboardMacValid

theorem Gone.keep (h : s.Gone n sent) (hk : s.FifoKeep t) : t.Gone n sent := ⟨h.1.keep hk, hk.passed.symm ▸ h.2⟩

/-- The link stays quiet. -/
theorem AwayKeep.quiet (hk : s.AwayKeep t) (h : s.Quiet) : t.Quiet := ⟨hk.state h.1, hk.probe h.2⟩

/-- And the host away. -/
theorem AwayKeep.away (hk : s.AwayKeep t) (h : s.Away) : t.Away :=
  ⟨hk.quiet h.1, h.2.imp hk.transport fun hm => hk.mac.trans hm⟩

end Rf

/-- Entries that have left do not come back. -/
theorem passed_interrupt (h : RfInterrupt s t) : s.log.passed ≤ t.log.passed := by
  rcases (Rf.fifoStep_interrupt h).head with ⟨_, hp⟩ | ⟨_, _, hp⟩ <;> omega

/-- They have left after an interrupt, too. -/
theorem stable_gone (n : Nat) (sent : List HidFrame) : Stable RfInterrupt (Rf.Gone n sent) := fun _ _ hi h =>
  ⟨h.1.interrupt hi, h.2.trans (passed_interrupt hi)⟩

/-- No interrupt brings a quiet link up. -/
theorem quiet_interrupt (h : RfInterrupt s t) (hs : s.Quiet) : t.Quiet := by
  obtain ⟨hstate, hprobe, _⟩ := rest_interrupt h
  exact ⟨hstate.trans hs.1, hprobe.trans hs.2⟩

/-- So what is queued stays where it is. -/
theorem stable_paused (n : Nat) (sent : List HidFrame) : Stable RfInterrupt (Rf.Paused n sent) := fun _ _ hi h =>
  ⟨h.1.interrupt hi, quiet_interrupt hi h.2⟩

/-- No interrupt is the host. -/
theorem away_interrupt (h : RfInterrupt s t) (hs : s.Away) : t.Away := by
  obtain ⟨htransport, hmac⟩ := host_interrupt h
  exact ⟨quiet_interrupt h hs.1, hs.2.imp htransport.trans hmac.trans⟩

/-- It stays away between two statements. -/
theorem stable_away (n : Nat) (sent : List HidFrame) : Stable RfInterrupt fun s => s.Tracks n sent ∧ s.Away := fun _ _ hi h =>
  ⟨h.1.interrupt hi, away_interrupt hi h.2⟩

/-- It has left between two statements, too. -/
theorem stable_left (n : Nat) (sent : List HidFrame) : Stable RfInterrupt (Rf.Left n sent) := fun s t hi h =>
  h.imp (stable_gone n sent s t hi) (stable_away n sent s t hi)

/-! ## Calls that leave the FIFO alone -/

/-- One state after another, with the FIFO as it was, the copy of the newest report unless it is invalid now, and the address. -/
@[mk_iff]
structure Rf.QueueKeep (s t : Rf) : Prop where
  fifo : s.FifoKeep t
  last : t.hid.lastQueued = s.hid.lastQueued
  lastValid : t.hid.lastQueuedValid = true → s.hid.lastQueuedValid = true
  mac : t.keyboardMacValid = s.keyboardMacValid

/-- A statement that leaves them alone. -/
def FifoStmt (f : Rf → Rf) : Prop := ∀ s : Rf, s.QueueKeep (f s)

section Fifo

attribute [local simp] FifoStmt Rf.queueKeep_iff Rf.fifoKeep_iff

/-- The parts of what the host asks for, but that the bond is forgotten. -/
theorem fifo_transport (is2g4 : Bool) : Each FifoStmt (setTransport is2g4) := by simp

theorem fifo_drop : Each FifoStmt rfDropQueueUnlessReselected := by simp

theorem fifo_select : Each FifoStmt rfSelect2G4 := by simp

theorem fifo_pair : Each FifoStmt rfEnterPairing := by simp

theorem fifo_disconnect : Each FifoStmt rfDisconnect := by simp

/-- The calls between two passes of TMOS. -/
theorem fifo_tick : Each FifoStmt rfConnectedTick := by simp

theorem fifo_ledResync : Each FifoStmt rfLedResync := by simp

theorem fifo_flush : Each FifoStmt rfFlushBondSave := by simp

/-- A report wakes a rest. -/
theorem fifo_wakeRest : Each FifoStmt wakeRest := by simp

/-- The handlers but those that send a response or discard the queue. -/
theorem fifo_rfProcessEvent {e : RfEvt} (hr : e ≠ .respond) (hd : e ≠ .discardHid) : Each FifoStmt (rfProcessEvent e) := by
  cases e with
  | respond => exact absurd rfl hr
  | discardHid => exact absurd rfl hd
  | _ => simp [rfProcessEvent]

end Fifo

section Each

attribute [local simp] Rf.fifoKeep_iff Rf.awayKeep_iff

variable {α : Type} {p : RfM α}

/-- A call that leaves the FIFO alone brings nothing back. -/
theorem gone_of (h : Each (fun f => ∀ s : Rf, s.FifoKeep (f s)) p) : Kept RfInterrupt (Rf.Gone n sent) p :=
  Each.triple (h.mono fun _ hf s hs => hs.keep (hf s)) (stable_gone n sent)

/-- So does one that leaves the copy of the newest report alone, too. -/
theorem gone_fifo (h : Each FifoStmt p) : Kept RfInterrupt (Rf.Gone n sent) p := gone_of (h.mono fun _ hf s => (hf s).fifo)

/-- A call that leaves a quiet link quiet. -/
theorem paused_of (h : Each (fun f => ∀ s : Rf, s.AwayKeep (f s)) p) : Kept RfInterrupt (Rf.Paused n sent) p :=
  Each.triple (h.mono fun _ hf s hs => ⟨hs.1.keep (hf s).1, (hf s).quiet hs.2⟩) (stable_paused n sent)

/-- A call while the host is away. -/
theorem away_of (h : Each (fun f => ∀ s : Rf, s.AwayKeep (f s)) p) : Kept RfInterrupt (fun s => s.Tracks n sent ∧ s.Away) p :=
  Each.triple (h.mono fun _ hf s hs => ⟨hs.1.keep (hf s).1, (hf s).away hs.2⟩) (stable_away n sent)

/-- A call that does so also leaves a quiet link quiet. -/
theorem left_of (h : Each (fun f => ∀ s : Rf, s.AwayKeep (f s)) p) : Kept RfInterrupt (Rf.Left n sent) p :=
  Each.triple (h.mono fun _ hf s hs => hs.imp (·.keep (hf s).1) fun hs => ⟨hs.1.keep (hf s).1, (hf s).away hs.2⟩) (stable_left n sent)

/-- What a call does in either phase. -/
theorem left_cases {post : α → Rf → Prop} (hg : Triple RfInterrupt (Rf.Gone n sent) p post)
    (ha : Triple RfInterrupt (fun s => s.Tracks n sent ∧ s.Away) p post) : Triple RfInterrupt (Rf.Left n sent) p post :=
  fun s a t hs hr => hs.elim (fun hs => hg s a t hs hr) fun hs => ha s a t hs hr

/-! ## The queue discarded -/

/-- Every entry has left the FIFO. -/
theorem gone_rfDiscardHidQueue : Triple RfInterrupt (Rf.Tracks n sent) rfDiscardHidQueue fun _ => Rf.Gone n sent := by
  have hempty : Triple RfInterrupt (Rf.Tracks n sent) (.modify fun s => { s with
      hid := { s.hid with head := s.hid.tail }
      log := { s.log with passed := s.log.passed + s.hid.count } }) fun _ => Rf.Gone n sent := by
    refine Triple.modify (stable_tracks n sent) (stable_gone n sent) fun s h => ?_
    have hlen := h.length
    have htail := h.inOrder.tail_lt
    have hcount : ({ s.hid with head := s.hid.tail } : RfHid).count = 0 := by
      simp only [RfHid.count, sub8]
      omega
    refine ⟨h.of_linked ⟨hlen.ge, ?_⟩ ⟨htail, htail, hcount.trans_le (Nat.zero_le _), rfl⟩ rfl rfl (Nat.le_add_right _ _), ?_⟩
    · rw [RfHid.queue, hcount, Ring.view_zero]
      exact List.drop_of_length_le hlen.le
    · exact h.entered.trans hlen.le
  exact hempty.bind fun _ => gone_of (by simp)

/-- The queue is discarded, or the FIFO is left alone. -/
theorem gone_onDiscardHid : Kept RfInterrupt (Rf.Gone n sent) onDiscardHid :=
  (gone_of (by simp)).bind fun _ => Kept.ite (fun _ => gone_rfDiscardHidQueue.conseq (fun _ hs => hs.1) fun _ _ hs => hs) fun _ =>
    gone_of (by simp)

/-- While the link is quiet, it is discarded. -/
theorem discards_onDiscardHid : Triple RfInterrupt (Rf.Paused n sent) onDiscardHid fun _ => Rf.Gone n sent := by
  have hstate : Triple RfInterrupt (Rf.Paused n sent) (.read fun s => s.state) fun state s => state = .idle ∧ s.Tracks n sent :=
    Triple.read (stable_paused n sent) (fun _ s t hi hs => ⟨hs.1, hs.2.interrupt hi⟩) fun _ hs => ⟨hs.2.1, hs.1⟩
  refine hstate.bind fun state => Triple.ite (fun _ => ?_) fun hne => ?_
  · exact gone_rfDiscardHidQueue.conseq (fun _ hs => hs.2) fun _ _ hs => hs
  · exact fun _ _ _ hs => absurd hs.1 hne

/-- To take down a link that is quiet leaves it quiet. -/
theorem paused_rfDisconnect : Kept RfInterrupt (Rf.Paused n sent) rfDisconnect := paused_of (by simp)

/-- So is it when the bond is forgotten. -/
theorem discards_unpair : Triple RfInterrupt (Rf.Paused n sent) unpair fun _ => Rf.Gone n sent := by
  refine Triple.bind paused_rfDisconnect fun _ => ?_
  iterate 5 refine Triple.bind (paused_of (by simp)) fun _ => ?_
  exact discards_onDiscardHid

/-- The bond is forgotten. -/
theorem gone_unpair : Kept RfInterrupt (Rf.Gone n sent) unpair := by
  refine Kept.bind (gone_fifo fifo_disconnect) fun _ => ?_
  iterate 5 refine Kept.bind (gone_of (by simp)) fun _ => ?_
  exact gone_onDiscardHid

/-! ## Responses -/

/-- The report chosen for a response is that of a later entry. -/
def Rf.Chose (n : Nat) (sent : List HidFrame) (head : Option Report) (s : Rf) : Prop :=
  s.Gone n sent ∧ ∀ r ∈ head, s.log.HeadAfter n r

/-- The report chosen stays that of a later entry. -/
theorem stable_chose (head : Option Report) : Stable RfInterrupt (Rf.Chose n sent head) := fun s t hi hs =>
  ⟨stable_gone n sent s t hi hs.1, fun r hr =>
    (hs.2 r hr).mono (Rf.fifoStep_interrupt hi).entered (passed_interrupt hi)⟩

/-- It is the oldest entry in the FIFO. -/
theorem chose_rfSelectHead : Triple RfInterrupt (Rf.Gone n sent) rfSelectHead fun head => Rf.Chose n sent head := by
  refine Triple.stmt (stable_gone n sent) fun s h => Triple.pure (stable_chose _) ?_
  rintro _ rfl
  refine ⟨h.keep ⟨rfl, rfl, rfl, rfl, rfl, rfl, rfl⟩, fun r hr => ⟨s.log.passed, h.2, Nat.le_refl _, ?_⟩⟩
  rw [Rf.selectHead] at hr
  split at hr
  · rename_i hne
    obtain ⟨left, hleft⟩ := Nat.exists_eq_succ_of_ne_zero hne
    have hhead : s.hid.queue[0]? = some s.hid.headReport := by
      rw [RfHid.queue, hleft, Nat.succ_eq_add_one, Ring.view_cons]
      rfl
    rw [← h.1.queue, List.getElem?_drop, Nat.add_zero] at hhead
    exact hhead.trans hr
  · cases hr

/-- It goes out. -/
theorem gone_rfTxResponse (ctrl : Byte) (head : Option Report) :
    Triple RfInterrupt (Rf.Chose n sent head) (rfTxResponse ctrl head) fun _ => Rf.Gone n sent := by
  refine Triple.stmt (stable_chose head) fun s h => Triple.pure (stable_gone n sent) ?_
  rintro _ rfl
  obtain ⟨⟨h, hgone⟩, hafter⟩ := h
  obtain ⟨fs, hfs, hold⟩ := h.started
  refine ⟨⟨⟨⟨h.passed_le, h.queue⟩, h.entered, ?_⟩, h.inOrder.congr rfl rfl rfl rfl⟩, hgone⟩
  dsimp only
  split
  · refine ⟨fs ++ (head.map fun r => ⟨s.log.sessions, s.log.passed, r⟩).toList, ?_, fun f hf => ?_⟩
    · rw [hfs, List.append_assoc]
    · rcases List.mem_append.mp hf with hf | hf
      · exact hold f hf
      · obtain ⟨r, hr, rfl⟩ := Option.map_eq_some_iff.mp (Option.mem_toList.mp hf)
        exact ⟨hgone, hafter r hr⟩
  · exact ⟨fs, hfs, hold⟩

/-- A response sends a later entry, or none. -/
theorem gone_rfDoResponseTx : Kept RfInterrupt (Rf.Gone n sent) rfDoResponseTx := by
  refine Triple.bind (gone_of (by simp)) fun pending => Triple.ite (fun _ => ?_) fun _ => gone_of (by simp)
  refine Triple.bind (gone_of (by simp)) fun _ => Triple.bind (gone_of (by simp)) fun ctrl => ?_
  have hshut (head : Option Report) : Kept RfInterrupt (Rf.Chose n sent head) rfShut :=
    Kept.modify (stable_chose head) fun s h => ⟨h.1.keep ⟨rfl, rfl, rfl, rfl, rfl, rfl, rfl⟩, h.2⟩
  refine chose_rfSelectHead.bind fun head => Triple.bind (hshut head) fun _ => (gone_rfTxResponse ctrl head).bind fun status => ?_
  exact gone_of (by simp)

/-! ## Reports -/

namespace Rf.Tracks

variable {es : List Report} {r : Report}

/-- The report is in a free slot. -/
theorem write (h : s.Tracks n sent) (hroom : s.HasRoom es) :
    Rf.Tracks n sent { s with hid := s.hid.writeSlot s.hid.tail r } := by
  have hw := (hroom.write r).1.1
  have hqueue : (s.hid.writeSlot s.hid.tail r).queue = s.hid.queue :=
    List.append_cancel_left (hw.entries.trans hroom.1.entries.symm)
  exact h.of_linked ⟨h.passed_le, hqueue.symm ▸ h.queue⟩ (hw.entries.symm ▸ hw) rfl rfl (Nat.le_refl _)

/-- It is the newest entry. -/
theorem publish (h : s.Tracks n sent) (hwritten : s.HasWritten es r) :
    Rf.Tracks n sent { s with
      hid := { s.hid with tail := u8 (s.hid.tail + 1) }
      log := { s.log with entered := s.log.entered ++ [r] } } := by
  have hp := hwritten.publish { s.log with entered := s.log.entered ++ [r] } rfl
  have hqueue : ({ s.hid with tail := u8 (s.hid.tail + 1) } : RfHid).queue = s.hid.queue ++ [r] := by
    refine List.append_cancel_left (hp.entries.trans ?_)
    rw [← hwritten.1.1.entries, Rf.entries, List.append_assoc]
  have hle := h.passed_le
  refine ⟨⟨⟨?_, ?_⟩, ?_, ?_⟩, hp.entries.symm ▸ hp⟩
  · exact hle.trans (List.length_append ▸ Nat.le_add_right _ _)
  · rw [hqueue, ← h.queue]
    exact List.drop_append_of_le_length hle
  · have hn := h.entered
    rw [List.length_append]
    omega
  · obtain ⟨fs, hfs, hafter⟩ := h.started
    refine ⟨fs, hfs, fun f hf => ?_⟩
    obtain ⟨hentry, k, hn, hk, hr⟩ := hafter f hf
    exact ⟨hentry, k, hn, hk, List.getElem?_append_left (List.getElem?_eq_some_iff.mp hr).1 ▸ hr⟩

/-- It takes the place of the newest entry, which is not the oldest. -/
theorem overwrite (h : s.Tracks n sent) (hfull : s.WasFull es) :
    Rf.Tracks n sent { s with
      hid := s.hid.writeSlot (sub8 s.hid.tail 1) r
      log := { s.log with entered := s.log.entered.dropLast ++ [r] } } := by
  obtain ⟨-, ho⟩ := hfull.overwrite { s.log with entered := s.log.entered.dropLast ++ [r] } rfl r
  have hlen := h.length
  have hcount : 15 ≤ s.hid.count := by
    have hf := hfull.2
    rw [hidFifoSlots] at hf
    omega
  have hne : s.hid.queue ≠ [] := by
    rw [← List.length_pos_iff, RfHid.queue, Ring.length_view]
    omega
  have hqueue : (s.hid.writeSlot (sub8 s.hid.tail 1) r).queue = s.hid.queue.dropLast ++ [r] := by
    refine List.append_cancel_left (ho.entries.trans ?_)
    rw [← hfull.1.entries, Rf.entries, List.dropLast_append_of_ne_nil hne, List.append_assoc]
  have hdrop : s.log.entered.dropLast.drop s.log.passed = s.hid.queue.dropLast := by
    rw [← h.queue, List.dropLast_eq_take, List.dropLast_eq_take, List.drop_take, List.length_drop]
    congr 1
    omega
  have hshort : s.log.passed ≤ s.log.entered.dropLast.length := by
    rw [List.length_dropLast]
    omega
  refine ⟨⟨⟨?_, ?_⟩, ?_, ?_⟩, ho.entries.symm ▸ ho⟩
  · exact hshort.trans (List.length_append ▸ Nat.le_add_right _ _)
  · rw [hqueue, ← hdrop]
    exact List.drop_append_of_le_length hshort
  · have hn := h.entered
    rw [List.length_append, List.length_dropLast, List.length_singleton]
    omega
  · obtain ⟨fs, hfs, hafter⟩ := h.started
    refine ⟨fs, hfs, fun f hf => ?_⟩
    obtain ⟨hentry, k, hn, hk, hr⟩ := hafter f hf
    have hlt : k < s.log.entered.dropLast.length := by
      rw [List.length_dropLast]
      omega
    refine ⟨hentry, k, hn, hk, ?_⟩
    rw [List.getElem?_append_left hlt, List.getElem?_dropLast, if_pos (by omega)]
    exact hr

end Rf.Tracks

/-- An assertion that does not depend on the FIFO, next to the entries. -/
theorem queueFrame_tracks {P : Rf → Prop} {r : Report} (hst : Stable RfInterrupt fun s => s.Tracks n sent ∧ P s)
    (hid : ∀ s hid log, log.passed = s.log.passed → P s → P { s with hid := hid, log := log })
    (hrest : Kept RfInterrupt (fun s => s.Tracks n sent ∧ P s) wakeRest) :
    QueueFrame RfInterrupt r fun s => s.Tracks n sent ∧ P s where
  interrupts := queueInterrupt_of
  stable := hst
  write s _ hs h := ⟨h.1.write hs, hid s _ s.log rfl h.2⟩
  publish s _ hs h := ⟨h.1.publish hs, hid s _ { s.log with entered := s.log.entered ++ [r] } rfl h.2⟩
  overwrite s _ hs h := ⟨h.1.overwrite hs, hid s _ { s.log with entered := s.log.entered.dropLast ++ [r] } rfl h.2⟩
  remember s h := ⟨h.1.keep ⟨rfl, rfl, rfl, rfl, rfl, rfl, rfl⟩, hid s _ s.log rfl h.2⟩
  validate s h := ⟨h.1.keep ⟨rfl, rfl, rfl, rfl, rfl, rfl, rfl⟩, hid s _ s.log rfl h.2⟩
  rest := hrest

/-- It keeps what it was next to. -/
theorem QueueFrame.kept {J : Rf → Prop} {r : Report} (hf : QueueFrame RfInterrupt r J) (hq : ∀ s, J s → s.Queued s.entries) :
    Kept RfInterrupt J (rfQueueHIDReport r) := by
  intro s a t h hr
  exact (hf.takes_rfQueueHIDReport _ _ s a t ⟨(hq s h).before, h⟩ hr).2

/-! ## The FIFO as long as the host stays -/

/-- No handler brings an entry back. -/
theorem gone_rfProcessEvent (e : RfEvt) : Kept RfInterrupt (Rf.Gone n sent) (rfProcessEvent e) := by
  cases e with
  | respond => exact (gone_of (by simp)).bind fun _ => Kept.ite (fun _ => gone_rfDoResponseTx) fun _ => gone_of (by simp)
  | discardHid => exact gone_onDiscardHid
  | _ => exact gone_fifo (fifo_rfProcessEvent (by decide) (by decide))

/-- Nor does a report that enters. -/
theorem gone_report (r : Report) : Kept RfInterrupt (Rf.Gone n sent) (rfQueueHIDReport r) := by
  refine (queueFrame_tracks (stable_gone n sent) (fun s hid log hp h => hp.symm ▸ h) (gone_fifo fifo_wakeRest)).kept ?_
  exact fun s h => h.1.inOrder

/-- Nor does any part of a call. -/
theorem partsKeep_gone : PartsKeep RfInterrupt (Rf.Gone n sent) where
  stable := stable_gone n sent
  out _ _ hs := hs.keep ⟨rfl, rfl, rfl, rfl, rfl, rfl, rfl⟩
  transport is2g4 := gone_fifo (fifo_transport is2g4)
  ledResync := gone_fifo fifo_ledResync
  drop := gone_fifo fifo_drop
  select := gone_fifo fifo_select
  pair := gone_fifo fifo_pair
  disconnect := gone_fifo fifo_disconnect
  unpair := gone_unpair
  flush := gone_fifo fifo_flush
  report := gone_report
  process := kept_tmosProcess (stable_gone n sent) (fun _ hs => hs.keep ⟨rfl, rfl, rfl, rfl, rfl, rfl, rfl⟩) gone_rfProcessEvent
  tick := gone_fifo fifo_tick

/-! ## The FIFO while the host is away -/

/-- A branch that is not taken while the link is quiet. -/
theorem away_else {β : Type} {g : Rf → β} {c : β → Prop} [∀ b, Decidable (c b)] (hc : ∀ s, s.Quiet → ¬c (g s)) {p q : RfM Unit}
    (hq : Kept RfInterrupt (fun s => s.Tracks n sent ∧ s.Away) q) :
    Kept RfInterrupt (fun s => s.Tracks n sent ∧ s.Away) (do
      let b ← .read g
      if c b then p else q) := by
  have hread : Triple RfInterrupt (fun s => s.Tracks n sent ∧ s.Away) (.read g) fun b s => ¬c b ∧ s.Tracks n sent ∧ s.Away :=
    Triple.read (stable_away n sent) (fun b => stable_queueAnd (stable_away n sent)) fun s hs => ⟨hc s hs.2.1, hs⟩
  refine hread.bind fun b => Triple.ite (fun hb => ?_) fun _ => hq.conseq (fun _ hs => hs.2) fun _ _ hs => hs
  exact fun _ _ _ hs => absurd hb hs.1

/-- To do nothing changes nothing. -/
theorem away_pure : Kept RfInterrupt (fun s => s.Tracks n sent ∧ s.Away) (pure () : RfM Unit) := Kept.pure (stable_away n sent) ()

/-- While the link is quiet there is no rest to wake. -/
theorem away_wakeRest : Kept RfInterrupt (fun s => s.Tracks n sent ∧ s.Away) wakeRest := by
  refine away_else (c := (· = .resting)) (fun s hs hr => nomatch hs.1.symm.trans hr) ?_
  refine away_else (c := (· = true)) (fun s hs hp => nomatch hs.2.symm.trans hp) ?_
  exact away_else (c := (· = .connected)) (fun s hs hc => nomatch hs.1.symm.trans hc) away_pure

/-- The handlers but that of `RF_EVT_DISCARD_HID`. -/
theorem away_rfProcessEvent {e : RfEvt} (he : e ≠ .discardHid) :
    Kept RfInterrupt (fun s => s.Tracks n sent ∧ s.Away) (rfProcessEvent e) := by
  have inState (st : RfState) (hst : st ≠ .idle) (p : RfM Unit) : Kept RfInterrupt (fun s => s.Tracks n sent ∧ s.Away) (do
      let state ← .read fun s => s.state
      whenever (state = st) p) :=
    away_else (c := (· = st)) (fun s hs h => hst (h.symm.trans hs.1)) away_pure
  have due {g : Rf → Bool} (hg : ∀ s, s.Quiet → g s = false) (p : RfM Unit) :
      Kept RfInterrupt (fun s => s.Tracks n sent ∧ s.Away) (do
        let due ← .read g
        whenever due p) :=
    away_else (c := (· = true)) (fun s hs h => nomatch (hg s hs).symm.trans h) away_pure
  cases e with
  | discardHid => exact absurd rfl he
  | pairBcast => exact inState .pairing nofun _
  | pairTimeout => exact inState .pairing nofun _
  | enterConnected => exact inState .pairing nofun _
  | respond => exact inState .connected nofun _
  | disconnect => exact inState .connected nofun _
  | rxRestart => exact due (fun s hs => by simp [hs.1]) _
  | pairRxOff => exact due (fun s hs => by simp [hs.1]) _
  | restIdle => exact due (fun s hs => by simp [hs.1]) _
  | restProbe => exact due (fun s hs => by simp [hs.1]) _
  | restProbeTimeout => exact due (fun s hs => hs.2) _
  | start | notifyLed | saveBond | restStage2 => exact away_of (by simp [rfProcessEvent])

/-! ## What happens before the host selects 2.4 GHz again -/

/-- A report enters, and the link stays quiet. -/
theorem left_report (r : Report) : Kept RfInterrupt (Rf.Left n sent) (rfQueueHIDReport r) := by
  refine left_cases ((gone_report r).conseq (fun _ hs => hs) fun _ _ hs => .inl hs) ?_
  have haway : Kept RfInterrupt (fun s => s.Tracks n sent ∧ s.Away) (rfQueueHIDReport r) := by
    refine (queueFrame_tracks (stable_away n sent) (fun s hid log _ h => h) away_wakeRest).kept ?_
    exact fun s h => h.1.inOrder
  exact haway.conseq (fun _ hs => hs) fun _ _ hs => .inr hs

/-- A command to pair is ignored. -/
theorem left_pair : Kept RfInterrupt (Rf.Left n sent) (handleCommand 0x51) := by
  refine left_cases ((partsKeep_gone.handleCommand 0x51).conseq (fun _ hs => hs) fun _ _ hs => .inl hs) ?_
  refine Triple.conseq ?_ (fun _ hs => hs) fun _ _ hs => .inr hs
  have hread : Triple RfInterrupt (fun s => s.Tracks n sent ∧ s.Away) (.read fun s => s.transportIs2g4)
      fun is2g4 s => (s.Tracks n sent ∧ s.Away) ∧ (is2g4 = true → s.keyboardMacValid = false) := by
    refine Triple.read (stable_away n sent) (fun is2g4 s t hi hs => ?_) fun s hs => ⟨hs, fun ht => ?_⟩
    · exact ⟨stable_away n sent s t hi hs.1, fun ht => (host_interrupt hi).2.trans (hs.2 ht)⟩
    · exact hs.2.2.resolve_left fun hf => nomatch hf.symm.trans ht
  refine hread.bind fun is2g4 => Triple.ite (fun ht => ?_) fun _ => Triple.pure (stable_away n sent) fun _ hs => hs.1
  have hvalid : Triple RfInterrupt (fun s => (s.Tracks n sent ∧ s.Away) ∧ (is2g4 = true → s.keyboardMacValid = false))
      (.read fun s => s.keyboardMacValid) fun valid s => valid = false ∧ s.Tracks n sent ∧ s.Away := by
    refine Triple.read (fun s t hi hs => ?_) (fun valid => stable_queueAnd (stable_away n sent)) fun s hs => ⟨hs.2 ht, hs.1⟩
    exact ⟨stable_away n sent s t hi hs.1, fun ht => (host_interrupt hi).2.trans (hs.2 ht)⟩
  refine hvalid.bind fun valid => Triple.ite (fun _ => ?_) fun hv => ?_
  · exact (away_of (by simp)).conseq (fun _ hs => hs.2) fun _ _ hs => hs
  · exact fun _ _ _ hs => absurd (hs.1 ▸ rfl) hv

/-- What is queued is dropped with the bond. -/
theorem gone_thenUnpair {p : RfM Unit} (hp : Kept RfInterrupt (Rf.Gone n sent) p) :
    Triple RfInterrupt (Rf.Paused n sent) (do
      rfDisconnect
      rfClearBond
      p) fun _ => Rf.Gone n sent := by
  have h : Triple RfInterrupt (Rf.Paused n sent) (unpair >>= fun _ => p) fun _ => Rf.Gone n sent := discards_unpair.bind fun _ => hp
  rwa [unpair, bind_bind] at h

/-- While the host is away the link is quiet. -/
theorem paused_of_away (h : s.Tracks n sent ∧ s.Away) : s.Paused n sent := ⟨h.1, h.2.1⟩

/-- The command that unpairs drops what is queued. -/
theorem drops_unpair : Triple RfInterrupt (Rf.Left n sent) (handleCommand 0x52) fun _ => Rf.Gone n sent := by
  refine left_cases (partsKeep_gone.handleCommand 0x52) ?_
  exact (gone_thenUnpair (gone_of (by simp))).conseq (fun _ hs => paused_of_away hs) fun _ _ hs => hs

/-- The factory's pairing command, with an address or without. -/
theorem drops_factoryPair : Triple RfInterrupt (Rf.Left n sent) (handleCommand 0x63) fun _ s =>
    (s.keyboardMacValid = true → s.Gone n sent) ∧ s.Left n sent := by
  have hgone : Stable RfInterrupt fun s : Rf => (s.keyboardMacValid = true → s.Gone n sent) ∧ s.Left n sent := fun s t hi hs =>
    ⟨fun hv => stable_gone n sent s t hi (hs.1 ((host_interrupt hi).2 ▸ hv)), stable_left n sent s t hi hs.2⟩
  refine left_cases ((partsKeep_gone.handleCommand 0x63).conseq (fun _ hs => hs) fun _ _ hs => ⟨fun _ => hs, .inl hs⟩) ?_
  have htransport : Triple RfInterrupt (fun s => s.Tracks n sent ∧ s.Away) (setTransport true) fun _ => Rf.Paused n sent := by
    refine Triple.modify (stable_away n sent) (stable_paused n sent) fun s hs => ?_
    exact ⟨hs.1.keep ⟨rfl, rfl, rfl, rfl, rfl, rfl, rfl⟩, hs.2.1⟩
  have hvalid : Triple RfInterrupt (Rf.Paused n sent) (.read fun s => s.keyboardMacValid) fun valid s =>
      s.Paused n sent ∧ s.keyboardMacValid = valid :=
    Triple.read (stable_paused n sent) (fun valid s t hi hs => ⟨stable_paused n sent s t hi hs.1, (host_interrupt hi).2.trans hs.2⟩)
      fun s hs => ⟨hs, rfl⟩
  refine htransport.bind fun _ => hvalid.bind fun valid => Triple.ite (fun hv => ?_) fun _ => ?_
  · -- without an address it is as good as away
    obtain rfl : valid = false := by simpa using hv
    refine Triple.modify (fun s t hi hs => ?_) hgone fun s hs => ?_
    · exact ⟨stable_paused n sent s t hi hs.1, (host_interrupt hi).2.trans hs.2⟩
    · have haway : (s.out (.status 0x36)).Away := ⟨⟨hs.1.2.1, hs.1.2.2⟩, .inr hs.2⟩
      exact ⟨fun ht => (nomatch ht.symm.trans hs.2), .inr ⟨hs.1.1.keep ⟨rfl, rfl, rfl, rfl, rfl, rfl, rfl⟩, haway⟩⟩
  · have hpair : Kept RfInterrupt (Rf.Gone n sent) (do
        let _ ← rfEnterPairing
        keyboardUartSendStatus 0x31
        keyboardUartSendStatus 0x23) := partsKeep_gone.pair.bind fun _ => gone_of (by simp)
    exact (gone_thenUnpair hpair).conseq (fun s hs => hs.1) fun _ s hs => ⟨fun _ => hs, .inl hs⟩

/-- Any command but the one that selects 2.4 GHz. -/
theorem left_handleCommand {sub : Byte} (hsub : sub ≠ 0x30) : Kept RfInterrupt (Rf.Left n sent) (handleCommand sub) := by
  by_cases h51 : sub = 0x51
  · subst h51
    exact left_pair
  by_cases h52 : sub = 0x52
  · subst h52
    exact drops_unpair.conseq (fun _ hs => hs) fun _ _ hs => .inl hs
  by_cases h63 : sub = 0x63
  · subst h63
    exact drops_factoryPair.conseq (fun _ hs => hs) fun _ _ hs => hs.2
  unfold handleCommand
  refine Kept.ite (fun _ => left_of (by simp)) fun _ => Kept.ite (fun h => absurd h hsub) fun _ =>
    Kept.ite (fun _ => left_of (by simp)) fun _ => Kept.ite (fun h => absurd h h51) fun _ => Kept.ite (fun h => absurd h h52) fun _ =>
    Kept.ite (fun _ => left_of (by simp)) fun _ => Kept.ite (fun h => absurd h h63) fun _ => Kept.pure (stable_left n sent) ()

/-- The frames but the one that selects 2.4 GHz. -/
theorem left_frame {cmd sub : Byte} (h : ¬(cmd = 0xA6 ∧ sub = 0x30)) (payload : Report) :
    Kept RfInterrupt (Rf.Left n sent) (handleUartFrame cmd sub payload) := by
  refine Kept.ite (fun _ => left_report payload) fun _ => Kept.ite (fun hcmd => ?_) fun _ => Kept.pure (stable_left n sent) ()
  exact left_handleCommand fun hsub => h ⟨hcmd, hsub⟩

/-- The calls but that frame and a pass of TMOS. -/
theorem left_call {call : RfCall} (hp : call ≠ .process) (h : ∀ r, call ≠ .frame 0xA6 0x30 r) :
    Kept RfInterrupt (Rf.Left n sent) call.program := by
  cases call with
  | frame cmd sub payload => exact left_frame (fun hc => h payload (by rw [hc.1, hc.2])) payload
  | process => exact absurd rfl hp
  | connectedTick =>
    refine left_cases (partsKeep_gone.tick.conseq (fun _ hs => hs) fun _ _ hs => .inl hs) ?_
    have haway : Kept RfInterrupt (fun s => s.Tracks n sent ∧ s.Away) rfConnectedTick :=
      away_else (c := (· = .connected)) (fun s hs hc => nomatch hs.1.symm.trans hc) away_pure
    exact haway.conseq (fun _ hs => hs) fun _ _ hs => .inr hs
  | ledResync => exact left_of (by simp [RfCall.program])
  | quiesce => exact left_of (by simp [RfCall.program])
  | other => exact Kept.pure (stable_left n sent) ()

/-- To take an event brings nothing back. -/
theorem gone_tmosTake : Kept RfInterrupt (Rf.Gone n sent) tmosTake :=
  Triple.stmt (stable_gone n sent) fun _ hs => Triple.pure (stable_gone n sent) fun _ ht =>
    ht ▸ hs.keep ⟨rfl, rfl, rfl, rfl, rfl, rfl, rfl⟩

/-- Nor does it bring the link up. -/
theorem away_tmosTake : Kept RfInterrupt (fun s => s.Tracks n sent ∧ s.Away) tmosTake :=
  Triple.stmt (stable_away n sent) fun _ hs => Triple.pure (stable_away n sent) fun _ ht =>
    ht ▸ ⟨hs.1.keep ⟨rfl, rfl, rfl, rfl, rfl, rfl, rfl⟩, hs.2⟩

/-- Nor does its handler bring an entry back. -/
theorem gone_tmosHandle (next : Option RfEvt) : Kept RfInterrupt (Rf.Gone n sent) (tmosHandle next) := by
  cases next with
  | none => exact Kept.pure (stable_gone n sent) ()
  | some e => exact gone_rfProcessEvent e

/-- Nor the link up, if the queue is not discarded. -/
theorem away_tmosHandle {next : Option RfEvt} (h : next ≠ some .discardHid) :
    Kept RfInterrupt (fun s => s.Tracks n sent ∧ s.Away) (tmosHandle next) := by
  cases next with
  | none => exact away_pure
  | some e => exact away_rfProcessEvent fun he => h (congrArg some he)

/-! ## The host leaves -/

/-- The host has chosen another transport, and if `c` no probe runs. -/
def Rf.Leaving (n : Nat) (sent : List HidFrame) (c : Prop) (s : Rf) : Prop :=
  s.Tracks n sent ∧ s.transportIs2g4 = false ∧ (c → s.rest.probe = false)

/-- The host goes on leaving. -/
theorem stable_leaving (n : Nat) (sent : List HidFrame) (c : Prop) : Stable RfInterrupt (Rf.Leaving n sent c) := fun _ _ hi hs =>
  ⟨hs.1.interrupt hi, (host_interrupt hi).1.trans hs.2.1, fun hc => (rest_interrupt hi).2.1.trans (hs.2.2 hc)⟩

/-- A call that leaves a quiet link quiet, meanwhile. -/
theorem leaving_of {c : Prop} (h : Each (fun f => ∀ s : Rf, s.AwayKeep (f s)) p) : Kept RfInterrupt (Rf.Leaving n sent c) p :=
  Each.triple (h.mono fun _ hf s hs => ⟨hs.1.keep (hf s).1, (hf s).transport hs.2.1, fun hc => (hf s).probe (hs.2.2 hc)⟩)
    (stable_leaving n sent c)

/-- The rest is cancelled: no probe will bring the link up. -/
theorem leaving_restCancel : Triple RfInterrupt (Rf.Leaving n sent False) restCancel fun _ => Rf.Leaving n sent True := by
  have hprobe : Triple RfInterrupt (Rf.Leaving n sent False) (clearRest fun r => { r with probe := false })
      fun _ => Rf.Leaving n sent True := by
    refine Triple.modify (stable_leaving n sent _) (stable_leaving n sent _) fun s hs => ?_
    exact ⟨hs.1.keep ⟨rfl, rfl, rfl, rfl, rfl, rfl, rfl⟩, hs.2.1, fun _ => rfl⟩
  iterate 5 refine Triple.bind (leaving_of (by simp)) fun _ => ?_
  exact hprobe.bind fun _ => leaving_of (by simp)

/-- The link is down, and the host away. -/
theorem away_rfDisconnect :
    Triple RfInterrupt (Rf.Leaving n sent False) rfDisconnect fun _ s => s.Tracks n sent ∧ s.Away := by
  have hidle : Triple RfInterrupt (Rf.Leaving n sent True) (setState .idle) fun _ s => s.Tracks n sent ∧ s.Away := by
    refine Triple.modify (stable_leaving n sent _) (stable_away n sent) fun s hs => ?_
    exact ⟨hs.1.keep ⟨rfl, rfl, rfl, rfl, rfl, rfl, rfl⟩, ⟨rfl, hs.2.2 trivial⟩, .inl hs.2.1⟩
  refine leaving_restCancel.bind fun _ => ?_
  iterate 8 refine Triple.bind (leaving_of (by simp)) fun _ => ?_
  exact hidle.bind fun _ => away_of (by simp)

/-- The link is quiet after any of the commands. -/
theorem left_leaves {sub : Byte} (h : Leaves sub) (payload : Report) :
    Triple RfInterrupt (Rf.Tracks n sent) (handleUartFrame 0xA6 sub payload) fun _ => Rf.Left n sent := by
  have htransport : Triple RfInterrupt (Rf.Tracks n sent) (setTransport false) fun _ => Rf.Leaving n sent False :=
    Triple.modify (stable_tracks n sent) (stable_leaving n sent _) fun s hs =>
      ⟨hs.keep ⟨rfl, rfl, rfl, rfl, rfl, rfl, rfl⟩, rfl, False.elim⟩
  have hleave {q : RfM Unit} (hq : Each (fun f => ∀ s : Rf, s.AwayKeep (f s)) q) : Triple RfInterrupt (Rf.Tracks n sent) (do
      setTransport false
      rfDisconnect
      q) fun _ => Rf.Left n sent :=
    Triple.conseq (htransport.bind fun _ => away_rfDisconnect.bind fun _ => away_of hq) (fun _ hs => hs) fun _ _ hs => .inr hs
  rcases h with rfl | rfl | rfl | rfl
  all_goals exact hleave (by simp)

end Each

/-! ## Runs -/

/-- No action brings an entry back. -/
theorem gone_does {act : RfAct} (h : act.Does s t) (hs : s.Gone n sent) : t.Gone n sent := by
  cases h with
  | call call _ hr => exact partsKeep_gone.program call s () t hs hr
  | event htake hhandle => exact gone_tmosHandle _ _ () t (gone_tmosTake s _ _ hs htake) hhandle

/-- The event of the timer drops what is queued, if it is still there. -/
theorem drops_event (h : (RfAct.event (some .discardHid)).Does s t) (hs : s.Left n sent) : t.Gone n sent := by
  rcases hs with hs | hs
  · exact gone_does h hs
  cases h with
  | event htake hhandle => exact discards_onDiscardHid _ () t (paused_of_away (away_tmosTake s _ _ hs htake)) hhandle

/-- An action that does not select 2.4 GHz leaves the host away. -/
theorem left_does {act : RfAct} (hne : ¬act.Selects) (h : act.Does s t) (hs : s.Left n sent) : t.Left n sent := by
  by_cases hd : act = .event (some .discardHid)
  · subst hd
    exact .inl (drops_event h hs)
  cases h with
  | call call hp hr => exact left_call hp (fun r hc => hne ⟨r, congrArg RfAct.call hc⟩) s () t hs hr
  | @event _ _ _ next htake hhandle =>
    rcases hs with hs | hs
    · exact .inl (gone_does (.event htake hhandle) hs)
    · refine .inr (away_tmosHandle (fun hn => hd (congrArg RfAct.event hn)) _ () t (away_tmosTake s _ _ hs htake) hhandle)

/-- No call changes whether there is an address. -/
theorem partsKeep_mac (valid : Bool) : PartsKeep RfInterrupt fun s => s.keyboardMacValid = valid := by
  have hst : Stable RfInterrupt fun s => s.keyboardMacValid = valid := fun _ _ hi hs => (host_interrupt hi).2.trans hs
  have keep {α : Type} {p : RfM α} (h : Each (fun f => ∀ s : Rf, (f s).keyboardMacValid = s.keyboardMacValid) p) :
      Kept RfInterrupt (fun s => s.keyboardMacValid = valid) p :=
    Each.triple (h.mono fun _ hf s hs => (hf s).trans hs) hst
  have fifo {α : Type} {p : RfM α} (h : Each FifoStmt p) : Kept RfInterrupt (fun s => s.keyboardMacValid = valid) p :=
    keep (h.mono fun _ hf s => (hf s).mac)
  have hevent (e : RfEvt) : Kept RfInterrupt (fun s => s.keyboardMacValid = valid) (rfProcessEvent e) := by
    cases e with
    | respond | discardHid => exact keep (by simp [rfProcessEvent])
    | _ => exact fifo (fifo_rfProcessEvent (by decide) (by decide))
  exact {
    stable := hst
    out := fun _ _ hs => hs
    transport := fun is2g4 => fifo (fifo_transport is2g4)
    drop := fifo fifo_drop
    select := fifo fifo_select
    pair := fifo fifo_pair
    disconnect := fifo fifo_disconnect
    unpair := (fifo fifo_disconnect).bind fun _ => keep (by simp)
    report := fun r => (keep (by simp)).bind fun _ => fifo fifo_wakeRest
    ledResync := fifo fifo_ledResync
    flush := fifo fifo_flush
    process := kept_tmosProcess hst (fun _ hs => hs) hevent
    tick := fifo fifo_tick }

/-- No action changes whether there is an address. -/
theorem mac_does {act : RfAct} (h : act.Does s t) : t.keyboardMacValid = s.keyboardMacValid := by
  cases h with
  | call call _ hr => exact (partsKeep_mac _).program call s () t rfl hr
  | event htake hhandle =>
    have hr : Runs RfInterrupt tmosProcess s () t := tmosProcess_eq ▸ htake.bind hhandle
    exact (partsKeep_mac _).program .process s () t rfl hr

/-- What is still queued is dropped, with the bond or by the event of the timer. -/
theorem drops_does {act : RfAct} (hd : act.Drops s.keyboardMacValid) (h : act.Does s t) (hs : s.Left n sent) : t.Gone n sent := by
  rcases hd with rfl | ⟨r, rfl⟩ | ⟨⟨r, rfl⟩, hv⟩
  · exact drops_event h hs
  · cases h with
    | call _ _ hr => exact drops_unpair s () t hs hr
  · have hmac := mac_does h
    cases h with
    | call _ _ hr => exact (drops_factoryPair s () t hs hr).1 (hmac.trans hv)

/-- So it is over any run. -/
theorem gone_path {ok : RfAct → Prop} (h : RfPath ok s t) (hs : s.Gone n sent) : t.Gone n sent := by
  induction h with
  | refl => exact hs
  | tail _ hstep ih =>
    obtain ⟨act, -, hdoes⟩ := hstep
    exact gone_does hdoes ih

/-- And over any run in which the host does not select 2.4 GHz. -/
theorem left_path (h : RfPath (fun act => ¬act.Selects) s t) (hs : s.Left n sent) : t.Left n sent := by
  induction h with
  | refl => exact hs
  | tail _ hstep ih =>
    obtain ⟨act, hne, hdoes⟩ := hstep
    exact left_does hne hdoes ih

/-- The FIFO is linked to the entries in every state. -/
theorem tracks_interleaved (h : RfInterleaved s) : s.Tracks s.log.entered.length s.log.started := by
  have hboot : ∀ s, RfBooted s → s.Gone 0 [] := by
    rintro s ⟨mac, macValid, flash, hw, rfl⟩
    have hqueue : (rfTaskInit mac macValid flash hw).hid.queue = [] := by
      have hcount : (rfTaskInit mac macValid flash hw).hid.count = 0 := (by decide : sub8 0 0 = 0)
      rw [RfHid.queue, hcount, Ring.view_zero]
    refine ⟨⟨⟨⟨Nat.le_refl 0, hqueue.symm⟩, Nat.le_refl 0, [], rfl, by rintro _ ⟨⟩⟩, ?_⟩, Nat.le_refl 0⟩
    exact ⟨Nat.succ_pos 255, Nat.succ_pos 255, (by decide : sub8 0 0 ≤ hidFifoSlots), rfl⟩
  have htracks := (partsKeep_gone.reach hboot h).1
  exact ⟨⟨htracks.toLinked, Nat.le_refl _, [], (List.append_nil _).symm, by rintro _ ⟨⟩⟩, htracks.inOrder⟩

/-! ## The queue is kept -/

/-- It does not discard the queue: the bond is kept, and, if `q` holds, the host does not leave; otherwise the event of the timer is
not handled. -/
structure RfAct.Spares (q : Prop) (macValid : Bool) (act : RfAct) : Prop where
  stays : q → ∀ sub, Leaves sub → ¬act.IsCommand sub
  bonded : ¬act.Unpairs macValid
  handled : ¬q → act ≠ .event (some .discardHid)

/-- What keeps the host where it is spares the queue. -/
theorem RfAct.Stays.spares {macValid : Bool} {act : RfAct} (h : act.Stays macValid) : act.Spares True macValid :=
  ⟨fun _ => h.1, h.2, fun hq => absurd trivial hq⟩

/-- So does what does not drop it. -/
theorem RfAct.spares_of_not_drops {macValid : Bool} {act : RfAct} (h : ¬act.Drops macValid) : act.Spares False macValid :=
  ⟨False.elim, fun hu => h (.inr hu), fun _ he => h (.inl he)⟩

namespace Rf

/-- The entries are known, and these have been acknowledged. If `q` holds, nothing will discard them. -/
structure Settled (q : Prop) (es : List Report) (rs : List HidFrame) (s : Rf) : Prop where
  queued : s.Queued es
  kept : q → s.tmos.live .discardHid = false
  retired : rs <+: s.log.retired

/-- One state after another, with the FIFO as it was, and, if `q` holds, its entries not to be discarded if they were not. -/
@[mk_iff]
structure HidKeep (q : Prop) (s t : Rf) : Prop where
  fifo : t.hid.fifo = s.hid.fifo
  head : t.hid.head = s.hid.head
  tail : t.hid.tail = s.hid.tail
  retired : t.log.retired = s.log.retired
  kept : q → s.tmos.live .discardHid = false → t.tmos.live .discardHid = false

end Rf

section Settled

variable {q : Prop} {es : List Report} {rs : List HidFrame}

/-- What was acknowledged stays so. -/
theorem retired_interrupt (h : RfInterrupt s t) (hs : rs <+: s.log.retired) : rs <+: t.log.retired := by
  have ha := acked_interrupt (.interrupt h)
  cases ha with
  | same _ _ log => exact log ▸ hs
  | unmarked _ log => exact log ▸ hs
  | retired _ _ _ log => exact log ▸ hs.trans (List.prefix_append _ _)

/-- No interrupt starts the timer or queues its event. -/
theorem discard_interrupt (h : RfInterrupt s t) : t.tmos.live .discardHid = s.tmos.live .discardHid := by
  have of_eq {t : Rf} (ht : t.tmos.timers = s.tmos.timers) (hq : t.tmos.queued .discardHid = s.tmos.queued .discardHid) :
      t.tmos.live .discardHid = s.tmos.live .discardHid := by
    rw [Tmos.live, Tmos.live, Tmos.armed, Tmos.armed, Tmos.waits, Tmos.waits, ht, hq]
  cases h with
  | callback sta rsr rxBuf _ =>
    exact of_eq (s.callback_timers sta rsr rxBuf) (congrArg (·.2.2.2.2.2) (s.callback_fixture sta rsr rxBuf))
  | tmr0Irq => exact of_eq s.tmr0IRQHandler_timers (congrArg (·.2.2.2.2.2) s.tmr0IRQHandler_fixture)
  | expire e => exact Tmos.live_expire _ _ _
  | advance ticks => exact Tmos.live_advance _ _ _
  | _ => rfl

/-- The entries stay known between two statements. -/
theorem stable_settled (q : Prop) (es : List Report) (rs : List HidFrame) : Stable RfInterrupt (Rf.Settled q es rs) := fun _ _ hi hs =>
  ⟨hs.queued.acked (acked_interrupt (.interrupt hi)), fun hq => (discard_interrupt hi).trans (hs.kept hq), retired_interrupt hi hs.retired⟩

/-- They are known after a step that leaves the FIFO. -/
theorem Rf.HidKeep.settled (h : s.HidKeep q t) (hs : s.Settled q es rs) : t.Settled q es rs :=
  ⟨hs.queued.congr h.fifo h.head h.tail h.retired, fun hq => h.kept hq (hs.kept hq), h.retired.symm ▸ hs.retired⟩

attribute [local simp] Rf.hidKeep_iff

/-- And after a call of such steps. -/
theorem settled_of {α : Type} {p : RfM α} (h : Each (fun f => ∀ s : Rf, s.HidKeep q (f s)) p) : Kept RfInterrupt (Rf.Settled q es rs) p :=
  Each.triple (h.mono fun _ hf s hs => (hf s).settled hs) (stable_settled q es rs)

/-- The host selects 2.4 GHz, and nothing will be discarded. -/
theorem settled_select : Triple RfInterrupt (Rf.Settled False es rs) rfSelect2G4 fun _ => Rf.Settled True es rs := by
  have hstop : Triple RfInterrupt (Rf.Settled False es rs) (rfStopTaskAtomic .discardHid) fun _ => Rf.Settled True es rs :=
    Triple.modify (stable_settled False es rs) (stable_settled True es rs) fun s hs =>
      ⟨hs.queued.congr rfl rfl rfl rfl, by simp, hs.retired⟩
  exact hstop.bind fun _ => settled_of (by simp)

/-- The frame with which the host selects 2.4 GHz. -/
theorem settled_selectFrame (payload : Report) :
    Triple RfInterrupt (Rf.Settled False es rs) (handleUartFrame 0xA6 0x30 payload) fun _ => Rf.Settled True es rs := by
  have htransport : Kept RfInterrupt (Rf.Settled False es rs) (setTransport true) := settled_of (by simp)
  exact Triple.bind htransport fun _ => settled_select.bind fun hasBond => settled_of (by simp)

/-- A handler but that of `RF_EVT_DISCARD_HID`. -/
theorem settled_rfProcessEvent {e : RfEvt} (he : e ≠ .discardHid) : Kept RfInterrupt (Rf.Settled q es rs) (rfProcessEvent e) := by
  cases e with
  | discardHid => exact absurd rfl he
  | _ => exact settled_of (by simp [rfProcessEvent])

/-- If nothing will discard the entries the event is not queued, and TMOS does not take it. -/
theorem settled_tmosTake : Triple RfInterrupt (Rf.Settled q es rs) tmosTake fun next s =>
    s.Settled q es rs ∧ (q → next ≠ some .discardHid) := by
  have hst (next : Option RfEvt) : Stable RfInterrupt fun s => s.Settled q es rs ∧ (q → next ≠ some .discardHid) := fun s t hi hs =>
    ⟨stable_settled q es rs s t hi hs.1, hs.2⟩
  refine Triple.stmt (stable_settled q es rs) fun s hs => Triple.pure (hst _) ?_
  rintro _ rfl
  refine ⟨⟨hs.queued.congr rfl rfl rfl rfl, fun hq => ?_, hs.retired⟩, fun hq hn => ?_⟩
  · cases hn : s.tmos.next with
    | none => exact hs.kept hq
    | some e =>
      refine Bool.eq_false_iff.mpr fun hl => ?_
      exact nomatch (hs.kept hq).symm.trans (Tmos.live_of_take hl)
  · exact nomatch (hs.kept hq).symm.trans (Tmos.live_of_waits (Tmos.next_eq_some hn))

/-- The host leaves, and the timer starts. -/
theorem settled_leave {p : RfM Unit} (hq : ¬q) (hp : Each (fun f => ∀ s : Rf, s.HidKeep q (f s)) p) :
    Kept RfInterrupt (Rf.Settled q es rs) (do
      setTransport false
      rfDisconnect
      rfDropQueueUnlessReselected
      p) := by
  have hstart : Each (fun f => ∀ s : Rf, s.HidKeep q (f s)) rfDropQueueUnlessReselected := by simp [hq]
  refine Kept.bind (settled_of (by simp)) fun _ => Kept.bind (settled_of (by simp)) fun _ => ?_
  exact Kept.bind (settled_of hstart) fun _ => settled_of hp

/-- A command that does not forget the bond, nor leave if it must not. -/
theorem settled_handleCommand {sub : Byte} (hl : q → ¬Leaves sub) (h52 : sub ≠ 0x52) (h63 : sub ≠ 0x63) :
    Kept RfInterrupt (Rf.Settled q es rs) (handleCommand sub) := by
  have hstatus (b : Byte) : Kept RfInterrupt (Rf.Settled q es rs) (keyboardUartSendStatus b) := settled_of (by simp)
  have hpair : Kept RfInterrupt (Rf.Settled q es rs) rfEnterPairing := settled_of (by simp)
  have hselect : Kept RfInterrupt (Rf.Settled q es rs) rfSelect2G4 := settled_of (by simp)
  unfold handleCommand
  refine Kept.ite (fun h => settled_leave (fun hq => hl hq (.inl h)) (by simp)) fun _ => Kept.ite (fun _ => ?_) fun _ =>
    Kept.ite (fun h => settled_leave (fun hq => hl hq (.inr h)) (by simp)) fun _ => Kept.ite (fun _ => ?_) fun _ =>
    Kept.ite (fun h => absurd h h52) fun _ => Kept.ite (fun _ => settled_of (by simp)) fun _ => Kept.ite (fun h => absurd h h63) fun _ =>
    Kept.pure (stable_settled q es rs) ()
  · exact Kept.bind (settled_of (by simp)) fun _ => hselect.bind fun _ => (hstatus _).bind fun _ => hstatus _
  · refine Kept.bind (settled_of (by simp)) fun _ => Kept.ite (fun _ => ?_) fun _ => Kept.pure (stable_settled q es rs) ()
    refine Kept.bind (settled_of (by simp)) fun _ => Kept.ite (fun _ => hstatus _) fun _ => hpair.bind fun _ => ?_
    exact Kept.ite (fun _ => (hstatus _).bind fun _ => hstatus _) fun _ => hstatus _

/-- The factory's pairing command without an address. -/
theorem settled_factoryPair :
    Triple RfInterrupt (fun s => s.Settled q es rs ∧ s.keyboardMacValid = false) (handleCommand 0x63) fun _ => Rf.Settled q es rs := by
  have hst : Stable RfInterrupt fun s => s.Settled q es rs ∧ s.keyboardMacValid = false := fun s t hi hs =>
    ⟨stable_settled q es rs s t hi hs.1, (host_interrupt hi).2.trans hs.2⟩
  have htransport : Kept RfInterrupt (fun s => s.Settled q es rs ∧ s.keyboardMacValid = false) (setTransport true) :=
    Kept.modify hst fun s hs => ⟨⟨hs.1.queued.congr rfl rfl rfl rfl, hs.1.kept, hs.1.retired⟩, hs.2⟩
  have hvalid : Triple RfInterrupt (fun s => s.Settled q es rs ∧ s.keyboardMacValid = false) (.read fun s => s.keyboardMacValid)
      fun valid s => valid = false ∧ s.Settled q es rs :=
    Triple.read hst (fun valid => stable_queueAnd (stable_settled q es rs)) fun _ hs => ⟨hs.2, hs.1⟩
  refine Triple.bind htransport fun _ => hvalid.bind fun valid => Triple.ite (fun _ => ?_) fun hv => ?_
  · exact (settled_of (by simp)).conseq (fun _ hs => hs.2) fun _ _ hs => hs
  · exact fun _ _ _ hs => absurd (hs.1 ▸ rfl) hv

/-- A call other than a report. -/
theorem settled_call {macValid : Bool} {call : RfCall} (hp : call ≠ .process) (h : (RfAct.call call).Spares q macValid)
    (hr : ∀ sub r, call ≠ .frame 0xA1 sub r) :
    Triple RfInterrupt (fun s => s.Settled q es rs ∧ s.keyboardMacValid = macValid) call.program fun _ => Rf.Settled q es rs := by
  cases call with
  | process => exact absurd rfl hp
  | frame cmd sub payload =>
    refine Triple.ite (fun hc => absurd (by rw [hc]) (hr sub payload)) fun _ => Triple.ite (fun hc => ?_) fun _ =>
      Triple.pure (stable_settled q es rs) fun _ hs => hs.1
    subst hc
    have hl : q → ¬Leaves sub := fun hq hl => h.stays hq sub hl ⟨payload, rfl⟩
    have h52 : sub ≠ 0x52 := fun hs => h.bonded (.inl ⟨payload, by rw [hs]⟩)
    by_cases h63 : sub = 0x63
    · subst h63
      have hm : macValid ≠ true := fun hm => h.bonded (.inr ⟨⟨payload, rfl⟩, hm⟩)
      obtain rfl : macValid = false := Bool.eq_false_iff.mpr hm
      exact settled_factoryPair
    · exact (settled_handleCommand hl h52 h63).conseq (fun _ hs => hs.1) fun _ _ hs => hs
  | connectedTick | ledResync | quiesce | other => exact (settled_of (by simp [RfCall.program])).conseq (fun _ hs => hs.1) fun _ _ hs => hs

/-- What is known of the queue aside, a report changes nothing of it. -/
theorem queueFrame_kept (q : Prop) (rs : List HidFrame) (r : Report) :
    QueueFrame RfInterrupt r fun s => (q → s.tmos.live .discardHid = false) ∧ rs <+: s.log.retired where
  interrupts := queueInterrupt_of
  stable _ _ hi hs := ⟨fun hq => (discard_interrupt hi).trans (hs.1 hq), retired_interrupt hi hs.2⟩
  write _ _ _ hs := hs
  publish _ _ _ hs := hs
  overwrite _ _ _ hs := hs
  remember _ hs := hs
  validate _ hs := hs
  rest := by
    have hkeep : Each (fun f => ∀ s : Rf, s.HidKeep q (f s)) wakeRest := by simp
    refine Each.triple (hkeep.mono fun f hf s hs => ⟨fun hq => (hf s).kept hq (hs.1 hq), (hf s).retired.symm ▸ hs.2⟩) fun _ _ hi hs => ?_
    exact ⟨fun hq => (discard_interrupt hi).trans (hs.1 hq), retired_interrupt hi hs.2⟩

/-- A report is the newest entry then, in the place of the newest one if the FIFO was full, or it repeats the one before it. -/
theorem settled_report {r : Report} (hs : s.Settled q es rs) (hr : Runs RfInterrupt (rfQueueHIDReport r) s () t) :
    ∃ es', t.Settled q es' rs ∧
      (es' = es ∨ es' = es ++ [r] ∨ s.hid.count = hidFifoSlots ∧ es ≠ [] ∧ es' = es.dropLast ++ [r]) := by
  obtain ⟨⟨es', htakes, hknows⟩, hkept, hretired⟩ :=
    (queueFrame_kept q rs r).takes_rfQueueHIDReport _ _ s () t ⟨hs.queued.before, hs.kept, hs.retired⟩ hr
  refine ⟨es', ⟨hknows.toQueued, hkept, hretired⟩, ?_⟩
  cases htakes with
  | repeated => exact .inl rfl
  | queued => exact .inr (.inl rfl)
  | overwrites _ hfull hne => exact .inr (.inr ⟨of_decide_eq_true hfull, hne, rfl⟩)

/-- What the entries are after something that spares the queue. -/
theorem settled_does {act : RfAct} (hspares : act.Spares q s.keyboardMacValid) (h : act.Does s t) (hs : s.Settled q es rs) :
    t.Settled q es rs ∨ ∃ sub r es', act = .call (.frame 0xA1 sub r) ∧ t.Settled q es' rs ∧
      (es' = es ++ [r] ∨ s.hid.count = hidFifoSlots ∧ es ≠ [] ∧ es' = es.dropLast ++ [r]) := by
  cases h with
  | @event _ _ _ next htake hhandle =>
    obtain ⟨hu, hnext⟩ := settled_tmosTake s _ _ hs htake
    refine .inl ?_
    cases next with
    | none => exact Kept.pure (stable_settled q es rs) () _ () t hu hhandle
    | some e =>
      have he : e ≠ .discardHid := by
        by_cases hq : q
        · exact fun he => hnext hq (congrArg some he)
        · exact fun he => hspares.handled hq (congrArg (fun e => RfAct.event (some e)) he)
      exact settled_rfProcessEvent he _ () t hu hhandle
  | call call hp hr =>
    by_cases hreport : ∃ sub r, call = .frame 0xA1 sub r
    · obtain ⟨sub, r, rfl⟩ := hreport
      obtain ⟨es', ht, rfl | hes⟩ := settled_report hs hr
      · exact .inl ht
      · exact .inr ⟨sub, r, es', rfl, ht, hes⟩
    · exact .inl (settled_call hp hspares (fun sub r hc => hreport ⟨sub, r, hc⟩) s () t ⟨hs, rfl⟩ hr)

end Settled

end OpenController
