import OpenController.Lemmas.HidLinkRun

/-!
# What left the FIFO and what entered it last

As long as nothing is discarded, what was retired are the first entries, all of them. The newest entry is the last report of the
host: a report that is not queued is the newest entry already.
-/

namespace OpenController

open Prog RfStatements

variable {w w' : HidLink} {s t : Rf}

/-! ## Entries that left the FIFO -/

/-- A statement retires nothing, and lets no entry back in. -/
def PassesOn (f : Rf → Rf) : Prop := ∀ s : Rf, (f s).log.retired = s.log.retired ∧ s.log.passed ≤ (f s).log.passed

/-- What leaves the FIFO alone retires nothing. -/
theorem passesOn_fifo {α : Type} {p : RfM α} (h : Each FifoStmt p) : Each PassesOn p :=
  h.mono fun _ hf s => ⟨(hf s).fifo.retired, Nat.le_of_eq (hf s).fifo.passed.symm⟩

attribute [local simp] PassesOn

/-- Nor does what the host asks for. -/
theorem hostParts_passesOn : HostParts fun p => Each PassesOn p where
  pure _ := Each.pure
  read _ := Each.read (by simp)
  bind := Each.bind
  out o := by simp
  transport is2g4 := passesOn_fifo (fifo_transport is2g4)
  drop := passesOn_fifo fifo_drop
  select := passesOn_fifo fifo_select
  pair := passesOn_fifo fifo_pair
  disconnect := passesOn_fifo fifo_disconnect
  unpair := Each.bind (passesOn_fifo fifo_disconnect) fun _ => by simp

/-- A response goes out, the queue is discarded, or the FIFO is left alone. -/
theorem passesOn_rfProcessEvent (e : RfEvt) : Each PassesOn (rfProcessEvent e) := by
  cases e with
  | respond | discardHid => simp [rfProcessEvent]
  | _ => exact passesOn_fifo (fifo_rfProcessEvent (by decide) (by decide))

/-- No call retires anything. -/
theorem passesOn_call (call : RfCall) : Each PassesOn call.program := by
  cases call with
  | frame cmd sub payload =>
    refine Each.ite (Each.bind (by simp) fun _ => passesOn_fifo fifo_wakeRest) ?_
    exact Each.ite (hostParts_passesOn.handleCommand sub) Each.pure
  | process =>
    refine Each.bind ⟨by simp, fun _ => trivial⟩ fun next => ?_
    cases next with
    | none => exact Each.pure
    | some e => exact passesOn_rfProcessEvent e
  | connectedTick => exact passesOn_fifo fifo_tick
  | ledResync => exact passesOn_fifo fifo_ledResync
  | quiesce => exact Each.bind (passesOn_fifo fifo_flush) fun _ => passesOn_fifo fifo_disconnect
  | other => exact Each.pure

/-- What was retired are entries that left the FIFO, and if no other did they are all of them. -/
structure Rf.Retired (s : Rf) : Prop where
  le : s.log.retired.length ≤ s.log.passed
  all : s.log.passed = s.log.retired.length → s.log.retired.map (·.entry) = List.range s.log.passed

/-- Entries that leave without it were not retired. -/
theorem Rf.Retired.passesOn (h : s.Retired) (hretired : t.log.retired = s.log.retired) (hpassed : s.log.passed ≤ t.log.passed) :
    t.Retired := by
  have hle := h.le
  refine ⟨hretired.symm ▸ hle.trans hpassed, fun hall => ?_⟩
  rw [hretired] at hall ⊢
  have heq : t.log.passed = s.log.passed := by omega
  rw [heq] at hall ⊢
  exact h.all hall

/-- A poll retires the head, the first that has not left. -/
theorem stable_retired : Stable LinkHears fun w => w.rf.Retired := by
  intro w w' hi h
  rcases linkHears_cases hi with ⟨buf, t, _, _, hp, rfl⟩ | ⟨t, hb, rfl⟩ | ⟨r, _, rfl⟩
  · rcases hp.acks with ⟨_, _, _, hlog⟩ | ⟨_, _, _, ⟨_, _, _, hlog⟩ | ⟨_, _, hlog⟩⟩
    · exact h.passesOn (by rw [hlog]) (by rw [hlog])
    · have hle := h.le
      refine ⟨?_, fun hall => ?_⟩ <;> dsimp only at * <;> rw [hlog] at *
      · simp only [Rf.noteRetired, List.length_append, List.length_singleton]
        omega
      · simp only [Rf.noteRetired, List.length_append, List.length_singleton, Nat.add_right_cancel_iff] at hall ⊢
        rw [List.map_append, h.all hall, List.map_singleton, List.range_succ]
    · exact h.passesOn (by rw [hlog]) (by rw [hlog])
  · exact h.passesOn (by rw [hb.log]) (by rw [hb.log])
  · exact h

/-- It is so in every state that is reached. -/
theorem retired_reach (h : LinkReach w) : w.rf.Retired := by
  induction h with
  | init hs =>
    obtain ⟨_, ⟨mac, macValid, flash, hw, rfl⟩, rfl⟩ := hs
    exact ⟨Nat.le_refl _, fun _ => rfl⟩
  | @step w w' call _ hr ih =>
    have hkept : Kept LinkHears (fun w => w.rf.Retired) (call.program.zoom HidLink.rf HidLink.watch) := by
      refine Each.zoom stable_retired ((passesOn_call call).mono fun f hf w hw => ?_)
      rw [HidLink.watch_rf]
      exact hw.passesOn (hf w.rf).1 (hf w.rf).2
    have hbegin : (w.begin call).rf.Retired := by
      rw [HidLink.begin_rf]
      exact ih
    exact hkept (w.begin call) () w' hbegin hr

/-! ## The last report -/

/-- The newest entry is the last report of the host, and the one that the next is compared with. -/
structure Rf.Newest (r : Option Report) (s : Rf) : Prop where
  entered : s.log.entered.getLast? = r
  last : s.hid.lastQueuedValid = true → r = some s.hid.lastQueued

/-- A statement that queues nothing. -/
def QueuesNothing (f : Rf → Rf) : Prop := ∀ s : Rf, (f s).log.entered = s.log.entered ∧
  ((f s).hid.lastQueuedValid = true → s.hid.lastQueuedValid = true ∧ (f s).hid.lastQueued = s.hid.lastQueued)

/-- What queues nothing leaves the newest entry. -/
theorem Rf.Newest.of {r : Option Report} (h : s.Newest r) (hentered : t.log.entered = s.log.entered)
    (hlast : t.hid.lastQueuedValid = true → s.hid.lastQueuedValid = true ∧ t.hid.lastQueued = s.hid.lastQueued) : t.Newest r :=
  ⟨hentered.symm ▸ h.entered, fun hv => (hlast hv).2.symm ▸ h.last (hlast hv).1⟩

/-- What an interrupt leaves alone. -/
theorem queuesNothing_hears (h : LinkHears w w') : w'.rf.log.entered = w.rf.log.entered ∧
    w'.rf.hid.lastQueuedValid = w.rf.hid.lastQueuedValid ∧ w'.rf.hid.lastQueued = w.rf.hid.lastQueued := by
  rcases linkHears_cases h with ⟨buf, t, _, _, hp, rfl⟩ | ⟨t, hb, rfl⟩ | ⟨r, _, rfl⟩
  · rcases hp.acks with ⟨_, hhid, _, hlog⟩ | ⟨_, _, _, ⟨_, _, hhid, hlog⟩ | ⟨_, hhid, hlog⟩⟩
    all_goals
      dsimp only
      rw [hhid, hlog]
      exact ⟨rfl, rfl, rfl⟩
  · obtain ⟨b, hhid⟩ := hb.hid
    dsimp only
    rw [hhid, hb.log]
    exact ⟨rfl, rfl, rfl⟩
  · exact ⟨rfl, rfl, rfl⟩

/-- Interrupts queue nothing. -/
theorem stable_newest (r : Option Report) : Stable LinkHears fun w => w.rf.Newest r := by
  intro w w' hi h
  obtain ⟨hentered, hvalid, hlast⟩ := queuesNothing_hears hi
  exact h.of hentered fun hv => ⟨hvalid.symm.trans hv, hlast⟩

/-- So does a call of such statements. -/
theorem newest_of {α : Type} {r : Option Report} {p : RfM α} (h : Each QueuesNothing p) :
    LinkTriple (fun w => w.rf.Newest r) p fun _ w => w.rf.Newest r := by
  refine Each.zoom (stable_newest r) (h.mono fun f hf w hw => ?_)
  rw [HidLink.watch_rf]
  exact hw.of (hf w.rf).1 (hf w.rf).2

/-- What leaves the FIFO alone queues nothing. -/
theorem queuesNothing_fifo {α : Type} {p : RfM α} (h : Each FifoStmt p) : Each QueuesNothing p :=
  h.mono fun _ hf s => ⟨(hf s).fifo.entered, fun hv => ⟨(hf s).lastValid hv, (hf s).last⟩⟩

attribute [local simp] QueuesNothing

/-- Nor does what the host asks for, but for a report. -/
theorem hostParts_queuesNothing : HostParts fun p => Each QueuesNothing p where
  pure _ := Each.pure
  read _ := Each.read (by simp)
  bind := Each.bind
  out o := by simp
  transport is2g4 := queuesNothing_fifo (fifo_transport is2g4)
  drop := queuesNothing_fifo fifo_drop
  select := queuesNothing_fifo fifo_select
  pair := queuesNothing_fifo fifo_pair
  disconnect := queuesNothing_fifo fifo_disconnect
  unpair := Each.bind (queuesNothing_fifo fifo_disconnect) fun _ => by simp

/-- A response goes out, the queue is discarded, or the FIFO is left alone. -/
theorem queuesNothing_rfProcessEvent (e : RfEvt) : Each QueuesNothing (rfProcessEvent e) := by
  cases e with
  | respond | discardHid => simp [rfProcessEvent]
  | _ => exact queuesNothing_fifo (fifo_rfProcessEvent (by decide) (by decide))

/-- A pass of TMOS takes an event and handles it. -/
theorem queuesNothing_tmosProcess : Each QueuesNothing tmosProcess := by
  refine Each.bind ⟨by simp, fun _ => trivial⟩ fun next => ?_
  cases next with
  | none => exact Each.pure
  | some e => exact queuesNothing_rfProcessEvent e

/-- Whatever was the newest entry, the report is it now. -/
theorem newest_queueReport (r : Option Report) (report : Report) :
    LinkTriple (fun w => w.rf.Newest r) (queueReport report) fun _ w => w.rf.Newest (some report) := by
  have hchanged : LinkTriple (fun w => w.rf.Newest r) (.read fun s => !s.hid.lastQueuedValid || s.hid.lastQueued != report)
      fun changed w => w.rf.Newest r ∧ (changed = false → r = some report) := by
    refine Triple.zoom_read hidLink_watch_self (stable_newest r) (fun _ w w' hi hw => ⟨stable_newest r w w' hi hw.1, hw.2⟩) fun w hw => ?_
    refine ⟨hw, fun hc => ?_⟩
    obtain ⟨hvalid, hsame⟩ := (Bool.or_eq_false_iff.mp hc)
    rw [hw.last (by simpa using hvalid)]
    exact congrArg some (by simpa using hsame)
  -- once the report has entered, only the copy of it is left to write
  have hstable : Stable LinkHears fun w => w.rf.log.entered.getLast? = some report := fun w w' hi hw =>
    (congrArg List.getLast? (queuesNothing_hears hi).1).trans hw
  have hremember : LinkTriple (fun w => w.rf.log.entered.getLast? = some report) (do
      .modify fun s => { s with hid := { s.hid with lastQueued := report } }
      .modify fun s => { s with hid := { s.hid with lastQueuedValid := true } }) fun _ w => w.rf.Newest (some report) := by
    have hmid : Stable LinkHears fun w => w.rf.log.entered.getLast? = some report ∧ w.rf.hid.lastQueued = report :=
      fun w w' hi hw => ⟨hstable w w' hi hw.1, (queuesNothing_hears hi).2.2.trans hw.2⟩
    refine Triple.zoom_bind (Triple.modify hstable hmid fun w hw => ?_) fun _ => Triple.modify hmid (stable_newest _) fun w hw => ?_
    · rw [HidLink.watch_rf]
      exact ⟨hw, rfl⟩
    · rw [HidLink.watch_rf]
      exact ⟨hw.1, fun _ => congrArg some hw.2.symm⟩
  refine Triple.zoom_bind hchanged fun changed => ite_of (K := fun q => LinkTriple _ q _) (fun _ => ?_) fun hc => ?_
  · have hroom : LinkTriple (fun w => w.rf.Newest r ∧ (changed = false → r = some report)) (.read fun s => decide (s.hid.count < hidFifoSlots))
        fun _ w => w.rf.Newest r :=
      Triple.zoom_read hidLink_watch_self (fun w w' hi hw => ⟨stable_newest r w w' hi hw.1, hw.2⟩) (fun _ => stable_newest r)
        fun w hw => hw.1
    refine Triple.zoom_bind hroom fun room => ?_
    cases room with
    | true =>
      refine Triple.zoom_bind (newest_of (by simp [RfHid.writeSlot])) fun _ => Triple.zoom_bind ?_ fun _ => hremember
      refine Triple.modify (stable_newest r) hstable fun w hw => ?_
      rw [HidLink.watch_rf]
      exact List.getLast?_concat
    | false =>
      refine Triple.zoom_bind ?_ fun _ => hremember
      refine Triple.modify (stable_newest r) hstable fun w hw => ?_
      rw [HidLink.watch_rf]
      exact List.getLast?_concat
  · refine Triple.pure (stable_newest _) fun w hw => ?_
    exact hw.2 (Bool.eq_false_iff.mpr hc) ▸ hw.1

/-- After a call the newest entry is the last report that the host sent. -/
theorem newest_call (call : RfCall) (h : w.rf.Newest w.offered) (hr : LinkRuns call.program (w.begin call) () w') :
    w'.rf.Newest (w.begin call).offered := by
  have hbegin : (w.begin call).rf.Newest w.offered := by
    rw [HidLink.begin_rf]
    exact h
  cases call with
  | frame cmd sub payload =>
    by_cases hcmd : cmd = 0xA1
    · have hframe : handleUartFrame cmd sub payload = rfQueueHIDReport payload := if_pos hcmd
      have hoffered : (w.begin (.frame cmd sub payload)).offered = some payload := by
        rw [HidLink.begin, if_pos hcmd]
      rw [RfCall.program, hframe] at hr
      rw [hoffered]
      have hreport : LinkTriple (fun w' => w'.rf.Newest w.offered) (rfQueueHIDReport payload) fun _ w => w.rf.Newest (some payload) :=
        Triple.zoom_bind (newest_queueReport _ payload) fun _ => newest_of (queuesNothing_fifo fifo_wakeRest)
      exact hreport _ () w' hbegin hr
    · have hoffered : (w.begin (.frame cmd sub payload)).offered = w.offered := by
        rw [HidLink.begin, if_neg hcmd]
      rw [hoffered]
      refine newest_of ?_ _ () w' hbegin hr
      rw [RfCall.program, handleUartFrame, if_neg hcmd]
      exact Each.ite (hostParts_queuesNothing.handleCommand sub) Each.pure
  | process => exact newest_of queuesNothing_tmosProcess _ () w' hbegin hr
  | connectedTick => exact newest_of (queuesNothing_fifo fifo_tick) _ () w' hbegin hr
  | ledResync => exact newest_of (queuesNothing_fifo fifo_ledResync) _ () w' hbegin hr
  | quiesce =>
    have hquiesce : Each FifoStmt RfCall.quiesce.program := Each.bind fifo_flush fun _ => fifo_disconnect
    exact newest_of (queuesNothing_fifo hquiesce) _ () w' hbegin hr
  | other => exact newest_of Each.pure _ () w' hbegin hr

/-- To watch a state takes no report. -/
theorem HidLink.watch_offered (t : Rf) (w : HidLink) : (w.watch t).offered = w.offered := by
  unfold HidLink.watch
  split <;> rfl

/-- Nothing but a frame of the host changes what the host reported last. -/
theorem offered_runs {α : Type} {p : RfM α} {a : α} (hr : LinkRuns p w a w') : w'.offered = w.offered := by
  have hstable : Stable LinkHears fun u => u.offered = w.offered := by
    intro u u' hi hu
    cases hi <;> exact hu
  exact Kept.zoom hstable (fun t u hu => (HidLink.watch_offered t u).trans hu) p w a w' rfl hr

/-- It is so in every state that is reached. -/
theorem newest_reach (h : LinkReach w) : w.rf.Newest w.offered := by
  induction h with
  | init hs =>
    obtain ⟨_, ⟨mac, macValid, flash, hw, rfl⟩, rfl⟩ := hs
    exact ⟨rfl, nofun⟩
  | @step w w' call _ hr ih =>
    rw [offered_runs hr]
    exact newest_call call ih hr

end OpenController
