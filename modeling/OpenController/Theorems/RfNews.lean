import OpenController.Lemmas.RfNewsRun
import OpenController.Theorems.RfRest

/-!
# Reports that are left out, and keys under a resting link

A report that `RF_QueueHIDReport` leaves out is the newest one queued, or what the host shows, as long as the queue is not
discarded under a key; and the link rests only when the host shows no key, as long as a session does not start with a key queued
that is not taken for the current report. Both fail otherwise: `dedup_swallows_no_news_false`, `rests_with_keys_released_false`.
-/

namespace OpenController

open Prog RfStatements

variable {s : Rf}

/-- One key. -/
def press : Report := Vector.ofFn fun i => if i = 2 then 4 else 0

/-! ## Reports that are left out -/

/-- The report is the newest one queued, or what the host shows. -/
def Rf.IsNoNews (s : Rf) (report : Report) : Prop :=
  s.hid.newest = some report ∨ s.hid.newest = none ∧ report = s.shown

theorem fifo_rfQueueHIDReport (report : Report) (s : Rf) :
    ((rfQueueHIDReport report).exec s).hid.fifo = ((queueReport report).exec s).hid.fifo ∧
      ((rfQueueHIDReport report).exec s).hid.tail = ((queueReport report).exec s).hid.tail := by
  have hfifo : Each (fun f => ∀ s : Rf, (f s).hid.fifo = s.hid.fifo) wakeRest := by simp
  have htail : Each (fun f => ∀ s : Rf, (f s).hid.tail = s.hid.tail) wakeRest := by simp
  rw [rfQueueHIDReport, exec, run_bind]
  exact ⟨hfifo.view_run (v := fun s : Rf => s.hid.fifo) _, htail.view_run (v := fun s : Rf => s.hid.tail) _⟩

/-- In every run in which the queue is not discarded while `hid_last_queued` holds a key: a report after which the FIFO is what it
was is the newest one queued or, when the FIFO is empty, what the host shows. -/
theorem dedup_swallows_no_news (h : RfReachWhen RfOp.DiscardsReleased s) (report : Report)
    (hfifo : ((rfQueueHIDReport report).exec s).hid.fifo = s.hid.fifo)
    (htail : ((rfQueueHIDReport report).exec s).hid.tail = s.hid.tail) : s.IsNoNews report := by
  have hs : s.NewsOk True False := news_reach h (fun _ _ _ => id) nofun
  rw [(fifo_rfQueueHIDReport report s).1] at hfifo
  rw [(fifo_rfQueueHIDReport report s).2] at htail
  rw [queueReport_exec] at hfifo htail
  split at hfifo
  · rename_i hsame
    cases hn : s.hid.newest with
    | none => exact .inr ⟨hn, hsame.2 ▸ (hs.told trivial hsame.1 hn).symm⟩
    | some r => exact .inl (hn.trans (congrArg some ((hs.current hsame.1 r hn).trans hsame.2)))
  · rename_i hsame
    rw [if_neg hsame] at htail
    by_cases hroom : s.hid.count < hidFifoSlots
    · rw [if_pos hroom] at htail
      have := hs.tail_lt
      have htail' : u8 (s.hid.tail + 1) = s.hid.tail := htail
      simp only [u8] at htail'
      omega
    · -- the FIFO is full, and the newest report in it is the same
      rw [if_neg hroom] at hfifo
      have hne : s.hid.tail ≠ s.hid.head := fun he => hroom (by rw [RfHid.count, he]; simp only [sub8, hidFifoSlots]; omega)
      have hslot : s.hid.fifo (sub8 s.hid.tail 1 % hidFifoSlots) = report := by
        rw [← hfifo]
        exact Function.update_self _ _ _
      exact .inl ((if_pos hne).trans (congrArg some hslot))

/-- A poll that the keyboard answers. -/
def answered (ctrl : Byte) : List RfOp := [.poll ctrl, .tmr0Cycle, .tmr0Irq, .process, .txFinish, .process]

/-- A key is pressed and released, and the dongle acknowledges both. The host selects USB, the empty queue is discarded, and the host
comes back. The key is pressed in the new session, and acknowledged. -/
def pressInTwoSessions : List RfOp :=
  connectUp ++ [.report press] ++ answered 0 ++ [.report noKeys] ++ answered 1 ++ answered 0 ++
    [.command 0x11, .expire .discardHid, .process] ++
    [.command 0x30, .process, .process, .txFinish, .process, .offer, .process, .report press] ++ answered 0 ++ answered 1

/-- The press comes again: the FIFO is empty, and the host shows it. -/
theorem dedup_swallows_no_news_again :
    let s := newKeyboard.after pressInTwoSessions
    s.log.sessions = 2 ∧ s.log.retired.length = 3 ∧ s.hid.newest = none ∧ s.IsNoNews press := by
  intro s
  have h : RfReachWhen RfOp.DiscardsReleased s := RfReachWhen.after (.init ⟨_, _, _, _, rfl⟩) (by decide +kernel)
  have hsame : s.hid.lastQueuedValid = true ∧ s.hid.lastQueued = press := by decide +kernel
  obtain ⟨hfifo, htail⟩ := fifo_rfQueueHIDReport press s
  rw [queueReport_exec, if_pos hsame] at hfifo htail
  exact ⟨by decide +kernel, by decide +kernel, by decide +kernel, dedup_swallows_no_news h press hfifo htail⟩

/-- The host selects USB, a key is pressed, and the queue is discarded. -/
def discardedPress : List RfOp := [.process, .command 0x11, .report press, .expire .discardHid, .process]

/-- The key is pressed again: nothing is queued, and the host shows no key. -/
theorem dedup_swallows_no_news_false : ∃ s report, RfReach s ∧ ((rfQueueHIDReport report).exec s).hid.fifo = s.hid.fifo ∧
    ((rfQueueHIDReport report).exec s).hid.tail = s.hid.tail ∧ ¬s.IsNoNews report := by
  refine ⟨newKeyboard.after discardedPress, press, RfReach.after (.init ⟨_, _, _, _, rfl⟩) _, rfl, rfl, ?_⟩
  have hnone : (newKeyboard.after discardedPress).hid.newest = none := by decide +kernel
  have hshown : press ≠ (newKeyboard.after discardedPress).shown := by decide +kernel
  rw [Rf.IsNoNews, hnone]
  exact fun h => h.elim nofun fun h => hshown h.2

/-! ## Keys under a resting link -/

/-- A statement that does not count an entry into rest. -/
def UpStmt (f : Rf → Rf) : Prop := ∀ s : Rf, (f s).trace.restEntries = s.trace.restEntries

attribute [local simp] UpStmt

theorem restEntries_exec {p : RfM Unit} (h : Each UpStmt p) (s : Rf) : (p.exec s).trace.restEntries = s.trace.restEntries :=
  h.view_run (v := fun s => s.trace.restEntries) s

/-- Outside TMOS and `RF_ConnectedTick` the link does not go to rest, and no probe ends. -/
theorem RfLink.moves_outside {l l' : RfLink} {op : RfOp} (hs : RfLink.Step op l l') (hp : op ≠ .process)
    (ht : op ≠ .connectedTick) : l'.moves = l.moves := by
  cases hs with
  | same hs => exact moves_same hs
  | report e => exact moves_wakeRest _
  | select u => exact moves_select l
  | pair u => exact moves_enterPairing l
  | factoryPair u => exact moves_enterPairing l.drop.forget
  | firstPacket _ _ hs | offer _ _ hs | answer _ _ hs => exact (moves_same hs).trans rfl
  | leave | unpair | told | expire | advance | quiesce => rfl
  | event | idleOver | idleRetry | idleSkip => exact absurd rfl hp
  | caughtProbe | supervise => exact absurd rfl ht

/-- Only the handler of `RF_EVT_REST_IDLE` goes to rest. -/
theorem restEntries_apply {op : RfOp} (h : (op.apply s).trace.restEntries ≠ s.trace.restEntries) :
    op = .process ∧ s.tmos.next = some .restIdle := by
  by_cases hp : op = .process
  · subst hp
    refine ⟨rfl, ?_⟩
    change (tmosProcess.exec s).trace.restEntries ≠ _ at h
    cases hn : s.tmos.next with
    | none =>
      have hexec : tmosProcess.exec s = s := by simp [tmosProcess, exec, run, hn]
      exact absurd (by rw [hexec]) h
    | some e =>
      rw [tmosProcess_exec hn] at h
      cases e with
      | restIdle => rfl
      | _ => exact absurd (restEntries_exec (by simp [rfProcessEvent]) _) h
  · by_cases ht : op = .connectedTick
    · subst ht
      exact absurd (restEntries_exec (by simp) s) h
    · exact absurd (congrArg Prod.fst (RfLink.moves_outside (step_apply op s) hp ht)) h

/-- It does so only when no key is held. -/
theorem restEntries_onRestIdle (h : (onRestIdle.exec s).trace.restEntries ≠ s.trace.restEntries) :
    s.state = .connected ∧ s.hid.isEmpty = true ∧ s.hid.keyHeld = false := by
  by_cases hdue : s.state = .connected ∧ s.rest.probe = false
  · by_cases hrests : (s.hid.isEmpty && !s.resp.responsePending && !s.hid.keyHeld) = true
    · simp only [Bool.and_eq_true, Bool.not_eq_true'] at hrests
      exact ⟨hdue.1, hrests.1.1, hrests.2⟩
    · refine absurd ?_ h
      simp [onRestIdle, exec, whenever, hdue, hrests]
  · refine absurd ?_ h
    simp [onRestIdle, exec, whenever]
    grind

/-- In every run in which a session starts with `hid_last_queued` valid, or with no key in the report queued last: when the link
goes to rest, the report that the dongle acknowledged last in the session, if there is one, holds no key. -/
theorem rests_with_keys_released (h : RfReachWhen RfOp.StartsKnown s) {op : RfOp}
    (hrest : (op.apply s).trace.restEntries ≠ s.trace.restEntries) :
    s.state = .connected ∧ ∀ r ∈ s.log.lastAcknowledged, r = noKeys := by
  have hs : s.NewsOk False True := news_reach h nofun fun _ _ _ => id
  obtain ⟨rfl, hn⟩ := restEntries_apply hrest
  change (tmosProcess.exec s).trace.restEntries ≠ _ at hrest
  rw [tmosProcess_exec hn] at hrest
  obtain ⟨hc, hempty, hheld⟩ := restEntries_onRestIdle hrest
  have hnone : s.hid.newest = none := if_neg (not_not.mpr (of_decide_eq_true hempty))
  have hshown : s.shown = noKeys := by
    cases hv : s.hid.lastQueuedValid with
    | false => exact (hs.stale trivial hv hc).2 hnone
    | true => exact (hs.gone hv hnone).elim (·.trans (Rf.NewsOk.released_of_keyHeld hheld hv)) id
  refine ⟨hc, fun r hr => ?_⟩
  rw [Rf.shown, if_pos hc, hr] at hshown
  exact hshown

/-- A key is pressed and released, the dongle acknowledges both, and nothing happens for a while. -/
def pressAndRelease : List RfOp :=
  connectUp ++ [.report press] ++ answered 0 ++ [.report noKeys] ++ answered 1 ++ answered 0 ++ [.process, .expire .restIdle]

/-- The link rests then. -/
theorem rests_with_keys_released_release : (newKeyboard.after pressAndRelease).log.lastAcknowledged = some noKeys ∧
    ∀ r ∈ (newKeyboard.after pressAndRelease).log.lastAcknowledged, r = noKeys := by
  have h : RfReachWhen RfOp.StartsKnown (newKeyboard.after pressAndRelease) :=
    RfReachWhen.after (.init ⟨_, _, _, _, rfl⟩) (by decide +kernel)
  have hrest : ((RfOp.process).apply (newKeyboard.after pressAndRelease)).trace.restEntries ≠
      (newKeyboard.after pressAndRelease).trace.restEntries := by decide +kernel
  exact ⟨by decide +kernel, (rests_with_keys_released h hrest).2⟩

/-- A key is pressed, and before the dongle polls for the report the host selects USB and 2.4G again: the report is delivered in
the next session, in which nothing happens for a while. -/
def heldAcrossSessions : List RfOp :=
  connectUp ++ [.report press, .command 0x11, .command 0x30, .process, .process, .txFinish, .process, .offer, .process] ++
    answered 0 ++ answered 1 ++ [.process, .expire .restIdle]

/-- The link rests, and the dongle acknowledged the press last. -/
theorem rests_with_keys_released_false : ∃ s, RfReach s ∧
    (RfOp.process.apply s).trace.restEntries ≠ s.trace.restEntries ∧ s.log.lastAcknowledged = some press ∧ press ≠ noKeys :=
  ⟨newKeyboard.after heldAcrossSessions, RfReach.after (.init ⟨_, _, _, _, rfl⟩) _, by decide +kernel, by decide +kernel,
    by decide⟩

end OpenController
