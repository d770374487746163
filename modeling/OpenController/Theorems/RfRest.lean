import OpenController.Lemmas.RfLinkRun

/-!
# A link that rests strands no report

In every state that is reached, a link that rests or probes in silence has nothing queued, and a report that comes then leaves a
probe that will be the session, or the session itself; as long as something is queued the link does not go to rest and no probe
ends.
-/

namespace OpenController

/-- The radio is off, or will be without anybody being told: the link rests, or a probe is in flight that no report woke. -/
def Rf.restsSilently (s : Rf) : Prop := s.state = .resting ∨ s.rest.probe = true ∧ s.rest.probeWake = false

/-- The link is a session, or a probe that will be one. -/
def Rf.isWoken (s : Rf) : Prop :=
  s.rest.probe = true ∧ s.rest.probeWake = true ∨ s.state = .connected ∧ s.rest.probe = false

/-- How often the link went to rest, and how often a probe ended, caught and missed. -/
def Rf.restMoves (s : Rf) : Nat × Nat × Nat := (s.trace.restEntries, s.trace.restProbeCatches, s.trace.restProbeMisses)

namespace RfLink

variable {l l' : RfLink}

/-- How often the link went to rest, and how often a probe ended. -/
def moves (l : RfLink) : Nat × Nat × Nat := (l.rests, l.catches, l.misses)

theorem moves_armIdle (l : RfLink) : l.armIdle.moves = l.moves := by
  unfold armIdle
  split <;> rfl

theorem moves_promote (l : RfLink) : l.promote.moves = l.moves := moves_armIdle _

theorem moves_probeStart (l : RfLink) : l.probeStart.moves = l.moves := by
  unfold probeStart
  split <;> rfl

theorem moves_connect (l : RfLink) : l.connect.moves = l.moves := by
  unfold connect
  split
  · dsimp only
    split
    · rfl
    · split
      · exact moves_promote _
      · exact moves_armIdle _
  · rfl

theorem moves_enterPairing (l : RfLink) : l.enterPairing.moves = l.moves := by
  unfold enterPairing
  split <;> rfl

theorem moves_select (l : RfLink) : l.select.moves = l.moves := by
  unfold select
  dsimp only
  split
  · rfl
  · split
    · split
      · exact moves_promote _
      · rfl
    · split <;> rfl

theorem moves_wakeRest (l : RfLink) : l.wakeRest.moves = l.moves := by
  unfold wakeRest
  split
  · exact moves_probeStart _
  · split
    · dsimp only
      split
      · exact moves_promote _
      · rfl
    · exact moves_armIdle _

theorem moves_same (h : Same l l') : l'.moves = l.moves := by
  rw [moves, moves, h.rests, h.catches, h.misses]

/-- A handler other than that of `RF_EVT_REST_IDLE` ends a probe only when it is silent. -/
theorem moves_handle (h : l.Inv) (he : l.empty = false) (e : RfEvt) : (l.handle e).moves = l.moves := by
  cases e with
  | pairBcast =>
    dsimp only [handle, broadcast]
    split
    · split <;> rfl
    · rfl
  | pairTimeout | restStage2 =>
    dsimp only [handle]
    split <;> rfl
  | enterConnected => exact moves_connect l
  | restProbe =>
    dsimp only [handle]
    split
    · exact moves_probeStart _
    · rfl
  | restProbeTimeout =>
    dsimp only [handle]
    split
    · rename_i hp
      split
      · rfl
      · rename_i hw
        exact nomatch he.symm.trans (h.silent hp (by simpa using hw))
    · rfl
  | disconnect =>
    dsimp only [handle, lapse]
    split <;> rfl
  | start | rxRestart | pairRxOff | respond | notifyLed | discardHid | saveBond | restIdle => rfl

/-- While something is queued the link does not go to rest, and no probe ends. -/
theorem moves_step {op : RfOp} (h : l.Inv) (hs : Step op l l') (he : l.empty = false) : l'.moves = l.moves := by
  cases hs with
  | same hs => exact moves_same hs
  | report e => exact moves_wakeRest _
  | select u => exact moves_select l
  | leave u | unpair u | told u => rfl
  | pair u => exact moves_enterPairing l
  | factoryPair u => exact moves_enterPairing l.drop.forget
  | event hn _ _ => exact moves_handle (h.take _) he _
  | idleOver _ _ _ he' => exact nomatch he.symm.trans he'
  | idleRetry _ _ _ | idleSkip _ _ => rfl
  | caughtProbe _ hq =>
    obtain ⟨hp, hw⟩ := h.quiet hq
    exact nomatch he.symm.trans (h.silent hp hw)
  | supervise _ hs | firstPacket _ _ hs | offer _ _ hs | answer _ _ hs => exact (moves_same hs).trans rfl
  | expire | advance | quiesce => rfl

/-- A report wakes a link that rests or probes. -/
theorem woken_wakeRest (h : l.Inv) (hr : l.state = .resting ∨ l.probe = true) (e : Bool) :
    let l' := { l with empty := e }.wakeRest
    l'.probe = true ∧ l'.wake = true ∨ l'.state = .connected ∧ l'.probe = false := by
  unfold wakeRest
  dsimp only
  by_cases hs : l.state = .resting
  · obtain ⟨_, hb, hm, _⟩ := h.resting hs
    rw [if_pos hs]
    unfold probeStart
    rw [if_pos (by simp [hb, hm])]
    exact .inl ⟨rfl, rfl⟩
  · have hp := hr.resolve_left hs
    rw [if_neg hs, if_pos hp]
    by_cases hc : l.state = .connected
    · rw [if_pos hc]
      unfold promote armIdle
      rw [if_pos ⟨hc, rfl⟩]
      exact .inr ⟨hc, rfl⟩
    · rw [if_neg hc]
      exact .inl ⟨hp, rfl⟩

end RfLink

/-- While something is queued, nothing that happens sends the link to rest or ends a probe. -/
theorem restMoves_apply {s : Rf} (h : RfReach s) (he : s.hid.isEmpty = false) (op : RfOp) :
    (op.apply s).restMoves = s.restMoves :=
  RfLink.moves_step (RfLink.inv_reach h) (step_apply op s) he

/-- Over a run, as long as something is queued, the link does not go to rest and no probe ends. -/
theorem restMoves_after {s : Rf} (h : RfReach s) (ops : List RfOp)
    (he : ∀ i < ops.length, (s.after (ops.take i)).hid.isEmpty = false) : (s.after ops).restMoves = s.restMoves := by
  induction ops generalizing s with
  | nil => rfl
  | cons op ops ih =>
    have h0 : s.hid.isEmpty = false := he 0 (Nat.zero_lt_succ _)
    have hr := ih (.step op h rfl) fun i hi => he (i + 1) (Nat.succ_lt_succ hi)
    exact hr.trans (restMoves_apply h h0 op)

/-- A link that rests, or probes in silence, has no report queued; a report that comes while it rests or probes makes it a
session or a probe that will be one; and from then on, until the queue is empty again, the link does not go to rest and no probe
ends. -/
theorem rest_strands_no_report {s : Rf} (h : RfReach s) :
    (s.restsSilently → s.hid.isEmpty = true) ∧
      ∀ (sub : Byte) (report : Report), s.state = .resting ∨ s.rest.probe = true →
        let t := (RfOp.frame 0xA1 sub report).apply s
        t.isWoken ∧
          ∀ ops : List RfOp, (∀ i < ops.length, (t.after (ops.take i)).hid.isEmpty = false) →
            (t.after ops).restMoves = t.restMoves := by
  have hi := RfLink.inv_reach h
  refine ⟨?_, ?_⟩
  · rintro (hr | ⟨hp, hw⟩)
    · exact (hi.resting hr).1
    · exact hi.silent hp hw
  · intro sub report hr t
    refine ⟨?_, fun ops => restMoves_after (.step _ h rfl) ops⟩
    have hl : t.link = { s.link with empty := ((queueReport report).run s).2.hid.isEmpty }.wakeRest :=
      link_rfQueueHIDReport report s
    have hw := RfLink.woken_wakeRest hi hr ((queueReport report).run s).2.hid.isEmpty
    rw [← hl] at hw
    exact hw

/-- A key while the keyboard rests. -/
theorem rest_strands_no_report_key :
    ((RfOp.frame 0xA1 0 (Vector.replicate 8 4)).apply (newKeyboard.after (pairUp ++ connectAndRest))).isWoken := by
  have h : RfReach (newKeyboard.after (pairUp ++ connectAndRest)) := RfReach.after (.init ⟨_, _, _, _, rfl⟩) _
  exact ((rest_strands_no_report h).2 0 (Vector.replicate 8 4) (.inl (by decide +kernel))).1

end OpenController
