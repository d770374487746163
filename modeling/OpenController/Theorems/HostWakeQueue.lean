import OpenController.Lemmas.HostWakeRun

/-!
# Host wake refines a queue

Every run of the machine is a run of the abstract queue (`run_refines`), and what a run of the abstract queue shows is what a
queue should show: `HostQueue.Run.accepted_eq`, `HostQueue.Run.wire_eq` and `HostQueue.Run.retired_eq`.
-/

namespace OpenController

/-! ## What a run of the abstract queue shows -/

/-- The frames taken, in order: the ones done with, then the one on the wire. -/
def HostQueue.taken (q : HostQueue) : List Sending := q.done.map Prod.fst ++ q.current.toList

/-- The frames taken from the queue. -/
def HostQueue.takenQueued (q : HostQueue) : List Frame := (q.taken.filter fun s => !s.led).map (·.frame)

namespace HostQueue

variable {max : Nat} {evs : List HostWakeEvent} {q : HostQueue}

/-- The first copies of queued frames are the queued frames taken, and with the frames that wait they are the frames accepted. -/
theorem Run.accepted_eq (h : Run max evs q) :
    queuedFirstCopies evs = q.takenQueued ∧ acceptedFrames evs = q.takenQueued ++ q.waiting := by
  induction h with
  | start => exact ⟨rfl, rfl⟩
  | accepted f _ _ ih | refused f _ _ ih | ledSet f _ ih =>
    simp_all [queuedFirstCopies, acceptedFrames, takenQueued, taken]
  | ack _ ih => simp_all [queuedFirstCopies, acceptedFrames, takenQueued, taken]
  | takeLed f _ _ ih | takeQueued f _ _ ih => simp_all [queuedFirstCopies, acceptedFrames, takenQueued, taken]
  | resend s _ _ ih =>
    cases hl : s.led <;> simp_all [queuedFirstCopies, acceptedFrames, takenQueued, taken]
  | retired s _ _ ih => simp_all [queuedFirstCopies, acceptedFrames, takenQueued, taken]

/-- How many queued frames a frame done with is. -/
theorem Run.retired_eq (h : Run max evs q) : queuedRetired evs = (q.done.filter fun p => !p.1.led).length := by
  induction h with
  | start => rfl
  | accepted f _ _ ih | refused f _ _ ih | ledSet f _ ih => simpa [queuedRetired] using ih
  | ack _ ih => simpa [queuedRetired] using ih
  | takeLed f _ _ ih | takeQueued f _ _ ih => simpa [queuedRetired] using ih
  | resend s _ _ ih => simpa [queuedRetired] using ih
  | retired s ab _ ih => cases hl : s.led <;> simp_all [queuedRetired]

/-- The copies and retirements are, frame by frame in the order they were taken, the copies of the frame and its retirement. -/
theorem Run.wire_eq (h : Run max evs q) :
    (∀ s ∈ q.taken, 1 ≤ s.copies ∧ s.copies ≤ max) ∧
      wireEvents evs = q.done.flatMap doneTrace ++ q.current.elim [] Sending.trace := by
  induction h with
  | start => exact ⟨by simp [taken], rfl⟩
  | accepted f _ _ ih | refused f _ _ ih | ledSet f _ ih => simpa [wireEvents, taken] using ih
  | ack _ ih => simpa [wireEvents, taken] using ih
  | takeLed f hm _ ih | takeQueued f hm _ ih =>
    obtain ⟨hc, hw⟩ := ih
    refine ⟨?_, ?_⟩
    · intro s hs
      simp only [taken, Option.toList_some, List.mem_append, List.mem_singleton] at hs
      rcases hs with hs | rfl
      · exact hc s (by simp [taken, hs])
      · exact ⟨Nat.le_refl 1, hm⟩
    · simp only [wireEvents, List.filter_append] at hw ⊢
      rw [hw]
      simp [Sending.trace]
  | resend s _ hlt ih =>
    obtain ⟨hc, hw⟩ := ih
    have hs := hc s (by simp [taken])
    obtain ⟨n, hn⟩ : ∃ n, s.copies = n + 1 := ⟨s.copies - 1, by omega⟩
    refine ⟨?_, ?_⟩
    · intro s' hs'
      simp only [taken, Option.toList_some, List.mem_append, List.mem_singleton] at hs'
      rcases hs' with hs' | rfl
      · exact hc s' (by simp [taken, hs'])
      · exact ⟨Nat.succ_pos _, hlt⟩
    · simp only [wireEvents, List.filter_append] at hw ⊢
      rw [hw]
      simp [Sending.trace, hn, List.replicate_succ']
  | retired s b _ ih =>
    obtain ⟨hc, hw⟩ := ih
    refine ⟨by simpa [taken] using hc, ?_⟩
    simp only [wireEvents, List.filter_append] at hw ⊢
    rw [hw]
    simp [doneTrace]

/-- The frames accepted are the queued frames done with and those held. -/
theorem Run.length_eq (h : Run max evs q) : (acceptedFrames evs).length = queuedRetired evs + q.held := by
  rw [h.retired_eq, h.accepted_eq.2]
  have hmap : (List.filter (fun s => !s.led) (q.done.map Prod.fst)).length =
      (q.done.filter fun p => !p.1.led).length := by
    rw [List.filter_map, List.length_map]
    rfl
  simp only [takenQueued, taken, List.filter_append, List.map_append, List.length_append, List.length_map, hmap, held]
  cases hc : q.current with
  | none =>
    simp only [Option.toList_none, List.filter_nil, List.length_nil, Option.elim_none]
    omega
  | some s =>
    cases hl : s.led
    · simp [hl]
      omega
    · simp [hl]

end HostQueue

/-! ## Every run of the machine is a run of the abstract queue -/

namespace HostWake

variable {g t : Fin 4294967296} {m : Fin 256}

/-- The result of a step leads the abstract queue on. -/
def Leads (hw : HostWake) (evs : List HostWakeEvent) (r : HostWake × HostWakeStep) : Prop :=
  Ok r.1 ∧ ∃ done', HostQueue.Run hw.maxAttempts (evs ++ hw.eventsTo r) (r.1.abs done')

section Leads

variable {evs : List HostWakeEvent} {done : List (Sending × Bool)} {hw : HostWake}

theorem leads_self (line : Bool) (h : Ok hw) (hr : HostQueue.Run hw.maxAttempts evs (hw.abs done)) :
    Leads hw evs (hw, .quiet line) := by
  refine ⟨h, done, ?_⟩
  rw [eventsTo_self, List.append_nil]
  exact hr

theorem leads_sendNext (now : Nat) (h : Ok hw) (hs : hw.state ≠ .waitAck) (hp : hw.havePending = true)
    (hr : HostQueue.Run hw.maxAttempts evs (hw.abs done)) : Leads hw evs (hw.sendNext now) := by
  rw [abs_between hw hs] at hr
  refine ⟨ok_sendNext hw now h.toSized hp, done, ?_⟩
  rw [eventsTo_sendNext hw hw now rfl]
  exact run_sendNext hw now h.toSized hp h.max_pos hr

theorem leads_idle (h : Ok hw) (hs : hw.state ≠ .waitAck) (hr : HostQueue.Run hw.maxAttempts evs (hw.abs done)) :
    Leads hw evs (hw.inState .idle, .quiet false) := by
  refine ⟨{ h.toSized with copies := nofun, outHead := fun hq => by simp [queuedOut, inState] at hq,
                           guardPending := nofun }, done, ?_⟩
  rw [eventsTo_inState, List.append_nil, abs_between _ (by simp [inState])]
  rw [abs_between hw hs] at hr
  exact hr

theorem leads_guard (now : Nat) (h : Ok hw) (hs : hw.state ≠ .waitAck) (hp : hw.havePending = true)
    (hr : HostQueue.Run hw.maxAttempts evs (hw.abs done)) :
    Leads hw evs ({ hw with state := .guard, since := now }, .quiet true) := by
  refine ⟨{ h.toSized with copies := nofun, outHead := fun hq => by simp [queuedOut] at hq,
                           guardPending := fun _ => hp }, done, ?_⟩
  have hev : hw.eventsTo ({ hw with state := .guard, since := now }, .quiet true) = [] := by
    simp [eventsTo, HostWakeStep.quiet]
  rw [hev, List.append_nil, abs_between _ (by simp)]
  rw [abs_between hw hs] at hr
  exact hr

theorem leads_retire (now : Nat) (abandoned : Bool) (h : Ok hw) (hs : hw.state = .waitAck)
    (hr : HostQueue.Run hw.maxAttempts evs (hw.abs done)) : Leads hw evs (hw.retire now abandoned) := by
  obtain ⟨h1, h2⟩ := run_retire hw now abandoned h hs hr h.max_pos
  exact ⟨h1, _, h2⟩

theorem leads_transmit (now : Nat) (h : Ok hw) (hs : hw.state = .waitAck) (ha : hw.attempts < hw.maxAttempts)
    (hr : HostQueue.Run hw.maxAttempts evs (hw.abs done)) : Leads hw evs (hw.transmit now) :=
  ⟨ok_transmit hw now h hs ha, done, run_transmit hw now h hs ha hr⟩

/-- Every step leads the abstract queue on. -/
theorem leads_step (now : Nat) (h : Ok hw) (hr : HostQueue.Run hw.maxAttempts evs (hw.abs done)) :
    Leads hw evs (hw.step now) := by
  unfold step
  split
  · rename_i hs
    split
    · exact leads_self true h hr
    · exact leads_sendNext now h (by simp [hs]) (h.guardPending hs) hr
  · rename_i hs
    split
    · exact leads_retire now false h hs hr
    · split
      · exact leads_self true h hr
      · split
        · exact leads_retire now true h hs hr
        · exact leads_transmit now h hs (by omega) hr
  · rename_i hs
    split
    · exact leads_self true h hr
    · split
      · exact leads_sendNext now h (by simp [hs]) ‹_› hr
      · exact leads_idle h (by simp [hs]) hr
  · rename_i hs
    split
    · exact leads_self false h hr
    · exact leads_guard now h (by simp [hs]) (by simp_all) hr

end Leads

/-- A frame is refused exactly when the queue is full. -/
theorem enqueue_refuses (hw : HostWake) (cmd val : Byte) :
    (hw.enqueue cmd val).2 = false ↔ hostWakeQueueSize ≤ hw.count := by
  by_cases hf : hw.count ≥ hostWakeQueueSize
  · simp [enqueue, hf]
  · simp [enqueue, hf]

theorem maxAttempts_step (hw : HostWake) (now : Nat) : (hw.step now).1.maxAttempts = hw.maxAttempts := by
  have hnext : ∀ hw : HostWake, (hw.sendNext now).1.maxAttempts = hw.maxAttempts := by
    intro hw
    simp only [sendNext, transmit, takeNext]
    split <;> rfl
  have hret : ∀ b, (hw.retiring b).maxAttempts = hw.maxAttempts := by
    intro b
    simp only [retiring, settle]
    split
    · rfl
    · split <;> rfl
  have hretire : ∀ b, (hw.retire now b).1.maxAttempts = hw.maxAttempts := by
    intro b
    unfold retire
    split
    · exact hret b
    · split
      · exact (hnext _).trans (hret b)
      · exact hret b
  unfold step
  repeat' split
  all_goals first | rfl | exact hnext hw | exact hretire _

/-- Every run of the machine keeps the invariant and the number of attempts, and is a run of the abstract queue. -/
theorem run_refines {hw : HostWake} {evs : List HostWakeEvent} (h : Run g t m hw evs) :
    Ok hw ∧ hw.maxAttempts = (init g t m).maxAttempts ∧ ∃ done, HostQueue.Run hw.maxAttempts evs (hw.abs done) := by
  induction h with
  | init => exact ⟨ok_init g t m, rfl, [], HostQueue.Run.start⟩
  | @enqueue hw evs cmd val _ ih =>
    obtain ⟨hok, hmax, done, hr⟩ := ih
    have hm : (hw.enqueue cmd val).1.maxAttempts = hw.maxAttempts := by
      unfold enqueue
      split <;> rfl
    exact ⟨ok_enqueue hw cmd val hok, hm.trans hmax, done, hm ▸ run_enqueue hw cmd val hok hr⟩
  | setLatest cmd val _ ih =>
    obtain ⟨hok, hmax, done, hr⟩ := ih
    exact ⟨ok_setLatest _ cmd val hok, hmax, done, hr.ledSet _⟩
  | @onAck hw evs _ ih =>
    obtain ⟨hok, hmax, done, hr⟩ := ih
    have hm : hw.onAck.maxAttempts = hw.maxAttempts := by
      unfold onAck
      split <;> rfl
    exact ⟨ok_onAck hw hok, hm.trans hmax, done, hm ▸ abs_onAck hw ▸ hr.ack⟩
  | @step hw evs now _ ih =>
    obtain ⟨hok, hmax, done, hr⟩ := ih
    have hm := maxAttempts_step hw now
    obtain ⟨hok', done', hr'⟩ := leads_step now.val hok hr
    exact ⟨hok', hm.trans hmax, done', hm ▸ hr'⟩

end HostWake

/-- Host wake refines a queue. For every interleaving of the four operations, with arbitrary times and ACKs: (a) the first copies
of queued frames are the accepted frames in their order, and the rest of the accepted frames is what the queue still holds; (b)
the copies and retirements are, frame by frame, between one and `maxAttempts` identical copies and then the frame's retirement;
(c) a frame is refused exactly when eight accepted ones are not retired; (d) the accepted frames are the queued frames retired
and those counted. -/
theorem hostWake_queue (g t : Fin 4294967296) (m : Fin 256) (hw : HostWake) (evs : List HostWakeEvent)
    (h : HostWake.Run g t m hw evs) :
    acceptedFrames evs = queuedFirstCopies evs ++ hw.unsent ∧
    (∃ (done : List (Sending × Bool)) (current : Option Sending),
      wireEvents evs = done.flatMap doneTrace ++ current.elim [] Sending.trace ∧
        ∀ s ∈ done.map Prod.fst ++ current.toList, 1 ≤ s.copies ∧ s.copies ≤ max 1 m.val) ∧
    (∀ cmd val, (hw.enqueue cmd val).2 = false ↔ (acceptedFrames evs).length = queuedRetired evs + hostWakeQueueSize) ∧
    (acceptedFrames evs).length = queuedRetired evs + hw.count := by
  obtain ⟨hok, hmax, done, hr⟩ := HostWake.run_refines h
  have hmax' : hw.maxAttempts = max 1 m.val := by
    rw [hmax]
    simp only [HostWake.init]
    split <;> omega
  obtain ⟨hfirst, hacc⟩ := hr.accepted_eq
  obtain ⟨hcopies, hwire⟩ := hr.wire_eq
  have hd : (acceptedFrames evs).length = queuedRetired evs + hw.count := by
    rw [hr.length_eq, HostWake.held_abs done hw hok]
  refine ⟨by rw [hacc, hfirst]; rfl, ⟨done, hw.current, hwire, ?_⟩, ?_, hd⟩
  · rw [← hmax']
    exact hcopies
  · intro cmd val
    have hle := hok.count_le
    rw [HostWake.enqueue_refuses, hd, hostWakeQueueSize]
    omega

/-- The queue is full, and a frame is refused. The first frame goes out twice before it is ACKed, and the second follows. -/
theorem hostWake_queue_full : ∃ hw evs, HostWake.Run 10 100 3 hw evs ∧
    acceptedFrames evs = queuedFirstCopies evs ++ hw.unsent ∧ (acceptedFrames evs).length = queuedRetired evs + hw.count ∧
    (acceptedFrames evs).length = 8 ∧ (HostWakeEvent.refused ⟨0x5B, 8⟩) ∈ evs ∧
    wireEvents evs = [.copy ⟨0x5B, 0⟩ false true, .copy ⟨0x5B, 0⟩ false false, .retired false false, .copy ⟨0x5B, 1⟩ false true] := by
  have htwo := ((HostWake.Run.init (g := 10) (t := 100) (m := 3)).enqueue 0x5B 0).enqueue 0x5B 1
  have hfive := ((htwo.enqueue 0x5B 2).enqueue 0x5B 3).enqueue 0x5B 4
  have hrefused := (((hfive.enqueue 0x5B 5).enqueue 0x5B 6).enqueue 0x5B 7).enqueue 0x5B 8
  have htwice := ((hrefused.step 0).step 10).step 110
  have hnext := (htwice.onAck.step 120).step 310
  obtain ⟨ha, _, _, hd⟩ := hostWake_queue 10 100 3 _ _ hnext
  exact ⟨_, _, hnext, ha, hd, by decide, by decide, by decide⟩

end OpenController
