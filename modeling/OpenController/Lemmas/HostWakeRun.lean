import OpenController.Lemmas.HostWakeAux

/-!
# Every step of host wake is a run of the abstract queue

One lemma for each operation: it keeps the invariant `Ok`, and what it shows leads the abstract queue from the state it stood for
before to the one it stands for after.
-/

namespace OpenController
namespace HostWake

variable {max : Nat} {evs : List HostWakeEvent} {done : List (Sending × Bool)}

theorem ok_init (g t : Fin 4294967296) (m : Fin 256) : Ok (init g t m) := by
  refine { head_lt := by simp [init], count_le := by simp [init], max_pos := ?_, max_lt := ?_, copies := nofun,
           outHead := ?_, guardPending := nofun }
  · simp only [init]
    split <;> omega
  · simp only [init]
    have := m.isLt
    split <;> omega
  · intro h
    simp [queuedOut, init] at h

/-! ## Offering a frame, setting the LED value, an ACK -/

theorem ok_enqueue (hw : HostWake) (cmd val : Byte) (h : Ok hw) : Ok (hw.enqueue cmd val).1 := by
  by_cases hf : hw.count ≥ hostWakeQueueSize
  · simp only [enqueue, if_pos hf]
    exact { h with }
  · have hc : hw.count < 8 := by simpa [hostWakeQueueSize] using hf
    have hh := h.head_lt
    have hne : hw.queuedOut = true → (hw.head + hw.count) % 8 ≠ hw.head := by
      intro hq
      have := (h.outHead hq).1
      omega
    refine { head_lt := ?_, count_le := ?_, max_pos := ?_, max_lt := ?_, copies := ?_, outHead := ?_, guardPending := ?_ }
    all_goals simp only [enqueue, if_neg hf]
    · exact hh
    · simp only [u8]
      omega
    · exact h.max_pos
    · exact h.max_lt
    · exact h.copies
    · intro hq
      obtain ⟨hpos, hout⟩ := h.outHead hq
      have hslot : u8 ((hw.head + hw.count) % hostWakeQueueSize) ≠ hw.head := by
        simp only [u8, hostWakeQueueSize]
        have := hne hq
        omega
      refine ⟨by simp only [u8]; omega, ?_⟩
      simpa [frameAt, Function.update_of_ne (Ne.symm hslot)] using hout
    · intro _
      simp only [havePending, u8]
      have hn : (hw.count + 1) % 256 ≠ 0 := by omega
      simp [hn]

/-- The queue holds exactly what the abstract one holds. -/
theorem held_abs (done : List (Sending × Bool)) (hw : HostWake) (h : Ok hw) : (hw.abs done).held = hw.count := by
  have hl := queue_length hw
  simp only [HostQueue.held, abs, unsent, current, queuedOut, List.length_drop, hl]
  by_cases hs : hw.state = .waitAck
  · by_cases hq : hw.sendingLatest = true
    · simp [hs, hq]
    · have := (h.outHead (by simp [queuedOut, hs, hq])).1
      simp only [hs, hq, decide_true, Bool.not_false, Bool.and_true, if_true, Option.elim_some, Bool.false_eq_true, if_false]
      omega
  · simp [hs]

theorem run_enqueue (hw : HostWake) (cmd val : Byte) (h : Ok hw) (hr : HostQueue.Run max evs (hw.abs done)) :
    HostQueue.Run max (evs ++ [hw.enqueueEvent cmd val]) ((hw.enqueue cmd val).1.abs done) := by
  have hheld := held_abs done hw h
  by_cases hf : hw.count ≥ hostWakeQueueSize
  · have hev : hw.enqueueEvent cmd val = .refused ⟨cmd, val⟩ := by simp [enqueueEvent, enqueue, hf]
    have habs : (hw.enqueue cmd val).1.abs done = hw.abs done := by simp only [enqueue, if_pos hf]; rfl
    rw [hev, habs]
    refine hr.refused _ ?_
    have := h.count_le
    simp only [hostWakeQueueSize] at hf ⊢
    omega
  · have hc : hw.count < 8 := by simpa [hostWakeQueueSize] using hf
    have hev : hw.enqueueEvent cmd val = .accepted ⟨cmd, val⟩ := by simp [enqueueEvent, enqueue, hf]
    have hst : (hw.enqueue cmd val).1.queuedOut = hw.queuedOut := by simp only [enqueue, if_neg hf]; rfl
    have hcur : (hw.enqueue cmd val).1.current = hw.current := by simp only [enqueue, if_neg hf]; rfl
    have hun : (hw.enqueue cmd val).1.unsent = hw.unsent ++ [⟨cmd, val⟩] := by
      rw [unsent, unsent, hst, queue_enqueue hw cmd val hc, List.drop_append_of_le_length]
      rw [queue_length]
      split
      · rename_i hq
        exact (h.outHead hq).1
      · exact Nat.zero_le _
    have habs : (hw.enqueue cmd val).1.abs done = { hw.abs done with waiting := (hw.abs done).waiting ++ [⟨cmd, val⟩] } := by
      simp only [abs, hun, hcur]
    rw [hev, habs]
    exact hr.accepted _ (by simp only [hostWakeQueueSize]; omega)

theorem ok_setLatest (hw : HostWake) (cmd val : Byte) (h : Ok hw) : Ok (hw.setLatest cmd val) :=
  { h with guardPending := fun _ => by simp [havePending, setLatest] }

theorem ok_onAck (hw : HostWake) (h : Ok hw) : Ok hw.onAck := by
  unfold onAck
  split
  · exact { h with }
  · exact h

theorem abs_onAck (hw : HostWake) : hw.onAck.abs done = hw.abs done := by
  unfold onAck
  split <;> rfl

/-! ## A step -/

/-- A step that only moves the state shows nothing. -/
theorem eventsTo_inState (hw : HostWake) (s : HostWakeState) (line : Bool) :
    hw.eventsTo (hw.inState s, .quiet line) = [] := by
  simp [eventsTo, inState, HostWakeStep.quiet]

/-- A step that changes nothing shows nothing. -/
theorem eventsTo_self (hw : HostWake) (line : Bool) : hw.eventsTo (hw, .quiet line) = [] := hw.eventsTo_inState hw.state line

/-- Between frames, what waits is the whole queue. -/
theorem abs_between (hw : HostWake) (h : hw.state ≠ .waitAck) : hw.abs done = ⟨hw.queue, none, done⟩ := by
  simp [abs, unsent, queuedOut, current, h]

/-- Taking the next frame shows one first copy. -/
theorem eventsTo_sendNext (hw0 hw : HostWake) (now : Nat) (hr : hw.retired = hw0.retired) :
    hw0.eventsTo (hw.sendNext now) =
      [.copy ⟨(hw.sendNext now).2.cmd, (hw.sendNext now).2.val⟩ (hw.sendNext now).1.sendingLatest true] := by
  have h1 : (hw.sendNext now).1.retired = hw.retired := by
    simp only [sendNext, transmit, takeNext]
    split <;> rfl
  have h2 : (hw.sendNext now).2.send = true := rfl
  have h3 : (hw.sendNext now).1.attempts = 1 := rfl
  simp [eventsTo, h1, h2, h3, hr]

/-- A resend shows one more copy of the outstanding frame. -/
theorem eventsTo_transmit (hw : HostWake) (now : Nat) (h : Ok hw) (hs : hw.state = .waitAck) (ha : hw.attempts < hw.maxAttempts) :
    hw.eventsTo (hw.transmit now) = [.copy ⟨hw.outCmd, hw.outVal⟩ hw.sendingLatest false] := by
  obtain ⟨h1, _⟩ := h.copies hs
  have hlt := h.max_lt
  have hu : u8 (hw.attempts + 1) = hw.attempts + 1 := u8_of_lt (by omega)
  have hn : hw.attempts ≠ 0 := by omega
  simp [eventsTo, transmit, hu, hn]

/-- A resend is a resend of the abstract queue. -/
theorem run_transmit (hw : HostWake) (now : Nat) (h : Ok hw) (hs : hw.state = .waitAck) (ha : hw.attempts < hw.maxAttempts)
    (hr : HostQueue.Run hw.maxAttempts evs (hw.abs done)) :
    HostQueue.Run hw.maxAttempts (evs ++ hw.eventsTo (hw.transmit now)) ((hw.transmit now).1.abs done) := by
  obtain ⟨h1, _⟩ := h.copies hs
  have hlt := h.max_lt
  have hu : u8 (hw.attempts + 1) = hw.attempts + 1 := u8_of_lt (by omega)
  have hcur : hw.abs done = ⟨hw.unsent, some ⟨⟨hw.outCmd, hw.outVal⟩, hw.sendingLatest, hw.attempts⟩, done⟩ := by
    simp [abs, current, hs]
  have hq : (hw.transmit now).1.queuedOut = hw.queuedOut := by simp [queuedOut, transmit, hs]
  have hto : (hw.transmit now).1.abs done =
      ⟨hw.unsent, some ⟨⟨hw.outCmd, hw.outVal⟩, hw.sendingLatest, hw.attempts + 1⟩, done⟩ := by
    simp only [abs, unsent, hq]
    simp only [current, transmit, hu, if_true]
    rfl
  rw [eventsTo_transmit hw now h hs ha, hto]
  rw [hcur] at hr
  exact hr.resend _ ha

theorem ok_transmit (hw : HostWake) (now : Nat) (h : Ok hw) (hs : hw.state = .waitAck) (ha : hw.attempts < hw.maxAttempts) :
    Ok (hw.transmit now).1 := by
  obtain ⟨h1, _⟩ := h.copies hs
  have hlt := h.max_lt
  have hu : u8 (hw.attempts + 1) = hw.attempts + 1 := u8_of_lt (by omega)
  refine { head_lt := h.head_lt, count_le := h.count_le, max_pos := h.max_pos, max_lt := hlt, copies := fun _ => ?_,
           outHead := fun hq => ?_, guardPending := nofun }
  · simp only [transmit, hu]
    omega
  · exact h.outHead (by simpa [queuedOut, transmit, hs] using hq)

theorem settle_counts (hw : HostWake) (abandoned : Bool) :
    (hw.settle abandoned).retired = hw.retired ∧ (hw.settle abandoned).abandoned = hw.abandoned := by
  unfold settle
  split
  · exact ⟨rfl, rfl⟩
  · split <;> exact ⟨rfl, rfl⟩

/-- A retirement shows itself, and then what comes next. -/
theorem eventsTo_retiring (hw : HostWake) (abandoned : Bool) (r : HostWake × HostWakeStep)
    (hr : r.1.retired = (hw.retiring abandoned).retired) (ha : r.1.abandoned = (hw.retiring abandoned).abandoned) :
    hw.eventsTo r = .retired hw.sendingLatest abandoned :: (hw.retiring abandoned).eventsTo r := by
  obtain ⟨h1, h2⟩ := settle_counts hw abandoned
  have hne : u16 (hw.retired + 1) ≠ hw.retired := by simp only [u16]; omega
  have hne' : u16 (hw.abandoned + 1) ≠ hw.abandoned := by simp only [u16]; omega
  have hret : (hw.retiring abandoned).retired = u16 (hw.retired + 1) := by simp only [retiring, h1]
  have hab : (hw.retiring abandoned).abandoned = if abandoned then u16 (hw.abandoned + 1) else hw.abandoned := by
    simp only [retiring, h2]
  have hdec : decide (r.1.abandoned ≠ hw.abandoned) = abandoned := by
    rw [ha, hab]
    cases abandoned <;> simp [hne']
  simp only [eventsTo, hr, hret, hdec, ne_eq, hne, not_false_eq_true, if_true, not_true, if_false, List.nil_append,
    List.singleton_append]

/-- Once the outstanding frame is settled, what waits is the whole queue. -/
theorem queue_retiring (hw : HostWake) (abandoned : Bool) (h : Ok hw) (hs : hw.state = .waitAck) :
    (hw.retiring abandoned).queue = hw.unsent := by
  have hq : (hw.retiring abandoned).queue = (hw.settle abandoned).queue := rfl
  rw [hq]
  cases hl : hw.sendingLatest with
  | true => simp [queue_settle_led hw abandoned hl, unsent, queuedOut, hl]
  | false =>
    have hqo : hw.queuedOut = true := by simp [queuedOut, hs, hl]
    simp [queue_settle_queued hw abandoned h.toSized (h.outHead hqo).1 hl, unsent, hqo]

theorem sized_retiring (hw : HostWake) (abandoned : Bool) (h : Ok hw) (hs : hw.state = .waitAck) :
    Sized (hw.retiring abandoned) := by
  have := sized_settle hw abandoned h.toSized fun hl => (h.outHead (by simp [queuedOut, hs, hl])).1
  exact ⟨this.1, this.2, this.3, this.4⟩

/-- A retirement is a run of the abstract queue: the frame is done with, and perhaps the next one is taken. -/
theorem run_retire (hw : HostWake) (now : Nat) (abandoned : Bool) (h : Ok hw) (hs : hw.state = .waitAck)
    (hr : HostQueue.Run max evs (hw.abs done)) (hm : 1 ≤ max) :
    Ok (hw.retire now abandoned).1 ∧ HostQueue.Run max (evs ++ hw.eventsTo (hw.retire now abandoned))
      ((hw.retire now abandoned).1.abs (done ++ hw.current.toList.map (·, abandoned))) := by
  obtain ⟨s, hcur⟩ : ∃ s, hw.current = some s ∧ s.led = hw.sendingLatest := by simp [current, hs]
  rw [abs, hcur.1] at hr
  have hr' := hr.retired _ abandoned
  rw [hcur.2, ← queue_retiring hw abandoned h hs] at hr'
  have hsz := sized_retiring hw abandoned h hs
  rw [hcur.1, Option.toList_some, List.map_singleton]
  unfold retire
  split
  · refine ⟨{ hsz with
      copies := by rintro ⟨⟩
      outHead := fun hq => by simp [queuedOut, inState] at hq
      guardPending := by rintro ⟨⟩ }, ?_⟩
    rw [eventsTo_retiring hw abandoned _ rfl rfl, eventsTo_inState, abs_between _ (by simp [inState])]
    exact hr'
  · split
    · rename_i hp
      refine ⟨ok_sendNext _ now hsz hp, ?_⟩
      have h1 : ((hw.retiring abandoned).sendNext now).1.retired = (hw.retiring abandoned).retired := by
        simp only [sendNext, transmit, takeNext]
        split <;> rfl
      have h2 : ((hw.retiring abandoned).sendNext now).1.abandoned = (hw.retiring abandoned).abandoned := by
        simp only [sendNext, transmit, takeNext]
        split <;> rfl
      rw [eventsTo_retiring hw abandoned _ h1 h2, eventsTo_sendNext _ _ now rfl, ← List.singleton_append, ← List.append_assoc]
      exact run_sendNext _ now hsz hp hm hr'
    · refine ⟨{ hsz with
        copies := by rintro ⟨⟩
        outHead := fun hq => by simp [queuedOut, inState] at hq
        guardPending := by rintro ⟨⟩ }, ?_⟩
      rw [eventsTo_retiring hw abandoned _ rfl rfl, eventsTo_inState, abs_between _ (by simp [inState])]
      exact hr'

end HostWake
end OpenController
