import OpenController.HostQueue

/-!
# Helpers for host wake

What each function of `HostWake.lean` does to the queue and to the outstanding frame, and the invariant `Ok` of the machine.
-/

namespace OpenController
namespace HostWake

/-- The outstanding frame, with the copies of it sent so far. -/
def current (hw : HostWake) : Option Sending :=
  if hw.state = .waitAck then some ⟨⟨hw.outCmd, hw.outVal⟩, hw.sendingLatest, hw.attempts⟩ else none

/-- The abstract queue a state of the machine stands for, after the frames `done`. -/
def abs (hw : HostWake) (done : List (Sending × Bool)) : HostQueue := ⟨hw.unsent, hw.current, done⟩

/-- The indices are in range, and at least one attempt is made. -/
structure Sized (hw : HostWake) : Prop where
  head_lt : hw.head < 8
  count_le : hw.count ≤ 8
  max_pos : 1 ≤ hw.maxAttempts
  max_lt : hw.maxAttempts < 256

/-- The invariant: the outstanding frame has been sent, at most `maxAttempts` times; a queued one is still at the head of the
queue; CHWAKE goes high only when something is pending. -/
structure Ok (hw : HostWake) : Prop extends Sized hw where
  copies : hw.state = .waitAck → 1 ≤ hw.attempts ∧ hw.attempts ≤ hw.maxAttempts
  outHead : hw.queuedOut = true → 0 < hw.count ∧ hw.frameAt hw.head = ⟨hw.outCmd, hw.outVal⟩
  guardPending : hw.state = .guard → hw.havePending = true

theorem queue_length (hw : HostWake) : hw.queue.length = hw.count := Ring.length_view _ _ _ _

/-- The head of a queue that is not empty is the frame in the head slot. -/
theorem queue_head (hw : HostWake) (hs : Sized hw) (hc : 0 < hw.count) : hw.queue = hw.frameAt hw.head :: hw.queue.tail := by
  obtain ⟨n, hn⟩ : ∃ n, hw.count = n + 1 := ⟨hw.count - 1, by omega⟩
  simp only [queue, hn, Ring.view_cons, List.tail_cons, hostWakeQueueSize, Nat.mod_eq_of_lt hs.head_lt]

/-! ## The queue -/

/-- An accepted frame joins the queue at its end. -/
theorem queue_enqueue (hw : HostWake) (cmd val : Byte) (hc : hw.count < 8) :
    (hw.enqueue cmd val).1.queue = hw.queue ++ [⟨cmd, val⟩] := by
  have hslot : u8 ((hw.head + hw.count) % hostWakeQueueSize) = (hw.head + hw.count) % hostWakeQueueSize :=
    u8_of_lt (by simp only [hostWakeQueueSize]; omega)
  have hcount : u8 (hw.count + 1) = hw.count + 1 := u8_of_lt (by omega)
  have hge : ¬hw.count ≥ hostWakeQueueSize := by simp only [hostWakeQueueSize]; omega
  simp only [enqueue, if_neg hge, queue, hslot, hcount]
  rw [← Ring.view_push _ (show hw.count < hostWakeQueueSize from hc)]
  congr 1
  funext i
  simp only [frameAt, Function.update_apply]
  split <;> rfl

/-- A queued frame that is done with leaves the queue at its head. -/
theorem queue_settle_queued (hw : HostWake) (abandoned : Bool) (hs : Sized hw) (hc : 0 < hw.count)
    (hq : hw.sendingLatest = false) : (hw.settle abandoned).queue = hw.queue.tail := by
  obtain ⟨n, hn⟩ : ∃ n, hw.count = n + 1 := ⟨hw.count - 1, by omega⟩
  have hle := hs.count_le
  have hcount : u8 (n + 1 + 255) = n := by simp only [u8]; omega
  have hhead : u8 ((hw.head + 1) % hostWakeQueueSize) = (hw.head + 1) % hostWakeQueueSize :=
    u8_of_lt (by simp only [hostWakeQueueSize]; omega)
  have hsl : hw.frameAt = (hw.settle abandoned).frameAt := by
    funext i
    simp only [settle, hq, Bool.not_false, if_true, frameAt]
  rw [queue, ← hsl]
  simp only [settle, hq, Bool.not_false, if_true, hn, hcount, hhead, queue, Ring.view_cons, List.tail_cons]
  exact Ring.view_mod _ (Nat.dvd_refl _) _ _

/-- An LED frame that is done with leaves the queue alone. -/
theorem queue_settle_led (hw : HostWake) (abandoned : Bool) (hq : hw.sendingLatest = true) :
    (hw.settle abandoned).queue = hw.queue := by
  simp only [settle, hq, Bool.not_true, Bool.false_eq_true, if_false]
  split <;> rfl

theorem sized_settle (hw : HostWake) (abandoned : Bool) (hs : Sized hw) (hc : hw.sendingLatest = false → 0 < hw.count) :
    Sized (hw.settle abandoned) := by
  obtain ⟨h1, h2, h3, h4⟩ := hs
  unfold settle
  split
  · rename_i hq
    have := hc (by simpa using hq)
    exact ⟨by simp only [u8, hostWakeQueueSize]; omega, by simp only [u8]; omega, h3, h4⟩
  · split <;> exact ⟨h1, h2, h3, h4⟩

/-! ## Taking a frame -/

theorem queue_takeNext (hw : HostWake) : hw.takeNext.queue = hw.queue := by
  unfold takeNext
  split <;> rfl

theorem queue_sendNext (hw : HostWake) (now : Nat) : (hw.sendNext now).1.queue = hw.queue :=
  hw.queue_takeNext

theorem sized_takeNext (hw : HostWake) (hs : Sized hw) : Sized hw.takeNext := by
  obtain ⟨h1, h2, h3, h4⟩ := hs
  unfold takeNext
  split <;> exact ⟨h1, h2, h3, h4⟩

/-- When the latest slot is not taken and something is pending, the queue is not empty. -/
theorem count_pos_of_not_takesLatest (hw : HostWake) (hp : hw.havePending = true) (ht : hw.takesLatest = false) :
    0 < hw.count := by
  simp only [havePending, takesLatest] at hp ht
  cases hl : hw.latestPending <;> cases hll : hw.lastLatest <;> simp_all <;> omega

/-- The frame taken from something pending is the outstanding one, sent once. -/
theorem ok_sendNext (hw : HostWake) (now : Nat) (hs : Sized hw) (hp : hw.havePending = true) : Ok (hw.sendNext now).1 := by
  have hs' : Sized (hw.sendNext now).1 := ⟨(sized_takeNext hw hs).1, (sized_takeNext hw hs).2, (sized_takeNext hw hs).3,
    (sized_takeNext hw hs).4⟩
  refine { hs' with copies := ?_, outHead := ?_, guardPending := ?_ }
  · intro _
    exact ⟨Nat.le_refl 1, hs'.max_pos⟩
  · intro hq
    cases ht : hw.takesLatest with
    | true => simp [queuedOut, sendNext, transmit, takeNext, ht] at hq
    | false =>
      refine ⟨?_, ?_⟩
      · simpa [sendNext, transmit, takeNext, ht] using count_pos_of_not_takesLatest hw hp ht
      · simp [sendNext, transmit, takeNext, ht, frameAt]
  · intro hg
    cases hg

/-- The frame `sendNext` takes, as the abstract queue sees it. -/
theorem abs_sendNext (hw : HostWake) (now : Nat) (done : List (Sending × Bool)) (hs : Sized hw) (hp : hw.havePending = true) :
    (hw.takesLatest = true ∧
      (hw.sendNext now).1.abs done = ⟨hw.queue, some ⟨⟨hw.latestCmd, hw.latestVal⟩, true, 1⟩, done⟩) ∨
    (hw.takesLatest = false ∧ hw.queue = hw.frameAt hw.head :: hw.queue.tail ∧
      (hw.sendNext now).1.abs done = ⟨hw.queue.tail, some ⟨hw.frameAt hw.head, false, 1⟩, done⟩) := by
  cases ht : hw.takesLatest with
  | true =>
    refine Or.inl ⟨rfl, ?_⟩
    have hq : (hw.sendNext now).1.queuedOut = false := by simp [queuedOut, sendNext, transmit, takeNext, ht]
    simp only [abs, unsent, hq, queue_sendNext, Bool.false_eq_true, if_false, List.drop_zero]
    simp [current, sendNext, transmit, takeNext, ht, u8]
  | false =>
    refine Or.inr ⟨rfl, queue_head hw hs (count_pos_of_not_takesLatest hw hp ht), ?_⟩
    have hq : (hw.sendNext now).1.queuedOut = true := by simp [queuedOut, sendNext, transmit, takeNext, ht]
    simp only [abs, unsent, hq, queue_sendNext, if_true, List.drop_one]
    simp [current, sendNext, transmit, takeNext, ht, u8, frameAt]

/-- The copy `sendNext` sends is a run of the abstract queue from the state before it. -/
theorem run_sendNext {max : Nat} {evs : List HostWakeEvent} {done : List (Sending × Bool)} (hw : HostWake) (now : Nat) (hs : Sized hw)
    (hp : hw.havePending = true) (hm : 1 ≤ max) (hr : HostQueue.Run max evs ⟨hw.queue, none, done⟩) :
    HostQueue.Run max
      (evs ++ [.copy ⟨(hw.sendNext now).2.cmd, (hw.sendNext now).2.val⟩ (hw.sendNext now).1.sendingLatest true])
      ((hw.sendNext now).1.abs done) := by
  rcases abs_sendNext hw now done hs hp with ⟨ht, he⟩ | ⟨ht, hq, he⟩
  · rw [he]
    simp only [sendNext, transmit, takeNext, ht, if_true]
    exact hr.takeLed _ hm
  · rw [he]
    simp only [sendNext, transmit, takeNext, ht, Bool.false_eq_true, if_false]
    rw [hq] at hr
    exact hr.takeQueued _ hm

end HostWake
end OpenController
