import OpenController.Tmos

/-!
# Lemmas on the timers and the queue

What each call does to each event's timer and to its place in the queue.
-/

namespace OpenController
namespace Tmos

variable (t : Tmos) (e e' : RfEvt) (ticks : Nat)

/-- At first no timer runs. -/
@[simp] theorem armed_init : init.armed e = false := rfl

/-- At first nothing is queued. -/
@[simp] theorem waits_init : init.waits e = false := rfl

/-- Starting a task arms its timer, and no other. -/
@[simp] theorem armed_startTask : (t.startTask e ticks).armed e' = (decide (e' = e) || t.armed e') := by
  unfold armed startTask
  by_cases h : e' = e <;> simp [h]

/-- Starting a task queues nothing. -/
@[simp] theorem waits_startTask : (t.startTask e ticks).waits e' = t.waits e' := rfl

/-- Stopping a task disarms its timer, and no other. -/
@[simp] theorem armed_stopTask : (t.stopTask e).armed e' = (decide (e' ≠ e) && t.armed e') := by
  unfold armed stopTask
  by_cases h : e' = e <;> simp [h]

/-- Stopping a task takes its event from the queue. -/
@[simp] theorem waits_stopTask : (t.stopTask e).waits e' = (decide (e' ≠ e) && t.waits e') := by
  unfold waits stopTask
  by_cases h : e' = e <;> simp [h]

/-- Setting an event leaves the timers alone. -/
@[simp] theorem armed_setEvent : (t.setEvent e).armed e' = t.armed e' := rfl

/-- Setting an event queues it. -/
@[simp] theorem waits_setEvent : (t.setEvent e).waits e' = (decide (e' = e) || t.waits e') := by
  unfold waits setEvent
  by_cases h : e' = e <;> simp [h]

/-- Taking an event leaves the timers alone. -/
@[simp] theorem armed_take : (t.take e).armed e' = t.armed e' := rfl

/-- Taking an event removes it from the queue. -/
@[simp] theorem waits_take : (t.take e).waits e' = (decide (e' ≠ e) && t.waits e') := by
  unfold waits take
  by_cases h : e' = e <;> simp [h]

/-- A timer that expires does not run any more. -/
@[simp] theorem armed_expire : (t.expire e).armed e' = (decide (e' ≠ e) && t.armed e') := by
  unfold armed expire
  by_cases h : e' = e
  · subst h
    cases ht : t.timers e' <;> simp [ht]
  · cases ht : t.timers e <;> simp [h]

/-- A timer that ran queues its event when it expires. -/
@[simp] theorem waits_expire : (t.expire e).waits e' = (t.waits e' || (decide (e' = e) && t.armed e')) := by
  unfold waits armed expire
  by_cases h : e' = e
  · subst h
    cases ht : t.timers e' <;> simp
  · cases ht : t.timers e <;> simp [h]

/-- Time that passes does not stop a timer. -/
@[simp] theorem armed_advance : (t.advance ticks).armed e = t.armed e := rfl

/-- Time that passes queues nothing. -/
@[simp] theorem waits_advance : (t.advance ticks).waits e = t.waits e := rfl

/-- At first no event is to come. -/
@[simp] theorem live_init : init.live e = false := rfl

/-- An event whose timer starts is to come. -/
@[simp] theorem live_startTask : (t.startTask e ticks).live e' = (decide (e' = e) || t.live e') := by
  simp [live, Bool.or_assoc]

/-- One that is stopped is not. -/
@[simp] theorem live_stopTask : (t.stopTask e).live e' = (decide (e' ≠ e) && t.live e') := by
  simp [live, Bool.and_or_distrib_left]

/-- One that is set is. -/
@[simp] theorem live_setEvent : (t.setEvent e).live e' = (decide (e' = e) || t.live e') := by
  simp [live, Bool.or_left_comm]

/-- One that is taken is to come only if its timer runs as well. -/
@[simp] theorem live_take : (t.take e).live e' = if e' = e then t.armed e' else t.live e' := by
  by_cases h : e' = e <;> simp [live, h]

/-- Taking an event makes none come. -/
theorem live_of_take {t : Tmos} {e e' : RfEvt} (h : (t.take e).live e' = true) : t.live e' = true := by
  simp only [live, armed_take, waits_take, Bool.or_eq_true, Bool.and_eq_true] at h ⊢
  exact h.imp_right And.right

/-- A timer that expires changes nothing about what is to come. -/
@[simp] theorem live_expire : (t.expire e).live e' = t.live e' := by
  by_cases h : e' = e <;> simp [live, h, Bool.or_comm]

/-- Nor does time that passes. -/
@[simp] theorem live_advance : (t.advance ticks).live e = t.live e := rfl

theorem live_of_armed {t : Tmos} {e : RfEvt} (h : t.armed e = true) : t.live e = true := by simp [live, h]

theorem live_of_waits {t : Tmos} {e : RfEvt} (h : t.waits e = true) : t.live e = true := by simp [live, h]

/-! ## What expires -/

/-- Expiring takes no time. -/
theorem expire_now : (t.expire e).now = t.now := by
  unfold expire
  split <;> rfl

/-- A timer that expires leaves the other events alone. -/
theorem expire_ne {t : Tmos} {e e' : RfEvt} (h : e' ≠ e) :
    (t.expire e).timers e' = t.timers e' ∧ (t.expire e).queued e' = t.queued e' := by
  unfold expire
  split
  · exact ⟨rfl, rfl⟩
  · exact ⟨Function.update_of_ne h .., Function.update_of_ne h ..⟩

/-- A timer that does not run does not expire. -/
theorem expire_none {t : Tmos} {e : RfEvt} (h : t.timers e = none) : t.expire e = t := by
  unfold expire
  rw [h]

/-- A timer that runs is over, and its event is queued since then. -/
theorem expire_some {t : Tmos} {e : RfEvt} {u : Nat} (h : t.timers e = some u) (hq : t.queued e = none) :
    (t.expire e).timers e = none ∧ (t.expire e).queued e = some u := by
  unfold expire
  simp [h, hq]

/-! ## What comes next -/

/-- The event `RF_ProcessEvent` handles is queued, and none before it in its order is. -/
theorem next_eq_some {t : Tmos} {e : RfEvt} (h : t.next = some e) : t.waits e = true := by
  simpa [waits] using List.find?_some h

/-- `RF_EVT_START` comes first. -/
theorem next_of_start {t : Tmos} (h : t.waits .start = true) : t.next = some .start := by
  unfold waits at h
  simp [next, RfEvt.order, h]

end Tmos
end OpenController
