import Mathlib.Tactic.MkIffOfInductiveProp
import OpenController.RfSystem

/-!
# What the dongle's host shows

The dongle shows the report it acknowledged last, and releases all keys when the session ends. `RF_QueueHIDReport` leaves out a
report that it takes for the current one, by `hid_last_queued`; the link rests unless that report holds a key. Both are right as
long as `hid_last_queued` is kept in step with the FIFO and the sessions.
-/

namespace OpenController

/-- No key and no modifier. -/
def noKeys : Report := Vector.replicate 8 0

/-- The report the dongle acknowledged last in the session, if it acknowledged one. -/
def RfLog.lastAcknowledged (log : RfLog) : Option Report :=
  ((log.retired.filter (·.session = log.sessions)).getLast?).map (·.report)

/-- What the dongle's host shows: without a session all keys are released. -/
def Rf.shown (s : Rf) : Report := if s.state = .connected then s.log.lastAcknowledged.getD noKeys else noKeys

/-- The states reached when what happens meets a condition. -/
abbrev RfReachWhen (ok : RfOp → Rf → Prop) : Rf → Prop := Reach RfBooted fun (op : RfOp) s t => ok op s ∧ t = op.apply s

/-- The queue is discarded only when the report queued last holds no key, or is not taken for the current one. -/
def RfOp.DiscardsReleased (op : RfOp) (s : Rf) : Prop :=
  match op with
  | .process => s.tmos.next = some .discardHid → s.state = .idle → s.hid.keyHeld = false
  | _ => True

/-- A session starts with the report queued last taken for the current one, or with no key in what is queued last. -/
def RfOp.StartsKnown (op : RfOp) (s : Rf) : Prop :=
  match op with
  | .process => s.tmos.next = some .enterConnected → s.state = .pairing →
      s.hid.lastQueuedValid = true ∨ ∀ r ∈ s.hid.newest, r = noKeys
  | _ => True

/-- Every step of a run meets a condition. -/
def Rf.Meets (ok : RfOp → Rf → Prop) : List RfOp → Rf → Prop
  | [], _ => True
  | op :: ops, s => ok op s ∧ Rf.Meets ok ops (op.apply s)

instance (op : RfOp) (s : Rf) : Decidable (op.DiscardsReleased s) :=
  match op with
  | .process => inferInstanceAs (Decidable (s.tmos.next = some .discardHid → s.state = .idle → s.hid.keyHeld = false))
  | .frame .. | .connectedTick | .callback .. | .tmr0Cycle | .tmr0Irq | .expire _ | .advance _ | .hardware _ | .ledResync
  | .quiesce => instDecidableTrue

/-- Only what is queued is looked at, not every report there can be. -/
instance (s : Rf) : Decidable (∀ r ∈ s.hid.newest, r = noKeys) :=
  decidable_of_iff (s.hid.newest.all (· = noKeys) = true) (by cases s.hid.newest <;> simp)

instance (op : RfOp) (s : Rf) : Decidable (op.StartsKnown s) :=
  match op with
  | .process => inferInstanceAs (Decidable (s.tmos.next = some .enterConnected → s.state = .pairing →
      s.hid.lastQueuedValid = true ∨ ∀ r ∈ s.hid.newest, r = noKeys))
  | .frame .. | .connectedTick | .callback .. | .tmr0Cycle | .tmr0Irq | .expire _ | .advance _ | .hardware _ | .ledResync
  | .quiesce => instDecidableTrue

instance Rf.decMeets (ok : RfOp → Rf → Prop) [∀ op s, Decidable (ok op s)] : (ops : List RfOp) → (s : Rf) → Decidable (s.Meets ok ops)
  | [], _ => isTrue trivial
  | op :: ops, s => @instDecidableAnd _ _ _ (Rf.decMeets ok ops (op.apply s))

theorem RfReachWhen.after {ok : RfOp → Rf → Prop} {s : Rf} (h : RfReachWhen ok s) {ops : List RfOp} (hm : s.Meets ok ops) :
    RfReachWhen ok (s.after ops) := by
  induction ops generalizing s with
  | nil => exact h
  | cons op ops ih => exact ih (.step op h ⟨hm.1, rfl⟩) hm.2

theorem RfReachWhen.reach {ok : RfOp → Rf → Prop} {s : Rf} (h : RfReachWhen ok s) : RfReach s := h.mono fun _ _ _ ha => ha.2

/-- What the host shows and the FIFO, if `p` the FIFO was discarded only when its newest report was released, and if `q` every
session started with what it has to deliver known. -/
structure Rf.NewsOk (p q : Prop) (s : Rf) : Prop where
  head_lt : s.hid.head < 256
  tail_lt : s.hid.tail < 256
  count_le : s.hid.count ≤ hidFifoSlots
  sessions : ∀ x ∈ s.log.retired, x.session ≤ s.log.sessions
  current : s.hid.lastQueuedValid = true → ∀ r ∈ s.hid.newest, r = s.hid.lastQueued
  gone : s.hid.lastQueuedValid = true → s.hid.newest = none → s.shown = s.hid.lastQueued ∨ s.shown = noKeys
  told : p → s.hid.lastQueuedValid = true → s.hid.newest = none → s.shown = s.hid.lastQueued
  stale : q → s.hid.lastQueuedValid = false → s.state = .connected →
    (∀ r ∈ s.hid.newest, r = noKeys) ∧ (s.hid.newest = none → s.shown = noKeys)
  silent : s.state = .connected → s.rest.probe = true → s.shown = noKeys

/-- The report queued last holds no key, if nothing is queued and it is taken for the current one: it may be that the session is
over. -/
def Rf.Released (p : Prop) (s : Rf) : Prop :=
  p → s.hid.lastQueuedValid = true → s.hid.newest = none → s.hid.lastQueued = noKeys

/-- One state after another, with the FIFO and the sessions as they were. -/
@[mk_iff]
structure Rf.Beside (s t : Rf) : Prop where
  fifo : t.hid.fifo = s.hid.fifo
  head : t.hid.head = s.hid.head
  tail : t.hid.tail = s.hid.tail
  last : t.hid.lastQueued = s.hid.lastQueued
  valid : t.hid.lastQueuedValid = s.hid.lastQueuedValid
  log : t.log.sessions = s.log.sessions ∧ t.log.retired = s.log.retired
  probe : t.rest.probe = true → s.rest.probe = true

end OpenController
