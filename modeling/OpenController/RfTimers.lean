import OpenController.RfSystem

/-!
# Timed runs of the RF task

Runs in which the timers keep time: none expires before its deadline, and the end of a probe is not handled so late that the next
probe is due. And what the timers have to do with the state of the link.
-/

namespace OpenController

/-- The time between the end of a probe and the next probe. -/
def restGap : Nat := kbdRestProbeTicks - kbdRestProbeTimeoutTicks

/-- What happens keeps time: a timer expires at its deadline or later, and time does not pass beyond the next probe while the end
of a probe has not been handled. And no command of the host comes before `RF_EVT_START` is handled. -/
def RfOp.Timely (op : RfOp) (t : Tmos) : Prop :=
  match op with
  | .expire e => ∀ d ∈ t.timers e, d ≤ t.now
  | .advance ticks => ∀ d, t.due .restProbeTimeout d → t.now + ticks < d + restGap
  | .frame cmd _ _ => cmd = 0xA6 → t.waits .start = false
  | _ => True

/-- The states reached by timed runs, each step of which also meets a condition. -/
abbrev RfTimedReach (ok : RfOp → Tmos → Prop) : Rf → Prop :=
  Reach RfBooted fun (op : RfOp) s t => op.Timely s.tmos ∧ ok op s.tmos ∧ t = op.apply s

/-- A pairing window is not opened anew while the end of the last one is queued. -/
def RfOp.OpensWindowOnce (op : RfOp) (t : Tmos) : Prop :=
  match op with
  | .frame cmd sub _ => cmd = 0xA6 → sub = 0x51 → t.waits .pairTimeout = false
  | _ => True

/-- Timers expire in the order of their deadlines, and each event is handled before it is late by the time between the end of a
probe and the next probe. -/
def RfOp.InOrder (op : RfOp) (t : Tmos) : Prop :=
  match op with
  | .expire e => ∀ d ∈ t.timers e, ∀ e' ∈ RfEvt.order, ∀ d' ∈ t.timers e', d ≤ d'
  | .advance ticks => ∀ e ∈ RfEvt.order, ∀ d, t.due e d → t.now + ticks < d + restGap
  | _ => True

/-- Every step of a run keeps time and meets a condition. -/
def Rf.Keeps (ok : RfOp → Tmos → Prop) : List RfOp → Rf → Prop
  | [], _ => True
  | op :: ops, s => op.Timely s.tmos ∧ ok op s.tmos ∧ Rf.Keeps ok ops (op.apply s)

instance (t : Tmos) (e : RfEvt) (p : Nat → Prop) [DecidablePred p] : Decidable (∀ d, t.due e d → p d) :=
  decidable_of_iff ((∀ d ∈ t.timers e, p d) ∧ ∀ d ∈ t.queued e, p d)
    ⟨fun h d hd => hd.elim (h.1 d) (h.2 d), fun h => ⟨fun d hd => h d (.inl hd), fun d hd => h d (.inr hd)⟩⟩

instance (op : RfOp) (t : Tmos) : Decidable (op.Timely t) :=
  match op with
  | .expire e => inferInstanceAs (Decidable (∀ d ∈ t.timers e, d ≤ t.now))
  | .advance ticks => inferInstanceAs (Decidable (∀ d, t.due .restProbeTimeout d → t.now + ticks < d + restGap))
  | .frame cmd _ _ => inferInstanceAs (Decidable (cmd = 0xA6 → t.waits .start = false))
  | .process | .connectedTick | .callback .. | .tmr0Cycle | .tmr0Irq | .hardware _ | .ledResync | .quiesce => isTrue trivial

instance (op : RfOp) (t : Tmos) : Decidable (op.OpensWindowOnce t) :=
  match op with
  | .frame cmd sub _ => inferInstanceAs (Decidable (cmd = 0xA6 → sub = 0x51 → t.waits .pairTimeout = false))
  | .process | .connectedTick | .callback .. | .tmr0Cycle | .tmr0Irq | .expire _ | .advance _ | .hardware _ | .ledResync
  | .quiesce => isTrue trivial

instance (op : RfOp) (t : Tmos) : Decidable (op.InOrder t) :=
  match op with
  | .expire e => inferInstanceAs (Decidable (∀ d ∈ t.timers e, ∀ e' ∈ RfEvt.order, ∀ d' ∈ t.timers e', d ≤ d'))
  | .advance ticks =>
    inferInstanceAs (Decidable (∀ e ∈ RfEvt.order, ∀ d, t.due e d → t.now + ticks < d + restGap))
  | .process | .connectedTick | .callback .. | .tmr0Cycle | .tmr0Irq | .frame .. | .hardware _ | .ledResync
  | .quiesce => isTrue trivial

instance decidableKeeps (ok : RfOp → Tmos → Prop) [∀ op t, Decidable (ok op t)] :
    (ops : List RfOp) → (s : Rf) → Decidable (Rf.Keeps ok ops s)
  | [], _ => isTrue trivial
  | op :: ops, s =>
    have := decidableKeeps ok ops (op.apply s)
    inferInstanceAs (Decidable (op.Timely s.tmos ∧ ok op s.tmos ∧ Rf.Keeps ok ops (op.apply s)))

/-- The state of the link has the timers that get it out, and a timer that runs belongs to the state. -/
structure Rf.TimersMatch (s : Rf) : Prop where
  pairing : s.state = .pairing → s.tmos.live .pairBcast = true
  connected : s.state = .connected → s.tmos.live .disconnect = true
  session : s.state = .connected → s.rest.probe = false → s.tmos.live .restIdle = true
  probe : s.rest.probe = true → (s.state = .pairing ∨ s.state = .connected) ∧ s.tmos.live .restProbeTimeout = true
  resting : s.state = .resting → s.rest.stage = 1 → s.tmos.live .restProbe = true ∧ s.tmos.live .restStage2 = true
  disconnect : s.tmos.armed .disconnect = true → s.state = .connected
  pairTimeout : s.tmos.armed .pairTimeout = true → s.state = .pairing ∧ s.pair.flavor = .fresh
  restIdle : s.tmos.armed .restIdle = true → s.state = .connected ∧ s.rest.probe = false
  stage : s.tmos.armed .restProbe = true ∨ s.tmos.armed .restStage2 = true →
    s.rest.stage = 1 ∧ (s.state = .resting ∨ s.rest.probe = true)

end OpenController
