import Mathlib.Logic.Function.Basic

/-!
# TMOS, as the RF task uses it

The RF task has fifteen events. Each has a timer and a bit that says it is queued; a timer that expires queues its event.
Stopping an event clears both. Each queued event carries the time it was due.
-/

namespace OpenController

/-- The events of the RF task (`RF_EVT_*`), in the order `RF_ProcessEvent` looks at them. -/
inductive RfEvt where
  | start
  | rxRestart
  | pairBcast
  | pairRxOff
  | pairTimeout
  | enterConnected
  | respond
  | notifyLed
  | discardHid
  | saveBond
  | restIdle
  | restProbe
  | restProbeTimeout
  | restStage2
  | disconnect
  deriving DecidableEq, Repr

/-- The order `RF_ProcessEvent` looks at the events. -/
def RfEvt.order : List RfEvt :=
  [.start, .rxRestart, .pairBcast, .pairRxOff, .pairTimeout, .enterConnected, .respond, .notifyLed, .discardHid, .saveBond,
    .restIdle, .restProbe, .restProbeTimeout, .restStage2, .disconnect]

/-- The time in ticks of 625 us, the deadlines of the timers that run, and the events queued with the times they were due. -/
structure Tmos where
  now : Nat
  timers : RfEvt → Option Nat
  queued : RfEvt → Option Nat

namespace Tmos

/-- Nothing runs and nothing is queued. -/
def init : Tmos := ⟨0, fun _ => none, fun _ => none⟩

/-- `tmos_start_task`: the timer of the event starts anew. -/
def startTask (t : Tmos) (e : RfEvt) (ticks : Nat) : Tmos := { t with timers := Function.update t.timers e (some (t.now + ticks)) }

/-- `tmos_stop_task`: its timer stops, and it is no longer queued. -/
def stopTask (t : Tmos) (e : RfEvt) : Tmos :=
  { t with timers := Function.update t.timers e none, queued := Function.update t.queued e none }

/-- `tmos_set_event`: the event is queued. -/
def setEvent (t : Tmos) (e : RfEvt) : Tmos :=
  { t with queued := Function.update t.queued e (some ((t.queued e).getD t.now)) }

/-- The timer of an event expires, if it runs. -/
def expire (t : Tmos) (e : RfEvt) : Tmos :=
  match t.timers e with
  | none => t
  | some deadline =>
    { t with
      timers := Function.update t.timers e none
      queued := Function.update t.queued e (some ((t.queued e).getD deadline)) }

/-- The event is taken from the queue, to be handled. -/
def take (t : Tmos) (e : RfEvt) : Tmos := { t with queued := Function.update t.queued e none }

/-- The queued event that `RF_ProcessEvent` handles: the first in its order. -/
def next (t : Tmos) : Option RfEvt := RfEvt.order.find? fun e => (t.queued e).isSome

/-- Time passes. -/
def advance (t : Tmos) (ticks : Nat) : Tmos := { t with now := t.now + ticks }

/-- The timer of the event runs. -/
def armed (t : Tmos) (e : RfEvt) : Bool := (t.timers e).isSome

/-- The event is queued. -/
def waits (t : Tmos) (e : RfEvt) : Bool := (t.queued e).isSome

/-- The event will be handled: its timer runs or it is queued. -/
def live (t : Tmos) (e : RfEvt) : Bool := t.armed e || t.waits e

/-- The event is due at a time: its timer runs until then, or it is queued since then. -/
def due (t : Tmos) (e : RfEvt) (d : Nat) : Prop := t.timers e = some d ∨ t.queued e = some d

end Tmos

end OpenController
