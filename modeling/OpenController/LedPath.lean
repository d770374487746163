import OpenController.LedRelay
import OpenController.HostWakeLed

/-!
# The way of an LED byte

A module that wakes its host: the frames that the RF task sends go to the queue of host wake, its LED bytes into the slot for the
newest one, and the main loop steps host wake and has a lost LED value handed over again.
-/

namespace OpenController

/-- The RF task with the LED bytes that the dongle relayed, and host wake with what it showed. -/
structure LedPath where
  led : LedWorld
  hw : HostWake
  evs : List LedEvent

namespace LedPath

/-- `KeyboardUart_SendStatus`, `KeyboardUart_SendBattery` and `KeyboardUart_SendLed`. -/
def put (w : LedPath) : UartOut → LedPath
  | .status b => { w with hw := (w.hw.enqueue 0x5B b).1, evs := w.evs ++ [.shown (w.hw.enqueueEvent 0x5B b)] }
  | .battery b => { w with hw := (w.hw.enqueue 0x5C b).1, evs := w.evs ++ [.shown (w.hw.enqueueEvent 0x5C b)] }
  | .led b => { w with hw := w.hw.setLatest 0x5A b, evs := w.evs ++ [.shown (.ledSet ⟨0x5A, b⟩)] }

/-- The RF task has done a statement: what it sent goes to host wake. -/
def watch (v : LedWorld) (w : LedPath) : LedPath :=
  { (v.rf.trace.uart.drop w.led.rf.trace.uart.length).foldl put w with led := v }

end LedPath

/-- A function of the main loop, with host wake in view. -/
abbrev LedPathM := Prog LedPath

/-- A function of the RF task. -/
def onLedPath {α : Type} (p : RfM α) : LedPathM α :=
  (p.zoom LedWorld.rf fun s w => { w with rf := s }).zoom LedPath.led LedPath.watch

/-- The main loop has a lost LED value handed over again: `KeyboardUart_TakeLedLost`, and `RF_LedResync` if it says so. -/
def takeLedLost : LedPathM Unit := do
  let lost ← .read fun w => w.hw.latestLost
  .modify fun w => { w with hw := w.hw.clearLost, evs := w.evs ++ [.cleared] }
  if lost then onLedPath rfLedResync else pure ()

/-- `KeyboardUart_Service`, at a time. -/
def keyboardUartService (now : Fin 4294967296) : LedPathM Unit :=
  .modify fun w => { w with hw := (w.hw.step now).1, evs := w.evs ++ w.hw.ledEvents now }

/-- What the main loop does: a call into the RF task, a frame that `main.c` sends itself, an ACK of the host, or one of the two
above. -/
inductive LedPathCall where
  | rf (call : RfCall) (h : call ≠ .ledResync)
  | send (o : UartOut) (h : ∀ b, o ≠ .led b)
  | ack
  | service (now : Fin 4294967296)
  | takeLedLost

/-- The statements of a call. -/
def LedPathCall.program : LedPathCall → LedPathM Unit
  | .rf call _ => onLedPath call.program
  | .send o _ => .modify fun w => w.put o
  | .ack => .modify fun w => { w with hw := w.hw.onAck, evs := w.evs ++ [.shown .ack] }
  | .service now => keyboardUartService now
  | .takeLedLost => OpenController.takeLedLost

/-- What can happen between two statements: host wake has no interrupts. -/
inductive LedPathHears : LedPath → LedPath → Prop where
  | hears {w v} (h : LedHears w.led v) : LedPathHears w { w with led := v }

/-- The states `main` leaves, with the guard time, the time to wait for an ACK and the attempts of host wake. -/
def LedPathBooted (g t : Fin 4294967296) (m : Fin 256) (w : LedPath) : Prop :=
  ∃ rf, RfBooted rf ∧ w = ⟨⟨rf, []⟩, HostWake.init g t m, []⟩

/-- The states between the calls of the main loop. -/
abbrev LedPathRun (g t : Fin 4294967296) (m : Fin 256) : LedPath → Prop :=
  Reach (LedPathBooted g t m) fun (call : LedPathCall) w w' => Prog.Runs LedPathHears call.program w () w'

end OpenController
