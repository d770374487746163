import Mathlib.Logic.Relation
import OpenController.RfHears

/-!
# LED relays

The dongle relays the host's LED byte in a poll. The callback stores the newest one and posts NOTIFY_LED when it differs from the
byte handed over last; the handler hands it to the keyboard's processor. The bytes relayed are remembered beside the RF task.
-/

namespace OpenController

/-- The RF task, and the LED bytes that the dongle relayed. -/
structure LedWorld where
  rf : Rf
  relayed : List Byte

/-- The LED bytes handed to `KeyboardUart_SendLed`. -/
def Rf.ledsHanded (s : Rf) : List Byte :=
  s.trace.uart.filterMap fun o => match o with
    | .led b => some b
    | _ => none

/-- The LED byte that the callback finds in a poll. -/
def Rf.ledRelayed (s : Rf) (sta : RfSta) (rsr : Nat) (rxBuf : Option RxBuf) : List Byte :=
  match sta, rxBuf with
  | .rxData, some buf => if rsr = 0 ∧ s.CatchesPoll buf ∧ buf.len = 3 ∧ buf 3 = 0xA1 then [buf 4] else []
  | _, _ => []

namespace LedWorld

/-- No NOTIFY_LED event is queued. -/
def Quiet (w : LedWorld) : Prop := w.rf.tmos.waits .notifyLed = false

instance (w : LedWorld) : Decidable w.Quiet := inferInstanceAs (Decidable (_ = _))

/-- `RF_LedResync`; a reconnect does the same. -/
def resync (w : LedWorld) : LedWorld := { w with rf := rfLedResync.exec w.rf }

end LedWorld

/-- What can happen between two statements: the callback, with an LED byte other than 0xFF, or anything that is not about the LEDs. -/
inductive LedInterrupt : LedWorld → LedWorld → Prop where
  | callback {w} (sta : RfSta) (rsr : Nat) (rxBuf : Option RxBuf) (h : ∀ b ∈ w.rf.ledRelayed sta rsr rxBuf, b ≠ 0xFF) :
      LedInterrupt w ⟨w.rf.rf2g4StatusCallBack sta rsr rxBuf, w.relayed ++ w.rf.ledRelayed sta rsr rxBuf⟩
  | elsewhere {w} (t : Rf) (led : t.led = w.rf.led) (waits : t.tmos.waits .notifyLed = w.rf.tmos.waits .notifyLed)
      (handed : t.ledsHanded = w.rf.ledsHanded) : LedInterrupt w { w with rf := t }

/-- The event is taken from the queue, and handled. -/
def handleNotifyLed : RfM Unit := do
  .modify fun s => { s with tmos := s.tmos.take .notifyLed }
  onNotifyLed

/-- A step: an interrupt, the handler with interrupts between its statements, or `last_led_sent` is forgotten. -/
inductive LedStep : LedWorld → LedWorld → Prop where
  | interrupt {w w'} (h : LedInterrupt w w') : LedStep w w'
  | notify {w w'} (hq : ¬w.Quiet)
      (h : Prog.Runs LedInterrupt (handleNotifyLed.zoom LedWorld.rf fun s w => { w with rf := s }) w () w') : LedStep w w'
  | resync (w) : LedStep w w.resync

/-- No byte was relayed since `RF_TaskInit`. -/
def LedBooted (w : LedWorld) : Prop := w.rf.led.lastLedSent = 0xFF ∧ w.Quiet ∧ w.rf.ledsHanded = [] ∧ w.relayed = []

/-- The states that a run leads to. -/
def LedReached (w : LedWorld) : Prop := ∃ w₀, LedBooted w₀ ∧ Relation.ReflTransGen LedStep w₀ w

/-! ## The main loop -/

/-- What can happen between two statements of the main loop, with LED bytes other than 0xFF. -/
inductive LedHears : LedWorld → LedWorld → Prop where
  | callback {w} (sta : RfSta) (rsr : Nat) (rxBuf : Option RxBuf) (hl : w.rf.radio.shut = false)
      (h : ∀ b ∈ w.rf.ledRelayed sta rsr rxBuf, b ≠ 0xFF) :
      LedHears w ⟨w.rf.rf2g4StatusCallBack sta rsr rxBuf, w.relayed ++ w.rf.ledRelayed sta rsr rxBuf⟩
  | elsewhere {w t} (h : RfElsewhere w.rf t) : LedHears w { w with rf := t }

/-- The states between the calls of the main loop. -/
abbrev LedInterleaved : LedWorld → Prop := Reach (fun w => RfBooted w.rf ∧ w.relayed = []) fun (call : RfCall) w w' =>
  Prog.Runs LedHears (call.program.zoom LedWorld.rf fun s w => { w with rf := s }) w () w'

end OpenController
