import OpenController.Lib.Reach
import OpenController.RfHost

/-!
# Runs of the RF task

What can happen to the RF task, one main-loop function or one interrupt at a time: a frame of the host, a pass of TMOS, the
main loop's `RF_ConnectedTick`, the radio's callback, the turnaround timer, and the passing of time.
-/

namespace OpenController

/-- What can happen to the RF task. -/
inductive RfOp where
  | frame (cmd sub : Byte) (payload : Report)
  | process
  | connectedTick
  | callback (sta : RfSta) (rsr : Nat) (rxBuf : Option RxBuf)
  | tmr0Cycle
  | tmr0Irq
  | expire (e : RfEvt)
  | advance (ticks : Nat)
  | hardware (hw : RfHw)
  | ledResync
  | quiesce

/-- The turnaround timer reaches the end of its cycle. -/
def Tmr0.cycle (t : Tmr0) : Tmr0 := if t.counting then { t with flag := true } else t

/-- The state after it happened. -/
def RfOp.apply (op : RfOp) (s : Rf) : Rf :=
  match op with
  | .frame cmd sub payload => (handleUartFrame cmd sub payload).exec s
  | .process => tmosProcess.exec s
  | .connectedTick => rfConnectedTick.exec s
  | .callback sta rsr rxBuf => s.rf2g4StatusCallBack sta rsr rxBuf
  | .tmr0Cycle => { s with tmr0 := s.tmr0.cycle }
  | .tmr0Irq => s.tmr0IRQHandler
  | .expire e => { s with tmos := s.tmos.expire e }
  | .advance ticks => { s with tmos := s.tmos.advance ticks }
  | .hardware hw => { s with hw := hw }
  | .ledResync => rfLedResync.exec s
  | .quiesce => takeDown.exec s

/-- The states `RF_TaskInit` leaves. What `main` adds for a bonded keyboard is the host's first `A6 30` (`reach_mainInit`). -/
def RfBooted (s : Rf) : Prop := ∃ mac macValid flash hw, s = rfTaskInit mac macValid flash hw

/-- The states reached when anything can happen in any order. -/
abbrev RfReach : Rf → Prop := Reach RfBooted fun (op : RfOp) s t => t = op.apply s

/-- The states after a list of things that happen to the RF task. -/
def Rf.after (s : Rf) (ops : List RfOp) : Rf := ops.foldl (fun s op => op.apply s) s

/-- What follows a state that is reached is reached. -/
theorem RfReach.after {s : Rf} (h : RfReach s) (ops : List RfOp) : RfReach (s.after ops) := by
  induction ops generalizing s with
  | nil => exact h
  | cons op ops ih => exact ih (.step op h rfl)

/-! ## A run -/

/-- A keyboard without a bond. -/
def newKeyboard : Rf := rfTaskInit (Vector.replicate 6 1) true (fun _ => 0xFF) ⟨0, 0, 0, ⟨0, 0, 0⟩⟩

/-- A command of the host. -/
def RfOp.command (sub : Byte) : RfOp := .frame 0xA6 sub (Vector.replicate 8 0)

/-- A packet of a dongle that pairs. -/
def offerPacket : RxBuf := fun i => if i = 1 then 15 else 0

/-- The dongle's packet is received. -/
def RfOp.offer : RfOp := .callback .rxData 0 (some offerPacket)

/-- A poll of the dongle, with its control byte. -/
def pollPacket (ctrl : Byte) : RxBuf := fun i => if i = 1 then 1 else if i = 2 then ctrl else 0

/-- A poll is received. -/
def RfOp.poll (ctrl : Byte) : RfOp := .callback .rxData 0 (some (pollPacket ctrl))

/-- A report of the keyboard. -/
def RfOp.report (r : Report) : RfOp := .frame 0xA1 0 r

/-- A transmission completes. -/
def RfOp.txFinish : RfOp := .callback .txFinish 0 none

/-- The host selects 2.4G and opens a pairing window, a dongle answers twice, and the keyboard is about to connect. -/
def pairUp : List RfOp := [.process, .command 0x30, .command 0x51, .process, .offer, .offer, .process]

/-- The keyboard connects, and rests after a while. -/
def connectAndRest : List RfOp := [.process, .expire .restIdle, .process]

end OpenController
