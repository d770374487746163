import OpenController.Lib.Word
import OpenController.Lib.Ring

/-!
# Host wake over CHWAKE

The state machine of `host_wake.c`: frames for the keyboard host are queued (`enqueue`) or put in the slot for the latest LED
state (`setLatest`), CHWAKE is raised, one frame at a time goes out after a guard time, is sent again until the host ACKs it or
the attempts run out, and after a resend a quarantine discards late ACKs.
-/

namespace OpenController

/-- The queue holds eight frames (`HOST_WAKE_QUEUE_SIZE`). -/
def hostWakeQueueSize : Nat := 8

/-- The states of the machine: CHWAKE low, waiting for the host to wake, a frame is out, late ACKs are discarded. -/
inductive HostWakeState where
  | idle
  | guard
  | waitAck
  | quarantine
  deriving DecidableEq, Repr

/-- `host_wake_t`. The two arrays are functions read below the size of the queue. -/
structure HostWake where
  guardTicks : Nat
  ackTimeoutTicks : Nat
  maxAttempts : Nat
  state : HostWakeState
  head : Nat
  count : Nat
  attempts : Nat
  acked : Bool
  sendingLatest : Bool
  lastLatest : Bool
  since : Nat
  cmd : Nat → Byte
  val : Nat → Byte
  latestPending : Bool
  latestLost : Bool
  latestCmd : Byte
  latestVal : Byte
  outCmd : Byte
  outVal : Byte
  dropped : Nat
  abandoned : Nat
  retired : Nat

/-- `host_wake_step_t`: the level CHWAKE is driven to, and the frame sent, when one is. -/
structure HostWakeStep where
  line : Bool
  send : Bool
  cmd : Byte
  val : Byte
  deriving DecidableEq, Repr

/-- The step that sends nothing and drives CHWAKE to `line`. -/
def HostWakeStep.quiet (line : Bool) : HostWakeStep := { line := line, send := false, cmd := 0, val := 0 }

namespace HostWake

/-- `HostWake_Init`. At least one attempt is made. -/
def init (guardTicks ackTimeoutTicks : Fin 4294967296) (maxAttempts : Fin 256) : HostWake where
  guardTicks := guardTicks
  ackTimeoutTicks := ackTimeoutTicks
  maxAttempts := if maxAttempts.val ≠ 0 then maxAttempts else 1
  state := .idle
  head := 0
  count := 0
  attempts := 0
  acked := false
  sendingLatest := false
  lastLatest := false
  since := 0
  cmd := fun _ => 0
  val := fun _ => 0
  latestPending := false
  latestLost := false
  latestCmd := 0
  latestVal := 0
  outCmd := 0
  outVal := 0
  dropped := 0
  abandoned := 0
  retired := 0

/-- `HostWake_Enqueue`: the second component is what it returns. -/
def enqueue (hw : HostWake) (cmd val : Byte) : HostWake × Bool :=
  if hw.count ≥ hostWakeQueueSize then
    ({ hw with dropped := u16 (hw.dropped + 1) }, false)
  else
    let slot := u8 ((hw.head + hw.count) % hostWakeQueueSize)
    ({ hw with
        cmd := Function.update hw.cmd slot cmd
        val := Function.update hw.val slot val
        count := u8 (hw.count + 1) }, true)

/-- `HostWake_SetLatest`. -/
def setLatest (hw : HostWake) (cmd val : Byte) : HostWake :=
  { hw with latestCmd := cmd, latestVal := val, latestPending := true }

/-- `HostWake_OnAck`. -/
def onAck (hw : HostWake) : HostWake :=
  if hw.state = .waitAck then { hw with acked := true } else hw

/-- The machine, moved to another state. -/
def inState (hw : HostWake) (s : HostWakeState) : HostWake := { hw with state := s }

/-- `have_pending`. -/
def havePending (hw : HostWake) : Bool := hw.count != 0 || hw.latestPending

/-- `transmit`: one more copy of the outstanding frame. -/
def transmit (hw : HostWake) (now : Nat) : HostWake × HostWakeStep :=
  ({ hw with attempts := u8 (hw.attempts + 1), since := now, acked := false, state := .waitAck },
    { line := true, send := true, cmd := hw.outCmd, val := hw.outVal })

/-- The choice `send_next` makes: the latest slot, unless its value went last and frames are queued. -/
def takesLatest (hw : HostWake) : Bool := hw.latestPending && !(hw.lastLatest && hw.count != 0)

/-- The frame `send_next` takes becomes the outstanding one. -/
def takeNext (hw : HostWake) : HostWake :=
  if hw.takesLatest then
    { hw with outCmd := hw.latestCmd, outVal := hw.latestVal, latestPending := false, sendingLatest := true }
  else
    { hw with outCmd := hw.cmd hw.head, outVal := hw.val hw.head, sendingLatest := false }

/-- `send_next`. -/
def sendNext (hw : HostWake) (now : Nat) : HostWake × HostWakeStep :=
  let hw := hw.takeNext
  transmit { hw with lastLatest := hw.sendingLatest, attempts := 0 } now

/-- What `retire` does to the queue: a queued frame leaves it, an abandoned LED value with nothing newer behind it is lost. -/
def settle (hw : HostWake) (abandoned : Bool) : HostWake :=
  if !hw.sendingLatest then
    { hw with head := u8 ((hw.head + 1) % hostWakeQueueSize), count := u8 (hw.count + 255) }
  else if abandoned && !hw.latestPending then
    { hw with latestLost := true }
  else hw

/-- The outstanding frame is settled: the part of `retire` before it chooses what comes next. -/
def retiring (hw : HostWake) (abandoned : Bool) : HostWake :=
  let hw := hw.settle abandoned
  { hw with
    sendingLatest := false
    retired := u16 (hw.retired + 1)
    abandoned := if abandoned then u16 (hw.abandoned + 1) else hw.abandoned
    attempts := 0
    acked := false }

/-- `retire`: the outstanding frame is done with, ACKed or abandoned. After a single copy the next frame follows at once; after
a resend, quarantine first. -/
def retire (hw : HostWake) (now : Nat) (abandoned : Bool) : HostWake × HostWakeStep :=
  if hw.attempts > 1 ∨ abandoned = true then ((hw.retiring abandoned).inState .quarantine, .quiet true)
  else if (hw.retiring abandoned).havePending then (hw.retiring abandoned).sendNext now
  else ((hw.retiring abandoned).inState .idle, .quiet false)

/-- `HostWake_Step`. `now` is the free-running counter. -/
def step (hw : HostWake) (now : Nat) : HostWake × HostWakeStep :=
  match hw.state with
  | .guard =>
    if sub32 now hw.since < hw.guardTicks then (hw, .quiet true)
    else hw.sendNext now
  | .waitAck =>
    if hw.acked then hw.retire now false
    else if sub32 now hw.since < hw.ackTimeoutTicks then (hw, .quiet true)
    else if hw.attempts ≥ hw.maxAttempts then hw.retire now true
    else hw.transmit now
  | .quarantine =>
    if sub32 now hw.since < u32 (2 * hw.ackTimeoutTicks) then (hw, .quiet true)
    else if hw.havePending then hw.sendNext now
    else (hw.inState .idle, .quiet false)
  | .idle =>
    if !hw.havePending then (hw, .quiet false)
    else ({ hw with state := .guard, since := now }, .quiet true)

/-- `HostWake_Idle`. -/
def isIdle (hw : HostWake) : Bool := decide (hw.state = .idle) && !hw.havePending

end HostWake

end OpenController
