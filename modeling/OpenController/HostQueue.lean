import OpenController.HostWake

/-!
# What host wake is for: a queue of frames, one on the wire at a time

`HostQueue` is the abstract model: the accepted frames whose first copy has not gone out, in order, the frame on the wire, and
the frames done with. Its runs are lists of the events a run of the machine shows (`HostWakeEvent`); `HostWake.Run` records the
events of a run of the machine itself. `Theorems/HostWakeQueue.lean` shows that the second are among the first.
-/

namespace OpenController

/-- A frame for the host: a command and a value (the checksum is the sender's). -/
structure Frame where
  cmd : Byte
  val : Byte
  deriving DecidableEq, Repr

/-- What a run of host wake shows: an offered frame accepted or refused, an LED value set, an ACK, a copy sent (of an LED frame
or of a queued one, the first or a resend), a frame done with (ACKed or abandoned). -/
inductive HostWakeEvent where
  | accepted (f : Frame)
  | refused (f : Frame)
  | ledSet (f : Frame)
  | ack
  | copy (f : Frame) (led first : Bool)
  | retired (led abandoned : Bool)
  deriving DecidableEq, Repr

/-- A frame taken to be sent, and the copies of it sent so far. -/
structure Sending where
  frame : Frame
  led : Bool
  copies : Nat
  deriving DecidableEq, Repr

/-! ## The abstract queue -/

/-- The abstract model: `waiting` frames, oldest first, the frame on the wire, and the frames done with, each with whether it was
abandoned. -/
structure HostQueue where
  waiting : List Frame
  current : Option Sending
  done : List (Sending × Bool)

/-- The accepted frames that are not done with: the ones that wait, and the one on the wire unless it is an LED frame. -/
def HostQueue.held (q : HostQueue) : Nat :=
  q.waiting.length + (q.current.elim 0 fun s => if s.led then 0 else 1)

/-- The events the abstract queue can show, and where they lead: frames wait in the order they are accepted, at most eight are
held, the oldest one is taken, and a frame is done with before the next one is taken. -/
inductive HostQueue.Run (max : Nat) : List HostWakeEvent → HostQueue → Prop where
  | start : Run max [] ⟨[], none, []⟩
  | accepted {evs q} (f : Frame) : Run max evs q → q.held < hostWakeQueueSize →
      Run max (evs ++ [.accepted f]) { q with waiting := q.waiting ++ [f] }
  | refused {evs q} (f : Frame) : Run max evs q → q.held = hostWakeQueueSize → Run max (evs ++ [.refused f]) q
  | ledSet {evs q} (f : Frame) : Run max evs q → Run max (evs ++ [.ledSet f]) q
  | ack {evs q} : Run max evs q → Run max (evs ++ [.ack]) q
  | takeLed {evs w d} (f : Frame) : 1 ≤ max → Run max evs ⟨w, none, d⟩ →
      Run max (evs ++ [.copy f true true]) ⟨w, some ⟨f, true, 1⟩, d⟩
  | takeQueued {evs w d} (f : Frame) : 1 ≤ max → Run max evs ⟨f :: w, none, d⟩ →
      Run max (evs ++ [.copy f false true]) ⟨w, some ⟨f, false, 1⟩, d⟩
  | resend {evs w d} (s : Sending) : Run max evs ⟨w, some s, d⟩ → s.copies < max →
      Run max (evs ++ [.copy s.frame s.led false]) ⟨w, some { s with copies := s.copies + 1 }, d⟩
  | retired {evs w d} (s : Sending) (abandoned : Bool) : Run max evs ⟨w, some s, d⟩ →
      Run max (evs ++ [.retired s.led abandoned]) ⟨w, none, d ++ [(s, abandoned)]⟩

/-! ## What the events say -/

/-- The frames accepted, in order. -/
def acceptedFrames (evs : List HostWakeEvent) : List Frame :=
  evs.filterMap fun e => match e with
    | .accepted f => some f
    | _ => none

/-- The first copies of queued frames, in the order they went out. -/
def queuedFirstCopies (evs : List HostWakeEvent) : List Frame :=
  evs.filterMap fun e => match e with
    | .copy f false true => some f
    | _ => none

/-- How many queued frames are done with. -/
def queuedRetired (evs : List HostWakeEvent) : Nat :=
  evs.countP fun e => match e with
    | .retired false _ => true
    | _ => false

/-- The copies and the retirements. -/
def wireEvents (evs : List HostWakeEvent) : List HostWakeEvent :=
  evs.filter fun e => match e with
    | .copy _ _ _ => true
    | .retired _ _ => true
    | _ => false

/-- The copies of one frame, all the same and nothing between them: the first, then the resends. -/
def Sending.trace (s : Sending) : List HostWakeEvent :=
  .copy s.frame s.led true :: List.replicate (s.copies - 1) (.copy s.frame s.led false)

/-- The copies of a frame that is done with, and its retirement. -/
def doneTrace (p : Sending × Bool) : List HostWakeEvent := p.1.trace ++ [.retired p.1.led p.2]

/-! ## The runs of the machine -/

namespace HostWake

/-- The frame in a slot of the queue. -/
def frameAt (hw : HostWake) (i : Nat) : Frame := ⟨hw.cmd i, hw.val i⟩

/-- The queue, oldest frame first. The outstanding frame, unless it is an LED frame, is still at its head. -/
def queue (hw : HostWake) : List Frame := Ring.view hw.frameAt hostWakeQueueSize hw.head hw.count

/-- The outstanding frame is a queued one. -/
def queuedOut (hw : HostWake) : Bool := decide (hw.state = .waitAck) && !hw.sendingLatest

/-- The accepted frames whose first copy has not gone out. -/
def unsent (hw : HostWake) : List Frame := hw.queue.drop (if hw.queuedOut then 1 else 0)

/-- What offering a frame shows. -/
def enqueueEvent (hw : HostWake) (cmd val : Byte) : HostWakeEvent :=
  if (hw.enqueue cmd val).2 then .accepted ⟨cmd, val⟩ else .refused ⟨cmd, val⟩

/-- What a step from `hw` shows when it ends in `r`: the frame it retires (the retired count moved), then the copy it sends. -/
def eventsTo (hw : HostWake) (r : HostWake × HostWakeStep) : List HostWakeEvent :=
  (if r.1.retired ≠ hw.retired then [.retired hw.sendingLatest (decide (r.1.abandoned ≠ hw.abandoned))] else []) ++
    (if r.2.send then [.copy ⟨r.2.cmd, r.2.val⟩ r.1.sendingLatest (decide (r.1.attempts = 1))] else [])

/-- What a step shows. -/
def stepEvents (hw : HostWake) (now : Nat) : List HostWakeEvent := hw.eventsTo (hw.step now)

/-- The machine after any interleaving of the four operations from `init`, with the events it showed. Times and ACKs are
arbitrary. -/
inductive Run (g t : Fin 4294967296) (m : Fin 256) : HostWake → List HostWakeEvent → Prop where
  | init : Run g t m (init g t m) []
  | enqueue {hw evs} (cmd val : Byte) : Run g t m hw evs →
      Run g t m (hw.enqueue cmd val).1 (evs ++ [hw.enqueueEvent cmd val])
  | setLatest {hw evs} (cmd val : Byte) : Run g t m hw evs →
      Run g t m (hw.setLatest cmd val) (evs ++ [.ledSet ⟨cmd, val⟩])
  | onAck {hw evs} : Run g t m hw evs → Run g t m hw.onAck (evs ++ [.ack])
  | step {hw evs} (now : Fin 4294967296) : Run g t m hw evs → Run g t m (hw.step now).1 (evs ++ hw.stepEvents now)

end HostWake

end OpenController
