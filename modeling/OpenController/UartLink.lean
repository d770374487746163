import OpenController.RfHost
import OpenController.UartRing

/-!
# The frames of the host on the UART

What a host puts on the wire for each frame it sends, what `dispatch_frame` makes of the bytes of a frame, and the runs of the
handler and the poll from a state on in which the ring has room for what the wire carries.
-/

namespace OpenController

/-- What `dispatch_frame` does: the frame callback gets a frame, which is acknowledged first, or the queue of host wake gets an
ACK. -/
inductive Dispatch where
  | frame (cmd sub : Byte) (payload : List Byte)
  | onAck
  deriving DecidableEq, Repr

/-- `dispatch_frame`. -/
def dispatchFrame (buf : List Byte) : Dispatch :=
  let cmd := buf.getD 0 0
  if cmd = 0xA6 then .frame 0xA6 (buf.getD 1 0) []
  else if cmd = 0xA1 then .frame 0xA1 0 ((buf.drop 1).take 8)
  else if cmd = 0xA9 then .frame 0xA9 (buf.getD 1 0) ((buf.drop 2).take (buf.getD 1 0).toNat)
  else .onAck

/-- A device name: at most 18 bytes, and what pads them and the checksum to 19. -/
structure DeviceName where
  name : List Byte
  pad : List Byte
  fits : name.length + pad.length = 18

/-- A frame of the host. -/
inductive HostFrame where
  | command (sub : Byte)
  | report (r : Report)
  | name (n : DeviceName)
  | ack

namespace HostFrame

/-- The checksum behind some bytes. -/
def sealed (l : List Byte) : List Byte := l ++ [checksum l l.length]

/-- The bytes on the wire. -/
def bytes : HostFrame → List Byte
  | .command sub => sealed [0xA6, sub]
  | .report r => sealed (0xA1 :: r.toList)
  | .name n => sealed (0xA9 :: BitVec.ofNat 8 n.name.length :: n.name) ++ n.pad
  | .ack => [0x61, 0x0D, 0x0A]

/-- What it means. -/
def means : HostFrame → Dispatch
  | .command sub => .frame 0xA6 sub []
  | .report r => .frame 0xA1 0 r.toList
  | .name n => .frame 0xA9 (BitVec.ofNat 8 n.name.length) n.name
  | .ack => .onAck

end HostFrame

/-- A byte that starts no frame. -/
def NotHeader (b : Byte) : Prop := expectedForHeader b = 0

instance (b : Byte) : Decidable (NotHeader b) := inferInstanceAs (Decidable (_ = _))

namespace UartWorld

/-- No hole of the stream is left to be dealt with. -/
def Whole (w : UartWorld) : Prop := w.rx.overrunLatch = false ∧ w.pc ≠ .discard ∧ w.pc ≠ .reset

/-- The handler and the poll from a state on, while the wire carries some bytes. Each activation finds room in the ring for the bytes
it reads. -/
inductive After (w : UartWorld) : List Byte → UartWorld → Prop where
  | here : After w [] w
  | activate {sent v} (l : List Byte) : After w sent v → l.length ≤ kbdUartRingSize - v.rx.count →
      After w (sent ++ l) (v.activate (l.map some))
  | poll {sent v} : After w sent v → After w sent v.poll

/-- What was dispatched. -/
def calls (w : UartWorld) : List Dispatch := w.dispatched.map fun f => dispatchFrame (f.map Prod.snd)

end UartWorld
end OpenController
