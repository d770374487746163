import OpenController.KeyboardUart
import OpenController.Lib.Ring

/-!
# The UART ring

Between `UART1_IRQHandler` and `KeyboardUart_Poll` in the `KBD_IDLE_WFI` build: the handler pushes the bytes received, and sets a
latch when bytes were lost; the poll loop feeds them to the parser one at a time, and on the latch discards the ring and resets
the parser. The handler may run between any two steps of the poll (`PollPc`). `UartRun` is a run of the two, with what is
remembered of it: where each byte stood on the wire, the bytes received, fed and dispatched.
-/

namespace OpenController

/-- The size of the ring (`KBD_UART_RING_SIZE`). The indices run free in a byte. -/
def kbdUartRingSize : Nat := 64

/-- The state shared by the handler and the poll, and the parser. `ring` is read below the size of the ring. -/
structure UartRx (α : Type) where
  ring : Nat → α
  head : Nat
  tail : Nat
  overrunLatch : Bool
  parser : UartParser α

/-- Where the main loop stands: outside the poll, or before one of its steps: the latch check, the masked discard, the reset
after it, the empty check, the feed, the tail increment. -/
inductive PollPc where
  | out
  | latch
  | discard
  | reset
  | empty
  | feed
  | advance
  deriving DecidableEq, Repr

namespace UartRx

variable {α : Type}

/-- How many bytes are in the ring: `(uint8_t)(rx_ring_head - rx_ring_tail)`. -/
def count (u : UartRx α) : Nat := sub8 u.head u.tail

/-- The bytes in the ring, oldest first. -/
def bytes (u : UartRx α) : List α := Ring.view u.ring kbdUartRingSize u.tail u.count

/-- One byte read from the hardware: into the ring, or lost. -/
def push (u : UartRx α) (b : α) : UartRx α :=
  if u.count < kbdUartRingSize then
    { u with ring := Function.update u.ring (u.head % kbdUartRingSize) b, head := u8 (u.head + 1) }
  else { u with overrunLatch := true }

/-- `UART1_IRQHandler`: `overErr` is the hardware's overrun flag, `fifo` the bytes it reads. -/
def uart1IRQHandler (overErr : Bool) (fifo : List α) (u : UartRx α) : UartRx α :=
  fifo.foldl push (if overErr then { u with overrunLatch := true } else u)

/-- The masked discard: everything queued goes, and the latch is clear. -/
def discard (u : UartRx α) : UartRx α := { u with tail := u.head, overrunLatch := false }

/-- `reset_parser`. -/
def resetParser (u : UartRx α) : UartRx α := { u with parser := .reset }

/-- The byte at the tail of the ring. -/
def tailByte (u : UartRx α) : α := u.ring (u.tail % kbdUartRingSize)

/-- `feed_byte` on the byte at the tail of the ring, with the frames it dispatches. -/
def feedTail (val : α → Byte) (u : UartRx α) : UartRx α × List (List α) :=
  let r := UartParser.feedByte val u.parser u.tailByte
  ({ u with parser := r.1 }, r.2)

/-- `rx_ring_tail++`. -/
def advance (u : UartRx α) : UartRx α := { u with tail := u8 (u.tail + 1) }

end UartRx

/-- A byte with where it stood on the wire. -/
abbrev WireByte := Nat × Byte

/-- The handler and the poll, and what is remembered of a run: how many bytes the wire has carried, those that entered the ring,
those fed to the parser, and the frames dispatched. -/
structure UartWorld where
  rx : UartRx WireByte
  pc : PollPc
  arrived : Nat
  received : List WireByte
  fed : List WireByte
  dispatched : List (List WireByte)

namespace UartWorld

/-- Power on: the ring and the parser are empty. -/
def init : UartWorld where
  rx := ⟨fun _ => (0, 0), 0, 0, false, .reset⟩
  pc := .out
  arrived := 0
  received := []
  fed := []
  dispatched := []

/-- The bytes of an activation that the hardware kept, with where they stood. -/
def kept (arrived : Nat) : List (Option Byte) → List WireByte
  | [] => []
  | some b :: as => (arrived, b) :: kept (arrived + 1) as
  | none :: as => kept (arrived + 1) as

/-- One activation of the handler. `as` is what the wire carried since the last one: a byte the handler reads, or (`none`) one the
hardware lost in an overrun. The bytes that enter the ring are the ones its head moved over. -/
def activate (w : UartWorld) (as : List (Option Byte)) : UartWorld :=
  let fifo := kept w.arrived as
  let rx := w.rx.uart1IRQHandler (as.contains none) fifo
  { w with
    rx := rx
    arrived := w.arrived + as.length
    received := w.received ++ fifo.take (sub8 rx.head w.rx.head) }

/-- One step of the main loop: of `KeyboardUart_Poll`, or into it. -/
def poll (w : UartWorld) : UartWorld :=
  match w.pc with
  | .out => { w with pc := .latch }
  | .latch => { w with pc := if w.rx.overrunLatch then .discard else .empty }
  | .discard => { w with rx := w.rx.discard, pc := .reset }
  | .reset => { w with rx := w.rx.resetParser, pc := .latch }
  | .empty => { w with pc := if w.rx.tail = w.rx.head then .out else .feed }
  | .feed =>
    let r := w.rx.feedTail Prod.snd
    { w with rx := r.1, pc := .advance, fed := w.fed ++ [w.rx.tailByte], dispatched := w.dispatched ++ r.2 }
  | .advance => { w with rx := w.rx.advance, pc := .latch }

/-- The bytes in the ring that have not been fed. -/
def pending (w : UartWorld) : List WireByte := if w.pc = .advance then w.rx.bytes.tail else w.rx.bytes

end UartWorld

/-- The handler and the poll after any interleaving of activations and steps of the poll. The hardware overruns only while its
FIFO holds bytes, so an activation does not start with a lost byte. -/
inductive UartRun : UartWorld → Prop where
  | init : UartRun .init
  | activate {w} (as : List (Option Byte)) : UartRun w → as.head? ≠ some none → UartRun (w.activate as)
  | poll {w} : UartRun w → UartRun w.poll

end OpenController
