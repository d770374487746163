import OpenController.Lib.Word

/-!
# The UART parser

The receive path of `keyboard_uart.c`: `feedByte` adds a byte to the candidate frame in `rx_buf`, and `processRxBuf` hands it to
`dispatch_frame` when its window has arrived and it is valid, or looks for the next header among the bytes kept. The bytes are of
any type with a value, so that a byte can carry where it stood on the wire.
-/

namespace OpenController

/-- The size of `rx_buf` (`KBD_UART_MAX_FRAME`). -/
def kbdUartMaxFrame : Nat := 24

/-- `expected_for_header`: the length of the frame a header starts, 0 for a byte that is not a header. -/
def expectedForHeader (b : Byte) : Nat :=
  if b = 0xA6 ∨ b = 0x61 then 3
  else if b = 0xA1 then 10
  else if b = 0xA9 then 21
  else 0

/-- `checksum`: the sum of the first `len` bytes, in a byte. -/
def checksum (buf : List Byte) (len : Nat) : Byte := (buf.take len).foldl (· + ·) 0

/-- `frame_is_valid`. It reads the frame at the start of the buffer, below the length its header gives. -/
def frameIsValid (buf : List Byte) : Bool :=
  let cmd := buf.getD 0 0
  if cmd = 0xA6 then checksum buf 2 == buf.getD 2 0
  else if cmd = 0xA1 then checksum buf 9 == buf.getD 9 0
  else if cmd = 0xA9 then
    let nameLen := buf.getD 1 0
    let chkIdx := (2 + nameLen).toNat
    decide (nameLen ≤ 18) && decide (chkIdx < 21) && checksum buf chkIdx == buf.getD chkIdx 0
  else if cmd = 0x61 then buf.getD 1 0 == 0x0D && buf.getD 2 0 == 0x0A
  else false

/-- The parser's state: the first `rx_len` cells of `rx_buf`, and `rx_expected`. -/
structure UartParser (α : Type) where
  buf : List α
  expected : Nat
  deriving DecidableEq, Repr

namespace UartParser

variable {α : Type} (val : α → Byte)

/-- The length of the frame the first of some bytes starts. -/
def window (b : α) : Nat := expectedForHeader (val b)

/-- `reset_parser`. -/
def reset : UartParser α := ⟨[], 0⟩

/-- `shift_rx_buf`. -/
def shiftRxBuf (n : Nat) (p : UartParser α) : UartParser α :=
  match p.buf.drop n with
  | [] => reset
  | b :: l => if window val b = 0 then reset else ⟨b :: l, window val b⟩

/-- `resync_parser`: to the next header after the first byte. -/
def resyncParser (p : UartParser α) : UartParser α :=
  match p.buf.tail.findIdx? fun b => window val b ≠ 0 with
  | some i => shiftRxBuf val (i + 1) p
  | none => reset

/-- The loop of `process_rx_buf`, for at most as many rounds as its first argument, and the frames handed to `dispatch_frame`. -/
def processRxBuf : Nat → UartParser α → UartParser α × List (List α)
  | 0, p => (p, [])
  | fuel + 1, p =>
    if p.buf ≠ [] ∧ p.expected ≠ 0 ∧ p.expected ≤ p.buf.length then
      if frameIsValid (p.buf.map val) then
        let r := processRxBuf fuel (shiftRxBuf val p.expected p)
        (r.1, p.buf.take p.expected :: r.2)
      else processRxBuf fuel (resyncParser val p)
    else (p, [])

/-- `feed_byte`. Every round of the loop shortens the buffer, so its length is rounds enough (`processRxBuf_fuel`). -/
def feedByte (p : UartParser α) (b : α) : UartParser α × List (List α) :=
  if p.buf = [] ∧ window val b = 0 then ({ p with expected := 0 }, [])
  else
    let expected := if p.buf = [] then window val b else p.expected
    if p.buf.length ≥ kbdUartMaxFrame then (reset, [])
    else processRxBuf val (p.buf.length + 2) ⟨p.buf ++ [b], expected⟩

/-- The parser after a stream, with the frames it handed to `dispatch_frame`. -/
def feed (p : UartParser α) (s : List α) : UartParser α × List (List α) :=
  s.foldl (fun r b => ((feedByte val r.1 b).1, r.2 ++ (feedByte val r.1 b).2)) (p, [])

end UartParser

end OpenController
