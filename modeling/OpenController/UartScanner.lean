import OpenController.KeyboardUart
import OpenController.Lib.Scanner

/-!
# What the UART parser is for: a scanner

`refScan` reads a stream from left to right for the windows of valid frames. The parser makes the same choices, except behind an
accepted frame: `shift_rx_buf` drops all the bytes kept when the first of them is not a header. `Settled` says that a byte fed
makes it drop nothing the scanner would use; `Theorems/UartScanner.lean` shows that this is what the agreement takes.
-/

namespace OpenController
namespace UartParser

variable {α : Type} (val : α → Byte)

/-- The reference scanner: the frames it emits, and the bytes of a candidate it waits for. -/
def refScan (s : List α) : List (List α) × List α := Scanner.scan (window val) (fun l => frameIsValid (l.map val)) 0 s

/-- What follows each frame the scanner emits. -/
def refRestarts (s : List α) : List (List α) := Scanner.restarts (window val) (fun l => frameIsValid (l.map val)) 0 s

/-- Bytes that may follow an accepted frame: there are none, or the first is a header, or they hold neither a frame nor a candidate
that waits for more. -/
def Harmless : List α → Prop
  | [] => True
  | b :: l => window val b ≠ 0 ∨ refScan val (b :: l) = ([], [])

/-- In the bytes kept and the byte fed, every accepted frame is followed by bytes that may follow one. -/
def Settled (p : UartParser α) (b : α) : Prop := ∀ r ∈ refRestarts val (p.buf ++ [b]), Harmless val r

/-- The parser and the scanner agree on a stream: on the frames, and on the bytes kept for the next one. -/
def Agrees (s : List α) : Prop :=
  (feed val reset s).2 = (refScan val s).1 ∧ (feed val reset s).1.buf = (refScan val s).2

end UartParser
end OpenController
