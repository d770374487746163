import OpenController.HostQueue

/-!
# The LED slot

The latest LED value has a slot of its own beside the queue. `LedRun` is a run of the machine whose owner may clear `latest_lost`,
and `LedSlot` is what its events say: the newest value that was set and what became of it, which kind of frame was taken last, and
how many frames are queued.
-/

namespace OpenController

/-- What a run shows: an event of the machine, an abandonment that raises `latest_lost`, or the owner clearing it. -/
inductive LedEvent where
  | shown (e : HostWakeEvent)
  | raised
  | cleared
  deriving DecidableEq, Repr

/-- What became of the newest value that was set. -/
inductive LedFate where
  | unset
  | pending
  | out
  | acked
  | abandoned
  | lost
  deriving DecidableEq, Repr

/-- What the events say: the newest value that was set, what became of it, whether the frame taken last was an LED frame, and how
many accepted frames are not retired. -/
structure LedSlot where
  newest : Option Frame
  fate : LedFate
  taken : Option Bool
  queued : Nat
  deriving DecidableEq, Repr

namespace LedSlot

/-- What an event adds. -/
def note (s : LedSlot) : LedEvent → LedSlot
  | .shown (.accepted _) => { s with queued := s.queued + 1 }
  | .shown (.ledSet f) => { s with newest := some f, fate := .pending }
  | .shown (.copy _ true true) => { s with fate := if s.fate = .pending then .out else s.fate, taken := some true }
  | .shown (.copy _ false true) => { s with taken := some false }
  | .shown (.retired false _) => { s with queued := s.queued - 1 }
  | .shown (.retired true abandoned) =>
    { s with fate := if s.fate = .out then (if abandoned then .abandoned else .acked) else s.fate }
  | .raised => { s with fate := if s.fate = .abandoned then .lost else s.fate }
  | _ => s

/-- The event fits: an LED frame carries the newest value, which was not taken before, and follows another LED frame only if
nothing is queued; a queued frame follows another one only if no value is pending. -/
def Allows (s : LedSlot) : LedEvent → Prop
  | .shown (.copy f true true) => s.newest = some f ∧ s.fate = .pending ∧ (s.taken = some true → s.queued = 0)
  | .shown (.copy _ false true) => s.taken = some false → s.fate ≠ .pending
  | _ => True

end LedSlot

/-- What a list of events says. -/
def ledSlot (evs : List LedEvent) : LedSlot := evs.foldl LedSlot.note ⟨none, .unset, none, 0⟩

/-- Whether `latest_lost` has been raised and not cleared since. -/
def lostFlag (evs : List LedEvent) : Bool :=
  evs.foldl (fun lost e => match e with
    | .raised => true
    | .cleared => false
    | .shown _ => lost) false

namespace HostWake

/-- The owner clears `latest_lost`. -/
def clearLost (hw : HostWake) : HostWake := { hw with latestLost := false }

/-- A step raises `latest_lost`: it does so where it was cleared before. -/
def raisesLost (hw : HostWake) (now : Nat) : Bool := (hw.clearLost.step now).1.latestLost

/-- What a step shows. -/
def ledEvents (hw : HostWake) (now : Nat) : List LedEvent :=
  (hw.stepEvents now).map .shown ++ if hw.raisesLost now then [.raised] else []

/-- The machine after any interleaving of the four operations and of clearing `latest_lost`, with what it showed. Times and ACKs
are arbitrary. -/
inductive LedRun (g t : Fin 4294967296) (m : Fin 256) : HostWake → List LedEvent → Prop where
  | init : LedRun g t m (init g t m) []
  | enqueue {hw evs} (cmd val : Byte) : LedRun g t m hw evs →
      LedRun g t m (hw.enqueue cmd val).1 (evs ++ [.shown (hw.enqueueEvent cmd val)])
  | setLatest {hw evs} (cmd val : Byte) : LedRun g t m hw evs →
      LedRun g t m (hw.setLatest cmd val) (evs ++ [.shown (.ledSet ⟨cmd, val⟩)])
  | onAck {hw evs} : LedRun g t m hw evs → LedRun g t m hw.onAck (evs ++ [.shown .ack])
  | clearLost {hw evs} : LedRun g t m hw evs → LedRun g t m hw.clearLost (evs ++ [.cleared])
  | step {hw evs} (now : Fin 4294967296) : LedRun g t m hw evs → LedRun g t m (hw.step now).1 (evs ++ hw.ledEvents now)

end HostWake

end OpenController
