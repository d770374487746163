import OpenController.HostQueue

/-!
# Which copy an ACK answers

ACKs carry no sequence number, so the machine cannot tell which copy one answers. `AckLog` remembers it beside a run: the copies
sent, the ACKs that came, each for a copy, and for every frame retired by an ACK the copies whose ACKs had set `acked`. `AckRun`
is a run whose host ACKs each copy at most once, less than two ACK timeouts after it went out.
-/

namespace OpenController

/-- A copy on the wire: the number of the frame, counted as frames are taken, and the time the copy went out. -/
structure SentCopy where
  frame : Nat
  time : Nat
  deriving DecidableEq, Repr

/-- What is remembered of a run: the frames taken so far, the copies sent, the copies the host has ACKed, those whose ACKs have
set `acked` since the last copy, and the frames retired by an ACK with the copies that had set it. -/
structure AckLog where
  taken : Nat
  copies : List SentCopy
  answered : List Nat
  setters : List Nat
  retired : List (Nat × List Nat)
  deriving DecidableEq, Repr

namespace AckLog

/-- Nothing has been sent. -/
def empty : AckLog := ⟨0, [], [], [], []⟩

/-- What an event of a step at the time `now` adds. A first copy is of a new frame; the outstanding frame is the newest one. -/
def note (now : Nat) (log : AckLog) : HostWakeEvent → AckLog
  | .copy _ _ true => { log with taken := log.taken + 1, copies := log.copies ++ [⟨log.taken + 1, now⟩], setters := [] }
  | .copy _ _ false => { log with copies := log.copies ++ [⟨log.taken, now⟩], setters := [] }
  | .retired _ false => { log with retired := log.retired ++ [(log.taken, log.setters)], setters := [] }
  | .retired _ true => { log with setters := [] }
  | _ => log

/-- What the events of a step add. -/
def noteAll (now : Nat) (log : AckLog) (evs : List HostWakeEvent) : AckLog := evs.foldl (note now) log

@[simp] theorem noteAll_nil (now : Nat) (log : AckLog) : log.noteAll now [] = log := rfl

@[simp] theorem noteAll_cons (now : Nat) (log : AckLog) (e : HostWakeEvent) (evs : List HostWakeEvent) :
    log.noteAll now (e :: evs) = (log.note now e).noteAll now evs := rfl

/-- An ACK that answers the copy `c`. It sets `acked` when a frame is outstanding. -/
def ack (log : AckLog) (hw : HostWake) (c : Nat) : AckLog :=
  { log with
    answered := c :: log.answered
    setters := if hw.state = .waitAck then c :: log.setters else log.setters }

end AckLog

namespace HostWake

/-- The machine and the log at the time `now`, after any interleaving of the four operations at nondecreasing times in which
every ACK answers a copy not yet ACKed, less than two ACK timeouts after it went out. The machine sees the time in a 32-bit
counter. -/
inductive AckRun (g t : Fin 4294967296) (m : Fin 256) : Nat → HostWake → AckLog → Prop where
  | init (now : Nat) : AckRun g t m now (init g t m) .empty
  | enqueue {now hw log} (cmd val : Byte) : AckRun g t m now hw log → AckRun g t m now (hw.enqueue cmd val).1 log
  | setLatest {now hw log} (cmd val : Byte) : AckRun g t m now hw log → AckRun g t m now (hw.setLatest cmd val) log
  | onAck {now hw log} (now' c : Nat) (p : SentCopy) : AckRun g t m now hw log → now ≤ now' → log.copies[c]? = some p →
      c ∉ log.answered → now' < p.time + 2 * t.val → AckRun g t m now' hw.onAck (log.ack hw c)
  | step {now hw log} (now' : Nat) : AckRun g t m now hw log → now ≤ now' →
      AckRun g t m now' (hw.step (u32 now')).1 (log.noteAll now' (hw.stepEvents (u32 now')))

end HostWake

end OpenController
