import OpenController.HostWakeLed

/-!
# CHWAKE and the wire, in time

`LineRun` is a run at nondecreasing times, which the machine sees in a 32-bit counter. It remembers every step: when it was, what
it returned and what it showed.
-/

namespace OpenController

/-- A step that was made: its time, what it returned and what it showed. -/
structure StepEntry where
  time : Nat
  out : HostWakeStep
  shows : List HostWakeEvent
  deriving DecidableEq, Repr

/-- What the steps showed, each event with its time. -/
def wireLog (log : List StepEntry) : List (Nat × HostWakeEvent) := log.flatMap fun e => e.shows.map (e.time, ·)

/-- The level CHWAKE was driven to last. It is low before the first step. -/
def lastLine (log : List StepEntry) : Bool := log.getLast?.elim false (·.out.line)

/-- The time of the last copy, and whether it was a first one. -/
def lastCopy (wire : List (Nat × HostWakeEvent)) : Option (Nat × Bool) :=
  wire.foldl (fun last e => match e.2 with
    | .copy _ _ first => some (e.1, first)
    | _ => last) none

namespace HostWake

/-- The machine and the steps made by the time `now`, after any interleaving of the operations at nondecreasing times. ACKs are
arbitrary. -/
inductive LineRun (g t : Fin 4294967296) (m : Fin 256) : Nat → HostWake → List StepEntry → Prop where
  | init (now : Nat) : LineRun g t m now (init g t m) []
  | enqueue {now hw log} (cmd val : Byte) : LineRun g t m now hw log → LineRun g t m now (hw.enqueue cmd val).1 log
  | setLatest {now hw log} (cmd val : Byte) : LineRun g t m now hw log → LineRun g t m now (hw.setLatest cmd val) log
  | onAck {now hw log} : LineRun g t m now hw log → LineRun g t m now hw.onAck log
  | clearLost {now hw log} : LineRun g t m now hw log → LineRun g t m now hw.clearLost log
  | step {now hw log} (now' : Nat) : LineRun g t m now hw log → now ≤ now' →
      LineRun g t m now' (hw.step (u32 now')).1
        (log ++ [⟨now', (hw.step (u32 now')).2, hw.stepEvents (u32 now')⟩])

end HostWake

end OpenController
