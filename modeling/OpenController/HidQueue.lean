import OpenController.RfInterrupt
import OpenController.Lib.Ring

/-!
# The report FIFO as a queue

What a queue of reports is for: the reports that leave it, and then those in it, are reports that came in, in their order, and the
last of them is the last that came in. The runs are those of `RF_QueueHIDReport`, of acknowledgements that come in at any time, and
of teardowns that forget what was queued last.
-/

namespace OpenController

/-- The queue, oldest report first. -/
def RfHid.queue (h : RfHid) : List Report := Ring.view h.fifo hidFifoSlots h.head h.count

/-- The reports that were acknowledged, and then those that are queued. -/
def Rf.entries (s : Rf) : List Report := s.log.retired.map (·.report) ++ s.hid.queue

/-! ## What comes in -/

/-- A report passed to `RF_QueueHIDReport`, with whether the queue was full when it came, or `hid_last_queued_valid = 0`. -/
inductive HidEvent where
  | report (r : Report) (full : Bool)
  | reset
  deriving DecidableEq

/-- The reports passed in. -/
def passedReports (evs : List HidEvent) : List Report :=
  evs.filterMap fun e => match e with
    | .report r _ => some r
    | .reset => none

/-- The transitions so far and the report before, after one more event: a report that repeats the one before it is none. -/
def HidEvent.note (acc : List Report × Option Report) : HidEvent → List Report × Option Report
  | .report r _ => (if acc.2 = some r then acc.1 else acc.1 ++ [r], some r)
  | .reset => (acc.1, none)

/-- The transitions, and the report before the next one, unless there was a reset since. -/
def noted (evs : List HidEvent) : List Report × Option Report := evs.foldl HidEvent.note ([], none)

/-- The reports passed in, less those that repeat the one before them with no reset in between. -/
def transitions (evs : List HidEvent) : List Report := (noted evs).1

/-! ## Runs -/

/-- What can happen between two statements: an interrupt, or anything that is not about the queue, so that an acknowledgement can
come at any time. -/
inductive QueueInterrupt : Rf → Rf → Prop where
  | interrupt {s t} (h : RfInterrupt s t) : QueueInterrupt s t
  | elsewhere {s t} (hid : t.hid = s.hid) (retired : t.log.retired = s.log.retired) : QueueInterrupt s t

/-- The runs of the queue, from an empty one on. `mark` is the main loop's part of `hid_head_sent`. -/
inductive QueueRun : List HidEvent → Rf → Prop where
  | start {s} (empty : s.hid.tail = s.hid.head) (head : s.hid.head < 256) (valid : s.hid.lastQueuedValid = false)
      (retired : s.log.retired = []) : QueueRun [] s
  | report {evs s t} (r : Report) : QueueRun evs s → Prog.Runs QueueInterrupt (rfQueueHIDReport r) s () t →
      QueueRun (evs ++ [.report r (decide (s.hid.count = hidFifoSlots))]) t
  | interrupt {evs s t} : QueueRun evs s → QueueInterrupt s t → QueueRun evs t
  | mark {evs s} (sent : Bool) : QueueRun evs s → QueueRun evs { s with hid := { s.hid with headSent := sent } }
  | reset {evs s} : QueueRun evs s → QueueRun (evs ++ [.reset]) { s with hid := { s.hid with lastQueuedValid := false } }

end OpenController
