import OpenController.RfHears
import OpenController.RfSleep

/-!
# Silent probes

A rest probe that no report wakes ends as caught when `KBD_REST_PROBE_ANSWERS` of its responses have completed. What the radio is
sending, and what a probe has to show for its end, are remembered beside the RF task. The radio reports the end of a transmission at
most once, and not after `RF_Shut`.
-/

namespace OpenController

/-- What the radio is sending: a beacon of the search, or the response to a poll. -/
inductive Flight where
  | beacon
  | response
  deriving DecidableEq, Repr

/-- What is known of a probe: the responses that completed since its session began, the ends of transmissions that its answers were
counted for (`none` for anything else), and whether a report arrived during it. -/
structure ProbeRecord where
  completed : Nat
  counted : List (Option (RfSta × Flight))
  reported : Bool
  deriving DecidableEq, Repr

/-- The RF task, what the radio is sending, what is known of the probe, and what was known of the probes that ended as caught. -/
structure ProbeWorld where
  rf : Rf
  flight : Option Flight
  record : ProbeRecord
  catches : List ProbeRecord

/-- What the radio is sending after the state has changed: a transmission that started, and nothing any more after `RF_Shut`. -/
def Rf.sending (s t : Rf) (flight : Option Flight) : Option Flight :=
  if s.log.answers.length < t.log.answers.length then some .response
  else if s.radio.onAir.length < t.radio.onAir.length then some .beacon
  else if t.radio.shut && !s.radio.shut then none
  else flight

/-- What is known of the probe then: a probe starts anew, its session begins, or an answer is counted. -/
def ProbeRecord.watch (s t : Rf) (r : ProbeRecord) : ProbeRecord where
  completed := if t.log.sessions = s.log.sessions then r.completed else 0
  counted :=
    if t.rest.probe && !s.rest.probe then []
    else if s.rest.answers < t.rest.answers then r.counted ++ [none]
    else r.counted
  reported := if t.rest.probe && !s.rest.probe then false else r.reported

namespace ProbeWorld

/-- The RF task has changed to `t`. -/
def watch (t : Rf) (w : ProbeWorld) : ProbeWorld where
  rf := t
  flight := w.rf.sending t w.flight
  record := w.record.watch w.rf t
  catches := if t.trace.restProbeCatches = w.rf.trace.restProbeCatches then w.catches else w.catches ++ [w.record]

/-- The radio reports the end of a transmission. -/
def txEnd (sta : RfSta) (rsr : Nat) (rxBuf : Option RxBuf) (f : Flight) (w : ProbeWorld) : ProbeWorld :=
  let t := w.rf.rf2g4StatusCallBack sta rsr rxBuf
  { w with
    rf := t
    flight := none
    record := { w.record with
      completed := if sta = .txFinish ∧ f = .response then w.record.completed + 1 else w.record.completed
      counted := if t.rest.answers = w.rf.rest.answers then w.record.counted else w.record.counted ++ [some (sta, f)] } }

/-- A call begins: a report that comes during a probe is remembered. -/
def begin (call : RfCall) (w : ProbeWorld) : ProbeWorld :=
  match call with
  | .frame cmd _ _ =>
    if cmd = 0xA1 ∧ w.rf.rest.probe = true then { w with record := { w.record with reported := true } } else w
  | _ => w

/-- Nothing is known yet. -/
def start (s : Rf) : ProbeWorld := ⟨s, none, ⟨0, [], false⟩, []⟩

end ProbeWorld

/-- What can happen between two statements of the main loop. A packet is received while the radio listens, and the end of a
transmission is reported while it is in flight. -/
inductive ProbeHears : ProbeWorld → ProbeWorld → Prop where
  | packet {w} (rsr : Nat) (buf : RxBuf) (h : w.rf.radio.receiving = true) :
      ProbeHears w (w.watch (w.rf.rf2g4StatusCallBack .rxData rsr (some buf)))
  | txEnd {w} (sta : RfSta) (rsr : Nat) (rxBuf : Option RxBuf) (f : Flight) (hs : sta = .txFinish ∨ sta = .txFail)
      (hf : w.flight = some f) : ProbeHears w (w.txEnd sta rsr rxBuf f)
  | status {w} (sta : RfSta) (rsr : Nat) (rxBuf : Option RxBuf) (h : w.rf.radio.shut = false)
      (hs : sta = .other ∨ sta = .rxData ∧ rxBuf = none) : ProbeHears w (w.watch (w.rf.rf2g4StatusCallBack sta rsr rxBuf))
  | elsewhere {w t} (h : RfElsewhere w.rf t) : ProbeHears w (w.watch t)

/-- A run of a program of the RF task. -/
abbrev ProbeRuns {α : Type} (p : RfM α) : ProbeWorld → α → ProbeWorld → Prop :=
  Prog.Runs ProbeHears (p.zoom ProbeWorld.rf ProbeWorld.watch)

/-- The states between the calls of a main loop, each of which meets a condition on the state it begins in. -/
abbrev ProbeReach (ok : RfCall → Rf → Prop) : ProbeWorld → Prop :=
  Reach (fun w => ∃ s, RfBooted s ∧ w = .start s) fun (call : RfCall) w w' =>
    ok call w.rf ∧ ProbeRuns call.program (w.begin call) () w'

/-- TMOS does not run while the link rests with a response pending. -/
def RfCall.RestsClean (call : RfCall) (s : Rf) : Prop :=
  call = .process → s.state = .resting → s.resp.responsePending = false

/-- The probe had enough responses that completed, nothing else was counted, and no report arrived during it. -/
structure ProbeRecord.Earned (r : ProbeRecord) : Prop where
  completed : kbdRestProbeAnswers ≤ r.completed
  counted : ∀ a ∈ r.counted, a = some (.txFinish, .response)
  unreported : r.reported = false

end OpenController
