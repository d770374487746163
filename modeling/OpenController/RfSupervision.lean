import OpenController.RfHears
import OpenController.RfSleep

/-!
# Supervision

A session that hears no poll for `RF_CONNECTED_TIMEOUT_TICKS` is torn down by `RF_EVT_DISCONNECT`. A poll does not start the timer
anew: it sets `supervision_kick`, and the next `RF_ConnectedTick` does. When sessions started and polls were caught is remembered beside
the RF task, and so is each teardown.
-/

namespace OpenController

/-- A teardown: when sessions started or a probe became one, when polls were caught, and the time the handler began. -/
structure LinkDrop where
  starts : List Nat
  polls : List Nat
  time : Nat
  deriving DecidableEq, Repr

/-- The supervision time has passed since the last of them. -/
def LinkDrop.Overdue (d : LinkDrop) : Prop := ∀ t ∈ d.starts ++ d.polls, t + rfConnectedTimeoutTicks ≤ d.time

instance (d : LinkDrop) : Decidable d.Overdue := inferInstanceAs (Decidable (∀ t ∈ _, _))

/-- The RF task, when sessions started and polls were caught, and the teardowns. -/
structure SupervisionWorld where
  rf : Rf
  starts : List Nat
  polls : List Nat
  drops : List LinkDrop

/-- The callback catches a poll. -/
def Rf.PollsWith (s : Rf) (sta : RfSta) (rsr : Nat) (rxBuf : Option RxBuf) : Prop :=
  sta = .rxData ∧ rsr = 0 ∧ ∃ buf ∈ rxBuf, s.CatchesPoll buf

theorem Rf.pollsWith_some {s : Rf} {sta : RfSta} {rsr : Nat} {buf : RxBuf} :
    sta = .rxData ∧ rsr = 0 ∧ s.CatchesPoll buf ↔ s.PollsWith sta rsr (some buf) := by
  simp [Rf.PollsWith]

theorem Rf.not_pollsWith_none {s : Rf} {sta : RfSta} {rsr : Nat} : ¬s.PollsWith sta rsr none := by
  simp [Rf.PollsWith]

instance (s : Rf) (sta : RfSta) (rsr : Nat) (rxBuf : Option RxBuf) : Decidable (s.PollsWith sta rsr rxBuf) :=
  match rxBuf with
  | none => isFalse Rf.not_pollsWith_none
  | some _ => decidable_of_iff _ Rf.pollsWith_some

/-- A session starts, or its probe ends and it goes on. -/
def Rf.StartsSession (s t : Rf) : Prop :=
  t.log.sessions ≠ s.log.sessions ∨ s.state = .connected ∧ s.rest.probe = true ∧ t.rest.probe = false

instance (s t : Rf) : Decidable (s.StartsSession t) := inferInstanceAs (Decidable (_ ∨ _))

namespace SupervisionWorld

/-- A statement of the RF task leads to `t`. -/
def watch (t : Rf) (w : SupervisionWorld) : SupervisionWorld :=
  { w with rf := t, starts := if w.rf.StartsSession t then w.starts ++ [w.rf.tmos.now] else w.starts }

/-- The radio calls back. -/
def hear (sta : RfSta) (rsr : Nat) (rxBuf : Option RxBuf) (w : SupervisionWorld) : SupervisionWorld :=
  { w with
    rf := w.rf.rf2g4StatusCallBack sta rsr rxBuf
    polls := if w.rf.PollsWith sta rsr rxBuf then w.polls ++ [w.rf.tmos.now] else w.polls }

/-- The world at the start. -/
def start (s : Rf) : SupervisionWorld := ⟨s, [], [], []⟩

/-- The handler of an event ran, from `u` on: if it was `RF_EVT_DISCONNECT` in a session, the session is over. -/
def handled (next : Option RfEvt) (u w : SupervisionWorld) : SupervisionWorld :=
  if next = some .disconnect ∧ u.rf.state = .connected then
    { w with drops := w.drops ++ [⟨u.starts, w.polls, u.rf.tmos.now⟩] }
  else w

end SupervisionWorld

/-- What can happen between two statements of the main loop. A timer expires at its deadline or later. -/
inductive SupervisionHears : SupervisionWorld → SupervisionWorld → Prop where
  | callback {w} (sta : RfSta) (rsr : Nat) (rxBuf : Option RxBuf) (h : w.rf.radio.shut = false) :
      SupervisionHears w (w.hear sta rsr rxBuf)
  | elsewhere {w t} (h : RfElsewhere w.rf t)
      (hd : ∀ e d, w.rf.tmos.timers e = some d → t.tmos.timers e = none → d ≤ w.rf.tmos.now) :
      SupervisionHears w { w with rf := t }

/-- A run of a program of the RF task. -/
abbrev SupervisionRuns {α : Type} (p : RfM α) : SupervisionWorld → α → SupervisionWorld → Prop :=
  Prog.Runs SupervisionHears (p.zoom SupervisionWorld.rf SupervisionWorld.watch)

/-- A step of the main loop: a call, or the event that TMOS takes, with the world it is handled from. -/
inductive SupervisionStep where
  | call (c : RfCall)
  | event (next : Option RfEvt) (u : SupervisionWorld)

/-- The worlds a step leads to. -/
def SupervisionStep.Leads (step : SupervisionStep) (w w' : SupervisionWorld) : Prop :=
  match step with
  | .call c => c ≠ .process ∧ SupervisionRuns c.program w () w'
  | .event next u => SupervisionRuns tmosTake w next u ∧ ∃ v, SupervisionRuns (tmosHandle next) u () v ∧ w' = .handled next u v

/-- No poll waits to be noted when `RF_EVT_DISCONNECT` is handled in a session, and none is caught while it is. -/
def SupervisionStep.Unheard (step : SupervisionStep) (w' : SupervisionWorld) : Prop :=
  match step with
  | .event (some .disconnect) u => u.rf.state = .connected → u.rf.supervisionKick = false ∧ w'.polls = u.polls
  | _ => True

/-- The worlds between the steps of a main loop, each of which meets a condition. -/
abbrev SupervisionReach (ok : SupervisionStep → SupervisionWorld → Prop) : SupervisionWorld → Prop :=
  Reach (fun w => ∃ s, RfBooted s ∧ w = .start s) fun (step : SupervisionStep) w w' => step.Leads w w' ∧ ok step w'

end OpenController
