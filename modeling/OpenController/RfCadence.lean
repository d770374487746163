import OpenController.Lib.Potential
import OpenController.RfLink
import OpenController.RfDuty

/-!
# The cadence of the rest

A link that rests probes its dongle every `KBD_REST_PROBE_TICKS`, until its second stage. What of the link this depends on, what its
steps do to it, and the meters of a rest. That the link does no more is shown in `Lemmas/RfCadenceStep`.
-/

namespace OpenController

namespace Tmos

/-- When an event is due: since when it is queued, or else until when its timer runs. -/
def dueBy (t : Tmos) (e : RfEvt) : Option Nat := (t.queued e).or (t.timers e)

end Tmos

/-- The events of a rest. -/
def RfEvt.ofRest : RfEvt → Bool
  | .restProbe | .restProbeTimeout | .restStage2 => true
  | .start | .rxRestart | .pairBcast | .pairRxOff | .pairTimeout | .enterConnected | .respond | .notifyLed | .discardHid
  | .saveBond | .restIdle | .disconnect => false

/-- A rest that no report has ended, as its timers see it: whether there is one, whether it probes, whether it is in its first stage,
the timers, and the entries into a rest. -/
structure RfDoze where
  rests : Bool
  probing : Bool
  first : Bool
  tmos : Tmos
  entries : Nat

/-- The rest of a link. -/
def RfLink.doze (l : RfLink) : RfDoze where
  rests := (decide (l.state = .resting) || l.probe) && !l.wake
  probing := l.probe && !l.wake
  first := decide (l.stage = 1)
  tmos := l.tmos
  entries := l.rests

namespace RfDoze

/-- An event is taken from the queue. -/
def take (d : RfDoze) (e : RfEvt) : RfDoze := { d with tmos := d.tmos.take e }

/-- The link rests. -/
def enter (d : RfDoze) : RfDoze :=
  { d with
    rests := true
    probing := false
    first := true
    tmos := ((d.tmos.stopTask .restProbeTimeout).startTask .restProbe kbdRestProbeTicks).startTask .restStage2 kbdRestStage2Ticks
    entries := d.entries + 1 }

/-- A probe. -/
def probe (d : RfDoze) : RfDoze :=
  { d with
    probing := true
    tmos := ((d.tmos.startTask .restProbe kbdRestProbeTicks).stopTask .restProbeTimeout).startTask .restProbeTimeout
      kbdRestProbeTimeoutTicks }

/-- The end of a probe. -/
def probeEnd (d : RfDoze) : RfDoze := { d with probing := false, tmos := d.tmos.stopTask .restProbeTimeout }

/-- The second stage. -/
def second (d : RfDoze) : RfDoze := { d with first := false, tmos := d.tmos.stopTask .restProbe }

/-- The next probe can start. -/
def Free (d : RfDoze) : Prop := d.rests = true ∧ d.probing = false ∧ d.first = true

/-- A step that is not about the rest. -/
structure Stays (d d' : RfDoze) : Prop where
  rests : d'.rests = d.rests
  probing : d'.probing = d.probing
  first : d'.first = d.first
  entries : d'.entries = d.entries
  now : d'.tmos.now = d.tmos.now
  timers : ∀ e, e.ofRest = true → d'.tmos.timers e = d.tmos.timers e
  queued : ∀ e, e.ofRest = true → d'.tmos.queued e = d.tmos.queued e

/-- There is no rest any more. -/
structure Ended (d d' : RfDoze) : Prop where
  rests : d'.rests = false
  probing : d'.probing = false
  entries : d'.entries = d.entries
  now : d'.tmos.now = d.tmos.now

/-- The steps of a rest, with the probes that start. -/
inductive Step : RfOp → Nat → RfDoze → RfDoze → Prop where
  | stays {op d d'} : Stays d d' → Step op 0 d d'
  | ended {op d d'} : Ended d d' → Step op 0 d d'
  | enter {d d'} : d.tmos.live .restProbe = false → d.tmos.live .restStage2 = false → Stays d.enter d' → Step .process 0 d d'
  | probe {d d'} : d.tmos.next = some .restProbe → d.Free → Stays (d.take .restProbe).probe d' → Step .process 1 d d'
  | probeEnd {op d d'} : d.probing = true → Stays d.probeEnd d' → Step op 0 d d'
  | skip {d e} : d.tmos.next = some e → (e = .restProbe → ¬d.Free) → (e = .restProbeTimeout → d.probing = false) →
      (e = .restStage2 → d.first = false) → Step .process 0 d (d.take e)
  | second {d} : d.tmos.next = some .restStage2 → Step .process 0 d (d.take .restStage2).second
  | expire {e d} : Step (.expire e) 0 d { d with tmos := d.tmos.expire e }
  | advance {n d} : Step (.advance n) 0 d { d with tmos := d.tmos.advance n }

end RfDoze

/-! ## The meters -/

/-- The link rests, and no report has ended it. -/
def Rf.Rests (s : Rf) : Prop := (s.state = .resting ∨ s.rest.probe = true) ∧ s.rest.probeWake = false

instance (s : Rf) : Decidable s.Rests := inferInstanceAs (Decidable ((_ ∨ _) ∧ _))

/-- The handler of `RF_EVT_REST_PROBE` starts a probe. -/
def Rf.StartsProbe (s : Rf) : Prop := s.tmos.next = some .restProbe ∧ s.state = .resting ∧ s.rest.stage = 1

instance (s : Rf) : Decidable s.StartsProbe := inferInstanceAs (Decidable (_ ∧ _))

/-- A probe has started: the keyboard searches for its bonded dongle, and its first beacon is queued; the probe's time runs, and so
does the time to the next one. -/
structure Rf.ProbeStarted (s : Rf) : Prop where
  probe : s.rest.probe = true
  searches : s.state = .pairing ∧ s.pair.flavor = .bonded
  beacon : s.tmos.waits .pairBcast = true
  timeout : s.tmos.timers .restProbeTimeout = some (s.tmos.now + kbdRestProbeTimeoutTicks)
  next : s.tmos.timers .restProbe = some (s.tmos.now + kbdRestProbeTicks)

/-- The probes that start. -/
def RfOp.probes (op : RfOp) (s : Rf) : Nat :=
  match op with
  | .process => if s.StartsProbe then 1 else 0
  | _ => 0

/-- The time for which the link rests in its first stage. -/
def RfOp.dozed (op : RfOp) (s : Rf) : Nat := if s.Rests ∧ s.rest.stage = 1 then op.ticks s else 0

/-- The time for which the radio is on in a rest. -/
def RfOp.radioOn (op : RfOp) (s : Rf) : Nat := if s.Rests ∧ s.radio.shut = false then op.ticks s else 0

/-- The entries into a rest. -/
def RfOp.restEnters (op : RfOp) (s : Rf) : Nat := (op.apply s).trace.restEntries - s.trace.restEntries

/-- The events of a rest are handled no later than some ticks after they are due. -/
def RfOp.RestsBy (late : Nat) (op : RfOp) (t : Tmos) : Prop :=
  match op with
  | .advance ticks => ∀ e ∈ [RfEvt.restProbe, .restProbeTimeout, .restStage2], ∀ d, t.due e d → t.now + ticks ≤ d + late
  | _ => True

instance (late : Nat) (op : RfOp) (t : Tmos) : Decidable (op.RestsBy late t) :=
  match op with
  | .advance ticks =>
    inferInstanceAs
      (Decidable (∀ e ∈ [RfEvt.restProbe, .restProbeTimeout, .restStage2], ∀ d, t.due e d → t.now + ticks ≤ d + late))
  | .process | .connectedTick | .callback .. | .tmr0Cycle | .tmr0Irq | .frame .. | .expire _ | .hardware _ | .ledResync
  | .quiesce => isTrue trivial

/-- The timers of a run expire on time, and the events of a rest are handled no later than some ticks after they are due. -/
abbrev Rf.RestsBy (late : Nat) (ops : List RfOp) (s : Rf) : Prop :=
  Potential.Along RfOp.apply (fun op s => op.OnTime s.tmos ∧ op.RestsBy late s.tmos) ops s

/-- The RF task, and when the last probe started or the rest was entered. -/
structure RfPaced where
  rf : Rf
  last : Nat

/-- What happens to both. -/
def RfPaced.apply (op : RfOp) (w : RfPaced) : RfPaced :=
  ⟨op.apply w.rf, if op.probes w.rf = 0 ∧ op.restEnters w.rf = 0 then w.last else w.rf.tmos.now⟩

/-- The states reached in runs whose timers expire on time and whose rests are handled so. -/
abbrev RfPacedReach (late : Nat) : RfPaced → Prop :=
  Reach (fun w => RfBooted w.rf) fun (op : RfOp) w w' =>
    (op.OnTime w.rf.tmos ∧ op.RestsBy late w.rf.tmos) ∧ w' = w.apply op

end OpenController
