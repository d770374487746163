import OpenController.Lib.Potential
import OpenController.RfTimers

/-!
# The duty cycle of the search

While a keyboard searches for its bonded dongle, a window opens with each beacon, and the receiver listens in it for
`KBD_PAIR_RX_WINDOW_TICKS`. What of the RF task this depends on, what its functions do to it, and a meter of how long the receiver
listens. That the RF task does no more is shown in `Lemmas/RfDutyStep`.
-/

namespace OpenController

/-- The search for the bonded dongle, as its receiver sees it: whether the RF task is in it, whether the window is open and its end is
set, whether the receiver listens, the timers, and the entries into PAIRING. -/
structure RfDuty where
  searching : Bool
  isOpen : Bool
  offArmed : Bool
  receiving : Bool
  tmos : Tmos
  entries : Nat

/-- The search of a state of the RF task. -/
def Rf.duty (s : Rf) : RfDuty where
  searching := decide (s.state = .pairing) && decide (s.pair.flavor = .bonded)
  isOpen := s.pair.rxOpen
  offArmed := s.pair.rxOffArmed
  receiving := s.radio.receiving
  tmos := s.tmos
  entries := s.trace.pairEntries

namespace RfDuty

/-- The receiver listens in a search. -/
def listens (d : RfDuty) : Bool := d.searching && d.receiving

/-- The window is open, and the receiver was not started in it yet. -/
structure Fresh (d : RfDuty) : Prop where
  isOpen : d.isOpen = true
  offArmed : d.offArmed = false
  receiving : d.receiving = false
  timer : d.tmos.timers .pairRxOff = none
  queued : d.tmos.queued .pairRxOff = none

/-- The window is open until a time, and the receiver listens. -/
structure OpenUntil (d : RfDuty) (u : Nat) : Prop where
  isOpen : d.isOpen = true
  offArmed : d.offArmed = true
  receiving : d.receiving = true
  off : d.tmos.timers .pairRxOff = some u ∧ d.tmos.queued .pairRxOff = none ∨
    d.tmos.timers .pairRxOff = none ∧ d.tmos.queued .pairRxOff = some u

/-- The window is closed, and the receiver is off. -/
structure Closed (d : RfDuty) : Prop where
  isOpen : d.isOpen = false
  receiving : d.receiving = false
  timer : d.tmos.timers .pairRxOff = none
  queued : d.tmos.queued .pairRxOff = none

/-- In a search the receiver listens only in a window, and the window has its end. -/
def Fits (d : RfDuty) : Prop :=
  d.searching = true → d.Fresh ∨ (∃ u, d.OpenUntil u ∧ u ≤ d.tmos.now + kbdPairRxWindowTicks) ∨ d.Closed

/-- What a function does that sends no beacon and starts no receiver in a search: it leaves the window as it is, leaves the search, or
enters one. -/
structure Moves (d d' : RfDuty) : Prop where
  now : d'.tmos.now = d.tmos.now
  entries : d.entries ≤ d'.entries
  timer : d'.tmos.timers .pairBcast = d.tmos.timers .pairBcast ∨ d'.tmos.timers .pairBcast = none
  queued : d'.tmos.waits .pairBcast = true → d.tmos.waits .pairBcast = true ∨ d.entries < d'.entries
  window : d'.searching = true → d.entries < d'.entries ∧ d'.Fresh ∨
    d.searching = true ∧ d'.isOpen = d.isOpen ∧ d'.offArmed = d.offArmed ∧ d'.receiving = d.receiving ∧
      d'.tmos.timers .pairRxOff = d.tmos.timers .pairRxOff ∧ d'.tmos.queued .pairRxOff = d.tmos.queued .pairRxOff

/-- An event is taken from the queue. -/
def take (d : RfDuty) (e : RfEvt) : RfDuty := { d with tmos := d.tmos.take e }

/-- A beacon: the window opens anew. -/
def beacon (d : RfDuty) : RfDuty :=
  { d with
    isOpen := true
    offArmed := false
    receiving := false
    tmos := (d.tmos.startTask .pairBcast rfPairBcastTicks).stopTask .pairRxOff }

/-- The receiver is started. In a search, the first time in a window, the end of the window is set. -/
def restart (d : RfDuty) : RfDuty :=
  let d := { d with receiving := true }
  if d.searching && !d.offArmed then { d with offArmed := true, tmos := d.tmos.startTask .pairRxOff kbdPairRxWindowTicks } else d

/-- The window is closed. -/
def close (d : RfDuty) : RfDuty := { d with isOpen := false, offArmed := false, receiving := false }

/-- The steps of the search, with the beacons they send. -/
inductive Step : RfOp → Nat → RfDuty → RfDuty → Prop where
  | moves {op d d'} : Moves d d' → Step op 0 d d'
  | beacon {d} : d.tmos.next = some .pairBcast → Step .process 1 d (d.take .pairBcast).beacon
  | restart {d} : d.searching = true → d.isOpen = true → Step .process 0 d (d.take .rxRestart).restart
  | close {d} : d.searching = true → d.tmos.next = some .pairRxOff → Step .process 0 d (d.take .pairRxOff).close
  | expire {e d} : Step (.expire e) 0 d { d with tmos := d.tmos.expire e }
  | advance {n d} : Step (.advance n) 0 d { d with tmos := d.tmos.advance n }

end RfDuty

/-! ## The meter -/

/-- The handler of `RF_EVT_PAIR_BCAST` sends a beacon. -/
def Rf.Beacons (s : Rf) : Prop := s.tmos.next = some .pairBcast ∧ s.state = .pairing ∧ s.keyboardMacValid = true

instance (s : Rf) : Decidable s.Beacons := inferInstanceAs (Decidable (_ ∧ _))

/-- The beacons sent. -/
def RfOp.beacons (op : RfOp) (s : Rf) : Nat :=
  match op with
  | .process => if s.Beacons then 1 else 0
  | _ => 0

/-- The time that passes. -/
def RfOp.ticks (op : RfOp) (s : Rf) : Nat := (op.apply s).tmos.now - s.tmos.now

/-- The entries into PAIRING. -/
def RfOp.enters (op : RfOp) (s : Rf) : Nat := (op.apply s).trace.pairEntries - s.trace.pairEntries

/-- The time that the receiver listens in a search. -/
def RfOp.listened (op : RfOp) (s : Rf) : Nat := if s.duty.listens then op.ticks s else 0

/-- A timer expires at its deadline or later. -/
def RfOp.OnTime (op : RfOp) (t : Tmos) : Prop :=
  match op with
  | .expire e => ∀ d ∈ t.timers e, d ≤ t.now
  | _ => True

/-- The end of a window is handled no later than some ticks after it. -/
def RfOp.EndsBy (late : Nat) (op : RfOp) (t : Tmos) : Prop :=
  match op with
  | .advance ticks => ∀ d, t.due .pairRxOff d → t.now + ticks ≤ d + late
  | _ => True

instance (op : RfOp) (t : Tmos) : Decidable (op.OnTime t) :=
  match op with
  | .expire e => inferInstanceAs (Decidable (∀ d ∈ t.timers e, d ≤ t.now))
  | .process | .connectedTick | .callback .. | .tmr0Cycle | .tmr0Irq | .frame .. | .advance _ | .hardware _ | .ledResync
  | .quiesce => isTrue trivial

instance (late : Nat) (op : RfOp) (t : Tmos) : Decidable (op.EndsBy late t) :=
  match op with
  | .advance ticks => inferInstanceAs (Decidable (∀ d, t.due .pairRxOff d → t.now + ticks ≤ d + late))
  | .process | .connectedTick | .callback .. | .tmr0Cycle | .tmr0Irq | .frame .. | .expire _ | .hardware _ | .ledResync
  | .quiesce => isTrue trivial

/-- What the steps of a run add up to. -/
abbrev Rf.total (f : RfOp → Rf → Nat) (ops : List RfOp) (s : Rf) : Nat := Potential.total RfOp.apply f ops s

/-- The timers of a run expire on time, and its windows end no later than some ticks after they should. -/
abbrev Rf.EndsBy (late : Nat) (ops : List RfOp) (s : Rf) : Prop :=
  Potential.Along RfOp.apply (fun op s => op.OnTime s.tmos ∧ op.EndsBy late s.tmos) ops s

/-! ## The windows -/

/-- The RF task, and for how long its receiver has listened in the search without a break. -/
structure RfStreak where
  rf : Rf
  heard : Nat

/-- What happens to both. -/
def RfStreak.apply (op : RfOp) (w : RfStreak) : RfStreak :=
  ⟨op.apply w.rf, if (op.apply w.rf).duty.listens then w.heard + op.ticks w.rf else 0⟩

/-- The states reached in runs whose timers expire on time. -/
abbrev RfStreakReach : RfStreak → Prop :=
  Reach (fun w => RfBooted w.rf ∧ w.heard = 0) fun (op : RfOp) w w' => op.OnTime w.rf.tmos ∧ w' = w.apply op

end OpenController
