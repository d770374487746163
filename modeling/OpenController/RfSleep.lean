import Mathlib.Logic.Relation
import Mathlib.Tactic.MkIffOfInductiveProp
import OpenController.RfInterrupt

/-!
# The radio and deep sleep

The module may sleep deeply when `RF_CanDeepSleep` says so: the link is down, it rests, or the search for the bonded dongle is
between two beacons with its listening window closed. The radio must be shut then, and nothing that was queued before may start
it again.
-/

namespace OpenController

/-- `RF_CanDeepSleep`. -/
def rfCanDeepSleep (s : Rf) : Bool :=
  if s.state = .idle ∨ s.state = .resting then true
  else if s.state = .pairing ∧ s.pair.flavor = .bonded ∧ !s.pair.rxOpen then true
  else false

/-- What can happen between two statements of the main loop, if the radio may call back late, when it is shut. -/
inductive RfAnytime : Rf → Rf → Prop where
  | interrupt {s t} (h : RfInterrupt s t) : RfAnytime s t
  | callback (s) (sta : RfSta) (rsr : Nat) (rxBuf : Option RxBuf) : RfAnytime s (s.rf2g4StatusCallBack sta rsr rxBuf)

/-- The states between the calls of a main loop that such interrupts run into. -/
abbrev RfDisturbed : Rf → Prop := Reach RfBooted fun (call : RfCall) s t => Prog.Runs RfAnytime call.program s () t

/-- The first half of a pass of TMOS: an event is taken. -/
def tmosTake : RfM (Option RfEvt) :=
  .stmt (fun s => { s with tmos := s.tmos.next.elim s.tmos s.tmos.take }) fun s => pure s.tmos.next

/-- The other half: it is handled. -/
def tmosHandle : Option RfEvt → RfM Unit
  | none => pure ()
  | some e => rfProcessEvent e

theorem tmosProcess_eq : tmosProcess = tmosTake >>= tmosHandle := rfl

/-- The handler of the event may start the radio: a beacon, a probe, or a catch while pairing. -/
def RfEvt.StartsRadio (s : Rf) : RfEvt → Prop
  | .pairBcast | .restProbe => True
  | .enterConnected => s.state = .pairing
  | _ => False

/-- A call that the host did not ask for and TMOS does not handle an event in. -/
def RfCall.IsOther : RfCall → Prop
  | .connectedTick | .ledResync | .quiesce | .other => True
  | .frame .. | .process => False

/-- A call that no command or report of the host, no beacon, no probe and no catch is behind. -/
inductive RfQuietCall : Rf → Rf → Prop where
  | call {s t} (call : RfCall) (h : call.IsOther) : Prog.Runs RfAnytime call.program s () t → RfQuietCall s t
  | event {s u t next} : Prog.Runs RfAnytime tmosTake s next u → (∀ e ∈ next, ¬e.StartsRadio u) →
      Prog.Runs RfAnytime (tmosHandle next) u () t → RfQuietCall s t

/-- The radio is shut whenever the module may sleep deeply. -/
def Rf.SleepOk (s : Rf) : Prop := rfCanDeepSleep s = true → s.radio.shut = true

/-- The module may sleep deeply, and the radio is shut. -/
def Rf.Asleep (s : Rf) : Prop := rfCanDeepSleep s = true ∧ s.radio.shut = true

/-- One state after another, with nothing in between that deep sleep depends on. -/
@[mk_iff]
structure Rf.Still (s t : Rf) : Prop where
  state : t.state = s.state
  flavor : t.pair.flavor = s.pair.flavor
  rxOpen : t.pair.rxOpen = s.pair.rxOpen
  shut : s.radio.shut = true → t.radio.shut = true

/-! ## Runs -/

/-- What is not a call can happen between two statements. -/
theorem RfOp.anytime {op : RfOp} (hc : op.call = none) (s : Rf) : RfAnytime s (op.apply s) := by
  cases op with
  | callback sta rsr rxBuf => exact .callback s sta rsr rxBuf
  | tmr0Cycle => exact .interrupt (.tmr0Cycle s)
  | tmr0Irq => exact .interrupt (.tmr0Irq s)
  | expire e => exact .interrupt (.expire s e)
  | advance ticks => exact .interrupt (.advance s ticks)
  | hardware hw => exact .interrupt (.hardware s hw)
  | _ => nomatch hc

/-- What can happen to the RF task in any order can happen to it there. -/
theorem RfReach.disturbed {s : Rf} (h : RfReach s) : RfDisturbed s := by
  induction h with
  | init hi => exact .init hi
  | @step s _ op _ he ih =>
    subst he
    exact reach_apply (fun hc => RfOp.anytime hc s) ih

end OpenController
