import OpenController.RfSystem

/-!
# The RF task among its interrupts

The main loop calls the RF task, and between any two statements of a call an interrupt can run: the radio's callback while the
radio is live, or the turnaround timer's. Time passes there too, and the hardware goes on.
-/

namespace OpenController

/-- What can happen between two statements of the main loop. -/
inductive RfInterrupt : Rf → Rf → Prop where
  | callback {s} (sta : RfSta) (rsr : Nat) (rxBuf : Option RxBuf) (h : s.radio.shut = false) :
      RfInterrupt s (s.rf2g4StatusCallBack sta rsr rxBuf)
  | tmr0Cycle (s) : RfInterrupt s { s with tmr0 := s.tmr0.cycle }
  | tmr0Irq (s) : RfInterrupt s s.tmr0IRQHandler
  | expire (s) (e : RfEvt) : RfInterrupt s { s with tmos := s.tmos.expire e }
  | advance (s) (ticks : Nat) : RfInterrupt s { s with tmos := s.tmos.advance ticks }
  | hardware (s) (hw : RfHw) : RfInterrupt s { s with hw := hw }

/-- What of it is not the radio's callback. -/
inductive RfElsewhere : Rf → Rf → Prop where
  | tmr0Cycle (s) : RfElsewhere s { s with tmr0 := s.tmr0.cycle }
  | tmr0Irq (s) : RfElsewhere s s.tmr0IRQHandler
  | expire (s) (e : RfEvt) : RfElsewhere s { s with tmos := s.tmos.expire e }
  | advance (s) (ticks : Nat) : RfElsewhere s { s with tmos := s.tmos.advance ticks }
  | hardware (s) (hw : RfHw) : RfElsewhere s { s with hw := hw }

theorem RfElsewhere.interrupt {s t : Rf} (h : RfElsewhere s t) : RfInterrupt s t := by
  cases h with
  | tmr0Cycle => exact .tmr0Cycle s
  | tmr0Irq => exact .tmr0Irq s
  | expire e => exact .expire s e
  | advance ticks => exact .advance s ticks
  | hardware hw => exact .hardware s hw

/-- A call of the main loop into the RF task. `other` is the rest of the main loop. -/
inductive RfCall where
  | frame (cmd sub : Byte) (payload : Report)
  | process
  | connectedTick
  | ledResync
  | quiesce
  | other

/-- The statements of a call. -/
def RfCall.program : RfCall → RfM Unit
  | .frame cmd sub payload => handleUartFrame cmd sub payload
  | .process => tmosProcess
  | .connectedTick => rfConnectedTick
  | .ledResync => rfLedResync
  | .quiesce => takeDown
  | .other => pure ()

/-- The states between the calls of a main loop that interrupts run into. -/
abbrev RfInterleaved : Rf → Prop := Reach RfBooted fun (call : RfCall) s t => Prog.Runs RfInterrupt call.program s () t

/-! ## Calls that no interrupt runs into -/

/-- The call of the main loop, if it is one. -/
def RfOp.call : RfOp → Option RfCall
  | .frame cmd sub payload => some (.frame cmd sub payload)
  | .process => some .process
  | .connectedTick => some .connectedTick
  | .ledResync => some .ledResync
  | .quiesce => some .quiesce
  | .callback .. | .tmr0Cycle | .tmr0Irq | .expire _ | .advance _ | .hardware _ => none

/-- What happens between two calls is a step of the environment, and a call can run undisturbed. -/
theorem reach_apply {init : Rf → Prop} {env : Rf → Rf → Prop} {s : Rf} {op : RfOp} (hop : op.call = none → env s (op.apply s))
    (h : Reach init (fun (call : RfCall) s t => Prog.Runs env call.program s () t) s) :
    Reach init (fun (call : RfCall) s t => Prog.Runs env call.program s () t) (op.apply s) := by
  have call (c : RfCall) : Reach init (fun (call : RfCall) s t => Prog.Runs env call.program s () t) (c.program.exec s) :=
    .step c h (Prog.runs_run _ _ _)
  have between (hc : op.call = none) :
      Reach init (fun (call : RfCall) s t => Prog.Runs env call.program s () t) (op.apply s) :=
    .step .other h (.env (hop hc) (.ret () _))
  cases op with
  | frame cmd sub payload => exact call (.frame cmd sub payload)
  | process => exact call .process
  | connectedTick => exact call .connectedTick
  | ledResync => exact call .ledResync
  | quiesce => exact call .quiesce
  | _ => exact between rfl

/-- The radio calls back only while it is live. -/
def RfOp.Live (s : Rf) : RfOp → Prop
  | .callback .. => s.radio.shut = false
  | _ => True

instance (s : Rf) (op : RfOp) : Decidable (op.Live s) := by
  cases op <;> first | exact instDecidableTrue | exact inferInstanceAs (Decidable (_ = _))

/-- The radio calls back only while it is live, throughout a run. -/
def Rf.LiveRun (s : Rf) : List RfOp → Prop
  | [] => True
  | op :: ops => op.Live s ∧ (op.apply s).LiveRun ops

instance Rf.decLiveRun (s : Rf) : (ops : List RfOp) → Decidable (s.LiveRun ops)
  | [] => isTrue trivial
  | op :: ops => @instDecidableAnd _ _ _ (Rf.decLiveRun (op.apply s) ops)

/-- What happens between two calls is an interrupt, and a call can run undisturbed. -/
theorem RfInterleaved.apply {s : Rf} (h : RfInterleaved s) {op : RfOp} (hl : op.Live s) : RfInterleaved (op.apply s) := by
  refine reach_apply (fun hc => ?_) h
  cases op with
  | callback sta rsr rxBuf => exact .callback sta rsr rxBuf hl
  | tmr0Cycle => exact .tmr0Cycle s
  | tmr0Irq => exact .tmr0Irq s
  | expire e => exact .expire s e
  | advance ticks => exact .advance s ticks
  | hardware hw => exact .hardware s hw
  | _ => nomatch hc

theorem RfInterleaved.after {s : Rf} (h : RfInterleaved s) {ops : List RfOp} (hl : s.LiveRun ops) : RfInterleaved (s.after ops) := by
  induction ops generalizing s with
  | nil => exact h
  | cons op ops ih => exact ih (h.apply hl.1) hl.2

end OpenController
