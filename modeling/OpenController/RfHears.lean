import OpenController.RfInterrupt

/-!
# The RF task and what it hears

The same main loop, with a closer look at the radio: a packet is received only while the radio listens, from `RF_Rx` to the next
`RF_Shut` or `RF_Tx`. A run may be limited to packets that satisfy a condition on the state they are received in.
-/

namespace OpenController

/-- The callback takes the packet for a poll. -/
def Rf.CatchesPoll (s : Rf) (buf : RxBuf) : Prop := s.state = .connected ∧ (buf.len = 1 ∨ buf.len = 3 ∨ buf.len = 10)

/-- The packet is a poll that retires the head of the FIFO. -/
def Rf.Retires (s : Rf) (buf : RxBuf) : Prop :=
  s.CatchesPoll buf ∧ (buf 2 ^^^ s.resp.txCtrl) &&& 1 ≠ 0 ∧ s.hid.headSent = true ∧ s.hid.tail ≠ s.hid.head

instance (s : Rf) (buf : RxBuf) : Decidable (s.CatchesPoll buf) := inferInstanceAs (Decidable (_ ∧ _))

instance (s : Rf) (buf : RxBuf) : Decidable (s.Retires buf) := inferInstanceAs (Decidable (_ ∧ _))

/-- A condition on the packets received, and the states they are received in. -/
abbrev Hearing := Rf → RxBuf → Prop

/-- Any packet at any time the radio listens. -/
def Hearing.any : Hearing := fun _ _ => True

/-- What can happen between two statements of the main loop. -/
inductive RfHears (ok : Hearing) : Rf → Rf → Prop where
  | packet {s} (rsr : Nat) (buf : RxBuf) (h : s.radio.receiving = true) (hk : rsr = 0 → ok s buf) :
      RfHears ok s (s.rf2g4StatusCallBack .rxData rsr (some buf))
  | status {s} (sta : RfSta) (rsr : Nat) (rxBuf : Option RxBuf) (h : s.radio.shut = false) (hs : sta = .rxData → rxBuf = none) :
      RfHears ok s (s.rf2g4StatusCallBack sta rsr rxBuf)
  | tmr0Cycle (s) : RfHears ok s { s with tmr0 := s.tmr0.cycle }
  | tmr0Irq (s) : RfHears ok s s.tmr0IRQHandler
  | expire (s) (e : RfEvt) : RfHears ok s { s with tmos := s.tmos.expire e }
  | advance (s) (ticks : Nat) : RfHears ok s { s with tmos := s.tmos.advance ticks }
  | hardware (s) (hw : RfHw) : RfHears ok s { s with hw := hw }

/-- The states between the calls of a main loop whose radio hears packets that satisfy a condition. -/
abbrev RfHeard (ok : Hearing) : Rf → Prop :=
  Reach RfBooted fun (call : RfCall) s t => Prog.Runs (RfHears ok) call.program s () t

/-! ## Runs -/

/-- What happens between two calls of such a main loop. -/
def RfOp.Heard (ok : Hearing) (s : Rf) : RfOp → Prop
  | .callback .rxData rsr (some buf) => s.radio.receiving = true ∧ (rsr = 0 → ok s buf)
  | .callback .. => s.radio.shut = false
  | _ => True

/-- It is heard throughout a run. -/
def Rf.HeardRun (ok : Hearing) (s : Rf) : List RfOp → Prop
  | [] => True
  | op :: ops => op.Heard ok s ∧ (op.apply s).HeardRun ok ops

instance (s : Rf) (buf : RxBuf) : Decidable (Hearing.any s buf) := inferInstanceAs (Decidable True)

instance (ok : Hearing) [∀ s buf, Decidable (ok s buf)] (s : Rf) (op : RfOp) : Decidable (op.Heard ok s) :=
  match op with
  | .callback .rxData rsr (some buf) => inferInstanceAs (Decidable (s.radio.receiving = true ∧ (rsr = 0 → ok s buf)))
  | .callback .rxData _ none | .callback .txFinish .. | .callback .txFail .. | .callback .other .. =>
    inferInstanceAs (Decidable (s.radio.shut = false))
  | .frame .. | .process | .connectedTick | .tmr0Cycle | .tmr0Irq | .expire _ | .advance _ | .hardware _ | .ledResync
  | .quiesce => instDecidableTrue

instance Rf.decHeardRun (ok : Hearing) [∀ s buf, Decidable (ok s buf)] (s : Rf) : (ops : List RfOp) → Decidable (s.HeardRun ok ops)
  | [] => isTrue trivial
  | op :: ops => @instDecidableAnd _ _ _ (Rf.decHeardRun ok (op.apply s) ops)

variable {ok : Hearing} {s : Rf}

/-- What happens is a call of the main loop, or something between two of its statements. -/
theorem RfOp.Heard.cases {op : RfOp} (h : op.Heard ok s) :
    (∃ call : RfCall, op.apply s = call.program.exec s) ∨ RfHears ok s (op.apply s) := by
  cases op with
  | frame cmd sub payload => exact .inl ⟨.frame cmd sub payload, rfl⟩
  | process => exact .inl ⟨.process, rfl⟩
  | connectedTick => exact .inl ⟨.connectedTick, rfl⟩
  | ledResync => exact .inl ⟨.ledResync, rfl⟩
  | quiesce => exact .inl ⟨.quiesce, rfl⟩
  | tmr0Cycle => exact .inr (.tmr0Cycle s)
  | tmr0Irq => exact .inr (.tmr0Irq s)
  | expire e => exact .inr (.expire s e)
  | advance ticks => exact .inr (.advance s ticks)
  | hardware hw => exact .inr (.hardware s hw)
  | callback sta rsr rxBuf =>
    cases sta with
    | rxData =>
      cases rxBuf with
      | none => exact .inr (.status .rxData rsr none h fun _ => rfl)
      | some buf => exact .inr (.packet rsr buf h.1 h.2)
    | txFinish => exact .inr (.status .txFinish rsr rxBuf h nofun)
    | txFail => exact .inr (.status .txFail rsr rxBuf h nofun)
    | other => exact .inr (.status .other rsr rxBuf h nofun)

namespace RfHeard

theorem apply (h : RfHeard ok s) {op : RfOp} (hl : op.Heard ok s) : RfHeard ok (op.apply s) := by
  rcases hl.cases with ⟨call, hcall⟩ | hbetween
  · exact hcall ▸ .step call h (Prog.runs_run _ _ _)
  · exact .step .other h (.env hbetween (.ret () _))

theorem after (h : RfHeard ok s) {ops : List RfOp} (hl : s.HeardRun ok ops) : RfHeard ok (s.after ops) := by
  induction ops generalizing s with
  | nil => exact h
  | cons op ops ih => exact ih (h.apply hl.1) hl.2

/-- A call, with a packet received before its statement `k`. -/
theorem interrupted (h : RfHeard ok s) (call : RfCall) (k : Nat) (buf : RxBuf)
    (hr : (call.program.before k s).radio.receiving = true) (hk : ok (call.program.before k s) buf) :
    RfHeard ok (call.program.interrupted (·.rf2g4StatusCallBack .rxData 0 (some buf)) k s).2 :=
  .step call h (Prog.runs_interrupted (.packet 0 buf hr fun _ => hk))

end RfHeard

/-- The host selects 2.4G and opens a pairing window, a dongle answers twice, and the keyboard connects. The radio listens whenever
the dongle's packet comes. -/
def connectUp : List RfOp :=
  [.process, .command 0x30, .command 0x51, .process, .txFinish, .process, .offer, .process, .offer, .process]

end OpenController
