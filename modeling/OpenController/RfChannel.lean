import Mathlib.Tactic.MkIffOfInductiveProp
import OpenController.RfHears

/-!
# The channel of the radio

A response goes out on the channel the radio is tuned to, which should be the one its poll was caught on; and the hop retunes the
radio to the channel of its index. `RF_ConnectedTick` looks at `response_pending` before it advances the hop and again before it
retunes: a poll that comes in after the second look is answered on another channel, and one that comes in between keeps the radio
where it was.
-/

namespace OpenController

/-- The channel of the hop's index. -/
def RfHop.channel (h : RfHop) : Nat := dataChannels.getD h.prevDataIdx 0

/-- No poll is caught between the last look at `response_pending` and `RF_Shut` when the radio is about to go to another channel. -/
def Hearing.inPlace : Hearing := fun s buf => ∀ c, s.log.stretch = .retune c → s.CatchesPoll buf → c = s.radio.channel

instance (s : Rf) (buf : RxBuf) : Decidable (Hearing.inPlace s buf) :=
  match h : s.log.stretch with
  | .outside | .selected | .looked | .hopped => isTrue fun _ hc => nomatch h.symm.trans hc
  | .retune c => decidable_of_iff (s.CatchesPoll buf → c = s.radio.channel)
      ⟨fun hc _ hd => RfStretch.retune.inj (h.symm.trans hd) ▸ hc, fun hc => hc c h⟩

/-- No hop is due that takes the radio off its channel: not by the clock, or, after the masked section, by the index it left. -/
def Rf.NoHopDue (s : Rf) : Prop :=
  (s.log.stretch = .looked → (s.hop.advance s.hw.rtc s.hop.interval).1.channel = s.radio.channel) ∧
  (s.log.stretch = .hopped → s.hop.channel = s.radio.channel)

instance (s : Rf) : Decidable s.NoHopDue := inferInstanceAs (Decidable (_ ∧ _))

/-- What can happen between two statements of the main loop when no poll is caught between the two looks of `RF_ConnectedTick` at
`response_pending` while a hop is due. -/
def RfHearsInStep (s t : Rf) : Prop := RfHears .any s t ∧ (t.resp.responsePending = true → t.NoHopDue)

/-- The states between the calls of such a main loop. -/
abbrev RfInStep : Rf → Prop := Reach RfBooted fun (call : RfCall) s t => Prog.Runs RfHearsInStep call.program s () t

/-- It happens throughout a run. -/
def Rf.InStepRun (s : Rf) : List RfOp → Prop
  | [] => True
  | op :: ops => (op.Heard .any s ∧ ((op.apply s).resp.responsePending = true → (op.apply s).NoHopDue)) ∧ (op.apply s).InStepRun ops

instance Rf.decInStepRun (s : Rf) : (ops : List RfOp) → Decidable (s.InStepRun ops)
  | [] => isTrue trivial
  | op :: ops => @instDecidableAnd _ _ _ (Rf.decInStepRun (op.apply s) ops)

namespace RfInStep

variable {s : Rf}

theorem apply (h : RfInStep s) {op : RfOp} (hl : op.Heard .any s)
    (hdue : (op.apply s).resp.responsePending = true → (op.apply s).NoHopDue) : RfInStep (op.apply s) := by
  rcases hl.cases with ⟨call, hcall⟩ | hbetween
  · exact hcall ▸ .step call h (Prog.runs_run _ _ _)
  · exact .step .other h (.env ⟨hbetween, hdue⟩ (.ret () _))

theorem after (h : RfInStep s) {ops : List RfOp} (hl : s.InStepRun ops) : RfInStep (s.after ops) := by
  induction ops generalizing s with
  | nil => exact h
  | cons op ops ih => exact ih (h.apply hl.1.1 hl.1.2) hl.2

/-- A call, with a packet received before its statement `k`. -/
theorem interrupted (h : RfInStep s) (call : RfCall) (k : Nat) (buf : RxBuf)
    (hr : (call.program.before k s).radio.receiving = true)
    (hk : ((call.program.before k s).rf2g4StatusCallBack .rxData 0 (some buf)).NoHopDue) :
    RfInStep (call.program.interrupted (·.rf2g4StatusCallBack .rxData 0 (some buf)) k s).2 :=
  .step call h (Prog.runs_interrupted ⟨.packet 0 buf hr fun _ => trivial, fun _ => hk⟩)

end RfInStep

/-- What can happen between two statements: packets heard in a way, and, if `r` holds, no poll between the looks while a hop is
due. -/
def RfHearsSo (ok : Hearing) (r : Prop) (s t : Rf) : Prop :=
  RfHears ok s t ∧ (r → t.resp.responsePending = true → t.NoHopDue)

/-- The states between the calls of such a main loop. -/
abbrev RfHeardSo (ok : Hearing) (r : Prop) : Rf → Prop :=
  Reach RfBooted fun (call : RfCall) s t => Prog.Runs (RfHearsSo ok r) call.program s () t

/-- A response that went out on the channel its poll was caught on. -/
def Answer.OnChannel (a : Answer) : Prop := a.tuned = a.responseChannel ∧ a.responseChannel = a.caughtOn

instance (a : Answer) : Decidable a.OnChannel := inferInstanceAs (Decidable (_ ∧ _))

/-- A radio that listens is tuned to its channel; and, if `q` holds, so it is while a response is pending, whose poll was caught
there, and every response went out so. -/
@[mk_iff]
structure Rf.TunedOk (q : Prop) (s : Rf) : Prop where
  tuned : s.state = .connected ∨ s.state = .pairing → s.radio.receiving = true → s.radio.tuned = s.radio.channel
  held : q → s.state = .connected → s.resp.responsePending = true →
    s.radio.tuned = s.radio.channel ∧ s.resp.responseChannel = s.radio.channel ∧ s.log.caughtOn = s.radio.channel
  answers : q → ∀ a ∈ s.log.answers, a.OnChannel

/-- If `r` holds, the radio of a session is on the channel of the hop's index. -/
def Rf.ArmedOk (r : Prop) (s : Rf) : Prop := r → s.state = .connected → s.radio.channel = s.hop.channel

/-- One state after another, with the radio where it was: at most it listens no more, the response is over, or the link is down. -/
@[mk_iff]
structure Rf.Steady (s t : Rf) : Prop where
  state : t.state = s.state ∨ t.state = .idle ∨ t.state = .resting
  channel : t.hop.prevDataIdx = s.hop.prevDataIdx
  receiving : t.radio.receiving = true → s.radio.receiving = true
  tuned : t.radio.tuned = s.radio.tuned
  onChannel : t.radio.channel = s.radio.channel
  pending : t.resp.responsePending = true → s.resp.responsePending = true
  responseChannel : t.resp.responseChannel = s.resp.responseChannel
  caughtOn : t.log.caughtOn = s.log.caughtOn
  answers : t.log.answers = s.log.answers

/-- The radio is on its channel. -/
def Rf.ChannelOk (q r : Prop) (s : Rf) : Prop := s.TunedOk q ∧ s.ArmedOk r

end OpenController
