import OpenController.HidDiscard
import OpenController.RfHears

/-!
# The link of the reports

A keyboard and a dongle. The dongle's firmware is not part of this repository: `HidDongle` is the other end of the one-bit protocol
that `rf_task.c` speaks, and nothing of it is assumed but that protocol. The dongle sends its control bit as bit 0 of every poll, and
advances it when it accepts a response; that is its acknowledgement. It accepts a response whose sequence bit, bit 1 of the control
byte, is not that of the last one accepted. Both bits are clear when a session begins. What it accepts is kept as the bytes it heard
and, beside them, as the entries of the FIFO they were.
-/

namespace OpenController

/-- Bit 0 of a control byte: the dongle's control bit. -/
def ackBit (ctrl : Byte) : Bool := ctrl.getLsbD 0

/-- Bit 1 of a control byte: the sequence bit of a response. -/
def seqBit (ctrl : Byte) : Bool := ctrl.getLsbD 1

/-- The dongle: its control bit, the sequence bit accepted last, and the reports accepted. -/
structure HidDongle where
  ctrl : Bool
  seq : Bool
  reports : List (List Byte)
  deriving DecidableEq, Repr

/-- A new session. -/
def HidDongle.restart (d : HidDongle) : HidDongle := { d with ctrl := false, seq := false }

/-- A response is accepted, with the report in it if there is one. -/
def HidDongle.accept (d : HidDongle) (ctrl : Byte) (body : List Byte) : HidDongle where
  ctrl := !d.ctrl
  seq := seqBit ctrl
  reports := if body.head? = some 0xA1 then d.reports ++ [body.tail] else d.reports

/-- A response is heard. -/
def HidDongle.hear (d : HidDongle) : List Byte → HidDongle
  | [] => d
  | ctrl :: body => if seqBit ctrl = d.seq then d else d.accept ctrl body

/-- A response on the air, and the entry of the FIFO it carries. -/
structure Response where
  payload : List Byte
  carries : Option HidFrame
  deriving DecidableEq, Repr

/-- Its control byte. -/
def Response.ctrl (r : Response) : Byte := r.payload.headD 0

/-- The keyboard, the dongle, and the response on the air that the dongle may still hear. Beside them, what is remembered: the
entries that the dongle accepted, whether a response went out since the last poll was caught, whether one was chosen while that was
so, and the last report of the host. -/
structure HidLink where
  rf : Rf
  dongle : HidDongle
  air : Option Response
  carried : List HidFrame
  answered : Bool
  twice : Bool
  offered : Option Report

/-- The response that made one state another, if one did. -/
def Rf.responded (s t : Rf) : Option Response :=
  if s.log.answers.length < t.log.answers.length then
    some ⟨(t.radio.onAir.getLast?.map (·.payload)).getD [], (t.log.started.drop s.log.started.length).head?⟩
  else none

/-- A response is chosen. -/
def Rf.Chooses (s t : Rf) : Prop := t.log.stretch = .selected ∧ s.log.stretch ≠ .selected

instance (s t : Rf) : Decidable (s.Chooses t) := inferInstanceAs (Decidable (_ ∧ _))

namespace HidLink

/-- A statement has made the keyboard's state `t`: the dongle begins a session with it, and a response that started is on the air. -/
def watch (t : Rf) (w : HidLink) : HidLink :=
  if t.log.sessions ≠ w.rf.log.sessions then { w with rf := t, dongle := w.dongle.restart, air := none, answered := false }
  else { w with
    rf := t
    air := (w.rf.responded t).or w.air
    answered := w.answered || (w.rf.responded t).isSome
    twice := w.twice || w.answered && decide (w.rf.Chooses t) }

/-- A poll is caught: the dongle no longer listens for a response to the last one. -/
def poll (buf : RxBuf) (w : HidLink) : HidLink :=
  { w with rf := w.rf.rf2g4StatusCallBack .rxData 0 (some buf), air := none, answered := false }

/-- The dongle hears the response on the air. -/
def hear (r : Response) (w : HidLink) : HidLink :=
  { w with
    dongle := w.dongle.hear r.payload
    air := none
    carried := if seqBit r.ctrl = w.dongle.seq then w.carried else w.carried ++ r.carries.toList }

/-- A call begins: a report of the host is remembered. -/
def begin (call : RfCall) (w : HidLink) : HidLink :=
  match call with
  | .frame cmd _ payload => if cmd = 0xA1 then { w with offered := some payload } else w
  | _ => w

/-- A keyboard that starts, and a dongle that has accepted nothing. -/
def start (s : Rf) : HidLink := ⟨s, ⟨false, false, []⟩, none, [], false, false, none⟩

end HidLink

/-- No poll. -/
def Hearing.noPoll : Hearing := fun s buf => ¬s.CatchesPoll buf

instance (s : Rf) (buf : RxBuf) : Decidable (Hearing.noPoll s buf) := inferInstanceAs (Decidable (¬_))

/-- What can happen between two statements of the main loop: the keyboard catches a poll of its dongle, anything else interrupts it,
or the dongle hears a response. Polls and responses that are lost are those that nobody hears. -/
inductive LinkHears : HidLink → HidLink → Prop where
  | poll {w} (buf : RxBuf) (h : w.rf.radio.receiving = true) (hc : w.rf.CatchesPoll buf) (hd : ackBit (buf 2) = w.dongle.ctrl) :
      LinkHears w (w.poll buf)
  | other {w t} (h : RfHears .noPoll w.rf t) : LinkHears w { w with rf := t }
  | hear {w r} (h : w.air = some r) : LinkHears w (w.hear r)

/-- A run of a program of the RF task. -/
abbrev LinkRuns {α : Type} (p : RfM α) : HidLink → α → HidLink → Prop := Prog.Runs LinkHears (p.zoom HidLink.rf HidLink.watch)

/-- The states between the calls of the main loop. -/
abbrev LinkReach : HidLink → Prop :=
  Reach (fun w => ∃ s, RfBooted s ∧ w = .start s) fun (call : RfCall) w w' => LinkRuns call.program (w.begin call) () w'

/-- One entry that was accepted, and a later one: they are in order, and in one session no entry is accepted again. -/
structure HidFrame.Before (a b : HidFrame) : Prop where
  session : a.session ≤ b.session
  entry : a.entry ≤ b.entry
  once : a.session = b.session → a.entry < b.entry

end OpenController
