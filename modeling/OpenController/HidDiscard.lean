import Mathlib.Logic.Relation
import Mathlib.Tactic.MkIffOfInductiveProp
import OpenController.HidQueue
import OpenController.RfSleep

/-!
# Leaving 2.4 GHz

The host leaves 2.4 GHz when it selects USB or a Bluetooth host. That starts a timer, and its event discards what is queued, unless
the host selects 2.4 GHz before. A run is a sequence of calls of the main loop and of events of TMOS.
-/

namespace OpenController

/-! ## Runs -/

/-- What the main loop does next: a call, or a pass of TMOS with the event it takes. -/
inductive RfAct where
  | call (call : RfCall)
  | event (next : Option RfEvt)

/-- It is done, and interrupts run. -/
inductive RfAct.Does : RfAct → Rf → Rf → Prop where
  | call {s t} (call : RfCall) (h : call ≠ .process) : Prog.Runs RfInterrupt call.program s () t → (RfAct.call call).Does s t
  | event {s u t next} : Prog.Runs RfInterrupt tmosTake s next u → Prog.Runs RfInterrupt (tmosHandle next) u () t →
      (RfAct.event next).Does s t

/-- The main loop goes on, with what satisfies a condition. -/
abbrev RfPath (ok : RfAct → Prop) : Rf → Rf → Prop := Relation.ReflTransGen fun s t => ∃ act, ok act ∧ act.Does s t

/-- What the main loop does in an operation. -/
def RfOp.act (s : Rf) : RfOp → RfAct
  | .frame cmd sub payload => .call (.frame cmd sub payload)
  | .process => .event s.tmos.next
  | .connectedTick => .call .connectedTick
  | .ledResync => .call .ledResync
  | .quiesce => .call .quiesce
  | _ => .call .other

theorem does_apply {s : Rf} (op : RfOp) (hl : op.Live s) : (op.act s).Does s (op.apply s) := by
  have call (c : RfCall) (hc : c ≠ .process) : (RfAct.call c).Does s (c.program.exec s) := .call c hc (Prog.runs_run _ _ _)
  have between {t : Rf} (ht : RfInterrupt s t) : (RfAct.call .other).Does s t := .call .other nofun (.env ht (.ret () t))
  cases op with
  | frame cmd sub payload => exact call (.frame cmd sub payload) nofun
  | process =>
    have htake : Prog.Runs RfInterrupt tmosTake s s.tmos.next (tmosTake.exec s) := Prog.runs_run RfInterrupt tmosTake s
    have happly : RfOp.process.apply s = (tmosHandle s.tmos.next).exec (tmosTake.exec s) := by
      rw [RfOp.apply, tmosProcess_eq, Prog.exec, Prog.run_bind]
      rfl
    exact happly ▸ .event htake (Prog.runs_run RfInterrupt _ _)
  | connectedTick => exact call .connectedTick nofun
  | ledResync => exact call .ledResync nofun
  | quiesce => exact call .quiesce nofun
  | callback sta rsr rxBuf => exact between (.callback sta rsr rxBuf hl)
  | tmr0Cycle => exact between (.tmr0Cycle s)
  | tmr0Irq => exact between (.tmr0Irq s)
  | expire e => exact between (.expire s e)
  | advance ticks => exact between (.advance s ticks)
  | hardware hw => exact between (.hardware s hw)

/-- Everything in a list can happen, and what the main loop does satisfies a condition. -/
def Rf.DoesRun (ok : RfAct → Prop) (s : Rf) : List RfOp → Prop
  | [] => True
  | op :: ops => (op.Live s ∧ ok (op.act s)) ∧ (op.apply s).DoesRun ok ops

instance Rf.decDoesRun (ok : RfAct → Prop) [DecidablePred ok] (s : Rf) : (ops : List RfOp) → Decidable (s.DoesRun ok ops)
  | [] => isTrue trivial
  | op :: ops => @instDecidableAnd _ _ _ (Rf.decDoesRun ok (op.apply s) ops)

theorem path_after {ok : RfAct → Prop} {s : Rf} {ops : List RfOp} (hl : s.DoesRun ok ops) : RfPath ok s (s.after ops) := by
  induction ops generalizing s with
  | nil => exact .refl
  | cons op ops ih => exact .head ⟨op.act s, hl.1.2, does_apply op hl.1.1⟩ (ih hl.2)

/-! ## Commands -/

/-- The command selects USB or a Bluetooth host. -/
def Leaves (sub : Byte) : Prop := sub = 0x11 ∨ sub = 0x31 ∨ sub = 0x32 ∨ sub = 0x33

namespace RfAct

/-- It is a command of the host. -/
def IsCommand (sub : Byte) (act : RfAct) : Prop := ∃ r, act = .call (.frame 0xA6 sub r)

instance decIsCommand (sub : Byte) : (act : RfAct) → Decidable (act.IsCommand sub)
  | .call (.frame cmd sub' r) =>
    decidable_of_iff (cmd = 0xA6 ∧ sub' = sub) ⟨fun h => ⟨r, by rw [h.1, h.2]⟩, fun ⟨_, h⟩ => by cases h; exact ⟨rfl, rfl⟩⟩
  | .call .process | .call .connectedTick | .call .ledResync | .call .quiesce | .call .other | .event _ => isFalse fun ⟨_, h⟩ => nomatch h

/-- The host selects 2.4 GHz. -/
def Selects (act : RfAct) : Prop := act.IsCommand 0x30

/-- The host forgets the bond. Without an address the keyboard ignores the factory's pairing command. -/
def Unpairs (macValid : Bool) (act : RfAct) : Prop := act.IsCommand 0x52 ∨ act.IsCommand 0x63 ∧ macValid = true

/-- What is queued for a host that left is dropped: the event of its timer is handled, or the bond is forgotten. -/
def Drops (macValid : Bool) (act : RfAct) : Prop := act = .event (some .discardHid) ∨ act.Unpairs macValid

instance (act : RfAct) : Decidable act.Selects := inferInstanceAs (Decidable (act.IsCommand _))

instance (macValid : Bool) (act : RfAct) : Decidable (act.Unpairs macValid) := inferInstanceAs (Decidable (_ ∨ _ ∧ _))

instance decDrops (macValid : Bool) : (act : RfAct) → Decidable (act.Drops macValid)
  | .call c => decidable_of_iff ((RfAct.call c).Unpairs macValid) ⟨.inr, fun h => h.resolve_left nofun⟩
  | .event next =>
    decidable_of_iff (next = some .discardHid) ⟨fun h => .inl (by rw [h]), fun h => by
      rcases h with h | ⟨_, h⟩ | ⟨⟨_, h⟩, _⟩ <;> cases h
      rfl⟩

/-- The host stays: it does not leave, and keeps the bond. -/
def Stays (macValid : Bool) (act : RfAct) : Prop := (∀ sub, Leaves sub → ¬act.IsCommand sub) ∧ ¬act.Unpairs macValid

end RfAct

/-! ## Entries -/

/-- The FIFO holds the entries that have not left it, among all that entered. -/
structure Rf.Linked (s : Rf) : Prop where
  passed_le : s.log.passed ≤ s.log.entered.length
  queue : s.log.entered.drop s.log.passed = s.hid.queue

/-- The report is that of an entry after the first `n`. -/
def RfLog.EnteredAfter (log : RfLog) (n : Nat) (r : Report) : Prop := ∃ k, n ≤ k ∧ log.entered[k]? = some r

/-- So it is, and the entry is the head of the FIFO or has left it. -/
def RfLog.HeadAfter (log : RfLog) (n : Nat) (r : Report) : Prop := ∃ k, n ≤ k ∧ k ≤ log.passed ∧ log.entered[k]? = some r

/-- The link is down, and no probe will bring it up. -/
def Rf.Quiet (s : Rf) : Prop := s.state = .idle ∧ s.rest.probe = false

/-- So it is, and the host does not pair it. -/
def Rf.Away (s : Rf) : Prop := s.Quiet ∧ (s.transportIs2g4 = false ∨ s.keyboardMacValid = false)

/-- Since `sent` was sent, only reports of entries after the first `n` were. -/
structure Rf.SentAfter (n : Nat) (sent : List HidFrame) (s : Rf) : Prop extends s.Linked where
  entered : n ≤ s.log.entered.length
  started : ∃ fs, s.log.started = sent ++ fs ∧ ∀ f ∈ fs, n ≤ f.entry ∧ s.log.HeadAfter n f.report

/-- One state after another, with the FIFO and what was sent as they were. -/
@[mk_iff]
structure Rf.FifoKeep (s t : Rf) : Prop where
  fifo : t.hid.fifo = s.hid.fifo
  head : t.hid.head = s.hid.head
  tail : t.hid.tail = s.hid.tail
  entered : t.log.entered = s.log.entered
  passed : t.log.passed = s.log.passed
  started : t.log.started = s.log.started
  retired : t.log.retired = s.log.retired

/-- On the way a report came to a full FIFO, whose newest entry was the newest of some entries. -/
def Overwrites (ok : RfAct → Prop) (es : List Report) (s t : Rf) : Prop :=
  ∃ u v sub r, RfPath ok s u ∧ u.entries = es ∧ u.hid.count = hidFifoSlots ∧
    (RfAct.call (.frame 0xA1 sub r)).Does u v ∧ RfPath ok v t

end OpenController
