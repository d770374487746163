import OpenController.BondFlash
import OpenController.RfSleep

/-!
# Fresh pairing

A fresh pairing takes two LEN-15 packets: without a bond the callback stores the first one's dongle as the bond, and the second one
from that dongle starts the session. The packets taken as the first are remembered beside the RF task.
-/

namespace OpenController

/-- The RF task, and the packets that were taken as the first of a pairing. -/
structure PairWorld where
  rf : Rf
  firsts : List RxBuf

/-- The packet that the callback takes as the first of a pairing: one of the pairing branch, without a bond. -/
def Rf.firstPacket (s : Rf) (sta : RfSta) (rsr : Nat) (rxBuf : Option RxBuf) : List RxBuf :=
  match sta, rxBuf with
  | .rxData, some buf => if rsr = 0 ∧ buf.Pairs s ∧ s.bond.hasBond = false then [buf] else []
  | _, _ => []

/-- What can happen between two statements of the main loop. -/
inductive PairHears : PairWorld → PairWorld → Prop where
  | callback {w} (sta : RfSta) (rsr : Nat) (rxBuf : Option RxBuf) (h : w.rf.radio.shut = false) :
      PairHears w ⟨w.rf.rf2g4StatusCallBack sta rsr rxBuf, w.firsts ++ w.rf.firstPacket sta rsr rxBuf⟩
  | elsewhere {w t} (h : RfElsewhere w.rf t) : PairHears w { w with rf := t }

/-- A run of a program of the RF task. -/
abbrev PairRuns {α : Type} (p : RfM α) : PairWorld → α → PairWorld → Prop :=
  Prog.Runs PairHears (p.zoom PairWorld.rf fun s w => { w with rf := s })

/-- A call that TMOS does not handle an event in, but for those that forget the bond after they ended the pairing. -/
def RfCall.InPairing : RfCall → Prop
  | .process => False
  | .frame cmd sub _ => ¬(cmd = 0xA6 ∧ (sub = 0x52 ∨ sub = 0x63))
  | .connectedTick | .ledResync | .quiesce | .other => True

/-- A step of a pairing that is not a connection. The bond is forgotten only after `RF_Disconnect`. -/
inductive PairStep : PairWorld → PairWorld → Prop where
  | call {w w'} (call : RfCall) (h : call.InPairing) : PairRuns call.program w () w' → PairStep w w'
  | event {w u w' next} : PairRuns tmosTake w next u → next ≠ some .enterConnected → PairRuns (tmosHandle next) u () w' →
      PairStep w w'
  | disconnect {w w'} : PairRuns rfDisconnect w () w' → PairStep w w'

/-- `RF_EnterPairing` starts a pairing, and the steps after it lead from `w₀` to `w`. -/
def PairEpisode (w₀ w : PairWorld) : Prop := ∃ w₁, PairRuns rfEnterPairing w₀ true w₁ ∧ Relation.ReflTransGen PairStep w₁ w

end OpenController
