import Mathlib.Tactic.MkIffOfInductiveProp
import OpenController.RfInterrupt

/-!
# Catches

A packet that offers a session is a catch: the callback stores what it offers and queues `RF_EVT_ENTER_CONNECTED`. Between then
and the connection the main loop may leave PAIRING and enter it anew, for another dongle. A catch is fresh for a connection when
it came after the last entry into PAIRING, from the dongle of the bond.
-/

namespace OpenController

/-- The pending values were stored by a LEN-15 packet received after the last entry into PAIRING, from the dongle of the bond. -/
def CatchUse.Fresh (u : CatchUse) : Prop :=
  u.bond.hasBond = true ∧
    ∃ c, u.caught = some c ∧ c.entry = u.entry ∧ c.len = 15 ∧ c.mac = u.bond.storedDongleMac ∧ c.offer = u.pending

/-- A catch that waits while pairing is fresh, and so was every catch used. -/
structure Rf.CatchOk (s : Rf) : Prop where
  armed : s.tmos.armed .enterConnected = false
  waiting : s.state = .pairing → s.tmos.waits .enterConnected = true → s.use.Fresh
  uses : ∀ u ∈ s.trace.uses, u.Fresh

/-- One state after another, with nothing in between that a catch depends on: at most PAIRING was left, or a catch dropped. -/
@[mk_iff]
structure Rf.Calm (s t : Rf) : Prop where
  hasBond : t.bond.hasBond = s.bond.hasBond
  mac : t.bond.storedDongleMac = s.bond.storedDongleMac
  pending : t.pending = s.pending
  caught : t.trace.caught = s.trace.caught
  entries : t.trace.pairEntries = s.trace.pairEntries
  uses : t.trace.uses = s.trace.uses
  state : t.state = s.state ∨ t.state ≠ .pairing
  armed : t.tmos.armed .enterConnected = true → s.tmos.armed .enterConnected = true
  waits : t.tmos.waits .enterConnected = true → s.tmos.waits .enterConnected = true

/-- A statement after which nothing that a catch depends on has changed. -/
def CalmStmt (f : Rf → Rf) : Prop := ∀ s : Rf, s.Calm (f s)

end OpenController
