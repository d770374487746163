import OpenController.HidDiscard

/-!
# The rotation of the pairing channels

A search sends a beacon every `RF_PAIR_BCAST_TICKS`, a dwell of `RF_PAIR_DWELL_BCASTS` of them on each of the three channels in turn.
A bonded search has no end, and its beacons are counted in a byte.
-/

namespace OpenController

/-- The channel that the beacon `n` of a search is to go out on. -/
def rotationChannel (n : Nat) : Nat := pairChannels.getD (n / rfPairDwellBcasts % numPairChannels) 0

/-- A beacon that was sent: the channel the radio was tuned to, and what went out. -/
structure Beacon where
  tuned : Nat
  sent : List AirFrame
  deriving DecidableEq, Repr

/-- The main loop is about to send a beacon. -/
def Rf.SendsBeacon (s : Rf) (act : RfAct) : Prop :=
  act = .event (some .pairBcast) ∧ s.state = .pairing ∧ s.keyboardMacValid = true

/-- A search that is not restarted, with its beacons: it starts when PAIRING is entered, and goes on until it is entered anew. -/
inductive Search : List Beacon → Rf → Prop where
  | boot {s} : RfBooted s → s.state = .pairing → Search [] s
  | start {s t act} : RfInterleaved s → RfAct.Does act s t → t.trace.pairEntries = s.trace.pairEntries + 1 → Search [] t
  | beacon {bs s t act} : Search bs s → s.SendsBeacon act → RfAct.Does act s t →
      Search (bs ++ [⟨t.radio.tuned, t.radio.onAir.drop s.radio.onAir.length⟩]) t
  | other {bs s t act} : Search bs s → ¬s.SendsBeacon act → RfAct.Does act s t →
      t.trace.pairEntries = s.trace.pairEntries → Search bs t

/-- By how many beacons the byte is behind, around the circle of the three dwells: each time it wraps it loses four. -/
def rotationSlip (n : Nat) : Nat := 4 * (n / 256) % 36

/-- The beacon is on its channel, since the slip does not lead into another dwell, or leads around. -/
def InStep (n : Nat) : Prop := n % 256 % 12 + rotationSlip n < 12 ∨ 36 ≤ n % 256 % 12 + rotationSlip n

/-- Every beacon went out on its channel. -/
def Rotates (bs : List Beacon) : Prop := ∀ (n : Nat) (b : Beacon), bs[n]? = some b → b.tuned = rotationChannel n

end OpenController
