import OpenController.Lemmas.RfCatchRun

/-!
# No connection from a stale catch

`rf_enter_connected` uses the pending access address, type tag, interval and anchor at four statements, and the trace keeps what
each of them saw. Wherever the callback runs between the statements of the main loop, all of it is fresh.
-/

namespace OpenController

/-- However interrupts run into the calls of the main loop: what a connection used was stored by a LEN-15 packet received after
the last entry into PAIRING, from the dongle of the bond. -/
theorem connections_use_fresh_catches {s : Rf} (h : RfInterleaved s) {u : CatchUse} (hu : u ∈ s.trace.uses) : u.Fresh :=
  (catchOk_interleaved h).uses u hu

/-- A fresh pairing connects: the four values it used are of the packet caught in the pairing window. -/
theorem connections_use_fresh_catches_pairUp :
    let s := newKeyboard.after (pairUp ++ [.process])
    s.trace.uses.length = 4 ∧ ∀ u ∈ s.trace.uses, u.Fresh := by
  have h : RfInterleaved (newKeyboard.after (pairUp ++ [.process])) :=
    RfInterleaved.after (.init ⟨_, _, _, _, rfl⟩) (by decide +kernel)
  exact ⟨by decide +kernel, fun u hu => connections_use_fresh_catches h hu⟩

end OpenController
