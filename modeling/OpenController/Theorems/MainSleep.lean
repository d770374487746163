import OpenController.Lemmas.MainSleepRun

/-!
# A withdrawn sleep is never taken

When `CH59x_LowPower` goes to a deep sleep because the host asked for one, the host still wants it, as long as no layer keeps a
request that another one gives up. It fails otherwise: `explicit_sleeps_are_wanted_false`.
-/

namespace OpenController

variable {board : Board} {m : Main}

/-- However interrupts run into the main loop, as long as the sleep protocol is not negotiated anew while the power layer holds a
request, and the host does not wake the module from one while `sleep_pending` is set: whenever the module went to a deep sleep on
request, the host had asked for it and had not stood it down since. -/
theorem explicit_sleeps_are_wanted (h : MainReach board MainOp.DropsRequest m) :
    ∀ e ∈ m.log.sleeps, e.explicit = true → e.wanted = true := (requestOk_reach h).taken

/-- The host asks for a sleep, and the power layer holds the request. -/
def askForSleep : List MainInput :=
  [RfOp.input (.command 0x56), RfOp.input (.command 0x54), .call (.powerService true 0), .call (.powerService true 0)]

/-- The module is idle until the next deadline, and only the RTC wakes it. -/
def idleUntil (time : Nat) : MainInput := .call (.lowPower time true true ⟨false, false, false, true, false, time, false⟩)

/-- The module sleeps twice before the host selects 2.4G. -/
theorem explicit_sleeps_are_wanted_twice :
    let m := (mainInit newKeyboard).after clockedBoard
      (askForSleep ++ [idleUntil 1000, idleUntil 2000, RfOp.input (.command 0x30), idleUntil 3000])
    m.log.sleeps = [⟨true, true⟩, ⟨true, true⟩] ∧ ∀ e ∈ m.log.sleeps, e.explicit = true → e.wanted = true := by
  intro m
  have h : MainReach clockedBoard MainOp.DropsRequest m :=
    MainReach.after (.init ⟨_, ⟨_, _, _, _, rfl⟩, rfl⟩) (by decide +kernel)
  exact ⟨by decide +kernel, explicit_sleeps_are_wanted h⟩

/-- The host negotiates the protocol anew when the power layer holds its request already: the module sleeps all the same. -/
theorem explicit_sleeps_are_wanted_false :
    ∃ m, MainReach clockedBoard (fun _ _ => True) m ∧ ∃ e ∈ m.log.sleeps, e.explicit = true ∧ e.wanted = false := by
  refine ⟨(mainInit newKeyboard).after clockedBoard (askForSleep ++ [RfOp.input (.command 0x56), idleUntil 1000]), ?_, ?_⟩
  · exact MainReach.after (.init ⟨_, ⟨_, _, _, _, rfl⟩, rfl⟩) (by decide +kernel)
  · exact ⟨⟨true, false⟩, by decide +kernel, rfl, rfl⟩

end OpenController
