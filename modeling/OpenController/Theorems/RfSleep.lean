import OpenController.Lemmas.RfSleepRun

/-!
# The module never sleeps with the radio on

In every state between two calls of the main loop in which `RF_CanDeepSleep` allows a deep sleep the radio is shut, and it stays
so whatever was queued before: only the host, a beacon, a probe or a catch while pairing starts it.
-/

namespace OpenController

/-- However interrupts run into the calls of the main loop, and whenever the radio calls back: if `RF_CanDeepSleep` allows a deep
sleep then the radio is shut; and over any run of calls that no command or report of the host, no beacon or probe and no catch
while pairing is behind, it stays shut, and the module may still sleep. -/
theorem deep_sleep_finds_the_radio_shut {s : Rf} (h : RfDisturbed s) (hc : rfCanDeepSleep s = true) :
    s.radio.shut = true ∧
      ∀ t, Relation.ReflTransGen RfQuietCall s t → t.radio.shut = true ∧ rfCanDeepSleep t = true := by
  have hs : s.Asleep := ⟨hc, sleepOk_disturbed h hc⟩
  refine ⟨hs.2, fun t hr => ?_⟩
  have ht : t.Asleep := by
    induction hr with
    | refl => exact hs
    | tail _ hq ih => exact asleep_quietCall hq ih
  exact ⟨ht.2, ht.1⟩

/-- A bonded keyboard searches for its dongle: the window after a beacon is closed again, and an error of the receiver is reported
late. -/
def closedWindow : List RfOp :=
  connectUp ++ [.command 0x31, .command 0x30, .process, .process, .txFinish, .process, .expire .pairRxOff, .process,
    .callback .other 0 none]

/-- The late `RF_EVT_RX_RESTART` does not start the receiver. -/
theorem deep_sleep_finds_the_radio_shut_closedWindow :
    let s := newKeyboard.after closedWindow
    s.state = .pairing ∧ s.tmos.waits .rxRestart = true ∧ s.radio.shut = true ∧ (tmosProcess.exec s).radio.shut = true := by
  intro s
  have h : RfDisturbed s := RfReach.disturbed (RfReach.after (.init ⟨_, _, _, _, rfl⟩) _)
  obtain ⟨hs, ht⟩ := deep_sleep_finds_the_radio_shut h (by decide +kernel)
  have hq : RfQuietCall s (tmosProcess.exec s) := by
    refine .event (Prog.runs_run _ tmosTake s) (fun e he => ?_) (Prog.runs_run _ _ _)
    have hn : s.tmos.next = some .rxRestart := by decide +kernel
    obtain rfl : RfEvt.rxRestart = e := Option.some.inj (hn.symm.trans he)
    exact id
  exact ⟨by decide +kernel, by decide +kernel, hs, (ht _ (.single hq)).1⟩

end OpenController
