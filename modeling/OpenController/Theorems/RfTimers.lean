import OpenController.Lemmas.RfTimersRun

/-!
# Each state of the link has its timers

In timed runs the state of the link has the timers that get it out, and a timer that runs belongs to the state: unless a pairing
window is opened anew while the end of the last one is queued, since `RF_EnterPairing` does not stop `RF_EVT_PAIR_TIMEOUT` before
it starts it. `timers_match_the_state_false` is a run in which that happens.
-/

namespace OpenController

/-- A timed run goes on from a state that is reached. -/
theorem RfTimedReach.after {ok : RfOp → Tmos → Prop} {s : Rf} (h : RfTimedReach ok s) {ops : List RfOp} (hk : s.Keeps ok ops) :
    RfTimedReach ok (s.after ops) := by
  induction ops generalizing s with
  | nil => exact h
  | cons op ops ih => exact ih (.step op h ⟨hk.1, hk.2.1, rfl⟩) hk.2.2

/-- In every state of a timed run in which no pairing window is opened anew while the end of the last one is queued, the timers
match the state of the link. -/
theorem timers_match_the_state {s : Rf} (h : RfTimedReach RfOp.OpensWindowOnce s) : s.TimersMatch := by
  obtain ⟨ho, hi⟩ := RfLink.owned_reach h
  exact {
    pairing := ho.beacon
    connected := ho.supervised
    session := ho.session
    probe := fun hp => ⟨(hi.probing hp).2.2, ho.bounded hp⟩
    resting := ho.cadence
    disconnect := fun ha => ho.ofDisconnect (Tmos.live_of_armed ha)
    pairTimeout := fun ha => ho.ofWindow (Tmos.live_of_armed ha)
    restIdle := fun ha => ho.ofIdle (Tmos.live_of_armed ha)
    stage := fun ha => ha.elim (fun h' => ho.ofProbe (Tmos.live_of_armed h')) fun h' => ho.ofStage2 (Tmos.live_of_armed h') }

/-- The host selects 2.4G and opens a pairing window, which nobody answers. -/
def openWindow : List RfOp :=
  [.process, .command 0x30, .command 0x51, .process] ++
    (List.replicate 8 [RfOp.advance 1000, .expire .pairBcast, .process]).flatten ++
    [.advance 480, .expire .pairBcast, .expire .pairTimeout]

/-- A window that is open connects nothing: its timers match the state. -/
theorem timers_match_the_state_openWindow : (newKeyboard.after openWindow).TimersMatch :=
  timers_match_the_state (RfTimedReach.after (.init ⟨_, _, _, _, rfl⟩) (by decide +kernel))

/-- The window is over and its end is queued when the host opens the window anew: the queued end closes it at once, and its own
timer is left to run while the link is idle. The timers expire in order, and nothing is handled late. -/
theorem timers_match_the_state_false :
    ∃ s, RfTimedReach RfOp.InOrder s ∧ s.state = .idle ∧ s.tmos.armed .pairTimeout = true ∧ ¬s.TimersMatch := by
  refine ⟨newKeyboard.after (openWindow ++ [.command 0x51, .process, .process]), ?_, by decide +kernel, by decide +kernel, ?_⟩
  · exact RfTimedReach.after (.init ⟨_, _, _, _, rfl⟩) (by decide +kernel)
  · intro h
    have hs : (newKeyboard.after (openWindow ++ [.command 0x51, .process, .process])).state = .idle := by decide +kernel
    exact nomatch hs.symm.trans (h.pairTimeout (by decide +kernel)).1

end OpenController
