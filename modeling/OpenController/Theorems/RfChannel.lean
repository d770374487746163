import OpenController.Lemmas.RfChannelRun

/-!
# Responses and hops are on the right channel

A response goes out on the channel its poll was caught on, as long as no poll is caught after the last look of `RF_ConnectedTick`
(or `rf_enter_connected`) at `response_pending` and before `RF_Shut` while the radio is about to go elsewhere; and
`RF_ConnectedTick` leaves the receiver on the channel of the hop's index, as long as no poll is caught between its two looks while a
hop is due. Both fail otherwise: `answers_on_their_channel_false`, `tick_arms_the_hop_channel_false`.
-/

namespace OpenController

/-- A session whose hop is locked: a poll was caught and answered, and the next hop is due. -/
def lockedAndDue : List RfOp :=
  connectUp ++ [.poll 0, .tmr0Cycle, .tmr0Irq, .process, .txFinish, .process, .connectedTick, .hardware ⟨16, 0, 0, ⟨0, 0, 0⟩⟩]

theorem heard_lockedAndDue : RfHeard .any (newKeyboard.after lockedAndDue) :=
  RfHeard.after (.init ⟨_, _, _, _, rfl⟩) (by decide +kernel)

/-! ## Responses -/

/-- However interrupts run into the calls of the main loop, as long as no poll is caught between the last look at
`response_pending` and `RF_Shut` when the radio is about to go to another channel: every response went out while the radio was
tuned to `response_channel`, the channel its poll was caught on. -/
theorem answers_on_their_channel {s : Rf} (h : RfHeard .inPlace s) {a : Answer} (ha : a ∈ s.log.answers) : a.OnChannel :=
  (channelOk_heard (q := True) (fun _ _ _ hk => hk) (heardSo_heard h)).1.answers trivial a ha

/-- Two polls are answered, on the channel before the hop and on the one after it. -/
theorem answers_on_their_channel_twice :
    let s := newKeyboard.after (lockedAndDue ++ [.connectedTick, .poll 1, .tmr0Cycle, .tmr0Irq, .process])
    s.log.answers.map (·.tuned) = [13, 20] ∧ ∀ a ∈ s.log.answers, a.OnChannel := by
  have h : RfHeard .inPlace (newKeyboard.after (lockedAndDue ++ [.connectedTick, .poll 1, .tmr0Cycle, .tmr0Irq, .process])) :=
    RfHeard.after (.init ⟨_, _, _, _, rfl⟩) (by decide +kernel)
  exact ⟨by decide +kernel, fun a ha => answers_on_their_channel h ha⟩

/-- The hop is due, and the next poll is caught on the old channel just after the last look at `response_pending`: its response
goes out on the new one. -/
theorem answers_on_their_channel_false : ∃ s, RfHeard .any s ∧ ∃ a ∈ s.log.answers, ¬a.OnChannel := by
  have hcaught := heard_lockedAndDue.interrupted .connectedTick 7 (pollPacket 1) (by decide +kernel) trivial
  have hafter : RfHeard .any (Rf.after _ [.tmr0Cycle, .tmr0Irq, .process]) := hcaught.after (by decide +kernel)
  exact ⟨_, hafter, ⟨20, 13, 13⟩, by decide +kernel, by decide⟩

/-! ## Hops -/

/-- A tick that is not interrupted. -/
theorem runs_tick (env : Rf → Rf → Prop) (s : Rf) : Prog.Runs env rfConnectedTick s () (rfConnectedTick.exec s) := Prog.runs_run _ _ s

/-- However interrupts run into the calls of the main loop, as long as no poll is caught between the two looks of `RF_ConnectedTick`
at `response_pending` while a hop is due: when `RF_ConnectedTick` returns in a session with no response pending, the receiver is on
the channel of the hop's index. -/
theorem tick_arms_the_hop_channel {s t : Rf} (h : RfInStep s) (hr : Prog.Runs RfHearsInStep rfConnectedTick s () t)
    (hs : t.state = .connected) (_ : t.resp.responsePending = false) : t.radio.channel = t.hop.channel := by
  have hafter : RfInStep t := .step .connectedTick h hr
  exact (channelOk_heard (q := False) nofun (heardSo_inStep hafter)).2 trivial hs

/-- A session whose hop is locked. -/
def locked : List RfOp := connectUp ++ [.poll 0, .tmr0Cycle, .tmr0Irq, .process, .txFinish, .process, .connectedTick]

/-- A poll is caught between the two looks when no hop is due, and answered; then the hop is due. -/
def caughtInTick : Rf :=
  (rfConnectedTick.interrupted (·.rf2g4StatusCallBack .rxData 0 (some (pollPacket 1))) 4 (newKeyboard.after locked)).2.after
    [.tmr0Cycle, .tmr0Irq, .process, .txFinish, .process, .hardware ⟨30, 0, 0, ⟨0, 0, 0⟩⟩]

theorem tick_arms_the_hop_channel_caught :
    let t := rfConnectedTick.exec caughtInTick
    t.log.answers.length = 2 ∧ t.hop.prevDataIdx = 2 ∧ t.radio.channel = t.hop.channel := by
  intro t
  have hlocked : RfInStep (newKeyboard.after locked) := RfInStep.after (.init ⟨_, _, _, _, rfl⟩) (by decide +kernel)
  have hcaught := hlocked.interrupted .connectedTick 4 (pollPacket 1) (by decide +kernel) (by decide +kernel)
  have hdue : RfInStep caughtInTick := hcaught.after (by decide +kernel)
  exact ⟨by decide +kernel, by decide +kernel,
    tick_arms_the_hop_channel hdue (runs_tick _ _) (by decide +kernel) (by decide +kernel)⟩

/-- The hop is due, and the next poll is caught between the two looks at `response_pending`: the index has moved, the radio has
not, and when the response is over the tick leaves it so. -/
theorem tick_arms_the_hop_channel_false : ∃ s t, RfHeard .any s ∧ Prog.Runs (RfHears .any) rfConnectedTick s () t ∧
    t.state = .connected ∧ t.resp.responsePending = false ∧ t.radio.channel ≠ t.hop.channel := by
  have hcaught := heard_lockedAndDue.interrupted .connectedTick 6 (pollPacket 1) (by decide +kernel) trivial
  have hafter : RfHeard .any (Rf.after _ [.tmr0Cycle, .tmr0Irq, .process, .txFinish, .process]) :=
    hcaught.after (by decide +kernel)
  exact ⟨_, _, hafter, runs_tick _ _, by decide +kernel, by decide +kernel, by decide +kernel⟩

end OpenController
