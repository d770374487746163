import OpenController.Lemmas.RfSendRun

/-!
# Only what was sent is retired

A report leaves the FIFO acknowledged only after its transmission started, in the same session and while it was the head, as long
as no poll retires the head between its choice in `rf_do_response_tx` and `RF_Shut`. `retired_were_sent_false` is a run in which
one does: `hid_head_sent` is then set for the next head, and the next poll retires that one, which was never sent.
-/

namespace OpenController

/-- However interrupts run into the calls of the main loop, as long as no poll retires the head between the choice of a response's
report and `RF_Shut`: every entry that an acknowledgement retired was sent in its session as the head of the FIFO. -/
theorem retired_were_sent {s : Rf} (h : RfHeard .keepsSelected s) {x : HidFrame} (hx : x ∈ s.log.retired) : x ∈ s.log.started :=
  (sendOk_heard h).retired x hx

/-- A key is pressed and released in a session, and the press is sent. -/
def sendPress : List RfOp :=
  connectUp ++ [.report (Vector.replicate 8 4), .report (Vector.replicate 8 0), .poll 0, .tmr0Cycle, .tmr0Irq, .process]

/-- The next poll acknowledges the press: it was sent, and it is retired. -/
theorem retired_were_sent_press :
    let s := newKeyboard.after (sendPress ++ [.txFinish, .process, .poll 1])
    s.log.retired.length = 1 ∧ ∀ x ∈ s.log.retired, x ∈ s.log.started := by
  have h : RfHeard .keepsSelected (newKeyboard.after (sendPress ++ [.txFinish, .process, .poll 1])) :=
    RfHeard.after (.init ⟨_, _, _, _, rfl⟩) (by decide +kernel)
  exact ⟨by decide +kernel, fun x hx => retired_were_sent h hx⟩

/-- The press is sent again because its acknowledgement was lost, and the acknowledging poll comes in after the press was chosen
and before `RF_Shut`: the mark is then of the release, which the next poll retires although it was never sent. -/
theorem retired_were_sent_false : ∃ s, RfHeard .any s ∧ ∃ x ∈ s.log.retired, x ∉ s.log.started := by
  have hsent : RfHeard .any (newKeyboard.after (sendPress ++ [.txFinish, .process, .poll 0, .tmr0Cycle, .tmr0Irq])) :=
    RfHeard.after (.init ⟨_, _, _, _, rfl⟩) (by decide +kernel)
  have hagain := hsent.interrupted .process 6 (pollPacket 1) (by decide +kernel) trivial
  have hafter : RfHeard .any (Rf.after _ [.txFinish, .process, .poll 0]) := hagain.after (by decide +kernel)
  exact ⟨_, hafter, ⟨1, 1, Vector.replicate 8 0⟩, by decide +kernel, by decide +kernel⟩

end OpenController
