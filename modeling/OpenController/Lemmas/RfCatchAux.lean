import OpenController.Lemmas.RfLinkAux
import OpenController.Lemmas.RfStatements
import OpenController.RfCatch

/-!
# Statements that leave catches alone

Most statements of the RF task are calm: they make no catch and no entry into PAIRING. So a catch that is fresh stays fresh.
-/

namespace OpenController

open Prog

namespace Rf.Calm

/-- Calm after calm is calm. -/
theorem trans {s t u : Rf} (h : Calm s t) (h' : Calm t u) : Calm s u where
  hasBond := h'.hasBond.trans h.hasBond
  mac := h'.mac.trans h.mac
  pending := h'.pending.trans h.pending
  caught := h'.caught.trans h.caught
  entries := h'.entries.trans h.entries
  uses := h'.uses.trans h.uses
  state := h'.state.elim (fun he => he ▸ h.state) .inr
  armed := h.armed ∘ h'.armed
  waits := h.waits ∘ h'.waits

/-- What is calm leaves the pending values those of the last catch, if they were. -/
theorem fresh {s t : Rf} (h : Calm s t) (hf : s.use.Fresh) : t.use.Fresh := by
  obtain ⟨hb, c, hc, he, hl, hm, ho⟩ := hf
  exact ⟨h.hasBond.trans hb, c, h.caught.trans hc, he.trans h.entries.symm, hl, hm.trans h.mac.symm, ho.trans h.pending.symm⟩

/-- What is calm keeps what holds of the pending catch between two statements. -/
theorem catchOk {s t : Rf} (h : Calm s t) (hs : s.CatchOk) : t.CatchOk where
  armed := by
    have := hs.armed
    have := h.armed
    grind
  waiting hp hw := by
    rcases h.state with hst | hst
    · exact h.fresh (hs.waiting (hst ▸ hp) (h.waits hw))
    · exact absurd hp hst
  uses := h.uses ▸ hs.uses

end Rf.Calm

/-! ## Calm programs -/

attribute [local simp] CalmStmt Rf.calm_iff

/-- A timer that stops takes an event away at most. -/
@[simp] theorem calm_stop (e : RfEvt) : Each CalmStmt (rfStopTaskAtomic e) := by
  simp [rfStopTaskAtomic]

/-- The timers of the events other than ENTER_CONNECTED. -/
@[simp] theorem calm_start {e : RfEvt} (h : e ≠ .enterConnected) (ticks : Nat) : Each CalmStmt (rfStartTaskAtomic e ticks) := by
  simp [rfStartTaskAtomic, h.symm]

/-- The events other than ENTER_CONNECTED. -/
@[simp] theorem calm_set {e : RfEvt} (h : e ≠ .enterConnected) : Each CalmStmt (rfSetEventAtomic e) := by
  simp [rfSetEventAtomic, Rf.setEvent, h.symm]

/-- The link may go anywhere but to PAIRING. -/
@[simp] theorem calm_setState {st : RfState} (h : st ≠ .pairing) : Each CalmStmt (setState st) := by
  simp [setState, h]

/-- A session that starts does not touch the catch it comes from. -/
@[simp] theorem calm_setConnected (silentProbe : Bool) : Each CalmStmt (setConnected silentProbe) := by
  simp [setConnected]

/-- The outstanding save is not part of a catch. -/
@[simp] theorem calm_dropBondSave : Each CalmStmt dropBondSave := by
  simp [dropBondSave]

/-- Nor are the flags of the resting policy. -/
@[simp] theorem calm_clearRest (f : RfRest → RfRest) : Each CalmStmt (clearRest f) := by
  simp [clearRest]

/-- Nor is the window of the search. -/
@[simp] theorem calm_setRxWindow (isOpen : Bool) : Each CalmStmt (setRxWindow isOpen) := by
  simp [setRxWindow]

/-- Nor is the response. -/
@[simp] theorem calm_clearResponsePending : Each CalmStmt clearResponsePending := by
  simp [clearResponsePending]

/-- The radio shuts. -/
@[simp] theorem calm_rfShut : Each CalmStmt rfShut := by
  simp [rfShut]

/-- The radio is configured. -/
@[simp] theorem calm_rfConfigureIfNeeded (aa : Nat) : Each CalmStmt (rfConfigureIfNeeded aa) :=
  each_rfConfigureIfNeeded (by simp) (by simp) aa

/-- The receiver starts. -/
@[simp] theorem calm_rfStartRx (channel : Nat) : Each CalmStmt (rfStartRx channel) :=
  each_rfStartRx (by simp) (by simp) (by simp) channel

/-- A status goes to the keyboard's processor. -/
@[simp] theorem calm_sendStatus (b : Byte) : Each CalmStmt (keyboardUartSendStatus b) := by
  simp [keyboardUartSendStatus, Rf.out]

/-- A branch is calm if it is when it is taken. -/
@[simp] theorem calm_whenever {c : Prop} [Decidable c] {p : RfM Unit} : Each CalmStmt (whenever c p) ↔ (c → Each CalmStmt p) := by
  simp [whenever]

/-- The turnaround timer stops. -/
@[simp] theorem calm_rfTmr0Stop : Each CalmStmt rfTmr0Stop := by
  simp [rfTmr0Stop]

/-! ### The resting policy -/

/-- `rest_cancel` stops the timers of the policy, and none of them connects. -/
@[simp] theorem calm_restCancel : Each CalmStmt restCancel := by
  simp [restCancel]

/-- `rest_arm_idle` starts a timer that does not connect. -/
@[simp] theorem calm_restArmIdle : Each CalmStmt restArmIdle := by
  simp [restArmIdle]

/-- The link goes quiet: its state is not PAIRING. -/
@[simp] theorem calm_restGoQuiet : Each CalmStmt restGoQuiet := by
  simp [restGoQuiet]

/-- So it does when it rests. -/
@[simp] theorem calm_restEnter : Each CalmStmt restEnter := by
  simp [restEnter]

/-- So it does at the end of a probe, caught or not. -/
@[simp] theorem calm_restProbeEnd (caught : Bool) : Each CalmStmt (restProbeEnd caught) := by
  cases caught <;> simp [restProbeEnd]

/-- A probe becomes the session: timers and flags. -/
@[simp] theorem calm_restPromoteToNormal : Each CalmStmt restPromoteToNormal := by
  simp [restPromoteToNormal]

/-! ### The events -/

/-- A response goes out. -/
@[simp] theorem calm_rfDoResponseTx : Each CalmStmt rfDoResponseTx := by
  simp [rfDoResponseTx, rfSelectHead, rfTxResponse]

/-- A beacon goes out: no catch is pending before an answer to it. -/
@[simp] theorem calm_rfPairBroadcast : Each CalmStmt rfPairBroadcast := by
  simp [rfPairBroadcast, sendBeacon, rfTx]

/-- A session that has started is announced. -/
@[simp] theorem calm_announceSession (silentProbe : Bool) : Each CalmStmt (announceSession silentProbe) := by
  simp [announceSession]

/-- The hop goes on. -/
@[simp] theorem calm_rfHopTick (interval : Nat) : Each CalmStmt (rfHopTick interval) := by
  simp [rfHopTick, rfAdvance, rfPendingAgain]

/-- `RF_ConnectedTick` moves the hop, or ends a probe. -/
@[simp] theorem calm_rfConnectedTick : Each CalmStmt rfConnectedTick := by
  simp [rfConnectedTick, rearmSupervision, rfHopOrWait, rfPending, rfReleaseResponse]

/-- The receiver starts again. -/
@[simp] theorem calm_onRxRestart : Each CalmStmt onRxRestart := by
  simp [onRxRestart]

/-- The window closes. -/
@[simp] theorem calm_onPairRxOff : Each CalmStmt onPairRxOff := by
  simp [onPairRxOff]

/-- A pairing that nobody answered ends in IDLE. -/
@[simp] theorem calm_onPairTimeout : Each CalmStmt onPairTimeout := by
  simp [onPairTimeout]

/-- The LED byte is handed over. -/
@[simp] theorem calm_onNotifyLed : Each CalmStmt onNotifyLed := by
  simp [onNotifyLed, keyboardUartSendLed, Rf.out]

/-- The FIFO is discarded. -/
@[simp] theorem calm_onDiscardHid : Each CalmStmt onDiscardHid := by
  simp [onDiscardHid, rfDiscardHidQueue]

/-- The link rests, or waits on. -/
@[simp] theorem calm_onRestIdle : Each CalmStmt onRestIdle := by
  simp [onRestIdle]

/-- A probe that nobody answered ends. -/
@[simp] theorem calm_onRestProbeTimeout : Each CalmStmt onRestProbeTimeout := by
  simp [onRestProbeTimeout]

/-- The second stage of a rest: the probes stop. -/
@[simp] theorem calm_onRestStage2 : Each CalmStmt onRestStage2 := by
  simp [onRestStage2]

/-- The link is lost; the search that follows is entered elsewhere. -/
@[simp] theorem calm_onDisconnect : Each CalmStmt onDisconnect := by
  simp [onDisconnect]

/-- The RF task starts in IDLE. -/
@[simp] theorem calm_onStart : Each CalmStmt onStart := by
  simp [onStart]

/-! ### What the host asks for -/

/-- The host takes the link down. -/
@[simp] theorem calm_rfDisconnect : Each CalmStmt rfDisconnect := by
  simp [rfDisconnect]

/-- A report is queued. -/
@[simp] theorem calm_queueReport (report : Report) : Each CalmStmt (queueReport report) := by
  simp [queueReport]

/-- The host selects 2.4 GHz in a session: a probe becomes it. -/
@[simp] theorem calm_keepProbe : Each CalmStmt keepProbe := by
  simp [keepProbe, wakeProbe]

/-- The link is taken down before a sleep or the bootloader. -/
@[simp] theorem calm_takeDown : Each CalmStmt takeDown := by
  simp [takeDown, rfFlushBondSave, saveBond]

end OpenController
