import OpenController.RfRest

/-!
# The RF task

The events of `RF_ProcessEvent` and the functions it calls, `RF_ConnectedTick`, which advances the hop from the main loop, and
`RF_TaskInit`.
-/

namespace OpenController

/-- The head of the FIFO, if there is one. -/
def Rf.selectHead (s : Rf) : Option Report := if s.hid.count ≠ 0 then some s.hid.headReport else none

/-- The part of `rf_do_response_tx` with interrupts masked. -/
def rfSelectHead : RfM (Option Report) :=
  .stmt (fun s => { s with log := { s.log with stretch := .selected } }) fun s => pure s.selectHead

/-- The frame that answers a poll: the head of the FIFO, or a keepalive. -/
def responseFrame (ctrl : Byte) : Option Report → List Byte
  | some r => ctrl :: 0xA1 :: r.toList
  | none => [ctrl]

/-- `RF_Tx` of a response, with the status it returns. -/
def rfTxResponse (ctrl : Byte) (head : Option Report) : RfM Nat :=
  .stmt (fun s => { s with
    radio := s.radio.tx s.hw.txStatus (responseFrame ctrl head)
    log := { s.log with
      started := if s.hw.txStatus = 0
        then s.log.started ++ (head.map fun r => ⟨s.log.sessions, s.log.passed, r⟩).toList else s.log.started
      answers := if s.hw.txStatus = 0
        then s.log.answers ++ [⟨s.radio.tuned, s.resp.responseChannel, s.log.caughtOn⟩] else s.log.answers } })
    fun s => pure s.hw.txStatus

/-- `rf_do_response_tx`: the response to the poll, on the channel the radio is tuned to. -/
def rfDoResponseTx : RfM Unit := do
  let pending ← .read fun s => s.resp.responsePending
  whenever pending do
    .modify fun s => { s with hid := { s.hid with txDownInflight := false } }
    let ctrl ← .read fun s => s.resp.responseCtrl
    let head ← rfSelectHead
    rfShut
    let status ← rfTxResponse ctrl head
    whenever (status = 0 ∧ head.isSome) do
      .modify fun s => { s with hid := { s.hid with headSent := true } }
      whenever (head.any Report.down) (.modify fun s => { s with hid := { s.hid with txDownInflight := true } })
    whenever (status ≠ 0) do
      clearResponsePending
      rfSetEventAtomic .rxRestart

/-- The beacon of a search: the keyboard's address, the poll interval and the timeout it asks for. -/
def pairPayload (mac : Mac) : List Byte :=
  mac.toList ++ leBytes 2 rfPairInterval ++ leBytes 2 rfPairTimeoutValue

/-- The channel of a beacon. -/
def pairChannel (bcastCount : Nat) : Nat := pairChannels.getD (u8 (bcastCount / rfPairDwellBcasts) % numPairChannels) 0

/-- The beacon of `rf_pair_broadcast` on the air. -/
def sendBeacon : RfM Unit := do
  .modify fun s => { s with radio := { s.radio with channel := pairChannel s.pair.bcastCount } }
  let payload ← .read fun s => pairPayload s.keyboardMac
  rfShut
  let aa ← .read fun s => s.radio.accessAddr
  rfConfigureIfNeeded aa
  let _ ← rfTx payload
  .modify fun s => { s with pair := { s.pair with bcastCount := u8 (s.pair.bcastCount + 1) } }

/-- `rf_pair_broadcast`. -/
def rfPairBroadcast : RfM Unit := do
  let valid ← .read fun s => s.keyboardMacValid
  if !valid then do
    setState .idle
    rfShut
  else do
    sendBeacon
    rfStartTaskAtomic .pairBcast rfPairBcastTicks
    rfStopTaskAtomic .pairRxOff
    setRxWindow true

/-- What a connection that starts now uses. -/
def Rf.use (s : Rf) : CatchUse := ⟨s.trace.pairEntries, s.bond, s.pending, s.trace.caught⟩

/-- A connection takes some of the pending values. -/
def Rf.noteUse (s : Rf) : Rf := { s with trace := { s.trace with uses := s.trace.uses ++ [s.use] } }

/-- The part of `rf_enter_connected` up to `rf_state = RF_STATE_CONNECTED`: the session starts with what the packet offered. -/
def startSession (silentProbe : Bool) : RfM Unit := do
  rfStopTaskAtomic .pairBcast
  rfStopTaskAtomic .pairTimeout
  rfStopTaskAtomic .pairRxOff
  .modify fun s => { s.noteUse with bond := { s.bond with storedSessionAa := s.pending.sessionAa } }
  .modify fun s => { s.noteUse with bond := { s.bond with storedTypeTag := s.pending.typeTag } }
  .modify fun s => { s with radio := { s.radio with accessAddr := s.bond.storedSessionAa } }
  .modify fun s => { s.noteUse with hop := { s.hop with connInterval := s.pending.interval } }
  .modify fun s => { s with hop := { s.hop with prevDataIdx := (s.bond.storedTypeTag.toNat + 1) % numDataChannels } }
  .modify fun s => { s with resp := { s.resp with txCtrl := 2 } }
  .modify fun s => { s with hid := { s.hid with headSent := false } }
  .modify fun s => { s.noteUse with hop := { s.hop with hopAnchor := s.pending.anchor } }
  .modify fun s => { s with hop := { s.hop with sinceRx := 0 } }
  clearResponsePending
  .modify fun s => { s with hop := { s.hop with provisional := true } }
  .modify fun s => { s with bondSavePending := !silentProbe }
  setConnected silentProbe

/-- The end of `rf_enter_connected`: a silent probe tells nobody, and a probe that a report woke becomes the session. -/
def announceSession (silentProbe : Bool) : RfM Unit :=
  whenever (silentProbe = false) do
    let probe ← .read fun s => s.rest.probe
    if probe then restPromoteToNormal
    else do
      keyboardUartSendStatus 0x32
      keyboardUartSendStatus 0x23
      .modify fun s => { s with led := { s.led with lastLedSent := 0xFF } }
      restArmIdle

/-- `rf_enter_connected`. -/
def rfEnterConnected : RfM Unit := do
  let state ← .read fun s => s.state
  whenever (state = .pairing) do
    let silentProbe ← .read fun s => s.rest.probe && !s.rest.probeWake
    startSession silentProbe
    rfTmr0Stop
    let idx ← .read fun s => s.hop.prevDataIdx
    rfStartRx (dataChannels.getD idx 0)
    pficEnableTmr0
    rfStopTaskAtomic .disconnect
    rfStartTaskAtomic .disconnect rfConnectedTimeoutTicks
    announceSession silentProbe

/-! ## The connected hop -/

/-- The part of `RF_ConnectedTick` with interrupts masked, and whether the listen channel is to be set anew. -/
def RfHop.advance (now interval : Nat) (h : RfHop) : RfHop × Bool :=
  let elapsed := rtcDelta32k now h.hopAnchor
  if h.provisional then
    -- parked on the seed channel until a poll is caught
    if elapsed > interval then ({ h with hopAnchor := rtcAdd32k h.hopAnchor interval }, true) else (h, false)
  else if elapsed > interval * rfHopDesyncIntervals then
    ({ h with hopAnchor := rtcBackdate32k now rfHopAnchorBackdate }, true)
  else if elapsed > interval then
    let step := if elapsed / interval > numDataChannels then numDataChannels else elapsed / interval
    let anchor := rtcAdd32k h.hopAnchor (interval * step)
    ({ h with
        hopAnchor := if step = 1 ∧ h.sinceRx = 1 then rtcBackdate32k anchor 1 else anchor
        prevDataIdx := (h.prevDataIdx + step) % numDataChannels
        sinceRx := if h.sinceRx < 65535 then h.sinceRx + 1 else h.sinceRx }, true)
  else (h, false)

/-- The interval of the session. -/
def RfHop.interval (h : RfHop) : Nat := if h.connInterval ≠ 0 then h.connInterval else rfPairInterval

/-- The first look of `RF_ConnectedTick` at `response_pending`. -/
def rfPending : RfM Bool :=
  .stmt (fun s => { s with log := { s.log with stretch := if s.resp.responsePending then .outside else .looked } })
    fun s => pure s.resp.responsePending

/-- `response_pending = 0` in `RF_ConnectedTick`: the response was not sent within two intervals. -/
def rfReleaseResponse : RfM Unit :=
  .modify fun s => { s with resp := { s.resp with responsePending := false }, log := { s.log with stretch := .looked } }

/-- The masked section of `RF_ConnectedTick`. -/
def rfAdvance (interval : Nat) : RfM Bool :=
  .stmt (fun s => { s with
      hop := (s.hop.advance s.hw.rtc interval).1
      log := { s.log with stretch := if (s.hop.advance s.hw.rtc interval).2 then .hopped else .outside } })
    fun s => pure (s.hop.advance s.hw.rtc interval).2

/-- The second look of `RF_ConnectedTick` at `response_pending`: if a poll came in since the first, the radio is left where it is. -/
def rfPendingAgain : RfM Bool :=
  .stmt (fun s => { s with log := { s.log with
      stretch := if s.resp.responsePending then .outside else .retune (dataChannels.getD s.hop.prevDataIdx 0) } })
    fun s => pure s.resp.responsePending

/-- The end of `RF_ConnectedTick`: the hop, and the receiver on its channel. -/
def rfHopTick (interval : Nat) : RfM Unit := do
  let advanced ← rfAdvance interval
  whenever advanced do
    let pending ← rfPendingAgain
    whenever (pending = false) do
      let idx ← .read fun s => s.hop.prevDataIdx
      rfStartRx (dataChannels.getD idx 0)

/-- The supervision timer starts anew, if a poll was caught since. -/
def rearmSupervision : RfM Unit := do
  let kick ← .read fun s => s.supervisionKick
  whenever kick do
    .modify fun s => { s with supervisionKick := false }
    rfStopTaskAtomic .disconnect
    rfStartTaskAtomic .disconnect rfConnectedTimeoutTicks

/-- `RF_ConnectedTick` from the interval on: a response in flight owns the radio, for two intervals at most. -/
def rfHopOrWait : RfM Unit := do
  let interval ← .read fun s => s.hop.interval
  let pending ← rfPending
  if pending then do
    let waits ← .read fun s => decide (rtcDelta32k s.hw.rtc s.resp.responseArmedRtc ≤ interval * 2)
    whenever (waits = false) do
      rfReleaseResponse
      rfHopTick interval
  else rfHopTick interval

/-- `RF_ConnectedTick`. -/
def rfConnectedTick : RfM Unit := do
  let state ← .read fun s => s.state
  whenever (state = .connected) do
    let quiet ← .read fun s => s.rest.quietPending && !s.resp.responsePending
    if quiet then restProbeEnd true
    else do
      rearmSupervision
      rfHopOrWait

/-! ## The events -/

/-- `RF_EVT_RX_RESTART`. -/
def onRxRestart : RfM Unit := do
  let live ← .read fun s => decide (s.state = .connected) || (decide (s.state = .pairing) && s.pair.rxOpen)
  whenever live do
    let channel ← .read fun s => s.radio.channel
    rfStartRx channel
    let closes ← .read fun s => decide (s.state = .pairing) && decide (s.pair.flavor = .bonded) && !s.pair.rxOffArmed
    whenever closes do
      .modify fun s => { s with pair := { s.pair with rxOffArmed := true } }
      rfStartTaskAtomic .pairRxOff kbdPairRxWindowTicks

/-- `RF_EVT_PAIR_RX_OFF`. -/
def onPairRxOff : RfM Unit := do
  let closes ← .read fun s => decide (s.state = .pairing) && decide (s.pair.flavor = .bonded)
  whenever closes do
    setRxWindow false
    rfShut

/-- `RF_EVT_PAIR_TIMEOUT`. -/
def onPairTimeout : RfM Unit := do
  let state ← .read fun s => s.state
  whenever (state = .pairing) do
    setState .idle
    rfStopTaskAtomic .pairRxOff
    rfShut

/-- `RF_EVT_NOTIFY_LED`. -/
def onNotifyLed : RfM Unit := do
  let led ← .read fun s => s.led.pendingLed
  let last ← .read fun s => s.led.lastLedSent
  whenever (led ≠ last) do
    keyboardUartSendLed led
    .modify fun s => { s with led := { s.led with lastLedSent := led } }
    let pending ← .read fun s => s.led.pendingLed
    whenever (pending ≠ led) (rfSetEventAtomic .notifyLed)

/-- `rf_discard_hid_queue`. -/
def rfDiscardHidQueue : RfM Unit := do
  .modify fun s => { s with
    hid := { s.hid with head := s.hid.tail }
    log := { s.log with passed := s.log.passed + s.hid.count } }
  .modify fun s => { s with hid := { s.hid with headSent := false } }

/-- `RF_EVT_DISCARD_HID`: the queue is discarded, unless the link is in use. -/
def onDiscardHid : RfM Unit := do
  let state ← .read fun s => s.state
  whenever (state = .idle) rfDiscardHidQueue

/-- `rf_save_bond_to_flash`. -/
def saveBond : RfM Unit :=
  .modify fun s => { s with
    flash := rfSaveBondToFlash s.hw.eeprom s.bond s.flash
    log := { s.log with owed := if s.log.owed = some s.bond.storedDongleMac then none else s.log.owed } }

/-- `bond_save_pending = 0` of a teardown. -/
def dropBondSave : RfM Unit :=
  .modify fun s => { s with
    bondSavePending := false
    log := { s.log with savesDropped := if s.bondSavePending then s.log.savesDropped + 1 else s.log.savesDropped } }

/-- `RF_EVT_REST_IDLE`: the link rests, unless a report is queued, a response is in flight or a key is held. -/
def onRestIdle : RfM Unit := do
  let due ← .read fun s => decide (s.state = .connected) && !s.rest.probe
  whenever due do
    let rests ← .read fun s => s.hid.isEmpty && !s.resp.responsePending && !s.hid.keyHeld
    if rests then restEnter else rfStartTaskAtomic .restIdle kbdRestIdleRetryTicks

/-- `RF_EVT_REST_PROBE`. -/
def onRestProbe : RfM Unit := do
  let due ← .read fun s => decide (s.state = .resting) && decide (s.rest.stage = 1)
  whenever due do
    rfStartTaskAtomic .restProbe kbdRestProbeTicks
    restProbeStart

/-- `RF_EVT_REST_PROBE_TIMEOUT`. -/
def onRestProbeTimeout : RfM Unit := do
  let probe ← .read fun s => s.rest.probe
  whenever probe do
    let wake ← .read fun s => s.rest.probeWake
    if wake then rfStartTaskAtomic .restProbeTimeout kbdRestProbeTimeoutTicks else restProbeEnd false

/-- `RF_EVT_REST_STAGE2`. -/
def onRestStage2 : RfM Unit := do
  let stage ← .read fun s => s.rest.stage
  whenever (stage = 1) do
    clearRest fun r => { r with stage := 2 }
    rfStopTaskAtomic .restProbe

/-- `RF_EVT_DISCONNECT`: the supervision time is over. -/
def onDisconnect : RfM Unit := do
  let state ← .read fun s => s.state
  whenever (state = .connected) do
    restCancel
    rfTmr0Stop
    clearResponsePending
    .modify fun s => { s with hid := { s.hid with headSent := false } }
    .modify fun s => { s with hid := { s.hid with lastQueuedValid := false } }
    dropBondSave
    setState .idle
    rfShut
    keyboardUartSendStatus 0x33

/-- `RF_EVT_START`. -/
def onStart : RfM Unit := do
  setState .idle
  .modify fun s => { s with radio := { s.radio with accessAddr := rfDefaultAccessAddr } }
  .modify fun s => { s with radio := { s.radio with channel := pairChannels.getD 0 0 } }
  rfShut

/-- `RF_ProcessEvent`, for the event it handles. -/
def rfProcessEvent : RfEvt → RfM Unit
  | .start => onStart
  | .rxRestart => onRxRestart
  | .pairBcast => do
    let state ← .read fun s => s.state
    whenever (state = .pairing) rfPairBroadcast
  | .pairRxOff => onPairRxOff
  | .pairTimeout => onPairTimeout
  | .enterConnected => rfEnterConnected
  | .respond => do
    let state ← .read fun s => s.state
    whenever (state = .connected) rfDoResponseTx
  | .notifyLed => onNotifyLed
  | .discardHid => onDiscardHid
  | .saveBond => saveBond
  | .restIdle => onRestIdle
  | .restProbe => onRestProbe
  | .restProbeTimeout => onRestProbeTimeout
  | .restStage2 => onRestStage2
  | .disconnect => onDisconnect

/-- A pass of TMOS over the RF task: the first event queued, in the order of `RF_ProcessEvent`, is taken and handled. -/
def tmosProcess : RfM Unit := do
  let next ← .stmt (fun s => { s with tmos := s.tmos.next.elim s.tmos s.tmos.take }) fun s => pure s.tmos.next
  match next with
  | none => pure ()
  | some e => rfProcessEvent e

/-- `RF_TaskInit`, for a keyboard with an address, the state of the flash, and what the hardware answers. A bonded keyboard
searches for its dongle at once. -/
def rfTaskInit (mac : Mac) (macValid : Bool) (flash : Nat → Byte) (hw : RfHw) : Rf :=
  let bond := (rfLoadBondFromFlash hw.eeprom flash rfClearBondRam).1
  let searches := bond.hasBond && macValid
  { state := if searches then .pairing else .idle
    bond := bond
    pending := ⟨0, 0, 0, 0⟩
    hid := ⟨fun _ => Vector.replicate 8 0, 0, 0, false, Vector.replicate 8 0, false, false⟩
    hop := ⟨rfPairInterval, 0, 0, 0, false⟩
    resp := ⟨0, 0, 0, false, 0⟩
    rest := ⟨0, false, false, 0, false⟩
    pair := if searches then ⟨.bonded, true, false, 0⟩ else ⟨.fresh, false, false, 0⟩
    tmos := if searches then Tmos.init.setEvent .pairBcast else Tmos.init.setEvent .start
    tmr0 := ⟨false, false, false, false⟩
    radio :=
      { shut := true, receiving := false, tuned := 0, channel := pairChannels.getD 0 0
        accessAddr := if searches then bond.storedSessionAa else rfDefaultAccessAddr
        configuredAa := 0, configuredValid := false, onAir := [] }
    led := ⟨0, 0xFF⟩
    flash := flash
    supervisionKick := false
    bondSavePending := false
    rssi := 0
    keyboardMac := mac
    keyboardMacValid := macValid
    transportIs2g4 := false
    hw := hw
    trace := ⟨[], 0, 0, 0, if searches then 1 else 0, none, []⟩
    log := ⟨0, [], 0, [], [], 0, [], .outside, none, 0⟩ }

end OpenController
