import OpenController.RfCallback

/-!
# The radio, the turnaround timer and the resting policy

The helpers of `rf_task.c` that the handlers share. After `KBD_REST_IDLE_TICKS` without a report the link rests: the radio is off
but for a probe every `KBD_REST_PROBE_TICKS`, and the keyboard's processor is told nothing. After `KBD_REST_STAGE2_TICKS` the
probes stop too (stage 2). A report while resting starts a probe that becomes the session.
-/

namespace OpenController

/-- `rf_state = ` a state other than PAIRING and CONNECTED. -/
def setState (st : RfState) : RfM Unit := .modify fun s => { s with state := st }

/-- `rf_state = RF_STATE_PAIRING`. -/
def setPairing : RfM Unit :=
  .modify fun s => { s with state := .pairing, trace := { s.trace with pairEntries := s.trace.pairEntries + 1 } }

/-- `rf_state = RF_STATE_CONNECTED`. The radio is still on a pairing channel. -/
def setConnected (silentProbe : Bool) : RfM Unit :=
  .modify fun s => { s with
    state := .connected
    log := { s.log with
      sessions := s.log.sessions + 1
      stretch := .retune (dataChannels.getD s.hop.prevDataIdx 0)
      owed := if silentProbe then s.log.owed else some s.bond.storedDongleMac } }

/-- `response_pending = 0`. -/
def clearResponsePending : RfM Unit := .modify fun s => { s with resp := { s.resp with responsePending := false } }

/-- `pair_rx_open = ` and `pair_rx_off_armed = 0`. -/
def setRxWindow (isOpen : Bool) : RfM Unit := do
  .modify fun s => { s with pair := { s.pair with rxOpen := isOpen } }
  .modify fun s => { s with pair := { s.pair with rxOffArmed := false } }

/-- `rf_tmr0_stop`. -/
def rfTmr0Stop : RfM Unit := do
  .modify fun s => { s with tmr0 := { s.tmr0 with irqEnabled := false } }
  .modify fun s => { s with tmr0 := { s.tmr0 with counting := false } }
  .modify fun s => { s with tmr0 := { s.tmr0 with interEn := false } }
  .modify fun s => { s with tmr0 := { s.tmr0 with flag := false } }

/-- `PFIC_EnableIRQ(TMR0_IRQn)`. -/
def pficEnableTmr0 : RfM Unit := .modify fun s => { s with tmr0 := { s.tmr0 with irqEnabled := true } }

/-- `rf_configure`, with the status it returns. -/
def rfConfigure : RfM Nat := do
  let status ← .read fun s => s.hw.cfgStatus
  rfSetChannel
  pure status

/-- `rf_configure_if_needed`: the radio is configured anew when the access address changed, else only retuned. -/
def rfConfigureIfNeeded (accessAddress : Nat) : RfM Unit := do
  let needed ← .read fun s => !s.radio.configuredValid || s.radio.configuredAa != accessAddress
  if needed then do
    let status ← rfConfigure
    whenever (status = 0) do
      .modify fun s => { s with radio := { s.radio with configuredAa := accessAddress } }
      .modify fun s => { s with radio := { s.radio with configuredValid := true } }
  else rfSetChannel

/-- `rf_start_rx`: the channel is committed while the radio is shut. -/
def rfStartRx (channel : Nat) : RfM Unit := do
  rfShut
  .modify fun s => { s with radio := { s.radio with channel := channel } }
  let aa ← .read fun s => s.radio.accessAddr
  rfConfigureIfNeeded aa
  rfRx

/-! ## Resting -/

/-- The flags of the resting policy, cleared. -/
def clearRest (f : RfRest → RfRest) : RfM Unit := .modify fun s => { s with rest := f s.rest }

/-- `rest_cancel`. -/
def restCancel : RfM Unit := do
  rfStopTaskAtomic .restIdle
  rfStopTaskAtomic .restProbe
  rfStopTaskAtomic .restProbeTimeout
  rfStopTaskAtomic .restStage2
  clearRest fun r => { r with stage := 0 }
  clearRest fun r => { r with probe := false }
  clearRest fun r => { r with probeWake := false }
  clearRest fun r => { r with answers := 0 }
  clearRest fun r => { r with quietPending := false }

/-- `rest_arm_idle`: the inactivity timer starts anew. -/
def restArmIdle : RfM Unit := do
  let due ← .read fun s => decide (s.state = .connected) && !s.rest.probe
  whenever due do
    rfStopTaskAtomic .restIdle
    rfStartTaskAtomic .restIdle kbdRestIdleTicks

/-- `rest_go_quiet`: the radio is off, and nobody is told. -/
def restGoQuiet : RfM Unit := do
  rfTmr0Stop
  rfStopTaskAtomic .disconnect
  rfStopTaskAtomic .pairBcast
  rfStopTaskAtomic .pairRxOff
  rfStopTaskAtomic .pairTimeout
  rfStopTaskAtomic .enterConnected
  rfStopTaskAtomic .restProbeTimeout
  clearResponsePending
  .modify fun s => { s with supervisionKick := false }
  setRxWindow false
  clearRest fun r => { r with probe := false }
  clearRest fun r => { r with answers := 0 }
  clearRest fun r => { r with quietPending := false }
  clearRest fun r => { r with probeWake := false }
  setState .resting
  rfShut

/-- `rest_enter`. -/
def restEnter : RfM Unit := do
  .modify fun s => { s with trace := { s.trace with restEntries := s.trace.restEntries + 1 } }
  restGoQuiet
  clearRest fun r => { r with stage := 1 }
  rfStartTaskAtomic .restProbe kbdRestProbeTicks
  rfStartTaskAtomic .restStage2 kbdRestStage2Ticks

/-- The entry into a search for the bonded dongle, once the radio is shut and old catches are swept. -/
def enterBondedSearch : RfM Unit := do
  setPairing
  .modify fun s => { s with pair := { s.pair with flavor := .bonded } }
  setRxWindow true
  .modify fun s => { s with radio := { s.radio with accessAddr := s.bond.storedSessionAa } }
  .modify fun s => { s with radio := { s.radio with configuredValid := false } }
  .modify fun s => { s with radio := { s.radio with channel := pairChannels.getD 0 0 } }
  .modify fun s => { s with pair := { s.pair with bcastCount := 0 } }
  rfStopTaskAtomic .pairTimeout
  rfStopTaskAtomic .pairRxOff
  rfSetEventAtomic .pairBcast

/-- `rest_probe_start`: one bonded reconnect, flagged as a probe. -/
def restProbeStart : RfM Unit := do
  let able ← .read fun s => s.bond.hasBond && s.keyboardMacValid
  if !able then do
    restCancel
    setState .idle
    rfShut
  else do
    clearRest fun r => { r with probe := true }
    clearRest fun r => { r with answers := 0 }
    clearRest fun r => { r with quietPending := false }
    rfTmr0Stop
    rfShut
    rfStopTaskAtomic .enterConnected
    enterBondedSearch
    rfStopTaskAtomic .restProbeTimeout
    rfStartTaskAtomic .restProbeTimeout kbdRestProbeTimeoutTicks

/-- `rest_probe_end`. The stage and the cadence timer are left as they are. -/
def restProbeEnd (caught : Bool) : RfM Unit := do
  .modify fun s => { s with trace :=
    if caught then { s.trace with restProbeCatches := s.trace.restProbeCatches + 1 }
    else { s.trace with restProbeMisses := s.trace.restProbeMisses + 1 } }
  restGoQuiet

/-- `rest_promote_to_normal`: a probe becomes the session. -/
def restPromoteToNormal : RfM Unit := do
  rfStopTaskAtomic .restProbe
  rfStopTaskAtomic .restProbeTimeout
  rfStopTaskAtomic .restStage2
  clearRest fun r => { r with stage := 0 }
  clearRest fun r => { r with probe := false }
  clearRest fun r => { r with probeWake := false }
  clearRest fun r => { r with answers := 0 }
  clearRest fun r => { r with quietPending := false }
  rfStopTaskAtomic .disconnect
  rfStartTaskAtomic .disconnect rfConnectedTimeoutTicks
  restArmIdle

end OpenController
