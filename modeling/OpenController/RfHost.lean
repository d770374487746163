import OpenController.RfTask

/-!
# What the keyboard's processor asks of the RF task

The functions of `rf_task.c` that `handle_uart_frame` in `main.c` calls for the frames of the host, and the bootloader's and the
sleep service's way of taking the link down.
-/

namespace OpenController

/-- `RF_DropQueueUnlessReselected`. -/
def rfDropQueueUnlessReselected : RfM Unit := do
  rfStopTaskAtomic .discardHid
  rfStartTaskAtomic .discardHid kbdReselectKeepTicks

/-- A probe is not to end by itself any more: `rest_probe_wake = 1` and `rest_quiet_pending = 0`. -/
def wakeProbe : RfM Unit := do
  clearRest fun r => { r with probeWake := true }
  clearRest fun r => { r with quietPending := false }

/-- `RF_Select2G4` while connected: a probe is kept. -/
def keepProbe : RfM Bool := do
  let probe ← .read fun s => s.rest.probe
  whenever probe do
    wakeProbe
    restPromoteToNormal
  .read fun s => s.bond.hasBond

/-- `RF_Select2G4` otherwise: a bonded keyboard searches for its dongle. -/
def searchBonded : RfM Bool := do
  restCancel
  let hasBond ← .read fun s => s.bond.hasBond
  whenever hasBond do
    rfTmr0Stop
    rfShut
    rfStopTaskAtomic .enterConnected
    enterBondedSearch
  .read fun s => s.bond.hasBond

/-- `RF_Select2G4`, with what it returns. -/
def rfSelect2G4 : RfM Bool := do
  rfStopTaskAtomic .discardHid
  let valid ← .read fun s => s.keyboardMacValid
  if !valid then pure false
  else do
    let state ← .read fun s => s.state
    if state = .connected then keepProbe else searchBonded

/-- `RF_EnterPairing`, with what it returns. -/
def rfEnterPairing : RfM Bool := do
  let ignored ← .read fun s => !s.keyboardMacValid || decide (s.state = .connected)
  if ignored then pure false
  else do
    restCancel
    rfTmr0Stop
    rfShut
    rfStopTaskAtomic .enterConnected
    setPairing
    .modify fun s => { s with pair := { s.pair with flavor := .fresh } }
    setRxWindow true
    .modify fun s => { s with radio := { s.radio with accessAddr := rfDefaultAccessAddr } }
    .modify fun s => { s with radio := { s.radio with channel := pairChannels.getD 0 0 } }
    .modify fun s => { s with pair := { s.pair with bcastCount := 0 } }
    rfStopTaskAtomic .pairRxOff
    rfSetEventAtomic .pairBcast
    rfStartTaskAtomic .pairTimeout rfPairWindowTicks
    pure true

/-- `RF_Disconnect`. -/
def rfDisconnect : RfM Unit := do
  restCancel
  .modify fun s => { s with hid := { s.hid with lastQueuedValid := false } }
  rfTmr0Stop
  rfStopTaskAtomic .pairBcast
  rfStopTaskAtomic .pairTimeout
  rfStopTaskAtomic .pairRxOff
  rfStopTaskAtomic .enterConnected
  rfStopTaskAtomic .disconnect
  dropBondSave
  setState .idle
  rfShut

/-- `RF_FlushBondSave`. -/
def rfFlushBondSave : RfM Unit := do
  let pending ← .read fun s => s.bondSavePending
  whenever pending do
    .modify fun s => { s with bondSavePending := false }
    saveBond

/-- `rf_clear_bond_ram`. -/
def forgetBond : RfM Unit := do
  .modify fun s => { s with bond := { s.bond with hasBond := false }, log := { s.log with owed := none } }
  .modify fun s => { s with bond := { s.bond with storedSessionAa := rfClearBondRam.storedSessionAa } }
  .modify fun s => { s with bond := { s.bond with storedTypeTag := rfClearBondRam.storedTypeTag } }
  .modify fun s => { s with bond := { s.bond with storedDongleMac := rfClearBondRam.storedDongleMac } }

/-- `RF_ClearBond`. Its end is the same as the handler of `RF_EVT_DISCARD_HID`. -/
def rfClearBond : RfM Unit := do
  restCancel
  forgetBond
  .modify fun s => { s with bondSavePending := false }
  .modify fun s => { s with flash := eepromErase s.hw.eeprom s.flash }
  rfStopTaskAtomic .discardHid
  onDiscardHid

/-! ## Reports -/

/-- A report is written to a slot of the FIFO. -/
def RfHid.writeSlot (h : RfHid) (i : Nat) (r : Report) : RfHid := { h with fifo := Function.update h.fifo (i % hidFifoSlots) r }

/-- The part of `RF_QueueHIDReport` before the resting policy: a report that is news is queued, on a full FIFO in the place of the
newest one. -/
def queueReport (report : Report) : RfM Unit := do
  let changed ← .read fun s => !s.hid.lastQueuedValid || s.hid.lastQueued != report
  whenever changed do
    let room ← .read fun s => decide (s.hid.count < hidFifoSlots)
    if room then do
      .modify fun s => { s with hid := s.hid.writeSlot s.hid.tail report }
      .modify fun s => { s with
        hid := { s.hid with tail := u8 (s.hid.tail + 1) }
        log := { s.log with entered := s.log.entered ++ [report] } }
      .modify fun s => { s with hid := { s.hid with lastQueued := report } }
      .modify fun s => { s with hid := { s.hid with lastQueuedValid := true } }
    else do
      .modify fun s => { s with
        hid := s.hid.writeSlot (sub8 s.hid.tail 1) report
        log := { s.log with entered := s.log.entered.dropLast ++ [report] } }
      .modify fun s => { s with hid := { s.hid with lastQueued := report } }
      .modify fun s => { s with hid := { s.hid with lastQueuedValid := true } }

/-- The part of `RF_QueueHIDReport` that is the resting policy: a report wakes a link that rests. -/
def wakeRest : RfM Unit := do
  let state ← .read fun s => s.state
  if state = .resting then do
    clearRest fun r => { r with probeWake := true }
    rfStopTaskAtomic .restProbe
    rfStopTaskAtomic .restStage2
    restProbeStart
  else do
    let probe ← .read fun s => s.rest.probe
    if probe then do
      wakeProbe
      let state ← .read fun s => s.state
      whenever (state = .connected) restPromoteToNormal
    else do
      let state ← .read fun s => s.state
      whenever (state = .connected) restArmIdle

/-- `RF_QueueHIDReport`. -/
def rfQueueHIDReport (report : Report) : RfM Unit := do
  queueReport report
  wakeRest

/-- `RF_LedResync`. -/
def rfLedResync : RfM Unit := .modify fun s => { s with led := { s.led with lastLedSent := 0xFF } }

/-! ## The frames of the host -/

/-- `transport_is_2g4 = `. -/
def setTransport (is2g4 : Bool) : RfM Unit := .modify fun s => { s with transportIs2g4 := is2g4 }

/-- The commands of an A6 frame. -/
def handleCommand (sub : Byte) : RfM Unit :=
  if sub = 0x11 then do
    setTransport false
    rfDisconnect
    rfDropQueueUnlessReselected
    keyboardUartSendStatus 0x34
    keyboardUartSendStatus 0x36
  else if sub = 0x30 then do
    setTransport true
    let hasBond ← rfSelect2G4
    keyboardUartSendStatus 0x34
    keyboardUartSendStatus (if hasBond then 0x35 else 0x36)
  else if sub = 0x31 ∨ sub = 0x32 ∨ sub = 0x33 then do
    setTransport false
    rfDisconnect
    rfDropQueueUnlessReselected
    keyboardUartSendStatus 0x34
    keyboardUartSendStatus 0x36
    keyboardUartSendStatus 0x23
  else if sub = 0x51 then do
    let is2g4 ← .read fun s => s.transportIs2g4
    whenever is2g4 do
      let valid ← .read fun s => s.keyboardMacValid
      if !valid then keyboardUartSendStatus 0x36
      else do
        let entered ← rfEnterPairing
        if entered then do
          keyboardUartSendStatus 0x31
          keyboardUartSendStatus 0x23
        else keyboardUartSendStatus 0x32
  else if sub = 0x52 then do
    rfDisconnect
    rfClearBond
    keyboardUartSendStatus 0x33
  else if sub = 0x53 then keyboardUartSendBattery 100
  else if sub = 0x63 then do
    setTransport true
    let valid ← .read fun s => s.keyboardMacValid
    if !valid then keyboardUartSendStatus 0x36
    else do
      rfDisconnect
      rfClearBond
      let _ ← rfEnterPairing
      keyboardUartSendStatus 0x31
      keyboardUartSendStatus 0x23
  else pure ()

/-- `handle_uart_frame`, as far as it concerns the RF task. -/
def handleUartFrame (cmd sub : Byte) (payload : Report) : RfM Unit :=
  if cmd = 0xA1 then rfQueueHIDReport payload
  else if cmd = 0xA6 then handleCommand sub
  else pure ()

/-- The link is taken down before the bootloader (`OpenBoot_Service`) or a sleep (`Power_Service`). -/
def takeDown : RfM Unit := do
  rfFlushBondSave
  rfDisconnect

end OpenController
