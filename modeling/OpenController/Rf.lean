import OpenController.Bond
import OpenController.Rtc
import OpenController.Tmos
import OpenController.Lib.Prog

/-!
# The state of the RF task

The variables of `rf_task.c`, in groups, the parts of the hardware they depend on, and a trace of what a run did. The main-loop
functions are programs (`RfM`) whose statements an interrupt can run between; a section with interrupts masked is one statement.
-/

namespace OpenController

/-- A keyboard report. -/
abbrev Report := Vector Byte 8

/-- The report holds a key or a modifier. -/
def Report.down (r : Report) : Bool := r.any (· ≠ 0)

/-- `rf_state`. -/
inductive RfState where
  | idle
  | pairing
  | connected
  | resting
  deriving DecidableEq, Repr

/-- `pair_flavor`: a pairing the user asked for, or the search for the bonded dongle. -/
inductive PairFlavor where
  | fresh
  | bonded
  deriving DecidableEq, Repr

/-- The parameters a caught packet offers (`pending_`). -/
structure RfPending where
  typeTag : Byte
  interval : Nat
  sessionAa : Nat
  anchor : Nat
  deriving DecidableEq, Repr

/-- The report FIFO. The indices run free in a byte; `fifo` is read below its sixteen slots. -/
structure RfHid where
  fifo : Nat → Report
  head : Nat
  tail : Nat
  headSent : Bool
  lastQueued : Report
  lastQueuedValid : Bool
  txDownInflight : Bool

/-- The connected hop: the interval, the channel index, the phase anchor, the slots since the last poll, and whether the radio is
parked until the first one. -/
structure RfHop where
  connInterval : Nat
  prevDataIdx : Nat
  hopAnchor : Nat
  sinceRx : Nat
  provisional : Bool
  deriving DecidableEq, Repr

/-- The response latch, and the control byte of the session. -/
structure RfResp where
  txCtrl : Byte
  responseChannel : Nat
  responseCtrl : Byte
  responsePending : Bool
  responseArmedRtc : Nat
  deriving DecidableEq, Repr

/-- The resting policy (`rest_`). -/
structure RfRest where
  stage : Nat
  probe : Bool
  probeWake : Bool
  answers : Nat
  quietPending : Bool
  deriving DecidableEq, Repr

/-- The search for a dongle (`pair_`). -/
structure RfPair where
  flavor : PairFlavor
  rxOpen : Bool
  rxOffArmed : Bool
  bcastCount : Nat
  deriving DecidableEq, Repr

/-- The turnaround timer: its interrupt line, whether it counts, its interrupt enable and flag. -/
structure Tmr0 where
  irqEnabled : Bool
  counting : Bool
  interEn : Bool
  flag : Bool
  deriving DecidableEq, Repr

/-- A frame that started on the air: the channel the radio was tuned to, and the bytes. -/
structure AirFrame where
  channel : Nat
  payload : List Byte
  deriving DecidableEq, Repr

/-- The radio: shut or live, whether it listens, the channel last set on it and `rf_channel`, the access addresses, and what it
has sent. -/
structure RfRadio where
  shut : Bool
  receiving : Bool
  tuned : Nat
  channel : Nat
  accessAddr : Nat
  configuredAa : Nat
  configuredValid : Bool
  onAir : List AirFrame
  deriving DecidableEq, Repr

/-- The LED relay. -/
structure RfLed where
  pendingLed : Byte
  lastLedSent : Byte
  deriving DecidableEq, Repr

/-- What the hardware answers: the RTC counter, and the statuses of the radio and flash calls, 0 for success. -/
structure RfHw where
  rtc : Nat
  txStatus : Nat
  cfgStatus : Nat
  eeprom : EepromStatus
  deriving DecidableEq, Repr

/-- What goes to the keyboard's processor: a status (`5B`), an LED state (`5A`), a battery level (`5C`). -/
inductive UartOut where
  | status (b : Byte)
  | led (b : Byte)
  | battery (b : Byte)
  deriving DecidableEq, Repr

/-- A packet that offered a session: the entry into PAIRING it came after, its length, its sender, and what it offered. -/
structure Catch where
  entry : Nat
  len : Nat
  mac : Mac
  offer : RfPending
  deriving DecidableEq, Repr

/-- What a connection took of an offer: the entry into PAIRING at that time, the stored address, the pending values, and the
packet they came from. -/
structure CatchUse where
  entry : Nat
  bond : Bond
  pending : RfPending
  caught : Option Catch
  deriving DecidableEq, Repr

/-- An entry of the FIFO that was sent or retired: the session, how many entries had left the FIFO before it, and the report. -/
structure HidFrame where
  session : Nat
  entry : Nat
  report : Report
  deriving DecidableEq, Repr

/-- A response that went out: the channel the radio was tuned to, `response_channel`, and the channel the radio was tuned to when
the poll was caught. -/
structure Answer where
  tuned : Nat
  responseChannel : Nat
  caughtOn : Nat
  deriving DecidableEq, Repr

/-- A stretch of the main loop in which a packet would find the radio live: `selected` from the choice of a response's report to
`RF_Shut`; in `RF_ConnectedTick`, `looked` from the first look at `response_pending` to the masked section, `hopped` from there to the
second look; `retune` from the last look to `RF_Shut`, with the channel the radio is about to go to. -/
inductive RfStretch where
  | outside
  | selected
  | looked
  | hopped
  | retune (target : Nat)
  deriving DecidableEq, Repr

/-- What is remembered of a run. No function reads it: what went to the keyboard's processor, how often the link rested and a
probe ended, the entries into PAIRING, the packet the pending values came from, and what connections took of them. -/
structure RfTrace where
  uart : List UartOut
  restEntries : Nat
  restProbeCatches : Nat
  restProbeMisses : Nat
  pairEntries : Nat
  caught : Option Catch
  uses : List CatchUse
  deriving DecidableEq, Repr

/-- What is remembered of the sessions of a run. No function reads it either. -/
structure RfLog where
  /-- The connections made. -/
  sessions : Nat
  /-- The reports that entered the FIFO, and how many entries have left it. -/
  entered : List Report
  passed : Nat
  /-- The entries that `RF_Tx` started to send, and those that an acknowledgement retired. -/
  started : List HidFrame
  retired : List HidFrame
  /-- Where the last poll was caught, and the responses that went out. -/
  caughtOn : Nat
  answers : List Answer
  stretch : RfStretch
  /-- The dongle of a session whose bond was not saved yet, and how often a teardown gave up a save. -/
  owed : Option Mac
  savesDropped : Nat
  deriving DecidableEq, Repr

/-- The state of the RF task. -/
structure Rf where
  state : RfState
  bond : Bond
  pending : RfPending
  hid : RfHid
  hop : RfHop
  resp : RfResp
  rest : RfRest
  pair : RfPair
  tmos : Tmos
  tmr0 : Tmr0
  radio : RfRadio
  led : RfLed
  flash : Nat → Byte
  supervisionKick : Bool
  bondSavePending : Bool
  rssi : Byte
  keyboardMac : Mac
  keyboardMacValid : Bool
  transportIs2g4 : Bool
  hw : RfHw
  trace : RfTrace
  log : RfLog

/-- A main-loop function of the RF task. -/
abbrev RfM := Prog Rf

/-- The three pairing channels. -/
def pairChannels : List Nat := [8, 17, 26]

/-- The five data channels. -/
def dataChannels : List Nat := [4, 13, 20, 28, 33]

/-- `NUM_PAIR_CHANNELS`. -/
def numPairChannels : Nat := 3

/-- `NUM_DATA_CHANNELS`, and `RF_HOP_MAX_STEP`. -/
def numDataChannels : Nat := 5

/-- `RF_PAIR_INTERVAL`. -/
def rfPairInterval : Nat := 28

/-- `RF_PAIR_TIMEOUT_VALUE`. -/
def rfPairTimeoutValue : Nat := 600

/-- `RF_PAIR_BCAST_TICKS`. -/
def rfPairBcastTicks : Nat := 32

/-- `RF_PAIR_WINDOW_TICKS`. -/
def rfPairWindowTicks : Nat := 8480

/-- `RF_PAIR_DWELL_BCASTS`. -/
def rfPairDwellBcasts : Nat := 12

/-- `KBD_PAIR_RX_WINDOW_TICKS`. -/
def kbdPairRxWindowTicks : Nat := 6

/-- `RF_CONNECTED_TIMEOUT_TICKS`. -/
def rfConnectedTimeoutTicks : Nat := 5000

/-- `KBD_RESELECT_KEEP_TICKS`. -/
def kbdReselectKeepTicks : Nat := 800

/-- `KBD_REST_IDLE_TICKS`. -/
def kbdRestIdleTicks : Nat := 4800

/-- `KBD_REST_PROBE_TICKS`. -/
def kbdRestProbeTicks : Nat := 1616

/-- `KBD_REST_PROBE_ANSWERS`. -/
def kbdRestProbeAnswers : Nat := 2

/-- `KBD_REST_PROBE_TIMEOUT_TICKS`. -/
def kbdRestProbeTimeoutTicks : Nat := 640

/-- `KBD_REST_STAGE2_TICKS`. -/
def kbdRestStage2Ticks : Nat := 2880000

/-- `KBD_REST_IDLE_RETRY_TICKS`. -/
def kbdRestIdleRetryTicks : Nat := 160

/-- `RF_POLL_BACKDATE_BASE`. -/
def rfPollBackdateBase : Nat := 12

/-- `RF_HOP_ANCHOR_BACKDATE`. -/
def rfHopAnchorBackdate : Nat := rfPollBackdateBase + 1

/-- `RF_HOP_DESYNC_INTERVALS`. -/
def rfHopDesyncIntervals : Nat := 64

/-- `HID_FIFO_SLOTS`. -/
def hidFifoSlots : Nat := 16

/-! ## The calls of TMOS, the radio and the host link -/

/-- `rf_set_event_atomic`, in an interrupt. -/
def Rf.setEvent (s : Rf) (e : RfEvt) : Rf := { s with tmos := s.tmos.setEvent e }

/-- `rf_set_event_atomic`. -/
def rfSetEventAtomic (e : RfEvt) : RfM Unit := .modify fun s => s.setEvent e

/-- `rf_start_task_atomic`. -/
def rfStartTaskAtomic (e : RfEvt) (ticks : Nat) : RfM Unit := .modify fun s => { s with tmos := s.tmos.startTask e ticks }

/-- `rf_stop_task_atomic`. -/
def rfStopTaskAtomic (e : RfEvt) : RfM Unit := .modify fun s => { s with tmos := s.tmos.stopTask e }

/-- `RF_Shut`. -/
def rfShut : RfM Unit :=
  .modify fun s => { s with
    radio := { s.radio with shut := true, receiving := false }
    log := { s.log with stretch := .outside } }

/-- `RF_Rx`: the radio listens on the channel it is tuned to. -/
def rfRx : RfM Unit := .modify fun s => { s with radio := { s.radio with shut := false, receiving := true } }

/-- `RF_SetChannel`. -/
def rfSetChannel : RfM Unit := .modify fun s => { s with radio := { s.radio with tuned := s.radio.channel } }

/-- The radio after a call that starts a transmission. -/
def RfRadio.tx (r : RfRadio) (status : Nat) (payload : List Byte) : RfRadio :=
  { r with shut := false, receiving := false, onAir := if status = 0 then r.onAir ++ [⟨r.tuned, payload⟩] else r.onAir }

/-- `RF_Tx`, with the status it returns. -/
def rfTx (payload : List Byte) : RfM Nat :=
  .stmt (fun s => { s with radio := s.radio.tx s.hw.txStatus payload }) fun s => pure s.hw.txStatus

/-- What goes to the keyboard's processor. -/
def Rf.out (s : Rf) (o : UartOut) : Rf := { s with trace := { s.trace with uart := s.trace.uart ++ [o] } }

/-- `KeyboardUart_SendStatus`. -/
def keyboardUartSendStatus (b : Byte) : RfM Unit := .modify fun s => s.out (.status b)

/-- `KeyboardUart_SendLed`. -/
def keyboardUartSendLed (b : Byte) : RfM Unit := .modify fun s => s.out (.led b)

/-- `KeyboardUart_SendBattery`. -/
def keyboardUartSendBattery (b : Byte) : RfM Unit := .modify fun s => s.out (.battery b)

/-- The statements of a branch that is taken when a condition holds. -/
def whenever (c : Prop) [Decidable c] (p : RfM Unit) : RfM Unit := if c then p else pure ()

/-- The FIFO is empty. -/
def RfHid.isEmpty (h : RfHid) : Bool := h.tail == h.head

/-- How many reports are queued: `(uint8_t)(hid_fifo_tail - hid_fifo_head)`. -/
def RfHid.count (h : RfHid) : Nat := sub8 h.tail h.head

/-- The entry at the head of the FIFO. -/
def RfHid.headReport (h : RfHid) : Report := h.fifo (h.head % hidFifoSlots)

/-- The entry queued last, if there is one. -/
def RfHid.newest (h : RfHid) : Option Report := if h.tail ≠ h.head then some (h.fifo (sub8 h.tail 1 % hidFifoSlots)) else none

/-- `hid_key_held`. -/
def RfHid.keyHeld (h : RfHid) : Bool := h.lastQueuedValid && h.lastQueued.down

end OpenController
