import OpenController.DiagFrame
import OpenController.Lib.Reach
import OpenController.Rf

/-!
# The forensic record

`diag_dump.c`, and what the rest of the module writes of what it sends: the counters of `power_sleep.c` and `main.c`, which a watchdog
reset freezes so that the host can read what they were before, and the counters of the RF task. `DiagRun` is a run over any number
of resets.
-/

namespace OpenController

/-- The counters of `power_sleep.c` and `main.c` (`.diag_safe.power`). A watchdog reset keeps them. -/
structure PwrRecord where
  wfiCount : BitVec 32
  sleepAttempt : BitVec 16
  sleepEntered : BitVec 16
  sleepAborted : BitVec 16
  wakeGpio : BitVec 16
  wakeRtc : BitVec 16
  lastAbortReason : BitVec 8
  loopPasses : BitVec 16
  loopStage : BitVec 8
  deriving DecidableEq, Repr

/-- How a call of `pwr_sleep_until` ends: the caller is masked, the time left is out of bounds, the RX line or the RTC trigger vetoes,
or the module slept, and the RTC, the host or nothing woke it. -/
inductive SleepEnd where
  | masked
  | window
  | rxLine
  | late
  | rtc
  | gpio
  | spurious
  deriving DecidableEq, Repr

namespace PwrRecord

/-- All counters are zero. -/
def zero : PwrRecord := ⟨0, 0, 0, 0, 0, 0, 0, 0, 0⟩

/-- `PWR_ABORT`. -/
def abort (reason : BitVec 8) (r : PwrRecord) : PwrRecord := { r with lastAbortReason := reason, sleepAborted := r.sleepAborted + 1 }

/-- What `pwr_sleep_until` counts. -/
def sleepUntil (e : SleepEnd) (r : PwrRecord) : PwrRecord :=
  let r := { r with sleepAttempt := r.sleepAttempt + 1 }
  let entered := { r with sleepEntered := r.sleepEntered + 1 }
  match e with
  | .masked => r.abort 6
  | .window => r.abort 5
  | .rxLine => r.abort 7
  | .late => r.abort 6
  | .rtc => { entered with wakeRtc := r.wakeRtc + 1 }
  | .gpio => { entered with wakeGpio := r.wakeGpio + 1 }
  | .spurious => entered.abort 6

end PwrRecord

/-- The counters of the RF task that the dump sends. -/
structure RfCounters where
  bootCount : BitVec 32
  pairBcastCount : BitVec 32
  validRxCount : BitVec 32
  enteredConnectedCount : BitVec 32
  configCount : BitVec 32
  pairRxOffCount : BitVec 32
  lastConfigStatus : BitVec 8
  lastRxStatus : BitVec 8
  lastTxStatus : BitVec 8
  dropCount : BitVec 32
  hidRx : BitVec 32
  hidTx : BitVec 32
  hidRxDown : BitVec 32
  hidTxDown : BitVec 32
  hidTxDoneDown : BitVec 32
  hidFifoDrop : BitVec 32
  deriving DecidableEq, Repr

/-- All but the number of boots are zero. -/
def RfCounters.cleared (c : RfCounters) : RfCounters := ⟨c.bootCount, 0, 0, 0, 0, 0, 0, 0, 0, 0, 0, 0, 0, 0, 0, 0⟩

/-- What `fault_handler.S` writes. -/
structure FaultRecord where
  marker : BitVec 8
  mepc : BitVec 32
  mcause : BitVec 32
  mtval : BitVec 32
  deriving DecidableEq, Repr

/-- The state of the dump: `resetStatus` is what the startup code saved of R8_RESET_STATUS, and `frozen` is
`pwr_forensics_frozen`. Beside it, what no function reads: the record that a watchdog reset left and that has not been read out,
nor cleared, since; and the dumps that left the UART whole, each with that record if there was one. -/
structure Diag where
  rfState : RfState
  rf : RfCounters
  pwr : PwrRecord
  fault : FaultRecord
  resetStatus : BitVec 8
  frozen : Bool
  crash : Option PwrRecord
  dumps : List (Option PwrRecord × List Byte)
  deriving Repr

/-- `rf_state`, as a number. -/
def RfState.code : RfState → BitVec 8
  | .idle => 0
  | .pairing => 1
  | .connected => 2
  | .resting => 3

/-- The reset was one of the watchdog (RST_FLAG_WTR). -/
def watchdogReset (status : BitVec 8) : Bool := status &&& 7 == 2

namespace Diag

/-- What `DiagDump_Send` puts in the frame. -/
def snapshot (d : Diag) : DiagSnapshot where
  rfState := d.rfState.code
  llBootCount := d.rf.bootCount
  rfPairBcastCount := d.rf.pairBcastCount
  rfValidRxCount := d.rf.validRxCount
  enteredConnectedCount := d.rf.enteredConnectedCount
  rfConfigCount := d.rf.configCount
  pwrPairRxOffCount := d.rf.pairRxOffCount
  pwrWfiCount := d.pwr.wfiCount
  pwrSleepAttempt := d.pwr.sleepAttempt
  pwrSleepEntered := d.pwr.sleepEntered
  pwrSleepAborted := d.pwr.sleepAborted
  pwrWakeGpio := d.pwr.wakeGpio
  pwrWakeRtc := d.pwr.wakeRtc
  pwrLastAbortReason := d.pwr.lastAbortReason
  rfLastConfigStatus := d.rf.lastConfigStatus
  rfLastRxStatus := d.rf.lastRxStatus
  rfLastTxStatus := d.rf.lastTxStatus
  llDropCount := d.rf.dropCount
  bootResetStatus := d.resetStatus
  faultMarker := d.fault.marker
  faultMepc := d.fault.mepc
  faultMcause := d.fault.mcause
  faultMtval := d.fault.mtval
  pwrLoopPasses := d.pwr.loopPasses
  pwrLoopStage := d.pwr.loopStage
  llHidRx := d.rf.hidRx
  llHidTx := d.rf.hidTx
  llHidRxDown := d.rf.hidRxDown
  llHidTxDown := d.rf.hidTxDown
  llHidTxDoneDown := d.rf.hidTxDoneDown
  llHidFifoDrop := d.rf.hidFifoDrop

/-- The frame of `DiagDump_Send`. -/
def frame (d : Diag) : List Byte := if d.rfState = .connected then diagFrameFormatEmpty else diagFrameFormat d.snapshot

/-- `DiagDump_Send`, when `KeyboardUart_SendRaw` gets so many bytes out. -/
def diagDumpSend (sent : Nat) (d : Diag) : Diag :=
  if d.rfState ≠ .connected ∧ sent = d.frame.length then
    { d with frozen := false, crash := none, dumps := d.dumps ++ [(d.crash, d.frame)] }
  else d

/-- `DiagDump_Zero`. -/
def diagDumpZero (d : Diag) : Diag :=
  if d.rfState = .connected then d
  else { d with rf := d.rf.cleared, pwr := .zero, fault := ⟨0, 0, 0, 0⟩, frozen := false, crash := none }

/-- A reset, up to the main loop: the startup code saves its cause, `HAL_SleepInit` and `main` clear the counters of the power layer
or, after a watchdog reset, keep them, and `RF_TaskInit` clears its own. -/
def boot (status : BitVec 8) (d : Diag) : Diag :=
  { d with
    rfState := .idle
    rf := { d.rf.cleared with bootCount := d.rf.bootCount + 1 }
    resetStatus := status
    frozen := watchdogReset status
    pwr := if watchdogReset status then d.pwr else .zero
    crash := if watchdogReset status then some (d.crash.getD d.pwr) else none }

/-- A counter of the power layer, unless they are frozen (`PWR_DIAG_INC`, `PWR_ABORT`). -/
def count (f : PwrRecord → PwrRecord) (d : Diag) : Diag := if d.frozen then d else { d with pwr := f d.pwr }

end Diag

/-- What happens to the counters: a reset, with its cause; a statement of the RF task; the end of an idle wait, a pass of the main
loop, its stage, a veto of the idle callback, a call of `pwr_sleep_until`; a fault; and the commands of the host. -/
inductive DiagOp where
  | boot (status : BitVec 8)
  | rf (rfState : RfState) (rf : RfCounters)
  | wfi
  | loopPass
  | stage (n : BitVec 8)
  | veto (reason : BitVec 8)
  | sleepUntil (e : SleepEnd)
  | fault (record : FaultRecord)
  | send (sent : Nat)
  | zero

/-- The state after it. -/
def DiagOp.apply (op : DiagOp) (d : Diag) : Diag :=
  match op with
  | .boot status => d.boot status
  | .rf state counters => { d with rfState := state, rf := counters }
  | .wfi => d.count fun r => { r with wfiCount := r.wfiCount + 1 }
  | .loopPass => d.count fun r => { r with loopPasses := r.loopPasses + 1 }
  | .stage n => d.count fun r => { r with loopStage := n }
  | .veto reason => d.count (·.abort reason)
  | .sleepUntil e => d.count (·.sleepUntil e)
  | .fault record => { d with fault := record }
  | .send sent => d.diagDumpSend sent
  | .zero => d.diagDumpZero

/-- The module is powered on: what is in its memory is whatever it is, and nothing was dumped. -/
def DiagPowerOn (d : Diag) : Prop :=
  ∃ d₀ : Diag, ∃ status, watchdogReset status = false ∧ d = { d₀ with dumps := [] }.boot status

/-- The states of a run. -/
abbrev DiagRun : Diag → Prop := Reach DiagPowerOn fun (op : DiagOp) d d' => d' = op.apply d

/-- The counters of the power layer in a dump. -/
def DiagSnapshot.pwrRecord (s : DiagSnapshot) : PwrRecord :=
  ⟨s.pwrWfiCount, s.pwrSleepAttempt, s.pwrSleepEntered, s.pwrSleepAborted, s.pwrWakeGpio, s.pwrWakeRtc, s.pwrLastAbortReason,
    s.pwrLoopPasses, s.pwrLoopStage⟩

end OpenController
