import OpenController.SleepProtocol

/-!
# Deep sleep

The state of `power_sleep.c` and `pwr_sleep_until`, the only place where the module goes to a deep sleep. The constants are the
SDK's.
-/

namespace OpenController

/-- What the SDK and the board define: the period of the RTC and its frequency, the bounds of a sleep, `MS_TO_RTC`, and whether
the module wakes its host (`KBD_HOST_WAKE`). -/
structure Board where
  rtcMaxCount : Nat
  freqRtc : Nat
  wakeUpRtcMaxTime : Nat
  sleepRtcMinTime : Nat
  sleepRtcMaxTime : Nat
  msToRtc : Nat → Nat
  hostWake : Bool

/-- `PWR_RTC32K_BACKSTEP_TOLERANCE`. -/
def pwrRtc32kBackstepTolerance : Nat := 1024

/-- `KBD_AUTOSLEEP_HOLDOFF_MS`. -/
def kbdAutosleepHoldoffMs : Nat := 100

/-- `pwr_rtc_sub`. -/
def pwrRtcSub (board : Board) (base ticks : Nat) : Nat :=
  if base ≥ ticks then base - ticks else u32 (base + sub32 board.rtcMaxCount ticks)

/-- The state of `power_sleep.c`. -/
structure PowerSleep where
  autosleep : Bool
  gpioWoke : Bool
  explicitRequest : Bool
  holdoffStart : Nat
  holdoffActive : Bool
  deriving DecidableEq, Repr

/-- What the hardware and the UART answer while a sleep is tried: whether the caller is masked, whether something that would wake
the module is asserted before (and an edge on the RX pin with it), and the end of the sleep: what woke the module, when, and
whether an edge on the RX pin came before the wake was disarmed. -/
structure SleepView where
  masked : Bool
  wakeAsserted : Bool
  trigAsserted : Bool
  rtcTrig : Bool
  hostEdge : Bool
  wakeRtc : Nat
  lateEdge : Bool
  deriving DecidableEq, Repr

namespace PowerSleep

/-- `pwr_note_activity`. -/
def noteActivity (rtc : Nat) (p : PowerSleep) : PowerSleep := { p with holdoffStart := rtc, holdoffActive := true }

/-- `PowerSleep_SetAutosleep`. -/
def setAutosleep (on : Bool) (rtc : Nat) (p : PowerSleep) : PowerSleep :=
  { (if on && !p.autosleep then p.noteActivity rtc else p) with autosleep := on }

/-- `PowerSleep_RequestExplicit`. -/
def requestExplicit (p : PowerSleep) : PowerSleep := { p with explicitRequest := true }

/-- `PowerSleep_CancelExplicit`. -/
def cancelExplicit (p : PowerSleep) : PowerSleep := { p with explicitRequest := false }

/-- `pwr_gpio_wake_disarm`. -/
def gpioWakeDisarm (edge : Bool) (p : PowerSleep) : PowerSleep := { p with gpioWoke := p.gpioWoke || edge }

/-- The deep sleep itself, and the reason of the wake. -/
def slept (view : SleepView) (p : PowerSleep) : PowerSleep :=
  let p := { p with gpioWoke := view.hostEdge }
  (if !view.rtcTrig && view.hostEdge then p.noteActivity view.wakeRtc else p).gpioWakeDisarm view.lateEdge

/-- `pwr_sleep_until`: 0 when the module slept, 2 when the time left is out of bounds, 3 when the sleep was vetoed. -/
def sleepUntil (board : Board) (time rtc : Nat) (view : SleepView) (p : PowerSleep) : Nat × PowerSleep :=
  let time := pwrRtcSub board time board.wakeUpRtcMaxTime
  if view.masked then (3, p)
  else
    let timeSleep := if time < rtc then u32 (time + sub32 board.rtcMaxCount rtc) else time - rtc
    if timeSleep < board.sleepRtcMinTime ∨ timeSleep > board.sleepRtcMaxTime then (2, p)
    else
      let p := { p with gpioWoke := false }
      if view.wakeAsserted || view.trigAsserted then (3, p.gpioWakeDisarm view.lateEdge)
      else (0, p.slept view)

end PowerSleep

end OpenController
