import OpenController.Lib.Prog
import OpenController.Lib.Reach
import OpenController.PowerSleep
import OpenController.UartRing

/-!
# The activity holdoff

What decides whether the module goes to a deep sleep of its own accord: the receive path of the UART with the latch of its handler,
the frames of the host, and the power layer. The handler may run between any two statements that are not masked. The RTC counts
`time`, and shows it modulo its period. When the host was last active is remembered beside the state.
-/

namespace OpenController

/-- What the host does that puts auto-sleep off: a byte that is taken from the UART, a frame that is accepted (one that reaches
`handle_uart_frame`), a wake, the arming of auto-sleep. -/
inductive HostActivity where
  | byte
  | frame
  | wake
  | arming
  deriving DecidableEq, Repr

/-- A deep sleep of auto-sleep as it begins: when, whether auto-sleep is armed, when the host was last active, and the bytes
received that are in the ring and in the parser. -/
structure AutoEntry where
  time : Nat
  autosleep : Bool
  last : HostActivity → Option Nat
  ring : List Byte
  held : List Byte

/-- The state of `keyboard_uart.c`, `power_sleep.c` and `main.c` that is about it. `rxActivity` is `rx_activity_latch`, and `masked`
whether interrupts are. No function reads `last`, when each activity was last, and `entries`, the deep sleeps of auto-sleep. -/
structure Holdoff where
  time : Nat
  masked : Bool
  rx : UartRx Byte
  rxActivity : Bool
  sleepProto : SleepProto
  openbootEntryPending : Bool
  pwr : PowerSleep
  last : HostActivity → Option Nat
  entries : List AutoEntry

/-- What the hardware and the rest of the module answer during an idle callback: whether nothing is left to send, whether the RF
task is idle or lets the module sleep (`RF_CanDeepSleep`); whether the RX pin, its edge flag or the hardware's FIFO shows a byte,
and the RTC's trigger has come, before the sleep, with an edge before the wake is disarmed (`vetoEdge`); and the end of the sleep:
what woke the module, and whether an edge came before the wake was disarmed. -/
structure IdleView where
  txIdle : Bool
  rfIdle : Bool
  rfCanDeepSleep : Bool
  rxAsserted : Bool
  trigAsserted : Bool
  vetoEdge : Bool
  rtcTrig : Bool
  hostEdge : Bool
  lateEdge : Bool
  deriving DecidableEq, Repr

/-- A function of the main loop. -/
abbrev HoldoffM := Prog Holdoff

namespace Holdoff

variable (board : Board)

/-- `RTC_GetCycle32k`. -/
def rtcGetCycle32k (h : Holdoff) : Nat := h.time % board.rtcMaxCount

/-- The host is active now. -/
def mark (a : HostActivity) (h : Holdoff) : Holdoff := { h with last := Function.update h.last a (some h.time) }

/-! ## The UART -/

/-- `UART1_IRQHandler`, with the latch that each byte sets (`RX_NOTE_ACTIVITY`). -/
def uart1IRQHandler (overErr : Bool) (fifo : List Byte) (h : Holdoff) : Holdoff :=
  let h := { h with rx := h.rx.uart1IRQHandler overErr fifo }
  if fifo = [] then h else { h.mark .byte with rxActivity := true }

/-- `KeyboardUart_RxQuiet`: the ring and the parser are empty, and no byte was lost. -/
def keyboardUartRxQuiet (h : Holdoff) : Bool :=
  decide (h.rx.tail = h.rx.head) && decide (h.rx.parser.buf = []) && !h.rx.overrunLatch

/-- `KeyboardUart_TakeRxActivity`. -/
def keyboardUartTakeRxActivity : HoldoffM Bool := do
  let v ← .read fun h => h.rxActivity
  if v then do
    .modify fun h => { h with rxActivity := false }
    pure v
  else pure v

/-! ## The frames of the host -/

/-- `pwr_note_activity`. -/
def pwrNoteActivity : HoldoffM Unit := .modify fun h => { h with pwr := h.pwr.noteActivity (h.rtcGetCycle32k board) }

/-- `PowerSleep_SetAutosleep`, with what the reducer says. -/
def powerSleepSetAutosleep : HoldoffM Unit := .modify fun h =>
  { (if h.sleepProto.autosleep && !h.pwr.autosleep then h.mark .arming else h) with
    pwr := h.pwr.setAutosleep h.sleepProto.autosleep (h.rtcGetCycle32k board) }

/-- `handle_uart_frame`: the sleep protocol, and the latch of `A6 81`. What else it does is not about sleep. -/
def handleUartFrame (cmd sub : Byte) : HoldoffM Unit := do
  .modify fun h => { h.mark .frame with sleepProto := (h.sleepProto.onFrame cmd sub h.openbootEntryPending).1 }
  powerSleepSetAutosleep board
  pwrNoteActivity board
  .modify fun h => if sleepProtocolIsStateChanging cmd sub then { h with pwr := h.pwr.cancelExplicit } else h
  .modify fun h => if cmd = 0xA6 ∧ sub = 0x81 then { h with openbootEntryPending := true } else h

/-- `dispatch_frame`. An ACK of the host does not reach `handle_uart_frame`. -/
def dispatchFrame (frame : List Byte) : HoldoffM Unit :=
  let cmd := frame.getD 0 0
  if cmd = 0xA6 ∨ cmd = 0xA9 then handleUartFrame board cmd (frame.getD 1 0)
  else if cmd = 0xA1 then handleUartFrame board cmd 0
  else pure ()

/-- The frames of a byte, one after the other. -/
def dispatchFrames : List (List Byte) → HoldoffM Unit
  | [] => pure ()
  | frame :: frames => do
    dispatchFrame board frame
    dispatchFrames frames

/-- `KeyboardUart_Poll`, for at most as many rounds of its loop. -/
def keyboardUartPoll : Nat → HoldoffM Unit
  | 0 => pure ()
  | rounds + 1 => do
    let overrun ← .read fun h => h.rx.overrunLatch
    if overrun then do
      .modify fun h => { h with rx := h.rx.discard }
      .modify fun h => { h with rx := h.rx.resetParser }
      keyboardUartPoll rounds
    else do
      let empty ← .read fun h => decide (h.rx.tail = h.rx.head)
      if empty then pure ()
      else do
        let frames ← .stmt (fun h => { h with rx := (h.rx.feedTail id).1 }) fun h => pure (h.rx.feedTail id).2
        dispatchFrames board frames
        .modify fun h => { h with rx := h.rx.advance }
        keyboardUartPoll rounds

/-! ## Sleep -/

/-- `pwr_holdoff_expired`. -/
def pwrHoldoffExpired : HoldoffM Bool := do
  let active ← keyboardUartTakeRxActivity
  if active then do
    pwrNoteActivity board
    pure false
  else do
    let holdoffActive ← .read fun h => h.pwr.holdoffActive
    if !holdoffActive then pure true
    else do
      let elapsed ← .read fun h => sleepProtocolElapsedTicks (h.rtcGetCycle32k board) h.pwr.holdoffStart board.rtcMaxCount
        pwrRtc32kBackstepTolerance
      if elapsed ≥ board.msToRtc kbdAutosleepHoldoffMs then do
        .modify fun h => { h with pwr := { h.pwr with holdoffActive := false } }
        pure true
      else pure false

/-- `pwr_irq_save`: whether interrupts were masked already. -/
def pwrIrqSave : HoldoffM Bool := .stmt (fun h => { h with masked := true }) fun h => pure h.masked

/-- `pwr_irq_restore`. -/
def pwrIrqRestore (masked : Bool) : HoldoffM Unit := .modify fun h => { h with masked := masked }

/-- The deep sleep begins: one of auto-sleep is remembered. -/
def enter (auto : Bool) (h : Holdoff) : Holdoff :=
  if auto then { h with entries := h.entries ++ [⟨h.time, h.pwr.autosleep, h.last, h.rx.bytes, h.rx.parser.buf⟩] } else h

/-- An edge of the host that `pwr_gpio_woke` latches. The first one of a sleep is the host's wake. -/
def hostEdge (edge : Bool) (h : Holdoff) : Holdoff :=
  { (if edge && !h.pwr.gpioWoke then h.mark .wake else h) with pwr := h.pwr.gpioWakeDisarm edge }

/-- A sleep that does not begin: the wakes are disarmed. -/
def pwrVeto (masked : Bool) (view : IdleView) : HoldoffM Nat := do
  .modify fun h => { h with pwr := h.pwr.gpioWakeDisarm view.vetoEdge }
  pwrIrqRestore masked
  pure 3

/-- The reason of the wake: a wake by the host starts the holdoff, but with the RTC's trigger it is taken for the deadline. -/
def pwrWakeReason (rtcTrig woke : Bool) : HoldoffM Unit := if !rtcTrig && woke then pwrNoteActivity board else pure ()

/-- The sleep of `pwr_sleep_until` from its begin to the return, with the handler of the GPIO. -/
def pwrSlept (auto masked : Bool) (view : IdleView) : HoldoffM Nat := do
  .modify (enter auto)
  pwrIrqRestore masked
  .modify (hostEdge view.hostEdge)
  let masked ← pwrIrqSave
  let woke ← .read fun h => h.pwr.gpioWoke
  pwrWakeReason board view.rtcTrig woke
  .modify (hostEdge view.lateEdge)
  pwrIrqRestore masked
  pure 0

/-- `pwr_sleep_until`: 0 when the module slept, 2 when the time left is out of bounds, 3 when the sleep was vetoed. -/
def pwrSleepUntil (auto : Bool) (time : Nat) (view : IdleView) : HoldoffM Nat := do
  let time := pwrRtcSub board time board.wakeUpRtcMaxTime
  let masked ← pwrIrqSave
  if masked then do
    pwrIrqRestore masked
    pure 3
  else do
    let rtc ← .read fun h => h.rtcGetCycle32k board
    let timeSleep := if time < rtc then u32 (time + sub32 board.rtcMaxCount rtc) else time - rtc
    if timeSleep < board.sleepRtcMinTime ∨ timeSleep > board.sleepRtcMaxTime then do
      pwrIrqRestore masked
      pure 2
    else do
      .modify fun h => { h with pwr := { h.pwr with gpioWoke := false } }
      let quiet ← .read fun h => h.keyboardUartRxQuiet && !h.pwr.gpioWoke
      if view.rxAsserted || !quiet then pwrVeto masked view
      else if view.trigAsserted then pwrVeto masked view
      else pwrSlept board auto masked view

/-- The part of `CH59x_LowPower` for an explicit request: it is done once the host woke the module. -/
def explicitSleep (time : Nat) (view : IdleView) : HoldoffM Nat := do
  let ready ← .read fun h => view.rfIdle && !h.openbootEntryPending && view.txIdle && h.keyboardUartRxQuiet
  if !ready then pure 3
  else do
    let rc ← pwrSleepUntil board false time view
    let woke ← .read fun h => h.pwr.gpioWoke
    if rc = 0 ∧ woke then do
      .modify fun h => { h with pwr := h.pwr.cancelExplicit }
      pure rc
    else pure rc

/-- The rest of `CH59x_LowPower`: auto-sleep. -/
def autoSleep (time : Nat) (view : IdleView) : HoldoffM Nat := do
  let autosleep ← .read fun h => h.pwr.autosleep
  if !autosleep then pure 3
  else do
    let openboot ← .read fun h => h.openbootEntryPending
    if openboot then pure 3
    else do
      let expired ← pwrHoldoffExpired board
      if !expired then pure 3
      else if !view.txIdle then pure 3
      else do
        let quiet ← .read fun h => h.keyboardUartRxQuiet
        if !quiet then pure 3
        else if !view.rfIdle && !view.rfCanDeepSleep then pure 3
        else pwrSleepUntil board true time view

/-- `CH59x_LowPower`, with TMOS's next deadline. -/
def ch59xLowPower (time : Nat) (view : IdleView) : HoldoffM Nat := do
  let explicitRequest ← .read fun h => h.pwr.explicitRequest
  if explicitRequest then explicitSleep board time view else autoSleep board time view

/-! ## Runs -/

/-- What can happen between two statements: time passes, or the UART interrupts, if it may. -/
inductive Interrupt : Holdoff → Holdoff → Prop where
  | tick (h : Holdoff) (ticks : Nat) : Interrupt h { h with time := h.time + ticks }
  | uart1 (h : Holdoff) (overErr : Bool) (fifo : List Byte) (hm : h.masked = false) : Interrupt h (h.uart1IRQHandler overErr fifo)

/-- A step of the main loop: the poll, the idle callback, what `Power_Service` does to a request to sleep, or anything else. -/
inductive Call where
  | poll (rounds : Nat)
  | lowPower (time : Nat) (view : IdleView)
  | clearSleepPending
  | requestExplicit
  | other

/-- The statements of a step. -/
def Call.program : Call → HoldoffM Unit
  | .poll rounds => keyboardUartPoll board rounds
  | .lowPower time view => do
    let _ ← ch59xLowPower board time view
    pure ()
  | .clearSleepPending => .modify fun h => { h with sleepProto := { h.sleepProto with sleepPending := false } }
  | .requestExplicit => .modify fun h => { h with pwr := h.pwr.requestExplicit }
  | .other => pure ()

/-- The module starts. -/
def init (time : Nat) : Holdoff where
  time := time
  masked := false
  rx := ⟨fun _ => 0, 0, 0, false, .reset⟩
  rxActivity := false
  sleepProto := .reset
  openbootEntryPending := false
  pwr := ⟨false, false, false, 0, false⟩
  last := fun _ => none
  entries := []

/-- The states between the steps of a main loop, when every step meets a condition. -/
abbrev Reached (ok : Call → Prop) : Holdoff → Prop :=
  Reach (fun h => ∃ time, h = init time) fun (call : Call) h t => ok call ∧ Prog.Runs Interrupt (call.program board) h () t

/-! ## Undisturbed runs -/

/-- What happens in an undisturbed run: a step of the main loop, time, or bytes that the handler takes. -/
inductive Input where
  | call (c : Call)
  | tick (ticks : Nat)
  | bytes (fifo : List Byte)

/-- The step. -/
def Input.step : Input → Call
  | .call c => c
  | _ => .other

/-- The state after it. -/
def Input.apply (h : Holdoff) : Input → Holdoff
  | .call c => (c.program board).exec h
  | .tick ticks => { h with time := h.time + ticks }
  | .bytes fifo => h.uart1IRQHandler false fifo

/-- A run, every step of which meets a condition. Interrupts are not masked when it starts, and not at the end of a step. -/
def Plays (ok : Call → Prop) : List Input → Holdoff → Prop
  | [], _ => True
  | i :: is, h => (ok i.step ∧ h.masked = false) ∧ Plays ok is (i.apply board h)

/-- The state after a run. -/
def after (h : Holdoff) (is : List Input) : Holdoff := is.foldl (Input.apply board) h

instance decPlays (ok : Call → Prop) [DecidablePred ok] : (is : List Input) → (h : Holdoff) → Decidable (Plays board ok is h)
  | [], _ => isTrue trivial
  | i :: is, h => @instDecidableAnd _ _ _ (decPlays ok is (i.apply board h))

/-- An undisturbed run is a run. -/
theorem Reached.after {board : Board} {ok : Call → Prop} {h : Holdoff} (hh : Reached board ok h) {is : List Input}
    (hp : Plays board ok is h) : Reached board ok (h.after board is) := by
  induction is generalizing h with
  | nil => exact hh
  | cons i is ih =>
    obtain ⟨⟨hok, hm⟩, hrest⟩ := hp
    refine ih (.step i.step hh ⟨hok, ?_⟩) hrest
    cases i with
    | call c => exact Prog.runs_run _ _ _
    | tick ticks => exact .env (.tick h ticks) (.ret () _)
    | bytes fifo => exact .env (.uart1 h false fifo hm) (.ret () _)

end Holdoff

/-! ## What auto-sleep promises -/

/-- Auto-sleep is armed, the host has not been active for the holdoff, and no byte received waits. -/
structure AutoEntry.Rested (board : Board) (e : AutoEntry) : Prop where
  armed : e.autosleep = true
  elapsed : ∀ a t, e.last a = some t → t + board.msToRtc kbdAutosleepHoldoffMs ≤ e.time
  ring : e.ring = []
  held : e.held = []

/-- An edge of the host at the end of a sleep is noted: it came before the wake's reason was read, and not with the RTC's trigger. -/
def IdleView.Notes (view : IdleView) : Prop := view.hostEdge = true ∨ view.lateEdge = true → view.rtcTrig = false ∧ view.hostEdge = true

/-- The host's edge is noted at the end of the sleep. -/
def Holdoff.Call.Notes : Holdoff.Call → Prop
  | .lowPower _ view => view.Notes
  | _ => True

instance (view : IdleView) : Decidable view.Notes := inferInstanceAs (Decidable (_ ∨ _ → _ ∧ _))

instance (call : Holdoff.Call) : Decidable call.Notes := by
  cases call <;> first | exact instDecidableTrue | exact inferInstanceAs (Decidable (IdleView.Notes _))

end OpenController
