import OpenController.HostWake
import OpenController.PowerSleep
import OpenController.RfSleep

/-!
# The main loop

`main.c` around the RF task: the frames of the host, the entry into the bootloader (`OpenBoot_Service`), the explicit sleep
(`Power_Service`) and the idle callback of TMOS (`CH59x_LowPower`), with interrupts between any two statements.
-/

namespace OpenController

/-- `svc_state` and `svc_start` of a service. -/
structure Svc where
  state : Nat
  start : Nat
  deriving DecidableEq, Repr

/-- A deep sleep: on behalf of an explicit request, and whether the host wanted one then. -/
structure SleepEntry where
  explicit : Bool
  wanted : Bool
  deriving DecidableEq, Repr

/-- What is remembered of a run. No function reads it: the bond that was owed a save when the link was taken down for the
bootloader, and still is; whether a sleep that the host asked for stands; and the deep sleeps. -/
structure MainLog where
  due : Option Mac
  wanted : Bool
  sleeps : List SleepEntry
  deriving DecidableEq, Repr

/-- The state of `main.c`, the RF task's and the power layer's with it. `rxActivity` is the latch that the UART's interrupt sets,
and `updated` the end: `openboot_request_update` does not return. -/
structure Main where
  rf : Rf
  openbootEntryPending : Bool
  openboot : Svc
  sleepProto : SleepProto
  power : Svc
  pwr : PowerSleep
  rxActivity : Bool
  updated : Bool
  log : MainLog

/-- A function of the main loop. -/
abbrev MainM := Prog Main

/-- A function of the RF task. -/
def onRf {α : Type} (p : RfM α) : MainM α := p.zoom Main.rf fun s m => { m with rf := s }

/-- The statements of a branch that is taken when a condition holds. -/
def branch (c : Prop) [Decidable c] (p : MainM Unit) : MainM Unit := if c then p else pure ()

/-- `RTC_CLOCK_TICKS_US`. -/
def rtcClockTicksUs (board : Board) (us : Nat) : Nat := u32 (u32 ((us * board.freqRtc + 999999) / 1000000) + 1)

/-- `KBD_HOST_WAKE_FRAME_MAX_US`, with the default guard, attempts and time to wait for an ACK. -/
def kbdHostWakeFrameMaxUs : Nat := 1000 + (3 + 1) * 20000

/-- `KBD_HOST_WAKE_BACKLOG_MAX_US`. -/
def kbdHostWakeBacklogMaxUs (board : Board) : Nat := if board.hostWake then (hostWakeQueueSize + 2) * kbdHostWakeFrameMaxUs else 0

/-! ## The frames of the host -/

/-- The sleep protocol's part of `handle_uart_frame`. -/
def sleepFrame (cmd sub : Byte) : MainM Unit := do
  let action ← .stmt (fun m => { m with
      sleepProto := (m.sleepProto.onFrame cmd sub m.openbootEntryPending).1
      log := { m.log with
        wanted := decide (m.sleepProto.Asks cmd sub m.openbootEntryPending) || m.log.wanted && !decide (StandsDown cmd sub) } })
    fun m => pure (m.sleepProto.onFrame cmd sub m.openbootEntryPending).2
  branch (action = .sendReady) (onRf (keyboardUartSendStatus 0x37))
  .modify fun m => { m with pwr := m.pwr.setAutosleep m.sleepProto.autosleep m.rf.hw.rtc }
  .modify fun m => { m with pwr := m.pwr.noteActivity m.rf.hw.rtc }
  branch (sleepProtocolIsStateChanging cmd sub) (.modify fun m => { m with pwr := m.pwr.cancelExplicit })

/-- `handle_uart_frame`, with the reply to `A6 58` and the latch of `A6 81`. -/
def mainFrame (board : Board) (cmd sub : Byte) (payload : Report) : MainM Unit := do
  sleepFrame cmd sub
  onRf (handleUartFrame cmd sub payload)
  branch (cmd = 0xA6 ∧ sub = 0x58 ∧ board.hostWake) (onRf (keyboardUartSendStatus 0x38))
  branch (cmd = 0xA6 ∧ sub = 0x81) (.modify fun m => { m with openbootEntryPending := true })

/-! ## Services -/

/-- `openboot_request_update`: the module resets. -/
def openbootRequestUpdate : MainM Unit := .modify fun m => { m with updated := true }

/-- `OpenBoot_Service`, at a time, with what `KeyboardUart_FifoIdle` answers. -/
def openBootService (board : Board) (fifoIdle : Bool) (now : Nat) : MainM Unit := do
  let state ← .read fun m => m.openboot.state
  if state = 0 then do
    let pending ← .read fun m => m.openbootEntryPending
    branch pending do
      onRf takeDown
      .modify fun m => { m with openboot := { m.openboot with start := now } }
      .modify fun m => { m with openboot := { m.openboot with state := 1 }, log := { m.log with due := m.rf.log.owed } }
  else do
    let start ← .read fun m => m.openboot.start
    branch (fifoIdle ∨ ¬sub32 now start < rtcClockTicksUs board 20000) openbootRequestUpdate

/-- `sleep_proto.sleep_pending = 0`. -/
def clearSleepPending : MainM Unit := .modify fun m => { m with sleepProto := { m.sleepProto with sleepPending := false } }

/-- `svc_state = ` of `Power_Service`. -/
def setPowerState (state : Nat) : MainM Unit := .modify fun m => { m with power := { m.power with state := state } }

/-- `Power_Service`, at a time, with what `KeyboardUart_TxIdle` answers. -/
def powerService (board : Board) (txIdle : Bool) (now : Nat) : MainM Unit := do
  let state ← .read fun m => m.power.state
  if state = 0 then do
    let pending ← .read fun m => m.sleepProto.sleepPending
    branch pending do
      let openboot ← .read fun m => m.openbootEntryPending
      if openboot then clearSleepPending
      else do
        .modify fun m => { m with power := { m.power with start := now } }
        setPowerState 1
  else do
    let standDown ← .read fun m => !m.sleepProto.sleepPending || m.openbootEntryPending
    if standDown then do
      clearSleepPending
      setPowerState 0
    else if !txIdle then do
      let start ← .read fun m => m.power.start
      branch (¬sub32 now start < rtcClockTicksUs board (20000 + kbdHostWakeBacklogMaxUs board)) do
        clearSleepPending
        setPowerState 0
    else do
      clearSleepPending
      setPowerState 0
      onRf takeDown
      .modify fun m => { m with pwr := m.pwr.requestExplicit }

/-! ## The idle callback -/

namespace Main

/-- `pwr_holdoff_expired`. -/
def pwrHoldoffExpired (board : Board) (m : Main) : Bool × Main :=
  if m.rxActivity then (false, { m with rxActivity := false, pwr := m.pwr.noteActivity m.rf.hw.rtc })
  else if !m.pwr.holdoffActive then (true, m)
  else if sleepProtocolElapsedTicks m.rf.hw.rtc m.pwr.holdoffStart board.rtcMaxCount pwrRtc32kBackstepTolerance ≥
      board.msToRtc kbdAutosleepHoldoffMs then (true, { m with pwr := { m.pwr with holdoffActive := false } })
  else (false, m)

/-- The module tries to sleep, explicitly or not. -/
def trySleep (board : Board) (time : Nat) (view : SleepView) (explicit : Bool) (m : Main) : Nat × Main :=
  let (rc, pwr) := m.pwr.sleepUntil board time m.rf.hw.rtc view
  (rc, { m with
    pwr := pwr
    log := { m.log with sleeps := if rc = 0 then m.log.sleeps ++ [⟨explicit, m.log.wanted⟩] else m.log.sleeps } })

/-- The part of `CH59x_LowPower` for an explicit request: it is done once the host woke the module. -/
def explicitSleep (board : Board) (time : Nat) (txIdle rxQuiet : Bool) (view : SleepView) (m : Main) : Nat × Main :=
  if m.rf.state ≠ .idle ∨ m.openbootEntryPending ∨ !txIdle ∨ !rxQuiet then (3, m)
  else
    let (rc, m) := m.trySleep board time view true
    (rc, if rc = 0 ∧ m.pwr.gpioWoke then
        { m with pwr := { m.pwr with explicitRequest := false }, log := { m.log with wanted := false } }
      else m)

/-- The rest of `CH59x_LowPower`: auto-sleep. -/
def autoSleep (board : Board) (time : Nat) (txIdle rxQuiet : Bool) (view : SleepView) (m : Main) : Nat × Main :=
  if !m.pwr.autosleep then (3, m)
  else if m.openbootEntryPending then (3, m)
  else
    let (expired, m) := m.pwrHoldoffExpired board
    if !expired then (3, m)
    else if !txIdle then (3, m)
    else if !rxQuiet then (3, m)
    else if m.rf.state ≠ .idle ∧ !rfCanDeepSleep m.rf then (3, m)
    else m.trySleep board time view false

/-- `CH59x_LowPower`, the idle callback of TMOS, with its next deadline and what the UART answers. -/
def ch59xLowPower (board : Board) (time : Nat) (txIdle rxQuiet : Bool) (view : SleepView) (m : Main) : Nat × Main :=
  if m.pwr.explicitRequest then m.explicitSleep board time txIdle rxQuiet view else m.autoSleep board time txIdle rxQuiet view

end Main

/-! ## Runs -/

/-- What can happen between two statements: an interrupt of the RF task, or a byte of the host. -/
inductive MainInterrupt : Main → Main → Prop where
  | rf {m s} (h : RfInterrupt m.rf s) : MainInterrupt m { m with rf := s }
  | rxByte (m) : MainInterrupt m { m with rxActivity := true }

/-- A call of the main loop, with what it is answered. `other` is the rest of the loop. -/
inductive MainCall where
  | frame (cmd sub : Byte) (payload : Report)
  | connectedTick
  | ledResync
  | openBootService (fifoIdle : Bool) (now : Nat)
  | powerService (txIdle : Bool) (now : Nat)
  | lowPower (time : Nat) (txIdle rxQuiet : Bool) (view : SleepView)
  | other

/-- The statements of a call. -/
def MainCall.program (board : Board) : MainCall → MainM Unit
  | .frame cmd sub payload => mainFrame board cmd sub payload
  | .connectedTick => onRf rfConnectedTick
  | .ledResync => onRf rfLedResync
  | .openBootService fifoIdle now => OpenController.openBootService board fifoIdle now
  | .powerService txIdle now => OpenController.powerService board txIdle now
  | .lowPower time txIdle rxQuiet view => .modify fun m => (m.ch59xLowPower board time txIdle rxQuiet view).2
  | .other => pure ()

/-- A step of the main loop: a call, or a pass of TMOS, with the event it took and the state then. -/
inductive MainOp where
  | call (c : MainCall)
  | event (next : Option RfEvt) (u : Main)

/-- Between two steps it is known whether the bond that was owed a save is saved. -/
def Main.settle (m : Main) : Main := if m.rf.log.owed = none then { m with log := { m.log with due := none } } else m

/-- The runs of a step. -/
def MainOp.Steps (board : Board) : MainOp → Main → Main → Prop
  | .call c, m, t => Prog.Runs MainInterrupt (c.program board) m () t
  | .event next u, m, t =>
    Prog.Runs MainInterrupt (onRf tmosTake) m next u ∧ Prog.Runs MainInterrupt (onRf (tmosHandle next)) u () t

/-- `main`: the RF task starts, and a bonded keyboard uses 2.4G. -/
def mainInit (rf : Rf) : Main where
  rf := if rf.bond.hasBond && rf.keyboardMacValid then (({ rf with transportIs2g4 := true }).out (.status 0x34)).out (.status 0x35)
    else rf
  openbootEntryPending := false
  openboot := ⟨0, 0⟩
  sleepProto := .reset
  power := ⟨0, 0⟩
  pwr := ⟨false, false, false, 0, false⟩
  rxActivity := false
  updated := false
  log := ⟨none, false, []⟩

/-- The states `main` leaves. -/
def MainBooted (m : Main) : Prop := ∃ rf, RfBooted rf ∧ m = mainInit rf

/-- The states between the steps of a main loop, when every step meets a condition. -/
abbrev MainReach (board : Board) (ok : MainOp → Main → Prop) : Main → Prop :=
  Reach MainBooted fun (op : MainOp) m t => m.updated = false ∧ ok op m ∧ ∃ u, op.Steps board m u ∧ t = u.settle

/-! ## Undisturbed runs -/

/-- What happens in an undisturbed run: a call, a pass of TMOS, or an interrupt of the RF task. -/
inductive MainInput where
  | call (c : MainCall)
  | process
  | interrupt (op : RfOp)

/-- The step. -/
def MainInput.op (m : Main) : MainInput → MainOp
  | .call c => .call c
  | .process => .event ((onRf tmosTake).run m).1 ((onRf tmosTake).run m).2
  | .interrupt _ => .call .other

/-- The state after it. -/
def MainInput.apply (board : Board) (m : Main) : MainInput → Main
  | .call c => ((c.program board).exec m).settle
  | .process => ((onRf (tmosHandle ((onRf tmosTake).run m).1)).exec ((onRf tmosTake).run m).2).settle
  | .interrupt op => { m with rf := op.apply m.rf }.settle

/-- It is an interrupt, while the radio is live if the radio calls back. -/
def RfOp.Interrupts (s : Rf) : RfOp → Prop
  | .callback .. => s.radio.shut = false
  | .tmr0Cycle | .tmr0Irq | .expire _ | .advance _ | .hardware _ => True
  | _ => False

/-- It can happen. -/
def MainInput.Possible (m : Main) : MainInput → Prop
  | .interrupt op => op.Interrupts m.rf
  | _ => True

/-- A run, every step of which meets a condition. -/
def Main.Plays (board : Board) (ok : MainOp → Main → Prop) : List MainInput → Main → Prop
  | [], _ => True
  | i :: is, m => (m.updated = false ∧ ok (i.op m) m ∧ i.Possible m) ∧ Main.Plays board ok is (i.apply board m)

/-- The state after a run. -/
def Main.after (board : Board) (m : Main) (is : List MainInput) : Main := is.foldl (fun m i => i.apply board m) m

instance (s : Rf) (op : RfOp) : Decidable (op.Interrupts s) :=
  match op with
  | .callback .. => inferInstanceAs (Decidable (s.radio.shut = false))
  | .tmr0Cycle | .tmr0Irq | .expire _ | .advance _ | .hardware _ => instDecidableTrue
  | .frame .. | .process | .connectedTick | .ledResync | .quiesce => instDecidableFalse

instance (m : Main) (i : MainInput) : Decidable (i.Possible m) := by
  cases i <;> first | exact instDecidableTrue | exact inferInstanceAs (Decidable (RfOp.Interrupts _ _))

instance Main.decPlays (board : Board) (ok : MainOp → Main → Prop) [∀ op m, Decidable (ok op m)] :
    (is : List MainInput) → (m : Main) → Decidable (m.Plays board ok is)
  | [], _ => isTrue trivial
  | i :: is, m => @instDecidableAnd _ _ _ (Main.decPlays board ok is (i.apply board m))

theorem RfOp.Interrupts.interrupt {s : Rf} {op : RfOp} (h : op.Interrupts s) : RfInterrupt s (op.apply s) := by
  cases op with
  | callback sta rsr rxBuf => exact .callback sta rsr rxBuf h
  | tmr0Cycle => exact .tmr0Cycle s
  | tmr0Irq => exact .tmr0Irq s
  | expire e => exact .expire s e
  | advance ticks => exact .advance s ticks
  | hardware hw => exact .hardware s hw
  | frame | process | connectedTick | ledResync | quiesce => exact h.elim

/-- An undisturbed run is a run. -/
theorem MainReach.after {board : Board} {ok : MainOp → Main → Prop} {m : Main} (h : MainReach board ok m) {is : List MainInput}
    (hp : m.Plays board ok is) : MainReach board ok (m.after board is) := by
  induction is generalizing m with
  | nil => exact h
  | cons i is ih =>
    obtain ⟨⟨hu, hok, hi⟩, hrest⟩ := hp
    refine ih (.step (i.op m) h ⟨hu, hok, ?_⟩) hrest
    cases i with
    | call c => exact ⟨_, Prog.runs_run _ _ _, rfl⟩
    | process => exact ⟨_, ⟨Prog.runs_run _ _ _, Prog.runs_run _ _ _⟩, rfl⟩
    | interrupt op => exact ⟨_, .env (.rf (RfOp.Interrupts.interrupt hi)) (.ret () _), rfl⟩

/-- A board with a 32 kHz clock. -/
def clockedBoard : Board := ⟨0xA8C00000, 32000, 45, 30, 0xA0000000, fun ms => ms * 32, true⟩

/-- What happens to the RF task, in the main loop. -/
def RfOp.input : RfOp → MainInput
  | .frame cmd sub payload => .call (.frame cmd sub payload)
  | .process => .process
  | .connectedTick => .call .connectedTick
  | .ledResync => .call .ledResync
  | op => .interrupt op

/-- The keyboard connects. -/
def mainConnectUp : List MainInput :=
  [RfOp.process, .command 0x30, .command 0x51, .process, .txFinish, .process, .offer, .process, .offer, .process].map RfOp.input

end OpenController
