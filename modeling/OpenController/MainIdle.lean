import OpenController.Rf
import OpenController.UartRing

/-!
# The idle wait of the main loop

The end of a pass of `Main_Circulation` in the `KBD_IDLE_WFI` build: with interrupts masked, the event latch is drained, the wake
sources are looked at again, and the core waits for an event. In WFE mode, which lasts for one `wfi`, the core waits until the event
latch is set, and clears it; out of it, a `wfi` with interrupts masked waits forever. With SEVONPEND an interrupt that becomes
pending sets the latch, and one that is pending already does not. `IdleRun` is a run with the hardware and the handlers between any
two statements.
-/

namespace OpenController

/-- Where the main loop stands: in the rest of the loop, or before a statement of the idle wait. -/
inductive IdlePc where
  | loop
  | mask
  | armShallow
  | armEvent
  | drain
  | rearm
  | checkRx
  | checkFifo
  | checkUpdate
  | checkHeartbeat
  | wait
  | disarm
  | unmask
  deriving DecidableEq, Repr

/-- The core runs, waits for an event, or waits for an interrupt, which never wakes it while they are masked. -/
inductive CoreState where
  | runs
  | waitsForEvent
  | waitsForInterrupt
  deriving DecidableEq, Repr

/-- What the idle wait reads and writes: the receive path of the UART with its hardware, the flag of the heartbeat timer, what the
loop looks at before it idles, whether interrupts are masked and were enabled before, the bits of SCTLR, and the event latch.
`irqState` is what the mask was saved in, and `sleepPending` both requests for a deep sleep. -/
structure Idle where
  pc : IdlePc
  core : CoreState
  rx : UartRx Byte
  fifo : List Byte
  overErr : Bool
  tmr3Flag : Bool
  rfState : RfState
  openbootEntryPending : Bool
  hostWakeIdle : Bool
  sleepPending : Bool
  masked : Bool
  irqState : Bool
  sleepDeep : Bool
  wfeMode : Bool
  sevOnPend : Bool
  event : Bool

/-- `KeyboardUart_RxQuiet`. -/
def UartRx.rxQuiet {α : Type} (u : UartRx α) : Bool := decide (u.tail = u.head) && u.parser.buf.isEmpty && !u.overrunLatch

/-- The size of the receive FIFO of the UART (`UART_FIFO_SIZE`). -/
def uartFifoSize : Nat := 8

namespace Idle

/-- The UART's interrupt is pending: bytes are received, or one was lost. -/
def uartPending (s : Idle) : Bool := !s.fifo.isEmpty || s.overErr

/-- What the loop looks at before it idles, but for the receive path: nothing of it changes outside the loop. -/
def mayIdle (s : Idle) : Bool :=
  (decide (s.rfState = .idle) || decide (s.rfState = .resting)) && !s.openbootEntryPending && s.hostWakeIdle && !s.sleepPending

/-- Nothing is there to wake for. -/
structure Quiet (s : Idle) : Prop where
  may : s.mayIdle = true
  rx : s.rx.rxQuiet = true
  fifo : s.fifo = []
  heartbeat : s.tmr3Flag = false

/-! ## The statements -/

/-- `wfi`, and the statement after it. -/
def wfi (next : IdlePc) (s : Idle) : Idle :=
  if s.wfeMode then
    if s.event then { s with pc := next, wfeMode := false, event := false }
    else { s with pc := next, wfeMode := false, core := .waitsForEvent }
  else { s with pc := next, core := .waitsForInterrupt }

/-- A wake source is looked at: if it shows anything the wait is left out. -/
def check (quiet : Bool) (next : IdlePc) (s : Idle) : Idle := { s with pc := if quiet then next else .disarm }

/-- The statements between the mask and its end: `idle_arm_and_drain`, the second look at the wake sources, `idle_sleep_once` and
`idle_disarm`. -/
def step (s : Idle) : Idle :=
  match s.pc with
  | .loop => s
  | .mask => { s with pc := .armShallow, irqState := !s.masked, masked := true }
  | .armShallow => { s with pc := .armEvent, sleepDeep := false }
  | .armEvent => { s with pc := .drain, sevOnPend := true, wfeMode := true, event := true }
  | .drain => s.wfi .rearm
  | .rearm => { s with pc := .checkRx, wfeMode := true }
  | .checkRx => s.check s.rx.rxQuiet .checkFifo
  | .checkFifo => s.check s.fifo.isEmpty .checkUpdate
  | .checkUpdate => s.check (!s.openbootEntryPending) .checkHeartbeat
  | .checkHeartbeat => s.check (!s.tmr3Flag) .wait
  | .wait => s.wfi .disarm
  | .disarm => { s with pc := .unmask, sevOnPend := false, wfeMode := false }
  | .unmask => { s with pc := .loop, masked := s.masked && !s.irqState }

/-! ## The hardware and the handlers -/

/-- An interrupt became pending, and was not before. -/
def pends (before : Bool) (s : Idle) : Idle := { s with event := s.event || s.sevOnPend && !before }

/-- The hardware receives a byte. -/
def receive (b : Byte) (s : Idle) : Idle :=
  (if s.fifo.length < uartFifoSize then { s with fifo := s.fifo ++ [b] } else { s with overErr := true }).pends s.uartPending

/-- The heartbeat timer reaches the end of its cycle. -/
def cycleEnd (s : Idle) : Idle := { s with tmr3Flag := true }.pends s.tmr3Flag

/-- `UART1_IRQHandler`. -/
def uart1IRQHandler (s : Idle) : Idle :=
  { s with rx := s.rx.uart1IRQHandler s.overErr s.fifo, fifo := [], overErr := false }

/-- `TMR3_IRQHandler`. -/
def tmr3IRQHandler (s : Idle) : Idle := { s with tmr3Flag := false }

/-- A pass of the loop ends where the wait may begin. -/
def start (rx : UartRx Byte) : Idle :=
  ⟨.loop, .runs, rx, [], false, false, .idle, false, true, false, false, false, false, false, false, false⟩

end Idle

/-- The states of a run: the rest of the loop does what it does, the idle wait is entered and done statement by statement while the
core runs, and between any two statements a byte is received, the heartbeat timer ends its cycle, another event is latched, a
handler runs while interrupts are not masked, or the core wakes. -/
inductive IdleRun : Idle → Prop where
  | start (rx : UartRx Byte) : IdleRun (.start rx)
  | loop {s : Idle} (h : IdleRun s) (hpc : s.pc = .loop) (rx : UartRx Byte) (rfState : RfState)
      (openboot hostWakeIdle sleepPending sleepDeep : Bool) :
      IdleRun { s with
        rx := rx, rfState := rfState, openbootEntryPending := openboot, hostWakeIdle := hostWakeIdle
        sleepPending := sleepPending, sleepDeep := sleepDeep }
  | enter {s : Idle} (h : IdleRun s) (hpc : s.pc = .loop) (hmay : s.mayIdle = true) (hrx : s.rx.rxQuiet = true) :
      IdleRun { s with pc := .mask }
  | step {s : Idle} (h : IdleRun s) (hcore : s.core = .runs) : IdleRun s.step
  | receive {s : Idle} (h : IdleRun s) (b : Byte) : IdleRun (s.receive b)
  | cycleEnd {s : Idle} (h : IdleRun s) : IdleRun s.cycleEnd
  | event {s : Idle} (h : IdleRun s) : IdleRun { s with event := true }
  | uartIrq {s : Idle} (h : IdleRun s) (hm : s.masked = false) : IdleRun s.uart1IRQHandler
  | tmr3Irq {s : Idle} (h : IdleRun s) (hm : s.masked = false) : IdleRun s.tmr3IRQHandler
  | wake {s : Idle} (h : IdleRun s) (hcore : s.core = .waitsForEvent) (he : s.event = true) :
      IdleRun { s with core := .runs, event := false }

end OpenController
