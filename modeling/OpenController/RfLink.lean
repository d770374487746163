import OpenController.RfSystem

/-!
# The link of the RF task

What the RF task is for, as its timers and its resting policy see it: the state of the link, the flags of the policy, whether
there is a bond and a report, and what the keyboard's processor is told. The radio, the hop and the packets are left out, so the
link moves by a few operations. That the RF task moves it so is shown in `Lemmas/RfLinkAux`.
-/

namespace OpenController

/-- The link. -/
structure RfLink where
  state : RfState
  flavor : PairFlavor
  stage : Nat
  probe : Bool
  wake : Bool
  quiet : Bool
  hasBond : Bool
  macValid : Bool
  empty : Bool
  tmos : Tmos
  rests : Nat
  catches : Nat
  misses : Nat
  uart : List UartOut

/-- The link of a state of the RF task. -/
def Rf.link (s : Rf) : RfLink where
  state := s.state
  flavor := s.pair.flavor
  stage := s.rest.stage
  probe := s.rest.probe
  wake := s.rest.probeWake
  quiet := s.rest.quietPending
  hasBond := s.bond.hasBond
  macValid := s.keyboardMacValid
  empty := s.hid.isEmpty
  tmos := s.tmos
  rests := s.trace.restEntries
  catches := s.trace.restProbeCatches
  misses := s.trace.restProbeMisses
  uart := s.trace.uart

/-- The events that move the link. -/
def RfEvt.ofLink : RfEvt → Bool
  | .start | .pairBcast | .pairTimeout | .enterConnected | .restIdle | .restProbe | .restProbeTimeout | .restStage2
  | .disconnect => true
  | .rxRestart | .pairRxOff | .respond | .notifyLed | .discardHid | .saveBond => false

namespace RfLink

/-- How often the keyboard's processor was told a status. -/
def told (l : RfLink) (b : Byte) : Nat := l.uart.count (.status b)

/-- What goes to the keyboard's processor. -/
def out (l : RfLink) (o : UartOut) : RfLink := { l with uart := l.uart ++ [o] }

/-- The resting policy is called off. -/
def cancel (l : RfLink) : RfLink :=
  { l with
    stage := 0
    probe := false
    wake := false
    quiet := false
    tmos := (((l.tmos.stopTask .restIdle).stopTask .restProbe).stopTask .restProbeTimeout).stopTask .restStage2 }

/-- The inactivity timer starts anew. -/
def armIdle (l : RfLink) : RfLink :=
  if l.state = .connected ∧ l.probe = false then
    { l with tmos := (l.tmos.stopTask .restIdle).startTask .restIdle kbdRestIdleTicks }
  else l

/-- The radio goes off. -/
def goQuiet (l : RfLink) : RfLink :=
  { l with
    state := .resting
    probe := false
    wake := false
    quiet := false
    tmos := (((((l.tmos.stopTask .disconnect).stopTask .pairBcast).stopTask .pairRxOff).stopTask .pairTimeout).stopTask
      .enterConnected).stopTask .restProbeTimeout }

/-- The link rests. -/
def enterRest (l : RfLink) : RfLink :=
  let l := { l with rests := l.rests + 1 }.goQuiet
  { l with
    stage := 1
    tmos := (l.tmos.startTask .restProbe kbdRestProbeTicks).startTask .restStage2 kbdRestStage2Ticks }

/-- The search for the bonded dongle. -/
def search (l : RfLink) : RfLink :=
  { l with
    state := .pairing
    flavor := .bonded
    tmos := ((l.tmos.stopTask .pairTimeout).stopTask .pairRxOff).setEvent .pairBcast }

/-- A probe. -/
def probeStart (l : RfLink) : RfLink :=
  if l.hasBond && l.macValid then
    let l := { l with probe := true, quiet := false, tmos := l.tmos.stopTask .enterConnected }.search
    { l with tmos := (l.tmos.stopTask .restProbeTimeout).startTask .restProbeTimeout kbdRestProbeTimeoutTicks }
  else { l.cancel with state := .idle }

/-- The end of a probe. -/
def probeEnd (caught : Bool) (l : RfLink) : RfLink :=
  (if caught then { l with catches := l.catches + 1 } else { l with misses := l.misses + 1 }).goQuiet

/-- A probe becomes the session. -/
def promote (l : RfLink) : RfLink :=
  { l with
    stage := 0
    probe := false
    wake := false
    quiet := false
    tmos := ((((l.tmos.stopTask .restProbe).stopTask .restProbeTimeout).stopTask .restStage2).stopTask .disconnect).startTask
      .disconnect rfConnectedTimeoutTicks }.armIdle

/-- The search has caught the dongle: the link is up. -/
def connect (l : RfLink) : RfLink :=
  if l.state = .pairing then
    let silent := l.probe && !l.wake
    let l := { l with
      state := .connected
      tmos := ((((l.tmos.stopTask .pairBcast).stopTask .pairTimeout).stopTask .pairRxOff).stopTask .disconnect).startTask
        .disconnect rfConnectedTimeoutTicks }
    if silent then l
    else if l.probe then l.promote
    else ((l.out (.status 0x32)).out (.status 0x23)).armIdle
  else l

/-- A beacon. -/
def broadcast (l : RfLink) : RfLink :=
  if l.macValid then { l with tmos := (l.tmos.startTask .pairBcast rfPairBcastTicks).stopTask .pairRxOff }
  else { l with state := .idle }

/-- The supervision time is over. -/
def lapse (l : RfLink) : RfLink :=
  if l.state = .connected then { l.cancel with state := .idle }.out (.status 0x33) else l

/-- The host, or the bootloader or the sleep service, takes the link down. -/
def drop (l : RfLink) : RfLink :=
  let l := l.cancel
  { l with
    state := .idle
    tmos := ((((l.tmos.stopTask .pairBcast).stopTask .pairTimeout).stopTask .pairRxOff).stopTask .enterConnected).stopTask
      .disconnect }

/-- The bond is forgotten. -/
def forget (l : RfLink) : RfLink :=
  let l := l.cancel
  { l with hasBond := false, empty := l.empty || decide (l.state = .idle), tmos := l.tmos.stopTask .discardHid }

/-- A pairing the user asked for. -/
def enterPairing (l : RfLink) : RfLink :=
  if !l.macValid || decide (l.state = .connected) then l
  else
    let l := l.cancel
    { l with
      state := .pairing
      flavor := .fresh
      tmos := (((l.tmos.stopTask .enterConnected).stopTask .pairRxOff).setEvent .pairBcast).startTask .pairTimeout
        rfPairWindowTicks }

/-- The host selects the transport. -/
def select (l : RfLink) : RfLink :=
  let l := { l with tmos := l.tmos.stopTask .discardHid }
  if !l.macValid then l
  else if l.state = .connected then if l.probe then l.promote else l
  else
    let l := l.cancel
    if l.hasBond then { l with tmos := l.tmos.stopTask .enterConnected }.search else l

/-- A report wakes a link that rests. -/
def wakeRest (l : RfLink) : RfLink :=
  if l.state = .resting then
    { l with wake := true, tmos := (l.tmos.stopTask .restProbe).stopTask .restStage2 }.probeStart
  else if l.probe then
    let l := { l with wake := true, quiet := false }
    if l.state = .connected then l.promote else l
  else l.armIdle

/-- An event that moves the link. The report that keeps the link from resting is not part of it, so `RF_EVT_REST_IDLE` is treated
apart. -/
def handle (e : RfEvt) (l : RfLink) : RfLink :=
  match e with
  | .start => { l with state := .idle }
  | .pairBcast => if l.state = .pairing then l.broadcast else l
  | .pairTimeout => if l.state = .pairing then { l with state := .idle, tmos := l.tmos.stopTask .pairRxOff } else l
  | .enterConnected => l.connect
  | .restProbe =>
    if l.state = .resting ∧ l.stage = 1 then
      { l with tmos := l.tmos.startTask .restProbe kbdRestProbeTicks }.probeStart
    else l
  | .restProbeTimeout =>
    if l.probe then
      if l.wake then { l with tmos := l.tmos.startTask .restProbeTimeout kbdRestProbeTimeoutTicks } else l.probeEnd false
    else l
  | .restStage2 => if l.stage = 1 then { l with stage := 2, tmos := l.tmos.stopTask .restProbe } else l
  | .disconnect => l.lapse
  | _ => l

/-- A step that is not about the link: only the queue can have become empty, and the other events' timers and other things for
the keyboard's processor changed. -/
structure Same (l l' : RfLink) : Prop where
  state : l'.state = l.state
  flavor : l'.flavor = l.flavor
  stage : l'.stage = l.stage
  probe : l'.probe = l.probe
  wake : l'.wake = l.wake
  quiet : l'.quiet = l.quiet
  hasBond : l'.hasBond = l.hasBond
  macValid : l'.macValid = l.macValid
  empty : l.empty = true → l'.empty = true
  rests : l'.rests = l.rests
  catches : l'.catches = l.catches
  misses : l'.misses = l.misses
  told : ∀ b, l'.told b = l.told b
  now : l'.tmos.now = l.tmos.now
  timers : ∀ e, e.ofLink = true → l'.tmos.timers e = l.tmos.timers e
  queued : ∀ e, e.ofLink = true → l'.tmos.queued e = l.tmos.queued e

/-- The steps of the link. -/
inductive Step : RfOp → RfLink → RfLink → Prop where
  | same {op l l'} : Same l l' → Step op l l'
  | report {sub r l} (e : Bool) : Step (.frame 0xA1 sub r) l { l with empty := e }.wakeRest
  | select {r l} (u : List UartOut) : Step (.frame 0xA6 0x30 r) l { l.select with uart := u }
  | leave {sub r l} (u : List UartOut) : Step (.frame 0xA6 sub r) l
      { l.drop with
        tmos := (l.drop.tmos.stopTask .discardHid).startTask .discardHid kbdReselectKeepTicks, uart := u }
  | pair {r l} (u : List UartOut) : Step (.frame 0xA6 0x51 r) l { l.enterPairing with uart := u }
  | unpair {r l} (u : List UartOut) : Step (.frame 0xA6 0x52 r) l { l.drop.forget with uart := u }
  | factoryPair {r l} (u : List UartOut) : Step (.frame 0xA6 0x63 r) l { l.drop.forget.enterPairing with uart := u }
  | told {sub r l} (u : List UartOut) : Step (.frame 0xA6 sub r) l { l with uart := u }
  | event {l e} : l.tmos.next = some e → e.ofLink = true → e ≠ .restIdle →
      Step .process l ({ l with tmos := l.tmos.take e }.handle e)
  | idleOver {l} : l.tmos.next = some .restIdle → l.state = .connected → l.probe = false → l.empty = true →
      Step .process l { l with tmos := l.tmos.take .restIdle }.enterRest
  | idleRetry {l} : l.tmos.next = some .restIdle → l.state = .connected → l.probe = false →
      Step .process l { l with tmos := (l.tmos.take .restIdle).startTask .restIdle kbdRestIdleRetryTicks }
  | idleSkip {l} : l.tmos.next = some .restIdle → ¬(l.state = .connected ∧ l.probe = false) →
      Step .process l { l with tmos := l.tmos.take .restIdle }
  | caughtProbe {l} : l.state = .connected → l.quiet = true → Step .connectedTick l (l.probeEnd true)
  | supervise {l l'} : l.state = .connected →
      Same { l with tmos := (l.tmos.stopTask .disconnect).startTask .disconnect rfConnectedTimeoutTicks } l' →
      Step .connectedTick l l'
  | firstPacket {sta rsr buf l l'} : l.state = .pairing → l.hasBond = false → Same { l with hasBond := true } l' →
      Step (.callback sta rsr buf) l l'
  | offer {sta rsr buf l l'} : l.state = .pairing → l.hasBond = true →
      Same { l with tmos := l.tmos.setEvent .enterConnected } l' → Step (.callback sta rsr buf) l l'
  | answer {sta rsr buf l l'} : l.probe = true → l.wake = false → Same { l with quiet := true } l' →
      Step (.callback sta rsr buf) l l'
  | expire {e l} : Step (.expire e) l { l with tmos := l.tmos.expire e }
  | advance {n l} : Step (.advance n) l { l with tmos := l.tmos.advance n }
  | quiesce {l} : Step .quiesce l l.drop

end RfLink
end OpenController
