import OpenController.Rf

/-!
# The radio's callback

`RF_2G4StatusCallBack` runs in an interrupt, between two statements of the main loop, while the radio is live: it takes a packet
while pairing or connected, or the end of a transmission. With it come the phase servo and the turnaround timer's interrupt.
-/

namespace OpenController

/-- The status the radio calls back with. -/
inductive RfSta where
  | rxData
  | txFinish
  | txFail
  | other
  deriving DecidableEq, Repr

/-- A receive buffer: the signal strength, the length, and the payload. -/
abbrev RxBuf := Nat → Byte

/-- `read_be32`, from the index `i` on. -/
def readBe32 (buf : RxBuf) (i : Nat) : Nat :=
  (buf i).toNat * 16777216 + (buf (i + 1)).toNat * 65536 + (buf (i + 2)).toNat * 256 + (buf (i + 3)).toNat

/-- The length of a packet. -/
def RxBuf.len (buf : RxBuf) : Nat := (buf 1).toNat

/-- The access address a LEN-15 packet offers. -/
def RxBuf.sessionAa (buf : RxBuf) : Nat := readBe32 buf 2

/-- The type tag a LEN-15 packet offers. -/
def RxBuf.typeTag (buf : RxBuf) : Byte := buf 6

/-- The poll interval a LEN-15 packet advertises. -/
def RxBuf.interval (buf : RxBuf) : Nat := (buf 7).toNat + 256 * (buf 8).toNat

/-- The dongle a LEN-15 packet comes from. -/
def RxBuf.dongleMac (buf : RxBuf) : Mac := Vector.ofFn fun i => buf (11 + i)

/-- The interval a connection to the packet's dongle runs at. -/
def RxBuf.effInterval (buf : RxBuf) : Nat := if buf.interval ≠ 0 then buf.interval else rfPairInterval

/-- `SERVO_DEADBAND`. -/
def servoDeadband : Int := 1

/-- `hop_servo`: the anchor moves one tick towards the reference, unless it is within the deadband. -/
def RfHop.hopServo (ref : Nat) (h : RfHop) : RfHop :=
  let err := rtcSignedDelta32k ref h.hopAnchor
  if err > servoDeadband then { h with hopAnchor := rtcAdd32k h.hopAnchor 1 }
  else if err < -servoDeadband then { h with hopAnchor := rtcBackdate32k h.hopAnchor 1 }
  else h

/-- `rf_tmr0_arm`. The interrupt line is left as it is. -/
def Tmr0.arm (t : Tmr0) : Tmr0 := { t with interEn := true, flag := false, counting := true }

namespace Rf

/-- A LEN-15 packet while pairing, with a type tag below five. The first one of a fresh pairing is the bond; one from the bonded
dongle offers a session. -/
def onPairPacket (s : Rf) (buf : RxBuf) : Rf :=
  if !s.bond.hasBond then
    let bond : Bond := ⟨true, buf.dongleMac, buf.sessionAa, buf.typeTag⟩
    { s with bond := bond, radio := { s.radio with accessAddr := bond.storedSessionAa } }.setEvent .rxRestart
  else if macEqual s.bond.storedDongleMac buf.dongleMac then
    if buf.effInterval < 20 ∨ buf.effInterval > 40 then s.setEvent .rxRestart
    else
      let offer : RfPending :=
        ⟨buf.typeTag, buf.effInterval, buf.sessionAa, rtcBackdate32k s.hw.rtc rfHopAnchorBackdate⟩
      { s with
        pending := offer
        trace := { s.trace with caught := some ⟨s.trace.pairEntries, buf.len, buf.dongleMac, offer⟩ } }.setEvent .enterConnected
  else s.setEvent .rxRestart

/-- The head of the FIFO leaves it, acknowledged. -/
def noteRetired (s : Rf) : Rf :=
  { s with log := { s.log with
      retired := s.log.retired ++ [⟨s.log.sessions, s.log.passed, s.hid.headReport⟩]
      passed := s.log.passed + 1 } }

/-- The link's part of a poll: the dongle flipped its control bit, so it has accepted the frame in flight, and the head of the
FIFO, if it was in flight, is done with. -/
def ackPoll (s : Rf) (rxCtrl : Byte) : Rf :=
  if (rxCtrl ^^^ s.resp.txCtrl) &&& 1 ≠ 0 then
    let resp := { s.resp with txCtrl := ((s.resp.txCtrl &&& ~~~1) ||| (rxCtrl &&& 1)) ^^^ 2 }
    if s.hid.headSent then
      if s.hid.tail ≠ s.hid.head then
        { s.noteRetired with resp := resp, hid := { s.hid with headSent := false, head := u8 (s.hid.head + 1) } }
      else { s with resp := resp, hid := { s.hid with headSent := false } }
    else { s with resp := resp }
  else s

/-- The LED relay in a poll. -/
def relayLed (s : Rf) (buf : RxBuf) : Rf :=
  if buf.len = 3 ∧ buf 3 = 0xA1 then
    let s' := { s with led := { s.led with pendingLed := buf 4 } }
    if buf 4 ≠ s.led.lastLedSent then s'.setEvent .notifyLed else s'
  else s

/-- A deferred bond save is due with the first poll of a session. -/
def dueBondSave (s : Rf) : Rf :=
  if s.bondSavePending then { s with bondSavePending := false }.setEvent .saveBond else s

/-- The phase of a poll: the servo, and the hop is locked. -/
def lockHop (s : Rf) (len : Nat) : Rf :=
  { s with
    hop := { s.hop.hopServo (rtcBackdate32k s.hw.rtc (rfPollBackdateBase + len / 8)) with sinceRx := 0, provisional := false } }

/-- The response to a poll is latched, and the turnaround timer armed. -/
def latchResponse (s : Rf) : Rf :=
  { s with
    supervisionKick := true
    resp := { s.resp with
      responseChannel := s.radio.channel
      responseCtrl := s.resp.txCtrl
      responseArmedRtc := s.hw.rtc
      responsePending := true }
    tmr0 := s.tmr0.arm
    log := { s.log with caughtOn := s.radio.tuned } }

/-- A packet while connected: polls have length 1, 3 or 10, anything else is ignored. -/
def onPoll (s : Rf) (buf : RxBuf) : Rf :=
  if buf.len ≠ 1 ∧ buf.len ≠ 3 ∧ buf.len ≠ 10 then s.setEvent .rxRestart
  else ((((s.lockHop buf.len).dueBondSave.ackPoll (buf 2)).relayLed buf).latchResponse)

/-- A transmission completed. A response that did counts as an answer of a rest probe. -/
def onTxFinish (s : Rf) : Rf :=
  let rest :=
    if s.resp.responsePending ∧ s.rest.probe ∧ !s.rest.probeWake then
      { s.rest with
        answers := u8 (s.rest.answers + 1)
        quietPending := decide (u8 (s.rest.answers + 1) ≥ kbdRestProbeAnswers) || s.rest.quietPending }
    else s.rest
  { s with
    hid := { s.hid with txDownInflight := false }
    rest := rest
    resp := { s.resp with responsePending := false } }.setEvent .rxRestart

/-- A transmission failed. -/
def onTxFail (s : Rf) : Rf :=
  { s with
    hid := { s.hid with txDownInflight := false }
    resp := { s.resp with responsePending := false } }.setEvent .rxRestart

/-- A packet, with no error. -/
def onRxData (s : Rf) (buf : RxBuf) : Rf :=
  let s := { s with rssi := buf 0 }
  if s.state = .pairing ∧ buf.len = 15 ∧ buf 6 < 5 then s.onPairPacket buf
  else if s.state = .connected then s.onPoll buf
  else s.setEvent .rxRestart

/-- `RF_2G4StatusCallBack`. -/
def rf2g4StatusCallBack (sta : RfSta) (rsr : Nat) (rxBuf : Option RxBuf) (s : Rf) : Rf :=
  match sta with
  | .rxData =>
    match rxBuf with
    | none => s.setEvent .rxRestart
    | some buf => if rsr ≠ 0 then s.setEvent .rxRestart else s.onRxData buf
  | .txFinish => s.onTxFinish
  | .txFail => s.onTxFail
  | .other => s.setEvent .rxRestart

/-- `TMR0_IRQHandler`: the turnaround is over, and the response is due. -/
def tmr0IRQHandler (s : Rf) : Rf :=
  if !s.tmr0.flag then s
  else
    let s := { s with tmr0 := { s.tmr0 with flag := false, counting := false } }
    if s.state = .connected then s.setEvent .respond else s

end Rf

end OpenController
