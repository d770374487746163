import OpenController.Lib.Format
import OpenController.Lib.Word

/-!
# The diagnostic frame

`diag_frame.c`: the reply to `A6 71` is a header, a length, the counters in a fixed order with the lowest byte first, and the sum of
all these bytes. `decode` is the reader of `test_diag_frame.py`, with the layout it unpacks (`FMT`).
-/

namespace OpenController

/-- `diag_snapshot_t`. -/
structure DiagSnapshot where
  rfState : BitVec 8
  llBootCount : BitVec 32
  rfPairBcastCount : BitVec 32
  rfValidRxCount : BitVec 32
  enteredConnectedCount : BitVec 32
  rfConfigCount : BitVec 32
  pwrPairRxOffCount : BitVec 32
  pwrWfiCount : BitVec 32
  pwrSleepAttempt : BitVec 16
  pwrSleepEntered : BitVec 16
  pwrSleepAborted : BitVec 16
  pwrWakeGpio : BitVec 16
  pwrWakeRtc : BitVec 16
  pwrLastAbortReason : BitVec 8
  rfLastConfigStatus : BitVec 8
  rfLastRxStatus : BitVec 8
  rfLastTxStatus : BitVec 8
  llDropCount : BitVec 32
  bootResetStatus : BitVec 8
  faultMarker : BitVec 8
  faultMepc : BitVec 32
  faultMcause : BitVec 32
  faultMtval : BitVec 32
  pwrLoopPasses : BitVec 16
  pwrLoopStage : BitVec 8
  llHidRx : BitVec 32
  llHidTx : BitVec 32
  llHidRxDown : BitVec 32
  llHidTxDown : BitVec 32
  llHidTxDoneDown : BitVec 32
  llHidFifoDrop : BitVec 32
  deriving DecidableEq, Repr

/-- `DIAG_FRAME_HEADER`. -/
def diagFrameHeader : Byte := 0x5D

/-- `DIAG_PAYLOAD_VERSION`. -/
def diagPayloadVersion : Byte := 3

/-- `DIAG_PAYLOAD_LEN`. -/
def diagPayloadLen : Byte := 89

/-! ## The writer -/

/-- `put8`. -/
def put8 (v : BitVec 8) : List Byte := [v]

/-- `put16`. -/
def put16 (v : BitVec 16) : List Byte := [v.setWidth 8, (v >>> 8).setWidth 8]

/-- `put32`. -/
def put32 (v : BitVec 32) : List Byte := put16 (v.setWidth 16) ++ put16 ((v >>> 16).setWidth 16)

/-- The sum of some bytes, in a byte. -/
def byteSum (l : List Byte) : Byte := l.foldl (· + ·) 0

/-- `finish`. -/
def finish (out : List Byte) : List Byte := out ++ [byteSum out]

/-- `DiagFrame_FormatEmpty`. -/
def diagFrameFormatEmpty : List Byte := finish (put8 diagFrameHeader ++ put8 0)

/-- `DiagFrame_Format`. -/
def diagFrameFormat (s : DiagSnapshot) : List Byte :=
  finish (put8 diagFrameHeader ++ put8 diagPayloadLen ++ put8 diagPayloadVersion ++ put8 s.rfState ++ put32 s.llBootCount ++
    put32 s.rfPairBcastCount ++ put32 s.rfValidRxCount ++ put32 s.enteredConnectedCount ++ put32 s.rfConfigCount ++
    put32 s.pwrPairRxOffCount ++ put32 s.pwrWfiCount ++ put16 s.pwrSleepAttempt ++ put16 s.pwrSleepEntered ++
    put16 s.pwrSleepAborted ++ put16 s.pwrWakeGpio ++ put16 s.pwrWakeRtc ++ put8 s.pwrLastAbortReason ++
    put8 s.rfLastConfigStatus ++ put8 s.rfLastRxStatus ++ put8 s.rfLastTxStatus ++ put32 s.llDropCount ++
    put8 s.bootResetStatus ++ put8 s.faultMarker ++ put32 s.faultMepc ++ put32 s.faultMcause ++ put32 s.faultMtval ++
    put16 s.pwrLoopPasses ++ put8 s.pwrLoopStage ++ put32 s.llHidRx ++ put32 s.llHidTx ++ put32 s.llHidRxDown ++
    put32 s.llHidTxDown ++ put32 s.llHidTxDoneDown ++ put32 s.llHidFifoDrop)

/-! ## The reader -/

/-- A value of twice the width is its low half and its high half. -/
def halves (n : Nat) : BitVec n × BitVec n ≃ BitVec (n + n) where
  toFun x := x.2 ++ x.1
  invFun v := (v.setWidth n, (v >>> n).setWidth n)
  left_inv x := by
    obtain ⟨lo, hi⟩ := x
    refine Prod.ext ?_ ?_
    · exact BitVec.setWidth_append_eq_right
    · exact BitVec.setWidth_ushiftRight_eq_extractLsb.trans BitVec.extractLsb'_append_eq_left
  right_inv v := by
    show (v >>> n).setWidth n ++ v.setWidth n = v
    rw [BitVec.setWidth_ushiftRight_eq_extractLsb, BitVec.setWidth_eq_extractLsb' (Nat.le_add_left n n)]
    exact BitVec.extractLsb'_append_extractLsb'

/-- A `uint8_t`. -/
def uint8 : Format (BitVec 8) Byte := .symbol

/-- A `uint16_t`, low byte first. -/
def uint16 : Format (BitVec 16) Byte := (uint8.seq uint8).as (halves 8)

/-- A `uint32_t`, low half first. -/
def uint32 : Format (BitVec 32) Byte := (uint16.seq uint16).as (halves 16)

/-- The fields of the payload, the version first. -/
abbrev DiagFields : Type :=
    BitVec 8 × BitVec 8 × BitVec 32 × BitVec 32 × BitVec 32 × BitVec 32 × BitVec 32 × BitVec 32 × BitVec 32 × BitVec 16 ×
    BitVec 16 × BitVec 16 × BitVec 16 × BitVec 16 × BitVec 8 × BitVec 8 × BitVec 8 × BitVec 8 × BitVec 32 × BitVec 8 × BitVec 8 ×
    BitVec 32 × BitVec 32 × BitVec 32 × BitVec 16 × BitVec 8 × BitVec 32 × BitVec 32 × BitVec 32 × BitVec 32 × BitVec 32 × BitVec 32

/-- They are the version and the snapshot. -/
def diagFields : DiagFields ≃ BitVec 8 × DiagSnapshot where
  toFun
    | (version, rfState, llBootCount, rfPairBcastCount, rfValidRxCount, enteredConnectedCount, rfConfigCount, pwrPairRxOffCount,
      pwrWfiCount, pwrSleepAttempt, pwrSleepEntered, pwrSleepAborted, pwrWakeGpio, pwrWakeRtc, pwrLastAbortReason,
      rfLastConfigStatus, rfLastRxStatus, rfLastTxStatus, llDropCount, bootResetStatus, faultMarker, faultMepc, faultMcause,
      faultMtval, pwrLoopPasses, pwrLoopStage, llHidRx, llHidTx, llHidRxDown, llHidTxDown, llHidTxDoneDown, llHidFifoDrop) =>
      (version, ⟨rfState, llBootCount, rfPairBcastCount, rfValidRxCount, enteredConnectedCount, rfConfigCount, pwrPairRxOffCount,
      pwrWfiCount, pwrSleepAttempt, pwrSleepEntered, pwrSleepAborted, pwrWakeGpio, pwrWakeRtc, pwrLastAbortReason, rfLastConfigStatus,
      rfLastRxStatus, rfLastTxStatus, llDropCount, bootResetStatus, faultMarker, faultMepc, faultMcause, faultMtval, pwrLoopPasses,
      pwrLoopStage, llHidRx, llHidTx, llHidRxDown, llHidTxDown, llHidTxDoneDown, llHidFifoDrop⟩)
  invFun
    | (version, s) =>
      (version, s.rfState, s.llBootCount, s.rfPairBcastCount, s.rfValidRxCount, s.enteredConnectedCount, s.rfConfigCount,
      s.pwrPairRxOffCount, s.pwrWfiCount, s.pwrSleepAttempt, s.pwrSleepEntered, s.pwrSleepAborted, s.pwrWakeGpio, s.pwrWakeRtc,
      s.pwrLastAbortReason, s.rfLastConfigStatus, s.rfLastRxStatus, s.rfLastTxStatus, s.llDropCount, s.bootResetStatus,
      s.faultMarker, s.faultMepc, s.faultMcause, s.faultMtval, s.pwrLoopPasses, s.pwrLoopStage, s.llHidRx, s.llHidTx,
      s.llHidRxDown, s.llHidTxDown, s.llHidTxDoneDown, s.llHidFifoDrop)
  left_inv _ := rfl
  right_inv _ := rfl

/-- The payload: the layout `FMT` of `struct.unpack`. -/
def diagPayload : Format (BitVec 8 × DiagSnapshot) Byte :=
  .as diagFields <|
    uint8.seq <| uint8.seq <| uint32.seq <| uint32.seq <| uint32.seq <| uint32.seq <| uint32.seq <| uint32.seq <| uint32.seq <|
    uint16.seq <| uint16.seq <| uint16.seq <| uint16.seq <| uint16.seq <| uint8.seq <| uint8.seq <| uint8.seq <| uint8.seq <|
    uint32.seq <| uint8.seq <| uint8.seq <| uint32.seq <| uint32.seq <| uint32.seq <| uint16.seq <| uint8.seq <| uint32.seq <|
    uint32.seq <| uint32.seq <| uint32.seq <| uint32.seq <| uint32

/-- `decode`: the version and the snapshot, or nothing where an assertion of it fails. -/
def decode : List Byte → Option (BitVec 8 × DiagSnapshot)
  | header :: n :: rest =>
    if header = diagFrameHeader ∧ rest.length + 2 = n.toNat + 3 ∧
        (header :: n :: rest).getLast? = some (byteSum (header :: n :: rest).dropLast) ∧ n = diagPayloadLen then
      diagPayload.whole rest.dropLast
    else none
  | _ => none

end OpenController
