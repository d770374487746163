import OpenController.RfCallback
import OpenController.RtcClock
import OpenController.SleepProtocol

/-!
# The counter circle

The RTC counter goes round, so of two of its values each is ahead of the other. `rtc_delta_32k` and `SleepProtocol_ElapsedTicks` read
the time between two samples and take a short way back for a stale sample; the servo of the hop goes the short way around.
-/

namespace OpenController

/-- How far one value of the counter is ahead of another, around the modulus. -/
def rtcAhead (now then_ : Nat) : Nat := ((now : Int) - then_) % (rtc32kWrap : Int) |>.toNat

/-- The time between two samples is none if the later one is stale, and otherwise the way from one to the other. -/
def ReadsElapsed (elapsed now then_ : Nat) : Prop :=
  (1 ≤ rtcAhead then_ now ∧ rtcAhead then_ now ≤ rtc32kBackstepTolerance → elapsed = 0) ∧
    (rtcAhead now then_ < rtc32kWrap - rtc32kBackstepTolerance → elapsed = rtcAhead now then_)

/-- Both readers do so. The sleep service reads its holdoff with `RTC_MAX_COUNT` and the same tolerance. -/
def HonoursBackstep (now then_ : Nat) : Prop :=
  ReadsElapsed (rtcDelta32k now then_) now then_ ∧
    ReadsElapsed (sleepProtocolElapsedTicks now then_ rtcMaxCount rtc32kBackstepTolerance) now then_

/-- The counter went round between a stale sample and the one before it. -/
def StaleAcrossWrap (now then_ : Nat) : Prop := then_ ≤ now ∧ rtc32kWrap - rtc32kBackstepTolerance ≤ now - then_

/-- The phase of a reference relative to an anchor: the way from the anchor to it, the short way around. -/
def IsPhase (ref anchor : Nat) (e : Int) : Prop :=
  -(rtc32kWrap : Int) / 2 < e ∧ e ≤ (rtc32kWrap : Int) / 2 ∧ ((anchor : Int) + e) % rtc32kWrap = (ref : Int) % rtc32kWrap

/-- The way forward that `rtc_signed_delta_32k` computes in 32-bit words. -/
def wayForward32k (ref a : Nat) : Nat := if ref ≥ a then ref - a else u32 (sub32 rtc32kWrap a + ref)

/-- The phase after `m` calls of the servo: one tick less each, until it is within the deadband. -/
def servoPhase (e : Int) (m : Nat) : Int := e - e.sign * min m (e.natAbs - 1)

/-- Calls of the servo with a reference of constant phase: between two calls both it and the anchor move on by the same way. -/
def ServoCalls (ref : Nat → Nat) (hop : Nat → RfHop) : Prop :=
  ∀ i, ∃ way : Int, ref (i + 1) = rtcAt (ref i + way) ∧ (hop (i + 1)).hopAnchor = rtcAt (((hop i).hopServo (ref i)).hopAnchor + way)

end OpenController
