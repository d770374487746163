import OpenController.Lib.Word

/-!
# The RTC32K clock

The RF task times its hops on a 32-bit counter that counts modulo `rtc32kWrap`. These are the helpers of `rf_task.c` for it.
-/

namespace OpenController

/-- The modulus of the counter (`RTC32K_WRAP`). -/
def rtc32kWrap : Nat := 0xa8c00000

/-- A reading at most this far behind the last one is a stale one (`RTC32K_BACKSTEP_TOLERANCE`). -/
def rtc32kBackstepTolerance : Nat := 1024

/-- `rtc_delta_32k`. -/
def rtcDelta32k (now then_ : Nat) : Nat :=
  if now ≥ then_ then now - then_
  else if then_ - now ≤ rtc32kBackstepTolerance then 0
  else u32 (sub32 rtc32kWrap then_ + now)

/-- `rtc_backdate_32k`. -/
def rtcBackdate32k (t ticks : Nat) : Nat := if t ≥ ticks then t - ticks else sub32 rtc32kWrap (ticks - t)

/-- The loop of `rtc_add_32k`, for at most as many rounds as its first argument. -/
def rtcReduce : Nat → Nat → Nat
  | 0, s => s
  | rounds + 1, s => if s ≥ rtc32kWrap then rtcReduce rounds (s - rtc32kWrap) else s

/-- `rtc_add_32k`. Twice the modulus is more than 32 bits hold, so the loop ends within two rounds. -/
def rtcAdd32k (t ticks : Nat) : Nat := rtcReduce 2 (u32 (t + ticks))

/-- A `uint32_t` read as an `int32_t`. -/
def i32 (n : Nat) : Int := if n < 2147483648 then n else n - 4294967296

/-- `rtc_signed_delta_32k`: the phase of `ref` relative to `a`, the short way around. -/
def rtcSignedDelta32k (ref a : Nat) : Int :=
  let fwd := if ref ≥ a then ref - a else u32 (sub32 rtc32kWrap a + ref)
  if fwd ≤ rtc32kWrap / 2 then i32 fwd else -i32 (sub32 rtc32kWrap fwd)

/-! ## The time it shows -/

/-- What the counter shows at a time. -/
def rtcAt (time : Int) : Nat := (time % rtc32kWrap).toNat

/-- Two values of the counter are at most `width` ticks apart, on either side, around the modulus. -/
def RtcNear (width : Int) (ref a : Nat) : Prop := ∃ off : Int, -width ≤ off ∧ off ≤ width ∧ a = rtcAt (ref + off)

end OpenController
