import OpenController.Rtc

/-!
# The monotonic clock

`rtc_clock.c`: the application's bounded waits are timed by a clock that folds raw samples of a counter into ticks that never run
backwards. A sample may be stale: it shows a value the counter had a little earlier.
-/

namespace OpenController

/-- `RTC_MAX_COUNT`: RTC32K counts modulo it. -/
def rtcMaxCount : Nat := rtc32kWrap

/-- `RTC_CLOCK_BACKSTEP`. -/
def rtcClockBackstep : Nat := 1024

/-- `rtc_clock_t`. -/
structure RtcClock where
  started : Bool
  lastRaw : Nat
  elapsed : Nat
  deriving DecidableEq, Repr

namespace RtcClock

/-- The clock before its first sample, all bytes zero. -/
def zeroed : RtcClock := { started := false, lastRaw := 0, elapsed := 0 }

/-- The modular distance `RtcClock_Advance` computes, from the newest value forward to the sample. -/
def delta (clk : RtcClock) (raw modulus : Nat) : Nat :=
  if raw ≥ clk.lastRaw then sub32 raw clk.lastRaw else u32 (raw + sub32 modulus clk.lastRaw)

/-- `RtcClock_Advance`: the clock after the sample. It returns `elapsed` of that. -/
def advance (clk : RtcClock) (raw modulus backstep : Nat) : RtcClock :=
  if !clk.started then { clk with started := true, lastRaw := raw }
  else if clk.delta raw modulus ≠ 0 ∧ clk.delta raw modulus ≥ sub32 modulus backstep then clk
  else { clk with elapsed := u32 (clk.elapsed + clk.delta raw modulus), lastRaw := raw }

/-- `RtcClock_Now`, with the sample that `RTC_GetCycle32k` returns. -/
def now (clk : RtcClock) (cycle32k : Nat) : RtcClock := clk.advance cycle32k rtcMaxCount rtcClockBackstep

/-! ## A run of samples -/

/-- What a counter that counts modulo `modulus` shows at a time. -/
def shows (modulus : Nat) (time : Int) : Nat := (time % modulus).toNat

/-- The clock after the samples 0 to `n - 1` of a counter; `sampled` are the times they show. -/
def after (modulus backstep : Nat) (sampled : Nat → Int) : Nat → RtcClock
  | 0 => zeroed
  | n + 1 => (after modulus backstep sampled n).advance (shows modulus (sampled n)) modulus backstep

/-- What the sample `n` returns. -/
def returned (modulus backstep : Nat) (sampled : Nat → Int) (n : Nat) : Nat :=
  (after modulus backstep sampled (n + 1)).elapsed

/-- The newest time shown by the samples 0 to `n`. -/
def newest (sampled : Nat → Int) : Nat → Int
  | 0 => sampled 0
  | n + 1 => max (newest sampled n) (sampled (n + 1))

end RtcClock
end OpenController
