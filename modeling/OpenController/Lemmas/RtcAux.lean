import OpenController.RfCallback

/-!
# Arithmetic of the RTC

What the helpers of `Rtc.lean` compute on values that the counter shows at times that are not far apart: that it went round in
between makes no difference.
-/

namespace OpenController

theorem rtc32kWrap_eq : rtc32kWrap = 2831155200 := rfl

/-- The counter shows the time, less the rounds it went. -/
theorem rtcAt_spec (x : Int) : rtcAt x < 2831155200 ∧ ∃ rounds : Int, x = 2831155200 * rounds + rtcAt x := by
  have hx := Int.emod_add_mul_ediv x 2831155200
  have hr : (rtcAt x : Int) = x % 2831155200 := Int.toNat_of_nonneg (Int.emod_nonneg x (by decide))
  exact ⟨by omega, x / 2831155200, by omega⟩

/-- A value that differs from the time by whole rounds is what the counter shows. -/
theorem rtcAt_eq {x : Int} {r : Nat} (rounds : Int) (h : x = 2831155200 * rounds + r) (hr : r < 2831155200) : rtcAt x = r := by
  obtain ⟨hx, rounds', h'⟩ := rtcAt_spec x
  omega

theorem rtcAt_natCast (time : Nat) : rtcAt time = time % rtc32kWrap := by
  rw [rtc32kWrap_eq]
  refine rtcAt_eq (time / 2831155200 : Nat) ?_ (by omega)
  omega

theorem rtcAt_lt (x : Int) : rtcAt x < rtc32kWrap := (rtcAt_spec x).1

theorem rtcAt_of_lt {a : Nat} (h : a < rtc32kWrap) : rtcAt a = a := by
  rw [rtcAt_natCast, Nat.mod_eq_of_lt h]

theorem rtcAt_rtcAt_add (x y : Int) : rtcAt (rtcAt x + y) = rtcAt (x + y) := by
  obtain ⟨_, rx, hx⟩ := rtcAt_spec x
  obtain ⟨hlt, rs, hs⟩ := rtcAt_spec (x + y)
  exact rtcAt_eq (rs - rx) (by omega) hlt

/-- The time from one value to a later one. -/
theorem rtcDelta32k_rtcAt {x y : Int} (h : x ≤ y) (hlt : y - x < 2831154176) : (rtcDelta32k (rtcAt y) (rtcAt x) : Int) = y - x := by
  obtain ⟨hxlt, rx, hx⟩ := rtcAt_spec x
  obtain ⟨hylt, ry, hy⟩ := rtcAt_spec y
  unfold rtcDelta32k
  rw [rtc32kWrap_eq]
  by_cases hge : rtcAt y ≥ rtcAt x
  · rw [if_pos hge]
    omega
  · have hfar : ¬rtcAt x - rtcAt y ≤ rtc32kBackstepTolerance := by
      rw [rtc32kBackstepTolerance]
      omega
    rw [if_neg hge, if_neg hfar, u32, sub32]
    omega

theorem rtcBackdate32k_rtcAt (x : Int) {ticks : Nat} (h : ticks ≤ 2831155200) :
    rtcBackdate32k (rtcAt x) ticks = rtcAt (x - ticks) := by
  obtain ⟨hxlt, rx, hx⟩ := rtcAt_spec x
  unfold rtcBackdate32k
  rw [rtc32kWrap_eq]
  by_cases hge : rtcAt x ≥ ticks
  · rw [if_pos hge]
    exact (rtcAt_eq rx (by omega) (by omega)).symm
  · have hsub : sub32 2831155200 (ticks - rtcAt x) = 2831155200 - (ticks - rtcAt x) := by
      rw [sub32]
      omega
    rw [if_neg hge, hsub]
    exact (rtcAt_eq (rx - 1) (by omega) (by omega)).symm

/-- A sum that a word holds. -/
theorem rtcAdd32k_rtcAt (x : Int) {ticks : Nat} (h : ticks ≤ 1463812096) : rtcAdd32k (rtcAt x) ticks = rtcAt (x + ticks) := by
  obtain ⟨hxlt, rx, hx⟩ := rtcAt_spec x
  have hsum : u32 (rtcAt x + ticks) = rtcAt x + ticks := u32_of_lt (by omega)
  rw [rtcAdd32k, hsum, rtcReduce, rtc32kWrap_eq]
  by_cases hge : rtcAt x + ticks ≥ 2831155200
  · have hlt : ¬rtcAt x + ticks - 2831155200 ≥ 2831155200 := by omega
    rw [if_pos hge, rtcReduce, rtc32kWrap_eq, if_neg hlt]
    exact (rtcAt_eq (rx + 1) (by omega) (by omega)).symm
  · rw [if_neg hge]
    exact (rtcAt_eq rx (by omega) (by omega)).symm

/-- The phase between two values, the short way around. -/
theorem rtcSignedDelta32k_rtcAt {x y : Int} (h : -1415577600 < y - x) (hle : y - x ≤ 1415577600) :
    rtcSignedDelta32k (rtcAt y) (rtcAt x) = y - x := by
  obtain ⟨hxlt, rx, hx⟩ := rtcAt_spec x
  obtain ⟨hylt, ry, hy⟩ := rtcAt_spec y
  -- the way forward is the phase, or the phase and one round
  have hfwd : ∀ fwd : Nat, (fwd : Int) = y - x ∨ (fwd : Int) = y - x + 2831155200 ∧ y - x < 0 →
      (if fwd ≤ rtc32kWrap / 2 then i32 fwd else -i32 (sub32 rtc32kWrap fwd)) = y - x := by
    intro fwd hcase
    rw [rtc32kWrap_eq]
    by_cases hshort : fwd ≤ 2831155200 / 2
    · rw [if_pos hshort, i32, if_pos (by omega)]
      omega
    · have hsub : sub32 2831155200 fwd = 2831155200 - fwd := by
        rw [sub32]
        omega
      rw [if_neg hshort, hsub, i32, if_pos (by omega)]
      omega
  refine hfwd _ ?_
  by_cases hge : rtcAt y ≥ rtcAt x
  · rw [if_pos hge]
    omega
  · rw [if_neg hge, u32, sub32, rtc32kWrap_eq]
    omega

/-! ## The servo -/

/-- The offset of an anchor from the reference, after the servo. -/
def servoOffset (off : Int) : Int := if off < -servoDeadband then off + 1 else if off > servoDeadband then off - 1 else off

/-- The servo moves the anchor one tick, the short way around, unless it is within the deadband. -/
theorem hopServo_rtcAt {h : RfHop} {ref off : Int} (ha : h.hopAnchor = rtcAt (ref + off)) (hlo : -1415577600 ≤ off)
    (hhi : off < 1415577600) :
    h.hopServo (rtcAt ref) = { h with hopAnchor := rtcAt (ref + servoOffset off) } := by
  have herr : rtcSignedDelta32k (rtcAt ref) h.hopAnchor = -off := by
    rw [ha, rtcSignedDelta32k_rtcAt (by omega) (by omega)]
    omega
  unfold RfHop.hopServo servoOffset
  rw [herr, servoDeadband]
  by_cases hbehind : off < -1
  · rw [if_pos (by omega), if_pos hbehind, ha, rtcAdd32k_rtcAt _ (by decide), Int.add_assoc]
    rfl
  · rw [if_neg (by omega), if_neg hbehind]
    by_cases hahead : off > 1
    · rw [if_pos (by omega), if_pos hahead, ha, rtcBackdate32k_rtcAt _ (by decide), Int.add_sub_assoc]
      rfl
    · rw [if_neg (by omega), if_neg hahead, ← ha]

end OpenController
