import OpenController.RtcClock
import Mathlib

/-!
# The clock never runs backwards

Samples are at most `backstep` ticks stale, and the newest one moves by less than the period less `backstep` at a time. The clock
shows how far the newest sample is from the first, however often the counter goes round.
-/

namespace OpenController
namespace RtcClock

variable {modulus backstep : Nat} {sampled : Nat → Int}

/-! ## The counter -/

theorem shows_lt (h : 0 < modulus) (time : Int) : shows modulus time < modulus := by
  have hlt := Int.emod_lt_of_pos time (b := modulus) (by omega)
  have hnn := Int.emod_nonneg time (b := modulus) (by omega)
  rw [shows]
  omega

theorem shows_cast (h : 0 < modulus) (time : Int) : (shows modulus time : Int) = time % modulus :=
  Int.toNat_of_nonneg (Int.emod_nonneg time (by omega))

/-- The way forward from one value of the counter to another, around the modulus. -/
theorem delta_shows {clk : RtcClock} {last time : Int} (hpos : 0 < modulus) (hword : modulus ≤ 4294967295)
    (hlast : clk.lastRaw = shows modulus last) : (clk.delta (shows modulus time) modulus : Int) = (time - last) % modulus := by
  have hl := shows_lt hpos last
  have hr := shows_lt hpos time
  have hdiff : (time - last) % modulus = ((shows modulus time : Int) - shows modulus last) % modulus := by
    rw [shows_cast hpos, shows_cast hpos, ← Int.sub_emod]
  rw [hdiff, delta, hlast]
  by_cases hge : shows modulus time ≥ shows modulus last
  · rw [if_pos hge, Int.emod_eq_of_lt (by omega) (by omega), sub32]
    omega
  · have hround : ((shows modulus time : Int) - shows modulus last) % modulus =
        ((shows modulus time : Int) - shows modulus last + modulus) % modulus := (Int.add_emod_right _ _).symm
    rw [if_neg hge, hround, Int.emod_eq_of_lt (by omega) (by omega), u32, sub32]
    omega

/-! ## The newest sample -/

/-- The newest time is one that a sample showed, and no sample showed a later one. -/
theorem isGreatest_newest (sampled : Nat → Int) (n : Nat) : IsGreatest {time | ∃ i ≤ n, sampled i = time} (newest sampled n) := by
  induction n with
  | zero =>
    refine ⟨⟨0, Nat.le_refl 0, rfl⟩, ?_⟩
    rintro _ ⟨i, hi, rfl⟩
    obtain rfl := Nat.le_zero.mp hi
    exact Int.le_refl _
  | succ n ih =>
    obtain ⟨⟨k, hk, hkn⟩, htop⟩ := ih
    refine ⟨?_, ?_⟩
    · rcases Int.le_total (newest sampled n) (sampled (n + 1)) with hle | hle
      · exact ⟨n + 1, Nat.le_refl _, (max_eq_right hle).symm⟩
      · exact ⟨k, Nat.le_succ_of_le hk, hkn.trans (max_eq_left hle).symm⟩
    · rintro _ ⟨i, hi, rfl⟩
      rcases Nat.le_succ_iff.mp hi with hi | rfl
      · exact (htop ⟨i, hi, rfl⟩).trans (le_max_left _ _)
      · exact le_max_right _ _

/-- No sample shows a time after the true one, so the newest one does not. -/
theorem newest_le {time lag : Nat → Int} (htime : Monotone time) (hlag : ∀ i, 0 ≤ lag i) (n : Nat) :
    newest (fun i => time i - lag i) n ≤ time n := by
  obtain ⟨⟨k, hk, heq⟩, _⟩ := isGreatest_newest (fun i => time i - lag i) n
  have hmono := htime hk
  have hk' := hlag k
  omega

theorem le_newest (sampled : Nat → Int) (n : Nat) : sampled n ≤ newest sampled n :=
  (isGreatest_newest sampled n).2 ⟨n, Nat.le_refl n, rfl⟩

/-! ## One sample and a run of samples -/

/-- The clock shows the newest of the samples taken. -/
structure Shows (modulus : Nat) (clk : RtcClock) (first newest : Int) : Prop where
  started : clk.started = true
  lastRaw : clk.lastRaw = shows modulus newest
  elapsed : (clk.elapsed : Int) = (newest - first) % 4294967296

/-- A sample that is at most `backstep` behind the newest one changes nothing; one that is less than a period and `backstep` ahead
moves the clock by as much. -/
theorem shows_advance {clk : RtcClock} {first last time : Int} (hpos : 0 < modulus) (hword : modulus ≤ 4294967295)
    (hback : 2 * backstep < modulus) (h : Shows modulus clk first last) (hstale : last ≤ time + backstep)
    (hgap : max last time - last < modulus - backstep) :
    Shows modulus (clk.advance (shows modulus time) modulus backstep) first (max last time) := by
  have hdelta : (clk.delta (shows modulus time) modulus : Int) = (time - last) % modulus := delta_shows hpos hword h.lastRaw
  have hthreshold : sub32 modulus backstep = modulus - backstep := by
    rw [sub32]
    omega
  unfold advance
  rw [h.started, hthreshold]
  simp only [Bool.not_true, Bool.false_eq_true, if_false]
  by_cases hnew : last ≤ time
  · -- the sample is as new as the newest: the way forward is what it is ahead
    rw [max_eq_right hnew] at hgap ⊢
    rw [Int.emod_eq_of_lt (by omega) (by omega)] at hdelta
    rw [if_neg (by omega)]
    refine ⟨rfl, rfl, ?_⟩
    have helapsed := h.elapsed
    simp only [u32]
    omega
  · -- the sample is stale: the way forward goes almost all the way round
    have hround : (time - last) % (modulus : Int) = (time - last + modulus) % modulus := (Int.add_emod_right _ _).symm
    rw [hround, Int.emod_eq_of_lt (by omega) (by omega)] at hdelta
    rw [if_pos (by omega), max_eq_left (by omega)]
    exact h

theorem shows_after {time lag : Nat → Int} (htime : Monotone time) (hlag : ∀ i, 0 ≤ lag i ∧ lag i ≤ backstep)
    (hgap : ∀ i, newest (fun i => time i - lag i) (i + 1) - newest (fun i => time i - lag i) i < modulus - backstep)
    (hback : 2 * backstep < modulus) (hword : modulus ≤ 4294967295) (n : Nat) :
    Shows modulus (after modulus backstep (fun i => time i - lag i) (n + 1)) (time 0 - lag 0) (newest (fun i => time i - lag i) n) := by
  induction n with
  | zero =>
    refine ⟨rfl, rfl, ?_⟩
    simp [after, advance, zeroed, newest]
  | succ n ih =>
    have hle := newest_le htime (fun i => (hlag i).1) n
    have hmono : time n ≤ time (n + 1) := htime (Nat.le_succ n)
    have hlate := (hlag (n + 1)).2
    have hstale : newest (fun i => time i - lag i) n ≤ time (n + 1) - lag (n + 1) + backstep := by omega
    exact shows_advance (by omega) hword hback ih hstale (hgap n)

end RtcClock

open RtcClock in
/-- A monotonic clock over stale samples. Each sample shows a time that does not run backwards, less a lag of at most `backstep`,
modulo `modulus`, and the newest one moves by less than `modulus - backstep` at a time. Then each sample returns how far the newest
time shown so far is from the first, modulo a word; that never falls, and rises by less than a period at a time, also as the unsigned
difference of what two samples return; and the sum that goes around the modulus fits a word. -/
theorem clock_shows_newest {modulus backstep : Nat} {time lag : Nat → Int} (htime : Monotone time)
    (hlag : ∀ i, 0 ≤ lag i ∧ lag i ≤ backstep)
    (hgap : ∀ i, newest (fun i => time i - lag i) (i + 1) - newest (fun i => time i - lag i) i < modulus - backstep)
    (hback : 2 * backstep < modulus) (hword : modulus ≤ 4294967295) (n : Nat) :
    let sampled := fun i => time i - lag i
    (∀ top, IsGreatest {t | ∃ i ≤ n, sampled i = t} top →
      (returned modulus backstep sampled n : Int) = (top - sampled 0) % 4294967296) ∧
    ((sub32 (returned modulus backstep sampled (n + 1)) (returned modulus backstep sampled n) : Int) =
        newest sampled (n + 1) - newest sampled n ∧
      newest sampled n ≤ newest sampled (n + 1) ∧
      sub32 (returned modulus backstep sampled (n + 1)) (returned modulus backstep sampled n) < modulus - backstep) ∧
    (let clk := after modulus backstep sampled (n + 1)
     let raw := shows modulus (sampled (n + 1))
     clk.lastRaw ≤ modulus ∧ (raw < clk.lastRaw → raw + (modulus - clk.lastRaw) < 4294967296)) := by
  intro sampled
  have hn : Shows modulus (after modulus backstep sampled (n + 1)) (sampled 0) (newest sampled n) :=
    shows_after htime hlag hgap hback hword n
  have hn' : Shows modulus (after modulus backstep sampled (n + 2)) (sampled 0) (newest sampled (n + 1)) :=
    shows_after htime hlag hgap hback hword (n + 1)
  have hle : newest sampled n ≤ newest sampled (n + 1) := le_max_left _ _
  have hlt : newest sampled (n + 1) - newest sampled n < modulus - backstep := hgap n
  refine ⟨?_, ?_, ?_⟩
  · intro top htop
    rw [htop.unique (isGreatest_newest sampled n)]
    exact hn.elapsed
  · have he : (returned modulus backstep sampled n : Int) = (newest sampled n - sampled 0) % 4294967296 := hn.elapsed
    have he' : (returned modulus backstep sampled (n + 1) : Int) = (newest sampled (n + 1) - sampled 0) % 4294967296 := hn'.elapsed
    have hstep : (sub32 (returned modulus backstep sampled (n + 1)) (returned modulus backstep sampled n) : Int) =
        newest sampled (n + 1) - newest sampled n := by
      rw [sub32]
      omega
    exact ⟨hstep, hle, by omega⟩
  · intro clk raw
    have hclk : clk.lastRaw < modulus := hn.lastRaw ▸ shows_lt (by omega) _
    exact ⟨Nat.le_of_lt hclk, fun hlow => by omega⟩

open RtcClock in
/-- The counter goes round between the first two samples, and the third one is stale and shows a time before that. -/
theorem clock_shows_newest_wrap :
    let sampled := fun i : Nat => (3 * i - 2 : Int) - if i = 2 then 5 else 0
    shows rtcMaxCount (sampled 0) = rtcMaxCount - 2 ∧ shows rtcMaxCount (sampled 2) = rtcMaxCount - 1 ∧
      (returned rtcMaxCount rtcClockBackstep sampled 2 : Int) = (1 - sampled 0) % 4294967296 := by
  intro sampled
  have htime : Monotone fun i : Nat => (3 * i - 2 : Int) := by
    intro i j hij
    dsimp only
    omega
  have hlag (i : Nat) : (0 : Int) ≤ (if i = 2 then 5 else 0) ∧ (if i = 2 then 5 else 0 : Int) ≤ rtcClockBackstep := by
    rw [rtcClockBackstep]
    split <;> omega
  have hgap (i : Nat) : newest sampled (i + 1) - newest sampled i < rtcMaxCount - rtcClockBackstep := by
    have hle : newest sampled (i + 1) ≤ _ := newest_le htime (fun i => (hlag i).1) (i + 1)
    have hge : _ ≤ newest sampled i := le_newest sampled i
    have hback := (hlag i).2
    simp only [sampled, rtcMaxCount, rtc32kWrap, rtcClockBackstep] at hle hge hback ⊢
    omega
  have hnewest := (clock_shows_newest htime hlag hgap (by decide) (by decide) 2).1
  exact ⟨by decide, by decide, hnewest 1 (isGreatest_newest sampled 2)⟩

end OpenController
