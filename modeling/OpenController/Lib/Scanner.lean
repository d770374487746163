import Mathlib.Data.List.Basic

/-!
# Scanning a stream for windows

A stream is read from left to right. An element with `window b ≠ 0` is a header: once `window b` elements from it on have
arrived, they are emitted when `valid` accepts them, and the scan goes on behind them; otherwise it goes on with the element
after the header. Elements that are not headers are skipped. `scan` gives the windows emitted and the elements still held: a
header whose window has not fully arrived, and what follows it.
-/

namespace OpenController.Scanner

variable {α : Type _} (window : α → Nat) (valid : List α → Bool)

/-- The windows emitted and the elements held. The first argument counts the elements that still belong to the window emitted
last. -/
def scan : Nat → List α → List (List α) × List α
  | _, [] => ([], [])
  | k + 1, _ :: l => scan k l
  | 0, b :: l =>
    if window b = 0 then scan 0 l
    else if (b :: l).length < window b then ([], b :: l)
    else if valid ((b :: l).take (window b)) then
      ((b :: l).take (window b) :: (scan (window b - 1) l).1, (scan (window b - 1) l).2)
    else scan 0 l

/-- What follows each window emitted. -/
def restarts : Nat → List α → List (List α)
  | _, [] => []
  | k + 1, _ :: l => restarts k l
  | 0, b :: l =>
    if window b = 0 then restarts 0 l
    else if (b :: l).length < window b then []
    else if valid ((b :: l).take (window b)) then (b :: l).drop (window b) :: restarts (window b - 1) l
    else restarts 0 l

@[simp] theorem scan_nil (k : Nat) : scan window valid k [] = ([], []) := by
  cases k <;> rfl

@[simp] theorem restarts_nil (k : Nat) : restarts window valid k [] = [] := by
  cases k <;> rfl

variable {window valid}

/-! ## One step at a header -/

theorem scan_skip {b : α} (l : List α) (h : window b = 0) : scan window valid 0 (b :: l) = scan window valid 0 l := by
  simp [scan, h]

theorem restarts_skip {b : α} (l : List α) (h : window b = 0) :
    restarts window valid 0 (b :: l) = restarts window valid 0 l := by
  simp [restarts, h]

/-- Elements that are not headers are passed over. -/
theorem scan_dropWhile (window : α → Nat) (valid : List α → Bool) (l : List α) :
    scan window valid 0 (l.dropWhile fun b => window b = 0) = scan window valid 0 l ∧
      restarts window valid 0 (l.dropWhile fun b => window b = 0) = restarts window valid 0 l := by
  induction l with
  | nil => exact ⟨rfl, rfl⟩
  | cons b l ih =>
    by_cases hb : window b = 0
    · rw [List.dropWhile_cons, if_pos (by simpa using hb), scan_skip l hb, restarts_skip l hb]
      exact ih
    · rw [List.dropWhile_cons, if_neg (by simpa using hb)]
      exact ⟨rfl, rfl⟩

/-- The elements of the window emitted last are passed over. -/
theorem scan_drop (k : Nat) (l : List α) : scan window valid k l = scan window valid 0 (l.drop k) := by
  induction l generalizing k with
  | nil => simp
  | cons b l ih =>
    cases k with
    | zero => rfl
    | succ k => exact ih k

theorem restarts_drop (k : Nat) (l : List α) : restarts window valid k l = restarts window valid 0 (l.drop k) := by
  induction l generalizing k with
  | nil => simp
  | cons b l ih =>
    cases k with
    | zero => rfl
    | succ k => exact ih k

/-- A window that has not fully arrived is held. -/
theorem scan_short (valid : List α → Bool) {b : α} {l : List α} (h : (b :: l).length < window b) :
    scan window valid 0 (b :: l) = ([], b :: l) ∧ restarts window valid 0 (b :: l) = [] := by
  have h0 : window b ≠ 0 := by omega
  exact ⟨by rw [scan, if_neg h0, if_pos h], by rw [restarts, if_neg h0, if_pos h]⟩

/-- A valid window is emitted, and the scan goes on behind it. -/
theorem scan_valid (valid : List α → Bool) {b : α} {l : List α} (h0 : window b ≠ 0) (h : window b ≤ (b :: l).length)
    (hv : valid ((b :: l).take (window b)) = true) :
    scan window valid 0 (b :: l) = ((b :: l).take (window b) :: (scan window valid 0 ((b :: l).drop (window b))).1,
      (scan window valid 0 ((b :: l).drop (window b))).2) ∧
    restarts window valid 0 (b :: l) =
      (b :: l).drop (window b) :: restarts window valid 0 ((b :: l).drop (window b)) := by
  obtain ⟨n, hn⟩ : ∃ n, window b = n + 1 := ⟨window b - 1, by omega⟩
  have hs : ¬(b :: l).length < window b := by omega
  refine ⟨?_, ?_⟩
  · rw [scan, if_neg h0, if_neg hs, if_pos hv, scan_drop (window b - 1) l, hn]
    rfl
  · rw [restarts, if_neg h0, if_neg hs, if_pos hv, restarts_drop (window b - 1) l, hn]
    rfl

/-- After a window that is not valid the scan goes on behind its header. -/
theorem scan_invalid (valid : List α → Bool) {b : α} {l : List α} (h0 : window b ≠ 0) (h : window b ≤ (b :: l).length)
    (hv : valid ((b :: l).take (window b)) = false) :
    scan window valid 0 (b :: l) = scan window valid 0 l ∧ restarts window valid 0 (b :: l) = restarts window valid 0 l := by
  have hs : ¬(b :: l).length < window b := by omega
  exact ⟨by rw [scan, if_neg h0, if_neg hs, hv, if_neg nofun], by rw [restarts, if_neg h0, if_neg hs, hv, if_neg nofun]⟩

/-! ## Scanning a stream piece by piece -/

/-- A scan goes on from what it holds. -/
theorem scan_append (k : Nat) (s t : List α) (hk : k ≤ s.length) :
    scan window valid k (s ++ t) = ((scan window valid k s).1 ++ (scan window valid 0 ((scan window valid k s).2 ++ t)).1,
      (scan window valid 0 ((scan window valid k s).2 ++ t)).2) := by
  induction s generalizing k with
  | nil =>
    obtain rfl : k = 0 := by simpa using hk
    simp
  | cons b s ih =>
    cases k with
    | succ k => exact ih k (by simpa using hk)
    | zero =>
      by_cases h0 : window b = 0
      · rw [List.cons_append, scan_skip _ h0, scan_skip _ h0]
        exact ih 0 (Nat.zero_le _)
      by_cases hs : (b :: s).length < window b
      · simp [(scan_short valid hs).1]
      · have hw : window b ≤ (b :: s).length := by omega
        have htake : (b :: (s ++ t)).take (window b) = (b :: s).take (window b) :=
          @List.take_append_of_le_length α (b :: s) t _ hw
        have hdrop : (b :: (s ++ t)).drop (window b) = (b :: s).drop (window b) ++ t :=
          @List.drop_append_of_le_length α (b :: s) t _ hw
        have hw' : window b ≤ (b :: (s ++ t)).length := by
          simp only [List.length_cons, List.length_append] at hw ⊢
          omega
        cases hv : valid ((b :: s).take (window b)) with
        | true =>
          obtain ⟨n, hn⟩ : ∃ n, window b = n + 1 := ⟨window b - 1, by omega⟩
          have hvt : valid ((b :: (s ++ t)).take (window b)) = true := by rw [htake, hv]
          have hn' : n ≤ s.length := by simpa [hn] using hw
          have := ih n hn'
          rw [List.cons_append, (scan_valid valid h0 hw' hvt).1, (scan_valid valid h0 hw hv).1, htake, hdrop]
          rw [scan_drop n (s ++ t), scan_drop n s, List.drop_append_of_le_length hn'] at this
          simp only [hn, List.drop_succ_cons] at this ⊢
          rw [this]
          rfl
        | false =>
          have hvt : valid ((b :: (s ++ t)).take (window b)) = false := by rw [htake, hv]
          rw [List.cons_append, (scan_invalid valid h0 hw' hvt).1, (scan_invalid valid h0 hw hv).1]
          exact ih 0 (Nat.zero_le _)

/-- When nothing is emitted there is nothing behind an emitted window. -/
theorem restarts_eq_nil (k : Nat) (l : List α) (h : (scan window valid k l).1 = []) : restarts window valid k l = [] := by
  induction l generalizing k with
  | nil => simp
  | cons b l ih =>
    cases k with
    | succ k => exact ih k h
    | zero =>
      by_cases h0 : window b = 0
      · rw [restarts_skip _ h0]
        exact ih 0 (by rwa [scan_skip _ h0] at h)
      by_cases hs : (b :: l).length < window b
      · exact (scan_short valid hs).2
      · have hw : window b ≤ (b :: l).length := by omega
        cases hv : valid ((b :: l).take (window b)) with
        | true => simp [(scan_valid valid h0 hw hv).1] at h
        | false =>
          rw [(scan_invalid valid h0 hw hv).2]
          exact ih 0 (by rwa [(scan_invalid valid h0 hw hv).1] at h)

end OpenController.Scanner
