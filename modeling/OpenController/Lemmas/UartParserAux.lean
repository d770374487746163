import OpenController.KeyboardUart
import OpenController.Lib.Scanner
import Mathlib.Data.List.Induction

/-!
# Helpers for the UART parser

What one round of `processRxBuf` and one `feedByte` do to the bytes kept. `shiftRxBuf` and `resyncParser` both point the parser
at the start of some of the bytes kept (`aim`), and after every byte fed the parser waits for the rest of a candidate (`Waits`).
-/

namespace OpenController
namespace UartParser

variable {α : Type} {val : α → Byte}

/-- The parser pointed at the start of some bytes: they are dropped when the first one is not a header. -/
def aim (val : α → Byte) (l : List α) : UartParser α :=
  match l with
  | [] => reset
  | b :: l => if window val b = 0 then reset else ⟨b :: l, window val b⟩

/-- The parser holds nothing, or a candidate that starts with a header and has not fully arrived. -/
def Waits (val : α → Byte) (p : UartParser α) : Prop :=
  p.buf = [] ∨ ∃ b l, p = ⟨b :: l, window val b⟩ ∧ window val b ≠ 0 ∧ (b :: l).length < window val b

/-! ## Windows and valid frames -/

theorem window_le (val : α → Byte) (b : α) : window val b ≤ 21 := by
  simp only [window, expectedForHeader]
  repeat' split
  all_goals omega

theorem checksum_take (l : List Byte) {n w : Nat} (h : n ≤ w) : checksum (l.take w) n = checksum l n := by
  simp only [checksum, List.take_take, Nat.min_eq_left h]

theorem getD_take (l : List Byte) {i w : Nat} (h : i < w) : (l.take w).getD i 0 = l.getD i 0 := by
  simp only [List.getD_eq_getElem?_getD, List.getElem?_take, if_pos h]

/-- Whether a frame is valid depends on its window only. -/
theorem frameIsValid_take (b : Byte) (l : List Byte) : frameIsValid ((b :: l).take (expectedForHeader b)) = frameIsValid (b :: l) := by
  by_cases h0 : expectedForHeader b = 0
  · simp only [expectedForHeader] at h0
    split at h0
    · cases h0
    · split at h0
      · cases h0
      · split at h0
        · cases h0
        · simp_all [expectedForHeader, frameIsValid]
  have hhead : ((b :: l).take (expectedForHeader b)).getD 0 0 = b := by
    rw [getD_take _ (by omega)]
    rfl
  have hb : (b :: l).getD 0 0 = b := rfl
  simp only [frameIsValid, hhead, hb]
  by_cases h6 : b = 0xA6
  · have hw : expectedForHeader b = 3 := by simp [expectedForHeader, h6]
    rw [if_pos h6, if_pos h6, hw, checksum_take _ (by omega), getD_take _ (by omega)]
  by_cases h1 : b = 0xA1
  · have hw : expectedForHeader b = 10 := by simp [expectedForHeader, h1]
    rw [if_neg h6, if_neg h6, if_pos h1, if_pos h1, hw, checksum_take _ (by omega), getD_take _ (by omega)]
  by_cases h9 : b = 0xA9
  · have hw : expectedForHeader b = 21 := by simp [expectedForHeader, h9]
    rw [if_neg h6, if_neg h6, if_neg h1, if_neg h1, if_pos h9, if_pos h9, hw, getD_take _ (by omega : 1 < 21)]
    by_cases hc : (2 + (b :: l).getD 1 0).toNat < 21
    · rw [checksum_take _ (by omega), getD_take _ hc]
    · rw [decide_eq_false hc]
      simp
  by_cases h61 : b = 0x61
  · have hw : expectedForHeader b = 3 := by simp [expectedForHeader, h61]
    rw [if_neg h6, if_neg h6, if_neg h1, if_neg h1, if_neg h9, if_neg h9, if_pos h61, if_pos h61, hw, getD_take _ (by omega),
      getD_take _ (by omega)]
  · exact absurd (by rw [expectedForHeader, if_neg (not_or.mpr ⟨h6, h61⟩), if_neg h1, if_neg h9]) h0

/-! ## One round of the loop -/

theorem shiftRxBuf_eq (n : Nat) (p : UartParser α) : shiftRxBuf val n p = aim val (p.buf.drop n) := by
  unfold shiftRxBuf aim
  cases p.buf.drop n <;> rfl

/-- Looking for the next header drops the bytes before it. -/
theorem resyncParser_eq (p : UartParser α) :
    resyncParser val p = aim val (p.buf.tail.dropWhile fun b => window val b = 0) := by
  have hfind : ∀ l : List α,
      (l.findIdx? fun b => window val b ≠ 0).elim [] l.drop = l.dropWhile fun b => window val b = 0 := by
    intro l
    induction l with
    | nil => rfl
    | cons b l ih =>
      by_cases hb : window val b = 0
      · simp only [List.findIdx?_cons, hb, List.dropWhile_cons]
        rw [← ih]
        cases l.findIdx? fun b => window val b ≠ 0 <;> simp
      · simp [List.findIdx?_cons, hb]
  rw [← hfind, resyncParser]
  cases hf : p.buf.tail.findIdx? fun b => window val b ≠ 0 with
  | none => rfl
  | some i =>
    have hdrop : p.buf.drop (i + 1) = p.buf.tail.drop i := by cases p.buf <;> simp
    simp only [shiftRxBuf_eq, hdrop, Option.elim_some]

/-- Pointed at some bytes, the parser holds them or nothing. -/
theorem aim_cases (val : α → Byte) (l : List α) :
    aim val l = reset ∨ ∃ b l', l = b :: l' ∧ window val b ≠ 0 ∧ aim val l = ⟨b :: l', window val b⟩ := by
  cases l with
  | nil => exact Or.inl rfl
  | cons b l =>
    by_cases hb : window val b = 0
    · exact Or.inl (by simp [aim, hb])
    · exact Or.inr ⟨b, l, rfl, hb, by simp [aim, hb]⟩

theorem aim_length (val : α → Byte) (l : List α) : (aim val l).buf.length ≤ l.length := by
  rcases aim_cases val l with h | ⟨b, l', rfl, _, h⟩
  · simp [h, reset]
  · simp [h]

/-- A round shortens the bytes kept. -/
theorem shift_lt (val : α → Byte) (p : UartParser α) (h : p.buf ≠ []) (he : p.expected ≠ 0) :
    (shiftRxBuf val p.expected p).buf.length < p.buf.length ∧ (resyncParser val p).buf.length < p.buf.length := by
  have hpos : 0 < p.buf.length := List.length_pos_iff.mpr h
  refine ⟨?_, ?_⟩
  · rw [shiftRxBuf_eq]
    have := aim_length val (p.buf.drop p.expected)
    rw [List.length_drop] at this
    omega
  · rw [resyncParser_eq]
    have h1 := aim_length val (p.buf.tail.dropWhile fun b => window val b = 0)
    have h2 := (List.dropWhile_sublist (l := p.buf.tail) fun b => decide (window val b = 0)).length_le
    rw [List.length_tail] at h2
    omega

/-- Rounds beyond the number of bytes kept change nothing: the loop has ended. -/
theorem processRxBuf_fuel (p : UartParser α) {m n : Nat} (hm : p.buf.length < m) (hn : p.buf.length < n) :
    processRxBuf val m p = processRxBuf val n p := by
  induction m generalizing p n with
  | zero => omega
  | succ m ih =>
    obtain ⟨k, rfl⟩ : ∃ k, n = k + 1 := ⟨n - 1, by omega⟩
    simp only [processRxBuf]
    by_cases hg : p.buf ≠ [] ∧ p.expected ≠ 0 ∧ p.expected ≤ p.buf.length
    · obtain ⟨h1, h2⟩ := shift_lt val p hg.1 hg.2.1
      rw [if_pos hg, if_pos hg, ih _ (by omega) (by omega : _ < k), ih (resyncParser val p) (by omega) (by omega : _ < k)]
    · rw [if_neg hg, if_neg hg]

/-- The loop stops when the candidate has not fully arrived. -/
theorem processRxBuf_waits (fuel : Nat) (p : UartParser α) (hp : p = reset ∨ ∃ b l, p = ⟨b :: l, window val b⟩ ∧ window val b ≠ 0)
    (hf : p.buf.length < fuel) : Waits val (processRxBuf val fuel p).1 := by
  induction fuel generalizing p with
  | zero => omega
  | succ fuel ih =>
    have haim : ∀ l : List α, aim val l = reset ∨ ∃ b l', aim val l = ⟨b :: l', window val b⟩ ∧ window val b ≠ 0 := by
      intro l
      rcases aim_cases val l with h | ⟨b, l', _, hb, h⟩
      · exact Or.inl h
      · exact Or.inr ⟨b, l', h, hb⟩
    simp only [processRxBuf]
    by_cases hg : p.buf ≠ [] ∧ p.expected ≠ 0 ∧ p.expected ≤ p.buf.length
    · obtain ⟨h1, h2⟩ := shift_lt val p hg.1 hg.2.1
      rw [if_pos hg]
      split
      · exact ih _ (by rw [shiftRxBuf_eq]; exact haim _) (by omega)
      · exact ih _ (by rw [resyncParser_eq]; exact haim _) (by omega)
    · rw [if_neg hg]
      rcases hp with rfl | ⟨b, l, rfl, hb⟩
      · exact Or.inl rfl
      · refine Or.inr ⟨b, l, rfl, hb, ?_⟩
        by_contra hlt
        exact hg ⟨nofun, hb, by simpa using hlt⟩

/-! ## One byte -/

/-- A byte that is not a header is dropped when nothing is kept; any other byte joins a candidate, and the loop runs on it. The
guard on a full buffer never fires. -/
theorem feedByte_cases (p : UartParser α) (b : α) (h : Waits val p) :
    (p.buf = [] ∧ window val b = 0 ∧ feedByte val p b = (⟨[], 0⟩, [])) ∨
    (∃ c l, p.buf ++ [b] = c :: l ∧ window val c ≠ 0 ∧ p.buf.length < kbdUartMaxFrame ∧
      feedByte val p b = processRxBuf val (p.buf.length + 2) ⟨c :: l, window val c⟩) := by
  rcases h with h | ⟨c, l, rfl, hc, hlt⟩
  · by_cases hb : window val b = 0
    · refine Or.inl ⟨h, hb, ?_⟩
      rw [feedByte, if_pos ⟨h, hb⟩, h]
    · refine Or.inr ⟨b, [], by simp [h], hb, by simp [h, kbdUartMaxFrame], ?_⟩
      rw [feedByte, if_neg (fun hn => hb hn.2)]
      simp [h, kbdUartMaxFrame]
  · have hle := window_le val c
    have hfull : (c :: l).length < kbdUartMaxFrame := by
      simp only [kbdUartMaxFrame]
      omega
    refine Or.inr ⟨c, l ++ [b], rfl, hc, hfull, ?_⟩
    rw [feedByte, if_neg (fun hn => List.cons_ne_nil _ _ hn.1), if_neg (Nat.not_le.mpr hfull), if_neg (List.cons_ne_nil _ _)]
    rfl

/-- After every byte the parser holds nothing or waits for the rest of a candidate. -/
theorem feedByte_waits (p : UartParser α) (b : α) (h : Waits val p) : Waits val (feedByte val p b).1 := by
  rcases feedByte_cases p b h with ⟨_, _, hf⟩ | ⟨c, l, hcl, hc, _, hf⟩
  · rw [hf]
    exact Or.inl rfl
  · rw [hf]
    refine processRxBuf_waits _ _ (Or.inr ⟨c, l, rfl, hc⟩) ?_
    have := congrArg List.length hcl
    simp only [List.length_append, List.length_singleton] at this
    simp only [← this]
    omega

/-- A stream with one more byte. -/
theorem feed_concat (p : UartParser α) (s : List α) (b : α) :
    feed val p (s ++ [b]) = ((feedByte val (feed val p s).1 b).1, (feed val p s).2 ++ (feedByte val (feed val p s).1 b).2) := by
  rw [feed, List.foldl_concat]
  rfl

theorem feed_waits (s : List α) : Waits val (feed val reset s).1 := by
  induction s using List.reverseRecOn with
  | nil => exact Or.inl rfl
  | append_singleton s b ih =>
    rw [feed_concat]
    exact feedByte_waits _ b ih

end UartParser
end OpenController
