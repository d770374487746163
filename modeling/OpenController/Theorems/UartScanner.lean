import OpenController.UartScanner
import OpenController.Lemmas.UartParserAux

/-!
# The UART parser and the scanner

The two agree on a byte fed exactly when it is `Settled` (`feedByte_scan`), and so on every beginning of a stream exactly when
every byte of it is (`uartParser_eq_scanner`). A frame behind a stray byte that follows an accepted one is dropped:
`uartParser_eq_scanner_false`.
-/

namespace OpenController
namespace UartParser

variable {α : Type} {val : α → Byte}

/-- Every accepted frame among some bytes is followed by bytes that may follow one. -/
def Clean (val : α → Byte) (l : List α) : Prop := ∀ r ∈ refRestarts val l, Harmless val r

/-- The result of the loop is the scanner's, on the bytes `l`. -/
def Scanned (val : α → Byte) (r : UartParser α × List (List α)) (l : List α) : Prop :=
  r.2 = (refScan val l).1 ∧ r.1.buf = (refScan val l).2

theorem frameIsValid_window (b : α) (l : List α) :
    frameIsValid (((b :: l).take (window val b)).map val) = frameIsValid ((b :: l).map val) := by
  rw [List.map_take]
  exact frameIsValid_take (val b) (l.map val)

/-- The scanner has nothing left exactly when the parser may drop what is left. -/
theorem clean_of_nothing {l : List α} (h : refScan val l = ([], [])) : Clean val l := by
  intro r hr
  have hnil : refRestarts val l = [] := Scanner.restarts_eq_nil 0 l (by rw [refScan] at h; rw [h])
  rw [hnil] at hr
  exact absurd hr List.not_mem_nil

/-- With nothing kept the loop does nothing. -/
theorem processRxBuf_reset (fuel : Nat) : processRxBuf val fuel reset = (reset, []) := by
  cases fuel with
  | zero => rfl
  | succ fuel => rw [processRxBuf, if_neg (fun h => h.1 rfl)]

/-- The loop agrees with the scanner exactly when nothing stray follows an accepted frame. Each round is one choice of the
scanner, but for the round that accepts a frame with a byte behind it that is not a header: the parser stops there. -/
theorem processRxBuf_scan (fuel : Nat) (b : α) (l : List α) (hb : window val b ≠ 0) (hf : (b :: l).length < fuel) :
    Scanned val (processRxBuf val fuel ⟨b :: l, window val b⟩) (b :: l) ↔ Clean val (b :: l) := by
  induction fuel generalizing b l with
  | zero => omega
  | succ fuel ih =>
    by_cases hs : (b :: l).length < window val b
    · have hstop : ¬((b :: l) ≠ [] ∧ window val b ≠ 0 ∧ window val b ≤ (b :: l).length) := by
        rintro ⟨_, _, h⟩
        omega
      obtain ⟨h1, h2⟩ := Scanner.scan_short (fun l => frameIsValid (l.map val)) hs
      rw [Scanned, Clean, refScan, refRestarts, h1, h2, processRxBuf, if_neg hstop]
      exact iff_of_true ⟨rfl, rfl⟩ (by rintro _ ⟨⟩)
    have hw : window val b ≤ (b :: l).length := by omega
    have hgo : (b :: l) ≠ [] ∧ window val b ≠ 0 ∧ window val b ≤ (b :: l).length := ⟨by rintro ⟨⟩, hb, hw⟩
    cases hv : frameIsValid ((b :: l).map val) with
    | true =>
      obtain ⟨h1, h2⟩ := Scanner.scan_valid (fun l => frameIsValid (l.map val)) hb hw
        (by rw [frameIsValid_window, hv])
      rw [Scanned, Clean, refScan, refRestarts, h1, h2, processRxBuf, if_pos hgo, if_pos hv]
      simp only [shiftRxBuf_eq, List.forall_mem_cons, List.cons.injEq, true_and]
      have hlen : ((b :: l).drop (window val b)).length < fuel := by
        rw [List.length_drop]
        omega
      generalize (b :: l).drop (window val b) = r at hlen
      cases r with
      | nil =>
        rw [show aim val ([] : List α) = reset from rfl, processRxBuf_reset]
        simp [Harmless, reset]
      | cons c r =>
        by_cases hc : window val c = 0
        · -- the parser drops these bytes: it agrees exactly when the scanner finds nothing in them
          have hdrop : aim val (c :: r) = reset := by simp [aim, hc]
          have hh : Harmless val (c :: r) ↔ refScan val (c :: r) = ([], []) := by simp [Harmless, hc]
          rw [hdrop, processRxBuf_reset, hh, show reset.buf = ([] : List α) from rfl]
          refine ⟨fun h => ?_, fun h => ?_⟩
          · have hnone : refScan val (c :: r) = ([], []) := Prod.ext h.1.symm h.2.symm
            exact ⟨hnone, clean_of_nothing hnone⟩
          · have hnone := h.1
            rw [refScan] at hnone
            rw [hnone]
            exact ⟨rfl, rfl⟩
        · have haim : aim val (c :: r) = ⟨c :: r, window val c⟩ := by simp [aim, hc]
          have hh : Harmless val (c :: r) := Or.inl hc
          rw [haim, iff_true_intro hh, true_and]
          exact ih c r hc hlen
    | false =>
      obtain ⟨h1, h2⟩ := Scanner.scan_invalid (fun l => frameIsValid (l.map val)) hb hw
        (by rw [frameIsValid_window, hv])
      obtain ⟨h3, h4⟩ := Scanner.scan_dropWhile (window val) (fun l => frameIsValid (l.map val)) l
      rw [Scanned, Clean, refScan, refRestarts, h1, h2, processRxBuf, if_pos hgo, hv, if_neg (by rintro ⟨⟩), resyncParser_eq,
        List.tail_cons, ← h3, ← h4]
      have hlen : (l.dropWhile fun b => window val b = 0).length < fuel := by
        have := (List.dropWhile_sublist (l := l) fun b => decide (window val b = 0)).length_le
        rw [List.length_cons] at hf
        omega
      have hhead := List.head?_dropWhile_not (fun b => decide (window val b = 0)) l
      generalize (l.dropWhile fun b => window val b = 0) = r at hlen hhead
      cases r with
      | nil =>
        rw [show aim val ([] : List α) = reset from rfl, processRxBuf_reset]
        simp [reset]
      | cons c r =>
        have hc : window val c ≠ 0 := by simpa using hhead
        have haim : aim val (c :: r) = ⟨c :: r, window val c⟩ := by simp [aim, hc]
        rw [haim]
        exact ih c r hc hlen

/-! ## One byte -/

/-- The parser and the scanner agree on a byte exactly when nothing stray follows an accepted frame. -/
theorem feedByte_scan (p : UartParser α) (b : α) (h : Waits val p) :
    Scanned val (feedByte val p b) (p.buf ++ [b]) ↔ Settled val p b := by
  rcases feedByte_cases p b h with ⟨hp, hb, hf⟩ | ⟨c, l, hcl, hc, _, hf⟩
  · have hnone : refScan val (p.buf ++ [b]) = ([], []) := by
      rw [hp, refScan, List.nil_append, Scanner.scan_skip _ hb, Scanner.scan_nil]
    rw [Scanned, hf, hnone]
    exact iff_of_true ⟨rfl, rfl⟩ (clean_of_nothing hnone)
  · have hlen : (c :: l).length < p.buf.length + 2 := by
      rw [← hcl, List.length_append, List.length_singleton]
      omega
    rw [Settled, hf, hcl]
    exact processRxBuf_scan _ c l hc hlen

/-- The scanner goes on from what it holds. -/
theorem refScan_concat (s : List α) (b : α) :
    refScan val (s ++ [b]) = ((refScan val s).1 ++ (refScan val ((refScan val s).2 ++ [b])).1,
      (refScan val ((refScan val s).2 ++ [b])).2) :=
  Scanner.scan_append 0 s [b] (Nat.zero_le _)

/-- Where the two agree, they agree on one more byte exactly when it is settled. -/
theorem agrees_concat (s : List α) (b : α) (h : Agrees val s) :
    Agrees val (s ++ [b]) ↔ Settled val (feed val reset s).1 b := by
  obtain ⟨hframes, hheld⟩ := h
  rw [← feedByte_scan _ b (feed_waits s), Agrees, feed_concat, refScan_concat, ← hheld, hframes]
  simp only [Scanned, List.append_cancel_left_eq]

end UartParser

/-- The parser and the scanner, from the reset state. On every stream whose bytes are all settled, the frames handed to
`dispatch_frame` are the scanner's after every byte; and the two agree on the frames and on the bytes kept after every byte
exactly when every byte is settled. -/
theorem uartParser_eq_scanner (s : List Byte) :
    ((∀ t b, t ++ [b] <+: s → UartParser.Settled id (UartParser.feed id UartParser.reset t).1 b) →
      ∀ t, t <+: s → (UartParser.feed id UartParser.reset t).2 = (UartParser.refScan id t).1) ∧
    ((∀ t b, t ++ [b] <+: s → UartParser.Settled id (UartParser.feed id UartParser.reset t).1 b) ↔
      ∀ t, t <+: s → UartParser.Agrees id t) := by
  have hrun : (∀ t b, t ++ [b] <+: s → UartParser.Settled id (UartParser.feed id UartParser.reset t).1 b) →
      ∀ t, t <+: s → UartParser.Agrees id t := by
    intro hs t ht
    induction t using List.reverseRecOn with
    | nil => exact ⟨rfl, rfl⟩
    | append_singleton t b ih =>
      have hag := ih ((List.prefix_append t [b]).trans ht)
      exact (UartParser.agrees_concat t b hag).mpr (hs t b ht)
  refine ⟨fun hs t ht => (hrun hs t ht).1, hrun, ?_⟩
  intro hag t b ht
  exact (UartParser.agrees_concat t b (hag t ((List.prefix_append t [b]).trans ht))).mp (hag _ ht)

/-- A frame that lies behind a stray byte, after an accepted frame, in the bytes of a rejected candidate, is dropped. -/
theorem uartParser_eq_scanner_false :
    ¬∀ s : List Byte, (UartParser.feed id UartParser.reset s).2 = (UartParser.refScan id s).1 := by
  intro h
  have := h [0xA1, 0xA6, 0x01, 0xA7, 0x00, 0xA6, 0x02, 0xA8, 0x00, 0x00]
  revert this
  decide

end OpenController
