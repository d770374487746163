import OpenController.UartRing
import OpenController.Lemmas.UartParserAux

/-!
# Helpers for the UART ring

What a push, an activation, the feed and the tail increment do to the bytes in the ring, and how the frames a parser dispatches
lie in the bytes fed to it (`Stretches`).
-/

namespace OpenController
namespace UartRx

variable {α : Type}

/-- The indices are bytes, and the ring holds at most its size. -/
structure Sized (u : UartRx α) : Prop where
  head_lt : u.head < 256
  tail_lt : u.tail < 256
  count_le : u.count ≤ kbdUartRingSize

theorem length_bytes (u : UartRx α) : u.bytes.length = u.count := Ring.length_view _ _ _ _

/-- The ring is empty exactly when its indices meet. -/
theorem bytes_eq_nil (u : UartRx α) (h : Sized u) : u.bytes = [] ↔ u.tail = u.head := by
  have h1 := h.head_lt
  have h2 := h.tail_lt
  rw [← List.length_eq_zero_iff, length_bytes, count, sub8]
  omega

/-- The byte at the tail is the oldest one in the ring. -/
theorem bytes_cons (u : UartRx α) (hc : 0 < u.count) : u.bytes = u.tailByte :: u.bytes.tail := by
  obtain ⟨n, hn⟩ : ∃ n, u.count = n + 1 := ⟨u.count - 1, by omega⟩
  simp only [bytes, hn, Ring.view_cons, List.tail_cons, tailByte]

/-! ## The handler -/

theorem push_room (u : UartRx α) (b : α) (h : Sized u) (hc : u.count < kbdUartRingSize) :
    Sized (u.push b) ∧ (u.push b).bytes = u.bytes ++ [b] ∧ (u.push b).count = u.count + 1 := by
  have h1 := h.head_lt
  have h2 := h.tail_lt
  have hcount : (u.push b).count = u.count + 1 := by
    simp only [push, if_pos hc]
    simp only [count, sub8, u8, kbdUartRingSize] at hc ⊢
    omega
  refine ⟨⟨?_, ?_, ?_⟩, ?_, hcount⟩
  · simp only [push, if_pos hc, u8]
    omega
  · simp only [push, if_pos hc]
    exact h2
  · rw [hcount]
    omega
  · have hslot : u.head % kbdUartRingSize = (u.tail + u.count) % kbdUartRingSize := by
      simp only [count, sub8, kbdUartRingSize]
      omega
    rw [bytes, hcount]
    simp only [push, if_pos hc, hslot]
    exact Ring.view_push _ hc b

/-- The handler keeps the bytes that fit, in order, and sets the latch when one does not. -/
theorem foldl_push (l : List α) (u : UartRx α) (h : Sized u) :
    Sized (l.foldl push u) ∧ (l.foldl push u).bytes = u.bytes ++ l.take (kbdUartRingSize - u.count) ∧
      (l.foldl push u).count = u.count + (l.take (kbdUartRingSize - u.count)).length ∧
      (l.foldl push u).tail = u.tail ∧ (l.foldl push u).parser = u.parser ∧
      (l.foldl push u).overrunLatch = (u.overrunLatch || decide (kbdUartRingSize - u.count < l.length)) := by
  induction l generalizing u with
  | nil => exact ⟨h, by simp, by simp, rfl, rfl, by simp⟩
  | cons b l ih =>
    rw [List.foldl_cons]
    by_cases hc : u.count < kbdUartRingSize
    · obtain ⟨hs, hb, hcount⟩ := push_room u b h hc
      obtain ⟨h1, h2, h3, h4, h5, h6⟩ := ih (u.push b) hs
      have hroom : kbdUartRingSize - u.count = (kbdUartRingSize - (u.push b).count) + 1 := by
        rw [hcount]
        omega
      have hpush : (u.push b).tail = u.tail ∧ (u.push b).parser = u.parser ∧
          (u.push b).overrunLatch = u.overrunLatch := by simp [push, hc]
      refine ⟨h1, ?_, ?_, h4.trans hpush.1, h5.trans hpush.2.1, ?_⟩
      · rw [h2, hb, hroom, List.take_succ_cons, List.append_assoc, List.singleton_append]
      · rw [h3, hroom, List.take_succ_cons, List.length_cons, hcount]
        omega
      · rw [h6, hpush.2.2, hroom]
        simp
    · have hfull : u.push b = { u with overrunLatch := true } := by simp [push, hc]
      obtain ⟨h1, h2, h3, h4, h5, h6⟩ := ih (u.push b) (by rw [hfull]; exact ⟨h.head_lt, h.tail_lt, h.count_le⟩)
      have hcount : (u.push b).count = u.count := by rw [hfull]; rfl
      have hroom : kbdUartRingSize - u.count = 0 := by omega
      rw [hcount, hroom, List.take_zero] at h2 h3
      refine ⟨h1, ?_, ?_, by rw [h4, hfull], by rw [h5, hfull], ?_⟩
      · rw [h2, hroom, List.take_zero, hfull]
        rfl
      · rw [h3, hroom, List.take_zero]
      · rw [h6, hfull, hroom]
        simp

/-- An activation keeps the bytes that fit, in order; its latch says whether a byte was lost. The head moves by the bytes kept. -/
theorem uart1IRQHandler_spec (overErr : Bool) (fifo : List α) (u : UartRx α) (h : Sized u) :
    Sized (u.uart1IRQHandler overErr fifo) ∧
      (u.uart1IRQHandler overErr fifo).bytes = u.bytes ++ fifo.take (kbdUartRingSize - u.count) ∧
      sub8 (u.uart1IRQHandler overErr fifo).head u.head = (fifo.take (kbdUartRingSize - u.count)).length ∧
      (u.uart1IRQHandler overErr fifo).parser = u.parser ∧
      (u.uart1IRQHandler overErr fifo).tail = u.tail ∧
      (u.uart1IRQHandler overErr fifo).overrunLatch =
        (u.overrunLatch || overErr || decide (kbdUartRingSize - u.count < fifo.length)) := by
  have key : ∀ v : UartRx α, Sized v → v.head = u.head → v.tail = u.tail →
      sub8 (fifo.foldl push v).head v.head = (fifo.take (kbdUartRingSize - v.count)).length := by
    intro v hv hh ht
    obtain ⟨h1, _, h3, h4, _, _⟩ := foldl_push fifo v hv
    have g1 := hv.head_lt
    have g2 := hv.tail_lt
    have g3 := h1.head_lt
    have g4 : (fifo.take (kbdUartRingSize - v.count)).length ≤ kbdUartRingSize - v.count := by
      rw [List.length_take]
      omega
    have g5 := h1.count_le
    simp only [count, sub8, h4, kbdUartRingSize] at *
    omega
  unfold uart1IRQHandler
  cases overErr with
  | false =>
    obtain ⟨h1, h2, _, h4, h5, h6⟩ := foldl_push fifo u h
    exact ⟨h1, h2, key u h rfl rfl, h5, h4, by simpa using h6⟩
  | true =>
    have hv : Sized { u with overrunLatch := true } := ⟨h.head_lt, h.tail_lt, h.count_le⟩
    obtain ⟨h1, h2, _, h4, h5, h6⟩ := foldl_push fifo { u with overrunLatch := true } hv
    exact ⟨h1, h2, key _ hv rfl rfl, h5, h4, by simpa using h6⟩

/-! ## The poll -/

theorem advance_spec (u : UartRx α) (h : Sized u) (hc : 0 < u.count) : Sized u.advance ∧ u.advance.bytes = u.bytes.tail := by
  have h1 := h.head_lt
  have h2 := h.tail_lt
  have h3 := h.count_le
  obtain ⟨n, hn⟩ : ∃ n, u.count = n + 1 := ⟨u.count - 1, by omega⟩
  have hcount : u.advance.count = n := by
    simp only [advance, count, sub8, u8, kbdUartRingSize] at hn h3 ⊢
    omega
  refine ⟨⟨h1, by simp only [advance, u8]; omega, by omega⟩, ?_⟩
  rw [bytes, bytes, hn, hcount, Ring.view_cons, List.tail_cons]
  exact Ring.view_mod _ (by decide) _ _

end UartRx

/-! ## Where the frames lie in the bytes fed -/

/-- The frames dispatched, in order, and then the bytes kept, are disjoint stretches of the bytes fed; the bytes kept are at
their end. -/
inductive Stretches {α : Type} : List α → List (List α) → List α → Prop where
  | held (h : List α) : Stretches h [] h
  | skip (b : α) {s fs h} : Stretches s fs h → Stretches (b :: s) fs h
  | frame (f : List α) {s fs h} : Stretches s fs h → Stretches (f ++ s) (f :: fs) h

namespace Stretches

variable {α : Type} {s t h h' : List α} {fs fs' : List (List α)}

/-- Bytes that are dropped without being dispatched. -/
theorem skips (l : List α) (hs : Stretches s fs h) : Stretches (l ++ s) fs h := by
  induction l with
  | nil => exact hs
  | cons b l ih => exact skip b ih

/-- More bytes, fed after those kept. -/
theorem append (hs : Stretches s fs h) (ht : Stretches (h ++ t) fs' h') : Stretches (s ++ t) (fs ++ fs') h' := by
  induction hs with
  | held h => exact ht
  | skip b _ ih => exact skip b (ih ht)
  | frame f _ ih =>
    rw [List.append_assoc]
    exact frame f (ih ht)

/-- The bytes kept are dropped. -/
theorem reset (hs : Stretches s fs h) : Stretches s fs [] := by
  have hdrop : Stretches (h ++ []) [] ([] : List α) := skips h (held [])
  simpa using hs.append hdrop

/-- The bytes kept are the last ones fed. -/
theorem suffix (hs : Stretches s fs h) : h <:+ s := by
  induction hs with
  | held h => exact List.suffix_rfl
  | skip b _ ih => exact ih.trans (List.suffix_cons b _)
  | frame f _ ih => exact ih.trans (List.suffix_append f _)

/-- A frame dispatched is a run of consecutive bytes fed. -/
theorem infix_of_mem (hs : Stretches s fs h) : ∀ f ∈ fs, f <:+: s := by
  induction hs with
  | held h => exact nofun
  | skip b _ ih => exact fun f hf => (ih f hf).trans (List.suffix_cons b _).isInfix
  | frame f _ ih =>
    intro g hg
    rcases List.mem_cons.mp hg with rfl | hg
    · exact (List.prefix_append _ _).isInfix
    · exact (ih g hg).trans (List.suffix_append f _).isInfix

/-- The frames dispatched, one after the other, and the bytes kept, are among the bytes fed in their order. -/
theorem sublist (hs : Stretches s fs h) : (fs.flatten ++ h).Sublist s := by
  induction hs with
  | held h => exact List.Sublist.refl _
  | skip b _ ih => exact ih.cons b
  | frame f _ ih =>
    rw [List.flatten_cons, List.append_assoc]
    exact (List.Sublist.refl f).append ih

end Stretches

namespace UartParser

variable {α : Type} {val : α → Byte}

/-- Pointing the parser at some bytes drops bytes before those it keeps. -/
theorem stretches_aim (val : α → Byte) (l : List α) : Stretches l [] (aim val l).buf := by
  rcases aim_cases val l with h | ⟨b, l', rfl, _, h⟩
  · rw [h]
    exact (Stretches.held l).reset
  · rw [h]
    exact Stretches.held _

/-- The loop dispatches stretches of the bytes kept, and keeps the last of them. -/
theorem processRxBuf_stretches (val : α → Byte) (fuel : Nat) (p : UartParser α) :
    Stretches p.buf (processRxBuf val fuel p).2 (processRxBuf val fuel p).1.buf := by
  induction fuel generalizing p with
  | zero => exact Stretches.held _
  | succ fuel ih =>
    simp only [processRxBuf]
    by_cases hg : p.buf ≠ [] ∧ p.expected ≠ 0 ∧ p.expected ≤ p.buf.length
    · rw [if_pos hg]
      split
      · have hrest := (stretches_aim val (p.buf.drop p.expected)).append (t := [])
          (by rw [List.append_nil, ← shiftRxBuf_eq]; exact ih _)
        have := Stretches.frame (p.buf.take p.expected) hrest
        rwa [List.append_nil, List.take_append_drop, List.nil_append] at this
      · have hrest := (stretches_aim val (p.buf.tail.dropWhile fun b => window val b = 0)).append (t := [])
          (by rw [List.append_nil, ← resyncParser_eq]; exact ih _)
        rw [List.append_nil, List.nil_append] at hrest
        have hdrop := hrest.skips (p.buf.take 1 ++ p.buf.tail.takeWhile fun b => window val b = 0)
        rw [List.append_assoc, List.takeWhile_append_dropWhile] at hdrop
        have hcons : p.buf.take 1 ++ p.buf.tail = p.buf := by
          rw [← List.drop_one]
          exact List.take_append_drop 1 p.buf
        rwa [hcons] at hdrop
    · rw [if_neg hg]
      exact Stretches.held _

/-- The frames a byte completes are stretches of the bytes kept and the byte. -/
theorem feedByte_stretches (p : UartParser α) (b : α) (h : Waits val p) :
    Stretches (p.buf ++ [b]) (feedByte val p b).2 (feedByte val p b).1.buf := by
  rcases feedByte_cases p b h with ⟨_, _, hf⟩ | ⟨c, l, hcl, _, _, hf⟩
  · rw [hf]
    exact (Stretches.held _).reset
  · rw [hf, hcl]
    exact processRxBuf_stretches val _ ⟨c :: l, window val c⟩

end UartParser
end OpenController
