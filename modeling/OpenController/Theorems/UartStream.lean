import OpenController.Lemmas.UartRingAux
import Mathlib.Data.List.Chain

/-!
# No frame spans a hole in the stream

The invariant (`UartOk`): while the latch is clear, the bytes the parser keeps and those in the ring stood next to each other on
the wire, up to the last byte it carried. When the latch gets set behind the latch check, one more byte is fed, and it is one that
came before the hole. Everything else goes with the discard.
-/

namespace OpenController

/-- A byte that stood on the wire right behind another. -/
def Next (x y : WireByte) : Prop := y.1 = x.1 + 1

/-- Bytes that stood next to each other, up to the last one of `arrived`. -/
def Linked (arrived : Nat) (l : List WireByte) : Prop := l.IsChain Next ∧ ∀ x ∈ l.getLast?, x.1 + 1 = arrived

namespace UartWorld

/-! ## The bytes of an activation -/

theorem kept_mem (a : Nat) (as : List (Option Byte)) : ∀ x ∈ kept a as, a ≤ x.1 ∧ x.1 < a + as.length := by
  induction as generalizing a with
  | nil => exact nofun
  | cons o as ih =>
    intro x hx
    rw [List.length_cons]
    cases o with
    | none =>
      have := ih (a + 1) x hx
      omega
    | some b =>
      rcases List.mem_cons.mp hx with rfl | hx
      · simp
      · have := ih (a + 1) x hx
        omega

theorem kept_mono (a : Nat) (as : List (Option Byte)) : (kept a as).Pairwise fun x y => x.1 < y.1 := by
  induction as generalizing a with
  | nil => exact List.Pairwise.nil
  | cons o as ih =>
    cases o with
    | none => exact ih (a + 1)
    | some b => exact List.Pairwise.cons (fun x hx => (kept_mem (a + 1) as x hx).1) (ih (a + 1))

theorem kept_length (a : Nat) (as : List (Option Byte)) :
    (kept a as).length ≤ as.length ∧ ((kept a as).length = as.length → none ∉ as) := by
  induction as generalizing a with
  | nil => exact ⟨Nat.le_refl _, fun _ => List.not_mem_nil⟩
  | cons o as ih =>
    obtain ⟨h1, h2⟩ := ih (a + 1)
    cases o with
    | none => exact ⟨by simp only [kept, List.length_cons]; omega, fun h => by simp only [kept, List.length_cons] at h; omega⟩
    | some b =>
      refine ⟨by simpa [kept] using h1, fun h => ?_⟩
      simpa using h2 (by simpa [kept] using h)

/-- When the hardware lost nothing, the bytes kept are linked from the first one on. -/
theorem kept_linked (a : Nat) (as : List (Option Byte)) (h : none ∉ as) :
    (kept a as).IsChain Next ∧ (∀ x ∈ (kept a as).head?, x.1 = a) ∧ (∀ x ∈ (kept a as).getLast?, x.1 + 1 = a + as.length) ∧
      (kept a as = [] → as = []) := by
  induction as generalizing a with
  | nil => exact ⟨List.IsChain.nil, nofun, nofun, fun _ => rfl⟩
  | cons o as ih =>
    cases o with
    | none => exact absurd List.mem_cons_self h
    | some b =>
      obtain ⟨h1, h2, h3, h4⟩ := ih (a + 1) (fun hn => h (List.mem_cons_of_mem _ hn))
      refine ⟨h1.cons fun y hy => h2 y hy, ?_, ?_, nofun⟩
      · intro x hx
        simp only [kept, List.head?_cons, Option.mem_def, Option.some.injEq] at hx
        rw [← hx]
      · intro x hx
        rw [List.length_cons]
        cases hk : kept (a + 1) as with
        | nil =>
          simp only [kept, hk, List.getLast?_singleton, Option.mem_def, Option.some.injEq] at hx
          simp [← hx, h4 hk]
        | cons c l =>
          simp only [kept, hk, List.getLast?_cons_cons] at hx
          rw [hk] at h3
          have := h3 x hx
          omega

end UartWorld

/-- The end of linked bytes is linked. -/
theorem Linked.suffix {a : Nat} {l l' : List WireByte} (h : Linked a l) (hs : l' <:+ l) : Linked a l' := by
  refine ⟨h.1.suffix hs, fun x hx => h.2 x ?_⟩
  obtain ⟨t, rfl⟩ := hs
  rw [Option.mem_def] at hx ⊢
  rw [List.getLast?_append, hx]
  rfl

/-- Linked bytes and the bytes of an activation that lost nothing. -/
theorem Linked.append {a : Nat} {l : List WireByte} (h : Linked a l) (as : List (Option Byte)) (hn : none ∉ as) :
    Linked (a + as.length) (l ++ UartWorld.kept a as) := by
  obtain ⟨h1, h2, h3, h4⟩ := UartWorld.kept_linked a as hn
  refine ⟨h.1.append h1 fun x hx y hy => ?_, fun x hx => ?_⟩
  · rw [Next, h2 y hy, h.2 x hx]
  · rw [List.getLast?_append] at hx
    cases hk : (UartWorld.kept a as).getLast? with
    | none =>
      have hnil := List.getLast?_eq_none_iff.mp hk
      rw [hk, Option.none_or] at hx
      rw [h4 hnil, List.length_nil, h.2 x hx, Nat.add_zero]
    | some y =>
      rw [hk, Option.some_or] at hx
      exact h3 x (hk ▸ hx)

namespace UartWorld

/-! ## The invariant -/

/-- The invariant of the handler and the poll. -/
structure UartOk (w : UartWorld) : Prop where
  sized : w.rx.Sized
  waits : UartParser.Waits Prod.snd w.rx.parser
  some : w.pc = .feed ∨ w.pc = .advance → 0 < w.rx.count
  sub : (w.fed ++ w.pending).Sublist w.received
  mono : w.received.Pairwise fun x y => x.1 < y.1
  past : ∀ x ∈ w.received, x.1 < w.arrived
  few : w.received.length ≤ w.arrived
  complete : w.received.length = w.arrived →
    w.rx.overrunLatch = false ∧ w.pc ≠ .discard ∧ w.pc ≠ .reset ∧ w.fed ++ w.pending = w.received
  stretches : Stretches w.fed w.dispatched w.rx.parser.buf
  frames : ∀ f ∈ w.dispatched, f.IsChain Next
  linked : w.pc ≠ .discard → w.pc ≠ .reset → w.rx.overrunLatch = false → Linked w.arrived (w.rx.parser.buf ++ w.pending)
  fresh : w.pc = .reset → w.rx.overrunLatch = false → Linked w.arrived w.pending
  first : w.pc = .empty ∨ w.pc = .feed → w.rx.overrunLatch = true →
    w.pending ≠ [] ∧ (w.rx.parser.buf ++ w.pending.take 1).IsChain Next

theorem uartOk_init : UartOk init where
  sized := ⟨by decide, by decide, by decide⟩
  waits := Or.inl rfl
  some h := by rcases h with h | h <;> cases h
  sub := List.Sublist.refl _
  mono := List.Pairwise.nil
  past := nofun
  few := Nat.le_refl _
  complete _ := ⟨rfl, nofun, nofun, rfl⟩
  stretches := Stretches.held _
  frames := nofun
  linked _ _ _ := ⟨List.IsChain.nil, nofun⟩
  fresh := nofun
  first h := by rcases h with h | h <;> cases h

/-! ## An activation -/

variable {w : UartWorld}

/-- What an activation adds is behind what is pending, and what it adds is received. -/
theorem activate_spec (h : UartOk w) (as : List (Option Byte)) :
    ∃ t, t = (kept w.arrived as).take (kbdUartRingSize - w.rx.count) ∧ (w.activate as).rx.Sized ∧
      (w.activate as).pending = w.pending ++ t ∧ (w.activate as).received = w.received ++ t ∧
      (w.activate as).rx.parser = w.rx.parser ∧ (w.pending = [] → w.rx.count ≤ 1) ∧
      (0 < w.rx.count → 0 < (w.activate as).rx.count) ∧
      (w.activate as).rx.overrunLatch = (w.rx.overrunLatch || as.contains none ||
        decide (kbdUartRingSize - w.rx.count < (kept w.arrived as).length)) := by
  obtain ⟨h1, h2, h3, h4, h5, h6⟩ := UartRx.uart1IRQHandler_spec (as.contains none) (kept w.arrived as) w.rx h.sized
  refine ⟨_, rfl, h1, ?_, ?_, h4, ?_, ?_, h6⟩
  · have hb : (w.activate as).rx.bytes = w.rx.bytes ++ (kept w.arrived as).take (kbdUartRingSize - w.rx.count) := h2
    have hpc : (w.activate as).pc = w.pc := rfl
    simp only [pending, hpc]
    by_cases hadv : w.pc = .advance
    · have hne : w.rx.bytes ≠ [] := by
        rw [← List.length_pos_iff, UartRx.length_bytes]
        exact h.some (Or.inr hadv)
      rw [if_pos hadv, if_pos hadv, hb, List.tail_append_of_ne_nil hne]
    · rw [if_neg hadv, if_neg hadv, hb]
  · have hr : (w.activate as).received = w.received ++
        (kept w.arrived as).take (sub8 (w.rx.uart1IRQHandler (as.contains none) (kept w.arrived as)).head w.rx.head) := rfl
    rw [hr, h3, List.length_take, ← List.take_eq_take_min]
  · intro hnil
    rw [← UartRx.length_bytes]
    simp only [pending] at hnil
    split at hnil
    · have := congrArg List.length hnil
      simp only [List.length_tail, List.length_nil] at this
      omega
    · simp [hnil]
  · intro hpos
    have hlen := congrArg List.length h2
    rw [UartRx.length_bytes, List.length_append, UartRx.length_bytes] at hlen
    have : (w.activate as).rx.count = (w.rx.uart1IRQHandler (as.contains none) (kept w.arrived as)).count := rfl
    omega

/-- An activation keeps the invariant. -/
theorem uartOk_activate (h : UartOk w) (as : List (Option Byte)) (has : as.head? ≠ some none) : UartOk (w.activate as) := by
  obtain ⟨t, ht, hsized, hpend, hrec, hparser, hempty, hpos, hlatch⟩ := activate_spec h as
  have hpc : (w.activate as).pc = w.pc := rfl
  have hfed : (w.activate as).fed = w.fed := rfl
  have harr : (w.activate as).arrived = w.arrived + as.length := rfl
  have hsub : t.Sublist (kept w.arrived as) := ht ▸ List.take_sublist _ _
  have hmem : ∀ x ∈ t, w.arrived ≤ x.1 ∧ x.1 < w.arrived + as.length := fun x hx => kept_mem _ _ x (hsub.subset hx)
  have hlen : t.length ≤ as.length := hsub.length_le.trans (kept_length w.arrived as).1
  -- with the latch clear, nothing was lost, and all the bytes of the activation are in the ring
  have hclear : (w.activate as).rx.overrunLatch = false → w.rx.overrunLatch = false ∧ none ∉ as ∧ t = kept w.arrived as := by
    intro hl
    rw [hlatch] at hl
    simp only [Bool.or_eq_false_iff, decide_eq_false_iff_not, Nat.not_lt] at hl
    refine ⟨hl.1.1, by simpa using hl.1.2, ?_⟩
    rw [ht, List.take_of_length_le hl.2]
  refine { sized := hsized, waits := hparser ▸ h.waits, some := fun hp => hpos (h.some hp), sub := ?_, mono := ?_, past := ?_,
           few := ?_, complete := ?_, stretches := hparser ▸ h.stretches, frames := h.frames, linked := ?_, fresh := ?_,
           first := ?_ }
  · rw [hfed, hpend, hrec, ← List.append_assoc]
    exact h.sub.append_right t
  · rw [hrec]
    refine List.pairwise_append.mpr ⟨h.mono, (kept_mono _ _).sublist hsub, fun x hx y hy => ?_⟩
    exact Nat.lt_of_lt_of_le (h.past x hx) (hmem y hy).1
  · intro x hx
    rw [hrec] at hx
    rw [harr]
    rcases List.mem_append.mp hx with hx | hx
    · have := h.past x hx
      omega
    · exact (hmem x hx).2
  · rw [hrec, harr, List.length_append]
    have := h.few
    omega
  · intro hall
    rw [hrec, harr, List.length_append] at hall
    have hfew := h.few
    obtain ⟨h1, h2, h3, h4⟩ := h.complete (by omega)
    have hkept : (kept w.arrived as).length = as.length := by
      have := hsub.length_le
      have := (kept_length w.arrived as).1
      omega
    refine ⟨?_, h2, h3, by rw [hfed, hpend, hrec, ← List.append_assoc, h4]⟩
    have hnone := (kept_length w.arrived as).2 hkept
    rw [hlatch, h1]
    simp only [Bool.false_or, Bool.or_eq_false_iff, decide_eq_false_iff_not, Nat.not_lt]
    refine ⟨by simpa using hnone, ?_⟩
    have := congrArg List.length ht
    rw [List.length_take] at this
    omega
  · intro h1 h2 hl
    obtain ⟨hl0, hnone, hk⟩ := hclear hl
    rw [hparser, hpend, harr, hk, ← List.append_assoc]
    exact (h.linked h1 h2 hl0).append as hnone
  · intro h1 hl
    obtain ⟨hl0, hnone, hk⟩ := hclear hl
    rw [hpend, harr, hk]
    exact (h.fresh h1 hl0).append as hnone
  · intro hp hl
    have hp : w.pc = .empty ∨ w.pc = .feed := hp
    have hmid : w.pc ≠ .discard ∧ w.pc ≠ .reset := by rcases hp with hp | hp <;> simp [hp]
    rw [hparser, hpend]
    by_cases hnil : w.pending = []
    · -- the ring was empty: the latch was clear, and the first byte of the activation is the next one
      have hl0 : w.rx.overrunLatch = false := by
        by_contra hl0
        exact (h.first hp (by simpa using hl0)).1 hnil
      have hlink := h.linked hmid.1 hmid.2 hl0
      obtain ⟨n, hn⟩ : ∃ n, kbdUartRingSize - w.rx.count = n + 1 := by
        have := hempty hnil
        exact ⟨62 + (1 - w.rx.count), by simp only [kbdUartRingSize]; omega⟩
      rw [hnil, List.append_nil] at hlink
      cases as with
      | nil => simp [hlatch, hl0, kept] at hl
      | cons o as =>
        cases o with
        | none => exact absurd rfl has
        | some b =>
          rw [hnil, ht, hn, List.nil_append]
          refine ⟨by rintro ⟨⟩, hlink.1.append (List.isChain_singleton _) fun x hx y hy => ?_⟩
          simp only [kept, List.take_succ_cons, List.take_zero, List.head?_cons, Option.mem_def, Option.some.injEq] at hy
          rw [Next, ← hy, hlink.2 x hx]
    · obtain ⟨c, l, hcl⟩ := List.exists_cons_of_ne_nil hnil
      have hone : (w.pending ++ t).take 1 = w.pending.take 1 := by simp [hcl]
      refine ⟨by simp [hcl], ?_⟩
      rw [hone]
      cases hl0 : w.rx.overrunLatch with
      | true => exact (h.first hp hl0).2
      | false =>
        have hlinked := (h.linked hmid.1 hmid.2 hl0).1
        rw [← List.take_append_drop 1 w.pending, ← List.append_assoc] at hlinked
        exact hlinked.left_of_append

/-! ## A step of the poll -/

/-- A step of the poll that only moves on keeps the invariant. -/
theorem uartOk_goto (h : UartOk w) (pc : PollPc) (ho : w.pc ≠ .advance ∧ w.pc ≠ .discard ∧ w.pc ≠ .reset)
    (hn : pc ≠ .advance ∧ pc ≠ .reset) (hd : pc = .discard → w.rx.overrunLatch = true) (hf : pc = .feed → 0 < w.rx.count)
    (he : pc = .empty ∨ pc = .feed → w.rx.overrunLatch = true → w.pc = .empty) : UartOk { w with pc := pc } := by
  have hpend : ({ w with pc := pc } : UartWorld).pending = w.pending := by simp [pending, ho.1, hn.1]
  refine { h with some := ?_, sub := ?_, complete := ?_, linked := ?_, fresh := ?_, first := ?_ }
  · intro hp
    rcases hp with hp | hp
    · exact hf hp
    · exact absurd hp hn.1
  · rw [hpend]
    exact h.sub
  · intro hall
    obtain ⟨h1, _, _, h4⟩ := h.complete hall
    rw [hpend]
    exact ⟨h1, fun hp => by simp [hd hp] at h1, hn.2, h4⟩
  · intro _ _ hl
    rw [hpend]
    exact h.linked ho.2.1 ho.2.2 hl
  · intro hp
    exact absurd hp hn.2
  · intro hp hl
    rw [hpend]
    exact h.first (Or.inl (he hp hl)) hl

/-- The byte fed is linked to the bytes the parser keeps. -/
theorem feed_chain (h : UartOk w) (hp : w.pc = .feed) : (w.rx.parser.buf ++ [w.rx.tailByte]).IsChain Next := by
  have hb := UartRx.bytes_cons w.rx (h.some (Or.inl hp))
  have hpend : w.pending = w.rx.tailByte :: w.rx.bytes.tail := by simp [pending, hp, ← hb]
  cases hl : w.rx.overrunLatch with
  | true =>
    have := (h.first (Or.inr hp) hl).2
    rwa [hpend] at this
  | false =>
    have := (h.linked (by simp [hp]) (by simp [hp]) hl).1
    rw [hpend, ← List.singleton_append, ← List.append_assoc] at this
    exact this.left_of_append

/-- Feeding the byte at the tail keeps the invariant: the frames it completes are stretches of linked bytes. -/
theorem uartOk_feed (h : UartOk w) (hp : w.pc = .feed) : UartOk w.poll := by
  have hpos := h.some (Or.inl hp)
  have hb := UartRx.bytes_cons w.rx hpos
  have hpend : w.pending = w.rx.tailByte :: w.rx.bytes.tail := by simp [pending, hp, ← hb]
  have hstr := UartParser.feedByte_stretches w.rx.parser w.rx.tailByte h.waits
  have hpoll : w.poll = { w with
      rx := (w.rx.feedTail Prod.snd).1
      pc := .advance
      fed := w.fed ++ [w.rx.tailByte]
      dispatched := w.dispatched ++ (w.rx.feedTail Prod.snd).2 } := by simp only [poll, hp]
  have hpend' : w.poll.pending = w.rx.bytes.tail := by rw [hpoll]; rfl
  have hall : w.poll.fed ++ w.poll.pending = w.fed ++ w.pending := by
    rw [hpend', hpend, hpoll]
    simp
  rw [hpoll] at hpend' hall ⊢
  refine { sized := ⟨h.sized.head_lt, h.sized.tail_lt, h.sized.count_le⟩, waits := UartParser.feedByte_waits _ _ h.waits,
           some := fun _ => hpos, sub := hall ▸ h.sub, mono := h.mono, past := h.past, few := h.few, complete := ?_,
           stretches := h.stretches.append hstr, frames := ?_, linked := ?_, fresh := nofun, first := ?_ }
  · intro hc
    obtain ⟨h1, _, _, h4⟩ := h.complete hc
    exact ⟨h1, nofun, nofun, hall.trans h4⟩
  · intro f hf
    rcases List.mem_append.mp hf with hf | hf
    · exact h.frames f hf
    · obtain ⟨s, t, hst⟩ := hstr.infix_of_mem f hf
      have hchain := feed_chain h hp
      rw [← hst] at hchain
      exact hchain.left_of_append.right_of_append
  · intro _ _ hl
    rw [hpend']
    obtain ⟨l, hl'⟩ := hstr.suffix
    refine (h.linked (by simp [hp]) (by simp [hp]) hl).suffix ⟨l, ?_⟩
    have hend := congrArg (· ++ w.rx.bytes.tail) hl'
    simp only [List.append_assoc, List.singleton_append] at hend
    rw [hpend, ← hend]
    rfl
  · intro hq
    rcases hq with hq | hq <;> cases hq

/-- The byte fed leaves the ring. -/
theorem uartOk_advance (h : UartOk w) (hp : w.pc = .advance) : UartOk w.poll := by
  obtain ⟨hs, hb⟩ := UartRx.advance_spec w.rx h.sized (h.some (Or.inr hp))
  have hpoll : w.poll = { w with rx := w.rx.advance, pc := .latch } := by simp only [poll, hp]
  have hpend : ({ w with rx := w.rx.advance, pc := .latch } : UartWorld).pending = w.pending := by
    simp [pending, hp, hb]
  rw [hpoll]
  refine { h with sized := hs, some := ?_, sub := ?_, complete := ?_, linked := ?_, fresh := nofun, first := ?_ }
  · intro hq
    rcases hq with hq | hq <;> cases hq
  · rw [hpend]
    exact h.sub
  · intro hc
    obtain ⟨h1, _, _, h4⟩ := h.complete hc
    rw [hpend]
    exact ⟨h1, nofun, nofun, h4⟩
  · intro _ _ hl
    rw [hpend]
    exact h.linked (by simp [hp]) (by simp [hp]) hl
  · intro hq
    rcases hq with hq | hq <;> cases hq

/-- The discard empties the ring. -/
theorem uartOk_discard (h : UartOk w) (hp : w.pc = .discard) : UartOk w.poll := by
  have hpoll : w.poll = { w with rx := w.rx.discard, pc := .reset } := by simp only [poll, hp]
  have hcount : w.rx.discard.count = 0 := by
    have := h.sized.head_lt
    simp only [UartRx.discard, UartRx.count, sub8]
    omega
  have hpend : ({ w with rx := w.rx.discard, pc := .reset } : UartWorld).pending = [] := by
    simp [pending, UartRx.bytes, hcount]
  have hs : w.rx.discard.Sized := ⟨h.sized.head_lt, h.sized.head_lt, by omega⟩
  rw [hpoll]
  refine { h with sized := hs, some := ?_, sub := ?_, complete := ?_, linked := ?_, fresh := ?_, first := ?_ }
  · intro hq
    rcases hq with hq | hq <;> cases hq
  · rw [hpend, List.append_nil]
    exact (List.sublist_append_left _ _).trans h.sub
  · intro hc
    exact absurd hp (h.complete hc).2.1
  · intro _ hr
    exact absurd rfl hr
  · intro _ _
    rw [hpend]
    exact ⟨List.IsChain.nil, by rintro _ ⟨⟩⟩
  · intro hq
    rcases hq with hq | hq <;> cases hq

/-- After the discard the parser starts afresh. -/
theorem uartOk_reset (h : UartOk w) (hp : w.pc = .reset) : UartOk w.poll := by
  have hpoll : w.poll = { w with rx := w.rx.resetParser, pc := .latch } := by simp only [poll, hp]
  have hpend : ({ w with rx := w.rx.resetParser, pc := .latch } : UartWorld).pending = w.pending := by
    simp only [pending, hp]
    rfl
  rw [hpoll]
  refine { h with sized := ⟨h.sized.head_lt, h.sized.tail_lt, h.sized.count_le⟩, waits := Or.inl rfl, some := ?_, sub := ?_,
                  complete := ?_, stretches := h.stretches.reset, linked := ?_, fresh := nofun, first := ?_ }
  · intro hq
    rcases hq with hq | hq <;> cases hq
  · rw [hpend]
    exact h.sub
  · intro hc
    exact absurd hp (h.complete hc).2.2.1
  · intro _ _ hl
    rw [hpend]
    exact h.fresh hp hl
  · intro hq
    rcases hq with hq | hq <;> cases hq

/-- A step of the poll keeps the invariant. -/
theorem uartOk_poll (h : UartOk w) : UartOk w.poll := by
  cases hp : w.pc with
  | out =>
    have hpoll : w.poll = { w with pc := .latch } := by simp only [poll, hp]
    rw [hpoll]
    exact uartOk_goto h _ (by simp [hp]) (by simp) nofun nofun (by simp)
  | latch =>
    have hpoll : w.poll = { w with pc := if w.rx.overrunLatch then .discard else .empty } := by simp only [poll, hp]
    rw [hpoll]
    cases hl : w.rx.overrunLatch with
    | true => exact uartOk_goto h _ (by simp [hp]) (by simp) (fun _ => hl) (by simp) (by simp)
    | false => exact uartOk_goto h _ (by simp [hp]) (by simp) (by simp) (by simp) (by simp [hl])
  | discard => exact uartOk_discard h hp
  | reset => exact uartOk_reset h hp
  | empty =>
    have hpoll : w.poll = { w with pc := if w.rx.tail = w.rx.head then .out else .feed } := by simp only [poll, hp]
    rw [hpoll]
    by_cases he : w.rx.tail = w.rx.head
    · rw [if_pos he]
      exact uartOk_goto h _ (by simp [hp]) (by simp) nofun nofun (by simp)
    · rw [if_neg he]
      refine uartOk_goto h _ (by simp [hp]) (by simp) nofun (fun _ => ?_) (fun _ _ => hp)
      rw [← UartRx.length_bytes, List.length_pos_iff, Ne, UartRx.bytes_eq_nil _ h.sized]
      exact he
  | feed => exact uartOk_feed h hp
  | advance => exact uartOk_advance h hp

end UartWorld

/-- Every run keeps the invariant. -/
theorem uartRun_ok {w : UartWorld} (h : UartRun w) : w.UartOk := by
  induction h with
  | init => exact UartWorld.uartOk_init
  | activate as _ has ih => exact UartWorld.uartOk_activate ih as has
  | poll _ ih => exact UartWorld.uartOk_poll ih

/-- No frame spans a hole. Whatever the interleaving of activations and steps of the poll: the bytes of a frame dispatched were
received, and stood next to each other on the wire; the frames are disjoint and in wire order; when every byte of the wire was
received, the bytes fed and those still in the ring are exactly the bytes received, in order; and the parser keeps nothing, or
the last bytes fed, from a header on and fewer than its frame has, so its buffer is never full. -/
theorem uart_stream (w : UartWorld) (h : UartRun w) :
    (∀ f ∈ w.dispatched, f.IsChain (fun x y => y.1 = x.1 + 1) ∧ ∀ x ∈ f, x ∈ w.received) ∧
    w.dispatched.flatten.Pairwise (fun x y => x.1 < y.1) ∧
    (w.received.length = w.arrived → w.rx.overrunLatch = false ∧ w.fed ++ w.pending = w.received) ∧
    (w.rx.parser.buf = [] ∨ ∃ b l, w.rx.parser.buf = b :: l ∧ w.rx.parser.expected = expectedForHeader b.2 ∧
      expectedForHeader b.2 ≠ 0 ∧ w.rx.parser.buf <:+ w.fed ∧ w.rx.parser.buf.length < w.rx.parser.expected) ∧
    w.rx.parser.buf.length < kbdUartMaxFrame := by
  have hok := uartRun_ok h
  have hfed : w.fed.Sublist w.received := (List.sublist_append_left _ _).trans hok.sub
  have hflat : w.dispatched.flatten.Sublist w.received :=
    (List.sublist_append_left _ _).trans (hok.stretches.sublist.trans hfed)
  refine ⟨fun f hf => ⟨hok.frames f hf, fun x hx => ?_⟩, hok.mono.sublist hflat, fun hc => ?_, ?_, ?_⟩
  · exact hflat.subset (List.mem_flatten_of_mem hf hx)
  · exact ⟨(hok.complete hc).1, (hok.complete hc).2.2.2⟩
  · rcases hok.waits with hb | ⟨b, l, hp, hb, hlt⟩
    · exact Or.inl hb
    · have hsuf := hok.stretches.suffix
      rw [hp] at hsuf ⊢
      exact Or.inr ⟨b, l, rfl, rfl, hb, hsuf, hlt⟩
  · rcases hok.waits with hb | ⟨b, l, hp, hb, hlt⟩
    · rw [hb]
      decide
    · have := UartParser.window_le Prod.snd b
      rw [hp]
      simp only [kbdUartMaxFrame]
      omega

theorem UartRun.polls {w : UartWorld} (h : UartRun w) (n : Nat) : UartRun (UartWorld.poll^[n] w) := by
  induction n with
  | zero => exact h
  | succ n ih => exact (Function.iterate_succ_apply' UartWorld.poll n w).symm ▸ ih.poll

/-- A frame arrives in two parts, and the poll runs in between. Of the next one a byte is lost in an overrun: the ring is discarded,
and the frame after it is dispatched. -/
theorem uart_stream_overrun : ∃ w, UartRun w ∧ w.received.length < w.arrived ∧
    w.dispatched = [[(0, 0xA6), (1, 0x58), (2, 0xFE)], [(7, 0xA6), (8, 0x54), (9, 0xFA)]] ∧
    ∀ f ∈ w.dispatched, f.IsChain fun x y => y.1 = x.1 + 1 := by
  have hpart : UartRun (UartWorld.init.activate [some 0xA6, some 0x58]) := .activate _ .init (by decide)
  have hframe := ((hpart.polls 7).activate [some 0xFE, some 0xA6] (by decide)).polls 12
  have hoverrun := (hframe.activate [some 0x56, none, some 0xFC] (by decide)).polls 12
  have hnext := (hoverrun.activate [some 0xA6, some 0x54, some 0xFA] (by decide)).polls 20
  exact ⟨_, hnext, by decide +kernel, by decide +kernel, fun f hf => ((uart_stream _ hnext).1 f hf).1⟩

end OpenController
