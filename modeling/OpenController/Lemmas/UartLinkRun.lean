import OpenController.Theorems.UartStream
import OpenController.UartLink

/-!
# What the parser makes of the frames of a host

A frame of the host fills its window and is valid, so a parser that holds nothing dispatches it and holds nothing. Bytes that start no
frame empty a parser, whatever it holds. The handler and the poll feed the parser what the wire carries.
-/

namespace OpenController

/-! ## A frame -/

namespace HostFrame

/-- The checksum of a sealed run of bytes is the byte behind it, whatever follows. -/
theorem checksum_sealed (l m : List Byte) :
    checksum (sealed l ++ m) l.length = checksum l l.length ∧ (sealed l ++ m).getD l.length 0 = checksum l l.length := by
  simp [sealed, checksum, List.append_assoc]

/-- The header gives the length of the frame. -/
theorem bytes_window (f : HostFrame) : ∃ c l, f.bytes = c :: l ∧ expectedForHeader c ≠ 0 ∧ (c :: l).length = expectedForHeader c := by
  cases f with
  | command sub => exact ⟨0xA6, _, rfl, by decide, rfl⟩
  | report r => exact ⟨0xA1, _, rfl, by decide, by simp [expectedForHeader]⟩
  | name n =>
    refine ⟨0xA9, _, rfl, by decide, ?_⟩
    have hfits := n.fits
    simp only [expectedForHeader, List.length_cons]
    simp
    omega
  | ack => exact ⟨0x61, _, rfl, by decide, rfl⟩

theorem frameIsValid_bytes (f : HostFrame) : frameIsValid f.bytes = true := by
  cases f with
  | command sub => simp [bytes, sealed, frameIsValid, checksum]
  | report r =>
    obtain ⟨hsum, hbyte⟩ := checksum_sealed (0xA1 :: r.toList) []
    have hlen : (0xA1 :: r.toList).length = 9 := by simp
    rw [List.append_nil, hlen] at hsum hbyte
    have hvalid : frameIsValid (sealed (0xA1 :: r.toList)) =
        (checksum (sealed (0xA1 :: r.toList)) 9 == (sealed (0xA1 :: r.toList)).getD 9 0) := rfl
    rw [bytes, hvalid, hsum, hbyte, beq_self_eq_true]
  | name n =>
    have hfits := n.fits
    have hlen : n.name.length ≤ 18 := by omega
    obtain ⟨hsum, hbyte⟩ := checksum_sealed (0xA9 :: BitVec.ofNat 8 n.name.length :: n.name) n.pad
    have hidx : (2 + BitVec.ofNat 8 n.name.length).toNat = n.name.length + 2 := by
      rw [BitVec.toNat_add, BitVec.toNat_ofNat]
      show (2 + n.name.length % 256) % 256 = _
      omega
    have hvalid : frameIsValid (sealed (0xA9 :: BitVec.ofNat 8 n.name.length :: n.name) ++ n.pad) =
        (decide (BitVec.ofNat 8 n.name.length ≤ 18) && decide ((2 + BitVec.ofNat 8 n.name.length).toNat < 21) &&
          checksum (sealed (0xA9 :: BitVec.ofNat 8 n.name.length :: n.name) ++ n.pad) (2 + BitVec.ofNat 8 n.name.length).toNat ==
            (sealed (0xA9 :: BitVec.ofNat 8 n.name.length :: n.name) ++ n.pad).getD (2 + BitVec.ofNat 8 n.name.length).toNat 0) := rfl
    have hshort : BitVec.ofNat 8 n.name.length ≤ 18 := by
      rw [BitVec.le_def, BitVec.toNat_ofNat]
      show n.name.length % 256 ≤ 18
      omega
    have hcount : (0xA9 :: BitVec.ofNat 8 n.name.length :: n.name).length = n.name.length + 2 := rfl
    rw [hcount] at hsum hbyte
    rw [bytes, hvalid, hidx, hsum, hbyte, decide_eq_true hshort, decide_eq_true (by omega), beq_self_eq_true]
    rfl
  | ack => decide

theorem dispatchFrame_bytes (f : HostFrame) : dispatchFrame f.bytes = f.means := by
  cases f with
  | command sub => rfl
  | report r =>
    have hpayload : dispatchFrame (sealed (0xA1 :: r.toList)) = .frame 0xA1 0 ((r.toList ++ [checksum (0xA1 :: r.toList) 9]).take 8) := by
      have hlen : (0xA1 :: r.toList).length = 9 := by simp
      rw [sealed, hlen]
      rfl
    rw [bytes, hpayload, List.take_left' (by simp)]
    rfl
  | name n =>
    have hfits := n.fits
    have hlen : (BitVec.ofNat 8 n.name.length).toNat = n.name.length := by
      rw [BitVec.toNat_ofNat]
      omega
    have hpayload : dispatchFrame (bytes (.name n)) = .frame 0xA9 (BitVec.ofNat 8 n.name.length)
        ((n.name ++ ([checksum (0xA9 :: BitVec.ofNat 8 n.name.length :: n.name) (n.name.length + 2)] ++ n.pad)).take
          (BitVec.ofNat 8 n.name.length).toNat) := by
      rw [← List.append_assoc]
      rfl
    rw [hpayload, hlen, List.take_left]
    rfl
  | ack => rfl

end HostFrame

/-! ## The parser -/

namespace UartParser

variable {α : Type} {val : α → Byte} {p : UartParser α}

theorem feed_append (p : UartParser α) (s t : List α) :
    feed val p (s ++ t) = ((feed val (feed val p s).1 t).1, (feed val p s).2 ++ (feed val (feed val p s).1 t).2) := by
  induction t using List.reverseRecOn with
  | nil => simp [feed]
  | append_singleton t b ih => rw [← List.append_assoc, feed_concat, feed_concat, ih, List.append_assoc]

theorem feed_stretches (h : Waits val p) (s : List α) :
    Waits val (feed val p s).1 ∧ Stretches (p.buf ++ s) (feed val p s).2 (feed val p s).1.buf := by
  induction s using List.reverseRecOn with
  | nil =>
    rw [List.append_nil]
    exact ⟨h, Stretches.held _⟩
  | append_singleton s b ih =>
    rw [feed_concat, ← List.append_assoc]
    exact ⟨feedByte_waits _ b ih.1, ih.2.append (feedByte_stretches _ b ih.1)⟩

/-- Bytes that start no frame leave a parser that holds nothing alone. -/
theorem feed_drops (hp : p.buf = []) {s : List α} (hs : ∀ b ∈ s, window val b = 0) :
    (feed val p s).1.buf = [] ∧ (feed val p s).2 = [] := by
  induction s using List.reverseRecOn with
  | nil => exact ⟨hp, rfl⟩
  | append_singleton s b ih =>
    obtain ⟨hbuf, hnone⟩ := ih fun c hc => hs c (List.mem_append_left _ hc)
    have hb : window val b = 0 := hs b (List.mem_append_right _ (List.mem_singleton_self b))
    rw [feed_concat, feedByte, if_pos ⟨hbuf, hb⟩, hnone]
    exact ⟨hbuf, rfl⟩

/-- Twenty of them empty any parser: what it holds starts with a header and is shorter than the longest frame. -/
theorem feed_empties (h : Waits val p) {s : List α} (hs : ∀ b ∈ s, window val b = 0) (hlen : 20 ≤ s.length) :
    (feed val p s).1.buf = [] := by
  obtain ⟨hwaits, hstretches⟩ := feed_stretches h s
  rcases hwaits with hbuf | ⟨c, l, hcl, hc, hlt⟩
  · exact hbuf
  · have hsuffix := hstretches.suffix
    have hle := window_le val c
    rw [hcl] at hsuffix
    have hin : c :: l <:+ s := List.suffix_of_suffix_length_le hsuffix (List.suffix_append _ _) (by omega)
    exact absurd (hs c (hin.subset List.mem_cons_self)) hc

/-- The shortest frame has three bytes. -/
theorem three_le_window {c : α} (hc : window val c ≠ 0) : 3 ≤ window val c := by
  simp only [window, expectedForHeader] at hc ⊢
  repeat' split
  all_goals first | omega | exact absurd (by simp_all) hc

/-- The loop leaves a candidate that has not fully arrived. -/
theorem processRxBuf_short (fuel : Nat) {p : UartParser α} (h : p.buf.length < p.expected) : processRxBuf val (fuel + 1) p = (p, []) :=
  if_neg fun hg => Nat.not_le.mpr h hg.2.2

/-- The loop dispatches a frame that has just arrived and keeps nothing. -/
theorem processRxBuf_full (fuel : Nat) {p : UartParser α} (hne : p.buf ≠ []) (hlen : p.buf.length = p.expected)
    (hv : frameIsValid (p.buf.map val) = true) : processRxBuf val (fuel + 1) p = (reset, [p.buf]) := by
  have hpos := List.length_pos_iff.mpr hne
  have hshift : shiftRxBuf val p.expected p = reset := by
    rw [shiftRxBuf_eq, ← hlen, List.drop_length]
    rfl
  have hrest : processRxBuf val fuel (reset : UartParser α) = (reset, []) := by
    cases fuel with
    | zero => rfl
    | succ fuel => exact if_neg fun h => h.1 rfl
  rw [processRxBuf, if_pos ⟨hne, by omega, by omega⟩, if_pos hv, hshift, hrest, ← hlen, List.take_length]

/-- A frame that has not fully arrived is kept. -/
theorem feed_partial (hp : p.buf = []) {c : α} {l : List α} (hlt : (c :: l).length < window val c) :
    feed val p (c :: l) = (⟨c :: l, window val c⟩, []) := by
  have hle := window_le val c
  induction l using List.reverseRecOn with
  | nil =>
    have hc : window val c ≠ 0 := by
      simp only [List.length_singleton] at hlt
      omega
    have hfeed : feed val p [c] = feedByte val p c := rfl
    rw [hfeed, feedByte, if_neg (fun h => hc h.2), if_pos hp, hp]
    exact processRxBuf_short 1 hlt
  | append_singleton l b ih =>
    have hlong : (c :: l).length + 1 < window val c := by simpa using hlt
    have hroom : ¬(c :: l).length ≥ kbdUartMaxFrame := by
      simp only [kbdUartMaxFrame]
      omega
    rw [← List.cons_append, feed_concat, ih (by omega), feedByte, if_neg (fun h => absurd h.1 (List.cons_ne_nil _ _)), if_neg (List.cons_ne_nil _ _),
      if_neg hroom, processRxBuf_short _ (by simpa using hlt)]
    rfl

/-- A frame that fills its window and is valid is dispatched, and nothing is kept. -/
theorem feed_frame (hp : p.buf = []) {c : α} {l : List α} (hc : window val c ≠ 0) (hlen : (c :: l).length = window val c)
    (hv : frameIsValid ((c :: l).map val) = true) : (feed val p (c :: l)).1.buf = [] ∧ (feed val p (c :: l)).2 = [c :: l] := by
  have hle := window_le val c
  have hge := three_le_window hc
  rcases List.eq_nil_or_concat l with rfl | ⟨l, b, rfl⟩
  · simp only [List.length_singleton] at hlen
    omega
  · rw [List.concat_eq_append] at hlen hv ⊢
    have hshort : (c :: l).length + 1 = window val c := by simpa using hlen
    have hroom : ¬(c :: l).length ≥ kbdUartMaxFrame := by
      simp only [kbdUartMaxFrame]
      omega
    rw [← List.cons_append, feed_concat, feed_partial hp (by omega), feedByte, if_neg (fun h => absurd h.1 (List.cons_ne_nil _ _)),
      if_neg (List.cons_ne_nil _ _), if_neg hroom, processRxBuf_full _ (List.cons_ne_nil _ _) hlen hv]
    exact ⟨rfl, rfl⟩

/-- The frames of a host are dispatched, one after the other, and nothing is kept. -/
theorem feed_frames (hp : p.buf = []) (fs : List HostFrame) {s : List α} (hs : s.map val = fs.flatMap HostFrame.bytes) :
    (feed val p s).1.buf = [] ∧ (feed val p s).2.map (·.map val) = fs.map HostFrame.bytes := by
  induction fs generalizing p s with
  | nil =>
    obtain rfl : s = [] := List.map_eq_nil_iff.mp hs
    exact ⟨hp, rfl⟩
  | cons f fs ih =>
    rw [List.flatMap_cons] at hs
    obtain ⟨g, t, rfl, hg, ht⟩ := List.map_eq_append_iff.mp hs
    obtain ⟨b, m, hbytes, hb, hlen⟩ := f.bytes_window
    have hvalid := f.frameIsValid_bytes
    rw [← hg] at hvalid
    rw [hbytes] at hg
    obtain ⟨c, l, rfl, rfl, hl⟩ := List.map_eq_cons_iff.mp hg
    have hfull : (c :: l).length = window val c := by
      rw [← hl] at hlen
      simpa [window] using hlen
    obtain ⟨hempty, hone⟩ := feed_frame hp hb hfull hvalid
    obtain ⟨hlast, hrest⟩ := ih hempty ht
    rw [feed_append, hone]
    exact ⟨hlast, by simp [hrest, hl, hbytes]⟩

end UartParser

/-! ## The handler and the poll -/

namespace UartWorld

variable {w v : UartWorld} {sent : List Byte}

/-- The bytes of an activation in which the hardware loses none. -/
theorem kept_some (n : Nat) (l : List Byte) : (kept n (l.map some)).map Prod.snd = l := by
  induction l generalizing n with
  | nil => rfl
  | cons b l ih => exact congrArg (b :: ·) (ih (n + 1))

/-- What the parser is fed from a state on is what was in the ring and what the wire carries. -/
structure Carried (w : UartWorld) (sent : List Byte) (v : UartWorld) : Prop where
  ok : UartOk v
  whole : v.Whole
  stream : ∃ s, v.rx.parser = (UartParser.feed Prod.snd w.rx.parser s).1 ∧
    v.dispatched = w.dispatched ++ (UartParser.feed Prod.snd w.rx.parser s).2 ∧
    (s ++ v.pending).map Prod.snd = w.pending.map Prod.snd ++ sent

theorem Carried.activate (h : Carried w sent v) {l : List Byte} (hroom : l.length ≤ kbdUartRingSize - v.rx.count) :
    Carried w (sent ++ l) (v.activate (l.map some)) := by
  obtain ⟨t, ht, -, hpend, -, hparser, -, -, hlatch⟩ := activate_spec h.ok (l.map some)
  have hlen : (kept v.arrived (l.map some)).length = l.length := by
    rw [← List.length_map (f := Prod.snd), kept_some]
  have hall : t = kept v.arrived (l.map some) := by
    rw [ht, List.take_of_length_le (by omega)]
  refine ⟨uartOk_activate h.ok _ (by cases l <;> simp), ⟨?_, h.whole.2⟩, ?_⟩
  · rw [hlatch, h.whole.1, hlen]
    simpa using hroom
  · obtain ⟨s, hp, hd, hs⟩ := h.stream
    refine ⟨s, hparser.trans hp, hd, ?_⟩
    rw [hpend, ← List.append_assoc, List.map_append, hs, hall, kept_some, List.append_assoc]

/-- The poll moves on. -/
theorem Carried.goto (h : Carried w sent v) {pc : PollPc} (hok : UartOk { v with pc := pc }) (hfrom : v.pc ≠ .advance)
    (hto : pc ≠ .advance ∧ pc ≠ .discard ∧ pc ≠ .reset) : Carried w sent { v with pc := pc } := by
  obtain ⟨s, hp, hd, hs⟩ := h.stream
  have hpend : ({ v with pc := pc } : UartWorld).pending = v.pending := by simp [pending, hfrom, hto.1]
  exact ⟨hok, ⟨h.whole.1, hto.2⟩, s, hp, hd, hpend ▸ hs⟩

theorem Carried.poll (h : Carried w sent v) : Carried w sent v.poll := by
  obtain ⟨hlatch, hdiscard, hreset⟩ := h.whole
  have hok := uartOk_poll h.ok
  cases hpc : v.pc with
  | out =>
    have hpoll : v.poll = { v with pc := .latch } := by simp only [UartWorld.poll, hpc]
    rw [hpoll] at hok ⊢
    exact h.goto hok (by simp [hpc]) (by simp)
  | latch =>
    have hpoll : v.poll = { v with pc := .empty } := by simp [UartWorld.poll, hpc, hlatch]
    rw [hpoll] at hok ⊢
    exact h.goto hok (by simp [hpc]) (by simp)
  | discard => exact absurd hpc hdiscard
  | reset => exact absurd hpc hreset
  | empty =>
    have hpoll : v.poll = { v with pc := if v.rx.tail = v.rx.head then .out else .feed } := by simp only [UartWorld.poll, hpc]
    rw [hpoll] at hok ⊢
    refine h.goto hok (by simp [hpc]) ?_
    split <;> simp
  | feed =>
    obtain ⟨s, hp, hd, hs⟩ := h.stream
    have hpend : v.pending = v.rx.tailByte :: v.rx.bytes.tail := by
      simp [pending, hpc, ← UartRx.bytes_cons v.rx (h.ok.some (Or.inl hpc))]
    have hpoll : v.poll = { v with
        rx := (v.rx.feedTail Prod.snd).1
        pc := .advance
        fed := v.fed ++ [v.rx.tailByte]
        dispatched := v.dispatched ++ (v.rx.feedTail Prod.snd).2 } := by simp only [UartWorld.poll, hpc]
    have hpend' : v.poll.pending = v.rx.bytes.tail := by
      rw [hpoll]
      rfl
    refine ⟨hok, by rw [hpoll]; exact ⟨hlatch, by simp, by simp⟩, s ++ [v.rx.tailByte], ?_, ?_, ?_⟩
    · rw [UartParser.feed_concat, ← hp, hpoll]
      rfl
    · rw [UartParser.feed_concat, ← hp, ← List.append_assoc, ← hd, hpoll]
      rfl
    · rw [hpend', List.append_assoc, List.singleton_append, ← hpend]
      exact hs
  | advance =>
    obtain ⟨s, hp, hd, hs⟩ := h.stream
    have hpoll : v.poll = { v with rx := v.rx.advance, pc := .latch } := by simp only [UartWorld.poll, hpc]
    have hbytes := (UartRx.advance_spec v.rx h.ok.sized (h.ok.some (Or.inr hpc))).2
    have hpend : v.poll.pending = v.pending := by
      rw [hpoll]
      simp [pending, hpc, hbytes]
    exact ⟨hok, by rw [hpoll]; exact ⟨hlatch, by simp, by simp⟩, s, by rw [hpoll]; exact hp, by rw [hpoll]; exact hd, hpend ▸ hs⟩

theorem After.carried (h : After w sent v) (hw : UartOk w) (hwhole : w.Whole) : Carried w sent v := by
  induction h with
  | here => exact ⟨hw, hwhole, [], rfl, by simp [UartParser.feed], by simp⟩
  | activate l _ hroom ih => exact ih.activate hroom
  | poll _ ih => exact ih.poll

/-- The poll, many steps of it. -/
theorem After.polls (h : After w sent v) (n : Nat) : After w sent (UartWorld.poll^[n] v) := by
  induction n with
  | zero => exact h
  | succ n ih =>
    rw [Function.iterate_succ_apply']
    exact ih.poll

end UartWorld

end OpenController
