import OpenController.Lemmas.HidQueueRun

/-!
# The report FIFO refines a queue

What left the queue and what is in it are the reports that came in, in order, less repeats and less what a full queue had no place
for; the last one is always there.
-/

namespace OpenController

open List

variable {evs : List HidEvent} {s t : Rf} {es : List Report} {r : Report}

/-! ## Reports passed in -/

theorem passedReports_report (evs : List HidEvent) (r : Report) (full : Bool) :
    passedReports (evs ++ [.report r full]) = passedReports evs ++ [r] := by
  simp [passedReports]

theorem passedReports_reset (evs : List HidEvent) : passedReports (evs ++ [.reset]) = passedReports evs := by
  simp [passedReports]

theorem noted_snoc (evs : List HidEvent) (e : HidEvent) : noted (evs ++ [e]) = e.note (noted evs) := by
  simp [noted]

/-! ## The invariant -/

/-- The queue is in order, and holds what it should of the reports passed in. -/
structure Rf.QueueOk (evs : List HidEvent) (s : Rf) : Prop extends s.Knows s.entries (noted evs).2 where
  inOrder : s.entries <+ passedReports evs
  last : s.entries.getLast? = (passedReports evs).getLast?
  before : ∀ r, (noted evs).2 = some r → (passedReports evs).getLast? = some r
  complete : (∀ r, .report r true ∉ evs) → s.entries = transitions evs

theorem queueOk_start (empty : s.hid.tail = s.hid.head) (head : s.hid.head < 256) (valid : s.hid.lastQueuedValid = false)
    (retired : s.log.retired = []) : s.QueueOk [] := by
  have hcount : s.hid.count = 0 := by
    rw [RfHid.count, sub8, empty]
    omega
  have hentries : s.entries = [] := by rw [Rf.entries, retired, RfHid.queue, hcount, Ring.view_zero, map_nil, nil_append]
  refine ⟨⟨⟨head, empty ▸ head, hcount ▸ Nat.zero_le _, rfl⟩, valid, by rintro _ ⟨⟩⟩, ?_, ?_, by rintro _ ⟨⟩, fun _ => ?_⟩
  all_goals rw [hentries]
  · exact nil_sublist _
  · rfl
  · rfl

/-- A report that came in. -/
theorem Rf.QueueOk.report {full : Bool} (h : s.QueueOk evs) (ht : t.Took s.entries (noted evs).2 full r) :
    t.QueueOk (evs ++ [.report r full]) := by
  obtain ⟨es', htakes, hk⟩ := ht
  have hnoted : (noted (evs ++ [.report r full])).2 = some r := by rw [noted_snoc]; rfl
  have htrans : transitions (evs ++ [.report r full]) =
      if (noted evs).2 = some r then transitions evs else transitions evs ++ [r] := by rw [transitions, noted_snoc]; rfl
  have hpassed := passedReports_report evs r full
  have hcomplete (hall : ∀ r', .report r' true ∉ evs ++ [.report r full]) : s.entries = transitions evs :=
    h.complete fun r' hr' => hall r' (mem_append_left _ hr')
  refine ⟨?_, ?_, ?_, ?_, ?_⟩
  · rw [hnoted, hk.entries]
    exact hk
  · rw [hk.entries, hpassed]
    cases htakes with
    | repeated => exact h.inOrder.trans (sublist_append_left _ _)
    | queued => exact h.inOrder.append (Sublist.refl _)
    | overwrites => exact ((dropLast_sublist _).trans h.inOrder).append (Sublist.refl _)
  · rw [hk.entries, hpassed]
    cases htakes with
    | repeated hl => rw [h.last, h.before r hl, getLast?_concat]
    | queued | overwrites => rw [getLast?_concat, getLast?_concat]
  · intro r' hr'
    rw [hpassed, getLast?_concat, ← hnoted]
    exact hr'
  · intro hall
    rw [hk.entries, htrans]
    cases htakes with
    | repeated hl => rw [if_pos hl, hcomplete hall]
    | queued hl => rw [if_neg hl, hcomplete hall]
    | overwrites _ hfull => exact absurd (mem_append_right _ (mem_singleton_self _)) (hfull ▸ hall r)

theorem queueOk_run (h : QueueRun evs s) : s.QueueOk evs := by
  induction h with
  | start empty head valid retired => exact queueOk_start empty head valid retired
  | @report evs s t r _ hr ih =>
    have hbefore : s.Before s.entries (noted evs).2 (decide (s.hid.count = hidFifoSlots)) := by
      refine ⟨ih.toKnows, fun hf => ?_⟩
      have hle := ih.count_le
      have hne := of_decide_eq_false hf
      omega
    exact ih.report (takes_rfQueueHIDReport _ _ s () t hbefore hr)
  | @interrupt evs s t _ hi ih =>
    have hk := ih.toKnows.acked (acked_interrupt hi)
    have he := hk.entries
    refine ⟨he.symm ▸ hk, ?_, ?_, ih.before, ?_⟩
    all_goals rw [he]
    · exact ih.inOrder
    · exact ih.last
    · exact ih.complete
  | @mark evs s sent _ ih =>
    exact ⟨⟨ih.toQueued.congr rfl rfl rfl rfl, ih.valid, ih.newest⟩, ih.inOrder, ih.last, ih.before, ih.complete⟩
  | @reset evs s _ ih =>
    have hnoted : noted (evs ++ [.reset]) = (transitions evs, none) := noted_snoc evs .reset
    have hlast : (noted (evs ++ [.reset])).2 = none := by rw [hnoted]
    refine ⟨⟨ih.toQueued.congr rfl rfl rfl rfl, ?_, ?_⟩, ?_, ?_, ?_, ?_⟩
    · rw [hlast]
      rfl
    · rw [hlast]
      exact nofun
    · rw [passedReports_reset]
      exact ih.inOrder
    · rw [passedReports_reset]
      exact ih.last
    · rw [hlast]
      exact nofun
    · intro hall
      rw [transitions, hnoted]
      exact ih.complete fun r hr => hall r (mem_append_left _ hr)

/-- The head of a full queue is not its newest entry. -/
theorem head_of_prefix (hfull : s.hid.count = hidFifoSlots) (h : s.entries.dropLast <+: es) :
    es[s.log.retired.length]? = some s.hid.headReport := by
  obtain ⟨rest, rfl⟩ := h
  have hqueue : s.hid.queue = s.hid.headReport :: Ring.view s.hid.fifo hidFifoSlots (s.hid.head + 1) 15 := by
    rw [RfHid.queue, hfull]
    exact Ring.view_cons s.hid.fifo hidFifoSlots s.hid.head 15
  have hne : Ring.view s.hid.fifo hidFifoSlots (s.hid.head + 1) 15 ≠ [] := by simp [← length_eq_zero_iff]
  rw [Rf.entries, hqueue, dropLast_append_of_ne_nil (cons_ne_nil _ _), dropLast_cons_of_ne_nil hne, append_assoc,
    getElem?_append_right (by simp)]
  simp

/-- The report FIFO as a queue. For every sequence of reports, acknowledgements and resets, with acknowledgements also between the
statements of `RF_QueueHIDReport`: the occupancy is at most sixteen; the reports retired and those queued are reports passed in, in
their order, and the last is the last one passed in; if no report came to a full queue, they are the reports passed in less those
that repeat the one before them with no reset in between; and a report that comes to a full queue leaves every entry but the newest. -/
theorem hidQueue_spec (h : QueueRun evs s) :
    s.hid.count ≤ hidFifoSlots ∧
    (s.entries <+ passedReports evs ∧ s.entries.getLast? = (passedReports evs).getLast?) ∧
    ((∀ r, .report r true ∉ evs) → s.entries = transitions evs) ∧
    (∀ r t, s.hid.count = hidFifoSlots → Prog.Runs QueueInterrupt (rfQueueHIDReport r) s () t →
      s.entries.dropLast <+: t.entries ∧ t.entries[s.log.retired.length]? = some s.hid.headReport ∧
        (t.entries = s.entries ∨ t.entries = s.entries ++ [r] ∨ t.entries = s.entries.dropLast ++ [r])) := by
  have hok := queueOk_run h
  refine ⟨hok.count_le, ⟨hok.inOrder, hok.last⟩, hok.complete, fun r t hfull hr => ?_⟩
  have hbefore : s.Before s.entries (noted evs).2 true := ⟨hok.toKnows, nofun⟩
  obtain ⟨es', htakes, hk⟩ := takes_rfQueueHIDReport _ true s () t hbefore hr
  have hentries : t.entries = s.entries ∨ t.entries = s.entries ++ [r] ∨ t.entries = s.entries.dropLast ++ [r] := by
    rw [hk.entries]
    cases htakes with
    | repeated => exact .inl rfl
    | queued => exact .inr (.inl rfl)
    | overwrites => exact .inr (.inr rfl)
  have hkept : s.entries.dropLast <+: t.entries := by
    rcases hentries with he | he | he <;> rw [he]
    · exact dropLast_prefix _
    · exact List.IsPrefix.trans ( dropLast_prefix _) (prefix_append _ _)
    · exact prefix_append _ _
  exact ⟨hkept, head_of_prefix hfull hkept, hentries⟩

/-- The head is retired whenever it is marked: a poll that acknowledges it can come at any time. -/
theorem retires_anytime (hsent : s.hid.headSent = true) (hne : s.hid.tail ≠ s.hid.head) :
    ∃ t u, QueueInterrupt s t ∧ QueueInterrupt t u ∧ u.hid = { s.hid with headSent := false, head := u8 (s.hid.head + 1) } := by
  let t : Rf := { s with state := .connected, radio := { s.radio with shut := false } }
  let buf : RxBuf := pollPacket (~~~s.resp.txCtrl)
  have hpoll : t.CatchesPoll buf := ⟨rfl, .inl rfl⟩
  have hflip : (buf 2 ^^^ t.resp.txCtrl) &&& 1 ≠ 0 := by
    have hbit : ∀ c : Byte, (~~~c ^^^ c) &&& 1 ≠ 0 := by decide +kernel
    exact hbit s.resp.txCtrl
  refine ⟨t, t.rf2g4StatusCallBack .rxData 0 (some buf), .elsewhere rfl rfl, .interrupt (.callback .rxData 0 (some buf) rfl), ?_⟩
  rcases (Rf.polled_callback hpoll).queue with ⟨_, hhid, _⟩ | ⟨hr, _, _⟩
  · exact hhid
  · exact absurd ⟨hpoll, hflip, hsent, hne⟩ hr

/-- Reports that come one after another. -/
def Rf.passReports (s : Rf) (rs : List Report) : Rf := rs.foldl (fun s r => (rfQueueHIDReport r).exec s) s

theorem QueueRun.pass (h : QueueRun evs s) (rs : List Report) :
    ∃ evs', QueueRun evs' (s.passReports rs) ∧ passedReports evs' = passedReports evs ++ rs := by
  induction rs generalizing evs s with
  | nil => exact ⟨evs, h, (append_nil _).symm⟩
  | cons r rs ih =>
    obtain ⟨evs', hrun, hpassed⟩ := ih (h.report r (Prog.runs_run _ _ _))
    refine ⟨evs', hrun, ?_⟩
    rw [hpassed, passedReports_report, append_assoc]
    rfl

/-- Seventeen reports come to an empty queue, whose indices wrap: it is full, and the last of them is in it. -/
theorem hidQueue_spec_full :
    let s := Rf.passReports { newKeyboard with hid := { newKeyboard.hid with head := 250, tail := 250 } }
      ((range 17).map fun i => Vector.replicate 8 (BitVec.ofNat 8 i))
    s.hid.tail = 10 ∧ s.hid.count = 16 ∧ s.entries.getLast? = some (Vector.replicate 8 16) := by
  intro s
  obtain ⟨evs, hrun, hpassed⟩ := (QueueRun.start (s := { newKeyboard with hid := { newKeyboard.hid with head := 250, tail := 250 } })
    rfl (by decide) rfl rfl).pass ((range 17).map fun i => Vector.replicate 8 (BitVec.ofNat 8 i))
  refine ⟨by decide +kernel, by decide +kernel, ?_⟩
  rw [(hidQueue_spec hrun).2.1.2, hpassed]
  decide +kernel

end OpenController
