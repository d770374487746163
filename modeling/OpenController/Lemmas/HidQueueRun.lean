import OpenController.HidQueue
import OpenController.Lemmas.RfHearsAux
import OpenController.Lemmas.RfStatements

/-!
# The queue, statement by statement

An acknowledgement moves the head from the queue to the retired reports, so it never changes the entries. Only two statements of
`RF_QueueHIDReport` do: the one that publishes a report, and the one that overwrites the newest.
-/

namespace OpenController

open Prog RfStatements

variable {s t : Rf} {es : List Report} {r : Report}

/-! ## Interrupts -/

/-- What an interrupt does to the queue: nothing, or it clears the mark of the head, and retires the head. -/
inductive Rf.Acked (s t : Rf) : Prop where
  | same (b : Bool) (hid : t.hid = { s.hid with txDownInflight := b }) (log : t.log.retired = s.log.retired)
  | unmarked (hid : t.hid = { s.hid with headSent := false }) (log : t.log.retired = s.log.retired)
  | retired (hsent : s.hid.headSent = true) (hne : s.hid.tail ≠ s.hid.head)
      (hid : t.hid = { s.hid with headSent := false, head := u8 (s.hid.head + 1) })
      (log : t.log.retired = s.noteRetired.log.retired)

theorem acked_interrupt (h : QueueInterrupt s t) : s.Acked t := by
  cases h with
  | elsewhere hid retired => exact .same s.hid.txDownInflight hid retired
  | interrupt h =>
    rcases interrupt_spec h with hb | ⟨buf, hp⟩
    · obtain ⟨b, hhid⟩ := hb.hid
      exact .same b hhid (congrArg RfLog.retired hb.log)
    · rcases hp.queue with ⟨hr, hhid, hlog⟩ | ⟨_, hhid | hhid, hlog⟩
      · exact .retired hr.2.2.1 hr.2.2.2 hhid (by rw [hlog])
      · exact .same s.hid.txDownInflight hhid (by rw [hlog])
      · exact .unmarked hhid (by rw [hlog])

/-- The queue after its head left it. -/
theorem queue_retire {h : RfHid} (h' : RfHid) (hhead : h.head < 256) (htail : h.tail < 256) (hne : h.tail ≠ h.head) (fifo : h'.fifo = h.fifo)
    (tail : h'.tail = h.tail) (head : h'.head = u8 (h.head + 1)) : h.queue = h.headReport :: h'.queue ∧ h'.count + 1 = h.count := by
  have hcount : h'.count + 1 = h.count := by
    rw [RfHid.count, RfHid.count, tail, head]
    simp only [sub8, u8]
    omega
  refine ⟨?_, hcount⟩
  rw [RfHid.queue, ← hcount, Ring.view_cons, RfHid.queue, fifo, head]
  exact congrArg _ (Ring.view_mod h.fifo (by decide : hidFifoSlots ∣ 256) (h.head + 1) h'.count).symm

/-- The queue is in order, and these are its entries. -/
structure Rf.Queued (s : Rf) (es : List Report) : Prop where
  head_lt : s.hid.head < 256
  tail_lt : s.hid.tail < 256
  count_le : s.hid.count ≤ hidFifoSlots
  entries : s.entries = es

namespace Rf.Queued

theorem tail_eq (h : s.Queued es) : s.hid.tail = (s.hid.head + s.hid.count) % 256 := by
  have hhead := h.head_lt
  have htail := h.tail_lt
  rw [RfHid.count, sub8]
  omega

theorem count_pos (h : s.Queued es) (hne : s.hid.tail ≠ s.hid.head) : 0 < s.hid.count := by
  have hhead := h.head_lt
  have htail := h.tail_lt
  rw [RfHid.count, sub8]
  omega

/-- The entries and the indices are all that it is about. -/
theorem congr (h : s.Queued es) (hfifo : t.hid.fifo = s.hid.fifo) (hhead : t.hid.head = s.hid.head) (htail : t.hid.tail = s.hid.tail)
    (hlog : t.log.retired = s.log.retired) : t.Queued es := by
  have hcount : t.hid.count = s.hid.count := by rw [RfHid.count, RfHid.count, hhead, htail]
  refine ⟨hhead ▸ h.head_lt, htail ▸ h.tail_lt, hcount ▸ h.count_le, ?_⟩
  rw [← h.entries, Rf.entries, Rf.entries, RfHid.queue, RfHid.queue, hfifo, hhead, hcount, hlog]

/-- An acknowledgement changes no entry. -/
theorem acked (h : s.Queued es) (ha : s.Acked t) : t.Queued es := by
  cases ha with
  | same b hid log => exact h.congr (by rw [hid]) (by rw [hid]) (by rw [hid]) log
  | unmarked hid log => exact h.congr (by rw [hid]) (by rw [hid]) (by rw [hid]) log
  | retired hsent hne hid log =>
    have hle := h.count_le
    obtain ⟨hqueue, hcount⟩ := queue_retire t.hid h.head_lt h.tail_lt hne (by rw [hid]) (by rw [hid]) (by rw [hid])
    refine ⟨?_, ?_, by omega, ?_⟩
    · rw [hid]
      exact Nat.mod_lt _ (by decide)
    · rw [hid]
      exact h.tail_lt
    · rw [← h.entries, Rf.entries, Rf.entries, hqueue, log]
      simp [Rf.noteRetired]

end Rf.Queued

/-- The indices after an interrupt: at most the head has left, and then it is not marked any more. -/
theorem Rf.Acked.queue (ha : s.Acked t) : t.hid.fifo = s.hid.fifo ∧ t.hid.tail = s.hid.tail ∧
    t.hid.lastQueued = s.hid.lastQueued ∧ t.hid.lastQueuedValid = s.hid.lastQueuedValid ∧
    (t.hid.headSent = true → s.hid.headSent = true) ∧
    (t.hid.head = s.hid.head ∨ s.hid.headSent = true ∧ s.hid.tail ≠ s.hid.head ∧ t.hid.headSent = false ∧
      t.hid.head = u8 (s.hid.head + 1)) := by
  cases ha with
  | same b hid =>
    rw [hid]
    exact ⟨rfl, rfl, rfl, rfl, id, .inl rfl⟩
  | unmarked hid =>
    rw [hid]
    exact ⟨rfl, rfl, rfl, rfl, nofun, .inl rfl⟩
  | retired hsent hne hid =>
    rw [hid]
    exact ⟨rfl, rfl, rfl, rfl, nofun, .inr ⟨hsent, hne, rfl, rfl⟩⟩

/-- The count after an interrupt: the same, or one less and the head is not marked any more. -/
theorem Rf.Queued.acked_count (h : s.Queued es) (ha : s.Acked t) :
    t.hid.count = s.hid.count ∨ s.hid.headSent = true ∧ t.hid.headSent = false ∧ t.hid.count + 1 = s.hid.count := by
  obtain ⟨-, htail, -, -, -, hhead | ⟨hsent, hne, hclear, hhead⟩⟩ := ha.queue
  · rw [RfHid.count, RfHid.count, htail, hhead]
    exact .inl rfl
  · have hlt := h.head_lt
    have hlt' := h.tail_lt
    refine .inr ⟨hsent, hclear, ?_⟩
    rw [RfHid.count, RfHid.count, htail, hhead]
    simp only [sub8, u8]
    omega

/-! ## What a report does -/

/-- The queue has a free slot, and the reports queued before are known. -/
def Rf.HasRoom (es : List Report) (s : Rf) : Prop := s.Queued es ∧ s.hid.count < hidFifoSlots

/-- The report is in the free slot. -/
def Rf.HasWritten (es : List Report) (r : Report) (s : Rf) : Prop :=
  s.HasRoom es ∧ s.hid.fifo (s.hid.tail % hidFifoSlots) = r

/-- The queue was full, and at most its head has left since. -/
def Rf.WasFull (es : List Report) (s : Rf) : Prop :=
  s.Queued es ∧ (s.hid.count = hidFifoSlots ∨ s.hid.count + 1 = hidFifoSlots ∧ s.hid.headSent = false)

theorem stable_queued (es : List Report) : Stable QueueInterrupt (Rf.Queued · es) := fun _ _ hi h => h.acked (acked_interrupt hi)

theorem stable_hasRoom (es : List Report) : Stable QueueInterrupt (Rf.HasRoom es) := by
  rintro s t hi ⟨h, hroom⟩
  have ha := acked_interrupt hi
  refine ⟨h.acked ha, ?_⟩
  rcases h.acked_count ha with hc | ⟨_, _, hc⟩ <;> omega

theorem stable_hasWritten (es : List Report) (r : Report) : Stable QueueInterrupt (Rf.HasWritten es r) := by
  rintro s t hi ⟨h, hslot⟩
  obtain ⟨hfifo, htail, -⟩ := (acked_interrupt hi).queue
  refine ⟨stable_hasRoom es s t hi h, ?_⟩
  rw [hfifo, htail]
  exact hslot

theorem stable_wasFull (es : List Report) : Stable QueueInterrupt (Rf.WasFull es) := by
  rintro s t hi ⟨h, hfull⟩
  have ha := acked_interrupt hi
  obtain ⟨-, -, -, -, hmark, -⟩ := ha.queue
  refine ⟨h.acked ha, ?_⟩
  rcases h.acked_count ha with hc | ⟨hsent, hclear, hc⟩
  · rw [hc]
    refine hfull.imp id fun hf => ⟨hf.1, Bool.eq_false_iff.mpr fun ht => ?_⟩
    exact nomatch hf.2.symm.trans (hmark ht)
  · rcases hfull with hf | ⟨_, hf⟩
    · exact .inr ⟨hc.trans hf, hclear⟩
    · exact nomatch hf.symm.trans hsent

/-- The report is stored in a free slot. -/
theorem Rf.HasRoom.write (h : s.HasRoom es) (r : Report) :
    Rf.HasWritten es r { s with hid := s.hid.writeSlot s.hid.tail r } := by
  obtain ⟨h, hroom⟩ := h
  have hslot : s.hid.tail % hidFifoSlots = (s.hid.head + s.hid.count) % hidFifoSlots := by
    rw [h.tail_eq, Nat.mod_mod_of_dvd _ (by decide : hidFifoSlots ∣ 256)]
  refine ⟨⟨⟨h.head_lt, h.tail_lt, h.count_le, ?_⟩, hroom⟩, Function.update_self _ _ _⟩
  have hqueue : (s.hid.writeSlot s.hid.tail r).queue = s.hid.queue := by
    rw [RfHid.queue, RfHid.writeSlot, hslot]
    exact Ring.view_update_of_le s.hid.fifo (Nat.le_refl _) hroom r
  rw [← h.entries, Rf.entries, Rf.entries, hqueue]

/-- The report is published: it is the newest entry. -/
theorem Rf.HasWritten.publish (h : s.HasWritten es r) (log : RfLog) (hlog : log.retired = s.log.retired) :
    Rf.Queued { s with hid := { s.hid with tail := u8 (s.hid.tail + 1) }, log := log } (es ++ [r]) := by
  obtain ⟨⟨h, hroom⟩, hslot⟩ := h
  have hhead := h.head_lt
  have htail := h.tail_lt
  have hcount : ({ s.hid with tail := u8 (s.hid.tail + 1) } : RfHid).count = s.hid.count + 1 := by
    rw [hidFifoSlots, RfHid.count] at hroom
    simp only [RfHid.count, sub8, u8] at hroom ⊢
    omega
  have hqueue : ({ s.hid with tail := u8 (s.hid.tail + 1) } : RfHid).queue = s.hid.queue ++ [r] := by
    rw [RfHid.queue, hcount, Ring.view_succ, ← hslot, h.tail_eq, Nat.mod_mod_of_dvd _ (by decide : hidFifoSlots ∣ 256)]
    rfl
  refine ⟨hhead, Nat.mod_lt _ (by decide), ?_, ?_⟩
  · rw [hcount]
    exact hroom
  · rw [← h.entries, Rf.entries, Rf.entries, hlog, hqueue, List.append_assoc]

/-- The newest entry is overwritten, and no other. -/
theorem Rf.WasFull.overwrite (h : s.WasFull es) (log : RfLog) (hlog : log.retired = s.log.retired) (r : Report) :
    es ≠ [] ∧ Rf.Queued { s with hid := s.hid.writeSlot (sub8 s.hid.tail 1) r, log := log } (es.dropLast ++ [r]) := by
  obtain ⟨h, hfull⟩ := h
  have hhead := h.head_lt
  have htail := h.tail_lt
  rw [hidFifoSlots] at hfull
  obtain ⟨older, holder⟩ : ∃ older, s.hid.count = older + 1 := ⟨s.hid.count - 1, by omega⟩
  have hlt : older < hidFifoSlots := by
    rw [hidFifoSlots]
    omega
  have hslot : sub8 s.hid.tail 1 % hidFifoSlots = (s.hid.head + older) % hidFifoSlots := by
    rw [RfHid.count] at holder
    simp only [sub8, hidFifoSlots] at holder ⊢
    omega
  have hqueue : (s.hid.writeSlot (sub8 s.hid.tail 1) r).queue = s.hid.queue.dropLast ++ [r] := by
    have hcount : (s.hid.writeSlot (sub8 s.hid.tail 1) r).count = older + 1 := holder
    rw [RfHid.queue, hcount, RfHid.writeSlot, hslot, RfHid.queue, holder]
    exact Ring.view_overwrite s.hid.fifo hlt r
  have hne : s.hid.queue ≠ [] := by
    rw [← List.length_pos_iff, RfHid.queue, Ring.length_view]
    omega
  refine ⟨?_, hhead, htail, h.count_le, ?_⟩
  · rw [← h.entries, Rf.entries]
    exact List.append_ne_nil_of_right_ne_nil _ hne
  · rw [← h.entries, Rf.entries, Rf.entries, hqueue, hlog, List.dropLast_append_of_ne_nil hne, List.append_assoc]

/-! ## The call -/

/-- What the queue knows of the reports before: its entries, and the newest report, if there was no reset since. -/
structure Rf.Knows (s : Rf) (es : List Report) (last : Option Report) : Prop extends s.Queued es where
  valid : s.hid.lastQueuedValid = last.isSome
  newest : ∀ r, last = some r → s.hid.lastQueued = r

/-- The entries after a report that came to a queue with these ones: it repeats the one before it, or is the newest entry, after the
others or in the place of the newest. -/
inductive Takes (es : List Report) (last : Option Report) (full : Bool) (r : Report) : List Report → Prop where
  | repeated (h : last = some r) : Takes es last full r es
  | queued (h : last ≠ some r) : Takes es last full r (es ++ [r])
  | overwrites (h : last ≠ some r) (hfull : full = true) (hne : es ≠ []) : Takes es last full r (es.dropLast ++ [r])

/-- The report is queued. -/
def Rf.Took (es : List Report) (last : Option Report) (full : Bool) (r : Report) (s : Rf) : Prop :=
  ∃ es', Takes es last full r es' ∧ s.Knows es' (some r)

theorem Rf.Knows.acked {last : Option Report} (h : s.Knows es last) (ha : s.Acked t) : t.Knows es last := by
  obtain ⟨-, -, hlast, hvalid, -⟩ := ha.queue
  exact ⟨h.toQueued.acked ha, hvalid.trans h.valid, fun r hr => hlast.trans (h.newest r hr)⟩

theorem stable_knows (es : List Report) (last : Option Report) : Stable QueueInterrupt (Rf.Knows · es last) :=
  fun _ _ hi h => h.acked (acked_interrupt hi)

theorem stable_took (es : List Report) (last : Option Report) (full : Bool) (r : Report) :
    Stable QueueInterrupt (Rf.Took es last full r) := by
  rintro s t hi ⟨es', htakes, h⟩
  exact ⟨es', htakes, stable_knows es' (some r) s t hi h⟩

/-- An assertion about the report alone, next to a stable one, is stable. -/
theorem stable_queueAnd {env : Rf → Rf → Prop} {P : Prop} {I : Rf → Prop} (h : Stable env I) : Stable env fun s => P ∧ I s :=
  fun s t hi hs => ⟨hs.1, h s t hi hs.2⟩

/-- An assertion that the statements of `RF_QueueHIDReport` keep, where they stand. -/
structure QueueFrame (env : Rf → Rf → Prop) (r : Report) (J : Rf → Prop) : Prop where
  interrupts : ∀ s t, env s t → QueueInterrupt s t
  stable : Stable env J
  write : ∀ s es, s.HasRoom es → J s → J { s with hid := s.hid.writeSlot s.hid.tail r }
  publish : ∀ s es, s.HasWritten es r → J s → J { s with
    hid := { s.hid with tail := u8 (s.hid.tail + 1) }
    log := { s.log with entered := s.log.entered ++ [r] } }
  overwrite : ∀ s es, s.WasFull es → J s → J { s with
    hid := s.hid.writeSlot (sub8 s.hid.tail 1) r
    log := { s.log with entered := s.log.entered.dropLast ++ [r] } }
  remember : ∀ s, J s → J { s with hid := { s.hid with lastQueued := r } }
  validate : ∀ s, J s → J { s with hid := { s.hid with lastQueuedValid := true } }
  rest : Kept env J wakeRest

/-- Nothing is asserted. -/
theorem queueFrame_true (r : Report) : QueueFrame QueueInterrupt r fun _ => True where
  interrupts _ _ h := h
  stable _ _ _ _ := trivial
  write _ _ _ _ := trivial
  publish _ _ _ _ := trivial
  overwrite _ _ _ _ := trivial
  remember _ _ := trivial
  validate _ _ := trivial
  rest _ _ _ _ _ := trivial

namespace QueueFrame

variable {env : Rf → Rf → Prop} {J : Rf → Prop} (hf : QueueFrame env r J)
include hf

/-- What acknowledgements do not falsify, next to the assertion. -/
theorem stable_and {P : Rf → Prop} (h : Stable QueueInterrupt P) : Stable env fun s => P s ∧ J s :=
  fun s t hi hs => ⟨h s t (hf.interrupts s t hi) hs.1, hf.stable s t hi hs.2⟩

/-- The end of either branch: `hid_last_queued` is the report, and valid. -/
theorem remember_report {es' : List Report} {last : Option Report} {full : Bool} (htakes : Takes es last full r es') :
    Triple env (fun s => s.Queued es' ∧ J s) (do
      .modify fun s => { s with hid := { s.hid with lastQueued := r } }
      .modify fun s => { s with hid := { s.hid with lastQueuedValid := true } }) fun _ s => s.Took es last full r ∧ J s := by
  have hremembered : Stable QueueInterrupt fun s : Rf => s.Queued es' ∧ s.hid.lastQueued = r := by
    rintro s t hi ⟨h, hr⟩
    have ha := acked_interrupt hi
    exact ⟨h.acked ha, ha.queue.2.2.1.trans hr⟩
  have hlast : Triple env (fun s => s.Queued es' ∧ J s) (.modify fun s => { s with hid := { s.hid with lastQueued := r } })
      fun _ s => (s.Queued es' ∧ s.hid.lastQueued = r) ∧ J s := by
    refine Triple.modify (hf.stable_and (stable_queued es')) (hf.stable_and hremembered) fun s h => ?_
    exact ⟨⟨h.1.congr rfl rfl rfl rfl, rfl⟩, hf.remember s h.2⟩
  refine hlast.bind fun _ => Triple.modify (hf.stable_and hremembered) (hf.stable_and (stable_took es last full r)) ?_
  rintro s ⟨⟨h, hr⟩, hj⟩
  exact ⟨⟨es', htakes, h.congr rfl rfl rfl rfl, rfl, fun _ he => hr.trans (Option.some.inj he)⟩, hf.validate s hj⟩

/-- The branch with a free slot. -/
theorem takes_free {last : Option Report} {full : Bool} (hnews : last ≠ some r) :
    Triple env (fun s => s.HasRoom es ∧ J s) (do
      .modify fun s => { s with hid := s.hid.writeSlot s.hid.tail r }
      .modify fun s => { s with
        hid := { s.hid with tail := u8 (s.hid.tail + 1) }
        log := { s.log with entered := s.log.entered ++ [r] } }
      .modify fun s => { s with hid := { s.hid with lastQueued := r } }
      .modify fun s => { s with hid := { s.hid with lastQueuedValid := true } }) fun _ s => s.Took es last full r ∧ J s := by
  have hslot : Triple env (fun s => s.HasRoom es ∧ J s) (.modify fun s => { s with hid := s.hid.writeSlot s.hid.tail r })
      fun _ s => s.HasWritten es r ∧ J s :=
    Triple.modify (hf.stable_and (stable_hasRoom es)) (hf.stable_and (stable_hasWritten es r)) fun s h =>
      ⟨h.1.write r, hf.write s es h.1 h.2⟩
  have hpublish : Triple env (fun s => s.HasWritten es r ∧ J s) (.modify fun s => { s with
      hid := { s.hid with tail := u8 (s.hid.tail + 1) }
      log := { s.log with entered := s.log.entered ++ [r] } }) fun _ s => s.Queued (es ++ [r]) ∧ J s :=
    Triple.modify (hf.stable_and (stable_hasWritten es r)) (hf.stable_and (stable_queued _)) fun s h =>
      ⟨h.1.publish _ rfl, hf.publish s es h.1 h.2⟩
  exact hslot.bind fun _ => hpublish.bind fun _ => hf.remember_report (.queued hnews)

/-- The branch without one. -/
theorem takes_full {last : Option Report} {full : Bool} (hnews : last ≠ some r) (hfull : full = true) :
    Triple env (fun s => s.WasFull es ∧ J s) (do
      .modify fun s => { s with
        hid := s.hid.writeSlot (sub8 s.hid.tail 1) r
        log := { s.log with entered := s.log.entered.dropLast ++ [r] } }
      .modify fun s => { s with hid := { s.hid with lastQueued := r } }
      .modify fun s => { s with hid := { s.hid with lastQueuedValid := true } }) fun _ s => s.Took es last full r ∧ J s := by
  have hover : Triple env (fun s => s.WasFull es ∧ J s) (.modify fun s => { s with
      hid := s.hid.writeSlot (sub8 s.hid.tail 1) r
      log := { s.log with entered := s.log.entered.dropLast ++ [r] } }) fun _ s => es ≠ [] ∧ s.Queued (es.dropLast ++ [r]) ∧ J s := by
    refine Triple.modify (hf.stable_and (stable_wasFull es)) (stable_queueAnd (hf.stable_and (stable_queued _))) fun s h => ?_
    obtain ⟨hne, hq⟩ := h.1.overwrite { s.log with entered := s.log.entered.dropLast ++ [r] } rfl r
    exact ⟨hne, hq, hf.overwrite s es h.1 h.2⟩
  refine hover.bind fun _ => ?_
  intro s a t h
  exact hf.remember_report (.overwrites hnews hfull h.1) s a t h.2

end QueueFrame

/-- What holds when the call starts. -/
def Rf.Before (es : List Report) (last : Option Report) (full : Bool) (s : Rf) : Prop :=
  s.Knows es last ∧ (full = false → s.hid.count < hidFifoSlots)

theorem stable_before (es : List Report) (last : Option Report) (full : Bool) :
    Stable QueueInterrupt (Rf.Before es last full) := by
  rintro s t hi ⟨h, hroom⟩
  have ha := acked_interrupt hi
  refine ⟨h.acked ha, fun hf => ?_⟩
  have hlt := hroom hf
  rcases h.toQueued.acked_count ha with hc | ⟨_, _, hc⟩ <;> omega

/-- A queue in order is ready for a report. -/
theorem Rf.Queued.before (h : s.Queued es) :
    s.Before es (if s.hid.lastQueuedValid then some s.hid.lastQueued else none) (decide (s.hid.count = hidFifoSlots)) := by
  refine ⟨⟨h, ?_, fun r hr => ?_⟩, fun hf => ?_⟩
  · cases s.hid.lastQueuedValid <;> rfl
  · cases hv : s.hid.lastQueuedValid with
    | false => simp [hv] at hr
    | true =>
      rw [hv, if_pos rfl] at hr
      exact Option.some.inj hr
  · have hle := h.count_le
    have hne := of_decide_eq_false hf
    omega

namespace QueueFrame

variable {env : Rf → Rf → Prop} {J : Rf → Prop} (hf : QueueFrame env r J)
include hf

theorem takes_queueReport (last : Option Report) (full : Bool) :
    Triple env (fun s => s.Before es last full ∧ J s) (queueReport r) fun _ s => s.Took es last full r ∧ J s := by
  have hpre := hf.stable_and (stable_before es last full)
  have hchanged : Triple env (fun s => s.Before es last full ∧ J s)
      (.read fun s => !s.hid.lastQueuedValid || s.hid.lastQueued != r)
      fun changed s => (changed = true ↔ last ≠ some r) ∧ s.Before es last full ∧ J s := by
    refine Triple.read hpre (fun changed => stable_queueAnd hpre) fun s h => ⟨?_, h⟩
    rw [h.1.1.valid]
    cases hlast : last with
    | none => simp
    | some q => simp [h.1.1.newest q hlast]
  refine hchanged.bind fun changed => Triple.ite (fun hc => ?_) fun hc => ?_
  · -- the report is news: it is published, or overwrites the newest when the queue is full
    have hroom : Triple env (fun s => (changed = true ↔ last ≠ some r) ∧ s.Before es last full ∧ J s)
        (.read fun s => decide (s.hid.count < hidFifoSlots)) fun room s =>
          last ≠ some r ∧ if room then s.HasRoom es ∧ J s else full = true ∧ s.WasFull es ∧ J s := by
      refine Triple.read (stable_queueAnd hpre) (fun room => ?_) fun s h => ⟨h.1.mp hc, ?_⟩
      · cases room with
        | true => exact stable_queueAnd (hf.stable_and (stable_hasRoom es))
        | false => exact stable_queueAnd (stable_queueAnd (hf.stable_and (stable_wasFull es)))
      · obtain ⟨-, ⟨h, hfull⟩, hj⟩ := h
        by_cases hlt : s.hid.count < hidFifoSlots
        · rw [decide_eq_true hlt, if_pos rfl]
          exact ⟨⟨h.toQueued, hlt⟩, hj⟩
        · have hle := h.count_le
          rw [decide_eq_false hlt, if_neg Bool.false_ne_true]
          exact ⟨Bool.eq_true_of_not_eq_false fun hf => hlt (hfull hf), ⟨h.toQueued, .inl (by omega)⟩, hj⟩
    refine hroom.bind fun room => ?_
    cases room with
    | true =>
      intro s a t h
      exact hf.takes_free h.1 s a t h.2
    | false =>
      intro s a t h
      exact hf.takes_full h.1 h.2.1 s a t h.2.2
  · -- the report repeats the one before it
    refine Triple.pure (hf.stable_and (stable_took es last full r)) ?_
    rintro s ⟨hnews, ⟨h, -⟩, hj⟩
    have hsame : last = some r := by
      by_contra hne
      exact hc (hnews.mpr hne)
    exact ⟨⟨es, .repeated hsame, hsame ▸ h⟩, hj⟩

/-- The resting policy leaves the queue alone. -/
theorem takes_rfQueueHIDReport (last : Option Report) (full : Bool) :
    Triple env (fun s => s.Before es last full ∧ J s) (rfQueueHIDReport r) fun _ s => s.Took es last full r ∧ J s := by
  have hrest : Each (fun f => ∀ s : Rf, (f s).hid = s.hid ∧ (f s).log.retired = s.log.retired) wakeRest := by simp
  have htook : Kept env (Rf.Took es last full r) wakeRest := by
    refine Each.triple (hrest.mono fun f hf s => ?_) fun s t hi => stable_took es last full r s t (hf.interrupts s t hi)
    rintro ⟨es', htakes, h⟩
    obtain ⟨hhid, hlog⟩ := hf s
    refine ⟨es', htakes, h.toQueued.congr ?_ ?_ ?_ hlog, ?_, ?_⟩
    all_goals rw [hhid]
    · exact h.valid
    · exact h.newest
  exact (hf.takes_queueReport last full).bind fun _ => htook.and hf.rest

end QueueFrame

theorem takes_rfQueueHIDReport (last : Option Report) (full : Bool) :
    Triple QueueInterrupt (Rf.Before es last full) (rfQueueHIDReport r) fun _ => Rf.Took es last full r :=
  ((queueFrame_true r).takes_rfQueueHIDReport last full).conseq (fun _ h => ⟨h, trivial⟩) fun _ _ h => h.1

end OpenController
