import OpenController.HidLink
import OpenController.Lemmas.HidDiscardRun

/-!
# The link of the reports, between two statements

In a session the dongle awaits the response to a poll, or it has accepted one and the keyboard does not know yet. While it awaits,
the sequence bit of the keyboard is the one it accepts, and a response with that bit carries the head of the FIFO or, if the head
was not sent, nothing. Once it has accepted, the head is what it accepted if the head is marked as sent, so the poll that says so
retires an entry that arrived.
-/

namespace OpenController

open Prog RfStatements

variable {w w' : HidLink} {s t : Rf} {r : Response} {sent sent' : Bool}

/-! ## The bits of a poll -/

theorem flips_iff (c k : Byte) : (c ^^^ k) &&& 1 ≠ 0 ↔ ackBit c ≠ ackBit k := by
  have hbit : ∀ x : Byte, x &&& 1 ≠ 0 ↔ x.getLsbD 0 = true := by decide +kernel
  rw [hbit, BitVec.getLsbD_xor, ackBit, ackBit, bne_iff_ne]

/-- The control byte after an acknowledgement. -/
theorem ackBit_acked (c k : Byte) : ackBit (((k &&& ~~~1) ||| (c &&& 1)) ^^^ 2) = ackBit c := by
  simp [ackBit]

theorem seqBit_acked (c k : Byte) : seqBit (((k &&& ~~~1) ||| (c &&& 1)) ^^^ 2) = !seqBit k := by
  simp [seqBit]

/-- The head of the FIFO, as the entry it is. -/
def Rf.headFrame (s : Rf) : HidFrame := ⟨s.log.sessions, s.log.passed, s.hid.headReport⟩

/-- A poll that is caught acknowledges nothing, or the response before it; then the head, if it is marked and there, is retired. -/
theorem Rf.Polled.acks {buf : RxBuf} (h : s.Polled buf t) :
    (ackBit (buf 2) = ackBit s.resp.txCtrl ∧ t.hid = s.hid ∧ t.resp.txCtrl = s.resp.txCtrl ∧
        t.log = { s.log with caughtOn := s.radio.tuned }) ∨
      (ackBit (buf 2) ≠ ackBit s.resp.txCtrl ∧ ackBit t.resp.txCtrl = ackBit (buf 2) ∧
        seqBit t.resp.txCtrl = !seqBit s.resp.txCtrl ∧
        ((s.hid.headSent = true ∧ s.hid.tail ≠ s.hid.head ∧
            t.hid = { s.hid with headSent := false, head := u8 (s.hid.head + 1) } ∧
            t.log = { s.noteRetired.log with caughtOn := s.radio.tuned }) ∨
          (¬(s.hid.headSent = true ∧ s.hid.tail ≠ s.hid.head) ∧ t.hid = { s.hid with headSent := false } ∧
            t.log = { s.log with caughtOn := s.radio.tuned }))) := by
  have htx : t.resp.txCtrl = (s.ackPoll (buf 2)).resp.txCtrl := by rw [h.resp]
  rw [h.hid, h.log, htx]
  unfold Rf.ackPoll
  by_cases hflip : (buf 2 ^^^ s.resp.txCtrl) &&& 1 ≠ 0
  · rw [if_pos hflip]
    refine .inr ⟨(flips_iff _ _).mp hflip, ?_, ?_, ?_⟩
    · repeat' split
      all_goals exact ackBit_acked _ _
    · repeat' split
      all_goals exact seqBit_acked _ _
    · by_cases hsent : s.hid.headSent = true
      · rw [if_pos hsent]
        by_cases hne : s.hid.tail ≠ s.hid.head
        · rw [if_pos hne]
          exact .inl ⟨hsent, hne, rfl, rfl⟩
        · rw [if_neg hne]
          exact .inr ⟨fun hc => hne hc.2, rfl, rfl⟩
      · rw [if_neg hsent]
        have hclear : s.hid = { s.hid with headSent := false } := by
          rw [← Bool.eq_false_iff.mpr hsent]
        exact .inr ⟨fun hc => hsent hc.1, hclear, rfl⟩
  · rw [if_neg hflip]
    exact .inl ⟨by_contra fun hne => hflip ((flips_iff _ _).mpr hne), rfl, rfl, rfl⟩

/-! ## The FIFO and its entries -/

/-- The FIFO is in order, and linked to what entered it. -/
structure Rf.Filed (s : Rf) : Prop extends s.Linked where
  inOrder : s.Queued s.entries

theorem Rf.Tracks.filed {n : Nat} {started : List HidFrame} (h : s.Tracks n started) : s.Filed := ⟨h.toLinked, h.inOrder⟩

namespace Rf.Filed

/-- What it says is said of every run that sends nothing yet. -/
theorem tracks (h : s.Filed) : s.Tracks 0 s.log.started :=
  ⟨⟨h.toLinked, Nat.zero_le _, [], (List.append_nil _).symm, nofun⟩, h.inOrder⟩

theorem keep (h : s.Filed) (hk : s.FifoKeep t) : t.Filed := (h.tracks.keep hk).filed

/-- The oldest entry in the FIFO. -/
theorem head (h : s.Filed) (hne : s.hid.tail ≠ s.hid.head) : s.log.entered[s.log.passed]? = some s.hid.headReport := by
  obtain ⟨left, hleft⟩ := Nat.exists_eq_succ_of_ne_zero (h.inOrder.count_pos hne).ne'
  have hhead : s.hid.queue[0]? = some s.hid.headReport := by
    rw [RfHid.queue, hleft, Nat.succ_eq_add_one, Ring.view_cons]
    rfl
  rwa [← h.queue, List.getElem?_drop, Nat.add_zero] at hhead

/-- It is retired. -/
theorem retire (h : s.Filed) (hsent : s.hid.headSent = true) (hne : s.hid.tail ≠ s.hid.head)
    (hhid : t.hid = { s.hid with headSent := false, head := u8 (s.hid.head + 1) })
    (hlog : t.log = { s.noteRetired.log with caughtOn := s.radio.tuned }) : t.Filed := by
  have hacked := h.inOrder.acked (.retired hsent hne hhid (by rw [hlog]))
  obtain ⟨hqueue, hcount⟩ := queue_retire t.hid h.inOrder.head_lt h.inOrder.tail_lt hne (by rw [hhid]) (by rw [hhid]) (by rw [hhid])
  have hlen := h.length
  refine ⟨⟨?_, ?_⟩, hacked.entries.symm ▸ hacked⟩
  · rw [hlog]
    simp only [Rf.noteRetired]
    omega
  · rw [hlog]
    simp only [Rf.noteRetired]
    rw [← List.drop_drop, h.queue, hqueue]
    rfl

end Rf.Filed

/-- An entry that entered, and is the head of the FIFO or has left it. -/
structure RfLog.HasEntry (log : RfLog) (f : HidFrame) : Prop where
  session : f.session ≤ log.sessions
  entry : f.entry ≤ log.passed
  report : log.entered[f.entry]? = some f.report

theorem Rf.Filed.headFrame (h : s.Filed) (hne : s.hid.tail ≠ s.hid.head) : s.log.HasEntry s.headFrame :=
  ⟨Nat.le_refl _, Nat.le_refl _, h.head hne⟩

/-! ## Deliveries -/

/-- What the dongle accepted, and what it may accept of the response on the air. -/
structure Deliveries (w : HidLink) : Prop where
  reports : w.dongle.reports = w.carried.map (·.report.toList)
  entries : ∀ f ∈ w.carried, w.rf.log.HasEntry f
  order : w.carried.Pairwise HidFrame.Before
  retired : ∀ f ∈ w.rf.log.retired, f ∈ w.carried
  payload : ∀ r, w.air = some r → r.payload = responseFrame r.ctrl (r.carries.map (·.report))
  air : ∀ r, w.air = some r → seqBit r.ctrl ≠ w.dongle.seq → ∀ f, r.carries = some f →
    w.rf.log.HasEntry f ∧ ∀ g ∈ w.carried, g.Before f

namespace Deliveries

/-- The keyboard goes on, and has retired nothing that was not accepted. -/
theorem keep (h : Deliveries w) (hentries : ∀ f, w.rf.log.HasEntry f → t.log.HasEntry f)
    (hretired : ∀ f ∈ t.log.retired, f ∈ w.carried) : Deliveries { w with rf := t } where
  reports := h.reports
  entries f hf := hentries f (h.entries f hf)
  order := h.order
  retired := hretired
  payload := h.payload
  air r hr hseq f hf := ⟨hentries f (h.air r hr hseq f hf).1, (h.air r hr hseq f hf).2⟩

/-- What was on the air is gone. -/
theorem silence (h : Deliveries w) (answered : Bool) : Deliveries { w with air := none, answered := answered } :=
  { h with payload := nofun, air := nofun }

/-- The bytes of a response are its control byte and its report. -/
theorem hear_payload (d : HidDongle) (ctrl : Byte) (report : Option Report) : d.hear (responseFrame ctrl report) =
    if seqBit ctrl = d.seq then d
    else ⟨!d.ctrl, seqBit ctrl, d.reports ++ (report.map (·.toList)).toList⟩ := by
  cases report <;> simp [responseFrame, HidDongle.hear, HidDongle.accept]

/-- The dongle hears the response on the air. -/
theorem hear (h : Deliveries w) (hr : w.air = some r) : Deliveries (w.hear r) := by
  have hdongle : (w.hear r).dongle = if seqBit r.ctrl = w.dongle.seq then w.dongle
      else ⟨!w.dongle.ctrl, seqBit r.ctrl, w.dongle.reports ++ ((r.carries.map (·.report)).map (·.toList)).toList⟩ :=
    (congrArg w.dongle.hear (h.payload r hr)).trans (hear_payload _ _ _)
  by_cases hseq : seqBit r.ctrl = w.dongle.seq
  · rw [if_pos hseq] at hdongle
    have hcarried : (w.hear r).carried = w.carried := if_pos hseq
    refine ⟨?_, ?_, ?_, ?_, nofun, nofun⟩
    · rw [hdongle, hcarried]
      exact h.reports
    · rw [hcarried]
      exact h.entries
    · rw [hcarried]
      exact h.order
    · rw [hcarried]
      exact h.retired
  · rw [if_neg hseq] at hdongle
    have hcarried : (w.hear r).carried = w.carried ++ r.carries.toList := if_neg hseq
    have hair := h.air r hr hseq
    refine ⟨?_, ?_, ?_, ?_, nofun, nofun⟩
    · rw [hdongle, hcarried, List.map_append, h.reports]
      cases r.carries <;> rfl
    · rw [hcarried]
      intro f hf
      rcases List.mem_append.mp hf with hf | hf
      · exact h.entries f hf
      · exact (hair f (Option.mem_toList.mp hf)).1
    · rw [hcarried]
      refine List.pairwise_append.mpr ⟨h.order, ?_, fun g hg f hf => (hair f (Option.mem_toList.mp hf)).2 g hg⟩
      cases r.carries with
      | none => exact List.Pairwise.nil
      | some f => exact List.pairwise_singleton _ f
    · rw [hcarried]
      exact fun f hf => List.mem_append_left _ (h.retired f hf)

end Deliveries

/-! ## A session -/

/-- Of the entries in the FIFO none was accepted in this session. -/
def HidLink.Fresh (w : HidLink) : Prop := ∀ f ∈ w.carried, f.session = w.rf.log.sessions → f.entry < w.rf.log.passed

/-- The dongle awaits a response. `sent` is the mark of the head. -/
structure Awaits (sent : Bool) (w : HidLink) : Prop where
  ack : ackBit w.rf.resp.txCtrl = w.dongle.ctrl
  seq : seqBit w.rf.resp.txCtrl ≠ w.dongle.seq
  fresh : w.Fresh
  answered : ∀ r, w.air = some r → w.answered = true
  keepalive : ∀ r, w.air = some r → seqBit r.ctrl ≠ w.dongle.seq → r.carries = none → sent = false
  head : ∀ r, w.air = some r → seqBit r.ctrl ≠ w.dongle.seq → ∀ f, r.carries = some f → sent = true ∧ f = w.rf.headFrame

/-- It has accepted one, and the keyboard does not know yet. -/
structure Accepted (sent : Bool) (w : HidLink) : Prop where
  ack : ackBit w.rf.resp.txCtrl ≠ w.dongle.ctrl
  seq : seqBit w.rf.resp.txCtrl = w.dongle.seq
  answered : w.answered = true
  air : w.air = none
  head : sent = true → w.rf.headFrame ∈ w.carried
  fresh : sent = false → w.Fresh

/-- Either of them, with a mark that is of an entry in the FIFO. -/
structure InSession (sent : Bool) (w : HidLink) : Prop where
  mark : sent = true → w.rf.hid.tail ≠ w.rf.hid.head
  phase : Awaits sent w ∨ Accepted sent w

/-- What the session depends on of the keyboard's state. -/
structure Rf.SameSession (s t : Rf) : Prop where
  txCtrl : t.resp.txCtrl = s.resp.txCtrl
  sessions : t.log.sessions = s.log.sessions
  passed : t.log.passed = s.log.passed
  tail : s.hid.tail ≠ s.hid.head → t.hid.tail ≠ t.hid.head
  report : s.hid.tail ≠ s.hid.head → t.hid.headReport = s.hid.headReport

namespace InSession

theorem keep (h : InSession sent w) (hs : w.rf.SameSession t) : InSession sent { w with rf := t } := by
  have hfresh : w.Fresh → HidLink.Fresh { w with rf := t } := by
    intro hf f hmem hsession
    exact hs.passed ▸ hf f hmem (hsession.trans hs.sessions)
  have hframe (hm : sent = true) : t.headFrame = w.rf.headFrame := by
    rw [Rf.headFrame, hs.sessions, hs.passed, hs.report (h.mark hm), Rf.headFrame]
  refine ⟨fun hm => hs.tail (h.mark hm), ?_⟩
  rcases h.phase with ha | ha
  · refine .inl ⟨?_, ?_, hfresh ha.fresh, ha.answered, ha.keepalive, fun r hr hseq f hf => ?_⟩
    · exact (congrArg ackBit hs.txCtrl).trans ha.ack
    · exact fun he => ha.seq ((congrArg seqBit hs.txCtrl).symm.trans he)
    · obtain ⟨hm, he⟩ := ha.head r hr hseq f hf
      exact ⟨hm, he.trans (hframe hm).symm⟩
  · refine .inr ⟨?_, ?_, ha.answered, ha.air, fun hm => ?_, fun hm => hfresh (ha.fresh hm)⟩
    · exact fun he => ha.ack ((congrArg ackBit hs.txCtrl).symm.trans he)
    · exact (congrArg seqBit hs.txCtrl).trans ha.seq
    · exact (hframe hm).symm ▸ ha.head hm

/-- The dongle hears the response on the air: it accepts it, or has accepted one with that sequence bit before. -/
theorem hear (h : InSession sent w) (hd : Deliveries w) (hr : w.air = some r) : InSession sent (w.hear r) := by
  refine ⟨h.mark, ?_⟩
  have ha : Awaits sent w := h.phase.resolve_right fun ha => nomatch ha.air.symm.trans hr
  have hdongle : (w.hear r).dongle = if seqBit r.ctrl = w.dongle.seq then w.dongle
      else ⟨!w.dongle.ctrl, seqBit r.ctrl, w.dongle.reports ++ ((r.carries.map (·.report)).map (·.toList)).toList⟩ :=
    (congrArg w.dongle.hear (hd.payload r hr)).trans (Deliveries.hear_payload _ _ _)
  by_cases hseq : seqBit r.ctrl = w.dongle.seq
  · rw [if_pos hseq] at hdongle
    have hcarried : (w.hear r).carried = w.carried := if_pos hseq
    refine .inl ⟨?_, ?_, ?_, nofun, nofun, nofun⟩
    · exact ha.ack.trans (congrArg HidDongle.ctrl hdongle).symm
    · exact fun he => ha.seq (he.trans (congrArg HidDongle.seq hdongle))
    · exact fun f hf => ha.fresh f (hcarried ▸ hf)
  · rw [if_neg hseq] at hdongle
    have hcarried : (w.hear r).carried = w.carried ++ r.carries.toList := if_neg hseq
    have hctrl : (w.hear r).dongle.ctrl = !w.dongle.ctrl := congrArg HidDongle.ctrl hdongle
    have hbit : seqBit r.ctrl = seqBit w.rf.resp.txCtrl := by
      have hne := ha.seq
      revert hseq hne
      cases seqBit r.ctrl <;> cases seqBit w.rf.resp.txCtrl <;> cases w.dongle.seq <;> simp
    refine .inr ⟨?_, ?_, ha.answered r hr, rfl, fun hm => ?_, fun hm => ?_⟩
    · rw [hctrl]
      exact fun he => Bool.not_ne_self _ (he.symm.trans ha.ack)
    · exact hbit.symm.trans (congrArg HidDongle.seq hdongle).symm
    · cases hf : r.carries with
      | none => exact nomatch hm.symm.trans (ha.keepalive r hr hseq hf)
      | some f =>
        obtain ⟨_, rfl⟩ := ha.head r hr hseq f hf
        rw [hcarried, hf]
        exact List.mem_append_right _ (List.mem_singleton_self _)
    · cases hf : r.carries with
      | some f => exact nomatch hm.symm.trans (ha.head r hr hseq f hf).1
      | none =>
        intro f hmem
        rw [hcarried, hf] at hmem
        exact ha.fresh f (by simpa using hmem)

end InSession

/-- A poll is caught in a session. Nothing is retired that the dongle has not accepted, and the dongle awaits a response. -/
theorem polled_session {buf : RxBuf} (h : InSession w.rf.hid.headSent w) (hd : Deliveries w) (hp : w.rf.Polled buf t)
    (hctrl : ackBit (buf 2) = w.dongle.ctrl) : Deliveries { w with rf := t, air := none, answered := false } ∧
      InSession t.hid.headSent { w with rf := t, air := none, answered := false } := by
  rcases hp.acks with ⟨hsame, hhid, htx, hlog⟩ | ⟨hflip, hack, hseq, hretire⟩
  · -- the dongle has accepted nothing since
    have ha : Awaits w.rf.hid.headSent w := h.phase.resolve_right fun ha => ha.ack (hsame.symm.trans hctrl)
    have hkeep : w.rf.SameSession t := by
      constructor
      all_goals simp [hhid, htx, hlog]
    have hdeliv : Deliveries { w with rf := t } := by
      refine hd.keep (fun f hf => ?_) ?_
      · rw [hlog]
        exact ⟨hf.session, hf.entry, hf.report⟩
      · rw [hlog]
        exact hd.retired
    have hsent : t.hid.headSent = w.rf.hid.headSent := by rw [hhid]
    have hk := h.keep hkeep
    have hawait : Awaits t.hid.headSent { w with rf := t } := by
      rw [hsent]
      exact hk.phase.resolve_right fun hacc => hacc.ack ((congrArg ackBit htx).trans (hsame.symm.trans hctrl))
    refine ⟨hdeliv.silence false, ?_, .inl ⟨hawait.ack, hawait.seq, hawait.fresh, nofun, nofun, nofun⟩⟩
    exact fun hm => hk.mark (hsent.symm.trans hm)
  · have ha : Accepted w.rf.hid.headSent w := h.phase.resolve_left fun ha => hflip (hctrl.trans ha.ack.symm)
    have hnew : ackBit t.resp.txCtrl = w.dongle.ctrl := hack.trans hctrl
    have hseq' : seqBit t.resp.txCtrl ≠ w.dongle.seq := by
      rw [hseq, ha.seq]
      exact Bool.not_ne_self _
    rcases hretire with ⟨hsent, hne, hhid, hlog⟩ | ⟨hnot, hhid, hlog⟩
    · -- the head was accepted, and is retired
      have hdeliv : Deliveries { w with rf := t } := by
        refine hd.keep (fun f hf => ?_) fun f hf => ?_
        · rw [hlog]
          exact ⟨hf.session, Nat.le_succ_of_le hf.entry, hf.report⟩
        · rw [hlog] at hf
          rcases List.mem_append.mp hf with hf | hf
          · exact hd.retired f hf
          · rw [List.mem_singleton.mp hf]
            exact ha.head hsent
      have hfresh : HidLink.Fresh { w with rf := t } := by
        intro f hf _
        have hentry := (hd.entries f hf).entry
        rw [hlog]
        exact Nat.lt_succ_of_le hentry
      have hclear : t.hid.headSent = false := by rw [hhid]
      refine ⟨hdeliv.silence false, fun hm => (nomatch hclear.symm.trans hm), .inl ⟨hnew, hseq', hfresh, nofun, nofun, nofun⟩⟩
    · have hdeliv : Deliveries { w with rf := t } := by
        refine hd.keep (fun f hf => ?_) ?_
        · rw [hlog]
          exact ⟨hf.session, hf.entry, hf.report⟩
        · rw [hlog]
          exact hd.retired
      have hunsent : w.rf.hid.headSent = false := Bool.eq_false_iff.mpr fun hm => hnot ⟨hm, h.mark hm⟩
      have hfresh : HidLink.Fresh { w with rf := t } := by
        intro f hf hsession
        rw [hlog] at hsession ⊢
        exact ha.fresh hunsent f hf hsession
      have hclear : t.hid.headSent = false := by rw [hhid]
      refine ⟨hdeliv.silence false, fun hm => (nomatch hclear.symm.trans hm), .inl ⟨hnew, hseq', hfresh, nofun, nofun, nofun⟩⟩

/-! ## Steps of the environment -/

/-- Between two statements a poll is caught, nothing much happens, or the dongle hears the response on the air. -/
theorem linkHears_cases (h : LinkHears w w') :
    (∃ buf t, w.rf.radio.receiving = true ∧ ackBit (buf 2) = w.dongle.ctrl ∧ w.rf.Polled buf t ∧
        w' = { w with rf := t, air := none, answered := false }) ∨
      (∃ t, w.rf.Bystander t ∧ w' = { w with rf := t }) ∨ ∃ r, w.air = some r ∧ w' = w.hear r := by
  cases h with
  | poll buf hr hc hd => exact .inl ⟨buf, _, hr, hd, Rf.polled_callback hc, rfl⟩
  | other h =>
    rcases hears_spec h with hb | ⟨buf, _, hno, hp⟩
    · exact .inr (.inl ⟨_, hb, rfl⟩)
    · exact absurd hp.catches hno
  | hear h => exact .inr (.inr ⟨_, h, rfl⟩)

theorem Rf.Bystander.fifoKeep (h : s.Bystander t) : s.FifoKeep t := by
  obtain ⟨b, hhid⟩ := h.hid
  constructor
  all_goals simp [hhid, h.log]

theorem Rf.Bystander.txCtrl (h : s.Bystander t) : t.resp.txCtrl = s.resp.txCtrl := by
  rcases h.resp with hr | hr <;> rw [hr]

theorem Rf.Bystander.headSent (h : s.Bystander t) : t.hid.headSent = s.hid.headSent := by
  obtain ⟨b, hhid⟩ := h.hid
  rw [hhid]

/-- The FIFO is as it was. -/
theorem Rf.FifoKeep.sameSession (h : s.FifoKeep t) (hsessions : t.log.sessions = s.log.sessions)
    (htx : t.resp.txCtrl = s.resp.txCtrl) : s.SameSession t where
  txCtrl := htx
  sessions := hsessions
  passed := h.passed
  tail hne := by rwa [h.tail, h.head]
  report := fun _ => by rw [RfHid.headReport, RfHid.headReport, h.fifo, h.head]

theorem Rf.FifoKeep.hasEntry (h : s.FifoKeep t) (hsessions : t.log.sessions = s.log.sessions) {f : HidFrame}
    (hf : s.log.HasEntry f) : t.log.HasEntry f :=
  ⟨hsessions.symm ▸ hf.session, h.passed.symm ▸ hf.entry, h.entered.symm ▸ hf.report⟩

theorem filed_hears (h : LinkHears w w') (hf : w.rf.Filed) : w'.rf.Filed := by
  rcases linkHears_cases h with ⟨buf, t, _, _, hp, rfl⟩ | ⟨t, hb, rfl⟩ | ⟨r, _, rfl⟩
  · rcases hp.acks with ⟨_, hhid, _, hlog⟩ | ⟨_, _, _, ⟨hsent, hne, hhid, hlog⟩ | ⟨_, hhid, hlog⟩⟩
    · exact hf.keep (by constructor <;> simp [hhid, hlog])
    · exact hf.retire hsent hne hhid hlog
    · exact hf.keep (by constructor <;> simp [hhid, hlog])
  · exact hf.keep hb.fifoKeep
  · exact hf

end OpenController
