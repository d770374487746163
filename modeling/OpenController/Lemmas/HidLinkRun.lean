import OpenController.Lemmas.HidLinkAux
import OpenController.Lemmas.RfCalls

/-!
# The link of the reports, across runs

`LinkOk` holds between the statements of every call. A response is chosen while the dongle awaits one, and goes out before the next
poll can acknowledge anything; the mark of the head is set after that, with the radio off.
-/

namespace OpenController

open Prog RfStatements

variable {w w' : HidLink} {s t : Rf} {head : Option Report}

/-! ## The invariant -/

/-- The FIFO is in order, and as long as no response was chosen twice, so are the deliveries and the session. -/
structure LinkIn (w : HidLink) : Prop where
  filed : w.rf.Filed
  deliveries : w.twice = false → Deliveries w
  session : w.twice = false → w.rf.state = .connected → InSession w.rf.hid.headSent w

/-- So they are, and no response is being chosen. -/
structure LinkOk (w : HidLink) : Prop extends LinkIn w where
  outside : w.rf.log.stretch ≠ .selected

/-- Interrupts keep the deliveries and the session in order. -/
theorem stable_linkIn : Stable LinkHears LinkIn := by
  intro w w' hi h
  have hfiled := filed_hears hi h.filed
  rcases linkHears_cases hi with ⟨buf, t, _, hctrl, hp, rfl⟩ | ⟨t, hb, rfl⟩ | ⟨r, hr, rfl⟩
  · have hpolled (hw : w.twice = false) := polled_session (h.session hw hp.catches.1) (h.deliveries hw) hp hctrl
    exact ⟨hfiled, fun hw => (hpolled hw).1, fun hw _ => (hpolled hw).2⟩
  · have hsessions : t.log.sessions = w.rf.log.sessions := by rw [hb.log]
    refine ⟨hfiled, fun hw => (h.deliveries hw).keep (fun f => hb.fifoKeep.hasEntry hsessions) ?_, fun hw hst => ?_⟩
    · rw [hb.log]
      exact (h.deliveries hw).retired
    · have hin := h.session hw (hb.state.symm.trans hst)
      rw [← hb.headSent] at hin
      exact hin.keep (hb.fifoKeep.sameSession hsessions hb.txCtrl)
  · exact ⟨hfiled, fun hw => (h.deliveries hw).hear hr, fun hw hst => (h.session hw hst).hear (h.deliveries hw) hr⟩

/-- Nothing between two statements chooses a response, or changes the state of the link. -/
theorem linkHears_frame (h : LinkHears w w') : w'.rf.log.stretch = w.rf.log.stretch ∧ w'.rf.state = w.rf.state ∧
    w'.rf.radio.receiving = w.rf.radio.receiving ∧ w'.twice = w.twice := by
  rcases linkHears_cases h with ⟨buf, t, _, _, hp, rfl⟩ | ⟨t, hb, rfl⟩ | ⟨r, _, rfl⟩
  · refine ⟨?_, hp.state, by rw [hp.radio], rfl⟩
    rcases hp.acks with ⟨_, _, _, hlog⟩ | ⟨_, _, _, ⟨_, _, _, hlog⟩ | ⟨_, _, hlog⟩⟩ <;> rw [hlog]
    rfl
  · obtain ⟨aa, hradio⟩ := hb.radio
    exact ⟨by rw [hb.log], hb.state, by rw [hradio], rfl⟩
  · exact ⟨rfl, rfl, rfl, rfl⟩

/-- They choose no response. -/
theorem stable_linkOk : Stable LinkHears LinkOk := fun w w' hi h =>
  ⟨stable_linkIn w w' hi h.toLinkIn, (linkHears_frame hi).1.symm ▸ h.outside⟩

/-! ## Statements -/

/-- Nothing that is remembered is touched. -/
theorem watch_rf_of (hsessions : t.log.sessions = w.rf.log.sessions) (hanswers : t.log.answers.length = w.rf.log.answers.length)
    (hchooses : ¬w.rf.Chooses t) : w.watch t = { w with rf := t } := by
  have hresponded : w.rf.responded t = none := if_neg (by omega)
  simp [HidLink.watch, hsessions, hresponded, hchooses]

/-- What is watched is the new state. -/
theorem HidLink.watch_rf (t : Rf) (w : HidLink) : (w.watch t).rf = t := by
  unfold HidLink.watch
  split <;> rfl

/-- To watch a state that did not change notes nothing. -/
theorem hidLink_watch_self (w : HidLink) : w.watch w.rf = w := watch_rf_of rfl rfl fun h => h.2 h.1

/-- A statement moves the session on: entries may come in behind the head, and the link may go down. -/
@[mk_iff]
structure Rf.Carries (s t : Rf) : Prop where
  entered : ∀ k ≤ s.log.passed, ∀ r, s.log.entered[k]? = some r → t.log.entered[k]? = some r
  passed : t.log.passed = s.log.passed
  retired : t.log.retired = s.log.retired
  tail : s.hid.tail ≠ s.hid.head → t.hid.tail ≠ t.hid.head
  headSent : t.hid.headSent = s.hid.headSent
  txCtrl : t.resp.txCtrl = s.resp.txCtrl
  sessions : t.log.sessions = s.log.sessions
  answers : t.log.answers.length = s.log.answers.length
  stretch : t.log.stretch = .selected → s.log.stretch = .selected
  connected : t.state = .connected → s.state = .connected

/-- A statement that moves the session on leaves it the same. -/
theorem Rf.Carries.sameSession (h : s.Carries t) (hs : s.Filed) (ht : t.Filed) : s.SameSession t where
  txCtrl := h.txCtrl
  sessions := h.sessions
  passed := h.passed
  tail := h.tail
  report hne := by
    have hold := h.entered _ (Nat.le_refl _) _ (hs.head hne)
    have hnew := ht.head (h.tail hne)
    rw [h.passed] at hnew
    exact Option.some.inj (hnew.symm.trans hold)

/-- So it keeps the link in order. -/
theorem linkIn_carries (h : LinkIn w) (ht : t.Filed) (hc : w.rf.Carries t) : LinkIn { w with rf := t } := by
  have hentry (f : HidFrame) (hf : w.rf.log.HasEntry f) : t.log.HasEntry f :=
    ⟨hc.sessions.symm ▸ hf.session, hc.passed.symm ▸ hf.entry, hc.entered _ hf.entry _ hf.report⟩
  refine ⟨ht, fun hw => (h.deliveries hw).keep hentry (hc.retired.symm ▸ (h.deliveries hw).retired), fun hw hst => ?_⟩
  have hin := h.session hw (hc.connected hst)
  rw [← hc.headSent] at hin
  exact hin.keep (hc.sameSession h.filed ht)

/-- And chooses no response. -/
theorem linkOk_carries (h : LinkOk w) (ht : t.Filed) (hc : w.rf.Carries t) : LinkOk (w.watch t) := by
  rw [watch_rf_of hc.sessions hc.answers fun hch => h.outside (hc.stretch hch.1)]
  exact ⟨linkIn_carries h.toLinkIn ht hc, fun hst => h.outside (hc.stretch hst)⟩

/-- A statement that leaves the FIFO alone, too. -/
@[mk_iff]
structure Rf.LinkKeep (s t : Rf) : Prop where
  fifo : s.FifoKeep t
  carries : s.Carries t

/-- From states with `pre`, every run of a program of the RF task ends with `post`. -/
abbrev LinkTriple {α : Type} (pre : HidLink → Prop) (p : RfM α) (post : α → HidLink → Prop) : Prop :=
  Triple LinkHears pre (p.zoom HidLink.rf HidLink.watch) post

/-- A program keeps the link in order. -/
abbrev LinkKept {α : Type} (p : RfM α) : Prop := LinkTriple LinkOk p fun _ => LinkOk

/-- A statement that does so in every state. -/
def LinkStmt (f : Rf → Rf) : Prop := ∀ s : Rf, s.LinkKeep (f s)

/-- A call of such statements keeps the link in order. -/
theorem linkKept_of {α : Type} {p : RfM α} (h : Each LinkStmt p) : LinkKept p :=
  Each.zoom stable_linkOk (h.mono fun _ hf w hw =>
    linkOk_carries hw (hw.filed.keep (hf w.rf).fifo) (hf w.rf).carries)

/-- Calls that do compose. -/
theorem composes_linkKept : Composes fun p => LinkKept p := Kept.composes_zoom stable_linkOk hidLink_watch_self

attribute [local simp] LinkStmt Rf.linkKeep_iff Rf.fifoKeep_iff Rf.carries_iff

/-! ### In a state of the link -/

/-- The link is in order, and in a state. -/
def LinkAt (st : RfState) (w : HidLink) : Prop := LinkOk w ∧ w.rf.state = st

/-- No interrupt changes the state of the link. -/
theorem stable_linkAt (st : RfState) : Stable LinkHears (LinkAt st) := fun w w' hi h =>
  ⟨stable_linkOk w w' hi h.1, (linkHears_frame hi).2.1.trans h.2⟩

/-- A statement that leaves the state of the link alone. -/
def LinkStateStmt (f : Rf → Rf) : Prop := ∀ s : Rf, s.LinkKeep (f s) ∧ (f s).state = s.state

/-- A call that does not either. -/
theorem linkAt_of {α : Type} {st : RfState} {p : RfM α} (h : Each LinkStateStmt p) : LinkTriple (LinkAt st) p fun _ => LinkAt st := by
  refine Each.zoom (stable_linkAt st) (h.mono fun _ hf w hw => ?_)
  obtain ⟨hk, hst⟩ := hf w.rf
  refine ⟨linkOk_carries hw.1 (hw.1.filed.keep hk.fifo) hk.carries, ?_⟩
  rw [HidLink.watch_rf]
  exact hst.trans hw.2

attribute [local simp] LinkStateStmt

/-- A handler that runs in one state of the link. -/
theorem hidLink_inState {st : RfState} {p : RfM Unit} (hp : LinkTriple (LinkAt st) p fun _ => LinkOk) : LinkKept (do
    let state ← .read fun s => s.state
    whenever (state = st) p) := by
  have hread : LinkTriple LinkOk (.read fun s => s.state) fun state w => LinkOk w ∧ (state = st → w.rf.state = st) :=
    Triple.zoom_read hidLink_watch_self stable_linkOk
      (fun _ w w' hi hw => ⟨stable_linkOk w w' hi hw.1, fun he => (linkHears_frame hi).2.1.trans (hw.2 he)⟩) fun _ hw => ⟨hw, id⟩
  refine Triple.zoom_bind hread fun state => ite_of (K := fun q => LinkTriple _ q fun _ => LinkOk) (fun he => ?_) fun _ => ?_
  · exact hp.conseq (fun w hw => ⟨hw.1, hw.2 he⟩) fun _ _ hw => hw
  · exact (composes_linkKept.pure ()).conseq (fun w hw => hw.1) fun _ _ hw => hw

/-- Without a session there is nothing to keep but the FIFO and the deliveries. -/
theorem linkOk_down (h : LinkOk w) (hk : w.rf.FifoKeep t) (hst : t.state ≠ .connected) (hsessions : t.log.sessions = w.rf.log.sessions)
    (hanswers : t.log.answers.length = w.rf.log.answers.length) (hstretch : t.log.stretch ≠ .selected) : LinkOk (w.watch t) := by
  rw [watch_rf_of hsessions hanswers fun hch => hstretch hch.1]
  refine ⟨⟨h.filed.keep hk, fun hw => ?_, fun _ hc => absurd hc hst⟩, hstretch⟩
  exact (h.deliveries hw).keep (fun f => hk.hasEntry hsessions) (hk.retired.symm ▸ (h.deliveries hw).retired)

/-! ## Responses -/

/-- A response is being chosen: the dongle awaits it, and if it is a report it is the head of the FIFO. -/
structure Chosen (head : Option Report) (w : HidLink) : Prop extends LinkIn w where
  connected : w.rf.state = .connected
  unanswered : w.twice = false → w.answered = false
  report : w.twice = false → ∀ r, head = some r → w.rf.hid.tail ≠ w.rf.hid.head ∧ w.rf.hid.headReport = r
  keepalive : w.twice = false → head = none → w.rf.hid.tail = w.rf.hid.head

/-- While a response is chosen the dongle awaits it. -/
theorem Chosen.awaits (h : Chosen head w) (hw : w.twice = false) : Awaits w.rf.hid.headSent w :=
  (h.session hw h.connected).phase.resolve_right fun ha => nomatch (h.unanswered hw).symm.trans ha.answered

/-- A packet heard leaves the choice. -/
theorem stable_chosen (head : Option Report) : Stable LinkHears (Chosen head) := by
  intro w w' hi h
  have hin := stable_linkIn w w' hi h.toLinkIn
  have hst := (linkHears_frame hi).2.1.trans h.connected
  rcases linkHears_cases hi with ⟨buf, t, _, hctrl, hp, rfl⟩ | ⟨t, hb, rfl⟩ | ⟨r, hr, rfl⟩
  · -- a poll acknowledges nothing while the dongle awaits the response
    have hhid (hw : w.twice = false) : t.hid = w.rf.hid := by
      rcases hp.acks with ⟨_, hhid, _⟩ | ⟨hflip, _⟩
      · exact hhid
      · exact absurd (hctrl.trans (h.awaits hw).ack.symm) hflip
    exact ⟨hin, hst, fun _ => rfl, fun hw => hhid hw ▸ h.report hw, fun hw => hhid hw ▸ h.keepalive hw⟩
  · obtain ⟨b, hhid⟩ := hb.hid
    refine ⟨hin, hst, h.unanswered, fun hw => ?_, fun hw => ?_⟩
    all_goals
      dsimp only
      rw [hhid]
    · exact h.report hw
    · exact h.keepalive hw
  · refine ⟨hin, hst, fun hw => ?_, h.report, h.keepalive⟩
    exact nomatch (h.unanswered hw).symm.trans ((h.awaits hw).answered r hr)

/-- A response is chosen. -/
theorem hidLink_select : LinkTriple (LinkAt .connected) rfSelectHead fun head => Chosen head := by
  refine Triple.stmt (stable_linkAt _) fun w ⟨h, hst⟩ => Triple.pure (stable_chosen _) ?_
  rintro _ rfl
  have hchooses : w.rf.Chooses { w.rf with log := { w.rf.log with stretch := .selected } } := ⟨rfl, h.outside⟩
  have hresponded : w.rf.responded { w.rf with log := { w.rf.log with stretch := .selected } } = none := if_neg (Nat.lt_irrefl _)
  have hwatch : w.watch { w.rf with log := { w.rf.log with stretch := .selected } } =
      { w with rf := { w.rf with log := { w.rf.log with stretch := .selected } }, twice := w.twice || w.answered } := by
    simp [HidLink.watch, hresponded, hchooses]
  rw [hwatch]
  have hfiled : Rf.Filed { w.rf with log := { w.rf.log with stretch := .selected } } :=
    h.filed.keep ⟨rfl, rfl, rfl, rfl, rfl, rfl, rfl⟩
  have hdown : ∀ {a b : Bool}, (a || b) = false → a = false ∧ b = false := by decide
  have hcount : w.rf.hid.count ≠ 0 ↔ w.rf.hid.tail ≠ w.rf.hid.head := by
    have := h.filed.inOrder.head_lt
    have := h.filed.inOrder.tail_lt
    rw [RfHid.count, sub8]
    omega
  have hkeep : Rf.SameSession w.rf { w.rf with log := { w.rf.log with stretch := .selected } } :=
    ⟨rfl, rfl, rfl, id, fun _ => rfl⟩
  refine ⟨⟨hfiled, fun hw => ?_, fun hw hc => ?_⟩, hst, fun hw => (hdown hw).2, fun hw r hr => ?_, fun hw hr => ?_⟩
  · have hd := (h.deliveries (hdown hw).1).keep (t := { w.rf with log := { w.rf.log with stretch := .selected } })
      (fun f hf => ⟨hf.session, hf.entry, hf.report⟩) (h.deliveries (hdown hw).1).retired
    exact ⟨hd.reports, hd.entries, hd.order, hd.retired, hd.payload, hd.air⟩
  · have hin := (h.session (hdown hw).1 hst).keep hkeep
    refine ⟨hin.mark, ?_⟩
    rcases hin.phase with ha | ha
    · exact .inl ⟨ha.ack, ha.seq, ha.fresh, ha.answered, ha.keepalive, ha.head⟩
    · exact .inr ⟨ha.ack, ha.seq, ha.answered, ha.air, ha.head, ha.fresh⟩
  · rw [Rf.selectHead] at hr
    split at hr
    · next hc => exact ⟨hcount.mp hc, Option.some.inj hr⟩
    · cases hr
  · rw [Rf.selectHead] at hr
    split at hr
    · cases hr
    · next hc => exact by_contra fun hne => hc (hcount.mpr hne)

/-- It is chosen, and the radio is off. -/
structure ChosenOff (head : Option Report) (w : HidLink) : Prop extends Chosen head w where
  off : w.rf.radio.receiving = false
  outside : w.rf.log.stretch ≠ .selected

/-- With the radio off no packet is heard. -/
theorem stable_chosenOff (head : Option Report) : Stable LinkHears (ChosenOff head) := fun w w' hi h =>
  ⟨stable_chosen head w w' hi h.toChosen, (linkHears_frame hi).2.2.1.trans h.off, (linkHears_frame hi).1.symm ▸ h.outside⟩

/-- The radio is shut, and nothing else changed. -/
theorem chosenOff_of (h : Chosen head w) (hk : w.rf.LinkKeep t) (hst : t.state = w.rf.state) (hhid : t.hid = w.rf.hid)
    (hoff : t.radio.receiving = false) (hout : t.log.stretch ≠ .selected) : ChosenOff head (w.watch t) := by
  rw [watch_rf_of hk.carries.sessions hk.carries.answers fun hch => hout hch.1]
  have hin := linkIn_carries h.toLinkIn (h.filed.keep hk.fifo) hk.carries
  exact ⟨⟨hin, hst.trans h.connected, h.unanswered, hhid ▸ h.report, hhid ▸ h.keepalive⟩, hoff, hout⟩

/-- `RF_Shut`, before the response. -/
theorem hidLink_shut (head : Option Report) : LinkTriple (Chosen head) rfShut fun _ => ChosenOff head :=
  Triple.modify (stable_chosen head) (stable_chosenOff head) fun _ h => chosenOff_of h (by simp) rfl rfl rfl nofun

/-- It went out, or not, and the head is to be marked if it was sent. -/
structure Went (mark : Bool) (w : HidLink) : Prop where
  filed : w.rf.Filed
  deliveries : w.twice = false → Deliveries w
  session : w.twice = false → InSession (mark || w.rf.hid.headSent) w
  off : w.rf.radio.receiving = false
  outside : w.rf.log.stretch ≠ .selected

/-- What went out stays so until the head is marked. -/
theorem stable_went (mark : Bool) : Stable LinkHears (Went mark) := by
  intro w w' hi h
  have hfiled := filed_hears hi h.filed
  obtain ⟨hstretch, _, hreceiving, _⟩ := linkHears_frame hi
  have hoff := hreceiving.trans h.off
  have hout := hstretch.symm ▸ h.outside
  rcases linkHears_cases hi with ⟨buf, t, hr, _⟩ | ⟨t, hb, rfl⟩ | ⟨r, hr, rfl⟩
  · exact nomatch h.off.symm.trans hr
  · have hsessions : t.log.sessions = w.rf.log.sessions := by rw [hb.log]
    refine ⟨hfiled, fun hw => (h.deliveries hw).keep (fun f => hb.fifoKeep.hasEntry hsessions) ?_, fun hw => ?_, hoff, hout⟩
    · rw [hb.log]
      exact (h.deliveries hw).retired
    · have hin := h.session hw
      rw [← hb.headSent] at hin
      exact hin.keep (hb.fifoKeep.sameSession hsessions hb.txCtrl)
  · exact ⟨hfiled, fun hw => (h.deliveries hw).hear hr, fun hw => (h.session hw).hear (h.deliveries hw) hr, hoff, hout⟩

/-- The state after `RF_Tx` of a response that started. -/
def Rf.started (s : Rf) (ctrl : Byte) (head : Option Report) : Rf :=
  { s with
    radio := s.radio.tx 0 (responseFrame ctrl head)
    log := { s.log with
      started := s.log.started ++ (head.map fun r => ⟨s.log.sessions, s.log.passed, r⟩).toList
      answers := s.log.answers ++ [⟨s.radio.tuned, s.resp.responseChannel, s.log.caughtOn⟩] } }

/-- What is on the air then. -/
theorem responded_started (s : Rf) (ctrl : Byte) (head : Option Report) : s.responded (s.started ctrl head) =
    some ⟨responseFrame ctrl head, head.map fun r => ⟨s.log.sessions, s.log.passed, r⟩⟩ := by
  have hlt : s.log.answers.length < (s.started ctrl head).log.answers.length := by simp [Rf.started]
  rw [Rf.responded, if_pos hlt]
  cases head <;> simp [Rf.started, RfRadio.tx]

/-- The response that starts is noted once. -/
theorem watch_started (h : w.rf.log.stretch ≠ .selected) (ctrl : Byte) (head : Option Report) : w.watch (w.rf.started ctrl head) =
    { w with
      rf := w.rf.started ctrl head
      air := some ⟨responseFrame ctrl head, head.map fun r => ⟨w.rf.log.sessions, w.rf.log.passed, r⟩⟩
      answered := true } := by
  have hchooses : ¬w.rf.Chooses (w.rf.started ctrl head) := fun hch => h hch.1
  have hsessions : (w.rf.started ctrl head).log.sessions = w.rf.log.sessions := rfl
  simp [HidLink.watch, hsessions, responded_started, hchooses]

/-- A response has started. With the sequence bit that the dongle awaits it carries the head of the FIFO, or the head was not sent. -/
theorem went_started (h : ChosenOff head w) (ctrl : Byte) : Went head.isSome (w.watch (w.rf.started ctrl head)) := by
  have hfiled : (w.rf.started ctrl head).Filed := by
    have htracks := h.filed.tracks
    exact ⟨⟨htracks.passed_le, htracks.queue⟩, h.filed.inOrder.congr rfl rfl rfl rfl⟩
  have hctrl (carries : Option HidFrame) : Response.ctrl ⟨responseFrame ctrl head, carries⟩ = ctrl := by cases head <;> rfl
  have hframe (hw : w.twice = false) (f : HidFrame) (hf : (head.map fun r => ⟨w.rf.log.sessions, w.rf.log.passed, r⟩) = some f) :
      head.isSome = true ∧ w.rf.hid.tail ≠ w.rf.hid.head ∧ f = w.rf.headFrame := by
    obtain ⟨r, hr, rfl⟩ := Option.map_eq_some_iff.mp hf
    obtain ⟨hne, hreport⟩ := h.report hw r hr
    exact ⟨hr ▸ rfl, hne, by rw [Rf.headFrame, hreport]⟩
  rw [watch_started h.outside]
  refine ⟨hfiled, fun hw => ?_, fun hw => ?_, rfl, h.outside⟩
  · have hd := h.deliveries hw
    refine ⟨hd.reports, fun f hf => ?_, hd.order, hd.retired, fun r hr => ?_, fun r hr _ f hf => ?_⟩
    · exact ⟨(hd.entries f hf).session, (hd.entries f hf).entry, (hd.entries f hf).report⟩
    · obtain rfl := Option.some.inj hr
      rw [hctrl, Option.map_map]
      cases head <;> rfl
    · obtain rfl := Option.some.inj hr
      obtain ⟨_, hne, rfl⟩ := hframe hw f hf
      have hentry := h.filed.headFrame hne
      refine ⟨⟨hentry.session, hentry.entry, hentry.report⟩, fun g hg => ?_⟩
      have hg' := hd.entries g hg
      exact ⟨hg'.session, hg'.entry, (h.awaits hw).fresh g hg⟩
  · have ha := h.awaits hw
    have hin := h.session hw h.connected
    refine ⟨fun hm => ?_, .inl ⟨ha.ack, ha.seq, ha.fresh, fun _ _ => rfl, fun r hr _ hnone => ?_, fun r hr _ f hf => ?_⟩⟩
    · rcases (Bool.or_eq_true _ _).mp hm with hsome | hsent
      · obtain ⟨r, hr⟩ := Option.isSome_iff_exists.mp hsome
        exact (h.report hw r hr).1
      · exact hin.mark hsent
    · obtain rfl := Option.some.inj hr
      have hhead : head = none := Option.map_eq_none_iff.mp hnone
      have hunsent : w.rf.hid.headSent = false := Bool.eq_false_iff.mpr fun hm => hin.mark hm (h.keepalive hw hhead)
      rw [hhead]
      exact hunsent
    · obtain rfl := Option.some.inj hr
      obtain ⟨hsome, _, he⟩ := hframe hw f hf
      rw [hsome]
      exact ⟨rfl, he⟩

/-- No response has started. -/
theorem went_failed (h : ChosenOff head w) (hk : w.rf.LinkKeep t) (hst : t.state = w.rf.state) (hoff : t.radio.receiving = false) :
    Went false (w.watch t) := by
  have hout : t.log.stretch ≠ .selected := fun hs => h.outside (hk.carries.stretch hs)
  rw [watch_rf_of hk.carries.sessions hk.carries.answers fun hch => hout hch.1]
  have hin := linkIn_carries h.toLinkIn (h.filed.keep hk.fifo) hk.carries
  refine ⟨hin.filed, hin.deliveries, fun hw => ?_, hoff, hout⟩
  rw [Bool.false_or]
  exact hin.session hw (hst.trans h.connected)

/-- `RF_Tx` of the response. -/
theorem hidLink_tx (ctrl : Byte) (head : Option Report) : LinkTriple (ChosenOff head) (rfTxResponse ctrl head) fun status =>
    Went (decide (status = 0) && head.isSome) := by
  refine Triple.stmt (stable_chosenOff head) fun w h => Triple.pure (stable_went _) ?_
  rintro _ rfl
  by_cases hstatus : w.rf.hw.txStatus = 0
  · have hwent (t : Rf) (ht : t = w.rf.started ctrl head) : Went head.isSome (w.watch t) := ht ▸ went_started h ctrl
    rw [decide_eq_true hstatus, Bool.true_and]
    exact hwent _ (by simp [Rf.started, hstatus])
  · rw [decide_eq_false hstatus, Bool.false_and]
    exact went_failed h (by simp [hstatus]) rfl rfl

/-- A head that was sent is marked. -/
theorem linkOk_marked (h : Went true w) (hk : w.rf.FifoKeep t) (hsent : t.hid.headSent = true) (htx : t.resp.txCtrl = w.rf.resp.txCtrl)
    (hlog : t.log = w.rf.log) : LinkOk (w.watch t) := by
  have hsessions : t.log.sessions = w.rf.log.sessions := by rw [hlog]
  have hout : t.log.stretch ≠ .selected := hlog.symm ▸ h.outside
  rw [watch_rf_of hsessions (by rw [hlog]) fun hch => hout hch.1]
  refine ⟨⟨h.filed.keep hk, fun hw => ?_, fun hw _ => ?_⟩, hout⟩
  · exact (h.deliveries hw).keep (fun f => hk.hasEntry hsessions) (hk.retired.symm ▸ (h.deliveries hw).retired)
  · have hin := (h.session hw).keep (hk.sameSession hsessions htx)
    rwa [Bool.true_or, ← hsent] at hin

/-- The head that was sent is marked. -/
theorem hidLink_mark : LinkTriple (Went true) (.modify fun s => { s with hid := { s.hid with headSent := true } }) fun _ => LinkOk :=
  Triple.modify (stable_went true) stable_linkOk fun _ h => linkOk_marked h ⟨rfl, rfl, rfl, rfl, rfl, rfl, rfl⟩ rfl rfl rfl

/-- A response goes out. -/
theorem hidLink_rfDoResponseTx : LinkTriple (LinkAt .connected) rfDoResponseTx fun _ => LinkOk := by
  have hat : LinkTriple (LinkAt .connected) (pure ()) fun _ => LinkOk :=
    Triple.pure stable_linkOk fun _ h => h.1
  refine Triple.zoom_bind (linkAt_of (by simp)) fun pending => ite_of (K := fun q => LinkTriple _ q fun _ => LinkOk) (fun _ => ?_) fun _ => hat
  refine Triple.zoom_bind (linkAt_of (by simp)) fun _ => Triple.zoom_bind (linkAt_of (by simp)) fun ctrl => ?_
  refine Triple.zoom_bind hidLink_select fun head => Triple.zoom_bind (hidLink_shut head) fun _ => ?_
  refine Triple.zoom_bind (hidLink_tx ctrl head) fun status => ?_
  have hmark : LinkTriple (Went (decide (status = 0) && head.isSome)) (whenever (status = 0 ∧ head.isSome) do
      .modify fun s => { s with hid := { s.hid with headSent := true } }
      whenever (head.any Report.down) (.modify fun s => { s with hid := { s.hid with txDownInflight := true } }))
      fun _ => LinkOk := by
    refine ite_of (K := fun q => LinkTriple _ q fun _ => LinkOk) (fun hc => ?_) fun hc => ?_
    · rw [decide_eq_true hc.1, hc.2]
      exact Triple.zoom_bind hidLink_mark fun _ => linkKept_of (by simp)
    · have hno : (decide (status = 0) && head.isSome) = false := by
        rw [Bool.and_eq_false_iff, decide_eq_false_iff_not, Bool.eq_false_iff]
        exact not_and_or.mp hc
      rw [hno]
      refine Triple.pure stable_linkOk fun w h => ⟨⟨h.filed, h.deliveries, fun hw _ => ?_⟩, h.outside⟩
      exact (Bool.false_or w.rf.hid.headSent) ▸ h.session hw
  exact Triple.zoom_bind hmark fun _ => linkKept_of (by simp)

/-! ## A session begins -/

/-- The control byte of a session, and a head that is not marked. -/
def Rf.Resets (s : Rf) : Prop := s.resp.txCtrl = 2 ∧ s.hid.headSent = false

/-- Outside of a session only the state of the link matters. -/
theorem watch_linkAt {st : RfState} (h : LinkAt st w) (hne : st ≠ .connected) (hk : w.rf.FifoKeep t) (hst : t.state = w.rf.state)
    (hlog : t.log = w.rf.log) : LinkAt st (w.watch t) := by
  have hstate : t.state = st := hst.trans h.2
  refine ⟨linkOk_down h.1 hk (hstate.symm ▸ hne) (by rw [hlog]) (by rw [hlog]) (hlog.symm ▸ h.1.outside), ?_⟩
  rw [HidLink.watch_rf]
  exact hstate

/-- The control byte is that of a new session. -/
def CtrlReset (w : HidLink) : Prop := LinkAt .pairing w ∧ w.rf.resp.txCtrl = 2

/-- The link is about to be connected. -/
def Resets (w : HidLink) : Prop := LinkAt .pairing w ∧ w.rf.Resets

/-- While the link is pairing no poll touches the control byte or the mark. -/
theorem resets_hears (hi : LinkHears w w') (hst : w.rf.state = .pairing) :
    w'.rf.resp.txCtrl = w.rf.resp.txCtrl ∧ w'.rf.hid.headSent = w.rf.hid.headSent := by
  rcases linkHears_cases hi with ⟨buf, t, _, _, hp, _⟩ | ⟨t, hb, rfl⟩ | ⟨r, _, rfl⟩
  · exact nomatch hst.symm.trans hp.catches.1
  · exact ⟨hb.txCtrl, hb.headSent⟩
  · exact ⟨rfl, rfl⟩

/-- The control byte stays that of a new session. -/
theorem stable_ctrlReset : Stable LinkHears CtrlReset := fun w w' hi h =>
  ⟨stable_linkAt _ w w' hi h.1, (resets_hears hi h.1.2).1.trans h.2⟩

/-- So does the mark. -/
theorem stable_resets : Stable LinkHears Resets := fun w w' hi h =>
  ⟨stable_linkAt _ w w' hi h.1, (resets_hears hi h.1.2).1.trans h.2.1, (resets_hears hi h.1.2).2.trans h.2.2⟩

/-- The keyboard and the dongle begin a session. -/
theorem linkOk_connected (h : Resets w) (hk : w.rf.FifoKeep t) (hsessions : t.log.sessions = w.rf.log.sessions + 1)
    (htx : t.resp.txCtrl = w.rf.resp.txCtrl) (hsent : t.hid.headSent = w.rf.hid.headSent) (hout : t.log.stretch ≠ .selected) :
    LinkOk (w.watch t) := by
  have hwatch : w.watch t = { w with rf := t, dongle := w.dongle.restart, air := none, answered := false } := by
    rw [HidLink.watch, if_pos (by omega)]
  have hentry (f : HidFrame) (hf : w.rf.log.HasEntry f) : t.log.HasEntry f :=
    ⟨hsessions.symm ▸ Nat.le_succ_of_le hf.session, hk.passed.symm ▸ hf.entry, hk.entered.symm ▸ hf.report⟩
  rw [hwatch]
  refine ⟨⟨h.1.1.filed.keep hk, fun hw => ?_, fun hw _ => ?_⟩, hout⟩
  · have hd := h.1.1.deliveries hw
    exact ⟨hd.reports, fun f hf => hentry f (hd.entries f hf), hd.order, hk.retired.symm ▸ hd.retired, nofun, nofun⟩
  · have hctrl : t.resp.txCtrl = 2 := htx.trans h.2.1
    have hclear : t.hid.headSent = false := hsent.trans h.2.2
    have hbits : ackBit 2 = false ∧ seqBit 2 = true := by decide
    refine ⟨fun hm => (nomatch hclear.symm.trans hm), .inl ⟨?_, ?_, fun f hf he => ?_, nofun, nofun, nofun⟩⟩
    · exact (congrArg ackBit hctrl).trans hbits.1
    · exact fun he => nomatch hbits.2.symm.trans ((congrArg seqBit hctrl).symm.trans he)
    · have hold := ((h.1.1.deliveries hw).entries f hf).session
      have hnew : f.session = w.rf.log.sessions + 1 := he.trans hsessions
      omega

/-- A session begins with its control byte set and its head unmarked. -/
theorem hidLink_startSession (silentProbe : Bool) : LinkTriple (LinkAt .pairing) (startSession silentProbe) fun _ => LinkOk := by
  have hctrl : LinkTriple (LinkAt .pairing) (.modify fun s => { s with resp := { s.resp with txCtrl := 2 } }) fun _ => CtrlReset := by
    refine Triple.modify (stable_linkAt _) stable_ctrlReset fun w h => ?_
    refine ⟨watch_linkAt h nofun ⟨rfl, rfl, rfl, rfl, rfl, rfl, rfl⟩ rfl rfl, ?_⟩
    rw [HidLink.watch_rf]
  have hunmark : LinkTriple CtrlReset (.modify fun s => { s with hid := { s.hid with headSent := false } }) fun _ => Resets := by
    refine Triple.modify stable_ctrlReset stable_resets fun w h => ?_
    refine ⟨watch_linkAt h.1 nofun ⟨rfl, rfl, rfl, rfl, rfl, rfl, rfl⟩ rfl rfl, ?_⟩
    rw [HidLink.watch_rf]
    exact ⟨h.2, rfl⟩
  have hkeep {f : Rf → Rf} (hf : ∀ s : Rf, (f s).state = s.state ∧ (f s).hid = s.hid ∧ (f s).log = s.log ∧
      (f s).resp.txCtrl = s.resp.txCtrl) : LinkTriple Resets (.modify f) fun _ => Resets := by
    refine Triple.modify stable_resets stable_resets fun w h => ?_
    obtain ⟨hst, hhid, hlog, htx⟩ := hf w.rf
    have hfifo : w.rf.FifoKeep (f w.rf) := by constructor <;> simp [hhid, hlog]
    refine ⟨watch_linkAt h.1 nofun hfifo hst hlog, ?_⟩
    rw [HidLink.watch_rf]
    exact ⟨htx.trans h.2.1, (congrArg RfHid.headSent hhid).trans h.2.2⟩
  unfold startSession
  iterate 8 refine Triple.zoom_bind (linkAt_of (by simp)) fun _ => ?_
  refine Triple.zoom_bind hctrl fun _ => Triple.zoom_bind hunmark fun _ => ?_
  iterate 5 refine Triple.zoom_bind (hkeep fun _ => ⟨rfl, rfl, rfl, rfl⟩) fun _ => ?_
  refine Triple.modify stable_resets stable_linkOk fun w h => ?_
  exact linkOk_connected h ⟨rfl, rfl, rfl, rfl, rfl, rfl, rfl⟩ rfl rfl rfl nofun

/-- The handler that connects. -/
theorem hidLink_rfEnterConnected : LinkKept rfEnterConnected := by
  refine hidLink_inState (Triple.zoom_bind (linkAt_of (by simp)) fun silentProbe => Triple.zoom_bind (hidLink_startSession _) fun _ => ?_)
  exact linkKept_of (by simp)

/-! ## A session ends -/

/-- The head is not marked any more, and the link is about to go down. -/
structure Ends (w : HidLink) : Prop where
  filed : w.rf.Filed
  deliveries : w.twice = false → Deliveries w
  unmarked : w.rf.hid.headSent = false
  outside : w.rf.log.stretch ≠ .selected

/-- What ends goes on to end. -/
theorem stable_ends : Stable LinkHears Ends := by
  intro w w' hi h
  have hfiled := filed_hears hi h.filed
  have hout := (linkHears_frame hi).1.symm ▸ h.outside
  have hkeep {t : Rf} (hw : w.twice = false) (hlog : ∃ n, t.log = { w.rf.log with caughtOn := n }) : Deliveries { w with rf := t } := by
    obtain ⟨n, hlog⟩ := hlog
    refine (h.deliveries hw).keep (fun f hf => ?_) ?_
    · rw [hlog]
      exact ⟨hf.session, hf.entry, hf.report⟩
    · rw [hlog]
      exact (h.deliveries hw).retired
  rcases linkHears_cases hi with ⟨buf, t, _, _, hp, rfl⟩ | ⟨t, hb, rfl⟩ | ⟨r, hr, rfl⟩
  · -- a head that is not marked is not retired
    have hpoll : t.hid.headSent = false ∧ t.log = { w.rf.log with caughtOn := w.rf.radio.tuned } := by
      rcases hp.acks with ⟨_, hhid, _, hlog⟩ | ⟨_, _, _, ⟨hsent, _⟩ | ⟨_, hhid, hlog⟩⟩
      · exact ⟨(congrArg RfHid.headSent hhid).trans h.unmarked, hlog⟩
      · exact nomatch h.unmarked.symm.trans hsent
      · exact ⟨congrArg RfHid.headSent hhid, hlog⟩
    exact ⟨hfiled, fun hw => (hkeep hw ⟨_, hpoll.2⟩).silence false, hpoll.1, hout⟩
  · exact ⟨hfiled, fun hw => hkeep hw ⟨w.rf.log.caughtOn, hb.log⟩, hb.headSent.trans h.unmarked, hout⟩
  · exact ⟨hfiled, fun hw => (h.deliveries hw).hear hr, h.unmarked, hout⟩

/-- A statement of the end leaves the FIFO and the answers. -/
theorem ends_of (h : Ends w) (hk : w.rf.FifoKeep t) (hsent : t.hid.headSent = false) (hsessions : t.log.sessions = w.rf.log.sessions)
    (hanswers : t.log.answers.length = w.rf.log.answers.length) (hout : t.log.stretch ≠ .selected) : Ends (w.watch t) := by
  rw [watch_rf_of hsessions hanswers fun hch => hout hch.1]
  refine ⟨h.filed.keep hk, fun hw => ?_, hsent, hout⟩
  exact (h.deliveries hw).keep (fun f => hk.hasEntry hsessions) (hk.retired.symm ▸ (h.deliveries hw).retired)

/-- The mark is cleared, and the session is about to end. -/
theorem LinkOk.ends (h : LinkOk w) (hk : w.rf.FifoKeep t) (hsent : t.hid.headSent = false)
    (hsessions : t.log.sessions = w.rf.log.sessions) (hanswers : t.log.answers.length = w.rf.log.answers.length)
    (hout : t.log.stretch ≠ .selected) : Ends (w.watch t) := by
  rw [watch_rf_of hsessions hanswers fun hch => hout hch.1]
  refine ⟨h.filed.keep hk, fun hw => ?_, hsent, hout⟩
  exact (h.deliveries hw).keep (fun f => hk.hasEntry hsessions) (hk.retired.symm ▸ (h.deliveries hw).retired)

/-- The link is down. -/
theorem Ends.down (h : Ends w) (hk : w.rf.FifoKeep t) (hhid : t.hid = w.rf.hid) (hlog : t.log = w.rf.log) (hst : t.state ≠ .connected) :
    LinkOk (w.watch t) := by
  have hends : Ends (w.watch t) := ends_of h hk (hhid.symm ▸ h.unmarked) (by rw [hlog]) (by rw [hlog]) (hlog.symm ▸ h.outside)
  refine ⟨⟨hends.filed, hends.deliveries, fun _ hc => absurd ?_ hst⟩, hends.outside⟩
  rwa [HidLink.watch_rf] at hc

/-- The session ends. -/
theorem hidLink_onDisconnect : LinkKept onDisconnect := by
  have hK := composes_linkKept
  refine hK.bind (hK.read _) fun state => ite_of (K := fun q => LinkKept q) (fun _ => ?_) fun _ => hK.pure _
  have hunmark : LinkTriple LinkOk (.modify fun s => { s with hid := { s.hid with headSent := false } }) fun _ => Ends :=
    Triple.modify stable_linkOk stable_ends fun w h => h.ends ⟨rfl, rfl, rfl, rfl, rfl, rfl, rfl⟩ rfl rfl rfl h.outside
  have hforget : LinkTriple Ends (.modify fun s => { s with hid := { s.hid with lastQueuedValid := false } }) fun _ => Ends :=
    Triple.modify stable_ends stable_ends fun w h => ends_of h ⟨rfl, rfl, rfl, rfl, rfl, rfl, rfl⟩ h.unmarked rfl rfl h.outside
  have hdrop : LinkTriple Ends dropBondSave fun _ => Ends :=
    Triple.modify stable_ends stable_ends fun w h => ends_of h ⟨rfl, rfl, rfl, rfl, rfl, rfl, rfl⟩ h.unmarked rfl rfl h.outside
  have hidle : LinkTriple Ends (setState .idle) fun _ => LinkOk :=
    Triple.modify stable_ends stable_linkOk fun w h => h.down ⟨rfl, rfl, rfl, rfl, rfl, rfl, rfl⟩ rfl rfl nofun
  refine hK.bind (linkKept_of (by simp)) fun _ => hK.bind (linkKept_of (by simp)) fun _ => hK.bind (linkKept_of (by simp)) fun _ => ?_
  refine Triple.zoom_bind hunmark fun _ => Triple.zoom_bind hforget fun _ => Triple.zoom_bind hdrop fun _ => ?_
  exact Triple.zoom_bind hidle fun _ => linkKept_of (by simp)

/-! ## The queue discarded -/

/-- The FIFO is empty, and all that entered it has left it. -/
theorem Rf.Filed.discard (h : s.Filed) (hhead : t.hid.head = s.hid.tail)
    (htail : t.hid.tail = s.hid.tail) (hentered : t.log.entered = s.log.entered)
    (hpassed : t.log.passed = s.log.passed + s.hid.count) : t.Filed := by
  have hlen := h.length
  have hlt := h.inOrder.tail_lt
  have hcount : t.hid.count = 0 := by
    rw [RfHid.count, hhead, htail, sub8]
    omega
  refine ⟨⟨?_, ?_⟩, hhead.symm ▸ hlt, htail.symm ▸ hlt, hcount.trans_le (Nat.zero_le _), rfl⟩
  · rw [hpassed, hentered]
    exact hlen.ge
  · rw [RfHid.queue, hcount, Ring.view_zero, hpassed, hentered]
    exact List.drop_of_length_le hlen.le

/-- Outside of a session entries may leave the FIFO. -/
theorem linkAt_discard (h : LinkAt .idle w) (ht : t.Filed) (hst : t.state = w.rf.state) (hentered : t.log.entered = w.rf.log.entered)
    (hpassed : w.rf.log.passed ≤ t.log.passed) (hretired : t.log.retired = w.rf.log.retired)
    (hsessions : t.log.sessions = w.rf.log.sessions) (hanswers : t.log.answers = w.rf.log.answers)
    (hstretch : t.log.stretch = w.rf.log.stretch) : LinkAt .idle (w.watch t) := by
  have hidle := hst.trans h.2
  have hout : t.log.stretch ≠ .selected := hstretch.symm ▸ h.1.outside
  rw [watch_rf_of hsessions (by rw [hanswers]) fun hch => hout hch.1]
  refine ⟨⟨⟨ht, fun hw => ?_, fun _ hc => nomatch hidle.symm.trans hc⟩, hout⟩, hidle⟩
  refine (h.1.deliveries hw).keep (fun f hf => ?_) (hretired.symm ▸ (h.1.deliveries hw).retired)
  exact ⟨hsessions.symm ▸ hf.session, hf.entry.trans hpassed, hentered.symm ▸ hf.report⟩

/-- The queue is discarded. -/
theorem hidLink_rfDiscardHidQueue : LinkTriple (LinkAt .idle) rfDiscardHidQueue fun _ => LinkOk := by
  have hempty : LinkTriple (LinkAt .idle) (.modify fun s => { s with
      hid := { s.hid with head := s.hid.tail }
      log := { s.log with passed := s.log.passed + s.hid.count } }) fun _ => LinkAt .idle :=
    Triple.modify (stable_linkAt _) (stable_linkAt _) fun w h =>
      linkAt_discard h (h.1.filed.discard rfl rfl rfl rfl) rfl rfl (Nat.le_add_right _ _) rfl rfl rfl rfl
  have hunmark : LinkTriple (LinkAt .idle) (.modify fun s => { s with hid := { s.hid with headSent := false } }) fun _ => LinkAt .idle :=
    Triple.modify (stable_linkAt _) (stable_linkAt _) fun w h => watch_linkAt h nofun ⟨rfl, rfl, rfl, rfl, rfl, rfl, rfl⟩ rfl rfl
  exact Triple.zoom_bind hempty fun _ => hunmark.conseq (fun _ h => h) fun _ _ h => h.1

/-- So it is when the timer asks for it. -/
theorem hidLink_onDiscardHid : LinkKept onDiscardHid := hidLink_inState hidLink_rfDiscardHidQueue

/-! ## Reports -/

/-- A packet that is no poll leaves the FIFO alone. -/
theorem callback_noPoll {rsr : Nat} {buf : RxBuf} (hno : rsr = 0 → ¬s.CatchesPoll buf) :
    (s.rf2g4StatusCallBack .rxData rsr (some buf)).hid = s.hid ∧ (s.rf2g4StatusCallBack .rxData rsr (some buf)).log = s.log := by
  by_cases hrsr : rsr = 0
  · subst hrsr
    have hcb : s.rf2g4StatusCallBack .rxData 0 (some buf) = s.onRxData buf := rfl
    rw [hcb]
    by_cases hp : s.state = .pairing ∧ buf.len = 15 ∧ buf 6 < 5
    · have hon : s.onRxData buf = { s with rssi := buf 0 }.onPairPacket buf := if_pos hp
      rw [hon]
      unfold Rf.onPairPacket
      repeat' split
      all_goals exact ⟨rfl, rfl⟩
    · have hon : s.onRxData buf = { s with rssi := buf 0 }.setEvent .rxRestart := by
        by_cases hc : s.state = .connected
        · have hlen : ¬(buf.len = 1 ∨ buf.len = 3 ∨ buf.len = 10) := fun hlen => hno rfl ⟨hc, hlen⟩
          exact (if_neg hp).trans ((if_pos hc).trans (if_pos (by omega)))
        · exact (if_neg hp).trans (if_neg hc)
      rw [hon]
      exact ⟨rfl, rfl⟩
  · have hcb : s.rf2g4StatusCallBack .rxData rsr (some buf) = s.setEvent .rxRestart := if_pos hrsr
    rw [hcb]
    exact ⟨rfl, rfl⟩

/-- What is heard without a poll is an interrupt of the queue. -/
theorem queueInterrupt_hears (h : RfHears .noPoll s t) : QueueInterrupt s t := by
  cases h with
  | packet rsr buf _ hno =>
    obtain ⟨hhid, hlog⟩ := callback_noPoll hno
    exact .elsewhere hhid (congrArg RfLog.retired hlog)
  | status sta rsr rxBuf hl _ => exact .interrupt (.callback sta rsr rxBuf hl)
  | tmr0Cycle => exact .interrupt (.tmr0Cycle s)
  | tmr0Irq => exact .interrupt (.tmr0Irq s)
  | expire e => exact .interrupt (.expire s e)
  | advance ticks => exact .interrupt (.advance s ticks)
  | hardware hw => exact .interrupt (.hardware s hw)

/-- What acknowledgements do not falsify is stable here. -/
theorem stable_queue {P : Rf → Prop} (h : Stable QueueInterrupt P) : Stable LinkHears fun w => P w.rf := by
  intro w w' hi hw
  cases hi with
  | hear _ => exact hw
  | other ho => exact h _ _ (queueInterrupt_hears ho) hw
  | poll buf _ hc _ =>
    -- the radio is live when it listens
    let live : Rf := { w.rf with radio := { w.rf.radio with shut := false } }
    have hp : w.rf.Polled buf (w.rf.rf2g4StatusCallBack .rxData 0 (some buf)) := Rf.polled_callback hc
    have hpolled : live.Polled buf (live.rf2g4StatusCallBack .rxData 0 (some buf)) := Rf.polled_callback hc
    obtain ⟨hhid, _, hlog⟩ := Rf.ackPoll_congr (s := w.rf) (t := live) rfl rfl rfl (buf 2)
    have hlive : P live := h w.rf live (.elsewhere rfl rfl) hw
    have hcaught := h live _ (.interrupt (.callback .rxData 0 (some buf) rfl)) hlive
    refine h _ (w.rf.rf2g4StatusCallBack .rxData 0 (some buf)) (.elsewhere ?_ ?_) hcaught
    · rw [hp.hid, hpolled.hid, hhid]
    · rw [hp.log, hpolled.log, hlog]

section Reports

variable {es : List Report} {report : Report}

/-- The report is in a free slot. -/
theorem linkOk_write (h : LinkOk w) (hroom : w.rf.HasRoom es) :
    LinkOk (w.watch { w.rf with hid := w.rf.hid.writeSlot w.rf.hid.tail report }) :=
  linkOk_carries h (h.filed.tracks.write hroom).filed ⟨fun _ _ _ => id, rfl, rfl, id, rfl, rfl, rfl, rfl, id, id⟩

/-- It is the newest entry. -/
theorem linkOk_publish (h : LinkOk w) (hwritten : w.rf.HasWritten es report) :
    LinkOk (w.watch { w.rf with
      hid := { w.rf.hid with tail := u8 (w.rf.hid.tail + 1) }
      log := { w.rf.log with entered := w.rf.log.entered ++ [report] } }) := by
  have hroom := hwritten.1.2
  have hhead := h.filed.inOrder.head_lt
  have htail := h.filed.inOrder.tail_lt
  refine linkOk_carries h (h.filed.tracks.publish hwritten).filed ⟨fun k _ r hr => ?_, rfl, rfl, fun _ => ?_, rfl, rfl, rfl, rfl, id, id⟩
  · exact (List.getElem?_append_left (List.getElem?_eq_some_iff.mp hr).1).trans hr
  · simp only [RfHid.count, sub8, u8, hidFifoSlots] at hroom ⊢
    omega

/-- It takes the place of the newest entry, which is behind the head. -/
theorem linkOk_overwrite (h : LinkOk w) (hfull : w.rf.WasFull es) :
    LinkOk (w.watch { w.rf with
      hid := w.rf.hid.writeSlot (sub8 w.rf.hid.tail 1) report
      log := { w.rf.log with entered := w.rf.log.entered.dropLast ++ [report] } }) := by
  have hcount : 15 ≤ w.rf.hid.count := by
    have hf := hfull.2
    rw [hidFifoSlots] at hf
    omega
  have hlen := h.filed.length
  refine linkOk_carries h (h.filed.tracks.overwrite hfull).filed ⟨fun k hk r hr => ?_, rfl, rfl, id, rfl, rfl, rfl, rfl, id, id⟩
  have hlt : k < w.rf.log.entered.dropLast.length := by
    rw [List.length_dropLast]
    omega
  rw [List.getElem?_append_left hlt, List.getElem?_dropLast, if_pos (by omega)]
  exact hr

/-- The FIFO has a free slot. -/
def LinkRoom (w : HidLink) : Prop := LinkOk w ∧ ∃ es, w.rf.HasRoom es

/-- The report is in it. -/
def LinkWritten (report : Report) (w : HidLink) : Prop := LinkOk w ∧ ∃ es, w.rf.HasWritten es report

/-- The FIFO was full, and at most its head has left it since. -/
def LinkFull (w : HidLink) : Prop := LinkOk w ∧ ∃ es, w.rf.WasFull es

/-- The slot stays free. -/
theorem stable_linkRoom : Stable LinkHears LinkRoom := fun w w' hi ⟨h, es, hr⟩ =>
  ⟨stable_linkOk w w' hi h, es, stable_queue (stable_hasRoom es) w w' hi hr⟩

/-- The report stays in it. -/
theorem stable_linkWritten (report : Report) : Stable LinkHears (LinkWritten report) := fun w w' hi ⟨h, es, hr⟩ =>
  ⟨stable_linkOk w w' hi h, es, stable_queue (stable_hasWritten es report) w w' hi hr⟩

/-- A full FIFO loses its head at most. -/
theorem stable_linkFull : Stable LinkHears LinkFull := fun w w' hi ⟨h, es, hr⟩ =>
  ⟨stable_linkOk w w' hi h, es, stable_queue (stable_wasFull es) w w' hi hr⟩

/-- A report enters the FIFO behind the head. -/
theorem hidLink_queueReport (report : Report) : LinkKept (queueReport report) := by
  have hK := composes_linkKept
  refine hK.bind (hK.read _) fun changed => ite_of (K := fun q => LinkKept q) (fun _ => ?_) fun _ => hK.pure _
  have hroom : LinkTriple LinkOk (.read fun s => decide (s.hid.count < hidFifoSlots)) fun room w =>
      if room then LinkRoom w else LinkFull w := by
    refine Triple.zoom_read hidLink_watch_self stable_linkOk (fun room => ?_) fun w h => ?_
    · cases room with
      | true => exact stable_linkRoom
      | false => exact stable_linkFull
    · by_cases hlt : w.rf.hid.count < hidFifoSlots
      · rw [decide_eq_true hlt, if_pos rfl]
        exact ⟨h, _, h.filed.inOrder, hlt⟩
      · have hle := h.filed.inOrder.count_le
        rw [decide_eq_false hlt, if_neg Bool.false_ne_true]
        exact ⟨h, _, h.filed.inOrder, .inl (by omega)⟩
  refine Triple.zoom_bind hroom fun room => ?_
  cases room with
  | true =>
    have hslot : LinkTriple LinkRoom (.modify fun s => { s with hid := s.hid.writeSlot s.hid.tail report }) fun _ =>
        LinkWritten report := by
      refine Triple.modify stable_linkRoom (stable_linkWritten report) fun w ⟨h, es, hr⟩ => ⟨linkOk_write h hr, es, ?_⟩
      rw [HidLink.watch_rf]
      exact hr.write report
    have hpublish : LinkTriple (LinkWritten report) (.modify fun s => { s with
        hid := { s.hid with tail := u8 (s.hid.tail + 1) }
        log := { s.log with entered := s.log.entered ++ [report] } }) fun _ => LinkOk :=
      Triple.modify (stable_linkWritten report) stable_linkOk fun w ⟨h, es, hr⟩ => linkOk_publish h hr
    exact Triple.zoom_bind hslot fun _ => Triple.zoom_bind hpublish fun _ => linkKept_of (by simp)
  | false =>
    have hover : LinkTriple LinkFull (.modify fun s => { s with
        hid := s.hid.writeSlot (sub8 s.hid.tail 1) report
        log := { s.log with entered := s.log.entered.dropLast ++ [report] } }) fun _ => LinkOk :=
      Triple.modify stable_linkFull stable_linkOk fun w ⟨h, es, hr⟩ => linkOk_overwrite h hr
    exact Triple.zoom_bind hover fun _ => linkKept_of (by simp)

end Reports

/-! ## Every call -/

/-- Every handler keeps the link in order. -/
theorem hidLink_rfProcessEvent (e : RfEvt) : LinkKept (rfProcessEvent e) := by
  cases e with
  | enterConnected => exact hidLink_rfEnterConnected
  | respond => exact hidLink_inState hidLink_rfDoResponseTx
  | discardHid => exact hidLink_onDiscardHid
  | disconnect => exact hidLink_onDisconnect
  | _ => exact linkKept_of (by simp [rfProcessEvent])

/-- So does what the host asks for. -/
theorem hostParts_hidLink : HostParts fun p => LinkKept p where
  toComposes := composes_linkKept
  out o := linkKept_of (by simp)
  transport is2g4 := linkKept_of (by simp)
  drop := linkKept_of (by simp)
  select := linkKept_of (by simp)
  pair := linkKept_of (by simp)
  disconnect := linkKept_of (by simp)
  unpair := by
    have hK := composes_linkKept
    iterate 6 refine hK.bind (linkKept_of (by simp)) fun _ => ?_
    exact hidLink_onDiscardHid

/-- The first look at `response_pending` chooses no response. -/
theorem hidLink_rfPending : LinkKept rfPending := by
  refine linkKept_of ⟨fun s => ?_, fun _ => trivial⟩
  cases hpending : s.resp.responsePending <;> simp [hpending]

/-- Nor does the masked section. -/
theorem hidLink_rfAdvance (interval : Nat) : LinkKept (rfAdvance interval) := by
  refine linkKept_of ⟨fun s => ?_, fun _ => trivial⟩
  cases hadvanced : (s.hop.advance s.hw.rtc interval).2 <;> simp [hadvanced]

/-- Nor the second look. -/
theorem hidLink_rfPendingAgain : LinkKept rfPendingAgain := by
  refine linkKept_of ⟨fun s => ?_, fun _ => trivial⟩
  cases hpending : s.resp.responsePending <;> simp [hpending]

/-- So does the hop. -/
theorem hidLink_rfHopTick (interval : Nat) : LinkKept (rfHopTick interval) := by
  have hK := composes_linkKept
  refine hK.bind (hidLink_rfAdvance interval) fun advanced => ite_of (K := fun q => LinkKept q) (fun _ => ?_) fun _ => hK.pure _
  exact hK.bind hidLink_rfPendingAgain fun pending => linkKept_of (by simp)

/-- And the tick of the connected link. -/
theorem hidLink_rfConnectedTick : LinkKept rfConnectedTick := by
  have hK := composes_linkKept
  refine hK.bind (hK.read _) fun state => ite_of (K := fun q => LinkKept q) (fun _ => ?_) fun _ => hK.pure _
  refine hK.bind (hK.read _) fun quiet => ite_of (K := fun q => LinkKept q) (fun _ => linkKept_of (by simp)) fun _ => ?_
  refine hK.bind (linkKept_of (by simp)) fun _ => hK.bind (hK.read _) fun interval => hK.bind hidLink_rfPending fun pending => ?_
  refine ite_of (K := fun q => LinkKept q) (fun _ => ?_) fun _ => hidLink_rfHopTick interval
  refine hK.bind (hK.read _) fun waits => ite_of (K := fun q => LinkKept q) (fun _ => ?_) fun _ => hK.pure _
  exact hK.bind (linkKept_of (by simp)) fun _ => hidLink_rfHopTick interval

/-- Every call keeps the link in order. -/
theorem hidLink_call (call : RfCall) : LinkKept call.program := by
  have hK := composes_linkKept
  cases call with
  | frame cmd sub payload =>
    refine ite_of (K := fun q => LinkKept q) (fun _ => ?_) fun _ => ite_of (K := fun q => LinkKept q) (fun _ => ?_) fun _ => hK.pure _
    · exact hK.bind (hidLink_queueReport payload) fun _ => linkKept_of (by simp)
    · exact hostParts_hidLink.handleCommand sub
  | process =>
    have htake : LinkKept tmosTake := linkKept_of ⟨by simp, fun _ => trivial⟩
    refine hK.bind htake fun next => ?_
    cases next with
    | none => exact hK.pure _
    | some e => exact hidLink_rfProcessEvent e
  | connectedTick => exact hidLink_rfConnectedTick
  | ledResync => exact linkKept_of (by simp [RfCall.program])
  | quiesce => exact linkKept_of (by simp [RfCall.program])
  | other => exact hK.pure _

/-- A call begins in the state it is called in. -/
theorem HidLink.begin_rf (call : RfCall) (w : HidLink) : (w.begin call).rf = w.rf := by
  cases call with
  | frame cmd sub payload =>
    unfold HidLink.begin
    dsimp only
    split <;> rfl
  | _ => rfl

/-- The link is in order when it does. -/
theorem LinkOk.begin (h : LinkOk w) (call : RfCall) : LinkOk (w.begin call) := by
  have hoffer (offered : Option Report) : LinkOk { w with offered := offered } := by
    refine ⟨⟨h.filed, fun hw => ?_, fun hw hst => ?_⟩, h.outside⟩
    · have hd := h.deliveries hw
      exact ⟨hd.reports, hd.entries, hd.order, hd.retired, hd.payload, hd.air⟩
    · have hin := h.session hw hst
      refine ⟨hin.mark, hin.phase.imp (fun ha => ?_) fun ha => ?_⟩
      · exact ⟨ha.ack, ha.seq, ha.fresh, ha.answered, ha.keepalive, ha.head⟩
      · exact ⟨ha.ack, ha.seq, ha.answered, ha.air, ha.head, ha.fresh⟩
  cases call with
  | frame cmd sub payload =>
    by_cases hcmd : cmd = 0xA1
    · have hbegin : w.begin (.frame cmd sub payload) = { w with offered := some payload } := if_pos hcmd
      exact hbegin ▸ hoffer (some payload)
    · have hbegin : w.begin (.frame cmd sub payload) = w := if_neg hcmd
      exact hbegin.symm ▸ h
  | _ => exact h

/-- At the boot there is nothing to put in order. -/
theorem linkOk_start (h : RfBooted s) : LinkOk (.start s) := by
  have hfiled : s.Filed := (tracks_interleaved (.init h)).filed
  obtain ⟨mac, macValid, flash, hw, rfl⟩ := h
  refine ⟨⟨hfiled, fun _ => ⟨rfl, nofun, List.Pairwise.nil, nofun, nofun, nofun⟩, fun _ hst => ?_⟩, nofun⟩
  simp only [HidLink.start, rfTaskInit] at hst
  split at hst <;> cases hst

/-- The link is in order in every state that is reached. -/
theorem linkOk_reach (h : LinkReach w) : LinkOk w :=
  h.invariant (fun _ ⟨_, hs, he⟩ => he ▸ linkOk_start hs) fun call _ _ _ hw hr => hidLink_call call _ () _ (hw.begin call) hr

end OpenController
