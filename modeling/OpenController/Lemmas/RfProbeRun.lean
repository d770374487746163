import OpenController.Lemmas.RfCalls
import OpenController.Lemmas.RfPairingAux
import OpenController.Lemmas.RfHearsAux
import OpenController.RfProbe

/-!
# The answers of a silent probe, across runs

Until its session begins a silent probe has no response pending, so no beacon is counted, and then there are never more answers than
completed responses. When nothing can be counted (`Rf.Holds`) the flags of the resting policy stand still.
-/

namespace OpenController

open Prog RfStatements

/-! ## What is remembered -/

/-- No report has woken the probe. -/
def Rf.Probes (s : Rf) : Prop := s.rest.probe = true ∧ s.rest.probeWake = false

/-- What was counted were responses that completed. -/
def ProbeRecord.Counts (r : ProbeRecord) : Prop := ∀ a ∈ r.counted, a = some (.txFinish, .response)

/-- It depends on what was counted. -/
theorem ProbeRecord.Counts.of_eq {r r' : ProbeRecord} (h : r.Counts) (he : r'.counted = r.counted) : r'.Counts := by
  rw [Counts, he]
  exact h

/-- What is known of a probe while it lasts, with `told` when no report is being taken. -/
structure ProbeOk (told : Bool) (w : ProbeWorld) : Prop where
  shut : w.rf.radio.shut = true → w.flight = none
  hears : w.rf.radio.receiving = true → w.flight = none
  searching : w.rf.state = .pairing → w.rf.rest.answers = 0 ∧ (w.rf.Probes → w.rf.resp.responsePending = false)
  beacon : w.rf.Probes → w.flight = some .beacon → w.rf.resp.responsePending = false
  answers : w.rf.rest.answers ≤ w.record.completed
  counted : w.rf.Probes → w.record.Counts ∧ (told = true → w.record.reported = false)
  quiet : w.rf.rest.quietPending = true → w.rf.state ≠ .pairing ∧ kbdRestProbeAnswers ≤ w.record.completed ∧ w.record.Counts ∧
    (told = true → w.record.reported = false)
  catches : ∀ r ∈ w.catches, r.Earned

variable {told : Bool} {w w' : ProbeWorld} {s t : Rf}

/-- Nothing that is remembered is touched. -/
structure Rf.Unwatched (s t : Rf) : Prop where
  answers : t.log.answers.length = s.log.answers.length
  onAir : t.radio.onAir.length = s.radio.onAir.length
  sessions : t.log.sessions = s.log.sessions
  rest : t.rest = s.rest
  catches : t.trace.restProbeCatches = s.trace.restProbeCatches
  shut : t.radio.shut = s.radio.shut

/-- What touches nothing of it leaves what is remembered. -/
theorem watch_unwatched (h : w.rf.Unwatched t) : w.watch t = { w with rf := t } := by
  have hsending : w.rf.sending t w.flight = w.flight := by simp [Rf.sending, h.answers, h.onAir, h.shut]
  have hrecord : w.record.watch w.rf t = w.record := by simp [ProbeRecord.watch, h.sessions, h.rest]
  simp [ProbeWorld.watch, hsending, hrecord, h.catches]

/-- To watch a state that did not change notes nothing. -/
theorem watch_self (w : ProbeWorld) : w.watch w.rf = w := watch_unwatched ⟨rfl, rfl, rfl, rfl, rfl, rfl⟩

/-! ## Interrupts -/

/-- No callback counts the ends of probes. -/
theorem callback_catches (s : Rf) (sta : RfSta) (rsr : Nat) (rxBuf : Option RxBuf) :
    (s.rf2g4StatusCallBack sta rsr rxBuf).trace.restProbeCatches = s.trace.restProbeCatches := by
  rcases s.callback_pairing sta rsr rxBuf with ⟨buf, rfl, rfl, rfl, hp⟩ | ⟨_, _, htrace⟩
  · rw [Rf.callback_pairs hp]
    unfold Rf.onPairPacket
    repeat' split
    all_goals rfl
  · rw [htrace]

/-- What no callback changes that is remembered. -/
theorem unwatched_callback {sta : RfSta} {rsr : Nat} {rxBuf : Option RxBuf}
    (hrest : (s.rf2g4StatusCallBack sta rsr rxBuf).rest = s.rest) : s.Unwatched (s.rf2g4StatusCallBack sta rsr rxBuf) := by
  have hcatches := callback_catches s sta rsr rxBuf
  rcases s.callback_spec sta rsr rxBuf with hb | ⟨buf, _, _, _, hp⟩
  · obtain ⟨aa, hradio⟩ := hb.radio
    exact ⟨by rw [hb.log], by rw [hradio], by rw [hb.log], hrest, hcatches, by rw [hradio]⟩
  · have hlog : (s.rf2g4StatusCallBack sta rsr rxBuf).log.answers = s.log.answers ∧
        (s.rf2g4StatusCallBack sta rsr rxBuf).log.sessions = s.log.sessions := by
      rcases hp.queue with ⟨_, _, hlog⟩ | ⟨_, _, hlog⟩ <;> rw [hlog] <;> exact ⟨rfl, rfl⟩
    exact ⟨by rw [hlog.1], by rw [hp.radio], hlog.2, hrest, hcatches, by rw [hp.radio]⟩

/-- Nothing elsewhere is watched. -/
theorem unwatched_elsewhere (h : RfElsewhere s t) : s.Unwatched t := by
  cases h with
  | tmr0Irq =>
    simp only [Rf.tmr0IRQHandler]
    repeat' split
    all_goals exact ⟨rfl, rfl, rfl, rfl, rfl, rfl⟩
  | _ => exact ⟨rfl, rfl, rfl, rfl, rfl, rfl⟩

/-- What happened leaves the link and the receiver alone, and a response becomes pending only while the radio listens in a session. -/
structure Rf.Overheard (s t : Rf) : Prop extends s.Unwatched t where
  state : t.state = s.state
  receiving : t.radio.receiving = s.radio.receiving
  pending : t.resp.responsePending = true →
    s.resp.responsePending = true ∨ s.state = .connected ∧ s.radio.receiving = true

/-- A bystander makes no response pending. -/
theorem Rf.Bystander.pending (h : s.Bystander t) (hp : t.resp.responsePending = true) : s.resp.responsePending = true := by
  rcases h.resp with hr | hr <;> rw [hr] at hp
  · exact hp
  · exact nomatch hp

/-- It leaves the receiver alone. -/
theorem Rf.Bystander.receiving (h : s.Bystander t) : t.radio.receiving = s.radio.receiving := by
  obtain ⟨aa, hradio⟩ := h.radio
  rw [hradio]

/-- Between two statements a transmission ends, or nothing happens that is remembered. -/
theorem probeHears_cases (h : ProbeHears w w') : (∃ t, w' = { w with rf := t } ∧ w.rf.Overheard t) ∨
    ∃ sta rsr rxBuf f, (sta = .txFinish ∨ sta = .txFail) ∧ w.flight = some f ∧ w' = w.txEnd sta rsr rxBuf f := by
  cases h with
  | packet rsr buf hr =>
    have hu : w.rf.Unwatched (w.rf.rf2g4StatusCallBack .rxData rsr (some buf)) :=
      unwatched_callback (Rf.callback_rest_of_ne (by decide) w.rf rsr _)
    refine .inl ⟨_, watch_unwatched hu, ?_⟩
    rcases w.rf.callback_spec .rxData rsr (some buf) with hb | ⟨_, _, _, _, hp⟩
    · exact ⟨hu, hb.state, hb.receiving, fun h => .inl (hb.pending h)⟩
    · exact ⟨hu, hp.state, by rw [hp.radio], fun _ => .inr ⟨hp.catches.1, hr⟩⟩
  | txEnd sta rsr rxBuf f hs hf => exact .inr ⟨sta, rsr, rxBuf, f, hs, hf, rfl⟩
  | status sta rsr rxBuf _ hs =>
    have hne : sta ≠ .txFinish := by rcases hs with rfl | ⟨rfl, _⟩ <;> nofun
    have hu : w.rf.Unwatched (w.rf.rf2g4StatusCallBack sta rsr rxBuf) :=
      unwatched_callback (Rf.callback_rest_of_ne hne w.rf rsr rxBuf)
    refine .inl ⟨_, watch_unwatched hu, ?_⟩
    rcases w.rf.callback_spec sta rsr rxBuf with hb | ⟨_, hsta, _, hbuf, _⟩
    · exact ⟨hu, hb.state, hb.receiving, fun h => .inl (hb.pending h)⟩
    · rcases hs with rfl | ⟨_, rfl⟩
      · exact nomatch hsta
      · exact nomatch hbuf
  | @elsewhere t he =>
    have hu := unwatched_elsewhere he
    refine .inl ⟨_, watch_unwatched hu, ?_⟩
    have hb : w.rf.Bystander t := by
      cases he with
      | tmr0Irq => exact w.rf.bystander_tmr0IRQHandler
      | _ => exact .of_eq rfl rfl rfl rfl rfl rfl rfl
    exact ⟨hu, hb.state, hb.receiving, fun h => .inl (hb.pending h)⟩

/-- After the end of a transmission no response is pending, and all but the flags of the resting policy is as it was. -/
theorem txEnd_spec {sta : RfSta} (hs : sta = .txFinish ∨ sta = .txFail) (rsr : Nat) (rxBuf : Option RxBuf) :
    (s.rf2g4StatusCallBack sta rsr rxBuf).state = s.state ∧ (s.rf2g4StatusCallBack sta rsr rxBuf).radio = s.radio ∧
      (s.rf2g4StatusCallBack sta rsr rxBuf).resp.responsePending = false ∧
      (s.rf2g4StatusCallBack sta rsr rxBuf).rest.probe = s.rest.probe ∧
      (s.rf2g4StatusCallBack sta rsr rxBuf).rest.probeWake = s.rest.probeWake := by
  rcases hs with rfl | rfl
  · refine ⟨rfl, rfl, rfl, ?_, ?_⟩ <;> simp only [Rf.rf2g4StatusCallBack, Rf.onTxFinish, Rf.setEvent] <;> split <;> rfl
  · exact ⟨rfl, rfl, rfl, rfl, rfl⟩

/-- The end of a transmission counts for a silent probe with a response pending, and for no other. -/
theorem txEnd_rest (s : Rf) (sta : RfSta) (rsr : Nat) (rxBuf : Option RxBuf) :
    (s.rf2g4StatusCallBack sta rsr rxBuf).rest = s.rest ∨ sta = .txFinish ∧ s.resp.responsePending = true ∧ s.Probes ∧
      (s.rf2g4StatusCallBack sta rsr rxBuf).rest = { s.rest with
        answers := u8 (s.rest.answers + 1)
        quietPending := decide (u8 (s.rest.answers + 1) ≥ kbdRestProbeAnswers) || s.rest.quietPending } := by
  by_cases hsta : sta = .txFinish
  · subst hsta
    by_cases hc : s.resp.responsePending ∧ s.rest.probe ∧ !s.rest.probeWake
    · exact .inr ⟨rfl, hc.1, ⟨hc.2.1, by simpa using hc.2.2⟩, if_pos hc⟩
    · exact .inl (if_neg hc)
  · exact .inl (Rf.callback_rest_of_ne hsta s rsr rxBuf)

/-- What is overheard leaves the probe as it is. -/
theorem probeOk_overheard (ho : w.rf.Overheard t) (h : ProbeOk told w) : ProbeOk told { w with rf := t } := by
  have hprobes : t.Probes ↔ w.rf.Probes := by rw [Rf.Probes, ho.rest, Rf.Probes]
  have hflight : t.resp.responsePending = true → w.flight ≠ none → w.rf.resp.responsePending = true := fun hp hf =>
    (ho.pending hp).resolve_right fun hr => hf (h.hears hr.2)
  constructor
  · intro hshut
    exact h.shut (ho.shut ▸ hshut)
  · intro hreceiving
    exact h.hears (ho.receiving ▸ hreceiving)
  · intro hstate
    have hs := ho.state.symm.trans hstate
    obtain ⟨hanswers, hpending⟩ := h.searching hs
    refine ⟨(congrArg RfRest.answers ho.rest).trans hanswers, fun hp => Bool.eq_false_iff.mpr fun hpend => ?_⟩
    rcases ho.pending hpend with hold | ⟨hconnected, _⟩
    · exact nomatch hold.symm.trans (hpending (hprobes.mp hp))
    · exact nomatch hs.symm.trans hconnected
  · intro hp hf
    refine Bool.eq_false_iff.mpr fun hpend => ?_
    have hold := hflight hpend fun hnone => nomatch (show w.flight = some .beacon from hf).symm.trans hnone
    exact nomatch hold.symm.trans (h.beacon (hprobes.mp hp) hf)
  · exact Nat.le_trans (Nat.le_of_eq (congrArg RfRest.answers ho.rest)) h.answers
  · exact fun hp => h.counted (hprobes.mp hp)
  · intro hquiet
    obtain ⟨hne, hrest⟩ := h.quiet ((congrArg RfRest.quietPending ho.rest).symm.trans hquiet)
    exact ⟨fun hs => hne (ho.state.symm.trans hs), hrest⟩
  · exact h.catches

/-- A transmission ends, and counts if it was a response. -/
theorem probeOk_txEnd {sta : RfSta} {rsr : Nat} {rxBuf : Option RxBuf} {f : Flight} (hs : sta = .txFinish ∨ sta = .txFail)
    (hf : w.flight = some f) (h : ProbeOk told w) : ProbeOk told (w.txEnd sta rsr rxBuf f) := by
  obtain ⟨hstate, hradio, hpending, hprobe, hwake⟩ := txEnd_spec (s := w.rf) hs rsr rxBuf
  have hprobes : (w.rf.rf2g4StatusCallBack sta rsr rxBuf).Probes ↔ w.rf.Probes := by rw [Rf.Probes, hprobe, hwake, Rf.Probes]
  have hcompleted : w.record.completed ≤ (w.txEnd sta rsr rxBuf f).record.completed := by
    simp only [ProbeWorld.txEnd]
    split <;> omega
  rcases txEnd_rest w.rf sta rsr rxBuf with hrest | ⟨hfin, hpend, hp, hrest⟩
  · have hcounts : (w.txEnd sta rsr rxBuf f).record.counted = w.record.counted :=
      if_pos (congrArg RfRest.answers hrest)
    exact {
      shut := fun _ => rfl
      hears := fun _ => rfl
      searching := fun hst => ⟨(congrArg RfRest.answers hrest).trans (h.searching (hstate.symm.trans hst)).1, fun _ => hpending⟩
      beacon := fun _ _ => hpending
      answers := Nat.le_trans (Nat.le_of_eq (congrArg RfRest.answers hrest)) (Nat.le_trans h.answers hcompleted)
      counted := fun hp => ⟨(h.counted (hprobes.mp hp)).1.of_eq hcounts, (h.counted (hprobes.mp hp)).2⟩
      quiet := fun hq => by
        obtain ⟨hne, hle, hc, ht⟩ := h.quiet ((congrArg RfRest.quietPending hrest).symm.trans hq)
        exact ⟨fun hst => hne (hstate.symm.trans hst), Nat.le_trans hle hcompleted, hc.of_eq hcounts, ht⟩
      catches := h.catches }
  · -- a response of the session: while the radio searches none is pending
    subst hfin
    have hnot : w.rf.state ≠ .pairing := fun hst => nomatch hpend.symm.trans ((h.searching hst).2 hp)
    have hresponse : f = .response := by
      cases f with
      | response => rfl
      | beacon => exact nomatch hpend.symm.trans (h.beacon hp hf)
    subst hresponse
    have hle := h.answers
    have hanswers : u8 (w.rf.rest.answers + 1) ≤ w.record.completed + 1 := Nat.le_trans (Nat.mod_le _ _) (by omega)
    have hcounts : (w.txEnd .txFinish rsr rxBuf .response).record.Counts := by
      intro a ha
      simp only [ProbeWorld.txEnd] at ha
      split at ha
      · exact (h.counted hp).1 a ha
      · rcases List.mem_append.mp ha with ha | ha
        · exact (h.counted hp).1 a ha
        · exact List.mem_singleton.mp ha
    exact {
      shut := fun _ => rfl
      hears := fun _ => rfl
      searching := fun hst => absurd (hstate.symm.trans hst) hnot
      beacon := fun _ _ => hpending
      answers := Nat.le_trans (Nat.le_of_eq (congrArg RfRest.answers hrest)) hanswers
      counted := fun _ => ⟨hcounts, (h.counted hp).2⟩
      quiet := fun hq => by
        refine ⟨fun hst => hnot (hstate.symm.trans hst), ?_, hcounts, (h.counted hp).2⟩
        have hq' := (congrArg RfRest.quietPending hrest).symm.trans hq
        rcases (Bool.or_eq_true _ _).mp hq' with hnow | hold
        · exact Nat.le_trans (of_decide_eq_true hnow) hanswers
        · exact Nat.le_succ_of_le (h.quiet hold).2.1
      catches := h.catches }

/-- What is known of a probe stays known between two statements. -/
theorem stable_probeOk : Stable ProbeHears (ProbeOk told) := by
  intro w w' hi h
  rcases probeHears_cases hi with ⟨t, rfl, ho⟩ | ⟨sta, rsr, rxBuf, f, hs, hf, rfl⟩
  · exact probeOk_overheard ho h
  · exact probeOk_txEnd hs hf h

/-! ## Statements -/

/-- A statement starts no beacon, no receiver, no probe and no session. While no probe is under way (`off`), it may forget that a
report came. -/
@[mk_iff]
structure Rf.Mild (off : Bool) (s t : Rf) : Prop where
  state : t.state = s.state ∨ t.state = .idle ∨ t.state = .resting
  probe : t.rest.probe = true → s.rest.probe = true
  wake : off = false → t.rest.probeWake = s.rest.probeWake ∨ t.rest.probeWake = true
  answers : t.rest.answers = s.rest.answers ∨ t.rest.answers = 0
  quiet : t.rest.quietPending = true → s.rest.quietPending = true
  pending : t.resp.responsePending = true → s.resp.responsePending = true
  receiving : t.radio.receiving = true → s.radio.receiving = true
  air : t.log.answers.length = s.log.answers.length ∧ t.radio.onAir.length = s.radio.onAir.length ∨
    s.log.answers.length < t.log.answers.length ∧ t.radio.shut = false ∧ t.radio.receiving = false
  sessions : t.log.sessions = s.log.sessions
  catches : t.trace.restProbeCatches = s.trace.restProbeCatches


/-- A mild statement starts no probe. -/
theorem Rf.Mild.probes {off : Bool} (h : s.Mild off t) (hoff : off = true → s.rest.probe = false) (hp : t.Probes) : s.Probes := by
  have hprobe := h.probe hp.1
  have hon : off = false := Bool.eq_false_iff.mpr fun ho => nomatch hprobe.symm.trans (hoff ho)
  refine ⟨hprobe, ?_⟩
  rcases h.wake hon with he | ht
  · exact he.symm.trans hp.2
  · exact nomatch ht.symm.trans hp.2

/-- It leaves the record. -/
theorem watch_record {off : Bool} (hm : w.rf.Mild off t) : w.record.watch w.rf t = w.record := by
  have hprobe : (t.rest.probe && !w.rf.rest.probe) = false := by
    cases ht : t.rest.probe with
    | false => rfl
    | true => rw [hm.probe ht]; rfl
  have hle : ¬w.rf.rest.answers < t.rest.answers := by rcases hm.answers with ha | ha <;> omega
  simp [ProbeRecord.watch, hm.sessions, hprobe, hle]

/-- After a statement that starts no response, the radio sends what it sent or nothing. -/
theorem sending_of (hanswers : t.log.answers.length = s.log.answers.length)
    (hair : t.radio.onAir.length = s.radio.onAir.length) (f : Option Flight) :
    s.sending t f = if t.radio.shut && !s.radio.shut then none else f := by simp [Rf.sending, hanswers, hair]

/-- So what is known stays known. -/
theorem probeOk_mild (off : Bool) (hm : w.rf.Mild off t) (hoff : off = true → w.rf.rest.probe = false) (h : ProbeOk told w) :
    ProbeOk told (w.watch t) := by
  have hrecord : (w.watch t).record = w.record := watch_record hm
  have hcatches : (w.watch t).catches = w.catches := if_pos hm.catches
  have hanswers := h.answers
  have hsending : (w.watch t).flight = w.rf.sending t w.flight := rfl
  have hnone : t.radio.shut = true ∨ t.radio.receiving = true → (w.watch t).flight = none := by
    intro ht
    rcases hm.air with ⟨ha, hr⟩ | ⟨_, hshut, hreceiving⟩
    · rw [hsending, sending_of ha hr]
      split
      · rfl
      · next hc =>
        rcases ht with ht | ht
        · exact h.shut (Bool.of_not_eq_false fun hf => hc (by rw [ht, hf]; rfl))
        · exact h.hears (hm.receiving ht)
    · rcases ht with ht | ht
      · exact nomatch hshut.symm.trans ht
      · exact nomatch hreceiving.symm.trans ht
  have hbeacon : (w.watch t).flight = some .beacon → w.flight = some .beacon := by
    rcases hm.air with ⟨ha, hr⟩ | ⟨ha, _, _⟩
    · rw [hsending, sending_of ha hr]
      split <;> simp
    · simp [hsending, Rf.sending, ha]
  exact {
    shut := fun hs => hnone (.inl hs)
    hears := fun hs => hnone (.inr hs)
    searching := fun hs => by
      have hst : w.rf.state = .pairing := by
        rcases hm.state with he | he | he <;> have hs' := he.symm.trans hs
        · exact hs'
        · exact nomatch hs'
        · exact nomatch hs'
      obtain ⟨hzero, hpend⟩ := h.searching hst
      refine ⟨hm.answers.elim (·.trans hzero) id, fun hp => ?_⟩
      exact Bool.eq_false_iff.mpr fun ht => nomatch (hm.pending ht).symm.trans (hpend (hm.probes hoff hp))
    beacon := fun hp hf => Bool.eq_false_iff.mpr fun ht =>
      nomatch (hm.pending ht).symm.trans (h.beacon (hm.probes hoff hp) (hbeacon hf))
    answers := by
      rw [hrecord]
      exact hm.answers.elim (fun he => Nat.le_trans (Nat.le_of_eq he) hanswers) fun he => Nat.le_trans (Nat.le_of_eq he) (Nat.zero_le _)
    counted := fun hp => hrecord ▸ h.counted (hm.probes hoff hp)
    quiet := fun hq => by
      obtain ⟨hne, hrest⟩ := h.quiet (hm.quiet hq)
      refine ⟨fun hs => ?_, hrecord ▸ hrest⟩
      rcases hm.state with he | he | he <;> have hs' := he.symm.trans hs
      · exact hne hs'
      · exact nomatch hs'
      · exact nomatch hs'
    catches := hcatches ▸ h.catches }

/-- A statement is mild in every state. -/
def MildStmt (off : Bool) (f : Rf → Rf) : Prop := ∀ s : Rf, s.Mild off (f s)

/-- From states with `pre`, every run of a program of the RF task ends with `post`. -/
abbrev ProbeTriple {α : Type} (pre : ProbeWorld → Prop) (p : RfM α) (post : α → ProbeWorld → Prop) : Prop :=
  Triple ProbeHears pre (p.zoom ProbeWorld.rf ProbeWorld.watch) post

/-- A program keeps what is known of a probe. -/
abbrev ProbeKept {α : Type} (told : Bool) (p : RfM α) : Prop := ProbeTriple (ProbeOk told) p fun _ => ProbeOk told

/-- A call of mild statements keeps it. -/
theorem probeKept_of {α : Type} {p : RfM α} (h : Each (MildStmt false) p) : ProbeKept told p :=
  Each.zoom stable_probeOk (h.mono fun _ hf w hw => probeOk_mild _ (hf w.rf) nofun hw)

/-- Calls that keep it compose. -/
theorem composes_probeKept (told : Bool) : Composes fun p => ProbeKept told p := Kept.composes_zoom stable_probeOk watch_self

/-! ## No answer can be counted -/

/-- Why no answer can be counted: there is no probe, a report has woken it, or the link is away from a session with no response
pending. -/
inductive Muted where
  | off
  | woken
  | away
  deriving DecidableEq

/-- No answer can be counted. -/
def Rf.IsMuted (s : Rf) : Muted → Prop
  | .off => s.rest.probe = false
  | .woken => s.rest.probeWake = true
  | .away => s.state ≠ .connected ∧ s.resp.responsePending = false

/-- No answer can be counted, so what holds of the flags of the resting policy goes on to hold. -/
def MutedOk (told : Bool) (m : Muted) (Q : RfRest → Prop) (w : ProbeWorld) : Prop :=
  ProbeOk told w ∧ w.rf.IsMuted m ∧ Q w.rf.rest

variable {m : Muted} {Q : RfRest → Prop}

/-- The flags stand still, and so does the reason. -/
theorem muted_hears (hi : ProbeHears w w') (hm : w.rf.IsMuted m) : w'.rf.rest = w.rf.rest ∧ w'.rf.IsMuted m := by
  have hrest : w'.rf.rest = w.rf.rest := by
    rcases probeHears_cases hi with ⟨t, rfl, ho⟩ | ⟨sta, rsr, rxBuf, f, _, _, rfl⟩
    · exact ho.rest
    · rcases txEnd_rest w.rf sta rsr rxBuf with hrest | ⟨_, hpend, hp, _⟩
      · exact hrest
      · cases m with
        | off => exact nomatch hp.1.symm.trans hm
        | woken => exact nomatch hp.2.symm.trans hm
        | away => exact nomatch hpend.symm.trans hm.2
  refine ⟨hrest, ?_⟩
  cases m with
  | off => exact (congrArg RfRest.probe hrest).trans hm
  | woken => exact (congrArg RfRest.probeWake hrest).trans hm
  | away =>
    rcases probeHears_cases hi with ⟨t, rfl, ho⟩ | ⟨sta, rsr, rxBuf, f, hs, _, rfl⟩
    · refine ⟨fun hc => hm.1 (ho.state.symm.trans hc), Bool.eq_false_iff.mpr fun hp => ?_⟩
      rcases ho.pending hp with hold | ⟨hc, _⟩
      · exact nomatch hold.symm.trans hm.2
      · exact hm.1 hc
    · obtain ⟨hstate, _, hpending, _⟩ := txEnd_spec (s := w.rf) hs rsr rxBuf
      exact ⟨fun hc => hm.1 (hstate.symm.trans hc), hpending⟩

/-- An answer that cannot be counted is not counted by an interrupt. -/
theorem stable_mutedOk : Stable ProbeHears (MutedOk told m Q) := by
  intro w w' hi ⟨hok, hm, hq⟩
  obtain ⟨hrest, hm'⟩ := muted_hears hi hm
  exact ⟨stable_probeOk w w' hi hok, hm', hrest ▸ hq⟩

/-- A statement that leaves the flags alone. -/
def MildRestStmt (f : Rf → Rf) : Prop := ∀ s : Rf, s.Mild false (f s) ∧ (f s).rest = s.rest

/-- Nor does a call that leaves the flags alone let it count. -/
theorem mutedOk_of {α : Type} {p : RfM α} (h : Each MildRestStmt p) :
    ProbeTriple (MutedOk told m Q) p fun _ => MutedOk told m Q := by
  refine Each.zoom stable_mutedOk (h.mono fun _ hf w ⟨hok, hm, hq⟩ => ?_)
  obtain ⟨hmild, hrest⟩ := hf w.rf
  refine ⟨probeOk_mild _ hmild nofun hok, ?_, ?_⟩
  · cases m with
    | off => exact (congrArg RfRest.probe hrest).trans hm
    | woken => exact (congrArg RfRest.probeWake hrest).trans hm
    | away =>
      refine ⟨fun hc => ?_, Bool.eq_false_iff.mpr fun hp => nomatch (hmild.pending hp).symm.trans hm.2⟩
      rcases hmild.state with he | he | he
      · exact hm.1 (he.symm.trans hc)
      · exact nomatch he.symm.trans hc
      · exact nomatch he.symm.trans hc
  · exact (congrArg Q hrest).mpr hq

/-- A flag is cleared, or a report noted, while no answer can be counted. -/
theorem mutedOk_clearRest {g : RfRest → RfRest} (m' : Muted) (Q' : RfRest → Prop)
    (h : ∀ s : Rf, s.IsMuted m → Q s.rest → (s.Mild true { s with rest := g s.rest } ∧
      ((g s.rest).probeWake = s.rest.probeWake ∨ (g s.rest).probeWake = true ∨ s.rest.probe = false)) ∧
      Rf.IsMuted { s with rest := g s.rest } m' ∧ Q' (g s.rest)) :
    ProbeTriple (MutedOk told m Q) (clearRest g) fun _ => MutedOk told m' Q' := by
  refine Triple.modify stable_mutedOk stable_mutedOk fun w ⟨hok, hm, hq⟩ => ?_
  obtain ⟨⟨hmild, hwake⟩, hrest⟩ := h w.rf hm hq
  refine ⟨?_, hrest⟩
  rcases hwake with hw | hw | hw
  · exact probeOk_mild false { hmild with wake := fun _ => .inl hw } nofun hok
  · exact probeOk_mild false { hmild with wake := fun _ => .inr hw } nofun hok
  · exact probeOk_mild _ hmild (fun _ => hw) hok

/-! ## The helpers -/

attribute [local simp] MildStmt MildRestStmt Rf.mild_iff Rf.IsMuted

/-- There are no answers, and no probe is to end. -/
def RfRest.Cleared (r : RfRest) : Prop := r.answers = 0 ∧ r.quietPending = false

/-- There is no probe any more. -/
theorem probe_off : ProbeTriple (ProbeOk told) (clearRest fun r => { r with probe := false }) fun _ =>
    MutedOk told .off fun _ => True :=
  Triple.modify stable_probeOk stable_mutedOk fun w hw => ⟨probeOk_mild false (by simp) nofun hw, rfl, trivial⟩

/-- A rest is cancelled: there is no probe any more. -/
theorem probe_restCancel : ProbeTriple (ProbeOk told) restCancel fun _ => MutedOk told .off RfRest.Cleared := by
  iterate 5 refine Triple.zoom_bind (probeKept_of (by simp)) fun _ => ?_
  refine Triple.zoom_bind probe_off fun _ => ?_
  refine Triple.zoom_bind (mutedOk_clearRest .off (fun _ => True) (by simp +contextual)) fun _ => ?_
  refine Triple.zoom_bind (mutedOk_clearRest .off (fun r => r.answers = 0) (by simp)) fun _ => ?_
  exact mutedOk_clearRest _ _ (by simp +contextual [RfRest.Cleared])

/-- The link goes quiet. -/
theorem probe_restGoQuiet : ProbeKept told restGoQuiet := by
  iterate 10 refine Triple.zoom_bind (probeKept_of (by simp)) fun _ => ?_
  refine Triple.zoom_bind probe_off fun _ => ?_
  iterate 3 refine Triple.zoom_bind (mutedOk_clearRest .off (fun _ => True) (by simp +contextual)) fun _ => ?_
  exact (mutedOk_of (by simp)).conseq (fun _ hw => hw) fun _ _ hw => hw.1

/-- A probe becomes the session. -/
theorem probe_restPromoteToNormal : ProbeKept told restPromoteToNormal := by
  iterate 4 refine Triple.zoom_bind (probeKept_of (by simp)) fun _ => ?_
  refine Triple.zoom_bind probe_off fun _ => ?_
  iterate 3 refine Triple.zoom_bind (mutedOk_clearRest .off (fun _ => True) (by simp +contextual)) fun _ => ?_
  exact (mutedOk_of (by simp)).conseq (fun _ hw => hw) fun _ _ hw => hw.1

/-- Nothing is in flight. -/
def Grounded (told : Bool) (w : ProbeWorld) : Prop := ProbeOk told w ∧ w.flight = none

/-- Nothing takes off by itself. -/
theorem stable_grounded : Stable ProbeHears (Grounded told) := by
  intro w w' hi ⟨hok, hnone⟩
  refine ⟨stable_probeOk w w' hi hok, ?_⟩
  rcases probeHears_cases hi with ⟨t, rfl, _⟩ | ⟨_, _, _, f, _, hf, _⟩
  · exact hnone
  · exact nomatch hnone.symm.trans hf

/-- A statement that starts no transmission. -/
def MildAirStmt (f : Rf → Rf) : Prop :=
  ∀ s : Rf, s.Mild false (f s) ∧ (f s).log.answers.length = s.log.answers.length ∧ (f s).radio.onAir.length = s.radio.onAir.length

/-- Nor in a call that starts no transmission. -/
theorem grounded_of {α : Type} {p : RfM α} (h : Each MildAirStmt p) : ProbeTriple (Grounded told) p fun _ => Grounded told := by
  refine Each.zoom stable_grounded (h.mono fun _ hf w ⟨hok, hnone⟩ => ?_)
  obtain ⟨hmild, hanswers, hair⟩ := hf w.rf
  refine ⟨probeOk_mild _ hmild nofun hok, (sending_of hanswers hair w.flight).trans ?_⟩
  rw [hnone, ite_self]

attribute [local simp] MildAirStmt

/-- With the radio shut nothing is in flight. -/
theorem ProbeOk.grounded (h : ProbeOk told w) (hs : w.rf.radio.shut = true) : Grounded told w := ⟨h, h.shut hs⟩

/-- `RF_Shut` ends what was. -/
theorem grounded_rfShut : ProbeTriple (ProbeOk told) rfShut fun _ => Grounded told :=
  Triple.modify stable_probeOk stable_grounded fun w hw => (probeOk_mild false (by simp) nofun hw).grounded rfl

/-- What is known of a probe does not depend on the rest of the state. -/
theorem watch_kept (hrest : t.rest = w.rf.rest) (hsessions : t.log.sessions = w.rf.log.sessions)
    (hcatches : t.trace.restProbeCatches = w.rf.trace.restProbeCatches) :
    (w.watch t).record = w.record ∧ (w.watch t).catches = w.catches := by
  refine ⟨?_, if_pos hcatches⟩
  simp [ProbeWorld.watch, ProbeRecord.watch, hrest, hsessions]

/-- The receiver starts with nothing in flight. -/
theorem probe_rfRx : ProbeTriple (Grounded told) rfRx fun _ => ProbeOk told := by
  refine Triple.modify stable_grounded stable_probeOk fun w ⟨hw, hnone⟩ => ?_
  have hflight : (w.watch { w.rf with radio := { w.rf.radio with shut := false, receiving := true } }).flight = none := by
    simp [ProbeWorld.watch, Rf.sending, hnone]
  obtain ⟨hrecord, hcatches⟩ :=
    watch_kept (w := w) (t := { w.rf with radio := { w.rf.radio with shut := false, receiving := true } }) rfl rfl rfl
  exact {
    shut := fun _ => hflight
    hears := fun _ => hflight
    searching := hw.searching
    beacon := fun _ hf => nomatch hflight.symm.trans hf
    answers := hrecord ▸ hw.answers
    counted := hrecord ▸ hw.counted
    quiet := hrecord ▸ hw.quiet
    catches := hcatches ▸ hw.catches }

/-- The receiver starts with nothing in flight. -/
theorem probe_rfStartRx (channel : Nat) : ProbeKept told (rfStartRx channel) := by
  refine Triple.zoom_bind grounded_rfShut fun _ => Triple.zoom_bind (grounded_of (by simp)) fun _ => ?_
  refine Triple.zoom_bind (grounded_of (by simp)) fun aa => Triple.zoom_bind (grounded_of (by simp)) fun _ => probe_rfRx

/-- What is known, in a state of the link. -/
def ProbeIn (told : Bool) (st : RfState) (w : ProbeWorld) : Prop := ProbeOk told w ∧ w.rf.state = st

/-- No interrupt changes the state of the link. -/
theorem state_hears (hi : ProbeHears w w') : w'.rf.state = w.rf.state := by
  rcases probeHears_cases hi with ⟨t, rfl, ho⟩ | ⟨sta, rsr, rxBuf, f, hs, _, rfl⟩
  · exact ho.state
  · exact (txEnd_spec hs rsr rxBuf).1

/-- So a call finds the link as it was. -/
theorem stable_probeIn (st : RfState) : Stable ProbeHears (ProbeIn told st) := fun w w' hi hw =>
  ⟨stable_probeOk w w' hi hw.1, (state_hears hi).trans hw.2⟩

/-- A statement that leaves the state of the link alone. -/
def MildStateStmt (f : Rf → Rf) : Prop := ∀ s : Rf, s.Mild false (f s) ∧ (f s).state = s.state

/-- A call that leaves the state of the link alone. -/
theorem probeIn_of {α : Type} {st : RfState} {p : RfM α} (h : Each MildStateStmt p) :
    ProbeTriple (ProbeIn told st) p fun _ => ProbeIn told st :=
  Each.zoom (stable_probeIn st) (h.mono fun _ hf w hw => ⟨probeOk_mild _ (hf w.rf).1 nofun hw.1, (hf w.rf).2.trans hw.2⟩)

attribute [local simp] MildStateStmt

/-- A handler that runs in one state of the link. -/
theorem probe_inState {st : RfState} {p : RfM Unit} (hp : ProbeTriple (ProbeIn told st) p fun _ => ProbeOk told) :
    ProbeKept told (do
      let state ← .read fun s => s.state
      whenever (state = st) p) := by
  have hread : ProbeTriple (ProbeOk told) (.read fun s => s.state) fun state w => ProbeOk told w ∧ (state = st → w.rf.state = st) :=
    Triple.zoom_read watch_self stable_probeOk
      (fun _ w w' hi hw => ⟨stable_probeOk w w' hi hw.1, fun he => (state_hears hi).trans (hw.2 he)⟩) fun _ hw => ⟨hw, id⟩
  refine Triple.zoom_bind hread fun state => ite_of (K := fun q => ProbeTriple _ q fun _ => ProbeOk told) (fun he => ?_) fun _ => ?_
  · exact hp.conseq (fun w hw => ⟨hw.1, hw.2 he⟩) fun _ _ hw => hw
  · exact ((composes_probeKept _).pure ()).conseq (fun w hw => hw.1) fun _ _ hw => hw

/-- A beacon of the search: no response is pending in a silent probe. -/
theorem probe_rfTx (payload : List Byte) : ProbeTriple (ProbeIn told .pairing) (rfTx payload) fun _ => ProbeIn told .pairing := by
  refine Triple.stmt (stable_probeIn _) fun w ⟨hw, hst⟩ => ?_
  refine Triple.pure (stable_probeIn _) fun w' hw' => ?_
  subst hw'
  obtain ⟨hanswers, hpend⟩ := hw.searching hst
  obtain ⟨hrecord, hcatches⟩ := watch_kept (w := w) (t := { w.rf with radio := w.rf.radio.tx w.rf.hw.txStatus payload }) rfl rfl rfl
  exact ⟨{
    shut := fun hs => nomatch hs
    hears := fun hs => nomatch hs
    searching := fun _ => ⟨hanswers, hpend⟩
    beacon := fun hp _ => hpend hp
    answers := hrecord ▸ hw.answers
    counted := hrecord ▸ hw.counted
    quiet := hrecord ▸ hw.quiet
    catches := hcatches ▸ hw.catches }, hst⟩

/-! ## Searches and probes -/

/-- PAIRING is entered. -/
theorem probe_setPairing : ProbeTriple (MutedOk told m RfRest.Cleared) setPairing fun _ => MutedOk told m RfRest.Cleared := by
  refine Triple.modify stable_mutedOk stable_mutedOk fun w ⟨hw, hm, hzero, hquiet⟩ => ?_
  obtain ⟨hrecord, hcatches⟩ := watch_kept (w := w)
    (t := { w.rf with state := .pairing, trace := { w.rf.trace with pairEntries := w.rf.trace.pairEntries + 1 } }) rfl rfl rfl
  have hflight : w.rf.sending
      { w.rf with state := .pairing, trace := { w.rf.trace with pairEntries := w.rf.trace.pairEntries + 1 } } w.flight = w.flight := by
    simp [Rf.sending]
  have hok : ProbeOk told (w.watch
      { w.rf with state := .pairing, trace := { w.rf.trace with pairEntries := w.rf.trace.pairEntries + 1 } }) := {
    shut := fun hs => hflight.trans (hw.shut hs)
    hears := fun hs => hflight.trans (hw.hears hs)
    searching := fun _ => ⟨hzero, fun hp => by
      cases m with
      | off => exact nomatch hp.1.symm.trans hm
      | woken => exact nomatch hp.2.symm.trans hm
      | away => exact hm.2⟩
    beacon := fun hp hf => hw.beacon hp (hflight.symm.trans hf)
    answers := hrecord ▸ hw.answers
    counted := hrecord ▸ hw.counted
    quiet := fun hq => nomatch hquiet.symm.trans hq
    catches := hcatches ▸ hw.catches }
  refine ⟨hok, ?_, hzero, hquiet⟩
  cases m with
  | off => exact hm
  | woken => exact hm
  | away => exact ⟨nofun, hm.2⟩

/-- A search starts with no answers. -/
theorem probe_enterBondedSearch : ProbeTriple (MutedOk told m RfRest.Cleared) enterBondedSearch fun _ =>
    MutedOk told m RfRest.Cleared :=
  Triple.zoom_bind probe_setPairing fun _ => mutedOk_of (by simp)

/-- A probe starts, and nothing is known of it. -/
theorem probe_on (hm : m ≠ .off) : ProbeTriple (MutedOk told m fun _ => True) (clearRest fun r => { r with probe := true }) fun _ =>
    MutedOk told m fun _ => True := by
  refine Triple.modify stable_mutedOk stable_mutedOk fun w ⟨hw, hmuted, _⟩ => ?_
  have hflight : w.rf.sending { w.rf with rest := { w.rf.rest with probe := true } } w.flight = w.flight := by simp [Rf.sending]
  have hrecord : (w.watch { w.rf with rest := { w.rf.rest with probe := true } }).record =
      if w.rf.rest.probe then w.record else ⟨w.record.completed, [], false⟩ := by
    cases hp : w.rf.rest.probe <;> simp [ProbeWorld.watch, ProbeRecord.watch, hp]
  have hcatches : (w.watch { w.rf with rest := { w.rf.rest with probe := true } }).catches = w.catches := if_pos rfl
  have hpend : w.rf.rest.probeWake = false → w.rf.resp.responsePending = false := by
    intro hwake
    cases m with
    | off => exact absurd rfl hm
    | woken => exact nomatch hwake.symm.trans hmuted
    | away => exact hmuted.2
  refine ⟨{
    shut := fun hs => hflight.trans (hw.shut hs)
    hears := fun hs => hflight.trans (hw.hears hs)
    searching := fun hs => ⟨(hw.searching hs).1, fun hp => hpend hp.2⟩
    beacon := fun hp _ => hpend hp.2
    answers := ?_
    counted := fun hp => ?_
    quiet := fun hq => ?_
    catches := hcatches ▸ hw.catches }, ?_, trivial⟩
  · rw [hrecord]
    split <;> exact hw.answers
  · rw [hrecord]
    split
    · next hprobe => exact hw.counted ⟨hprobe, hp.2⟩
    · exact ⟨nofun, fun _ => rfl⟩
  · rw [hrecord]
    obtain ⟨hst, hle, hrest⟩ := hw.quiet hq
    split
    · exact ⟨hst, hle, hrest⟩
    · exact ⟨hst, hle, nofun, fun _ => rfl⟩
  · cases m with
    | off => exact absurd rfl hm
    | woken => exact hmuted
    | away => exact hmuted

/-- A probe starts with none, too, or finds no bond. -/
theorem probe_restProbeStart (hm : m ≠ .off) : ProbeTriple (MutedOk told m fun _ => True) restProbeStart fun _ w =>
    MutedOk told .off RfRest.Cleared w ∨ MutedOk told m RfRest.Cleared w := by
  refine Triple.zoom_bind (mutedOk_of (by simp)) fun able => ite_of (K := fun q => ProbeTriple _ q _) (fun _ => ?_) fun _ => ?_
  · have hcancel : ProbeTriple (MutedOk told m fun _ => True) restCancel fun _ => MutedOk told .off RfRest.Cleared :=
      probe_restCancel.conseq (fun w hw => hw.1) fun _ _ hw => hw
    refine Triple.zoom_bind hcancel fun _ => ?_
    exact (mutedOk_of (by simp)).conseq (fun _ hw => hw) fun _ _ hw => .inl hw
  · have hzero : ProbeTriple (MutedOk told m fun _ => True) (clearRest fun r => { r with answers := 0 }) fun _ =>
        MutedOk told m fun r => r.answers = 0 :=
      mutedOk_clearRest _ _ fun s hs _ => ⟨by simp, by cases m <;> exact hs, rfl⟩
    have hquiet : ProbeTriple (MutedOk told m fun r => r.answers = 0) (clearRest fun r => { r with quietPending := false }) fun _ =>
        MutedOk told m RfRest.Cleared :=
      mutedOk_clearRest _ _ fun s hs hq => ⟨by simp, by cases m <;> exact hs, hq, rfl⟩
    refine Triple.zoom_bind (probe_on hm) fun _ => Triple.zoom_bind hzero fun _ => Triple.zoom_bind hquiet fun _ => ?_
    iterate 3 refine Triple.zoom_bind (mutedOk_of (by simp)) fun _ => ?_
    refine Triple.zoom_bind probe_enterBondedSearch fun _ => ?_
    exact (mutedOk_of (by simp)).conseq (fun _ hw => hw) fun _ _ hw => .inr hw

/-- The host selects 2.4 GHz. -/
theorem probe_rfSelect2G4 : ProbeKept told rfSelect2G4 := by
  have hK := composes_probeKept told
  refine hK.bind (probeKept_of (by simp)) fun _ => hK.bind (hK.read _) fun valid => ite_of (K := fun q => ProbeKept told q)
    (fun _ => hK.pure _) fun _ => hK.bind (hK.read _) fun state => ite_of (K := fun q => ProbeKept told q) (fun _ => ?_) fun _ => ?_
  · refine hK.bind (hK.read _) fun probe => hK.bind ?_ fun _ => hK.read _
    refine ite_of (K := fun q => ProbeKept told q) (fun _ => ?_) fun _ => hK.pure _
    exact hK.bind (probeKept_of (by simp)) fun _ => probe_restPromoteToNormal
  · refine Triple.zoom_bind probe_restCancel fun _ => Triple.zoom_bind (mutedOk_of (by simp)) fun hasBond => ?_
    have hsearch : ProbeTriple (MutedOk told .off RfRest.Cleared) (whenever hasBond (do
        rfTmr0Stop
        rfShut
        rfStopTaskAtomic .enterConnected
        enterBondedSearch)) fun _ => MutedOk told .off RfRest.Cleared := by
      refine ite_of (K := fun q => ProbeTriple _ q fun _ => MutedOk told .off RfRest.Cleared) (fun _ => ?_) fun _ => mutedOk_of (by simp)
      iterate 3 refine Triple.zoom_bind (mutedOk_of (by simp)) fun _ => ?_
      exact probe_enterBondedSearch
    exact Triple.zoom_bind hsearch fun _ => (mutedOk_of (by simp)).conseq (fun _ hw => hw) fun _ _ hw => hw.1

/-- The host asks for a pairing. -/
theorem probe_rfEnterPairing : ProbeKept told rfEnterPairing := by
  have hK := composes_probeKept told
  refine hK.bind (hK.read _) fun ignored => ite_of (K := fun q => ProbeKept told q) (fun _ => hK.pure _) fun _ => ?_
  refine Triple.zoom_bind probe_restCancel fun _ => ?_
  iterate 3 refine Triple.zoom_bind (mutedOk_of (by simp)) fun _ => ?_
  refine Triple.zoom_bind probe_setPairing fun _ => ?_
  exact (mutedOk_of (by simp)).conseq (fun _ hw => hw) fun _ _ hw => hw.1

/-! ## A session -/

/-- A session begins, with no answers and no responses. -/
theorem probeOk_connected (hw : ProbeOk told w) (hst : w.rf.state = .pairing) (hstate : t.state = .connected)
    (hrest : t.rest = w.rf.rest) (hresp : t.resp = w.rf.resp) (hradio : t.radio = w.rf.radio)
    (hanswers : t.log.answers = w.rf.log.answers) (hsessions : t.log.sessions ≠ w.rf.log.sessions)
    (hends : t.trace.restProbeCatches = w.rf.trace.restProbeCatches) : ProbeOk told (w.watch t) := by
  obtain ⟨hzero, hpend⟩ := hw.searching hst
  have hprobes : t.Probes ↔ w.rf.Probes := by rw [Rf.Probes, hrest, Rf.Probes]
  have hflight : (w.watch t).flight = w.flight := by simp [ProbeWorld.watch, Rf.sending, hanswers, hradio]
  have hrecord : (w.watch t).record = { w.record with completed := 0 } := by
    simp [ProbeWorld.watch, ProbeRecord.watch, hsessions, hrest]
  have hcatches : (w.watch t).catches = w.catches := if_pos hends
  exact {
    shut := fun hs => hflight.trans (hw.shut ((congrArg RfRadio.shut hradio).symm.trans hs))
    hears := fun hs => hflight.trans (hw.hears ((congrArg RfRadio.receiving hradio).symm.trans hs))
    searching := fun hs => nomatch hstate.symm.trans hs
    beacon := fun hp _ => (congrArg RfResp.responsePending hresp).trans (hpend (hprobes.mp hp))
    answers := Nat.le_of_eq ((congrArg RfRest.answers hrest).trans (hzero.trans (congrArg ProbeRecord.completed hrecord).symm))
    counted := fun hp => hrecord ▸ hw.counted (hprobes.mp hp)
    quiet := fun hq => absurd hst (hw.quiet ((congrArg RfRest.quietPending hrest).symm.trans hq)).1
    catches := hcatches ▸ hw.catches }

/-- `rf_state = CONNECTED`, from PAIRING. -/
theorem probe_setConnected (silentProbe : Bool) : ProbeTriple (ProbeIn told .pairing) (setConnected silentProbe) fun _ =>
    ProbeOk told :=
  Triple.modify (stable_probeIn _) stable_probeOk fun _ ⟨hw, hst⟩ =>
    probeOk_connected hw hst rfl rfl rfl rfl rfl (Nat.succ_ne_self _) rfl

/-- A session starts. -/
theorem probe_startSession (silentProbe : Bool) : ProbeTriple (ProbeIn told .pairing) (startSession silentProbe) fun _ =>
    ProbeOk told := by
  unfold startSession
  iterate 15 refine Triple.zoom_bind (probeIn_of (by simp)) fun _ => ?_
  exact probe_setConnected silentProbe

/-- The handler that connects. -/
theorem probe_rfEnterConnected : ProbeKept told rfEnterConnected := by
  have hK := composes_probeKept told
  refine probe_inState (Triple.zoom_bind (probeIn_of (by simp)) fun silentProbe => Triple.zoom_bind (probe_startSession _) fun _ => ?_)
  refine hK.bind (probeKept_of (by simp)) fun _ => hK.bind (hK.read _) fun idx => hK.bind (probe_rfStartRx _) fun _ => ?_
  iterate 3 refine hK.bind (probeKept_of (by simp)) fun _ => ?_
  refine ite_of (K := fun q => ProbeKept told q) (fun _ => hK.bind (hK.read _) fun probe => ?_) fun _ => hK.pure _
  exact ite_of (K := fun q => ProbeKept told q) (fun _ => probe_restPromoteToNormal) fun _ => probeKept_of (by simp)

/-- A response: what is in flight is no beacon. -/
theorem mild_rfTxResponse (ctrl : Byte) (head : Option Report) : Each (MildStmt false) (rfTxResponse ctrl head) := by
  refine ⟨fun s => ?_, fun _ => trivial⟩
  by_cases hst : s.hw.txStatus = 0 <;> simp [hst]

/-- A response goes out, and may be counted. -/
theorem probe_rfDoResponseTx : ProbeKept told rfDoResponseTx := by
  have hK := composes_probeKept told
  refine hK.bind (hK.read _) fun pending => ite_of (K := fun q => ProbeKept told q) (fun _ => ?_) fun _ => hK.pure _
  refine hK.bind (probeKept_of (by simp)) fun _ => hK.bind (hK.read _) fun ctrl => hK.bind (probeKept_of (by simp)) fun head => ?_
  refine hK.bind (probeKept_of (by simp)) fun _ => hK.bind (probeKept_of (mild_rfTxResponse ctrl head)) fun status => ?_
  exact probeKept_of (by simp)

/-- The hop goes on. -/
theorem probe_rfHopTick (interval : Nat) : ProbeKept told (rfHopTick interval) := by
  have hK := composes_probeKept told
  refine hK.bind (probeKept_of (by simp)) fun advanced => ite_of (K := fun q => ProbeKept told q) (fun _ => ?_) fun _ => hK.pure _
  refine hK.bind (probeKept_of (by simp)) fun pending => ite_of (K := fun q => ProbeKept told q) (fun _ => ?_) fun _ => hK.pure _
  exact hK.bind (hK.read _) fun idx => probe_rfStartRx _

/-- A probe is to end. -/
def ProbeEnds (w : ProbeWorld) : Prop := ProbeOk true w ∧ w.rf.rest.quietPending = true

/-- A probe that is to end stays so. -/
theorem stable_probeEnds : Stable ProbeHears ProbeEnds := by
  intro w w' hi ⟨hw, hq⟩
  refine ⟨stable_probeOk w w' hi hw, ?_⟩
  rcases probeHears_cases hi with ⟨t, rfl, ho⟩ | ⟨sta, rsr, rxBuf, f, _, _, rfl⟩
  · exact (congrArg RfRest.quietPending ho.rest).trans hq
  · rcases txEnd_rest w.rf sta rsr rxBuf with hrest | ⟨_, _, _, hrest⟩
    · exact (congrArg RfRest.quietPending hrest).trans hq
    · refine (congrArg RfRest.quietPending hrest).trans ?_
      rw [hq]
      exact Bool.or_true _

/-- The end of a probe that has earned it is noted. -/
theorem probeOk_ended (hw : ProbeOk told w) (hearned : w.record.Earned) (hstate : t.state = w.rf.state) (hrest : t.rest = w.rf.rest)
    (hresp : t.resp = w.rf.resp) (hradio : t.radio = w.rf.radio) (hlog : t.log = w.rf.log)
    (hends : t.trace.restProbeCatches ≠ w.rf.trace.restProbeCatches) : ProbeOk told (w.watch t) := by
  have hprobes : t.Probes ↔ w.rf.Probes := by rw [Rf.Probes, hrest, Rf.Probes]
  have hpend : t.resp.responsePending = w.rf.resp.responsePending := congrArg RfResp.responsePending hresp
  have hflight : (w.watch t).flight = w.flight := by simp [ProbeWorld.watch, Rf.sending, hlog, hradio]
  have hrecord : (w.watch t).record = w.record := by simp [ProbeWorld.watch, ProbeRecord.watch, hlog, hrest]
  have hcatches : (w.watch t).catches = w.catches ++ [w.record] := if_neg hends
  refine {
    shut := fun hs => hflight.trans (hw.shut ((congrArg RfRadio.shut hradio).symm.trans hs))
    hears := fun hs => hflight.trans (hw.hears ((congrArg RfRadio.receiving hradio).symm.trans hs))
    searching := fun hs => ?_
    beacon := fun hp hf => hpend.trans (hw.beacon (hprobes.mp hp) (hflight.symm.trans hf))
    answers := ?_
    counted := fun hp => hrecord ▸ hw.counted (hprobes.mp hp)
    quiet := fun hq => ?_
    catches := fun r hr => ?_ }
  · obtain ⟨hzero, hnone⟩ := hw.searching (hstate.symm.trans hs)
    exact ⟨(congrArg RfRest.answers hrest).trans hzero, fun hp => hpend.trans (hnone (hprobes.mp hp))⟩
  · rw [hrecord]
    exact Nat.le_trans (Nat.le_of_eq (congrArg RfRest.answers hrest)) hw.answers
  · obtain ⟨hne, hsome⟩ := hw.quiet ((congrArg RfRest.quietPending hrest).symm.trans hq)
    exact ⟨fun hs => hne (hstate.symm.trans hs), hrecord ▸ hsome⟩
  · rw [hcatches] at hr
    rcases List.mem_append.mp hr with hold | hnew
    · exact hw.catches r hold
    · exact List.mem_singleton.mp hnew ▸ hearned

/-- A silent probe that ends as caught has earned it. -/
theorem probe_restProbeEnd : ProbeTriple ProbeEnds (restProbeEnd true) fun _ => ProbeOk true := by
  refine Triple.zoom_bind (Triple.modify stable_probeEnds stable_probeOk fun w ⟨hw, hq⟩ => ?_) fun _ => probe_restGoQuiet
  obtain ⟨_, hcompleted, hcounted, hreported⟩ := hw.quiet hq
  exact probeOk_ended hw ⟨hcompleted, hcounted, hreported rfl⟩ rfl rfl rfl rfl rfl (Nat.succ_ne_self _)

/-- The tick of the connected link ends a probe that is to end. -/
theorem probe_rfConnectedTick : ProbeKept true rfConnectedTick := by
  have hK := composes_probeKept true
  have hread : ProbeTriple (ProbeIn true .connected) (.read fun s => s.rest.quietPending && !s.resp.responsePending) fun quiet w =>
      ProbeOk true w ∧ (quiet = true → w.rf.rest.quietPending = true) := by
    refine Triple.zoom_read watch_self (stable_probeIn _) (fun quiet w w' hi hw => ?_) fun w hw => ⟨hw.1, fun hq => ?_⟩
    · exact ⟨stable_probeOk w w' hi hw.1, fun hq => (stable_probeEnds w w' hi ⟨hw.1, hw.2 hq⟩).2⟩
    · exact ((Bool.and_eq_true _ _).mp hq).1
  refine probe_inState (Triple.zoom_bind hread fun quiet => ite_of (K := fun q => ProbeTriple _ q fun _ => ProbeOk true) (fun hq => ?_) fun _ => ?_)
  · exact probe_restProbeEnd.conseq (fun w hw => ⟨hw.1, hw.2 hq⟩) fun _ _ hw => hw
  · have htick : ProbeKept true (do
        rearmSupervision
        rfHopOrWait) := by
      refine hK.bind (probeKept_of (by simp)) fun _ => hK.bind (hK.read _) fun interval => hK.bind (probeKept_of (by simp)) fun pending => ?_
      refine ite_of (K := fun q => ProbeKept true q) (fun _ => ?_) fun _ => probe_rfHopTick interval
      refine hK.bind (hK.read _) fun waits => ite_of (K := fun q => ProbeKept true q) (fun _ => ?_) fun _ => hK.pure _
      exact hK.bind (probeKept_of (by simp)) fun _ => probe_rfHopTick interval
    exact htick.conseq (fun w hw => hw.1) fun _ _ hw => hw

/-! ## Every call -/

/-- A beacon goes out. -/
theorem probe_rfPairBroadcast : ProbeTriple (ProbeIn told .pairing) rfPairBroadcast fun _ => ProbeOk told := by
  have hbeacon : ProbeTriple (ProbeIn told .pairing) sendBeacon fun _ => ProbeIn told .pairing := by
    iterate 5 refine Triple.zoom_bind (probeIn_of (by simp)) fun _ => ?_
    exact Triple.zoom_bind (probe_rfTx _) fun _ => probeIn_of (by simp)
  refine Triple.zoom_bind (probeIn_of (by simp)) fun valid => ite_of (K := fun q => ProbeTriple _ q fun _ => ProbeOk told) (fun _ => ?_) fun _ => ?_
  · exact (probeKept_of (by simp)).conseq (fun w hw => hw.1) fun _ _ hw => hw
  · exact Triple.zoom_bind hbeacon fun _ => (probeKept_of (by simp)).conseq (fun w hw => hw.1) fun _ _ hw => hw

/-- The receiver starts again. -/
theorem probe_onRxRestart : ProbeKept told onRxRestart := by
  have hK := composes_probeKept told
  refine hK.bind (hK.read _) fun live => ite_of (K := fun q => ProbeKept told q) (fun _ => ?_) fun _ => hK.pure _
  exact hK.bind (hK.read _) fun channel => hK.bind (probe_rfStartRx channel) fun _ => probeKept_of (by simp)

/-- The session ends. -/
theorem probe_onDisconnect : ProbeKept told onDisconnect := by
  have hK := composes_probeKept told
  refine hK.bind (hK.read _) fun state => ite_of (K := fun q => ProbeKept told q) (fun _ => ?_) fun _ => hK.pure _
  exact Triple.zoom_bind probe_restCancel fun _ => (probeKept_of (by simp)).conseq (fun w hw => hw.1) fun _ _ hw => hw

/-- The handlers but that of `RF_EVT_REST_PROBE`. -/
theorem probe_rfProcessEvent {e : RfEvt} (h : e ≠ .restProbe) : ProbeKept told (rfProcessEvent e) := by
  have hK := composes_probeKept told
  cases e with
  | restProbe => exact absurd rfl h
  | rxRestart => exact probe_onRxRestart
  | pairBcast => exact probe_inState probe_rfPairBroadcast
  | enterConnected => exact probe_rfEnterConnected
  | respond =>
    exact hK.bind (hK.read _) fun state => ite_of (K := fun q => ProbeKept told q) (fun _ => probe_rfDoResponseTx) fun _ => hK.pure _
  | restIdle =>
    refine hK.bind (hK.read _) fun due => ite_of (K := fun q => ProbeKept told q) (fun _ => hK.bind (hK.read _) fun rests => ?_) fun _ => hK.pure _
    refine ite_of (K := fun q => ProbeKept told q) (fun _ => ?_) fun _ => probeKept_of (by simp)
    exact hK.bind (probeKept_of (by simp)) fun _ => hK.bind probe_restGoQuiet fun _ => probeKept_of (by simp)
  | restProbeTimeout =>
    refine hK.bind (hK.read _) fun probe => ite_of (K := fun q => ProbeKept told q) (fun _ => hK.bind (hK.read _) fun wake => ?_) fun _ => hK.pure _
    refine ite_of (K := fun q => ProbeKept told q) (fun _ => probeKept_of (by simp)) fun _ => ?_
    exact hK.bind (probeKept_of (by simp)) fun _ => probe_restGoQuiet
  | disconnect => exact probe_onDisconnect
  | _ => exact probeKept_of (by simp [rfProcessEvent])

/-- TMOS runs, and if the link rests no response is pending. -/
def CleanOk (told : Bool) (w : ProbeWorld) : Prop :=
  ProbeOk told w ∧ (w.rf.state = .resting → w.rf.resp.responsePending = false)

/-- While the link rests no response becomes pending. -/
theorem stable_cleanOk : Stable ProbeHears (CleanOk told) := by
  intro w w' hi ⟨hw, hclean⟩
  refine ⟨stable_probeOk w w' hi hw, fun hs => ?_⟩
  have hrests : w.rf.state = .resting := (state_hears hi).symm.trans hs
  have hne : w.rf.state ≠ .connected := by rw [hrests]; nofun
  have haway : w.rf.IsMuted .away := ⟨hne, hclean hrests⟩
  exact (muted_hears hi haway).2.2

/-- A probe starts with no response pending. -/
theorem probe_onRestProbe : ProbeTriple (CleanOk told) onRestProbe fun _ => ProbeOk told := by
  have hread : ProbeTriple (CleanOk told) (.read fun s => decide (s.state = .resting) && decide (s.rest.stage = 1)) fun due w =>
      ProbeOk told w ∧ (due = true → w.rf.IsMuted .away) := by
    refine Triple.zoom_read watch_self stable_cleanOk (fun due w w' hi hw => ?_) fun w ⟨hw, hclean⟩ => ⟨hw, fun hdue => ?_⟩
    · exact ⟨stable_probeOk w w' hi hw.1, fun hdue => (muted_hears hi (hw.2 hdue)).2⟩
    · have hrests : w.rf.state = .resting := of_decide_eq_true ((Bool.and_eq_true _ _).mp hdue).1
      have hne : w.rf.state ≠ .connected := by rw [hrests]; nofun
      exact ⟨hne, hclean hrests⟩
  have hprobe : ProbeTriple (MutedOk told .away fun _ => True) (do
      rfStartTaskAtomic .restProbe kbdRestProbeTicks
      restProbeStart) fun _ => ProbeOk told := by
    refine Triple.zoom_bind (mutedOk_of (by simp)) fun _ => ?_
    exact (probe_restProbeStart (m := .away) nofun).conseq (fun _ hw => hw) fun _ _ hw => hw.elim And.left And.left
  refine Triple.zoom_bind hread fun due => ite_of (K := fun q => ProbeTriple _ q fun _ => ProbeOk told) (fun hdue => ?_) fun _ => ?_
  · exact hprobe.conseq (fun w hw => ⟨hw.1, hw.2 hdue, trivial⟩) fun _ _ hw => hw
  · exact ((composes_probeKept _).pure ()).conseq (fun w hw => hw.1) fun _ _ hw => hw

/-- A pass of TMOS. -/
theorem probe_tmosProcess : ProbeTriple (CleanOk told) tmosProcess fun _ => ProbeOk told := by
  have htake : ProbeTriple (CleanOk told) tmosTake fun _ => CleanOk told := by
    refine Triple.stmt stable_cleanOk fun w ⟨hw, hclean⟩ => Triple.pure stable_cleanOk fun w' hw' => ?_
    subst hw'
    exact ⟨probeOk_mild false (by simp) nofun hw, hclean⟩
  refine Triple.zoom_bind htake fun next => ?_
  cases next with
  | none => exact ((composes_probeKept _).pure ()).conseq (fun w hw => hw.1) fun _ _ hw => hw
  | some e =>
    by_cases he : e = .restProbe
    · exact he ▸ probe_onRestProbe
    · exact (probe_rfProcessEvent he).conseq (fun w hw => hw.1) fun _ _ hw => hw

/-- The host takes the link down. -/
theorem probe_rfDisconnect : ProbeKept told rfDisconnect := by
  refine Triple.zoom_bind probe_restCancel fun _ => ?_
  exact (probeKept_of (by simp)).conseq (fun w hw => hw.1) fun _ _ hw => hw

/-- What the host asks for keeps what is known. -/
theorem hostParts_probe : HostParts fun p => ProbeKept told p where
  toComposes := composes_probeKept _
  out o := probeKept_of (by simp)
  transport is2g4 := probeKept_of (by simp)
  drop := probeKept_of (by simp)
  select := probe_rfSelect2G4
  pair := probe_rfEnterPairing
  disconnect := probe_rfDisconnect
  unpair := by
    refine (composes_probeKept _).bind probe_rfDisconnect fun _ => Triple.zoom_bind probe_restCancel fun _ => ?_
    exact (probeKept_of (by simp)).conseq (fun w hw => hw.1) fun _ _ hw => hw

/-! ## A report -/

/-- No probe is to end. -/
def RfRest.Unhurried (r : RfRest) : Prop := r.quietPending = false

/-- When no silent probe goes on, it does not matter that a report came. -/
theorem probeOk_reported (h : MutedOk told m RfRest.Unhurried w) (hm : m ≠ .away) : ProbeOk true w := by
  obtain ⟨hw, hmuted, hquiet⟩ := h
  have hnot : ¬w.rf.Probes := by
    intro hp
    cases m with
    | off => exact nomatch hp.1.symm.trans hmuted
    | woken => exact nomatch hp.2.symm.trans hmuted
    | away => exact hm rfl
  exact { hw with
    counted := fun hp => absurd hp hnot
    quiet := fun hq => nomatch hquiet.symm.trans hq }

/-- Without answers no probe is to end. -/
theorem MutedOk.unhurried (h : MutedOk told m RfRest.Cleared w) : MutedOk told m RfRest.Unhurried w := ⟨h.1, h.2.1, h.2.2.2⟩

/-- A report wakes the probe. -/
theorem probe_wake : ProbeTriple (ProbeOk told) (clearRest fun r => { r with probeWake := true }) fun _ =>
    MutedOk told .woken fun _ => True :=
  Triple.modify stable_probeOk stable_mutedOk fun w hw => ⟨probeOk_mild false (by simp) nofun hw, rfl, trivial⟩

/-- A report that wakes a link that rests starts a probe that is not silent. -/
theorem probe_wakeResting : ProbeTriple (ProbeOk told) (do
    clearRest fun r => { r with probeWake := true }
    rfStopTaskAtomic .restProbe
    rfStopTaskAtomic .restStage2
    restProbeStart) fun _ w => ∃ m, m ≠ .away ∧ MutedOk told m RfRest.Unhurried w := by
  refine Triple.zoom_bind probe_wake fun _ => Triple.zoom_bind (mutedOk_of (by simp)) fun _ => ?_
  refine Triple.zoom_bind (mutedOk_of (by simp)) fun _ => ?_
  refine (probe_restProbeStart (m := .woken) nofun).conseq (fun _ hw => hw) fun _ w hw => ?_
  rcases hw with hw | hw
  · exact ⟨.off, nofun, hw.unhurried⟩
  · exact ⟨.woken, nofun, hw.unhurried⟩

/-- A report wakes a probe that it finds, or a rest. -/
theorem probe_rfQueueHIDReport (report : Report) : ProbeKept told (rfQueueHIDReport report) := by
  have hK := composes_probeKept told
  refine hK.bind (probeKept_of (by simp)) fun _ => hK.bind (hK.read _) fun state => ite_of (K := fun q => ProbeKept told q) (fun _ => ?_) fun _ => ?_
  · exact probe_wakeResting.conseq (fun _ hw => hw) fun _ w ⟨_, _, hw⟩ => hw.1
  · refine hK.bind (hK.read _) fun probe => ite_of (K := fun q => ProbeKept told q) (fun _ => ?_) fun _ => probeKept_of (by simp)
    refine hK.bind (probeKept_of (by simp)) fun _ => hK.bind (hK.read _) fun state => ?_
    exact ite_of (K := fun q => ProbeKept told q) (fun _ => probe_restPromoteToNormal) fun _ => hK.pure _

/-- A probe is under way. -/
def ProbeOn (told : Bool) (w : ProbeWorld) : Prop := ProbeOk told w ∧ w.rf.rest.probe = true

/-- A probe stays under way between two statements. -/
theorem stable_probeOn : Stable ProbeHears (ProbeOn told) := by
  intro w w' hi ⟨hw, hp⟩
  refine ⟨stable_probeOk w w' hi hw, ?_⟩
  rcases probeHears_cases hi with ⟨t, rfl, ho⟩ | ⟨sta, rsr, rxBuf, f, hs, _, rfl⟩
  · exact (congrArg RfRest.probe ho.rest).trans hp
  · exact (txEnd_spec (s := w.rf) hs rsr rxBuf).2.2.2.1.trans hp

/-- A probe that a report wakes becomes the session. -/
theorem probe_promoteWoken : ProbeTriple (MutedOk told .woken RfRest.Unhurried) restPromoteToNormal fun _ =>
    MutedOk told .off RfRest.Unhurried := by
  iterate 3 refine Triple.zoom_bind (mutedOk_of (by simp)) fun _ => ?_
  refine Triple.zoom_bind (mutedOk_clearRest .woken RfRest.Unhurried (by simp +contextual [RfRest.Unhurried])) fun _ => ?_
  iterate 4 refine Triple.zoom_bind (mutedOk_clearRest .off RfRest.Unhurried (by simp +contextual [RfRest.Unhurried])) fun _ => ?_
  exact mutedOk_of (by simp)

/-- A report during a probe ends its silence. -/
theorem probe_report (report : Report) : ProbeTriple (ProbeOn false) (rfQueueHIDReport report) fun _ => ProbeOk true := by
  have hqueue : ProbeTriple (ProbeOn false) (queueReport report) fun _ => ProbeOn false := by
    have hstmts : Each MildRestStmt (queueReport report) := by simp
    exact Each.zoom stable_probeOn (hstmts.mono fun _ hf w hw =>
      ⟨probeOk_mild _ (hf w.rf).1 nofun hw.1, (congrArg RfRest.probe (hf w.rf).2).trans hw.2⟩)
  have hread : ProbeTriple (ProbeOn false) (.read fun s => s.state) fun _ => ProbeOn false :=
    Triple.zoom_read watch_self stable_probeOn (fun _ => stable_probeOn) fun _ hw => hw
  have hprobe : ProbeTriple (ProbeOn false) (.read fun s => s.rest.probe) fun probe w => probe = true ∧ ProbeOk false w :=
    Triple.zoom_read watch_self stable_probeOn (fun _ w w' hi hw => ⟨hw.1, stable_probeOk w w' hi hw.2⟩) fun _ hw => ⟨hw.2, hw.1⟩
  have hwake : ProbeTriple (ProbeOk false) wakeProbe fun _ => MutedOk false .woken RfRest.Unhurried :=
    Triple.zoom_bind probe_wake fun _ => mutedOk_clearRest _ _ (by simp [RfRest.Unhurried])
  refine Triple.zoom_bind hqueue fun _ => Triple.zoom_bind hread fun state =>
    ite_of (K := fun q => ProbeTriple _ q fun _ => ProbeOk true) (fun _ => ?_) fun _ => ?_
  · exact probe_wakeResting.conseq (fun w hw => hw.1) fun _ w ⟨m, hm, hw⟩ => probeOk_reported hw hm
  · refine Triple.zoom_bind hprobe fun probe => ite_of (K := fun q => ProbeTriple _ q fun _ => ProbeOk true) (fun _ => ?_) fun hnot => ?_
    · refine Triple.zoom_bind (hwake.conseq (fun w hw => hw.2) fun _ _ hw => hw) fun _ => Triple.zoom_bind (mutedOk_of (by simp)) fun state => ?_
      refine ite_of (K := fun q => ProbeTriple _ q fun _ => ProbeOk true) (fun _ => ?_) fun _ => ?_
      · exact probe_promoteWoken.conseq (fun _ hw => hw) fun _ w hw => probeOk_reported hw nofun
      · have hpure : ProbeTriple (MutedOk false .woken RfRest.Unhurried) (pure ()) fun _ => MutedOk false .woken RfRest.Unhurried :=
          mutedOk_of (by simp)
        exact hpure.conseq (fun _ hw => hw) fun _ w hw => probeOk_reported hw nofun
    · exact fun w _ _ hw _ => absurd hw.1 hnot

/-! ## Between the calls -/

/-- Every frame but a report. -/
theorem probe_frame (cmd sub : Byte) (payload : Report) (h : cmd ≠ 0xA1) : ProbeKept told (handleUartFrame cmd sub payload) := by
  refine ite_of (K := fun q => ProbeKept told q) (fun hc => absurd hc h) fun _ => ?_
  exact ite_of (K := fun q => ProbeKept told q) (fun _ => hostParts_probe.handleCommand sub) fun _ => (composes_probeKept _).pure ()

/-- Every call, if no response is pending where TMOS finds the link at rest. -/
theorem probe_call {call : RfCall} (hclean : call.RestsClean w.rf) (hr : ProbeRuns call.program (w.begin call) () w')
    (h : ProbeOk true w) : ProbeOk true w' := by
  have hK := composes_probeKept true
  cases call with
  | frame cmd sub payload =>
    by_cases hcmd : cmd = 0xA1
    · subst hcmd
      have hreport : handleUartFrame 0xA1 sub payload = rfQueueHIDReport payload := if_pos rfl
      rw [RfCall.program, hreport] at hr
      by_cases hprobe : w.rf.rest.probe = true
      · have hbegin : w.begin (.frame 0xA1 sub payload) = { w with record := { w.record with reported := true } } := if_pos ⟨rfl, hprobe⟩
        rw [hbegin] at hr
        refine probe_report payload { w with record := { w.record with reported := true } } () w' ⟨?_, hprobe⟩ hr
        exact { h with
          counted := fun hp => ⟨(h.counted hp).1, nofun⟩
          quiet := fun hq => ⟨(h.quiet hq).1, (h.quiet hq).2.1, (h.quiet hq).2.2.1, nofun⟩ }
      · have hbegin : w.begin (.frame 0xA1 sub payload) = w := if_neg fun hc => hprobe hc.2
        rw [hbegin] at hr
        exact probe_rfQueueHIDReport payload w () w' h hr
    · have hbegin : w.begin (.frame cmd sub payload) = w := if_neg fun hc => hcmd hc.1
      rw [hbegin] at hr
      exact probe_frame cmd sub payload hcmd w () w' h hr
  | process => exact probe_tmosProcess w () w' ⟨h, hclean rfl⟩ hr
  | connectedTick => exact probe_rfConnectedTick w () w' h hr
  | ledResync => exact probeKept_of (by simp [RfCall.program]) w () w' h hr
  | quiesce => exact hK.bind (probeKept_of (by simp)) (fun _ => probe_rfDisconnect) w () w' h hr
  | other => exact hK.pure () w () w' h hr

/-- At the boot there is no probe. -/
theorem probeOk_start (h : RfBooted s) : ProbeOk true (.start s) := by
  obtain ⟨mac, macValid, flash, hw, rfl⟩ := h
  exact {
    shut := fun _ => rfl
    hears := fun _ => rfl
    searching := fun _ => ⟨rfl, fun _ => rfl⟩
    beacon := fun _ _ => rfl
    answers := Nat.le_refl _
    counted := fun hp => nomatch hp.1
    quiet := nofun
    catches := nofun }

/-- It is known in every state that is reached. -/
theorem probeOk_reach (h : ProbeReach RfCall.RestsClean w) : ProbeOk true w :=
  h.invariant (fun _ ⟨_, hs, he⟩ => he ▸ probeOk_start hs) fun _ _ _ _ hw ⟨hclean, hr⟩ => probe_call hclean hr hw

end OpenController
