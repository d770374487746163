import OpenController.Lemmas.RfCalls
import OpenController.Lemmas.RfHearsAux
import OpenController.RfSleep

/-!
# The radio and deep sleep, across runs

Every handler that takes the link down shuts the radio after it has set the state, and every handler that starts the radio leaves
the link in a session or its listening window open. So between two calls the radio is shut when the module may sleep deeply, and
in that state the remaining handlers do nothing to it.
-/

namespace OpenController

open Prog RfStatements

variable {s t : Rf}

/-- When `RF_CanDeepSleep` answers that the module may. -/
theorem canDeepSleep_iff : rfCanDeepSleep s = true ↔ s.state = .idle ∨ s.state = .resting ∨
    s.state = .pairing ∧ s.pair.flavor = .bonded ∧ s.pair.rxOpen = false := by
  unfold rfCanDeepSleep
  grind

/-- The link is in use, or a window to listen in is open. -/
def Rf.Awake (s : Rf) : Prop := s.state = .connected ∨ s.state = .pairing ∧ (s.pair.flavor = .fresh ∨ s.pair.rxOpen = true)

/-- A link that is in use keeps the module from deep sleep. -/
theorem Rf.Awake.sleepOk (h : s.Awake) : s.SleepOk := by
  intro hc
  rcases canDeepSleep_iff.mp hc with hs | hs | ⟨hs, hf, hr⟩
  · rcases h with h | ⟨h, _⟩ <;> exact nomatch hs.symm.trans h
  · rcases h with h | ⟨h, _⟩ <;> exact nomatch hs.symm.trans h
  · rcases h with h | ⟨_, h | h⟩
    · exact nomatch hs.symm.trans h
    · exact nomatch hf.symm.trans h
    · exact nomatch hr.symm.trans h

/-- The radio is shut. -/
def Rf.IsShut (s : Rf) : Prop := s.radio.shut = true

/-- A radio that is shut may sleep. -/
theorem Rf.IsShut.sleepOk (h : s.IsShut) : s.SleepOk := fun _ => h

/-! ## Interrupts -/

/-- No interrupt moves the link, its window or the switch of the radio. -/
theorem still_anytime (h : RfAnytime s t) : t.state = s.state ∧ t.pair = s.pair ∧ t.radio.shut = s.radio.shut := by
  have hspec : s.Bystander t ∨ ∃ buf, s.Polled buf t := by
    cases h with
    | interrupt h => exact interrupt_spec h
    | callback sta rsr rxBuf => exact (s.callback_spec sta rsr rxBuf).imp id fun ⟨buf, _, _, _, hp⟩ => ⟨buf, hp⟩
  rcases hspec with hb | ⟨buf, hp⟩
  · obtain ⟨aa, hradio⟩ := hb.radio
    exact ⟨hb.state, hb.pair, by rw [hradio]⟩
  · exact ⟨hp.state, hp.pair, by rw [hp.radio]⟩

/-- Whether the radio is shut in deep sleep is not up to an interrupt. -/
theorem stable_sleepOk : Stable RfAnytime Rf.SleepOk := by
  intro s t hi h
  obtain ⟨hs, hp, hr⟩ := still_anytime hi
  rw [Rf.SleepOk, canDeepSleep_iff, hs, hp, hr, ← canDeepSleep_iff]
  exact h

/-- No interrupt ends a session or closes a window. -/
theorem stable_awake : Stable RfAnytime Rf.Awake := by
  intro s t hi h
  obtain ⟨hs, hp, _⟩ := still_anytime hi
  rw [Rf.Awake, hs, hp]
  exact h

/-- No interrupt starts the radio. -/
theorem stable_isShut : Stable RfAnytime Rf.IsShut := fun _ _ hi h => (still_anytime hi).2.2.trans h

/-- No interrupt wakes the radio. -/
theorem stable_asleep : Stable RfAnytime Rf.Asleep := by
  intro s t hi h
  obtain ⟨hs, hp, hr⟩ := still_anytime hi
  rw [Rf.Asleep, canDeepSleep_iff, hs, hp, hr, ← canDeepSleep_iff]
  exact h

/-! ## Calls that leave the link alone -/

/-- A statement that deep sleep does not depend on. -/
def StillStmt (f : Rf → Rf) : Prop := ∀ s : Rf, s.Still (f s)

attribute [local simp] StillStmt Rf.still_iff

/-- A call that leaves the radio shut whenever the module may sleep deeply. -/
abbrev Sleeps {α : Type} (p : RfM α) : Prop := Kept RfAnytime Rf.SleepOk p

/-- Statements that leave the link alone, and the radio shut if it was. -/
theorem sleeps_of {α : Type} {p : RfM α} (h : Each StillStmt p) : Sleeps p := by
  refine Each.triple (h.mono fun f hf s hs hc => (hf s).shut (hs ?_)) stable_sleepOk
  rw [canDeepSleep_iff, (hf s).state, (hf s).flavor, (hf s).rxOpen] at hc
  exact canDeepSleep_iff.mpr hc

/-- Whatever came before, the radio is shut after `RF_Shut`. -/
abbrev Shuts (p : RfM Unit) : Prop := Triple RfAnytime (fun _ => True) p fun _ => Rf.IsShut

/-- What ends with the radio shut keeps the invariant. -/
theorem Shuts.sleeps {p : RfM Unit} (h : Shuts p) : Sleeps p := h.conseq (fun _ _ => trivial) fun _ _ hs => hs.sleepOk

/-- What ends with a call that shuts the radio does. -/
theorem shuts_bind {α : Type} {p : RfM α} {g : α → RfM Unit} (h : ∀ a, Shuts (g a)) : Shuts (p >>= g) := by
  have hp : Triple RfAnytime (fun _ => True) p fun _ _ => True := fun _ _ _ _ _ => trivial
  exact hp.bind h

/-- `RF_Shut`. -/
theorem shuts_rfShut : Shuts rfShut := Triple.modify (fun _ _ _ _ => trivial) stable_isShut fun _ _ => rfl

/-- So does what comes before statements that do not start it. -/
theorem shuts_then {p q : RfM Unit} (h : Shuts p) (hq : Each (Keeps Rf.IsShut) q) : Shuts (p >>= fun _ => q) :=
  h.bind fun _ => Each.triple hq stable_isShut

attribute [local simp] Rf.IsShut

/-- The link goes quiet. -/
theorem shuts_restGoQuiet : Shuts restGoQuiet := by
  unfold restGoQuiet
  iterate 15 refine shuts_bind fun _ => ?_
  exact shuts_rfShut

/-- The link rests. -/
theorem shuts_restEnter : Shuts restEnter := shuts_bind fun _ => shuts_then shuts_restGoQuiet (by simp)

/-- The link is taken down. -/
theorem shuts_rfDisconnect : Shuts rfDisconnect := by
  unfold rfDisconnect
  iterate 10 refine shuts_bind fun _ => ?_
  exact shuts_rfShut

/-- A probe starts with the radio shut: its beacon is an event. -/
theorem shuts_restProbeStart : Shuts restProbeStart := by
  refine shuts_bind fun able => Triple.ite (fun _ => ?_) fun _ => ?_
  · iterate 2 refine shuts_bind fun _ => ?_
    exact shuts_rfShut
  · iterate 4 refine shuts_bind fun _ => ?_
    exact shuts_then shuts_rfShut (by simp)

/-- A search starts with the radio shut, and its window open. -/
theorem sleeps_searchBonded : Sleeps searchBonded := by
  refine Kept.bind (sleeps_of (by simp)) fun _ => (Kept.read stable_sleepOk _).bind fun hasBond => ?_
  refine Kept.bind (Kept.ite (fun _ => Shuts.sleeps ?_) fun _ => Kept.pure stable_sleepOk ()) fun _ => Kept.read stable_sleepOk _
  exact shuts_bind fun _ => shuts_then shuts_rfShut (by simp)

/-- The host selects 2.4 GHz. -/
theorem sleeps_rfSelect2G4 : Sleeps rfSelect2G4 := by
  refine Kept.bind (sleeps_of (by simp)) fun _ => (Kept.read stable_sleepOk _).bind fun valid => ?_
  refine Kept.ite (fun _ => Kept.pure stable_sleepOk false) fun _ => (Kept.read stable_sleepOk _).bind fun state => ?_
  exact Kept.ite (fun _ => sleeps_of (by simp)) fun _ => sleeps_searchBonded

/-- The host pairs. -/
theorem sleeps_rfEnterPairing : Sleeps rfEnterPairing := by
  refine (Kept.read stable_sleepOk _).bind fun ignored => Kept.ite (fun _ => Kept.pure stable_sleepOk false) fun _ => ?_
  iterate 2 refine Kept.bind (sleeps_of (by simp)) fun _ => ?_
  have hshut : Triple RfAnytime Rf.SleepOk rfShut fun _ => Rf.IsShut := shuts_rfShut.conseq (fun _ _ => trivial) fun _ _ hs => hs
  refine hshut.bind fun _ => (Each.triple ?_ stable_isShut).conseq (fun _ hs => hs) fun _ _ hs => hs.sleepOk
  simp

/-! ## Calls in a session or with a window open -/

/-- The link is in use, or its window is open, when a condition that was looked at holds. -/
theorem sleeps_when {P : Rf → Bool} {p : RfM Unit} (hP : ∀ s, P s = true → s.Awake)
    (hp : Triple RfAnytime Rf.Awake p fun _ => Rf.SleepOk) : Sleeps (do
      let b ← .read P
      whenever b p) := by
  have hread : Triple RfAnytime Rf.SleepOk (.read P) fun b s => s.SleepOk ∧ (b = true → s.Awake) := by
    refine Triple.read stable_sleepOk (fun b s t hi hs => ?_) fun s hs => ⟨hs, hP s⟩
    exact ⟨stable_sleepOk s t hi hs.1, fun hb => stable_awake s t hi (hs.2 hb)⟩
  refine hread.bind fun b => Triple.ite (fun hb => ?_) fun _ => Triple.pure stable_sleepOk fun _ hs => hs.1
  exact hp.conseq (fun s hs => hs.2 hb) fun _ _ hs => hs

/-- A statement that leaves the state of the link and its window alone. -/
theorem awake_of {α : Type} {p : RfM α} (h : Each (Keeps Rf.Awake) p) : Triple RfAnytime Rf.Awake p fun _ => Rf.SleepOk :=
  (Each.triple h stable_awake).conseq (fun _ hs => hs) fun _ _ hs => hs.sleepOk

/-- A handler that runs in one state of the link. -/
theorem sleeps_inState {st : RfState} {p : RfM Unit} (hp : Triple RfAnytime (fun s => s.state = st) p fun _ => Rf.SleepOk) :
    Sleeps (do
      let state ← .read fun s => s.state
      whenever (state = st) p) :=
  kept_inState stable_sleepOk (fun _ _ hi => (still_anytime hi).1) (hp.conseq (fun _ hs => hs.2) fun _ _ hs => hs)

/-- What is done in a session leaves the module awake. -/
theorem connected_of {α : Type} {p : RfM α} (h : Each (Keeps Rf.Awake) p) :
    Triple RfAnytime (fun s => s.state = .connected) p fun _ => Rf.SleepOk :=
  (awake_of h).conseq (fun _ hs => .inl hs) fun _ _ hs => hs

/-- From any state. -/
theorem Shuts.after {P : Rf → Prop} {p : RfM Unit} (h : Shuts p) : Triple RfAnytime P p fun _ => Rf.SleepOk :=
  h.conseq (fun _ _ => trivial) fun _ _ hs => hs.sleepOk

/-- No interrupt moves the link. -/
theorem stable_state (st : RfState) : Stable RfAnytime fun s => s.state = st := fun _ _ hi hs => (still_anytime hi).1.trans hs

attribute [local simp] Rf.Awake

/-- The receiver starts in a session, or in an open window. -/
theorem sleeps_onRxRestart : Sleeps onRxRestart := by
  refine sleeps_when (fun s hs => ?_) (awake_of (by simp))
  simp only [Bool.or_eq_true, Bool.and_eq_true, decide_eq_true_eq] at hs
  exact hs.imp id fun h => ⟨h.1, .inr h.2⟩

/-- A beacon opens the window. -/
theorem sleeps_rfPairBroadcast : Triple RfAnytime (fun s => s.state = .pairing) rfPairBroadcast fun _ => Rf.SleepOk := by
  have hkeep : ∀ {p : RfM Unit}, Each (Keeps fun s => s.state = .pairing) p → Kept RfAnytime (fun s => s.state = .pairing) p :=
    fun h => Each.triple h (stable_state _)
  have hopen : Triple RfAnytime (fun s => s.state = .pairing)
      (.modify fun s => { s with pair := { s.pair with rxOpen := true } }) fun _ => Rf.Awake :=
    Triple.modify (stable_state _) stable_awake fun s hs => .inr ⟨hs, .inr rfl⟩
  refine Triple.bind (Kept.read (stable_state _) _) fun valid => Triple.ite (fun _ => ?_) fun _ => ?_
  · exact Shuts.after (shuts_bind fun _ => shuts_rfShut)
  · refine Triple.bind (hkeep (by simp)) fun _ => Triple.bind (hkeep (by simp)) fun _ => Triple.bind (hkeep (by simp)) fun _ => ?_
    exact hopen.bind fun _ => awake_of (by simp)

/-- The receiver starts in the session. -/
theorem sleeps_rfEnterConnected : Sleeps rfEnterConnected := by
  have hstart (silentProbe : Bool) : Triple RfAnytime (fun s => s.state = .pairing) (startSession silentProbe)
      fun _ => Rf.Awake := by
    have hkeep : ∀ {p : RfM Unit}, Each (Keeps fun s => s.state = .pairing) p → Kept RfAnytime (fun s => s.state = .pairing) p :=
      fun h => Each.triple h (stable_state _)
    unfold startSession
    iterate 15 refine Triple.bind (hkeep (by simp)) fun _ => ?_
    exact Triple.modify (stable_state _) stable_awake fun s _ => .inl rfl
  refine sleeps_inState (Triple.bind (Kept.read (stable_state _) _) fun silentProbe => (hstart silentProbe).bind fun _ => ?_)
  exact awake_of (by simp)

/-- The hop retunes the receiver of a session; the end of a probe shuts it. -/
theorem sleeps_rfConnectedTick : Sleeps rfConnectedTick := by
  refine sleeps_inState (Triple.bind (Kept.read (stable_state _) _) fun quiet => Triple.ite (fun _ => ?_) fun _ => ?_)
  · exact Shuts.after (shuts_bind fun _ => shuts_restGoQuiet)
  · exact connected_of (by simp)

/-- Every handler keeps the invariant. -/
theorem sleeps_rfProcessEvent (e : RfEvt) : Sleeps (rfProcessEvent e) := by
  have hread : ∀ {α : Type} (g : Rf → α), Sleeps (.read g) := Kept.read stable_sleepOk
  have hpure : Sleeps (pure ()) := Kept.pure stable_sleepOk ()
  cases e with
  | start =>
    refine Shuts.sleeps ?_
    iterate 3 refine shuts_bind fun _ => ?_
    exact shuts_rfShut
  | rxRestart => exact sleeps_onRxRestart
  | pairBcast => exact sleeps_inState sleeps_rfPairBroadcast
  | pairRxOff =>
    exact (hread _).bind fun _ => Kept.ite (fun _ => (shuts_bind fun _ => shuts_rfShut).sleeps) fun _ => hpure
  | pairTimeout => exact sleeps_inState (Shuts.after (shuts_bind fun _ => shuts_bind fun _ => shuts_rfShut))
  | enterConnected => exact sleeps_rfEnterConnected
  | respond => exact sleeps_inState (connected_of (by simp))
  | restIdle =>
    refine (hread _).bind fun _ => Kept.ite (fun _ => (hread _).bind fun _ => ?_) fun _ => hpure
    exact Kept.ite (fun _ => shuts_restEnter.sleeps) fun _ => sleeps_of (by simp)
  | restProbe =>
    exact (hread _).bind fun _ => Kept.ite (fun _ => (shuts_bind fun _ => shuts_restProbeStart).sleeps) fun _ => hpure
  | restProbeTimeout =>
    refine (hread _).bind fun _ => Kept.ite (fun _ => (hread _).bind fun _ => ?_) fun _ => hpure
    exact Kept.ite (fun _ => sleeps_of (by simp)) fun _ => (shuts_bind fun _ => shuts_restGoQuiet).sleeps
  | disconnect =>
    refine sleeps_inState (Shuts.after ?_)
    iterate 7 refine shuts_bind fun _ => ?_
    exact shuts_then shuts_rfShut (by simp)
  | _ => exact sleeps_of (by simp [rfProcessEvent])

/-- So does every call. -/
theorem partsKeep_sleepOk : PartsKeep RfAnytime Rf.SleepOk where
  stable := stable_sleepOk
  out o := by simp [Rf.SleepOk, rfCanDeepSleep]
  transport is2g4 := sleeps_of (by simp)
  ledResync := sleeps_of (by simp)
  drop := sleeps_of (by simp)
  select := sleeps_rfSelect2G4
  pair := sleeps_rfEnterPairing
  disconnect := shuts_rfDisconnect.sleeps
  unpair := shuts_rfDisconnect.sleeps.bind fun _ => sleeps_of (by simp)
  flush := sleeps_of (by simp)
  report r := by
    refine Kept.bind (sleeps_of (by simp)) fun _ => (Kept.read stable_sleepOk _).bind fun state => ?_
    refine Kept.ite (fun _ => Shuts.sleeps ?_) fun _ => sleeps_of (by simp)
    iterate 3 refine shuts_bind fun _ => ?_
    exact shuts_restProbeStart
  process := kept_tmosProcess stable_sleepOk (by simp [Rf.SleepOk, rfCanDeepSleep]) sleeps_rfProcessEvent
  tick := sleeps_rfConnectedTick

/-- The radio is shut in deep sleep, whenever the callback comes. -/
theorem sleepOk_disturbed (h : RfDisturbed s) : s.SleepOk := by
  refine partsKeep_sleepOk.reach (fun s hs => ?_) h
  obtain ⟨mac, macValid, flash, hw, rfl⟩ := hs
  exact fun _ => rfl

/-! ## What was queued before -/

/-- A call that leaves the module able to sleep, with the radio shut. -/
abbrev StaysAsleep {α : Type} (p : RfM α) : Prop := Kept RfAnytime Rf.Asleep p

/-- What is not done while the module may sleep. -/
theorem staysAsleep_when {P : Rf → Bool} {p : RfM Unit} (hP : ∀ s : Rf, s.Asleep → P s = false) : StaysAsleep (do
    let b ← .read P
    whenever b p) := by
  have hread : Triple RfAnytime Rf.Asleep (.read P) fun b s => b = false ∧ s.Asleep :=
    Triple.read stable_asleep (fun b s t hi hs => ⟨hs.1, stable_asleep s t hi hs.2⟩) fun s hs => ⟨hP s hs, hs⟩
  refine hread.bind fun b => Triple.ite (fun hb s _ _ hs _ => ?_) fun _ => Triple.pure stable_asleep fun _ hs => hs.2
  exact nomatch hs.1.symm.trans hb

/-- No session while the module may sleep. -/
theorem Rf.Asleep.notConnected (h : s.Asleep) : s.state ≠ .connected := by
  rcases canDeepSleep_iff.mp h.1 with hs | hs | ⟨hs, _⟩ <;> rw [hs] <;> nofun

/-- What is not done in the state of the link. -/
theorem staysAsleep_inState {st : RfState} {p : RfM Unit} {I : Rf → Prop} (hst : Stable RfAnytime I)
    (hI : ∀ s, I s → s.Asleep ∧ s.state ≠ st) : Triple RfAnytime I (do
      let state ← .read fun s => s.state
      whenever (state = st) p) fun _ => Rf.Asleep := by
  have hread : Triple RfAnytime I (.read fun s => s.state) fun state s => state ≠ st ∧ s.Asleep :=
    Triple.read hst (fun state s t hi hs => ⟨hs.1, stable_asleep s t hi hs.2⟩) fun s hs => ⟨(hI s hs).2, (hI s hs).1⟩
  refine hread.bind fun state => Triple.ite (fun he s _ _ hs _ => absurd he hs.1) fun _ => ?_
  exact Triple.pure stable_asleep fun _ hs => hs.2

/-- A handler of a session does nothing. -/
theorem staysAsleep_connected (p : RfM Unit) : StaysAsleep (do
    let state ← .read fun s => s.state
    whenever (state = .connected) p) :=
  staysAsleep_inState stable_asleep fun _ hs => ⟨hs, hs.notConnected⟩

/-- What neither starts the radio nor moves the link lets it sleep. -/
theorem staysAsleep_of {α : Type} {p : RfM α} (h : Each (Keeps Rf.Asleep) p) : StaysAsleep p := Each.triple h stable_asleep

attribute [local simp] Rf.Asleep canDeepSleep_iff

/-- A stale event does not start the radio. -/
theorem staysAsleep_event {e : RfEvt} (hb : e ≠ .pairBcast) (hp : e ≠ .restProbe) (hc : e ≠ .enterConnected) :
    StaysAsleep (rfProcessEvent e) := by
  cases e with
  | pairBcast => exact absurd rfl hb
  | restProbe => exact absurd rfl hp
  | enterConnected => exact absurd rfl hc
  | rxRestart =>
    refine staysAsleep_when fun s hs => ?_
    rcases canDeepSleep_iff.mp hs.1 with h | h | ⟨h, _, hr⟩
    · simp [h]
    · simp [h]
    · simp [h, hr]
  | respond => exact staysAsleep_connected _
  | disconnect => exact staysAsleep_connected _
  | restIdle =>
    refine staysAsleep_when fun s hs => ?_
    rw [decide_eq_false hs.notConnected]
    rfl
  | pairRxOff | restProbeTimeout =>
    refine staysAsleep_of ?_
    simp [rfProcessEvent]
    grind
  | _ => exact staysAsleep_of (by simp +contextual [rfProcessEvent])

/-- Every handler does that is not of a beacon, a probe or a catch. -/
theorem staysAsleep_handle (next : Option RfEvt) :
    Triple RfAnytime (fun s => s.Asleep ∧ ∀ e ∈ next, ¬e.StartsRadio s) (tmosHandle next) fun _ => Rf.Asleep := by
  cases next with
  | none => exact Triple.conseq (Kept.pure stable_asleep ()) (fun s hs => hs.1) fun _ _ hs => hs
  | some e =>
    by_cases hc : e = .enterConnected
    · subst hc
      have hst : Stable RfAnytime fun s => s.Asleep ∧ s.state ≠ .pairing := fun s t hi hs =>
        ⟨stable_asleep s t hi hs.1, (still_anytime hi).1 ▸ hs.2⟩
      have hout : Triple RfAnytime (fun s => s.Asleep ∧ s.state ≠ .pairing) rfEnterConnected fun _ => Rf.Asleep :=
        staysAsleep_inState hst fun _ hs => hs
      exact hout.conseq (fun s hs => ⟨hs.1, hs.2 _ rfl⟩) fun _ _ hs => hs
    · intro s a t hs hr
      have hne := hs.2 e rfl
      refine staysAsleep_event ?_ ?_ hc s a t hs.1 hr
      · rintro rfl
        exact hne trivial
      · rintro rfl
        exact hne trivial

/-- So does every call that the host is not behind. -/
theorem asleep_quietCall (h : RfQuietCall s t) (hs : s.Asleep) : t.Asleep := by
  cases h with
  | call call h hr =>
    refine (?_ : StaysAsleep call.program) s () t hs hr
    cases call with
    | connectedTick => exact staysAsleep_connected _
    | ledResync => exact staysAsleep_of (by simp [RfCall.program])
    | quiesce => exact staysAsleep_of (by simp +contextual [RfCall.program])
    | other => exact Kept.pure stable_asleep ()
    | frame => exact h.elim
    | process => exact h.elim
  | @event u _ next ht hn hh =>
    have htake : StaysAsleep tmosTake := Triple.stmt stable_asleep fun s hs => Triple.pure stable_asleep fun _ ht => ht ▸ hs
    exact staysAsleep_handle next u () t ⟨htake s next u hs ht, hn⟩ hh

end OpenController
