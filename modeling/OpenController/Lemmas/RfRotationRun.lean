import OpenController.Lemmas.RfCalls
import OpenController.Lemmas.RfCatchRun
import OpenController.Lemmas.RfHearsAux
import OpenController.RfRotation

/-!
# The beacon counter across runs

Only a beacon counts, and only an entry into PAIRING starts anew. Interrupts leave the counter and the channel alone, so a beacon goes
out on the channel of the count it found.
-/

namespace OpenController

open Prog RfStatements

variable {s t : Rf} {e c : Nat}

/-! ## Interrupts -/

/-- The radio's callback enters no PAIRING. -/
theorem pairEntries_callback (s : Rf) (sta : RfSta) (rsr : Nat) (rxBuf : Option RxBuf) :
    (s.rf2g4StatusCallBack sta rsr rxBuf).trace.pairEntries = s.trace.pairEntries := by
  rcases s.callback_cases sta rsr rxBuf with hcalm | ⟨_, buf, _, heq⟩
  · exact hcalm.entries
  · rw [heq]
    unfold Rf.onPairPacket
    repeat' split
    all_goals rfl

/-- No interrupt does. -/
theorem pairEntries_interrupt (hi : RfInterrupt s t) : t.trace.pairEntries = s.trace.pairEntries := by
  cases hi with
  | callback sta rsr rxBuf _ => exact pairEntries_callback s sta rsr rxBuf
  | tmr0Irq =>
    simp only [Rf.tmr0IRQHandler]
    repeat' split
    all_goals rfl
  | _ => rfl

/-- What a beacon depends on and changes: the entries into PAIRING, the counter, the channels, and what went out. -/
def Rf.beacon (s : Rf) : Nat × Nat × Nat × Nat × List AirFrame :=
  (s.trace.pairEntries, s.pair.bcastCount, s.radio.channel, s.radio.tuned, s.radio.onAir)

/-- No interrupt touches the beacons. -/
theorem beacon_interrupt (hi : RfInterrupt s t) : t.beacon = s.beacon := by
  have hentries := pairEntries_interrupt hi
  rcases interrupt_spec hi with hb | ⟨buf, hp⟩
  · obtain ⟨aa, haa⟩ := hb.radio
    rw [Rf.beacon, Rf.beacon, hentries, hb.pair, haa]
  · rw [Rf.beacon, Rf.beacon, hentries, hp.pair, hp.radio]

/-- They stay what they are between two statements. -/
theorem stable_beacon (v : Nat × Nat × Nat × Nat × List AirFrame) : Stable RfInterrupt fun s => s.beacon = v := fun _ _ hi hs =>
  (beacon_interrupt hi).trans hs

/-! ## The counter -/

/-- Since the entry `e` into PAIRING the counter is `c`; if PAIRING was entered anew, no beacon was sent since. -/
def Rf.Counts (e c : Nat) (s : Rf) : Prop :=
  s.trace.pairEntries = e ∧ s.pair.bcastCount = c ∨ e < s.trace.pairEntries ∧ s.pair.bcastCount = 0

/-- PAIRING was entered anew. -/
def Rf.Reentered (e : Nat) (s : Rf) : Prop := e < s.trace.pairEntries

/-- The counter of the beacons does. -/
theorem stable_counts (e c : Nat) : Stable RfInterrupt (Rf.Counts e c) := by
  intro s t hi hs
  have hv := beacon_interrupt hi
  simp only [Rf.beacon, Prod.mk.injEq] at hv
  rw [Rf.Counts, hv.1, hv.2.1]
  exact hs

/-- An entry into PAIRING stays made. -/
theorem stable_reentered (e : Nat) : Stable RfInterrupt (Rf.Reentered e) := fun s t hi hs => by
  rw [Rf.Reentered, pairEntries_interrupt hi]
  exact hs

/-- A statement that neither counts nor enters PAIRING. -/
def CountStmt (f : Rf → Rf) : Prop :=
  ∀ s : Rf, (f s).trace.pairEntries = s.trace.pairEntries ∧ (f s).pair.bcastCount = s.pair.bcastCount

section Statements

attribute [local simp] CountStmt

/-- A call that neither counts nor enters PAIRING. -/
theorem counts_of {α : Type} {p : RfM α} (h : Each CountStmt p) : Kept RfInterrupt (Rf.Counts e c) p := by
  refine Each.triple (h.mono fun f hf s hs => ?_) (stable_counts e c)
  rw [Rf.Counts, (hf s).1, (hf s).2]
  exact hs

/-- It does so after an entry, too. -/
theorem reentered_of {α : Type} {p : RfM α} (h : Each CountStmt p) : Kept RfInterrupt (Rf.Reentered e) p := by
  refine Each.triple (h.mono fun f hf s hs => ?_) (stable_reentered e)
  rw [Rf.Reentered, (hf s).1]
  exact hs

/-- `rf_state = PAIRING` is an entry. -/
theorem enters_setPairing : Triple RfInterrupt (Rf.Counts e c) setPairing fun _ => Rf.Reentered e := by
  refine Triple.modify (stable_counts e c) (stable_reentered e) fun s hs => ?_
  rcases hs with ⟨he, _⟩ | ⟨he, _⟩
  · exact Nat.lt_succ_of_le (Nat.le_of_eq he.symm)
  · exact Nat.lt_succ_of_lt he

/-- The counter starts anew. -/
theorem enters_bcastCount : Triple RfInterrupt (Rf.Reentered e)
    (.modify fun s => { s with pair := { s.pair with bcastCount := 0 } }) fun _ => Rf.Counts e c :=
  Triple.modify (stable_reentered e) (stable_counts e c) fun _ hs => .inr ⟨hs, rfl⟩

/-- A search starts with the counter cleared. -/
theorem counts_enterBondedSearch : Kept RfInterrupt (Rf.Counts e c) enterBondedSearch := by
  refine Triple.bind enters_setPairing fun _ => ?_
  iterate 5 refine Triple.bind (reentered_of (by simp)) fun _ => ?_
  exact Triple.bind enters_bcastCount fun _ => counts_of (by simp)

/-- A probe starts a search. -/
theorem counts_restProbeStart : Kept RfInterrupt (Rf.Counts e c) restProbeStart := by
  refine Kept.bind (counts_of (by simp)) fun able => Kept.ite (fun _ => counts_of (by simp)) fun _ => ?_
  iterate 6 refine Kept.bind (counts_of (by simp)) fun _ => ?_
  exact counts_enterBondedSearch.bind fun _ => counts_of (by simp)

/-- The host selects 2.4 GHz. -/
theorem counts_rfSelect2G4 : Kept RfInterrupt (Rf.Counts e c) rfSelect2G4 := by
  refine Kept.bind (counts_of (by simp)) fun _ => Kept.bind (counts_of (by simp)) fun valid => ?_
  refine Kept.ite (fun _ => counts_of (by simp)) fun _ => Kept.bind (counts_of (by simp)) fun state => ?_
  refine Kept.ite (fun _ => counts_of (by simp)) fun _ => ?_
  refine Kept.bind (counts_of (by simp)) fun _ => Kept.bind (counts_of (by simp)) fun hasBond => ?_
  refine Kept.bind (Kept.ite (fun _ => ?_) fun _ => counts_of (by simp)) fun _ => counts_of (by simp)
  iterate 3 refine Kept.bind (counts_of (by simp)) fun _ => ?_
  exact counts_enterBondedSearch

/-- The host asks for a pairing. -/
theorem counts_rfEnterPairing : Kept RfInterrupt (Rf.Counts e c) rfEnterPairing := by
  refine Kept.bind (counts_of (by simp)) fun ignored => Kept.ite (fun _ => counts_of (by simp)) fun _ => ?_
  iterate 4 refine Kept.bind (counts_of (by simp)) fun _ => ?_
  refine Triple.bind enters_setPairing fun _ => ?_
  iterate 4 refine Triple.bind (reentered_of (by simp)) fun _ => ?_
  exact Triple.bind enters_bcastCount fun _ => counts_of (by simp)

/-- A report wakes a rest. -/
theorem counts_wakeRest : Kept RfInterrupt (Rf.Counts e c) wakeRest := by
  refine Kept.bind (counts_of (by simp)) fun state => Kept.ite (fun _ => ?_) fun _ => counts_of (by simp)
  iterate 3 refine Kept.bind (counts_of (by simp)) fun _ => ?_
  exact counts_restProbeStart

/-- What the host asks for keeps the count. -/
theorem hostKeep_counts : HostKeep RfInterrupt (Rf.Counts e c) where
  stable := stable_counts e c
  out := fun _ _ hs => hs
  transport := fun _ => counts_of (by simp)
  drop := counts_of (by simp)
  select := counts_rfSelect2G4
  pair := counts_rfEnterPairing
  disconnect := counts_of (by simp)
  unpair := (counts_of (by simp)).bind fun _ => counts_of (by simp)
  report := fun _ => (counts_of (by simp)).bind fun _ => counts_wakeRest

/-- Every call but a pass of TMOS does. -/
theorem counts_call {call : RfCall} (h : call ≠ .process) : Kept RfInterrupt (Rf.Counts e c) call.program := by
  cases call with
  | process => exact absurd rfl h
  | frame cmd sub payload => exact hostKeep_counts.frame cmd sub payload
  | connectedTick => exact counts_of (by simp [RfCall.program])
  | ledResync => exact counts_of (by simp [RfCall.program])
  | quiesce => exact counts_of (by simp [RfCall.program])
  | other => exact counts_of (by simp [RfCall.program])

/-- The handlers but that of the beacon. -/
theorem counts_rfProcessEvent {ev : RfEvt} (h : ev ≠ .pairBcast) : Kept RfInterrupt (Rf.Counts e c) (rfProcessEvent ev) := by
  cases ev with
  | pairBcast => exact absurd rfl h
  | restProbe =>
    refine Kept.bind (counts_of (by simp)) fun due => Kept.ite (fun _ => ?_) fun _ => counts_of (by simp)
    exact Kept.bind (counts_of (by simp)) fun _ => counts_restProbeStart
  | _ => exact counts_of (by simp [rfProcessEvent])

/-- To take an event counts nothing. -/
theorem counts_tmosTake : Kept RfInterrupt (Rf.Counts e c) tmosTake := counts_of (by simp [tmosTake])

end Statements

/-! ## A beacon -/

/-- A beacon is due. -/
def Rf.Sends (s : Rf) : Prop := s.state = .pairing ∧ s.keyboardMacValid = true

/-- Whether a beacon is due does not depend on the interrupts. -/
theorem sends_interrupt (hi : RfInterrupt s t) : t.Sends ↔ s.Sends := by
  have hstate : t.state = s.state := (interrupt_spec hi).elim (·.state) fun ⟨_, hp⟩ => hp.state
  rw [Rf.Sends, Rf.Sends, hstate, (host_interrupt hi).2]

/-- A statement that leaves the beacons alone. -/
def BeaconStmt (f : Rf → Rf) : Prop := ∀ s : Rf, (f s).beacon = s.beacon

section Beacon

attribute [local simp] BeaconStmt Rf.beacon

variable {ch tu : Nat} {air : List AirFrame} {v : Nat × Nat × Nat × Nat × List AirFrame}

/-- A call that leaves the beacons alone. -/
theorem beacon_of {α : Type} {p : RfM α} (h : Each BeaconStmt p) : Kept RfInterrupt (fun s => s.beacon = v) p :=
  Each.triple (h.mono fun _ hf s hs => (hf s).trans hs) (stable_beacon v)

/-- However the radio is configured, it is tuned to its channel. -/
theorem beacon_rfConfigureIfNeeded (aa : Nat) : Triple RfInterrupt (fun s => s.beacon = (e, c, ch, tu, air))
    (rfConfigureIfNeeded aa) fun _ s => s.beacon = (e, c, ch, ch, air) := by
  have htune : Triple RfInterrupt (fun s => s.beacon = (e, c, ch, tu, air)) rfSetChannel fun _ s => s.beacon = (e, c, ch, ch, air) := by
    refine Triple.modify (stable_beacon _) (stable_beacon _) fun s hs => ?_
    simp only [Rf.beacon, Prod.mk.injEq] at hs ⊢
    simp [hs]
  refine Triple.bind (beacon_of (by simp)) fun needed => Triple.ite (fun _ => ?_) fun _ => htune
  have hconfigure : Triple RfInterrupt (fun s => s.beacon = (e, c, ch, tu, air)) rfConfigure fun _ s =>
      s.beacon = (e, c, ch, ch, air) :=
    Triple.bind (beacon_of (by simp)) fun status => htune.bind fun _ => beacon_of (by simp)
  exact hconfigure.bind fun status => beacon_of (by simp)

/-- What a beacon sent is on the air, if it started. -/
def SentOn (ch : Nat) (air air' : List AirFrame) : Prop := air' = air ∨ ∃ payload, air' = air ++ [⟨ch, payload⟩]

/-- So it is, with the radio still on its channel. -/
def Rf.HasSent (e c ch : Nat) (air : List AirFrame) (s : Rf) : Prop := ∃ air', SentOn ch air air' ∧ s.beacon = (e, c, ch, ch, air')

/-- What was sent stays on the air. -/
theorem stable_hasSent : Stable RfInterrupt (Rf.HasSent e c ch air) := fun _ _ hi ⟨air', hsent, hs⟩ =>
  ⟨air', hsent, (beacon_interrupt hi).trans hs⟩

/-- `RF_Tx` of a beacon, on the channel the radio is tuned to. -/
theorem beacon_rfTx (payload : List Byte) : Triple RfInterrupt (fun s => s.beacon = (e, c, ch, ch, air)) (rfTx payload)
    fun _ => Rf.HasSent e c ch air := by
  refine Triple.stmt (stable_beacon _) fun s hs => Triple.pure stable_hasSent fun t ht => ?_
  subst ht
  rw [Rf.HasSent]
  simp only [Rf.beacon, Prod.mk.injEq] at hs
  obtain ⟨he, hc, hch, htu, hair⟩ := hs
  simp only [Rf.beacon, RfRadio.tx, he, hc, hch, htu, hair]
  split
  · exact ⟨_, .inr ⟨payload, rfl⟩, rfl⟩
  · exact ⟨_, .inl rfl, rfl⟩

/-- A beacon goes out on the channel of the count, and counts. -/
theorem beacon_sendBeacon : Triple RfInterrupt (fun s => s.beacon = (e, c, ch, tu, air)) sendBeacon fun _ =>
    Rf.HasSent e (u8 (c + 1)) (pairChannel c) air := by
  have hchannel : Triple RfInterrupt (fun s => s.beacon = (e, c, ch, tu, air))
      (.modify fun s => { s with radio := { s.radio with channel := pairChannel s.pair.bcastCount } }) fun _ s =>
        s.beacon = (e, c, pairChannel c, tu, air) := by
    refine Triple.modify (stable_beacon _) (stable_beacon _) fun s hs => ?_
    simp only [Rf.beacon, Prod.mk.injEq] at hs ⊢
    simp [hs]
  refine hchannel.bind fun _ => Triple.bind (beacon_of (by simp)) fun payload => Triple.bind (beacon_of (by simp)) fun _ => ?_
  refine Triple.bind (beacon_of (by simp)) fun aa => (beacon_rfConfigureIfNeeded aa).bind fun _ => (beacon_rfTx payload).bind fun _ => ?_
  refine Triple.modify stable_hasSent stable_hasSent fun s ⟨air', hsent, hs⟩ => ⟨air', hsent, ?_⟩
  simp only [Rf.beacon, Prod.mk.injEq] at hs ⊢
  simp [hs]

/-- A beacon goes out on the channel of its count. -/
theorem beacon_rfPairBroadcast : Triple RfInterrupt (fun s => s.beacon = (e, c, ch, tu, air) ∧ s.Sends) rfPairBroadcast fun _ =>
    Rf.HasSent e (u8 (c + 1)) (pairChannel c) air := by
  have hpre : Stable RfInterrupt fun s => s.beacon = (e, c, ch, tu, air) ∧ s.Sends := fun s t hi hs =>
    ⟨(beacon_interrupt hi).trans hs.1, (sends_interrupt hi).mpr hs.2⟩
  have hvalid : Triple RfInterrupt (fun s => s.beacon = (e, c, ch, tu, air) ∧ s.Sends) (.read fun s => s.keyboardMacValid)
      fun valid s => valid = true ∧ s.beacon = (e, c, ch, tu, air) :=
    Triple.read hpre (fun valid s t hi hs => ⟨hs.1, (beacon_interrupt hi).trans hs.2⟩) fun s hs => ⟨hs.2.2, hs.1⟩
  have hrest : Each BeaconStmt (do
      rfStartTaskAtomic .pairBcast rfPairBcastTicks
      rfStopTaskAtomic .pairRxOff
      setRxWindow true) := by simp
  refine hvalid.bind fun valid => Triple.ite (fun hv s a t hs _ => ?_) fun _ => ?_
  · rw [hs.1] at hv
    exact nomatch hv
  · refine (beacon_sendBeacon.conseq (fun s hs => hs.2) fun _ _ hs => hs).bind fun _ => ?_
    exact Each.triple (hrest.mono fun f hf s ⟨air', hsent, hs⟩ => ⟨air', hsent, (hf s).trans hs⟩) stable_hasSent

end Beacon

/-- Taking an event leaves the beacons alone. -/
theorem beacon_tmosTake {next : Option RfEvt} (h : Runs RfInterrupt tmosTake s next t) :
    t.beacon = s.beacon ∧ (t.Sends ↔ s.Sends) := by
  have hst : Stable RfInterrupt fun u => u.beacon = s.beacon ∧ (u.Sends ↔ s.Sends) := fun u v hi hu =>
    ⟨(beacon_interrupt hi).trans hu.1, (sends_interrupt hi).trans hu.2⟩
  have htake : Kept RfInterrupt (fun u => u.beacon = s.beacon ∧ (u.Sends ↔ s.Sends)) tmosTake :=
    Each.triple ⟨fun _ hu => hu, fun _ => trivial⟩ hst
  exact htake s next t ⟨rfl, Iff.rfl⟩ h

/-- So it does wherever TMOS takes its event. -/
theorem beacon_does {ch tu : Nat} {air : List AirFrame} {act : RfAct} (hs : s.SendsBeacon act) (h : act.Does s t)
    (hv : s.beacon = (e, c, ch, tu, air)) : t.HasSent e (u8 (c + 1)) (pairChannel c) air := by
  obtain ⟨rfl, hsends⟩ := hs
  have hst : Stable RfInterrupt fun s => s.beacon = (e, c, ch, tu, air) ∧ s.Sends := fun s t hi hs =>
    ⟨(beacon_interrupt hi).trans hs.1, (sends_interrupt hi).mpr hs.2⟩
  have hdue : Triple RfInterrupt (fun s => s.beacon = (e, c, ch, tu, air) ∧ s.Sends) (.read fun s => s.state) fun state s =>
      state = .pairing ∧ s.beacon = (e, c, ch, tu, air) ∧ s.Sends :=
    Triple.read hst (fun _ s t hi hs => ⟨hs.1, hst s t hi hs.2⟩) fun s hs => ⟨hs.2.1, hs⟩
  cases h with
  | @event _ u _ _ htake hhandle =>
    obtain ⟨hu, hdues⟩ := beacon_tmosTake htake
    have hevent : Triple RfInterrupt (fun s => s.beacon = (e, c, ch, tu, air) ∧ s.Sends) (rfProcessEvent .pairBcast) fun _ =>
        Rf.HasSent e (u8 (c + 1)) (pairChannel c) air := by
      refine hdue.bind fun state => Triple.ite (fun _ => ?_) fun hne => ?_
      · exact beacon_rfPairBroadcast.conseq (fun s hs => hs.2) fun _ _ hs => hs
      · exact fun s a t hs _ => absurd hs.1 hne
    exact hevent u () t ⟨hu.trans hv, hdues.mpr hsends⟩ hhandle

/-- Without an address the search ends. -/
theorem counts_onPairBcast : Kept RfInterrupt (fun s => s.Counts e c ∧ ¬s.Sends) (rfProcessEvent .pairBcast) := by
  have hst : Stable RfInterrupt fun s => s.Counts e c ∧ ¬s.Sends := fun s t hi hs =>
    ⟨stable_counts e c s t hi hs.1, fun ht => hs.2 ((sends_interrupt hi).mp ht)⟩
  have hstate (s t : Rf) (hi : RfInterrupt s t) : t.state = s.state :=
    (interrupt_spec hi).elim (·.state) fun ⟨_, hp⟩ => hp.state
  have hidle : Kept RfInterrupt (fun s => s.Counts e c ∧ ¬s.Sends) (setState .idle) :=
    Kept.modify hst fun s hs => ⟨hs.1, fun h => nomatch h.1⟩
  have hshut : Kept RfInterrupt (fun s => s.Counts e c ∧ ¬s.Sends) rfShut := Kept.modify hst fun s hs => hs
  have hvalid : Triple RfInterrupt (fun s => (s.Counts e c ∧ ¬s.Sends) ∧ s.state = .pairing) (.read fun s => s.keyboardMacValid)
      fun valid s => valid = false ∧ s.Counts e c ∧ ¬s.Sends := by
    refine Triple.read (fun s t hi hs => ⟨hst s t hi hs.1, (hstate s t hi).trans hs.2⟩)
      (fun _ s t hi hs => ⟨hs.1, hst s t hi hs.2⟩) fun s hs => ⟨?_, hs.1⟩
    exact Bool.eq_false_iff.mpr fun hmac => hs.1.2 ⟨hs.2, hmac⟩
  refine kept_inState hst hstate (hvalid.bind fun valid => Triple.ite (fun _ => ?_) fun hv => ?_)
  · exact (hidle.bind fun _ => hshut).conseq (fun s hs => hs.2) fun _ _ hs => hs
  · intro s a t hs _
    rw [hs.1] at hv
    exact absurd rfl hv

/-- What is not a beacon does not count. -/
theorem counts_does {act : RfAct} (hs : ¬s.SendsBeacon act) (h : act.Does s t) (hc : s.Counts e c) : t.Counts e c := by
  cases h with
  | call call hne hr => exact counts_call hne s () t hc hr
  | @event _ u _ next htake hhandle =>
    have hu := counts_tmosTake s next u hc htake
    cases next with
    | none => exact Kept.pure (stable_counts e c) () u () t hu hhandle
    | some ev =>
      by_cases hev : ev = .pairBcast
      · subst hev
        have hnone : ¬u.Sends := fun hsends => hs ⟨rfl, (beacon_tmosTake htake).2.mp hsends⟩
        exact (counts_onPairBcast u () t ⟨hu, hnone⟩ hhandle).1
      · exact counts_rfProcessEvent hev u () t hu hhandle

end OpenController
