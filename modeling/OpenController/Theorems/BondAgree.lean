import OpenController.Lemmas.BondAgreeRun

/-!
# Flash and RAM agree on the bond

With no save outstanding, while the link is up or rests, a power cycle loads the bond in RAM, as long as a silent probe takes only a
session access address that is in flash or will be saved. It takes any that the bonded dongle offers.
-/

namespace OpenController

open Prog RfStatements

variable {ok : Rf → Prop} {s t u v : Rf}

/-! ## Connections -/

/-- A session is about to start with a bond; a silent probe's is in flash or will be saved. -/
def Rf.Starting (silentProbe : Bool) (s : Rf) : Prop :=
  s.FlashLegal ∧ s.bond.hasBond = true ∧ (silentProbe = true → s.tmos.waits .saveBond = true ∨ s.FlashAgrees)

theorem stable_starting (silentProbe : Bool) : Stable RfFlashes (Rf.Starting silentProbe) := by
  intro s t hi hs
  have hheard := flashHeard hi
  have hbond := hheard.bond (.inl hs.2.1)
  refine ⟨stable_flashLegal s t hi hs.1, hbond ▸ hs.2.1, fun hp => ?_⟩
  rcases hs.2.2 hp with hw | ha
  · exact .inl ((bondStep_interrupt hi.interrupt).waits hw)
  · refine .inr ?_
    rw [Rf.FlashAgrees, hbond, hheard.flash]
    exact ha

attribute [local simp] Rf.bondKeep_iff Rf.legalKeep_iff CalmStmt Rf.calm_iff

/-- A session of any other kind schedules a save. -/
theorem flashSafe_enterTail (silentProbe : Bool) :
    Triple RfFlashes (Rf.Starting silentProbe) (enterTail silentProbe) fun _ => Rf.FlashSafe := by
  have hkeep {p : RfM Unit} (h : Each (fun f => ∀ s : Rf, s.BondKeep (f s)) p) : Kept RfFlashes (Rf.Starting silentProbe) p := by
    refine Each.triple (h.mono fun f hf s hs => ?_) (stable_starting silentProbe)
    refine ⟨(hf s).legal hs.1, (hf s).hasBond.trans hs.2.1, fun hp => ?_⟩
    rcases hs.2.2 hp with hw | ha
    · exact .inl ((hf s).waits hw)
    · refine .inr ?_
      rw [Rf.FlashAgrees, (hf s).flash, (hf s).mac, (hf s).sessionAa]
      exact ha
  have hflag : Triple RfFlashes (Rf.Starting silentProbe) (.modify fun s => { s with bondSavePending := !silentProbe })
      fun _ => Rf.FlashSafe := by
    refine Triple.modify (stable_starting silentProbe) stable_flashSafe fun s hs => ?_
    refine ⟨⟨hs.1.eeprom, hs.1.offers, hs.1.bonded⟩, hs.2.1, ?_⟩
    cases silentProbe with
    | false => exact .inl rfl
    | true => exact .inr (hs.2.2 rfl)
  unfold enterTail
  iterate 10 refine Triple.bind (hkeep (by simp)) fun _ => ?_
  exact hflag.bind fun _ => safe_of (by simp)

/-- A connection that passes its guard holds a fresh catch. -/
theorem holds_enterHead : Triple RfInterrupt Rf.Ready enterHead fun silentProbe s => silentProbe.isSome = true → s.Holds := by
  have hguard : Triple RfInterrupt Rf.Ready (.read fun s => s.state) fun state s => state = .pairing → s.Holds :=
    Triple.read stable_ready (fun state s t hi hs hp => stable_holds s t hi (hs hp)) fun s hs hp => ⟨hs.1, hs.2 hp⟩
  have hnone : Stable RfInterrupt fun s : Rf => (none : Option Bool).isSome = true → s.Holds := fun _ _ _ _ h => nomatch h
  have hsome (silentProbe : Bool) : Stable RfInterrupt fun s : Rf => (some silentProbe).isSome = true → s.Holds :=
    fun s t hi hs _ => stable_holds s t hi (hs rfl)
  refine hguard.bind fun state => Triple.ite (fun hp => ?_) fun _ => Triple.pure hnone fun _ _ h => nomatch h
  refine Triple.conseq ?_ (fun s hs => hs hp) fun _ _ hs => hs
  refine Triple.bind (keeps_holds (by simp)) fun silentProbe => ?_
  iterate 3 refine Triple.bind (keeps_holds (by simp)) fun _ => ?_
  exact Triple.pure (hsome silentProbe) fun s hs _ => hs

/-- Until the session access address is stored, everything known is legal, and so is the catch that is held. -/
theorem starting_storeSessionAa {silentProbe : Bool} (htake : Runs RfFlashes tmosTake s (some .enterConnected) u)
    (hhead : Runs RfFlashes enterHead u (some silentProbe) v) (hok : silentProbe = true → v.OfferSaved) (hs : s.FlashOk)
    (hcatch : s.CatchOk) : v.storeSessionAa.Starting silentProbe := by
  have hinterrupt {α : Type} {p : RfM α} {s t : Rf} {a : α} (h : Runs RfFlashes p s a t) : Runs RfInterrupt p s a t :=
    h.mono fun _ _ => RfFlashes.interrupt
  have hready : u.Ready := (triple_take s _ u hcatch (hinterrupt htake)).2 rfl
  obtain ⟨_, hfresh⟩ : v.Holds := holds_enterHead u _ v hready (hinterrupt hhead) rfl
  have hsavable : u.Savable := (flashOk_tmosTake s _ u hs htake).1
  have hlegal : v.FlashLegal := by
    refine legal_of (p := enterHead) ?_ u _ v hsavable.1 hhead
    simp [enterHead]
  obtain ⟨hbond, c, hcaught, _, _, _, hoffer⟩ := hfresh
  have haa : LegalAa v.pending.sessionAa ∧ v.pending.sessionAa < 4294967296 := by
    have hc := hlegal.offers c hcaught
    rwa [hoffer] at hc
  refine ⟨⟨hlegal.eeprom, hlegal.offers, fun _ => haa⟩, hbond, fun hp => ?_⟩
  exact hok hp

/-! ## Every run -/

/-- A valid record has a legal session access address. -/
theorem legal_valid {rec : RfBondRecord} (h : rfBondRecordValid rec = true) : LegalAa rec.sessionAa := by
  unfold rfBondRecordValid at h
  split at h
  · exact nomatch h
  · split at h
    · exact nomatch h
    · split at h
      · exact nomatch h
      · rename_i hlegal
        exact not_or.mp hlegal

/-- So has a bond that is loaded. -/
theorem legal_load {st : EepromStatus} {page : Nat → Byte}
    (h : (rfLoadBondFromFlash st page rfClearBondRam).1.hasBond = true) :
    LegalAa (rfLoadBondFromFlash st page rfClearBondRam).1.storedSessionAa ∧
      (rfLoadBondFromFlash st page rfClearBondRam).1.storedSessionAa < 4294967296 := by
  unfold rfLoadBondFromFlash at h ⊢
  by_cases hread : st.read ≠ 0
  · rw [if_pos hread] at h
    exact nomatch h
  · rw [if_neg hread] at h ⊢
    by_cases hvalid : rfBondRecordValid (.ofPage page) = true
    · rw [if_neg (by simp [hvalid])]
      exact ⟨legal_valid hvalid, (RfBondRecord.bounded_ofPage page).sessionAa⟩
    · rw [if_pos (by simpa using hvalid)] at h
      exact nomatch h

theorem flashOk_boot (h : RfBooted s) (he : s.hw.eeprom.Succeeds) : s.FlashOk := by
  obtain ⟨mac, macValid, flash, hw, rfl⟩ := h
  refine ⟨⟨he, by rintro _ ⟨⟩, fun hb => ?_⟩, fun hu => ?_⟩
  · exact legal_load hb
  · rcases hu with hc | hr | hp
    · simp only [rfTaskInit] at hc
      split at hc <;> cases hc
    · simp only [rfTaskInit] at hr
      split at hr <;> cases hr
    · cases hp

theorem flashOk_step (h : FlashStep Rf.OfferSaved s t) (hs : s.FlashOk) (hcatch : s.CatchOk) : t.FlashOk := by
  cases h with
  | call call hc hr => exact flashOk_call hc s () t hs hr
  | event htake hn hhandle => exact flashOk_tmosHandle hn _ () t (flashOk_tmosTake s _ _ hs htake) hhandle
  | leave htake hhead =>
    have hu := (flashOk_tmosTake s _ _ hs htake).2 nofun
    refine ok_of (p := enterHead) ?_ _ _ t hu hhead
    simp [enterHead, Rf.useKeep_iff, Rf.inUse_connected, Rf.inUse_resting, Rf.inUse_probe]
  | connect silentProbe htake hhead hok htail =>
    exact (flashSafe_enterTail silentProbe _ () t (starting_storeSessionAa htake hhead hok hs hcatch) htail).ok

theorem FlashReach.interleaved (h : FlashReach ok s) : RfInterleaved s := by
  induction h with
  | init hi => exact .init hi.1
  | step _ _ hs ih =>
    obtain ⟨call, hr⟩ := hs.runs
    exact .step call ih (hr.mono fun _ _ => RfFlashes.interrupt)

theorem flashOk_reach (h : FlashReach Rf.OfferSaved s) : s.FlashOk :=
  h.invariant (fun _ hi => flashOk_boot hi.1 hi.2) fun _ _ _ hr hs hstep =>
    flashOk_step hstep hs (catchOk_interleaved (FlashReach.interleaved hr))

/-- In every run whose silent probes take a session access address that is in flash or will be saved: with no save outstanding, while
the link rests or is up, flash loads to the dongle and the session access address of the bond in RAM. -/
theorem flash_agrees (h : FlashReach Rf.OfferSaved s) (hsaved : s.Saved) (hstate : s.state = .resting ∨ s.state = .connected) :
    s.FlashAgrees := by
  have hcovered := (flashOk_reach h).covered (hstate.elim (fun hr => .inr (.inl hr)) .inl)
  rcases hcovered.2 with hp | hw | ha
  · exact nomatch hsaved.1.symm.trans hp
  · exact nomatch hsaved.2.symm.trans hw
  · exact ha

/-! ## Runs -/

/-- A packet of a dongle that offers a session access address. -/
def sessionOffer (b : Byte) : RxBuf := fun i => if i = 1 then 15 else if i = 2 then b else 0

/-- It is received. -/
def RfOp.sessionOffer (b : Byte) : RfOp := .callback .rxData 0 (some (OpenController.sessionOffer b))

/-- A keyboard pairs and connects. -/
def sessionUp : List RfOp :=
  [.process, .command 0x30, .command 0x51, .process, .txFinish, .process, .sessionOffer 0x11, .process, .sessionOffer 0x11, .process]

/-- A poll is caught, the bond is saved, the poll is answered, and the link rests. -/
def saveAndRest : List RfOp :=
  sessionUp ++ [.poll 0, .process, .tmr0Cycle, .tmr0Irq, .process, .txFinish, .process, .expire .restIdle, .process]

/-- A silent probe connects, hears no poll, and ends. -/
def probed (b : Byte) : List RfOp :=
  [.expire .restProbe, .process, .process, .txFinish, .process, .sessionOffer b, .process, .expire .restProbeTimeout, .process]

theorem flashReach_newKeyboard : FlashReach ok newKeyboard := .init ⟨⟨_, _, _, _, rfl⟩, by decide⟩

/-- The dongle's session access address is the same in the probe. -/
theorem flash_agrees_probed : (newKeyboard.after (saveAndRest ++ probed 0x11)).FlashAgrees := by
  have h : FlashReach Rf.OfferSaved (newKeyboard.after (saveAndRest ++ probed 0x11)) :=
    FlashReach.after flashReach_newKeyboard (by decide +kernel)
  exact flash_agrees h (by decide +kernel) (.inl (by decide +kernel))

/-- It is another one, and RAM has it: the record in flash is the old one, and no save is outstanding. -/
theorem flash_agrees_false : ∃ s, FlashReach (fun _ => True) s ∧ s.Saved ∧ s.state = .resting ∧ ¬s.FlashAgrees := by
  have h : FlashReach (fun _ => True) (newKeyboard.after (saveAndRest ++ probed 0x22)) :=
    FlashReach.after flashReach_newKeyboard (by decide +kernel)
  exact ⟨_, h, by decide +kernel, by decide +kernel, by decide +kernel⟩

/-- No poll was caught before the link rested: the probe takes back the save that the session had scheduled. -/
example : (newKeyboard.after (sessionUp ++ [.expire .restIdle, .process])).bondSavePending = true ∧
    (newKeyboard.after (sessionUp ++ [.expire .restIdle, .process] ++ probed 0x11)).Saved ∧
    ¬(newKeyboard.after (sessionUp ++ [.expire .restIdle, .process] ++ probed 0x11)).FlashAgrees := by
  decide +kernel

end OpenController
