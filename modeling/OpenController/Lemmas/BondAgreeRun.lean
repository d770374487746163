import OpenController.BondAgree
import OpenController.Lemmas.BondFlashAux
import OpenController.Lemmas.RfBondRun
import OpenController.Lemmas.RfCatchRun
import OpenController.Lemmas.RfPairingAux
import OpenController.Lemmas.RfStatements

/-!
# The bond in flash and in RAM, across calls

Whenever there is a session, a rest or a probe, the bond is in flash or its save is outstanding. Only a connection changes the bond
then; it schedules a save, or it is a silent probe's.
-/

namespace OpenController

open Prog RfStatements

variable {s t : Rf}

namespace Rf

/-- The session access addresses that are known are legal, and the DataFlash calls succeed. -/
structure FlashLegal (s : Rf) : Prop where
  eeprom : s.hw.eeprom.Succeeds
  offers : ∀ c ∈ s.trace.caught, LegalAa c.offer.sessionAa ∧ c.offer.sessionAa < 4294967296
  bonded : s.bond.hasBond = true → LegalAa s.bond.storedSessionAa ∧ s.bond.storedSessionAa < 4294967296

/-- There is a session, a rest or a probe. -/
def InUse (s : Rf) : Prop := s.state = .connected ∨ s.state = .resting ∨ s.rest.probe = true

/-- There is a bond, and it is in flash or its save is outstanding. -/
def Covered (s : Rf) : Prop :=
  s.bond.hasBond = true ∧ (s.bondSavePending = true ∨ s.tmos.waits .saveBond = true ∨ s.FlashAgrees)

/-- Between two calls. -/
structure FlashOk (s : Rf) : Prop extends FlashLegal s where
  covered : s.InUse → s.Covered

/-! ## Interrupts -/

/-- What an interrupt does. -/
structure FlashHeard (s t : Rf) : Prop where
  flash : t.flash = s.flash
  state : t.state = s.state
  probe : t.rest.probe = s.rest.probe
  bond : s.bond.hasBond = true ∨ s.state ≠ .pairing → t.bond = s.bond
  posted : s.bondSavePending = true ∨ s.tmos.waits .saveBond = true → t.bondSavePending = true ∨ t.tmos.waits .saveBond = true

end Rf

/-- It is an interrupt of the RF task. -/
theorem RfFlashes.interrupt (h : RfFlashes s t) : RfInterrupt s t := by
  cases h with
  | callback sta rsr rxBuf hl _ => exact .callback sta rsr rxBuf hl
  | elsewhere h _ => exact h.interrupt

/-- No interrupt touches flash or the link; with a bond, or out of PAIRING, none touches the bond. -/
theorem flashHeard (h : RfFlashes s t) : s.FlashHeard t := by
  obtain ⟨hstate, hprobe, _⟩ := rest_interrupt h.interrupt
  have hposted := (bondStep_interrupt h.interrupt).posted
  cases h with
  | callback sta rsr rxBuf _ _ =>
    refine ⟨s.callback_flash sta rsr rxBuf, hstate, hprobe, fun hb => ?_, hposted⟩
    rcases hb with hb | hp
    · rcases s.bond_callback sta rsr rxBuf with ⟨_, hbond⟩ | ⟨_, _, hno, _⟩
      · exact hbond
      · exact nomatch hno.symm.trans hb
    · rcases s.callback_pairing sta rsr rxBuf with ⟨_, _, _, _, hpairs⟩ | ⟨_, hbond, _⟩
      · exact absurd hpairs.1 hp
      · exact hbond
  | elsewhere he _ =>
    refine ⟨?_, hstate, hprobe, fun _ => bond_elsewhere he, hposted⟩
    cases he with
    | tmr0Irq => exact congrArg (·.2.2.1) s.tmr0IRQHandler_fixture
    | _ => rfl

/-- No interrupt starts a session, a rest or a probe. -/
theorem Rf.FlashHeard.inUse (h : s.FlashHeard t) (ht : t.InUse) : s.InUse := by
  unfold Rf.InUse at ht ⊢
  rwa [h.state, h.probe] at ht

/-- A bond that is in flash or about to be stays so. -/
theorem Rf.FlashHeard.covered (h : s.FlashHeard t) (hs : s.Covered) : t.Covered := by
  have hbond := h.bond (.inl hs.1)
  refine ⟨hbond ▸ hs.1, ?_⟩
  rcases hs.2 with hp | hw | ha
  · exact (h.posted (.inl hp)).imp_right .inl
  · exact (h.posted (.inr hw)).imp_right .inl
  · refine .inr (.inr ?_)
    rw [Rf.FlashAgrees, hbond, h.flash]
    exact ha

/-- An offer that is caught, and a bond that is made, are of an accepted packet. -/
theorem stable_flashLegal : Stable RfFlashes Rf.FlashLegal := by
  intro s t hi h
  cases hi with
  | elsewhere he ht =>
    have hbond := bond_elsewhere he
    refine ⟨ht, fun c hc => h.offers c ?_, ?_⟩
    · cases he with
      | tmr0Irq =>
        have htrace : s.tmr0IRQHandler.trace = s.trace := by
          simp only [Rf.tmr0IRQHandler]
          repeat' split
          all_goals rfl
        rwa [htrace] at hc
      | _ => exact hc
    · rw [hbond]
      exact h.bonded
  | callback sta rsr rxBuf hl hk =>
    have heeprom : (s.rf2g4StatusCallBack sta rsr rxBuf).hw.eeprom.Succeeds := (s.callback_hw sta rsr rxBuf).symm ▸ h.eeprom
    rcases s.callback_pairing sta rsr rxBuf with ⟨buf, rfl, rfl, rfl, hp⟩ | ⟨_, hbond, htrace⟩
    · have haccept : s.Accepts buf → LegalAa buf.sessionAa ∧ buf.sessionAa < 4294967296 := fun ha =>
        ⟨hk rfl rfl buf rfl ha, sessionAa_lt buf⟩
      have hsame : s.rf2g4StatusCallBack .rxData 0 (some buf) = { s with rssi := buf 0 }.setEvent .rxRestart →
          (s.rf2g4StatusCallBack .rxData 0 (some buf)).FlashLegal := fun he => by
        rw [he]
        exact ⟨h.eeprom, h.offers, h.bonded⟩
      rw [Rf.callback_pairs hp] at heeprom hsame ⊢
      unfold Rf.onPairPacket at heeprom hsame ⊢
      cases hb : s.bond.hasBond with
      | false =>
        simp only [hb, Bool.not_false, if_true] at heeprom ⊢
        exact ⟨heeprom, h.offers, fun _ => haccept ⟨hp, .inl hb⟩⟩
      | true =>
        simp only [hb, Bool.not_true, Bool.false_eq_true, if_false] at heeprom hsame ⊢
        by_cases hm : macEqual s.bond.storedDongleMac buf.dongleMac = true
        · simp only [hm, if_true] at heeprom hsame ⊢
          by_cases hi : buf.effInterval < 20 ∨ buf.effInterval > 40
          · rw [if_pos hi] at hsame ⊢
            exact hsame rfl
          · rw [if_neg hi] at heeprom ⊢
            have hlegal := haccept ⟨hp, .inr ⟨hm, by omega, by omega⟩⟩
            exact ⟨heeprom, fun c hc => Option.some.inj hc ▸ hlegal, h.bonded⟩
        · simp only [hm, Bool.false_eq_true, if_false] at hsame ⊢
          exact hsame trivial
    · exact ⟨heeprom, htrace.symm ▸ h.offers, hbond.symm ▸ h.bonded⟩

/-- What holds between two calls holds after an interrupt. -/
theorem stable_flashOk : Stable RfFlashes Rf.FlashOk := fun s t hi h =>
  ⟨stable_flashLegal s t hi h.toFlashLegal, fun ht => (flashHeard hi).covered (h.covered ((flashHeard hi).inUse ht))⟩

/-! ## Statements -/

namespace Rf

/-- A session access address that is known is not touched, and no probe starts. -/
@[mk_iff]
structure LegalKeep (s t : Rf) : Prop where
  hw : t.hw = s.hw
  caught : t.trace.caught = s.trace.caught
  hasBond : t.bond.hasBond = s.bond.hasBond
  sessionAa : t.bond.storedSessionAa = s.bond.storedSessionAa
  probe : t.rest.probe = true → s.rest.probe = true

/-- Neither the bond nor flash is touched, and no save is lost. -/
@[mk_iff]
structure BondKeep (s t : Rf) : Prop where
  hw : t.hw = s.hw
  caught : t.trace.caught = s.trace.caught
  hasBond : t.bond.hasBond = s.bond.hasBond
  mac : t.bond.storedDongleMac = s.bond.storedDongleMac
  sessionAa : t.bond.storedSessionAa = s.bond.storedSessionAa
  flash : t.flash = s.flash
  pending : t.bondSavePending = s.bondSavePending
  waits : s.tmos.waits .saveBond = true → t.tmos.waits .saveBond = true

/-- Nor does a session, a rest or a probe start. -/
structure UseKeep (s t : Rf) : Prop extends s.BondKeep t where
  inUse : t.InUse → s.InUse

/-- The three ways to use a bond, one by one. -/
theorem useKeep_iff (s t : Rf) : s.UseKeep t ↔ s.BondKeep t ∧ (t.state = .connected → s.InUse) ∧ (t.state = .resting → s.InUse) ∧
    (t.rest.probe = true → s.InUse) := by
  refine ⟨fun h => ⟨h.1, fun hc => h.2 (.inl hc), fun hr => h.2 (.inr (.inl hr)), fun hp => h.2 (.inr (.inr hp))⟩, fun h => ⟨h.1, ?_⟩⟩
  rintro (hc | hr | hp)
  · exact h.2.1 hc
  · exact h.2.2.1 hr
  · exact h.2.2.2 hp

/-- A session uses the bond. -/
theorem inUse_connected (s : Rf) : (s.state = .connected → s.InUse) = True := eq_true .inl

/-- So does a rest. -/
theorem inUse_resting (s : Rf) : (s.state = .resting → s.InUse) = True := eq_true fun h => .inr (.inl h)

/-- So does a probe. -/
theorem inUse_probe (s : Rf) : (s.rest.probe = true → s.InUse) = True := eq_true fun h => .inr (.inr h)

/-- The session access addresses that are known stay legal. -/
theorem LegalKeep.legal (h : s.LegalKeep t) (hs : s.FlashLegal) : t.FlashLegal := by
  refine ⟨h.hw.symm ▸ hs.eeprom, fun c hc => hs.offers c (h.caught ▸ hc), ?_⟩
  rw [h.hasBond, h.sessionAa]
  exact hs.bonded

/-- So they do if neither the bond nor flash is touched. -/
theorem BondKeep.legal (h : s.BondKeep t) (hs : s.FlashLegal) : t.FlashLegal := by
  refine ⟨h.hw.symm ▸ hs.eeprom, fun c hc => hs.offers c (h.caught ▸ hc), ?_⟩
  rw [h.hasBond, h.sessionAa]
  exact hs.bonded

/-- The bond stays in flash or its save outstanding. -/
theorem BondKeep.covered (h : s.BondKeep t) (hs : s.Covered) : t.Covered := by
  refine ⟨h.hasBond.trans hs.1, ?_⟩
  rcases hs.2 with hp | hw | ha
  · exact .inl (h.pending.trans hp)
  · exact .inr (.inl (h.waits hw))
  · refine .inr (.inr ?_)
    rw [FlashAgrees, h.flash, h.mac, h.sessionAa]
    exact ha

/-- The bond is covered, whatever the link does. -/
def FlashSafe (s : Rf) : Prop := s.FlashLegal ∧ s.Covered

/-- No probe is on. -/
def NoProbe (s : Rf) : Prop := s.FlashLegal ∧ s.rest.probe = false

/-- The link is down. -/
def Down (s : Rf) : Prop := s.FlashLegal ∧ s.state = .idle ∧ s.rest.probe = false

/-- There is a bond to save, if it is in use. -/
def Savable (s : Rf) : Prop := s.FlashLegal ∧ (s.InUse → s.bond.hasBond = true)

/-- A bond that is covered is so whenever it is used. -/
theorem FlashSafe.ok (h : s.FlashSafe) : s.FlashOk := ⟨h.1, fun _ => h.2⟩

/-- A link that is down does not use the bond. -/
theorem Down.ok (h : s.Down) : s.FlashOk := by
  refine ⟨h.1, fun hu => ?_⟩
  rcases hu with hc | hr | hp
  · exact nomatch h.2.1.symm.trans hc
  · exact nomatch h.2.1.symm.trans hr
  · exact nomatch h.2.2.symm.trans hp

/-- A bond that is used is covered. -/
theorem FlashOk.safe (h : s.FlashOk) (hu : s.InUse) : s.FlashSafe := ⟨h.toFlashLegal, h.covered hu⟩

end Rf

/-- No interrupt uncovers the bond. -/
theorem stable_flashSafe : Stable RfFlashes Rf.FlashSafe := fun s t hi h =>
  ⟨stable_flashLegal s t hi h.1, (flashHeard hi).covered h.2⟩

/-- No interrupt starts a probe. -/
theorem stable_noProbe : Stable RfFlashes Rf.NoProbe := fun s t hi h =>
  ⟨stable_flashLegal s t hi h.1, (flashHeard hi).probe.trans h.2⟩

/-- No interrupt brings the link up. -/
theorem stable_down : Stable RfFlashes Rf.Down := fun s t hi h =>
  ⟨stable_flashLegal s t hi h.1, (flashHeard hi).state.trans h.2.1, (flashHeard hi).probe.trans h.2.2⟩

/-- No interrupt takes away the bond that is in use. -/
theorem stable_savable : Stable RfFlashes Rf.Savable := by
  intro s t hi h
  refine ⟨stable_flashLegal s t hi h.1, fun hu => ?_⟩
  have hb := h.2 ((flashHeard hi).inUse hu)
  rw [(flashHeard hi).bond (.inl hb)]
  exact hb

section Programs

variable {α : Type} {p : RfM α}

attribute [local simp] Rf.legalKeep_iff Rf.bondKeep_iff Rf.useKeep_iff Rf.inUse_connected Rf.inUse_resting Rf.inUse_probe

/-- What keeps the bond and flash, and starts no use, keeps the invariant. -/
theorem ok_of (h : Each (fun f => ∀ s : Rf, s.UseKeep (f s)) p) : Kept RfFlashes Rf.FlashOk p :=
  Each.triple (h.mono fun _ hf s hs => ⟨(hf s).legal hs.toFlashLegal, fun hu => (hf s).covered (hs.covered ((hf s).inUse hu))⟩)
    stable_flashOk

/-- What keeps the bond and flash keeps it covered. -/
theorem safe_of (h : Each (fun f => ∀ s : Rf, s.BondKeep (f s)) p) : Kept RfFlashes Rf.FlashSafe p :=
  Each.triple (h.mono fun _ hf s hs => ⟨(hf s).legal hs.1, (hf s).covered hs.2⟩) stable_flashSafe

/-- What keeps the addresses that are known keeps them legal. -/
theorem legal_of (h : Each (fun f => ∀ s : Rf, s.LegalKeep (f s)) p) : Kept RfFlashes Rf.FlashLegal p :=
  Each.triple (h.mono fun _ hf s hs => (hf s).legal hs) stable_flashLegal

/-- So it does without a probe, if it starts none. -/
theorem noProbe_of (h : Each (fun f => ∀ s : Rf, s.LegalKeep (f s)) p) : Kept RfFlashes Rf.NoProbe p := by
  refine Each.triple (h.mono fun f hf s hs => ⟨(hf s).legal hs.1, ?_⟩) stable_noProbe
  cases hp : (f s).rest.probe with
  | false => rfl
  | true => exact nomatch hs.2.symm.trans ((hf s).probe hp)

/-- So it does with the link down, if it leaves it there. -/
theorem down_of (h : Each (fun f => ∀ s : Rf, s.LegalKeep (f s) ∧ (s.state = .idle → (f s).state = .idle)) p) :
    Kept RfFlashes Rf.Down p := by
  refine Each.triple (h.mono fun f hf s hs => ⟨(hf s).1.legal hs.1, (hf s).2 hs.2.1, ?_⟩) stable_down
  cases hp : (f s).rest.probe with
  | false => rfl
  | true => exact nomatch hs.2.2.symm.trans ((hf s).1.probe hp)

/-! ## Taking the link down -/

/-- `rest_cancel` ends a probe. -/
theorem noProbe_restCancel : Triple RfFlashes Rf.FlashLegal restCancel fun _ => Rf.NoProbe := by
  have hend : Triple RfFlashes Rf.FlashLegal (clearRest fun r => { r with probe := false }) fun _ => Rf.NoProbe :=
    Triple.modify stable_flashLegal stable_noProbe fun s hs => ⟨Rf.LegalKeep.legal (by simp) hs, rfl⟩
  unfold restCancel
  iterate 5 refine Triple.bind (legal_of (by simp)) fun _ => ?_
  exact hend.bind fun _ => noProbe_of (by simp)

/-- With no probe on, IDLE is down. -/
theorem down_setIdle : Triple RfFlashes Rf.NoProbe (setState .idle) fun _ => Rf.Down :=
  Triple.modify stable_noProbe stable_down fun s hs => ⟨Rf.LegalKeep.legal (by simp) hs.1, rfl, hs.2⟩

/-- `RF_Disconnect` takes the link down. -/
theorem down_rfDisconnect : Triple RfFlashes Rf.FlashOk rfDisconnect fun _ => Rf.Down := by
  refine Triple.conseq (noProbe_restCancel.bind fun _ => ?_) (fun s hs => hs.toFlashLegal) fun _ _ hs => hs
  iterate 8 refine Triple.bind (noProbe_of (by simp)) fun _ => ?_
  exact down_setIdle.bind fun _ => down_of (by simp)

/-- The bond is forgotten when the link is down. -/
theorem down_rfClearBond : Kept RfFlashes Rf.Down rfClearBond := by
  have hst : Stable RfFlashes fun s : Rf => s.Down ∧ s.bond.hasBond = false := by
    intro s t hi hs
    refine ⟨stable_down s t hi hs.1, ?_⟩
    rw [(flashHeard hi).bond (.inr fun hp => nomatch hs.1.2.1.symm.trans hp)]
    exact hs.2
  have hkeep {f : Rf → Rf} (hf : ∀ s : Rf, (f s).hw = s.hw ∧ (f s).trace.caught = s.trace.caught ∧
      (f s).bond.hasBond = s.bond.hasBond ∧ (f s).state = s.state ∧ (f s).rest.probe = s.rest.probe) :
      Kept RfFlashes (fun s : Rf => s.Down ∧ s.bond.hasBond = false) (.modify f) := by
    refine Kept.modify hst fun s hs => ?_
    obtain ⟨hhw, hcaught, hbond, hstate, hprobe⟩ := hf s
    have hno := hbond.trans hs.2
    refine ⟨⟨⟨hhw.symm ▸ hs.1.1.eeprom, hcaught.symm ▸ hs.1.1.offers, fun hb => ?_⟩, hstate.trans hs.1.2.1,
      hprobe.trans hs.1.2.2⟩, hno⟩
    exact nomatch hno.symm.trans hb
  have hforget : Triple RfFlashes Rf.Down forgetBond fun _ s => s.Down ∧ s.bond.hasBond = false := by
    have hfirst : Triple RfFlashes Rf.Down
        (.modify fun s => { s with bond := { s.bond with hasBond := false }, log := { s.log with owed := none } })
        fun _ s => s.Down ∧ s.bond.hasBond = false :=
      Triple.modify stable_down hst fun s hs => ⟨⟨⟨hs.1.eeprom, hs.1.offers, nofun⟩, hs.2⟩, rfl⟩
    refine hfirst.bind fun _ => Triple.bind (hkeep ?_) fun _ => Triple.bind (hkeep ?_) fun _ => hkeep ?_
    all_goals exact fun s => ⟨rfl, rfl, rfl, rfl, rfl⟩
  refine Triple.bind (down_of (by simp)) fun _ => hforget.bind fun _ => ?_
  exact Triple.conseq (down_of (by simp)) (fun s hs => hs.1) fun _ _ hs => hs

/-! ## Saving -/

end Programs

/-- A bond that is legal is loaded after it was saved. -/
theorem flashLoads_save {b : Bond} {st : EepromStatus} {page : Nat → Byte} (hst : st.Succeeds) (hb : b.hasBond = true)
    (hlegal : LegalAa b.storedSessionAa) (haa : b.storedSessionAa < 4294967296) :
    FlashLoads (rfSaveBondToFlash st b page) b.storedDongleMac b.storedSessionAa := by
  have hrec : RfBondRecord.ofPage (rfSaveBondToFlash st b page) = rfBuildBondRecord b := ofPage_save hst hb haa
  have hvalid : rfBondRecordValid (rfBuildBondRecord b) = true := (rfBondRecordValid_build b).mpr hlegal
  simp only [FlashLoads, rfLoadBondFromFlash, hrec, hvalid, ne_eq, not_true_eq_false, Bool.not_true, Bool.false_eq_true, if_false]
  exact ⟨trivial, rfl, rfl⟩

/-- After a save the bond is in flash. -/
theorem flashOk_saveBond : Triple RfFlashes Rf.Savable saveBond fun _ => Rf.FlashOk := by
  refine Triple.modify stable_savable stable_flashOk fun s hs => ⟨⟨hs.1.eeprom, hs.1.offers, hs.1.bonded⟩, fun hu => ?_⟩
  have hb : s.bond.hasBond = true := hs.2 hu
  obtain ⟨hlegal, haa⟩ := hs.1.bonded hb
  exact ⟨hb, .inr (.inr (flashLoads_save hs.1.eeprom hb hlegal haa))⟩

/-- `RF_FlushBondSave` saves if a save is outstanding in the flag. -/
theorem flashOk_rfFlushBondSave : Kept RfFlashes Rf.FlashOk rfFlushBondSave := by
  have hclear : Triple RfFlashes Rf.FlashOk (.modify fun s => { s with bondSavePending := false }) fun _ => Rf.Savable :=
    Triple.modify stable_flashOk stable_savable fun s hs => ⟨⟨hs.eeprom, hs.offers, hs.bonded⟩, fun hu => (hs.covered hu).1⟩
  refine (Kept.read stable_flashOk _).bind fun pending => Kept.ite (fun _ => ?_) fun _ => Kept.pure stable_flashOk ()
  exact hclear.bind fun _ => flashOk_saveBond

/-- An event is taken. When it is `RF_EVT_SAVE_BOND`, its save is about to be done. -/
theorem flashOk_tmosTake : Triple RfFlashes Rf.FlashOk tmosTake fun next s =>
    s.Savable ∧ (next ≠ some .saveBond → s.FlashOk) := by
  refine Triple.stmt stable_flashOk fun s hs => Triple.pure (fun u v hi hu => ?_) fun t ht => ?_
  · exact ⟨stable_savable u v hi hu.1, fun hn => stable_flashOk u v hi (hu.2 hn)⟩
  · subst ht
    refine ⟨⟨⟨hs.eeprom, hs.offers, hs.bonded⟩, fun hu => (hs.covered hu).1⟩, fun hn => ?_⟩
    refine ⟨⟨hs.eeprom, hs.offers, hs.bonded⟩, fun hu => ⟨(hs.covered hu).1, ?_⟩⟩
    rcases (hs.covered hu).2 with hp | hw | ha
    · exact .inl hp
    · refine .inr (.inl ?_)
      change (s.tmos.next.elim s.tmos s.tmos.take).waits .saveBond = true
      cases hnext : s.tmos.next with
      | none => exact hw
      | some e =>
        have hne : RfEvt.saveBond ≠ e := fun he => hn (he ▸ hnext)
        simp [hne, hw]
    · exact .inr (.inr ha)

/-! ## The calls -/

section Calls

attribute [local simp] Rf.legalKeep_iff Rf.bondKeep_iff Rf.useKeep_iff Rf.inUse_connected Rf.inUse_resting Rf.inUse_probe

/-- A handler that runs in a state of use starts with the bond covered. -/
theorem flashOk_inState {st : RfState} (hst : st = .connected ∨ st = .resting) {p : RfM Unit} (hp : Kept RfFlashes Rf.FlashSafe p) :
    Kept RfFlashes Rf.FlashOk (do
      let state ← .read fun s => s.state
      whenever (state = st) p) := by
  refine kept_inState stable_flashOk (fun s t hi => (flashHeard hi).state) (hp.conseq (fun s hs => ?_) fun _ _ hs => hs.ok)
  exact hs.1.safe (hst.elim (fun h => .inl (hs.2.trans h)) fun h => .inr (.inl (hs.2.trans h)))

/-- What is read says that the bond is in use. -/
theorem flashOk_guarded {g : Rf → Bool} (hg : ∀ s, g s = true → s.InUse) {p : RfM Unit} (hp : Kept RfFlashes Rf.FlashSafe p) :
    Kept RfFlashes Rf.FlashOk (do
      let due ← .read g
      whenever due p) := by
  have hread : Triple RfFlashes Rf.FlashOk (.read g) fun due s => s.FlashOk ∧ (due = true → s.FlashSafe) :=
    Triple.read stable_flashOk (fun due s t hi hs => ⟨stable_flashOk s t hi hs.1, fun hd => stable_flashSafe s t hi (hs.2 hd)⟩)
      fun s hs => ⟨hs, fun hd => hs.safe (hg s hd)⟩
  refine hread.bind fun due => Triple.ite (fun hd => ?_) fun _ => Triple.pure stable_flashOk fun s hs => hs.1
  exact hp.conseq (fun s hs => hs.2 hd) fun _ _ hs => hs.ok

/-- `RF_ConnectedTick` runs in a session, and leaves the bond alone. -/
theorem flashOk_rfConnectedTick : Kept RfFlashes Rf.FlashOk rfConnectedTick := by
  have hbody : Each (fun f => ∀ s : Rf, s.BondKeep (f s)) (do
      let quiet ← .read fun s => s.rest.quietPending && !s.resp.responsePending
      if quiet then restProbeEnd true
      else do
        rearmSupervision
        rfHopOrWait) := by simp
  exact flashOk_inState (.inl rfl) (safe_of hbody)

/-- A link that is lost goes down before it searches. -/
theorem flashOk_onDisconnect : Kept RfFlashes Rf.FlashOk onDisconnect := by
  refine kept_inState stable_flashOk (fun s t hi => (flashHeard hi).state) ?_
  refine Triple.conseq (noProbe_restCancel.bind fun _ => ?_) (fun s hs => hs.1.toFlashLegal) fun _ _ hs => hs
  iterate 5 refine Triple.bind (noProbe_of (by simp)) fun _ => ?_
  refine down_setIdle.bind fun _ => Triple.conseq (down_of (by simp)) (fun _ hs => hs) fun _ _ hs => hs.ok

/-- Every handler but those of a connection and of the save. -/
theorem flashOk_rfProcessEvent {e : RfEvt} (he : e ≠ .enterConnected) (hb : e ≠ .saveBond) :
    Kept RfFlashes Rf.FlashOk (rfProcessEvent e) := by
  cases e with
  | enterConnected => exact absurd rfl he
  | saveBond => exact absurd rfl hb
  | disconnect => exact flashOk_onDisconnect
  | restIdle =>
    refine flashOk_guarded (fun s hd => .inl ?_) (safe_of (by simp))
    simp only [Bool.and_eq_true, decide_eq_true_eq] at hd
    exact hd.1
  | restProbe =>
    refine flashOk_guarded (fun s hd => .inr (.inl ?_)) (safe_of (by simp))
    simp only [Bool.and_eq_true, decide_eq_true_eq] at hd
    exact hd.1
  | restProbeTimeout => exact flashOk_guarded (fun s hd => .inr (.inr hd)) (safe_of (by simp))
  | _ => exact ok_of (by simp [rfProcessEvent])

/-- A report wakes a rest, whose bond is covered. -/
theorem flashOk_wakeRest : Kept RfFlashes Rf.FlashOk wakeRest := by
  have hstate : Triple RfFlashes Rf.FlashOk (.read fun s => s.state)
      fun state s => s.FlashOk ∧ (state = .resting → s.FlashSafe) :=
    Triple.read stable_flashOk (fun state s t hi hs => ⟨stable_flashOk s t hi hs.1, fun hr => stable_flashSafe s t hi (hs.2 hr)⟩)
      fun s hs => ⟨hs, fun hr => hs.safe (.inr (.inl hr))⟩
  refine hstate.bind fun state => Triple.ite (fun hr => ?_) fun _ => ?_
  · exact Triple.conseq (safe_of (by simp)) (fun s hs => hs.2 hr) fun _ _ hs => hs.ok
  · exact Triple.conseq (ok_of (by simp)) (fun s hs => hs.1) fun _ _ hs => hs

/-- What the host asks for keeps the invariant. -/
theorem flashOk_host : HostKeep RfFlashes Rf.FlashOk where
  stable := stable_flashOk
  out o s hs := ⟨⟨hs.eeprom, hs.offers, hs.bonded⟩, hs.covered⟩
  transport is2g4 := ok_of (by simp)
  drop := ok_of (by simp)
  select := ok_of (by simp)
  pair := ok_of (by simp)
  disconnect := down_rfDisconnect.conseq (fun _ hs => hs) fun _ _ hs => hs.ok
  unpair := (down_rfDisconnect.bind fun _ => down_rfClearBond).conseq (fun _ hs => hs) fun _ _ hs => hs.ok
  report r := Kept.bind (ok_of (by simp)) fun _ => flashOk_wakeRest

/-- Every call but a pass of TMOS. -/
theorem flashOk_call {call : RfCall} (h : call ≠ .process) : Kept RfFlashes Rf.FlashOk call.program := by
  cases call with
  | frame cmd sub payload => exact flashOk_host.frame cmd sub payload
  | process => exact absurd rfl h
  | connectedTick => exact flashOk_rfConnectedTick
  | ledResync => exact ok_of (by simp [RfCall.program])
  | quiesce => exact flashOk_rfFlushBondSave.bind fun _ => flashOk_host.disconnect
  | other => exact Kept.pure stable_flashOk ()

/-- Every event but that of a connection. -/
theorem flashOk_tmosHandle {next : Option RfEvt} (he : next ≠ some .enterConnected) :
    Triple RfFlashes (fun s => s.Savable ∧ (next ≠ some .saveBond → s.FlashOk)) (tmosHandle next) fun _ => Rf.FlashOk := by
  have hst : Stable RfFlashes fun s : Rf => s.Savable ∧ (next ≠ some .saveBond → s.FlashOk) := fun s t hi hs =>
    ⟨stable_savable s t hi hs.1, fun hn => stable_flashOk s t hi (hs.2 hn)⟩
  rcases next with _ | e
  · exact Triple.conseq (Kept.pure stable_flashOk ()) (fun s hs => hs.2 nofun) fun _ _ hs => hs
  · by_cases hb : e = .saveBond
    · subst hb
      exact flashOk_saveBond.conseq (fun s hs => hs.1) fun _ _ hs => hs
    · have hn : e ≠ .enterConnected := fun h => he (congrArg some h)
      exact (flashOk_rfProcessEvent hn hb).conseq (fun s hs => hs.2 fun h => hb (Option.some.inj h)) fun _ _ hs => hs

end Calls

end OpenController
