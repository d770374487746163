import OpenController.RfNews
import OpenController.RfPairing

/-!
# The bond in flash and in RAM

After a power cycle the keyboard searches for the dongle of the record in flash, at its session access address. A save is
outstanding from a connection to its `RF_EVT_SAVE_BOND`, but a silent probe connects without one. Runs may be limited to silent
probes whose offer satisfies a condition.
-/

namespace OpenController

/-- The session access addresses that a record may have. -/
def LegalAa (aa : Nat) : Prop := aa ≠ 0 ∧ aa ≠ rfDefaultAccessAddr

/-- A power cycle loads this dongle and this session access address. -/
def FlashLoads (flash : Nat → Byte) (mac : Mac) (aa : Nat) : Prop :=
  let loaded := rfLoadBondFromFlash ⟨0, 0, 0⟩ flash rfClearBondRam
  loaded.2 = true ∧ loaded.1.storedDongleMac = mac ∧ loaded.1.storedSessionAa = aa

instance (aa : Nat) : Decidable (LegalAa aa) := inferInstanceAs (Decidable (_ ∧ _))

instance (flash : Nat → Byte) (mac : Mac) (aa : Nat) : Decidable (FlashLoads flash mac aa) := inferInstanceAs (Decidable (_ ∧ _ ∧ _))

namespace Rf

/-- The record in flash is that of the bond in RAM. -/
def FlashAgrees (s : Rf) : Prop := FlashLoads s.flash s.bond.storedDongleMac s.bond.storedSessionAa

/-- No save is outstanding. -/
def Saved (s : Rf) : Prop := s.bondSavePending = false ∧ s.tmos.waits .saveBond = false

/-- The callback accepts a session access address from the packet: without a bond any, else that of the bonded dongle's offer. -/
def Accepts (s : Rf) (buf : RxBuf) : Prop :=
  buf.Pairs s ∧ (s.bond.hasBond = false ∨
    macEqual s.bond.storedDongleMac buf.dongleMac = true ∧ 20 ≤ buf.effInterval ∧ buf.effInterval ≤ 40)

/-- A silent probe that connects now loses no save, and the session access address it takes is in flash or will be saved. -/
def OfferSaved (s : Rf) : Prop :=
  s.tmos.waits .saveBond = true ∨ FlashLoads s.flash s.bond.storedDongleMac s.pending.sessionAa

/-- The session access address of the offer is stored. -/
def storeSessionAa (s : Rf) : Rf := { s.noteUse with bond := { s.bond with storedSessionAa := s.pending.sessionAa } }

instance (s : Rf) : Decidable s.FlashAgrees := inferInstanceAs (Decidable (FlashLoads ..))

instance (s : Rf) : Decidable s.Saved := inferInstanceAs (Decidable (_ ∧ _))

instance (s : Rf) : Decidable s.OfferSaved := inferInstanceAs (Decidable (_ ∨ _))

instance (s : Rf) (buf : RxBuf) : Decidable (s.Accepts buf) := inferInstanceAs (Decidable (_ ∧ _))

end Rf

/-! ## A connection in two halves -/

/-- `rf_enter_connected` before the session access address is stored, and whether the session is that of a silent probe. -/
def enterHead : RfM (Option Bool) := do
  let state ← .read fun s => s.state
  if state = .pairing then do
    let silentProbe ← .read fun s => s.rest.probe && !s.rest.probeWake
    rfStopTaskAtomic .pairBcast
    rfStopTaskAtomic .pairTimeout
    rfStopTaskAtomic .pairRxOff
    pure (some silentProbe)
  else pure none

/-- The rest of it. -/
def enterTail (silentProbe : Bool) : RfM Unit := do
  .modify fun s => { s.noteUse with bond := { s.bond with storedTypeTag := s.pending.typeTag } }
  .modify fun s => { s with radio := { s.radio with accessAddr := s.bond.storedSessionAa } }
  .modify fun s => { s.noteUse with hop := { s.hop with connInterval := s.pending.interval } }
  .modify fun s => { s with hop := { s.hop with prevDataIdx := (s.bond.storedTypeTag.toNat + 1) % numDataChannels } }
  .modify fun s => { s with resp := { s.resp with txCtrl := 2 } }
  .modify fun s => { s with hid := { s.hid with headSent := false } }
  .modify fun s => { s.noteUse with hop := { s.hop with hopAnchor := s.pending.anchor } }
  .modify fun s => { s with hop := { s.hop with sinceRx := 0 } }
  clearResponsePending
  .modify fun s => { s with hop := { s.hop with provisional := true } }
  .modify fun s => { s with bondSavePending := !silentProbe }
  setConnected silentProbe
  rfTmr0Stop
  let idx ← .read fun s => s.hop.prevDataIdx
  rfStartRx (dataChannels.getD idx 0)
  pficEnableTmr0
  rfStopTaskAtomic .disconnect
  rfStartTaskAtomic .disconnect rfConnectedTimeoutTicks
  announceSession silentProbe

/-- The two halves are the whole. -/
theorem rfEnterConnected_eq : rfEnterConnected = enterHead >>= fun silentProbe =>
    match silentProbe with
    | none => pure ()
    | some silentProbe => .modify Rf.storeSessionAa >>= fun _ => enterTail silentProbe := by
  refine congrArg (Prog.stmt id) (funext fun s => ?_)
  change (if s.state = .pairing then (_ : RfM Unit) else _) = (if s.state = .pairing then (_ : RfM (Option Bool)) else _) >>= _
  by_cases hp : s.state = .pairing
  · rw [if_pos hp, if_pos hp]
    rfl
  · rw [if_neg hp, if_neg hp]
    rfl

/-! ## Runs -/

/-- What can happen between two statements of the main loop: the DataFlash calls succeed, and a session access address that is
accepted is legal. -/
inductive RfFlashes : Rf → Rf → Prop where
  | callback {s} (sta : RfSta) (rsr : Nat) (rxBuf : Option RxBuf) (h : s.radio.shut = false)
      (hk : sta = .rxData → rsr = 0 → ∀ buf ∈ rxBuf, s.Accepts buf → LegalAa buf.sessionAa) :
      RfFlashes s (s.rf2g4StatusCallBack sta rsr rxBuf)
  | elsewhere {s t} (h : RfElsewhere s t) (ht : t.hw.eeprom.Succeeds) : RfFlashes s t

/-- A call of the main loop. A silent probe connects only if `ok`, right before its session access address is stored. -/
inductive FlashStep (ok : Rf → Prop) : Rf → Rf → Prop where
  | call {s t} (call : RfCall) (h : call ≠ .process) : Prog.Runs RfFlashes call.program s () t → FlashStep ok s t
  | event {s u t next} : Prog.Runs RfFlashes tmosTake s next u → next ≠ some .enterConnected →
      Prog.Runs RfFlashes (tmosHandle next) u () t → FlashStep ok s t
  | leave {s u t} : Prog.Runs RfFlashes tmosTake s (some .enterConnected) u → Prog.Runs RfFlashes enterHead u none t →
      FlashStep ok s t
  | connect {s u v t} (silentProbe : Bool) : Prog.Runs RfFlashes tmosTake s (some .enterConnected) u →
      Prog.Runs RfFlashes enterHead u (some silentProbe) v → (silentProbe = true → ok v) →
      Prog.Runs RfFlashes (enterTail silentProbe) v.storeSessionAa () t → FlashStep ok s t

/-- The states between the calls of such a main loop, booted with DataFlash calls that succeed. -/
abbrev FlashReach (ok : Rf → Prop) : Rf → Prop :=
  Reach (fun s => RfBooted s ∧ s.hw.eeprom.Succeeds) fun (_ : Unit) s t => FlashStep ok s t

/-- Without a condition, every pass of TMOS is one of the steps. -/
theorem flashStep_process {s t : Rf} (h : Prog.Runs RfFlashes tmosProcess s () t) : FlashStep (fun _ => True) s t := by
  rw [tmosProcess_eq] at h
  obtain ⟨next, u, htake, hhandle⟩ := h.of_bind
  by_cases hn : next = some .enterConnected
  · subst hn
    have henter : Prog.Runs RfFlashes rfEnterConnected u () t := hhandle
    rw [rfEnterConnected_eq] at henter
    obtain ⟨silentProbe, v, hhead, hrest⟩ := henter.of_bind
    cases silentProbe with
    | none => exact .leave htake (hhead.tail hrest)
    | some silentProbe =>
      obtain ⟨v', hv, htail⟩ := Prog.Runs.of_stmt hrest
      exact .connect silentProbe htake (hhead.tail hv) (fun _ => trivial) htail
  · exact .event htake hn hhandle

/-- The steps are calls of the main loop. -/
theorem FlashStep.runs {ok : Rf → Prop} {s t : Rf} (h : FlashStep ok s t) :
    ∃ call : RfCall, Prog.Runs RfFlashes call.program s () t := by
  have henter {u t : Rf} (hr : Prog.Runs RfFlashes rfEnterConnected u () t) :
      Prog.Runs RfFlashes (tmosHandle (some .enterConnected)) u () t := hr
  cases h with
  | call call _ hr => exact ⟨call, hr⟩
  | event htake _ hhandle => exact ⟨.process, htake.bind hhandle⟩
  | leave htake hhead =>
    refine ⟨.process, htake.bind (henter ?_)⟩
    rw [rfEnterConnected_eq]
    exact hhead.bind (.ret () _)
  | connect silentProbe htake hhead _ htail =>
    refine ⟨.process, htake.bind (henter ?_)⟩
    rw [rfEnterConnected_eq]
    exact hhead.bind (Prog.Runs.bind (.stmt (.ret () _)) htail)

/-! ## Calls that no interrupt runs into -/

/-- What happens between two calls of such a main loop. -/
def RfOp.Flashes (ok : Rf → Prop) (op : RfOp) (s : Rf) : Prop :=
  match op with
  | .process => s.tmos.next = some .enterConnected → (enterHead.run (tmosTake.exec s)).1 = some true →
      ok (enterHead.exec (tmosTake.exec s))
  | .callback sta rsr rxBuf =>
      s.radio.shut = false ∧ (sta = .rxData → rsr = 0 → ∀ buf ∈ rxBuf, s.Accepts buf → LegalAa buf.sessionAa)
  | op => (op.apply s).hw.eeprom.Succeeds

instance (st : EepromStatus) : Decidable st.Succeeds := inferInstanceAs (Decidable (_ ∧ _))

instance (ok : Rf → Prop) [DecidablePred ok] (op : RfOp) (s : Rf) : Decidable (op.Flashes ok s) :=
  match op with
  | .process => inferInstanceAs (Decidable (s.tmos.next = some .enterConnected →
      (enterHead.run (tmosTake.exec s)).1 = some true → ok (enterHead.exec (tmosTake.exec s))))
  | .callback sta rsr rxBuf => inferInstanceAs (Decidable (s.radio.shut = false ∧
      (sta = .rxData → rsr = 0 → ∀ buf ∈ rxBuf, s.Accepts buf → LegalAa buf.sessionAa)))
  | .frame .. | .connectedTick | .tmr0Cycle | .tmr0Irq | .expire _ | .advance _ | .hardware _ | .ledResync | .quiesce =>
    inferInstanceAs (Decidable (EepromStatus.Succeeds _))

namespace FlashReach

variable {ok : Rf → Prop} {s : Rf}

/-- A pass of TMOS that no interrupt runs into. -/
theorem process (h : FlashReach ok s) (hk : RfOp.process.Flashes ok s) : FlashReach ok (tmosProcess.exec s) := by
  have htake : Prog.Runs RfFlashes tmosTake s s.tmos.next (tmosTake.exec s) := Prog.runs_run _ _ s
  have hprocess : tmosProcess.exec s = (tmosHandle s.tmos.next).exec (tmosTake.exec s) := by
    rw [tmosProcess_eq, Prog.exec, Prog.run_bind]
    rfl
  by_cases hn : s.tmos.next = some .enterConnected
  · have hhead := Prog.runs_run RfFlashes enterHead (tmosTake.exec s)
    have henter : tmosProcess.exec s = rfEnterConnected.exec (tmosTake.exec s) := by rw [hprocess, hn]; rfl
    rw [hn] at htake
    rw [henter, rfEnterConnected_eq, Prog.exec, Prog.run_bind]
    cases hsilent : (enterHead.run (tmosTake.exec s)).1 with
    | none =>
      rw [hsilent] at hhead
      exact .step () h (.leave htake hhead)
    | some silentProbe =>
      rw [hsilent] at hhead
      refine .step () h (.connect silentProbe htake hhead (fun hp => hk hn (hp ▸ hsilent)) ?_)
      exact Prog.runs_run _ _ _
  · rw [hprocess]
    exact .step () h (.event htake hn (Prog.runs_run _ _ _))

theorem apply (h : FlashReach ok s) {op : RfOp} (hk : op.Flashes ok s) : FlashReach ok (op.apply s) := by
  have call (c : RfCall) (hc : c ≠ .process) : FlashReach ok (c.program.exec s) := .step () h (.call c hc (Prog.runs_run _ _ _))
  have between {t : Rf} (ht : RfFlashes s t) : FlashReach ok t := .step () h (.call .other nofun (.env ht (.ret () t)))
  cases op with
  | frame cmd sub payload => exact call (.frame cmd sub payload) nofun
  | process => exact h.process hk
  | connectedTick => exact call .connectedTick nofun
  | ledResync => exact call .ledResync nofun
  | quiesce => exact call .quiesce nofun
  | callback sta rsr rxBuf => exact between (.callback sta rsr rxBuf hk.1 hk.2)
  | tmr0Cycle => exact between (.elsewhere (.tmr0Cycle s) hk)
  | tmr0Irq => exact between (.elsewhere (.tmr0Irq s) hk)
  | expire e => exact between (.elsewhere (.expire s e) hk)
  | advance ticks => exact between (.elsewhere (.advance s ticks) hk)
  | hardware hw => exact between (.elsewhere (.hardware s hw) hk)

theorem after (h : FlashReach ok s) {ops : List RfOp} (hk : s.Meets (RfOp.Flashes ok) ops) : FlashReach ok (s.after ops) := by
  induction ops generalizing s with
  | nil => exact h
  | cons op ops ih => exact ih (h.apply hk.1) hk.2

end FlashReach

end OpenController
