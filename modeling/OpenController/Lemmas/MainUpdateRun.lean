import OpenController.Lemmas.MainRun
import OpenController.Lemmas.RfBondRun
import OpenController.MainUpdate

/-!
# The bond before a firmware update, across runs

`SavesOk` holds between any two steps of the main loop, as long as no step gives up a pending save, and none is queued when the
update is requested.
-/

namespace OpenController

open Prog RfStatements

attribute [local simp] BondStmt IdleStmt Rf.bondStep_iff

variable {board : Board} {c : Prop} {m t : Main}

/-! ## Calls -/

namespace Main.SavesOk

/-- A change of the RF task that leaves the debt alone. -/
theorem step (h : m.SavesOk c) (hcatch : t.rf.CatchOk) (hb : m.rf.BondStep t.rf) (hdue : t.log.due = m.log.due)
    (hu : t.updated = m.updated) : t.SavesOk c := by
  refine ⟨hcatch, ?_, fun hc => hb.idle (h.idle hc), fun he => hdue.trans (h.ended (hu.symm.trans he))⟩
  rw [hdue]
  exact hb.saveOk h.saves

/-- Nothing that matters has changed. -/
theorem same (h : m.SavesOk c) (hrf : t.rf = m.rf) (hdue : t.log.due = m.log.due) (hu : t.updated = m.updated) : t.SavesOk c :=
  h.step (hrf ▸ h.catches) (hrf ▸ Rf.BondStep.rfl' m.rf) hdue hu

end Main.SavesOk

theorem stable_savesOk : Stable MainInterrupt (Main.SavesOk c) := by
  intro m t hi h
  cases hi with
  | rf hi => exact h.step (stable_catchOk _ _ hi h.catches) (bondStep_interrupt hi) rfl rfl
  | rxByte => exact h.same rfl rfl rfl

/-- A function of the RF task, by what it does to catches and to saves. -/
theorem savesOk_onRf {α : Type} {p : RfM α} {P : Rf → Prop} (ho : Triple RfInterrupt Rf.CatchOk p fun _ => Rf.CatchOk)
    (hs : ∀ d, Triple RfInterrupt (fun s => s.SaveOk d ∧ P s) p fun _ => Rf.SaveOk d) :
    Triple MainInterrupt (fun m => m.SavesOk c ∧ P m.rf) (onRf p) fun _ => Main.SavesOk False := by
  intro m a t hm hr
  have hrf := runs_onRf hr
  obtain ⟨hlog, hu⟩ := log_onRf hr
  have hdue : t.log.due = m.log.due := congrArg MainLog.due hlog
  refine ⟨ho _ _ _ hm.1.catches hrf, ?_, False.elim, fun he => hdue.trans (hm.1.ended (hu.symm.trans he))⟩
  rw [hdue]
  exact hs _ _ _ _ ⟨hm.1.saves, hm.2⟩ hrf

/-- A function of the RF task that leaves the debt alone. -/
theorem kept_savesOk {α : Type} {p : RfM α} (ho : Triple RfInterrupt Rf.CatchOk p fun _ => Rf.CatchOk) (hs : Each BondStmt p) :
    Kept MainInterrupt (Main.SavesOk c) (onRf p) := by
  intro m a t hm hr
  have hrf := runs_onRf hr
  obtain ⟨hlog, hu⟩ := log_onRf hr
  have hdue : t.log.due = m.log.due := congrArg MainLog.due hlog
  have hidle : Triple RfInterrupt (fun s => c → s.bondSavePending = false) p fun _ s => c → s.bondSavePending = false :=
    Each.triple (hs.mono fun f hf s h hc => (hf s).idle (h hc)) fun s u hi h hc => (bondStep_interrupt hi).idle (h hc)
  refine ⟨ho _ _ _ hm.catches hrf, ?_, hidle _ _ _ hm.idle hrf, fun he => hdue.trans (hm.ended (hu.symm.trans he))⟩
  rw [hdue]
  exact saves_of hs _ _ _ hm.saves hrf

theorem orderly_status (b : Byte) : Triple RfInterrupt Rf.CatchOk (keyboardUartSendStatus b) fun _ => Rf.CatchOk :=
  keeps_catchOk (by simp [CalmStmt, Rf.calm_iff])

/-- A statement of `main.c` that has nothing to do with it. -/
theorem savesOk_modify {f : Main → Main} (h : ∀ m : Main, (f m).rf = m.rf ∧ (f m).log.due = m.log.due ∧ (f m).updated = m.updated) :
    Kept MainInterrupt (Main.SavesOk c) (.modify f) :=
  Kept.modify stable_savesOk fun m hm => hm.same (h m).1 (h m).2.1 (h m).2.2

theorem savesOk_sleepFrame (cmd sub : Byte) : Kept MainInterrupt (Main.SavesOk c) (sleepFrame cmd sub) := by
  have hfold : Kept MainInterrupt (Main.SavesOk c) (.stmt (fun m : Main => { m with
      sleepProto := (m.sleepProto.onFrame cmd sub m.openbootEntryPending).1
      log := { m.log with
        wanted := decide (m.sleepProto.Asks cmd sub m.openbootEntryPending) || m.log.wanted && !decide (StandsDown cmd sub) } })
      fun m => pure (m.sleepProto.onFrame cmd sub m.openbootEntryPending).2) :=
    Triple.stmt stable_savesOk fun m hm => Triple.pure stable_savesOk fun t ht => ht ▸ hm.same rfl rfl rfl
  refine hfold.bind fun action => ?_
  refine Kept.bind (kept_branch stable_savesOk (kept_savesOk (orderly_status _) (by simp))) fun _ => ?_
  refine Kept.bind (savesOk_modify fun _ => ⟨rfl, rfl, rfl⟩) fun _ => Kept.bind (savesOk_modify fun _ => ⟨rfl, rfl, rfl⟩) fun _ => ?_
  exact kept_branch stable_savesOk (savesOk_modify fun _ => ⟨rfl, rfl, rfl⟩)

theorem savesOk_mainFrame (cmd sub : Byte) (payload : Report) :
    Triple MainInterrupt (Main.SavesOk (LeavesLink cmd sub)) (mainFrame board cmd sub payload) fun _ => Main.SavesOk False := by
  refine Triple.bind (savesOk_sleepFrame cmd sub) fun _ => ?_
  have hframe : Triple MainInterrupt (Main.SavesOk (LeavesLink cmd sub)) (onRf (handleUartFrame cmd sub payload))
      fun _ => Main.SavesOk False :=
    (savesOk_onRf (orderly_program (.frame cmd sub payload)) fun _ => saves_handleUartFrame cmd sub payload).conseq
      (fun m hm => ⟨hm, hm.idle⟩) fun _ _ hm => hm
  refine hframe.bind fun _ => Kept.bind (kept_branch stable_savesOk (kept_savesOk (orderly_status _) (by simp))) fun _ => ?_
  exact kept_branch stable_savesOk (savesOk_modify fun _ => ⟨rfl, rfl, rfl⟩)

/-- The link is taken down for a sleep. -/
theorem savesOk_takeDown : Kept MainInterrupt (Main.SavesOk False) (onRf takeDown) := by
  have hsave : ∀ d, Triple RfInterrupt (fun s => s.SaveOk d ∧ True) takeDown fun _ => Rf.SaveOk d := fun d =>
    saves_takeDown.conseq (fun _ hs => hs.1) fun _ _ hs => hs.1
  exact (savesOk_onRf (orderly_program .quiesce) hsave).conseq (fun m hm => ⟨hm, trivial⟩) fun _ _ hm => hm

theorem savesOk_powerService (txIdle : Bool) (now : Nat) :
    Kept MainInterrupt (Main.SavesOk False) (powerService board txIdle now) := by
  have hread : ∀ {α : Type} (g : Main → α), Kept MainInterrupt (Main.SavesOk False) (.read g) := Kept.read stable_savesOk
  have hclear : Kept MainInterrupt (Main.SavesOk False) clearSleepPending := savesOk_modify fun _ => ⟨rfl, rfl, rfl⟩
  have hset (state : Nat) : Kept MainInterrupt (Main.SavesOk False) (setPowerState state) := savesOk_modify fun _ => ⟨rfl, rfl, rfl⟩
  refine (hread _).bind fun state => Kept.ite (fun _ => (hread _).bind fun pending => kept_branch stable_savesOk ?_) fun _ => ?_
  · refine (hread _).bind fun openboot => Kept.ite (fun _ => hclear) fun _ => ?_
    exact Kept.bind (savesOk_modify fun _ => ⟨rfl, rfl, rfl⟩) fun _ => hset 1
  · refine (hread _).bind fun standDown => Kept.ite (fun _ => hclear.bind fun _ => hset 0) fun _ => Kept.ite (fun _ => ?_) fun _ => ?_
    · exact (hread _).bind fun start => kept_branch stable_savesOk (hclear.bind fun _ => hset 0)
    · refine hclear.bind fun _ => (hset 0).bind fun _ => savesOk_takeDown.bind fun _ => ?_
      exact savesOk_modify fun _ => ⟨rfl, rfl, rfl⟩

/-! ## The bootloader -/

/-- The service runs: the run is not over, and if it is about to end then no debt from before is left. -/
def Main.Serves (board : Board) (fifoIdle : Bool) (now : Nat) (m : Main) : Prop :=
  m.SavesOk False ∧ m.updated = false ∧ (m.openboot.state ≠ 0 → m.Drained board fifoIdle now → m.log.due = none)

theorem stable_serves {fifoIdle : Bool} {now : Nat} : Stable MainInterrupt (Main.Serves board fifoIdle now) := by
  intro m t hi h
  have hst := stable_savesOk m t hi h.1
  cases hi with
  | rf hi => exact ⟨hst, h.2⟩
  | rxByte => exact ⟨hst, h.2⟩

/-- `OpenBoot_Service` takes the link down, and what is owed then is queued. -/
theorem savesOk_quiesce : Triple MainInterrupt (fun m => m.SavesOk False ∧ m.updated = false) (onRf takeDown)
    fun _ m => m.SavesOk True ∧ m.updated = false := by
  intro m a t hm hr
  have hrf := runs_onRf hr
  obtain ⟨hlog, hu⟩ := log_onRf hr
  have hdue : t.log.due = m.log.due := congrArg MainLog.due hlog
  have hidle := saves_takeDown _ _ _ hm.1.saves hrf
  refine ⟨⟨orderly_program .quiesce _ _ _ hm.1.catches hrf, ?_, fun _ => hidle.2, ?_⟩, hu.trans hm.2⟩
  · rw [hdue]
    exact hidle.1
  · exact fun he => hdue.trans (hm.1.ended (hu.symm.trans he))

theorem savesOk_openBootService (fifoIdle : Bool) (now : Nat) :
    Triple MainInterrupt (Main.Serves board fifoIdle now) (openBootService board fifoIdle now) fun _ => Main.SavesOk False := by
  have hpure : Triple MainInterrupt (Main.Serves board fifoIdle now) (pure ()) fun _ => Main.SavesOk False :=
    Triple.pure stable_savesOk fun _ hm => hm.1
  have hstate : Triple MainInterrupt (Main.Serves board fifoIdle now) (.read fun m => m.openboot.state)
      fun state m => m.Serves board fifoIdle now ∧ (state ≠ 0 → m.openboot.state ≠ 0) := by
    refine Triple.read stable_serves (fun state m t hi hm => ?_) fun m hm => ⟨hm, id⟩
    refine ⟨stable_serves m t hi hm.1, fun hs => ?_⟩
    cases hi <;> exact hm.2 hs
  have hup : Stable MainInterrupt fun m : Main => m.SavesOk True ∧ m.updated = false := fun m t hi hm => by
    have hst := stable_savesOk m t hi hm.1
    cases hi <;> exact ⟨hst, hm.2⟩
  have hstart : Kept MainInterrupt (fun m : Main => m.SavesOk True ∧ m.updated = false)
      (.modify fun m => { m with openboot := { m.openboot with start := now } }) :=
    Kept.modify hup fun m hm => ⟨hm.1.same rfl rfl rfl, hm.2⟩
  have hend : Triple MainInterrupt (fun m : Main => m.SavesOk True ∧ m.updated = false)
      (.modify fun m => { m with openboot := { m.openboot with state := 1 }, log := { m.log with due := m.rf.log.owed } })
      fun _ => Main.SavesOk False := by
    refine Triple.modify hup stable_savesOk fun m hm => ⟨hm.1.catches, ⟨hm.1.saves.known, hm.1.saves.posted, fun ho => ?_⟩, nofun, ?_⟩
    · exact (hm.1.saves.posted ho).resolve_left fun hp => nomatch (hm.1.idle trivial).symm.trans hp
    · exact fun he => nomatch hm.2.symm.trans he
  refine hstate.bind fun state => Triple.ite (fun _ => ?_) fun hs => ?_
  · refine Triple.conseq (Triple.bind (Kept.read stable_serves _) fun pending => Triple.ite (fun _ => ?_) fun _ => hpure)
      (fun m hm => hm.1) fun _ _ hm => hm
    refine Triple.conseq (savesOk_quiesce.bind fun _ => Triple.bind hstart fun _ => hend) (fun m hm => ⟨hm.1, hm.2.1⟩) fun _ _ hm => hm
  · have hread : Triple MainInterrupt (fun m => m.Serves board fifoIdle now ∧ (state ≠ 0 → m.openboot.state ≠ 0))
        (.read fun m => m.openboot.start) fun start m => m.Serves board fifoIdle now ∧
          (fifoIdle = true ∨ ¬sub32 now start < rtcClockTicksUs board 20000 → m.log.due = none) := by
      have hst : Stable MainInterrupt fun m : Main => m.Serves board fifoIdle now ∧ (state ≠ 0 → m.openboot.state ≠ 0) :=
        fun m t hi hm => ⟨stable_serves m t hi hm.1, by cases hi <;> exact hm.2⟩
      refine Triple.read hst (fun start m t hi hm => ?_) fun m hm => ⟨hm.1, fun hd => hm.1.2.2 (hm.2 hs) hd⟩
      exact ⟨stable_serves m t hi hm.1, by cases hi <;> exact hm.2⟩
    refine hread.bind fun start => Triple.ite (fun hd => ?_) fun _ => Triple.pure stable_savesOk fun m hm => hm.1.1
    have hdue : Stable MainInterrupt fun m : Main => m.SavesOk False ∧ m.log.due = none := fun m t hi hm => by
      have hst := stable_savesOk m t hi hm.1
      cases hi <;> exact ⟨hst, hm.2⟩
    have hupdate : Triple MainInterrupt (fun m : Main => m.SavesOk False ∧ m.log.due = none) openbootRequestUpdate
        fun _ => Main.SavesOk False :=
      Triple.modify hdue stable_savesOk fun m hm => ⟨hm.1.catches, hm.1.saves, nofun, fun _ => hm.2⟩
    exact hupdate.conseq (fun m hm => ⟨hm.1.1, hm.2 hd⟩) fun _ _ hm => hm

/-! ## A pass of TMOS -/

theorem savesOk_settle (h : m.SavesOk False) : m.settle.SavesOk False := by
  unfold Main.settle
  split
  · exact ⟨h.catches, ⟨h.saves.known, h.saves.posted, fun hd => absurd rfl hd⟩, nofun, fun _ => rfl⟩
  · exact h

/-- The event that was taken is handled. -/
theorem savesOk_event {next : Option RfEvt} {u : Main} (hm : m.SavesOk False) (hk : (MainOp.event next u).KeepsSave board m)
    (htake : Runs MainInterrupt (onRf tmosTake) m next u) (hhandle : Runs MainInterrupt (onRf (tmosHandle next)) u () t) :
    t.settle.SavesOk False := by
  have htake' := runs_onRf htake
  have hhandle' := runs_onRf hhandle
  obtain ⟨hlog, hu⟩ := log_onRf htake
  obtain ⟨hlog', hu'⟩ := log_onRf hhandle
  obtain ⟨hcatch, hready⟩ := triple_take _ _ _ hm.catches htake'
  obtain ⟨howes, hsave⟩ := saves_take _ _ _ hm.saves htake'
  have hdue : t.log.due = m.log.due := congrArg MainLog.due (hlog'.trans hlog)
  have hended : t.updated = true → t.log.due = none := fun he => hdue.trans (hm.ended ((hu'.trans hu).symm.trans he))
  have hkept (hc : t.rf.CatchOk) (hs : t.rf.SaveOk (m.log.due ≠ none)) : t.settle.SavesOk False :=
    savesOk_settle ⟨hc, hdue ▸ hs, nofun, hended⟩
  cases next with
  | none =>
    have hpure : Kept RfInterrupt (Rf.SaveOk (m.log.due ≠ none)) (pure ()) := Kept.pure stable_saveOk ()
    have hpure' : Kept RfInterrupt Rf.CatchOk (pure ()) := Kept.pure stable_catchOk ()
    exact hkept (hpure' _ _ _ hcatch hhandle') (hpure _ _ _ (hsave nofun) hhandle')
  | some e =>
    by_cases he : e = .enterConnected
    · subst he
      obtain ⟨hc, hfresh⟩ := hready rfl
      refine hkept (triple_rfEnterConnected _ _ _ ⟨hc, hfresh⟩ hhandle') (saves_rfEnterConnected _ _ _ ⟨hsave nofun, ?_, hk⟩ hhandle')
      exact fun hp => (hfresh hp).1
    · have hc : t.rf.CatchOk := orderly_rfProcessEvent he _ _ _ hcatch hhandle'
      by_cases hb : e = .saveBond
      · subst hb
        have hpaid : t.rf.log.owed = none := (free_saveBond (d := False) _ _ _ ⟨howes, nofun⟩ hhandle').1
        rw [Main.settle, if_pos hpaid]
        exact ⟨hc, Rf.Free.saveOk ⟨hpaid, fun hd => absurd rfl hd⟩, nofun, fun _ => rfl⟩
      · by_cases hd : e = .disconnect
        · subst hd
          exact hkept hc (saves_onDisconnect _ _ _ ⟨hsave nofun, hk⟩ hhandle')
        · exact hkept hc (saves_rfProcessEvent he hd hb _ _ _ (hsave fun hn => hb (Option.some.inj hn)) hhandle')

/-! ## Runs -/

theorem savesOk_boot (h : MainBooted m) : m.SavesOk False := by
  obtain ⟨rf, hrf, rfl⟩ := h
  have hcatch := catchOk_boot hrf
  have hsave : rf.SaveOk ((mainInit rf).log.due ≠ none) := by
    obtain ⟨mac, macValid, flash, hw, rfl⟩ := hrf
    exact ⟨nofun, fun ho => absurd rfl ho, fun hd => absurd rfl hd⟩
  have hstart : ({ mainInit rf with rf := rf } : Main).SavesOk False := ⟨hcatch, hsave, nofun, nofun⟩
  refine hstart.step ?_ ?_ rfl rfl
  · unfold mainInit
    dsimp only
    split
    · exact ⟨hcatch.armed, hcatch.waiting, hcatch.uses⟩
    · exact hcatch
  · unfold mainInit
    dsimp only
    split <;> exact ⟨rfl, fun hb => ⟨hb, rfl⟩, .inl rfl, id⟩

theorem savesOk_step {op : MainOp} (hm : m.SavesOk False) (hu : m.updated = false) (hk : op.KeepsSave board m)
    (hs : op.Steps board m t) : t.settle.SavesOk False := by
  cases op with
  | event next u => exact savesOk_event hm hk hs.1 hs.2
  | call c =>
    refine savesOk_settle ?_
    cases c with
    | frame cmd sub payload =>
      exact savesOk_mainFrame cmd sub payload _ _ _ ⟨hm.catches, hm.saves, hk, hm.ended⟩ hs
    | connectedTick => exact kept_savesOk (p := rfConnectedTick) (orderly_program .connectedTick) (by simp) _ _ _ hm hs
    | ledResync => exact kept_savesOk (p := rfLedResync) (orderly_program .ledResync) (by simp) _ _ _ hm hs
    | openBootService fifoIdle now =>
      refine savesOk_openBootService fifoIdle now _ _ _ ⟨hm, hu, fun hst hd => ?_⟩ hs
      by_contra hdue
      exact nomatch (hk hst hd).symm.trans (hm.saves.due hdue)
    | powerService txIdle now => exact savesOk_powerService txIdle now _ _ _ hm hs
    | lowPower time txIdle rxQuiet view =>
      have hidle : Kept MainInterrupt (Main.SavesOk False) (.modify fun m => (m.ch59xLowPower board time txIdle rxQuiet view).2) := by
        refine savesOk_modify fun m => ?_
        have hi := m.idles_ch59xLowPower board time txIdle rxQuiet view
        exact ⟨hi.rf, hi.due, hi.updated⟩
      exact hidle _ _ _ hm hs
    | other =>
      have hpure : Kept MainInterrupt (Main.SavesOk False) (pure ()) := Kept.pure stable_savesOk ()
      exact hpure _ _ _ hm hs

theorem savesOk_reach (h : MainReach board (MainOp.KeepsSave board) m) : m.SavesOk False := by
  refine Reach.invariant (I := fun m => m.SavesOk False) (fun m hm => savesOk_boot hm) (fun op m t _ hm ha => ?_) h
  obtain ⟨hu, hk, v, hs, rfl⟩ := ha
  exact savesOk_step hm hu hk hs

end OpenController
