import OpenController.Lemmas.MainRun
import OpenController.Lemmas.RfHearsAux
import OpenController.MainSleep

/-!
# The explicit sleep, across runs

`RequestOk` holds between any two steps of the main loop, as long as no layer keeps a request that another one gives up.
-/

namespace OpenController

open Prog

variable {board : Board} {c : Prop} {m t : Main}

/-! ## Frames -/

namespace SleepProto

variable (st : SleepProto) (cmd sub : Byte) (openbootPending : Bool)

theorem sleepPending_standDown :
    (st.standDown cmd sub).1.sleepPending = (st.sleepPending && !sleepProtocolIsStateChanging cmd sub) := by
  unfold standDown
  cases hp : st.sleepPending <;> cases hc : sleepProtocolIsStateChanging cmd sub <;> simp [hp]

/-- After a frame, a sleep is pending only if the frame asked for it, or one was and the frame does not stand it down. -/
theorem onFrame_sleepPending (h : (st.onFrame cmd sub openbootPending).1.sleepPending = true) :
    st.Asks cmd sub openbootPending ∨ st.sleepPending = true ∧ ¬StandsDown cmd sub := by
  by_cases hneg : cmd = 0xA6 ∧ sub = 0x56
  · simp [onFrame, hneg] at h
  by_cases hauto : cmd = 0xA6 ∧ sub = 0x57
  · have hst : st.sleepPending = true := by
      rw [onFrame, if_neg hneg, if_pos hauto] at h
      split at h <;> exact h
    obtain ⟨rfl, rfl⟩ := hauto
    exact .inr ⟨hst, by decide⟩
  rw [onFrame, if_neg hneg, if_neg hauto] at h
  dsimp only at h
  by_cases hask : cmd = 0xA6 ∧ sub = 0x54
  · obtain ⟨rfl, rfl⟩ := hask
    by_cases hp : st.sleepPending = true
    · exact .inr ⟨hp, by decide⟩
    · left
      simp [hp] at h
      split at h
      · rename_i hc
        exact ⟨rfl, rfl, hc⟩
      · exact absurd h hp
  · -- The lifetime of auto-sleep is independent of a pending sleep.
    have hkeep : st.sleepPending = true ∧ sleepProtocolIsStateChanging cmd sub = false := by
      rw [if_neg hask, sleepPending_standDown] at h
      split at h <;> simpa using h
    exact .inr ⟨hkeep.1, fun hd => hd.elim hneg fun hc => nomatch hkeep.2.symm.trans hc⟩

end SleepProto

theorem stable_requestOk : Stable MainInterrupt (Main.RequestOk c) := by
  intro m t hi h
  cases hi with
  | rf => exact ⟨h.pending, h.request, h.taken⟩
  | rxByte => exact ⟨h.pending, h.request, h.taken⟩

/-- A function of the RF task has nothing to do with it. -/
theorem requestOk_onRf {α : Type} (p : RfM α) : Kept MainInterrupt (Main.RequestOk c) (onRf p) :=
  kept_onRf (fun _ _ h => ⟨h.pending, h.request, h.taken⟩) (fun _ h => ⟨h.pending, h.request, h.taken⟩) p

/-- The frames of the reducer: those that stand a sleep down take `sleep_pending` with them, and leave the request of the power
layer for the end. -/
theorem requestOk_fold (cmd sub : Byte) : Triple MainInterrupt
    (fun m => m.RequestOk False ∧ (cmd = 0xA6 → sub = 0x56 → m.pwr.explicitRequest = false))
    (.stmt (fun m : Main => { m with
      sleepProto := (m.sleepProto.onFrame cmd sub m.openbootEntryPending).1
      log := { m.log with
        wanted := decide (m.sleepProto.Asks cmd sub m.openbootEntryPending) || m.log.wanted && !decide (StandsDown cmd sub) } })
      fun m => pure (m.sleepProto.onFrame cmd sub m.openbootEntryPending).2)
    fun _ => Main.RequestOk (sleepProtocolIsStateChanging cmd sub = true) := by
  have hst : Stable MainInterrupt
      fun m : Main => m.RequestOk False ∧ (cmd = 0xA6 → sub = 0x56 → m.pwr.explicitRequest = false) := by
    intro m t hi h
    have hok := stable_requestOk m t hi h.1
    cases hi <;> exact ⟨hok, h.2⟩
  refine Triple.stmt hst fun m hm => Triple.pure stable_requestOk ?_
  rintro _ rfl
  obtain ⟨h, hneg⟩ := hm
  refine ⟨fun hp => ?_, fun hc hr => ?_, h.taken⟩
  · rcases m.sleepProto.onFrame_sleepPending cmd sub _ hp with ha | ⟨hp', hd⟩
    · simp [ha]
    · simp [h.pending hp', hd]
  · have hd : ¬StandsDown cmd sub := by
      rintro (⟨hcmd, hsub⟩ | hs)
      · exact nomatch (hneg hcmd hsub).symm.trans hr
      · exact hc hs
    simp [h.request id hr, hd]

theorem requestOk_sleepFrame (cmd sub : Byte) : Triple MainInterrupt
    (fun m => m.RequestOk False ∧ (cmd = 0xA6 → sub = 0x56 → m.pwr.explicitRequest = false)) (sleepFrame cmd sub)
    fun _ => Main.RequestOk False := by
  have hauto : Kept MainInterrupt (Main.RequestOk (sleepProtocolIsStateChanging cmd sub = true))
      (.modify fun m => { m with pwr := m.pwr.setAutosleep m.sleepProto.autosleep m.rf.hw.rtc }) := by
    refine Kept.modify stable_requestOk fun m hm => ⟨hm.pending, fun hc hr => hm.request hc ?_, hm.taken⟩
    have hkeep : (m.pwr.setAutosleep m.sleepProto.autosleep m.rf.hw.rtc).explicitRequest = m.pwr.explicitRequest := by
      unfold PowerSleep.setAutosleep
      split <;> rfl
    exact hkeep.symm.trans hr
  have hnote : Kept MainInterrupt (Main.RequestOk (sleepProtocolIsStateChanging cmd sub = true))
      (.modify fun m => { m with pwr := m.pwr.noteActivity m.rf.hw.rtc }) :=
    Kept.modify stable_requestOk fun m hm => ⟨hm.pending, hm.request, hm.taken⟩
  have hcancel : Triple MainInterrupt (Main.RequestOk (sleepProtocolIsStateChanging cmd sub = true))
      (branch (sleepProtocolIsStateChanging cmd sub) (.modify fun m => { m with pwr := m.pwr.cancelExplicit }))
      fun _ => Main.RequestOk False := by
    refine Triple.ite (fun _ => ?_) fun hc => ?_
    · exact Triple.modify stable_requestOk stable_requestOk fun m hm => ⟨hm.pending, nofun, hm.taken⟩
    · exact Triple.pure stable_requestOk fun m hm => ⟨hm.pending, fun _ => hm.request hc, hm.taken⟩
  refine (requestOk_fold cmd sub).bind fun action => ?_
  refine Triple.bind (kept_branch stable_requestOk (requestOk_onRf _)) fun _ => ?_
  exact Triple.bind hauto fun _ => Triple.bind hnote fun _ => hcancel

theorem requestOk_mainFrame (cmd sub : Byte) (payload : Report) : Triple MainInterrupt
    (fun m => m.RequestOk False ∧ (cmd = 0xA6 → sub = 0x56 → m.pwr.explicitRequest = false)) (mainFrame board cmd sub payload)
    fun _ => Main.RequestOk False := by
  refine (requestOk_sleepFrame cmd sub).bind fun _ => Kept.bind (requestOk_onRf _) fun _ => ?_
  refine Kept.bind (kept_branch stable_requestOk (requestOk_onRf _)) fun _ => kept_branch stable_requestOk ?_
  exact Kept.modify stable_requestOk fun m hm => ⟨hm.pending, hm.request, hm.taken⟩

/-! ## Services -/

theorem requestOk_openBootService (fifoIdle : Bool) (now : Nat) :
    Kept MainInterrupt (Main.RequestOk False) (openBootService board fifoIdle now) := by
  have hread : ∀ {α : Type} (g : Main → α), Kept MainInterrupt (Main.RequestOk False) (.read g) := Kept.read stable_requestOk
  have hmodify (f : Main → Main) (hf : ∀ m, (f m).sleepProto = m.sleepProto ∧ (f m).pwr = m.pwr ∧
      (f m).log.wanted = m.log.wanted ∧ (f m).log.sleeps = m.log.sleeps) :
      Kept MainInterrupt (Main.RequestOk False) (.modify f) := by
    refine Kept.modify stable_requestOk fun m hm => ?_
    obtain ⟨hproto, hpwr, hwanted, hsleeps⟩ := hf m
    refine ⟨?_, ?_, ?_⟩
    · rw [hproto, hwanted]
      exact hm.pending
    · rw [hpwr, hwanted]
      exact hm.request
    · rw [hsleeps]
      exact hm.taken
  refine (hread _).bind fun state => Kept.ite (fun _ => (hread _).bind fun pending => kept_branch stable_requestOk ?_) fun _ => ?_
  · refine (requestOk_onRf _).bind fun _ => ?_
    exact Kept.bind (hmodify _ fun _ => ⟨rfl, rfl, rfl, rfl⟩) fun _ => hmodify _ fun _ => ⟨rfl, rfl, rfl, rfl⟩
  · exact (hread _).bind fun start => kept_branch stable_requestOk (hmodify _ fun _ => ⟨rfl, rfl, rfl, rfl⟩)

/-- The request passes from the reducer to the power layer: it is wanted until then, since no frame comes in between. -/
theorem requestOk_powerService (txIdle : Bool) (now : Nat) :
    Kept MainInterrupt (Main.RequestOk False) (powerService board txIdle now) := by
  have hread : ∀ {α : Type} (g : Main → α), Kept MainInterrupt (Main.RequestOk False) (.read g) := Kept.read stable_requestOk
  have hclear : Kept MainInterrupt (Main.RequestOk False) clearSleepPending :=
    Kept.modify stable_requestOk fun m hm => ⟨nofun, hm.request, hm.taken⟩
  have hset (state : Nat) : Kept MainInterrupt (Main.RequestOk False) (setPowerState state) :=
    Kept.modify stable_requestOk fun m hm => ⟨hm.pending, hm.request, hm.taken⟩
  -- What is wanted while the request is handed over.
  have hst : Stable MainInterrupt fun m : Main => m.RequestOk False ∧ m.log.wanted = true := by
    intro m t hi h
    have hok := stable_requestOk m t hi h.1
    cases hi <;> exact ⟨hok, h.2⟩
  have hclear' : Kept MainInterrupt (fun m : Main => m.RequestOk False ∧ m.log.wanted = true) clearSleepPending :=
    Kept.modify hst fun m hm => ⟨⟨nofun, hm.1.request, hm.1.taken⟩, hm.2⟩
  have hset' : Kept MainInterrupt (fun m : Main => m.RequestOk False ∧ m.log.wanted = true) (setPowerState 0) :=
    Kept.modify hst fun m hm => ⟨⟨hm.1.pending, hm.1.request, hm.1.taken⟩, hm.2⟩
  have hdown : Kept MainInterrupt (fun m : Main => m.RequestOk False ∧ m.log.wanted = true) (onRf takeDown) :=
    kept_onRf (fun _ _ h => ⟨⟨h.1.pending, h.1.request, h.1.taken⟩, h.2⟩)
      (fun _ h => ⟨⟨h.1.pending, h.1.request, h.1.taken⟩, h.2⟩) _
  have hrequest : Triple MainInterrupt (fun m : Main => m.RequestOk False ∧ m.log.wanted = true)
      (.modify fun m => { m with pwr := m.pwr.requestExplicit }) fun _ => Main.RequestOk False :=
    Triple.modify hst stable_requestOk fun m hm => ⟨hm.1.pending, fun _ _ => hm.2, hm.1.taken⟩
  refine (hread _).bind fun state => Kept.ite (fun _ => (hread _).bind fun pending => kept_branch stable_requestOk ?_) fun _ => ?_
  · refine (hread _).bind fun openboot => Kept.ite (fun _ => hclear) fun _ => ?_
    exact Kept.bind (Kept.modify stable_requestOk fun m hm => ⟨hm.pending, hm.request, hm.taken⟩) fun _ => hset 1
  · have hdecide : Triple MainInterrupt (Main.RequestOk False)
        (.read fun m => !m.sleepProto.sleepPending || m.openbootEntryPending)
        fun standDown m => m.RequestOk False ∧ (standDown = false → m.log.wanted = true) := by
      refine Triple.read stable_requestOk (fun standDown m t hi h => ?_) fun m hm => ⟨hm, fun hs => hm.pending ?_⟩
      · have hok := stable_requestOk m t hi h.1
        cases hi <;> exact ⟨hok, h.2⟩
      · simp only [Bool.or_eq_false_iff, Bool.not_eq_false'] at hs
        exact hs.1
    refine hdecide.bind fun standDown => Triple.ite (fun _ => ?_) fun hs => Triple.ite (fun _ => ?_) fun _ => ?_
    · exact (hclear.bind fun _ => hset 0).conseq (fun m hm => hm.1) fun _ _ hm => hm
    · exact ((hread _).bind fun start => kept_branch stable_requestOk (hclear.bind fun _ => hset 0)).conseq
        (fun m hm => hm.1) fun _ _ hm => hm
    · refine Triple.conseq (Triple.bind hclear' fun _ => Triple.bind hset' fun _ => Triple.bind hdown fun _ => hrequest)
        (fun m hm => ⟨hm.1, hm.2 ?_⟩) fun _ _ hm => hm
      simpa using hs

/-! ## The idle callback -/

/-- A sleep that was entered was not vetoed, and it remembers an edge of the host. -/
theorem sleepUntil_slept {p : PowerSleep} {time rtc : Nat} {view : SleepView} (h : (p.sleepUntil board time rtc view).1 = 0) :
    (view.masked = false ∧ view.wakeAsserted = false ∧ view.trigAsserted = false) ∧
      (p.sleepUntil board time rtc view).2.gpioWoke = (view.hostEdge || view.lateEdge) := by
  unfold PowerSleep.sleepUntil at h ⊢
  dsimp only at h ⊢
  generalize (if pwrRtcSub board time board.wakeUpRtcMaxTime < rtc then _ else _) = timeSleep at h ⊢
  by_cases hmask : view.masked = true
  · rw [if_pos hmask] at h
    exact nomatch h
  by_cases htime : timeSleep < board.sleepRtcMinTime ∨ timeSleep > board.sleepRtcMaxTime
  · rw [if_neg hmask, if_pos htime] at h
    exact nomatch h
  by_cases hveto : (view.wakeAsserted || view.trigAsserted) = true
  · rw [if_neg hmask, if_neg htime, if_pos hveto] at h
    exact nomatch h
  rw [if_neg hmask, if_neg htime, if_neg hveto]
  rw [Bool.not_eq_true, Bool.or_eq_false_iff] at hveto
  refine ⟨⟨Bool.eq_false_of_not_eq_true hmask, hveto⟩, ?_⟩
  unfold PowerSleep.slept PowerSleep.gpioWakeDisarm PowerSleep.noteActivity
  dsimp only
  split <;> rfl

/-- The power layer does not ask for a sleep of its own accord. -/
theorem explicitRequest_sleepUntil (p : PowerSleep) (time rtc : Nat) (view : SleepView) :
    (p.sleepUntil board time rtc view).2.explicitRequest = p.explicitRequest := by
  unfold PowerSleep.sleepUntil PowerSleep.slept PowerSleep.gpioWakeDisarm PowerSleep.noteActivity
  dsimp only
  repeat' split
  all_goals rfl

theorem requestOk_trySleep (time : Nat) (view : SleepView) {explicit : Bool} (h : m.RequestOk False)
    (he : explicit = true → m.log.wanted = true) : (m.trySleep board time view explicit).2.RequestOk False := by
  refine ⟨h.pending, fun hc hr => h.request hc ?_, fun e hmem hx => ?_⟩
  · exact (explicitRequest_sleepUntil m.pwr time m.rf.hw.rtc view).symm.trans hr
  · unfold Main.trySleep at hmem
    dsimp only at hmem
    split at hmem
    · rcases List.mem_append.mp hmem with hold | hnew
      · exact h.taken e hold hx
      · obtain rfl := List.mem_singleton.mp hnew
        exact he hx
    · exact h.taken e hmem hx

/-- The sleep that was requested is wanted; when the host ends it, no other request is left. -/
theorem requestOk_explicitSleep {time : Nat} {txIdle rxQuiet : Bool} {view : SleepView} (h : m.RequestOk False)
    (hr : m.pwr.explicitRequest = true)
    (hk : m.HostEndsSleep txIdle rxQuiet view → m.sleepProto.sleepPending = false) :
    (m.explicitSleep board time txIdle rxQuiet view).2.RequestOk False := by
  unfold Main.explicitSleep
  split
  · exact h
  · rename_i hready
    have htry : (m.trySleep board time view true).2.RequestOk False :=
      requestOk_trySleep time view h fun _ => h.request id hr
    dsimp only
    split
    · rename_i hwake
      have hends : m.HostEndsSleep txIdle rxQuiet view := by
        obtain ⟨⟨hmask, hveto⟩, hedge⟩ := sleepUntil_slept hwake.1
        simp only [not_or, ne_eq, not_not, Bool.not_eq_true, Bool.not_eq_true', Bool.not_eq_false] at hready
        exact ⟨⟨hr, hready.1⟩, hready.2, hmask, hveto, by simpa using hedge.symm.trans hwake.2⟩
      refine ⟨fun hp => ?_, nofun, htry.taken⟩
      exact nomatch (hk hends).symm.trans hp
    · exact htry

theorem requestOk_autoSleep {time : Nat} {txIdle rxQuiet : Bool} {view : SleepView} (h : m.RequestOk False) :
    (m.autoSleep board time txIdle rxQuiet view).2.RequestOk False := by
  have hexpired : (m.pwrHoldoffExpired board).2.RequestOk False := by
    unfold Main.pwrHoldoffExpired
    repeat' split
    all_goals exact ⟨h.pending, h.request, h.taken⟩
  unfold Main.autoSleep
  dsimp only
  repeat' split
  · exact h
  · exact h
  · exact hexpired
  · exact hexpired
  · exact hexpired
  · exact hexpired
  · exact requestOk_trySleep time view hexpired nofun

/-! ## Runs -/

theorem requestOk_settle (h : m.RequestOk False) : m.settle.RequestOk False := by
  unfold Main.settle
  split
  · exact ⟨h.pending, h.request, h.taken⟩
  · exact h

theorem requestOk_step {op : MainOp} (hm : m.RequestOk False) (hk : op.DropsRequest m) (hs : op.Steps board m t) :
    t.RequestOk False := by
  cases op with
  | event next u => exact requestOk_onRf _ _ _ _ (requestOk_onRf _ _ _ _ hm hs.1) hs.2
  | call c =>
    cases c with
    | frame cmd sub payload => exact requestOk_mainFrame cmd sub payload _ _ _ ⟨hm, hk⟩ hs
    | connectedTick => exact requestOk_onRf rfConnectedTick _ _ _ hm hs
    | ledResync => exact requestOk_onRf rfLedResync _ _ _ hm hs
    | openBootService fifoIdle now => exact requestOk_openBootService fifoIdle now _ _ _ hm hs
    | powerService txIdle now => exact requestOk_powerService txIdle now _ _ _ hm hs
    | lowPower time txIdle rxQuiet view =>
      have hst : Stable MainInterrupt fun m : Main =>
          m.RequestOk False ∧ (m.HostEndsSleep txIdle rxQuiet view → m.sleepProto.sleepPending = false) := by
        intro m t hi h
        have hok := stable_requestOk m t hi h.1
        cases hi with
        | rf hi => exact ⟨hok, fun hends => h.2 ⟨⟨hends.1.1, (state_interrupt hi).symm.trans hends.1.2⟩, hends.2⟩⟩
        | rxByte => exact ⟨hok, h.2⟩
      have hidle : Triple MainInterrupt
          (fun m => m.RequestOk False ∧ (m.HostEndsSleep txIdle rxQuiet view → m.sleepProto.sleepPending = false))
          (.modify fun m => (m.ch59xLowPower board time txIdle rxQuiet view).2) fun _ => Main.RequestOk False := by
        refine Triple.modify hst stable_requestOk fun m hm => ?_
        unfold Main.ch59xLowPower
        split
        · rename_i hr
          exact requestOk_explicitSleep hm.1 hr hm.2
        · exact requestOk_autoSleep hm.1
      exact hidle _ _ _ ⟨hm, hk⟩ hs
    | other =>
      have hpure : Kept MainInterrupt (Main.RequestOk False) (pure ()) := Kept.pure stable_requestOk ()
      exact hpure _ _ _ hm hs

theorem requestOk_reach (h : MainReach board MainOp.DropsRequest m) : m.RequestOk False := by
  refine Reach.invariant (I := fun m => m.RequestOk False) (fun m hm => ?_) (fun op m t _ hm ha => ?_) h
  · obtain ⟨rf, -, rfl⟩ := hm
    exact ⟨nofun, nofun, nofun⟩
  · obtain ⟨-, hk, v, hs, rfl⟩ := ha
    exact requestOk_settle (requestOk_step hm hk hs)

end OpenController
