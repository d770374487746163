import OpenController.Lemmas.RfSupervisionRun

/-!
# Teardowns by the supervision timer

A session that the supervision timer tears down has heard no poll for the supervision time, unless the last one waits to be noted.
The handler of `RF_EVT_DISCONNECT` does not look at `supervision_kick`, so a poll that is caught as the time is over comes too late.
-/

namespace OpenController

open Prog

variable {ok : SupervisionStep → SupervisionWorld → Prop} {w : SupervisionWorld}

/-- When no poll waits to be noted, the supervision time has passed at every teardown since the session started or was promoted and
since the last poll. -/
theorem drops_overdue (h : SupervisionReach SupervisionStep.Unheard w) : ∀ d ∈ w.drops, d.Overdue := (supervision_reach h).drops

/-! ## Runs -/

namespace SupervisionWorld

/-- TMOS takes an event. -/
def take (w : SupervisionWorld) : Option RfEvt × SupervisionWorld := (tmosTake.zoom rf watch).run w

/-- The step that something is. -/
def step (w : SupervisionWorld) (op : RfOp) : SupervisionStep :=
  match op.call with
  | some .process => .event w.take.1 w.take.2
  | some c => .call c
  | none => .call .other

/-- The world after it. -/
def apply (w : SupervisionWorld) (op : RfOp) : SupervisionWorld :=
  match op.call, op with
  | some .process, _ => .handled w.take.1 w.take.2 (((tmosHandle w.take.1).zoom rf watch).exec w.take.2)
  | some c, _ => (c.program.zoom rf watch).exec w
  | none, .callback sta rsr rxBuf => w.hear sta rsr rxBuf
  | none, op => { w with rf := op.apply w.rf }

/-- It can happen: the radio calls back while it is live, and a timer expires at its deadline or later. -/
def Hears (w : SupervisionWorld) : RfOp → Prop
  | .callback .. => w.rf.radio.shut = false
  | .expire e => ∀ d ∈ w.rf.tmos.timers e, d ≤ w.rf.tmos.now
  | _ => True

/-- A run in which each step meets a condition. -/
def HearsRun (ok : SupervisionStep → SupervisionWorld → Prop) (w : SupervisionWorld) : List RfOp → Prop
  | [] => True
  | op :: ops => (w.Hears op ∧ ok (w.step op) (w.apply op)) ∧ (w.apply op).HearsRun ok ops

instance (w : SupervisionWorld) (op : RfOp) : Decidable (w.Hears op) :=
  match op with
  | .callback .. => inferInstanceAs (Decidable (w.rf.radio.shut = false))
  | .expire e => inferInstanceAs (Decidable (∀ d ∈ w.rf.tmos.timers e, d ≤ w.rf.tmos.now))
  | .frame .. | .process | .connectedTick | .tmr0Cycle | .tmr0Irq | .advance _ | .hardware _ | .ledResync | .quiesce =>
    instDecidableTrue

instance (step : SupervisionStep) (w : SupervisionWorld) : Decidable (step.Unheard w) :=
  match step with
  | .event (some .disconnect) u =>
    inferInstanceAs (Decidable (u.rf.state = .connected → u.rf.supervisionKick = false ∧ w.polls = u.polls))
  | .call _ | .event none _ | .event (some .start) _ | .event (some .rxRestart) _ | .event (some .pairBcast) _
  | .event (some .pairRxOff) _ | .event (some .pairTimeout) _ | .event (some .enterConnected) _ | .event (some .respond) _
  | .event (some .notifyLed) _ | .event (some .discardHid) _ | .event (some .saveBond) _ | .event (some .restIdle) _
  | .event (some .restProbe) _ | .event (some .restProbeTimeout) _ | .event (some .restStage2) _ => instDecidableTrue

instance decHearsRun (ok : SupervisionStep → SupervisionWorld → Prop) [∀ step w, Decidable (ok step w)] (w : SupervisionWorld) :
    (ops : List RfOp) → Decidable (w.HearsRun ok ops)
  | [] => isTrue trivial
  | op :: ops => @instDecidableAnd _ _ _ (decHearsRun ok (w.apply op) ops)

/-- The world after a run. -/
def after (w : SupervisionWorld) (ops : List RfOp) : SupervisionWorld := ops.foldl apply w

theorem leads_apply {op : RfOp} (hh : w.Hears op) : (w.step op).Leads w (w.apply op) := by
  have between {t : SupervisionWorld} (hi : SupervisionHears w t) : (SupervisionStep.call .other).Leads w t :=
    ⟨nofun, .env hi (.ret () _)⟩
  have elsewhere {t : Rf} (he : RfElsewhere w.rf t) (ht : t.tmos.timers = w.rf.tmos.timers) :
      (SupervisionStep.call .other).Leads w { w with rf := t } := by
    refine between (.elsewhere he fun e d hd hn => ?_)
    rw [ht, hd] at hn
    exact nomatch hn
  cases op with
  | frame cmd sub payload => exact ⟨nofun, runs_run _ _ _⟩
  | process => exact ⟨runs_run _ _ _, _, runs_run _ _ _, rfl⟩
  | connectedTick => exact ⟨nofun, runs_run _ _ _⟩
  | ledResync => exact ⟨nofun, runs_run _ _ _⟩
  | quiesce => exact ⟨nofun, runs_run _ _ _⟩
  | callback sta rsr rxBuf => exact between (.callback sta rsr rxBuf hh)
  | tmr0Cycle => exact elsewhere (.tmr0Cycle w.rf) rfl
  | tmr0Irq => exact elsewhere (.tmr0Irq w.rf) w.rf.tmr0IRQHandler_timers
  | advance ticks => exact elsewhere (.advance w.rf ticks) rfl
  | hardware hw => exact elsewhere (.hardware w.rf hw) rfl
  | expire e =>
    refine between (.elsewhere (.expire w.rf e) fun e' d hd hn => ?_)
    by_cases he : e' = e
    · exact hh d (he ▸ hd)
    · have hsame : (w.rf.tmos.expire e).timers e' = some d := by
        unfold Tmos.expire
        split
        · exact hd
        · rw [← hd]
          exact Function.update_of_ne he _ _
      exact nomatch hsame.symm.trans hn

theorem reach_after {ops : List RfOp} (h : SupervisionReach ok w) (hh : w.HearsRun ok ops) : SupervisionReach ok (w.after ops) := by
  induction ops generalizing w with
  | nil => exact h
  | cons op ops ih => exact ih (.step (w.step op) h ⟨leads_apply hh.1.1, hh.1.2⟩) hh.2

end SupervisionWorld

/-- A session answers a poll, and the main loop goes around until just before the supervision time is over. -/
def nearlyOver : List RfOp :=
  connectUp ++ [.poll 0, .process, .connectedTick, .tmr0Cycle, .tmr0Irq, .process, .txFinish, .process, .connectedTick,
    .advance 4999, .process, .connectedTick, .advance 1]

/-- No other poll is caught, and the session is torn down. -/
theorem drops_overdue_unheard :
    ((SupervisionWorld.start newKeyboard).after (nearlyOver ++ [.expire .disconnect, .process])).drops = [⟨[0], [0], 5000⟩] ∧
    ∀ d ∈ ((SupervisionWorld.start newKeyboard).after (nearlyOver ++ [.expire .disconnect, .process])).drops, d.Overdue := by
  refine ⟨by decide +kernel, drops_overdue ?_⟩
  exact SupervisionWorld.reach_after (.init ⟨_, ⟨_, _, _, _, rfl⟩, rfl⟩) (by decide +kernel)

/-- A poll is caught as the supervision time is over, before `RF_ConnectedTick` notes it: the session is torn down at once. -/
theorem drops_overdue_false : ∃ w, SupervisionReach (fun _ _ => True) w ∧ w.drops = [⟨[0], [0, 5000], 5000⟩] ∧
    ¬∀ d ∈ w.drops, d.Overdue := by
  have hstart : SupervisionReach (fun _ _ => True) (.start newKeyboard) := .init ⟨_, ⟨_, _, _, _, rfl⟩, rfl⟩
  have hdrops : ((SupervisionWorld.start newKeyboard).after (nearlyOver ++ [.poll 1, .expire .disconnect, .process])).drops =
      [⟨[0], [0, 5000], 5000⟩] := by decide +kernel
  refine ⟨_, SupervisionWorld.reach_after hstart (by decide +kernel), hdrops, fun hall => ?_⟩
  rw [hdrops] at hall
  exact absurd (hall _ (List.mem_singleton.mpr rfl)) (by decide)

end OpenController
