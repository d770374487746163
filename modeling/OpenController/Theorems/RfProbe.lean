import OpenController.Lemmas.RfProbeRun

/-!
# The end of a silent probe

A silent probe that ends as caught has had its answers, as long as TMOS never runs in a rest with a response pending. A poll that is
caught while `rest_go_quiet` is under way leaves one pending, and then the first beacon of the next probe is taken for an answer.
-/

namespace OpenController

open Prog

variable {ok : RfCall → Rf → Prop} {w : ProbeWorld}

/-- As long as TMOS never runs in a rest with a response pending, every probe that ended as caught had earned it. -/
theorem probe_ends_earned (h : ProbeReach RfCall.RestsClean w) : ∀ r ∈ w.catches, r.Earned := (probeOk_reach h).catches

/-! ## Runs -/

namespace ProbeWorld

/-- The RF task is called, or something happens between two calls. -/
def apply (op : RfOp) (w : ProbeWorld) : ProbeWorld :=
  match op.call, op, w.flight with
  | some call, _, _ => (call.program.zoom rf watch).exec (w.begin call)
  | none, .callback .txFinish rsr rxBuf, some f => w.txEnd .txFinish rsr rxBuf f
  | none, op, _ => w.watch (op.apply w.rf)

/-- It can happen: a packet comes while the radio listens, and a transmission ends that is in flight. -/
def Hears (w : ProbeWorld) : RfOp → Prop
  | .callback .rxData _ (some _) => w.rf.radio.receiving = true
  | .callback .txFinish _ _ => w.flight.isSome = true
  | .callback .. => False
  | _ => True

/-- A run in which each call meets a condition. -/
def HearsRun (ok : RfCall → Rf → Prop) (w : ProbeWorld) : List RfOp → Prop
  | [] => True
  | op :: ops => (w.Hears op ∧ ∀ call ∈ op.call, ok call w.rf) ∧ (w.apply op).HearsRun ok ops

instance (w : ProbeWorld) (op : RfOp) : Decidable (w.Hears op) :=
  match op with
  | .callback .rxData _ (some _) => inferInstanceAs (Decidable (w.rf.radio.receiving = true))
  | .callback .txFinish _ none | .callback .txFinish _ (some _) => inferInstanceAs (Decidable (w.flight.isSome = true))
  | .callback .rxData _ none | .callback .txFail _ none | .callback .txFail _ (some _) | .callback .other _ none
  | .callback .other _ (some _) => instDecidableFalse
  | .frame .. | .process | .connectedTick | .tmr0Cycle | .tmr0Irq | .expire _ | .advance _ | .hardware _ | .ledResync
  | .quiesce => instDecidableTrue

instance (call : RfCall) (s : Rf) : Decidable (call.RestsClean s) :=
  match call with
  | .process => decidable_of_iff (s.state = .resting → s.resp.responsePending = false) ⟨fun h _ => h, fun h => h rfl⟩
  | .frame .. | .connectedTick | .ledResync | .quiesce | .other => isTrue nofun

instance decHearsRun (ok : RfCall → Rf → Prop) [∀ call s, Decidable (ok call s)] (w : ProbeWorld) :
    (ops : List RfOp) → Decidable (w.HearsRun ok ops)
  | [] => isTrue trivial
  | op :: ops => @instDecidableAnd _ _ _ (decHearsRun ok (w.apply op) ops)

/-- The state after a run. -/
def after (w : ProbeWorld) (ops : List RfOp) : ProbeWorld := ops.foldl (fun w op => w.apply op) w

theorem reach_apply {op : RfOp} (h : ProbeReach ok w) (hh : w.Hears op) (hok : ∀ call ∈ op.call, ok call w.rf)
    (hother : ok .other w.rf) : ProbeReach ok (w.apply op) := by
  have call (c : RfCall) (hc : ok c w.rf) : ProbeReach ok ((c.program.zoom rf watch).exec (w.begin c)) :=
    .step c h ⟨hc, runs_run _ _ _⟩
  have between {w' : ProbeWorld} (hi : ProbeHears w w') : ProbeReach ok w' := .step .other h ⟨hother, .env hi (.ret () _)⟩
  cases op with
  | frame cmd sub payload => exact call _ (hok _ rfl)
  | process => exact call _ (hok _ rfl)
  | connectedTick => exact call _ (hok _ rfl)
  | ledResync => exact call _ (hok _ rfl)
  | quiesce => exact call _ (hok _ rfl)
  | tmr0Cycle => exact between (.elsewhere (.tmr0Cycle w.rf))
  | tmr0Irq => exact between (.elsewhere (.tmr0Irq w.rf))
  | expire e => exact between (.elsewhere (.expire w.rf e))
  | advance ticks => exact between (.elsewhere (.advance w.rf ticks))
  | hardware hw => exact between (.elsewhere (.hardware w.rf hw))
  | callback sta rsr rxBuf =>
    cases sta with
    | rxData =>
      cases rxBuf with
      | none => exact hh.elim
      | some buf => exact between (.packet rsr buf hh)
    | txFinish =>
      obtain ⟨f, hf⟩ := Option.isSome_iff_exists.mp hh
      have happly : w.apply (.callback .txFinish rsr rxBuf) = w.txEnd .txFinish rsr rxBuf f := by
        unfold apply
        rw [hf]
        rfl
      rw [happly]
      exact between (.txEnd .txFinish rsr rxBuf f (.inl rfl) hf)
    | txFail => exact hh.elim
    | other => exact hh.elim

theorem reach_after {ops : List RfOp} (hother : ∀ s, ok .other s) (h : ProbeReach ok w) (hh : w.HearsRun ok ops) :
    ProbeReach ok (w.after ops) := by
  induction ops generalizing w with
  | nil => exact h
  | cons op ops ih => exact ih (reach_apply h hh.1.1 hh.1.2 (hother _)) hh.2

end ProbeWorld

/-- A poll is caught and answered, and its events are handled. -/
def answerPoll (ctrl : Byte) : List RfOp := [.poll ctrl, .tmr0Cycle, .tmr0Irq, .process, .txFinish, .process, .process]

/-- A silent probe finds the dongle. -/
def probeUp : List RfOp := [.expire .restProbe, .process, .process, .txFinish, .process, .offer, .process]

/-- A session answers a poll, and is about to rest. -/
def aboutToRest : ProbeWorld := (ProbeWorld.start newKeyboard).after (connectUp ++ answerPoll 0 ++ [.expire .restIdle])

/-- The link rests, and a probe answers two polls. -/
theorem probe_ends_earned_two : (aboutToRest.after (.process :: probeUp ++ answerPoll 0 ++ answerPoll 1 ++ [.connectedTick])).catches =
      [⟨2, [some (.txFinish, .response), some (.txFinish, .response)], false⟩] ∧
    ∀ r ∈ (aboutToRest.after (.process :: probeUp ++ answerPoll 0 ++ answerPoll 1 ++ [.connectedTick])).catches, r.Earned := by
  refine ⟨by decide +kernel, probe_ends_earned ?_⟩
  have hother (s : Rf) : RfCall.other.RestsClean s := nofun
  have hstart : ProbeReach RfCall.RestsClean (.start newKeyboard) := .init ⟨_, ⟨_, _, _, _, rfl⟩, rfl⟩
  exact ProbeWorld.reach_after hother (ProbeWorld.reach_after hother hstart (by decide +kernel)) (by decide +kernel)

namespace ProbeWorld

/-- A poll is received. -/
def poll (ctrl : Byte) (w : ProbeWorld) : ProbeWorld := w.watch (w.rf.rf2g4StatusCallBack .rxData 0 (some (pollPacket ctrl)))

/-- The link goes to rest, and before the statement `k` of that a poll is caught. -/
def restsLate (k : Nat) (w : ProbeWorld) : ProbeWorld := ((tmosProcess.zoom rf watch).interrupted (poll 1) k w).2

end ProbeWorld

/-- A poll is caught after `response_pending = 0` of `rest_go_quiet`: the next probe counts a beacon, and ends after one response. -/
theorem probe_ends_earned_false : ∃ w, ProbeReach (fun _ _ => True) w ∧
    w.catches = [⟨1, [some (.txFinish, .beacon), some (.txFinish, .response)], false⟩] ∧ ¬∀ r ∈ w.catches, r.Earned := by
  have hstart : ProbeReach (fun _ _ => True) (.start newKeyboard) := .init ⟨_, ⟨_, _, _, _, rfl⟩, rfl⟩
  have hsession : ProbeReach (fun _ _ => True) aboutToRest :=
    ProbeWorld.reach_after (fun _ => trivial) hstart (by decide +kernel)
  have hrests : ProbeReach (fun _ _ => True) (aboutToRest.restsLate 18) :=
    .step .process hsession ⟨trivial, runs_interrupted (.packet 0 (pollPacket 1) (by decide +kernel))⟩
  have hcatches : ((aboutToRest.restsLate 18).after (probeUp ++ answerPoll 0 ++ [.connectedTick])).catches =
      [⟨1, [some (.txFinish, .beacon), some (.txFinish, .response)], false⟩] := by decide +kernel
  refine ⟨_, ProbeWorld.reach_after (fun _ => trivial) hrests (by decide +kernel), hcatches, fun hall => ?_⟩
  rw [hcatches] at hall
  exact absurd (hall _ (List.mem_singleton.mpr rfl)).completed (by decide)

end OpenController
