import OpenController.Lemmas.LedRelayRun
import OpenController.Lemmas.RfStatements

/-!
# LED relays in the main loop

Whatever the main loop calls, its statements leave the LEDs alone or forget the byte handed over last, but for the handler of
NOTIFY_LED. So the runs of the main loop are runs of `LedStep`.
-/

namespace OpenController

open Prog Relation RfStatements

/-- The statement leaves the LEDs alone or forgets the byte handed over last, and starts no timer of NOTIFY_LED. -/
structure Rf.LedSafe (s t : Rf) : Prop where
  led : t.led = s.led ∨ t.led = { s.led with lastLedSent := 0xFF }
  waits : t.tmos.waits .notifyLed = s.tmos.waits .notifyLed
  handed : t.ledsHanded = s.ledsHanded
  armed : s.tmos.armed .notifyLed = false → t.tmos.armed .notifyLed = false

@[simp] theorem Rf.ledSafe_iff (s t : Rf) : s.LedSafe t ↔ (t.led = s.led ∨ t.led = { s.led with lastLedSent := 0xFF }) ∧
    t.tmos.waits .notifyLed = s.tmos.waits .notifyLed ∧ t.ledsHanded = s.ledsHanded ∧
    (s.tmos.armed .notifyLed = false → t.tmos.armed .notifyLed = false) :=
  ⟨fun h => ⟨h.led, h.waits, h.handed, h.armed⟩, fun ⟨h₁, h₂, h₃, h₄⟩ => ⟨h₁, h₂, h₃, h₄⟩⟩

/-- Every state that it changes it changes safely. -/
def LedSafeStatement (f : Rf → Rf) : Prop := ∀ s : Rf, s.LedSafe (f s)

/-- It is safe, and what the RF task sends comes after what it sent before. -/
def LedStatement (f : Rf → Rf) : Prop := ∀ s : Rf, s.LedSafe (f s) ∧ s.trace.uart <+: (f s).trace.uart

/-! ## The statements of the calls -/

theorem each_ledSafe {α : Type} {p : RfM α} (h : Each LedStatement p) : Each LedSafeStatement p := h.mono fun _ hf s => (hf s).1

section Calls

attribute [local simp] LedStatement Rf.ledsHanded

theorem each_led_frame (cmd sub : Byte) (payload : Report) : Each LedStatement (handleUartFrame cmd sub payload) := by
  have hselect (g : Bool → RfM Unit) (hg : ∀ a, Each LedStatement (g a)) : Each LedStatement (rfSelect2G4 >>= g) :=
    Each.bind (by simp) hg
  have hpair (g : Bool → RfM Unit) (hg : ∀ a, Each LedStatement (g a)) : Each LedStatement (rfEnterPairing >>= g) :=
    Each.bind (by simp) hg
  simp [-rfSelect2G4, -rfEnterPairing, hselect, hpair, handleUartFrame, handleCommand]

theorem each_led_tick : Each LedStatement rfConnectedTick := by simp

theorem each_led_resync : Each LedStatement rfLedResync := by simp

theorem each_led_takeDown : Each LedStatement takeDown := by simp

/-- The handlers but that of NOTIFY_LED. -/
theorem each_led_event {e : RfEvt} (he : e ≠ .notifyLed) : Each LedStatement (rfProcessEvent e) := by
  cases e with
  | notifyLed => exact absurd rfl he
  | _ => simp [rfProcessEvent]

end Calls

/-! ## Their runs -/

variable {w w' : LedWorld} {α : Type}

theorem Rf.LedSafe.step {t : Rf} (h : w.rf.LedSafe t) : ReflTransGen LedStep w { w with rf := t } := by
  rcases h.led with hled | hled
  · exact .single (.interrupt (.elsewhere t hled h.waits h.handed))
  · have hreset : LedStep w w.resync := .resync w
    have hrest : LedStep w.resync { w with rf := t } := .interrupt (.elsewhere (w := w.resync) t hled h.waits h.handed)
    exact (ReflTransGen.single hreset).tail hrest

/-- The timer of NOTIFY_LED never runs, so it does not expire. -/
theorem ledHears_interrupt (hi : LedHears w w') (h : w.rf.tmos.armed .notifyLed = false) :
    LedInterrupt w w' ∧ w'.rf.tmos.armed .notifyLed = false := by
  have htimers {t : Rf} (ht : t.tmos.timers = w.rf.tmos.timers) : t.tmos.armed .notifyLed = false := by
    rw [Tmos.armed, ht]
    exact h
  cases hi with
  | callback sta rsr rxBuf _ hb => exact ⟨.callback sta rsr rxBuf hb, htimers (w.rf.callback_timers sta rsr rxBuf)⟩
  | elsewhere he =>
    cases he with
    | tmr0Cycle => exact ⟨.elsewhere _ rfl rfl rfl, h⟩
    | tmr0Irq =>
      refine ⟨.elsewhere _ ?_ ?_ ?_, htimers w.rf.tmr0IRQHandler_timers⟩
      all_goals
        simp only [Rf.tmr0IRQHandler]
        repeat' split
      all_goals simp [Rf.setEvent, Rf.ledsHanded]
    | expire e =>
      refine ⟨.elsewhere _ rfl ?_ rfl, ?_⟩
      · by_cases he : e = .notifyLed
        · simp [he, h]
        · simp [Ne.symm he]
      · simp [h]
    | advance => exact ⟨.elsewhere _ rfl rfl rfl, h⟩
    | hardware => exact ⟨.elsewhere _ rfl rfl rfl, h⟩

/-- A program of safe statements. -/
theorem ledSafe_runs {p : RfM α} {a : α} (hp : Each LedSafeStatement p) (h : w.rf.tmos.armed .notifyLed = false)
    (hr : Prog.Runs LedHears (p.zoom LedWorld.rf fun s w => { w with rf := s }) w a w') :
    ReflTransGen LedStep w w' ∧ w'.rf.tmos.armed .notifyLed = false := by
  have hst : Stable LedHears fun v => ReflTransGen LedStep w v ∧ v.rf.tmos.armed .notifyLed = false := by
    intro v v' hi hv
    obtain ⟨hint, harmed⟩ := ledHears_interrupt hi hv.2
    exact ⟨hv.1.tail (.interrupt hint), harmed⟩
  refine Each.zoom hst (hp.mono fun f hf v hv => ?_) w a w' ⟨.refl, h⟩ hr
  exact ⟨hv.1.trans (hf v.rf).step, (hf v.rf).armed hv.2⟩

/-- A program that starts no timer of NOTIFY_LED is interrupted as `LedStep` has it. -/
theorem ledHears_runs {p : RfM α} {a : α}
    (hp : Each (fun f => ∀ s, s.tmos.armed .notifyLed = false → (f s).tmos.armed .notifyLed = false) p)
    (h : w.rf.tmos.armed .notifyLed = false) (hr : Prog.Runs LedHears (p.zoom LedWorld.rf fun s w => { w with rf := s }) w a w') :
    Prog.Runs LedInterrupt (p.zoom LedWorld.rf fun s w => { w with rf := s }) w a w' ∧ w'.rf.tmos.armed .notifyLed = false := by
  generalize hq : p.zoom LedWorld.rf (fun s w => { w with rf := s }) = q at hr ⊢
  induction hr generalizing p with
  | ret a w => exact ⟨.ret a w, h⟩
  | @stmt f next w a w' _ ih =>
    cases p with
    | ret a => cases hq
    | stmt f' next' =>
      injection hq with hf hn
      subst hf
      have hrest := ih (hp.2 w.rf) (hp.1 w.rf h) (congrFun hn w)
      exact ⟨.stmt hrest.1, hrest.2⟩
  | env hi _ ih =>
    obtain ⟨hint, harmed⟩ := ledHears_interrupt hi h
    have hrest := ih hp harmed hq
    exact ⟨.env hint hrest.1, hrest.2⟩

/-- The event that TMOS takes is handled: the handler of NOTIFY_LED is the only one that is not safe. -/
theorem ledHandle_runs {e : RfEvt} {s : Rf} (hnext : w.rf.tmos.next = some e) (h : w.rf.tmos.armed .notifyLed = false)
    (hs : s = { w.rf with tmos := w.rf.tmos.take e })
    (hr : Prog.Runs LedHears ((rfProcessEvent e).zoom LedWorld.rf fun s w => { w with rf := s }) { w with rf := s } () w') :
    ReflTransGen LedStep w w' ∧ w'.rf.tmos.armed .notifyLed = false := by
  subst hs
  by_cases he : e = .notifyLed
  · subst he
    obtain ⟨hrun, harmed⟩ := ledHears_runs (p := onNotifyLed) (by simp) (by exact h) hr
    have hwaits := Tmos.next_eq_some hnext
    exact ⟨.single (.notify (by simp [LedWorld.Quiet, hwaits]) (.stmt hrun)), harmed⟩
  · have hsafe : w.rf.LedSafe { w.rf with tmos := w.rf.tmos.take e } := by simp [Ne.symm he, Rf.ledsHanded]
    have hrest := ledSafe_runs (w := ⟨_, w.relayed⟩) (each_ledSafe (each_led_event he)) (hsafe.armed h) hr
    exact ⟨hsafe.step.trans hrest.1, hrest.2⟩

/-- A pass of TMOS. -/
theorem ledProcess_runs {u : Unit} (h : w.rf.tmos.armed .notifyLed = false)
    (hr : Prog.Runs LedHears (tmosProcess.zoom LedWorld.rf fun s w => { w with rf := s }) w u w') :
    ReflTransGen LedStep w w' ∧ w'.rf.tmos.armed .notifyLed = false := by
  generalize hq : tmosProcess.zoom LedWorld.rf (fun s w => { w with rf := s }) = q at hr
  induction hr with
  | ret _ _ => cases hq
  | env hi _ ih =>
    obtain ⟨hint, harmed⟩ := ledHears_interrupt hi h
    have hrest := ih harmed hq
    exact ⟨.head (.interrupt hint) hrest.1, hrest.2⟩
  | @stmt f next w _ w' hr _ =>
    injection hq with hf hn
    subst hf hn
    rcases hnext : w.rf.tmos.next with _ | e
    · simp only [hnext] at hr
      exact ledSafe_runs (p := pure ()) trivial h hr
    · simp only [hnext] at hr
      exact ledHandle_runs hnext h rfl hr

/-- A call of the main loop is a run of the steps. -/
theorem ledCall_runs (call : RfCall) (h : w.rf.tmos.armed .notifyLed = false)
    (hr : Prog.Runs LedHears (call.program.zoom LedWorld.rf fun s w => { w with rf := s }) w () w') :
    ReflTransGen LedStep w w' ∧ w'.rf.tmos.armed .notifyLed = false := by
  cases call with
  | frame cmd sub payload => exact ledSafe_runs (each_ledSafe (each_led_frame cmd sub payload)) h hr
  | process => exact ledProcess_runs h hr
  | connectedTick => exact ledSafe_runs (each_ledSafe each_led_tick) h hr
  | ledResync => exact ledSafe_runs (each_ledSafe each_led_resync) h hr
  | quiesce => exact ledSafe_runs (each_ledSafe each_led_takeDown) h hr
  | other => exact ledSafe_runs (p := pure ()) trivial h hr

theorem LedInterleaved.reached_armed (h : LedInterleaved w) : LedReached w ∧ w.rf.tmos.armed .notifyLed = false := by
  induction h with
  | init hboot =>
    obtain ⟨⟨mac, macValid, flash, hw, hs⟩, hrel⟩ := hboot
    have hquiet (searches : Prop) [Decidable searches] :
        (if searches then Tmos.init.setEvent .pairBcast else Tmos.init.setEvent .start).waits .notifyLed = false ∧
          (if searches then Tmos.init.setEvent .pairBcast else Tmos.init.setEvent .start).armed .notifyLed = false := by
      split <;> decide
    refine ⟨⟨_, ⟨?_, ?_, ?_, hrel⟩, .refl⟩, ?_⟩
    · rw [hs]
      rfl
    · rw [LedWorld.Quiet, hs]
      exact (hquiet _).1
    · rw [hs]
      rfl
    · rw [hs]
      exact (hquiet _).2
  | step call _ hr ih =>
    obtain ⟨hrun, harmed⟩ := ledCall_runs call ih.2 hr
    obtain ⟨w₀, hboot, hpath⟩ := ih.1
    exact ⟨⟨w₀, hboot, hpath.trans hrun⟩, harmed⟩

end OpenController
