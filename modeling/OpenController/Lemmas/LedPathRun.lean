import OpenController.LedPath
import OpenController.RfSleep
import OpenController.Lemmas.LedRelayCalls
import OpenController.Lemmas.HostWakeLedRun

/-!
# The way of an LED byte, statement by statement

What host wake showed fits the bytes that the RF task handed over, and a value that was lost is on record: host wake says so, or
the RF task has forgotten what it handed over.
-/

namespace OpenController

open Prog Relation RfStatements

/-! ## Host wake -/

/-- The LED bytes among what was sent. -/
def ledBytes (outs : List UartOut) : List Byte :=
  outs.filterMap fun o => match o with
    | .led b => some b
    | _ => none

/-- Host wake after the bytes that were handed over: it holds the last one as the newest value, and if that is lost, it says so or
it was forgotten. -/
structure LedPath.PortOk (g t : Fin 4294967296) (m : Fin 256) (handed : List Byte) (forgotten : Prop) (w : LedPath) : Prop where
  run : HostWake.LedRun g t m w.hw w.evs
  newest : (ledSlot w.evs).newest = handed.getLast?.map (Frame.mk 0x5A)
  lost : (ledSlot w.evs).fate = .lost → lostFlag w.evs = true ∨ forgotten

/-- Only an event that raises the flag makes a value lost. -/
theorem fate_shown {s : LedSlot} {e : HostWakeEvent} (h : (s.note (.shown e)).fate = .lost) : s.fate = .lost := by
  cases e with
  | copy f led first =>
    cases led <;> cases first <;> simp only [LedSlot.note] at h
    all_goals first
      | exact h
      | split at h
        · cases h
        · exact h
  | retired led abandoned =>
    cases led <;> simp only [LedSlot.note] at h
    · exact h
    · repeat' split at h
      all_goals first
        | exact h
        | cases h
  | ledSet f => cases h
  | _ => exact h

theorem lost_snoc {evs : List LedEvent} {e : LedEvent} {forgotten : Prop} (he : e ≠ .cleared)
    (h : (ledSlot evs).fate = .lost → lostFlag evs = true ∨ forgotten) :
    (ledSlot (evs ++ [e])).fate = .lost → lostFlag (evs ++ [e]) = true ∨ forgotten := by
  intro hfate
  cases e with
  | shown e =>
    rw [ledSlot_snoc] at hfate
    rw [HostWake.lostFlag_shown]
    exact h (fate_shown hfate)
  | raised => exact .inl (HostWake.lostFlag_raised evs)
  | cleared => exact absurd rfl he

/-- An event that sets no value leaves the newest one. -/
theorem newest_note {s : LedSlot} {e : LedEvent} (he : ∀ f, e ≠ .shown (.ledSet f)) : (s.note e).newest = s.newest := by
  cases e with
  | shown e =>
    cases e with
    | ledSet f => exact absurd rfl (he f)
    | copy f led first => cases led <;> cases first <;> rfl
    | retired led abandoned => cases led <;> rfl
    | _ => rfl
  | _ => rfl

/-- A step sets no value and clears no flag. -/
theorem HostWake.ledEvents_spec {hw : HostWake} {now : Nat} {e : LedEvent} (he : e ∈ hw.ledEvents now) :
    e ≠ .cleared ∧ ∀ f, e ≠ .shown (.ledSet f) := by
  rcases List.mem_append.mp he with he | he
  · obtain ⟨e', he', rfl⟩ := List.mem_map.mp he
    refine ⟨nofun, fun f hf => ?_⟩
    obtain rfl : e' = .ledSet f := by injection hf
    rcases List.mem_append.mp he' with he' | he'
    all_goals
      split at he'
      · cases List.mem_singleton.mp he'
      · cases he'
  · split at he
    · obtain rfl := List.mem_singleton.mp he
      exact ⟨nofun, nofun⟩
    · cases he

/-- When host wake is idle, the newest value was ACKed, or it was lost. -/
theorem HostWake.fate_idle {hw : HostWake} {evs : List LedEvent} (h : LedInv hw evs) (hidle : hw.isIdle = true) :
    (ledSlot evs).newest = none ∨ (ledSlot evs).fate = .acked ∨ (ledSlot evs).fate = .lost := by
  rw [isIdle, Bool.and_eq_true, decide_eq_true_eq, Bool.not_eq_true', havePending, Bool.or_eq_false_iff] at hidle
  obtain ⟨hstate, -, hnone⟩ := hidle
  cases hf : (ledSlot evs).fate with
  | unset => exact .inl (h.slot.unset hf)
  | pending => exact absurd ((h.slot.pending.mp hf).symm.trans hnone) (by decide)
  | out => exact absurd ((h.slot.out hf).1.symm.trans hstate) (by decide)
  | acked => exact .inr (.inl rfl)
  | abandoned => exact absurd hf h.slot.kept
  | lost => exact .inr (.inr rfl)

namespace LedPath

variable {g t : Fin 4294967296} {m : Fin 256} {handed : List Byte} {forgotten : Prop} {w w' : LedPath}

theorem PortOk.mono {forgotten' : Prop} (h : PortOk g t m handed forgotten w) (hf : forgotten → forgotten') :
    PortOk g t m handed forgotten' w :=
  ⟨h.run, h.newest, fun hl => (h.lost hl).imp_right hf⟩

theorem led_put (w : LedPath) (o : UartOut) : (w.put o).led = w.led := by
  cases o <;> rfl

/-- What is sent goes to host wake. -/
theorem portOk_put (h : PortOk g t m handed forgotten w) (o : UartOut) : PortOk g t m (handed ++ ledBytes [o]) forgotten (w.put o) := by
  have hframe (cmd b : Byte) : (ledSlot (w.evs ++ [.shown (w.hw.enqueueEvent cmd b)])).newest = (ledSlot w.evs).newest := by
    rw [ledSlot_snoc]
    refine newest_note fun f hf => ?_
    unfold HostWake.enqueueEvent at hf
    split at hf <;> cases hf
  cases o with
  | status b =>
    have hnone : handed ++ ledBytes [.status b] = handed := List.append_nil handed
    rw [hnone]
    exact ⟨.enqueue 0x5B b h.run, (hframe 0x5B b).trans h.newest, lost_snoc nofun h.lost⟩
  | battery b =>
    have hnone : handed ++ ledBytes [.battery b] = handed := List.append_nil handed
    rw [hnone]
    exact ⟨.enqueue 0x5C b h.run, (hframe 0x5C b).trans h.newest, lost_snoc nofun h.lost⟩
  | led b =>
    refine ⟨.setLatest 0x5A b h.run, ?_, lost_snoc nofun h.lost⟩
    change (ledSlot (w.evs ++ [.shown (.ledSet ⟨0x5A, b⟩)])).newest = _
    rw [ledSlot_snoc]
    simp [LedSlot.note, ledBytes]

theorem portOk_puts (outs : List UartOut) (h : PortOk g t m handed forgotten w) :
    PortOk g t m (handed ++ ledBytes outs) forgotten (outs.foldl put w) := by
  induction outs generalizing handed w with
  | nil =>
    rw [ledBytes, List.filterMap_nil, List.append_nil]
    exact h
  | cons o outs ih =>
    have hcons : ledBytes (o :: outs) = ledBytes [o] ++ ledBytes outs := List.filterMap_append (l := [o])
    rw [hcons, ← List.append_assoc]
    exact ih (portOk_put h o)

/-- The RF task has sent more. -/
theorem portOk_watch {v : LedWorld} (hv : w.led.rf.trace.uart <+: v.rf.trace.uart)
    (h : PortOk g t m w.led.rf.ledsHanded forgotten w) : PortOk g t m v.rf.ledsHanded forgotten (watch v w) := by
  obtain ⟨outs, houts⟩ := hv
  have hdrop : v.rf.trace.uart.drop w.led.rf.trace.uart.length = outs := by rw [← houts, List.drop_left]
  have hhanded : v.rf.ledsHanded = w.led.rf.ledsHanded ++ ledBytes outs := by
    rw [Rf.ledsHanded, ← houts, List.filterMap_append]
    rfl
  have hputs := portOk_puts outs h
  rw [hhanded, watch, hdrop]
  exact ⟨hputs.run, hputs.newest, hputs.lost⟩

theorem portOk_events (forgotten : Prop) (evs : List LedEvent) {l : List LedEvent}
    (hl : ∀ e ∈ l, e ≠ .cleared ∧ ∀ f, e ≠ .shown (.ledSet f)) :
    (ledSlot (evs ++ l)).newest = (ledSlot evs).newest ∧
      (((ledSlot evs).fate = .lost → lostFlag evs = true ∨ forgotten) →
        (ledSlot (evs ++ l)).fate = .lost → lostFlag (evs ++ l) = true ∨ forgotten) := by
  induction l using List.reverseRecOn with
  | nil => exact ⟨by rw [List.append_nil], fun h => by rwa [List.append_nil]⟩
  | append_singleton l e ih =>
    obtain ⟨hnewest, hlost⟩ := ih fun e he => hl e (List.mem_append_left _ he)
    have he := hl e (List.mem_append_right _ (List.mem_singleton_self e))
    rw [← List.append_assoc]
    refine ⟨?_, fun h => lost_snoc he.1 (hlost h)⟩
    rw [ledSlot_snoc, newest_note he.2, hnewest]

theorem portOk_service (h : PortOk g t m handed forgotten w) (now : Fin 4294967296) :
    PortOk g t m handed forgotten { w with hw := (w.hw.step now).1, evs := w.evs ++ w.hw.ledEvents now } := by
  obtain ⟨hnewest, hlost⟩ := portOk_events forgotten w.evs fun _ he => HostWake.ledEvents_spec he
  exact ⟨.step now h.run, hnewest.trans h.newest, hlost h.lost⟩

end LedPath

/-! ## The statements of the calls -/

/-- What the RF task sends comes after what it sent before, and it stays unknown which byte was handed over last. -/
def LedForgetful (f : Rf → Rf) : Prop :=
  ∀ s : Rf, s.trace.uart <+: (f s).trace.uart ∧ (s.led.lastLedSent = 0xFF → (f s).led.lastLedSent = 0xFF)

/-- The byte handed over last is forgotten at most. -/
theorem each_ledForgetful {p : RfM α} (h : Each LedStatement p) : Each LedForgetful p := by
  refine h.mono fun f hf s => ⟨(hf s).2, fun hlast => ?_⟩
  rcases (hf s).1.led with hled | hled
  · rw [hled]
    exact hlast
  · rw [hled]

/-! ## The calls -/

/-- Neither a packet nor a timer hands a byte over. -/
theorem LedHears.handed {w v : LedWorld} (h : LedHears w v) :
    v.rf.ledsHanded = w.rf.ledsHanded ∧ v.rf.led.lastLedSent = w.rf.led.lastLedSent := by
  cases h with
  | callback sta rsr rxBuf _ _ =>
    rcases w.rf.led_callback sta rsr rxBuf with ⟨-, hstill⟩ | ⟨b, -, hrelay⟩
    · exact ⟨hstill.handed, congrArg RfLed.lastLedSent hstill.led⟩
    · exact ⟨hrelay.handed, by rw [hrelay.led]⟩
  | elsewhere he =>
    cases he with
    | tmr0Irq =>
      simp only [Rf.tmr0IRQHandler]
      repeat' split
      all_goals exact ⟨rfl, rfl⟩
    | _ => exact ⟨rfl, rfl⟩

namespace LedPath

/-- Host wake fits the RF task. `told`: the flag of a lost value was cleared, and the RF task is about to forget. -/
def Ok (g t : Fin 4294967296) (m : Fin 256) (told : Bool) (w : LedPath) : Prop :=
  PortOk g t m w.led.rf.ledsHanded (told = true ∨ w.led.rf.led.lastLedSent = 0xFF) w

variable {g t : Fin 4294967296} {m : Fin 256} {told : Bool} {w : LedPath} {α : Type}

theorem watch_self (w : LedPath) : watch w.led w = w := by
  rw [watch, List.drop_length]
  rfl

theorem onLedPath_read (r : Rf → α) : onLedPath (.read r) = .read fun w => r w.led.rf := by
  rw [onLedPath, zoom_read (fun _ => rfl), zoom_read watch_self]

theorem onLedPath_bind {β : Type} (p : RfM α) (q : α → RfM β) : onLedPath (p >>= q) = onLedPath p >>= fun a => onLedPath (q a) := by
  rw [onLedPath, zoom_bind, zoom_bind]
  rfl

theorem stable_ok : Stable LedPathHears (Ok g t m told) := by
  intro w w' hi h
  cases hi with
  | hears hv =>
    obtain ⟨hhanded, hlast⟩ := hv.handed
    refine ⟨h.run, h.newest.trans (by rw [hhanded]), fun hfate => ?_⟩
    rw [hlast]
    exact h.lost hfate

theorem ok_forgetful {f : Rf → Rf} (hf : LedForgetful f) (h : Ok g t m told w) :
    Ok g t m told (watch { w.led with rf := f w.led.rf } w) := by
  obtain ⟨hsent, hforgets⟩ := hf w.led.rf
  exact (portOk_watch (v := { w.led with rf := f w.led.rf }) hsent h).mono fun hk => hk.imp_right hforgets

theorem kept_forgetful {p : RfM α} (hp : Each LedForgetful p) : Kept LedPathHears (Ok g t m told) (onLedPath p) :=
  Each.zoom stable_ok (Each.on (hp.mono fun _ hf _ h => ok_forgetful hf h))

/-- The handler stores the byte that it handed over while host wake has it pending. -/
theorem kept_onNotifyLed : Kept LedPathHears (Ok g t m told) (onLedPath onNotifyLed) := by
  have hpending : Stable LedPathHears fun w => Ok g t m told w ∧ (ledSlot w.evs).fate = .pending := by
    intro w w' hi h
    refine ⟨stable_ok w w' hi h.1, ?_⟩
    cases hi with
    | hears _ => exact h.2
  have hsend (led : Byte) : Triple LedPathHears (Ok g t m told) (onLedPath (keyboardUartSendLed led)) fun _ w =>
      Ok g t m told w ∧ (ledSlot w.evs).fate = .pending := by
    refine Triple.modify stable_ok hpending fun w h => ⟨ok_forgetful (f := (·.out (.led led))) (by simp [LedForgetful]) h, ?_⟩
    simp [watch, Rf.out, put, LedSlot.note]
  have hstore (led : Byte) : Triple LedPathHears (fun w => Ok g t m told w ∧ (ledSlot w.evs).fate = .pending)
      (onLedPath (.modify fun s => { s with led := { s.led with lastLedSent := led } })) fun _ => Ok g t m told := by
    refine Triple.modify hpending stable_ok fun w hw => ?_
    obtain ⟨h, hfate⟩ := hw
    have hport := portOk_watch (v := { w.led with rf := { w.led.rf with led := { w.led.rf.led with lastLedSent := led } } })
      (List.prefix_refl _) h
    refine ⟨hport.run, hport.newest, fun hlost => ?_⟩
    have hsame : (watch { w.led with rf := { w.led.rf with led := { w.led.rf.led with lastLedSent := led } } } w).evs = w.evs := by
      simp [watch]
    rw [hsame, hfate] at hlost
    cases hlost
  rw [onNotifyLed, onLedPath_bind, onLedPath_read]
  refine (Kept.read stable_ok _).bind fun led => ?_
  rw [onLedPath_bind, onLedPath_read]
  refine (Kept.read stable_ok _).bind fun last => ?_
  rw [whenever, onLedPath, zoom_ite, zoom_ite]
  refine Kept.ite (fun _ => ?_) fun _ => Kept.pure stable_ok ()
  change Kept _ _ (onLedPath _)
  rw [onLedPath_bind]
  refine (hsend led).bind fun _ => ?_
  rw [onLedPath_bind]
  exact (hstore led).bind fun _ => kept_forgetful (by simp [LedForgetful])

/-- A pass of TMOS. -/
theorem kept_process : Kept LedPathHears (Ok g t m told) (onLedPath tmosProcess) := by
  rw [tmosProcess_eq, onLedPath_bind]
  refine Kept.bind (kept_forgetful (by simp [tmosTake, LedForgetful])) fun next => ?_
  cases next with
  | none => exact Kept.pure stable_ok ()
  | some e =>
    by_cases he : e = .notifyLed
    · exact he ▸ kept_onNotifyLed
    · exact kept_forgetful (each_ledForgetful (each_led_event he))

theorem kept_rf (call : RfCall) : Kept LedPathHears (Ok g t m told) (onLedPath call.program) := by
  cases call with
  | frame cmd sub payload => exact kept_forgetful (each_ledForgetful (each_led_frame cmd sub payload))
  | process => exact kept_process
  | connectedTick => exact kept_forgetful (each_ledForgetful each_led_tick)
  | ledResync => exact kept_forgetful (each_ledForgetful each_led_resync)
  | quiesce => exact kept_forgetful (each_ledForgetful each_led_takeDown)
  | other => exact Kept.pure stable_ok ()

/-- A value is lost, `latest_lost` says so and is cleared, and then the RF task forgets what it handed over. -/
theorem kept_takeLedLost : Kept LedPathHears (Ok g t m false) takeLedLost := by
  have hlost (lost : Bool) : Stable LedPathHears fun w => Ok g t m false w ∧ w.hw.latestLost = lost := by
    intro w w' hi h
    refine ⟨stable_ok w w' hi h.1, ?_⟩
    cases hi with
    | hears _ => exact h.2
  have hread : Triple LedPathHears (Ok g t m false) (.read fun w => w.hw.latestLost) fun lost w =>
      Ok g t m false w ∧ w.hw.latestLost = lost := Triple.read stable_ok hlost fun _ h => ⟨h, rfl⟩
  have hclear (lost : Bool) : Triple LedPathHears (fun w => Ok g t m false w ∧ w.hw.latestLost = lost)
      (.modify fun w => { w with hw := w.hw.clearLost, evs := w.evs ++ [.cleared] }) fun _ => Ok g t m lost := by
    refine Triple.modify (hlost lost) stable_ok fun w ⟨h, hflag⟩ => ?_
    refine ⟨.clearLost h.run, ?_, fun hfate => .inr ?_⟩
    · rw [ledSlot_snoc, newest_note (e := .cleared) fun _ => nofun]
      exact h.newest
    · rw [ledSlot_snoc] at hfate
      rw [← hflag, (HostWake.ledRun_inv h.run).flag]
      exact (h.lost hfate).imp_right fun hk => hk.resolve_left nofun
  refine hread.bind fun lost => (hclear lost).bind fun _ => Triple.ite (fun _ => ?_) fun hno => ?_
  · refine Triple.modify stable_ok stable_ok fun w h => ?_
    have hport := portOk_watch (v := { w.led with rf := { w.led.rf with led := { w.led.rf.led with lastLedSent := 0xFF } } })
      (List.prefix_refl _) h
    exact hport.mono fun _ => .inr rfl
  · obtain rfl : lost = false := Bool.eq_false_of_not_eq_true hno
    exact Kept.pure stable_ok ()

theorem kept_program (call : LedPathCall) : Kept LedPathHears (Ok g t m false) call.program := by
  cases call with
  | rf call _ => exact kept_rf call
  | send o h =>
    refine Kept.modify stable_ok fun w hw => ?_
    have hnone : w.led.rf.ledsHanded ++ ledBytes [o] = w.led.rf.ledsHanded := by
      cases o with
      | led b => exact absurd rfl (h b)
      | _ => exact List.append_nil _
    have hport := portOk_put hw o
    rw [hnone] at hport
    rw [Ok, led_put]
    exact hport
  | ack =>
    refine Kept.modify stable_ok fun w h => ⟨.onAck h.run, ?_, lost_snoc nofun h.lost⟩
    rw [ledSlot_snoc, newest_note (e := .shown .ack) fun _ => nofun]
    exact h.newest
  | service now => exact Kept.modify stable_ok fun w h => portOk_service h now
  | takeLedLost => exact kept_takeLedLost

/-! ## Runs -/

/-- What the RF task does is a run of it alone. -/
theorem runs_led {p : RfM α} {a : α} {w' : LedPath} (h : Prog.Runs LedPathHears (onLedPath p) w a w') :
    Prog.Runs LedHears (p.zoom LedWorld.rf fun s w => { w with rf := s }) w.led a w'.led := by
  refine Runs.of_zoom (fun _ _ => rfl) (fun w v hi => ?_) h
  cases hi with
  | hears hv => exact .inr hv

/-- The RF task is where its own runs lead, and the timer of NOTIFY_LED does not run. -/
def Reached (w : LedPath) : Prop := LedReached w.led ∧ w.led.rf.tmos.armed .notifyLed = false

theorem stable_reached : Stable LedPathHears Reached := by
  intro w w' hi ⟨⟨w₀, hboot, hpath⟩, harmed⟩
  cases hi with
  | hears hv =>
    obtain ⟨hint, harmed'⟩ := ledHears_interrupt hv harmed
    exact ⟨⟨w₀, hboot, hpath.tail (.interrupt hint)⟩, harmed'⟩

theorem reached_rf (call : RfCall) : Kept LedPathHears Reached (onLedPath call.program) := by
  intro w _ w' ⟨⟨w₀, hboot, hpath⟩, harmed⟩ hr
  obtain ⟨hrun, harmed'⟩ := ledCall_runs call harmed (runs_led hr)
  exact ⟨⟨w₀, hboot, hpath.trans hrun⟩, harmed'⟩

theorem reached_program (call : LedPathCall) : Kept LedPathHears Reached call.program := by
  cases call with
  | rf call _ => exact reached_rf call
  | send o _ =>
    refine Kept.modify stable_reached fun w h => ?_
    rw [Reached, led_put]
    exact h
  | ack | service _ => exact Kept.modify stable_reached fun _ h => h
  | takeLedLost =>
    refine (Kept.read stable_reached _).bind fun lost => Kept.bind (Kept.modify stable_reached fun _ h => ?_) fun _ => ?_
    · exact h
    · exact Kept.ite (fun _ => reached_rf .ledResync) fun _ => Kept.pure stable_reached ()

/-- Between two calls of the main loop. -/
theorem ok_run (h : LedPathRun g t m w) : Reached w ∧ Ok g t m false w := by
  refine Reach.invariant (I := fun w => Reached w ∧ Ok g t m false w) ?_ ?_ h
  · rintro w ⟨rf, hboot, rfl⟩
    have hreached : LedReached ⟨rf, []⟩ ∧ rf.tmos.armed .notifyLed = false := LedInterleaved.reached_armed (.init ⟨hboot, rfl⟩)
    have hnone : rf.ledsHanded = [] := by
      obtain ⟨mac, macValid, flash, hw, rfl⟩ := hboot
      rfl
    refine ⟨hreached, .init, ?_, nofun⟩
    change _ = rf.ledsHanded.getLast?.map _
    rw [hnone]
    rfl
  · intro call w w' _ ⟨hreached, hok⟩ hr
    exact ⟨reached_program call w () w' hreached hr, kept_program call w () w' hok hr⟩

end LedPath

end OpenController
