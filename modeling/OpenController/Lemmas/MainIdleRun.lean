import OpenController.MainIdle

/-!
# What the idle wait knows

What is known before each statement of the idle wait, and that every step keeps it. A wake source that shows something after it was
looked at became pending since, and has set the event latch.
-/

namespace OpenController

/-- Interrupts are masked before the statement. -/
def IdlePc.masked : IdlePc → Bool
  | .loop | .mask => false
  | _ => true

/-- SEVONPEND is set. -/
def IdlePc.armed : IdlePc → Bool
  | .loop | .mask | .armShallow | .armEvent | .unmask => false
  | _ => true

/-- WFE mode is set. -/
def IdlePc.wfeMode : IdlePc → Bool
  | .drain | .checkRx | .checkFifo | .checkUpdate | .checkHeartbeat | .wait => true
  | _ => false

/-- SEVONPEND is set only inside of the mask. -/
theorem IdlePc.masked_of_armed {pc : IdlePc} (h : pc.armed = true) : pc.masked = true := by
  cases pc <;> first | rfl | cases h

namespace Idle

variable {s : Idle}

/-- The receive path was quiet, and the core has not gone on since. -/
def knowsRx (s : Idle) : Bool :=
  match s.pc with
  | .checkFifo | .checkUpdate | .checkHeartbeat | .wait => true
  | .disarm => s.core != .runs
  | _ => false

/-- The FIFO was empty. -/
def knowsFifo (s : Idle) : Bool :=
  match s.pc with
  | .checkUpdate | .checkHeartbeat | .wait => true
  | .disarm => s.core != .runs
  | _ => false

/-- The heartbeat's flag was clear. -/
def knowsHeartbeat (s : Idle) : Bool :=
  match s.pc with
  | .wait => true
  | .disarm => s.core != .runs
  | _ => false

/-- What holds before each statement. -/
structure Ok (s : Idle) : Prop where
  overrun : s.overErr = true → s.fifo ≠ []
  core : s.core = .runs ∨ s.core = .waitsForEvent ∧ s.pc = .disarm ∧ s.sleepDeep = false
  masked : s.masked = s.pc.masked
  irqState : s.pc.masked = true → s.irqState = true
  may : s.pc ≠ .loop → s.mayIdle = true
  shallow : s.pc.armed = true ∨ s.pc = .armEvent → s.sleepDeep = false
  armed : s.pc.armed = true → s.sevOnPend = true
  wfe : s.pc.wfeMode = true → s.wfeMode = true
  drains : s.pc = .drain → s.event = true
  rx : s.knowsRx = true → s.rx.rxQuiet = true
  fifo : s.knowsFifo = true → s.event = true ∨ s.fifo = []
  heartbeat : s.knowsHeartbeat = true → s.event = true ∨ s.tmr3Flag = false

/-- Before the mask nothing is known but that the core runs with interrupts enabled. -/
theorem ok_outside (hpc : s.pc.masked = false) (hover : s.overErr = true → s.fifo ≠ []) (hcore : s.core = .runs)
    (hm : s.masked = false) (hmay : s.pc ≠ .loop → s.mayIdle = true) : s.Ok := by
  have hknows : s.pc = .loop ∨ s.pc = .mask := by
    cases hs : s.pc <;> rw [hs] at hpc <;> first | exact .inl rfl | exact .inr rfl | cases hpc
  refine ⟨hover, .inl hcore, hm.trans hpc.symm, fun h => ?_, hmay, ?_, ?_, ?_, ?_, ?_, ?_, ?_⟩
  · rw [hpc] at h
    cases h
  all_goals rcases hknows with hs | hs
  all_goals
    simp only [knowsRx, knowsFifo, knowsHeartbeat, hs]
    exact nofun

theorem ok_start (rx : UartRx Byte) : (Idle.start rx).Ok := ok_outside rfl nofun rfl rfl (absurd rfl ·)

/-- Outside of the wait nothing is known but that the core runs with interrupts enabled. -/
theorem ok_loop (hpc : s.pc = .loop) (hover : s.overErr = true → s.fifo ≠ []) (hcore : s.core = .runs) (hm : s.masked = false) :
    s.Ok :=
  ok_outside (by rw [hpc]; rfl) hover hcore hm (absurd hpc ·)

theorem Ok.loop_core (h : s.Ok) (hpc : s.pc = .loop) : s.core = .runs := by
  rcases h.core with hc | ⟨_, hd, _⟩
  · exact hc
  · rw [hpc] at hd
    cases hd

theorem Ok.loop_masked (h : s.Ok) (hpc : s.pc = .loop) : s.masked = false := by
  rw [h.masked, hpc]
  rfl

theorem ok_enter (h : s.Ok) (hpc : s.pc = .loop) (hmay : s.mayIdle = true) : Ok { s with pc := .mask } :=
  ok_outside rfl h.overrun (h.loop_core hpc) (h.loop_masked hpc) fun _ => hmay

/-- Inside of the mask, interrupts were enabled before it, and the loop looked at what it looks at. -/
theorem Ok.within (h : s.Ok) (hpc : s.pc.masked = true) : s.masked = true ∧ s.irqState = true ∧ s.mayIdle = true := by
  refine ⟨h.masked.trans hpc, h.irqState hpc, h.may fun hloop => ?_⟩
  rw [hloop] at hpc
  cases hpc

/-! ## The statements -/

/-- A wake source showed something. -/
theorem ok_leave (h : s.Ok) (hcore : s.core = .runs) (harm : s.pc.armed = true) : Ok { s with pc := .disarm } := by
  obtain ⟨hm, hirq, hmay⟩ := h.within (IdlePc.masked_of_armed harm)
  have hforgets : ¬(s.core != .runs) = true := by simp [hcore]
  exact ⟨h.overrun, .inl hcore, hm, fun _ => hirq, fun _ => hmay, fun _ => h.shallow (.inl harm), fun _ => h.armed harm, nofun, nofun,
    (absurd · hforgets), (absurd · hforgets), (absurd · hforgets)⟩

/-- A wake source is looked at: what it shows decides. -/
theorem ok_check {quiet : Bool} {next : IdlePc} (h : s.Ok) (hcore : s.core = .runs) (harm : s.pc.armed = true)
    (hstep : s.step = s.check quiet next) (hnext : quiet = true → Ok { s with pc := next }) : s.step.Ok := by
  rw [hstep, check]
  cases quiet with
  | true => exact hnext rfl
  | false => exact ok_leave h hcore harm

/-- `wfi` with the latch set goes on at once, and clears it. -/
theorem wfi_latched (hwfe : s.wfeMode = true) (he : s.event = true) (next : IdlePc) :
    s.wfi next = { s with pc := next, wfeMode := false, event := false } := by
  rw [wfi, if_pos hwfe, if_pos he]

/-- `wfi` with the latch clear waits. -/
theorem wfi_clear (hwfe : s.wfeMode = true) (he : s.event = false) (next : IdlePc) :
    s.wfi next = { s with pc := next, wfeMode := false, core := .waitsForEvent } := by
  rw [wfi, if_pos hwfe, if_neg (by simp [he])]

theorem ok_step (h : s.Ok) (hcore : s.core = .runs) : s.step.Ok := by
  cases hpc : s.pc with
  | loop =>
    rw [show s.step = s by rw [step, hpc]]
    exact h
  | mask =>
    rw [step, hpc]
    exact ⟨h.overrun, .inl hcore, rfl, fun _ => by rw [h.masked, hpc]; rfl, fun _ => h.may (by rw [hpc]; nofun),
      nofun, nofun, nofun, nofun, nofun, nofun, nofun⟩
  | armShallow =>
    obtain ⟨hm, hirq, hmay⟩ := h.within (by rw [hpc]; rfl)
    rw [step, hpc]
    exact ⟨h.overrun, .inl hcore, hm, fun _ => hirq, fun _ => hmay, fun _ => rfl, nofun, nofun, nofun, nofun, nofun, nofun⟩
  | armEvent =>
    obtain ⟨hm, hirq, hmay⟩ := h.within (by rw [hpc]; rfl)
    have hdeep := h.shallow (.inr hpc)
    rw [step, hpc]
    exact ⟨h.overrun, .inl hcore, hm, fun _ => hirq, fun _ => hmay, fun _ => hdeep, fun _ => rfl, fun _ => rfl, fun _ => rfl, nofun,
      nofun, nofun⟩
  | drain =>
    obtain ⟨hm, hirq, hmay⟩ := h.within (by rw [hpc]; rfl)
    have harm : s.pc.armed = true := by rw [hpc]; rfl
    have hgoes : s.step = { s with pc := .rearm, wfeMode := false, event := false } := by
      rw [step, hpc]
      exact wfi_latched (h.wfe (by rw [hpc]; rfl)) (h.drains hpc) .rearm
    rw [hgoes]
    exact ⟨h.overrun, .inl hcore, hm, fun _ => hirq, fun _ => hmay, fun _ => h.shallow (.inl harm), fun _ => h.armed harm, nofun, nofun,
      nofun, nofun, nofun⟩
  | rearm =>
    obtain ⟨hm, hirq, hmay⟩ := h.within (by rw [hpc]; rfl)
    have harm : s.pc.armed = true := by rw [hpc]; rfl
    rw [step, hpc]
    exact ⟨h.overrun, .inl hcore, hm, fun _ => hirq, fun _ => hmay, fun _ => h.shallow (.inl harm), fun _ => h.armed harm,
      fun _ => rfl, nofun, nofun, nofun, nofun⟩
  | checkRx | checkFifo | checkUpdate | checkHeartbeat =>
    obtain ⟨hm, hirq, hmay⟩ := h.within (by rw [hpc]; rfl)
    have harm : s.pc.armed = true := by rw [hpc]; rfl
    have hwfe : s.wfeMode = true := h.wfe (by rw [hpc]; rfl)
    -- what the looks before this one have shown is still known
    have hrx := h.rx
    have hfifo := h.fifo
    rw [knowsRx, hpc] at hrx
    rw [knowsFifo, hpc] at hfifo
    refine ok_check h hcore harm (by rw [step, hpc]) fun hquiet => ?_
    refine ⟨h.overrun, .inl hcore, hm, fun _ => hirq, fun _ => hmay, fun _ => h.shallow (.inl harm), fun _ => h.armed harm,
      fun _ => hwfe, nofun, ?_, ?_, ?_⟩
    all_goals first | exact fun _ => hquiet | exact hrx | exact hfifo | exact fun _ => .inr (by simpa using hquiet) | exact nofun
  | wait =>
    obtain ⟨hm, hirq, hmay⟩ := h.within (by rw [hpc]; rfl)
    have harm : s.pc.armed = true := by rw [hpc]; rfl
    have hwfe : s.wfeMode = true := h.wfe (by rw [hpc]; rfl)
    have hstep : s.step = s.wfi .disarm := by rw [step, hpc]
    rw [hstep]
    cases he : s.event with
    | true =>
      rw [wfi_latched hwfe he]
      have hforgets : ¬(s.core != .runs) = true := by simp [hcore]
      exact ⟨h.overrun, .inl hcore, hm, fun _ => hirq, fun _ => hmay, fun _ => h.shallow (.inl harm), fun _ => h.armed harm, nofun,
        nofun, (absurd · hforgets), (absurd · hforgets), (absurd · hforgets)⟩
    | false =>
      rw [wfi_clear hwfe he]
      have hdeep := h.shallow (.inl harm)
      exact ⟨h.overrun, .inr ⟨rfl, rfl, hdeep⟩, hm, fun _ => hirq, fun _ => hmay, fun _ => hdeep, fun _ => h.armed harm, nofun, nofun,
        fun _ => h.rx (by rw [knowsRx, hpc]), fun _ => h.fifo (by rw [knowsFifo, hpc]),
        fun _ => h.heartbeat (by rw [knowsHeartbeat, hpc])⟩
  | disarm =>
    obtain ⟨hm, hirq, hmay⟩ := h.within (by rw [hpc]; rfl)
    rw [step, hpc]
    exact ⟨h.overrun, .inl hcore, hm, fun _ => hirq, fun _ => hmay, nofun, nofun, nofun, nofun, nofun, nofun, nofun⟩
  | unmask =>
    have hirq := h.irqState (by rw [hpc]; rfl)
    exact ok_loop (by rw [step, hpc]) (by rw [step, hpc]; exact h.overrun) (by rw [step, hpc]; exact hcore)
      (by rw [step, hpc, hirq]; exact Bool.and_false _)

/-! ## The hardware and the handlers -/

/-- What only sets the event latch. -/
theorem ok_event (h : s.Ok) : Ok { s with event := true } :=
  ⟨h.overrun, h.core, h.masked, h.irqState, h.may, h.shallow, h.armed, h.wfe, fun _ => rfl, h.rx, fun _ => .inl rfl, fun _ => .inl rfl⟩

/-- Where the FIFO is known to be empty unless the latch is set, SEVONPEND is set. -/
theorem Ok.sev_fifo (h : s.Ok) (hk : s.knowsFifo = true) : s.sevOnPend = true := by
  refine h.armed ?_
  rw [knowsFifo] at hk
  split at hk <;> rename_i hpc <;> first | (rw [hpc]; rfl) | cases hk

theorem Ok.sev_heartbeat (h : s.Ok) (hk : s.knowsHeartbeat = true) : s.sevOnPend = true := by
  refine h.armed ?_
  rw [knowsHeartbeat] at hk
  split at hk <;> rename_i hpc <;> first | (rw [hpc]; rfl) | cases hk

/-- A byte is received: the UART's interrupt is pending, and was not before if the FIFO was empty. -/
theorem ok_receive (h : s.Ok) (b : Byte) : (s.receive b).Ok := by
  have hfifo : s.knowsFifo = true → (s.event || s.sevOnPend && !s.uartPending) = true := by
    intro hk
    rcases h.fifo hk with he | he
    · rw [he, Bool.true_or]
    · have hover : s.overErr = false := Bool.eq_false_iff.mpr fun ho => h.overrun ho he
      rw [h.sev_fifo hk, uartPending, he, hover]
      exact Bool.or_true _
  have hevent : ∀ {p : Prop}, s.event = true ∨ p → (s.event || s.sevOnPend && !s.uartPending) = true ∨ p :=
    Or.imp_left fun he => by rw [he, Bool.true_or]
  rw [receive]
  split
  · exact ⟨fun _ => List.append_ne_nil_of_right_ne_nil _ (List.cons_ne_nil b []), h.core, h.masked, h.irqState, h.may, h.shallow,
      h.armed, h.wfe, fun hd => by rw [pends, h.drains hd, Bool.true_or], h.rx, fun hk => .inl (hfifo hk),
      fun hk => hevent (h.heartbeat hk)⟩
  · rename_i hfull
    have hne : s.fifo ≠ [] := fun he => hfull (by rw [he]; decide)
    exact ⟨fun _ => hne, h.core, h.masked, h.irqState, h.may, h.shallow, h.armed, h.wfe,
      fun hd => by rw [pends, h.drains hd, Bool.true_or], h.rx, fun hk => .inl (hfifo hk), fun hk => hevent (h.heartbeat hk)⟩

/-- The heartbeat timer ends its cycle: its interrupt is pending, and was not before if its flag was clear. -/
theorem ok_cycleEnd (h : s.Ok) : s.cycleEnd.Ok := by
  have hevent : ∀ {p : Prop}, s.event = true ∨ p → (s.event || s.sevOnPend && !s.tmr3Flag) = true ∨ p :=
    Or.imp_left fun he => by rw [he, Bool.true_or]
  refine ⟨h.overrun, h.core, h.masked, h.irqState, h.may, h.shallow, h.armed, h.wfe,
    fun hd => by rw [cycleEnd, pends, h.drains hd, Bool.true_or], h.rx, fun hk => hevent (h.fifo hk), fun hk => .inl ?_⟩
  rcases h.heartbeat hk with he | he
  · rw [cycleEnd, pends, he, Bool.true_or]
  · rw [cycleEnd, pends, h.sev_heartbeat hk, he]
    exact Bool.or_true _

/-- A handler runs in the loop, or before the mask. -/
theorem Ok.unmasked (h : s.Ok) (hm : s.masked = false) : s.pc.masked = false ∧ s.core = .runs := by
  have hpc : s.pc.masked = false := h.masked ▸ hm
  refine ⟨hpc, ?_⟩
  rcases h.core with hc | ⟨_, hd, _⟩
  · exact hc
  · rw [hd] at hpc
    cases hpc

theorem ok_uartIrq (h : s.Ok) (hm : s.masked = false) : s.uart1IRQHandler.Ok :=
  ok_outside (h.unmasked hm).1 nofun (h.unmasked hm).2 hm h.may

theorem ok_tmr3Irq (h : s.Ok) (hm : s.masked = false) : s.tmr3IRQHandler.Ok :=
  ok_outside (h.unmasked hm).1 h.overrun (h.unmasked hm).2 hm h.may

/-- The core wakes, and nothing is known any more. -/
theorem ok_wake (h : s.Ok) (hcore : s.core = .waitsForEvent) : Ok { s with core := .runs, event := false } := by
  rcases h.core with hc | ⟨_, hpc, hdeep⟩
  · rw [hcore] at hc
    cases hc
  · have harm : s.pc.armed = true := by rw [hpc]; rfl
    obtain ⟨hm, hirq, hmay⟩ := h.within (IdlePc.masked_of_armed harm)
    refine ⟨h.overrun, .inl rfl, h.masked, fun _ => hirq, fun _ => hmay, fun _ => hdeep, fun _ => h.armed harm, ?_, ?_, ?_, ?_, ?_⟩
    all_goals
      simp only [knowsRx, knowsFifo, knowsHeartbeat, hpc]
      exact nofun

theorem ok_run (h : IdleRun s) : s.Ok := by
  induction h with
  | start rx => exact ok_start rx
  | loop _ hpc _ _ _ _ _ _ ih => exact ok_loop hpc ih.overrun (ih.loop_core hpc) (ih.loop_masked hpc)
  | enter _ hpc hmay _ ih => exact ok_enter ih hpc hmay
  | step _ hcore ih => exact ok_step ih hcore
  | receive _ b ih => exact ok_receive ih b
  | cycleEnd _ ih => exact ok_cycleEnd ih
  | event _ ih => exact ok_event ih
  | uartIrq _ hm ih => exact ok_uartIrq ih hm
  | tmr3Irq _ hm ih => exact ok_tmr3Irq ih hm
  | wake _ hcore _ ih => exact ok_wake ih hcore

end Idle

end OpenController
