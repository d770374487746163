import OpenController.Lemmas.RfStatements
import OpenController.MainLoop

/-!
# Calls of the main loop

A function of the RF task changes nothing else, and what holds of its runs holds within the main loop. What `main.c` and the power
layer do besides leaves the RF task alone.
-/

namespace OpenController

open Prog

variable {m t : Main} {J : Main → Prop}

theorem rf_interrupt (m t : Main) (h : MainInterrupt m t) : t.rf = m.rf ∨ RfInterrupt m.rf t.rf := by
  cases h with
  | rf h => exact .inr h
  | rxByte => exact .inl rfl

/-- What does not depend on the RF task and the latch of the UART is not changed by an interrupt. -/
theorem stable_outside (hrf : ∀ s m, J m → J { m with rf := s }) (hrx : ∀ m, J m → J { m with rxActivity := true }) :
    Stable MainInterrupt J := by
  intro m t h hm
  cases h with
  | rf h => exact hrf _ m hm
  | rxByte => exact hrx m hm

theorem runs_onRf {α : Type} {p : RfM α} {a : α} (h : Runs MainInterrupt (onRf p) m a t) : Runs RfInterrupt p m.rf a t.rf :=
  h.of_zoom (fun _ _ => rfl) rf_interrupt

/-- A function of the RF task keeps what does not depend on it. -/
theorem kept_onRf {α : Type} (hrf : ∀ s m, J m → J { m with rf := s }) (hrx : ∀ m, J m → J { m with rxActivity := true })
    (p : RfM α) : Kept MainInterrupt J (onRf p) :=
  Kept.zoom (stable_outside hrf hrx) (fun s m => hrf s m) p

theorem kept_branch (hst : Stable MainInterrupt J) {c : Prop} [Decidable c] {p : MainM Unit} (h : Kept MainInterrupt J p) :
    Kept MainInterrupt J (branch c p) :=
  Kept.ite (fun _ => h) fun _ => Kept.pure hst ()

/-- The log, and how far the run is, after a function of the RF task. -/
theorem log_onRf {α : Type} {p : RfM α} {a : α} (h : Runs MainInterrupt (onRf p) m a t) :
    t.log = m.log ∧ t.updated = m.updated :=
  kept_onRf (J := fun u => u.log = m.log ∧ u.updated = m.updated) (fun _ _ hu => hu) (fun _ hu => hu) p m a t ⟨rfl, rfl⟩ h

/-! ## The start -/

/-- Two states of the RF task are equal if their timers are, and all the rest. -/
theorem Rf.eq_of_tmos {s t : Rf} (htmos : s.tmos = t.tmos) (hrest : { s with tmos := .init } = { t with tmos := .init }) : s = t := by
  cases s
  cases t
  cases htmos
  cases hrest
  rfl

/-- What `main` adds for a bonded keyboard is what `A6 30` does: it searches for the dongle again, from the start. -/
theorem select_mainInit {rf : Rf} (hb : RfBooted rf) (hbonded : (rf.bond.hasBond && rf.keyboardMacValid) = true) (payload : Report) :
    (RfOp.frame 0xA6 0x30 payload).apply rf =
      { (mainInit rf).rf with trace := { (mainInit rf).rf.trace with pairEntries := 2 } } := by
  obtain ⟨mac, macValid, flash, hw, rfl⟩ := hb
  have hsearches : ((rfLoadBondFromFlash hw.eeprom flash rfClearBondRam).1.hasBond && macValid) = true := hbonded
  simp only [mainInit, if_pos hbonded]
  simp only [rfTaskInit, hsearches, if_true]
  rw [Bool.and_eq_true_iff] at hsearches
  obtain ⟨hbond, rfl⟩ := hsearches
  generalize (rfLoadBondFromFlash hw.eeprom flash rfClearBondRam).1 = bond at *
  cases bond
  cases hbond
  refine Rf.eq_of_tmos ?_ rfl
  refine Tmos.mk.injEq .. |>.mpr ⟨rfl, ?_, ?_⟩
  · funext e
    cases e <;> rfl
  · funext e
    cases e <;> rfl

/-- `main` starts the RF task in a state that it reaches from `RF_TaskInit`, but for the count of the searches. -/
theorem reach_mainInit {rf : Rf} (hb : RfBooted rf) : ∃ s n, RfReach s ∧
    (mainInit rf).rf = { s with trace := { s.trace with pairEntries := n } } := by
  by_cases hbonded : (rf.bond.hasBond && rf.keyboardMacValid) = true
  · refine ⟨_, (mainInit rf).rf.trace.pairEntries, .step (.frame 0xA6 0x30 (Vector.replicate 8 0)) (.init hb) rfl, ?_⟩
    rw [select_mainInit hb hbonded]
  · exact ⟨rf, rf.trace.pairEntries, .init hb, by rw [mainInit, if_neg hbonded]⟩

/-! ## The idle callback -/

namespace Main

/-- What the idle callback leaves alone. -/
structure Idles (m t : Main) : Prop where
  rf : t.rf = m.rf
  due : t.log.due = m.log.due
  updated : t.updated = m.updated
  openboot : t.openboot = m.openboot
  sleepProto : t.sleepProto = m.sleepProto

theorem idles_explicitSleep (board : Board) (time : Nat) (txIdle rxQuiet : Bool) (view : SleepView) (m : Main) :
    m.Idles (m.explicitSleep board time txIdle rxQuiet view).2 := by
  unfold explicitSleep
  split
  · exact ⟨rfl, rfl, rfl, rfl, rfl⟩
  · dsimp only
    split <;> exact ⟨rfl, rfl, rfl, rfl, rfl⟩

theorem idles_pwrHoldoffExpired (board : Board) (m : Main) : m.Idles (m.pwrHoldoffExpired board).2 := by
  unfold pwrHoldoffExpired
  repeat' split
  all_goals exact ⟨rfl, rfl, rfl, rfl, rfl⟩

theorem idles_autoSleep (board : Board) (time : Nat) (txIdle rxQuiet : Bool) (view : SleepView) (m : Main) :
    m.Idles (m.autoSleep board time txIdle rxQuiet view).2 := by
  have hexpired := m.idles_pwrHoldoffExpired board
  unfold autoSleep
  dsimp only
  repeat' split
  · exact ⟨rfl, rfl, rfl, rfl, rfl⟩
  · exact ⟨rfl, rfl, rfl, rfl, rfl⟩
  · exact hexpired
  · exact hexpired
  · exact hexpired
  · exact hexpired
  · exact ⟨hexpired.rf, hexpired.due, hexpired.updated, hexpired.openboot, hexpired.sleepProto⟩

theorem idles_ch59xLowPower (board : Board) (time : Nat) (txIdle rxQuiet : Bool) (view : SleepView) (m : Main) :
    m.Idles (m.ch59xLowPower board time txIdle rxQuiet view).2 := by
  unfold ch59xLowPower
  split
  · exact idles_explicitSleep board time txIdle rxQuiet view m
  · exact idles_autoSleep board time txIdle rxQuiet view m

end Main

end OpenController
