import OpenController.Holdoff

/-!
# The activity holdoff, across runs

`Guarded` holds between any two steps: the holdoff guards what the host did last, or the latch still shows a byte. While the idle
callback looks from one place to the next, a byte that it did not see yet is in the ring (`Waits`), so that the last look, with
interrupts masked, finds the module at rest.
-/

namespace OpenController

open Prog

/-! ## The clock -/

/-- The ticks that pass between two samples are never more than those that passed. -/
theorem sleepProtocolElapsedTicks_le {s t : Nat} (h : s ≤ t) (period tol : Nat) :
    sleepProtocolElapsedTicks (t % period) (s % period) period tol ≤ t - s := by
  have hs := Nat.div_add_mod s period
  have ht := Nat.div_add_mod t period
  have hrounds : s / period ≤ t / period := Nat.div_le_div_right h
  unfold sleepProtocolElapsedTicks
  split
  · have hle := Nat.mul_le_mul_left period hrounds
    omega
  split
  · exact Nat.zero_le _
  · -- The counter shows less than before: it went round at least once.
    rename_i hback _
    have hpos : 0 < period := Nat.pos_of_ne_zero fun h0 => hback (by rw [h0, Nat.mod_zero, Nat.mod_zero]; exact h)
    have hlt : s / period < t / period := by
      refine Nat.lt_of_le_of_ne hrounds fun heq => ?_
      rw [heq] at hs
      omega
    have hround := Nat.mul_le_mul_left period (Nat.succ_le_of_lt hlt)
    rw [Nat.mul_succ] at hround
    have hmod := Nat.mod_lt s hpos
    have hword : u32 (t % period + sub32 period (s % period)) ≤ t % period + (period - s % period) := by
      unfold u32 sub32
      omega
    omega

/-! ## The ring -/

namespace UartRx

variable {α : Type}

/-- A byte waits in the ring, or one was lost. -/
def Holds (u : UartRx α) : Prop := u.tail ≠ u.head ∨ u.overrunLatch = true

theorem holds_push (u : UartRx α) (b : α) : (u.push b).Holds := by
  unfold push
  split
  · rename_i hc
    refine Or.inl fun he => ?_
    simp only [count, sub8, u8, kbdUartRingSize] at hc he
    omega
  · exact Or.inr rfl

theorem holds_foldl_push {fifo : List α} (h : fifo ≠ []) (u : UartRx α) : (fifo.foldl push u).Holds := by
  induction fifo generalizing u with
  | nil => exact absurd rfl h
  | cons b l ih =>
    by_cases hl : l = []
    · rw [hl]
      exact holds_push u b
    · exact ih hl (u.push b)

theorem bytes_of_empty {u : UartRx α} (h : u.tail = u.head) : u.bytes = [] := by
  have hcount : u.count = 0 := by
    rw [count, h, sub8]
    omega
  rw [bytes, hcount]
  exact List.length_eq_zero_iff.mp (Ring.length_view _ _ _ _)

end UartRx

namespace Holdoff

variable {board : Board} {h t : Holdoff}

theorem quiet_iff : h.keyboardUartRxQuiet = true ↔ (h.rx.tail = h.rx.head ∧ h.rx.parser.buf = []) ∧ h.rx.overrunLatch = false := by
  simp [keyboardUartRxQuiet]

theorem quiet_eq_false (hh : h.rx.Holds) : h.keyboardUartRxQuiet = false := by
  refine Bool.eq_false_iff.mpr fun hq => ?_
  obtain ⟨⟨hempty, -⟩, hlost⟩ := quiet_iff.mp hq
  exact hh.elim (fun hne => hne hempty) fun hl => nomatch hlost.symm.trans hl

/-- A byte was taken that the latch and the ring show. -/
def Waits (h : Holdoff) : Prop := h.rxActivity = true ∧ h.keyboardUartRxQuiet = false

/-- The bytes that the handler takes wait. -/
theorem waits_uart1IRQHandler (overErr : Bool) {fifo : List Byte} (hne : fifo ≠ []) (h : Holdoff) :
    (h.uart1IRQHandler overErr fifo).Waits := by
  unfold uart1IRQHandler
  dsimp only
  rw [if_neg hne]
  refine ⟨rfl, quiet_eq_false ?_⟩
  exact UartRx.holds_foldl_push hne _

theorem uart1IRQHandler_nil (overErr : Bool) (h : Holdoff) :
    h.uart1IRQHandler overErr [] = { h with rx := { h.rx with overrunLatch := h.rx.overrunLatch || overErr } } := by
  cases overErr <;> simp [uart1IRQHandler, UartRx.uart1IRQHandler]

/-! ## Assertions -/

/-- The holdoff guards what happened at a time: it was started then or later, or has run out since. -/
def Guards (board : Board) (t : Nat) (h : Holdoff) : Prop :=
  if h.pwr.holdoffActive then ∃ noted, t ≤ noted ∧ noted ≤ h.time ∧ h.pwr.holdoffStart = noted % board.rtcMaxCount
  else t + board.msToRtc kbdAutosleepHoldoffMs ≤ h.time

/-- It happened a holdoff ago. -/
def Passed (board : Board) (t : Nat) (h : Holdoff) : Prop := t + board.msToRtc kbdAutosleepHoldoffMs ≤ h.time

/-- What holds everywhere: no activity is in the future, and the module was at rest whenever it slept. -/
structure Logged (board : Board) (h : Holdoff) : Prop where
  past : ∀ a t, h.last a = some t → t ≤ h.time
  rested : ∀ e ∈ h.entries, e.Rested board

/-- And each activity is accounted for, but for a byte that shows elsewhere. -/
structure Accounts (board : Board) (G : Nat → Holdoff → Prop) (W : Holdoff → Prop) (h : Holdoff) : Prop extends Logged board h where
  each : ∀ a t, h.last a = some t → G t h ∨ a = .byte ∧ W h

/-- The holdoff guards each activity, but for a byte in the latch. -/
abbrev Guarded (board : Board) : Holdoff → Prop := Accounts board (Guards board) fun h => h.rxActivity = true

/-- The holdoff guards each activity, but for a byte that came since the latch was read. -/
abbrev Taken (board : Board) : Holdoff → Prop := Accounts board (Guards board) Waits

/-- Each activity was a holdoff ago, but for a byte that came since the latch was read. -/
abbrev Expired (board : Board) : Holdoff → Prop := Accounts board (Passed board) Waits

theorem Taken.guarded (hh : Taken board h) : Guarded board h :=
  ⟨hh.toLogged, fun a t ht => (hh.each a t ht).imp id fun hw => ⟨hw.1, hw.2.1⟩⟩

/-! ### What interrupts do not change -/

/-- The handler only takes bytes. -/
theorem uart1IRQHandler_pwr (overErr : Bool) (fifo : List Byte) (h : Holdoff) : (h.uart1IRQHandler overErr fifo).pwr = h.pwr := by
  unfold uart1IRQHandler
  dsimp only
  split <;> rfl

theorem uart1IRQHandler_time (overErr : Bool) (fifo : List Byte) (h : Holdoff) : (h.uart1IRQHandler overErr fifo).time = h.time := by
  unfold uart1IRQHandler
  dsimp only
  split <;> rfl

theorem stable_pwr (P : PowerSleep → Prop) : Stable Interrupt fun h => P h.pwr := by
  intro h t hi hp
  cases hi with
  | tick => exact hp
  | uart1 overErr fifo => exact (uart1IRQHandler_pwr overErr fifo h).symm ▸ hp

theorem stable_guards (t : Nat) : Stable Interrupt (Guards board t) := by
  intro h u hi hg
  cases hi with
  | tick ticks =>
    unfold Guards at hg ⊢
    split at hg
    · rename_i ha
      obtain ⟨noted, hle, hn, hs⟩ := hg
      rw [if_pos ha]
      exact ⟨noted, hle, Nat.le_add_right_of_le hn, hs⟩
    · rename_i ha
      rw [if_neg ha]
      exact Nat.le_add_right_of_le hg
  | uart1 overErr fifo =>
    unfold Guards
    rw [uart1IRQHandler_pwr, uart1IRQHandler_time]
    exact hg

theorem stable_passed (t : Nat) : Stable Interrupt (Passed board t) := by
  intro h u hi hp
  cases hi with
  | tick ticks => exact Nat.le_add_right_of_le hp
  | uart1 overErr fifo =>
    unfold Passed
    rw [uart1IRQHandler_time]
    exact hp

theorem stable_latched : Stable Interrupt fun h => h.rxActivity = true := by
  intro h t hi hl
  cases hi with
  | tick => exact hl
  | uart1 overErr fifo =>
    unfold uart1IRQHandler
    dsimp only
    split
    · exact hl
    · rfl

theorem stable_waits : Stable Interrupt Waits := by
  intro h t hi hw
  cases hi with
  | tick => exact hw
  | uart1 overErr fifo =>
    by_cases hne : fifo = []
    · subst hne
      rw [uart1IRQHandler_nil]
      refine ⟨hw.1, Bool.eq_false_iff.mpr fun hq => ?_⟩
      obtain ⟨hempty, hlost⟩ := quiet_iff.mp hq
      rw [Bool.or_eq_false_iff] at hlost
      exact nomatch hw.2.symm.trans (quiet_iff.mpr ⟨hempty, hlost.1⟩)
    · exact waits_uart1IRQHandler overErr hne h

/-- With interrupts masked no byte is taken. -/
theorem stable_quiet : Stable Interrupt fun h => h.masked = true ∧ h.keyboardUartRxQuiet = true := by
  intro h t hi hq
  cases hi with
  | tick => exact hq
  | uart1 overErr fifo hm => exact nomatch hm.symm.trans hq.1

theorem stable_masked : Stable Interrupt fun h => h.masked = true := by
  intro h t hi hm
  cases hi with
  | tick => exact hm
  | uart1 overErr fifo hu => exact nomatch hu.symm.trans hm

/-- A byte that is taken is the last one. -/
theorem last_uart1IRQHandler {overErr : Bool} {fifo : List Byte} {a : HostActivity} {n : Nat}
    (hl : (h.uart1IRQHandler overErr fifo).last a = some n) : h.last a = some n ∨ (a = .byte ∧ n = h.time ∧ fifo ≠ []) := by
  unfold uart1IRQHandler at hl
  dsimp only at hl
  split at hl
  · exact .inl hl
  · rename_i hne
    by_cases ha : a = .byte
    · subst ha
      simp only [mark, Function.update_self, Option.some.injEq] at hl
      exact .inr ⟨rfl, hl.symm, hne⟩
    · exact .inl (by simpa only [mark, Function.update_of_ne ha] using hl)

theorem stable_logged : Stable Interrupt (Logged board) := by
  intro h t hi hh
  cases hi with
  | tick ticks => exact ⟨fun a n hl => Nat.le_add_right_of_le (hh.past a n hl), hh.rested⟩
  | uart1 overErr fifo =>
    refine ⟨fun a n hl => ?_, fun e he => hh.rested e ?_⟩
    · rw [uart1IRQHandler_time]
      rcases last_uart1IRQHandler hl with hl | ⟨-, rfl, -⟩
      · exact hh.past a n hl
      · exact Nat.le_refl _
    · unfold uart1IRQHandler at he
      dsimp only at he
      split at he <;> exact he

/-- A byte that is taken shows, so the other activities stay accounted for. -/
theorem stable_accounts {G : Nat → Holdoff → Prop} {W : Holdoff → Prop} (hG : ∀ n, Stable Interrupt (G n)) (hW : Stable Interrupt W)
    (hwaits : ∀ h, Waits h → W h) : Stable Interrupt (Accounts board G W) := by
  intro h t hi hh
  refine ⟨stable_logged h t hi hh.toLogged, fun a n hl => ?_⟩
  have hold (hl : h.last a = some n) : G n t ∨ a = .byte ∧ W t :=
    (hh.each a n hl).imp (hG n h t hi) fun hw => ⟨hw.1, hW h t hi hw.2⟩
  cases hi with
  | tick => exact hold hl
  | uart1 overErr fifo =>
    rcases last_uart1IRQHandler hl with hl | ⟨ha, -, hne⟩
    · exact hold hl
    · exact .inr ⟨ha, hwaits _ (waits_uart1IRQHandler overErr hne h)⟩

theorem stable_guarded : Stable Interrupt (Guarded board) := stable_accounts stable_guards stable_latched fun _ hw => hw.1

theorem stable_taken : Stable Interrupt (Taken board) := stable_accounts stable_guards stable_waits fun _ hw => hw

theorem stable_expired : Stable Interrupt (Expired board) := stable_accounts stable_passed stable_waits fun _ hw => hw

/-- A function keeps the activities guarded. -/
abbrev GuardedKept (board : Board) {α : Type} (p : HoldoffM α) : Prop := Kept Interrupt (Guarded board) p

theorem composes_guarded (board : Board) : Composes (GuardedKept board) := Kept.composes stable_guarded

/-! ## Statements -/

/-- What happens now is not in the future. -/
theorem Logged.mark (hh : Logged board h) (a : HostActivity) : Logged board (h.mark a) := by
  refine ⟨fun b n hl => ?_, hh.rested⟩
  by_cases hb : b = a
  · subst hb
    simp only [Holdoff.mark, Function.update_self, Option.some.injEq] at hl
    exact Nat.le_of_eq hl.symm
  · exact hh.past b n (by simpa only [Holdoff.mark, Function.update_of_ne hb] using hl)

/-- A holdoff that starts now guards everything. -/
theorem Logged.note (hh : Logged board h) : Guarded board { h with pwr := h.pwr.noteActivity (h.rtcGetCycle32k board) } := by
  refine ⟨⟨hh.past, hh.rested⟩, fun a n hl => .inl ?_⟩
  exact ⟨h.time, hh.past a n hl, Nat.le_refl _, rfl⟩

theorem guarded_pwrNoteActivity : Triple Interrupt (Logged board) (pwrNoteActivity board) fun _ => Guarded board :=
  Triple.modify stable_logged stable_guarded fun _ hh => hh.note

/-- A statement of the power layer that leaves the holdoff. -/
theorem Accounts.of_pwr {W : Holdoff → Prop} (hh : Accounts board (Guards board) W h) {pwr : PowerSleep}
    (hactive : pwr.holdoffActive = h.pwr.holdoffActive) (hstart : pwr.holdoffStart = h.pwr.holdoffStart)
    (hW : W h → W { h with pwr := pwr }) : Accounts board (Guards board) W { h with pwr := pwr } := by
  refine ⟨⟨hh.past, hh.rested⟩, fun a n hl => (hh.each a n hl).imp (fun hg => ?_) fun hw => ⟨hw.1, hW hw.2⟩⟩
  unfold Guards at hg ⊢
  dsimp only
  rw [hactive, hstart]
  exact hg

/-! ## The frames of the host -/

theorem guarded_handleUartFrame (cmd sub : Byte) : GuardedKept board (handleUartFrame board cmd sub) := by
  have haccept : Kept Interrupt (Logged board) (.modify fun h =>
      { h.mark .frame with sleepProto := (h.sleepProto.onFrame cmd sub h.openbootEntryPending).1 }) :=
    Kept.modify stable_logged fun h hh => ⟨(hh.mark .frame).past, (hh.mark .frame).rested⟩
  have hauto : Kept Interrupt (Logged board) (powerSleepSetAutosleep board) := by
    refine Kept.modify stable_logged fun h hh => ?_
    split
    · exact ⟨(hh.mark .arming).past, (hh.mark .arming).rested⟩
    · exact ⟨hh.past, hh.rested⟩
  have hcancel : Kept Interrupt (Guarded board) (.modify fun h =>
      if sleepProtocolIsStateChanging cmd sub then { h with pwr := h.pwr.cancelExplicit } else h) := by
    refine Kept.modify stable_guarded fun h hh => ?_
    split
    · exact hh.of_pwr rfl rfl id
    · exact hh
  have hopenboot : Kept Interrupt (Guarded board) (.modify fun h =>
      if cmd = 0xA6 ∧ sub = 0x81 then { h with openbootEntryPending := true } else h) := by
    refine Kept.modify stable_guarded fun h hh => ?_
    split
    · exact ⟨⟨hh.past, hh.rested⟩, hh.each⟩
    · exact hh
  have hframe : Triple Interrupt (Logged board) (handleUartFrame board cmd sub) fun _ => Guarded board :=
    Triple.bind haccept fun _ => Triple.bind hauto fun _ => Triple.bind guarded_pwrNoteActivity fun _ =>
      Triple.bind hcancel fun _ => hopenboot
  exact hframe.conseq (fun h hh => hh.toLogged) fun _ _ hh => hh

theorem guarded_dispatchFrames (frames : List (List Byte)) : GuardedKept board (dispatchFrames board frames) := by
  have hK := composes_guarded board
  induction frames with
  | nil => exact hK.pure _
  | cons frame frames ih =>
    refine hK.bind ?_ fun _ => ih
    unfold dispatchFrame
    exact Kept.ite (fun _ => guarded_handleUartFrame _ _) fun _ => Kept.ite (fun _ => guarded_handleUartFrame _ _) fun _ => hK.pure _

/-! ## The poll -/

/-- What the poll does to the ring and the parser is not about the holdoff: a byte that is read was in the latch. -/
theorem guarded_rx {α : Type} (f : UartRx Byte → UartRx Byte) (g : Holdoff → α) :
    GuardedKept board (.stmt (fun h => { h with rx := f h.rx }) fun h => pure (g h)) := by
  refine Triple.stmt stable_guarded fun h hh => Triple.pure stable_guarded ?_
  rintro _ rfl
  exact ⟨⟨hh.past, hh.rested⟩, hh.each⟩

theorem guarded_keyboardUartPoll (rounds : Nat) : GuardedKept board (keyboardUartPoll board rounds) := by
  have hK := composes_guarded board
  induction rounds with
  | zero => exact hK.pure _
  | succ rounds ih =>
    refine hK.bind (hK.read _) fun overrun => Kept.ite (fun _ => ?_) fun _ => ?_
    · exact hK.bind (guarded_rx _ fun _ => ()) fun _ => hK.bind (guarded_rx _ fun _ => ()) fun _ => ih
    · refine hK.bind (hK.read _) fun empty => Kept.ite (fun _ => hK.pure _) fun _ => ?_
      refine hK.bind (guarded_rx (fun u => (u.feedTail id).1) fun h => (h.rx.feedTail id).2) fun frames => ?_
      exact hK.bind (guarded_dispatchFrames frames) fun _ => hK.bind (guarded_rx _ fun _ => ()) fun _ => ih

/-! ## The holdoff -/

/-- When the latch was clear, a byte that came since is in the ring. -/
theorem taken_keyboardUartTakeRxActivity : Triple Interrupt (Guarded board) keyboardUartTakeRxActivity
    fun active h => Logged board h ∧ (active = false → Taken board h) := by
  have hread : Triple Interrupt (Guarded board) (.read fun h => h.rxActivity)
      fun v h => Logged board h ∧ (v = false → Taken board h) := by
    refine Triple.read stable_guarded (fun v h t hi hh => ?_) fun h hh => ⟨hh.toLogged, fun hv => ?_⟩
    · exact ⟨stable_logged h t hi hh.1, fun hv => stable_taken h t hi (hh.2 hv)⟩
    · exact ⟨hh.toLogged, fun a n hl => .inl ((hh.each a n hl).elim id fun hw => nomatch hv.symm.trans hw.2)⟩
  have hst (v : Bool) : Stable Interrupt fun h => Logged board h ∧ (v = false → Taken board h) :=
    fun h t hi hh => ⟨stable_logged h t hi hh.1, fun hv => stable_taken h t hi (hh.2 hv)⟩
  refine hread.bind fun v => Triple.ite (fun hv => ?_) fun _ => Triple.pure (hst v) fun h hh => hh
  have hclear : Triple Interrupt (Logged board) (.modify fun h => { h with rxActivity := false }) fun _ => Logged board :=
    Kept.modify stable_logged fun h hh => ⟨hh.past, hh.rested⟩
  refine Triple.conseq (Triple.bind hclear fun _ => Triple.pure (hst v) fun h hh => ⟨hh, fun hn => ?_⟩) (fun h hh => hh.1)
    fun _ _ hh => hh
  exact nomatch hn.symm.trans hv

/-- A holdoff that is not running has run out. -/
theorem Taken.expired (hh : Taken board h) (ha : h.pwr.holdoffActive = false) : Expired board h := by
  refine ⟨hh.toLogged, fun a n hl => (hh.each a n hl).imp (fun hg => ?_) id⟩
  rw [Guards, ha] at hg
  exact hg

/-- A holdoff that has lasted has run out. -/
theorem Taken.elapsed (hh : Taken board h) (ha : h.pwr.holdoffActive = true) {elapsed : Nat}
    (he : elapsed = sleepProtocolElapsedTicks (h.rtcGetCycle32k board) h.pwr.holdoffStart board.rtcMaxCount pwrRtc32kBackstepTolerance)
    (hlong : board.msToRtc kbdAutosleepHoldoffMs ≤ elapsed) : Expired board h := by
  refine ⟨hh.toLogged, fun a n hl => (hh.each a n hl).imp (fun hg => ?_) id⟩
  rw [Guards, ha, if_pos rfl] at hg
  obtain ⟨noted, hle, hn, hs⟩ := hg
  have hticks := sleepProtocolElapsedTicks_le hn board.rtcMaxCount pwrRtc32kBackstepTolerance
  rw [← hs] at hticks
  unfold Passed
  rw [rtcGetCycle32k] at he
  omega

/-- A holdoff that has run out is not needed. -/
theorem Expired.clear (hh : Expired board h) : Guarded board { h with pwr := { h.pwr with holdoffActive := false } } ∧
    Expired board { h with pwr := { h.pwr with holdoffActive := false } } := by
  refine ⟨⟨⟨hh.past, hh.rested⟩, fun a n hl => (hh.each a n hl).imp id fun hw => ⟨hw.1, hw.2.1⟩⟩, ⟨hh.past, hh.rested⟩, hh.each⟩

/-- When the holdoff has expired, all that guarded was a holdoff ago, and a byte that came since is in the ring. -/
theorem expired_pwrHoldoffExpired : Triple Interrupt (Guarded board) (pwrHoldoffExpired board)
    fun expired h => Guarded board h ∧ (expired = true → Expired board h) := by
  have hst (b : Bool) : Stable Interrupt fun h => Guarded board h ∧ (b = true → Expired board h) :=
    fun h t hi hh => ⟨stable_guarded h t hi hh.1, fun hb => stable_expired h t hi (hh.2 hb)⟩
  have hactive : Triple Interrupt (Taken board) (.read fun h => h.pwr.holdoffActive)
      fun active h => Taken board h ∧ h.pwr.holdoffActive = active := by
    refine Triple.read stable_taken (fun active h t hi hh => ⟨stable_taken h t hi hh.1, ?_⟩) fun h hh => ⟨hh, rfl⟩
    exact stable_pwr (fun p => p.holdoffActive = active) h t hi hh.2
  have hrunning : Stable Interrupt fun h => Taken board h ∧ h.pwr.holdoffActive = true :=
    fun h t hi hh => ⟨stable_taken h t hi hh.1, stable_pwr (fun p => p.holdoffActive = true) h t hi hh.2⟩
  have helapsed : Triple Interrupt (fun h => Taken board h ∧ h.pwr.holdoffActive = true)
      (.read fun h => sleepProtocolElapsedTicks (h.rtcGetCycle32k board) h.pwr.holdoffStart board.rtcMaxCount
        pwrRtc32kBackstepTolerance)
      fun elapsed h => Taken board h ∧ (elapsed ≥ board.msToRtc kbdAutosleepHoldoffMs → Expired board h) := by
    refine Triple.read hrunning (fun elapsed h t hi hh => ⟨stable_taken h t hi hh.1, fun he => ?_⟩) fun h hh => ⟨hh.1, fun he => ?_⟩
    · exact stable_expired h t hi (hh.2 he)
    · exact hh.1.elapsed hh.2 rfl he
  have hclear : Triple Interrupt (Expired board) (.modify fun h => { h with pwr := { h.pwr with holdoffActive := false } })
      fun _ h => Guarded board h ∧ (true = true → Expired board h) :=
    Triple.modify stable_expired (hst true) fun h hh => ⟨hh.clear.1, fun _ => hh.clear.2⟩
  refine taken_keyboardUartTakeRxActivity.bind fun active => Triple.ite (fun _ => ?_) fun hnot => ?_
  · refine Triple.conseq (Triple.bind guarded_pwrNoteActivity fun _ => Triple.pure (hst false) fun h hh => ⟨hh, nofun⟩)
      (fun h hh => hh.1) fun _ _ hh => hh
  refine Triple.conseq (hactive.bind fun holdoffActive => Triple.ite (fun ha => ?_) fun ha => ?_)
    (fun h hh => hh.2 (Bool.eq_false_iff.mpr hnot)) fun _ _ hh => hh
  · refine Triple.pure (hst true) fun h hh => ⟨hh.1.guarded, fun _ => hh.1.expired ?_⟩
    exact hh.2.trans (by simpa using ha)
  refine Triple.conseq (helapsed.bind fun elapsed => Triple.ite (fun he => ?_) fun _ => ?_) (fun h hh => ⟨hh.1, ?_⟩) fun _ _ hh => hh
  · refine Triple.conseq (Triple.bind hclear fun _ => Triple.pure (hst true) fun h hh => hh) (fun h hh => hh.2 he) fun _ _ hh => hh
  · exact Triple.pure (hst false) fun h hh => ⟨hh.1.guarded, nofun⟩
  · exact hh.2.trans (by simpa using ha)

/-! ## Sleep -/

/-- The module may sleep, and may do so of its own accord when it is auto-sleep that asks for it. -/
structure MaySleep (board : Board) (auto : Bool) (h : Holdoff) : Prop where
  guarded : Guarded board h
  expired : auto = true → Expired board h
  armed : auto = true → h.pwr.autosleep = true

theorem stable_maySleep (auto : Bool) : Stable Interrupt (MaySleep board auto) := by
  intro h t hi hh
  refine ⟨stable_guarded h t hi hh.guarded, fun ha => stable_expired h t hi (hh.expired ha), fun ha => ?_⟩
  exact stable_pwr (fun p => p.autosleep = true) h t hi (hh.armed ha)

/-- The sleep that begins finds the module at rest: a byte that came in time would be in the ring. -/
theorem MaySleep.enter {auto : Bool} (hh : MaySleep board auto h) (hq : h.keyboardUartRxQuiet = true) : Guarded board (h.enter auto) := by
  cases auto with
  | false => exact hh.guarded
  | true =>
    obtain ⟨⟨hring, hheld⟩, -⟩ := quiet_iff.mp hq
    refine ⟨⟨hh.guarded.past, fun e he => ?_⟩, hh.guarded.each⟩
    rcases List.mem_append.mp he with hold | hnew
    · exact hh.guarded.rested e hold
    · obtain rfl := List.mem_singleton.mp hnew
      refine ⟨hh.armed rfl, fun a n hl => ?_, UartRx.bytes_of_empty hring, hheld⟩
      exact ((hh.expired rfl).each a n hl).elim id fun hw => nomatch hw.2.2.symm.trans hq

theorem guarded_pwrIrqRestore (masked : Bool) : GuardedKept board (pwrIrqRestore masked) :=
  Kept.modify stable_guarded fun _ hh => ⟨⟨hh.past, hh.rested⟩, hh.each⟩

/-- An edge that is not the first of a sleep, or none, leaves everything guarded. -/
theorem Accounts.hostEdge (hh : Guarded board h) {edge : Bool} (he : edge = true → h.pwr.gpioWoke = true) :
    Guarded board (h.hostEdge edge) := by
  have hno : (edge && !h.pwr.gpioWoke) = false := by
    cases edge with
    | false => rfl
    | true => simp [he rfl]
  unfold Holdoff.hostEdge
  rw [hno]
  exact hh.of_pwr rfl rfl id

/-- The end of a sleep: the host's edge is latched, and not noted yet. -/
structure Ended (board : Board) (view : IdleView) (h : Holdoff) : Prop where
  logged : Logged board h
  woke : view.hostEdge = true → h.pwr.gpioWoke = true
  guarded : view.hostEdge = false → Guarded board h

theorem stable_ended (view : IdleView) : Stable Interrupt (Ended board view) := by
  intro h t hi hh
  refine ⟨stable_logged h t hi hh.logged, fun he => ?_, fun he => stable_guarded h t hi (hh.guarded he)⟩
  exact stable_pwr (fun p => p.gpioWoke = true) h t hi (hh.woke he)

/-- The host's edge is latched and noted. -/
theorem stable_noted (view : IdleView) :
    Stable Interrupt fun h => Guarded board h ∧ (view.hostEdge = true → h.pwr.gpioWoke = true) := by
  intro h t hi hh
  exact ⟨stable_guarded h t hi hh.1, fun he => stable_pwr (fun p => p.gpioWoke = true) h t hi (hh.2 he)⟩

/-- The host's edge ends the sleep. -/
theorem Accounts.ended (hh : Guarded board h) (view : IdleView) : Ended board view (h.hostEdge view.hostEdge) := by
  refine ⟨?_, fun he => ?_, fun he => hh.hostEdge fun ht => nomatch he.symm.trans ht⟩
  · unfold Holdoff.hostEdge
    split
    · exact ⟨(hh.toLogged.mark .wake).past, (hh.toLogged.mark .wake).rested⟩
    · exact ⟨hh.past, hh.rested⟩
  · unfold Holdoff.hostEdge PowerSleep.gpioWakeDisarm
    simp [he]

/-- The reason of the wake that is read: the host's is noted. -/
theorem noted_pwrWakeReason {view : IdleView} (hn : view.Notes) (woke : Bool) :
    Triple Interrupt (fun h => Ended board view h ∧ (view.hostEdge = true → woke = true)) (pwrWakeReason board view.rtcTrig woke)
      fun _ h => Guarded board h ∧ (view.hostEdge = true → h.pwr.gpioWoke = true) := by
  have hst : Stable Interrupt fun h => Ended board view h ∧ (view.hostEdge = true → woke = true) :=
    fun h t hi hh => ⟨stable_ended view h t hi hh.1, hh.2⟩
  refine Triple.ite (fun _ => ?_) fun hnot => ?_
  · exact Triple.modify hst (stable_noted view) fun h hh => ⟨hh.1.logged.note, hh.1.woke⟩
  · refine Triple.pure (stable_noted view) fun h hh => ⟨hh.1.guarded ?_, hh.1.woke⟩
    -- The host's edge came without the trigger, so that it would be noted.
    refine Bool.eq_false_iff.mpr fun he => hnot ?_
    rw [(hn (.inl he)).1, hh.2 he]
    rfl

/-- A sleep that begins with the module at rest, and whose end the host's edge is noted at. -/
theorem guarded_pwrSlept {auto masked : Bool} {view : IdleView} (hn : view.Notes) :
    Triple Interrupt (fun h => MaySleep board auto h ∧ h.masked = true ∧ h.keyboardUartRxQuiet = true) (pwrSlept board auto masked view)
      fun _ => Guarded board := by
  have hK := composes_guarded board
  have henter : Triple Interrupt (fun h => MaySleep board auto h ∧ h.masked = true ∧ h.keyboardUartRxQuiet = true)
      (.modify (Holdoff.enter auto)) fun _ => Guarded board :=
    Triple.modify (fun h t hi hh => ⟨stable_maySleep auto h t hi hh.1, stable_quiet h t hi hh.2⟩) stable_guarded
      fun h hh => hh.1.enter hh.2.2
  have hedge : Triple Interrupt (Guarded board) (.modify (Holdoff.hostEdge view.hostEdge)) fun _ => Ended board view :=
    Triple.modify stable_guarded (stable_ended view) fun h hh => hh.ended view
  have hsave : Kept Interrupt (Ended board view) pwrIrqSave := by
    refine Triple.stmt (stable_ended view) fun h hh => Triple.pure (stable_ended view) ?_
    rintro _ rfl
    exact ⟨⟨hh.logged.past, hh.logged.rested⟩, hh.woke, fun he => ⟨⟨hh.logged.past, hh.logged.rested⟩, (hh.guarded he).each⟩⟩
  have hwoke : Triple Interrupt (Ended board view) (.read fun h => h.pwr.gpioWoke)
      fun woke h => Ended board view h ∧ (view.hostEdge = true → woke = true) :=
    Triple.read (stable_ended view) (fun woke h t hi hh => ⟨stable_ended view h t hi hh.1, hh.2⟩) fun h hh => ⟨hh, hh.woke⟩
  have hlate : Triple Interrupt (fun h => Guarded board h ∧ (view.hostEdge = true → h.pwr.gpioWoke = true))
      (.modify (Holdoff.hostEdge view.lateEdge)) fun _ => Guarded board :=
    Triple.modify (stable_noted view) stable_guarded fun h hh => hh.1.hostEdge fun hl => hh.2 (hn (.inr hl)).2
  refine henter.bind fun _ => Triple.bind (guarded_pwrIrqRestore masked) fun _ => hedge.bind fun _ => Triple.bind hsave fun masked => ?_
  refine hwoke.bind fun woke => (noted_pwrWakeReason hn woke).bind fun _ => hlate.bind fun _ => ?_
  exact hK.bind (guarded_pwrIrqRestore masked) fun _ => hK.pure 0

theorem guarded_pwrVeto (masked : Bool) (view : IdleView) : GuardedKept board (pwrVeto masked view) := by
  have hK := composes_guarded board
  have hdisarm : GuardedKept board (.modify fun h => { h with pwr := h.pwr.gpioWakeDisarm view.vetoEdge }) :=
    Kept.modify stable_guarded fun h hh => hh.of_pwr rfl rfl id
  exact hK.bind hdisarm fun _ => hK.bind (guarded_pwrIrqRestore masked) fun _ => hK.pure 3

/-- The last looks are taken with interrupts masked, so that nothing comes between them and the sleep. -/
theorem guarded_pwrSleepUntil {auto : Bool} (time : Nat) {view : IdleView} (hn : view.Notes) :
    Triple Interrupt (MaySleep board auto) (pwrSleepUntil board auto time view) fun _ => Guarded board := by
  have hK := composes_guarded board
  have hst : Stable Interrupt fun h => MaySleep board auto h ∧ h.masked = true :=
    fun h t hi hh => ⟨stable_maySleep auto h t hi hh.1, stable_masked h t hi hh.2⟩
  have hsave : Triple Interrupt (MaySleep board auto) pwrIrqSave fun _ h => MaySleep board auto h ∧ h.masked = true := by
    refine Triple.stmt (stable_maySleep auto) fun h hh => Triple.pure hst ?_
    rintro _ rfl
    obtain ⟨hg, he, ha⟩ := hh
    exact ⟨⟨⟨⟨hg.past, hg.rested⟩, hg.each⟩, fun hauto => ⟨⟨hg.past, hg.rested⟩, (he hauto).each⟩, ha⟩, rfl⟩
  have hwoke : Kept Interrupt (fun h => MaySleep board auto h ∧ h.masked = true)
      (.modify fun h => { h with pwr := { h.pwr with gpioWoke := false } }) := by
    refine Kept.modify hst fun h hh => ⟨?_, hh.2⟩
    obtain ⟨hg, he, ha⟩ := hh.1
    exact ⟨⟨⟨hg.past, hg.rested⟩, hg.each⟩, fun hauto => ⟨⟨hg.past, hg.rested⟩, (he hauto).each⟩, ha⟩
  have hquiet : Triple Interrupt (fun h => MaySleep board auto h ∧ h.masked = true)
      (.read fun h => h.keyboardUartRxQuiet && !h.pwr.gpioWoke)
      fun quiet h => (MaySleep board auto h ∧ h.masked = true) ∧ (quiet = true → h.keyboardUartRxQuiet = true) := by
    refine Triple.read hst (fun quiet h t hi hh => ⟨hst h t hi hh.1, fun hq => ?_⟩) fun h hh => ⟨hh, fun hq => ?_⟩
    · exact (stable_quiet h t hi ⟨hh.1.2, hh.2 hq⟩).2
    · exact ((Bool.and_eq_true _ _).mp hq).1
  -- What does not sleep leaves everything guarded.
  have hawake {masked : Bool} (rc : Nat) : Triple Interrupt (fun h => MaySleep board auto h ∧ h.masked = true)
      (do
        pwrIrqRestore masked
        pure rc) fun _ => Guarded board := by
    have hrestore : GuardedKept board (do
        pwrIrqRestore masked
        pure rc) := hK.bind (guarded_pwrIrqRestore masked) fun _ => hK.pure rc
    exact hrestore.conseq (fun h hh => hh.1.guarded) fun _ _ hh => hh
  refine hsave.bind fun masked => Triple.ite (fun _ => hawake 3) fun _ => ?_
  refine Triple.bind (Kept.read hst _) fun rtc => Triple.ite (fun _ => hawake 2) fun _ => ?_
  refine Triple.bind hwoke fun _ => hquiet.bind fun quiet => Triple.ite (fun _ => ?_) fun hnot => Triple.ite (fun _ => ?_) fun _ => ?_
  · exact (guarded_pwrVeto masked view).conseq (fun h hh => hh.1.1.guarded) fun _ _ hh => hh
  · exact (guarded_pwrVeto masked view).conseq (fun h hh => hh.1.1.guarded) fun _ _ hh => hh
  · refine (guarded_pwrSlept hn).conseq (fun h hh => ⟨hh.1.1, hh.1.2, hh.2 ?_⟩) fun _ _ hh => hh
    simp only [Bool.or_eq_true, Bool.not_eq_true', not_or, Bool.not_eq_false] at hnot
    exact hnot.2

/-! ## The idle callback -/

theorem guarded_explicitSleep (time : Nat) {view : IdleView} (hn : view.Notes) : GuardedKept board (explicitSleep board time view) := by
  have hK := composes_guarded board
  have hsleep : GuardedKept board (pwrSleepUntil board false time view) :=
    (guarded_pwrSleepUntil time hn).conseq (fun h hh => ⟨hh, nofun, nofun⟩) fun _ _ hh => hh
  have hdone : GuardedKept board (.modify fun h => { h with pwr := h.pwr.cancelExplicit }) :=
    Kept.modify stable_guarded fun h hh => hh.of_pwr rfl rfl id
  refine hK.bind (hK.read _) fun ready => Kept.ite (fun _ => hK.pure 3) fun _ => hK.bind hsleep fun rc => ?_
  exact hK.bind (hK.read _) fun woke => Kept.ite (fun _ => hK.bind hdone fun _ => hK.pure rc) fun _ => hK.pure rc

/-- The idle callback does not disarm auto-sleep. -/
theorem armed_pwrHoldoffExpired : Kept Interrupt (fun h => h.pwr.autosleep = true) (pwrHoldoffExpired board) := by
  refine Each.triple ?_ (stable_pwr fun p => p.autosleep = true)
  have htake : Each (fun f => ∀ h : Holdoff, h.pwr.autosleep = true → (f h).pwr.autosleep = true) keyboardUartTakeRxActivity := by
    refine Each.bind (by simp) fun v => Each.ite (Each.bind (by simp) fun _ => trivial) trivial
  have hnote : Each (fun f => ∀ h : Holdoff, h.pwr.autosleep = true → (f h).pwr.autosleep = true) (pwrNoteActivity board) := by
    simp [pwrNoteActivity, PowerSleep.noteActivity]
  refine htake.bind fun active => Each.ite (hnote.bind fun _ => trivial) (Each.bind (by simp) fun holdoffActive => ?_)
  refine Each.ite trivial (Each.bind (by simp) fun elapsed => Each.ite (Each.bind (by simp) fun _ => trivial) trivial)

theorem guarded_autoSleep (time : Nat) {view : IdleView} (hn : view.Notes) : GuardedKept board (autoSleep board time view) := by
  have hdone {pre : Holdoff → Prop} (hpre : ∀ h, pre h → Guarded board h) (rc : Nat) :
      Triple Interrupt pre (pure rc) fun _ => Guarded board := Triple.pure stable_guarded hpre
  have hst : Stable Interrupt fun h => Guarded board h ∧ h.pwr.autosleep = true :=
    fun h t hi hh => ⟨stable_guarded h t hi hh.1, stable_pwr (fun p => p.autosleep = true) h t hi hh.2⟩
  have hread : Triple Interrupt (Guarded board) (.read fun h => h.pwr.autosleep)
      fun autosleep h => Guarded board h ∧ h.pwr.autosleep = autosleep := by
    refine Triple.read stable_guarded (fun autosleep h t hi hh => ⟨stable_guarded h t hi hh.1, ?_⟩) fun h hh => ⟨hh, rfl⟩
    exact stable_pwr (fun p => p.autosleep = autosleep) h t hi hh.2
  have hexpired : Triple Interrupt (fun h => Guarded board h ∧ h.pwr.autosleep = true) (pwrHoldoffExpired board)
      fun expired h => (Guarded board h ∧ (expired = true → Expired board h)) ∧ h.pwr.autosleep = true :=
    expired_pwrHoldoffExpired.and armed_pwrHoldoffExpired
  -- From here on only the ring can put the sleep off.
  have hlooks : Triple Interrupt (MaySleep board true) (do
      let quiet ← .read fun h => h.keyboardUartRxQuiet
      if !quiet then pure 3
      else if !view.rfIdle && !view.rfCanDeepSleep then pure 3
      else pwrSleepUntil board true time view) fun _ => Guarded board := by
    refine Triple.bind (Kept.read (stable_maySleep true) _) fun quiet => Triple.ite (fun _ => ?_) fun _ => Triple.ite (fun _ => ?_) fun _ => ?_
    · exact hdone (fun h hh => hh.guarded) 3
    · exact hdone (fun h hh => hh.guarded) 3
    · exact guarded_pwrSleepUntil time hn
  refine hread.bind fun autosleep => Triple.ite (fun _ => hdone (fun h hh => hh.1) 3) fun hauto => ?_
  refine Triple.conseq (Triple.bind (Kept.read hst _) fun openboot => Triple.ite (fun _ => hdone (fun h hh => hh.1) 3) fun _ => ?_)
    (fun h hh => ⟨hh.1, hh.2.trans (by simpa using hauto)⟩) fun _ _ hh => hh
  refine hexpired.bind fun expired => Triple.ite (fun _ => hdone (fun h hh => hh.1.1) 3) fun he => Triple.ite (fun _ => ?_) fun _ => ?_
  · exact hdone (fun h hh => hh.1.1) 3
  · exact hlooks.conseq (fun h hh => ⟨hh.1.1, fun _ => hh.1.2 (by simpa using he), fun _ => hh.2⟩) fun _ _ hh => hh

theorem guarded_ch59xLowPower (time : Nat) {view : IdleView} (hn : view.Notes) :
    GuardedKept board (ch59xLowPower board time view) :=
  (composes_guarded board).bind ((composes_guarded board).read _) fun _ =>
    Kept.ite (fun _ => guarded_explicitSleep time hn) fun _ => guarded_autoSleep time hn

/-! ## Runs -/

theorem guarded_program {call : Call} (hn : call.Notes) : GuardedKept board (call.program board) := by
  have hK := composes_guarded board
  cases call with
  | poll rounds => exact guarded_keyboardUartPoll rounds
  | lowPower time view => exact hK.bind (guarded_ch59xLowPower time hn) fun _ => hK.pure ()
  | clearSleepPending => exact Kept.modify stable_guarded fun h hh => ⟨⟨hh.past, hh.rested⟩, hh.each⟩
  | requestExplicit => exact Kept.modify stable_guarded fun h hh => hh.of_pwr rfl rfl id
  | other => exact hK.pure ()

theorem guarded_reached (hh : Reached board Call.Notes h) : Guarded board h := by
  refine Reach.invariant (I := Guarded board) (fun h hi => ?_) (fun call h t _ hg hs => ?_) hh
  · obtain ⟨time, rfl⟩ := hi
    exact ⟨⟨nofun, nofun⟩, nofun⟩
  · exact guarded_program hs.1 h () t hg hs.2

end Holdoff

end OpenController
