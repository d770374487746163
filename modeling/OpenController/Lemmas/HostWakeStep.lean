import OpenController.HostWakeLed
import OpenController.Lemmas.HostWakeRun

/-!
# What a step of host wake does

`StepsTo` says it once, with the guards of every branch; the invariants of the runs are proved by cases on it.
-/

namespace OpenController
namespace HostWake

variable {hw : HostWake} {now : Nat}

/-- An LED frame is abandoned, and no newer value is behind it. -/
def losesLatest (hw : HostWake) (abandoned : Bool) : Bool := abandoned && hw.sendingLatest && !hw.latestPending

/-- What a step at the time `now` can do, and whether it raises `latest_lost`. -/
inductive StepsTo (hw : HostWake) (now : Nat) : HostWake × HostWakeStep → Bool → Prop where
  /-- Nothing happens: CHWAKE is low with nothing to send, or high. -/
  | stay (h : hw.state = .idle → hw.havePending = false) : StepsTo hw now (hw, .quiet (decide (hw.state ≠ .idle))) false
  /-- CHWAKE is raised. -/
  | rise (hs : hw.state = .idle) (hp : hw.havePending = true) :
      StepsTo hw now ({ hw with state := .guard, since := now }, .quiet true) false
  /-- The guard time is over. -/
  | wake (hs : hw.state = .guard) (ht : hw.guardTicks ≤ sub32 now hw.since) : StepsTo hw now (hw.sendNext now) false
  /-- One more copy goes out. -/
  | resend (hs : hw.state = .waitAck) (ht : hw.ackTimeoutTicks ≤ sub32 now hw.since) (ha : hw.attempts < hw.maxAttempts) :
      StepsTo hw now (hw.transmit now) false
  /-- The frame is retired, after a resend or abandoned: late ACKs are discarded. -/
  | discard (hs : hw.state = .waitAck) (abandoned : Bool) (ha : abandoned = false → hw.acked = true)
      (hr : hw.attempts > 1 ∨ abandoned = true) :
      StepsTo hw now ((hw.retiring abandoned).inState .quarantine, .quiet true) (hw.losesLatest abandoned)
  /-- The frame is retired by an ACK of its only copy, and the next one follows. -/
  | follow (hs : hw.state = .waitAck) (ha : hw.acked = true) (hr : hw.attempts ≤ 1) (hp : (hw.retiring false).havePending = true) :
      StepsTo hw now ((hw.retiring false).sendNext now) false
  /-- The frame is retired by an ACK of its only copy, and nothing is left. -/
  | finish (hs : hw.state = .waitAck) (ha : hw.acked = true) (hr : hw.attempts ≤ 1)
      (hp : (hw.retiring false).havePending = false) : StepsTo hw now ((hw.retiring false).inState .idle, .quiet false) false
  /-- The quarantine is over, and the next frame goes out. -/
  | free (hs : hw.state = .quarantine) (ht : u32 (2 * hw.ackTimeoutTicks) ≤ sub32 now hw.since) (hp : hw.havePending = true) :
      StepsTo hw now (hw.sendNext now) false
  /-- The quarantine is over, and nothing is left. -/
  | lower (hs : hw.state = .quarantine) (ht : u32 (2 * hw.ackTimeoutTicks) ≤ sub32 now hw.since) (hp : hw.havePending = false) :
      StepsTo hw now (hw.inState .idle, .quiet false) false

/-! ## What a function leaves alone -/

/-- What taking a frame and sending a copy leave alone. -/
structure Keeps (hw hw' : HostWake) : Prop where
  guardTicks : hw'.guardTicks = hw.guardTicks
  ackTimeoutTicks : hw'.ackTimeoutTicks = hw.ackTimeoutTicks
  maxAttempts : hw'.maxAttempts = hw.maxAttempts
  latestLost : hw'.latestLost = hw.latestLost
  latestCmd : hw'.latestCmd = hw.latestCmd
  latestVal : hw'.latestVal = hw.latestVal
  count : hw'.count = hw.count
  retired : hw'.retired = hw.retired
  abandoned : hw'.abandoned = hw.abandoned

theorem keeps_sendNext (hw : HostWake) (now : Nat) : Keeps hw (hw.sendNext now).1 := by
  unfold sendNext transmit takeNext
  dsimp only
  split <;> exact ⟨rfl, rfl, rfl, rfl, rfl, rfl, rfl, rfl, rfl⟩

/-- What settling a frame leaves alone. -/
structure Settles (hw hw' : HostWake) : Prop where
  guardTicks : hw'.guardTicks = hw.guardTicks
  ackTimeoutTicks : hw'.ackTimeoutTicks = hw.ackTimeoutTicks
  maxAttempts : hw'.maxAttempts = hw.maxAttempts
  since : hw'.since = hw.since
  latestPending : hw'.latestPending = hw.latestPending
  latestCmd : hw'.latestCmd = hw.latestCmd
  latestVal : hw'.latestVal = hw.latestVal
  lastLatest : hw'.lastLatest = hw.lastLatest

theorem settles_retiring (hw : HostWake) (abandoned : Bool) : Settles hw (hw.retiring abandoned) := by
  unfold retiring settle
  dsimp only
  split
  · exact ⟨rfl, rfl, rfl, rfl, rfl, rfl, rfl, rfl⟩
  · split <;> exact ⟨rfl, rfl, rfl, rfl, rfl, rfl, rfl, rfl⟩

/-- Only an abandoned LED frame with no newer value behind it raises `latest_lost`. -/
theorem latestLost_retiring (hw : HostWake) (abandoned : Bool) :
    (hw.retiring abandoned).latestLost = (hw.latestLost || hw.losesLatest abandoned) := by
  unfold retiring settle losesLatest
  dsimp only
  cases hw.sendingLatest <;> cases abandoned <;> cases hw.latestPending <;> simp

theorem latestLost_retire (hw : HostWake) (abandoned : Bool) :
    (hw.retire now abandoned).1.latestLost = (hw.latestLost || hw.losesLatest abandoned) := by
  rw [← latestLost_retiring]
  unfold retire
  split
  · rfl
  · split
    · exact (keeps_sendNext _ now).latestLost
    · rfl

/-! ## The cases -/

/-- The frame is retired. -/
theorem stepsTo_retire (hs : hw.state = .waitAck) (abandoned : Bool) (ha : abandoned = false → hw.acked = true) :
    StepsTo hw now (hw.retire now abandoned) (hw.clearLost.retire now abandoned).1.latestLost := by
  have hlost : (hw.clearLost.retire now abandoned).1.latestLost = hw.losesLatest abandoned := by
    rw [latestLost_retire]
    rfl
  rw [hlost]
  unfold retire
  split
  · exact .discard hs abandoned ha ‹_›
  · rename_i hr
    rw [not_or, Nat.not_lt, Bool.not_eq_true] at hr
    obtain ⟨hone, rfl⟩ := hr
    split
    · exact .follow hs (ha rfl) hone ‹_›
    · exact .finish hs (ha rfl) hone (Bool.eq_false_of_not_eq_true ‹_›)

theorem stepsTo_step (hw : HostWake) (now : Nat) : StepsTo hw now (hw.step now) (hw.raisesLost now) := by
  have hstay (h : hw.state ≠ .idle) : StepsTo hw now (hw, .quiet true) false := by
    have hs : StepsTo hw now (hw, .quiet (decide (hw.state ≠ .idle))) false := .stay fun hi => absurd hi h
    rwa [decide_eq_true h] at hs
  -- Clearing the flag changes no guard of the step.
  unfold raisesLost
  cases hs : hw.state with
  | idle =>
    have hs' : hw.clearLost.state = .idle := hs
    simp only [step, hs, hs']
    by_cases hp : hw.havePending = true
    · have hp' : hw.clearLost.havePending = true := hp
      simp only [hp, hp', Bool.not_true, Bool.false_eq_true, if_false]
      exact .rise hs hp
    · have hp' : ¬hw.clearLost.havePending = true := hp
      simp only [hp, hp', Bool.not_false, if_true]
      have hlow : StepsTo hw now (hw, .quiet (decide (hw.state ≠ .idle))) false := .stay fun _ => Bool.eq_false_of_not_eq_true hp
      rwa [decide_eq_false (not_not.mpr hs)] at hlow
  | guard =>
    have hs' : hw.clearLost.state = .guard := hs
    simp only [step, hs, hs']
    by_cases ht : sub32 now hw.since < hw.guardTicks
    · have ht' : sub32 now hw.clearLost.since < hw.clearLost.guardTicks := ht
      simp only [ht, ht', if_true]
      exact hstay (by simp [hs])
    · have ht' : ¬sub32 now hw.clearLost.since < hw.clearLost.guardTicks := ht
      simp only [ht, ht', if_false]
      rw [(keeps_sendNext hw.clearLost now).latestLost]
      exact .wake hs (not_lt.mp ht)
  | waitAck =>
    have hs' : hw.clearLost.state = .waitAck := hs
    simp only [step, hs, hs']
    by_cases ha : hw.acked = true
    · have ha' : hw.clearLost.acked = true := ha
      simp only [ha, ha', if_true]
      exact stepsTo_retire hs false fun _ => ha
    have ha' : ¬hw.clearLost.acked = true := ha
    by_cases ht : sub32 now hw.since < hw.ackTimeoutTicks
    · have ht' : sub32 now hw.clearLost.since < hw.clearLost.ackTimeoutTicks := ht
      simp only [ha, ha', ht, ht', if_true]
      exact hstay (by simp [hs])
    have ht' : ¬sub32 now hw.clearLost.since < hw.clearLost.ackTimeoutTicks := ht
    by_cases hm : hw.attempts ≥ hw.maxAttempts
    · have hm' : hw.clearLost.attempts ≥ hw.clearLost.maxAttempts := hm
      simp only [ha, ha', ht, ht', hm, hm', if_true, if_false]
      exact stepsTo_retire hs true nofun
    · have hm' : ¬hw.clearLost.attempts ≥ hw.clearLost.maxAttempts := hm
      simp only [ha, ha', ht, ht', hm, hm', if_false]
      exact .resend hs (not_lt.mp ht) (not_le.mp hm)
  | quarantine =>
    have hs' : hw.clearLost.state = .quarantine := hs
    simp only [step, hs, hs']
    by_cases ht : sub32 now hw.since < u32 (2 * hw.ackTimeoutTicks)
    · have ht' : sub32 now hw.clearLost.since < u32 (2 * hw.clearLost.ackTimeoutTicks) := ht
      simp only [ht, ht', if_true]
      exact hstay (by simp [hs])
    have ht' : ¬sub32 now hw.clearLost.since < u32 (2 * hw.clearLost.ackTimeoutTicks) := ht
    by_cases hp : hw.havePending = true
    · have hp' : hw.clearLost.havePending = true := hp
      simp only [ht, ht', hp, hp', if_true, if_false]
      rw [(keeps_sendNext hw.clearLost now).latestLost]
      exact .free hs (not_lt.mp ht) hp
    · have hp' : ¬hw.clearLost.havePending = true := hp
      simp only [ht, ht', hp, hp', if_false]
      exact .lower hs (not_lt.mp ht) (Bool.eq_false_of_not_eq_true hp)

/-- A machine with no frame outstanding that is not in its guard time. -/
theorem ok_parked (hs : Sized hw) (h1 : hw.state ≠ .waitAck) (h2 : hw.state ≠ .guard) : Ok hw := by
  refine { hs with copies := fun hw => absurd hw h1, outHead := ?_, guardPending := fun hg => absurd hg h2 }
  intro hq
  simp [queuedOut, h1] at hq

/-- Every step keeps the machine's invariant. -/
theorem ok_stepsTo (h : Ok hw) {r : HostWake × HostWakeStep} {lost : Bool} (hr : StepsTo hw now r lost) : Ok r.1 := by
  cases hr with
  | stay => exact h
  | rise hs hp =>
    refine { h.toSized with copies := by rintro ⟨⟩, outHead := ?_, guardPending := fun _ => hp }
    intro hq
    simp [queuedOut] at hq
  | wake hs => exact ok_sendNext hw now h.toSized (h.guardPending hs)
  | resend hs _ ha => exact ok_transmit hw now h hs ha
  | discard hs b =>
    have hsz := sized_retiring hw b h hs
    exact ok_parked ⟨hsz.1, hsz.2, hsz.3, hsz.4⟩ (by rintro ⟨⟩) (by rintro ⟨⟩)
  | follow hs _ _ hp => exact ok_sendNext _ now (sized_retiring hw false h hs) hp
  | finish hs =>
    have hsz := sized_retiring hw false h hs
    exact ok_parked ⟨hsz.1, hsz.2, hsz.3, hsz.4⟩ (by rintro ⟨⟩) (by rintro ⟨⟩)
  | free _ _ hp => exact ok_sendNext hw now h.toSized hp
  | lower => exact ok_parked ⟨h.head_lt, h.count_le, h.max_pos, h.max_lt⟩ (by rintro ⟨⟩) (by rintro ⟨⟩)

theorem ok_step (h : Ok hw) (now : Nat) : Ok (hw.step now).1 := ok_stepsTo h (stepsTo_step hw now)

/-! ## What the cases show -/

/-- A retirement with nothing after it shows itself. -/
theorem eventsTo_retired (hw : HostWake) (abandoned : Bool) (s : HostWakeState) (line : Bool) :
    hw.eventsTo ((hw.retiring abandoned).inState s, .quiet line) = [.retired hw.sendingLatest abandoned] := by
  rw [eventsTo_retiring hw abandoned _ rfl rfl, eventsTo_inState]

/-- A retirement with the next frame after it shows itself, and a first copy. -/
theorem eventsTo_follow (hw : HostWake) (abandoned : Bool) (now : Nat) :
    hw.eventsTo ((hw.retiring abandoned).sendNext now) = [.retired hw.sendingLatest abandoned,
      .copy ⟨((hw.retiring abandoned).sendNext now).2.cmd, ((hw.retiring abandoned).sendNext now).2.val⟩
        ((hw.retiring abandoned).sendNext now).1.sendingLatest true] := by
  have hkeep := keeps_sendNext (hw.retiring abandoned) now
  rw [eventsTo_retiring hw abandoned _ hkeep.retired hkeep.abandoned, eventsTo_sendNext _ _ now rfl]

/-- Raising CHWAKE shows nothing. -/
theorem eventsTo_rise (hw : HostWake) (now : Nat) :
    hw.eventsTo ({ hw with state := .guard, since := now }, .quiet true) = [] := by
  simp [eventsTo, HostWakeStep.quiet]

/-- The frame that is taken, and its kind. -/
theorem takes_cases (hw : HostWake) (now : Nat) :
    (hw.takesLatest = true ∧ (hw.sendNext now).1.sendingLatest = true ∧
      (⟨(hw.sendNext now).2.cmd, (hw.sendNext now).2.val⟩ : Frame) = ⟨hw.latestCmd, hw.latestVal⟩ ∧
      (hw.sendNext now).1.latestPending = false) ∨
    (hw.takesLatest = false ∧ (hw.sendNext now).1.sendingLatest = false ∧
      (hw.sendNext now).1.latestPending = hw.latestPending) := by
  cases ht : hw.takesLatest with
  | true =>
    left
    simp [sendNext, transmit, takeNext, ht]
  | false =>
    right
    simp [sendNext, transmit, takeNext, ht]

end HostWake
end OpenController
