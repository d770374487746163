import OpenController.HostWakeDrain
import OpenController.Lemmas.HostWakeStep

/-!
# What is left to drain

`remaining` bounds the ticks until the machine is idle. Every tick that passes uses it up: a step either leaves the machine waiting
for a shorter time, or moves it on to a wait that was counted already.
-/

namespace OpenController
namespace HostWake

variable {hw : HostWake} {time : Nat}

/-! ## Time -/

/-- The ticks since the last change, as the machine sees them. -/
def waited (hw : HostWake) (time : Nat) : Nat := sub32 (u32 time) hw.since

theorem sub32_since (hw : HostWake) (time : Nat) : sub32 (u32 time) hw.since = hw.waited time := rfl

theorem waited_lt (hw : HostWake) (time : Nat) : hw.waited time < 4294967296 := Nat.mod_lt _ (by decide)

theorem waited_succ (hw : HostWake) (time : Nat) : hw.waited (time + 1) = (hw.waited time + 1) % 4294967296 := by
  simp only [waited, sub32, u32]
  omega

theorem waited_of_since {hw : HostWake} (h : hw.since = u32 time) : hw.waited time = 0 := by
  rw [waited, h, sub32]
  omega

theorem waited_congr (hw' : HostWake) (h : hw'.since = hw.since) (time : Nat) : hw'.waited time = hw.waited time := by
  rw [waited, waited, h]

/-- As long as the counter does not go round, a machine that is left alone waits for the time that passes. -/
theorem waited_next (hw : HostWake) {time' : Nat} (h : hw.waited time < 4294967295) (hle : time ≤ time') (hle' : time' ≤ time + 1) :
    hw.waited time' + time = hw.waited time + time' := by
  rcases Nat.le_succ_iff.mp hle' with hle' | rfl
  · rw [Nat.le_antisymm hle' hle]
  · rw [waited_succ, Nat.mod_eq_of_lt (Nat.succ_lt_succ h)]
    omega

/-! ## What a step keeps -/

/-- The settings and the parts of the invariant that no step changes. -/
structure Settings (hw hw' : HostWake) : Prop where
  guardTicks : hw'.guardTicks = hw.guardTicks
  ackTimeoutTicks : hw'.ackTimeoutTicks = hw.ackTimeoutTicks
  maxAttempts : hw'.maxAttempts = hw.maxAttempts

theorem Settings.trans {hw' hw'' : HostWake} (h : Settings hw hw') (h' : Settings hw' hw'') : Settings hw hw'' :=
  ⟨h'.1.trans h.1, h'.2.trans h.2, h'.3.trans h.3⟩

theorem Settings.frameTicks {hw' : HostWake} (h : Settings hw hw') : hw'.frameTicks = hw.frameTicks := by
  rw [HostWake.frameTicks, HostWake.frameTicks, h.ackTimeoutTicks, h.maxAttempts]

theorem settings_sendNext (hw : HostWake) (now : Nat) : Settings hw (hw.sendNext now).1 :=
  have h := keeps_sendNext hw now
  ⟨h.guardTicks, h.ackTimeoutTicks, h.maxAttempts⟩

theorem settings_retiring (hw : HostWake) (abandoned : Bool) : Settings hw (hw.retiring abandoned) :=
  have h := settles_retiring hw abandoned
  ⟨h.guardTicks, h.ackTimeoutTicks, h.maxAttempts⟩

theorem settings_step (hw : HostWake) (now : Nat) : Settings hw (hw.step now).1 := by
  have hr := stepsTo_step hw now
  generalize hw.step now = r, hw.raisesLost now = lost at hr
  cases hr with
  | stay | rise | resend | lower => exact ⟨rfl, rfl, rfl⟩
  | wake | free => exact settings_sendNext hw now
  | discard _ b =>
    obtain ⟨hg, ht, hm⟩ := settings_retiring hw b
    exact ⟨hg, ht, hm⟩
  | follow => exact (settings_retiring hw false).trans (settings_sendNext _ now)
  | finish =>
    obtain ⟨hg, ht, hm⟩ := settings_retiring hw false
    exact ⟨hg, ht, hm⟩

theorem settings_onAck (hw : HostWake) : Settings hw hw.onAck := by
  unfold onAck
  split <;> exact ⟨rfl, rfl, rfl⟩

/-! ## The frames owed -/

theorem havePending_iff : hw.havePending = true ↔ 0 < hw.pending := by
  rw [havePending, pending, Bool.or_eq_true, bne_iff_ne]
  cases hw.latestPending <;> simp [Nat.pos_iff_ne_zero]

/-- The frame that is taken is still owed: a queued one is counted until it is retired, an LED one is outstanding. -/
theorem owed_sendNext (hw : HostWake) (now : Nat) : (hw.sendNext now).1.owed = hw.pending := by
  cases ht : hw.takesLatest with
  | true =>
    have hl : hw.latestPending = true := by
      rw [takesLatest, Bool.and_eq_true] at ht
      exact ht.1
    simp [owed, pending, settling, sendNext, transmit, takeNext, ht, hl]
  | false => simp [owed, pending, settling, sendNext, transmit, takeNext, ht]

/-- The frame that is retired was owed. -/
theorem pending_retiring (h : Ok hw) (hs : hw.state = .waitAck) (abandoned : Bool) :
    (hw.retiring abandoned).pending + 1 = hw.owed := by
  cases hl : hw.sendingLatest with
  | true =>
    have hp : (hw.settle abandoned).count = hw.count ∧ (hw.settle abandoned).latestPending = hw.latestPending := by
      simp only [settle, hl, Bool.not_true, Bool.false_eq_true, if_false]
      split <;> exact ⟨rfl, rfl⟩
    simp [owed, pending, settling, retiring, hs, hl, hp]
  | false =>
    obtain ⟨hpos, _⟩ := h.outHead (by simp [queuedOut, hs, hl])
    have hle := h.count_le
    have hu : u8 (hw.count + 255) + 1 = hw.count := by
      rw [u8]
      omega
    simp only [owed, pending, settling, retiring, settle, hs, hl]
    simp
    omega

theorem owed_guard (hs : hw.state = .guard) : hw.owed = hw.pending := by simp [owed, settling, hs]

theorem owed_quarantine (hs : hw.state = .quarantine) : hw.owed = hw.pending + 1 := by simp [owed, settling, hs]

theorem owed_pos (h : Ok hw) (hs : hw.state = .waitAck) : 1 ≤ hw.owed := by
  have hp := pending_retiring h hs false
  omega

/-! ## What is left -/

/-- The ticks until a quarantine is seen to be over, when it has waited so long: at least one, and all of them when the counter goes
round at the next tick. -/
def quarantineLeft (timeout waited : Nat) : Nat := if waited < 4294967295 then max 1 (2 * timeout - waited) else 2 * timeout + 1

theorem quarantineLeft_eq {timeout waited : Nat} (h : waited < 4294967295) :
    quarantineLeft timeout waited = max 1 (2 * timeout - waited) := if_pos h

theorem quarantineLeft_le (timeout waited : Nat) : quarantineLeft timeout waited ≤ 2 * timeout + 1 := by
  unfold quarantineLeft
  split <;> omega

theorem quarantineLeft_pos (timeout waited : Nat) : 1 ≤ quarantineLeft timeout waited := by
  unfold quarantineLeft
  split <;> omega

/-- Of a quarantine that is not over, a tick that passes is one less. -/
theorem quarantineLeft_succ {timeout waited : Nat} (hlt : waited < 4294967296) (hround : 2 * timeout < 4294967296)
    (h : (waited + 1) % 4294967296 < 2 * timeout) :
    quarantineLeft timeout ((waited + 1) % 4294967296) + 1 ≤ quarantineLeft timeout waited := by
  rw [quarantineLeft_eq (by omega)]
  unfold quarantineLeft
  split <;> omega

/-- A bound for the ticks until the machine is idle. -/
def remaining (hw : HostWake) (time : Nat) : Nat :=
  match hw.state with
  | .idle => 0
  | .guard => max 1 (hw.guardTicks - hw.waited time) + hw.owed * hw.frameTicks
  | .waitAck => (hw.maxAttempts - hw.attempts) * hw.ackTimeoutTicks + (2 * hw.ackTimeoutTicks - hw.waited time) +
      (hw.owed - 1) * hw.frameTicks
  | .quarantine => quarantineLeft hw.ackTimeoutTicks (hw.waited time) + (hw.owed - 1) * hw.frameTicks

/-- What a step leaves: the machine is idle with nothing pending, or it has to wait. -/
structure Stepped (hw : HostWake) (time : Nat) : Prop where
  idle : hw.state = .idle → hw.havePending = false
  guard : hw.state = .guard → hw.waited time < hw.guardTicks ∨ hw.waited time = 0
  waitAck : hw.state = .waitAck → hw.waited time < hw.ackTimeoutTicks

/-! ## What each branch leaves -/

/-- The frame's ticks: one copy after another, then the quarantine, an ACK timeout of which is that of the last copy. -/
theorem frameTicks_eq (hw : HostWake) (hA : 1 ≤ hw.maxAttempts) :
    hw.frameTicks = (hw.maxAttempts - 1) * hw.ackTimeoutTicks + 2 * hw.ackTimeoutTicks := by
  obtain ⟨tries, htries⟩ : ∃ tries, hw.maxAttempts = tries + 1 := ⟨hw.maxAttempts - 1, by omega⟩
  rw [frameTicks, htries, Nat.add_sub_cancel, ← Nat.add_mul]

theorem owed_mul (hw : HostWake) (h : 1 ≤ hw.owed) : hw.owed * hw.frameTicks = hw.frameTicks + (hw.owed - 1) * hw.frameTicks := by
  obtain ⟨more, hmore⟩ : ∃ more, hw.owed = more + 1 := ⟨hw.owed - 1, by omega⟩
  rw [hmore, Nat.add_sub_cancel, Nat.succ_mul, Nat.add_comm]

/-- Nothing is left of an idle machine. -/
theorem remaining_idle (hs : hw.state = .idle) (time : Nat) : hw.remaining time = 0 := by
  rw [remaining, hs]

/-- The first copy of a frame: it may take all its attempts and the quarantine. -/
theorem stepped_sendNext (hT : 1 ≤ hw.ackTimeoutTicks) (hA : 1 ≤ hw.maxAttempts) (hp : hw.havePending = true) (time : Nat) :
    Stepped (hw.sendNext (u32 time)).1 time ∧
      (hw.sendNext (u32 time)).1.remaining time = hw.pending * hw.frameTicks := by
  have hset := settings_sendNext hw (u32 time)
  have hstate : (hw.sendNext (u32 time)).1.state = .waitAck := rfl
  have hone : (hw.sendNext (u32 time)).1.attempts = 1 := rfl
  have hwait : (hw.sendNext (u32 time)).1.waited time = 0 := waited_of_since rfl
  have howed := owed_sendNext hw (u32 time)
  have hpos := havePending_iff.mp hp
  refine ⟨⟨nofun, nofun, fun _ => ?_⟩, ?_⟩
  · rw [hwait, hset.ackTimeoutTicks]
    exact hT
  · have hframe := frameTicks_eq (hw.sendNext (u32 time)).1 (by rw [hset.maxAttempts]; exact hA)
    rw [← howed, ← hset.frameTicks, owed_mul _ (by omega), remaining, hstate]
    simp only [hwait, hone, Nat.sub_zero]
    omega

/-- One more copy: it may take the attempts that are left. -/
theorem stepped_transmit (h : Ok hw) (hT : 1 ≤ hw.ackTimeoutTicks) (hs : hw.state = .waitAck) (ha : hw.attempts < hw.maxAttempts)
    (time : Nat) : Stepped (hw.transmit (u32 time)).1 time ∧
      (hw.transmit (u32 time)).1.remaining time =
        (hw.maxAttempts - hw.attempts) * hw.ackTimeoutTicks + hw.ackTimeoutTicks + (hw.owed - 1) * hw.frameTicks := by
  have hlt := h.max_lt
  have hu : u8 (hw.attempts + 1) = hw.attempts + 1 := u8_of_lt (by omega)
  have hwait : (hw.transmit (u32 time)).1.waited time = 0 := waited_of_since rfl
  have howed : (hw.transmit (u32 time)).1.owed = hw.owed := by simp [owed, pending, settling, transmit, hs]
  refine ⟨⟨by rintro ⟨⟩, by rintro ⟨⟩, fun _ => hwait ▸ hT⟩, ?_⟩
  obtain ⟨left, hleft⟩ : ∃ left, hw.maxAttempts - hw.attempts = left + 1 := ⟨hw.maxAttempts - hw.attempts - 1, by omega⟩
  have hleft' : hw.maxAttempts - (hw.attempts + 1) = left := by omega
  simp only [remaining, hwait, howed]
  simp only [transmit, hu, hleft, hleft', frameTicks, Nat.succ_mul]
  omega

/-- The quarantine is all that is left of the frame that was retired. -/
theorem stepped_quarantine (h : Ok hw) (hs : hw.state = .waitAck) (abandoned : Bool) (time : Nat) :
    Stepped ((hw.retiring abandoned).inState .quarantine) time ∧
      ((hw.retiring abandoned).inState .quarantine).remaining time =
        quarantineLeft hw.ackTimeoutTicks (hw.waited time) + (hw.owed - 1) * hw.frameTicks := by
  have hset := settings_retiring hw abandoned
  have hframe := hset.frameTicks
  have hp := pending_retiring h hs abandoned
  have hwait : ((hw.retiring abandoned).inState .quarantine).waited time = hw.waited time :=
    waited_congr ((hw.retiring abandoned).inState .quarantine) (settles_retiring hw abandoned).since time
  have howed : ((hw.retiring abandoned).inState .quarantine).owed = hw.owed := by
    rw [← hp]
    simp [owed, settling, inState, pending]
  refine ⟨⟨by rintro ⟨⟩, by rintro ⟨⟩, by rintro ⟨⟩⟩, ?_⟩
  rw [remaining, hwait, howed]
  simp only [inState, frameTicks, hset.ackTimeoutTicks, hset.maxAttempts] at hframe ⊢

/-- A frame that is retired leaves its quarantine at most. -/
theorem stepped_retire (h : Ok hw) (hT : 1 ≤ hw.ackTimeoutTicks) (hs : hw.state = .waitAck) (abandoned : Bool) (time : Nat) :
    Stepped (hw.retire (u32 time) abandoned).1 time ∧
      (hw.retire (u32 time) abandoned).1.remaining time ≤
        quarantineLeft hw.ackTimeoutTicks (hw.waited time) + (hw.owed - 1) * hw.frameTicks := by
  have hset := settings_retiring hw abandoned
  unfold retire
  split
  · obtain ⟨hst, hrem⟩ := stepped_quarantine h hs abandoned time
    exact ⟨hst, Nat.le_of_eq hrem⟩
  · split
    · rename_i hp
      have howed : (hw.retiring abandoned).pending = hw.owed - 1 := by rw [← pending_retiring h hs abandoned, Nat.add_sub_cancel]
      obtain ⟨hst, hrem⟩ := stepped_sendNext (hset.ackTimeoutTicks.symm ▸ hT) (hset.maxAttempts.symm ▸ h.max_pos) hp time
      rw [hset.frameTicks, howed] at hrem
      exact ⟨hst, hrem ▸ Nat.le_add_left _ _⟩
    · rename_i hp
      refine ⟨⟨fun _ => Bool.eq_false_of_not_eq_true hp, nofun, nofun⟩, ?_⟩
      rw [remaining_idle rfl]
      exact Nat.zero_le _

/-! ## A step -/

/-- The settings of a machine whose waits the counter can tell. -/
structure Bounded (hw : HostWake) : Prop extends Ok hw where
  timeout_pos : 1 ≤ hw.ackTimeoutTicks
  timeout_lt : 2 * hw.ackTimeoutTicks < 4294967296
  guard_lt : hw.guardTicks < 4294967296

/-- The first step, from any state at any time: the machine waits as long as its frames may take, and the guard time before them. -/
theorem stepped_first (h : Bounded hw) (time : Nat) :
    Stepped (hw.step (u32 time)).1 time ∧
      (hw.step (u32 time)).1.remaining time ≤ hw.guardTicks + hw.owed * hw.frameTicks + 1 := by
  have hT := h.timeout_pos
  have hframe := frameTicks_eq hw h.max_pos
  cases hs : hw.state with
  | idle =>
    simp only [step, hs]
    by_cases hp : hw.havePending = true
    · have hwait : ({ hw with state := .guard, since := u32 time } : HostWake).waited time = 0 := waited_of_since rfl
      have howed : ({ hw with state := .guard, since := u32 time } : HostWake).owed = hw.owed := by
        simp [owed, pending, settling, hs]
      simp only [hp, Bool.not_true, Bool.false_eq_true, if_false]
      refine ⟨⟨by rintro ⟨⟩, fun _ => .inr hwait, by rintro ⟨⟩⟩, ?_⟩
      simp only [remaining, hwait, howed]
      simp only [frameTicks]
      omega
    · simp only [hp, Bool.not_false, if_true]
      refine ⟨⟨fun _ => Bool.eq_false_of_not_eq_true hp, by simp [hs], by simp [hs]⟩, ?_⟩
      rw [remaining_idle hs]
      exact Nat.zero_le _
  | guard =>
    simp only [step, hs]
    split
    · rename_i ht
      rw [sub32_since] at ht
      refine ⟨⟨by simp [hs], fun _ => .inl ht, by simp [hs]⟩, ?_⟩
      simp only [remaining, hs]
      omega
    · obtain ⟨hst, hrem⟩ := stepped_sendNext hT h.max_pos (h.guardPending hs) time
      refine ⟨hst, ?_⟩
      rw [hrem, ← owed_guard hs]
      omega
  | waitAck =>
    obtain ⟨hone, hmost⟩ := h.copies hs
    have howed := owed_mul hw (owed_pos h.toOk hs)
    have hcopies : (hw.maxAttempts - hw.attempts) * hw.ackTimeoutTicks ≤ (hw.maxAttempts - 1) * hw.ackTimeoutTicks :=
      Nat.mul_le_mul_right _ (by omega)
    have hretire (abandoned : Bool) : Stepped (hw.retire (u32 time) abandoned).1 time ∧
        (hw.retire (u32 time) abandoned).1.remaining time ≤ hw.guardTicks + hw.owed * hw.frameTicks + 1 := by
      obtain ⟨hst, hrem⟩ := stepped_retire h.toOk hT hs abandoned time
      refine ⟨hst, hrem.trans ?_⟩
      have hleft := quarantineLeft_le hw.ackTimeoutTicks (hw.waited time)
      omega
    simp only [step, hs]
    split
    · exact hretire false
    · split
      · rename_i ht
        rw [sub32_since] at ht
        refine ⟨⟨by simp [hs], by simp [hs], fun _ => ht⟩, ?_⟩
        simp only [remaining, hs]
        omega
      · split
        · exact hretire true
        · rename_i ha
          obtain ⟨hst, hrem⟩ := stepped_transmit h.toOk hT hs (Nat.lt_of_not_le ha) time
          refine ⟨hst, ?_⟩
          rw [hrem]
          omega
  | quarantine =>
    have hmul := owed_mul hw (by simp [owed_quarantine hs])
    simp only [step, hs, u32_of_lt h.timeout_lt]
    split
    · rename_i ht
      rw [sub32_since] at ht
      refine ⟨⟨by simp [hs], by simp [hs], by simp [hs]⟩, ?_⟩
      have hleft := quarantineLeft_le hw.ackTimeoutTicks (hw.waited time)
      simp only [remaining, hs]
      omega
    · split
      · rename_i hp
        obtain ⟨hst, hrem⟩ := stepped_sendNext hT h.max_pos hp time
        refine ⟨hst, ?_⟩
        rw [hrem, hmul, owed_quarantine hs, Nat.add_sub_cancel]
        omega
      · rename_i hp
        refine ⟨⟨fun _ => Bool.eq_false_of_not_eq_true hp, by rintro ⟨⟩, by rintro ⟨⟩⟩, ?_⟩
        rw [remaining_idle rfl]
        exact Nat.zero_le _

/-- A later step, at most one tick after the one before it: the machine is idle, or the tick is used up. -/
theorem stepped_next {time time' : Nat} (h : Bounded hw) (hst : Stepped hw time) (hle : time ≤ time') (hle' : time' ≤ time + 1) :
    Stepped (hw.step (u32 time')).1 time' ∧
      ((hw.step (u32 time')).1.state ≠ .idle → time' + (hw.step (u32 time')).1.remaining time' ≤ time + hw.remaining time) := by
  have hT := h.timeout_pos
  have hlt := h.timeout_lt
  cases hs : hw.state with
  | idle =>
    simp only [step, hs, hst.idle hs, Bool.not_false, if_true]
    exact ⟨⟨hst.idle, by simp [hs], by simp [hs]⟩, fun hne => absurd rfl hne⟩
  | guard =>
    have hguard := hst.guard hs
    have hglt := h.guard_lt
    have hmove := waited_next hw (by rcases hguard with hguard | hguard <;> omega) hle hle'
    simp only [step, hs]
    split
    · rename_i ht
      rw [sub32_since] at ht
      refine ⟨⟨by simp [hs], fun _ => .inl ht, by simp [hs]⟩, fun _ => ?_⟩
      simp only [remaining, hs]
      omega
    · rename_i ht
      rw [sub32_since] at ht
      change ¬hw.waited time' < hw.guardTicks at ht
      obtain ⟨hst', hrem⟩ := stepped_sendNext hT h.max_pos (h.guardPending hs) time'
      refine ⟨hst', fun _ => ?_⟩
      rw [hrem, ← owed_guard hs]
      simp only [remaining, hs]
      omega
  | waitAck =>
    have hwait := hst.waitAck hs
    have hmove := waited_next hw (by omega) hle hle'
    have hretire (abandoned : Bool) (ht : hw.waited time' ≤ hw.ackTimeoutTicks) :
        Stepped (hw.retire (u32 time') abandoned).1 time' ∧ ((hw.retire (u32 time') abandoned).1.state ≠ .idle →
          time' + (hw.retire (u32 time') abandoned).1.remaining time' ≤ time + hw.remaining time) := by
      obtain ⟨hst', hrem⟩ := stepped_retire h.toOk hT hs abandoned time'
      refine ⟨hst', fun _ => ?_⟩
      rw [quarantineLeft_eq (by omega)] at hrem
      simp only [remaining, hs] at hrem ⊢
      omega
    simp only [step, hs]
    split
    · exact hretire false (by omega)
    · split
      · rename_i ht
        rw [sub32_since] at ht
        refine ⟨⟨by simp [hs], by simp [hs], fun _ => ht⟩, fun _ => ?_⟩
        simp only [remaining, hs]
        omega
      · rename_i ht
        rw [sub32_since] at ht
        change ¬hw.waited time' < hw.ackTimeoutTicks at ht
        split
        · exact hretire true (by omega)
        · rename_i ha
          obtain ⟨hst', hrem⟩ := stepped_transmit h.toOk hT hs (Nat.lt_of_not_le ha) time'
          refine ⟨hst', fun _ => ?_⟩
          rw [hrem]
          simp only [remaining, hs]
          omega
  | quarantine =>
    simp only [step, hs, u32_of_lt h.timeout_lt]
    split
    · rename_i ht
      rw [sub32_since] at ht
      refine ⟨⟨by simp [hs], by simp [hs], by simp [hs]⟩, fun _ => ?_⟩
      simp only [remaining, hs]
      rcases Nat.le_succ_iff.mp hle' with hle' | rfl
      · rw [Nat.le_antisymm hle' hle]
      · rw [waited_succ] at ht ⊢
        have hleft := quarantineLeft_succ (hw.waited_lt time) hlt ht
        omega
    · split
      · rename_i hp
        obtain ⟨hst', hrem⟩ := stepped_sendNext hT h.max_pos hp time'
        refine ⟨hst', fun _ => ?_⟩
        rw [hrem]
        have hleft := quarantineLeft_pos hw.ackTimeoutTicks (hw.waited time)
        simp only [remaining, hs, owed_quarantine hs, Nat.add_sub_cancel]
        omega
      · rename_i hp
        exact ⟨⟨fun _ => Bool.eq_false_of_not_eq_true hp, by rintro ⟨⟩, by rintro ⟨⟩⟩, fun hne => absurd rfl hne⟩

/-- A machine that is not idle has a tick left. -/
theorem remaining_pos (h : Bounded hw) (hst : Stepped hw time) (hs : hw.state ≠ .idle) : 1 ≤ hw.remaining time := by
  have hT := h.timeout_pos
  cases hstate : hw.state with
  | idle => exact absurd hstate hs
  | guard =>
    simp only [remaining, hstate]
    omega
  | waitAck =>
    have hwait := hst.waitAck hstate
    simp only [remaining, hstate]
    omega
  | quarantine =>
    have hleft := quarantineLeft_pos hw.ackTimeoutTicks (hw.waited time)
    simp only [remaining, hstate]
    omega

end HostWake
end OpenController
