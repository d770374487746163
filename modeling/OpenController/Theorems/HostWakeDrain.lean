import OpenController.Lemmas.HostWakeDrainRun

/-!
# Host wake drains

With nothing more offered, host wake is idle after the guard time and the time that the frames it owes may take, whatever it was
doing and whatever the host ACKs.
-/

namespace OpenController
namespace HostWake

variable {hw₀ hw : HostWake} {start time : Nat}

/-- The settings of a machine that is run from its start are those it was started with. -/
theorem run_settings {g t : Fin 4294967296} {m : Fin 256} {evs : List HostWakeEvent} (h : Run g t m hw evs) :
    Ok hw ∧ hw.guardTicks = g ∧ hw.ackTimeoutTicks = t := by
  induction h with
  | init => exact ⟨ok_init g t m, rfl, rfl⟩
  | @enqueue hw _ cmd val _ ih =>
    obtain ⟨hok, hg, ht⟩ := ih
    refine ⟨ok_enqueue hw cmd val hok, ?_, ?_⟩
    all_goals
      unfold enqueue
      split <;> assumption
  | @setLatest hw _ cmd val _ ih =>
    obtain ⟨hok, hg, ht⟩ := ih
    exact ⟨ok_setLatest hw cmd val hok, hg, ht⟩
  | @onAck hw _ _ ih =>
    obtain ⟨hok, hg, ht⟩ := ih
    have hset := settings_onAck hw
    exact ⟨ok_onAck hw hok, hset.guardTicks.trans hg, hset.ackTimeoutTicks.trans ht⟩
  | @step hw _ now _ ih =>
    obtain ⟨hok, hg, ht⟩ := ih
    have hset := settings_step hw now
    exact ⟨ok_step hok now, hset.guardTicks.trans hg, hset.ackTimeoutTicks.trans ht⟩

theorem Bounded.keep {hw' : HostWake} (h : Bounded hw) (hok : Ok hw') (hset : Settings hw hw') : Bounded hw' := by
  refine ⟨hok, ?_, ?_, ?_⟩
  · rw [hset.ackTimeoutTicks]
    exact h.timeout_pos
  · rw [hset.ackTimeoutTicks]
    exact h.timeout_lt
  · rw [hset.guardTicks]
    exact h.guard_lt

/-- An ACK changes neither what is owed nor what is left. -/
theorem onAck_cases (hw : HostWake) : hw.onAck = hw ∨ hw.onAck = { hw with acked := true } := by
  unfold onAck
  split
  · exact .inr rfl
  · exact .inl rfl

theorem owed_onAck (hw : HostWake) : hw.onAck.owed = hw.owed := by
  rcases hw.onAck_cases with hack | hack
  · rw [hack]
  · rw [hack]
    rfl

theorem Stepped.onAck (h : Stepped hw time) : Stepped hw.onAck time ∧ hw.onAck.remaining time = hw.remaining time := by
  rcases hw.onAck_cases with hack | hack
  · rw [hack]
    exact ⟨h, rfl⟩
  · rw [hack]
    exact ⟨⟨h.idle, h.guard, h.waitAck⟩, rfl⟩

/-- Along a run the time that passes is taken from what is left. -/
theorem drains_remaining (h : Bounded hw₀) (hd : Drains hw₀ start time hw) :
    Bounded hw ∧ Stepped hw (start + time) ∧
      (hw.state ≠ .idle → time + hw.remaining (start + time) ≤ hw₀.guardTicks + hw₀.owed * hw₀.frameTicks + 1) := by
  induction hd with
  | @first hw hfirst =>
    have hb : Bounded hw ∧ hw.guardTicks = hw₀.guardTicks ∧ hw.owed = hw₀.owed ∧ hw.frameTicks = hw₀.frameTicks := by
      rcases hfirst with rfl | rfl
      · exact ⟨h, rfl, rfl, rfl⟩
      · have hset := settings_onAck hw₀
        exact ⟨h.keep (ok_onAck hw₀ h.toOk) hset, hset.guardTicks, owed_onAck hw₀, hset.frameTicks⟩
    obtain ⟨hb, hg, ho, hf⟩ := hb
    obtain ⟨hst, hrem⟩ := stepped_first hb start
    refine ⟨hb.keep (ok_step hb.toOk _) (settings_step hw _), hst, fun _ => ?_⟩
    rw [hg, ho, hf] at hrem
    rw [Nat.zero_add]
    exact hrem
  | @onAck time hw _ ih =>
    obtain ⟨hb, hst, hrem⟩ := ih
    obtain ⟨hst', hleft⟩ := hst.onAck
    refine ⟨hb.keep (ok_onAck hw hb.toOk) (settings_onAck hw), hst', fun hs => ?_⟩
    rw [hleft]
    refine hrem fun hidle => hs ?_
    rcases hw.onAck_cases with hack | hack
    · rw [hack]
      exact hidle
    · rw [hack]
      exact hidle
  | @step time time' hw _ hle hle' ih =>
    obtain ⟨hb, hst, hrem⟩ := ih
    obtain ⟨hst', hnext⟩ := stepped_next hb hst (Nat.add_le_add_left hle start) (Nat.add_le_add_left hle' start)
    refine ⟨hb.keep (ok_step hb.toOk _) (settings_step hw _), hst', fun hs => ?_⟩
    have hidle : hw.state ≠ .idle := by
      intro hidle
      simp [step, hidle, hst.idle hidle] at hs
    have hrem := hrem hidle
    have hnext := hnext hs
    omega

end HostWake

open HostWake in
/-- Host wake drains. From every reachable state, with steps at most one tick apart, nothing more offered and any pattern of ACKs,
the machine is idle once the time has moved, from the first step on, by the guard time, `maxAttempts + 1` ACK timeouts for each of the
`n` frames it owed, and one tick. -/
theorem hostWake_drains {g t : Fin 4294967296} {m : Fin 256} {hw hw' : HostWake} {evs : List HostWakeEvent} {start time : Nat}
    (hr : HostWake.Run g t m hw evs) (ht : 1 ≤ t.val) (hround : 2 * t.val < 4294967296) (hd : Drains hw start time hw') :
    hw.owed ≤ hostWakeQueueSize + 2 ∧
      (g.val + hw.owed * ((hw.maxAttempts + 1) * t.val) + 1 ≤ time → hw'.isIdle = true) := by
  obtain ⟨hok, hg, hto⟩ := run_settings hr
  have hb : Bounded hw := ⟨hok, hto.symm ▸ ht, hto.symm ▸ hround, hg.symm ▸ g.isLt⟩
  obtain ⟨hb', hst, hrem⟩ := drains_remaining hb hd
  refine ⟨?_, fun hlate => ?_⟩
  · have hcount := hok.count_le
    have hlatest := Bool.toNat_le hw.latestPending
    have hsettling := Bool.toNat_le hw.settling
    rw [owed, pending, hostWakeQueueSize]
    omega
  · have hidle : hw'.state = .idle := by
      by_contra hs
      have hleft := remaining_pos hb' hst hs
      have hrem := hrem hs
      rw [hg, frameTicks, hto] at hrem
      omega
    rw [isIdle, hidle, hst.idle hidle]
    rfl

/-- A frame is queued during the quarantine of another, which nobody ACKed; the counter has gone round. No frame is ACKed: the machine
is not idle after ten ticks, and idle after twenty-one. -/
theorem hostWake_drains_unanswered : ∃ hw evs, HostWake.Run 2 3 2 hw evs ∧ hw.state = .quarantine ∧ hw.owed = 2 ∧
    (hw.stepped 4294967297 10).isIdle = false ∧ (hw.stepped 4294967297 21).isIdle = true := by
  have h0 := HostWake.Run.step 4294967288 (.enqueue 0x5B 0x32 (.init (g := 2) (t := 3) (m := 2)))
  have h1 := ((h0.step 4294967290).step 4294967293).step 0
  have h2 := h1.enqueue 0x5B 0x33
  exact ⟨_, _, h2, by decide +kernel, by decide +kernel, by decide +kernel,
    (hostWake_drains h2 (by decide) (by decide) (HostWake.drains_stepped _ 4294967297 21)).2 (by decide +kernel)⟩

end OpenController
