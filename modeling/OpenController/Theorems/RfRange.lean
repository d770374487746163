import OpenController.Lemmas.RfRangeRun

/-!
# The range of the connected hop, in every state

Between any two statements of any call, the hop is in range; so nothing that `RF_ConnectedTick` computes there leaves its type.
-/

namespace OpenController

/-! ## What the tick computes -/

theorem spanInRange {now then_ : Nat} (ht : then_ < rtc32kWrap) : SpanInRange now then_ := by
  intro hlt
  rw [rtc32kWrap_eq] at ht ⊢
  omega

/-- The sum is less than twice the modulus. -/
theorem sumInRange {t ticks : Nat} (ht : t < rtc32kWrap) (hticks : ticks ≤ 200) : SumInRange t ticks := by
  have hsum : t + ticks < 4294967296 := by
    rw [rtc32kWrap_eq] at ht
    omega
  exact ⟨hsum, rtcReduce_lt hsum⟩

theorem Rf.HopRange.tick {s : Rf} (h : s.HopRange) {interval : Nat} (hi : HopInterval interval) : s.TickInRange interval where
  divisor := Nat.ne_of_gt (Nat.lt_of_lt_of_le (by decide) hi.1)
  channel := h.hop.index
  elapsed := spanInRange h.hop.anchor
  waited := spanInRange h.armed
  limits := by
    have := hi.2
    rw [rfHopDesyncIntervals]
    omega
  parked := sumInRange h.hop.anchor (Nat.le_trans hi.2 (by decide))
  steps := by
    intro step hstep
    have hindex := h.hop.index
    have hway : interval * step ≤ 200 := Nat.mul_le_mul hi.2 hstep
    rw [numDataChannels] at hindex hstep
    exact ⟨by omega, sumInRange h.hop.anchor hway, by omega⟩
  backdated := fun ticks ht => rtcBackdate32k_lt h.now (Nat.le_trans ht (by decide))

/-- The interval that the tick reads is that of the session. -/
theorem RfHop.InRange.read {h : RfHop} (hr : h.InRange) : HopInterval h.interval := by
  have hset : h.connInterval ≠ 0 := Nat.ne_of_gt (Nat.lt_of_lt_of_le (by decide) hr.interval.1)
  rw [RfHop.interval, if_pos hset]
  exact hr.interval

/-- However callbacks with any packets run into the calls of the main loop: in every state that a call goes through, the interval of
the session, the channel index and the anchors are in range, and so is all that `RF_ConnectedTick` computes. -/
theorem hop_in_range {s u : Rf} (h : RfClocked s) (call : RfCall) (hv : Prog.Visits RfClock call.program s u) :
    u.HopRange ∧ HopInterval u.hop.interval ∧ ∀ interval, HopInterval interval → u.TickInRange interval := by
  have hrange := safe_program call s u (rangeOk_clocked h) hv
  exact ⟨hrange.toHopRange, hrange.hop.read, fun _ hi => hrange.toHopRange.tick hi⟩

/-! ## A run -/

/-- The counter shows a value below its modulus. -/
def RfOp.ShowsClock : RfOp → Prop
  | .hardware hw => hw.rtc < rtc32kWrap
  | _ => True

theorem RfClocked.apply {s : Rf} (h : RfClocked s) {op : RfOp} (ho : op.ShowsClock) : RfClocked (op.apply s) := by
  have hnow := (rangeOk_clocked h).now
  refine reach_apply (fun hc => ⟨RfOp.anytime hc s, ?_⟩) h
  cases op with
  | callback sta rsr rxBuf => exact (s.callback_hw sta rsr rxBuf) ▸ hnow
  | tmr0Irq => exact s.tmr0IRQHandler_hw ▸ hnow
  | hardware hw => exact ho
  | tmr0Cycle => exact hnow
  | expire e => exact hnow
  | advance ticks => exact hnow
  | _ => nomatch hc

theorem RfClocked.after {s : Rf} (h : RfClocked s) {ops : List RfOp} (ho : ∀ op ∈ ops, op.ShowsClock) : RfClocked (s.after ops) := by
  induction ops generalizing s with
  | nil => exact h
  | cons op ops ih => exact ih (h.apply (ho op (.head _))) fun o ho' => ho o (.tail _ ho')

/-- A keyboard that has connected, after the next tick. -/
theorem hop_in_range_pairUp : (rfConnectedTick.exec (newKeyboard.after (pairUp ++ [.process]))).HopRange := by
  have h : RfClocked (newKeyboard.after (pairUp ++ [.process])) := by
    refine RfClocked.after (.init ⟨⟨_, _, _, _, rfl⟩, by decide⟩) fun op hop => ?_
    simp only [pairUp, List.cons_append, List.nil_append, List.mem_cons, List.not_mem_nil, or_false] at hop
    rcases hop with rfl | rfl | rfl | rfl | rfl | rfl | rfl | rfl <;> trivial
  exact (hop_in_range h .connectedTick (Prog.runs_run _ _ _).visits).1

end OpenController
