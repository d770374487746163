import OpenController.Lemmas.RtcAux
import OpenController.RtcCircle

/-!
# Elapsed times and phases on the counter circle

The readers of elapsed times compare samples as they are, so a stale sample is taken for a stale one unless the counter went round in
between. The servo compares them around the modulus, and brings the anchor into the deadband from either side.
-/

namespace OpenController

/-! ## Elapsed times -/

theorem rtcAhead_of_le {now then_ : Nat} (hn : now < rtc32kWrap) (h : then_ ≤ now) : rtcAhead now then_ = now - then_ := by
  rw [rtcAhead, Int.emod_eq_of_lt (by omega) (by omega)]
  omega

theorem rtcAhead_of_lt {now then_ : Nat} (ht : then_ < rtc32kWrap) (h : now < then_) :
    rtcAhead now then_ = now + (rtc32kWrap - then_) := by
  have hround : ((now : Int) - then_) % (rtc32kWrap : Int) = (now - then_ + rtc32kWrap) % rtc32kWrap := (Int.add_emod_right _ _).symm
  rw [rtcAhead, hround, Int.emod_eq_of_lt (by omega) (by omega)]
  omega

/-- The two readers are one. -/
theorem sleepProtocolElapsedTicks_eq (now then_ : Nat) :
    sleepProtocolElapsedTicks now then_ rtcMaxCount rtc32kBackstepTolerance = rtcDelta32k now then_ := by
  rw [sleepProtocolElapsedTicks, rtcDelta32k, rtcMaxCount, Nat.add_comm]

theorem rtcDelta32k_of_lt {now then_ : Nat} (ht : then_ < rtc32kWrap) (h : now < then_) (hfar : rtc32kBackstepTolerance < then_ - now) :
    rtcDelta32k now then_ = now + (rtc32kWrap - then_) := by
  rw [rtc32kWrap_eq] at ht ⊢
  rw [rtcDelta32k, if_neg (by omega), if_neg (by omega), u32, sub32, rtc32kWrap_eq]
  omega

/-- For every two samples: both readers honour the tolerance, unless the later one is stale and the counter went round in between. -/
theorem elapsed_honours_backstep {now then_ : Nat} (hn : now < rtc32kWrap) (ht : then_ < rtc32kWrap) :
    HonoursBackstep now then_ ↔ ¬StaleAcrossWrap now then_ := by
  rw [HonoursBackstep, sleepProtocolElapsedTicks_eq, and_self, ReadsElapsed, StaleAcrossWrap]
  rcases Nat.lt_or_ge now then_ with hlt | hge
  · -- the samples are in the other order: it is stale if they are close
    have hback := rtcAhead_of_le ht (Nat.le_of_lt hlt)
    have hahead := rtcAhead_of_lt ht hlt
    rw [hback, hahead]
    refine ⟨fun _ h => absurd h.1 (Nat.not_le.mpr hlt), fun _ => ⟨fun h => ?_, fun h => ?_⟩⟩
    · rw [rtcDelta32k, if_neg (Nat.not_le.mpr hlt), if_pos h.2]
    · exact rtcDelta32k_of_lt ht hlt (by omega)
  · have hahead := rtcAhead_of_le hn hge
    have hdelta : rtcDelta32k now then_ = now - then_ := if_pos hge
    rw [hahead, hdelta]
    rcases Nat.eq_or_lt_of_le hge with rfl | hgt
    · have hself : rtcAhead then_ then_ = 0 := by rw [rtcAhead_of_le ht (Nat.le_refl _), Nat.sub_self]
      rw [hself, Nat.sub_self, rtc32kWrap_eq, rtc32kBackstepTolerance]
      omega
    · have hback := rtcAhead_of_lt hn hgt
      rw [hback]
      rw [rtc32kWrap_eq, rtc32kBackstepTolerance] at *
      omega

/-- A stale sample with no round in between. -/
theorem elapsed_honours_backstep_stale : HonoursBackstep 5 100 :=
  (elapsed_honours_backstep (by decide) (by decide)).mpr fun h => absurd h.1 (by decide)

/-- The sample before was taken three ticks after the counter went round, and this one shows two ticks before it did: five ticks back
are taken for almost a whole round. -/
theorem elapsed_honours_backstep_false : rtcAhead 3 (rtc32kWrap - 2) = 5 ∧ rtcDelta32k (rtc32kWrap - 2) 3 = rtc32kWrap - 5 ∧
    sleepProtocolElapsedTicks (rtc32kWrap - 2) 3 rtcMaxCount rtc32kBackstepTolerance = rtc32kWrap - 5 ∧
      ¬HonoursBackstep (rtc32kWrap - 2) 3 := by
  have hahead : rtcAhead 3 (rtc32kWrap - 2) = 5 := by decide
  have hread : rtcDelta32k (rtc32kWrap - 2) 3 = rtc32kWrap - 5 := by decide
  refine ⟨hahead, hread, by decide, fun h => ?_⟩
  have hnone : rtcDelta32k (rtc32kWrap - 2) 3 = 0 := h.1.1 ⟨by rw [hahead]; decide, by rw [hahead]; decide⟩
  exact absurd (hread.symm.trans hnone) (by decide)

/-! ## Phases -/

theorem wayForward32k_eq {ref anchor : Nat} (hr : ref < rtc32kWrap) (ha : anchor < rtc32kWrap) :
    wayForward32k ref anchor = rtcAhead ref anchor := by
  rcases Nat.lt_or_ge ref anchor with hlt | hge
  · rw [wayForward32k, if_neg (Nat.not_le.mpr hlt), rtcAhead_of_lt ha hlt]
    rw [rtc32kWrap_eq] at *
    rw [u32, sub32]
    omega
  · rw [wayForward32k, if_pos hge, rtcAhead_of_le hr hge]

/-- `rtc_signed_delta_32k` is a phase. -/
theorem isPhase_rtcSignedDelta32k {ref anchor : Nat} (hr : ref < rtc32kWrap) (ha : anchor < rtc32kWrap) :
    IsPhase ref anchor (rtcSignedDelta32k ref anchor) := by
  obtain ⟨e, hlo, hhi, href⟩ : ∃ e : Int, -1415577600 < e ∧ e ≤ 1415577600 ∧ ref = rtcAt (anchor + e) := by
    rw [rtc32kWrap_eq] at hr ha
    by_cases hshort : ((ref : Int) - anchor) % 2831155200 ≤ 1415577600
    · exact ⟨((ref : Int) - anchor) % 2831155200, by omega, hshort, (rtcAt_eq ((anchor + (ref - anchor) % 2831155200) / 2831155200)
        (by omega) hr).symm⟩
    · exact ⟨((ref : Int) - anchor) % 2831155200 - 2831155200, by omega, by omega,
        (rtcAt_eq ((anchor + ((ref - anchor) % 2831155200 - 2831155200)) / 2831155200) (by omega) hr).symm⟩
  have hdelta : rtcSignedDelta32k (rtcAt (anchor + e)) (rtcAt anchor) = e := by
    rw [rtcSignedDelta32k_rtcAt (by omega) (by omega)]
    omega
  rw [← href, rtcAt_of_lt ha] at hdelta
  obtain ⟨hlt, rounds, hrounds⟩ := rtcAt_spec (anchor + e)
  rw [← href] at hrounds
  rw [hdelta, IsPhase, rtc32kWrap_eq]
  omega

theorem IsPhase.unique {ref anchor : Nat} {e e' : Int} (h : IsPhase ref anchor e) (h' : IsPhase ref anchor e') : e = e' := by
  rw [IsPhase, rtc32kWrap_eq] at h h'
  omega

/-- Where the reference is, seen from the anchor. -/
theorem IsPhase.ref_eq {ref anchor : Nat} {e : Int} (hr : ref < rtc32kWrap) (h : IsPhase ref anchor e) : rtcAt (anchor + e) = ref := by
  rw [rtc32kWrap_eq] at hr
  rw [IsPhase, rtc32kWrap_eq] at h
  exact rtcAt_eq ((anchor + e) / 2831155200) (by omega) hr

/-- The phase after a call: one tick less, unless it is within the deadband. -/
def servoStep (e : Int) : Int := if 1 < e.natAbs then e - e.sign else e

theorem servoOffset_neg (e : Int) : servoOffset (-e) = -servoStep e := by
  rw [servoOffset, servoStep, servoDeadband]
  rcases Int.lt_trichotomy e 0 with hneg | rfl | hpos
  · rw [Int.sign_eq_neg_one_of_neg hneg]
    repeat' split
    all_goals omega
  · rfl
  · rw [Int.sign_eq_one_of_pos hpos]
    repeat' split
    all_goals omega

/-- A call of the servo moves the anchor. -/
theorem hopServo_phase {ref : Nat} {h : RfHop} {e : Int} (hr : ref < rtc32kWrap) (he : IsPhase ref h.hopAnchor e)
    (ha : h.hopAnchor < rtc32kWrap) : h.hopServo ref = { h with hopAnchor := rtcAt (h.hopAnchor + (e - servoStep e)) } := by
  have href := he.ref_eq hr
  have hanchor : h.hopAnchor = rtcAt ((h.hopAnchor + e : Int) + -e) := by
    rw [Int.add_neg_cancel_right, rtcAt_of_lt ha]
  have hrange := he
  rw [IsPhase, rtc32kWrap_eq] at hrange
  have hservo := hopServo_rtcAt hanchor (by omega) (by omega)
  rw [href, servoOffset_neg] at hservo
  rw [hservo, Int.add_assoc, ← Int.sub_eq_add_neg]

/-- The phase from one time to another that is near. -/
theorem isPhase_rtcAt {x e : Int} (hlo : -1415577600 < e) (hhi : e ≤ 1415577600) : IsPhase (rtcAt (x + e)) (rtcAt x) e := by
  have hdelta : rtcSignedDelta32k (rtcAt (x + e)) (rtcAt x) = e := by
    rw [rtcSignedDelta32k_rtcAt (by omega) (by omega)]
    omega
  have hphase := isPhase_rtcSignedDelta32k (rtcAt_lt (x + e)) (rtcAt_lt x)
  rwa [hdelta] at hphase

theorem IsPhase.range {ref anchor : Nat} {e : Int} (h : IsPhase ref anchor e) : -1415577600 < e ∧ e ≤ 1415577600 := by
  rw [IsPhase, rtc32kWrap_eq] at h
  omega

theorem servoStep_range {e : Int} (hlo : -1415577600 < e) (hhi : e ≤ 1415577600) :
    -1415577600 < servoStep e ∧ servoStep e ≤ 1415577600 := by
  rw [servoStep]
  rcases Int.lt_trichotomy e 0 with hneg | rfl | hpos
  · rw [Int.sign_eq_neg_one_of_neg hneg]
    split <;> omega
  · decide
  · rw [Int.sign_eq_one_of_pos hpos]
    split <;> omega

/-- After a call the phase is the next one, and still is when both have moved on. -/
theorem isPhase_servo {ref : Nat} {h : RfHop} {e : Int} (way : Int) (hr : ref < rtc32kWrap) (ha : h.hopAnchor < rtc32kWrap)
    (he : IsPhase ref h.hopAnchor e) :
    IsPhase (rtcAt (ref + way)) (rtcAt ((h.hopServo ref).hopAnchor + way)) (servoStep e) := by
  obtain ⟨hlo, hhi⟩ := servoStep_range he.range.1 he.range.2
  have hphase := isPhase_rtcAt (x := h.hopAnchor + (e - servoStep e) + way) hlo hhi
  have href : rtcAt (ref + way) = rtcAt (h.hopAnchor + (e - servoStep e) + way + servoStep e) := by
    rw [← he.ref_eq hr, rtcAt_rtcAt_add]
    exact congrArg rtcAt (by omega)
  have hanchor : rtcAt ((h.hopServo ref).hopAnchor + way) = rtcAt (h.hopAnchor + (e - servoStep e) + way) := by
    rw [hopServo_phase hr he ha, rtcAt_rtcAt_add]
  rw [href, hanchor]
  exact hphase

theorem servoPhase_zero (e : Int) : servoPhase e 0 = e := by simp [servoPhase]

theorem servoPhase_succ (e : Int) (m : Nat) : servoStep (servoPhase e m) = servoPhase e (m + 1) := by
  rw [servoStep, servoPhase, servoPhase]
  rcases Int.lt_trichotomy e 0 with hneg | rfl | hpos
  · rw [Int.sign_eq_neg_one_of_neg hneg]
    split
    · rw [Int.sign_eq_neg_one_of_neg (by omega)]
      omega
    · omega
  · simp
  · rw [Int.sign_eq_one_of_pos hpos]
    split
    · rw [Int.sign_eq_one_of_pos (by omega)]
      omega
    · omega

theorem isPhase_calls {ref : Nat → Nat} {hop : Nat → RfHop} (h : ServoCalls ref hop) (hr : ref 0 < rtc32kWrap)
    (ha : (hop 0).hopAnchor < rtc32kWrap) {e : Int} (he : IsPhase (ref 0) (hop 0).hopAnchor e) (m : Nat) :
    ref m < rtc32kWrap ∧ (hop m).hopAnchor < rtc32kWrap ∧ IsPhase (ref m) (hop m).hopAnchor (servoPhase e m) := by
  induction m with
  | zero => exact ⟨hr, ha, (servoPhase_zero e).symm ▸ he⟩
  | succ m ih =>
    obtain ⟨hrm, ham, hem⟩ := ih
    obtain ⟨way, href, hanchor⟩ := h m
    have hnext := isPhase_servo way hrm ham hem
    rw [← href, ← hanchor, servoPhase_succ] at hnext
    exact ⟨href ▸ rtcAt_lt _, hanchor ▸ rtcAt_lt _, hnext⟩

theorem natAbs_servoStep {e : Int} (h : 1 < e.natAbs) : (servoStep e).natAbs + 1 = e.natAbs := by
  rw [servoStep, if_pos h]
  rcases Int.lt_trichotomy e 0 with hneg | rfl | hpos
  · rw [Int.sign_eq_neg_one_of_neg hneg]
    omega
  · exact absurd h (by decide)
  · rw [Int.sign_eq_one_of_pos hpos]
    omega

/-- All but one tick of the phase has been taken off. -/
theorem natAbs_servoPhase {e : Int} {m : Nat} (h : e.natAbs - 1 ≤ m) : (servoPhase e m).natAbs ≤ 1 := by
  rw [servoPhase]
  rcases Int.lt_trichotomy e 0 with hneg | rfl | hpos
  · rw [Int.sign_eq_neg_one_of_neg hneg]
    omega
  · simp
  · rw [Int.sign_eq_one_of_pos hpos]
    omega

/-- The servo on the counter circle, for every anchor and reference.

`rtc_signed_delta_32k` is the phase, and the only one; nothing it computes overflows a word, or an `int32_t` when it is cast.

A call of the servo moves the anchor one tick towards the reference, and the phase is one tick less, unless it is within the deadband;
then the call leaves everything as it is.

With a reference of constant phase, `m` calls take `m` ticks off the phase, until it is within the deadband. -/
theorem servo_converges {r a : Nat} (hr : r < rtc32kWrap) (ha : a < rtc32kWrap) :
    (∀ e, IsPhase r a e ↔ e = rtcSignedDelta32k r a) ∧
    (wayForward32k r a = rtcAhead r a ∧ (r < a → rtc32kWrap - a + r < 4294967296) ∧
      (rtcAhead r a ≤ rtc32kWrap / 2 → rtcAhead r a < 2147483648) ∧
        (¬rtcAhead r a ≤ rtc32kWrap / 2 → rtcAhead r a < rtc32kWrap ∧ rtc32kWrap - rtcAhead r a < 2147483648)) ∧
    (∀ h : RfHop, h.hopAnchor = a →
      (h.hopServo r).hopAnchor < rtc32kWrap ∧
      (1 < (rtcSignedDelta32k r a).natAbs → (h.hopServo r).hopAnchor = rtcAt (a + (rtcSignedDelta32k r a).sign) ∧
        (rtcSignedDelta32k r (h.hopServo r).hopAnchor).natAbs + 1 = (rtcSignedDelta32k r a).natAbs) ∧
      ((rtcSignedDelta32k r a).natAbs ≤ 1 → h.hopServo r = h)) ∧
    (∀ ref hop, ServoCalls ref hop → ref 0 = r → (hop 0).hopAnchor = a → ∀ m,
      rtcSignedDelta32k (ref m) (hop m).hopAnchor = servoPhase (rtcSignedDelta32k r a) m ∧ (hop m).hopAnchor < rtc32kWrap ∧
        ((rtcSignedDelta32k r a).natAbs - 1 ≤ m → (rtcSignedDelta32k (ref m) (hop m).hopAnchor).natAbs ≤ 1)) := by
  have hphase := isPhase_rtcSignedDelta32k hr ha
  refine ⟨fun e => ⟨fun he => he.unique hphase, fun he => he ▸ hphase⟩, ?_, ?_, ?_⟩
  · have hlt : rtcAhead r a < rtc32kWrap := by
      rw [rtcAhead, rtc32kWrap_eq]
      omega
    rw [rtc32kWrap_eq] at *
    exact ⟨wayForward32k_eq hr ha, fun _ => by omega, fun _ => by omega, fun _ => ⟨hlt, by omega⟩⟩
  · rintro h rfl
    have hservo := hopServo_phase hr hphase ha
    have hanchor : (h.hopServo r).hopAnchor < rtc32kWrap := hservo ▸ rtcAt_lt _
    have hnext := isPhase_servo 0 hr ha hphase
    rw [Int.add_zero, Int.add_zero, rtcAt_of_lt hr, rtcAt_of_lt hanchor] at hnext
    have hdelta := (isPhase_rtcSignedDelta32k hr hanchor).unique hnext
    refine ⟨hanchor, fun hfar => ⟨?_, ?_⟩, fun hnear => ?_⟩
    · rw [hservo, servoStep, if_pos hfar]
      exact congrArg rtcAt (by omega)
    · rw [hdelta]
      exact natAbs_servoStep hfar
    · rw [hservo, servoStep, if_neg (by omega), Int.sub_self, Int.add_zero, rtcAt_of_lt ha]
  · rintro ref hop hcalls rfl rfl m
    obtain ⟨hrm, ham, hem⟩ := isPhase_calls hcalls hr ha hphase m
    have hdelta := (isPhase_rtcSignedDelta32k hrm ham).unique hem
    refine ⟨hdelta, ham, fun hm => ?_⟩
    rw [hdelta]
    exact natAbs_servoPhase hm

/-- The reference is seven ticks ahead of the anchor, across the wrap, and the servo moves the anchor towards it. -/
theorem servo_converges_wrap : (RfHop.hopServo 3 ⟨28, 0, rtc32kWrap - 4, 0, false⟩).hopAnchor = rtc32kWrap - 3 := by
  have hdelta : rtcSignedDelta32k 3 (rtc32kWrap - 4) = 7 := by decide
  have hservo := (servo_converges (r := 3) (a := rtc32kWrap - 4) (by decide) (by decide)).2.2.1 ⟨28, 0, rtc32kWrap - 4, 0, false⟩ rfl
  rw [hdelta] at hservo
  rw [(hservo.2.1 (by decide)).1]
  decide

end OpenController
