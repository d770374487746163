import OpenController.Lemmas.RfCalls
import OpenController.Lemmas.RfHearsAux
import OpenController.Lemmas.RtcAux
import OpenController.RfCatchUp

/-!
# Steps and calls

A call makes as many steps as there are whole intervals since the anchor, at most five, and none within an interval. Of all steps at
most one gives back a tick: the first after a poll, if it is alone.
-/

namespace OpenController

open Prog RfStatements

variable {h : RfHop} {a now : Int}

namespace RfHop

/-- What a call makes of the hop: the steps, and the tick it gives back. -/
structure Advances (a now : Int) (step r : Nat) (h h' : RfHop) : Prop where
  interval : h'.connInterval = h.connInterval
  locked : h'.provisional = false
  index : h'.prevDataIdx = (h.prevDataIdx + step) % numDataChannels
  anchor : h'.hopAnchor = rtcAt (a + step * h.connInterval - r)
  past : a + step * h.connInterval ≤ now
  back : r = 0 ∨ r = 1 ∧ step = 1 ∧ h.sinceRx = 1 ∧ h'.sinceRx = 2
  since : 2 ≤ h.sinceRx → 2 ≤ h'.sinceRx
  lag : now - (a + step * h.connInterval - r) ≤ h.connInterval ∨ step = 5

theorem advances (hr : h.InRange) (hl : h.provisional = false) (ha : h.hopAnchor = rtcAt a) (hle : a ≤ now)
    (hlag : now - a ≤ h.connInterval * rfHopDesyncIntervals) :
    ∃ step r, h.Advances a now step r (h.advance (rtcAt now) h.connInterval).1 := by
  obtain ⟨hlo, hhi⟩ := hr.interval
  have hindex := hr.index
  rw [rfHopDesyncIntervals] at hlag
  have hspan : (rtcDelta32k (rtcAt now) h.hopAnchor : Int) = now - a := by
    rw [ha]
    exact rtcDelta32k_rtcAt hle (by omega)
  unfold RfHop.advance
  dsimp only
  generalize rtcDelta32k (rtcAt now) h.hopAnchor = elapsed at hspan
  have hsync : ¬elapsed > h.connInterval * rfHopDesyncIntervals := by
    rw [rfHopDesyncIntervals]
    omega
  rw [if_neg (by rw [hl]; decide), if_neg hsync]
  by_cases hdue : elapsed > h.connInterval
  · rw [if_pos hdue]
    have hq : h.connInterval * (elapsed / h.connInterval) ≤ elapsed := Nat.mul_div_le _ _
    have hq' : elapsed < h.connInterval * (elapsed / h.connInterval + 1) := Nat.lt_mul_div_succ _ (by omega)
    have hq1 : 1 ≤ elapsed / h.connInterval := (Nat.le_div_iff_mul_le (by omega)).mpr (by omega)
    generalize elapsed / h.connInterval = q at hq hq' hq1
    obtain ⟨step, hstep, hstep1, hle5, hway, hend⟩ : ∃ step, (if q > numDataChannels then numDataChannels else q) = step ∧
        1 ≤ step ∧ step ≤ 5 ∧ h.connInterval * step ≤ elapsed ∧ (elapsed < h.connInterval * step + h.connInterval ∨ step = 5) := by
      by_cases hmany : q > numDataChannels
      · have hfive := Nat.mul_le_mul_left h.connInterval (Nat.le_of_lt hmany)
        exact ⟨5, if_pos hmany, by decide, Nat.le_refl 5, Nat.le_trans hfive hq, .inr rfl⟩
      · exact ⟨q, if_neg hmany, hq1, Nat.le_of_not_lt hmany, hq, .inl (by rwa [Nat.mul_succ] at hq')⟩
    rw [hstep]
    have hadd : rtcAdd32k h.hopAnchor (h.connInterval * step) = rtcAt (a + (h.connInterval * step : Nat)) := by
      have hshort : h.connInterval * step ≤ 200 := Nat.mul_le_mul hhi hle5
      rw [ha, rtcAdd32k_rtcAt _ (by omega)]
    have hway' : (step : Int) * h.connInterval = (h.connInterval * step : Nat) := by
      rw [Nat.mul_comm, Int.natCast_mul]
    rw [hadd]
    by_cases hback : step = 1 ∧ h.sinceRx = 1
    · rw [if_pos hback, rtcBackdate32k_rtcAt _ (by decide)]
      refine ⟨step, 1, rfl, hl, rfl, ?_, ?_, .inr ⟨rfl, hback.1, hback.2, ?_⟩, ?_, ?_⟩
      · rw [hway']
      · rw [hway']
        omega
      · simp [hback.2]
      · intro htwo
        rw [hback.2] at htwo
        exact absurd htwo (by decide)
      · rw [hway']
        omega
    · rw [if_neg hback]
      refine ⟨step, 0, rfl, hl, rfl, ?_, ?_, .inl rfl, ?_, ?_⟩
      · rw [hway']
        exact congrArg rtcAt (by omega)
      · rw [hway']
        omega
      · intro htwo
        dsimp only
        split <;> omega
      · rw [hway']
        omega
  · rw [if_neg hdue]
    refine ⟨0, 0, rfl, hl, ?_, ?_, ?_, .inl rfl, id, .inl ?_⟩
    · exact (Nat.mod_eq_of_lt hindex).symm
    · rw [ha]
      exact congrArg rtcAt (by omega)
    · omega
    · omega

end RfHop

/-! ## A call -/

variable {s t : Rf} {rtc : Nat}

/-- No poll is caught: the session goes on with the same hop, at the same time, with no response pending and no probe to end. -/
structure Rf.Quieted (h : RfHop) (rtc : Nat) (s : Rf) : Prop where
  connected : s.state = .connected
  hop : s.hop = h
  rtc : s.hw.rtc = rtc
  idle : s.resp.responsePending = false
  noEnd : s.rest.quietPending = false

/-- A statement that leaves the session alone. -/
def QuietStmt (f : Rf → Rf) : Prop := ∀ s : Rf, (f s).state = s.state ∧ (f s).hop = s.hop ∧ (f s).hw = s.hw ∧
  (s.resp.responsePending = false → (f s).resp.responsePending = false) ∧ (f s).rest.quietPending = s.rest.quietPending

theorem stable_quieted : Stable TickStep (Rf.Quieted h rtc) := by
  intro s t hi hs
  cases hi with
  | callback sta rsr rxBuf hpoll =>
    have hhw := s.callback_hw sta rsr rxBuf
    have hrest := s.callback_rest sta rsr rxBuf hs.idle
    rcases s.callback_spec sta rsr rxBuf with hb | ⟨buf, hsta, hrsr, hbuf, hp⟩
    · refine ⟨hb.state.trans hs.connected, hb.hop.trans hs.hop, ?_, ?_, ?_⟩
      · rw [hhw, hs.rtc]
      · rcases hb.resp with hr | hr
        · rw [hr, hs.idle]
        · rw [hr]
      · rw [hrest, hs.noEnd]
    · exact absurd hp.catches (hpoll hsta hrsr buf hbuf)
  | tmr0Irq =>
    simp only [Rf.tmr0IRQHandler]
    repeat' split
    all_goals exact ⟨hs.connected, hs.hop, hs.rtc, hs.idle, hs.noEnd⟩
  | tmr0Cycle | expire | advance => exact ⟨hs.connected, hs.hop, hs.rtc, hs.idle, hs.noEnd⟩
  | hardware hw hrtc => exact ⟨hs.connected, hs.hop, hrtc.trans hs.rtc, hs.idle, hs.noEnd⟩

theorem quieted_of {α : Type} {p : RfM α} (hp : Each QuietStmt p) : Kept TickStep (Rf.Quieted h rtc) p := by
  refine Each.triple (hp.mono fun f hf s hs => ?_) stable_quieted
  obtain ⟨hstate, hhop, hhw, hidle, hquiet⟩ := hf s
  exact ⟨hstate.trans hs.connected, hhop.trans hs.hop, hhw ▸ hs.rtc, hidle hs.idle, hquiet.trans hs.noEnd⟩

/-- A read of what is known. -/
theorem quieted_read {α β : Type} {g : Rf → α} {k : α → RfM β} {a : α} {post : β → Rf → Prop}
    (hg : ∀ s : Rf, s.Quieted h rtc → g s = a) (hk : Triple TickStep (Rf.Quieted h rtc) (k a) post) :
    Triple TickStep (Rf.Quieted h rtc) (.read g >>= k) post := by
  have hread : Triple TickStep (Rf.Quieted h rtc) (.read g) fun b s => b = a ∧ s.Quieted h rtc :=
    Triple.read stable_quieted (fun _ s t hi hs => ⟨hs.1, stable_quieted s t hi hs.2⟩) fun s hs => ⟨hg s hs, hs⟩
  refine hread.bind fun b s c t hs hr => ?_
  obtain ⟨rfl, hs⟩ := hs
  exact hk s c t hs hr

theorem quieted_rfHopTick (interval : Nat) :
    Triple TickStep (Rf.Quieted h rtc) (rfHopTick interval) fun _ => Rf.Quieted (h.advance rtc interval).1 rtc := by
  have hadvance : Triple TickStep (Rf.Quieted h rtc) (rfAdvance interval)
      fun _ => Rf.Quieted (h.advance rtc interval).1 rtc := by
    refine Triple.stmt stable_quieted fun s hs => Triple.pure stable_quieted ?_
    rintro t rfl
    refine ⟨hs.connected, ?_, hs.rtc, hs.idle, hs.noEnd⟩
    dsimp only
    rw [hs.hop, hs.rtc]
  exact hadvance.bind fun advanced => quieted_of (by simp [QuietStmt])

/-- A call in a session advances the hop. -/
theorem quieted_rfConnectedTick :
    Triple TickStep (Rf.Quieted h rtc) rfConnectedTick fun _ => Rf.Quieted (h.advance rtc h.interval).1 rtc := by
  have hkick : Kept TickStep (Rf.Quieted h rtc) rearmSupervision := quieted_of (by simp [QuietStmt])
  have hpending : Triple TickStep (Rf.Quieted h rtc) rfPending fun pending s => pending = false ∧ s.Quieted h rtc := by
    refine Triple.stmt stable_quieted fun s hs => Triple.pure (fun s t hi hs => ⟨hs.1, stable_quieted s t hi hs.2⟩) ?_
    rintro t rfl
    exact ⟨hs.idle, hs.connected, hs.hop, hs.rtc, hs.idle, hs.noEnd⟩
  refine quieted_read (fun s hs => hs.connected) ?_
  rw [whenever, if_pos rfl]
  refine quieted_read (a := false) (fun s hs => by rw [hs.noEnd]; rfl) ?_
  refine Triple.bind hkick fun _ => quieted_read (a := h.interval) (fun s hs => by rw [hs.hop]) ?_
  refine hpending.bind fun pending s c t hs hr => ?_
  obtain ⟨rfl, hs⟩ := hs
  exact quieted_rfHopTick h.interval s c t hs hr

end OpenController
