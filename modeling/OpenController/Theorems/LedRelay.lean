import OpenController.Lemmas.LedRelayCalls

/-!
# The newest LED byte reaches the keyboard's processor

Whenever no event is queued, the byte handed over last is the byte relayed last. After `RF_LedResync` every byte is handed over
again once, by the relay that comes next unless an event that was queued before has done it.
-/

namespace OpenController

open Relation

variable {w w₁ w' : LedWorld}

theorem ledOk_run (hr : ReflTransGen LedStep w w') (h : LedOk w) : LedOk w' := by
  induction hr with
  | refl => exact h
  | tail _ hs ih => exact ledOk_step hs ih

theorem ledOk_reached (h : LedReached w) : LedOk w := by
  obtain ⟨w₀, hboot, hr⟩ := h
  exact ledOk_run hr (ledOk_boot hboot)

/-- The main loop, with interrupts between its statements, reaches no other state. -/
theorem LedInterleaved.reached (h : LedInterleaved w) : LedReached w := h.reached_armed.1

theorem LedOk.newest (h : LedOk w) (hq : w.Quiet) : w.rf.ledsHanded.getLast? = w.relayed.getLast? := by
  rcases h.2 with ⟨hrel, _, hhanded⟩ | hsome
  · rw [hrel, hhanded]
  · rcases hsome.posted hq with hff | hlast
    · exact absurd hff hsome.real
    · rw [hlast, hsome.newest]

/-! ## After `RF_LedResync` -/

/-- Since a resync, at which `m` bytes had been handed over and `n` relayed: no byte was handed over and the next relay is posted, or
one was. -/
structure LedAsked (m n : Nat) (w : LedWorld) : Prop where
  ok : LedOk w
  handed : m ≤ w.rf.ledsHanded.length
  relayed : n ≤ w.relayed.length
  asked : w.rf.ledsHanded.length = m → w.rf.led.lastLedSent = 0xFF ∧ (n < w.relayed.length → ¬w.Quiet)

variable {m n : Nat}

theorem LedAsked.interrupt (hi : LedInterrupt w w') (h : LedAsked m n w) : LedAsked m n w' := by
  have hok : LedOk w' := ledOk_interrupt hi h.ok
  rcases ledInterrupt_spec hi with ⟨hrel, hstill⟩ | ⟨b, hb, hrel, hrelay⟩
  · refine ⟨hok, hstill.handed ▸ h.handed, hrel ▸ h.relayed, fun hlen => ?_⟩
    rw [hstill.handed] at hlen
    refine ⟨hstill.led ▸ (h.asked hlen).1, fun hlt hq => ?_⟩
    rw [hrel] at hlt
    exact (h.asked hlen).2 hlt (hstill.waits.symm.trans hq)
  · refine ⟨hok, hrelay.handed ▸ h.handed, ?_, fun hlen => ?_⟩
    · have := h.relayed
      rw [hrel, List.length_append]
      omega
    · rw [hrelay.handed] at hlen
      have hlast := (h.asked hlen).1
      refine ⟨by rw [hrelay.led, hlast], fun _ hq => ?_⟩
      have hwaits := hrelay.waits.symm.trans hq
      rw [hlast, decide_eq_true hb] at hwaits
      exact nomatch hwaits

/-- No relay is undone. -/
theorem stable_ledRelayed (n : Nat) : Prog.Stable LedInterrupt fun w => n ≤ w.relayed.length := by
  intro v v' hi hv
  rcases ledInterrupt_spec hi with ⟨hrel, _⟩ | ⟨b, _, hrel, _⟩
  · rwa [hrel]
  · rw [hrel, List.length_append]
    omega

theorem led_relayed_grows
    (hr : Prog.Runs LedInterrupt (handleNotifyLed.zoom LedWorld.rf fun s w => { w with rf := s }) w () w') :
    w.relayed.length ≤ w'.relayed.length := by
  have hkept : Prog.Kept LedInterrupt (fun v => w.relayed.length ≤ v.relayed.length)
      (handleNotifyLed.zoom LedWorld.rf fun s v => { v with rf := s }) := by
    refine Prog.Kept.zoom (stable_ledRelayed _) (fun s v h => ?_) _
    exact h
  exact hkept w () w' (Nat.le_refl _) hr

theorem LedAsked.notify (hq : ¬w.Quiet)
    (hr : Prog.Runs LedInterrupt (handleNotifyLed.zoom LedWorld.rf fun s w => { w with rf := s }) w () w')
    (h : LedAsked m n w) : LedAsked m n w' := by
  have hgrows := led_relayed_grows hr
  have hhandled := led_notify hq hr h.ok
  refine ⟨hhandled.ok h.ok.1, ?_, Nat.le_trans h.relayed hgrows, fun hlen => ?_⟩
  · have := h.handed
    rcases hhandled with ⟨led, hled⟩ | ⟨_, hled⟩
    · rw [hled.handed, List.length_append]
      omega
    · rwa [hled.handed]
  · have := h.handed
    rcases hhandled with ⟨led, hled⟩ | ⟨hlast, hled⟩
    · rw [hled.handed, List.length_append, List.length_singleton] at hlen
      omega
    · rw [hled.handed] at hlen
      exact absurd (h.asked hlen).1 hlast

theorem ledAsked_step (hs : LedStep w w') (h : LedAsked m n w) : LedAsked m n w' := by
  cases hs with
  | interrupt hi => exact h.interrupt hi
  | notify hq hr => exact h.notify hq hr
  | resync => exact ⟨ledOk_resync h.ok, h.handed, h.relayed, fun hlen => ⟨rfl, (h.asked hlen).2⟩⟩

theorem ledAsked_run (hr : ReflTransGen LedStep w w') (h : LedAsked m n w) : LedAsked m n w' := by
  induction hr with
  | refl => exact h
  | tail _ hs ih => exact ledAsked_step hs ih

theorem ledAsked_resync (h : LedOk w) : LedAsked w.rf.ledsHanded.length w.relayed.length w.resync :=
  ⟨ledOk_resync h, Nat.le_refl _, Nat.le_refl _, fun _ => ⟨rfl, fun hlt => absurd hlt (Nat.lt_irrefl _)⟩⟩

/-- Until a byte is relayed, nothing is posted. -/
theorem led_unasked (hr : ReflTransGen LedStep w w') (hq : w.Quiet) :
    w.relayed.length ≤ w'.relayed.length ∧
      (w'.relayed.length = w.relayed.length → w'.Quiet ∧ w'.rf.ledsHanded.length = w.rf.ledsHanded.length) := by
  induction hr with
  | refl => exact ⟨Nat.le_refl _, fun _ => ⟨hq, rfl⟩⟩
  | @tail v v' _ hs ih =>
    cases hs with
    | interrupt hi =>
      rcases ledInterrupt_spec hi with ⟨hrel, hstill⟩ | ⟨b, _, hrel, _⟩
      · rw [hrel]
        refine ⟨ih.1, fun hlen => ⟨hstill.waits.trans (ih.2 hlen).1, ?_⟩⟩
        rw [hstill.handed, (ih.2 hlen).2]
      · rw [hrel, List.length_append, List.length_singleton]
        exact ⟨by omega, fun hlen => by omega⟩
    | notify hnq hrun =>
      have hgrows := led_relayed_grows hrun
      exact ⟨by omega, fun hlen => absurd (ih.2 (by omega)).1 hnq⟩
    | resync => exact ih

/-! ## The results -/

/-- Whenever no event is queued, the byte handed over last is the byte relayed last. Whatever was relayed since a resync, a byte has
been handed over since the resync; if no event was queued at the resync, one has been handed over since the relay that came next. -/
theorem led_newest_handed (h : LedReached w) : (w.Quiet → w.rf.ledsHanded.getLast? = w.relayed.getLast?) ∧
    ∀ w₁ w', ReflTransGen LedStep w.resync w₁ → ReflTransGen LedStep w₁ w' → w'.Quiet →
      (w.relayed.length < w'.relayed.length → w.rf.ledsHanded.length < w'.rf.ledsHanded.length) ∧
        (w.Quiet → w₁.relayed.length = w.relayed.length → w₁.relayed.length < w'.relayed.length →
          w₁.rf.ledsHanded.length < w'.rf.ledsHanded.length) := by
  have hok := ledOk_reached h
  refine ⟨hok.newest, fun w₁ w' hr₁ hr₂ hq => ?_⟩
  have hasked : LedAsked w.rf.ledsHanded.length w.relayed.length w' := ledAsked_run (hr₁.trans hr₂) (ledAsked_resync hok)
  have hsince : w.relayed.length < w'.relayed.length → w.rf.ledsHanded.length < w'.rf.ledsHanded.length := by
    intro hlt
    rcases Nat.lt_or_eq_of_le hasked.handed with hmore | hsame
    · exact hmore
    · exact absurd hq ((hasked.asked hsame.symm).2 hlt)
  refine ⟨hsince, fun hq₀ hnone hlt => ?_⟩
  have hunasked := (led_unasked hr₁ hq₀).2 hnone
  rw [hunasked.2]
  exact hsince (hnone ▸ hlt)

/-- A poll that relays an LED byte. -/
def ledPoll (b : Byte) : RxBuf := fun i => if i = 1 then 3 else if i = 3 then 0xA1 else if i = 4 then b else 0

namespace LedWorld

/-- A byte is relayed. -/
def relay (b : Byte) (w : LedWorld) : LedWorld :=
  ⟨w.rf.rf2g4StatusCallBack .rxData 0 (some (ledPoll b)), w.relayed ++ w.rf.ledRelayed .rxData 0 (some (ledPoll b))⟩

/-- The handler runs alone. -/
def notify (w : LedWorld) : LedWorld := (handleNotifyLed.zoom LedWorld.rf fun s w => { w with rf := s }).exec w

end LedWorld

/-- A keyboard that has connected. -/
def ledUp : LedWorld := ⟨newKeyboard.after connectUp, []⟩

theorem ledBooted_ledUp : LedBooted ledUp := ⟨by decide +kernel, by decide +kernel, by decide +kernel, rfl⟩

theorem step_relay {b : Byte} (h : w.rf.ledRelayed .rxData 0 (some (ledPoll b)) = [b]) (hb : b ≠ 0xFF) :
    LedStep w (w.relay b) :=
  .interrupt (.callback .rxData 0 (some (ledPoll b)) fun c hc => by
    rw [h, List.mem_singleton] at hc
    exact hc ▸ hb)

theorem step_notify (h : ¬w.Quiet) : LedStep w w.notify := .notify h (Prog.runs_run _ _ _)

/-- After a resync the byte that the keyboard's processor knows is handed over again. -/
theorem led_newest_handed_again :
    ((ledUp.relay 2).notify.resync.relay 2).notify.rf.ledsHanded.getLast? = some 2 ∧
      (ledUp.relay 2).notify.resync.rf.ledsHanded.length <
        ((ledUp.relay 2).notify.resync.relay 2).notify.rf.ledsHanded.length := by
  have h₁ : LedStep ledUp (ledUp.relay 2) := step_relay (by decide +kernel) (by decide)
  have h₂ : LedStep (ledUp.relay 2) (ledUp.relay 2).notify := step_notify (by decide +kernel)
  have h₃ : LedStep (ledUp.relay 2).notify.resync ((ledUp.relay 2).notify.resync.relay 2) :=
    step_relay (by decide +kernel) (by decide)
  have h₄ : LedStep ((ledUp.relay 2).notify.resync.relay 2) ((ledUp.relay 2).notify.resync.relay 2).notify :=
    step_notify (by decide +kernel)
  have hreached : LedReached (ledUp.relay 2).notify := ⟨ledUp, ledBooted_ledUp, (ReflTransGen.single h₁).tail h₂⟩
  have hpath : ReflTransGen LedStep (ledUp.relay 2).notify.resync ((ledUp.relay 2).notify.resync.relay 2).notify :=
    (ReflTransGen.single h₃).tail h₄
  have hlater : LedReached ((ledUp.relay 2).notify.resync.relay 2).notify :=
    ⟨ledUp, ledBooted_ledUp, (((ReflTransGen.single h₁).tail h₂).tail (.resync _)).trans hpath⟩
  refine ⟨?_, ?_⟩
  · rw [(led_newest_handed hlater).1 (by decide +kernel)]
    decide +kernel
  · exact ((led_newest_handed hreached).2 _ _ .refl hpath (by decide +kernel)).2 (by decide +kernel) rfl (by decide +kernel)

/-- A byte that is posted at the resync is handed over after it; the same byte, relayed next, is not. -/
theorem led_resync_handed_false : ¬∀ w w₁ w', LedReached w → ReflTransGen LedStep w.resync w₁ → ReflTransGen LedStep w₁ w' →
    w'.Quiet → w₁.relayed = w.relayed → w₁.relayed.length < w'.relayed.length →
      w₁.rf.ledsHanded.length < w'.rf.ledsHanded.length := by
  intro h
  have h₁ : LedStep ledUp (ledUp.relay 2) := step_relay (by decide +kernel) (by decide)
  have h₂ : LedStep (ledUp.relay 2).resync (ledUp.relay 2).resync.notify := step_notify (by decide +kernel)
  have h₃ : LedStep (ledUp.relay 2).resync.notify ((ledUp.relay 2).resync.notify.relay 2) :=
    step_relay (by decide +kernel) (by decide)
  have hmore := h _ _ _ ⟨ledUp, ledBooted_ledUp, .single h₁⟩ (.single h₂) (.single h₃) (by decide +kernel) (by decide +kernel)
    (by decide +kernel)
  exact absurd hmore (by decide +kernel)

end OpenController
