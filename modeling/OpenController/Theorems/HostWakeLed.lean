import OpenController.Lemmas.HostWakeLedRun

/-!
# The LED slot loses no value silently

An LED frame carries the newest value, each value is taken once, LED frames and queued frames take turns, and when host wake is
idle the newest value was ACKed or its loss was raised.
-/

namespace OpenController

/-- For every interleaving of the four operations and of clearing `latest_lost`, with arbitrary times and ACKs: (a) the first copy
of an LED frame carries the newest value that was set, which was not taken before, and directly follows another LED frame only if
nothing is queued; (b) the first copy of a queued frame directly follows another queued frame only if no value is pending; (c) when
the machine is idle, the newest value was ACKed, or it was abandoned with no newer one set before, and that raised `latest_lost`;
(d) `latest_lost` is set from when it is raised until it is cleared. -/
theorem hostWake_led_slot (g t : Fin 4294967296) (m : Fin 256) (hw : HostWake) (evs : List LedEvent)
    (h : HostWake.LedRun g t m hw evs) :
    (∀ a f b, evs = a ++ .shown (.copy f true true) :: b → (ledSlot a).newest = some f ∧ (ledSlot a).fate = .pending ∧
      ((ledSlot a).taken = some true → (ledSlot a).queued = 0)) ∧
    (∀ a f b, evs = a ++ .shown (.copy f false true) :: b → (ledSlot a).taken = some false → (ledSlot a).fate ≠ .pending) ∧
    (hw.isIdle = true → (ledSlot evs).newest = none ∨ (ledSlot evs).fate = .acked ∨ (ledSlot evs).fate = .lost) ∧
    hw.latestLost = lostFlag evs := by
  have hinv := HostWake.ledRun_inv h
  refine ⟨fun a f b he => hinv.fits a _ b he, fun a f b he => hinv.fits a _ b he, fun hi => ?_, hinv.flag⟩
  rw [HostWake.isIdle, Bool.and_eq_true, decide_eq_true_eq, Bool.not_eq_true'] at hi
  obtain ⟨hs, hp⟩ := hi
  have hpend : (ledSlot evs).fate ≠ .pending := by
    rw [Ne, hinv.slot.pending]
    rw [HostWake.havePending, Bool.or_eq_false_iff] at hp
    simp [hp.2]
  have hout : (ledSlot evs).fate ≠ .out := fun hf => by cases hs.symm.trans (hinv.slot.out hf).1
  cases hf : (ledSlot evs).fate with
  | unset => exact .inl (hinv.slot.unset hf)
  | pending => exact absurd hf hpend
  | out => exact absurd hf hout
  | acked => exact .inr (.inl rfl)
  | abandoned => exact absurd hf hinv.slot.kept
  | lost => exact .inr (.inr rfl)

/-- A value is abandoned after its only copy, and the owner clears the flag. -/
theorem hostWake_led_slot_lost : ∃ hw evs, HostWake.LedRun 10 100 1 hw evs ∧ hw.isIdle = true ∧
    (ledSlot evs).newest = some ⟨0x5A, 0x02⟩ ∧ (ledSlot evs).fate = .lost ∧ hw.latestLost = false := by
  have h0 := HostWake.LedRun.setLatest 0x5A 0x02 (.init (g := 10) (t := 100) (m := 1))
  have h1 := HostWake.LedRun.clearLost (((h0.step 0).step 10).step 110)
  have h2 := h1.step 210
  obtain ⟨-, -, hidle, hflag⟩ := hostWake_led_slot 10 100 1 _ _ h2
  refine ⟨_, _, h2, by decide, by decide, ?_, hflag.trans (by decide)⟩
  rcases hidle (by decide) with hn | hn | hn
  · exact absurd hn (by decide)
  · exact absurd hn (by decide)
  · exact hn

end OpenController
