import OpenController.Lemmas.HostWakeStep
import OpenController.Lib.History

/-!
# The LED slot, across runs

`LedOk` relates the machine to what its events said so far; every event fits those before it.
-/

namespace OpenController

@[simp] theorem ledSlot_snoc (evs : List LedEvent) (e : LedEvent) : ledSlot (evs ++ [e]) = (ledSlot evs).note e := by
  simp [ledSlot]

/-- An event fits those before it. -/
abbrev LedFits (evs : List LedEvent) (e : LedEvent) : Prop := (ledSlot evs).Allows e

namespace HostWake

/-- The slot is as the events say. A value that was taken and not retired is on the wire. -/
structure LedOk (hw : HostWake) (s : LedSlot) : Prop where
  unset : s.fate = .unset → s.newest = none
  newest : s.fate = .pending → s.newest = some ⟨hw.latestCmd, hw.latestVal⟩
  pending : s.fate = .pending ↔ hw.latestPending = true
  taken : ∀ led, s.taken = some led → hw.lastLatest = led
  queued : s.queued = hw.count
  out : s.fate = .out → hw.state = .waitAck ∧ hw.sendingLatest = true
  kept : s.fate ≠ .abandoned

variable {hw hw' : HostWake} {s : LedSlot} {evs : List LedEvent} {now : Nat}

/-- What is not in the slot, in the queue or on the wire does not matter. -/
theorem LedOk.congr (h : LedOk hw s) (hcmd : hw'.latestCmd = hw.latestCmd) (hval : hw'.latestVal = hw.latestVal)
    (hp : hw'.latestPending = hw.latestPending) (hl : hw'.lastLatest = hw.lastLatest) (hc : hw'.count = hw.count)
    (hw : s.fate = .out → hw'.state = .waitAck ∧ hw'.sendingLatest = true) : LedOk hw' s where
  unset := h.unset
  newest := by
    rw [hcmd, hval]
    exact h.newest
  pending := by
    rw [hp]
    exact h.pending
  taken := by
    rw [hl]
    exact h.taken
  queued := h.queued.trans hc.symm
  out := hw
  kept := h.kept

/-! ## Taking a frame -/

/-- The frame that is taken fits, and is out. -/
theorem ledOk_sendNext (now : Nat) (h : LedOk hw s) (ho : s.fate ≠ .out) :
    let e := LedEvent.shown (.copy ⟨(hw.sendNext now).2.cmd, (hw.sendNext now).2.val⟩ (hw.sendNext now).1.sendingLatest true)
    s.Allows e ∧ LedOk (hw.sendNext now).1 (s.note e) := by
  intro e
  have hkeep := keeps_sendNext hw now
  have hlast : (hw.sendNext now).1.lastLatest = (hw.sendNext now).1.sendingLatest := rfl
  rcases takes_cases hw now with ⟨ht, hled, hframe, hnone⟩ | ⟨ht, hled, hsame⟩
  · have he : e = .shown (.copy ⟨hw.latestCmd, hw.latestVal⟩ true true) := by simp only [e, hframe, hled]
    rw [takesLatest, Bool.and_eq_true] at ht
    obtain ⟨hpend, hturn⟩ := ht
    have hfate : s.fate = .pending := h.pending.mpr hpend
    rw [he]
    refine ⟨⟨h.newest hfate, hfate, fun htaken => ?_⟩, ?_⟩
    · have hll : hw.lastLatest = true := h.taken true htaken
      rw [h.queued]
      simpa [hll] using hturn
    · have hout : (s.note (.shown (.copy ⟨hw.latestCmd, hw.latestVal⟩ true true))).fate = .out := by simp [LedSlot.note, hfate]
      refine ⟨?_, ?_, ?_, ?_, ?_, fun _ => ⟨rfl, hled⟩, ?_⟩
      · rw [hout]
        rintro ⟨⟩
      · rw [hout]
        rintro ⟨⟩
      · rw [hnone, hout]
        decide
      · rintro led hl
        obtain rfl : true = led := Option.some.inj hl
        exact hlast.trans hled
      · exact h.queued.trans hkeep.count.symm
      · rw [hout]
        rintro ⟨⟩
  · have he : e = .shown (.copy ⟨(hw.sendNext now).2.cmd, (hw.sendNext now).2.val⟩ false true) := by simp only [e, hled]
    rw [he]
    refine ⟨fun htaken hf => ?_, ?_⟩
    · have hll : hw.lastLatest = false := h.taken false htaken
      have hpend : hw.latestPending = true := h.pending.mp hf
      simp [takesLatest, hll, hpend] at ht
    · refine ⟨h.unset, ?_, ?_, ?_, ?_, fun hf => absurd hf ho, h.kept⟩
      · rw [hkeep.latestCmd, hkeep.latestVal]
        exact h.newest
      · rw [hsame]
        exact h.pending
      · rintro led hl
        obtain rfl : false = led := Option.some.inj hl
        exact hlast.trans hled
      · exact h.queued.trans hkeep.count.symm

/-! ## Retiring a frame -/

/-- What a retirement leaves of the queue. -/
theorem count_retiring (h : Ok hw) (hs : hw.state = .waitAck) (abandoned : Bool) :
    (hw.retiring abandoned).count = if hw.sendingLatest then hw.count else hw.count - 1 := by
  have hle := h.count_le
  cases hl : hw.sendingLatest with
  | true =>
    simp only [retiring, settle, hl, Bool.not_true, Bool.false_eq_true, if_false, if_true]
    split <;> rfl
  | false =>
    have hpos := (h.outHead (by simp [queuedOut, hs, hl])).1
    simp only [retiring, settle, hl, Bool.not_false, if_true, u8]
    have hsub : (hw.count + 255) % 256 = hw.count - 1 := by omega
    simpa using hsub

/-- A retired value is ACKed, or its loss is raised, unless a newer one is pending. -/
theorem ledOk_retiring (h : LedOk hw s) (hok : Ok hw) (hs : hw.state = .waitAck) (abandoned : Bool) :
    let s₁ := s.note (.shown (.retired hw.sendingLatest abandoned))
    let s₂ := if hw.losesLatest abandoned then s₁.note .raised else s₁
    LedOk (hw.retiring abandoned) s₂ ∧ s₂.fate ≠ .out := by
  intro s₁ s₂
  have hset := settles_retiring hw abandoned
  have hcount := count_retiring hok hs abandoned
  -- What is left is the fate of the newest value.
  have hrest (s' : LedSlot) (hn : s'.newest = s.newest) (ht : s'.taken = s.taken) (hq : s'.queued = (hw.retiring abandoned).count)
      (hu : s'.fate = .unset → s.fate = .unset) (hp : s'.fate = .pending ↔ s.fate = .pending) (ho : s'.fate ≠ .out)
      (ha : s'.fate ≠ .abandoned) : LedOk (hw.retiring abandoned) s' ∧ s'.fate ≠ .out := by
    refine ⟨⟨fun hf => hn.trans (h.unset (hu hf)), ?_, ?_, ?_, hq, fun hf => absurd hf ho, ha⟩, ho⟩
    · rw [hn, hp, hset.latestCmd, hset.latestVal]
      exact h.newest
    · rw [hp, hset.latestPending]
      exact h.pending
    · rw [ht, hset.lastLatest]
      exact h.taken
  cases hl : hw.sendingLatest with
  | false =>
    have hs₂ : s₂ = { s with queued := s.queued - 1 } := by simp [s₂, s₁, losesLatest, hl, LedSlot.note]
    have ho : s.fate ≠ .out := fun hf => nomatch hl.symm.trans (h.out hf).2
    rw [hs₂]
    refine hrest _ rfl rfl ?_ id Iff.rfl ho h.kept
    simp [hcount, hl, h.queued]
  | true =>
    have hq : s.queued = (hw.retiring abandoned).count := by simp [hcount, hl, h.queued]
    by_cases ho : s.fate = .out
    · have hnone : hw.latestPending = false := by
        rw [← Bool.not_eq_true, ← h.pending, ho]
        exact nofun
      cases abandoned with
      | false =>
        have hs₂ : s₂ = { s with fate := .acked } := by simp [s₂, s₁, losesLatest, hl, ho, LedSlot.note]
        rw [hs₂]
        exact hrest _ rfl rfl hq nofun (by simp [ho]) nofun nofun
      | true =>
        have hs₂ : s₂ = { s with fate := .lost } := by simp [s₂, s₁, losesLatest, hl, ho, hnone, LedSlot.note]
        rw [hs₂]
        exact hrest _ rfl rfl hq nofun (by simp [ho]) nofun nofun
    · have hs₂ : s₂ = s := by simp [s₂, s₁, losesLatest, hl, ho, h.kept, LedSlot.note]
      rw [hs₂]
      exact hrest s rfl rfl hq id Iff.rfl ho h.kept

/-! ## Runs -/

/-- The machine's invariant, and the slot; every event fits; `latest_lost` is as the events say. -/
structure LedInv (hw : HostWake) (evs : List LedEvent) : Prop where
  ok : Ok hw
  slot : LedOk hw (ledSlot evs)
  fits : Throughout LedFits evs
  flag : hw.latestLost = lostFlag evs

@[simp] theorem lostFlag_shown (evs : List LedEvent) (e : HostWakeEvent) : lostFlag (evs ++ [.shown e]) = lostFlag evs := by
  simp [lostFlag]

@[simp] theorem lostFlag_raised (evs : List LedEvent) : lostFlag (evs ++ [.raised]) = true := by
  simp [lostFlag]

@[simp] theorem lostFlag_cleared (evs : List LedEvent) : lostFlag (evs ++ [.cleared]) = false := by
  simp [lostFlag]

theorem ledInv_init (g t : Fin 4294967296) (m : Fin 256) : LedInv (init g t m) [] where
  ok := ok_init g t m
  slot := ⟨fun _ => rfl, nofun, by simp [ledSlot, init], nofun, rfl, nofun, nofun⟩
  fits := throughout_nil
  flag := rfl

theorem ledInv_enqueue (h : LedInv hw evs) (cmd val : Byte) :
    LedInv (hw.enqueue cmd val).1 (evs ++ [.shown (hw.enqueueEvent cmd val)]) := by
  have hok := ok_enqueue hw cmd val h.ok
  by_cases hf : hw.count ≥ hostWakeQueueSize
  · have he : hw.enqueueEvent cmd val = .refused ⟨cmd, val⟩ := by simp [enqueueEvent, enqueue, hf]
    rw [he]
    rw [enqueue, if_pos hf] at hok ⊢
    refine ⟨hok, ?_, h.fits.snoc trivial, by simpa using h.flag⟩
    rw [ledSlot_snoc]
    exact h.slot.congr rfl rfl rfl rfl rfl h.slot.out
  · have he : hw.enqueueEvent cmd val = .accepted ⟨cmd, val⟩ := by simp [enqueueEvent, enqueue, hf]
    have hle : hw.count < 8 := not_le.mp hf
    have hcount : u8 (hw.count + 1) = hw.count + 1 := u8_of_lt (by omega)
    rw [he]
    rw [enqueue, if_neg hf] at hok ⊢
    refine ⟨hok, ?_, h.fits.snoc trivial, by simpa using h.flag⟩
    rw [ledSlot_snoc]
    have hs := h.slot
    refine ⟨hs.unset, hs.newest, hs.pending, hs.taken, ?_, hs.out, hs.kept⟩
    simp [LedSlot.note, hs.queued, hcount]

theorem ledInv_setLatest (h : LedInv hw evs) (cmd val : Byte) :
    LedInv (hw.setLatest cmd val) (evs ++ [.shown (.ledSet ⟨cmd, val⟩)]) := by
  refine ⟨ok_setLatest hw cmd val h.ok, ?_, h.fits.snoc trivial, h.flag.trans (lostFlag_shown evs _).symm⟩
  rw [ledSlot_snoc]
  exact ⟨nofun, fun _ => rfl, by simp [LedSlot.note, setLatest], h.slot.taken, h.slot.queued, nofun, nofun⟩

theorem ledInv_onAck (h : LedInv hw evs) : LedInv hw.onAck (evs ++ [.shown .ack]) := by
  have hflag : hw.onAck.latestLost = hw.latestLost := by
    unfold onAck
    split <;> rfl
  refine ⟨ok_onAck hw h.ok, ?_, h.fits.snoc trivial, by simpa using hflag.trans h.flag⟩
  rw [ledSlot_snoc]
  have hs : LedOk hw (ledSlot evs) := h.slot
  unfold onAck
  split
  · exact hs.congr rfl rfl rfl rfl rfl hs.out
  · exact hs

theorem ledInv_clearLost (h : LedInv hw evs) : LedInv hw.clearLost (evs ++ [.cleared]) := by
  refine ⟨{ h.ok with }, ?_, h.fits.snoc trivial, by simp [clearLost]⟩
  rw [ledSlot_snoc]
  exact h.slot.congr rfl rfl rfl rfl rfl h.slot.out

/-- The next frame is taken, while no value is on the wire. -/
theorem ledInv_sendNext (h : LedInv hw evs) (hs : hw.state ≠ .waitAck) (hp : hw.havePending = true) :
    LedInv (hw.sendNext now).1 (evs ++ (hw.eventsTo (hw.sendNext now)).map .shown) := by
  have ho : (ledSlot evs).fate ≠ .out := fun hf => hs (h.slot.out hf).1
  obtain ⟨hfits, hslot⟩ := ledOk_sendNext now h.slot ho
  rw [eventsTo_sendNext hw hw now rfl, List.map_singleton]
  refine ⟨ok_sendNext hw now h.ok.toSized hp, ?_, h.fits.snoc hfits, ?_⟩
  · rwa [ledSlot_snoc]
  · rw [lostFlag_shown]
    exact (keeps_sendNext hw now).latestLost.trans h.flag

/-- The frame on the wire is retired. -/
theorem ledInv_retiring (h : LedInv hw evs) (hs : hw.state = .waitAck) (abandoned : Bool) :
    let evs' := evs ++ ([.shown (.retired hw.sendingLatest abandoned)] ++ if hw.losesLatest abandoned then [.raised] else [])
    (LedOk (hw.retiring abandoned) (ledSlot evs') ∧ (ledSlot evs').fate ≠ .out) ∧ Throughout LedFits evs' ∧
      (hw.retiring abandoned).latestLost = lostFlag evs' := by
  intro evs'
  have hslot := ledOk_retiring h.slot h.ok hs abandoned
  have hfits : Throughout LedFits (evs ++ [.shown (.retired hw.sendingLatest abandoned)]) := by
    refine h.fits.snoc ?_
    cases hw.sendingLatest <;> trivial
  have hflag := latestLost_retiring hw abandoned
  rw [h.flag] at hflag
  dsimp only at hslot
  cases hl : hw.losesLatest abandoned with
  | true =>
    have he : evs' = evs ++ [.shown (.retired hw.sendingLatest abandoned)] ++ [.raised] := by simp [evs', hl]
    rw [he, ledSlot_snoc, ledSlot_snoc, lostFlag_raised, hflag, hl, Bool.or_true]
    rw [hl, if_pos rfl] at hslot
    exact ⟨hslot, hfits.snoc trivial, rfl⟩
  | false =>
    have he : evs' = evs ++ [.shown (.retired hw.sendingLatest abandoned)] := by simp [evs', hl]
    rw [he, ledSlot_snoc, lostFlag_shown, hflag, hl, Bool.or_false]
    rw [hl, if_neg Bool.false_ne_true] at hslot
    exact ⟨hslot, hfits, rfl⟩

/-- Every step keeps the slot as its events say. -/
theorem ledInv_stepsTo (h : LedInv hw evs) {r : HostWake × HostWakeStep} {lost : Bool} (hr : StepsTo hw now r lost) :
    LedInv r.1 (evs ++ ((hw.eventsTo r).map .shown ++ if lost then [.raised] else [])) := by
  have hok := ok_stepsTo h.ok hr
  cases hr with
  | stay =>
    rw [eventsTo_self]
    simpa using h
  | rise hs hp =>
    rw [eventsTo_rise]
    simp only [List.map_nil, Bool.false_eq_true, if_false, List.append_nil]
    refine ⟨hok, h.slot.congr rfl rfl rfl rfl rfl fun hf => ?_, h.fits, h.flag⟩
    exact nomatch hs.symm.trans (h.slot.out hf).1
  | wake hs => simpa using ledInv_sendNext h (by simp [hs]) (h.ok.guardPending hs)
  | free hs _ hp => simpa using ledInv_sendNext h (by simp [hs]) hp
  | resend hs _ ha =>
    rw [eventsTo_transmit hw now h.ok hs ha]
    simp only [List.map_singleton, Bool.false_eq_true, if_false, List.append_nil]
    have hnote : (ledSlot evs).note (.shown (.copy ⟨hw.outCmd, hw.outVal⟩ hw.sendingLatest false)) = ledSlot evs := by
      cases hw.sendingLatest <;> rfl
    have hfits : LedFits evs (.shown (.copy ⟨hw.outCmd, hw.outVal⟩ hw.sendingLatest false)) := by
      cases hw.sendingLatest <;> trivial
    refine ⟨hok, ?_, h.fits.snoc hfits, by rw [lostFlag_shown]; exact h.flag⟩
    rw [ledSlot_snoc, hnote]
    exact h.slot.congr rfl rfl rfl rfl rfl fun hf => ⟨rfl, (h.slot.out hf).2⟩
  | discard hs abandoned ha hre =>
    obtain ⟨⟨hslot, ho⟩, hfits, hflag⟩ := ledInv_retiring h hs abandoned
    rw [eventsTo_retired, List.map_singleton]
    exact ⟨hok, hslot.congr rfl rfl rfl rfl rfl fun hf => absurd hf ho, hfits, hflag⟩
  | finish hs ha hre hp =>
    obtain ⟨⟨hslot, ho⟩, hfits, hflag⟩ := ledInv_retiring h hs false
    rw [eventsTo_retired, List.map_singleton]
    exact ⟨hok, hslot.congr rfl rfl rfl rfl rfl fun hf => absurd hf ho, hfits, hflag⟩
  | follow hs ha hre hp =>
    obtain ⟨⟨hslot, ho⟩, hfits, hflag⟩ := ledInv_retiring h hs false
    simp only [losesLatest, Bool.false_and, Bool.false_eq_true, if_false, List.append_nil] at hslot ho hfits hflag
    obtain ⟨hnext, hslot'⟩ := ledOk_sendNext now hslot ho
    rw [eventsTo_follow]
    simp only [List.map_cons, List.map_nil, Bool.false_eq_true, if_false, List.append_nil]
    rw [← List.singleton_append, ← List.append_assoc]
    refine ⟨hok, ?_, hfits.snoc hnext, ?_⟩
    · rwa [ledSlot_snoc]
    · rw [lostFlag_shown]
      exact (keeps_sendNext _ now).latestLost.trans hflag
  | lower hs =>
    rw [eventsTo_inState]
    simp only [List.map_nil, Bool.false_eq_true, if_false, List.append_nil]
    refine ⟨hok, h.slot.congr rfl rfl rfl rfl rfl fun hf => ?_, h.fits, h.flag⟩
    exact nomatch hs.symm.trans (h.slot.out hf).1

theorem ledRun_inv {g t : Fin 4294967296} {m : Fin 256} (h : LedRun g t m hw evs) : LedInv hw evs := by
  induction h with
  | init => exact ledInv_init g t m
  | enqueue cmd val _ ih => exact ledInv_enqueue ih cmd val
  | setLatest cmd val _ ih => exact ledInv_setLatest ih cmd val
  | onAck _ ih => exact ledInv_onAck ih
  | clearLost _ ih => exact ledInv_clearLost ih
  | step now _ ih => exact ledInv_stepsTo ih (stepsTo_step _ now)

end HostWake
end OpenController
