import OpenController.Lemmas.RfDutyStep

/-!
# The windows of a search across runs

In a search the receiver listens only in a window that has its end. The time it may still listen is a potential that beacons and
entries into PAIRING bring in, and the time pays for the beacons.
-/

namespace OpenController
namespace RfDuty

variable {d d' : RfDuty} {op : RfOp} {n late : Nat}

/-! ## The window has its end -/

/-- The receiver is started in a window, and the window gets its end. -/
theorem restart_fresh (hs : d.searching = true) (ho : d.offArmed = false) : (d.take .rxRestart).restart =
    { d with
      receiving := true
      offArmed := true
      tmos := (d.tmos.take .rxRestart).startTask .pairRxOff kbdPairRxWindowTicks } := by
  have hc : ((d.take .rxRestart).searching && !(d.take .rxRestart).offArmed) = true := by simp [take, hs, ho]
  exact if_pos hc

/-- The receiver is started anew, and the window keeps its end. -/
theorem restart_again (ho : d.offArmed = true) :
    (d.take .rxRestart).restart = { d with receiving := true, tmos := d.tmos.take .rxRestart } := by
  have hc : ¬((d.take .rxRestart).searching && !(d.take .rxRestart).offArmed) = true := by simp [take, ho]
  exact if_neg hc

/-- An open window whose end comes next: its end is queued, and no timer of it runs. -/
theorem OpenUntil.ends {u : Nat} (h : d.OpenUntil u) (hn : d.tmos.next = some .pairRxOff) :
    d.tmos.timers .pairRxOff = none ∧ d.tmos.queued .pairRxOff = some u := by
  rcases h.off with ⟨_, hq⟩ | hoff
  · have hw := Tmos.next_eq_some hn
    simp [Tmos.waits, hq] at hw
  · exact hoff

/-- The end of a window is queued in an open window only. -/
theorem Fits.ends (h : d.Fits) (hs : d.searching = true) (hn : d.tmos.next = some .pairRxOff) :
    ∃ u, d.OpenUntil u ∧ u ≤ d.tmos.now + kbdPairRxWindowTicks := by
  have hw := Tmos.next_eq_some hn
  rcases h hs with hf | hu | hc
  · simp [Tmos.waits, hf.queued] at hw
  · exact hu
  · simp [Tmos.waits, hc.queued] at hw

theorem OpenUntil.expire {u : Nat} (h : d.OpenUntil u) (e : RfEvt) : OpenUntil { d with tmos := d.tmos.expire e } u := by
  refine ⟨h.isOpen, h.offArmed, h.receiving, ?_⟩
  by_cases he : RfEvt.pairRxOff = e
  · subst he
    rcases h.off with ⟨ht, hq⟩ | ⟨ht, hq⟩
    · exact .inr (Tmos.expire_some ht hq)
    · show (d.tmos.expire .pairRxOff).timers _ = _ ∧ _ ∨ _
      rw [Tmos.expire_none ht]
      exact .inr ⟨ht, hq⟩
  · show (d.tmos.expire e).timers _ = _ ∧ (d.tmos.expire e).queued _ = _ ∨ (d.tmos.expire e).timers _ = _ ∧ _
    rw [(Tmos.expire_ne he).1, (Tmos.expire_ne he).2]
    exact h.off

/-- Nothing expires whose timer does not run. -/
theorem expire_idle (ht : d.tmos.timers .pairRxOff = none) (e : RfEvt) :
    (d.tmos.expire e).timers .pairRxOff = none ∧ (d.tmos.expire e).queued .pairRxOff = d.tmos.queued .pairRxOff := by
  by_cases he : RfEvt.pairRxOff = e
  · subst he
    rw [Tmos.expire_none ht]
    exact ⟨ht, rfl⟩
  · exact ⟨(Tmos.expire_ne he).1.trans ht, (Tmos.expire_ne he).2⟩

theorem Fits.step (h : d.Fits) (hstep : Step op n d d') : d'.Fits := by
  intro hs
  cases hstep with
  | moves hm =>
    rcases hm.window hs with ⟨_, hfresh⟩ | ⟨hs₀, hopen, harmed, hrecv, htimer, hqueued⟩
    · exact .inl hfresh
    · rcases h hs₀ with hf | ⟨u, hu, hle⟩ | hc
      · exact .inl ⟨hopen.trans hf.isOpen, harmed.trans hf.offArmed, hrecv.trans hf.receiving, htimer.trans hf.timer,
          hqueued.trans hf.queued⟩
      · refine .inr (.inl ⟨u, ⟨hopen.trans hu.isOpen, harmed.trans hu.offArmed, hrecv.trans hu.receiving, ?_⟩, hm.now ▸ hle⟩)
        rw [htimer, hqueued]
        exact hu.off
      · exact .inr (.inr ⟨hopen.trans hc.isOpen, hrecv.trans hc.receiving, htimer.trans hc.timer, hqueued.trans hc.queued⟩)
  | beacon hn => exact .inl ⟨rfl, rfl, rfl, by simp [beacon, Tmos.stopTask], by simp [beacon, Tmos.stopTask]⟩
  | restart hsearch hopen =>
    rcases h hsearch with hf | ⟨u, hu, hle⟩ | hc
    · rw [restart_fresh hsearch hf.offArmed]
      refine .inr (.inl ⟨d.tmos.now + kbdPairRxWindowTicks, ⟨hf.isOpen, rfl, rfl, .inl ⟨?_, ?_⟩⟩, Nat.le_refl _⟩)
      · simp [Tmos.startTask, Tmos.take]
      · simpa [Tmos.startTask, Tmos.take] using hf.queued
    · rw [restart_again hu.offArmed]
      refine .inr (.inl ⟨u, ⟨hu.isOpen, hu.offArmed, rfl, ?_⟩, hle⟩)
      simpa [Tmos.take] using hu.off
    · exact absurd (hopen.symm.trans hc.isOpen) nofun
  | close hsearch hn =>
    obtain ⟨u, hu, _⟩ := h.ends hsearch hn
    exact .inr (.inr ⟨rfl, rfl, (hu.ends hn).1, by simp [close, take, Tmos.take]⟩)
  | @expire e =>
    rcases h hs with hf | ⟨u, hu, hle⟩ | hc
    · obtain ⟨ht, hq⟩ := expire_idle hf.timer e
      exact .inl ⟨hf.isOpen, hf.offArmed, hf.receiving, ht, hq.trans hf.queued⟩
    · exact .inr (.inl ⟨u, hu.expire e, (Tmos.expire_now d.tmos e).symm ▸ hle⟩)
    · obtain ⟨ht, hq⟩ := expire_idle hc.timer e
      exact .inr (.inr ⟨hc.isOpen, hc.receiving, ht, hq.trans hc.queued⟩)
  | advance =>
    rcases h hs with hf | ⟨u, hu, hle⟩ | hc
    · exact .inl ⟨hf.isOpen, hf.offArmed, hf.receiving, hf.timer, hf.queued⟩
    · refine .inr (.inl ⟨u, ⟨hu.isOpen, hu.offArmed, hu.receiving, hu.off⟩, ?_⟩)
      exact Nat.le_trans hle (Nat.add_le_add_right (Nat.le_add_right _ _) _)
    · exact .inr (.inr ⟨hc.isOpen, hc.receiving, hc.timer, hc.queued⟩)

/-- Time passes, and PAIRING is entered. -/
theorem Step.grows (hstep : Step op n d d') : d.tmos.now ≤ d'.tmos.now ∧ d.entries ≤ d'.entries := by
  cases hstep with
  | moves hm => exact ⟨Nat.le_of_eq hm.now.symm, hm.entries⟩
  | restart hs hopen =>
    unfold RfDuty.restart
    dsimp only
    split <;> exact ⟨Nat.le_refl _, Nat.le_refl _⟩
  | @expire e => exact ⟨Nat.le_of_eq (Tmos.expire_now d.tmos e).symm, Nat.le_refl _⟩
  | advance => exact ⟨Nat.le_add_right _ _, Nat.le_refl _⟩
  | _ => exact ⟨Nat.le_refl _, Nat.le_refl _⟩

/-! ## How long the receiver may still listen -/

/-- When the window ends. -/
def ends (d : RfDuty) : Nat := ((d.tmos.timers .pairRxOff).or (d.tmos.queued .pairRxOff)).getD 0

/-- For how long the receiver may still listen in the window, if its end is handled no later than some ticks after it. -/
def left (late : Nat) (d : RfDuty) : Nat :=
  if d.searching && d.isOpen then
    if d.offArmed then d.ends + late - d.tmos.now else kbdPairRxWindowTicks + late
  else 0

theorem OpenUntil.ends_eq {u : Nat} (h : d.OpenUntil u) : d.ends = u := by
  rcases h.off with ⟨ht, _⟩ | ⟨ht, hq⟩
  · simp [RfDuty.ends, ht]
  · simp [RfDuty.ends, ht, hq]

theorem left_fresh (hs : d.searching = true) (h : d.Fresh) : d.left late = kbdPairRxWindowTicks + late := by
  simp [left, hs, h.isOpen, h.offArmed]

theorem left_open {u : Nat} (hs : d.searching = true) (h : d.OpenUntil u) : d.left late = u + late - d.tmos.now := by
  simp [left, hs, h.isOpen, h.offArmed, h.ends_eq]

theorem left_closed (h : d.isOpen = false) : d.left late = 0 := by
  simp [left, h]

theorem left_outside (h : d.searching = false) : d.left late = 0 := by
  simp [left, h]

/-- A window is no longer than it is. -/
theorem Fits.left_le (h : d.Fits) : d.left late ≤ kbdPairRxWindowTicks + late := by
  by_cases hs : d.searching = true
  · rcases h hs with hf | ⟨u, hu, hle⟩ | hc
    · exact Nat.le_of_eq (left_fresh hs hf)
    · rw [left_open hs hu]
      omega
    · simp [left_closed hc.isOpen]
  · simp [left_outside (d := d) (by simpa using hs)]

theorem left_expire (h : d.Fits) (e : RfEvt) : left late { d with tmos := d.tmos.expire e } = d.left late := by
  by_cases hs : d.searching = true
  · rcases h hs with hf | ⟨u, hu, _⟩ | hc
    · obtain ⟨ht, hq⟩ := expire_idle hf.timer e
      have hafter : left late { d with tmos := d.tmos.expire e } = kbdPairRxWindowTicks + late :=
        left_fresh hs ⟨hf.isOpen, hf.offArmed, hf.receiving, ht, hq.trans hf.queued⟩
      rw [hafter, left_fresh hs hf]
    · have hafter : left late { d with tmos := d.tmos.expire e } = u + late - (d.tmos.expire e).now := left_open hs (hu.expire e)
      rw [hafter, left_open hs hu, Tmos.expire_now]
    · have hafter : left late { d with tmos := d.tmos.expire e } = 0 := left_closed hc.isOpen
      rw [hafter, left_closed hc.isOpen]
  · have hs : d.searching = false := by simpa using hs
    have hafter : left late { d with tmos := d.tmos.expire e } = 0 := left_outside hs
    rw [hafter, left_outside hs]

/-- While time passes, the receiver listens at the expense of the window. -/
theorem left_advance (h : d.Fits) {ticks : Nat} (hend : ∀ u, d.tmos.due .pairRxOff u → d.tmos.now + ticks ≤ u + late) :
    (if d.listens then ticks else 0) + left late { d with tmos := d.tmos.advance ticks } ≤ d.left late := by
  by_cases hs : d.searching = true
  · rcases h hs with hf | ⟨u, hu, _⟩ | hc
    · have hsilent : d.listens = false := by simp [listens, hf.receiving]
      have hafter : left late { d with tmos := d.tmos.advance ticks } = kbdPairRxWindowTicks + late :=
        left_fresh hs ⟨hf.isOpen, hf.offArmed, hf.receiving, hf.timer, hf.queued⟩
      rw [hsilent, hafter, left_fresh hs hf, if_neg Bool.false_ne_true, Nat.zero_add]
    · have hlast := hend u (hu.off.imp And.left And.right)
      have hlistens : d.listens = true := by simp [listens, hs, hu.receiving]
      have hafter : left late { d with tmos := d.tmos.advance ticks } = u + late - (d.tmos.now + ticks) :=
        left_open hs ⟨hu.isOpen, hu.offArmed, hu.receiving, hu.off⟩
      rw [hafter, left_open hs hu, if_pos hlistens]
      omega
    · have hsilent : d.listens = false := by simp [listens, hc.receiving]
      have hafter : left late { d with tmos := d.tmos.advance ticks } = 0 := left_closed hc.isOpen
      rw [hsilent, hafter, if_neg Bool.false_ne_true]
      exact Nat.zero_le _
  · have hs : d.searching = false := by simpa using hs
    have hsilent : d.listens = false := by simp [listens, hs]
    have hafter : left late { d with tmos := d.tmos.advance ticks } = 0 := left_outside hs
    rw [hsilent, hafter, if_neg Bool.false_ne_true]
    exact Nat.zero_le _

/-- A beacon and an entry into PAIRING bring in a window. The receiver listens at the expense of the window. -/
theorem Step.left_le (hstep : Step op n d d') (hf : d.Fits) (ho : op.EndsBy late d.tmos) :
    (if d.listens then d'.tmos.now - d.tmos.now else 0) + d'.left late ≤
      d.left late + (kbdPairRxWindowTicks + late) * (n + (d'.entries - d.entries)) := by
  have hf' := hf.step hstep
  have hle : d'.left late ≤ kbdPairRxWindowTicks + late := hf'.left_le
  have hquiet : d'.tmos.now = d.tmos.now → (if d.listens then d'.tmos.now - d.tmos.now else 0) = 0 := by
    intro hnow
    split <;> omega
  cases hstep with
  | moves hm =>
    rw [hquiet hm.now, Nat.zero_add, Nat.zero_add]
    by_cases hs : d'.searching = true
    · rcases hm.window hs with ⟨hlt, _⟩ | ⟨hs₀, hopen, harmed, _, htimer, hqueued⟩
      · have hpaid := Nat.mul_le_mul_left (kbdPairRxWindowTicks + late) (Nat.sub_pos_of_lt hlt)
        omega
      · have hsame : d'.left late = d.left late := by
          simp [left, ends, hs, hs₀, hopen, harmed, htimer, hqueued, hm.now]
        omega
    · rw [left_outside (by simpa using hs)]
      exact Nat.zero_le _
  | beacon hn =>
    rw [hquiet rfl]
    have hpaid := Nat.mul_le_mul_left (kbdPairRxWindowTicks + late) (Nat.le_add_right 1 ((d.take .pairBcast).beacon.entries - d.entries))
    omega
  | restart hs hopen =>
    rcases hf hs with hfresh | ⟨u, hu, _⟩ | hc
    · have hnow : (d.take .rxRestart).restart.tmos.now = d.tmos.now := by
        rw [restart_fresh hs hfresh.offArmed]
        rfl
      rw [hquiet hnow, left_fresh hs hfresh]
      omega
    · rw [restart_again hu.offArmed] at hquiet ⊢
      rw [hquiet rfl]
      have hsame : left late { d with receiving := true, tmos := d.tmos.take .rxRestart } = d.left late := by
        simp [left, ends, Tmos.take]
      omega
    · exact absurd (hopen.symm.trans hc.isOpen) nofun
  | close hs hn =>
    rw [hquiet rfl, left_closed rfl]
    exact Nat.zero_le _
  | @expire e =>
    rw [hquiet (Tmos.expire_now d.tmos e), left_expire hf]
    omega
  | @advance ticks =>
    have hticks : (d.tmos.advance ticks).now - d.tmos.now = ticks := Nat.add_sub_cancel_left ..
    have hpaid := left_advance hf ho
    dsimp only
    rw [hticks]
    omega

/-! ## How soon the next beacon comes -/

/-- How far the time until the next beacon has run. -/
def credit (d : RfDuty) : Nat :=
  if d.tmos.waits .pairBcast then rfPairBcastTicks
  else (d.tmos.timers .pairBcast).elim 0 fun u => rfPairBcastTicks - (u - d.tmos.now)

theorem credit_le (d : RfDuty) : d.credit ≤ rfPairBcastTicks := by
  unfold credit
  split
  · exact Nat.le_refl _
  · cases d.tmos.timers .pairBcast with
    | none => exact Nat.zero_le _
    | some u => exact Nat.sub_le _ _

theorem credit_waits (h : d.tmos.waits .pairBcast = true) : d.credit = rfPairBcastTicks := if_pos h

theorem credit_some {u : Nat} (h : d.tmos.timers .pairBcast = some u) : rfPairBcastTicks - (u - d.tmos.now) ≤ d.credit := by
  unfold credit
  split
  · exact Nat.sub_le _ _
  · simp [h]

/-- The timer and the queue of the beacons are as before, or cleared. -/
theorem credit_kept (hnow : d'.tmos.now = d.tmos.now)
    (htimer : d'.tmos.timers .pairBcast = d.tmos.timers .pairBcast ∨ d'.tmos.timers .pairBcast = none)
    (hwaits : d'.tmos.waits .pairBcast = true → d.tmos.waits .pairBcast = true) : d'.credit ≤ d.credit := by
  by_cases hw : d'.tmos.waits .pairBcast = true
  · rw [credit_waits hw, credit_waits (hwaits hw)]
  · unfold credit
    rw [if_neg hw]
    rcases htimer with ht | ht
    · rw [ht, hnow]
      split
      · cases d.tmos.timers .pairBcast with
        | none => exact Nat.zero_le _
        | some u => exact Nat.sub_le _ _
      · exact Nat.le_refl _
    · rw [ht]
      exact Nat.zero_le _

/-- Time and entries into PAIRING pay for the beacons. -/
theorem Step.credit_le (hstep : Step op n d d') (ho : op.OnTime d.tmos) :
    rfPairBcastTicks * n + d'.credit ≤
      d.credit + ((d'.tmos.now - d.tmos.now) + rfPairBcastTicks * (d'.entries - d.entries)) := by
  have hle := d'.credit_le
  cases hstep with
  | moves hm =>
    by_cases hlt : d.entries < d'.entries
    · have hpaid := Nat.mul_le_mul_left rfPairBcastTicks (Nat.sub_pos_of_lt hlt)
      omega
    · have hkept := credit_kept hm.now hm.timer fun hw => (hm.queued hw).resolve_right hlt
      omega
  | beacon hn =>
    have hfull : d.credit = rfPairBcastTicks := credit_waits (Tmos.next_eq_some hn)
    have hspent : (d.take .pairBcast).beacon.credit = 0 := by
      simp [credit, RfDuty.beacon, RfDuty.take, Tmos.take, Tmos.startTask, Tmos.stopTask, Tmos.waits]
    omega
  | restart hs hopen =>
    have hkept : (d.take .rxRestart).restart.credit ≤ d.credit := by
      unfold RfDuty.restart
      dsimp only
      split <;> exact credit_kept rfl (.inl (by simp [RfDuty.take, Tmos.take, Tmos.startTask])) (by simp [RfDuty.take])
    omega
  | close hs hn =>
    have hkept : (d.take .pairRxOff).close.credit ≤ d.credit :=
      credit_kept rfl (.inl rfl) (by simp [RfDuty.close, RfDuty.take])
    omega
  | @expire e =>
    by_cases he : RfEvt.pairBcast = e
    · subst he
      cases ht : d.tmos.timers .pairBcast with
      | none =>
        have hsame : ({ d with tmos := d.tmos.expire .pairBcast } : RfDuty) = d := by rw [Tmos.expire_none ht]
        rw [hsame]
        omega
      | some u =>
        have hpast : u ≤ d.tmos.now := ho u ht
        have hfull := credit_some ht
        omega
    · obtain ⟨ht, hq⟩ := Tmos.expire_ne (t := d.tmos) he
      have hkept : credit { d with tmos := d.tmos.expire e } ≤ d.credit :=
        credit_kept (Tmos.expire_now d.tmos e) (.inl ht) fun hw => by simpa [Tmos.waits, hq] using hw
      omega
  | @advance ticks =>
    have hticks : (d.tmos.advance ticks).now - d.tmos.now = ticks := Nat.add_sub_cancel_left ..
    have hgrows : credit { d with tmos := d.tmos.advance ticks } ≤ d.credit + ticks := by
      by_cases hw : d.tmos.waits .pairBcast = true
      · rw [credit_waits hw]
        exact Nat.le_trans (credit_le _) (Nat.le_add_right _ _)
      · have hafter : credit { d with tmos := d.tmos.advance ticks } =
            (d.tmos.timers .pairBcast).elim 0 fun u => rfPairBcastTicks - (u - (d.tmos.now + ticks)) := if_neg hw
        have hbefore : d.credit = (d.tmos.timers .pairBcast).elim 0 fun u => rfPairBcastTicks - (u - d.tmos.now) := if_neg hw
        rw [hafter, hbefore]
        cases d.tmos.timers .pairBcast with
        | none => exact Nat.zero_le _
        | some u =>
          simp only [Option.elim]
          omega
    dsimp only at hgrows ⊢
    rw [hticks]
    omega

/-! ## How long the receiver has listened -/

/-- An open window has been listened in since it got its end, and an end that is queued has come. -/
def Heard (heard : Nat) (d : RfDuty) : Prop :=
  d.searching = true → ∀ u, d.OpenUntil u →
    d.tmos.now + kbdPairRxWindowTicks ≤ heard + u ∧ (d.tmos.queued .pairRxOff = some u → u ≤ d.tmos.now)

/-- The end of an open window is one time. -/
theorem OpenUntil.unique {u v : Nat} (h : d.OpenUntil u) (h' : d.OpenUntil v) : u = v := h.ends_eq.symm.trans h'.ends_eq

theorem OpenUntil.listens {u : Nat} (h : d.OpenUntil u) (hs : d.searching = true) : d.listens = true := by
  simp [RfDuty.listens, hs, h.receiving]

/-- What was heard, after a step. -/
def hear (heard : Nat) (d d' : RfDuty) : Nat := if d'.listens then heard + (d'.tmos.now - d.tmos.now) else 0

theorem Heard.step {heard : Nat} (h : Heard heard d) (hf : d.Fits) (hstep : Step op n d d') (ho : op.OnTime d.tmos) :
    Heard (hear heard d d') d' := by
  intro hs u hu
  rw [hear, if_pos (hu.listens hs)]
  cases hstep with
  | moves hm =>
    rcases hm.window hs with ⟨_, hfresh⟩ | ⟨hs₀, hopen, harmed, hrecv, htimer, hqueued⟩
    · exact absurd (hfresh.offArmed.symm.trans hu.offArmed) nofun
    · have hbefore : d.OpenUntil u :=
        ⟨hopen.symm.trans hu.isOpen, harmed.symm.trans hu.offArmed, hrecv.symm.trans hu.receiving, htimer ▸ hqueued ▸ hu.off⟩
      obtain ⟨hlong, hpast⟩ := h hs₀ u hbefore
      rw [hm.now, hqueued]
      exact ⟨by omega, hpast⟩
  | beacon hn => exact absurd hu.offArmed nofun
  | restart hsearch hopen =>
    rcases hf hsearch with hfresh | ⟨v, hv, _⟩ | hc
    · rw [restart_fresh hsearch hfresh.offArmed] at hu ⊢
      have hend : d.tmos.now + kbdPairRxWindowTicks = u ∧ d.tmos.queued .pairRxOff = none := by
        simpa [Tmos.startTask, Tmos.take] using hu.off
      have hnow : ((d.tmos.take .rxRestart).startTask .pairRxOff kbdPairRxWindowTicks).now = d.tmos.now := rfl
      have hqueued : ((d.tmos.take .rxRestart).startTask .pairRxOff kbdPairRxWindowTicks).queued .pairRxOff = none := by
        simpa [Tmos.startTask, Tmos.take] using hend.2
      dsimp only
      rw [hnow, hqueued]
      exact ⟨by omega, nofun⟩
    · rw [restart_again hv.offArmed] at hu ⊢
      have hbefore : d.OpenUntil u := ⟨hv.isOpen, hv.offArmed, hv.receiving, by simpa [Tmos.take] using hu.off⟩
      obtain ⟨hlong, hpast⟩ := h hsearch u hbefore
      have hnow : (d.tmos.take .rxRestart).now = d.tmos.now := rfl
      have hqueued : (d.tmos.take .rxRestart).queued .pairRxOff = d.tmos.queued .pairRxOff := by simp [Tmos.take]
      dsimp only
      rw [hnow, hqueued]
      exact ⟨by omega, hpast⟩
    · exact absurd (hopen.symm.trans hc.isOpen) nofun
  | close hsearch hn => exact absurd hu.isOpen nofun
  | @expire e =>
    rcases hf hs with hfresh | ⟨v, hv, _⟩ | hc
    · exact absurd (hfresh.offArmed.symm.trans hu.offArmed) nofun
    · obtain rfl : v = u := (hv.expire e).unique hu
      obtain ⟨hlong, hpast⟩ := h hs v hv
      dsimp only
      rw [Tmos.expire_now]
      refine ⟨by omega, fun hq => ?_⟩
      by_cases he : RfEvt.pairRxOff = e
      · subst he
        rcases hv.off with ⟨ht, _⟩ | ⟨_, hq₀⟩
        · exact ho v ht
        · exact hpast hq₀
      · exact hpast ((Tmos.expire_ne he).2.symm.trans hq)
    · exact absurd (hc.isOpen.symm.trans hu.isOpen) nofun
  | @advance ticks =>
    obtain ⟨hlong, hpast⟩ := h hs u ⟨hu.isOpen, hu.offArmed, hu.receiving, hu.off⟩
    have hticks : (d.tmos.advance ticks).now = d.tmos.now + ticks := rfl
    dsimp only
    rw [hticks]
    exact ⟨by omega, fun hq => Nat.le_trans (hpast hq) (Nat.le_add_right _ _)⟩

end RfDuty

theorem fits_booted {s : Rf} (h : RfBooted s) : s.duty.Fits := by
  obtain ⟨mac, macValid, flash, hw, rfl⟩ := h
  intro hs
  by_cases hsearch : ((rfLoadBondFromFlash hw.eeprom flash rfClearBondRam).1.hasBond && macValid) = true
  · refine .inl ⟨?_, ?_, rfl, ?_, ?_⟩ <;> simp [Rf.duty, rfTaskInit, hsearch, Tmos.init, Tmos.setEvent]
  · simp [Rf.duty, rfTaskInit, hsearch] at hs

/-- In a search the receiver listens only in a window that has its end. -/
theorem fits_reach {s : Rf} (h : RfReach s) : s.duty.Fits := by
  refine Reach.invariant (I := fun s => s.duty.Fits) (fun s => fits_booted) ?_ h
  rintro op s t - hs rfl
  exact hs.step (duty_apply op s)

/-- So it has since the window got its end. -/
theorem heard_reach {w : RfStreak} (h : RfStreakReach w) : w.rf.duty.Fits ∧ RfDuty.Heard w.heard w.rf.duty := by
  refine Reach.invariant (I := fun w => w.rf.duty.Fits ∧ RfDuty.Heard w.heard w.rf.duty) ?_ ?_ h
  · rintro w ⟨hboot, -⟩
    obtain ⟨mac, macValid, flash, hw, hinit⟩ := id hboot
    have hsilent : w.rf.duty.receiving = false := hinit ▸ rfl
    exact ⟨fits_booted hboot, fun _ u hu => absurd (hsilent.symm.trans hu.receiving) nofun⟩
  · rintro op w w' - ⟨hf, hh⟩ ⟨ho, rfl⟩
    have hstep := duty_apply op w.rf
    exact ⟨hf.step hstep, hh.step hf hstep ho⟩

end OpenController
