import OpenController.Lemmas.HidDiscardRun

/-!
# Leaving 2.4 GHz drops the queue, unless the host comes back

Reports queued before the host leaves 2.4 GHz are not sent after they were dropped, whenever the link next comes up. If the host
comes back first, they stay in the FIFO, in their order, until they are acknowledged, the bond is forgotten or the host leaves again.
-/

namespace OpenController

open Prog

variable {s t : Rf} {es : List Report}

/-- Entries that are a part of others still are when only the newest of those is taken away. -/
theorem prefix_dropLast_of_lt {as bs : List Report} (h : as <+: bs) (hlt : as.length < bs.length) : as <+: bs.dropLast := by
  rw [List.dropLast_eq_take, List.prefix_take_iff]
  exact ⟨h, by omega⟩

/-- The entries are kept, or a report took the place of the newest one. -/
def Rf.Retains (ok : RfAct → Prop) (es : List Report) (s t : Rf) : Prop :=
  es <+: t.entries ∨ (es.dropLast <+: t.entries ∧ es.length ≤ t.entries.length) ∧ Overwrites ok es s t

theorem retains_path {q : Prop} {ok : RfAct → Prop} {macValid : Bool} {rs : List HidFrame} (h : RfPath ok s t)
    (hok : ∀ act, ok act → act.Spares q macValid) (hmac : s.keyboardMacValid = macValid) (hs : s.Settled q es rs) :
    t.keyboardMacValid = macValid ∧ t.Settled q t.entries rs ∧ Rf.Retains ok es s t := by
  induction h with
  | refl => exact ⟨hmac, hs.queued.entries.symm ▸ hs, .inl (hs.queued.entries ▸ List.prefix_refl _)⟩
  | @tail u v hpath hstep ih =>
    obtain ⟨humac, hu, hretains⟩ := ih
    obtain ⟨act, hact, hdoes⟩ := hstep
    have hvmac := (mac_does hdoes).trans humac
    have onward (hab : Overwrites ok es s u) : Overwrites ok es s v := by
      obtain ⟨a, b, sub, r, ha, hes, hfull, hb, hrest⟩ := hab
      exact ⟨a, b, sub, r, ha, hes, hfull, hb, hrest.tail ⟨act, hact, hdoes⟩⟩
    rcases settled_does (humac.symm ▸ hok act hact) hdoes hu with hv | ⟨sub, r, es', rfl, hv, rfl | ⟨hfull, hne, rfl⟩⟩
    · -- nothing new
      refine ⟨hvmac, hv.queued.entries.symm ▸ hv, ?_⟩
      rw [Rf.Retains, hv.queued.entries]
      exact hretains.imp_right (.imp_right onward)
    · -- one more
      refine ⟨hvmac, hv.queued.entries.symm ▸ hv, ?_⟩
      rw [Rf.Retains, hv.queued.entries]
      refine hretains.imp (·.trans (List.prefix_append _ _)) fun hr => ⟨⟨hr.1.1.trans (List.prefix_append _ _), ?_⟩, onward hr.2⟩
      exact hr.1.2.trans (List.prefix_append _ _).length_le
    · -- the newest one is overwritten
      have hpos : 0 < u.entries.length := List.length_pos_iff.mpr hne
      have hlen : (u.entries.dropLast ++ [r]).length = u.entries.length := by
        rw [List.length_append, List.length_dropLast, List.length_singleton]
        omega
      refine ⟨hvmac, hv.queued.entries.symm ▸ hv, ?_⟩
      rw [Rf.Retains, hv.queued.entries, hlen]
      rcases hretains with hfirst | ⟨⟨hfirst, hle⟩, hover⟩
      · rcases Nat.lt_or_ge es.length u.entries.length with hlt | hge
        · exact .inl ((prefix_dropLast_of_lt hfirst hlt).trans (List.prefix_append _ _))
        · obtain rfl : es = u.entries := hfirst.eq_of_length_le hge
          refine .inr ⟨⟨List.prefix_append _ _, Nat.le_refl _⟩, u, v, sub, r, hpath, rfl, hfull, hdoes, .refl⟩
      · have hlt : es.dropLast.length < u.entries.length := by
          rw [List.length_dropLast]
          omega
        exact .inr ⟨⟨(prefix_dropLast_of_lt hfirst hlt).trans (List.prefix_append _ _), hle⟩, onward hover⟩

/-- Leaving 2.4 GHz. However interrupts run into the calls of the main loop:

once the host has left and what is queued is dropped before it selects 2.4 GHz again, only reports of entries that came after it left
are sent;

once the host has selected 2.4 GHz, and as long as it neither leaves nor forgets the bond, the entries of the FIFO are acknowledged
or in it, in their order, unless a report came to a full one and took the place of the newest;

so they are as long as what is queued is not dropped, whether the host leaves meanwhile or not. -/
theorem hid_discard (h : RfInterleaved s) :
    (∀ sub r s₁ s₂ s₃ t (act : RfAct), Leaves sub → Runs RfInterrupt (handleUartFrame 0xA6 sub r) s () s₁ →
      RfPath (fun act => ¬act.Selects) s₁ s₂ → act.Drops s₂.keyboardMacValid → act.Does s₂ s₃ → RfPath (fun _ => True) s₃ t →
      ∃ fs, t.log.started = s.log.started ++ fs ∧
        ∀ f ∈ fs, s.log.entered.length ≤ f.entry ∧ t.log.EnteredAfter s.log.entered.length f.report) ∧
    (∀ r s₁ t, Runs RfInterrupt (handleUartFrame 0xA6 0x30 r) s () s₁ → RfPath (·.Stays s.keyboardMacValid) s₁ t →
      s.log.retired <+: t.log.retired ∧
        (s.entries <+: t.entries ∨
          s.entries.dropLast <+: t.entries ∧ Overwrites (·.Stays s.keyboardMacValid) s.entries s₁ t)) ∧
    (∀ t, RfPath (fun act => ¬act.Drops s.keyboardMacValid) s t →
      s.log.retired <+: t.log.retired ∧
        (s.entries <+: t.entries ∨
          s.entries.dropLast <+: t.entries ∧ Overwrites (fun act => ¬act.Drops s.keyboardMacValid) s.entries s t)) := by
  have htracks := tracks_interleaved h
  have hqueued : s.Settled False s.entries s.log.retired := ⟨htracks.inOrder, False.elim, List.prefix_refl _⟩
  refine ⟨fun sub r s₁ s₂ s₃ t act hsub hr hpath hd hdoes hrest => ?_, fun r s₁ t hr hpath => ?_, fun t hpath => ?_⟩
  · have hleft := left_path hpath (left_leaves hsub r s () s₁ htracks hr)
    have hgone := gone_path hrest (drops_does hd hdoes hleft)
    obtain ⟨fs, hfs, hafter⟩ := hgone.1.started
    refine ⟨fs, hfs, fun f hf => ?_⟩
    obtain ⟨hentry, k, hn, _, hk⟩ := hafter f hf
    exact ⟨hentry, k, hn, hk⟩
  · have hs₁ := settled_selectFrame r s () s₁ hqueued hr
    have hmac := mac_does (.call (.frame 0xA6 0x30 r) nofun hr)
    obtain ⟨_, ht, hretains⟩ := retains_path hpath (fun _ hact => hact.spares) hmac hs₁
    exact ⟨ht.retired, hretains.imp id fun hr => ⟨hr.1.1, hr.2⟩⟩
  · obtain ⟨_, ht, hretains⟩ := retains_path hpath (fun _ hact => RfAct.spares_of_not_drops hact) rfl hqueued
    exact ⟨ht.retired, hretains.imp id fun hr => ⟨hr.1.1, hr.2⟩⟩

/-! ## Runs -/

/-- A keyboard is connected, and a key is pressed. -/
def pressWaits : Rf := newKeyboard.after (connectUp ++ [.report (Vector.replicate 8 4)])

theorem interleaved_pressWaits : RfInterleaved pressWaits := RfInterleaved.after (.init ⟨_, _, _, _, rfl⟩) (by decide +kernel)

/-- The host leaves, and the timer's event is handled. -/
def leaveAndDrop : List RfOp := [.command 0x11, .expire .discardHid, .process]

/-- The host comes back, the keyboard connects again, and a key is released. -/
def comeBack : List RfOp :=
  [.command 0x30, .process, .txFinish, .process, .offer, .process, .report (Vector.replicate 8 0), .poll 0, .tmr0Cycle, .tmr0Irq,
    .process]

/-- The host comes back before the timer's event, and the dongle acknowledges the press. -/
def comeBackInTime : List RfOp := .command 0x11 :: .advance 400 :: comeBack ++ [.txFinish, .process, .poll 1]

/-- Only the release is sent, if the queue was dropped. If the host comes back in time, the press is sent before it. -/
theorem hid_discard_left_or_kept :
    let dropped := (pressWaits.after leaveAndDrop).after comeBack
    let kept := pressWaits.after comeBackInTime
    (dropped.log.started.map (·.report) = [Vector.replicate 8 0] ∧ ∀ f ∈ dropped.log.started, 1 ≤ f.entry) ∧
    kept.log.retired.map (·.report) = [Vector.replicate 8 4] ∧ kept.entries = [Vector.replicate 8 4, Vector.replicate 8 0] ∧
    (pressWaits.entries <+: kept.entries ∨ pressWaits.entries.dropLast <+: kept.entries ∧
      Overwrites (fun act => ¬act.Drops pressWaits.keyboardMacValid) pressWaits.entries pressWaits kept) := by
  intro dropped kept
  refine ⟨?_, by decide +kernel, by decide +kernel, ((hid_discard interleaved_pressWaits).2.2 _ (path_after (by decide +kernel))).2⟩
  have hexpire : RfPath (fun act => ¬act.Selects) (pressWaits.after [.command 0x11])
      (pressWaits.after [.command 0x11, .expire .discardHid]) :=
    .single ⟨.call .other, by decide, does_apply (.expire .discardHid) trivial⟩
  have hprocess : (RfAct.event (pressWaits.after [.command 0x11, .expire .discardHid]).tmos.next).Does
      (pressWaits.after [.command 0x11, .expire .discardHid]) (pressWaits.after leaveAndDrop) :=
    does_apply .process trivial
  have hnext : (pressWaits.after [.command 0x11, .expire .discardHid]).tmos.next = some .discardHid := by decide +kernel
  rw [hnext] at hprocess
  have hrest : RfPath (fun _ => True) (pressWaits.after leaveAndDrop) dropped := path_after (by decide +kernel)
  obtain ⟨fs, hfs, hafter⟩ :=
    (hid_discard interleaved_pressWaits).1 0x11 _ _ _ _ _ _ (.inl rfl) (runs_run _ _ _) hexpire (.inl rfl) hprocess hrest
  have hnone : pressWaits.log.started = [] := by decide +kernel
  have hentered : pressWaits.log.entered.length = 1 := by decide +kernel
  rw [hnone, List.nil_append] at hfs
  rw [hentered] at hafter
  refine ⟨by decide +kernel, fun f hf => ?_⟩
  rw [hfs] at hf
  exact (hafter f hf).1

end OpenController
