import OpenController.Lemmas.RfCalls
import OpenController.Lemmas.RfHearsAux
import OpenController.Lemmas.RfLinkRun
import OpenController.RfNews

/-!
# What the dongle's host shows, across runs

`NewsOk` holds in every state that is reached: one lemma for each way the FIFO, the sessions and `hid_last_queued` change, then
one for each operation. The calls of the main loop run undisturbed here.
-/

namespace OpenController

open Prog RfStatements

variable {p q : Prop} {s t : Rf}

/-- Nothing happens between two statements. -/
def Alone (_ _ : Rf) : Prop := False

theorem stable_alone (P : Rf → Prop) : Stable Alone P := fun _ _ h => h.elim

theorem triple_alone {pre post : Rf → Prop} {P : RfM Unit} (h : ∀ s, pre s → post (P.exec s)) : Triple Alone pre P fun _ => post := by
  intro s a t hs hr
  have ht : P.exec s = t := congrArg Prod.snd (hr.eq_run fun _ _ => id)
  exact ht ▸ h s hs

/-! ## Reports -/

theorem down_iff (r : Report) : r.down = false ↔ r = noKeys := by
  simp [Report.down, noKeys, Vector.ext_iff, Vector.any_eq_false]

namespace Rf.Beside

theorem newest (h : s.Beside t) : t.hid.newest = s.hid.newest := by
  rw [RfHid.newest, RfHid.newest, h.fifo, h.head, h.tail]

theorem count (h : s.Beside t) : t.hid.count = s.hid.count := by
  rw [RfHid.count, RfHid.count, h.head, h.tail]

theorem lastAcknowledged (h : s.Beside t) : t.log.lastAcknowledged = s.log.lastAcknowledged := by
  rw [RfLog.lastAcknowledged, RfLog.lastAcknowledged, h.log.1, h.log.2]

/-- The state of the link is the same. -/
theorem newsOk (h : s.Beside t) (hst : t.state = s.state) (hs : s.NewsOk p q) : t.NewsOk p q := by
  have hshown : t.shown = s.shown := by
    rw [Rf.shown, Rf.shown, hst, h.lastAcknowledged]
  refine ⟨?_, ?_, ?_, ?_, ?_, ?_, ?_, ?_, ?_⟩
  · exact h.head ▸ hs.head_lt
  · exact h.tail ▸ hs.tail_lt
  · exact h.count ▸ hs.count_le
  · rw [h.log.1, h.log.2]
    exact hs.sessions
  · rw [h.valid, h.newest, h.last]
    exact hs.current
  · rw [h.valid, h.newest, h.last, hshown]
    exact hs.gone
  · rw [h.valid, h.newest, h.last, hshown]
    exact hs.told
  · rw [h.valid, h.newest, hst, hshown]
    exact hs.stale
  · rw [hst, hshown]
    exact fun hc hp => hs.silent hc (h.probe hp)

/-- The session may be over, if what was queued last is released. -/
theorem leave (h : s.Beside t) (hst : t.state = s.state ∨ t.state ≠ .connected) (hs : s.NewsOk p q ∧ s.Released p) :
    t.NewsOk p q ∧ t.Released p := by
  have hr : t.Released p := by
    rw [Rf.Released, h.valid, h.newest, h.last]
    exact hs.2
  rcases hst with hst | hne
  · exact ⟨h.newsOk hst hs.1, hr⟩
  have hshown : t.shown = noKeys := if_neg hne
  refine ⟨⟨?_, ?_, ?_, ?_, ?_, fun _ _ => .inr hshown, ?_, fun _ _ hc => absurd hc hne, fun hc => absurd hc hne⟩, hr⟩
  · exact h.head ▸ hs.1.head_lt
  · exact h.tail ▸ hs.1.tail_lt
  · exact h.count ▸ hs.1.count_le
  · rw [h.log.1, h.log.2]
    exact hs.1.sessions
  · rw [h.valid, h.newest, h.last]
    exact hs.1.current
  · exact fun hp hv hn => hshown.trans (hr hp hv hn).symm

end Rf.Beside

namespace Rf.NewsOk

/-- Without a session, what was queued last is released. -/
theorem released (h : s.NewsOk p q) (hne : s.state ≠ .connected) : s.Released p := by
  intro hp hv hn
  have hshown : s.shown = noKeys := if_neg hne
  exact (h.told hp hv hn).symm.trans hshown

/-- So it is when no key is held. -/
theorem released_of_keyHeld (hk : s.hid.keyHeld = false) (hv : s.hid.lastQueuedValid = true) : s.hid.lastQueued = noKeys := by
  rw [RfHid.keyHeld, hv, Bool.true_and] at hk
  exact (down_iff _).mp hk

/-- So it is in a probe. -/
theorem released_of_probe (h : s.NewsOk p q) (hp : s.rest.probe = true) : s.Released p := by
  by_cases hs : s.state = .connected
  · exact fun hp' hv hn => (h.told hp' hv hn).symm.trans (h.silent hs hp)
  · exact h.released hs

end Rf.NewsOk

/-! ## Calls that leave the queue alone -/

/-- A statement that leaves the queue, the sessions and the state of the link alone. -/
def BesideStmt (f : Rf → Rf) : Prop := ∀ s : Rf, s.Beside (f s) ∧ (f s).state = s.state

/-- A statement that leaves the queue and the sessions alone, and the link as it is or down. -/
def LeavesStmt (f : Rf → Rf) : Prop := ∀ s : Rf, s.Beside (f s) ∧ ((f s).state = s.state ∨ (f s).state ≠ .connected)

attribute [local simp] BesideStmt LeavesStmt Rf.beside_iff

theorem news_of {α : Type} {P : RfM α} (h : Each BesideStmt P) : Kept Alone (Rf.NewsOk p q) P :=
  Each.triple (h.mono fun _ hf s hs => (hf s).1.newsOk (hf s).2 hs) (stable_alone _)

theorem leaves_of {α : Type} {P : RfM α} (h : Each LeavesStmt P) : Kept Alone (fun s => s.NewsOk p q ∧ s.Released p) P :=
  Each.triple (h.mono fun _ hf s hs => (hf s).1.leave (hf s).2 hs) (stable_alone _)

/-- A call without a session may take the link anywhere but into one. -/
theorem news_unconnected {α : Type} {P : RfM α} (h : Each LeavesStmt P) :
    Triple Alone (fun s => s.NewsOk p q ∧ s.state ≠ .connected) P fun _ => Rf.NewsOk p q :=
  (leaves_of h).conseq (fun _ hs => ⟨hs.1, hs.1.released hs.2⟩) fun _ _ hs => hs.1

/-! ## Reports -/

theorem queueReport_exec (report : Report) (s : Rf) : (queueReport report).exec s =
    if s.hid.lastQueuedValid = true ∧ s.hid.lastQueued = report then s
    else if s.hid.count < hidFifoSlots then { s with
      hid := { s.hid.writeSlot s.hid.tail report with
        tail := u8 (s.hid.tail + 1), lastQueued := report, lastQueuedValid := true }
      log := { s.log with entered := s.log.entered ++ [report] } }
    else { s with
      hid := { s.hid.writeSlot (sub8 s.hid.tail 1) report with lastQueued := report, lastQueuedValid := true }
      log := { s.log with entered := s.log.entered.dropLast ++ [report] } } := by
  by_cases hsame : s.hid.lastQueuedValid = true ∧ s.hid.lastQueued = report
  · simp [exec, queueReport, hsame]
  · have hchanged : (!s.hid.lastQueuedValid || s.hid.lastQueued != report) = true := by
      simpa [Classical.or_iff_not_imp_left] using hsame
    by_cases hroom : s.hid.count < hidFifoSlots
    · simp [exec, queueReport, hchanged, hsame, hroom, RfHid.writeSlot]
    · simp [exec, queueReport, hchanged, hsame, hroom, RfHid.writeSlot]

/-- The report queued last is the newest. -/
theorem newest_push {h : RfHid} (ht : h.tail < 256) (hc : h.count < hidFifoSlots) (r : Report) :
    RfHid.newest { h.writeSlot h.tail r with tail := u8 (h.tail + 1), lastQueued := r, lastQueuedValid := true } = some r := by
  have hne : u8 (h.tail + 1) ≠ h.head := by
    simp only [RfHid.count, sub8, u8, hidFifoSlots] at hc ⊢
    omega
  have hslot : sub8 (u8 (h.tail + 1)) 1 % hidFifoSlots = h.tail % hidFifoSlots := by
    simp only [sub8, u8, hidFifoSlots]
    omega
  refine (if_pos hne).trans (congrArg some ?_)
  dsimp only [RfHid.writeSlot]
  rw [hslot, Function.update_self]

/-- The report that takes the place of the newest one is the newest. -/
theorem newest_replace {h : RfHid} (hne : h.tail ≠ h.head) (r : Report) :
    RfHid.newest { h.writeSlot (sub8 h.tail 1) r with lastQueued := r, lastQueuedValid := true } = some r :=
  (if_pos hne).trans (congrArg some (Function.update_self _ _ _))

theorem news_queueReport (report : Report) : Kept Alone (Rf.NewsOk p q) (queueReport report) := by
  refine triple_alone fun s hs => ?_
  have hh := hs.head_lt
  have ht := hs.tail_lt
  rw [queueReport_exec]
  split
  · exact hs
  · split
    · rename_i hroom
      have hnew := newest_push ht hroom report
      refine ⟨hh, Nat.mod_lt _ (by omega), ?_, hs.sessions, ?_, ?_, ?_, nofun, hs.silent⟩
      · simp only [RfHid.count, RfHid.writeSlot, sub8, u8, hidFifoSlots] at hroom ⊢
        omega
      · exact fun _ r hr => (Option.some.inj (hnew.symm.trans hr)).symm
      · exact fun _ hn => nomatch hnew.symm.trans hn
      · exact fun _ _ hn => nomatch hnew.symm.trans hn
    · rename_i hroom
      have hne : s.hid.tail ≠ s.hid.head := fun he => hroom (by rw [RfHid.count, he]; simp only [sub8, hidFifoSlots]; omega)
      have hnew := newest_replace hne report
      refine ⟨hh, ht, hs.count_le, hs.sessions, ?_, ?_, ?_, nofun, hs.silent⟩
      · exact fun _ r hr => (Option.some.inj (hnew.symm.trans hr)).symm
      · exact fun _ hn => nomatch hnew.symm.trans hn
      · exact fun _ _ hn => nomatch hnew.symm.trans hn

/-! ## Acknowledgements -/

theorem lastAcknowledged_noteRetired (s : Rf) : s.noteRetired.log.lastAcknowledged = some s.hid.headReport := by
  simp [RfLog.lastAcknowledged, Rf.noteRetired]

/-- Taking the head leaves the newest entry, unless it was the last one. -/
theorem newest_retire {h : RfHid} (hh : h.head < 256) (hne : h.tail ≠ h.head) :
    (RfHid.newest { h with headSent := false, head := u8 (h.head + 1) } = h.newest) ∨
      RfHid.newest { h with headSent := false, head := u8 (h.head + 1) } = none ∧ h.newest = some h.headReport := by
  have hnew : h.newest = some (h.fifo (sub8 h.tail 1 % hidFifoSlots)) := if_pos hne
  by_cases hlast : h.tail = u8 (h.head + 1)
  · have hslot : sub8 h.tail 1 = h.head := by
      rw [hlast]
      simp only [sub8, u8]
      omega
    exact .inr ⟨if_neg (not_not.mpr hlast), hnew.trans (by rw [hslot]; rfl)⟩
  · exact .inl ((if_pos hlast).trans hnew.symm)

namespace Rf.NewsOk

/-- The head is retired in a session that is not a probe. -/
theorem retire (h : s.NewsOk p q) (hc : s.state = .connected) (hprobe : s.rest.probe = false) (hne : s.hid.tail ≠ s.hid.head)
    (state : t.state = s.state) (hid : t.hid = { s.hid with headSent := false, head := u8 (s.hid.head + 1) })
    (log : t.log = { s.noteRetired.log with caughtOn := s.radio.tuned }) (probe : t.rest.probe = true → s.rest.probe = true) :
    t.NewsOk p q := by
  have hh := h.head_lt
  have ht := h.tail_lt
  have hcount := h.count_le
  have hshown : t.shown = s.hid.headReport := by
    rw [Rf.shown, if_pos (state.trans hc), log]
    exact congrArg (·.getD noKeys) (lastAcknowledged_noteRetired s)
  have hnew := newest_retire hh hne
  rw [← hid] at hnew
  have hsub : ∀ r ∈ t.hid.newest, r ∈ s.hid.newest := by
    rcases hnew with he | ⟨hn, _⟩
    · exact fun r hr => he ▸ hr
    · exact fun r hr => nomatch hn.symm.trans hr
  have hempty : t.hid.newest = none → s.hid.newest = some s.hid.headReport := by
    rcases hnew with he | ⟨_, hs⟩
    · have hsome : s.hid.newest = some _ := if_pos hne
      exact fun hn => nomatch (hn.symm.trans he).trans hsome
    · exact fun _ => hs
  have hlast : t.hid.lastQueued = s.hid.lastQueued ∧ t.hid.lastQueuedValid = s.hid.lastQueuedValid := by
    rw [hid]
    exact ⟨rfl, rfl⟩
  have htold : t.hid.lastQueuedValid = true → t.hid.newest = none → t.shown = t.hid.lastQueued := fun hv hn => by
    rw [hshown, hlast.1]
    exact h.current (hlast.2 ▸ hv) _ (hempty hn)
  refine ⟨?_, ?_, ?_, ?_, ?_, fun hv hn => .inl (htold hv hn), fun _ => htold, ?_, ?_⟩
  · rw [hid]
    exact Nat.mod_lt _ (by omega)
  · rw [hid]
    exact ht
  · rw [hid]
    simp only [RfHid.count, sub8, u8, hidFifoSlots] at hcount ⊢
    omega
  · rw [log]
    intro x hx
    rcases List.mem_append.mp hx with hx | hx
    · exact h.sessions x hx
    · rw [List.mem_singleton.mp hx]
      exact Nat.le_refl _
  · rw [hlast.1, hlast.2]
    exact fun hv r hr => h.current hv r (hsub r hr)
  · intro hq hv _
    have hs := h.stale hq (hlast.2 ▸ hv) hc
    exact ⟨fun r hr => hs.1 r (hsub r hr), fun hn => hshown.trans (hs.1 _ (hempty hn))⟩
  · exact fun _ hp => nomatch hprobe.symm.trans (probe hp)

/-- A session starts: what is queued then is known. -/
theorem connect (h : s.NewsOk p q) (hs : s.state ≠ .connected)
    (hq : q → s.hid.lastQueuedValid = true ∨ ∀ r ∈ s.hid.newest, r = noKeys) (silentProbe : Bool) :
    ((setConnected silentProbe).exec s).NewsOk p q := by
  have hfilter : s.log.retired.filter (·.session = s.log.sessions + 1) = [] := by
    refine List.filter_eq_nil_iff.mpr fun x hx => ?_
    have := h.sessions x hx
    simp only [decide_eq_true_eq]
    omega
  have hnone : ((setConnected silentProbe).exec s).shown = noKeys := by
    refine (if_pos rfl).trans ?_
    change (((s.log.retired.filter (·.session = s.log.sessions + 1)).getLast?).map (·.report)).getD noKeys = noKeys
    rw [hfilter]
    rfl
  have hrel := h.released hs
  refine ⟨h.head_lt, h.tail_lt, h.count_le, fun x hx => Nat.le_succ_of_le (h.sessions x hx), h.current, fun _ _ => .inr hnone,
    ?_, ?_, fun _ _ => hnone⟩
  · exact fun hp hv hn => hnone.trans (hrel hp hv hn).symm
  · exact fun hq' hv _ => ⟨(hq hq').resolve_left fun hv' => (nomatch hv.symm.trans hv'), fun _ => hnone⟩

/-- The queue is discarded without a session. -/
theorem discard (h : s.NewsOk p q) (hs : s.state ≠ .connected) (hp : p → s.hid.keyHeld = false) :
    (rfDiscardHidQueue.exec s).NewsOk p q := by
  have hnone : (rfDiscardHidQueue.exec s).hid.newest = none := if_neg (not_not.mpr rfl)
  have hshown : (rfDiscardHidQueue.exec s).shown = noKeys := if_neg hs
  refine ⟨h.tail_lt, h.tail_lt, ?_, h.sessions, ?_, fun _ _ => .inr hshown, ?_, fun _ _ hc => absurd hc hs, fun hc => absurd hc hs⟩
  · have htail := h.tail_lt
    change sub8 s.hid.tail s.hid.tail ≤ hidFifoSlots
    simp only [sub8]
    omega
  · exact fun _ r hr => nomatch hnone.symm.trans hr
  · intro hp' hv _
    refine hshown.trans (released_of_keyHeld (hp hp') hv).symm

/-- The session is over, and the report queued last is not taken for the current one any more. -/
theorem invalidate (h : s.NewsOk p q) (hs : t.state ≠ .connected) (hid : t.hid = { s.hid with
    lastQueuedValid := false, headSent := t.hid.headSent }) (log : t.log.sessions = s.log.sessions ∧ t.log.retired = s.log.retired) :
    t.NewsOk p q := by
  have hv : t.hid.lastQueuedValid = false := by rw [hid]
  have hsame : t.hid.head = s.hid.head ∧ t.hid.tail = s.hid.tail := by
    rw [hid]
    exact ⟨rfl, rfl⟩
  refine ⟨hsame.1 ▸ h.head_lt, hsame.2 ▸ h.tail_lt, ?_, ?_, ?_, ?_, ?_, fun _ _ hc => absurd hc hs, fun hc => absurd hc hs⟩
  · rw [RfHid.count, hsame.1, hsame.2]
    exact h.count_le
  · rw [log.1, log.2]
    exact h.sessions
  · exact fun hv' => nomatch hv.symm.trans hv'
  · exact fun hv' => nomatch hv.symm.trans hv'
  · exact fun _ hv' => nomatch hv.symm.trans hv'

end Rf.NewsOk

/-! ## Calls -/

theorem news_restProbeStart : Triple Alone (fun s => s.NewsOk p q ∧ s.state ≠ .connected) restProbeStart fun _ => Rf.NewsOk p q := by
  refine Triple.bind (Kept.read (stable_alone _) _) fun able => Triple.ite (fun _ => news_unconnected (by simp)) fun _ => ?_
  have hprobe : Kept Alone (fun s => s.NewsOk p q ∧ s.state ≠ .connected) (clearRest fun r => { r with probe := true }) := by
    refine Kept.modify (stable_alone _) fun s hs => ⟨?_, hs.2⟩
    exact ⟨hs.1.head_lt, hs.1.tail_lt, hs.1.count_le, hs.1.sessions, hs.1.current, hs.1.gone, hs.1.told, hs.1.stale,
      fun hc => absurd hc hs.2⟩
  exact Triple.bind hprobe fun _ => news_unconnected (by simp)

theorem news_wakeRest : Kept Alone (Rf.NewsOk p q) wakeRest := by
  have hstate : Triple Alone (Rf.NewsOk p q) (.read fun s => s.state) fun state s => s.NewsOk p q ∧ s.state = state :=
    Triple.read (stable_alone _) (fun _ => stable_alone _) fun s hs => ⟨hs, rfl⟩
  refine hstate.bind fun state => Triple.ite (fun hr => ?_) fun _ => ?_
  · have hkeep : ∀ {P : RfM Unit}, Each BesideStmt P → Kept Alone (fun s => s.NewsOk p q ∧ s.state ≠ .connected) P := fun h =>
      Each.triple (h.mono fun f hf s hs => ⟨(hf s).1.newsOk (hf s).2 hs.1, (hf s).2 ▸ hs.2⟩) (stable_alone _)
    refine Triple.conseq (Triple.bind (hkeep (by simp)) fun _ => Triple.bind (hkeep (by simp)) fun _ =>
      Triple.bind (hkeep (by simp)) fun _ => news_restProbeStart) (fun s hs => ⟨hs.1, ?_⟩) fun _ _ hs => hs
    rw [hs.2, hr]
    nofun
  · exact (news_of (by simp)).conseq (fun s hs => hs.1) fun _ _ hs => hs

/-- The link rests, with what was queued last released. -/
theorem news_rests {P : RfM Unit} (h : Each LeavesStmt P) :
    Triple Alone (fun s => s.NewsOk p q ∧ s.Released p) P fun _ => Rf.NewsOk p q :=
  (leaves_of h).conseq (fun _ hs => hs) fun _ _ hs => hs.1

theorem news_inState {st : RfState} {P : RfM Unit} (hP : Triple Alone (fun s => s.NewsOk p q ∧ s.state = st) P fun _ => Rf.NewsOk p q) :
    Kept Alone (Rf.NewsOk p q) (do
      let state ← .read fun s => s.state
      whenever (state = st) P) :=
  kept_inState (stable_alone _) (fun _ _ h => h.elim) hP

/-- The state of the link is not a session. -/
theorem news_outside {st : RfState} (hst : st ≠ .connected) {P : RfM Unit} (h : Each LeavesStmt P) :
    Triple Alone (fun s => s.NewsOk p q ∧ s.state = st) P fun _ => Rf.NewsOk p q :=
  (news_unconnected h).conseq (fun _ hs => ⟨hs.1, hs.2 ▸ hst⟩) fun _ _ hs => hs

theorem news_onRestIdle : Kept Alone (Rf.NewsOk p q) onRestIdle := by
  have hpure : Kept Alone (Rf.NewsOk p q) (pure () : RfM Unit) := Kept.pure (stable_alone _) ()
  have hrests : Triple Alone (Rf.NewsOk p q) (.read fun s => s.hid.isEmpty && !s.resp.responsePending && !s.hid.keyHeld)
      fun rests s => s.NewsOk p q ∧ (rests = true → s.Released p) := by
    refine Triple.read (stable_alone _) (fun _ => stable_alone _) fun s hs => ⟨hs, fun hr _ hv _ => ?_⟩
    simp only [Bool.and_eq_true, Bool.not_eq_true'] at hr
    exact Rf.NewsOk.released_of_keyHeld hr.2 hv
  refine (Kept.read (stable_alone _) _).bind fun due => Kept.ite (fun _ => ?_) fun _ => hpure
  refine hrests.bind fun rests => Triple.ite (fun hr => ?_) fun _ => ?_
  · exact (news_rests (by simp)).conseq (fun _ hs => ⟨hs.1, hs.2 hr⟩) fun _ _ hs => hs
  · exact (news_of (by simp)).conseq (fun _ hs => hs.1) fun _ _ hs => hs

theorem news_onRestProbe : Kept Alone (Rf.NewsOk p q) onRestProbe := by
  have hdue : Triple Alone (Rf.NewsOk p q) (.read fun s => decide (s.state = .resting) && decide (s.rest.stage = 1))
      fun due s => s.NewsOk p q ∧ (due = true → s.state = .resting) := by
    refine Triple.read (stable_alone _) (fun _ => stable_alone _) fun s hs => ⟨hs, fun hd => ?_⟩
    simp only [Bool.and_eq_true, decide_eq_true_eq] at hd
    exact hd.1
  have harm : Kept Alone (fun s => s.NewsOk p q ∧ s.state ≠ .connected) (rfStartTaskAtomic .restProbe kbdRestProbeTicks) :=
    Kept.modify (stable_alone _) fun s hs => ⟨⟨hs.1.head_lt, hs.1.tail_lt, hs.1.count_le, hs.1.sessions, hs.1.current, hs.1.gone,
      hs.1.told, hs.1.stale, hs.1.silent⟩, hs.2⟩
  refine hdue.bind fun due => Triple.ite (fun hd => ?_) fun _ => Triple.pure (stable_alone _) fun _ hs => hs.1
  refine Triple.conseq (Triple.bind harm fun _ => news_restProbeStart) (fun s hs => ⟨hs.1, ?_⟩) fun _ _ hs => hs
  rw [hs.2 hd]
  nofun

theorem news_onRestProbeTimeout : Kept Alone (Rf.NewsOk p q) onRestProbeTimeout := by
  have hprobe : Triple Alone (Rf.NewsOk p q) (.read fun s => s.rest.probe)
      fun probe s => s.NewsOk p q ∧ (probe = true → s.Released p) :=
    Triple.read (stable_alone _) (fun _ => stable_alone _) fun s hs => ⟨hs, hs.released_of_probe⟩
  refine hprobe.bind fun probe => Triple.ite (fun hp => ?_) fun _ => Triple.pure (stable_alone _) fun _ hs => hs.1
  refine Triple.conseq (Triple.bind (Kept.read (stable_alone _) _) fun wake => Triple.ite (fun _ => ?_) fun _ => news_rests (by simp))
    (fun s hs => ⟨hs.1, hs.2 hp⟩) fun _ _ hs => hs
  exact (news_of (by simp)).conseq (fun _ hs => hs.1) fun _ _ hs => hs

/-- A probe that was answered enough ends. -/
theorem news_rfConnectedTick : Triple Alone (fun s => s.NewsOk p q ∧ (s.rest.quietPending = true → s.rest.probe = true))
    rfConnectedTick fun _ => Rf.NewsOk p q := by
  have hquiet : Triple Alone (fun s => s.NewsOk p q ∧ (s.rest.quietPending = true → s.rest.probe = true))
      (.read fun s => s.rest.quietPending && !s.resp.responsePending) fun quiet s => s.NewsOk p q ∧ (quiet = true → s.Released p) := by
    refine Triple.read (stable_alone _) (fun _ => stable_alone _) fun s hs => ⟨hs.1, fun hq => ?_⟩
    rw [Bool.and_eq_true] at hq
    exact hs.1.released_of_probe (hs.2 hq.1)
  refine Triple.bind (Kept.read (stable_alone _) _) fun state => Triple.ite (fun _ => ?_) fun _ =>
    Triple.pure (stable_alone _) fun _ hs => hs.1
  refine hquiet.bind fun quiet => Triple.ite (fun hq => ?_) fun _ => ?_
  · exact (news_rests (by simp)).conseq (fun _ hs => ⟨hs.1, hs.2 hq⟩) fun _ _ hs => hs
  · exact (news_of (by simp)).conseq (fun _ hs => hs.1) fun _ _ hs => hs

theorem news_rfDisconnect : Kept Alone (Rf.NewsOk p q) rfDisconnect :=
  triple_alone fun _ hs => hs.invalidate nofun rfl ⟨rfl, rfl⟩

theorem news_onDisconnect : Kept Alone (Rf.NewsOk p q) onDisconnect :=
  news_inState (triple_alone fun _ hs => hs.1.invalidate nofun rfl ⟨rfl, rfl⟩)

theorem news_onDiscardHid : Triple Alone (fun s => s.NewsOk p q ∧ (p → s.state = .idle → s.hid.keyHeld = false)) onDiscardHid
    fun _ => Rf.NewsOk p q := by
  refine triple_alone fun s hs => ?_
  by_cases hi : s.state = .idle
  · have hexec : onDiscardHid.exec s = rfDiscardHidQueue.exec s := by simp [onDiscardHid, exec, whenever, hi]
    rw [hexec]
    exact hs.1.discard (by rw [hi]; nofun) fun hp => hs.2 hp hi
  · have hexec : onDiscardHid.exec s = s := by simp [onDiscardHid, exec, whenever, hi]
    rw [hexec]
    exact hs.1

/-- The bond is forgotten once the link is down: nothing queued then is taken for the current one. -/
theorem news_unpair : Kept Alone (Rf.NewsOk p q) unpair := by
  have hdown : Triple Alone (Rf.NewsOk p q) rfDisconnect fun _ s => s.NewsOk p q ∧ s.hid.lastQueuedValid = false :=
    triple_alone fun _ hs => ⟨hs.invalidate nofun rfl ⟨rfl, rfl⟩, rfl⟩
  have hkeep : ∀ {P : RfM Unit}, Each BesideStmt P → Kept Alone (fun s => s.NewsOk p q ∧ s.hid.lastQueuedValid = false) P :=
    fun h => Each.triple (h.mono fun f hf s hs => ⟨(hf s).1.newsOk (hf s).2 hs.1, (hf s).1.valid.trans hs.2⟩) (stable_alone _)
  refine hdown.bind fun _ => ?_
  unfold rfClearBond
  iterate 5 refine Triple.bind (hkeep (by simp)) fun _ => ?_
  refine news_onDiscardHid.conseq (fun s hs => ⟨hs.1, fun _ _ => ?_⟩) fun _ _ hs => hs
  rw [RfHid.keyHeld, hs.2, Bool.false_and]

/-! ## Sessions -/

theorem news_rfEnterConnected : Triple Alone (fun s => s.NewsOk p q ∧ (q → s.state = .pairing →
    s.hid.lastQueuedValid = true ∨ ∀ r ∈ s.hid.newest, r = noKeys)) rfEnterConnected fun _ => Rf.NewsOk p q := by
  have hstate : Triple Alone (fun s => s.NewsOk p q ∧ (q → s.state = .pairing →
      s.hid.lastQueuedValid = true ∨ ∀ r ∈ s.hid.newest, r = noKeys)) (.read fun s => s.state)
      fun state s => s.NewsOk p q ∧ (state = .pairing → s.state ≠ .connected ∧
        (q → s.hid.lastQueuedValid = true ∨ ∀ r ∈ s.hid.newest, r = noKeys)) := by
    refine Triple.read (stable_alone _) (fun _ => stable_alone _) fun s hs => ⟨hs.1, fun he => ⟨by rw [he]; nofun, ?_⟩⟩
    exact fun hq => hs.2 hq he
  have hkeep : ∀ {P : RfM Unit}, Each BesideStmt P → Kept Alone (fun s => s.NewsOk p q ∧ s.state ≠ .connected ∧
      (q → s.hid.lastQueuedValid = true ∨ ∀ r ∈ s.hid.newest, r = noKeys)) P := by
    refine fun h => Each.triple (h.mono fun f hf s hs => ⟨(hf s).1.newsOk (hf s).2 hs.1, (hf s).2 ▸ hs.2.1, ?_⟩) (stable_alone _)
    rw [(hf s).1.valid, (hf s).1.newest]
    exact hs.2.2
  have hstart (silentProbe : Bool) : Triple Alone (fun s => s.NewsOk p q ∧ s.state ≠ .connected ∧
      (q → s.hid.lastQueuedValid = true ∨ ∀ r ∈ s.hid.newest, r = noKeys)) (startSession silentProbe) fun _ => Rf.NewsOk p q := by
    unfold startSession
    iterate 15 refine Triple.bind (hkeep (by simp)) fun _ => ?_
    exact triple_alone fun s hs => hs.1.connect hs.2.1 hs.2.2 silentProbe
  refine hstate.bind fun state => Triple.ite (fun hp => ?_) fun _ => Triple.pure (stable_alone _) fun _ hs => hs.1
  refine Triple.conseq (Triple.bind (Kept.read (stable_alone _) _) fun silentProbe => (hstart silentProbe).bind fun _ => ?_)
    (fun s hs => ⟨hs.1, hs.2 hp⟩) fun _ _ hs => hs
  exact news_of (by simp)

/-! ## A pass of TMOS -/

theorem tmosProcess_exec {e : RfEvt} (h : s.tmos.next = some e) :
    tmosProcess.exec s = (rfProcessEvent e).exec { s with tmos := s.tmos.take e } := by
  simp [tmosProcess, exec, run, h]

/-- A handler alone. -/
theorem exec_of_triple {pre : Rf → Prop} {P : RfM Unit} (h : Triple Alone pre P fun _ => Rf.NewsOk p q) (hs : pre s) :
    (P.exec s).NewsOk p q := h s () _ hs (runs_run _ _ _)

theorem news_process (h : s.NewsOk p q) (hl : s.link.Inv) (hp : p → RfOp.process.DiscardsReleased s)
    (hq : q → RfOp.process.StartsKnown s) : (tmosProcess.exec s).NewsOk p q := by
  cases hn : s.tmos.next with
  | none =>
    have hexec : tmosProcess.exec s = s := by simp [tmosProcess, exec, run, hn]
    rw [hexec]
    exact h
  | some e =>
    rw [tmosProcess_exec hn]
    have ht : Rf.NewsOk p q { s with tmos := s.tmos.take e } :=
      ⟨h.head_lt, h.tail_lt, h.count_le, h.sessions, h.current, h.gone, h.told, h.stale, h.silent⟩
    cases e with
    | start =>
      have hne : s.state ≠ .connected := fun hc => by
        rcases (hl.boot (Tmos.next_eq_some hn)).2 with hs | hs <;> exact absurd (hc.symm.trans hs) (by decide)
      exact exec_of_triple (news_unconnected (by simp [rfProcessEvent])) ⟨ht, hne⟩
    | enterConnected => exact exec_of_triple news_rfEnterConnected ⟨ht, fun hq' hs => hq hq' hn hs⟩
    | discardHid => exact exec_of_triple news_onDiscardHid ⟨ht, fun hp' hs => hp hp' hn hs⟩
    | disconnect => exact exec_of_triple news_onDisconnect ht
    | restIdle => exact exec_of_triple news_onRestIdle ht
    | restProbeTimeout => exact exec_of_triple news_onRestProbeTimeout ht
    | restProbe => exact exec_of_triple news_onRestProbe ht
    | pairBcast => exact exec_of_triple (news_inState (news_outside (by decide : RfState.pairing ≠ .connected) (by simp))) ht
    | pairTimeout => exact exec_of_triple (news_inState (news_outside (by decide : RfState.pairing ≠ .connected) (by simp))) ht
    | _ => exact exec_of_triple (news_of (by simp [rfProcessEvent])) ht

/-! ## What the host asks for -/

theorem news_rfSelect2G4 : Kept Alone (Rf.NewsOk p q) rfSelect2G4 := by
  have hstate : Triple Alone (Rf.NewsOk p q) (.read fun s => s.state) fun state s => s.NewsOk p q ∧ s.state = state :=
    Triple.read (stable_alone _) (fun _ => stable_alone _) fun s hs => ⟨hs, rfl⟩
  refine Kept.bind (news_of (by simp)) fun _ => (Kept.read (stable_alone _) _).bind fun valid => ?_
  refine Kept.ite (fun _ => Kept.pure (stable_alone _) false) fun _ => hstate.bind fun state => Triple.ite (fun _ => ?_) fun hne => ?_
  · exact (news_of (by simp)).conseq (fun _ hs => hs.1) fun _ _ hs => hs
  · exact (news_unconnected (by simp)).conseq (fun s hs => ⟨hs.1, fun hc => hne (hs.2.symm.trans hc)⟩) fun _ _ hs => hs

theorem news_rfEnterPairing : Kept Alone (Rf.NewsOk p q) rfEnterPairing := by
  have hignored : Triple Alone (Rf.NewsOk p q) (.read fun s => !s.keyboardMacValid || decide (s.state = .connected))
      fun ignored s => s.NewsOk p q ∧ (¬ignored = true → s.state ≠ .connected) := by
    refine Triple.read (stable_alone _) (fun _ => stable_alone _) fun s hs => ⟨hs, fun hi hc => hi ?_⟩
    rw [decide_eq_true hc, Bool.or_true]
  refine hignored.bind fun ignored => Triple.ite (fun _ => Triple.pure (stable_alone _) fun _ hs => hs.1) fun hi => ?_
  exact (news_unconnected (by simp)).conseq (fun s hs => ⟨hs.1, hs.2 hi⟩) fun _ _ hs => hs

theorem hostKeep_news : HostKeep Alone (Rf.NewsOk p q) where
  stable := stable_alone _
  out o s hs := by
    have hb : s.Beside (s.out o) := ⟨rfl, rfl, rfl, rfl, rfl, ⟨rfl, rfl⟩, id⟩
    exact hb.newsOk rfl hs
  transport is2g4 := news_of (by simp)
  drop := news_of (by simp)
  select := news_rfSelect2G4
  pair := news_rfEnterPairing
  disconnect := news_rfDisconnect
  unpair := news_unpair
  report r := (news_queueReport r).bind fun _ => news_wakeRest

/-! ## Interrupts -/

theorem Rf.Bystander.newsOk (h : s.Bystander t) (hr : t.rest.probe = s.rest.probe) (hs : s.NewsOk p q) : t.NewsOk p q := by
  obtain ⟨b, hid⟩ := h.hid
  refine Rf.Beside.newsOk ⟨?_, ?_, ?_, ?_, ?_, ?_, fun hp => hr.symm.trans hp⟩ h.state hs
  · rw [hid]
  · rw [hid]
  · rw [hid]
  · rw [hid]
  · rw [hid]
  · rw [h.log]
    exact ⟨rfl, rfl⟩

/-- The callback neither starts nor ends a probe. -/
theorem probe_callback (sta : RfSta) (rsr : Nat) (rxBuf : Option RxBuf) (s : Rf) :
    (s.rf2g4StatusCallBack sta rsr rxBuf).rest.probe = s.rest.probe := by
  have hstep := step_rf2g4StatusCallBack sta rsr rxBuf s
  cases hstep with
  | same h => exact h.probe
  | firstPacket _ _ h | offer _ _ h | answer _ _ h => exact h.probe

theorem news_callback (h : s.NewsOk p q) (hr : RfReach s) (sta : RfSta) (rsr : Nat) (rxBuf : Option RxBuf) :
    (s.rf2g4StatusCallBack sta rsr rxBuf).NewsOk p q := by
  have hprobe := probe_callback sta rsr rxBuf s
  rcases s.callback_spec sta rsr rxBuf with hb | ⟨buf, _, _, _, hp⟩
  · exact hb.newsOk hprobe h
  rcases hp.queue with ⟨hret, hid, hlog⟩ | ⟨_, hid, hlog⟩
  · have hc : s.state = .connected := hp.catches.1
    refine h.retire hc ?_ hret.2.2.2 hp.state hid hlog fun ht => hprobe.symm.trans ht
    -- what was queued in a probe woke it, and such a probe is no session any more
    have hl := RfLink.inv_reach hr
    cases hpr : s.rest.probe with
    | false => rfl
    | true =>
      have hempty : s.hid.isEmpty = true := hl.silent hpr (RfLink.unwoken_reach hr hc hpr)
      exact absurd (of_decide_eq_true hempty) hret.2.2.2
  · refine Rf.Beside.newsOk ?_ hp.state h
    rcases hid with hid | hid
    · exact ⟨by rw [hid], by rw [hid], by rw [hid], by rw [hid], by rw [hid], by rw [hlog]; exact ⟨rfl, rfl⟩,
        fun ht => hprobe.symm.trans ht⟩
    · exact ⟨by rw [hid], by rw [hid], by rw [hid], by rw [hid], by rw [hid], by rw [hlog]; exact ⟨rfl, rfl⟩,
        fun ht => hprobe.symm.trans ht⟩

/-! ## Runs -/

theorem news_boot (h : RfBooted s) : s.NewsOk p q := by
  obtain ⟨mac, macValid, flash, hw, rfl⟩ := h
  have hcount : sub8 0 0 ≤ hidFifoSlots := by decide
  have hne : (rfTaskInit mac macValid flash hw).state ≠ .connected := by
    unfold rfTaskInit
    dsimp only
    split <;> nofun
  exact ⟨Nat.zero_lt_succ _, Nat.zero_lt_succ _, hcount, nofun, nofun, nofun, fun _ => nofun, fun _ _ hs => absurd hs hne, nofun⟩

theorem news_apply (h : s.NewsOk p q) (hr : RfReach s) (op : RfOp) (hp : p → op.DiscardsReleased s) (hq : q → op.StartsKnown s) :
    (op.apply s).NewsOk p q := by
  have hsame : ∀ {t : Rf}, s.Beside t → t.state = s.state → t.NewsOk p q := fun hb hst => hb.newsOk hst h
  cases op with
  | frame cmd sub payload => exact exec_of_triple (hostKeep_news.frame cmd sub payload) h
  | process => exact news_process h (RfLink.inv_reach hr) hp hq
  | connectedTick =>
    exact exec_of_triple news_rfConnectedTick ⟨h, fun hquiet => ((RfLink.inv_reach hr).quiet hquiet).1⟩
  | callback sta rsr rxBuf => exact news_callback h hr sta rsr rxBuf
  | tmr0Irq =>
    refine s.bystander_tmr0IRQHandler.newsOk ?_ h
    simp only [Rf.tmr0IRQHandler]
    repeat' split
    all_goals rfl
  | ledResync => exact exec_of_triple (news_of (by simp)) h
  | quiesce =>
    have hdown : Kept Alone (Rf.NewsOk p q) takeDown := (news_of (by simp)).bind fun _ => news_rfDisconnect
    exact exec_of_triple hdown h
  | tmr0Cycle | expire | advance | hardware => exact hsame ⟨rfl, rfl, rfl, rfl, rfl, ⟨rfl, rfl⟩, id⟩ rfl

theorem news_reach {ok : RfOp → Rf → Prop} (h : RfReachWhen ok s) (hp : p → ∀ op s, ok op s → op.DiscardsReleased s)
    (hq : q → ∀ op s, ok op s → op.StartsKnown s) : s.NewsOk p q := by
  have hboth : s.NewsOk p q ∧ RfReach s := by
    refine h.invariant (I := fun s => s.NewsOk p q ∧ RfReach s) (fun s hs => ⟨news_boot hs, .init hs⟩) fun op s t _ hs ha => ?_
    obtain ⟨hok, rfl⟩ := ha
    exact ⟨news_apply hs.1 hs.2 op (fun hp' => hp hp' op s hok) fun hq' => hq hq' op s hok, .step op hs.2 rfl⟩
  exact hboth.1

end OpenController
