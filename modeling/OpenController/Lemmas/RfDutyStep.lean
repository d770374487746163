import OpenController.Lemmas.RfCalls
import OpenController.Lemmas.RfLinkAux
import OpenController.RfDuty

/-!
# The RF task and the receiver of its search

Whatever happens to the RF task is a step of the search: a beacon, the start of the receiver in a window, the end of a window, the
passing of time, or a move that does none of it.
-/

namespace OpenController

open Prog RfStatements

namespace RfDuty

variable {d d' d'' : RfDuty}

namespace Moves

/-- Nothing moves. -/
theorem refl (d : RfDuty) : Moves d d := ⟨rfl, le_rfl, .inl rfl, .inl, fun h => .inr ⟨h, rfl, rfl, rfl, rfl, rfl⟩⟩

/-- One move after another is a move. -/
theorem trans (h : Moves d d') (h' : Moves d' d'') : Moves d d'' where
  now := h'.now.trans h.now
  entries := Nat.le_trans h.entries h'.entries
  timer := by
    rcases h'.timer with ht | ht
    · exact h.timer.imp ht.trans ht.trans
    · exact .inr ht
  queued hw := by
    rcases h'.queued hw with hw' | hlt
    · exact (h.queued hw').imp_right fun hlt => Nat.lt_of_lt_of_le hlt h'.entries
    · exact .inr (Nat.lt_of_le_of_lt h.entries hlt)
  window hs := by
    rcases h'.window hs with ⟨hlt, hfresh⟩ | ⟨hs', hopen, harmed, hrecv, htimer, hqueued⟩
    · exact .inl ⟨Nat.lt_of_le_of_lt h.entries hlt, hfresh⟩
    · rcases h.window hs' with ⟨hlt, hfresh⟩ | ⟨hs₀, hopen₀, harmed₀, hrecv₀, htimer₀, hqueued₀⟩
      · refine .inl ⟨Nat.lt_of_lt_of_le hlt h'.entries, ?_⟩
        exact ⟨hopen.trans hfresh.isOpen, harmed.trans hfresh.offArmed, hrecv.trans hfresh.receiving, htimer.trans hfresh.timer,
          hqueued.trans hfresh.queued⟩
      · exact .inr ⟨hs₀, hopen.trans hopen₀, harmed.trans harmed₀, hrecv.trans hrecv₀, htimer.trans htimer₀, hqueued.trans hqueued₀⟩

/-- Outside a search the window and the receiver do not matter. -/
theorem outside (hs : d'.searching = false) (hnow : d'.tmos.now = d.tmos.now) (hentries : d.entries ≤ d'.entries)
    (htimer : d'.tmos.timers .pairBcast = d.tmos.timers .pairBcast ∨ d'.tmos.timers .pairBcast = none)
    (hqueued : d'.tmos.waits .pairBcast = true → d.tmos.waits .pairBcast = true ∨ d.entries < d'.entries) : Moves d d' :=
  ⟨hnow, hentries, htimer, hqueued, fun h => nomatch hs.symm.trans h⟩

/-- A search or a pairing is entered. -/
theorem enter (hnow : d'.tmos.now = d.tmos.now) (hentries : d.entries < d'.entries)
    (htimer : d'.tmos.timers .pairBcast = d.tmos.timers .pairBcast) (hfresh : d'.Fresh) : Moves d d' :=
  ⟨hnow, Nat.le_of_lt hentries, .inl htimer, fun _ => .inr hentries, fun _ => .inl ⟨hentries, hfresh⟩⟩

/-- The timers and the queue, but for the end of the window. -/
theorem tmos {t : Tmos} (hnow : t.now = d.tmos.now)
    (htimer : t.timers .pairBcast = d.tmos.timers .pairBcast ∨ t.timers .pairBcast = none)
    (hqueued : t.waits .pairBcast = true → d.tmos.waits .pairBcast = true)
    (hoff : t.timers .pairRxOff = d.tmos.timers .pairRxOff ∧ t.queued .pairRxOff = d.tmos.queued .pairRxOff) :
    Moves d { d with tmos := t } :=
  ⟨hnow, Nat.le_refl _, htimer, fun h => .inl (hqueued h), fun h => .inr ⟨h, rfl, rfl, rfl, hoff⟩⟩

/-- A task other than the end of the window stops. -/
theorem stop {e : RfEvt} (he : e ≠ .pairRxOff) : Moves d { d with tmos := d.tmos.stopTask e } := by
  refine tmos rfl ?_ ?_ ⟨Function.update_of_ne he.symm .., Function.update_of_ne he.symm ..⟩
  · by_cases hb : e = .pairBcast
    · exact .inr (by simp [hb, Tmos.stopTask])
    · exact .inl (Function.update_of_ne (Ne.symm hb) ..)
  · simp

/-- An event other than the end of the window is taken. -/
theorem take {e : RfEvt} (he : e ≠ .pairRxOff) : Moves d (d.take e) := by
  refine tmos rfl (.inl rfl) ?_ ⟨rfl, Function.update_of_ne he.symm ..⟩
  simp

/-- The timers of the search are those of its beacons and of the end of its window. -/
theorem start {e : RfEvt} (hb : e ≠ .pairBcast) (ho : e ≠ .pairRxOff) (n : Nat) :
    Moves d { d with tmos := d.tmos.startTask e n } :=
  tmos rfl (.inl (Function.update_of_ne hb.symm ..)) id ⟨Function.update_of_ne ho.symm .., rfl⟩

/-- An event other than a beacon and the end of the window is queued. -/
theorem set {e : RfEvt} (hb : e ≠ .pairBcast) (ho : e ≠ .pairRxOff) : Moves d { d with tmos := d.tmos.setEvent e } := by
  refine tmos rfl (.inl rfl) ?_ ⟨rfl, Function.update_of_ne ho.symm ..⟩
  simp [hb.symm]

end Moves
end RfDuty

open RfDuty (Moves Step)

/-- A statement that moves the search. -/
def MovesStmt (f : Rf → Rf) : Prop := ∀ s : Rf, Moves s.duty (f s).duty

/-- A function that moves the search. -/
def MovesRun {α : Type} (p : RfM α) : Prop := ∀ s : Rf, Moves s.duty (p.run s).2.duty

/-- To read moves nothing. -/
theorem MovesStmt.id : MovesStmt id := fun s => Moves.refl s.duty

/-- A function whose statements all move the search moves it. -/
theorem MovesRun.of_each {α : Type} {p : RfM α} (h : Each MovesStmt p) : MovesRun p := by
  intro s
  induction p generalizing s with
  | ret a => exact Moves.refl _
  | stmt f next ih => exact (h.1 s).trans (ih s (h.2 s) (f s))

/-- Functions that move the search compose. -/
theorem MovesRun.composes : Composes fun p => MovesRun p where
  pure _ s := Moves.refl s.duty
  read _ s := Moves.refl s.duty
  bind hp hg s := by
    rw [run_bind]
    exact (hp s).trans (hg _ _)

/-- One after the other. -/
theorem MovesRun.bind {α β : Type} {p : RfM α} {g : α → RfM β} (hp : MovesRun p) (hg : ∀ a, MovesRun (g a)) : MovesRun (p >>= g) :=
  MovesRun.composes.bind hp hg

/-- In a branch. -/
theorem MovesRun.whenever {c : Prop} [Decidable c] {p : RfM Unit} (hp : c → MovesRun p) : MovesRun (whenever c p) :=
  ite_of hp fun _ => MovesRun.composes.pure ()

/-- What a function does that reads the state first, and depends on it. -/
theorem MovesRun.read_bind {α β : Type} {r : Rf → α} {g : α → RfM β} (h : ∀ s, Moves s.duty ((g (r s)).run s).2.duty) :
    MovesRun (Prog.read r >>= g) := h

/-- What a move is, field by field of the RF task. -/
theorem moves_iff (s t : Rf) : Moves s.duty t.duty ↔
    t.tmos.now = s.tmos.now ∧ s.trace.pairEntries ≤ t.trace.pairEntries ∧
    (t.tmos.timers .pairBcast = s.tmos.timers .pairBcast ∨ t.tmos.timers .pairBcast = none) ∧
    (t.tmos.waits .pairBcast = true → s.tmos.waits .pairBcast = true ∨ s.trace.pairEntries < t.trace.pairEntries) ∧
    (t.state = .pairing → t.pair.flavor = .bonded → s.trace.pairEntries < t.trace.pairEntries ∧ t.duty.Fresh ∨
      (s.state = .pairing ∧ s.pair.flavor = .bonded) ∧ t.pair.rxOpen = s.pair.rxOpen ∧ t.pair.rxOffArmed = s.pair.rxOffArmed ∧
        t.radio.receiving = s.radio.receiving ∧ t.tmos.timers .pairRxOff = s.tmos.timers .pairRxOff ∧
        t.tmos.queued .pairRxOff = s.tmos.queued .pairRxOff) := by
  have hsearching (u : Rf) : u.duty.searching = true ↔ u.state = .pairing ∧ u.pair.flavor = .bonded := by simp [Rf.duty]
  constructor
  · intro h
    refine ⟨h.now, h.entries, h.timer, h.queued, fun hp hb => ?_⟩
    exact (h.window ((hsearching t).2 ⟨hp, hb⟩)).imp_right fun hw => ⟨(hsearching s).1 hw.1, hw.2⟩
  · rintro ⟨hnow, hentries, htimer, hqueued, hwindow⟩
    refine ⟨hnow, hentries, htimer, hqueued, fun hs => ?_⟩
    obtain ⟨hp, hb⟩ := (hsearching t).1 hs
    exact (hwindow hp hb).imp_right fun hw => ⟨(hsearching s).2 hw.1, hw.2⟩

/-- A timer other than those of the search starts. -/
theorem moves_start {e : RfEvt} (hb : e ≠ .pairBcast) (ho : e ≠ .pairRxOff) (ticks : Nat) : MovesRun (rfStartTaskAtomic e ticks) :=
  fun _ => Moves.start hb ho ticks

/-- A task other than the end of the window stops. -/
theorem moves_stop {e : RfEvt} (ho : e ≠ .pairRxOff) : MovesRun (rfStopTaskAtomic e) := fun _ => Moves.stop ho

/-! ## The statements -/

section Statements

attribute [local simp] MovesStmt moves_iff Tmos.stopTask Tmos.startTask Tmos.setEvent Tmos.waits

/-- `rest_cancel` stops timers of the resting policy. -/
theorem moves_restCancel : Each MovesStmt restCancel := by
  simp +contextual

/-- `rest_arm_idle` starts one. -/
theorem moves_restArmIdle : Each MovesStmt restArmIdle := by
  simp +contextual

/-- A probe becomes the session. -/
theorem moves_restPromoteToNormal : Each MovesStmt restPromoteToNormal := by
  simp +contextual [-restArmIdle, moves_restArmIdle]

/-- A probe is not to end by itself any more. -/
theorem moves_wakeProbe : Each MovesStmt wakeProbe := by
  simp +contextual

/-- The host selects 2.4 GHz in a session. -/
theorem moves_keepProbe : Each MovesStmt keepProbe := by
  refine Each.bind (Each.read MovesStmt.id) fun probe => Each.bind (each_whenever ?_) fun _ => Each.read MovesStmt.id
  exact Each.bind moves_wakeProbe fun _ => moves_restPromoteToNormal

/-- A report is queued. -/
theorem moves_queueReport (report : Report) : Each MovesStmt (queueReport report) := by
  simp +contextual

/-- The time to discard the queue starts. -/
theorem moves_dropQueue : Each MovesStmt rfDropQueueUnlessReselected := by
  simp +contextual

/-- An outstanding save is done. -/
theorem moves_rfFlushBondSave : Each MovesStmt rfFlushBondSave := by
  simp +contextual

/-- The LED byte is handed over. -/
theorem moves_onNotifyLed : Each MovesStmt onNotifyLed := by
  simp +contextual

/-- The queue is discarded. -/
theorem moves_onDiscardHid : Each MovesStmt onDiscardHid := by
  simp +contextual

/-- The bond is forgotten. -/
theorem moves_rfClearBond : Each MovesStmt rfClearBond := by
  simp +contextual [-restCancel, moves_restCancel, -onDiscardHid, moves_onDiscardHid]

/-- The bond is saved. -/
theorem moves_saveBond : Each MovesStmt saveBond := by
  simp +contextual

/-- The second stage of a rest. -/
theorem moves_onRestStage2 : Each MovesStmt onRestStage2 := by
  simp +contextual

end Statements

/-! ## The functions of a link that is up -/

/-- A statement that moves the search of a link that is not pairing, and does not let it pair. -/
def OutsideStmt (f : Rf → Rf) : Prop := ∀ s : Rf, s.state ≠ .pairing → (f s).state ≠ .pairing ∧ Moves s.duty (f s).duty

/-- A function of a link that is up moves no search. -/
theorem OutsideStmt.run {α : Type} {p : RfM α} (h : Each OutsideStmt p) {s : Rf} (hs : s.state ≠ .pairing) :
    Moves s.duty (p.run s).2.duty := by
  induction p generalizing s with
  | ret a => exact Moves.refl _
  | stmt f next ih => exact (h.1 s hs).2.trans (ih s (h.2 s) (h.1 s hs).1)

/-- The handler of an event that only a link that is up has. -/
theorem OutsideStmt.connected {p : RfM Unit} (h : Each OutsideStmt p) : MovesRun (do
    let state ← .read fun s => s.state
    whenever (state = .connected) p) := by
  refine MovesRun.read_bind fun s => ?_
  by_cases hc : s.state = .connected
  · rw [whenever_pos hc]
    exact OutsideStmt.run h (by simp [hc])
  · rw [whenever_neg hc]
    exact Moves.refl _

/-- A statement about something else than the state, the timers and the entries. -/
theorem OutsideStmt.same {f : Rf → Rf}
    (h : ∀ s : Rf, (f s).state = s.state ∧ (f s).tmos = s.tmos ∧ (f s).trace.pairEntries = s.trace.pairEntries) : OutsideStmt f := by
  intro s hs
  obtain ⟨hstate, htmos, hentries⟩ := h s
  have hduty : (f s).duty.tmos = s.duty.tmos := htmos
  have hsearching : (f s).duty.searching = false := by simp [Rf.duty, hstate, hs]
  refine ⟨hstate.trans_ne hs, Moves.outside hsearching ?_ (Nat.le_of_eq hentries.symm) (.inl ?_) fun h => .inl (hduty ▸ h)⟩
  · rw [hduty]
  · rw [hduty]

/-- To read is nothing of it. -/
theorem OutsideStmt.id : OutsideStmt id := .same fun _ => ⟨rfl, rfl, rfl⟩

/-- A timer other than the end of the window stops. -/
theorem outside_stop {e : RfEvt} (he : e ≠ .pairRxOff) : Each OutsideStmt (rfStopTaskAtomic e) :=
  Each.modify fun _ hs => ⟨hs, Moves.stop he⟩

/-- A timer that is not one of the search starts. -/
theorem outside_start {e : RfEvt} (hb : e ≠ .pairBcast) (ho : e ≠ .pairRxOff) (ticks : Nat) :
    Each OutsideStmt (rfStartTaskAtomic e ticks) :=
  Each.modify fun _ hs => ⟨hs, Moves.start hb ho ticks⟩

/-- A response goes out, or the receiver is to start again. -/
theorem outside_rfDoResponseTx : Each OutsideStmt rfDoResponseTx := by
  have hid := OutsideStmt.id
  refine Each.bind (Each.read hid) fun pending => each_whenever ?_
  refine Each.bind (Each.modify (.same fun _ => ⟨rfl, rfl, rfl⟩)) fun _ => Each.bind (Each.read hid) fun ctrl => ?_
  refine Each.bind ⟨.same fun _ => ⟨rfl, rfl, rfl⟩, fun _ => trivial⟩ fun head => ?_
  refine Each.bind (Each.modify (.same fun _ => ⟨rfl, rfl, rfl⟩)) fun _ => ?_
  refine Each.bind ⟨.same fun _ => ⟨rfl, rfl, rfl⟩, fun _ => trivial⟩ fun status => ?_
  refine Each.bind (each_whenever ?_) fun _ => each_whenever ?_
  · refine Each.bind (Each.modify (.same fun _ => ⟨rfl, rfl, rfl⟩)) fun _ => each_whenever ?_
    exact Each.modify (.same fun _ => ⟨rfl, rfl, rfl⟩)
  · refine Each.bind (Each.modify (.same fun _ => ⟨rfl, rfl, rfl⟩)) fun _ => ?_
    exact Each.modify fun _ hs => ⟨hs, Moves.set (by decide) (by decide)⟩

/-- The receiver starts, but not in a search. -/
theorem outside_rfStartRx (channel : Nat) : Each OutsideStmt (rfStartRx channel) :=
  each_rfStartRx .id (fun _ => .same fun _ => ⟨rfl, rfl, rfl⟩)
    (Each.modify (.same fun _ => ⟨rfl, rfl, rfl⟩)) channel

/-- The hop goes on. -/
theorem outside_rfHopTick (interval : Nat) : Each OutsideStmt (rfHopTick interval) := by
  refine Each.bind ⟨.same fun _ => ⟨rfl, rfl, rfl⟩, fun _ => trivial⟩ fun advanced => each_whenever ?_
  refine Each.bind ⟨.same fun _ => ⟨rfl, rfl, rfl⟩, fun _ => trivial⟩ fun pending => each_whenever ?_
  exact Each.bind (Each.read .id) fun idx => outside_rfStartRx _

/-- A pending response is waited for, or the hop goes on. -/
theorem outside_rfHopOrWait : Each OutsideStmt rfHopOrWait := by
  refine Each.bind (Each.read .id) fun interval => ?_
  refine Each.bind ⟨.same fun _ => ⟨rfl, rfl, rfl⟩, fun _ => trivial⟩ fun pending => ?_
  refine Each.ite (Each.bind (Each.read .id) fun waits => each_whenever ?_) (outside_rfHopTick interval)
  exact Each.bind (Each.modify (.same fun _ => ⟨rfl, rfl, rfl⟩)) fun _ => outside_rfHopTick interval

/-- The supervision starts anew. -/
theorem outside_rearmSupervision : Each OutsideStmt rearmSupervision := by
  refine Each.bind (Each.read .id) fun kick => each_whenever ?_
  refine Each.bind (Each.modify (.same fun _ => ⟨rfl, rfl, rfl⟩)) fun _ => ?_
  exact Each.bind (outside_stop (by decide)) fun _ => outside_start (by decide) (by decide) _

/-- The turnaround timer stops. -/
theorem outside_rfTmr0Stop : Each OutsideStmt rfTmr0Stop := by
  iterate 3 refine Each.bind (Each.modify (.same fun _ => ⟨rfl, rfl, rfl⟩)) fun _ => ?_
  exact Each.modify (.same fun _ => ⟨rfl, rfl, rfl⟩)

/-- The inactivity timer starts anew. -/
theorem outside_restArmIdle : Each OutsideStmt restArmIdle := by
  refine Each.bind (Each.read .id) fun due => each_whenever ?_
  exact Each.bind (outside_stop (by decide)) fun _ => outside_start (by decide) (by decide) _

/-- A probe becomes the session. -/
theorem outside_restPromoteToNormal : Each OutsideStmt restPromoteToNormal := by
  iterate 3 refine Each.bind (outside_stop (by decide)) fun _ => ?_
  iterate 5 refine Each.bind (Each.modify (.same fun _ => ⟨rfl, rfl, rfl⟩)) fun _ => ?_
  refine Each.bind (outside_stop (by decide)) fun _ => Each.bind (outside_start (by decide) (by decide) _) fun _ => ?_
  exact outside_restArmIdle

/-- A session is announced. -/
theorem outside_announceSession (silentProbe : Bool) : Each OutsideStmt (announceSession silentProbe) := by
  refine each_whenever (Each.bind (Each.read .id) fun probe => Each.ite outside_restPromoteToNormal ?_)
  iterate 3 refine Each.bind (Each.modify (.same fun _ => ⟨rfl, rfl, rfl⟩)) fun _ => ?_
  exact outside_restArmIdle

/-- The supervision of a session starts. -/
theorem outside_supervise {p : RfM Unit} (hp : Each OutsideStmt p) : Each OutsideStmt (do
    pficEnableTmr0
    rfStopTaskAtomic .disconnect
    rfStartTaskAtomic .disconnect rfConnectedTimeoutTicks
    p) := by
  refine Each.bind (Each.modify (.same fun _ => ⟨rfl, rfl, rfl⟩)) fun _ => ?_
  exact Each.bind (outside_stop (by decide)) fun _ => Each.bind (outside_start (by decide) (by decide) _) fun _ => hp

/-! ## The search is entered and left -/

/-- The link is taken down, and the search with it. -/
theorem moves_rfDisconnect : MovesRun rfDisconnect :=
  fun _ => Moves.outside rfl rfl (Nat.le_refl _) (.inr rfl) fun h => (Bool.false_ne_true h).elim

/-- The link goes quiet, and the search ends. -/
theorem moves_restGoQuiet : MovesRun restGoQuiet :=
  fun _ => Moves.outside rfl rfl (Nat.le_refl _) (.inr rfl) fun h => (Bool.false_ne_true h).elim

/-- The RF task starts in IDLE. -/
theorem moves_onStart : MovesRun onStart := fun _ => Moves.outside rfl rfl (Nat.le_refl _) (.inl rfl) .inl

/-- A pairing that nobody answered ends. -/
theorem moves_onPairTimeout : MovesRun onPairTimeout := by
  refine MovesRun.read_bind fun s => ?_
  by_cases hp : s.state = .pairing
  · rw [whenever_pos hp]
    exact Moves.outside rfl rfl (Nat.le_refl _) (.inl rfl) .inl
  · rw [whenever_neg hp]
    exact Moves.refl _

/-- A probe ends, and its search with it. -/
theorem moves_restProbeEnd (caught : Bool) : MovesRun (restProbeEnd caught) := by
  refine MovesRun.bind (fun _ => ?_) fun _ => moves_restGoQuiet
  cases caught <;> exact Moves.refl _

/-- A probe starts a search, with its window open. -/
theorem moves_restProbeStart : MovesRun restProbeStart := by
  refine MovesRun.read_bind fun s => ?_
  split
  · exact Moves.outside rfl rfl (Nat.le_refl _) (.inl rfl) .inl
  · exact Moves.enter rfl (Nat.lt_succ_self _) rfl ⟨rfl, rfl, rfl, rfl, rfl⟩

/-- A pairing starts: it is no bonded search. -/
theorem moves_rfEnterPairing : MovesRun rfEnterPairing := by
  refine MovesRun.read_bind fun s => ?_
  split
  · exact Moves.refl _
  · exact Moves.outside rfl rfl (Nat.le_succ _) (.inl rfl) fun _ => .inr (Nat.lt_succ_self _)

/-- The host selects 2.4 GHz: a search starts, with its window open. -/
theorem moves_rfSelect2G4 : MovesRun rfSelect2G4 := by
  have hsearch : MovesRun searchBonded := by
    refine (MovesRun.of_each moves_restCancel).bind fun _ => MovesRun.read_bind fun s => ?_
    by_cases hb : s.bond.hasBond = true
    · rw [whenever_pos hb]
      exact Moves.enter rfl (Nat.lt_succ_self _) rfl ⟨rfl, rfl, rfl, rfl, rfl⟩
    · rw [whenever_neg hb]
      exact Moves.refl _
  refine (moves_stop (by decide)).bind fun _ => MovesRun.read_bind fun s => ?_
  split
  · exact Moves.refl _
  · refine (MovesRun.composes.read _).bind (fun state => ?_) s
    exact ite_of (fun _ => MovesRun.of_each moves_keepProbe) fun _ => hsearch

/-! ## The calls -/

/-- What the parts of a command do. -/
theorem moves_hostParts : HostParts fun p => MovesRun p where
  toComposes := MovesRun.composes
  out _ _ := Moves.refl _
  transport _ _ := Moves.refl _
  drop := MovesRun.of_each moves_dropQueue
  select := moves_rfSelect2G4
  pair := moves_rfEnterPairing
  disconnect := moves_rfDisconnect
  unpair := moves_rfDisconnect.bind fun _ => MovesRun.of_each moves_rfClearBond

/-- A report wakes a rest: a probe starts. -/
theorem moves_wakeRest : MovesRun wakeRest := by
  refine (MovesRun.composes.read _).bind fun state => ite_of (fun _ => ?_) fun _ => ?_
  · refine MovesRun.bind (fun _ => Moves.refl _) fun _ => (moves_stop (by decide)).bind fun _ => ?_
    exact (moves_stop (by decide)).bind fun _ => moves_restProbeStart
  · refine (MovesRun.composes.read _).bind fun probe => ite_of (fun _ => ?_) fun _ => ?_
    · refine (MovesRun.of_each moves_wakeProbe).bind fun _ => (MovesRun.composes.read _).bind fun state => ?_
      exact MovesRun.whenever fun _ => MovesRun.of_each moves_restPromoteToNormal
    · exact (MovesRun.composes.read _).bind fun state => MovesRun.whenever fun _ => MovesRun.of_each moves_restArmIdle

/-- Every frame of the host. -/
theorem moves_handleUartFrame (cmd sub : Byte) (payload : Report) : MovesRun (handleUartFrame cmd sub payload) := by
  refine ite_of (fun _ => ?_) fun _ => ite_of (fun _ => moves_hostParts.handleCommand sub) fun _ => MovesRun.composes.pure ()
  exact (MovesRun.of_each (moves_queueReport payload)).bind fun _ => moves_wakeRest

/-- The functions after `rf_state = RF_STATE_CONNECTED` concern a link that is up. -/
theorem moves_rfEnterConnected : MovesRun rfEnterConnected := by
  refine MovesRun.read_bind fun s => ?_
  by_cases hp : s.state = .pairing
  · rw [whenever_pos hp, run_read_bind, run_bind]
    have hstart : Moves s.duty ((startSession (s.rest.probe && !s.rest.probeWake)).run s).2.duty :=
      Moves.outside rfl rfl (Nat.le_refl _) (.inr rfl) fun h => (Bool.false_ne_true h).elim
    refine hstart.trans (OutsideStmt.run ?_ nofun)
    refine Each.bind outside_rfTmr0Stop fun _ => Each.bind (Each.read .id) fun idx => ?_
    exact Each.bind (outside_rfStartRx _) fun _ => outside_supervise (outside_announceSession _)
  · rw [whenever_neg hp]
    exact Moves.refl _

/-- `RF_ConnectedTick` does nothing in a search. -/
theorem moves_rfConnectedTick : MovesRun rfConnectedTick := by
  refine MovesRun.read_bind fun s => ?_
  by_cases hc : s.state = .connected
  · rw [whenever_pos hc, run_read_bind]
    split
    · exact moves_restProbeEnd true s
    · exact OutsideStmt.run (Each.bind outside_rearmSupervision fun _ => outside_rfHopOrWait) (by simp [hc])
  · rw [whenever_neg hc]
    exact Moves.refl _

/-- The link rests, or waits on. -/
theorem moves_onRestIdle : MovesRun onRestIdle := by
  refine MovesRun.read_bind fun s => ?_
  by_cases hd : (decide (s.state = .connected) && !s.rest.probe) = true
  · rw [whenever_pos hd]
    refine (MovesRun.composes.read _).bind (fun rests => ite_of (fun _ => ?_) fun _ => ?_) s
    · exact fun _ => Moves.outside rfl rfl (Nat.le_refl _) (.inr rfl) fun h => (Bool.false_ne_true h).elim
    · exact moves_start (by decide) (by decide) _
  · rw [whenever_neg hd]
    exact Moves.refl _

/-- A probe starts a search. -/
theorem moves_onRestProbe : MovesRun onRestProbe := by
  refine (MovesRun.composes.read _).bind fun due => MovesRun.whenever fun _ => ?_
  exact (moves_start (by decide) (by decide) _).bind fun _ => moves_restProbeStart

/-- A probe that nobody answered ends. -/
theorem moves_onRestProbeTimeout : MovesRun onRestProbeTimeout := by
  refine (MovesRun.composes.read _).bind fun probe => MovesRun.whenever fun _ => ?_
  refine (MovesRun.composes.read _).bind fun wake => ite_of (fun _ => ?_) fun _ => moves_restProbeEnd false
  exact moves_start (by decide) (by decide) _

/-- A link that is lost is searched for. -/
theorem moves_onDisconnect : MovesRun onDisconnect := by
  refine MovesRun.read_bind fun s => ?_
  by_cases hc : s.state = .connected
  · rw [whenever_pos hc]
    exact Moves.outside rfl rfl (Nat.le_refl _) (.inl rfl) .inl
  · rw [whenever_neg hc]
    exact Moves.refl _

/-! ## A pass of TMOS -/

/-- The events that neither send a beacon nor start or end a window. -/
theorem moves_rfProcessEvent {e : RfEvt} (hr : e ≠ .rxRestart) (hb : e ≠ .pairBcast) (ho : e ≠ .pairRxOff) :
    MovesRun (rfProcessEvent e) := by
  cases e with
  | rxRestart => exact absurd rfl hr
  | pairBcast => exact absurd rfl hb
  | pairRxOff => exact absurd rfl ho
  | start => exact moves_onStart
  | pairTimeout => exact moves_onPairTimeout
  | enterConnected => exact moves_rfEnterConnected
  | respond => exact OutsideStmt.connected outside_rfDoResponseTx
  | notifyLed => exact MovesRun.of_each moves_onNotifyLed
  | discardHid => exact MovesRun.of_each moves_onDiscardHid
  | saveBond => exact MovesRun.of_each moves_saveBond
  | restIdle => exact moves_onRestIdle
  | restProbe => exact moves_onRestProbe
  | restProbeTimeout => exact moves_onRestProbeTimeout
  | restStage2 => exact MovesRun.of_each moves_onRestStage2
  | disconnect => exact moves_onDisconnect

/-- `rf_start_rx` starts the receiver, whatever the radio answers. -/
theorem duty_rfStartRx (channel : Nat) (s : Rf) : ((rfStartRx channel).run s).2.duty = { s.duty with receiving := true } := by
  have hrest : { ((rfStartRx channel).run s).2.duty with receiving := true } = { s.duty with receiving := true } :=
    Each.view_run (v := fun s => { s.duty with receiving := true })
      (each_rfStartRx (fun _ => rfl) (fun _ _ => rfl) (Each.modify fun _ => rfl) channel) s
  have hrecv : ((rfStartRx channel).run s).2.duty.receiving = true := by
    simp only [rfStartRx, run_bind]
    rfl
  rw [← hrest, ← hrecv]

/-- The end of the window is set, in a search and if it is not set yet. -/
theorem duty_endWindow (s : Rf) :
    ((do
      let closes ← .read fun s => decide (s.state = .pairing) && decide (s.pair.flavor = .bonded) && !s.pair.rxOffArmed
      whenever closes do
        .modify fun s => { s with pair := { s.pair with rxOffArmed := true } }
        rfStartTaskAtomic .pairRxOff kbdPairRxWindowTicks : RfM Unit).run s).2.duty =
      if s.duty.searching && !s.duty.offArmed then
        { s.duty with offArmed := true, tmos := s.duty.tmos.startTask .pairRxOff kbdPairRxWindowTicks }
      else s.duty := by
  rw [run_read_bind]
  by_cases hc : (decide (s.state = .pairing) && decide (s.pair.flavor = .bonded) && !s.pair.rxOffArmed) = true
  · rw [whenever_pos hc]
    exact (if_pos hc).symm
  · rw [whenever_neg hc]
    exact (if_neg hc).symm

/-- The receiver starts in an open window, or out of a search. -/
theorem step_onRxRestart (s : Rf) :
    Step .process 0 s.duty (onRxRestart.run { s with tmos := s.tmos.take .rxRestart }).2.duty := by
  unfold onRxRestart
  rw [run_read_bind]
  by_cases hlive : (decide (s.state = .connected) || (decide (s.state = .pairing) && s.pair.rxOpen)) = true
  · rw [whenever_pos hlive, run_read_bind, run_bind, duty_endWindow, duty_rfStartRx]
    by_cases hs : s.duty.searching = true
    · have hpairing : s.state = .pairing ∧ s.pair.flavor = .bonded := by simpa [Rf.duty] using hs
      have hopen : s.pair.rxOpen = true := by simpa [hpairing.1] using hlive
      exact Step.restart hs hopen
    · have hs : s.duty.searching = false := by simpa using hs
      rw [if_neg (by simp [show ({ s with tmos := s.tmos.take .rxRestart } : Rf).duty.searching = false from hs])]
      exact .moves ((Moves.take (by decide)).trans (Moves.outside hs rfl (Nat.le_refl _) (.inl rfl) .inl))
  · rw [whenever_neg hlive]
    exact .moves (Moves.take (by decide))

/-- The radio is done with its receiver when a beacon goes out. -/
theorem duty_sendBeacon (s : Rf) : (sendBeacon.run s).2.duty = { s.duty with receiving := false } := by
  have heach : Each (fun f => ∀ s : Rf, { (f s).duty with receiving := false } = { s.duty with receiving := false }) sendBeacon := by
    refine Each.bind (Each.modify fun _ => rfl) fun _ => Each.bind (Each.read fun _ => rfl) fun payload => ?_
    refine Each.bind (Each.modify fun _ => rfl) fun _ => Each.bind (Each.read fun _ => rfl) fun aa => ?_
    refine Each.bind (each_rfConfigureIfNeeded (fun _ => rfl) (fun _ _ => rfl) aa) fun _ => ?_
    exact Each.bind ⟨fun _ => rfl, fun _ => trivial⟩ fun _ => Each.modify fun _ => rfl
  have hrest : { (sendBeacon.run s).2.duty with receiving := false } = { s.duty with receiving := false } :=
    Each.view_run (v := fun s => { s.duty with receiving := false }) heach s
  have hrecv : (sendBeacon.run s).2.duty.receiving = false := by
    simp only [sendBeacon, run_bind]
    rfl
  rw [← hrest, ← hrecv]

/-- A beacon opens the window anew. -/
theorem duty_rfPairBroadcast {s : Rf} (hv : s.keyboardMacValid = true) : (rfPairBroadcast.run s).2.duty = s.duty.beacon := by
  have hbeacon := duty_sendBeacon s
  unfold rfPairBroadcast
  rw [run_read_bind, if_neg (by simp [hv]), run_bind]
  have hafter (t : Rf) : ((do
      rfStartTaskAtomic .pairBcast rfPairBcastTicks
      rfStopTaskAtomic .pairRxOff
      setRxWindow true : RfM Unit).run t).2.duty = { t.duty with
        isOpen := true
        offArmed := false
        tmos := (t.duty.tmos.startTask .pairBcast rfPairBcastTicks).stopTask .pairRxOff } := rfl
  rw [hafter, hbeacon]
  rfl

/-- The handler of `RF_EVT_PAIR_BCAST`. -/
theorem step_pairBcast {s : Rf} (hn : s.tmos.next = some .pairBcast) :
    Step .process (RfOp.process.beacons s) s.duty ((rfProcessEvent .pairBcast).run { s with tmos := s.tmos.take .pairBcast }).2.duty := by
  have htaken : Moves s.duty (s.duty.take .pairBcast) := Moves.take (by decide)
  unfold rfProcessEvent
  rw [run_read_bind]
  by_cases hp : s.state = .pairing
  · rw [whenever_pos hp]
    by_cases hv : s.keyboardMacValid = true
    · have hone : RfOp.process.beacons s = 1 := if_pos ⟨hn, hp, hv⟩
      rw [hone, duty_rfPairBroadcast (s := { s with tmos := s.tmos.take .pairBcast }) hv]
      exact Step.beacon hn
    · have hzero : RfOp.process.beacons s = 0 := if_neg fun h => hv h.2.2
      unfold rfPairBroadcast
      rw [hzero, run_read_bind, if_pos (by simpa using hv)]
      exact .moves (htaken.trans (Moves.outside rfl rfl (Nat.le_refl _) (.inl rfl) .inl))
  · have hzero : RfOp.process.beacons s = 0 := if_neg fun h => hp h.2.1
    rw [hzero, whenever_neg hp]
    exact .moves htaken

/-- The end of the window closes it. -/
theorem duty_onPairRxOff {s : Rf} (hs : s.duty.searching = true) : (onPairRxOff.run s).2.duty = s.duty.close := by
  have hcloses : (decide (s.state = .pairing) && decide (s.pair.flavor = .bonded)) = true := hs
  unfold onPairRxOff
  rw [run_read_bind, whenever_pos hcloses]
  rfl

/-- The handler of `RF_EVT_PAIR_RX_OFF`. -/
theorem step_onPairRxOff {s : Rf} (hn : s.tmos.next = some .pairRxOff) :
    Step .process 0 s.duty (onPairRxOff.run { s with tmos := s.tmos.take .pairRxOff }).2.duty := by
  by_cases hs : s.duty.searching = true
  · rw [duty_onPairRxOff (s := { s with tmos := s.tmos.take .pairRxOff }) hs]
    exact Step.close hs hn
  · have hcloses : ¬(decide (s.state = .pairing) && decide (s.pair.flavor = .bonded)) = true := hs
    unfold onPairRxOff
    rw [run_read_bind, whenever_neg hcloses]
    exact .moves (Moves.outside (Bool.eq_false_iff.2 hs) rfl (Nat.le_refl _) (.inl rfl) .inl)

/-- A pass of TMOS takes the event that comes next, and handles it. -/
theorem run_tmosProcess {s : Rf} {e : RfEvt} (hn : s.tmos.next = some e) :
    tmosProcess.run s = (rfProcessEvent e).run { s with tmos := s.tmos.take e } := by
  simp [tmosProcess, Prog.run, hn]

/-- A pass of TMOS is a step of the search. -/
theorem duty_tmosProcess (s : Rf) : Step .process (RfOp.process.beacons s) s.duty (tmosProcess.run s).2.duty := by
  cases hn : s.tmos.next with
  | none =>
    have hrun : (tmosProcess.run s).2 = s := by simp [tmosProcess, Prog.run, hn]
    have hzero : RfOp.process.beacons s = 0 := if_neg fun h => by simp [Rf.Beacons, hn] at h
    rw [hrun, hzero]
    exact .moves (Moves.refl _)
  | some e =>
    rw [run_tmosProcess hn]
    by_cases hb : e = .pairBcast
    · subst hb
      exact step_pairBcast hn
    · have hzero : RfOp.process.beacons s = 0 := if_neg fun h => hb (Option.some.inj (hn.symm.trans h.1))
      rw [hzero]
      by_cases hr : e = .rxRestart
      · subst hr
        exact step_onRxRestart s
      · by_cases ho : e = .pairRxOff
        · subst ho
          exact step_onPairRxOff hn
        · exact .moves ((Moves.take ho).trans (moves_rfProcessEvent hr hb ho { s with tmos := s.tmos.take e }))

/-! ## The interrupts -/

/-- The callback queues events that are not of the search. -/
theorem moves_setEvent {e : RfEvt} (hb : e ≠ .pairBcast) (ho : e ≠ .pairRxOff) (s : Rf) : Moves s.duty (s.setEvent e).duty :=
  Moves.set hb ho

/-- An answer to a beacon is caught. -/
theorem moves_onPairPacket (s : Rf) (buf : RxBuf) : Moves s.duty (s.onPairPacket buf).duty := by
  unfold Rf.onPairPacket
  repeat' split
  all_goals exact Moves.set (d := s.duty) (by decide) (by decide)

/-- A poll is caught. -/
theorem moves_onPoll (s : Rf) (buf : RxBuf) : Moves s.duty (s.onPoll buf).duty := by
  have hsave (s : Rf) : Moves s.duty s.dueBondSave.duty := by
    unfold Rf.dueBondSave
    split
    · exact Moves.set (d := s.duty) (by decide) (by decide)
    · exact Moves.refl _
  have hack (s : Rf) (rxCtrl : Byte) : Moves s.duty (s.ackPoll rxCtrl).duty := by
    unfold Rf.ackPoll
    repeat' split
    all_goals exact Moves.refl _
  have hled (s : Rf) : Moves s.duty (s.relayLed buf).duty := by
    simp only [Rf.relayLed]
    repeat' split
    · exact Moves.set (d := s.duty) (by decide) (by decide)
    · exact Moves.refl _
    · exact Moves.refl _
  unfold Rf.onPoll
  split
  · exact moves_setEvent (by decide) (by decide) s
  · exact (hsave (s.lockHop buf.len)).trans ((hack _ _).trans (hled _))

/-- The callback of the radio. -/
theorem moves_callback (s : Rf) (sta : RfSta) (rsr : Nat) (rxBuf : Option RxBuf) :
    Moves s.duty (s.rf2g4StatusCallBack sta rsr rxBuf).duty := by
  have hset (s : Rf) : Moves s.duty (s.setEvent .rxRestart).duty := moves_setEvent (by decide) (by decide) s
  unfold Rf.rf2g4StatusCallBack
  cases sta with
  | txFinish => exact hset s
  | txFail => exact hset s
  | other => exact hset s
  | rxData =>
    cases rxBuf with
    | none => exact hset s
    | some buf =>
      dsimp only [Rf.onRxData]
      split
      · exact hset s
      · split
        · exact moves_onPairPacket { s with rssi := buf 0 } buf
        · split
          · exact moves_onPoll { s with rssi := buf 0 } buf
          · exact hset s

/-- The turnaround is over. -/
theorem moves_tmr0IRQHandler (s : Rf) : Moves s.duty s.tmr0IRQHandler.duty := by
  simp only [Rf.tmr0IRQHandler]
  repeat' split
  · exact Moves.refl _
  · exact Moves.set (d := s.duty) (by decide) (by decide)
  · exact Moves.refl _

/-- Whatever happens to the RF task is a step of the search. -/
theorem duty_apply (op : RfOp) (s : Rf) : Step op (op.beacons s) s.duty (op.apply s).duty := by
  cases op with
  | frame cmd sub payload => exact .moves (moves_handleUartFrame cmd sub payload s)
  | process => exact duty_tmosProcess s
  | connectedTick => exact .moves (moves_rfConnectedTick s)
  | callback sta rsr rxBuf => exact .moves (moves_callback s sta rsr rxBuf)
  | tmr0Cycle => exact .moves (Moves.refl _)
  | tmr0Irq => exact .moves (moves_tmr0IRQHandler s)
  | expire e => exact .expire
  | advance ticks => exact .advance
  | hardware hw => exact .moves (Moves.refl _)
  | ledResync => exact .moves (Moves.refl _)
  | quiesce => exact .moves ((MovesRun.of_each moves_rfFlushBondSave).bind (fun _ => moves_rfDisconnect) s)

end OpenController
