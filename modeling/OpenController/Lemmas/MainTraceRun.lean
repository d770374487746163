import OpenController.Lemmas.MainSleepRun
import OpenController.MainTrace

/-!
# What the host asked for, across runs

One lemma for each part of the main loop says what it does to the entry into the bootloader; what the host negotiated holds between
any two steps.
-/

namespace OpenController

open Prog

variable {board : Board} {m t u : Main} {ops : List MainOp}

/-! ## Runs -/

/-- A run is one part after the other. -/
theorem MainTrace.of_append {l : List MainOp} (h : MainTrace board m (ops ++ l) t) :
    ∃ u, MainTrace board m ops u ∧ MainTrace board u l t := by
  generalize hq : ops ++ l = q at h
  induction h generalizing l with
  | start =>
    obtain ⟨rfl, rfl⟩ := List.append_eq_nil_iff.mp hq
    exact ⟨m, .start, .start⟩
  | @step ops' t u op h hu hs ih =>
    rcases List.eq_nil_or_concat l with rfl | ⟨l', op', rfl⟩
    · rw [List.append_nil] at hq
      exact ⟨u.settle, hq ▸ .step op h hu hs, .start⟩
    · rw [List.concat_eq_append, ← List.append_assoc] at hq
      obtain ⟨hl, hop⟩ := List.append_inj' hq rfl
      obtain ⟨v, hv, ht⟩ := ih hl
      obtain rfl := List.singleton_inj.mp hop
      exact ⟨v, hv, List.concat_eq_append ▸ .step op' ht hu hs⟩

/-- A run of no steps leads nowhere. -/
theorem MainTrace.of_nil (h : MainTrace board m [] t) : t = m := by
  generalize hq : ([] : List MainOp) = q at h
  cases h with
  | start => rfl
  | step _ _ _ _ => cases (List.append_eq_nil_iff.mp hq.symm).2

/-- A run of one step. -/
theorem MainTrace.of_singleton {op : MainOp} (h : MainTrace board m [op] t) : ∃ u, op.Steps board m u ∧ t = u.settle := by
  generalize hq : [op] = q at h
  cases h with
  | start => cases hq
  | @step ops' t u op' h hu hs =>
    have happend : [] ++ [op] = ops' ++ [op'] := hq
    obtain ⟨rfl, hop⟩ := List.append_inj' happend rfl
    obtain rfl := List.singleton_inj.mp hop
    exact ⟨u, h.of_nil ▸ hs, rfl⟩

/-- The frames of a run are those of its parts. -/
theorem hostFrames_append (ops l : List MainOp) : hostFrames (ops ++ l) = hostFrames ops ++ hostFrames l := List.filterMap_append

/-! ## The entry into the bootloader -/

section Entry

variable {P : EntryView → Prop}

/-- No interrupt is about the entry. -/
theorem stable_entry : Stable MainInterrupt fun m => P m.entry := stable_outside (fun _ _ h => h) fun _ h => h

/-- Nor is a call of the RF task. -/
theorem entry_onRf {α : Type} (p : RfM α) : Kept MainInterrupt (fun m => P m.entry) (onRf p) :=
  kept_onRf (fun _ _ h => h) (fun _ h => h) p

/-- Nor is a statement about something else. -/
theorem entry_modify {f : Main → Main} (h : ∀ m, (f m).entry = m.entry) : Kept MainInterrupt (fun m => P m.entry) (.modify f) :=
  Kept.modify stable_entry fun m hm => by
    rw [h]
    exact hm

/-- Nor is the hardware that settles. -/
theorem entry_settle (m : Main) : m.settle.entry = m.entry := by
  unfold Main.settle
  split <;> rfl

/-- The sleep protocol takes its frames elsewhere. -/
theorem entry_sleepFrame (cmd sub : Byte) : Kept MainInterrupt (fun m => P m.entry) (sleepFrame cmd sub) := by
  refine Kept.bind (Triple.stmt stable_entry fun m hm => Triple.pure stable_entry fun _ ht => ht ▸ hm) fun action => ?_
  refine Kept.bind (kept_branch stable_entry (entry_onRf _)) fun _ => Kept.bind (entry_modify fun _ => rfl) fun _ => ?_
  exact Kept.bind (entry_modify fun _ => rfl) fun _ => kept_branch stable_entry (entry_modify fun _ => rfl)

/-- A frame latches the entry, if it asks for it, and does no more. -/
theorem entry_mainFrame {Q : EntryView → Prop} (cmd sub : Byte) (payload : Report)
    (hask : cmd = 0xA6 ∧ sub = 0x81 → ∀ e, P e → Q { e with pending := true }) (hno : ¬(cmd = 0xA6 ∧ sub = 0x81) → ∀ e, P e → Q e) :
    Triple MainInterrupt (fun m => P m.entry) (mainFrame board cmd sub payload) fun _ m => Q m.entry := by
  refine Triple.bind (entry_sleepFrame cmd sub) fun _ => Triple.bind (entry_onRf _) fun _ => ?_
  refine Triple.bind (kept_branch stable_entry (entry_onRf _)) fun _ => Triple.ite (fun h => ?_) fun h => ?_
  · exact Triple.modify stable_entry stable_entry fun m hm => hask h _ hm
  · exact Triple.pure stable_entry fun m hm => hno h _ hm

/-- `Power_Service` hands a sleep over, and enters none. -/
theorem entry_powerService (txIdle : Bool) (now : Nat) : Kept MainInterrupt (fun m => P m.entry) (powerService board txIdle now) := by
  have hclear : Kept MainInterrupt (fun m => P m.entry) clearSleepPending := entry_modify fun _ => rfl
  have hset (state : Nat) : Kept MainInterrupt (fun m => P m.entry) (setPowerState state) := entry_modify fun _ => rfl
  have hread {α : Type} (g : Main → α) : Kept MainInterrupt (fun m => P m.entry) (.read g) := Kept.read stable_entry g
  refine (hread _).bind fun state => Kept.ite (fun _ => (hread _).bind fun pending => kept_branch stable_entry ?_) fun _ => ?_
  · refine (hread _).bind fun openboot => Kept.ite (fun _ => hclear) fun _ => ?_
    exact Kept.bind (entry_modify fun _ => rfl) fun _ => hset 1
  · refine (hread _).bind fun standDown => Kept.ite (fun _ => hclear.bind fun _ => hset 0) fun _ => Kept.ite (fun _ => ?_) fun _ => ?_
    · exact (hread _).bind fun start => kept_branch stable_entry (hclear.bind fun _ => hset 0)
    · exact hclear.bind fun _ => (hset 0).bind fun _ => (entry_onRf _).bind fun _ => entry_modify fun _ => rfl

/-- The idle callback changes no more than the sleeps, and these only as long as no entry is pending. -/
structure Main.OnlySleeps (m t : Main) : Prop where
  entry : t.entry = { m.entry with sleeps := t.log.sleeps }
  sleeps : m.openbootEntryPending = true → t.log.sleeps = m.log.sleeps

/-- A sleep that was asked for is tried. -/
theorem onlySleeps_explicitSleep (time : Nat) (txIdle rxQuiet : Bool) (view : SleepView) (m : Main) :
    m.OnlySleeps (m.explicitSleep board time txIdle rxQuiet view).2 := by
  unfold Main.explicitSleep
  split
  · exact ⟨rfl, fun _ => rfl⟩
  · rename_i hno
    refine ⟨?_, fun hp => absurd (.inr (.inl hp)) hno⟩
    dsimp only
    split <;> rfl

/-- So is one of the module's own. -/
theorem onlySleeps_autoSleep (time : Nat) (txIdle rxQuiet : Bool) (view : SleepView) (m : Main) :
    m.OnlySleeps (m.autoSleep board time txIdle rxQuiet view).2 := by
  have hexpired : (m.pwrHoldoffExpired board).2.entry = m.entry := by
    unfold Main.pwrHoldoffExpired
    repeat' split
    all_goals rfl
  have hsame : m.OnlySleeps (m.pwrHoldoffExpired board).2 :=
    ⟨hexpired.trans (congrArg (fun s => { m.entry with sleeps := s }) (congrArg EntryView.sleeps hexpired).symm),
      fun _ => congrArg EntryView.sleeps hexpired⟩
  unfold Main.autoSleep
  dsimp only
  split
  · exact ⟨rfl, fun _ => rfl⟩
  split
  · exact ⟨rfl, fun _ => rfl⟩
  rename_i hno
  repeat' split
  · exact hsame
  · exact hsame
  · exact hsame
  · exact hsame
  · refine ⟨?_, fun hp => absurd hp hno⟩
    have hsleeps : ((m.pwrHoldoffExpired board).2.trySleep board time view false).2.entry =
        { (m.pwrHoldoffExpired board).2.entry with
          sleeps := ((m.pwrHoldoffExpired board).2.trySleep board time view false).2.log.sleeps } := rfl
    rw [hsleeps, hexpired]

/-- The idle callback only sleeps. -/
theorem onlySleeps_ch59xLowPower (time : Nat) (txIdle rxQuiet : Bool) (view : SleepView) (m : Main) :
    m.OnlySleeps (m.ch59xLowPower board time txIdle rxQuiet view).2 := by
  unfold Main.ch59xLowPower
  split
  · exact onlySleeps_explicitSleep time txIdle rxQuiet view m
  · exact onlySleeps_autoSleep time txIdle rxQuiet view m

/-- What no call does but a frame and `OpenBoot_Service`. -/
theorem entry_call {c : MainCall} (hframe : ∀ cmd sub payload, c ≠ .frame cmd sub payload)
    (hservice : ∀ fifoIdle now, c ≠ .openBootService fifoIdle now)
    (hsleeps : ∀ e : EntryView, P e → e.pending = false → ∀ sleeps, P { e with sleeps := sleeps }) :
    Kept MainInterrupt (fun m => P m.entry) (c.program board) := by
  cases c with
  | frame cmd sub payload => exact absurd rfl (hframe cmd sub payload)
  | openBootService fifoIdle now => exact absurd rfl (hservice fifoIdle now)
  | connectedTick => exact entry_onRf _
  | ledResync => exact entry_onRf _
  | powerService txIdle now => exact entry_powerService txIdle now
  | lowPower time txIdle rxQuiet view =>
    refine Kept.modify stable_entry fun m hm => ?_
    have honly : m.OnlySleeps (m.ch59xLowPower board time txIdle rxQuiet view).2 :=
      onlySleeps_ch59xLowPower time txIdle rxQuiet view m
    cases hp : m.openbootEntryPending with
    | true =>
      rw [honly.entry, honly.sleeps hp]
      exact hm
    | false =>
      rw [honly.entry]
      exact hsleeps _ hm hp _
  | other => exact Kept.pure stable_entry ()

/-- `OpenBoot_Service` takes the link down and remembers when, and later requests the update, once the UART has drained or had its
time. -/
theorem entry_openBootService {Q : EntryView → Prop} {fifoIdle : Bool} {now : Nat}
    (idle : ∀ e, P e → e.svc.state = 0 → e.pending = false → Q e)
    (down : ∀ e, P e → e.svc.state = 0 → e.pending = true → Q { e with svc := ⟨1, now⟩ })
    (wait : ∀ e, P e → e.svc.state ≠ 0 → ¬(fifoIdle = true ∨ ¬sub32 now e.svc.start < rtcClockTicksUs board 20000) → Q e)
    (done : ∀ e, P e → e.svc.state ≠ 0 → fifoIdle = true ∨ ¬sub32 now e.svc.start < rtcClockTicksUs board 20000 →
      Q { e with updated := true }) :
    Triple MainInterrupt (fun m => P m.entry) (openBootService board fifoIdle now) fun _ m => Q m.entry := by
  have hread {P : EntryView → Prop} {α : Type} (g : EntryView → α) : Triple MainInterrupt (fun m => P m.entry)
      (.read fun m => g m.entry) fun a m => P m.entry ∧ g m.entry = a :=
    Triple.read stable_entry (fun a => stable_entry (P := fun e => P e ∧ g e = a)) fun _ hm => ⟨hm, rfl⟩
  refine (hread fun e => e.svc.state).bind fun state => Triple.ite (fun hs => ?_) fun hs => ?_
  · subst hs
    refine (hread (P := fun e => P e ∧ e.svc.state = 0) EntryView.pending).bind fun pending => Triple.ite (fun hp => ?_) fun hp => ?_
    · subst hp
      have hdown : Triple MainInterrupt (fun m => (P m.entry ∧ m.entry.svc.state = 0) ∧ m.entry.pending = true) (onRf takeDown)
          fun _ m => (P m.entry ∧ m.entry.svc.state = 0) ∧ m.entry.pending = true :=
        entry_onRf (P := fun e => (P e ∧ e.svc.state = 0) ∧ e.pending = true) _
      have hstart : Triple MainInterrupt (fun m => (P m.entry ∧ m.entry.svc.state = 0) ∧ m.entry.pending = true)
          (.modify fun m => { m with openboot := { m.openboot with start := now } })
          fun _ m => Q { m.entry with svc := { m.entry.svc with state := 1 } } := by
        refine Triple.modify (stable_entry (P := fun e => (P e ∧ e.svc.state = 0) ∧ e.pending = true))
          (stable_entry (P := fun e => Q { e with svc := { e.svc with state := 1 } })) fun m hm => ?_
        have hq := down m.entry hm.1.1 hm.1.2 hm.2
        exact hq
      refine hdown.bind fun _ => hstart.bind fun _ => ?_
      exact Triple.modify (stable_entry (P := fun e => Q { e with svc := { e.svc with state := 1 } })) stable_entry fun m hm => hm
    · refine Triple.pure stable_entry fun m hm => ?_
      obtain ⟨⟨hpre, hzero⟩, rfl⟩ := hm
      exact idle _ hpre hzero (Bool.eq_false_of_not_eq_true hp)
  · have hne : Triple MainInterrupt (fun m => P m.entry ∧ m.entry.svc.state = state) (.read fun m => m.openboot.start)
        fun start m => (P m.entry ∧ m.entry.svc.state = state) ∧ m.entry.svc.start = start :=
      hread (P := fun e => P e ∧ e.svc.state = state) fun e => e.svc.start
    refine hne.bind fun start => Triple.ite (fun hd => ?_) fun hd => ?_
    · refine Triple.modify (stable_entry (P := fun e => (P e ∧ e.svc.state = state) ∧ e.svc.start = start)) stable_entry fun m hm => ?_
      obtain ⟨⟨hpre, rfl⟩, rfl⟩ := hm
      have hq := done m.entry hpre hs hd
      exact hq
    · refine Triple.pure stable_entry fun m hm => ?_
      obtain ⟨⟨hpre, rfl⟩, rfl⟩ := hm
      exact wait _ hpre hs hd

/-! ### Steps -/

/-- What a step does that is not a frame and not `OpenBoot_Service`. -/
theorem entry_step {op : MainOp} (hframe : ∀ cmd sub payload, op ≠ .call (.frame cmd sub payload))
    (hservice : ∀ fifoIdle now, op ≠ .call (.openBootService fifoIdle now))
    (hsleeps : ∀ e : EntryView, P e → e.pending = false → ∀ sleeps, P { e with sleeps := sleeps })
    (hs : op.Steps board m t) (hm : P m.entry) : P t.settle.entry := by
  rw [entry_settle]
  cases op with
  | call c =>
    exact entry_call (fun cmd sub payload hc => hframe cmd sub payload (hc ▸ rfl))
      (fun fifoIdle now hc => hservice fifoIdle now (hc ▸ rfl)) hsleeps m () t hm hs
  | event next u => exact entry_onRf _ u () t (entry_onRf _ m next u hm hs.1) hs.2

end Entry

/-- What the entry is, over the steps from the start: it is latched if the host asked for it, and nothing comes of it before. -/
structure EntryView.Follows (frames : List (Byte × Byte)) (e : EntryView) : Prop where
  pending : e.pending = true ↔ (0xA6, 0x81) ∈ frames
  serves : e.svc.state ≠ 0 → e.pending = true
  updated : e.updated = true → e.pending = true

/-- A step latches the entry if the host asks for it, and comes to it later. -/
theorem follows_step {op : MainOp} {frames : List (Byte × Byte)} (hs : op.Steps board m t) (hm : m.entry.Follows frames) :
    t.settle.entry.Follows (frames ++ hostFrames [op]) := by
  by_cases hframe : ∃ cmd sub payload, op = .call (.frame cmd sub payload)
  · obtain ⟨cmd, sub, payload, rfl⟩ := hframe
    rw [entry_settle]
    have hone : hostFrames [.call (.frame cmd sub payload)] = [(cmd, sub)] := rfl
    rw [hone]
    refine entry_mainFrame (P := EntryView.Follows frames) cmd sub payload (fun hask e he => ?_) (fun hno e he => ?_) m () t hm hs
    · obtain ⟨rfl, rfl⟩ := hask
      exact ⟨by simp, fun _ => rfl, fun _ => rfl⟩
    · have hne : ((0xA6, 0x81) : Byte × Byte) ≠ (cmd, sub) := fun h => hno ⟨(congrArg Prod.fst h).symm, (congrArg Prod.snd h).symm⟩
      refine ⟨?_, he.serves, he.updated⟩
      rw [List.mem_append, List.mem_singleton, or_iff_left hne]
      exact he.pending
  by_cases hservice : ∃ fifoIdle now, op = .call (.openBootService fifoIdle now)
  · obtain ⟨fifoIdle, now, rfl⟩ := hservice
    rw [entry_settle]
    have hnone : frames ++ hostFrames [.call (.openBootService fifoIdle now)] = frames := List.append_nil frames
    rw [hnone]
    refine entry_openBootService (P := EntryView.Follows frames) (fun e he _ _ => he) (fun e he _ hp => ?_) (fun e he _ _ => he)
      (fun e he hs _ => ?_) m () t hm hs
    · exact ⟨he.pending, fun _ => hp, he.updated⟩
    · exact ⟨he.pending, he.serves, fun _ => he.serves hs⟩
  · have hnone : frames ++ hostFrames [op] = frames := by
      cases op with
      | call c =>
        cases c with
        | frame cmd sub payload => exact absurd ⟨cmd, sub, payload, rfl⟩ hframe
        | _ => exact List.append_nil frames
      | event _ _ => exact List.append_nil frames
    rw [hnone]
    refine entry_step (fun cmd sub payload h => hframe ⟨cmd, sub, payload, h⟩) (fun fifoIdle now h => hservice ⟨fifoIdle, now, h⟩)
      (fun e he _ sleeps => ?_) hs hm
    exact ⟨he.pending, he.serves, he.updated⟩

/-- So does a run. -/
theorem follows_run (hb : MainBooted m) (h : MainTrace board m ops t) : t.entry.Follows (hostFrames ops) := by
  induction h with
  | start =>
    obtain ⟨rf, -, rfl⟩ := hb
    exact ⟨⟨nofun, nofun⟩, fun hs => absurd rfl hs, nofun⟩
  | step op _ _ hs ih =>
    rw [hostFrames_append]
    exact follows_step hs ih

/-! ### Once the entry is latched -/

section Latched

variable {P : EntryView → Prop} (hp : ∀ e, P e → e.pending = true)
  (hdown : ∀ e now, P e → e.svc.state = 0 → P { e with svc := ⟨1, now⟩ }) (hdone : ∀ e, P e → P { e with updated := true })
include hp hdown hdone

/-- What holds of a latched entry holds after a step. -/
theorem latched_step {op : MainOp} (hs : op.Steps board m t) (hm : P m.entry) : P t.settle.entry := by
  by_cases hframe : ∃ cmd sub payload, op = .call (.frame cmd sub payload)
  · obtain ⟨cmd, sub, payload, rfl⟩ := hframe
    rw [entry_settle]
    refine entry_mainFrame (P := P) cmd sub payload (fun _ e he => ?_) (fun _ e he => he) m () t hm hs
    rw [← hp e he]
    exact he
  by_cases hservice : ∃ fifoIdle now, op = .call (.openBootService fifoIdle now)
  · obtain ⟨fifoIdle, now, rfl⟩ := hservice
    rw [entry_settle]
    exact entry_openBootService (P := P) (fun e he _ _ => he) (fun e he hs _ => hdown e now he hs) (fun e he _ _ => he)
      (fun e he _ _ => hdone e he) m () t hm hs
  · refine entry_step (fun cmd sub payload h => hframe ⟨cmd, sub, payload, h⟩) (fun fifoIdle now h => hservice ⟨fifoIdle, now, h⟩)
      (fun e he hno sleeps => ?_) hs hm
    cases hno.symm.trans (hp e he)

/-- And after a run. -/
theorem latched_run (h : MainTrace board m ops t) (hm : P m.entry) : P t.entry := by
  induction h with
  | start => exact hm
  | step op _ _ hs ih => exact latched_step hp hdown hdone hs ih

end Latched

/-! ## What the host negotiated -/

section Negotiated

variable {c : Prop} {frames : List (Byte × Byte)}

/-- No interrupt negotiates. -/
theorem stable_negotiated : Stable MainInterrupt (Main.Negotiated c frames) :=
  stable_outside (fun _ _ h => ⟨h.unlocked, h.pending, h.request, h.armed, h.autosleep⟩)
    fun _ h => ⟨h.unlocked, h.pending, h.request, h.armed, h.autosleep⟩

/-- Nor does a call of the RF task. -/
theorem negotiated_onRf {α : Type} (p : RfM α) : Kept MainInterrupt (Main.Negotiated c frames) (onRf p) :=
  kept_onRf (fun _ _ h => ⟨h.unlocked, h.pending, h.request, h.armed, h.autosleep⟩)
    (fun _ h => ⟨h.unlocked, h.pending, h.request, h.armed, h.autosleep⟩) p

/-- What a frame unlocks, and what it arms. -/
theorem SleepProto.onFrame_unlocked {st : SleepProto} {cmd sub : Byte} {openbootPending : Bool}
    (h : (st.onFrame cmd sub openbootPending).1.unlocked = true) : cmd = 0xA6 ∧ sub = 0x56 ∨ st.unlocked = true := by
  rw [onFrame] at h
  split at h
  · exact .inl ‹_›
  split at h
  · split at h <;> exact .inr h
  · right
    dsimp only [standDown] at h
    repeat' split at h
    all_goals exact h

/-- A frame arms auto-sleep after the negotiation, or leaves it armed. -/
theorem SleepProto.onFrame_autosleep {st : SleepProto} {cmd sub : Byte} {openbootPending : Bool}
    (h : (st.onFrame cmd sub openbootPending).1.autosleep = true) :
    (cmd = 0xA6 ∧ sub = 0x57) ∧ st.unlocked = true ∨ st.autosleep = true ∧ ¬DisarmsAutosleep cmd sub := by
  rw [onFrame] at h
  split at h
  · cases h
  rename_i hneg
  split at h
  · rename_i hauto
    split at h
    · exact .inl ⟨hauto, ‹_›⟩
    · refine .inr ⟨h, ?_⟩
      rw [hauto.1, hauto.2]
      decide
  · right
    have hpair : ¬(cmd = 0xA6 ∧ (sub = 0x51 ∨ sub = 0x52 ∨ sub = 0x63)) := by
      intro hpair
      rw [if_pos hpair] at h
      dsimp only [standDown] at h
      repeat' split at h
      all_goals cases h
    rw [if_neg hpair] at h
    have hkeeps : ¬DisarmsAutosleep cmd sub := by
      rintro ⟨hcmd, hs | hs⟩
      · exact hneg ⟨hcmd, hs⟩
      · exact hpair ⟨hcmd, hs⟩
    refine ⟨?_, hkeeps⟩
    dsimp only [standDown] at h
    repeat' split at h
    all_goals exact h

/-- The reducer folds a frame. The power layer hears of it later. -/
theorem negotiated_fold (cmd sub : Byte) : Triple MainInterrupt (Main.Negotiated False frames)
    (.stmt (fun m : Main => { m with
      sleepProto := (m.sleepProto.onFrame cmd sub m.openbootEntryPending).1
      log := { m.log with
        wanted := decide (m.sleepProto.Asks cmd sub m.openbootEntryPending) || m.log.wanted && !decide (StandsDown cmd sub) } })
      fun m => pure (m.sleepProto.onFrame cmd sub m.openbootEntryPending).2)
    fun _ => Main.Negotiated True (frames ++ [(cmd, sub)]) := by
  refine Triple.stmt stable_negotiated fun m hm => Triple.pure stable_negotiated ?_
  rintro _ rfl
  have hle : frames.Sublist (frames ++ [(cmd, sub)]) := List.sublist_append_left _ _
  refine ⟨fun hu => ?_, fun hp => ?_, fun hr => (hm.request hr).trans hle, fun ha => ?_, fun hc => absurd trivial hc⟩
  · rcases SleepProto.onFrame_unlocked hu with ⟨rfl, rfl⟩ | hu
    · exact List.mem_append_right _ (List.mem_singleton_self _)
    · exact List.mem_append_left _ (hm.unlocked hu)
  · rcases m.sleepProto.onFrame_sleepPending cmd sub _ hp with ⟨rfl, rfl, hu, -⟩ | ⟨hp, -⟩
    · have hone : [((0xA6, 0x56) : Byte × Byte)].Sublist frames := List.singleton_sublist.mpr (hm.unlocked hu)
      exact hone.append (List.Sublist.refl [(0xA6, 0x54)])
    · exact (hm.pending hp).trans hle
  · rcases SleepProto.onFrame_autosleep ha with ⟨⟨rfl, rfl⟩, hu⟩ | ⟨ha, hno⟩
    · exact ⟨frames, [], rfl, hm.unlocked hu, nofun⟩
    · obtain ⟨a, b, hframes, hunlocked, hsince⟩ := hm.armed ha
      refine ⟨a, b ++ [(cmd, sub)], by rw [hframes, List.append_assoc, List.cons_append], hunlocked, fun f hf => ?_⟩
      rcases List.mem_append.mp hf with hf | hf
      · exact hsince f hf
      · obtain rfl := List.mem_singleton.mp hf
        exact hno

/-- A frame negotiates what it says. -/
theorem negotiated_mainFrame (cmd sub : Byte) (payload : Report) : Triple MainInterrupt (Main.Negotiated False frames)
    (mainFrame board cmd sub payload) fun _ => Main.Negotiated False (frames ++ [(cmd, sub)]) := by
  have hbranch {q : Prop} [Decidable q] {c : Prop} {frames : List (Byte × Byte)} {p : MainM Unit}
      (h : Kept MainInterrupt (Main.Negotiated c frames) p) : Kept MainInterrupt (Main.Negotiated c frames) (branch q p) :=
    kept_branch stable_negotiated h
  have hauto {frames : List (Byte × Byte)} : Triple MainInterrupt (Main.Negotiated True frames)
      (.modify fun m => { m with pwr := m.pwr.setAutosleep m.sleepProto.autosleep m.rf.hw.rtc })
      fun _ => Main.Negotiated False frames := by
    refine Triple.modify stable_negotiated stable_negotiated fun m hm => ?_
    have hpwr : (m.pwr.setAutosleep m.sleepProto.autosleep m.rf.hw.rtc).explicitRequest = m.pwr.explicitRequest := by
      unfold PowerSleep.setAutosleep
      split <;> rfl
    exact ⟨hm.unlocked, hm.pending, fun hr => hm.request (hpwr.symm.trans hr), hm.armed, fun _ => hm.armed⟩
  have hsleep : Triple MainInterrupt (Main.Negotiated False frames) (sleepFrame cmd sub)
      fun _ => Main.Negotiated False (frames ++ [(cmd, sub)]) := by
    refine (negotiated_fold cmd sub).bind fun action => Triple.bind (hbranch (negotiated_onRf _)) fun _ => ?_
    refine hauto.bind fun _ => Kept.bind (Kept.modify stable_negotiated fun m hm => ?_) fun _ => hbranch ?_
    · exact ⟨hm.unlocked, hm.pending, hm.request, hm.armed, hm.autosleep⟩
    · exact Kept.modify stable_negotiated fun m hm => ⟨hm.unlocked, hm.pending, nofun, hm.armed, hm.autosleep⟩
  refine hsleep.bind fun _ => Kept.bind (negotiated_onRf _) fun _ => Kept.bind (hbranch (negotiated_onRf _)) fun _ => hbranch ?_
  exact Kept.modify stable_negotiated fun m hm =>
    ⟨hm.unlocked, hm.pending, hm.request, hm.armed, hm.autosleep⟩

/-- `OpenBoot_Service` negotiates nothing. -/
theorem negotiated_openBootService (fifoIdle : Bool) (now : Nat) :
    Kept MainInterrupt (Main.Negotiated c frames) (openBootService board fifoIdle now) := by
  have hread {α : Type} (g : Main → α) : Kept MainInterrupt (Main.Negotiated c frames) (.read g) := Kept.read stable_negotiated g
  refine (hread _).bind fun state => Kept.ite (fun _ => (hread _).bind fun pending => kept_branch stable_negotiated ?_) fun _ => ?_
  · refine (negotiated_onRf _).bind fun _ => Kept.bind (Kept.modify stable_negotiated fun m hm => ?_) fun _ => ?_
    · exact ⟨hm.unlocked, hm.pending, hm.request, hm.armed, hm.autosleep⟩
    · exact Kept.modify stable_negotiated fun m hm => ⟨hm.unlocked, hm.pending, hm.request, hm.armed, hm.autosleep⟩
  · refine (hread _).bind fun start => kept_branch stable_negotiated ?_
    exact Kept.modify stable_negotiated fun m hm => ⟨hm.unlocked, hm.pending, hm.request, hm.armed, hm.autosleep⟩

/-- The request that `Power_Service` hands over was negotiated, whatever is taken down before. -/
theorem negotiated_powerService (txIdle : Bool) (now : Nat) :
    Kept MainInterrupt (Main.Negotiated c frames) (powerService board txIdle now) := by
  have hread {α : Type} (g : Main → α) : Kept MainInterrupt (Main.Negotiated c frames) (.read g) := Kept.read stable_negotiated g
  have hclear : Kept MainInterrupt (Main.Negotiated c frames) clearSleepPending :=
    Kept.modify stable_negotiated fun m hm => ⟨hm.unlocked, nofun, hm.request, hm.armed, hm.autosleep⟩
  have hset (state : Nat) : Kept MainInterrupt (Main.Negotiated c frames) (setPowerState state) :=
    Kept.modify stable_negotiated fun m hm => ⟨hm.unlocked, hm.pending, hm.request, hm.armed, hm.autosleep⟩
  refine (hread _).bind fun state => Kept.ite (fun _ => (hread _).bind fun pending => kept_branch stable_negotiated ?_) fun _ => ?_
  · refine (hread _).bind fun openboot => Kept.ite (fun _ => hclear) fun _ => Kept.bind (Kept.modify stable_negotiated fun m hm => ?_) fun _ => hset 1
    exact ⟨hm.unlocked, hm.pending, hm.request, hm.armed, hm.autosleep⟩
  · have hdecide : Triple MainInterrupt (Main.Negotiated c frames)
        (.read fun m => !m.sleepProto.sleepPending || m.openbootEntryPending) fun standDown m =>
        m.Negotiated c frames ∧ (standDown = false → [(0xA6, 0x56), (0xA6, 0x54)].Sublist frames) := by
      refine Triple.read stable_negotiated (fun standDown m t hi h => ⟨stable_negotiated m t hi h.1, h.2⟩) fun m hm => ⟨hm, fun hs => ?_⟩
      rw [Bool.or_eq_false_iff, Bool.not_eq_false'] at hs
      exact hm.pending hs.1
    refine hdecide.bind fun standDown => Triple.ite (fun _ => ?_) fun hs => Triple.ite (fun _ => ?_) fun _ => ?_
    · exact (hclear.bind fun _ => hset 0).conseq (fun m hm => hm.1) fun _ _ hm => hm
    · exact ((hread _).bind fun start => kept_branch stable_negotiated (hclear.bind fun _ => hset 0)).conseq
        (fun m hm => hm.1) fun _ _ hm => hm
    · intro m u t ⟨hm, hneg⟩
      have hrequest : Kept MainInterrupt (Main.Negotiated c frames) (.modify fun m => { m with pwr := m.pwr.requestExplicit }) :=
        Kept.modify stable_negotiated fun m hm =>
          ⟨hm.unlocked, hm.pending, fun _ => hneg (Bool.eq_false_of_not_eq_true hs), hm.armed, hm.autosleep⟩
      exact (hclear.bind fun _ => (hset 0).bind fun _ => (negotiated_onRf _).bind fun _ => hrequest) m u t hm

/-- A sleep that is tried negotiates nothing. -/
theorem negotiated_trySleep {time : Nat} {view : SleepView} {explicit : Bool} (hm : m.Negotiated False frames) :
    (m.trySleep board time view explicit).2.Negotiated False frames := by
  have hauto : ((m.pwr.sleepUntil board time m.rf.hw.rtc view).2).autosleep = m.pwr.autosleep := by
    unfold PowerSleep.sleepUntil PowerSleep.slept PowerSleep.gpioWakeDisarm PowerSleep.noteActivity
    dsimp only
    repeat' split
    all_goals rfl
  refine ⟨hm.unlocked, hm.pending, fun hr => hm.request ?_, hm.armed, fun hc ha => hm.autosleep hc (hauto.symm.trans ha)⟩
  exact (explicitRequest_sleepUntil m.pwr time m.rf.hw.rtc view).symm.trans hr

/-- The holdoff negotiates nothing. -/
theorem negotiated_pwrHoldoffExpired (hm : m.Negotiated c frames) : (m.pwrHoldoffExpired board).2.Negotiated c frames := by
  unfold Main.pwrHoldoffExpired
  repeat' split
  all_goals exact ⟨hm.unlocked, hm.pending, hm.request, hm.armed, hm.autosleep⟩

/-- Nor does the idle callback. -/
theorem negotiated_ch59xLowPower (time : Nat) (txIdle rxQuiet : Bool) (view : SleepView) (hm : m.Negotiated False frames) :
    (m.ch59xLowPower board time txIdle rxQuiet view).2.Negotiated False frames := by
  rw [Main.ch59xLowPower]
  split
  · rw [Main.explicitSleep]
    split
    · exact hm
    · have htried : (m.trySleep board time view true).2.Negotiated False frames := negotiated_trySleep hm
      dsimp only
      split
      · exact ⟨htried.unlocked, htried.pending, nofun, htried.armed, htried.autosleep⟩
      · exact htried
  · rw [Main.autoSleep]
    have hexpired : (m.pwrHoldoffExpired board).2.Negotiated False frames := negotiated_pwrHoldoffExpired hm
    dsimp only
    repeat' split
    · exact hm
    · exact hm
    · exact hexpired
    · exact hexpired
    · exact hexpired
    · exact hexpired
    · exact negotiated_trySleep hexpired

/-- Nor does the hardware that settles. -/
theorem negotiated_settle (hm : m.Negotiated c frames) : m.settle.Negotiated c frames := by
  unfold Main.settle
  split
  · exact ⟨hm.unlocked, hm.pending, hm.request, hm.armed, hm.autosleep⟩
  · exact hm

/-- A step negotiates what its frame says. -/
theorem negotiated_step {op : MainOp} (hs : op.Steps board m t) (hm : m.Negotiated False frames) :
    t.settle.Negotiated False (frames ++ hostFrames [op]) := by
  refine negotiated_settle ?_
  have hnone (hf : hostFrames [op] = []) (h : t.Negotiated False frames) : t.Negotiated False (frames ++ hostFrames [op]) := by
    rwa [hf, List.append_nil]
  cases op with
  | call c =>
    cases c with
    | frame cmd sub payload => exact negotiated_mainFrame cmd sub payload m () t hm hs
    | connectedTick => exact hnone rfl (negotiated_onRf _ m () t hm hs)
    | ledResync => exact hnone rfl (negotiated_onRf _ m () t hm hs)
    | openBootService fifoIdle now => exact hnone rfl (negotiated_openBootService fifoIdle now m () t hm hs)
    | powerService txIdle now => exact hnone rfl (negotiated_powerService txIdle now m () t hm hs)
    | lowPower time txIdle rxQuiet view =>
      refine hnone rfl (Kept.modify stable_negotiated (fun m hm => ?_) m () t hm hs)
      exact negotiated_ch59xLowPower time txIdle rxQuiet view hm
    | other => exact hnone rfl (Kept.pure stable_negotiated () m () t hm hs)
  | event next u => exact hnone rfl (negotiated_onRf _ u () t (negotiated_onRf _ m next u hm hs.1) hs.2)

/-- What is negotiated is what the frames of a run say. -/
theorem negotiated_run (hb : MainBooted m) (h : MainTrace board m ops t) : t.Negotiated False (hostFrames ops) := by
  induction h with
  | start =>
    obtain ⟨rf, -, rfl⟩ := hb
    exact ⟨nofun, nofun, nofun, nofun, nofun⟩
  | step op _ _ hs ih =>
    rw [hostFrames_append]
    exact negotiated_step hs ih

/-! ### The sleeps -/

/-- A sleep that is tried is remembered if it is entered. -/
theorem sleepsAs_trySleep {time : Nat} {view : SleepView} {explicit : Bool}
    (he : ∀ wanted, (SleepEntry.mk explicit wanted).Negotiated frames) :
    SleepsAs frames m.log.sleeps (m.trySleep board time view explicit).2.log.sleeps := by
  rw [Main.trySleep]
  dsimp only
  split
  · exact .inr ⟨_, rfl, he _⟩
  · exact .inl rfl

/-- The idle callback sleeps if the power layer holds a request, or holds auto-sleep armed. -/
theorem sleepsAs_ch59xLowPower (time : Nat) (txIdle rxQuiet : Bool) (view : SleepView) (hm : m.Negotiated False frames) :
    SleepsAs frames m.log.sleeps (m.ch59xLowPower board time txIdle rxQuiet view).2.log.sleeps := by
  rw [Main.ch59xLowPower]
  split
  · rename_i hr
    have hasked (wanted : Bool) : (SleepEntry.mk true wanted).Negotiated frames := ⟨fun _ => hm.request hr, nofun⟩
    have htried : SleepsAs frames m.log.sleeps (m.trySleep board time view true).2.log.sleeps := sleepsAs_trySleep hasked
    rw [Main.explicitSleep]
    split
    · exact .inl rfl
    · dsimp only
      split <;> exact htried
  · rw [Main.autoSleep]
    split
    · exact .inl rfl
    rename_i hauto
    have harmed (wanted : Bool) : (SleepEntry.mk false wanted).Negotiated frames := by
      refine ⟨nofun, fun _ => hm.autosleep id ?_⟩
      rwa [Bool.not_eq_true', Bool.not_eq_false] at hauto
    have hsame : (m.pwrHoldoffExpired board).2.log.sleeps = m.log.sleeps := by
      unfold Main.pwrHoldoffExpired
      repeat' split
      all_goals rfl
    rw [← hsame]
    dsimp only
    repeat' split
    · exact .inl hsame.symm
    · exact .inl rfl
    · exact .inl rfl
    · exact .inl rfl
    · exact .inl rfl
    · exact sleepsAs_trySleep harmed

/-- A step adds no sleep but one that the host has negotiated by then. -/
theorem sleepsAs_step {op : MainOp} (hs : op.Steps board m t) (hm : m.Negotiated False frames) :
    SleepsAs frames m.log.sleeps t.log.sleeps := by
  -- The idle callback apart, no step touches the sleeps.
  have hrf {α : Type} (p : RfM α) : Kept MainInterrupt (fun u => u.log.sleeps = m.log.sleeps) (onRf p) :=
    entry_onRf (P := fun e => e.sleeps = m.log.sleeps) p
  cases op with
  | call c =>
    cases c with
    | frame cmd sub payload =>
      exact .inl (entry_mainFrame (P := fun e => e.sleeps = m.log.sleeps) (Q := fun e => e.sleeps = m.log.sleeps) cmd sub payload
        (fun _ _ he => he) (fun _ _ he => he) m () t rfl hs)
    | connectedTick => exact .inl (hrf _ m () t rfl hs)
    | ledResync => exact .inl (hrf _ m () t rfl hs)
    | openBootService fifoIdle now =>
      exact .inl (entry_openBootService (P := fun e => e.sleeps = m.log.sleeps) (Q := fun e => e.sleeps = m.log.sleeps)
        (fun _ he _ _ => he) (fun _ he _ _ => he) (fun _ he _ _ => he) (fun _ he _ _ => he) m () t rfl hs)
    | powerService txIdle now =>
      exact .inl (entry_powerService (P := fun e => e.sleeps = m.log.sleeps) txIdle now m () t rfl hs)
    | lowPower time txIdle rxQuiet view =>
      have hcall : Triple MainInterrupt (fun u => u.Negotiated False frames ∧ u.log.sleeps = m.log.sleeps)
          (.modify fun u => (u.ch59xLowPower board time txIdle rxQuiet view).2)
          fun _ u => SleepsAs frames m.log.sleeps u.log.sleeps := by
        refine Triple.modify (fun u v hi h => ⟨stable_negotiated u v hi h.1, ?_⟩)
          (stable_entry (P := fun e => SleepsAs frames m.log.sleeps e.sleeps)) fun u hu => ?_
        · exact stable_entry (P := fun e => e.sleeps = m.log.sleeps) u v hi h.2
        · exact hu.2 ▸ sleepsAs_ch59xLowPower time txIdle rxQuiet view hu.1
      exact hcall m () t ⟨hm, rfl⟩ hs
    | other => exact .inl (Kept.pure (stable_entry (P := fun e => e.sleeps = m.log.sleeps)) () m () t rfl hs)
  | event next u => exact .inl (hrf _ u () t (hrf _ m next u rfl hs.1) hs.2)

end Negotiated

end OpenController
