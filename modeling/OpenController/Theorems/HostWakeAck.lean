import OpenController.HostWakeAck
import OpenController.Lemmas.HostWakeRun

/-!
# A frame is retired by its own ACK

The invariant is about which copies can still be ACKed. Before a new frame is taken, none can (`AllSpent`): the guard time starts
from idle, the quarantine outlasts the window of the last copy, and a frame retired at once had a single copy, the one ACKed.
While a frame is outstanding, only its own copies can.
-/

namespace OpenController
namespace HostWake

/-- The copy `c` cannot be ACKed any more: it has been, or its window is over. -/
def Spent (t now : Nat) (log : AckLog) (c : Nat) (p : SentCopy) : Prop := c ∈ log.answered ∨ p.time + 2 * t ≤ now

/-- No copy can be ACKed any more. -/
def AllSpent (t now : Nat) (log : AckLog) : Prop := ∀ c p, log.copies[c]? = some p → Spent t now log c p

/-- What holds of the log in any state: copies are of frames already taken, an ACK that set `acked` answers a copy of the
outstanding frame, and so did those of every frame retired by an ACK. -/
structure LogOk (log : AckLog) : Prop where
  frame_le : ∀ p ∈ log.copies, p.frame ≤ log.taken
  setters : ∀ c ∈ log.setters, c ∈ log.answered ∧ ∃ p, log.copies[c]? = some p ∧ p.frame = log.taken
  retired : ∀ r ∈ log.retired, r.2 ≠ [] ∧ ∀ c ∈ r.2, ∃ p, log.copies[c]? = some p ∧ p.frame = r.1

/-- The clock `since` was read at a time at or after every copy. -/
def Timed (now : Nat) (hw : HostWake) (log : AckLog) : Prop :=
  ∃ τ ≤ now, hw.since = u32 τ ∧ ∀ p ∈ log.copies, p.time ≤ τ

/-- The invariant: only copies of the outstanding frame can be ACKed, and of one sent once there is one copy; in quarantine the
clock runs from the last copy; otherwise no copy can be ACKed. -/
structure AckOk (t now : Nat) (hw : HostWake) (log : AckLog) : Prop extends Ok hw, LogOk log where
  timeout : hw.ackTimeoutTicks = t
  past : ∀ p ∈ log.copies, p.time ≤ now
  acked : hw.acked = true → hw.state = .waitAck ∧ log.setters ≠ []
  timed : hw.state = .waitAck ∨ hw.state = .quarantine → Timed now hw log
  between : hw.state = .idle ∨ hw.state = .guard → AllSpent t now log
  others : hw.state = .waitAck → ∀ c p, log.copies[c]? = some p → p.frame ≠ log.taken → Spent t now log c p
  single : hw.state = .waitAck → hw.attempts = 1 →
    ∀ (c c' : Nat) (p p' : SentCopy), log.copies[c]? = some p → log.copies[c']? = some p' → p.frame = log.taken → p'.frame = log.taken → c = c'

variable {t now : Nat} {hw : HostWake} {log : AckLog}

/-! ## Time passes -/

theorem Spent.mono {now' c : Nat} {p : SentCopy} (h : Spent t now log c p) (hle : now ≤ now') : Spent t now' log c p := by
  rcases h with h | h
  · exact Or.inl h
  · exact Or.inr (h.trans hle)

theorem AckOk.mono {now' : Nat} (h : AckOk t now hw log) (hle : now ≤ now') : AckOk t now' hw log :=
  { h with
    past := fun p hp => (h.past p hp).trans hle
    timed := fun hs => by
      obtain ⟨τ, hτ, h1, h2⟩ := h.timed hs
      exact ⟨τ, hτ.trans hle, h1, h2⟩
    between := fun hs c p hp => (h.between hs c p hp).mono hle
    others := fun hs c p hp hne => (h.others hs c p hp hne).mono hle }

/-! ## A new copy -/

/-- A new copy is the last one, and the others stay where they were. -/
theorem copies_push {l : List SentCopy} {q p : SentCopy} {c : Nat} (h : (l ++ [q])[c]? = some p) :
    l[c]? = some p ∨ (c = l.length ∧ p = q) := by
  rcases Nat.lt_or_ge c l.length with hlt | hge
  · rw [List.getElem?_append_left hlt] at h
    exact Or.inl h
  · rw [List.getElem?_append_right hge] at h
    obtain ⟨hc, rfl⟩ := List.getElem?_eq_some_iff.mp h
    simp only [List.length_singleton] at hc
    exact Or.inr ⟨by omega, by simp⟩

theorem copies_keep {l : List SentCopy} {p : SentCopy} {c : Nat} (q : SentCopy) (h : l[c]? = some p) :
    (l ++ [q])[c]? = some p := by
  obtain ⟨hc, _⟩ := List.getElem?_eq_some_iff.mp h
  rw [List.getElem?_append_left hc, h]

/-- The log after a copy of the frame numbered `k`, which is the outstanding one from then on. -/
theorem logOk_copy (h : LogOk log) (k : Nat) (hk : log.taken ≤ k) :
    LogOk { log with taken := k, copies := log.copies ++ [⟨k, now⟩], setters := [] } where
  frame_le p hp := by
    rcases List.mem_append.mp hp with hp | hp
    · exact (h.frame_le p hp).trans hk
    · rw [List.mem_singleton.mp hp]
  setters c hc := absurd hc List.not_mem_nil
  retired r hr := by
    obtain ⟨h1, h2⟩ := h.retired r hr
    refine ⟨h1, fun c hc => ?_⟩
    obtain ⟨p, hp, hf⟩ := h2 c hc
    exact ⟨p, copies_keep _ hp, hf⟩

/-- A copy sent now is the last one. -/
theorem past_copy (k : Nat) (hle : ∀ p ∈ log.copies, p.time ≤ now) : ∀ p ∈ log.copies ++ [⟨k, now⟩], p.time ≤ now := by
  intro p hp
  rcases List.mem_append.mp hp with hp | hp
  · exact hle p hp
  · rw [List.mem_singleton.mp hp]

/-- A new frame is taken when no copy can be ACKed any more. -/
theorem ackOk_sendNext (hs : Sized hw) (hp : hw.havePending = true) (ht : hw.ackTimeoutTicks = t) (hl : LogOk log)
    (hle : ∀ p ∈ log.copies, p.time ≤ now) (hspent : AllSpent t now log) (f : Frame) (led : Bool) :
    AckOk t now (hw.sendNext (u32 now)).1 (log.note now (.copy f led true)) := by
  have ht' : (hw.sendNext (u32 now)).1.ackTimeoutTicks = t := by
    rw [← ht]
    simp only [sendNext, transmit, takeNext]
    split <;> rfl
  have hnew : ∀ c (p : SentCopy), (log.copies ++ [⟨log.taken + 1, now⟩])[c]? = some p → p.frame = log.taken + 1 →
      c = log.copies.length := by
    intro c p hc hf
    rcases copies_push hc with hc | ⟨rfl, _⟩
    · have := hl.frame_le p (List.mem_of_getElem? hc)
      omega
    · rfl
  have hpast := past_copy (log.taken + 1) hle
  refine { ok_sendNext hw (u32 now) hs hp, logOk_copy hl (log.taken + 1) (Nat.le_succ _) with
           timeout := ht', past := hpast, acked := by rintro ⟨⟩, timed := fun _ => ⟨now, Nat.le_refl _, rfl, hpast⟩,
           between := (by rintro (hs | hs) <;> cases hs), others := fun _ => ?_, single := ?_ }
  · intro c p hc hne
    rcases copies_push hc with hc | ⟨_, rfl⟩
    · exact hspent c p hc
    · exact absurd rfl hne
  · intro _ _ c c' p p' hc hc' hf hf'
    rw [hnew c p hc hf, hnew c' p' hc' hf']

/-- A resend keeps the frame outstanding. -/
theorem ackOk_transmit (h : AckOk t now hw log) (hs : hw.state = .waitAck) (ha : hw.attempts < hw.maxAttempts) (f : Frame)
    (led : Bool) : AckOk t now (hw.transmit (u32 now)).1 (log.note now (.copy f led false)) := by
  obtain ⟨h1, _⟩ := h.copies hs
  have hlt := h.max_lt
  have hpast := past_copy log.taken h.past
  refine { ok_transmit hw (u32 now) h.toOk hs ha, logOk_copy h.toLogOk log.taken (Nat.le_refl _) with
           timeout := h.timeout, past := hpast, acked := nofun, timed := fun _ => ⟨now, Nat.le_refl _, rfl, hpast⟩,
           between := nofun, others := fun _ => ?_, single := ?_ }
  · intro c p hc hne
    rcases copies_push hc with hc | ⟨_, rfl⟩
    · exact h.others hs c p hc hne
    · exact absurd rfl hne
  · intro _ hone
    simp only [transmit, u8] at hone
    omega

/-! ## A retirement -/

/-- The copies a retirement leaves are the ones before it. -/
theorem note_retired_copies (log : AckLog) (now : Nat) (b led : Bool) :
    (log.note now (.retired led b)).copies = log.copies ∧ (log.note now (.retired led b)).answered = log.answered ∧
      (log.note now (.retired led b)).taken = log.taken ∧ (log.note now (.retired led b)).setters = [] := by
  cases b <;> exact ⟨rfl, rfl, rfl, rfl⟩

/-- A frame is retired by an ACK only when one of its own copies was ACKed. -/
theorem logOk_retired (now : Nat) (h : LogOk log) (led b : Bool) (hb : b = false → log.setters ≠ []) :
    LogOk (log.note now (.retired led b)) := by
  obtain ⟨hc, _, htk, hset⟩ := note_retired_copies log now b led
  refine { frame_le := ?_, setters := ?_, retired := ?_ }
  · rw [hc, htk]
    exact h.frame_le
  · rw [hset]
    exact fun c hc => absurd hc List.not_mem_nil
  · rw [hc]
    cases b with
    | true => exact h.retired
    | false =>
      intro r hr
      rcases List.mem_append.mp hr with hr | hr
      · exact h.retired r hr
      · rw [List.mem_singleton.mp hr]
        exact ⟨hb rfl, fun c hc => (h.setters c hc).2⟩

/-- An outstanding frame that was sent once and ACKed leaves no copy that can be ACKed. -/
theorem allSpent_of_single (h : AckOk t now hw log) (hs : hw.state = .waitAck) (hone : hw.attempts = 1)
    (hset : log.setters ≠ []) : AllSpent t now log := by
  intro c p hc
  by_cases hf : p.frame = log.taken
  · obtain ⟨c', hc'⟩ := List.exists_mem_of_ne_nil _ hset
    obtain ⟨hans, p', hp', hf'⟩ := h.setters c' hc'
    rw [h.single hs hone c c' p p' hc hp' hf hf']
    exact Or.inl hans
  · exact h.others hs c p hc hf

/-- Two ACK timeouts after the last copy, no copy can be ACKed. -/
theorem allSpent_of_quarantine (h : AckOk t now hw log) (hs : hw.state = .quarantine) (hlt : 2 * t < 4294967296)
    (hq : ¬sub32 (u32 now) hw.since < u32 (2 * hw.ackTimeoutTicks)) : AllSpent t now log := by
  obtain ⟨τ, hτ, hsince, hle⟩ := h.timed (Or.inr hs)
  rw [hsince, h.timeout, u32_of_lt hlt, Nat.not_lt] at hq
  have hpast := hq.trans (sub32_le hτ)
  intro c p hc
  have := hle p (List.mem_of_getElem? hc)
  exact Or.inr (by omega)

/-! ## Every operation keeps the invariant -/

/-- A state between frames, when no copy can be ACKed. -/
theorem ackOk_between (hok : Ok hw) (hst : hw.state = .idle ∨ hw.state = .guard) (ht : hw.ackTimeoutTicks = t)
    (ha : hw.acked = false) (hl : LogOk log) (hpast : ∀ p ∈ log.copies, p.time ≤ now) (hspent : AllSpent t now log) :
    AckOk t now hw log :=
  { hok, hl with
    timeout := ht
    past := hpast
    acked := fun h => by simp [ha] at h
    timed := fun h => by rcases hst with hst | hst <;> simp [hst] at h
    between := fun _ => hspent
    others := fun h => by rcases hst with hst | hst <;> simp [hst] at h
    single := fun h => by rcases hst with hst | hst <;> simp [hst] at h }

theorem ackOk_init (g t : Fin 4294967296) (m : Fin 256) (now : Nat) : AckOk t now (init g t m) .empty :=
  ackOk_between (ok_init g t m) (Or.inl rfl) rfl rfl ⟨nofun, nofun, nofun⟩ nofun (fun c p hc => by simp [AckLog.empty] at hc)

/-- An operation that leaves the clock and the outstanding frame alone keeps the invariant. -/
theorem AckOk.congr (h : AckOk t now hw log) (hw' : HostWake) (hok : Ok hw') (ht : hw'.ackTimeoutTicks = hw.ackTimeoutTicks)
    (ha : hw'.acked = hw.acked) (hst : hw'.state = hw.state) (hsince : hw'.since = hw.since)
    (hatt : hw'.attempts = hw.attempts) : AckOk t now hw' log :=
  { hok, h.toLogOk with
    timeout := ht.trans h.timeout
    past := h.past
    acked := fun hacked => hst ▸ h.acked (ha ▸ hacked)
    timed := fun hs => by
      obtain ⟨τ, h1, h2, h3⟩ := h.timed (hst ▸ hs)
      exact ⟨τ, h1, hsince.trans h2, h3⟩
    between := fun hs => h.between (hst ▸ hs)
    others := fun hs => h.others (hst ▸ hs)
    single := fun hs hone => h.single (hst ▸ hs) (hatt ▸ hone) }

theorem ackOk_enqueue (h : AckOk t now hw log) (cmd val : Byte) : AckOk t now (hw.enqueue cmd val).1 log := by
  have hok := ok_enqueue hw cmd val h.toOk
  by_cases hf : hw.count ≥ hostWakeQueueSize
  · rw [enqueue, if_pos hf] at hok ⊢
    exact h.congr _ hok rfl rfl rfl rfl rfl
  · rw [enqueue, if_neg hf] at hok ⊢
    exact h.congr _ hok rfl rfl rfl rfl rfl

/-- Whatever copy an ACK answers, it can still be ACKed, so it is of the outstanding frame when there is one. -/
theorem ackOk_onAck (h : AckOk t now hw log) {c : Nat} {p : SentCopy} (hc : log.copies[c]? = some p) (hnew : c ∉ log.answered)
    (htime : now < p.time + 2 * t) : AckOk t now hw.onAck (log.ack hw c) := by
  have hmono : ∀ d q, Spent t now log d q → Spent t now (log.ack hw c) d q := by
    intro d q hd
    rcases hd with hd | hd
    · exact Or.inl (List.mem_cons_of_mem _ hd)
    · exact Or.inr hd
  have hok := ok_onAck hw h.toOk
  by_cases hs : hw.state = .waitAck
  · have hown : p.frame = log.taken := by
      by_contra hne
      rcases h.others hs c p hc hne with hans | hover
      · exact hnew hans
      · omega
    have hst : hw.onAck.state = hw.state ∧ hw.onAck.since = hw.since ∧ hw.onAck.attempts = hw.attempts ∧
        hw.onAck.ackTimeoutTicks = hw.ackTimeoutTicks := by simp [onAck, hs]
    obtain ⟨h1, h2, h3, h4⟩ := hst
    exact
      { hok with
        frame_le := h.frame_le
        setters := fun d hd => by
          simp only [AckLog.ack, hs, if_true] at hd
          rcases List.mem_cons.mp hd with rfl | hd
          · exact ⟨List.mem_cons_self, p, hc, hown⟩
          · exact ⟨List.mem_cons_of_mem _ (h.setters d hd).1, (h.setters d hd).2⟩
        retired := h.retired
        timeout := h4.trans h.timeout
        past := h.past
        acked := fun _ => by simp [AckLog.ack, h1, hs]
        timed := fun hs' => by
          obtain ⟨τ, g1, g2, g3⟩ := h.timed (h1 ▸ hs')
          exact ⟨τ, g1, h2.trans g2, g3⟩
        between := fun hs' => by simp [h1, hs] at hs'
        others := fun _ d q hd hne => hmono d q (h.others hs d q hd hne)
        single := fun _ hone => h.single hs (h3 ▸ hone) }
  · have hself : hw.onAck = hw := if_neg hs
    rw [hself]
    exact
      { h with
        frame_le := h.frame_le
        setters := fun d hd => by
          simp only [AckLog.ack, if_neg hs] at hd
          exact ⟨List.mem_cons_of_mem _ (h.setters d hd).1, (h.setters d hd).2⟩
        retired := h.retired
        acked := fun ha => by simpa only [AckLog.ack, if_neg hs] using h.acked ha
        between := fun hs' d q hd => hmono d q (h.between hs' d q hd)
        others := fun hs' => absurd hs' hs
        single := fun hs' => absurd hs' hs }

/-- The result of a step at the time `now` keeps the invariant. -/
def KeepsAck (t now : Nat) (hw : HostWake) (log : AckLog) (r : HostWake × HostWakeStep) : Prop :=
  AckOk t now r.1 (log.noteAll now (hw.eventsTo r))

theorem keepsAck_self (h : AckOk t now hw log) (line : Bool) : KeepsAck t now hw log (hw, .quiet line) := by
  rw [KeepsAck, eventsTo_self]
  exact h

theorem keepsAck_sendNext (h : AckOk t now hw log) (hp : hw.havePending = true) (hspent : AllSpent t now log) :
    KeepsAck t now hw log (hw.sendNext (u32 now)) := by
  rw [KeepsAck, eventsTo_sendNext hw hw (u32 now) rfl, AckLog.noteAll_cons, AckLog.noteAll_nil]
  exact ackOk_sendNext h.toSized hp h.timeout h.toLogOk h.past hspent _ _

theorem keepsAck_transmit (h : AckOk t now hw log) (hs : hw.state = .waitAck) (ha : hw.attempts < hw.maxAttempts) :
    KeepsAck t now hw log (hw.transmit (u32 now)) := by
  rw [KeepsAck, eventsTo_transmit hw (u32 now) h.toOk hs ha, AckLog.noteAll_cons, AckLog.noteAll_nil]
  exact ackOk_transmit h hs ha _ _

theorem retiring_frame (hw : HostWake) (b : Bool) : (hw.retiring b).ackTimeoutTicks = hw.ackTimeoutTicks ∧
    (hw.retiring b).since = hw.since ∧ (hw.retiring b).acked = false := by
  simp only [retiring, settle]
  split
  · exact ⟨rfl, rfl, trivial⟩
  · split <;> exact ⟨rfl, rfl, trivial⟩

/-- After a retirement comes the quarantine, unless the frame was sent once and ACKed: then no copy can be ACKed any more. -/
theorem keepsAck_retire (h : AckOk t now hw log) (hs : hw.state = .waitAck) (b : Bool) (hb : b = false → log.setters ≠ []) :
    KeepsAck t now hw log (hw.retire (u32 now) b) := by
  obtain ⟨hc, hans, htk, hset⟩ := note_retired_copies log now b hw.sendingLatest
  have hl := logOk_retired now h.toLogOk hw.sendingLatest b hb
  have hsz := sized_retiring hw b h.toOk hs
  have hok : ∀ st, st ≠ .waitAck → st ≠ .guard → Ok ((hw.retiring b).inState st) := fun st h1 h2 =>
    { hsz with
      copies := fun hw => absurd hw h1
      outHead := fun hq => by simp [queuedOut, inState, h1] at hq
      guardPending := fun hg => absurd hg h2 }
  obtain ⟨htimeout, hsince, hacked⟩ := retiring_frame hw b
  rw [h.timeout] at htimeout
  have hpast := h.past
  rw [← hc] at hpast
  by_cases hre : hw.attempts > 1 ∨ b = true
  · rw [KeepsAck, retire, if_pos hre, eventsTo_retiring hw b _ rfl rfl, eventsTo_inState, AckLog.noteAll_cons, AckLog.noteAll_nil]
    exact
      { hok .quarantine (by rintro ⟨⟩) (by rintro ⟨⟩), hl with
        timeout := htimeout
        past := hpast
        acked := fun ha => by simp [inState, hacked] at ha
        timed := fun _ => by
          obtain ⟨τ, h1, h2, h3⟩ := h.timed (Or.inl hs)
          exact ⟨τ, h1, hsince.trans h2, hc ▸ h3⟩
        between := by rintro (hs | hs) <;> cases hs
        others := by rintro ⟨⟩
        single := by rintro ⟨⟩ }
  · have hone : hw.attempts = 1 := by
      have := (h.copies hs).1
      omega
    have hspent : AllSpent t now (log.note now (.retired hw.sendingLatest b)) := by
      intro c p hcp
      rw [hc] at hcp
      have := allSpent_of_single h hs hone (hb (by simpa using fun hbt => hre (Or.inr hbt))) c p hcp
      rwa [Spent, hans]
    by_cases hp : (hw.retiring b).havePending = true
    · have h1 : ((hw.retiring b).sendNext (u32 now)).1.retired = (hw.retiring b).retired := by
        simp only [sendNext, transmit, takeNext]
        split <;> rfl
      have h2 : ((hw.retiring b).sendNext (u32 now)).1.abandoned = (hw.retiring b).abandoned := by
        simp only [sendNext, transmit, takeNext]
        split <;> rfl
      rw [KeepsAck, retire, if_neg hre, if_pos hp, eventsTo_retiring hw b _ h1 h2, eventsTo_sendNext _ _ _ rfl,
        AckLog.noteAll_cons, AckLog.noteAll_cons, AckLog.noteAll_nil]
      exact ackOk_sendNext hsz hp htimeout hl hpast hspent _ _
    · rw [KeepsAck, retire, if_neg hre, if_neg hp, eventsTo_retiring hw b _ rfl rfl, eventsTo_inState, AckLog.noteAll_cons,
        AckLog.noteAll_nil]
      exact ackOk_between (hok .idle (by rintro ⟨⟩) (by rintro ⟨⟩)) (Or.inl rfl) htimeout hacked hl hpast hspent

/-- Nothing is outstanding, and no copy can be ACKed: the machine may go idle, or start the guard time. -/
theorem ackOk_park (h : AckOk t now hw log) (hs : hw.state ≠ .waitAck) (hspent : AllSpent t now log) (st : HostWakeState)
    (since : Nat) (hst : st = .idle ∨ st = .guard ∧ hw.havePending = true) :
    AckOk t now { hw with state := st, since := since } log := by
  have hok : Ok { hw with state := st, since := since } := by
    refine { h.toSized with copies := ?_, outHead := ?_, guardPending := ?_ }
    · intro hw
      rcases hst with rfl | ⟨rfl, _⟩ <;> cases hw
    · intro hq
      rcases hst with rfl | ⟨rfl, _⟩ <;> simp [queuedOut] at hq
    · intro hg
      rcases hst with rfl | ⟨rfl, hp⟩
      · cases hg
      · exact hp
  have hacked : hw.acked = false := by
    by_contra ha
    exact hs (h.acked (by simpa using ha)).1
  exact ackOk_between hok (hst.imp_right And.left) h.timeout hacked h.toLogOk h.past hspent

/-- Every step keeps the invariant. -/
theorem keepsAck_step (h : AckOk t now hw log) (hlt : 2 * t < 4294967296) : KeepsAck t now hw log (hw.step (u32 now)) := by
  unfold step
  split
  · rename_i hs
    split
    · exact keepsAck_self h true
    · exact keepsAck_sendNext h (h.guardPending hs) (h.between (Or.inr hs))
  · rename_i hs
    split
    · exact keepsAck_retire h hs false fun _ => (h.acked ‹_›).2
    · split
      · exact keepsAck_self h true
      · split
        · exact keepsAck_retire h hs true nofun
        · exact keepsAck_transmit h hs (by omega)
  · rename_i hs
    split
    · exact keepsAck_self h true
    · rename_i hq
      have hspent := allSpent_of_quarantine h hs hlt hq
      split
      · exact keepsAck_sendNext h ‹_› hspent
      · rw [KeepsAck, eventsTo_inState]
        exact ackOk_park h (by simp [hs]) hspent .idle hw.since (Or.inl rfl)
  · rename_i hs
    split
    · exact keepsAck_self h false
    · rename_i hp
      have hev : hw.eventsTo ({ hw with state := .guard, since := u32 now }, .quiet true) = [] := by
        simp [eventsTo, HostWakeStep.quiet]
      rw [KeepsAck, hev]
      exact ackOk_park h (by simp [hs]) (h.between (Or.inl hs)) .guard (u32 now) (Or.inr ⟨rfl, by simpa using hp⟩)

/-- Every run keeps the invariant. -/
theorem ackRun_ok {g t : Fin 4294967296} {m : Fin 256} (hlt : 2 * t.val < 4294967296) {now : Nat} {hw : HostWake} {log : AckLog}
    (h : AckRun g t m now hw log) : AckOk t now hw log := by
  induction h with
  | init now => exact ackOk_init g t m now
  | enqueue cmd val _ ih => exact ackOk_enqueue ih cmd val
  | setLatest cmd val _ ih => exact ih.congr _ (ok_setLatest _ cmd val ih.toOk) rfl rfl rfl rfl rfl
  | onAck now' c p _ hle hc hnew htime ih => exact ackOk_onAck (ih.mono hle) hc hnew htime
  | step now' _ hle ih => exact keepsAck_step (ih.mono hle) hlt

end HostWake

/-- ACK attribution. When the host ACKs every copy at most once and within two ACK timeouts of its going out, a frame retired
without being abandoned had `acked` set by at least one ACK, and every ACK that set it answers a copy of that very frame: a late
or duplicate ACK for an earlier frame never retires a later one. -/
theorem hostWake_ack_attribution (g t : Fin 4294967296) (m : Fin 256) (now : Nat) (hw : HostWake) (log : AckLog)
    (hlt : 2 * t.val < 4294967296) (h : HostWake.AckRun g t m now hw log) (frame : Nat) (setters : List Nat)
    (hr : (frame, setters) ∈ log.retired) :
    setters ≠ [] ∧ ∀ c ∈ setters, ∃ p, log.copies[c]? = some p ∧ p.frame = frame :=
  (HostWake.ackRun_ok hlt h).retired (frame, setters) hr

/-- A queued frame is resent before the ACK of its first copy comes and retires it. The ACK of its second copy comes in the
quarantine; then the next frame goes out, and its own ACK retires it. -/
theorem hostWake_ack_attribution_late : ∃ now hw log, HostWake.AckRun 10 100 3 now hw log ∧
    log.retired = [(1, [0]), (2, [2])] ∧ log.answered = [2, 1, 0] ∧
    ([2] ≠ [] ∧ ∀ c ∈ [2], ∃ p, log.copies[c]? = some p ∧ p.frame = 2) := by
  have hqueued := HostWake.AckRun.enqueue 0x5B 0x32 (.init (g := 10) (t := 100) (m := 3) 0)
  have hresent := ((hqueued.step 0 (by decide)).step 10 (by decide)).step 110 (by decide)
  have hretired := (hresent.onAck 120 0 ⟨1, 10⟩ (by decide) (by decide) (by decide) (by decide)).step 121 (by decide)
  have hlate := (hretired.enqueue 0x5B 0x33).onAck 150 1 ⟨1, 110⟩ (by decide) (by decide) (by decide) (by decide)
  have hnext := (hlate.step 200 (by decide)).step 310 (by decide)
  have hdone := (hnext.onAck 320 2 ⟨2, 310⟩ (by decide) (by decide) (by decide) (by decide)).step 321 (by decide)
  refine ⟨_, _, _, hdone, ?_, ?_, hostWake_ack_attribution 10 100 3 _ _ _ (by decide) hdone 2 [2] ?_⟩
  all_goals decide

end OpenController
