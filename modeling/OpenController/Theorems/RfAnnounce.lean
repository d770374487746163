import OpenController.Lemmas.RfLinkRun

/-!
# The keyboard's processor is told of the link

The link is up for the keyboard's processor from `5B32` to `5B33`. Whatever happens but a command of the host: it is told once
when the link comes up, once when it is lost, and nothing else of the two; so it does not see the link rest, nor the probes.
-/

namespace OpenController

/-- The link is up: it is a session, or rests, or probes. -/
def Rf.isUp (s : Rf) : Bool := decide (s.state = .connected) || decide (s.state = .resting) || s.rest.probe

/-- How often the keyboard's processor was told a status. -/
def Rf.told (s : Rf) (b : Byte) : Nat := s.trace.uart.count (.status b)

/-- What happens is the RF task's own: an event, a timer, an interrupt, the main loop's tick or a report, not a command of the host
nor the way to the bootloader or to sleep. -/
def RfOp.isOwn : RfOp → Bool
  | .frame cmd _ _ => decide (cmd ≠ 0xA6)
  | .quiesce => false
  | _ => true

namespace RfLink

variable {l l' : RfLink}

/-- The link is up. -/
def up (l : RfLink) : Bool := decide (l.state = .connected) || decide (l.state = .resting) || l.probe

/-- What is told between two links is what changed. -/
def Announces (l l' : RfLink) : Prop :=
  l'.told 0x32 = l.told 0x32 + (if l.up = false ∧ l'.up = true then 1 else 0) ∧
    l'.told 0x33 = l.told 0x33 + if l.up = true ∧ l'.up = false then 1 else 0

theorem up_connected (h : l.state = .connected) : l.up = true := by simp [up, h]

theorem up_probe (h : l.probe = true) : l.up = true := by simp [up, h]

theorem up_resting (h : l.state = .resting) : l.up = true := by simp [up, h]

theorem up_armIdle (l : RfLink) : l.armIdle.up = l.up := by
  unfold armIdle
  split <;> rfl

theorem told_armIdle (l : RfLink) : l.armIdle.told = l.told := by
  unfold armIdle
  split <;> rfl

theorem up_promote (h : l.state = .connected) : l.promote.up = true := by
  rw [promote, up_armIdle]
  exact up_connected h

theorem told_promote (l : RfLink) : l.promote.told = l.told := told_armIdle _

theorem up_probeStart (hb : l.hasBond = true) (hm : l.macValid = true) : l.probeStart.up = true := by
  unfold probeStart
  rw [if_pos (by simp [hb, hm])]
  exact up_probe rfl

theorem told_probeStart (l : RfLink) : l.probeStart.told = l.told := by
  unfold probeStart
  split <;> rfl

theorem told_out (l : RfLink) (b c : Byte) : (l.out (.status c)).told b = l.told b + if c = b then 1 else 0 := by
  simp [told, out, List.count_append, List.count_singleton]

namespace Announces

/-- Nothing changed and nothing is told. -/
theorem mute (hu : l'.up = l.up) (ht : l'.told = l.told) : Announces l l' := by
  unfold Announces
  rw [hu, ht]
  cases l.up <;> exact ⟨rfl, rfl⟩

/-- The link came up. -/
theorem cameUp (hu : l.up = false) (hu' : l'.up = true) (h : l'.told 0x32 = l.told 0x32 + 1) (h' : l'.told 0x33 = l.told 0x33) :
    Announces l l' := by
  unfold Announces
  rw [hu, hu', h, h']
  exact ⟨rfl, rfl⟩

/-- The link was lost. -/
theorem lost (hu : l.up = true) (hu' : l'.up = false) (h : l'.told 0x32 = l.told 0x32) (h' : l'.told 0x33 = l.told 0x33 + 1) :
    Announces l l' := by
  unfold Announces
  rw [hu, hu', h, h']
  exact ⟨rfl, rfl⟩

theorem same {m : RfLink} (h : Announces l m) (hs : Same m l') : Announces l l' := by
  unfold Announces at h ⊢
  have hu : l'.up = m.up := by rw [up, up, hs.state, hs.probe]
  rw [hs.told, hs.told, hu]
  exact h

/-- The connection is news, unless it is a probe's. -/
theorem connect (l : RfLink) : Announces l l.connect := by
  unfold RfLink.connect
  split
  · rename_i hs
    dsimp only
    split
    · rename_i hp
      exact mute ((up_connected rfl).trans (up_probe (Bool.and_eq_true_iff.1 hp).1).symm) rfl
    · split
      · rename_i hp
        exact mute ((up_promote rfl).trans (up_probe hp).symm) (told_promote _)
      · rename_i hp
        refine cameUp (by simp [up, hs, hp]) ?_ ?_ ?_
        · rw [up_armIdle]
          exact up_connected rfl
        · rw [told_armIdle, told_out, told_out]
          rfl
        · rw [told_armIdle, told_out, told_out]
          rfl
  · exact mute rfl rfl

/-- The loss of the link is news. -/
theorem lapse (l : RfLink) : Announces l l.lapse := by
  unfold RfLink.lapse
  split
  · rename_i hs
    refine lost (up_connected hs) rfl ?_ ?_
    · rw [told_out]
      rfl
    · rw [told_out]
      rfl
  · exact mute rfl rfl

/-- A report is no news. -/
theorem report (h : l.Inv) (e : Bool) : Announces l { l with empty := e }.wakeRest := by
  unfold wakeRest
  dsimp only
  split
  · rename_i hr
    obtain ⟨_, hb, hm, _⟩ := h.resting hr
    exact mute (by rw [up_resting hr]; exact up_probeStart hb hm) (told_probeStart _)
  · split
    · rename_i hp
      split
      · rename_i hc
        exact mute (by rw [up_probe hp]; exact up_promote hc) (told_promote _)
      · exact mute rfl rfl
    · exact mute (up_armIdle _) (told_armIdle _)

/-- What the handler of a queued event other than `RF_EVT_START` tells. -/
theorem handle (h : l.Inv) {e : RfEvt} (hn : l.tmos.next = some e) (he : e ≠ .start) :
    Announces l ({ l with tmos := l.tmos.take e }.handle e) := by
  cases e with
  | start => exact absurd rfl he
  | pairBcast =>
    dsimp only [RfLink.handle]
    split
    · rename_i hp
      unfold broadcast
      rw [if_pos (h.pairing hp)]
      exact mute rfl rfl
    · exact mute rfl rfl
  | pairTimeout =>
    dsimp only [RfLink.handle]
    split
    · rename_i hp
      have hpr := (h.window (by simp [Tmos.live, Tmos.next_eq_some hn])).1
      exact mute (by simp [up, show l.state = .pairing from hp]) rfl
    · exact mute rfl rfl
  | enterConnected => exact connect _
  | restProbe =>
    dsimp only [RfLink.handle]
    split
    · rename_i hr
      obtain ⟨_, hb, hm, _⟩ := h.resting hr.1
      exact mute (by rw [up_resting hr.1]; exact up_probeStart hb hm) (told_probeStart _)
    · exact mute rfl rfl
  | restProbeTimeout =>
    dsimp only [RfLink.handle]
    split
    · rename_i hp
      split
      · exact mute rfl rfl
      · exact mute ((up_resting rfl).trans (up_probe hp).symm) rfl
    · exact mute rfl rfl
  | restStage2 =>
    dsimp only [RfLink.handle]
    split <;> exact mute rfl rfl
  | disconnect => exact lapse _
  | rxRestart | pairRxOff | respond | notifyLed | discardHid | saveBond | restIdle => exact mute rfl rfl

/-- What a step tells that is the RF task's own. -/
theorem step {op : RfOp} (h : l.Inv) (hb : l.tmos.waits .start = false) (ho : op.isOwn = true) (hs : Step op l l') :
    Announces l l' := by
  cases hs with
  | same hs => exact (mute rfl rfl : Announces l l).same hs
  | report e => exact report h e
  | select | leave | pair | unpair | factoryPair | told => simp [RfOp.isOwn] at ho
  | event hn _ _ =>
    refine handle h hn ?_
    rintro rfl
    exact nomatch hb.symm.trans (Tmos.next_eq_some hn)
  | idleOver _ hc _ _ => exact mute ((up_resting rfl).trans (up_connected hc).symm) rfl
  | idleRetry _ _ _ | idleSkip _ _ => exact mute rfl rfl
  | caughtProbe hc _ => exact mute ((up_resting rfl).trans (up_connected hc).symm) rfl
  | supervise _ hs | firstPacket _ _ hs | offer _ _ hs | answer _ _ hs =>
    refine same ?_ hs
    exact mute rfl rfl
  | expire | advance => exact mute rfl rfl
  | quiesce => simp [RfOp.isOwn] at ho

end Announces
end RfLink

/-- Once `RF_EVT_START` is handled: when the link comes up the keyboard's processor is told `5B32` once, when it is lost `5B33`
once, and neither otherwise, whatever happens but a command of the host. -/
theorem announcements_match_the_link {s : Rf} (h : RfReach s) (hb : s.tmos.waits .start = false) {op : RfOp}
    (ho : op.isOwn = true) :
    let t := op.apply s
    t.told 0x32 = s.told 0x32 + (if s.isUp = false ∧ t.isUp = true then 1 else 0) ∧
      t.told 0x33 = s.told 0x33 + if s.isUp = true ∧ t.isUp = false then 1 else 0 :=
  RfLink.Announces.step (RfLink.inv_reach h) hb ho (step_apply op s)

/-- A keyboard connects: the processor is told once that the link is up. -/
theorem announcements_match_the_link_connect :
    (newKeyboard.after pairUp).told 0x32 = 0 ∧ (RfOp.process.apply (newKeyboard.after pairUp)).told 0x32 = 1 := by
  have h : RfReach (newKeyboard.after pairUp) := RfReach.after (.init ⟨_, _, _, _, rfl⟩) _
  have ht := (announcements_match_the_link h (by decide +kernel) (rfl : RfOp.process.isOwn = true)).1
  exact ⟨by decide +kernel, ht.trans (by decide +kernel)⟩

end OpenController
