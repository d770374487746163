import OpenController.Lemmas.RfLinkStep

/-!
# The resting policy over runs

What holds of the link in every state that is reached: where a link that rests, or probes in silence, can be, and what it knows.
One lemma for each operation of the link, then one for a step, then for a run.
-/

namespace OpenController

namespace RfLink

/-- What the resting policy keeps. -/
structure Inv (l : RfLink) : Prop where
  resting : l.state = .resting → l.empty = true ∧ l.hasBond = true ∧ l.macValid = true ∧ l.probe = false ∧ l.wake = false
  probing : l.probe = true → l.hasBond = true ∧ l.macValid = true ∧ (l.state = .pairing ∨ l.state = .connected)
  silent : l.probe = true → l.wake = false → l.empty = true
  quiet : l.quiet = true → l.probe = true ∧ l.wake = false
  wake : l.wake = true → l.probe = true
  connected : l.state = .connected → l.hasBond = true ∧ l.macValid = true
  pairing : l.state = .pairing → l.macValid = true
  offered : l.tmos.waits .enterConnected = true → l.hasBond = true
  window : l.tmos.live .pairTimeout = true → l.probe = false ∧ (l.state = .idle ∨ l.state = .pairing)
  boot : l.tmos.waits .start = true → l.probe = false ∧ (l.state = .idle ∨ l.state = .pairing)
  untimed : l.tmos.armed .start = false ∧ l.tmos.armed .enterConnected = false

namespace Inv

variable {l l' : RfLink}

/-- The invariant does not depend on what is told, and the queue may become empty. -/
theorem same (h : l.Inv) (hs : Same l l') : l'.Inv where
  resting hr := by
    obtain ⟨h1, h2⟩ := h.resting (hs.state ▸ hr)
    exact ⟨hs.empty h1, hs.hasBond ▸ hs.macValid ▸ hs.probe ▸ hs.wake ▸ h2⟩
  probing hp := hs.hasBond ▸ hs.macValid ▸ hs.state ▸ h.probing (hs.probe ▸ hp)
  silent hp hw := hs.empty (h.silent (hs.probe ▸ hp) (hs.wake ▸ hw))
  quiet hq := hs.probe ▸ hs.wake ▸ h.quiet (hs.quiet ▸ hq)
  wake hw := hs.probe ▸ h.wake (hs.wake ▸ hw)
  connected hc := hs.hasBond ▸ hs.macValid ▸ h.connected (hs.state ▸ hc)
  pairing hp := hs.macValid ▸ h.pairing (hs.state ▸ hp)
  offered ho := by
    rw [Tmos.waits, hs.queued _ rfl] at ho
    exact hs.hasBond ▸ h.offered ho
  window hw := by
    rw [Tmos.live, Tmos.armed, Tmos.waits, hs.timers _ rfl, hs.queued _ rfl] at hw
    exact hs.probe ▸ hs.state ▸ h.window hw
  boot hb := by
    rw [Tmos.waits, hs.queued _ rfl] at hb
    exact hs.probe ▸ hs.state ▸ h.boot hb
  untimed := by
    rw [Tmos.armed, Tmos.armed, hs.timers _ rfl, hs.timers _ rfl]
    exact h.untimed

/-- While an event other than `RF_EVT_START` is handled, `RF_EVT_START` is not queued. -/
theorem started {t : Tmos} {e : RfEvt} (h : t.next = some e) (he : e ≠ .start) : t.waits .start = false := by
  cases hs : t.waits .start with
  | false => rfl
  | true => exact absurd (Option.some.inj (h.symm.trans (Tmos.next_of_start hs))) he

/-- An event is taken from the queue. -/
theorem take (h : l.Inv) (e : RfEvt) : { l with tmos := l.tmos.take e }.Inv where
  resting := h.resting
  probing := h.probing
  silent := h.silent
  quiet := h.quiet
  wake := h.wake
  connected := h.connected
  pairing := h.pairing
  offered ho := h.offered (by simp at ho; exact ho.2)
  window hw := h.window (Tmos.live_of_take hw)
  boot hb := h.boot (by simp at hb; exact hb.2)
  untimed := h.untimed

/-- The timer of an event of the resting policy, or of the supervision, starts. -/
theorem start (h : l.Inv) {e : RfEvt} (n : Nat) (h1 : e ≠ .start) (h2 : e ≠ .enterConnected) (h3 : e ≠ .pairTimeout) :
    { l with tmos := l.tmos.startTask e n }.Inv where
  resting := h.resting
  probing := h.probing
  silent := h.silent
  quiet := h.quiet
  wake := h.wake
  connected := h.connected
  pairing := h.pairing
  offered := by simpa using h.offered
  window := by simpa [Tmos.live, h3.symm] using h.window
  boot := by simpa using h.boot
  untimed := by simpa [h1.symm, h2.symm] using h.untimed

/-- An event is stopped. -/
theorem stop (h : l.Inv) (e : RfEvt) : { l with tmos := l.tmos.stopTask e }.Inv where
  resting := h.resting
  probing := h.probing
  silent := h.silent
  quiet := h.quiet
  wake := h.wake
  connected := h.connected
  pairing := h.pairing
  offered ho := h.offered (by simp at ho; exact ho.2)
  window hw := h.window (by simp [Tmos.live] at hw ⊢; exact hw.imp And.right And.right)
  boot hb := h.boot (by simp at hb; exact hb.2)
  untimed := by simp [h.untimed.1, h.untimed.2]

theorem armIdle (h : l.Inv) : l.armIdle.Inv := by
  unfold RfLink.armIdle
  split
  · exact (h.stop .restIdle).start (e := .restIdle) _ nofun nofun nofun
  · exact h

/-- The radio goes off with nothing queued. -/
theorem goQuiet (h : l.Inv) (hb : l.hasBond = true) (hm : l.macValid = true) (he : l.empty = true)
    (hs : l.tmos.waits .start = false) : l.goQuiet.Inv where
  resting _ := ⟨he, hb, hm, rfl, rfl⟩
  probing := nofun
  silent := nofun
  quiet := nofun
  wake := nofun
  connected := nofun
  pairing := nofun
  offered := by simp [RfLink.goQuiet]
  window := by simp [RfLink.goQuiet, Tmos.live]
  boot := by simp [RfLink.goQuiet, hs]
  untimed := by simp [RfLink.goQuiet, h.untimed.1, h.untimed.2]

theorem setStage (h : l.Inv) (n : Nat) : { l with stage := n }.Inv :=
  ⟨h.resting, h.probing, h.silent, h.quiet, h.wake, h.connected, h.pairing, h.offered, h.window, h.boot, h.untimed⟩

theorem setRests (h : l.Inv) (n : Nat) : { l with rests := n }.Inv :=
  ⟨h.resting, h.probing, h.silent, h.quiet, h.wake, h.connected, h.pairing, h.offered, h.window, h.boot, h.untimed⟩

theorem setCatches (h : l.Inv) (n : Nat) : { l with catches := n }.Inv :=
  ⟨h.resting, h.probing, h.silent, h.quiet, h.wake, h.connected, h.pairing, h.offered, h.window, h.boot, h.untimed⟩

theorem setMisses (h : l.Inv) (n : Nat) : { l with misses := n }.Inv :=
  ⟨h.resting, h.probing, h.silent, h.quiet, h.wake, h.connected, h.pairing, h.offered, h.window, h.boot, h.untimed⟩

theorem setUart (h : l.Inv) (u : List UartOut) : { l with uart := u }.Inv :=
  ⟨h.resting, h.probing, h.silent, h.quiet, h.wake, h.connected, h.pairing, h.offered, h.window, h.boot, h.untimed⟩

theorem enterRest (h : l.Inv) (hb : l.hasBond = true) (hm : l.macValid = true) (he : l.empty = true)
    (hs : l.tmos.waits .start = false) : l.enterRest.Inv := by
  have h1 := (((h.setRests (l.rests + 1)).goQuiet hb hm he hs).setStage 1).start (e := .restProbe) kbdRestProbeTicks nofun
    nofun nofun
  exact h1.start (e := .restStage2) kbdRestStage2Ticks nofun nofun nofun

/-- A silent probe ends, whether it was caught or not. -/
theorem probeEnd (h : l.Inv) (caught : Bool) (hp : l.probe = true) (hw : l.wake = false) (hs : l.tmos.waits .start = false) :
    (l.probeEnd caught).Inv := by
  obtain ⟨hb, hm, _⟩ := h.probing hp
  have he := h.silent hp hw
  cases caught with
  | true => exact (h.setCatches _).goQuiet hb hm he hs
  | false => exact (h.setMisses _).goQuiet hb hm he hs

/-- A link that rests probes; it has a bond. -/
theorem probeStart (hb : l.hasBond = true) (hm : l.macValid = true) (he : l.wake = false → l.empty = true)
    (hs : l.tmos.waits .start = false) (hu : l.tmos.armed .start = false ∧ l.tmos.armed .enterConnected = false) :
    l.probeStart.Inv := by
  unfold RfLink.probeStart
  rw [if_pos (by simp [hb, hm])]
  exact {
    resting := nofun
    probing := fun _ => ⟨hb, hm, .inl rfl⟩
    silent := fun _ => he
    quiet := nofun
    wake := fun _ => rfl
    connected := nofun
    pairing := fun _ => hm
    offered := by simp [search]
    window := by simp [search, Tmos.live]
    boot := by simp [search, hs]
    untimed := by simp [search, hu.1, hu.2] }

/-- A probe becomes the session. -/
theorem promote (h : l.Inv) (hc : l.state = .connected) : l.promote.Inv := by
  have hn : { l with stage := 0, probe := false, wake := false, quiet := false }.Inv := {
    resting := fun hr => nomatch hc.symm.trans hr
    probing := nofun
    silent := nofun
    quiet := nofun
    wake := nofun
    connected := h.connected
    pairing := h.pairing
    offered := h.offered
    window := fun hw => ⟨rfl, (h.window hw).2⟩
    boot := fun hb => ⟨rfl, (h.boot hb).2⟩
    untimed := h.untimed }
  have hd := (((hn.stop .restProbe).stop .restProbeTimeout).stop .restStage2).stop .disconnect
  exact (hd.start (e := .disconnect) rfConnectedTimeoutTicks nofun nofun nofun).armIdle

/-- The search has caught the dongle. -/
theorem connect (h : l.Inv) (hb : l.hasBond = true) (hs : l.tmos.waits .start = false) : l.connect.Inv := by
  unfold RfLink.connect
  split
  · rename_i hp
    have hm := h.pairing hp
    have hc : { l with
        state := .connected
        tmos := ((((l.tmos.stopTask .pairBcast).stopTask .pairTimeout).stopTask .pairRxOff).stopTask .disconnect).startTask
          .disconnect rfConnectedTimeoutTicks }.Inv := {
      resting := nofun
      probing := fun hp => ⟨hb, hm, .inr rfl⟩
      silent := h.silent
      quiet := h.quiet
      wake := h.wake
      connected := fun _ => ⟨hb, hm⟩
      pairing := nofun
      offered := fun _ => hb
      window := by simp [Tmos.live]
      boot := by simp [hs]
      untimed := by simp [h.untimed.1, h.untimed.2] }
    dsimp only
    split
    · exact hc
    · split
      · exact hc.promote rfl
      · exact (hc.setUart _).armIdle
  · exact h

theorem broadcast (h : l.Inv) (hp : l.state = .pairing) : l.broadcast.Inv := by
  unfold RfLink.broadcast
  rw [if_pos (h.pairing hp)]
  exact (h.start (e := .pairBcast) rfPairBcastTicks nofun nofun nofun).stop .pairRxOff

/-- The policy is called off. -/
theorem cancel (h : l.Inv) : l.cancel.Inv where
  resting hr := by
    obtain ⟨h1, h2, h3, _⟩ := h.resting hr
    exact ⟨h1, h2, h3, rfl, rfl⟩
  probing := nofun
  silent := nofun
  quiet := nofun
  wake := nofun
  connected := h.connected
  pairing := h.pairing
  offered ho := h.offered (by simpa [RfLink.cancel] using ho)
  window hw := ⟨rfl, (h.window (by simpa [RfLink.cancel, Tmos.live] using hw)).2⟩
  boot hb := ⟨rfl, (h.boot (by simpa [RfLink.cancel] using hb)).2⟩
  untimed := by simp [RfLink.cancel, h.untimed.1, h.untimed.2]

/-- A link that does not probe becomes idle. -/
theorem toIdle (h : l.Inv) (hp : l.probe = false) : { l with state := .idle }.Inv where
  resting := nofun
  probing hp' := nomatch hp.symm.trans hp'
  silent hp' := nomatch hp.symm.trans hp'
  quiet := h.quiet
  wake := h.wake
  connected := nofun
  pairing := nofun
  offered := h.offered
  window _ := ⟨hp, .inl rfl⟩
  boot _ := ⟨hp, .inl rfl⟩
  untimed := h.untimed

theorem idle (h : l.Inv) : { l.cancel with state := .idle }.Inv := h.cancel.toIdle rfl

theorem lapse (h : l.Inv) : l.lapse.Inv := by
  unfold RfLink.lapse
  split
  · exact h.idle.setUart _
  · exact h

theorem drop (h : l.Inv) : l.drop.Inv :=
  ((((h.idle.stop .pairBcast).stop .pairTimeout).stop .pairRxOff).stop .enterConnected).stop .disconnect

/-- The link of a link that was dropped has nothing that needs the bond. -/
theorem forget (h : l.Inv) : l.drop.forget.Inv where
  resting := nofun
  probing := nofun
  silent := nofun
  quiet := nofun
  wake := nofun
  connected := nofun
  pairing := nofun
  offered := by simp [RfLink.forget, RfLink.drop, RfLink.cancel]
  window _ := ⟨rfl, .inl rfl⟩
  boot _ := ⟨rfl, .inl rfl⟩
  untimed := by simp [RfLink.forget, RfLink.drop, RfLink.cancel, h.untimed.1, h.untimed.2]

theorem enterPairing (h : l.Inv) : l.enterPairing.Inv := by
  unfold RfLink.enterPairing
  split
  · exact h
  · rename_i hn
    have hm : l.macValid = true := by
      cases hv : l.macValid with
      | true => rfl
      | false => simp [hv] at hn
    exact {
      resting := nofun
      probing := nofun
      silent := nofun
      quiet := nofun
      wake := nofun
      connected := nofun
      pairing := fun _ => hm
      offered := by simp [RfLink.cancel]
      window := fun _ => ⟨rfl, .inr rfl⟩
      boot := fun _ => ⟨rfl, .inr rfl⟩
      untimed := by simp [RfLink.cancel, h.untimed.1, h.untimed.2] }

theorem select (h : l.Inv) : l.select.Inv := by
  have hd := h.stop .discardHid
  unfold RfLink.select
  dsimp only
  split
  · exact hd
  · rename_i hn
    have hm : l.macValid = true := by simpa using hn
    split
    · rename_i hc
      split
      · exact hd.promote hc
      · exact hd
    · split
      · rename_i hb
        exact {
          resting := nofun
          probing := nofun
          silent := nofun
          quiet := nofun
          wake := nofun
          connected := nofun
          pairing := fun _ => hm
          offered := by simp [search, RfLink.cancel]
          window := by simp [search, RfLink.cancel, Tmos.live]
          boot := fun _ => ⟨rfl, .inr rfl⟩
          untimed := by simp [search, RfLink.cancel, h.untimed.1, h.untimed.2] }
      · exact hd.cancel

/-- A report wakes a link that rests or probes, so it does not matter there that it is queued. -/
theorem report (h : l.Inv) (e : Bool) : { l with empty := e }.wakeRest.Inv := by
  unfold RfLink.wakeRest
  dsimp only
  split
  · rename_i hr
    obtain ⟨_, hb, hm, hp, _⟩ := h.resting hr
    have hs : l.tmos.waits .start = false := by
      cases hs : l.tmos.waits .start with
      | false => rfl
      | true => rcases (h.boot hs).2 with hi | hi <;> exact nomatch hr.symm.trans hi
    exact probeStart hb hm nofun (by simp [hs]) (by simp [h.untimed.1, h.untimed.2])
  · rename_i hr
    split
    · rename_i hp
      have hw : { l with empty := e, wake := true, quiet := false }.Inv := {
        resting := fun hr' => absurd hr' hr
        probing := h.probing
        silent := nofun
        quiet := nofun
        wake := fun _ => hp
        connected := h.connected
        pairing := h.pairing
        offered := h.offered
        window := h.window
        boot := h.boot
        untimed := h.untimed }
      split
      · rename_i hc
        exact hw.promote hc
      · exact hw
    · rename_i hp
      have he : { l with empty := e }.Inv := {
        resting := fun hr' => absurd hr' hr
        probing := h.probing
        silent := fun hp' => absurd hp' hp
        quiet := h.quiet
        wake := h.wake
        connected := h.connected
        pairing := h.pairing
        offered := h.offered
        window := h.window
        boot := h.boot
        untimed := h.untimed }
      exact he.armIdle

/-- The handler of an event that was queued. -/
theorem handle (h : l.Inv) {e : RfEvt} (hn : l.tmos.next = some e) : ({ l with tmos := l.tmos.take e }.handle e).Inv := by
  have ht := h.take e
  have hw := Tmos.next_eq_some hn
  by_cases he : e = .start
  · subst he
    exact ht.toIdle (h.boot hw).1
  · have hs : (l.tmos.take e).waits .start = false := by simp [started hn he]
    cases e with
    | start => exact absurd rfl he
    | pairBcast =>
      dsimp only [RfLink.handle]
      split
      · exact ht.broadcast ‹_›
      · exact ht
    | pairTimeout =>
      dsimp only [RfLink.handle]
      split
      · exact (ht.toIdle (h.window (by simp [Tmos.live, hw])).1).stop .pairRxOff
      · exact ht
    | enterConnected => exact ht.connect (h.offered hw) hs
    | restProbe =>
      dsimp only [RfLink.handle]
      split
      · rename_i hr
        obtain ⟨he, hb, hm, _, _⟩ := h.resting hr.1
        exact probeStart hb hm (fun _ => he) hs (by simp [h.untimed.1, h.untimed.2])
      · exact ht
    | restProbeTimeout =>
      dsimp only [RfLink.handle]
      split
      · rename_i hp
        split
        · exact ht.start (e := .restProbeTimeout) _ (by simp) (by simp) (by simp)
        · rename_i hw'
          exact ht.probeEnd false hp (by simpa using hw') hs
      · exact ht
    | restStage2 =>
      dsimp only [RfLink.handle]
      split
      · exact (ht.setStage 2).stop .restProbe
      · exact ht
    | disconnect => exact ht.lapse
    | rxRestart | pairRxOff | respond | notifyLed | discardHid | saveBond | restIdle => exact ht

/-- Every step keeps the invariant. -/
theorem step {op : RfOp} (h : l.Inv) (hs : Step op l l') : l'.Inv := by
  cases hs with
  | same hs => exact h.same hs
  | report e => exact h.report e
  | select u => exact h.select.setUart u
  | leave u =>
    have hd := h.drop
    generalize l.drop = d at hd ⊢
    exact ((hd.stop .discardHid).start (e := .discardHid) _ nofun nofun nofun).setUart u
  | pair u => exact h.enterPairing.setUart u
  | unpair u => exact h.forget.setUart u
  | factoryPair u => exact h.forget.enterPairing.setUart u
  | told u => exact h.setUart u
  | event hn _ _ => exact h.handle hn
  | idleOver hn hc hp he =>
    obtain ⟨hb, hm⟩ := h.connected hc
    exact (h.take .restIdle).enterRest hb hm he (by simp [started hn nofun])
  | idleRetry hn hc hp => exact (h.take .restIdle).start (e := .restIdle) _ nofun nofun nofun
  | idleSkip hn _ => exact h.take .restIdle
  | caughtProbe hc hq =>
    obtain ⟨hp, hw⟩ := h.quiet hq
    refine h.probeEnd true hp hw ?_
    cases hs : l.tmos.waits .start with
    | false => rfl
    | true => exact nomatch hp.symm.trans (h.boot hs).1
  | supervise hc hs => exact ((h.stop .disconnect).start (e := .disconnect) _ nofun nofun nofun).same hs
  | firstPacket hp hb hs =>
    refine same ?_ hs
    exact {
      resting := fun hr => nomatch hp.symm.trans hr
      probing := fun hp' => nomatch hb.symm.trans (h.probing hp').1
      silent := h.silent
      quiet := h.quiet
      wake := h.wake
      connected := fun hc => nomatch hp.symm.trans hc
      pairing := h.pairing
      offered := fun _ => rfl
      window := h.window
      boot := h.boot
      untimed := h.untimed }
  | offer hp hb hs =>
    refine same ?_ hs
    exact {
      resting := h.resting
      probing := h.probing
      silent := h.silent
      quiet := h.quiet
      wake := h.wake
      connected := h.connected
      pairing := h.pairing
      offered := fun _ => hb
      window := by simpa [Tmos.live] using h.window
      boot := by simpa using h.boot
      untimed := h.untimed }
  | answer hp hw hs =>
    refine same ?_ hs
    exact ⟨h.resting, h.probing, h.silent, fun _ => ⟨hp, hw⟩, h.wake, h.connected, h.pairing, h.offered, h.window, h.boot,
      h.untimed⟩
  | @expire e l =>
    exact {
      resting := h.resting
      probing := h.probing
      silent := h.silent
      quiet := h.quiet
      wake := h.wake
      connected := h.connected
      pairing := h.pairing
      offered := by simpa [h.untimed.2] using h.offered
      window := fun hw => h.window (by
        simp only [Tmos.live, Tmos.armed_expire, Tmos.waits_expire, Bool.or_eq_true, Bool.and_eq_true] at hw ⊢
        rcases hw with hw | hw | hw
        · exact .inl hw.2
        · exact .inr hw
        · exact .inl hw.2)
      boot := by simpa [h.untimed.1] using h.boot
      untimed := by simp [h.untimed.1, h.untimed.2] }
  | advance =>
    exact ⟨h.resting, h.probing, h.silent, h.quiet, h.wake, h.connected, h.pairing, h.offered, h.window, h.boot, h.untimed⟩
  | quiesce => exact h.drop

end Inv

/-- The link at boot. -/
theorem inv_boot (mac : Mac) (macValid : Bool) (flash : Nat → Byte) (hw : RfHw) :
    (rfTaskInit mac macValid flash hw).link.Inv := by
  unfold rfTaskInit Rf.link
  generalize (rfLoadBondFromFlash hw.eeprom flash rfClearBondRam).1 = bond
  dsimp only
  split
  · rename_i hs
    obtain ⟨_, hm⟩ := Bool.and_eq_true_iff.1 hs
    exact {
      resting := by rintro ⟨⟩
      probing := by rintro ⟨⟩
      silent := by rintro ⟨⟩
      quiet := by rintro ⟨⟩
      wake := by rintro ⟨⟩
      connected := by rintro ⟨⟩
      pairing := fun _ => hm
      offered := by simp
      window := by simp [Tmos.live]
      boot := by simp
      untimed := by simp }
  · exact {
      resting := by rintro ⟨⟩
      probing := by rintro ⟨⟩
      silent := by rintro ⟨⟩
      quiet := by rintro ⟨⟩
      wake := by rintro ⟨⟩
      connected := by rintro ⟨⟩
      pairing := by rintro ⟨⟩
      offered := by simp
      window := by simp [Tmos.live]
      boot := fun _ => ⟨rfl, .inl rfl⟩
      untimed := by simp }

/-- The link in every state that is reached. -/
theorem inv_reach {s : Rf} (h : RfReach s) : s.link.Inv := by
  refine h.invariant (I := fun s => s.link.Inv) ?_ ?_
  · rintro s ⟨mac, macValid, flash, hw, rfl⟩
    exact inv_boot mac macValid flash hw
  · intro op s t _ hi ht
    exact ht ▸ hi.step (step_apply op s)

/-! ## Probes that a report woke -/

variable {l l' : RfLink}

/-- In a session, no report woke the probe. -/
def Unwoken (l : RfLink) : Prop := l.state = .connected → l.probe = true → l.wake = false

theorem unwoken_armIdle (h : l.Unwoken) : l.armIdle.Unwoken := by
  unfold armIdle
  split <;> exact h

theorem unwoken_promote (l : RfLink) : l.promote.Unwoken := by
  refine unwoken_armIdle fun _ hp => nomatch hp

theorem unwoken_probeStart (l : RfLink) : l.probeStart.Unwoken := by
  unfold probeStart
  split <;> exact nofun

/-- No handler leaves such a session. -/
theorem unwoken_handle (h : l.Unwoken) (e : RfEvt) : (l.handle e).Unwoken := by
  cases e with
  | start => exact nofun
  | pairBcast =>
    simp only [handle, broadcast]
    split
    · split
      · exact h
      · exact nofun
    · exact h
  | pairTimeout =>
    simp only [handle]
    split
    · exact nofun
    · exact h
  | enterConnected =>
    simp only [handle, connect]
    split
    · split
      · rename_i hs
        intro _ _
        simpa using (Bool.and_eq_true_iff.mp hs).2
      · split
        · exact unwoken_promote _
        · rename_i hp
          refine unwoken_armIdle fun _ hp' => absurd hp' hp
    · exact h
  | restProbe =>
    simp only [handle]
    split
    · exact unwoken_probeStart _
    · exact h
  | restProbeTimeout =>
    simp only [handle]
    split
    · split
      · exact h
      · exact nofun
    · exact h
  | restStage2 =>
    simp only [handle]
    split <;> exact h
  | disconnect =>
    simp only [handle, lapse]
    split
    · exact nofun
    · exact h
  | rxRestart | pairRxOff | respond | notifyLed | discardHid | saveBond | restIdle => exact h

theorem unwoken_enterPairing (h : l.Unwoken) : l.enterPairing.Unwoken := by
  unfold enterPairing
  split
  · exact h
  · exact nofun

theorem unwoken_select (h : l.Unwoken) : l.select.Unwoken := by
  simp only [select]
  split
  · exact h
  · split
    · split
      · exact unwoken_promote _
      · exact h
    · split
      · exact nofun
      · exact nofun

theorem unwoken_wakeRest (h : l.Unwoken) : l.wakeRest.Unwoken := by
  simp only [wakeRest]
  split
  · exact unwoken_probeStart _
  · split
    · split
      · exact unwoken_promote _
      · rename_i hc
        exact fun hc' => absurd hc' hc
    · exact unwoken_armIdle h

theorem unwoken_step {op : RfOp} (h : l.Unwoken) (hs : Step op l l') : l'.Unwoken := by
  cases hs with
  | same hs => exact fun hc hp => hs.wake.trans (h (hs.state.symm.trans hc) (hs.probe.symm.trans hp))
  | report e => exact unwoken_wakeRest h
  | select u => exact unwoken_select h
  | leave u => exact nofun
  | pair u => exact unwoken_enterPairing h
  | unpair u => exact nofun
  | factoryPair u => exact unwoken_enterPairing (l := l.drop.forget) nofun
  | told u => exact h
  | @event _ e hn _ _ => exact unwoken_handle (l := { l with tmos := l.tmos.take e }) h e
  | idleOver _ _ _ _ => exact nofun
  | idleRetry _ _ _ | idleSkip _ _ => exact h
  | caughtProbe _ _ => exact nofun
  | supervise _ hs | firstPacket _ _ hs | offer _ _ hs | answer _ _ hs =>
    exact fun hc hp => hs.wake.trans (h (hs.state.symm.trans hc) (hs.probe.symm.trans hp))
  | expire | advance => exact h
  | quiesce => exact nofun

theorem unwoken_reach {s : Rf} (h : RfReach s) : s.link.Unwoken := by
  refine h.invariant (fun s hs => ?_) fun op s t _ hi ht => ht ▸ unwoken_step hi (step_apply op s)
  obtain ⟨mac, macValid, flash, hw, rfl⟩ := hs
  exact nofun

end RfLink
end OpenController
