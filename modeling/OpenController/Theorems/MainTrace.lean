import OpenController.Lemmas.MainTraceRun

/-!
# What the host asked for is what is done

An update is requested only if the host asked for it, and then nothing keeps the module from it. The module sleeps only if the host
negotiated it.
-/

namespace OpenController

open Prog

variable {board : Board} {m₀ m t : Main} {ops l : List MainOp}

/-- `OpenBoot_Service` has run once the entry is latched: it remembers a time, and requests the update if the UART has drained or had
its time since. -/
structure EntryView.Serving (svc : Svc) (e : EntryView) : Prop where
  pending : e.pending = true
  serves : svc.state ≠ 0
  svc : e.svc = svc

theorem serving_run {svc : Svc} (h : MainTrace board m l t) (hm : m.entry.Serving svc) : t.entry.Serving svc := by
  refine latched_run (P := EntryView.Serving svc) (fun e he => he.pending) (fun e now he hs => ?_)
    (fun e he => ⟨he.pending, he.serves, he.svc⟩) h hm
  exact absurd (congrArg Svc.state he.svc ▸ hs) he.serves

/-- The first service. -/
theorem serving_first {fifoIdle : Bool} {now : Nat} (hpending : m.openbootEntryPending = true)
    (h : Runs MainInterrupt (openBootService board fifoIdle now) m () t) :
    ∃ svc, t.entry.Serving svc ∧ (m.openboot.state = 0 → svc = ⟨1, now⟩) := by
  by_cases hzero : m.openboot.state = 0
  · refine ⟨⟨1, now⟩, ?_, fun _ => rfl⟩
    exact entry_openBootService (P := fun e => e.pending = true ∧ e.svc.state = 0) (Q := EntryView.Serving ⟨1, now⟩)
      (fun e he _ hno => nomatch hno.symm.trans he.1) (fun e he _ _ => ⟨he.1, nofun, rfl⟩) (fun e he hs _ => absurd he.2 hs)
      (fun e he hs _ => absurd he.2 hs) m () t ⟨hpending, hzero⟩ h
  · refine ⟨m.openboot, ?_, fun h0 => absurd h0 hzero⟩
    have hzero' (e : EntryView) (he : e.Serving m.openboot) : e.svc.state ≠ 0 := he.svc ▸ hzero
    exact entry_openBootService (P := EntryView.Serving m.openboot) (fun e he _ _ => he) (fun e he hs _ => absurd hs (hzero' e he))
      (fun e he _ _ => he) (fun e he _ _ => ⟨he.pending, he.serves, he.svc⟩) m () t ⟨hpending, hzero, rfl⟩ h

/-- A later one, when the UART has drained or had its time. -/
theorem serving_again {svc : Svc} {fifoIdle : Bool} {now : Nat} (hm : m.entry.Serving svc)
    (hdrained : fifoIdle = true ∨ ¬sub32 now svc.start < rtcClockTicksUs board 20000)
    (h : Runs MainInterrupt (openBootService board fifoIdle now) m () t) : t.updated = true := by
  have hserves (e : EntryView) (he : e.Serving svc) : e.svc.state ≠ 0 := he.svc ▸ he.serves
  exact entry_openBootService (P := EntryView.Serving svc) (Q := fun e => e.updated = true)
    (fun e he hs _ => absurd hs (hserves e he)) (fun e he hs _ => absurd hs (hserves e he))
    (fun e he _ hno => absurd (he.svc ▸ hdrained) hno) (fun _ _ _ _ => rfl) m () t hm h

/-- An update is requested only if the host has asked for it. Once it has, the module does not sleep any more, and the second
`OpenBoot_Service` from then on, with the UART drained or 20 ms after the first took the link down, requests the update, whatever
happens in between. -/
theorem update_follows_request (hb : MainBooted m₀) (h : MainTrace board m₀ ops m) :
    (m.openbootEntryPending = true ↔ (0xA6, 0x81) ∈ hostFrames ops) ∧ (m.updated = true → m.openbootEntryPending = true) ∧
    (m.openbootEntryPending = true → ∀ l t, MainTrace board m l t → t.log.sleeps = m.log.sleeps ∧
      ∀ f₁ t₁ between f₂ t₂, l = .call (.openBootService f₁ t₁) :: between ++ [.call (.openBootService f₂ t₂)] →
        f₂ = true ∨ m.openboot.state = 0 ∧ ¬sub32 t₂ t₁ < rtcClockTicksUs board 20000 → t.updated = true) := by
  have hfollows := follows_run hb h
  refine ⟨hfollows.pending, hfollows.updated, fun hpending l t hl => ⟨?_, ?_⟩⟩
  · have hkept := latched_run (P := fun e => e.pending = true ∧ e.sleeps = m.log.sleeps) (fun e he => he.1) (fun _ _ he _ => he)
      (fun _ he => he) hl ⟨hpending, rfl⟩
    exact hkept.2
  · rintro f₁ t₁ between f₂ t₂ rfl htime
    obtain ⟨u, hhead, hlast⟩ := hl.of_append
    have hsplit : MainTrace board m ([.call (.openBootService f₁ t₁)] ++ between) u := hhead
    obtain ⟨v, hone, hbetween⟩ := hsplit.of_append
    obtain ⟨v', hfirst, rfl⟩ := hone.of_singleton
    obtain ⟨u', hagain, rfl⟩ := hlast.of_singleton
    obtain ⟨svc, hserving, htaken⟩ := serving_first hpending hfirst
    have hu : u.entry.Serving svc := serving_run hbetween ((entry_settle v').symm ▸ hserving)
    have hupdated : u'.updated = true := by
      refine serving_again hu (htime.imp_right fun ht => ?_) hagain
      rw [htaken ht.1]
      exact ht.2
    exact (congrArg EntryView.updated (entry_settle u')).trans hupdated

/-- The `k`-th sleep of a run is entered in one of its steps, and by then the host has negotiated it: a sleep on behalf of the host,
after it negotiated the protocol and asked for the sleep; a sleep of the module's own accord, while auto-sleep is armed, that is, after
`A6 57`, which followed `A6 56`, no frame has come yet that disarms it. -/
theorem slept_as_negotiated (hb : MainBooted m₀) (h : MainTrace board m₀ ops m) : ∀ (k : Nat) (e : SleepEntry),
    m.log.sleeps[k]? = some e → ∃ before op, before ++ [op] <+: ops ∧ EntersSleep board m₀ m.log.sleeps k before op ∧
      (e.explicit = true → [(0xA6, 0x56), (0xA6, 0x54)].Sublist (hostFrames before)) ∧
      (e.explicit = false → Armed (hostFrames before)) := by
  induction h with
  | start =>
    obtain ⟨rf, -, rfl⟩ := hb
    exact fun k e hk => nomatch hk
  | @step ops t u op h hu hs ih =>
    intro k e hk
    have hsettle : u.settle.log.sleeps = u.log.sleeps := congrArg EntryView.sleeps (entry_settle u)
    rw [hsettle] at hk ⊢
    rcases sleepsAs_step hs (negotiated_run hb h) with hsame | ⟨e', hadded, hneg⟩
    · rw [hsame] at hk ⊢
      obtain ⟨before, op', hbefore, hrest⟩ := ih k e hk
      exact ⟨before, op', hbefore.trans (List.prefix_append _ _), hrest⟩
    -- The step adds a sleep: this one, or it was entered before.
    have hlen : k < t.log.sleeps.length + 1 := by
      have hlt := (List.getElem?_eq_some_iff.mp hk).1
      rwa [hadded, List.length_append] at hlt
    rcases Nat.lt_succ_iff_lt_or_eq.mp hlen with hlt | rfl
    · rw [hadded, List.getElem?_append_left hlt] at hk
      obtain ⟨before, op', hbefore, ⟨t', u', hrun, hstep, hbelow, hup⟩, hrest⟩ := ih k e hk
      rw [← List.take_append_of_le_length (Nat.le_of_lt hlt), ← hadded] at hbelow
      rw [← List.take_append_of_le_length hlt, ← hadded] at hup
      exact ⟨before, op', hbefore.trans (List.prefix_append _ _), ⟨t', u', hrun, hstep, hbelow, hup⟩, hrest⟩
    · rw [hadded, List.getElem?_concat_length] at hk
      obtain rfl := Option.some.inj hk
      refine ⟨ops, op, List.prefix_refl _, ⟨t, u, h, hs, ?_, ?_⟩, hneg.asked, hneg.armed⟩
      · rw [hadded, List.take_left]
      · rw [hadded, List.take_of_length_le (by simp)]

/-! ## A run -/

/-- A keyboard without a bond has started. -/
def started : Main := mainInit newKeyboard

theorem mainBooted_started : MainBooted started := ⟨newKeyboard, ⟨_, _, _, _, rfl⟩, rfl⟩

/-- A command of the host. -/
def hostCommand (sub : Byte) : MainInput := .call (.frame 0xA6 sub (Vector.replicate 8 0))

/-- The host negotiates auto-sleep, and the module sleeps until the host wakes it and wants an update. -/
def sleepThenUpdate : List MainInput :=
  [hostCommand 0x56, hostCommand 0x57, .interrupt (.hardware ⟨4000, 0, 0, ⟨0, 0, 0⟩⟩),
    .call (.lowPower 5045 true true ⟨false, false, false, false, true, 4700, false⟩), hostCommand 0x81]

/-- `OpenBoot_Service` takes the link down, and runs again when the UART has not drained, but 20 ms have passed. -/
def serveLate : List MainInput :=
  [.call (.openBootService false 100), .process, .call (.openBootService false 200), .call (.openBootService false 742)]

/-- The module slept before the host wanted an update, and then it updates. -/
theorem update_follows_request_late : ((started.after clockedBoard sleepThenUpdate).after clockedBoard serveLate).updated = true ∧
    ((started.after clockedBoard sleepThenUpdate).after clockedBoard serveLate).log.sleeps =
      (started.after clockedBoard sleepThenUpdate).log.sleeps := by
  have h : MainTrace clockedBoard started (started.ops clockedBoard sleepThenUpdate) (started.after clockedBoard sleepThenUpdate) :=
    MainTrace.of_plays (by decide +kernel)
  have hl : MainTrace clockedBoard (started.after clockedBoard sleepThenUpdate)
      ((started.after clockedBoard sleepThenUpdate).ops clockedBoard serveLate)
      ((started.after clockedBoard sleepThenUpdate).after clockedBoard serveLate) := MainTrace.of_plays (by decide +kernel)
  have hrequest := (update_follows_request mainBooted_started h).2.2 (by decide +kernel) _ _ hl
  exact ⟨hrequest.2 false 100 [.event _ _, .call (.openBootService false 200)] false 742 rfl (.inr ⟨by decide +kernel, by decide +kernel⟩), hrequest.1⟩

/-- The sleep was its own, while auto-sleep was armed. -/
theorem slept_as_negotiated_auto :
    (started.after clockedBoard sleepThenUpdate).log.sleeps[0]? = some ⟨false, false⟩ ∧
    ∃ before op, before ++ [op] <+: started.ops clockedBoard sleepThenUpdate ∧
      EntersSleep clockedBoard started (started.after clockedBoard sleepThenUpdate).log.sleeps 0 before op ∧
      Armed (hostFrames before) := by
  have h : MainTrace clockedBoard started (started.ops clockedBoard sleepThenUpdate) (started.after clockedBoard sleepThenUpdate) :=
    MainTrace.of_plays (by decide +kernel)
  have he : (started.after clockedBoard sleepThenUpdate).log.sleeps[0]? = some ⟨false, false⟩ := by decide +kernel
  obtain ⟨before, op, hbefore, henters, -, harmed⟩ := slept_as_negotiated mainBooted_started h 0 _ he
  exact ⟨he, before, op, hbefore, henters, harmed rfl⟩

end OpenController
