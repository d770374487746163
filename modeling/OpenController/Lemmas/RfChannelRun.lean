import OpenController.Lemmas.RfCalls
import OpenController.Lemmas.RfHearsAux
import OpenController.RfChannel

/-!
# The channel of the radio, across runs

`ChannelOk` holds between any two calls of the main loop. Inside a call the radio is committed to a channel while it is shut
(`rf_start_rx`); until then the poll of a pending response was caught on the channel the radio stays on.
-/

namespace OpenController

open Prog RfStatements

attribute [local simp] Rf.ChannelOk Rf.tunedOk_iff Rf.ArmedOk RfHop.channel

variable {ok : Hearing} {q r : Prop} {s t : Rf}

/-! ## Interrupts -/

/-- Interrupts do not touch the channel: they catch a poll there, or leave the response as it is or over. -/
theorem channel_hears (h : RfHears ok s t) : t.state = s.state ∧ t.hop.channel = s.hop.channel ∧
    t.radio.receiving = s.radio.receiving ∧ t.radio.tuned = s.radio.tuned ∧ t.radio.channel = s.radio.channel ∧
    t.hop.interval = s.hop.interval ∧ t.log.stretch = s.log.stretch ∧ t.log.answers = s.log.answers ∧
    ((t.resp.responsePending = true → s.resp.responsePending = true) ∧ t.resp.responseChannel = s.resp.responseChannel ∧
        t.log.caughtOn = s.log.caughtOn ∨
      s.radio.receiving = true ∧ (∃ buf, ok s buf ∧ s.CatchesPoll buf) ∧ t.resp.responseChannel = s.radio.channel ∧
        t.log.caughtOn = s.radio.tuned) := by
  rcases hears_spec h with hb | ⟨buf, hr, hk, hp⟩
  · obtain ⟨aa, hradio⟩ := hb.radio
    rw [hb.state, hb.hop, hradio, hb.log]
    refine ⟨rfl, rfl, rfl, rfl, rfl, rfl, rfl, rfl, .inl ⟨fun hpend => ?_, ?_, rfl⟩⟩
    · rcases hb.resp with hresp | hresp
      · exact hresp ▸ hpend
      · rw [hresp] at hpend
        cases hpend
    · rcases hb.resp with hresp | hresp <;> rw [hresp]
  · have hservo : ∃ anchor, s.hop.hopServo (rtcBackdate32k s.hw.rtc (rfPollBackdateBase + buf.len / 8)) =
        { s.hop with hopAnchor := anchor } := by
      simp only [RfHop.hopServo]
      repeat' split
      all_goals exact ⟨_, rfl⟩
    obtain ⟨anchor, hservo⟩ := hservo
    have hlog : t.log.stretch = s.log.stretch ∧ t.log.answers = s.log.answers ∧ t.log.caughtOn = s.radio.tuned := by
      rcases hp.queue with ⟨_, _, hlog⟩ | ⟨_, _, hlog⟩ <;> rw [hlog] <;> exact ⟨rfl, rfl, rfl⟩
    obtain ⟨hstretch, hansw, hcaught⟩ := hlog
    rw [hp.state, hp.radio, hp.resp, hp.hop, hservo]
    exact ⟨rfl, rfl, rfl, rfl, rfl, rfl, hstretch, hansw, .inr ⟨hr, ⟨buf, hk, hp.catches⟩, rfl, hcaught⟩⟩

/-- A poll is caught where the radio is. -/
theorem Rf.TunedOk.hears (h : s.TunedOk q) (hi : RfHears ok s t) : t.TunedOk q := by
  obtain ⟨hst, _, hrec, htun, hch, _, _, hansw, hresp⟩ := channel_hears hi
  refine ⟨fun hs hr => ?_, fun hq hs hp => ?_, fun hq => hansw ▸ h.answers hq⟩
  · rw [htun, hch]
    exact h.tuned (hst ▸ hs) (hrec ▸ hr)
  · rw [htun, hch]
    rcases hresp with ⟨hpend, hrc, hco⟩ | ⟨hr, _, hrc, hco⟩
    · rw [hrc, hco]
      exact h.held hq (hst ▸ hs) (hpend hp)
    · have htuned := h.tuned (.inl (hst ▸ hs)) hr
      exact ⟨htuned, hrc, hco.trans htuned⟩

/-- Interrupts leave the radio, and the index. -/
theorem Rf.ArmedOk.hears (h : s.ArmedOk r) (hi : RfHears ok s t) : t.ArmedOk r := by
  obtain ⟨hst, hidx, _, _, hch, _⟩ := channel_hears hi
  rw [Rf.ArmedOk, hst, hch, hidx]
  exact h

/-- What holds between two calls holds after an interrupt. -/
theorem stable_channelOk : Stable (RfHearsSo ok r) (Rf.ChannelOk q r) := fun _ _ hi h => ⟨h.1.hears hi.1, h.2.hears hi.1⟩

/-- A call that leaves the radio on its channel. -/
abbrev Tunes {α : Type} (ok : Hearing) (q r : Prop) (p : RfM α) : Prop := Kept (RfHearsSo ok r) (Rf.ChannelOk q r) p

/-- A statement after which the radio is where it was. -/
def SteadyStmt (f : Rf → Rf) : Prop := ∀ s : Rf, s.Steady (f s)

attribute [local simp] SteadyStmt Rf.steady_iff

/-- What leaves the receiver and the response alone keeps it. -/
theorem Rf.Steady.channelOk (hst : s.Steady t) (h : s.ChannelOk q r) : t.ChannelOk q r := by
  have hc : t.state = .connected → s.state = .connected := fun hs => by
    rcases hst.state with he | he | he
    · exact he.symm.trans hs
    · exact nomatch he.symm.trans hs
    · exact nomatch he.symm.trans hs
  have hp : t.state = .pairing → s.state = .pairing := fun hs => by
    rcases hst.state with he | he | he
    · exact he.symm.trans hs
    · exact nomatch he.symm.trans hs
    · exact nomatch he.symm.trans hs
  refine ⟨⟨fun hs hr => ?_, fun hq hs hpend => ?_, fun hq => hst.answers ▸ h.1.answers hq⟩, fun hr hs => ?_⟩
  · rw [hst.tuned, hst.onChannel]
    exact h.1.tuned (hs.imp hc hp) (hst.receiving hr)
  · rw [hst.tuned, hst.onChannel, hst.responseChannel, hst.caughtOn]
    exact h.1.held hq (hc hs) (hst.pending hpend)
  · rw [hst.onChannel, RfHop.channel, hst.channel]
    exact h.2 hr (hc hs)

/-- A function whose statements all do. -/
theorem tunes_of {α : Type} {p : RfM α} (h : Each SteadyStmt p) : Tunes ok q r p :=
  Each.triple (h.mono fun _ hf s hs => (hf s).channelOk hs) stable_channelOk

/-! ## The receiver on a channel -/

/-- The radio is about to go to a channel: a response pending has its poll caught there, and it is the channel of the index. -/
def Rf.Leads (q r : Prop) (c : Nat) (s : Rf) : Prop :=
  s.TunedOk q ∧ (q → s.state = .connected → s.resp.responsePending = true → c = s.radio.channel) ∧
    (r → s.state = .connected → c = s.hop.channel)

/-- The radio listens no more, or no poll is caught unless the channel stays the same. -/
def Rf.Guarded (c : Nat) (s : Rf) : Prop := s.radio.receiving = false ∨ s.log.stretch = .retune c ∨ c = s.radio.channel

variable (hok : q → ∀ s buf, ok s buf → Hearing.inPlace s buf) (c : Nat)
include hok

/-- No interrupt takes the radio's channel from under a response. -/
theorem stable_leads : Stable (RfHearsSo ok r) fun s => s.Leads q r c ∧ s.Guarded c := by
  rintro s t hi ⟨⟨h, hheld, harm⟩, hg⟩
  obtain ⟨hst, hidx, hrec, _, hch, _, hstretch, _, hresp⟩ := channel_hears hi.1
  refine ⟨⟨h.hears hi.1, fun hq hs hp => ?_, ?_⟩, ?_⟩
  · rw [hch]
    rcases hresp with ⟨hpend, _⟩ | ⟨hr, ⟨buf, hk, hpoll⟩, _⟩
    · exact hheld hq (hst ▸ hs) (hpend hp)
    · rcases hg with hg | hg | hg
      · exact nomatch hr.symm.trans hg
      · exact hok hq s buf hk c hg hpoll
      · exact hg
  · rw [hst, hidx]
    exact harm
  · rw [Rf.Guarded, hrec, hstretch, hch]
    exact hg

/-- A receiver that is off stays off while its channel is known. -/
theorem stable_leads_shut : Stable (RfHearsSo ok r) fun s => s.Leads q r c ∧ s.radio.receiving = false := by
  rintro s t hi ⟨h, hr⟩
  obtain ⟨_, _, hrec, _⟩ := channel_hears hi.1
  exact ⟨(stable_leads hok c s t hi ⟨h, .inl hr⟩).1, hrec.trans hr⟩

omit hok

/-- The radio does not listen. -/
def Rf.Off (q r : Prop) (s : Rf) : Prop := s.ChannelOk q r ∧ s.radio.receiving = false

/-- The radio does not listen, and is tuned to its channel. -/
def Rf.OffTuned (q r : Prop) (s : Rf) : Prop := s.Off q r ∧ s.radio.tuned = s.radio.channel

attribute [local simp] Rf.Off Rf.OffTuned

/-- No interrupt starts the receiver. -/
theorem stable_off : Stable (RfHearsSo ok r) (Rf.Off q r) := by
  rintro s t hi ⟨h, hr⟩
  obtain ⟨_, _, hrec, _⟩ := channel_hears hi.1
  exact ⟨stable_channelOk s t hi h, hrec.trans hr⟩

/-- Nor does one retune it. -/
theorem stable_offTuned : Stable (RfHearsSo ok r) (Rf.OffTuned q r) := by
  rintro s t hi ⟨h, he⟩
  obtain ⟨_, _, _, htun, hch, _⟩ := channel_hears hi.1
  exact ⟨stable_off s t hi h, htun.trans (he.trans hch.symm)⟩

/-- `RF_SetChannel` tunes the radio to its channel. -/
theorem tunes_setChannel : Triple (RfHearsSo ok r) (Rf.Off q r) rfSetChannel fun _ => Rf.OffTuned q r := by
  refine Triple.modify stable_off stable_offTuned ?_
  rintro s ⟨⟨h, harm⟩, hr⟩
  refine ⟨⟨⟨⟨fun _ _ => rfl, fun hq hs hp => ⟨rfl, (h.held hq hs hp).2⟩, h.answers⟩, harm⟩, hr⟩, rfl⟩

/-- So does `rf_configure_if_needed`. -/
theorem tunes_configure (aa : Nat) : Triple (RfHearsSo ok r) (Rf.Off q r) (rfConfigureIfNeeded aa) fun _ => Rf.OffTuned q r := by
  refine Triple.bind (Kept.read stable_off _) fun needed => Triple.ite (fun _ => ?_) fun _ => tunes_setChannel
  have hconfigure : Triple (RfHearsSo ok r) (Rf.Off q r) rfConfigure fun _ => Rf.OffTuned q r :=
    Triple.bind (Kept.read stable_off _) fun status => tunes_setChannel.bind fun _ => Kept.pure stable_offTuned status
  exact hconfigure.bind fun status => Each.triple (by simp +contextual) stable_offTuned

include hok

/-- The receiver is set to a channel it may go to. -/
theorem tunes_rfStartRx : Triple (RfHearsSo ok r) (fun s => s.Leads q r c ∧ s.Guarded c) (rfStartRx c) fun _ => Rf.ChannelOk q r := by
  have hshut : Triple (RfHearsSo ok r) (fun s => s.Leads q r c ∧ s.Guarded c) rfShut
      fun _ s => s.Leads q r c ∧ s.radio.receiving = false := by
    refine Triple.modify (stable_leads hok c) (stable_leads_shut hok c) ?_
    rintro s ⟨⟨h, hheld, harm⟩, _⟩
    exact ⟨⟨⟨nofun, h.held, h.answers⟩, hheld, harm⟩, rfl⟩
  have hcommit : Triple (RfHearsSo ok r) (fun s => s.Leads q r c ∧ s.radio.receiving = false)
      (.modify fun s => { s with radio := { s.radio with channel := c } }) fun _ => Rf.Off q r := by
    refine Triple.modify (stable_leads_shut hok c) stable_off ?_
    rintro s ⟨⟨h, hheld, harm⟩, hr⟩
    refine ⟨⟨⟨fun _ hr' => (nomatch hr.symm.trans hr'), fun hq hs hp => ?_, h.answers⟩, harm⟩, hr⟩
    rw [hheld hq hs hp]
    exact h.held hq hs hp
  have hlisten : Triple (RfHearsSo ok r) (Rf.OffTuned q r) rfRx fun _ => Rf.ChannelOk q r := by
    refine Triple.modify stable_offTuned stable_channelOk ?_
    rintro s ⟨⟨⟨h, harm⟩, _⟩, he⟩
    exact ⟨⟨fun _ _ => he, h.held, h.answers⟩, harm⟩
  refine hshut.bind fun _ => hcommit.bind fun _ => Triple.bind (Kept.read stable_off _) fun aa => ?_
  exact (tunes_configure aa).bind fun _ => hlisten

/-- The receiver starts again on the channel it was on. -/
theorem tunes_onRxRestart : Tunes ok q r onRxRestart := by
  have hread : Triple (RfHearsSo ok r) (Rf.ChannelOk q r) (.read fun s => s.radio.channel)
      fun c s => s.Leads q r c ∧ s.Guarded c :=
    Triple.read stable_channelOk (stable_leads hok) fun s h => ⟨⟨h.1, fun _ _ _ => rfl, h.2⟩, .inr (.inr rfl)⟩
  refine (Kept.read stable_channelOk _).bind fun live => Kept.ite (fun _ => ?_) fun _ => Kept.pure stable_channelOk ()
  exact hread.bind fun c => (tunes_rfStartRx hok c).bind fun _ => tunes_of (by simp)

/-! ## The hop -/

/-- The channel of the index stays that, and guarded. -/
theorem stable_leads_hop : Stable (RfHearsSo ok r) fun s => s.Leads q r s.hop.channel ∧ s.Guarded s.hop.channel := by
  intro s t hi h
  obtain ⟨_, hidx, _⟩ := channel_hears hi.1
  rw [hidx]
  exact stable_leads hok s.hop.channel s t hi h

/-- The index is read: its channel is the one to start the receiver on. -/
theorem tunes_readHop : Triple (RfHearsSo ok r) (fun s => s.Leads q r s.hop.channel ∧ s.Guarded s.hop.channel)
    (.read fun s => s.hop.prevDataIdx) fun i s => s.Leads q r (dataChannels.getD i 0) ∧ s.Guarded (dataChannels.getD i 0) :=
  Triple.read (stable_leads_hop hok) (fun _ => stable_leads hok _) fun _ h => h

omit hok

/-- A hop that does not move leaves its channel. -/
theorem RfHop.advance_channel (h : RfHop) (now interval : Nat) :
    (h.advance now interval).2 = false → (h.advance now interval).1.channel = h.channel := by
  simp only [RfHop.advance]
  repeat' split
  all_goals first | exact fun _ => rfl | nofun

/-- Between the first look at `response_pending` and the masked section: a response that is pending was caught where the hop goes. -/
structure Rf.Looked (q r : Prop) (interval : Nat) (s : Rf) : Prop extends s.TunedOk q where
  armed : s.ArmedOk r
  stretch : s.log.stretch = .looked
  interval : s.hop.interval = interval
  pending : r → s.resp.responsePending = true → s.NoHopDue

/-- Between the masked section and the second look. -/
structure Rf.HopMade (q r : Prop) (s : Rf) : Prop extends s.TunedOk q where
  stretch : s.log.stretch = .hopped
  pending : r → s.resp.responsePending = true → s.NoHopDue

/-- What the first look saw holds until the masked section, whatever is caught. -/
theorem stable_looked (interval : Nat) : Stable (RfHearsSo ok r) (Rf.Looked q r interval) := by
  intro s t hi h
  obtain ⟨_, _, _, _, _, hinterval, hstretch, _⟩ := channel_hears hi.1
  exact ⟨h.toTunedOk.hears hi.1, h.armed.hears hi.1, hstretch.trans h.stretch, hinterval.trans h.interval, hi.2⟩

/-- What the masked section did holds until the second look. -/
theorem stable_hopMade : Stable (RfHearsSo ok r) (Rf.HopMade q r) := by
  intro s t hi h
  obtain ⟨_, _, _, _, _, _, hstretch, _⟩ := channel_hears hi.1
  exact ⟨h.toTunedOk.hears hi.1, hstretch.trans h.stretch, hi.2⟩

/-- The interval does not change while the tick goes on. -/
def Rf.Ticks (q r : Prop) (interval : Nat) (s : Rf) : Prop := s.ChannelOk q r ∧ s.hop.interval = interval

/-- No interrupt changes the interval. -/
theorem stable_ticks (interval : Nat) : Stable (RfHearsSo ok r) (Rf.Ticks q r interval) := by
  rintro s t hi ⟨h, hinterval⟩
  obtain ⟨_, _, _, _, _, hsame, _⟩ := channel_hears hi.1
  exact ⟨stable_channelOk s t hi h, hsame.trans hinterval⟩

/-- The first look: no response is pending, or the tick may wait for it. -/
theorem tunes_rfPending (interval : Nat) : Triple (RfHearsSo ok r) (Rf.Ticks q r interval) rfPending
    fun pending s => if pending then s.Ticks q r interval else s.Looked q r interval := by
  refine Triple.stmt (stable_ticks interval) fun s h => Triple.pure ?_ fun t ht => ?_
  · cases s.resp.responsePending
    · exact stable_looked interval
    · exact stable_ticks interval
  · subst ht
    obtain ⟨⟨htuned, harm⟩, hinterval⟩ := h
    cases hp : s.resp.responsePending
    · exact ⟨⟨htuned.tuned, htuned.held, htuned.answers⟩, harm, rfl, hinterval, fun _ hp' => nomatch hp.symm.trans hp'⟩
    · exact ⟨⟨⟨htuned.tuned, htuned.held, htuned.answers⟩, harm⟩, hinterval⟩

/-- The response is released: none is pending. -/
theorem tunes_rfReleaseResponse (interval : Nat) :
    Triple (RfHearsSo ok r) (Rf.Ticks q r interval) rfReleaseResponse fun _ => Rf.Looked q r interval := by
  refine Triple.modify (stable_ticks interval) (stable_looked interval) ?_
  rintro s ⟨⟨htuned, harm⟩, hinterval⟩
  exact ⟨⟨htuned.tuned, nofun, htuned.answers⟩, harm, rfl, hinterval, nofun⟩

/-- The masked section: the hop goes, or the radio stays where it is. -/
theorem tunes_rfAdvance (interval : Nat) : Triple (RfHearsSo ok r) (Rf.Looked q r interval) (rfAdvance interval)
    fun advanced s => if advanced then s.HopMade q r else s.ChannelOk q r := by
  refine Triple.stmt (stable_looked interval) fun s h => Triple.pure ?_ fun t ht => ?_
  · cases (s.hop.advance s.hw.rtc interval).2
    · exact stable_channelOk
    · exact stable_hopMade
  · subst ht
    have htuned : (s.TunedOk q) := h.toTunedOk
    cases hadv : (s.hop.advance s.hw.rtc interval).2
    · refine ⟨⟨htuned.tuned, htuned.held, htuned.answers⟩, fun hr hs => ?_⟩
      exact (h.armed hr hs).trans (s.hop.advance_channel _ _ hadv).symm
    · refine ⟨⟨htuned.tuned, htuned.held, htuned.answers⟩, rfl, fun hr hp => ⟨nofun, fun _ => ?_⟩⟩
      have hdue := (h.pending hr hp).1 h.stretch
      rwa [h.interval] at hdue

include hok

/-- The second look: a poll that came in between was caught where the hop goes. -/
theorem tunes_rfPendingAgain : Triple (RfHearsSo ok r) (Rf.HopMade q r) rfPendingAgain
    fun pending s => if pending then s.ChannelOk q r else s.Leads q r s.hop.channel ∧ s.Guarded s.hop.channel := by
  refine Triple.stmt stable_hopMade fun s h => Triple.pure ?_ fun t ht => ?_
  · cases s.resp.responsePending
    · exact stable_leads_hop hok
    · exact stable_channelOk
  · subst ht
    have htuned : (s.TunedOk q) := h.toTunedOk
    cases hp : s.resp.responsePending
    · exact ⟨⟨⟨htuned.tuned, htuned.held, htuned.answers⟩, fun _ _ hp' => (nomatch hp.symm.trans hp'), fun _ _ => rfl⟩,
        .inr (.inl rfl)⟩
    · exact ⟨⟨htuned.tuned, htuned.held, htuned.answers⟩, fun hr _ => ((h.pending hr hp).2 h.stretch).symm⟩

/-- The hop, and the receiver on its channel. -/
theorem tunes_rfHopTick (interval : Nat) :
    Triple (RfHearsSo ok r) (Rf.Looked q r interval) (rfHopTick interval) fun _ => Rf.ChannelOk q r := by
  refine (tunes_rfAdvance interval).bind fun advanced => ?_
  cases advanced with
  | false => exact Kept.pure stable_channelOk ()
  | true =>
    refine (tunes_rfPendingAgain hok).bind fun pending => ?_
    cases pending with
    | false => exact (tunes_readHop hok).bind fun i => tunes_rfStartRx hok _
    | true => exact Kept.pure stable_channelOk ()

/-- The hop, unless a response is waited for. -/
theorem tunes_rfHopOrWait : Tunes ok q r rfHopOrWait := by
  have hinterval : Triple (RfHearsSo ok r) (Rf.ChannelOk q r) (.read fun s => s.hop.interval) fun interval => Rf.Ticks q r interval :=
    Triple.read stable_channelOk stable_ticks fun _ h => ⟨h, rfl⟩
  refine hinterval.bind fun interval => (tunes_rfPending interval).bind fun pending => ?_
  cases pending with
  | false => exact tunes_rfHopTick hok interval
  | true =>
    refine Triple.bind (Kept.read (stable_ticks interval) _) fun waits => Triple.ite (fun _ => ?_) fun _ => ?_
    · exact (tunes_rfReleaseResponse interval).bind fun _ => tunes_rfHopTick hok interval
    · exact Triple.pure stable_channelOk fun s hs => hs.1

/-- `RF_ConnectedTick`. -/
theorem tunes_rfConnectedTick : Tunes ok q r rfConnectedTick := by
  refine (Kept.read stable_channelOk _).bind fun state => Kept.ite (fun _ => ?_) fun _ => Kept.pure stable_channelOk ()
  refine (Kept.read stable_channelOk _).bind fun quiet => Kept.ite (fun _ => ?_) fun _ => ?_
  · exact tunes_of (by simp)
  · exact Kept.bind (tunes_of (by simp)) fun _ => tunes_rfHopOrWait hok

omit hok

/-! ## Pairing -/

/-- The link is in a state. -/
def Rf.OkIn (q r : Prop) (st : RfState) (s : Rf) : Prop := s.ChannelOk q r ∧ s.state = st

/-- The radio is off, and the link is pairing. -/
def Rf.OffPairing (q r : Prop) (s : Rf) : Prop := s.Off q r ∧ s.state = .pairing

attribute [local simp] Rf.OkIn Rf.OffPairing

/-- No interrupt moves the link. -/
theorem stable_okIn (st : RfState) : Stable (RfHearsSo ok r) (Rf.OkIn q r st) := by
  rintro s t hi ⟨h, hs⟩
  exact ⟨stable_channelOk s t hi h, (channel_hears hi.1).1.trans hs⟩

/-- Nor does one start the receiver. -/
theorem stable_offPairing : Stable (RfHearsSo ok r) (Rf.OffPairing q r) := by
  rintro s t hi ⟨h, hs⟩
  exact ⟨stable_off s t hi h, (channel_hears hi.1).1.trans hs⟩

/-- A handler that runs in one state of the link. -/
theorem tunes_inState {st : RfState} {p : RfM Unit} (hp : Triple (RfHearsSo ok r) (Rf.OkIn q r st) p fun _ => Rf.ChannelOk q r) :
    Tunes ok q r (do
      let state ← .read fun s => s.state
      whenever (state = st) p) :=
  kept_inState stable_channelOk (fun _ _ hi => (channel_hears hi.1).1) hp

/-- The channel of a beacon is set while the radio may still listen on the last one, where it catches no poll. -/
def Rf.Beaconing (q : Prop) (s : Rf) : Prop := s.state = .pairing ∧ (q → ∀ a ∈ s.log.answers, a.OnChannel)

/-- No poll is caught while pairing. -/
theorem stable_beaconing : Stable (RfHearsSo ok r) (Rf.Beaconing q) := by
  rintro s t hi ⟨hs, hansw⟩
  obtain ⟨hst, _, _, _, _, _, _, ha, _⟩ := channel_hears hi.1
  exact ⟨hst.trans hs, ha ▸ hansw⟩

/-- A beacon goes out on its own channel, with the receiver off. -/
theorem tunes_rfPairBroadcast : Triple (RfHearsSo ok r) (Rf.OkIn q r .pairing) rfPairBroadcast fun _ => Rf.ChannelOk q r := by
  have hmove : Triple (RfHearsSo ok r) (Rf.OkIn q r .pairing)
      (.modify fun s => { s with radio := { s.radio with channel := pairChannel s.pair.bcastCount } }) fun _ => Rf.Beaconing q :=
    Triple.modify (stable_okIn _) stable_beaconing fun s hs => ⟨hs.2, hs.1.1.answers⟩
  have hshut : Triple (RfHearsSo ok r) (Rf.Beaconing q) rfShut fun _ => Rf.Off q r := by
    refine Triple.modify stable_beaconing stable_off ?_
    rintro s ⟨hs, hansw⟩
    have hne : s.state ≠ .connected := hs ▸ nofun
    exact ⟨⟨⟨nofun, fun _ hc => absurd hc hne, hansw⟩, fun _ hc => absurd hc hne⟩, rfl⟩
  have hbeacon : Triple (RfHearsSo ok r) (Rf.OkIn q r .pairing) sendBeacon fun _ => Rf.ChannelOk q r := by
    refine hmove.bind fun _ => Triple.bind (Kept.read stable_beaconing _) fun payload => hshut.bind fun _ => ?_
    refine Triple.bind (Kept.read stable_off _) fun aa => (tunes_configure aa).bind fun _ => ?_
    exact (tunes_of (by simp)).conseq (fun s hs => hs.1.1) fun _ _ hs => hs
  refine Triple.bind (Kept.read (stable_okIn _) _) fun valid => Triple.ite (fun _ => ?_) fun _ => ?_
  · exact (tunes_of (by simp)).conseq (fun s hs => hs.1) fun _ _ hs => hs
  · exact hbeacon.bind fun _ => tunes_of (by simp)

/-- The link enters PAIRING with the radio off, and whatever is done then leaves it on its channel. -/
theorem tunes_setPairing {α : Type} {p : RfM α} (hp : Each (Keeps (Rf.OffPairing q r)) p) :
    Triple (RfHearsSo ok r) (Rf.Off q r) (do
      setPairing
      p) fun _ => Rf.ChannelOk q r := by
  have hset : Triple (RfHearsSo ok r) (Rf.Off q r) setPairing fun _ => Rf.OffPairing q r := by
    refine Triple.modify stable_off stable_offPairing ?_
    rintro s ⟨⟨h, _⟩, hr⟩
    exact ⟨⟨⟨⟨fun _ hr' => (nomatch hr.symm.trans hr'), nofun, h.answers⟩, nofun⟩, hr⟩, rfl⟩
  exact hset.bind fun _ => (Each.triple hp stable_offPairing).conseq (fun _ hs => hs) fun _ _ hs => hs.1.1

/-- The radio is shut before an entry into PAIRING, and old catches are swept. -/
theorem tunes_sweep {α : Type} {p : RfM α} (hp : Triple (RfHearsSo ok r) (Rf.Off q r) p fun _ => Rf.ChannelOk q r) : Tunes ok q r (do
    rfShut
    rfStopTaskAtomic .enterConnected
    p) := by
  have hshut : Triple (RfHearsSo ok r) (Rf.ChannelOk q r) rfShut fun _ => Rf.Off q r :=
    Triple.modify stable_channelOk stable_off fun s h => ⟨⟨⟨nofun, h.1.held, h.1.answers⟩, h.2⟩, rfl⟩
  have hstop : Kept (RfHearsSo ok r) (Rf.Off q r) (rfStopTaskAtomic .enterConnected) := Each.triple (by simp +contextual) stable_off
  exact hshut.bind fun _ => Triple.bind hstop fun _ => hp

/-- A search starts with the receiver off. -/
theorem tunes_enterBondedSearch : Triple (RfHearsSo ok r) (Rf.Off q r) enterBondedSearch fun _ => Rf.ChannelOk q r :=
  tunes_setPairing (by simp +contextual)

/-- So does a probe. -/
theorem tunes_restProbeStart : Tunes ok q r restProbeStart := by
  refine (Kept.read stable_channelOk _).bind fun able => Kept.ite (fun _ => tunes_of (by simp)) fun _ => ?_
  iterate 4 refine Kept.bind (tunes_of (by simp)) fun _ => ?_
  exact tunes_sweep (tunes_enterBondedSearch.bind fun _ => tunes_of (by simp))

/-- So does the search for the host's selection. -/
theorem tunes_searchBonded : Tunes ok q r searchBonded := by
  refine Kept.bind (tunes_of (by simp)) fun _ => (Kept.read stable_channelOk _).bind fun hasBond => ?_
  refine Kept.bind (Kept.ite (fun _ => ?_) fun _ => Kept.pure stable_channelOk ()) fun _ => Kept.read stable_channelOk _
  exact Kept.bind (tunes_of (by simp)) fun _ => tunes_sweep tunes_enterBondedSearch

/-- The host selects 2.4 GHz. -/
theorem tunes_rfSelect2G4 : Tunes ok q r rfSelect2G4 := by
  refine Kept.bind (tunes_of (by simp)) fun _ => (Kept.read stable_channelOk _).bind fun valid => ?_
  refine Kept.ite (fun _ => Kept.pure stable_channelOk false) fun _ => (Kept.read stable_channelOk _).bind fun state => ?_
  exact Kept.ite (fun _ => tunes_of (by simp)) fun _ => tunes_searchBonded

/-- The host pairs. -/
theorem tunes_rfEnterPairing : Tunes ok q r rfEnterPairing := by
  refine (Kept.read stable_channelOk _).bind fun ignored => Kept.ite (fun _ => Kept.pure stable_channelOk false) fun _ => ?_
  iterate 2 refine Kept.bind (tunes_of (by simp)) fun _ => ?_
  exact tunes_sweep (tunes_setPairing (by simp +contextual))

/-! ## Sessions -/

/-- The link is pairing, and no response is pending. -/
def Rf.NoneHeld (q r : Prop) (s : Rf) : Prop := s.OkIn q r .pairing ∧ s.resp.responsePending = false

/-- While pairing no interrupt makes a response pending. -/
theorem stable_noneHeld : Stable (RfHearsSo ok r) (Rf.NoneHeld q r) := by
  rintro s t hi ⟨h, hp⟩
  refine ⟨stable_okIn _ s t hi h, Bool.eq_false_iff.mpr fun hp' => ?_⟩
  obtain ⟨_, _, _, _, _, _, _, _, ⟨hpend, _⟩ | ⟨_, ⟨buf, _, hpoll⟩, _⟩⟩ := channel_hears hi.1
  · exact nomatch hp.symm.trans (hpend hp')
  · exact nomatch h.2.symm.trans hpoll.1

/-- A session starts, and its index says where the receiver is to go. -/
theorem tunes_startSession (hok : q → ∀ s buf, ok s buf → Hearing.inPlace s buf) (silentProbe : Bool) :
    Triple (RfHearsSo ok r) (Rf.OkIn q r .pairing) (startSession silentProbe)
      fun _ s => s.Leads q r s.hop.channel ∧ s.Guarded s.hop.channel := by
  have hclear : Triple (RfHearsSo ok r) (Rf.OkIn q r .pairing) clearResponsePending fun _ => Rf.NoneHeld q r := by
    refine Triple.modify (stable_okIn _) stable_noneHeld ?_
    rintro s ⟨⟨h, harm⟩, hs⟩
    exact ⟨⟨⟨⟨h.tuned, nofun, h.answers⟩, harm⟩, hs⟩, rfl⟩
  have hconnect : Triple (RfHearsSo ok r) (Rf.NoneHeld q r) (setConnected silentProbe)
      fun _ s => s.Leads q r s.hop.channel ∧ s.Guarded s.hop.channel := by
    refine Triple.modify stable_noneHeld (stable_leads_hop hok) ?_
    rintro s ⟨⟨⟨h, _⟩, hs⟩, hp⟩
    refine ⟨⟨⟨fun _ => h.tuned (.inr hs), fun _ _ hp' => (nomatch hp.symm.trans hp'), h.answers⟩, ?_, fun _ _ => rfl⟩,
      .inr (.inl rfl)⟩
    exact fun _ _ hp' => nomatch hp.symm.trans hp'
  have hkeep : ∀ {p : RfM Unit}, Each (Keeps (Rf.OkIn q r .pairing)) p → Kept (RfHearsSo ok r) (Rf.OkIn q r .pairing) p :=
    fun h => Each.triple h (stable_okIn _)
  have hnone : ∀ {p : RfM Unit}, Each (Keeps (Rf.NoneHeld q r)) p → Kept (RfHearsSo ok r) (Rf.NoneHeld q r) p :=
    fun h => Each.triple h stable_noneHeld
  unfold startSession
  iterate 12 refine Triple.bind (hkeep (by simp +contextual)) fun _ => ?_
  refine hclear.bind fun _ => ?_
  iterate 2 refine Triple.bind (hnone (by simp [Rf.NoneHeld])) fun _ => ?_
  exact hconnect

/-- The receiver starts on it, as long as no poll is caught just before. -/
theorem tunes_rfEnterConnected (hok : q → ∀ s buf, ok s buf → Hearing.inPlace s buf) : Tunes ok q r rfEnterConnected := by
  have hstop : Kept (RfHearsSo ok r) (fun s => s.Leads q r s.hop.channel ∧ s.Guarded s.hop.channel) rfTmr0Stop :=
    Each.triple (by simp +contextual [Rf.Leads, Rf.Guarded]) (stable_leads_hop hok)
  refine tunes_inState (Triple.bind (Kept.read (stable_okIn _) _) fun silentProbe => ?_)
  refine (tunes_startSession hok silentProbe).bind fun _ => Triple.bind hstop fun _ => (tunes_readHop hok).bind fun i => ?_
  exact (tunes_rfStartRx hok _).bind fun _ => tunes_of (by simp)

/-! ## Responses -/

/-- The radio is where the poll that is answered was caught. -/
def Rf.Answering (q r : Prop) (s : Rf) : Prop :=
  s.ChannelOk q r ∧ (q → s.radio.tuned = s.radio.channel ∧ s.resp.responseChannel = s.radio.channel ∧
    s.log.caughtOn = s.radio.channel)

attribute [local simp] Rf.Answering

/-- The response that goes out stays the one that was chosen. -/
theorem stable_answering : Stable (RfHearsSo ok r) (Rf.Answering q r) := by
  rintro s t hi ⟨h, ha⟩
  obtain ⟨_, _, _, htun, hch, _, _, _, hresp⟩ := channel_hears hi.1
  refine ⟨stable_channelOk s t hi h, fun hq => ?_⟩
  obtain ⟨ha, hrc, hco⟩ := ha hq
  rw [htun, hch]
  rcases hresp with ⟨_, hrc', hco'⟩ | ⟨_, _, hrc', hco'⟩
  · exact ⟨ha, hrc'.trans hrc, hco'.trans hco⟩
  · exact ⟨ha, hrc', hco'.trans ha⟩

/-- It goes out on the channel the radio is tuned to. -/
theorem tunes_rfTxResponse (ctrl : Byte) (head : Option Report) :
    Triple (RfHearsSo ok r) (Rf.Answering q r) (rfTxResponse ctrl head) fun _ => Rf.ChannelOk q r := by
  refine Triple.stmt stable_answering fun s h => Triple.pure stable_channelOk ?_
  rintro _ rfl
  obtain ⟨⟨h, harm⟩, ha⟩ := h
  refine ⟨⟨nofun, h.held, fun hq x hx => ?_⟩, harm⟩
  dsimp only at hx
  split at hx
  · rcases List.mem_append.mp hx with hx | hx
    · exact h.answers hq x hx
    · rw [List.mem_singleton.mp hx]
      obtain ⟨ha, hrc, hco⟩ := ha hq
      exact ⟨ha.trans hrc.symm, hrc.trans hco.symm⟩
  · exact h.answers hq x hx

/-- That is the channel its poll was caught on. -/
theorem tunes_rfDoResponseTx : Triple (RfHearsSo ok r) (Rf.OkIn q r .connected) rfDoResponseTx fun _ => Rf.ChannelOk q r := by
  have hpending : Triple (RfHearsSo ok r) (Rf.OkIn q r .connected) (.read fun s => s.resp.responsePending)
      fun pending s => if pending then s.Answering q r else s.ChannelOk q r := by
    refine Triple.read (stable_okIn _) (fun pending => ?_) fun s hs => ?_
    · cases pending
      · exact stable_channelOk
      · exact stable_answering
    · cases hp : s.resp.responsePending
      · exact hs.1
      · exact ⟨hs.1, fun hq => hs.1.1.held hq hs.2 hp⟩
  have hkeep : ∀ {α : Type} {p : RfM α}, Each (Keeps (Rf.Answering q r)) p → Kept (RfHearsSo ok r) (Rf.Answering q r) p :=
    fun h => Each.triple h stable_answering
  refine hpending.bind fun pending => ?_
  cases pending with
  | false => exact Kept.pure stable_channelOk ()
  | true =>
    refine Triple.bind (hkeep (by simp)) fun _ => Triple.bind (hkeep (by simp)) fun ctrl => ?_
    refine Triple.bind (hkeep (by simp +contextual)) fun head => Triple.bind (hkeep (by simp +contextual)) fun _ => ?_
    exact (tunes_rfTxResponse ctrl head).bind fun status => tunes_of (by simp)

/-! ## Every run -/

/-- The RF task starts with the receiver off. -/
theorem tunes_onStart : Tunes ok q r onStart := by
  have hidle : Triple (RfHearsSo ok r) (Rf.ChannelOk q r) (setState .idle) fun _ => Rf.OkIn q r .idle := by
    refine Triple.modify stable_channelOk (stable_okIn _) fun s h => ?_
    exact ⟨⟨⟨by simp, nofun, h.1.answers⟩, nofun⟩, rfl⟩
  exact hidle.bind fun _ => (Each.triple (by simp +contextual) (stable_okIn _)).conseq (fun _ hs => hs) fun _ _ hs => hs.1

variable (hok : q → ∀ s buf, ok s buf → Hearing.inPlace s buf)
include hok

/-- Every handler keeps the receiver on its channel. -/
theorem tunes_rfProcessEvent (e : RfEvt) : Tunes ok q r (rfProcessEvent e) := by
  cases e with
  | start => exact tunes_onStart
  | rxRestart => exact tunes_onRxRestart hok
  | pairBcast => exact tunes_inState tunes_rfPairBroadcast
  | enterConnected => exact tunes_rfEnterConnected hok
  | respond => exact tunes_inState tunes_rfDoResponseTx
  | restProbe =>
    refine (Kept.read stable_channelOk _).bind fun due => Kept.ite (fun _ => ?_) fun _ => Kept.pure stable_channelOk ()
    exact Kept.bind (tunes_of (by simp)) fun _ => tunes_restProbeStart
  | _ => exact tunes_of (by simp [rfProcessEvent])

/-- So does every call. -/
theorem partsKeep_channelOk : PartsKeep (RfHearsSo ok r) (Rf.ChannelOk q r) where
  stable := stable_channelOk
  out o := by simp
  transport is2g4 := tunes_of (by simp)
  ledResync := tunes_of (by simp)
  drop := tunes_of (by simp)
  select := tunes_rfSelect2G4
  pair := tunes_rfEnterPairing
  disconnect := tunes_of (by simp)
  unpair := tunes_of (by simp [unpair])
  flush := tunes_of (by simp)
  report r := by
    refine Kept.bind (tunes_of (by simp)) fun _ => (Kept.read stable_channelOk _).bind fun state => ?_
    refine Kept.ite (fun _ => ?_) fun _ => tunes_of (by simp)
    iterate 3 refine Kept.bind (tunes_of (by simp)) fun _ => ?_
    exact tunes_restProbeStart
  process := kept_tmosProcess stable_channelOk (by simp) (tunes_rfProcessEvent hok)
  tick := tunes_rfConnectedTick hok

omit hok in
/-- The link does not boot into a session. -/
theorem channelOk_boot (h : RfBooted s) : s.ChannelOk q r := by
  obtain ⟨mac, macValid, flash, hw, rfl⟩ := h
  refine ⟨⟨nofun, nofun, nofun⟩, fun _ hs => ?_⟩
  simp only [rfTaskInit] at hs
  split at hs <;> cases hs

/-- So it is in every state between two calls. -/
theorem channelOk_heard (h : RfHeardSo ok r s) : s.ChannelOk q r := (partsKeep_channelOk hok).reach (fun _ => channelOk_boot) h

omit hok in
/-- Where any hop may be due, nothing more is asked of the interrupts. -/
theorem heardSo_heard (h : RfHeard ok s) : RfHeardSo ok False s := h.mono fun _ _ _ hr => hr.mono fun _ _ hi => ⟨hi, nofun⟩

omit hok in
/-- A run in which no poll is caught between the looks while a hop is due. -/
theorem heardSo_inStep (h : RfInStep s) : RfHeardSo .any True s := h.mono fun _ _ _ hr => hr.mono fun _ _ hi => ⟨hi.1, fun _ => hi.2⟩

end OpenController
