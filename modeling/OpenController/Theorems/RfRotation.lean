import OpenController.Lemmas.RfRotationRun

/-!
# The rotation of the pairing channels is lost after 264 beacons

The counter is a byte, and three dwells do not divide 256. The first beacon after it wraps starts a dwell anew, so the beacons that
follow are on the channels of beacons before them.
-/

namespace OpenController

variable {s : Rf} {bs : List Beacon}

/-! ## The beacons of a search -/

/-- The beacon `n` went out on the channel of the byte. -/
def Beacon.Fits (n : Nat) (b : Beacon) : Prop := b.tuned = pairChannel (n % 256) ∧ SentOn b.tuned [] b.sent

/-- The byte counts the beacons. -/
theorem search_spec (h : Search bs s) : s.pair.bcastCount = bs.length % 256 ∧
    ∀ (n : Nat) (b : Beacon), bs[n]? = some b → b.Fits n := by
  induction h with
  | boot hboot _ =>
    obtain ⟨mac, macValid, flash, hw, rfl⟩ := hboot
    refine ⟨?_, fun n b hb => by simp at hb⟩
    simp only [rfTaskInit]
    split <;> rfl
  | @start s t act _ hdoes hentry =>
    refine ⟨?_, fun n b hb => by simp at hb⟩
    by_cases hs : s.SendsBeacon act
    · obtain ⟨air', _, ht⟩ := beacon_does hs hdoes rfl
      simp only [Rf.beacon, Prod.mk.injEq] at ht
      omega
    · rcases counts_does hs hdoes (.inl ⟨rfl, rfl⟩) with ⟨he, _⟩ | ⟨_, hc⟩
      · omega
      · exact hc
  | @beacon bs s t act _ hs hdoes ih =>
    obtain ⟨hcount, hfits⟩ := ih
    obtain ⟨air', hsent, ht⟩ := beacon_does hs hdoes rfl
    simp only [Rf.beacon, Prod.mk.injEq] at ht
    obtain ⟨_, hc, _, htuned, hair⟩ := ht
    refine ⟨?_, fun n b hb => ?_⟩
    · rw [hc, hcount, u8, List.length_append, List.length_singleton]
      omega
    · rcases Nat.lt_or_ge n bs.length with hlt | hge
      · rw [List.getElem?_append_left hlt] at hb
        exact hfits n b hb
      · rw [List.getElem?_append_right hge] at hb
        obtain ⟨hn, rfl⟩ : n = bs.length ∧ b = ⟨t.radio.tuned, t.radio.onAir.drop s.radio.onAir.length⟩ := by
          rcases hk : n - bs.length with _ | k
          · rw [hk] at hb
            exact ⟨by omega, (Option.some.inj hb).symm⟩
          · rw [hk] at hb
            simp at hb
        refine ⟨?_, ?_⟩
        · rw [htuned, hcount, hn]
        · rw [htuned, hair]
          rcases hsent with rfl | ⟨payload, rfl⟩
          · exact .inl (by simp)
          · exact .inr ⟨payload, by simp⟩
  | @other bs s t act _ hs hdoes hsame ih =>
    refine ⟨?_, ih.2⟩
    rcases counts_does hs hdoes (.inl ⟨rfl, rfl⟩) with ⟨_, hc⟩ | ⟨he, _⟩
    · exact hc.trans ih.1
    · omega

/-! ## The channels -/

/-- The three channels are different. -/
theorem pairChannels_inj {i j : Nat} (hi : i < 3) (hj : j < 3) : pairChannels.getD i 0 = pairChannels.getD j 0 ↔ i = j := by
  have hall : ∀ i < 3, ∀ j < 3, pairChannels.getD i 0 = pairChannels.getD j 0 ↔ i = j := by decide
  exact hall i hi j hj

/-- Nine wraps of the byte are as many circles of the three dwells. -/
theorem inStep_iff (n : Nat) : n % 256 / 12 % 3 = n / 12 % 3 ↔ InStep n := by
  obtain ⟨q, p, r, hp, hr, rfl⟩ : ∃ q p r, p < 9 ∧ r < 256 ∧ n = 2304 * q + 256 * p + r :=
    ⟨n / 2304, n % 2304 / 256, n % 256, by omega, by omega, by omega⟩
  have hbyte : (2304 * q + 256 * p + r) % 256 = r := by omega
  have hslip : rotationSlip (2304 * q + 256 * p + r) = 4 * p := by
    rw [rotationSlip]
    omega
  have hdwell : (2304 * q + 256 * p + r) / 12 % 3 = (256 * p + r) / 12 % 3 := by omega
  rw [InStep, hbyte, hslip, hdwell]
  have hcases : p = 0 ∨ p = 1 ∨ p = 2 ∨ p = 3 ∨ p = 4 ∨ p = 5 ∨ p = 6 ∨ p = 7 ∨ p = 8 := by omega
  rcases hcases with rfl | rfl | rfl | rfl | rfl | rfl | rfl | rfl | rfl <;> omega

theorem pairChannel_eq_iff (n : Nat) : pairChannel (n % 256) = rotationChannel n ↔ InStep n := by
  have hbyte : u8 (n % 256 / rfPairDwellBcasts) = n % 256 / 12 := by
    rw [u8, rfPairDwellBcasts]
    omega
  rw [pairChannel, rotationChannel, numPairChannels, hbyte,
    pairChannels_inj (Nat.mod_lt _ (by decide)) (Nat.mod_lt _ (by decide))]
  exact inStep_iff n

theorem inStep_of_lt {n : Nat} (h : n < 264) : InStep n := by
  rw [InStep, rotationSlip]
  rcases Nat.lt_or_ge n 256 with hlt | hge
  · have hwraps : n / 256 = 0 := by omega
    rw [hwraps]
    omega
  · have hwraps : n / 256 = 1 := by omega
    rw [hwraps]
    omega

theorem not_inStep_264 : ¬InStep 264 := by
  rw [InStep, rotationSlip]
  decide

/-- The rotation over searches of any length, however interrupts run into the calls of the main loop. The beacon `n` is on its channel
exactly if the byte is in step there; and the whole search rotates as it should exactly if it has sent 264 beacons at most. -/
theorem search_rotates (h : Search bs s) :
    (∀ (n : Nat) (b : Beacon), bs[n]? = some b → (∀ f ∈ b.sent, f.channel = b.tuned) ∧ (b.tuned = rotationChannel n ↔ InStep n)) ∧
      (Rotates bs ↔ bs.length ≤ 264) := by
  have hstep : ∀ (n : Nat) (b : Beacon), bs[n]? = some b → (b.tuned = rotationChannel n ↔ InStep n) := fun n b hb => by
    rw [((search_spec h).2 n b hb).1]
    exact pairChannel_eq_iff n
  refine ⟨fun n b hb => ⟨fun f hf => ?_, hstep n b hb⟩, fun hrot => ?_, fun hlen n b hb => ?_⟩
  · rcases ((search_spec h).2 n b hb).2 with hnone | ⟨payload, hsent⟩
    · rw [hnone] at hf
      exact absurd hf (List.not_mem_nil)
    · rw [hsent, List.nil_append, List.mem_singleton] at hf
      rw [hf]
  · by_contra hlong
    have hb : bs[264]? = some bs[264] := List.getElem?_eq_getElem (by omega)
    exact not_inStep_264 ((hstep 264 _ hb).mp (hrot 264 _ hb))
  · obtain ⟨hn, _⟩ := List.getElem?_eq_some_iff.mp hb
    exact (hstep n b hb).mpr (inStep_of_lt (by omega))

/-! ## A search without end -/

/-- A keyboard that is bonded. -/
def bondedKeyboard : Rf :=
  rfTaskInit (Vector.replicate 6 1) true
    (rfSaveBondToFlash ⟨0, 0, 0⟩ ⟨true, Vector.replicate 6 2, 0x12345678, 3⟩ fun _ => 0xFF) ⟨0, 0, 0, ⟨0, 0, 0⟩⟩

/-- The search goes on, and nothing comes before its beacons. -/
def Rf.GoesOnSearching (s : Rf) : Prop :=
  s.state = .pairing ∧ s.keyboardMacValid = true ∧ s.tmos.waits .start = false ∧ s.tmos.waits .rxRestart = false

instance (s : Rf) : Decidable s.GoesOnSearching := inferInstanceAs (Decidable (_ ∧ _))

theorem next_pairBcast {m : Tmos} (hstart : m.waits .start = false) (hrx : m.waits .rxRestart = false)
    (hb : m.waits .pairBcast = true) : m.next = some .pairBcast := by
  unfold Tmos.waits at hstart hrx hb
  simp [Tmos.next, RfEvt.order, hstart, hrx, hb]

/-- Nothing happens between two statements. -/
theorem stable_never (P : Rf → Prop) : Prog.Stable (fun _ _ => False) P := fun _ _ h => h.elim

open Prog RfStatements in
theorem searching_rfPairBroadcast : Triple (fun _ _ => False) Rf.GoesOnSearching rfPairBroadcast fun _ s =>
    s.GoesOnSearching ∧ s.tmos.armed .pairBcast = true := by
  have hvalid : Triple (fun _ _ => False) Rf.GoesOnSearching (.read fun s => s.keyboardMacValid) fun valid s => valid = true ∧ s.GoesOnSearching :=
    Triple.read (stable_never _) (fun _ => stable_never _) fun s hs => ⟨hs.2.1, hs⟩
  have hsame : Each (fun f => ∀ s : Rf, (f s).state = s.state ∧ (f s).keyboardMacValid = s.keyboardMacValid ∧ (f s).tmos = s.tmos)
      sendBeacon := by simp
  have hsend : Kept (fun _ _ => False) Rf.GoesOnSearching sendBeacon := by
    refine Each.triple (hsame.mono fun f hf s hs => ?_) (stable_never _)
    rw [Rf.GoesOnSearching, (hf s).1, (hf s).2.1, (hf s).2.2]
    exact hs
  have harm : Triple (fun _ _ => False) Rf.GoesOnSearching (rfStartTaskAtomic .pairBcast rfPairBcastTicks) fun _ s =>
      s.GoesOnSearching ∧ s.tmos.armed .pairBcast = true :=
    Triple.modify (stable_never _) (stable_never _) fun s hs => ⟨hs, by simp⟩
  have hwindow : Kept (fun _ _ => False) (fun s => s.GoesOnSearching ∧ s.tmos.armed .pairBcast = true) (do
      rfStopTaskAtomic .pairRxOff
      setRxWindow true) := Each.triple (by simp +contextual [Rf.GoesOnSearching]) (stable_never _)
  refine hvalid.bind fun valid => Triple.ite (fun hv s a t hs _ => ?_) fun _ => ?_
  · rw [hs.1] at hv
    exact nomatch hv
  · have hall : Triple (fun _ _ => False) Rf.GoesOnSearching (do
        sendBeacon
        rfStartTaskAtomic .pairBcast rfPairBcastTicks
        rfStopTaskAtomic .pairRxOff
        setRxWindow true) fun _ s => s.GoesOnSearching ∧ s.tmos.armed .pairBcast = true :=
      Triple.bind hsend fun _ => harm.bind fun _ => hwindow
    exact hall.conseq (fun s hs => hs.2) fun _ _ hs => hs

/-- A beacon, and the timer of the next one. -/
def Rf.nextBeacon (s : Rf) : Rf := s.after [.process, .expire .pairBcast]

open Prog in
/-- After a beacon and its timer, the next beacon is due. -/
theorem searching_next (h : s.GoesOnSearching) (hb : s.tmos.waits .pairBcast = true) :
    s.SendsBeacon (RfOp.process.act s) ∧ s.nextBeacon.GoesOnSearching ∧ s.nextBeacon.tmos.waits .pairBcast = true := by
  have hnext := next_pairBcast h.2.2.1 h.2.2.2 hb
  have htake : (tmosTake.exec s).GoesOnSearching := by
    have hexec : tmosTake.exec s = { s with tmos := s.tmos.take .pairBcast } := by
      rw [exec, tmosTake]
      simp only [run, hnext, Option.elim]
      rfl
    rw [hexec]
    simpa [Rf.GoesOnSearching] using h
  have hprocess : RfOp.process.apply s = (rfProcessEvent .pairBcast).exec (tmosTake.exec s) := by
    rw [RfOp.apply, tmosProcess_eq, exec, run_bind]
    show ((tmosHandle s.tmos.next).run _).2 = _
    rw [hnext]
    rfl
  have hhandle : (rfProcessEvent .pairBcast).exec (tmosTake.exec s) = rfPairBroadcast.exec (tmosTake.exec s) := by
    rw [exec, rfProcessEvent, run_read_bind, whenever, if_pos htake.1]
    rfl
  obtain ⟨hs, harmed⟩ : (rfPairBroadcast.exec (tmosTake.exec s)).GoesOnSearching ∧
      (rfPairBroadcast.exec (tmosTake.exec s)).tmos.armed .pairBcast = true :=
    searching_rfPairBroadcast _ () _ htake (runs_run _ _ _)
  have hafter : s.nextBeacon = { rfPairBroadcast.exec (tmosTake.exec s) with
      tmos := (rfPairBroadcast.exec (tmosTake.exec s)).tmos.expire .pairBcast } := by
    rw [← hhandle, ← hprocess]
    rfl
  refine ⟨⟨congrArg RfAct.event hnext, h.1, h.2.1⟩, ?_, ?_⟩
  · rw [hafter]
    simpa [Rf.GoesOnSearching] using hs
  · rw [hafter]
    simp [harmed]

theorem search_next (h : Search bs s) (hs : s.GoesOnSearching) (hb : s.tmos.waits .pairBcast = true) :
    ∃ b, Search (bs ++ [b]) s.nextBeacon := by
  have hbeacon := Search.beacon h (searching_next hs hb).1 (does_apply .process trivial)
  have hexpire : (RfAct.call .other).Does (RfOp.process.apply s) s.nextBeacon := does_apply (.expire .pairBcast) trivial
  have hnone : ¬(RfOp.process.apply s).SendsBeacon (.call .other) := fun hn => nomatch hn.1
  exact ⟨_, .other hbeacon hnone hexpire rfl⟩

/-- A search for the bonded dongle, after any number of beacons. -/
theorem search_bonded (n : Nat) : ∃ bs, bs.length = n ∧ Search bs (Rf.nextBeacon^[n] bondedKeyboard) := by
  have hstart : bondedKeyboard.GoesOnSearching ∧ bondedKeyboard.tmos.waits .pairBcast = true := by decide +kernel
  suffices h : ∃ bs, bs.length = n ∧ Search bs (Rf.nextBeacon^[n] bondedKeyboard) ∧
      (Rf.nextBeacon^[n] bondedKeyboard).GoesOnSearching ∧ (Rf.nextBeacon^[n] bondedKeyboard).tmos.waits .pairBcast = true from
    h.imp fun _ hs => ⟨hs.1, hs.2.1⟩
  induction n with
  | zero => exact ⟨[], rfl, .boot ⟨_, _, _, _, rfl⟩ (by decide +kernel), hstart⟩
  | succ n ih =>
    obtain ⟨bs, hlen, hsearch, hs, hb⟩ := ih
    obtain ⟨b, hnext⟩ := search_next hsearch hs hb
    rw [Function.iterate_succ_apply']
    exact ⟨bs ++ [b], by simp [hlen], hnext, (searching_next hs hb).2⟩

/-- The beacon 264 of a search for the bonded dongle, the ninth after the byte wraps, is the first of a dwell on channel 17. It goes
out on channel 8. -/
theorem search_rotates_false : ∃ bs, Search bs (Rf.nextBeacon^[265] bondedKeyboard) ∧ rotationChannel 264 = 17 ∧
    (∃ b, bs[264]? = some b ∧ b.tuned = 8) ∧ ¬Rotates bs := by
  obtain ⟨bs, hlen, hsearch⟩ := search_bonded 265
  have hb : bs[264]? = some bs[264] := List.getElem?_eq_getElem (by omega)
  have htuned : bs[264].tuned = 8 := ((search_spec hsearch).2 264 _ hb).1
  refine ⟨bs, hsearch, rfl, ⟨_, hb, htuned⟩, fun hrot => ?_⟩
  exact absurd ((hrot 264 _ hb).symm.trans htuned) (by decide)

/-- A search that has sent 264 beacons, as many as rotate as they should: all dwells before the byte wraps, and eight beacons of the
next. -/
theorem search_rotates_dwells : ∃ bs, Search bs (Rf.nextBeacon^[264] bondedKeyboard) ∧ bs.length = 264 ∧ Rotates bs := by
  obtain ⟨bs, hlen, hsearch⟩ := search_bonded 264
  exact ⟨bs, hsearch, hlen, (search_rotates hsearch).2.mpr (by omega)⟩

end OpenController
