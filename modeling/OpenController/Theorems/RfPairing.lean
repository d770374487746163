import OpenController.Lemmas.RfPairingAux
import OpenController.Lemmas.RfStatements

/-!
# A pairing that was given up

The only thing that changes the bond before the connection is the first packet of a pairing, and nothing undoes it.
-/

namespace OpenController

open Prog Relation RfStatements

/-! ## What changes the bond -/

/-- The statement does not touch the bond. -/
def KeepsBond (f : Rf → Rf) : Prop := ∀ s, (f s).bond = s.bond

/-- To start a pairing keeps the bond. -/
theorem keepsBond_enterPairing : Each KeepsBond rfEnterPairing := by simp [KeepsBond]

/-- To take the link down does. -/
theorem keepsBond_disconnect : Each KeepsBond rfDisconnect := by simp [KeepsBond]

/-- Every frame but those that forget the bond does. -/
theorem keepsBond_frame {cmd sub : Byte} (h : ¬(cmd = 0xA6 ∧ (sub = 0x52 ∨ sub = 0x63))) (payload : Report) :
    Each KeepsBond (handleUartFrame cmd sub payload) := by
  have hselect (g : Bool → RfM Unit) (hg : ∀ a, Each KeepsBond (g a)) : Each KeepsBond (rfSelect2G4 >>= g) :=
    Each.bind (by simp [KeepsBond]) hg
  have hpair (g : Bool → RfM Unit) (hg : ∀ a, Each KeepsBond (g a)) : Each KeepsBond (rfEnterPairing >>= g) :=
    keepsBond_enterPairing.bind hg
  simp only [not_and, not_or] at h
  simp [-rfSelect2G4, -rfEnterPairing, hselect, hpair, handleUartFrame, handleCommand, KeepsBond]
  grind

/-- So does every call of an episode. -/
theorem keepsBond_call {call : RfCall} (h : call.InPairing) : Each KeepsBond call.program := by
  cases call with
  | frame cmd sub payload => exact keepsBond_frame h payload
  | process => exact h.elim
  | _ => simp [RfCall.program, KeepsBond]

/-- And every handler but the one that connects. -/
theorem keepsBond_handle {next : Option RfEvt} (h : next ≠ some .enterConnected) : Each KeepsBond (tmosHandle next) := by
  rcases next with _ | e
  · exact trivial
  · cases e with
    | enterConnected => exact absurd rfl h
    | _ => simp [tmosHandle, rfProcessEvent, KeepsBond]

/-! ## An episode -/

/-- Since a pairing started with the bond `b` and the first packets `firsts`: it is as it was, or a first packet was taken. -/
def PairKeeps (b : Bond) (firsts : List RxBuf) (w : PairWorld) : Prop :=
  w.firsts = firsts ∧ w.rf.bond = b ∨ firsts.length < w.firsts.length ∧ b.hasBond = false ∧ w.rf.bond.hasBond = true

variable {b : Bond} {firsts : List RxBuf} {w w' w₀ : PairWorld}

/-- No interrupt of an episode changes the bond, and the first packet is noted. -/
theorem stable_pairKeeps : Stable PairHears (PairKeeps b firsts) := by
  intro w w' hi h
  cases hi with
  | callback sta rsr rxBuf _ =>
    rcases w.rf.bond_callback sta rsr rxBuf with ⟨hnone, hbond⟩ | ⟨buf, hfirst, hno, hbond⟩
    · have hw : (⟨w.rf.rf2g4StatusCallBack sta rsr rxBuf, w.firsts ++ w.rf.firstPacket sta rsr rxBuf⟩ : PairWorld) =
          ⟨w.rf.rf2g4StatusCallBack sta rsr rxBuf, w.firsts⟩ := by rw [hnone, List.append_nil]
      rw [hw]
      exact h.imp (fun h => ⟨h.1, hbond.trans h.2⟩) fun h => ⟨h.1, h.2.1, hbond ▸ h.2.2⟩
    · rcases h with ⟨hf, hb⟩ | ⟨_, _, hb⟩
      · refine .inr ⟨?_, hb ▸ hno, by rw [hbond]⟩
        simp [hfirst, hf]
      · exact nomatch hno.symm.trans hb
  | elsewhere he =>
    have hbond := bond_elsewhere he
    exact h.imp (fun h => ⟨h.1, hbond.trans h.2⟩) fun h => ⟨h.1, h.2.1, hbond ▸ h.2.2⟩

/-- A program that does not touch the bond. -/
theorem pairKeeps_runs {α : Type} {p : RfM α} {a : α} (hp : Each KeepsBond p) (hr : PairRuns p w a w')
    (h : PairKeeps b firsts w) : PairKeeps b firsts w' := by
  refine Each.zoom stable_pairKeeps (hp.mono fun f hf v hv => ?_) w a w' h hr
  exact hv.imp (fun h => ⟨h.1, (hf _).trans h.2⟩) fun h => ⟨h.1, h.2.1, (hf _).symm ▸ h.2.2⟩

/-- A step keeps it. -/
theorem pairKeeps_step (hs : PairStep w w') (h : PairKeeps b firsts w) : PairKeeps b firsts w' := by
  cases hs with
  | call call hc hr => exact pairKeeps_runs (keepsBond_call hc) hr h
  | event ht hne hh => exact pairKeeps_runs (keepsBond_handle hne) hh (pairKeeps_runs (by simp [tmosTake, KeepsBond]) ht h)
  | disconnect hr => exact pairKeeps_runs keepsBond_disconnect hr h

/-- So does an episode. -/
theorem pairKeeps_run (hr : ReflTransGen PairStep w w') (h : PairKeeps b firsts w) : PairKeeps b firsts w' := by
  induction hr with
  | refl => exact h
  | tail _ hs ih => exact pairKeeps_step hs ih

/-- However far a fresh pairing has come without a connection: the bond is as it was at its start exactly when no packet was taken as
the first of a pairing. -/
theorem pairing_keeps_bond (h : PairEpisode w₀ w) : w.rf.bond = w₀.rf.bond ↔ w.firsts = w₀.firsts := by
  obtain ⟨w₁, hstart, hsteps⟩ := h
  have hkeeps : PairKeeps w₀.rf.bond w₀.firsts w :=
    pairKeeps_run hsteps (pairKeeps_runs keepsBond_enterPairing hstart (.inl ⟨rfl, rfl⟩))
  rcases hkeeps with ⟨hfirsts, hbond⟩ | ⟨hlen, hno, hyes⟩
  · exact ⟨fun _ => hfirsts, fun _ => hbond⟩
  · constructor
    · intro hbond
      rw [hbond] at hyes
      exact nomatch hno.symm.trans hyes
    · intro hfirsts
      rw [hfirsts] at hlen
      exact absurd hlen (Nat.lt_irrefl _)

namespace PairWorld

/-- TMOS handles the first event queued. -/
def process (w : PairWorld) : PairWorld :=
  ((tmosHandle w.rf.tmos.next).zoom rf fun s w => { w with rf := s }).exec { w with rf := tmosTake.exec w.rf }

/-- The radio calls back. -/
def hear (sta : RfSta) (rxBuf : Option RxBuf) (w : PairWorld) : PairWorld :=
  ⟨w.rf.rf2g4StatusCallBack sta 0 rxBuf, w.firsts ++ w.rf.firstPacket sta 0 rxBuf⟩

/-- A timer expires. -/
def expire (e : RfEvt) (w : PairWorld) : PairWorld := { w with rf := { w.rf with tmos := w.rf.tmos.expire e } }

/-- A pass of TMOS that does not connect is a step. -/
theorem step_process (h : w.rf.tmos.next ≠ some .enterConnected) : PairStep w w.process :=
  .event (runs_run _ _ w) h (runs_run _ _ _)

/-- A packet heard is one. -/
theorem step_hear {sta : RfSta} {rxBuf : Option RxBuf} (h : w.rf.radio.shut = false) : PairStep w (w.hear sta rxBuf) :=
  .call .other trivial (.env (.callback sta 0 rxBuf h) (.ret () _))

/-- A timer that expires is one. -/
theorem step_expire (e : RfEvt) : PairStep w (w.expire e) :=
  .call .other trivial (.env (.elsewhere (.expire w.rf e)) (.ret () _))

/-- A pairing window opens. -/
def pair (w : PairWorld) : PairWorld := (rfEnterPairing.zoom rf fun s w => { w with rf := s }).exec w

end PairWorld

/-- A keyboard without a bond, with 2.4G selected. -/
def unpaired : PairWorld := ⟨newKeyboard.after [.process, .command 0x30], []⟩

/-- The first beacon is out, and the radio listens. -/
def beaconSent : PairWorld := (unpaired.pair.process.hear .txFinish none).process

/-- The episodes of a keyboard without a bond. -/
theorem episode_unpaired (h : ReflTransGen PairStep unpaired.pair w) : PairEpisode unpaired w :=
  ⟨unpaired.pair, runs_run _ _ unpaired, h⟩

/-- Its first beacon goes out. -/
theorem steps_beaconSent : ReflTransGen PairStep unpaired.pair beaconSent :=
  ((ReflTransGen.single (PairWorld.step_process (by decide +kernel))).tail (PairWorld.step_hear (by decide +kernel))).tail
    (PairWorld.step_process (by decide +kernel))

/-- Nobody answers until the window closes. -/
theorem pairing_keeps_bond_timeout :
    (beaconSent.expire .pairTimeout).process.rf.state = .idle ∧
      (beaconSent.expire .pairTimeout).process.rf.bond = unpaired.rf.bond := by
  have hsteps : ReflTransGen PairStep unpaired.pair (beaconSent.expire .pairTimeout).process :=
    (steps_beaconSent.tail (PairWorld.step_expire _)).tail (PairWorld.step_process (by decide +kernel))
  have hfirsts : (beaconSent.expire .pairTimeout).process.firsts = [] := List.length_eq_zero_iff.mp (by decide +kernel)
  exact ⟨by decide +kernel, (pairing_keeps_bond (episode_unpaired hsteps)).mpr hfirsts⟩

/-- A dongle answers once: when the window has closed, it is the bond. -/
theorem pairing_keeps_bond_false : ∃ w₀ w, RfInterleaved w₀.rf ∧ PairEpisode w₀ w ∧ w.rf.state = .idle ∧
    w₀.rf.bond.hasBond = false ∧ w.rf.bond = ⟨true, offerPacket.dongleMac, offerPacket.sessionAa, offerPacket.typeTag⟩ := by
  have hsteps : ReflTransGen PairStep unpaired.pair
      ((beaconSent.hear .rxData (some offerPacket)).process.expire .pairTimeout).process :=
    (((steps_beaconSent.tail (PairWorld.step_hear (by decide +kernel))).tail (PairWorld.step_process (by decide +kernel))).tail
      (PairWorld.step_expire _)).tail (PairWorld.step_process (by decide +kernel))
  have hreach : RfInterleaved unpaired.rf := RfInterleaved.after (.init ⟨_, _, _, _, rfl⟩) (by decide +kernel)
  exact ⟨_, _, hreach, episode_unpaired hsteps, by decide +kernel, by decide +kernel, by decide +kernel⟩

end OpenController
