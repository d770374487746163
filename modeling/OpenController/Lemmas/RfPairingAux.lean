import OpenController.RfPairing

/-!
# The packets of a pairing

The callback changes the bond, and what is known of an offer, only with a packet of the pairing branch.
-/

namespace OpenController

/-- A session access address is a word. -/
theorem sessionAa_lt (buf : RxBuf) : buf.sessionAa < 4294967296 := by
  have h2 := (buf 2).isLt
  have h3 := (buf 3).isLt
  have h4 := (buf 4).isLt
  have h5 := (buf 5).isLt
  rw [RxBuf.sessionAa, readBe32]
  omega

namespace Rf

variable (s : Rf) (buf : RxBuf)

/-- A packet while connected leaves the bond and the trace alone. -/
theorem kept_onPoll : (s.onPoll buf).bond = s.bond ∧ (s.onPoll buf).trace = s.trace := by
  have hack (s : Rf) (rxCtrl : Byte) : (s.ackPoll rxCtrl).bond = s.bond ∧ (s.ackPoll rxCtrl).trace = s.trace := by
    unfold ackPoll
    repeat' split
    all_goals exact ⟨rfl, rfl⟩
  have hsave (s : Rf) : s.dueBondSave.bond = s.bond ∧ s.dueBondSave.trace = s.trace := by
    unfold dueBondSave
    split <;> exact ⟨rfl, rfl⟩
  have hled (s : Rf) : (s.relayLed buf).bond = s.bond ∧ (s.relayLed buf).trace = s.trace := by
    simp only [relayLed]
    repeat' split
    all_goals exact ⟨rfl, rfl⟩
  unfold onPoll
  split
  · exact ⟨rfl, rfl⟩
  · obtain ⟨hb₁, ht₁⟩ := hsave (s.lockHop buf.len)
    obtain ⟨hb₂, ht₂⟩ := hack (s.lockHop buf.len).dueBondSave (buf 2)
    obtain ⟨hb₃, ht₃⟩ := hled ((s.lockHop buf.len).dueBondSave.ackPoll (buf 2))
    exact ⟨hb₃.trans (hb₂.trans hb₁), ht₃.trans (ht₂.trans ht₁)⟩

theorem callback_pairs {s : Rf} {buf : RxBuf} (h : buf.Pairs s) :
    s.rf2g4StatusCallBack .rxData 0 (some buf) = { s with rssi := buf 0 }.onPairPacket buf := if_pos h

/-- The callback takes a packet of the pairing branch, or it leaves the bond and the trace alone. -/
theorem callback_pairing (sta : RfSta) (rsr : Nat) (rxBuf : Option RxBuf) :
    (∃ buf, sta = .rxData ∧ rsr = 0 ∧ rxBuf = some buf ∧ buf.Pairs s) ∨ s.firstPacket sta rsr rxBuf = [] ∧
      (s.rf2g4StatusCallBack sta rsr rxBuf).bond = s.bond ∧ (s.rf2g4StatusCallBack sta rsr rxBuf).trace = s.trace := by
  cases sta with
  | txFinish => exact .inr ⟨rfl, rfl, rfl⟩
  | txFail => exact .inr ⟨rfl, rfl, rfl⟩
  | other => exact .inr ⟨rfl, rfl, rfl⟩
  | rxData =>
    cases rxBuf with
    | none => exact .inr ⟨rfl, rfl, rfl⟩
    | some buf =>
      by_cases hrsr : rsr = 0
      · subst hrsr
        by_cases hp : buf.Pairs s
        · exact .inl ⟨buf, rfl, rfl, rfl, hp⟩
        · refine .inr ⟨if_neg fun h => hp h.2.1, ?_⟩
          by_cases hc : s.state = .connected
          · have hcb : s.rf2g4StatusCallBack .rxData 0 (some buf) = { s with rssi := buf 0 }.onPoll buf :=
              (if_neg hp).trans (if_pos hc)
            rw [hcb]
            exact kept_onPoll _ buf
          · have hcb : s.rf2g4StatusCallBack .rxData 0 (some buf) = { s with rssi := buf 0 }.setEvent .rxRestart :=
              (if_neg hp).trans (if_neg hc)
            rw [hcb]
            exact ⟨rfl, rfl⟩
      · have hcb : s.rf2g4StatusCallBack .rxData rsr (some buf) = s.setEvent .rxRestart := if_pos hrsr
        rw [hcb]
        exact .inr ⟨if_neg fun h => hrsr h.1, rfl, rfl⟩

/-- The callback changes the bond only with the first packet of a pairing. -/
theorem bond_callback (sta : RfSta) (rsr : Nat) (rxBuf : Option RxBuf) :
    s.firstPacket sta rsr rxBuf = [] ∧ (s.rf2g4StatusCallBack sta rsr rxBuf).bond = s.bond ∨
      ∃ buf, s.firstPacket sta rsr rxBuf = [buf] ∧ s.bond.hasBond = false ∧
        (s.rf2g4StatusCallBack sta rsr rxBuf).bond = ⟨true, buf.dongleMac, buf.sessionAa, buf.typeTag⟩ := by
  rcases s.callback_pairing sta rsr rxBuf with ⟨buf, rfl, rfl, rfl, hp⟩ | ⟨hnone, hbond, _⟩
  · rw [callback_pairs hp]
    cases hb : s.bond.hasBond with
    | false =>
      refine .inr ⟨buf, if_pos ⟨rfl, hp, hb⟩, rfl, ?_⟩
      simp [onPairPacket, hb, setEvent]
    | true =>
      refine .inl ⟨if_neg fun h => ?_, ?_⟩
      · cases hb.symm.trans h.2.2
      · simp only [onPairPacket, hb, Bool.not_true, Bool.false_eq_true, if_false]
        repeat' split
        all_goals rfl
  · exact .inl ⟨hnone, hbond⟩

end Rf

theorem bond_elsewhere {s t : Rf} (h : RfElsewhere s t) : t.bond = s.bond := by
  cases h with
  | tmr0Irq =>
    simp only [Rf.tmr0IRQHandler]
    repeat' split
    all_goals rfl
  | _ => rfl

end OpenController
