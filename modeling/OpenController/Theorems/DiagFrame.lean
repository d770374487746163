import OpenController.DiagFrame
import Mathlib.Data.BitVec

/-!
# The diagnostic frame is read as it was written

The reader accepts what the writer writes and nothing else, and no frame with one byte changed, or cut short.
-/

namespace OpenController

/-! ## The sum -/

theorem byteSum_foldl (l : List Byte) (b : Byte) : l.foldl (· + ·) b = b + byteSum l := by
  induction l generalizing b with
  | nil => exact (BitVec.add_zero b).symm
  | cons a l ih =>
    rw [byteSum, List.foldl_cons, List.foldl_cons, ih, ih (0 + a), zero_add, add_assoc]

theorem byteSum_cons (a : Byte) (l : List Byte) : byteSum (a :: l) = a + byteSum l := by
  rw [byteSum, List.foldl_cons, byteSum_foldl, zero_add]

/-- A byte that is changed changes the sum. -/
theorem byteSum_set {l : List Byte} {i : Nat} {b : Byte} (hi : i < l.length) (hb : b ≠ l[i]) : byteSum (l.set i b) ≠ byteSum l := by
  induction l generalizing i with
  | nil => cases hi
  | cons a l ih =>
    cases i with
    | zero =>
      rw [List.set_cons_zero, byteSum_cons, byteSum_cons]
      exact fun he => hb ((BitVec.add_left_inj (byteSum l)).mp he)
    | succ i =>
      rw [List.set_cons_succ, byteSum_cons, byteSum_cons]
      exact fun he => ih (Nat.lt_of_succ_lt_succ hi) hb ((BitVec.add_right_inj a).mp he)

/-- The last byte is the sum of those before it. -/
def Summed (l : List Byte) : Prop := ∃ out, l = finish out

theorem summed_iff {l : List Byte} : Summed l ↔ l.getLast? = some (byteSum l.dropLast) := by
  refine ⟨fun ⟨out, h⟩ => ?_, fun h => ?_⟩
  · rw [h, finish, List.getLast?_concat, List.dropLast_concat]
  · exact ⟨l.dropLast, (List.dropLast_append_getLast? _ h).symm⟩

/-- Nor is it, once one byte is changed. -/
theorem not_summed_set {l : List Byte} (h : Summed l) {i : Nat} {b : Byte} (hi : i < l.length) (hb : b ≠ l[i]) :
    ¬Summed (l.set i b) := by
  rintro ⟨out', h'⟩
  obtain ⟨out, rfl⟩ := h
  rw [finish, List.length_append, List.length_singleton] at hi
  rcases Nat.lt_or_eq_of_le (Nat.le_of_lt_succ hi) with hlt | rfl
  · rw [finish, finish, List.set_append_left _ _ hlt] at h'
    obtain ⟨hout, hsum⟩ := List.append_inj' h' rfl
    refine byteSum_set hlt (fun he => hb ?_) (hout ▸ (List.singleton_inj.mp hsum).symm)
    rw [he]
    exact (List.getElem_append_left hlt).symm
  · rw [finish, finish, List.set_append_right _ _ (Nat.le_refl _), Nat.sub_self] at h'
    obtain ⟨rfl, hsum⟩ := List.append_inj' h' rfl
    exact hb ((List.singleton_inj.mp hsum).trans (List.getElem_concat_length rfl _).symm)

/-! ## The layout -/

theorem takes_uint8 : uint8.Takes 1 := Format.takes_symbol

theorem takes_uint16 : uint16.Takes 2 := (takes_uint8.seq takes_uint8).as _

theorem takes_uint32 : uint32.Takes 4 := (takes_uint16.seq takes_uint16).as _

theorem takes_diagPayload : diagPayload.Takes 89 := by
  have h8 {α : Type} {q : Format α Byte} {n : Nat} (hq : q.Takes n) : (uint8.seq q).Takes (1 + n) := takes_uint8.seq hq
  have h16 {α : Type} {q : Format α Byte} {n : Nat} (hq : q.Takes n) : (uint16.seq q).Takes (2 + n) := takes_uint16.seq hq
  have h32 {α : Type} {q : Format α Byte} {n : Nat} (hq : q.Takes n) : (uint32.seq q).Takes (4 + n) := takes_uint32.seq hq
  exact (h8 <| h8 <| h32 <| h32 <| h32 <| h32 <| h32 <| h32 <| h32 <| h16 <| h16 <| h16 <| h16 <| h16 <| h8 <| h8 <| h8 <| h8 <|
    h32 <| h8 <| h8 <| h32 <| h32 <| h32 <| h16 <| h8 <| h32 <| h32 <| h32 <| h32 <| h32 takes_uint32).as diagFields

/-- The writer writes the payload after the header and the length. -/
theorem diagFrameFormat_eq (s : DiagSnapshot) :
    diagFrameFormat s = finish (diagFrameHeader :: diagPayloadLen :: diagPayload.put (diagPayloadVersion, s)) := by
  simp only [diagFrameFormat, List.append_assoc]
  rfl

/-- What the reader accepts is a frame around a payload. -/
theorem decode_eq_some {frame : List Byte} {x : BitVec 8 × DiagSnapshot} :
    decode frame = some x ↔ frame = finish (diagFrameHeader :: diagPayloadLen :: diagPayload.put x) := by
  refine ⟨fun h => ?_, fun h => ?_⟩
  · rw [decode.eq_def] at h
    split at h
    · rename_i header n rest
      split at h
      · rename_i hok
        obtain ⟨rfl, hlen, hsum, rfl⟩ := hok
        obtain ⟨out, hout⟩ := summed_iff.mpr hsum
        have hne : rest ≠ [] := fun he => by rw [he] at hlen; exact absurd hlen (by decide)
        have hbody : out = diagFrameHeader :: diagPayloadLen :: rest.dropLast := by
          have hdrop := congrArg List.dropLast hout
          rw [finish, List.dropLast_concat, List.dropLast_cons_of_ne_nil (List.cons_ne_nil _ _),
            List.dropLast_cons_of_ne_nil hne] at hdrop
          exact hdrop.symm
        rw [hout, hbody, Format.whole_eq_some.mp h]
      · cases h
    · cases h
  · have hlen := takes_diagPayload x
    have hsum := summed_iff.mp ⟨_, h⟩
    rw [h, finish, List.cons_append, List.cons_append] at hsum ⊢
    rw [decode, if_pos, List.dropLast_concat]
    · exact Format.whole_eq_some.mpr rfl
    · refine ⟨rfl, ?_, hsum, rfl⟩
      rw [List.length_append, hlen]
      rfl

/-! ## The frame -/

/-- The reader reads a snapshot from the frame that was written for it, and from no other. -/
theorem decode_iff_format {frame : List Byte} {s : DiagSnapshot} :
    decode frame = some (diagPayloadVersion, s) ↔ frame = diagFrameFormat s := by
  rw [decode_eq_some, diagFrameFormat_eq]

theorem length_diagFrameFormat (s : DiagSnapshot) : (diagFrameFormat s).length = 92 := by
  rw [diagFrameFormat_eq, finish, List.length_append, List.length_cons, List.length_cons, takes_diagPayload]
  rfl

/-- A frame with one byte changed is not read, whatever the byte and wherever it stands, and neither is one that is cut short. -/
theorem decode_damaged (s : DiagSnapshot) :
    (∀ i b, i < 92 → (diagFrameFormat s)[i]? ≠ some b → decode ((diagFrameFormat s).set i b) = none) ∧
      ∀ n < 92, decode ((diagFrameFormat s).take n) = none := by
  refine ⟨fun i b hi hb => ?_, fun n hn => ?_⟩
  · have hlt : i < (diagFrameFormat s).length := (length_diagFrameFormat s).symm ▸ hi
    refine Option.eq_none_iff_forall_ne_some.mpr fun x hx => ?_
    refine not_summed_set ⟨_, diagFrameFormat_eq s⟩ hlt (fun he => hb ?_) ⟨_, decode_eq_some.mp hx⟩
    rw [List.getElem?_eq_getElem hlt, he]
  · refine Option.eq_none_iff_forall_ne_some.mpr fun x hx => ?_
    have hlen := congrArg List.length (decode_eq_some.mp hx)
    rw [List.length_take, length_diagFrameFormat, finish, List.length_append, List.length_cons, List.length_cons,
      takes_diagPayload, List.length_singleton] at hlen
    omega

/-- A snapshot of a keyboard that has not done anything. -/
def blankSnapshot : DiagSnapshot :=
  ⟨0, 0, 0, 0, 0, 0, 0, 0, 0, 0, 0, 0, 0, 0, 0, 0, 0, 0, 0, 0, 0, 0, 0, 0, 0, 0, 0, 0, 0, 0, 0⟩

/-- Neither with the number of its boots changed, nor without its sum. -/
theorem decode_damaged_boots :
    decode ((diagFrameFormat blankSnapshot).set 4 1) = none ∧ decode ((diagFrameFormat blankSnapshot).take 91) = none :=
  ⟨(decode_damaged blankSnapshot).1 4 1 (by decide) (by decide), (decode_damaged blankSnapshot).2 91 (by decide)⟩

end OpenController
