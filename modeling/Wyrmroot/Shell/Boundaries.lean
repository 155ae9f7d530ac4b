import Wyrmroot.Shell.Parser

/-!
# Character boundaries

The places of a text that its byte offsets may name are the ends of its fronts:
no other offset is a boundary, since every byte of a character but its first is a
continuation. What stands between two of them is a text.
-/

namespace Wyrmroot.Shell

/-- The bytes of characters. -/
def encoded (cs : List Char) : List UInt8 := cs.flatMap String.utf8EncodeChar

variable {cs front middle behind : List Char} {text : String}

@[simp] theorem encoded_nil : encoded [] = [] := rfl

@[simp] theorem encoded_cons (c : Char) (cs : List Char) :
    encoded (c :: cs) = String.utf8EncodeChar c ++ encoded cs := rfl

@[simp] theorem encoded_append (front behind : List Char) :
    encoded (front ++ behind) = encoded front ++ encoded behind := List.flatMap_append

theorem utf8_eq_encoded (text : String) : utf8 text = encoded text.toList := utf8_eq_flatMap text

@[simp] theorem utf8_ofList (cs : List Char) : utf8 (String.ofList cs) = encoded cs := by
  rw [utf8_eq_encoded, String.toList_ofList]

/-- A continuation byte. -/
def continues (byte : UInt8) : Bool := 0x80 ≤ byte && byte < 0xc0

theorem utf8EncodeChar_lead (c : Char) : ∃ lead tail, String.utf8EncodeChar c = lead :: tail ∧
    continues lead = false ∧ ∀ byte ∈ tail, continues byte = true := by
  rcases Nat.lt_or_ge 0x7f c.toNat with h | h
  · obtain ⟨lead, tail, heq, hlow, -, -, htail⟩ := utf8EncodeChar_multibyte h
    refine ⟨lead, tail, heq, ?_, fun byte hbyte => ?_⟩
    · have hbig : ¬ lead < 0xc0 := by
        rw [UInt8.lt_iff_toNat_lt]
        rw [UInt8.le_iff_toNat_le] at hlow
        exact Nat.not_lt.mpr (Nat.le_trans (by decide) hlow)
      rw [continues, decide_eq_false hbig, Bool.and_false]
    · obtain ⟨hfirst, hlast⟩ := htail byte hbyte
      have hless : byte < 0xc0 := by
        rw [UInt8.lt_iff_toNat_lt]
        rw [UInt8.le_iff_toNat_le] at hlast
        exact Nat.lt_of_le_of_lt hlast (by decide)
      rw [continues, decide_eq_true hfirst, decide_eq_true hless]
      rfl
  · refine ⟨_, [], utf8EncodeChar_ascii h, ?_, List.forall_mem_nil _⟩
    have hsmall : ¬ (0x80 : UInt8) ≤ UInt8.ofNat c.toNat := by
      rw [UInt8.le_iff_toNat_le, UInt8.toNat_ofNat_of_lt' (Nat.lt_of_le_of_lt h (by decide))]
      exact Nat.not_le.mpr (Nat.lt_succ_of_le h)
    rw [continues, decide_eq_false hsmall]
    rfl

/-- `is_char_boundary` on the bytes of a text. -/
def boundaryAt (bytes : List UInt8) (index : Nat) : Bool :=
  match bytes[index]? with
  | none => index == bytes.length
  | some byte => index == 0 || !continues byte

theorem isCharBoundary_eq (text : String) (index : Nat) :
    isCharBoundary text index = boundaryAt (utf8 text) index := rfl

theorem boundaryAt_zero (bytes : List UInt8) : boundaryAt bytes 0 = true := by
  cases bytes <;> rfl

theorem boundaryAt_behind (c : Char) (cs : List Char) (index : Nat) :
    boundaryAt (encoded (c :: cs)) ((String.utf8EncodeChar c).length + index) =
      boundaryAt (encoded cs) index := by
  obtain ⟨lead, tail, heq, -, -⟩ := utf8EncodeChar_lead c
  have hfound : (encoded (c :: cs))[(String.utf8EncodeChar c).length + index]? =
      (encoded cs)[index]? := by
    rw [encoded_cons, List.getElem?_append_right (Nat.le_add_right _ _), Nat.add_sub_cancel_left]
  unfold boundaryAt
  rw [hfound, encoded_cons, List.length_append]
  cases hbyte : (encoded cs)[index]? with
  | none =>
      dsimp only
      rw [Bool.eq_iff_iff, beq_iff_eq, beq_iff_eq]
      exact Nat.add_left_cancel_iff
  | some byte =>
      cases index with
      | succ index => rw [heq]; rfl
      | zero =>
          cases cs with
          | nil => cases hbyte
          | cons c cs =>
              obtain ⟨lead', tail', heq', hlead, -⟩ := utf8EncodeChar_lead c
              rw [encoded_cons, heq'] at hbyte
              obtain rfl := Option.some.inj hbyte
              dsimp only
              rw [hlead, Bool.not_false, Bool.or_true, Bool.or_true]

theorem boundaryAt_inside {c : Char} {index : Nat} (hpos : 0 < index)
    (hlt : index < (String.utf8EncodeChar c).length) (cs : List Char) :
    boundaryAt (encoded (c :: cs)) index = false := by
  obtain ⟨lead, tail, heq, -, htail⟩ := utf8EncodeChar_lead c
  obtain ⟨index, rfl⟩ : ∃ k, index = k + 1 := ⟨index - 1, by omega⟩
  rw [heq, List.length_cons] at hlt
  have hin : index < tail.length := Nat.lt_of_succ_lt_succ hlt
  have hfound : (encoded (c :: cs))[index + 1]? = some tail[index] := by
    rw [encoded_cons, heq, List.cons_append, List.getElem?_cons_succ, List.getElem?_append_left hin,
      List.getElem?_eq_getElem hin]
  unfold boundaryAt
  rw [hfound]
  dsimp only
  rw [htail _ (List.getElem_mem hin)]
  rfl

theorem boundaryAt_encoded {index : Nat} : boundaryAt (encoded cs) index = true ↔
    ∃ front behind, cs = front ++ behind ∧ (encoded front).length = index := by
  induction cs generalizing index with
  | nil =>
      constructor
      · intro h
        exact ⟨[], [], rfl, (of_decide_eq_true ((Bool.beq_eq_decide_eq _ _).symm.trans h)).symm⟩
      · rintro ⟨front, behind, hnil, rfl⟩
        rw [(List.append_eq_nil_iff.mp hnil.symm).1]
        rfl
  | cons c cs ih =>
      constructor
      · intro h
        rcases Nat.eq_zero_or_pos index with rfl | hpos
        · exact ⟨[], c :: cs, rfl, rfl⟩
        rcases Nat.lt_or_ge index (String.utf8EncodeChar c).length with hlt | hge
        · rw [boundaryAt_inside hpos hlt] at h
          cases h
        · obtain ⟨index, rfl⟩ := Nat.exists_eq_add_of_le hge
          rw [boundaryAt_behind] at h
          obtain ⟨front, behind, rfl, rfl⟩ := ih.mp h
          exact ⟨c :: front, behind, rfl, by rw [encoded_cons, List.length_append]⟩
      · rintro ⟨front, behind, hsplit, rfl⟩
        cases front with
        | nil => exact boundaryAt_zero _
        | cons first front =>
            obtain ⟨rfl, rfl⟩ := List.cons.inj hsplit
            rw [encoded_cons c front, List.length_append, boundaryAt_behind]
            exact ih.mpr ⟨front, behind, rfl, rfl⟩

theorem isCharBoundary_iff {index : Nat} : isCharBoundary text index = true ↔
    ∃ front behind, text.toList = front ++ behind ∧ (encoded front).length = index := by
  rw [isCharBoundary_eq, utf8_eq_encoded, boundaryAt_encoded]

theorem getRange_parts (h : text.toList = front ++ (middle ++ behind)) :
    getRange text ⟨(encoded front).length, (encoded (front ++ middle)).length⟩ =
      some (String.ofList middle) := by
  have hstart : isCharBoundary text (encoded front).length = true :=
    isCharBoundary_iff.mpr ⟨front, _, h, rfl⟩
  have hstop : isCharBoundary text (encoded (front ++ middle)).length = true :=
    isCharBoundary_iff.mpr ⟨_, behind, by rw [h, List.append_assoc], rfl⟩
  have hle : (encoded front).length ≤ (encoded (front ++ middle)).length := by
    rw [encoded_append, List.length_append]
    exact Nat.le_add_right _ _
  have hbytes : utf8 text = encoded front ++ (encoded middle ++ encoded behind) := by
    rw [utf8_eq_encoded, h, encoded_append, encoded_append]
  unfold getRange
  dsimp only
  rw [hstart, hstop, decide_eq_true hle]
  rw [encoded_append, List.length_append, Nat.add_sub_cancel_left, hbytes, slice_isSome]
  · rw [List.drop_left, List.take_left]
    exact fromUtf8_eq_some.mpr (utf8_ofList middle)
  · rw [List.length_append, List.length_append]
    omega

end Wyrmroot.Shell
