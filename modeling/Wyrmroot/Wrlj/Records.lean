import Wyrmroot.Wrlj.Reading

/-!
# String records

A launch carries its strings twice over: a table of records, and the bytes
one string behind the other. The records that `validate_records` accepts are
those of exactly one list of strings, and reading them back gives this list.
-/

namespace Wyrmroot.Wrlj

open Outcome
open Startup (NamesOk isEntry entryName environmentName_iff)

/-! ## The table and the strings -/

/-- The record of a string that starts at `offset` among the strings. -/
def recordText (offset : Nat) (value : String) : List UInt8 :=
  u32 (UInt32.ofNat offset) ++ (u16 (UInt16.ofNat (utf8 value).length) ++ u16 0)

def recordsText : Nat → List String → List UInt8
  | _, [] => []
  | offset, value :: rest =>
      recordText offset value ++ recordsText (offset + (utf8 value).length) rest

def stringsText (values : List String) : List UInt8 := values.flatMap utf8

/-- Every string fits the length field of its record. -/
def Short (values : List String) : Prop := ∀ value ∈ values, (utf8 value).length < 2 ^ 16

@[simp] theorem length_recordText (offset : Nat) (value : String) :
    (recordText offset value).length = 8 := by
  simp [recordText]

@[simp] theorem length_recordsText (values : List String) :
    ∀ offset, (recordsText offset values).length = values.length * 8 := by
  induction values with
  | nil => exact fun _ => rfl
  | cons value rest ih =>
      intro offset
      rw [recordsText, List.length_append, length_recordText, ih, List.length_cons]
      omega

theorem stringsText_cons (value : String) (rest : List String) :
    stringsText (value :: rest) = utf8 value ++ stringsText rest := rfl

theorem stringsText_append (values rest : List String) :
    stringsText (values ++ rest) = stringsText values ++ stringsText rest :=
  List.flatMap_append

theorem recordsText_append (values rest : List String) : ∀ offset,
    recordsText offset (values ++ rest) =
      recordsText offset values ++ recordsText (offset + (stringsText values).length) rest := by
  induction values with
  | nil => exact fun _ => rfl
  | cons value values ih =>
      intro offset
      rw [List.cons_append, recordsText, recordsText, ih, stringsText_cons, List.length_append,
        List.append_assoc, Nat.add_assoc]

variable {i : Nat} {value : String}

theorem exists_around {values : List String} (h : values[i]? = some value) :
    ∃ before after, values = before ++ value :: after ∧ before.length = i := by
  obtain ⟨hi, rfl⟩ := List.getElem?_eq_some_iff.mp h
  refine ⟨values.take i, values.drop (i + 1), ?_, by rw [List.length_take]; omega⟩
  rw [← List.drop_eq_getElem_cons hi, List.take_append_drop]

theorem recordsText_has {values : List String} (h : values[i]? = some value) (offset : Nat) :
    Has (recordsText offset values) (i * 8)
      (recordText (offset + (stringsText (values.take i)).length) value) := by
  obtain ⟨before, after, rfl, rfl⟩ := exists_around h
  rw [List.take_left, recordsText_append, recordsText]
  exact has_iff.mpr ⟨recordsText offset before, _, rfl, length_recordsText before offset⟩

theorem stringsText_has {values : List String} (h : values[i]? = some value) :
    Has (stringsText values) (stringsText (values.take i)).length (utf8 value) := by
  obtain ⟨before, after, rfl, rfl⟩ := exists_around h
  rw [List.take_left, stringsText_append, stringsText_cons]
  exact has_iff.mpr ⟨stringsText before, _, rfl, rfl⟩

/-! ## Validating -/

variable {records strings : List UInt8}

theorem ofNat_toNat_of_length {length : UInt16}
    (h : (utf8 value).length = length.toNat) : UInt16.ofNat (utf8 value).length = length := by
  rw [h, UInt16.ofNat_toNat]

theorem validateRecord_eq_ok {index offset next : Nat} :
    validateRecord records strings index offset = .ok next ↔ ∃ value,
      (utf8 value).length < 2 ^ 16 ∧ Has records (index * 8) (recordText offset value) ∧
        Has strings offset (utf8 value) ∧ next = offset + (utf8 value).length := by
  simp only [validateRecord, bind_eq_ok, sliceAt_eq_ok, readU16_eq_ok, rejectIf_eq_ok, okOr_eq_ok,
    slice_eq_some_iff_has, fromUtf8_eq_some, Bool.or_eq_false_iff, decide_eq_false_iff_not,
    not_not, ne_eq, getU32_eq_some, getU16_eq_some, Outcome.pure_eq, Outcome.ok.injEq, exists_const]
  constructor
  · rintro ⟨record, ⟨hrecord, hsize⟩, ⟨hstart, hzero⟩, length, hlength, _, ⟨hvalue, hlen⟩, value,
      rfl, rfl⟩
    have hrecordText : record = recordText offset value := by
      refine has_whole.mp ⟨?_, by rw [hsize, length_recordText]; rfl⟩
      rw [recordText, ofNat_toNat_of_length hlen]
      simp only [has_append, length_u32, length_u16]
      exact ⟨hstart, hlength, hzero⟩
    have hbound := length.toNat_lt
    exact ⟨value, by omega, hrecordText ▸ hrecord, hvalue, by rw [hlen]⟩
  · rintro ⟨value, hshort, hrecord, hvalue, rfl⟩
    have hlen : (utf8 value).length = (UInt16.ofNat (utf8 value).length).toNat :=
      (UInt16.toNat_ofNat_of_lt hshort).symm
    have hparts := (@has_whole (recordText offset value) _).mpr rfl
    simp only [recordText, has_append, length_u32, length_u16] at hparts
    exact ⟨_, ⟨hrecord, length_recordText offset value⟩, ⟨hparts.1.1, hparts.1.2.2⟩, _, hparts.1.2.1,
      _, ⟨hvalue, hlen⟩, value, rfl, by rw [← hlen]⟩

theorem validateRecord_run {count : Nat} : ∀ {index offset final : Nat},
    index * 8 ≤ records.length → offset ≤ strings.length →
      (forRange (validateRecord records strings) index count offset = .ok final ↔ ∃ values,
        values.length = count ∧ Short values ∧ Has records (index * 8) (recordsText offset values) ∧
          Has strings offset (stringsText values) ∧ final = offset + (stringsText values).length) := by
  induction count with
  | zero =>
      intro index offset final hindex hoffset
      constructor
      · intro h
        obtain rfl := Outcome.ok.inj h
        exact ⟨[], rfl, nofun, slice_isSome (by simpa using hindex),
          slice_isSome (by simpa [stringsText] using hoffset), rfl⟩
      · rintro ⟨values, hvalues, -, -, -, rfl⟩
        obtain rfl := List.length_eq_zero_iff.mp hvalues
        rfl
  | succ count ih =>
      intro index offset final hindex hoffset
      rw [forRange, bind_eq_ok]
      constructor
      · rintro ⟨next, hfirst, hrest⟩
        obtain ⟨value, hshort, hrecord, hvalue, rfl⟩ := validateRecord_eq_ok.mp hfirst
        have hrecords := has_length hrecord
        rw [length_recordText] at hrecords
        obtain ⟨values, rfl, hshorts, hrecordsText, hstrings, rfl⟩ :=
          (ih (by omega) (has_length hvalue)).mp hrest
        refine ⟨value :: values, rfl, ?_, ?_, ?_, ?_⟩
        · intro v hv
          rcases List.mem_cons.mp hv with rfl | hv
          · exact hshort
          · exact hshorts v hv
        · rw [recordsText, has_append, length_recordText]
          exact ⟨hrecord, by rwa [Nat.succ_mul] at hrecordsText⟩
        · rw [stringsText_cons, has_append]
          exact ⟨hvalue, hstrings⟩
        · rw [stringsText_cons, List.length_append, Nat.add_assoc]
      · rintro ⟨values, hvalues, hshorts, hrecordsText, hstrings, rfl⟩
        obtain ⟨value, values, rfl⟩ := List.exists_cons_of_length_eq_add_one hvalues
        rw [recordsText, has_append, length_recordText] at hrecordsText
        rw [stringsText_cons, has_append] at hstrings
        have hrecords := has_length hrecordsText.1
        rw [length_recordText] at hrecords
        refine ⟨_, validateRecord_eq_ok.mpr ⟨value, hshorts value (List.mem_cons_self ..),
          hrecordsText.1, hstrings.1, rfl⟩, (ih (by omega) (has_length hstrings.1)).mpr ?_⟩
        refine ⟨values, Nat.succ.inj hvalues, fun v hv => hshorts v (List.mem_cons_of_mem _ hv), ?_,
          hstrings.2, ?_⟩
        · rw [Nat.succ_mul]
          exact hrecordsText.2
        · rw [stringsText_cons, List.length_append, Nat.add_assoc]

theorem validateRecords_eq_ok {count : Nat} {u : Unit} (hrecords : records.length = count * 8) :
    validateRecords records strings count = .ok u ↔ ∃ values, values.length = count ∧ Short values ∧
      records = recordsText 0 values ∧ strings = stringsText values := by
  simp only [validateRecords, bind_eq_ok, rejectIf_eq_ok, decide_eq_false_iff_not, not_not, ne_eq]
  constructor
  · rintro ⟨final, hrun, rfl⟩
    obtain ⟨values, hvalues, hshort, htext, hstrings, hfinal⟩ :=
      (validateRecord_run (by omega) (Nat.zero_le _)).mp hrun
    refine ⟨values, hvalues, hshort, has_whole.mp ⟨by simpa using htext, ?_⟩,
      has_whole.mp ⟨hstrings, by omega⟩⟩
    rw [hrecords, length_recordsText, hvalues]
  · rintro ⟨values, hvalues, hshort, rfl, rfl⟩
    refine ⟨_, (validateRecord_run (by omega) (Nat.zero_le _)).mpr
      ⟨values, hvalues, hshort, ?_, (has_whole.mpr rfl).1, rfl⟩, Nat.zero_add _⟩
    rw [Nat.zero_mul]
    exact (has_whole.mpr rfl).1

/-! ## Reading back -/

/-- Records of strings that stand at `start` read back as these strings. -/
theorem get_records {values : List String} {start : Nat}
    (hstrings : Has strings start (stringsText values)) (hsmall : strings.length < 2 ^ 32)
    (hshort : Short values) (i : Nat) :
    (StringRecords.mk (recordsText start values) strings values.length).get i = .ok values[i]? := by
  unfold StringRecords.get
  by_cases hi : values.length ≤ i
  · rw [if_pos hi, List.getElem?_eq_none hi]
  · rw [if_neg hi]
    obtain ⟨value, hvalue⟩ : ∃ value, values[i]? = some value :=
      ⟨_, List.getElem?_eq_getElem (by omega)⟩
    have htext := has_trans hstrings (stringsText_has hvalue)
    have hrecord := recordsText_has hvalue start
    have hlen := has_length htext
    have hread : (sliceAt (recordsText start values) (i * recordBytes) recordBytes : Check _) = _ :=
      sliceAt_eq_ok.mpr ⟨hrecord, length_recordText _ _⟩
    dsimp only
    rw [hread, ok_bind, hvalue]
    have hparts := (@has_whole (recordText (start + (stringsText (values.take i)).length) value)
      _).mpr rfl
    conv at hparts => enter [1, 3]; rw [recordText]
    simp only [has_append, length_u32, length_u16] at hparts
    rw [getU32_eq_some.mpr hparts.1.1, getU16_eq_some.mpr hparts.1.2.1]
    have hstart : (UInt32.ofNat (start + (stringsText (values.take i)).length)).toNat =
        start + (stringsText (values.take i)).length :=
      UInt32.toNat_ofNat_of_lt (show _ < 2 ^ 32 by omega)
    have hlength : (UInt16.ofNat (utf8 value).length).toNat = (utf8 value).length :=
      UInt16.toNat_ofNat_of_lt (hshort value (List.mem_of_getElem? hvalue))
    show Outcome.ok ((slice strings _ _).bind fromUtf8) = _
    rw [hstart, hlength, show slice strings _ _ = some (utf8 value) from htext]
    exact congrArg Outcome.ok (fromUtf8_utf8 value)

/-! ## Environment entries -/

section Environment

variable {values : StringRecords} {list : List String}

theorem environmentNameAt_eq_ok (hget : ∀ i, values.get i = .ok list[i]?)
    (hi : i < list.length) {name : List UInt8} : environmentNameAt values i = .ok name ↔
      isEntry (utf8 list[i]) = true ∧ entryName (utf8 list[i]) = name := by
  rw [environmentNameAt, hget, ok_bind, List.getElem?_eq_getElem hi, okOr_some, ok_bind,
    environmentName_iff]

theorem validateEnvironmentRecord_eq_ok (hget : ∀ i, values.get i = .ok list[i]?)
    (hi : i < list.length) : validateEnvironmentRecord values i () = .ok () ↔
      isEntry (utf8 list[i]) = true ∧ ∀ j (hj : j < i), isEntry (utf8 list[j]) = true ∧
        entryName (utf8 list[j]) ≠ entryName (utf8 list[i]) := by
  have hinner : ∀ j (hj : j < i) name, checkOtherName values name j () = .ok () ↔
      isEntry (utf8 list[j]) = true ∧ entryName (utf8 list[j]) ≠ name := by
    intro j hj name
    rw [checkOtherName, bind_eq_ok]
    simp only [environmentNameAt_eq_ok hget (hj.trans hi), rejectIf_eq_ok,
      decide_eq_false_iff_not]
    constructor
    · rintro ⟨_, ⟨hentry, rfl⟩, hne⟩
      exact ⟨hentry, hne⟩
    · rintro ⟨hentry, hne⟩
      exact ⟨_, ⟨hentry, rfl⟩, hne⟩
  simp only [validateEnvironmentRecord, bind_eq_ok, environmentNameAt_eq_ok hget hi, forRange_unit]
  constructor
  · rintro ⟨_, ⟨hentry, rfl⟩, hothers⟩
    exact ⟨hentry, fun j hj => (hinner j hj _).mp (hothers j (Nat.zero_le j) (by omega))⟩
  · rintro ⟨hentry, hothers⟩
    refine ⟨_, ⟨hentry, rfl⟩, fun j _ hj => ?_⟩
    rw [Nat.zero_add] at hj
    exact (hinner j hj _).mpr (hothers j hj)

theorem validateEnvironmentRecords_eq_ok (hget : ∀ i, values.get i = .ok list[i]?)
    (hcount : values.count = list.length) :
    validateEnvironmentRecords values = .ok () ↔ NamesOk (list.map utf8) := by
  rw [validateEnvironmentRecords, forRange_unit, hcount]
  constructor
  · intro h
    have hturn := fun i (hi : i < list.length) =>
      (validateEnvironmentRecord_eq_ok hget hi).mp (h i (Nat.zero_le i) (by omega))
    refine ⟨?_, ?_⟩
    · intro value hvalue
      obtain ⟨s, hs, rfl⟩ := List.mem_map.mp hvalue
      obtain ⟨i, hi, rfl⟩ := List.mem_iff_getElem.mp hs
      exact (hturn i hi).1
    · rw [List.map_map]
      refine List.pairwise_iff_getElem.mpr fun j i hj hi hlt => ?_
      rw [List.getElem_map, List.getElem_map]
      rw [List.length_map] at hi
      exact ((hturn i hi).2 j hlt).2
  · intro h i _ hi
    rw [Nat.zero_add] at hi
    have hentry : ∀ j (hj : j < list.length), isEntry (utf8 list[j]) = true := fun j hj =>
      h.entries _ (List.mem_map.mpr ⟨_, List.getElem_mem hj, rfl⟩)
    refine (validateEnvironmentRecord_eq_ok hget hi).mpr
      ⟨hentry i hi, fun j hj => ⟨hentry j (hj.trans hi), ?_⟩⟩
    have hdistinct := h.distinct
    rw [List.map_map] at hdistinct
    have hne := List.pairwise_iff_getElem.mp hdistinct j i (by rw [List.length_map]; omega)
      (by rwa [List.length_map]) hj
    rw [List.getElem_map, List.getElem_map] at hne
    exact hne

theorem validateEnvironment_eq_ok {list : List String} :
    validateEnvironment list = .ok () ↔ NamesOk (list.map utf8) :=
  Startup.checkNames_nil

end Environment

end Wyrmroot.Wrlj
