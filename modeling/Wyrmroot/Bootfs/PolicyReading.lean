import Wyrmroot.Bootfs.LaunchPolicy

/-!
# What the policy parser reads

A policy is one text: the header, a record an entry with the offset of its
path, and the paths. `parse` accepts exactly the texts of good entries in
order (`parse_eq_ok`), and reads these entries back.
-/

namespace Wyrmroot.Bootfs.Policy

open Outcome
open Loader (checkedAdd_eq_some)
open Startup (checkedMul_eq_some)

variable {bytes : List UInt8} {offset : Nat}

/-! ## Words -/

theorem readU16_eq_ok {v : UInt16} : readU16 bytes offset = .ok v ↔ Has bytes offset (u16 v) :=
  okOr_eq_ok.trans getU16_eq_some

theorem readU32_eq_ok {v : UInt32} : readU32 bytes offset = .ok v ↔ Has bytes offset (u32 v) :=
  okOr_eq_ok.trans getU32_eq_some

theorem readU64_eq_ok {v : UInt64} : readU64 bytes offset = .ok v ↔ Has bytes offset (u64 v) :=
  okOr_eq_ok.trans getU64_eq_some

theorem copySha256_eq_ok {digest : Sha256} :
    copySha256 bytes offset = .ok digest ↔ Has bytes offset digest.toList := by
  unfold copySha256
  rw [bind_eq_ok]
  constructor
  · rintro ⟨part, hpart, hdigest⟩
    rw [sliceAt_eq_ok] at hpart
    rw [dif_pos hpart.2] at hdigest
    obtain rfl := Outcome.ok.inj hdigest
    exact hpart.1
  · intro h
    have hlen : digest.toList.length = 32 := Vector.length_toList
    refine ⟨digest.toList, sliceAt_eq_ok.mpr ⟨h, hlen⟩, ?_⟩
    rw [dif_pos hlen]
    exact congrArg Outcome.ok (Vector.toList_inj.mp rfl)

/-! ## Stream modes -/

theorem streamModes_eq {modes : UInt16} (h : modes &&& ~~~3 = 0) :
    modes = (decide (modes &&& 1 ≠ 0)).toUInt16 ||| (decide (modes &&& 2 ≠ 0)).toUInt16 <<< 1 := by
  have hlow : modes.toBitVec &&& 3#16 = modes.toBitVec :=
    and_of_and_not (congrArg UInt16.toBitVec h)
  have hnat : modes.toNat &&& 3 = modes.toNat := congrArg BitVec.toNat hlow
  have hsmall : modes.toNat < 4 := by
    rw [← hnat, Nat.and_two_pow_sub_one_eq_mod _ 2]
    exact Nat.mod_lt _ (by decide)
  obtain h0 | h1 | h2 | h3 : modes = 0 ∨ modes = 1 ∨ modes = 2 ∨ modes = 3 := by
    simp only [← UInt16.toNat_inj]
    simp
    omega
  all_goals subst modes; decide

theorem streamModesOf_spec (entry : LaunchPolicyEntry) :
    streamModesOf entry &&& ~~~3 = 0 ∧
      decide (streamModesOf entry &&& 1 ≠ 0) = entry.allowNoStreams ∧
        decide (streamModesOf entry &&& 2 ≠ 0) = entry.allowThreeStreams := by
  unfold streamModesOf
  cases entry.allowNoStreams <;> cases entry.allowThreeStreams <;> decide

/-! ## Entries -/

/-- What an entry needs to be in a policy of this version. -/
structure EntryOk (minor : UInt16) (entry : LaunchPolicyEntry) : Prop where
  path : validatePath entry.path = .ok ()
  startupAbi : entry.startupAbi = 2
  profile : profileRefused minor entry.profileId entry.path = false
  streamModes : streamModesOf entry ≠ 0
  threeStreams : threeStreamsOnly entry.profileId = true → streamModesOf entry = 2
  contentSha256 : entry.contentSha256 ≠ noSha256

/-- The record of an entry whose path is at `offset` of the strings. -/
def recordText (offset : UInt32) (entry : LaunchPolicyEntry) : List UInt8 :=
  u32 offset ++ (u16 (UInt16.ofNat (utf8 entry.path).length) ++ (u16 entry.startupAbi ++
    (u16 entry.profileId ++ (u16 (streamModesOf entry) ++ (u32 1 ++
      (entry.contentSha256.toList ++ List.replicate 16 0))))))

@[simp] theorem length_recordText (offset : UInt32) (entry : LaunchPolicyEntry) :
    (recordText offset entry).length = 64 := by
  simp [recordText]

theorem length_path {path : String} (h : validatePath path = .ok ()) :
    0 < (utf8 path).length ∧ (utf8 path).length ≤ 256 := by
  simp only [validatePath, rejectIf_eq_ok, Bool.or_eq_false_iff, List.isEmpty_eq_false_iff,
    decide_eq_false_iff_not, Nat.not_lt] at h
  exact ⟨List.length_pos_of_ne_nil h.1.1.1.1.1, h.1.1.1.1.2⟩

theorem record_eq_ok {policy : LaunchPolicy} {index : Nat} {record : List UInt8}
    (hindex : index < 2 ^ 32) : policy.record index = .ok record ↔
      Has policy.bytes (64 + index * 64) record ∧ record.length = 64 := by
  simp only [LaunchPolicy.record, bind_eq_ok, okOr_eq_ok, checkedMul_eq_some, checkedAdd_eq_some,
    slice_eq_some_iff_has, recordBytes, headerBytes]
  constructor
  · rintro ⟨_, ⟨-, rfl⟩, _, ⟨-, rfl⟩, h⟩
    exact h
  · intro h
    exact ⟨_, ⟨by omega, rfl⟩, _, ⟨by omega, rfl⟩, h⟩

theorem parseEntry_eq_ok {policy : LaunchPolicy} {index : Nat} {entry : LaunchPolicyEntry}
    (hindex : index < 2 ^ 32) (hstrings : policy.stringsOffset < 2 ^ 32) :
    policy.parseEntry index = .ok entry ↔ EntryOk policy.minor entry ∧ ∃ offset : UInt32,
      Has policy.bytes (64 + index * 64) (recordText offset entry) ∧
        Has policy.bytes (policy.stringsOffset + offset.toNat) (utf8 entry.path) := by
  simp only [LaunchPolicy.parseEntry, bind_eq_ok, record_eq_ok hindex, readU16_eq_ok, readU32_eq_ok,
    copySha256_eq_ok, sliceAt_eq_ok, rejectIf_eq_ok, okOr_eq_ok, checkedAdd_eq_some,
    slice_eq_some_iff_has, fromUtf8_eq_some, Outcome.pure_eq, Outcome.ok.injEq, exists_const,
    Bool.or_eq_false_iff, Bool.and_eq_false_imp, decide_eq_false_iff_not, not_not, ne_eq]
  constructor
  · rintro ⟨record, ⟨hrecord, hlen⟩, _, ⟨hzeros, -⟩, rfl, pathOffset, hoffset, pathLen, hpathLen,
      ⟨-, -⟩, _, ⟨-, rfl⟩, _, -, _, ⟨hpath, hpathLength⟩, path, rfl, _, hvalid, startupAbi, habi,
      profileId, hprofile, ⟨rfl, hrefused⟩, streamModes, hmodes, ⟨⟨hne, hbits⟩, hthree⟩, _, hclass,
      rfl, digest, hdigest, hsha, rfl⟩
    have hmodesEq := streamModes_eq hbits
    have hlenEq : pathLen = UInt16.ofNat (utf8 path).length := by
      rw [hpathLength, UInt16.ofNat_toNat]
    have hmodesText := congrArg u16 hmodesEq
    have htext : record = recordText pathOffset
        { path, contentSha256 := digest, startupAbi := 2, profileId,
          allowNoStreams := decide (¬ streamModes &&& 1 = 0),
          allowThreeStreams := decide (¬ streamModes &&& 2 = 0) } := by
      refine has_whole.mp ⟨?_, by rw [hlen, length_recordText]⟩
      simp only [recordText, has_append, length_u32, length_u16, Vector.length_toList]
      exact ⟨hoffset, hlenEq ▸ hpathLen, habi, hprofile, hmodesText ▸ hmodes, hclass, hdigest, hzeros⟩
    refine ⟨⟨hvalid, rfl, hrefused, ?_, ?_, hsha⟩, pathOffset, htext ▸ hrecord, hpath⟩
    · exact fun h => hne (hmodesEq.trans h)
    · exact fun h => hmodesEq.symm.trans (hthree h)
  · rintro ⟨hok, pathOffset, hrecord, hpath⟩
    obtain ⟨hbits, hno, hthree⟩ := streamModesOf_spec entry
    obtain ⟨hpos, hmax⟩ := length_path hok.path
    have hlen : (UInt16.ofNat (utf8 entry.path).length).toNat = (utf8 entry.path).length :=
      UInt16.toNat_ofNat_of_lt (by simp [UInt16.size]; omega)
    have hinner := (@has_whole (recordText pathOffset entry) _).mpr rfl
    simp only [recordText, has_append, length_u32, length_u16, Vector.length_toList] at hinner
    obtain ⟨⟨hoffset, hpathLen, habi, hprofile, hmodes, hclass, hdigest, hzeros⟩, -⟩ := hinner
    have hoff := pathOffset.toNat_lt
    refine ⟨_, ⟨hrecord, length_recordText _ _⟩, _, ⟨hzeros, rfl⟩, rfl, pathOffset, hoffset, _,
      hpathLen, ⟨fun h => ?_, ?_⟩, _, ⟨by omega, rfl⟩, _, ⟨by omega, rfl⟩, _, ⟨hpath, hlen.symm⟩,
      entry.path, rfl, (), hok.path, _, habi, _, hprofile, ⟨hok.startupAbi, hok.profile⟩, _, hmodes,
      ⟨⟨hok.streamModes, hbits⟩, hok.threeStreams⟩, _, hclass, rfl, _, hdigest, hok.contentSha256, ?_⟩
    · rw [h] at hlen
      exact absurd hlen (Nat.ne_of_lt hpos)
    · rw [hlen]
      exact Nat.not_lt.mpr hmax
    · simp only [ne_eq] at hno hthree
      rw [hno, hthree]

/-! ## All entries -/

/-- The records of these entries, whose paths start at `offset`. -/
def recordsText (offset : Nat) : List LaunchPolicyEntry → List UInt8
  | [] => []
  | entry :: rest => recordText (UInt32.ofNat offset) entry ++
      recordsText (offset + (utf8 entry.path).length) rest

/-- The paths of these entries. -/
def stringsText : List LaunchPolicyEntry → List UInt8
  | [] => []
  | entry :: rest => utf8 entry.path ++ stringsText rest

@[simp] theorem length_recordsText (entries : List LaunchPolicyEntry) : ∀ offset,
    (recordsText offset entries).length = entries.length * 64 := by
  induction entries with
  | nil => exact fun _ => (Nat.zero_mul 64).symm
  | cons entry rest ih =>
      intro offset
      rw [recordsText, List.length_append, length_recordText, ih, List.length_cons]
      omega

/-- The paths go up, from `previous` on. -/
def Ascending : Option String → List LaunchPolicyEntry → Prop
  | _, [] => True
  | previous, entry :: rest =>
      (∀ path, previous = some path → utf8 path < utf8 entry.path) ∧ Ascending (some entry.path) rest

theorem previous_eq_false {previous : Option String} {path : String} :
    (previous.any fun p => utf8 path ≤ utf8 p) = false ↔
      ∀ p, previous = some p → utf8 p < utf8 path := by
  cases previous <;> simp

/-- What the loop of `parse` establishes of the entries from `index` on. -/
structure Laid (policy : LaunchPolicy) (offset index : Nat) (entries : List LaunchPolicyEntry) :
    Prop where
  ok : ∀ entry ∈ entries, EntryOk policy.minor entry
  records : Has policy.bytes (64 + index * 64) (recordsText offset entries)
  strings : Has policy.bytes (policy.stringsOffset + offset) (stringsText entries)

/-- The entries that `parse_entry` reads from `index` on. -/
def ReadsFrom (policy : LaunchPolicy) (index : Nat) (entries : List LaunchPolicyEntry) : Prop :=
  ∀ i entry, entries[i]? = some entry → policy.parseEntry (index + i) = .ok entry

theorem readsFrom_cons {policy : LaunchPolicy} {index : Nat} {entry : LaunchPolicyEntry}
    {rest : List LaunchPolicyEntry} (hfirst : policy.parseEntry index = .ok entry)
    (hrest : ReadsFrom policy (index + 1) rest) : ReadsFrom policy index (entry :: rest) := by
  intro i other hother
  cases i with
  | zero =>
      obtain rfl := Option.some.inj hother
      exact hfirst
  | succ i =>
      rw [show index + (i + 1) = index + 1 + i by omega]
      exact hrest i other hother

section Loop

variable {policy : LaunchPolicy} (hstrings : policy.stringsOffset < 2 ^ 32)
  (hcount : policy.count ≤ 32)

include hstrings hcount

theorem checkEntries_sound {remaining : Nat} :
    ∀ {previous : Option String} {expected index final : Nat}, index + remaining = policy.count →
      64 + policy.count * 64 ≤ policy.bytes.length →
        policy.checkEntries previous expected index remaining = .ok final →
          policy.stringsOffset + final ≤ policy.bytes.length →
            ∃ entries, entries.length = remaining ∧ Laid policy expected index entries ∧
              ReadsFrom policy index entries ∧ Ascending previous entries ∧
                final = expected + (stringsText entries).length := by
  induction remaining with
  | zero =>
      intro previous expected index final hindex hfits h hfinal
      obtain rfl := Outcome.ok.inj h
      have hnil : ∀ n, n ≤ policy.bytes.length → Has policy.bytes n [] := fun n hn =>
        slice_eq_some.mpr ⟨hn, rfl⟩
      exact ⟨[], rfl, ⟨nofun, hnil _ (by omega), hnil _ hfinal⟩, nofun, trivial, rfl⟩
  | succ remaining ih =>
      intro previous expected index final hindex hfits h hfinal
      have hopen : ¬ policy.count ≤ index := by omega
      simp only [LaunchPolicy.checkEntries, LaunchPolicy.entry, if_neg hopen, okOr_some, ok_bind,
        bind_eq_ok, rejectIf_eq_ok, readU32_eq_ok, okOr_eq_ok, checkedAdd_eq_some,
        record_eq_ok (show index < 2 ^ 32 by omega), previous_eq_false, decide_eq_false_iff_not,
        not_not, ne_eq, exists_const] at h
      obtain ⟨entry, hentry, habove, record, ⟨hrecord, hrecordLen⟩, pathOffset, hpathOffset, rfl, _,
        ⟨-, rfl⟩, hgo⟩ := h
      obtain ⟨hok, pathOffset', hrecord', hpath⟩ :=
        (parseEntry_eq_ok (by omega) hstrings).mp hentry
      obtain ⟨rest, hlen, hlaid, hreads, hascending, rfl⟩ := ih (by omega) hfits hgo hfinal
      -- Both reads of the offset saw the same four bytes.
      have hwhole : record = recordText pathOffset' entry :=
        has_unique hrecord hrecord' (hrecordLen.trans (length_recordText _ _).symm)
      have hsame : pathOffset' = pathOffset := by
        have hinner := (@has_whole (recordText pathOffset' entry) _).mpr rfl
        rw [recordText, has_append, ← recordText, ← hwhole] at hinner
        exact Option.some.inj ((getU32_eq_some.mpr hinner.1.1).symm.trans
          (getU32_eq_some.mpr hpathOffset))
      subst hsame
      refine ⟨entry :: rest, by rw [List.length_cons, hlen], ⟨?_, ?_, ?_⟩,
        readsFrom_cons hentry hreads, ⟨habove, hascending⟩, ?_⟩
      · exact List.forall_mem_cons.mpr ⟨hok, hlaid.ok⟩
      · rw [recordsText, UInt32.ofNat_toNat, has_append, length_recordText]
        refine ⟨hrecord', ?_⟩
        rw [show 64 + index * 64 + 64 = 64 + (index + 1) * 64 by omega]
        exact hlaid.records
      · rw [stringsText, has_append, Nat.add_assoc]
        exact ⟨hpath, hlaid.strings⟩
      · rw [stringsText, List.length_append, Nat.add_assoc]

theorem checkEntries_complete {entries : List LaunchPolicyEntry} :
    ∀ {previous : Option String} {expected index : Nat}, index + entries.length = policy.count →
      Laid policy expected index entries → Ascending previous entries →
        expected + (stringsText entries).length < 2 ^ 32 →
          policy.checkEntries previous expected index entries.length =
              .ok (expected + (stringsText entries).length) ∧ ReadsFrom policy index entries := by
  induction entries with
  | nil => exact fun _ _ _ _ => ⟨rfl, nofun⟩
  | cons entry rest ih =>
      intro previous expected index hindex hlaid hascending hsmall
      rw [List.length_cons] at hindex
      rw [stringsText, List.length_append] at hsmall
      obtain ⟨hok, hokRest⟩ := List.forall_mem_cons.mp hlaid.ok
      have hrecords := hlaid.records
      rw [recordsText, has_append, length_recordText] at hrecords
      have hstringsHas := hlaid.strings
      rw [stringsText, has_append] at hstringsHas
      have hoffset : (UInt32.ofNat expected).toNat = expected :=
        UInt32.toNat_ofNat_of_lt (by simp [UInt32.size]; omega)
      have hentry : policy.parseEntry index = .ok entry :=
        (parseEntry_eq_ok (by omega) hstrings).mpr ⟨hok, _, hrecords.1, hoffset.symm ▸ hstringsHas.1⟩
      have hrest : Laid policy (expected + (utf8 entry.path).length) (index + 1) rest := by
        refine ⟨hokRest, ?_, ?_⟩
        · rw [show 64 + (index + 1) * 64 = 64 + index * 64 + 64 by omega]
          exact hrecords.2
        · rw [← Nat.add_assoc]
          exact hstringsHas.2
      obtain ⟨hgo, hreads⟩ := ih (by omega) hrest hascending.2 (by omega)
      refine ⟨?_, readsFrom_cons hentry hreads⟩
      have hinner := (@has_whole (recordText (UInt32.ofNat expected) entry) _).mpr rfl
      rw [recordText, has_append, ← recordText] at hinner
      have hopen : ¬ policy.count ≤ index := by omega
      rw [List.length_cons]
      simp only [LaunchPolicy.checkEntries, LaunchPolicy.entry, if_neg hopen, okOr_some, ok_bind,
        hentry, bind_eq_ok, rejectIf_eq_ok, readU32_eq_ok, okOr_eq_ok, checkedAdd_eq_some,
        record_eq_ok (show index < 2 ^ 32 by omega), previous_eq_false, decide_eq_false_iff_not,
        not_not, ne_eq, exists_const]
      refine ⟨hascending.1, _, ⟨hrecords.1, length_recordText _ _⟩, _, hinner.1.1, hoffset, _,
        ⟨by omega, rfl⟩, ?_⟩
      rw [hgo, stringsText, List.length_append, Nat.add_assoc]

end Loop

/-! ## The whole policy -/

/-- The header. -/
def headerText (minor : UInt16) (boot : Sha256) (count total stringBytes : Nat) : List UInt8 :=
  magic ++ (u16 versionMajor ++ (u16 minor ++ (u16 (UInt16.ofNat headerBytes) ++
    (u16 (UInt16.ofNat recordBytes) ++ (u16 (UInt16.ofNat count) ++ (u16 0 ++
      (u32 (UInt32.ofNat total) ++ (u32 (UInt32.ofNat stringBytes) ++ (boot.toList ++ u64 0)))))))))

@[simp] theorem length_headerText (minor : UInt16) (boot : Sha256) (count total stringBytes : Nat) :
    (headerText minor boot count total stringBytes).length = 64 := by
  simp [headerText, magic]

/-- The length of the policy of these entries. -/
def totalOf (entries : List LaunchPolicyEntry) : Nat :=
  64 + entries.length * 64 + (stringsText entries).length

def policyText (minor : UInt16) (boot : Sha256) (entries : List LaunchPolicyEntry) : List UInt8 :=
  headerText minor boot entries.length (totalOf entries) (stringsText entries).length ++
    (recordsText 0 entries ++ stringsText entries)

@[simp] theorem length_policyText (minor : UInt16) (boot : Sha256)
    (entries : List LaunchPolicyEntry) :
    (policyText minor boot entries).length = totalOf entries := by
  simp only [policyText, List.length_append, length_headerText, length_recordsText, totalOf]
  omega

/-- What a policy needs. -/
structure PolicyOk (minor : UInt16) (boot : Sha256) (entries : List LaunchPolicyEntry) : Prop where
  version : minor = versionMinorHistorical ∨ minor = versionMinorWyrmsh ∨
    minor = versionMinorRecoveryTrigger
  boot : boot ≠ noSha256
  count : 1 ≤ entries.length ∧ entries.length ≤ 32
  entriesOk : ∀ entry ∈ entries, EntryOk minor entry
  ascending : Ascending none entries

/-- The parsed policy of these entries. -/
def policyOf (minor : UInt16) (boot : Sha256) (entries : List LaunchPolicyEntry) : LaunchPolicy :=
  { bytes := policyText minor boot entries, count := entries.length,
    stringsOffset := 64 + entries.length * 64, bootGenerationSha256 := boot, minor }

theorem length_stringsText {minor : UInt16} {entries : List LaunchPolicyEntry}
    (h : ∀ entry ∈ entries, EntryOk minor entry) :
    (stringsText entries).length ≤ entries.length * 256 := by
  induction entries with
  | nil => exact Nat.zero_le _
  | cons entry rest ih =>
      obtain ⟨hok, hrest⟩ := List.forall_mem_cons.mp h
      have hmax := (length_path hok.path).2
      have hle := ih hrest
      rw [stringsText, List.length_append, List.length_cons]
      omega

theorem toNat_ofNat_u16 {n : Nat} (h : n < 65536) : (UInt16.ofNat n).toNat = n :=
  UInt16.toNat_ofNat_of_lt h

theorem toNat_ofNat_u32 {n : Nat} (h : n < 4294967296) : (UInt32.ofNat n).toNat = n :=
  UInt32.toNat_ofNat_of_lt h

theorem policyOf_laid {minor : UInt16} {boot : Sha256} {entries : List LaunchPolicyEntry}
    (h : ∀ entry ∈ entries, EntryOk minor entry) : Laid
    (policyOf minor boot entries) 0 0 entries := by
  have hwhole := (@has_whole (policyText minor boot entries) _).mpr rfl
  rw [policyText, has_append, has_append, length_headerText, length_recordsText,
    ← policyText] at hwhole
  refine ⟨h, ?_, ?_⟩
  · simpa [policyOf] using hwhole.1.2.1
  · simpa [policyOf] using hwhole.1.2.2

theorem parse_sound {policy : LaunchPolicy} (h : LaunchPolicy.parse bytes = .ok policy) :
    ∃ entries, PolicyOk policy.minor policy.bootGenerationSha256 entries ∧
      bytes = policyText policy.minor policy.bootGenerationSha256 entries ∧
        policy = policyOf policy.minor policy.bootGenerationSha256 entries ∧
          ReadsFrom policy 0 entries := by
  simp only [LaunchPolicy.parse, bind_eq_ok, readU16_eq_ok, readU32_eq_ok, readU64_eq_ok,
    copySha256_eq_ok, sliceAt_eq_ok, rejectIf_eq_ok, okOr_eq_ok, checkedMul_eq_some,
    checkedAdd_eq_some, Outcome.pure_eq, Outcome.ok.injEq, exists_const, Bool.or_eq_false_iff,
    Bool.not_eq_false', Bool.and_eq_true, Bool.or_eq_true, decide_eq_false_iff_not,
    decide_eq_true_eq, not_not, ne_eq] at h
  simp only [headerBytes, recordBytes, maxEntries] at h
  obtain ⟨-, _, ⟨hmagic, -⟩, rfl, minor, hminor, _, hmajor, ⟨rfl, hversion⟩, size, hsize, recordSize,
    hrecordSize, ⟨hsize64, hrecord64⟩, count, hcount, hrange, _, hreserved, _, hreserved',
    ⟨rfl, rfl⟩, total, htotal, htotalEq, strings, hstrings, _, ⟨-, rfl⟩, _, ⟨-, rfl⟩, _, ⟨-, rfl⟩,
    hend, boot, hboot, hbootNe, final, hloop, rfl, rfl⟩ := h
  obtain ⟨entries, hlen, hlaid, hreads, hascending, hfinal⟩ := @checkEntries_sound
    ⟨bytes, count.toNat, 64 + count.toNat * 64, boot, minor⟩ (by simp; omega) hrange.2 count.toNat
    none 0 0 strings.toNat (Nat.zero_add _) (by simp; omega) hloop (by simp; omega)
  rw [Nat.zero_add] at hfinal
  have hcountEq : count = UInt16.ofNat entries.length := by rw [hlen, UInt16.ofNat_toNat]
  have hstringsEq : strings = UInt32.ofNat (stringsText entries).length := by
    rw [← hfinal, UInt32.ofNat_toNat]
  have htotalNat : total.toNat = totalOf entries := by
    rw [htotalEq, ← hend, hfinal, totalOf, hlen]
  have htotalEq' : total = UInt32.ofNat (totalOf entries) := by rw [← htotalNat, UInt32.ofNat_toNat]
  have hsizeEq : size = UInt16.ofNat headerBytes := UInt16.toNat_inj.mp hsize64
  have hrecordEq : recordSize = UInt16.ofNat recordBytes := UInt16.toNat_inj.mp hrecord64
  have htext : bytes = policyText minor boot entries := by
    refine has_whole.mp ⟨?_, ?_⟩
    · simp only [policyText, headerText, has_append, List.length_append, length_u16, length_u32,
        length_u64, Vector.length_toList, length_recordsText]
      have hrecords := hlaid.records
      have hstringsHas := hlaid.strings
      refine ⟨⟨hmagic, hmajor, hminor, hsizeEq ▸ hsize, hrecordEq ▸ hrecordSize, hcountEq ▸ hcount,
        hreserved, htotalEq' ▸ htotal, hstringsEq ▸ hstrings, hboot, hreserved'⟩, hrecords, ?_⟩
      rw [← hlen] at hstringsHas
      exact hstringsHas
    · rw [length_policyText, ← htotalNat, htotalEq]
  refine ⟨entries, ⟨?_, hbootNe, hlen ▸ hrange, hlaid.ok, hascending⟩, htext, ?_, hreads⟩
  · exact or_assoc.mp hversion
  · rw [policyOf, ← htext, hlen]

theorem parse_complete {minor : UInt16} {boot : Sha256} {entries : List LaunchPolicyEntry}
    (h : PolicyOk minor boot entries) :
    LaunchPolicy.parse (policyText minor boot entries) = .ok (policyOf minor boot entries) ∧
      ReadsFrom (policyOf minor boot entries) 0 entries := by
  have hcount := h.count
  have hstrings := length_stringsText h.entriesOk
  have htotal : totalOf entries = 64 + entries.length * 64 + (stringsText entries).length := rfl
  have hcountNat : (UInt16.ofNat entries.length).toNat = entries.length :=
    toNat_ofNat_u16 (by omega)
  have htotalNat : (UInt32.ofNat (totalOf entries)).toNat = totalOf entries :=
    toNat_ofNat_u32 (by omega)
  have hstringsNat : (UInt32.ofNat (stringsText entries).length).toNat =
      (stringsText entries).length := toNat_ofNat_u32 (by omega)
  have hlaid := @policyOf_laid minor boot entries h.entriesOk
  obtain ⟨hloop, hreads⟩ := @checkEntries_complete (policyOf minor boot entries)
    (by simp [policyOf]; omega) hcount.2 entries none 0 0 (Nat.zero_add _) hlaid h.ascending
    (by omega)
  rw [Nat.zero_add] at hloop
  refine ⟨?_, hreads⟩
  have hwhole := (@has_whole (policyText minor boot entries) _).mpr rfl
  rw [policyText, has_append, ← policyText, headerText] at hwhole
  simp only [has_append, length_u16, length_u32, Vector.length_toList] at hwhole
  obtain ⟨⟨⟨hmagic, hmajor, hminor, hsize, hrecordSize, hcount16, hreserved, htotal32, hstrings32,
    hboot, hreserved'⟩, -⟩, -⟩ := hwhole
  simp only [LaunchPolicy.parse, bind_eq_ok, readU16_eq_ok, readU32_eq_ok, readU64_eq_ok,
    copySha256_eq_ok, sliceAt_eq_ok, rejectIf_eq_ok, okOr_eq_ok, checkedMul_eq_some,
    checkedAdd_eq_some, Outcome.pure_eq, Outcome.ok.injEq, exists_const, Bool.or_eq_false_iff,
    Bool.not_eq_false', Bool.and_eq_true, Bool.or_eq_true, decide_eq_false_iff_not,
    decide_eq_true_eq, not_not, ne_eq, length_policyText]
  refine ⟨?_, _, ⟨hmagic, rfl⟩, rfl, minor, hminor, _, hmajor, ⟨rfl, or_assoc.mpr h.version⟩, _, hsize,
    _, hrecordSize, ⟨rfl, rfl⟩, _, hcount16, ?_, _, hreserved, _, hreserved', ⟨rfl, rfl⟩, _, htotal32,
    htotalNat, _, hstrings32, _, ⟨?_, rfl⟩, _, ⟨?_, rfl⟩, _, ⟨?_, rfl⟩, ?_, boot, hboot, h.boot,
    (stringsText entries).length, ?_, hstringsNat.symm, ?_⟩
  all_goals simp only [hcountNat, hstringsNat, headerBytes, recordBytes, maxEntries]
  · omega
  · exact hcount
  · omega
  · omega
  · omega
  · exact htotal.symm
  · exact hloop
  · rfl

end Wyrmroot.Bootfs.Policy
