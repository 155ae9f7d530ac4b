import Wyrmroot.Bootfs.PolicyReading

/-!
# Encoding and reading a launch policy

The encoder's checks are the parser's, in another order, and what it writes
is the text that the parser reads. So the two are inverse to one another,
and `find` finds what was encoded.
-/

namespace Wyrmroot.Bootfs.Policy

open Outcome
open Loader (checkedAdd checkedAdd_eq_some)

variable {offset position : Nat} {old : List UInt8}

/-! ## The checks of the encoder -/

theorem profileUnencodable_eq (minor profileId : UInt16) (path : String) :
    profileUnencodable minor profileId path = profileRefused minor profileId path := by
  unfold profileUnencodable profileRefused
  by_cases hrecovery : minor = versionMinorRecoveryTrigger ∧ profileId = recoveryTriggerProfileId
  · obtain ⟨rfl, rfl⟩ := hrecovery
    rfl
  · simp only [hrecovery, if_false]

theorem checkEntry_eq_ok {minor : UInt16} {previous : Option String} {entry : LaunchPolicyEntry}
    {u : Unit} : checkEntry minor previous entry = .ok u ↔ EntryOk minor entry ∧
      ∀ path, previous = some path → utf8 path < utf8 entry.path := by
  simp only [checkEntry, bind_eq_ok, rejectIf_eq_ok, previous_eq_false, profileUnencodable_eq,
    Bool.or_eq_false_iff, Bool.and_eq_false_imp, decide_eq_false_iff_not, not_not, ne_eq,
    exists_const]
  constructor
  · rintro ⟨_, hpath, habove, hsha, ⟨habi, hprofile⟩, hmodes, hthree⟩
    exact ⟨⟨hpath, habi, hprofile, hmodes, hthree, hsha⟩, habove⟩
  · rintro ⟨hok, habove⟩
    exact ⟨(), hok.path, habove, hok.contentSha256, ⟨hok.startupAbi, hok.profile⟩, hok.streamModes,
      hok.threeStreams⟩

variable {stringsStart : Nat}

theorem encodeEntries_checked {minor : UInt16}
    {entries : List LaunchPolicyEntry} : ∀ {previous : Option String} {stringOffset index : Nat}
      {out out' : List UInt8} {w : List Empty},
      encodeEntries minor stringsStart previous stringOffset index entries out = (.ok (), out', w) →
        (∀ entry ∈ entries, EntryOk minor entry) ∧ Ascending previous entries := by
  induction entries with
  | nil => exact fun _ => ⟨nofun, trivial⟩
  | cons entry rest ih =>
      intro previous stringOffset index out out' w h
      obtain ⟨u, s₁, w₁, w₂, hcheck, hwrites, -⟩ := Prog.bind_run_eq_ok h
      obtain ⟨_, s₂, _, _, -, hrest, -⟩ := Prog.bind_run_eq_ok hwrites
      obtain ⟨hok, habove⟩ := checkEntry_eq_ok.mp (congrArg Prod.fst hcheck)
      obtain ⟨hokRest, hascending⟩ := ih hrest
      exact ⟨List.forall_mem_cons.mpr ⟨hok, hokRest⟩, habove, hascending⟩

/-! ## What the encoder writes -/

theorem putU16_turns {v : UInt16} (hat : position = offset) (hold : old.length = 2) :
    Turns (putU16 position v) () offset old (u16 v) :=
  hat ▸ .put (by rw [hold, length_u16])

theorem putU32_turns {v : UInt32} (hat : position = offset) (hold : old.length = 4) :
    Turns (putU32 position v) () offset old (u32 v) :=
  hat ▸ .put (by rw [hold, length_u32])

theorem storeBytes_turns {new : List UInt8} (hat : position = offset)
    (hold : old.length = new.length) :
    Turns (storeBytes position new : PolicyEncoder Unit) () offset old new :=
  hat ▸ .store hold

def zeros (n : Nat) : List UInt8 := List.replicate n 0

@[simp] theorem length_zeros (n : Nat) : (zeros n).length = n := List.length_replicate

theorem zeros_add (n m : Nat) : zeros (n + m) = zeros n ++ zeros m := List.replicate_add ..

theorem writeEntry_turns {stringsStart stringOffset index : Nat} {entry : LaunchPolicyEntry}
    {middle : List UInt8} (habi : entry.startupAbi = 2)
    (hplace : 64 + index * 64 + 64 + middle.length = stringsStart + stringOffset) :
    Turns (writeEntry stringsStart stringOffset index entry) () (64 + index * 64)
      (zeros 64 ++ (middle ++ zeros (utf8 entry.path).length))
      (recordText (UInt32.ofNat stringOffset) entry ++ (middle ++ utf8 entry.path)) := by
  have hsha : entry.contentSha256.toList.length = 32 := Vector.length_toList
  have hzeros : zeros 64 ++ (middle ++ zeros (utf8 entry.path).length) =
      zeros 4 ++ (zeros 2 ++ (zeros 2 ++ (zeros 2 ++ (zeros 2 ++ (zeros 4 ++ (zeros 32 ++
        ((zeros 16 ++ middle) ++ zeros (utf8 entry.path).length))))))) := by
    rw [show zeros 64 = zeros 4 ++ (zeros 2 ++ (zeros 2 ++ (zeros 2 ++ (zeros 2 ++ (zeros 4 ++
      (zeros 32 ++ zeros 16)))))) from rfl]
    simp only [List.append_assoc]
  have htext : recordText (UInt32.ofNat stringOffset) entry ++ (middle ++ utf8 entry.path) =
      u32 (UInt32.ofNat stringOffset) ++ (u16 (UInt16.ofNat (utf8 entry.path).length) ++ (u16 2 ++
        (u16 entry.profileId ++ (u16 (streamModesOf entry) ++ (u32 1 ++
          (entry.contentSha256.toList ++ ((zeros 16 ++ middle) ++ utf8 entry.path))))))) := by
    simp only [recordText, habi, zeros, List.append_assoc]
  rw [hzeros, htext]
  unfold writeEntry
  simp only [headerBytes, recordBytes]
  refine .append (putU32_turns rfl rfl) (.append (putU16_turns ?_ rfl) (.append (putU16_turns ?_ rfl)
    (.append (putU16_turns ?_ rfl) (.append (putU16_turns ?_ rfl) (.append (putU32_turns ?_ rfl)
      (.append (storeBytes_turns ?_ ?_) (.behind (storeBytes_turns ?_ ?_))))))))
  all_goals simp
  all_goals omega

theorem encodeEntries_turns {minor : UInt16}
    {entries : List LaunchPolicyEntry} (hok : ∀ entry ∈ entries, EntryOk minor entry) :
    ∀ (previous : Option String) (index : Nat) (written : List UInt8), Ascending previous entries →
      stringsStart = 64 + (index + entries.length) * 64 →
        Turns (encodeEntries minor stringsStart previous written.length index entries) ()
          (64 + index * 64)
          (zeros (entries.length * 64) ++ (written ++ zeros (stringsText entries).length))
          (recordsText written.length entries ++ (written ++ stringsText entries)) := by
  induction entries with
  | nil => exact fun _ _ _ _ _ => .pure ()
  | cons entry rest ih =>
      intro previous index written hascending hstart
      obtain ⟨hfirst, hrest⟩ := List.forall_mem_cons.mp hok
      have hcheck : checkEntry minor previous entry = .ok () :=
        checkEntry_eq_ok.mpr ⟨hfirst, hascending.1⟩
      rw [List.length_cons] at hstart
      have hwrite := @writeEntry_turns stringsStart written.length index entry
        (zeros (rest.length * 64) ++ written) hfirst.startupAbi (by simp; omega)
      have hnext := ih hrest (some entry.path) (index + 1) (written ++ utf8 entry.path)
        hascending.2 (by omega)
      have hold : zeros ((entry :: rest).length * 64) ++
          (written ++ zeros (stringsText (entry :: rest)).length) =
          (zeros 64 ++ ((zeros (rest.length * 64) ++ written) ++ zeros (utf8 entry.path).length)) ++
            zeros (stringsText rest).length := by
        rw [List.length_cons, Nat.succ_mul, Nat.add_comm, zeros_add, stringsText, List.length_append,
          zeros_add]
        simp only [List.append_assoc]
      have hmid : (recordText (UInt32.ofNat written.length) entry ++
          ((zeros (rest.length * 64) ++ written) ++ utf8 entry.path)) ++
            zeros (stringsText rest).length =
          recordText (UInt32.ofNat written.length) entry ++ (zeros (rest.length * 64) ++
            ((written ++ utf8 entry.path) ++ zeros (stringsText rest).length)) := by
        simp only [List.append_assoc]
      have hnew : recordsText written.length (entry :: rest) ++
          (written ++ stringsText (entry :: rest)) =
          recordText (UInt32.ofNat written.length) entry ++
            (recordsText (written ++ utf8 entry.path).length rest ++
              ((written ++ utf8 entry.path) ++ stringsText rest)) := by
        simp only [recordsText, stringsText, List.length_append, List.append_assoc]
      rw [hold, hnew]
      refine .bind (.lift hcheck) (.bind (.before hwrite) ?_)
      rw [hmid]
      rw [List.length_append] at hnext
      refine .behind ?_
      rw [length_recordText, show 64 + index * 64 + 64 = 64 + (index + 1) * 64 by omega]
      rw [List.length_append]
      exact hnext

theorem writePolicy_turns {minor : UInt16} {boot : Sha256} {entries : List LaunchPolicyEntry}
    (hok : ∀ entry ∈ entries, EntryOk minor entry) (hascending : Ascending none entries)
    (hold : old.length = totalOf entries) :
    Turns (writePolicy minor boot entries (totalOf entries) (stringsText entries).length) () 0 old
      (policyText minor boot entries) := by
  have hboot : boot.toList.length = 32 := Vector.length_toList
  have hzeros : zeros (totalOf entries) =
      zeros 4 ++ (zeros 2 ++ (zeros 2 ++ (zeros 2 ++ (zeros 2 ++ (zeros 2 ++ (u16 0 ++ (zeros 4 ++
        (zeros 4 ++ (zeros 32 ++ (u64 0 ++ (zeros (entries.length * 64) ++
          ([] ++ zeros (stringsText entries).length)))))))))))) := by
    rw [totalOf, Nat.add_assoc, zeros_add, zeros_add]
    rfl
  have htext : policyText minor boot entries =
      magic ++ (u16 versionMajor ++ (u16 minor ++ (u16 (UInt16.ofNat headerBytes) ++
        (u16 (UInt16.ofNat recordBytes) ++ (u16 (UInt16.ofNat entries.length) ++ (u16 0 ++
          (u32 (UInt32.ofNat (totalOf entries)) ++
            (u32 (UInt32.ofNat (stringsText entries).length) ++ (boot.toList ++ (u64 0 ++
              (recordsText ([] : List UInt8).length entries ++
                ([] ++ stringsText entries)))))))))))) := by
    simp only [policyText, headerText, List.append_assoc]
    rfl
  refine .bind (storeBytes_turns rfl ((hold.trans List.length_replicate.symm))) ?_
  show Turns _ _ _ (zeros (totalOf entries)) _
  rw [hzeros, htext]
  refine .append (storeBytes_turns rfl rfl) (.append (putU16_turns rfl rfl)
    (.append (putU16_turns rfl rfl) (.append (putU16_turns rfl rfl) (.append (putU16_turns rfl rfl)
      (.append (putU16_turns rfl rfl) (.behind (.append (putU32_turns rfl rfl)
        (.append (putU32_turns rfl rfl) (.append (storeBytes_turns rfl hboot.symm)
          (.behind ?_))))))))))
  have hloop := encodeEntries_turns hok none 0 [] hascending rfl
  have hstart : headerBytes + entries.length * recordBytes = 64 + (0 + entries.length) * 64 := by
    rw [Nat.zero_add]
    rfl
  simp only [hstart, length_u16, length_u32, length_u64, hboot]
  exact hloop

theorem stringBytesOf_eq {entries : List LaunchPolicyEntry} : ∀ {sum result : Nat},
    stringBytesOf sum entries = .ok result → result = sum + (stringsText entries).length := by
  induction entries with
  | nil => exact fun h => (Outcome.ok.inj h).symm
  | cons entry rest ih =>
      intro sum result h
      simp only [stringBytesOf, bind_eq_ok, okOr_eq_ok, checkedAdd_eq_some] at h
      obtain ⟨_, ⟨-, rfl⟩, hrest⟩ := h
      rw [ih hrest, stringsText, List.length_append, Nat.add_assoc]

theorem stringBytesOf_ok {entries : List LaunchPolicyEntry} : ∀ {sum : Nat},
    sum + (stringsText entries).length < 2 ^ 64 →
      stringBytesOf sum entries = .ok (sum + (stringsText entries).length) := by
  induction entries with
  | nil => exact fun _ => rfl
  | cons entry rest ih =>
      intro sum h
      rw [stringsText, List.length_append] at h
      have hadd : checkedAdd sum (utf8 entry.path).length = some (sum + (utf8 entry.path).length) :=
        checkedAdd_eq_some.mpr ⟨by omega, rfl⟩
      rw [stringBytesOf, hadd, okOr_some, ok_bind, ih (by omega), stringsText, List.length_append,
        Nat.add_assoc]

/-! ## The whole encoder -/

section

variable {minor : UInt16} {boot : Sha256} {entries : List LaunchPolicyEntry} {out : List UInt8}

theorem encodeVersion_complete (h : PolicyOk minor boot entries)
    (hroom : totalOf entries ≤ out.length) :
    encodeVersion minor boot entries out =
      (.ok (totalOf entries), policyText minor boot entries ++ out.drop (totalOf entries), []) := by
  obtain ⟨hpos, hmax⟩ := h.count
  have hstrings := length_stringsText h.entriesOk
  have htotal : totalOf entries = 64 + entries.length * 64 + (stringsText entries).length := rfl
  have hboot : (rejectIf (boot = noSha256) .invalidBootGeneration : PolicyCheck Unit) = .ok () := by
    simp [h.boot]
  have hnonempty : entries ≠ [] := List.ne_nil_of_length_pos hpos
  have hcount : (rejectIf (entries.isEmpty || maxEntries < entries.length) .invalidCount :
      PolicyCheck Unit) = .ok () := by
    have hle : ¬ maxEntries < entries.length := Nat.not_lt.mpr hmax
    rw [List.isEmpty_eq_false_iff.mpr hnonempty, decide_eq_false hle]
    rfl
  have hbytes := @stringBytesOf_ok entries 0 (by omega)
  rw [Nat.zero_add] at hbytes
  have hsum : (checkedAdd headerBytes (entries.length * recordBytes)).bind
      (checkedAdd · (stringsText entries).length) = some (totalOf entries) := by
    rw [Option.bind_eq_some_iff]
    simp only [checkedAdd_eq_some, headerBytes, recordBytes]
    exact ⟨_, ⟨by omega, rfl⟩, by omega, rfl⟩
  have hfits : (rejectIf (out.length < totalOf entries) .wrongSize : PolicyCheck Unit) = .ok () := by
    simp [Nat.not_lt.mpr hroom]
  have hlen : (out.take (totalOf entries)).length = totalOf entries := by
    rw [List.length_take]
    omega
  have hwrite := (@writePolicy_turns (out.take (totalOf entries)) minor boot entries h.entriesOk
    h.ascending hlen).run (out.drop (totalOf entries))
  rw [List.take_append_drop] at hwrite
  have htake : (policyText minor boot entries ++ out.drop (totalOf entries)).take
      (totalOf entries) = policyText minor boot entries :=
    List.take_left' (length_policyText minor boot entries)
  unfold encodeVersion
  simp only [Prog.bind_run, Prog.lift_run, Prog.get_run, hboot, hcount, hbytes, hsum, okOr_some,
    hfits, hwrite, htake, (parse_complete h).1, Prog.pure_run, List.append_nil]

theorem version_of_entryOk {entry : LaunchPolicyEntry} (h : EntryOk minor entry) :
    minor = versionMinorHistorical ∨ minor = versionMinorWyrmsh ∨
      minor = versionMinorRecoveryTrigger := by
  have hprofile := h.profile
  unfold profileRefused at hprofile
  split_ifs at hprofile with h₁ h₂ h₃ h₄
  · exact .inl h₁.1
  · exact .inr h₂.1
  · exact .inr h₃.1
  · exact .inr (.inr h₄.1)

variable {out' : List UInt8} {w : List Empty}

theorem writePolicy_checked {total stringBytes : Nat}
    (h : writePolicy minor boot entries total stringBytes out = (.ok (), out', w)) :
    (∀ entry ∈ entries, EntryOk minor entry) ∧ Ascending none entries := by
  obtain ⟨_, _, _, _, -, h₁, -⟩ := Prog.bind_run_eq_ok h
  obtain ⟨_, _, _, _, -, h₂, -⟩ := Prog.bind_run_eq_ok h₁
  obtain ⟨_, _, _, _, -, h₃, -⟩ := Prog.bind_run_eq_ok h₂
  obtain ⟨_, _, _, _, -, h₄, -⟩ := Prog.bind_run_eq_ok h₃
  obtain ⟨_, _, _, _, -, h₅, -⟩ := Prog.bind_run_eq_ok h₄
  obtain ⟨_, _, _, _, -, h₆, -⟩ := Prog.bind_run_eq_ok h₅
  obtain ⟨_, _, _, _, -, h₇, -⟩ := Prog.bind_run_eq_ok h₆
  obtain ⟨_, _, _, _, -, h₈, -⟩ := Prog.bind_run_eq_ok h₇
  obtain ⟨_, _, _, _, -, h₉, -⟩ := Prog.bind_run_eq_ok h₈
  obtain ⟨_, _, _, _, -, hentries, -⟩ := Prog.bind_run_eq_ok h₉
  exact encodeEntries_checked hentries

theorem encodeVersion_sound {size : Nat}
    (h : encodeVersion minor boot entries out = (.ok size, out', w)) :
    PolicyOk minor boot entries ∧ totalOf entries ≤ out.length := by
  obtain ⟨_, _, _, _, hboot, h₁, -⟩ := Prog.bind_run_eq_ok h
  obtain ⟨_, _, _, _, hcount, h₂, -⟩ := Prog.bind_run_eq_ok h₁
  obtain ⟨stringBytes, _, _, _, hbytes, h₃, -⟩ := Prog.bind_run_eq_ok h₂
  obtain ⟨total, s₄, _, _, htotal, h₄, -⟩ := Prog.bind_run_eq_ok h₃
  obtain ⟨output, s₅, _, _, hget, h₅, -⟩ := Prog.bind_run_eq_ok h₄
  obtain ⟨_, _, _, _, hfits, h₆, -⟩ := Prog.bind_run_eq_ok h₅
  obtain ⟨_, _, _, _, hwrite, -, -⟩ := Prog.bind_run_eq_ok h₆
  obtain ⟨hok, hascending⟩ := writePolicy_checked hwrite
  obtain ⟨hboot, hsame₁⟩ := Prod.mk.inj hboot
  obtain ⟨hcount, hsame₂⟩ := Prod.mk.inj hcount
  obtain ⟨hbytes, hsame₃⟩ := Prod.mk.inj hbytes
  obtain ⟨htotal, hsame₄⟩ := Prod.mk.inj htotal
  obtain ⟨houtput, -⟩ := Prod.mk.inj hget
  obtain ⟨hfits, -⟩ := Prod.mk.inj hfits
  rw [← (Prod.mk.inj hsame₄).1, ← (Prod.mk.inj hsame₃).1, ← (Prod.mk.inj hsame₂).1,
    ← (Prod.mk.inj hsame₁).1] at houtput
  obtain rfl := Outcome.ok.inj houtput
  simp only [rejectIf_eq_ok, decide_eq_false_iff_not, Bool.or_eq_false_iff,
    List.isEmpty_eq_false_iff, Nat.not_lt] at hboot hcount hfits
  rw [okOr_eq_ok, Option.bind_eq_some_iff] at htotal
  simp only [checkedAdd_eq_some] at htotal
  obtain ⟨_, ⟨-, rfl⟩, -, rfl⟩ := htotal
  obtain rfl := stringBytesOf_eq hbytes
  have hpos := List.length_pos_of_ne_nil hcount.1
  refine ⟨⟨?_, hboot, ⟨hpos, hcount.2⟩, hok, hascending⟩, ?_⟩
  · exact version_of_entryOk (hok _ (List.getElem_mem hpos))
  · simpa [headerBytes, recordBytes, totalOf] using hfits

end

/-! ## The codec -/

theorem ascending_above {entries : List LaunchPolicyEntry} : ∀ {path : String},
    Ascending (some path) entries → ∀ entry ∈ entries, utf8 path < utf8 entry.path := by
  induction entries with
  | nil => exact fun _ => nofun
  | cons entry rest ih =>
      intro path h other hother
      rcases List.mem_cons.mp hother with rfl | hother
      · exact h.1 path rfl
      · exact List.lt_trans (h.1 path rfl) (ih h.2 other hother)

theorem findSome_eq_some {entries : List LaunchPolicyEntry} {path : String}
    {entry : LaunchPolicyEntry} : ∀ {previous : Option String}, Ascending previous entries →
      (entries.findSome? (fun e => if e.path = path then some e else none) = some entry ↔
        entry ∈ entries ∧ entry.path = path) := by
  induction entries with
  | nil => simp
  | cons first rest ih =>
      intro previous h
      rw [List.findSome?_cons]
      by_cases hfirst : first.path = path
      · rw [if_pos hfirst]
        constructor
        · intro heq
          obtain rfl := Option.some.inj heq
          exact ⟨List.mem_cons_self, hfirst⟩
        · rintro ⟨hmem, hpath⟩
          rcases List.mem_cons.mp hmem with rfl | hmem
          · rfl
          · have hlt := ascending_above h.2 entry hmem
            rw [hfirst, hpath] at hlt
            exact absurd hlt (List.lt_irrefl _)
      · rw [if_neg hfirst, ih h.2, List.mem_cons]
        constructor
        · rintro ⟨hmem, hpath⟩
          exact ⟨.inr hmem, hpath⟩
        · rintro ⟨rfl | hmem, hpath⟩
          · exact absurd hpath hfirst
          · exact ⟨hmem, hpath⟩

variable {policy : LaunchPolicy}

theorem find_eq_some {entries : List LaunchPolicyEntry}
    (hcount : policy.count = entries.length) (hreads : ReadsFrom policy 0 entries)
    (hascending : Ascending none entries) {path : String} {entry : LaunchPolicyEntry} :
    policy.find path = some entry ↔ entry ∈ entries ∧ entry.path = path := by
  have hparsed : (List.range policy.count).map policy.parseEntry = entries.map .ok := by
    refine List.ext_getElem? fun i => ?_
    rw [List.getElem?_map, List.getElem?_map, hcount]
    by_cases hi : i < entries.length
    · have hentry := hreads i entries[i] (List.getElem?_eq_getElem hi)
      rw [Nat.zero_add] at hentry
      rw [List.getElem?_range hi, List.getElem?_eq_getElem hi, Option.map_some, Option.map_some,
        hentry]
    · rw [List.getElem?_eq_none (by simpa using Nat.not_lt.mp hi),
        List.getElem?_eq_none (Nat.not_lt.mp hi)]
      rfl
  have hfind : policy.find path =
      entries.findSome? (fun e => if e.path = path then some e else none) := by
    have hmatch := congrArg (List.findSome? (LaunchPolicy.matching path)) hparsed
    rw [List.findSome?_map, List.findSome?_map] at hmatch
    exact hmatch
  rw [hfind]
  exact findSome_eq_some hascending

theorem entry_eq {entries : List LaunchPolicyEntry}
    (hcount : policy.count = entries.length) (hreads : ReadsFrom policy 0 entries) (index : Nat) :
    policy.entry index = entries[index]?.map .ok := by
  unfold LaunchPolicy.entry
  split_ifs with hout
  · rw [List.getElem?_eq_none (hcount ▸ hout)]
    rfl
  · have hin : index < entries.length := by omega
    have hentry := hreads index entries[index] (List.getElem?_eq_getElem hin)
    rw [Nat.zero_add] at hentry
    rw [List.getElem?_eq_getElem hin, Option.map_some, hentry]

/-- The policy codec is exact. What `encode_version` accepts is parsed to the
same entries, and `find` finds each of them and no other; what `parse`
accepts, `encode_version` writes again byte for byte. -/
theorem policy_codec :
    (∀ (minor : UInt16) (boot : Sha256) (entries : List LaunchPolicyEntry) (out out' : List UInt8)
      (size : Nat) (w : List Empty),
      encodeVersion minor boot entries out = (.ok size, out', w) →
        ∃ policy, LaunchPolicy.parse (out'.take size) = .ok policy ∧ policy.minor = minor ∧
          policy.bootGenerationSha256 = boot ∧ policy.count = entries.length ∧
          (∀ index, policy.entry index = entries[index]?.map .ok) ∧
          ∀ path entry, policy.find path = some entry ↔ entry ∈ entries ∧ entry.path = path) ∧
    ∀ (bytes : List UInt8) (policy : LaunchPolicy), LaunchPolicy.parse bytes = .ok policy →
      ∃ entries : List LaunchPolicyEntry, policy.count = entries.length ∧
        (∀ index, policy.entry index = entries[index]?.map .ok) ∧
        ∀ out : List UInt8, bytes.length ≤ out.length →
          encodeVersion policy.minor policy.bootGenerationSha256 entries out =
            (.ok bytes.length, bytes ++ out.drop bytes.length, []) := by
  constructor
  · intro minor boot entries out out' size w h
    obtain ⟨hok, hroom⟩ := encodeVersion_sound h
    rw [encodeVersion_complete hok hroom] at h
    obtain ⟨hsize, hrest⟩ := Prod.mk.inj h
    obtain rfl := Outcome.ok.inj hsize
    obtain rfl := (Prod.mk.inj hrest).1
    obtain ⟨hparse, hreads⟩ := parse_complete hok
    refine ⟨policyOf minor boot entries, ?_, rfl, rfl, rfl, entry_eq rfl hreads, fun path entry =>
      find_eq_some rfl hreads hok.ascending⟩
    rw [List.take_left' (length_policyText minor boot entries)]
    exact hparse
  · intro bytes policy h
    obtain ⟨entries, hok, htext, hpolicy, hreads⟩ := parse_sound h
    have hcount : policy.count = entries.length := by rw [hpolicy]; rfl
    refine ⟨entries, hcount, entry_eq hcount hreads, fun out hroom => ?_⟩
    have hlen : bytes.length = totalOf entries := by rw [htext, length_policyText]
    rw [encodeVersion_complete hok (hlen ▸ hroom), hlen, htext]

def helloEntry : LaunchPolicyEntry :=
  { path := "bin/hello", contentSha256 := Vector.replicate 32 0x22, startupAbi := 2, profileId := 1,
    allowNoStreams := true, allowThreeStreams := true }

def wyrmshEntry : LaunchPolicyEntry :=
  { path := wyrmshPath, contentSha256 := Vector.replicate 32 0x33, startupAbi := 2, profileId := 2,
    allowNoStreams := false, allowThreeStreams := true }

/-- The policy of a program and the shell. -/
def shellEntries : List LaunchPolicyEntry := [helloEntry, wyrmshEntry]

/-- It is written, read, and written again from what was read. -/
theorem shellEntries_codec : ∃ bytes policy,
    encodeVersion 2 (Vector.replicate 32 0x11) shellEntries (List.replicate 512 0) =
      (.ok bytes.length, bytes ++ (List.replicate 512 0).drop bytes.length, []) ∧
    LaunchPolicy.parse bytes = .ok policy ∧ policy.minor = 2 ∧
    (∀ index, policy.entry index = shellEntries[index]?.map .ok) ∧
    policy.find wyrmshPath = some wyrmshEntry ∧ ∀ entry, policy.find "bin/init" ≠ some entry := by
  have hok : PolicyOk 2 (Vector.replicate 32 0x11) shellEntries := by
    refine ⟨.inr (.inr rfl), by decide, by decide, ?_, ?_⟩
    · rw [shellEntries, List.forall_mem_cons, List.forall_mem_singleton]
      exact ⟨⟨by decide +kernel, rfl, rfl, by decide, by decide, by decide⟩,
        ⟨by decide +kernel, rfl, rfl, by decide, by decide, by decide⟩⟩
    · exact ⟨by rintro _ ⟨⟩, by rintro _ ⟨⟩; decide +kernel, trivial⟩
  have hencode := @encodeVersion_complete _ _ _ (List.replicate 512 0) hok (by decide +kernel)
  obtain ⟨policy, hparse, hminor, hboot, -, hentries, hfind⟩ := policy_codec.1 _ _ _ _ _ _ _ hencode
  obtain ⟨entries, -, hentries', hagain⟩ := policy_codec.2 _ policy hparse
  obtain rfl : shellEntries = entries := by
    refine List.ext_getElem? fun index => ?_
    exact Option.map_injective (fun _ _ => Outcome.ok.inj)
      ((hentries index).symm.trans (hentries' index))
  rw [hminor, hboot] at hagain
  refine ⟨_, policy, hagain _ ?_, hparse, hminor, hentries, (hfind _ _).mpr ⟨?_, rfl⟩,
    fun entry hfound => ?_⟩
  · exact Nat.le_trans (List.length_take_le _ _) (by decide +kernel)
  · exact List.mem_cons_of_mem _ (List.mem_singleton_self _)
  · obtain ⟨hmem, hpath⟩ := (hfind _ _).mp hfound
    have hother : ∀ entry ∈ shellEntries, entry.path ≠ "bin/init" := by decide +kernel
    exact hother entry hmem hpath

end Wyrmroot.Bootfs.Policy
