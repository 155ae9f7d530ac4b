import Wyrmroot.Lib.Unchecked
import Wyrmroot.Registry.CodecSpec

/-!
# Arithmetic of the parser

The parser of `wyrmroot-registry-proto` with each of its sums, products and
differences in the width the source computes it in: `usize` for offsets, `u16` for
the fields of a page. The other operators of the codec are checked ones. All of
them stay in their words but one: `validate_page_shape` takes the records in front
of the last page from the total before it knows that there are as many.
-/

namespace Wyrmroot.Registry

namespace Checked

open Outcome Unchecked

def validatePageShape (pageIndex pageCount totalCount recordCount : Nat) : Parse Unit := do
  let expectedPages := if totalCount = 0 then 1 else (totalCount + 1) / 2
  let expectedRecords ←
    if totalCount = 0 then .ok 0
    else do
      let next ← fit 16 (pageIndex + 1)
      if next < pageCount then .ok 2
      else do
        let full ← sub pageCount 1
        let before ← fit 16 (2 * full)
        sub totalCount before
  failIf (pageCount ≠ expectedPages || recordCount ≠ expectedRecords) .invalidServiceList

/-- `VersionList::get` for each index of the list. -/
def readVersions (bytes : List UInt8) (index : Nat) : Nat → Parse (List ProtocolVersion)
  | 0 => .ok []
  | count + 1 => do
      let offset := index * 4
      let major ← readU16 bytes offset
      let next ← fit 64 (offset + 2)
      let minor ← readU16 bytes next
      let rest ← readVersions bytes (index + 1) count
      pure ({ major, minor } :: rest)

/-- `VersionList { bytes }` once `validate_version_list` has passed. -/
def versionList (bytes : List UInt8) : Parse VersionList := do
  let versions ← readVersions bytes 0 (bytes.length / 4)
  if hne : versions ≠ [] then
    if hlen : versions.length ≤ maxProtocolVersions then
      if hc : ascending versions = true then .ok ⟨versions, hne, hlen, hc⟩
      else .err .noncanonicalVersions
    else .err .invalidVersionList
  else .err .invalidVersionList

def parseInstallPublication (bytes : List UInt8) : Parse InstallPublication := do
  failIf (bytes.length < 124) .wrongSize
  let first ← readU32 bytes 84
  let second ← readU32 bytes 116
  failIf (first ≠ 0 || second ≠ 0) .nonzeroReserved
  let count ← readU16 bytes 112
  let nameLen ← readU16 bytes 114
  failIf (count < 1 || maxProtocolVersions < count) .invalidVersionList
  let versionsEnd := 120 + count * 4
  failIf (versionsEnd + nameLen ≠ bytes.length) .wrongSize
  let versionBytes ← sliceAt bytes 120 (versionsEnd - 120)
  let versions ← versionList versionBytes
  let serviceName ← sliceFrom bytes versionsEnd
  validateName serviceName
  let endpointId ← readU64 bytes 64
  let endpointGeneration ← readU64 bytes 72
  let supervisorRoleId ← readU32 bytes 80
  let publicationId ← readU64 bytes 88
  let serviceGeneration ← readU64 bytes 96
  let protocolId ← readU64 bytes 104
  failIf (endpointId = 0 || endpointGeneration = 0 || supervisorRoleId = 0 || publicationId = 0
    || serviceGeneration = 0) .zeroIdentity
  failIf (protocolId = 0) .invalidProtocolId
  pure { endpointId, endpointGeneration, supervisorRoleId, publicationId, serviceGeneration,
         protocolId, versions, serviceName }

def parseLookup (bytes : List UInt8) : Parse Lookup := do
  failIf (bytes.length < 81) .wrongSize
  let nameLen ← readU16 bytes 76
  let reserved ← readU16 bytes 78
  failIf (reserved ≠ 0) .nonzeroReserved
  let size ← fit 64 (80 + nameLen)
  failIf (bytes.length ≠ size) .wrongSize
  let protocolId ← readU64 bytes 64
  failIf (protocolId = 0) .invalidProtocolId
  let serviceName ← sliceFrom bytes 80
  validateName serviceName
  let version ← readVersion bytes 72
  pure { protocolId, version, serviceName }

def parseWatch (bytes : List UInt8) : Parse Watch := do
  failIf (bytes.length < 89) .wrongSize
  let nameLen ← readU16 bytes 80
  let first ← readU16 bytes 82
  let second ← readU32 bytes 84
  failIf (first ≠ 0 || second ≠ 0) .nonzeroReserved
  let size ← fit 64 (88 + nameLen)
  failIf (bytes.length ≠ size) .wrongSize
  let protocolId ← readU64 bytes 64
  failIf (protocolId = 0) .invalidProtocolId
  let serviceName ← sliceFrom bytes 88
  validateName serviceName
  let lastObservedGeneration ← readU64 bytes 72
  pure { protocolId, lastObservedGeneration, serviceName }

/-- The version fields of a record from `index` on. -/
def readRecordVersions (bytes : List UInt8) (base index : Nat) :
    Nat → Parse (List ProtocolVersion)
  | 0 => .ok []
  | count + 1 => do
      let step ← fit 64 (index * 4)
      let low ← fit 64 (base + 24)
      let low ← fit 64 (low + step)
      let major ← readU16 bytes low
      let high ← fit 64 (base + 26)
      let high ← fit 64 (high + step)
      let minor ← readU16 bytes high
      let rest ← readRecordVersions bytes base (index + 1) count
      pure ({ major, minor } :: rest)

def parseRecord (bytes : List UInt8) (previous : Option Name) (index : Nat) : Parse Name := do
  let before ← fit 64 (index * serviceListRecordBytes)
  let base ← fit 64 (serviceListPrefixBytes + before)
  let protocolId ← readU64 bytes base
  let at8 ← fit 64 (base + 8)
  let serviceGeneration ← readU64 bytes at8
  let at16 ← fit 64 (base + 16)
  let nameLen ← readU16 bytes at16
  let at18 ← fit 64 (base + 18)
  let versionCount ← byteAt bytes at18
  let at19 ← fit 64 (base + 19)
  let first ← byteAt bytes at19
  let at20 ← fit 64 (base + 20)
  let second ← readU32 bytes at20
  failIf (protocolId = 0 || serviceGeneration = 0 || first ≠ 0 || second ≠ 0
    || versionCount < 1 || maxProtocolVersions < versionCount
    || nameLen < 1 || maxServiceNameBytes < nameLen) .invalidServiceList
  let versions ← readRecordVersions bytes base 0 maxProtocolVersions
  parseRecordVersions.check versionCount 0 none versions
  let at40 ← fit 64 (base + 40)
  let nameEnd ← fit 64 (at40 + nameLen)
  let name ← sliceAt bytes at40 (nameEnd - at40)
  validateName name
  let recordEnd ← fit 64 (base + serviceListRecordBytes)
  let size ← sub recordEnd nameEnd
  let padding ← sliceAt bytes nameEnd size
  failIf (padding.any (· ≠ 0) || previous.any fun prior => !decide (prior < name))
    .invalidServiceList
  pure name

def parseRecords (bytes : List UInt8) (previous : Option Name) (index : Nat) :
    Nat → Parse Unit
  | 0 => .ok ()
  | count + 1 => do
      let name ← parseRecord bytes previous index
      parseRecords bytes (some name) (index + 1) count

def parseServiceList (bytes : List UInt8) : Parse ServiceListPage := do
  failIf (bytes.length ≠ serviceListPrefixBytes
    && bytes.length ≠ serviceListPrefixBytes + serviceListRecordBytes
    && bytes.length ≠ serviceListPrefixBytes + 2 * serviceListRecordBytes) .wrongSize
  let pageIndex ← readU16 bytes 64
  let pageCount ← readU16 bytes 66
  let recordCount ← readU16 bytes 68
  let totalCount ← readU16 bytes 70
  let first ← readU32 bytes 72
  let second ← readU32 bytes 76
  failIf (first ≠ 0 || second ≠ 0) .nonzeroReserved
  failIf (maxServiceListRecords < recordCount || maxServiceListPages < pageCount
    || maxServices < totalCount || pageCount = 0 || pageCount ≤ pageIndex) .invalidServiceList
  let records ← fit 64 (recordCount * serviceListRecordBytes)
  let size ← fit 64 (serviceListPrefixBytes + records)
  failIf (bytes.length ≠ size) .invalidServiceList
  validatePageShape pageIndex pageCount totalCount recordCount
  parseRecords bytes none 0 recordCount
  pure { bytes, pageIndex, pageCount, recordCount, totalCount }

/-- The parsers that compute nothing are those of the codec. -/
def parseBody (bytes : List UInt8) (handles : Nat) : MessageType → Parse Message
  | .installPublication => do
      requireHandles handles 1
      let value ← parseInstallPublication bytes
      pure (.installPublication value)
  | .lookupConnect => do
      requireHandles handles 1
      let value ← parseLookup bytes
      pure (.lookupConnect value)
  | .connectOffer => do
      requireHandles handles 1
      let value ← parseLookup bytes
      pure (.connectOffer value)
  | .serviceList => do
      requireHandles handles 0
      let page ← parseServiceList bytes
      pure (.serviceList page)
  | .watch => do
      requireHandles handles 0
      let value ← parseWatch bytes
      pure (.watch value)
  | t => Registry.parseBody bytes handles t

def parse (bytes : List UInt8) (receivedHandleCount : Nat) : Parse ParsedMessage := do
  let framing ← parseHeader bytes
  failIf (framing.declaredHandleCount ≠ receivedHandleCount) .wrongHandleCount
  let message ← parseBody bytes receivedHandleCount framing.header.messageType
  pure { header := framing.header, message }

/-! ## The sums stay in their words -/

variable {n pageIndex pageCount totalCount recordCount : Nat} {α : Type}

section Sums

variable {bytes : List UInt8}

theorem readU16_lt {offset : Nat} (h : readU16 bytes offset = .ok n) : n < 2 ^ 16 := by
  unfold readU16 readLE at h
  cases hslice : slice bytes offset 2 with
  | none =>
      rw [hslice] at h
      cases h
  | some part =>
      rw [hslice] at h
      obtain rfl := Outcome.ok.inj h
      unfold slice at hslice
      split_ifs at hslice with hfits
      obtain rfl := Option.some.inj hslice
      have hlt := leNat_lt ((bytes.drop offset).take 2)
      have hlen : ((bytes.drop offset).take 2).length = 2 := by
        rw [List.length_take, List.length_drop]
        omega
      rw [hlen] at hlt
      exact hlt

theorem parseLookup_eq : parseLookup bytes = Registry.parseLookup bytes := by
  unfold parseLookup Registry.parseLookup
  refine bind_same fun _ _ => bind_same fun nameLen hlen => bind_same fun _ _ => ?_
  have hlt := readU16_lt hlen
  exact bind_same fun _ _ => fit_bind (by omega) _

theorem parseWatch_eq : parseWatch bytes = Registry.parseWatch bytes := by
  unfold parseWatch Registry.parseWatch
  refine bind_same fun _ _ => bind_same fun nameLen hlen => ?_
  have hlt := readU16_lt hlen
  exact bind_same fun _ _ => bind_same fun _ _ => bind_same fun _ _ => fit_bind (by omega) _

theorem readVersions_eq (count : Nat) : ∀ (index : Nat), (index + count) * 4 < 2 ^ 63 →
    readVersions bytes index count = Registry.readVersions bytes (index * 4) count := by
  induction count with
  | zero => intro index h; rfl
  | succ count ih =>
      intro index h
      have hnext : (index + 1) * 4 = index * 4 + 4 := Nat.add_one_mul index 4
      rw [readVersions, Registry.readVersions, readVersion, bind_bind]
      refine bind_same fun major _ => ?_
      rw [fit_bind (by omega), bind_bind]
      refine bind_same fun minor _ => ?_
      rw [ih (index + 1) (by omega), hnext]
      rfl

theorem sliceAt_length {offset : Nat} {part : List UInt8}
    (h : (sliceAt bytes offset n : Parse (List UInt8)) = .ok part) : part.length = n := by
  unfold sliceAt at h
  cases hslice : slice bytes offset n with
  | none =>
      rw [hslice] at h
      cases h
  | some found =>
      rw [hslice] at h
      obtain rfl := Outcome.ok.inj h
      unfold slice at hslice
      split_ifs at hslice with hfits
      obtain rfl := Option.some.inj hslice
      rw [List.length_take, List.length_drop]
      omega

theorem versionList_eq (h : bytes.length < 2 ^ 62) :
    versionList bytes = VersionList.ofBytes bytes := by
  unfold versionList VersionList.ofBytes
  rw [readVersions_eq _ 0 (by omega), Nat.zero_mul]
  refine bind_same fun versions _ => ?_
  by_cases hne : versions ≠ []
  · by_cases hlen : versions.length ≤ maxProtocolVersions
    · rw [dif_pos hne, dif_pos hlen, dif_pos (And.intro hne hlen)]
    · rw [dif_pos hne, dif_neg hlen, dif_neg fun h => hlen h.2]
  · rw [dif_neg hne, dif_neg fun h => hne h.1]

theorem parseInstallPublication_eq :
    parseInstallPublication bytes = Registry.parseInstallPublication bytes := by
  unfold parseInstallPublication Registry.parseInstallPublication
  refine bind_same fun _ _ => bind_same fun _ _ => bind_same fun _ _ => bind_same fun _ _ => ?_
  refine bind_same fun count _ => bind_same fun _ _ => bind_same fun _ hcount => ?_
  rw [failIf_eq_ok, Bool.or_eq_false_iff, decide_eq_false_iff_not, decide_eq_false_iff_not] at hcount
  have hmax : count ≤ 4 := Nat.le_of_not_lt hcount.2
  refine bind_same fun _ _ => bind_same fun versionBytes hbytes => ?_
  have hlen := sliceAt_length hbytes
  rw [versionList_eq (by omega)]

theorem readRecordVersions_eq {base : Nat} (count : Nat) : ∀ (index : Nat),
    base + (index + count) * 4 < 2 ^ 63 → readRecordVersions bytes base index count =
      Registry.readVersions bytes (base + 24 + index * 4) count := by
  induction count with
  | zero => intro index h; rfl
  | succ count ih =>
      intro index h
      have hnext : base + 24 + (index + 1) * 4 = base + 24 + index * 4 + 4 := by omega
      have hhigh : base + 26 + index * 4 = base + 24 + index * 4 + 2 := by omega
      rw [readRecordVersions, Registry.readVersions, readVersion, bind_bind, fit_bind (by omega),
        fit_bind (by omega), fit_bind (by omega)]
      refine bind_same fun major _ => ?_
      rw [fit_bind (by omega), fit_bind (by omega), bind_bind, hhigh]
      refine bind_same fun minor _ => ?_
      rw [ih (index + 1) (by omega), hnext]
      rfl

theorem parseRecord_eq {index : Nat} (h : index ≤ 2) (previous : Option Name) :
    parseRecord bytes previous index = Registry.parseRecord bytes previous index := by
  have hrecord : serviceListRecordBytes = 168 := rfl
  have hprefix : serviceListPrefixBytes = 80 := rfl
  have hbefore : index * serviceListRecordBytes ≤ 336 := by
    rw [hrecord]
    omega
  unfold parseRecord Registry.parseRecord
  rw [fit_bind (by omega), fit_bind (by omega)]
  dsimp only
  generalize hbase : serviceListPrefixBytes + index * serviceListRecordBytes = base
  have hsmall : base < 2 ^ 60 := by omega
  refine bind_same fun _ _ => ?_
  rw [fit_bind (by omega)]
  refine bind_same fun _ _ => ?_
  rw [fit_bind (by omega)]
  refine bind_same fun nameLen _ => ?_
  rw [fit_bind (by omega)]
  refine bind_same fun versionCount _ => ?_
  rw [fit_bind (by omega)]
  refine bind_same fun _ _ => ?_
  rw [fit_bind (by omega)]
  refine bind_same fun _ _ => bind_same fun _ hchecks => ?_
  have hname : nameLen ≤ 128 := by
    rw [failIf_eq_ok, Bool.or_eq_false_iff, decide_eq_false_iff_not] at hchecks
    exact Nat.le_of_not_lt hchecks.2
  rw [readRecordVersions_eq _ 0 (by unfold maxProtocolVersions; omega), parseRecordVersions, bind_bind]
  refine bind_same fun _ _ => bind_same fun _ _ => ?_
  rw [fit_bind (by omega), fit_bind (by omega), Nat.add_sub_cancel_left]
  refine bind_same fun _ _ => bind_same fun _ _ => ?_
  rw [fit_bind (by omega), sub_ok (by omega), ok_bind]
  have hsize : base + serviceListRecordBytes - (base + 40 + nameLen) =
      serviceListRecordBytes - 40 - nameLen := by omega
  rw [hsize]

theorem parseRecords_eq (count : Nat) : ∀ (index : Nat) (previous : Option Name),
    index + count ≤ 2 →
      parseRecords bytes previous index count = Registry.parseRecords bytes previous index count := by
  induction count with
  | zero => intro index previous h; rfl
  | succ count ih =>
      intro index previous h
      rw [parseRecords, Registry.parseRecords, parseRecord_eq (by omega)]
      exact bind_same fun name _ => ih (index + 1) (some name) (by omega)

theorem validatePageShape_eq
    (hindex : pageIndex < pageCount) (hcount : pageCount ≤ maxServiceListPages) :
    validatePageShape pageIndex pageCount totalCount recordCount =
      Registry.validatePageShape pageIndex pageCount totalCount recordCount := by
  have hpages : maxServiceListPages = 16 := rfl
  unfold validatePageShape Registry.validatePageShape
  by_cases htotal : totalCount = 0
  · simp only [htotal, if_true]
  · simp only [htotal, if_false]
    rw [fit_bind (by omega)]
    by_cases hnext : pageIndex + 1 < pageCount
    · simp only [hnext, if_true]
    · have hpos : (pageCount = 0) = False := by
        rw [eq_iff_iff, iff_false]
        omega
      simp only [hnext, if_false, hpos, decide_false, Bool.false_or, decide_eq_true_eq]
      rw [sub_ok (by omega), ok_bind, fit_bind (by omega)]
      by_cases hunder : totalCount < 2 * (pageCount - 1)
      · rw [sub, if_neg (Nat.not_le.mpr hunder), if_pos hunder]
      · rw [sub_ok (Nat.le_of_not_lt hunder), if_neg hunder]

theorem failIf_or (b c : Bool) (e : Error) (f : Unit → Parse α) :
    (failIf (b || c) e >>= f) = (failIf b e >>= fun _ => failIf c e >>= f) := by
  cases b <;> rfl

theorem parseServiceList_eq : parseServiceList bytes = Registry.parseServiceList bytes := by
  have hrecord : serviceListRecordBytes = 168 := rfl
  have hprefix : serviceListPrefixBytes = 80 := rfl
  unfold parseServiceList Registry.parseServiceList
  refine bind_same fun _ _ => bind_same fun pageIndex _ => bind_same fun pageCount _ => ?_
  refine bind_same fun recordCount hread => bind_same fun totalCount _ => ?_
  refine bind_same fun _ _ => bind_same fun _ _ => bind_same fun _ _ => ?_
  have hlt := readU16_lt hread
  have hrecords : recordCount * serviceListRecordBytes < 2 ^ 30 := by
    rw [hrecord]
    omega
  rw [failIf_or _ (decide (bytes.length ≠ _))]
  refine bind_same fun _ hchecks => ?_
  simp only [failIf_eq_ok, Bool.or_eq_false_iff, decide_eq_false_iff_not, Nat.not_lt,
    Nat.not_le] at hchecks
  obtain ⟨⟨⟨⟨hcount, hpages⟩, -⟩, -⟩, hindex⟩ := hchecks
  rw [fit_bind (by omega), fit_bind (by omega)]
  refine bind_same fun _ _ => ?_
  rw [validatePageShape_eq hindex hpages]
  refine bind_same fun _ _ => ?_
  have hmax : 0 + recordCount ≤ 2 := Nat.le_trans (Nat.le_of_eq (Nat.zero_add _)) hcount
  rw [parseRecords_eq recordCount 0 none hmax]

theorem parseBody_eq (handles : Nat) (t : MessageType) :
    parseBody bytes handles t = Registry.parseBody bytes handles t := by
  cases t with
  | installPublication =>
      unfold parseBody Registry.parseBody
      rw [parseInstallPublication_eq]
  | lookupConnect | connectOffer =>
      unfold parseBody Registry.parseBody
      rw [parseLookup_eq]
  | serviceList =>
      unfold parseBody Registry.parseBody
      rw [parseServiceList_eq]
  | watch =>
      unfold parseBody Registry.parseBody
      rw [parseWatch_eq]
  | _ => rfl

theorem parse_eq (handles : Nat) : parse bytes handles = Registry.parse bytes handles := by
  unfold parse Registry.parse
  refine bind_same fun framing _ => bind_same fun _ _ => ?_
  rw [parseBody_eq]

end Sums

/-! ## The one that does not -/

section Faults

variable {bytes : List UInt8}

/-- The little-endian word that stands at an offset. -/
def wordAt (n : Nat) (bytes : List UInt8) (offset : Nat) : Nat :=
  leNat ((bytes.drop offset).take n)

theorem readLE_eq {offset : Nat} (h : offset + n ≤ bytes.length) :
    readLE n bytes offset = .ok (wordAt n bytes offset) := by
  rw [readLE, slice_isSome h]
  rfl

theorem check_ne_panic (count : Nat) : ∀ (versions : List ProtocolVersion) (index : Nat)
    (previous : Option ProtocolVersion), parseRecordVersions.check count index previous versions ≠ .panic
  | [], _, _ => ok_ne_panic _
  | value :: rest, index, previous => by
      rw [parseRecordVersions.check]
      split_ifs
      · exact err_ne_panic _
      · exact check_ne_panic count rest _ _
      · exact err_ne_panic _
      · exact check_ne_panic count rest _ _

theorem parseRecordVersions_ne_panic (bytes : List UInt8) (base count : Nat) :
    parseRecordVersions bytes base count ≠ .panic :=
  bind_ne_panic (readVersions_ne_panic _ _ _) fun _ _ => check_ne_panic count _ _ _

theorem byteAt_ne_panic {i : Nat} (h : i < bytes.length) :
    (byteAt bytes i : Parse Nat) ≠ .panic := by
  rw [byteAt, List.getElem?_eq_getElem h]
  exact ok_ne_panic _

theorem parseRecord_ne_panic {index : Nat}
    (h : serviceListPrefixBytes + (index + 1) * serviceListRecordBytes ≤ bytes.length)
    (previous : Option Name) : Registry.parseRecord bytes previous index ≠ .panic := by
  have hrecord : serviceListRecordBytes = 168 := rfl
  rw [Nat.add_one_mul] at h
  unfold Registry.parseRecord
  dsimp only
  generalize hbase : serviceListPrefixBytes + index * serviceListRecordBytes = base
  have hend : base + 168 ≤ bytes.length := by omega
  refine bind_ne_panic (readLE_ne_panic _ _ _) fun _ _ => ?_
  refine bind_ne_panic (readLE_ne_panic _ _ _) fun _ _ => ?_
  refine bind_ne_panic (readLE_ne_panic _ _ _) fun nameLen _ => ?_
  refine bind_ne_panic (byteAt_ne_panic (by omega)) fun _ _ => ?_
  refine bind_ne_panic (byteAt_ne_panic (by omega)) fun _ _ => ?_
  refine bind_ne_panic (readLE_ne_panic _ _ _) fun _ _ => ?_
  refine bind_ne_panic (failIf_ne_panic _ _) fun _ hchecks => ?_
  have hname : nameLen ≤ 128 := by
    rw [failIf_eq_ok, Bool.or_eq_false_iff, decide_eq_false_iff_not] at hchecks
    exact Nat.le_of_not_lt hchecks.2
  refine bind_ne_panic (parseRecordVersions_ne_panic _ _ _) fun _ _ => ?_
  refine bind_ne_panic (sliceAt_ne_panic (by omega)) fun _ _ => ?_
  refine bind_ne_panic (validateName_ne_panic _) fun _ _ => ?_
  refine bind_ne_panic (sliceAt_ne_panic (by omega)) fun _ _ => ?_
  exact bind_ne_panic (failIf_ne_panic _ _) fun _ _ => ok_ne_panic _

theorem parseRecords_ne_panic (count : Nat) : ∀ (index : Nat) (previous : Option Name),
    serviceListPrefixBytes + (index + count) * serviceListRecordBytes ≤ bytes.length →
      Registry.parseRecords bytes previous index count ≠ .panic := by
  induction count with
  | zero => intro index previous h; exact ok_ne_panic _
  | succ count ih =>
      intro index previous h
      have hfirst : serviceListPrefixBytes + (index + 1) * serviceListRecordBytes ≤ bytes.length := by
        refine Nat.le_trans (Nat.add_le_add_left (Nat.mul_le_mul_right _ ?_) _) h
        omega
      rw [Registry.parseRecords]
      refine bind_ne_panic (parseRecord_ne_panic hfirst previous) fun name _ => ?_
      exact ih (index + 1) (some name) (by rw [Nat.add_assoc, Nat.add_comm 1]; exact h)

theorem validatePageShape_panics (hindex : pageIndex < pageCount) :
    Registry.validatePageShape pageIndex pageCount totalCount recordCount = .panic ↔
      pageIndex + 1 = pageCount ∧ 0 < totalCount ∧ totalCount < 2 * (pageCount - 1) := by
  unfold Registry.validatePageShape
  by_cases htotal : totalCount = 0
  · simp only [htotal, if_true]
    exact iff_of_false (failIf_ne_panic _ _) fun h => absurd h.2.1 (Nat.lt_irrefl 0)
  · simp only [htotal, if_false]
    by_cases hnext : pageIndex + 1 < pageCount
    · simp only [hnext, if_true]
      exact iff_of_false (failIf_ne_panic _ _) fun h => absurd h.1 (Nat.ne_of_lt hnext)
    · have hpos : (pageCount = 0) = False := by
        rw [eq_iff_iff, iff_false]
        omega
      simp only [hnext, if_false, hpos, decide_false, Bool.false_or, decide_eq_true_eq]
      by_cases hunder : totalCount < 2 * (pageCount - 1)
      · rw [if_pos hunder]
        exact iff_of_true rfl ⟨by omega, Nat.pos_of_ne_zero htotal, hunder⟩
      · rw [if_neg hunder]
        exact iff_of_false (failIf_ne_panic _ _) fun h => hunder h.2.2

/-- A list of services whose page says it is the last one, behind more full pages than the total
has records for. -/
structure ShortTotal (bytes : List UInt8) : Prop where
  records : wordAt 2 bytes 68 ≤ maxServiceListRecords
  size : bytes.length = serviceListPrefixBytes + wordAt 2 bytes 68 * serviceListRecordBytes
  reserved : wordAt 4 bytes 72 = 0 ∧ wordAt 4 bytes 76 = 0
  pages : wordAt 2 bytes 66 ≤ maxServiceListPages
  last : wordAt 2 bytes 64 + 1 = wordAt 2 bytes 66
  total : 0 < wordAt 2 bytes 70
  short : wordAt 2 bytes 70 < 2 * (wordAt 2 bytes 66 - 1)

variable {c : Bool}

theorem failIf_bind (h : c = false) (e : Error) (f : Unit → Parse α) :
    (failIf c e >>= f) = f () := by
  rw [h]
  rfl

theorem failIf_bind_panic {e : Error} {f : Unit → Parse α} :
    (failIf c e >>= f) = .panic ↔ c = false ∧ f () = .panic := by
  cases c with
  | false => exact (and_iff_right rfl).symm
  | true => exact iff_of_false (err_ne_panic _) fun h => by cases h.1

theorem parseServiceList_panics : Registry.parseServiceList bytes = .panic ↔ ShortTotal bytes := by
  have hrecord : serviceListRecordBytes = 168 := rfl
  have hprefix : serviceListPrefixBytes = 80 := rfl
  have hpages : maxServiceListPages = 16 := rfl
  have hrecords : maxServiceListRecords = 2 := rfl
  have hservices : maxServices = 32 := rfl
  unfold Registry.parseServiceList
  rw [failIf_bind_panic]
  by_cases hsize : 80 ≤ bytes.length
  · rw [readU16, readU32, readLE_eq (by omega), ok_bind, readLE_eq (by omega), ok_bind,
      readLE_eq (by omega), ok_bind, readLE_eq (by omega), ok_bind, readLE_eq (by omega), ok_bind,
      readLE_eq (by omega), ok_bind, failIf_bind_panic, failIf_bind_panic]
    simp only [Bool.and_eq_false_iff, Bool.or_eq_false_iff, decide_eq_false_iff_not, not_not,
      Nat.not_lt, Nat.not_le]
    constructor
    · rintro ⟨hlen, hreserved, ⟨⟨⟨⟨⟨hmax, hcount⟩, htotal⟩, hpos⟩, hindex⟩, hfits⟩, hrest⟩
      rcases bind_eq_panic.mp hrest with hshape | ⟨-, -, hrest⟩
      · obtain ⟨hlast, hsome, hshort⟩ := (validatePageShape_panics hindex).mp hshape
        exact ⟨hmax, hfits, hreserved, hcount, hlast, hsome, hshort⟩
      · rcases bind_eq_panic.mp hrest with hlist | ⟨-, -, hrest⟩
        · refine absurd hlist (parseRecords_ne_panic _ 0 none ?_)
          rw [Nat.zero_add]
          exact Nat.le_of_eq hfits.symm
        · cases hrest
    · rintro ⟨hmax, hfits, hreserved, hcount, hlast, hsome, hshort⟩
      have hindex : wordAt 2 bytes 64 < wordAt 2 bytes 66 := by omega
      refine ⟨?_, hreserved, ⟨⟨⟨⟨⟨hmax, hcount⟩, by omega⟩, by omega⟩, hindex⟩, hfits⟩, ?_⟩
      · rw [hrecords] at hmax
        rw [hfits, hrecord, hprefix]
        omega
      · rw [(validatePageShape_panics hindex).mpr ⟨hlast, hsome, hshort⟩]
        rfl
  · refine iff_of_false (fun h => ?_) fun h => hsize ?_
    · have hlen := h.1
      simp only [Bool.and_eq_false_iff, decide_eq_false_iff_not, not_not] at hlen
      omega
    · rw [h.size]
      exact Nat.le_add_right _ _

/-- A whole and addressed message of the type of lists, with no handle declared. -/
structure ListDatagram (bytes : List UInt8) : Prop where
  framed : headerBytes ≤ bytes.length
  magic : bytes.take 4 = magic
  version : wordAt 2 bytes 4 = 1 ∧ wordAt 2 bytes 6 = 0
  type : wordAt 4 bytes 8 = 11
  flags : wordAt 4 bytes 12 = 0
  size : wordAt 4 bytes 16 = bytes.length
  handles : wordAt 4 bytes 20 = 0
  reserved : wordAt 8 bytes 56 = 0
  identity : wordAt 8 bytes 24 ≠ 0 ∧ wordAt 8 bytes 48 ≠ 0
  endpoint : wordAt 8 bytes 32 ≠ 0 ∧ wordAt 8 bytes 40 ≠ 0

theorem type_list {code : Nat} : MessageType.parse code = .ok .serviceList ↔ code = 11 := by
  constructor
  · intro h
    unfold MessageType.parse at h
    split at h <;> cases h
    rfl
  · rintro rfl
    rfl

theorem parseHeader_list : (∃ framing, parseHeader bytes = .ok framing ∧
    framing.declaredHandleCount = 0 ∧ framing.header.messageType = .serviceList) ↔
      ListDatagram bytes := by
  have hheader : headerBytes = 64 := rfl
  constructor
  · rintro ⟨framing, h, hhandles, htype⟩
    unfold parseHeader at h
    obtain ⟨_, hlen, h⟩ := bind_eq_ok.mp h
    rw [failIf_eq_ok, decide_eq_false_iff_not, Nat.not_lt] at hlen
    rw [sliceAt_ok (by omega), ok_bind, readU16, readU32, readU64] at h
    obtain ⟨_, hmagic, h⟩ := bind_eq_ok.mp h
    rw [readLE_eq (by omega), ok_bind, readLE_eq (by omega), ok_bind] at h
    obtain ⟨_, hversion, h⟩ := bind_eq_ok.mp h
    rw [readLE_eq (by omega), ok_bind] at h
    obtain ⟨t, hcode, h⟩ := bind_eq_ok.mp h
    rw [readLE_eq (by omega), ok_bind] at h
    obtain ⟨_, hflags, h⟩ := bind_eq_ok.mp h
    rw [readLE_eq (by omega), ok_bind] at h
    obtain ⟨_, hsize, h⟩ := bind_eq_ok.mp h
    rw [readLE_eq (by omega), ok_bind, readLE_eq (by omega), ok_bind, readLE_eq (by omega), ok_bind,
      readLE_eq (by omega), ok_bind, readLE_eq (by omega), ok_bind, readLE_eq (by omega),
      ok_bind] at h
    obtain ⟨_, hreserved, h⟩ := bind_eq_ok.mp h
    obtain ⟨_, hidentity, h⟩ := bind_eq_ok.mp h
    cases hsupervisor : t.onSupervisor with
    | true =>
        simp only [hsupervisor, if_true] at h
        obtain ⟨_, -, hframing⟩ := bind_eq_ok.mp h
        obtain rfl := Outcome.ok.inj hframing
        dsimp only at htype
        subst htype
        cases hsupervisor
    | false =>
        simp only [hsupervisor, Bool.false_eq_true, if_false] at h
        obtain ⟨_, hendpoint, hframing⟩ := bind_eq_ok.mp h
        obtain rfl := Outcome.ok.inj hframing
        dsimp only at htype hhandles
        subst htype
        simp only [failIf_eq_ok, Bool.or_eq_false_iff, decide_eq_false_iff_not, not_not] at *
        exact ⟨hlen, hmagic, hversion, type_list.mp hcode, hflags, hsize.1, hhandles, hreserved,
          hidentity, hendpoint⟩
  · intro h
    have hlen := h.framed
    refine ⟨⟨⟨.serviceList, wordAt 8 bytes 24, wordAt 8 bytes 32, wordAt 8 bytes 40,
      wordAt 8 bytes 48⟩, wordAt 4 bytes 16, wordAt 4 bytes 20⟩, ?_, h.handles, rfl⟩
    have hmagic : (bytes.drop 0).take 4 = magic := h.magic
    have hversion : (decide (wordAt 2 bytes 4 ≠ 1) || decide (wordAt 2 bytes 6 ≠ 0)) = false := by
      rw [h.version.1, h.version.2]
      rfl
    have hsize : (decide (wordAt 4 bytes 16 ≠ bytes.length)
        || decide (wordAt 4 bytes 16 < headerBytes)) = false := by
      rw [h.size, decide_eq_false (Nat.not_lt.mpr hlen), decide_eq_false (not_not.mpr rfl)]
      rfl
    have hidentity : (decide (wordAt 8 bytes 24 = 0) || decide (wordAt 8 bytes 48 = 0)) = false := by
      rw [decide_eq_false h.identity.1, decide_eq_false h.identity.2]
      rfl
    have hendpoint : (decide (wordAt 8 bytes 32 = 0) || decide (wordAt 8 bytes 40 = 0)) = false := by
      rw [decide_eq_false h.endpoint.1, decide_eq_false h.endpoint.2]
      rfl
    have hsupervisor : MessageType.serviceList.onSupervisor = false := rfl
    unfold parseHeader
    rw [failIf_bind (decide_eq_false (Nat.not_lt.mpr hlen)), sliceAt_ok (by omega), ok_bind, readU16,
      readU32, readU64, failIf_bind (decide_eq_false (not_not.mpr hmagic)), readLE_eq (by omega),
      ok_bind, readLE_eq (by omega), ok_bind, failIf_bind hversion, readLE_eq (by omega), ok_bind,
      type_list.mpr h.type, ok_bind, readLE_eq (by omega), ok_bind,
      failIf_bind (decide_eq_false (not_not.mpr h.flags)), readLE_eq (by omega), ok_bind,
      failIf_bind hsize, readLE_eq (by omega), ok_bind, readLE_eq (by omega), ok_bind,
      readLE_eq (by omega), ok_bind, readLE_eq (by omega), ok_bind, readLE_eq (by omega), ok_bind,
      readLE_eq (by omega), ok_bind, failIf_bind (decide_eq_false (not_not.mpr h.reserved)),
      failIf_bind hidentity, hsupervisor]
    exact failIf_bind hendpoint _ _

theorem parseBody_panics {handles : Nat} {t : MessageType} :
    Registry.parseBody bytes handles t = .panic ↔
      t = .serviceList ∧ handles = 0 ∧ ShortTotal bytes := by
  by_cases ht : t = .serviceList
  · subst ht
    unfold Registry.parseBody requireHandles
    rw [failIf_bind_panic, bind_eq_panic, parseServiceList_panics, decide_eq_false_iff_not, not_not]
    constructor
    · rintro ⟨hhandles, hshort | ⟨_, -, hpure⟩⟩
      · exact ⟨rfl, hhandles, hshort⟩
      · cases hpure
    · rintro ⟨-, hhandles, hshort⟩
      exact ⟨hhandles, Or.inl hshort⟩
  · exact iff_of_false (parseBody_ne_panic bytes handles ht) fun h => ht h.1

/-- A list whose last page begins behind the total. -/
def BadLastPage (bytes : List UInt8) (handles : Nat) : Prop :=
  handles = 0 ∧ ListDatagram bytes ∧ ShortTotal bytes

theorem parse_panics
    {handles : Nat} : parse bytes handles = .panic ↔ BadLastPage bytes handles := by
  rw [parse_eq, Registry.parse, bind_eq_panic]
  constructor
  · rintro (hheader | ⟨framing, hframing, h⟩)
    · exact absurd hheader (parseHeader_ne_panic bytes)
    · obtain ⟨hdeclared, h⟩ := failIf_bind_panic.mp h
      rw [decide_eq_false_iff_not, not_not] at hdeclared
      rcases bind_eq_panic.mp h with hbody | ⟨_, -, hpure⟩
      · obtain ⟨htype, hhandles, hshort⟩ := parseBody_panics.mp hbody
        exact ⟨hhandles, parseHeader_list.mp ⟨framing, hframing, hdeclared.trans hhandles, htype⟩,
          hshort⟩
      · cases hpure
  · rintro ⟨hhandles, hlist, hshort⟩
    obtain ⟨framing, hframing, hdeclared, htype⟩ := parseHeader_list.mpr hlist
    refine Or.inr ⟨framing, hframing, failIf_bind_panic.mpr ⟨?_, ?_⟩⟩
    · rw [hdeclared, hhandles]
      rfl
    · rw [parseBody_panics.mpr ⟨htype, hhandles, hshort⟩]
      rfl

end Faults

/-- The three parsers return, with a value or an error. -/
def Faultless (bytes : List UInt8) (handles : Nat) : Prop :=
  parse bytes handles ≠ .panic ∧ parseHeader bytes ≠ .panic ∧ decodeHeader bytes ≠ .panic

/-- No other bytes, with any count of handles, make a parser panic. -/
theorem faultless_iff (bytes : List UInt8) (handles : Nat) :
    Faultless bytes handles ↔ ¬ BadLastPage bytes handles := by
  rw [← parse_panics]
  exact ⟨fun h => h.1, fun h => ⟨h, parseHeader_ne_panic bytes, decodeHeader_ne_panic bytes⟩⟩

/-- The fifth of five pages of one service: four of them are full. -/
def fifthPage : List UInt8 :=
  magic ++ leBytes 2 1 ++ leBytes 2 0 ++ leBytes 4 11 ++ leBytes 4 0 ++ leBytes 4 80 ++ leBytes 4 0
    ++ leBytes 8 7 ++ leBytes 8 1 ++ leBytes 8 1 ++ leBytes 8 11 ++ leBytes 8 0
    ++ leBytes 2 4 ++ leBytes 2 5 ++ leBytes 2 0 ++ leBytes 2 1 ++ leBytes 8 0

theorem fifthPage_faults : ¬ Faultless fifthPage 0 := by
  rintro ⟨hparse, -, -⟩
  exact hparse (by decide +kernel)

end Checked

end Wyrmroot.Registry
