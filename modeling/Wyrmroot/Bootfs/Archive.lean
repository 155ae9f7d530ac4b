import Wyrmroot.Lib.Layout
import Wyrmroot.Loader.Elf

/-!
# Boot archive paths

`wyrmroot-bootfs`: the limits of the archive and `ArchivePath::new`. The
source scans the bytes once and checks a component at every `/`; what it
accepts is stated by `validateArchivePath_eq_ok` through the components.
-/

namespace Wyrmroot.Bootfs

open Outcome
open Loader (checkedAdd checkedAdd_eq_some)

def maxArchiveBytes : Nat := 32 * 1024 * 1024
def maxRecords : Nat := 4096
def maxEncodedNameBytes : Nat := 4096

/-- `b"TRAILER!!!"`. -/
def trailerName : List UInt8 := [84, 82, 65, 73, 76, 69, 82, 33, 33, 33]

/-- `b'/'`. -/
def slash : UInt8 := 47

/-- `b'.'`. -/
def dot : UInt8 := 46

/-- `b'\\\\'`. -/
def backslash : UInt8 := 92

inductive ArchivePathError where
  | emptyPath
  | absolutePath
  | emptyComponent
  | currentDirectoryComponent
  | parentDirectoryComponent
  | nulByte
  | backslash
  | pathTooLong
  | reservedTrailerName
deriving DecidableEq

abbrev PathCheck := Outcome ArchivePathError

def validateComponent (component : List UInt8) : PathCheck Unit :=
  if component = [] then .err .emptyComponent
  else if component = [dot] then .err .currentDirectoryComponent
  else if component = [dot, dot] then .err .parentDirectoryComponent
  else .ok ()

/-- The scan over the bytes from `index` on; `componentStart` is where the
present component began. -/
def scanPath (bytes : List UInt8) (componentStart index : Nat) : List UInt8 → PathCheck Unit
  | [] => do validateComponent (← sliceFrom bytes componentStart)
  | byte :: rest =>
      if byte = 0 then .err .nulByte
      else if byte = backslash then .err .backslash
      else if byte = slash then do
        validateComponent (← sliceAt bytes componentStart (index - componentStart))
        scanPath bytes (index + 1) (index + 1) rest
      else scanPath bytes componentStart (index + 1) rest

def validateArchivePath (bytes : List UInt8) : PathCheck Unit := do
  rejectIf bytes.isEmpty .emptyPath
  rejectIf (maxEncodedNameBytes ≤ bytes.length) .pathTooLong
  rejectIf (bytes = trailerName) .reservedTrailerName
  rejectIf (bytes.head? = some slash) .absolutePath
  scanPath bytes 0 0 bytes

/-- A validated path. -/
structure ArchivePath where
  bytes : List UInt8
  valid : validateArchivePath bytes = .ok ()

/-- `ArchivePath::new`. -/
def ArchivePath.new (bytes : List UInt8) : PathCheck ArchivePath :=
  match h : validateArchivePath bytes with
  | .ok _ => .ok ⟨bytes, h⟩
  | .err e => .err e
  | .panic => .panic

theorem ArchivePath.new_eq_ok {bytes : List UInt8} {path : ArchivePath} :
    ArchivePath.new bytes = .ok path ↔ path.bytes = bytes := by
  unfold ArchivePath.new
  constructor
  · intro h
    split at h
    · rw [← Outcome.ok.inj h]
    · cases h
    · cases h
  · rintro rfl
    split
    · rfl
    · rename_i e he
      rw [path.valid] at he
      cases he
    · rename_i he
      rw [path.valid] at he
      cases he

/-! ## Components -/

/-- Neither empty nor a step in the directory tree. -/
def Plain (component : List UInt8) : Prop :=
  component ≠ [] ∧ component ≠ [dot] ∧ component ≠ [dot, dot]

theorem validateComponent_eq_ok {component : List UInt8} {u : Unit} :
    validateComponent component = .ok u ↔ Plain component := by
  unfold validateComponent Plain
  split
  · simp [*]
  split
  · simp [*]
  split
  · simp [*]
  · simp [*]

/-- The scan in the middle: `component` is what it has seen of the present
component, `rest` what is left. -/
theorem scanPath_eq_ok (rest : List UInt8) : ∀ (before component : List UInt8), slash ∉ component →
    (scanPath (before ++ (component ++ rest)) before.length (before.length + component.length) rest =
      .ok () ↔ 0 ∉ rest ∧ backslash ∉ rest ∧ ∀ part ∈ (component ++ rest).splitOn slash, Plain part) := by
  induction rest with
  | nil =>
      intro before component hslash
      have hlast : (sliceFrom (before ++ (component ++ [])) before.length : PathCheck _) =
          .ok component :=
        sliceFrom_eq_ok.mpr ⟨has_iff.mpr ⟨before, [], rfl, rfl⟩, by simp⟩
      rw [scanPath, hlast, ok_bind, validateComponent_eq_ok, List.append_nil,
        List.splitOn_eq_singleton hslash]
      simp
  | cons byte rest ih =>
      intro before component hslash
      rw [scanPath]
      by_cases hzero : byte = 0
      · simp [hzero]
      by_cases hback : byte = backslash
      · rw [if_neg hzero, if_pos hback]
        simp [hback]
      rw [if_neg hzero, if_neg hback]
      have hbytes : 0 ∉ byte :: rest ↔ 0 ∉ rest := by simp [Ne.symm hzero]
      have hbytes' : backslash ∉ byte :: rest ↔ backslash ∉ rest := by simp [Ne.symm hback]
      rw [hbytes, hbytes']
      by_cases hsep : byte = slash
      · subst hsep
        have hcut : (sliceAt (before ++ (component ++ slash :: rest)) before.length
            (before.length + component.length - before.length) : PathCheck _) = .ok component :=
          sliceAt_eq_ok.mpr ⟨has_iff.mpr ⟨before, slash :: rest, rfl, rfl⟩, by omega⟩
        have hnext := ih (before ++ (component ++ [slash])) [] List.not_mem_nil
        rw [List.splitOn_append_cons_self, List.splitOn_eq_singleton hslash, List.singleton_append,
          List.forall_mem_cons, if_pos rfl, hcut, ok_bind, bind_eq_ok]
        simp only [List.append_assoc, List.nil_append, List.singleton_append, List.length_append,
          List.length_singleton, List.length_nil, Nat.add_zero, ← Nat.add_assoc] at hnext
        constructor
        · rintro ⟨_, hcomponent, hscan⟩
          obtain ⟨h0, h1, hparts⟩ := hnext.mp hscan
          exact ⟨h0, h1, validateComponent_eq_ok.mp hcomponent, hparts⟩
        · rintro ⟨h0, h1, hcomponent, hparts⟩
          exact ⟨(), validateComponent_eq_ok.mpr hcomponent, hnext.mpr ⟨h0, h1, hparts⟩⟩
      · rw [if_neg hsep]
        have hnext := ih before (component ++ [byte]) (by simp [hslash, Ne.symm hsep])
        simpa only [List.append_assoc, List.singleton_append, List.length_append,
          List.length_singleton, ← Nat.add_assoc] using hnext

theorem relative_of_plain {bytes : List UInt8} (h : ∀ part ∈ bytes.splitOn slash, Plain part) :
    bytes.isEmpty = false ∧ bytes.head? ≠ some slash := by
  cases bytes with
  | nil => exact absurd rfl (h [] (by simp [List.splitOn_nil])).1
  | cons byte rest =>
      refine ⟨rfl, fun hfirst => ?_⟩
      obtain rfl := Option.some.inj hfirst
      have hsplit : (slash :: rest).splitOn slash = [[]] ++ rest.splitOn slash := by
        have hsep := List.splitOn_append_cons_self (a := slash) [] rest
        rwa [List.nil_append, List.splitOn_nil] at hsep
      rw [hsplit] at h
      exact (h [] (List.mem_cons_self ..)).1 rfl

/-- What an archive path is: bounded, not the trailer's name, of plain
components, without NULs and backslashes. -/
theorem validateArchivePath_eq_ok {bytes : List UInt8} : validateArchivePath bytes = .ok () ↔
    bytes.length < maxEncodedNameBytes ∧ bytes ≠ trailerName ∧ 0 ∉ bytes ∧ backslash ∉ bytes ∧
      ∀ part ∈ bytes.splitOn slash, Plain part := by
  have hscan := scanPath_eq_ok bytes [] [] List.not_mem_nil
  simp only [List.nil_append, List.length_nil, Nat.add_zero] at hscan
  simp only [validateArchivePath, bind_eq_ok, rejectIf_eq_ok, decide_eq_false_iff_not, exists_const,
    hscan, Nat.not_le]
  constructor
  · rintro ⟨-, hlen, htrailer, -, hparts⟩
    exact ⟨hlen, htrailer, hparts⟩
  · rintro ⟨hlen, htrailer, h0, h1, hparts⟩
    obtain ⟨hempty, hrelative⟩ := relative_of_plain hparts
    exact ⟨hempty, hlen, htrailer, hrelative, h0, h1, hparts⟩

/-!
## Reading a boot archive

`archive.rs`: the parser of one `cpio newc` record, the validation of a
whole archive, and the walk over its entries that `entries` and `lookup`
take afterwards without any bound of their own.

A record always ends behind its header (`parseRecord_next`), which is what
makes both walks end.
-/

def headerSize : Nat := 110

/-- `b"070701"`. -/
def newcMagic : List UInt8 := [48, 55, 48, 55, 48, 49]

inductive ParseError where
  | truncatedHeader (offset : Nat)
  | invalidMagic (offset : Nat)
  | invalidNumeric (offset : Nat)
  | sizeOverflow (offset : Nat)
  | invalidNameSize (offset : Nat)
  | truncatedName (offset : Nat)
  | invalidName (offset : Nat)
  | truncatedData (offset : Nat)
  | truncatedPadding (offset : Nat)
  | invalidPadding (offset : Nat)
  | invalidTrailer (offset : Nat)
  | duplicateName (offset : Nat)
  | unsortedName (offset : Nat)
  | invalidMetadata (offset : Nat)
  | unsupportedFileType (offset : Nat)
  | unsupportedPermissions (offset : Nat)
  | invalidPath (offset : Nat)
  | archiveTooLarge (offset : Nat)
  | tooManyRecords (offset : Nat)
  | nameTooLarge (offset : Nat)
  | trailingBytes (offset : Nat)
deriving DecidableEq

abbrev ParseCheck := Outcome ParseError

/-- `a + b` on `usize`: an overflow is a panic. -/
def plus {ε : Type} (a b : Nat) : Outcome ε Nat := if a + b < 2 ^ 64 then .ok (a + b) else .panic

/-- `value.checked_add(3).map(|aligned| aligned & !3)`. -/
def align4 (value : Nat) : Option Nat := (checkedAdd value 3).map fun aligned => aligned / 4 * 4

/-- The digit that a byte stands for, in either case. -/
def hexDigit (byte : UInt8) : Option Nat :=
  if 48 ≤ byte.toNat ∧ byte.toNat ≤ 57 then some (byte.toNat - 48)
  else if 97 ≤ byte.toNat ∧ byte.toNat ≤ 102 then some (byte.toNat - 97 + 10)
  else if 65 ≤ byte.toNat ∧ byte.toNat ≤ 70 then some (byte.toNat - 65 + 10)
  else none

/-- The digits from `value` on. -/
def hexDigits (offset value : Nat) : List UInt8 → ParseCheck Nat
  | [] => .ok value
  | byte :: rest => do
      let digit ← okOr (hexDigit byte) (.invalidNumeric offset)
      let value ← okOr (if value * 16 < 2 ^ 64 then checkedAdd (value * 16) digit else none)
        (.sizeOverflow offset)
      hexDigits offset value rest

def hexField (field : List UInt8) (offset : Nat) : ParseCheck Nat := hexDigits offset 0 field

/-- `hex_field(&header[from..from + 8], start + from)`. -/
def headerField (header : List UInt8) (start column : Nat) : ParseCheck Nat := do
  let field ← sliceAt header column 8
  let offset ← plus start column
  hexField field offset

structure Record where
  start : Nat
  next : Nat
  name : List UInt8
  data : List UInt8
  path : Option ArchivePath
  executable : Bool
  isTrailer : Bool

/-- The header of a record, as numbers. -/
structure Fields where
  ino : Nat
  mode : Nat
  uid : Nat
  gid : Nat
  nlink : Nat
  mtime : Nat
  filesize : Nat
  devmajor : Nat
  devminor : Nat
  rdevmajor : Nat
  rdevminor : Nat
  namesize : Nat
  check : Nat
deriving DecidableEq

/-- The first part of `parse_record`: the magic and the thirteen fields. -/
def parseFields (bytes : List UInt8) (start : Nat) : ParseCheck Fields := do
  let header ← okOr (if start ≤ bytes.length then some (bytes.drop start) else none)
    (.truncatedHeader start)
  rejectIf (header.length < headerSize) (.truncatedHeader start)
  rejectIf ((← sliceAt header 0 6) ≠ newcMagic) (.invalidMagic start)
  let ino ← headerField header start 6
  let mode ← headerField header start 14
  let uid ← headerField header start 22
  let gid ← headerField header start 30
  let nlink ← headerField header start 38
  let mtime ← headerField header start 46
  let filesize ← headerField header start 54
  let devmajor ← headerField header start 62
  let devminor ← headerField header start 70
  let rdevmajor ← headerField header start 78
  let rdevminor ← headerField header start 86
  let namesize ← headerField header start 94
  let check ← headerField header start 102
  pure { ino, mode, uid, gid, nlink, mtime, filesize, devmajor, devminor, rdevmajor, rdevminor,
         namesize, check }

/-- `bytes.get(from..to).ok_or(e)?`; the source has `from <= to` at each use. -/
def getRange (bytes : List UInt8) (first last : Nat) (e : ParseError) : ParseCheck (List UInt8) :=
  okOr (if first ≤ last then slice bytes first (last - first) else none) e

/-- Where a record's name, data and end are, with the bytes between checked. -/
structure Extent where
  name : List UInt8
  data : List UInt8
  next : Nat
deriving DecidableEq

/-- The second part of `parse_record`: the boundaries. -/
def parseExtent (bytes : List UInt8) (start namesize filesize : Nat) : ParseCheck Extent := do
  rejectIf (maxEncodedNameBytes < namesize) (.nameTooLarge (← plus start 94))
  rejectIf (namesize = 0) (.invalidNameSize (← plus start 94))
  let nameStart ← okOr (checkedAdd start headerSize) (.sizeOverflow start)
  let nameEnd ← okOr (checkedAdd nameStart namesize) (.sizeOverflow (← plus start 94))
  let nameWithNul ← getRange bytes nameStart nameEnd (.truncatedName nameStart)
  let name ← sliceAt nameWithNul 0 (nameWithNul.length - 1)
  rejectIf (nameWithNul.getLast? ≠ some 0 || name.contains 0) (.invalidName nameStart)
  let dataStart ← okOr (align4 nameEnd) (.sizeOverflow nameEnd)
  let padding ← getRange bytes nameEnd dataStart (.truncatedPadding nameEnd)
  rejectIf (padding.any (· ≠ 0)) (.invalidPadding nameEnd)
  let dataEnd ← okOr (checkedAdd dataStart filesize) (.sizeOverflow dataStart)
  let data ← getRange bytes dataStart dataEnd (.truncatedData dataStart)
  let next ← okOr (align4 dataEnd) (.sizeOverflow dataEnd)
  rejectIf (bytes.length < next) (.truncatedPadding dataEnd)
  let tail ← sliceAt bytes dataEnd (next - dataEnd)
  rejectIf (tail.any (· ≠ 0)) (.invalidPadding dataEnd)
  pure { name, data, next }

/-- `0o100444` and `0o100555`. -/
def readOnlyMode : Nat := 0x8124
def executableMode : Nat := 0x816d

def isExecutable (mode start : Nat) : ParseCheck Bool :=
  if mode = readOnlyMode then .ok false
  else if mode = executableMode then .ok true
  else .err (.unsupportedPermissions start)

def parseRecord (bytes : List UInt8) (start : Nat) : ParseCheck Record := do
  let fields ← parseFields bytes start
  let extent ← parseExtent bytes start fields.namesize fields.filesize
  if extent.name = trailerName then do
    rejectIf (fields.ino ≠ 0 || fields.mode ≠ 0 || fields.uid ≠ 0 || fields.gid ≠ 0
      || fields.nlink ≠ 0 || fields.mtime ≠ 0 || fields.filesize ≠ 0 || fields.devmajor ≠ 0
      || fields.devminor ≠ 0 || fields.rdevmajor ≠ 0 || fields.rdevminor ≠ 0
      || fields.check ≠ 0) (.invalidTrailer start)
    pure ⟨start, extent.next, extent.name, extent.data, none, false, true⟩
  else do
    rejectIf (fields.ino ≠ 0 || fields.uid ≠ 0 || fields.gid ≠ 0 || fields.mtime ≠ 0
      || fields.devmajor ≠ 0 || fields.devminor ≠ 0 || fields.rdevmajor ≠ 0
      || fields.rdevminor ≠ 0 || fields.check ≠ 0 || fields.nlink ≠ 1) (.invalidMetadata start)
    rejectIf (fields.mode &&& 0xf000 ≠ 0x8000) (.unsupportedFileType start)
    let executable ← isExecutable fields.mode start
    let path ← (ArchivePath.new extent.name).mapErr fun _ => ParseError.invalidPath start
    pure ⟨start, extent.next, extent.name, extent.data, some path, executable, false⟩

/-! ## What an extent is -/

variable {bytes : List UInt8} {start : Nat} {part : List UInt8}

theorem getRange_eq_ok {first last : Nat} {e : ParseError} :
    getRange bytes first last e = .ok part ↔ first ≤ last ∧ slice bytes first (last - first) = some part := by
  rw [getRange, okOr_eq_ok]
  split <;> simp [*]

theorem align4_eq_some {value aligned : Nat} : align4 value = some aligned ↔
    value + 3 < 2 ^ 64 ∧ aligned = (value + 3) / 4 * 4 := by
  rw [align4, Option.map_eq_some_iff]
  constructor
  · rintro ⟨sum, hsum, rfl⟩
    obtain ⟨hlt, rfl⟩ := checkedAdd_eq_some.mp hsum
    exact ⟨hlt, rfl⟩
  · rintro ⟨hlt, rfl⟩
    exact ⟨_, checkedAdd_eq_some.mpr ⟨hlt, rfl⟩, rfl⟩

/-- The next multiple of four. -/
def alignUp (n : Nat) : Nat := (n + 3) / 4 * 4

/-- Zeros up to it. -/
def padding (n : Nat) : List UInt8 := List.replicate (alignUp n - n) 0

@[simp] theorem length_padding (n : Nat) : (padding n).length = alignUp n - n :=
  List.length_replicate

theorem le_alignUp (n : Nat) : n ≤ alignUp n ∧ alignUp n < n + 4 := by
  unfold alignUp
  omega

theorem add_padding (n : Nat) : n + (alignUp n - n) = alignUp n :=
  Nat.add_sub_cancel' (le_alignUp n).1

/-- What follows the header of a record at `start`. -/
def extentText (start : Nat) (name data : List UInt8) : List UInt8 :=
  (name ++ [0]) ++ (padding (start + headerSize + (name.length + 1)) ++
    (data ++ padding (alignUp (start + headerSize + (name.length + 1)) + data.length)))

theorem length_extentText (start : Nat) (name data : List UInt8) :
    start + headerSize + (extentText start name data).length =
      alignUp (alignUp (start + headerSize + (name.length + 1)) + data.length) := by
  have h₁ := le_alignUp (start + headerSize + (name.length + 1))
  have h₂ := le_alignUp (alignUp (start + headerSize + (name.length + 1)) + data.length)
  simp only [extentText, List.length_append, List.length_singleton, length_padding]
  omega

theorem any_ne_zero :
    part.any (· ≠ 0) = false ↔ part = List.replicate part.length 0 := by
  rw [List.any_eq_false, List.eq_replicate_iff]
  simp

theorem getRange_has {first last : Nat} {e : ParseError} :
    getRange bytes first last e = .ok part ↔ Has bytes first part ∧ last = first + part.length := by
  rw [getRange_eq_ok, slice_eq_some_iff_has]
  constructor
  · rintro ⟨hle, hpart, hlen⟩
    exact ⟨hpart, by omega⟩
  · rintro ⟨hpart, rfl⟩
    exact ⟨by omega, hpart, by omega⟩

theorem nul_terminated {nameWithNul name : List UInt8}
    (hname : Has nameWithNul 0 name) (hlen : name.length = nameWithNul.length - 1)
    (hpos : 0 < nameWithNul.length) :
    nameWithNul.getLast? = some 0 ↔ nameWithNul = name ++ [0] := by
  obtain ⟨before, after, rfl, hbefore⟩ := has_iff.mp hname
  obtain rfl := List.length_eq_zero_iff.mp hbefore
  simp only [List.nil_append, List.length_append] at hlen hpos ⊢
  obtain ⟨last, rfl⟩ := List.length_eq_one_iff.mp (show after.length = 1 by omega)
  simp

/-- What an accepted extent is. -/
structure Extent.Sound (bytes : List UInt8) (start namesize filesize : Nat) (extent : Extent) :
    Prop where
  text : Has bytes (start + headerSize) (extentText start extent.name extent.data)
  namesize_eq : namesize = extent.name.length + 1
  name_le : namesize ≤ maxEncodedNameBytes
  no_nul : 0 ∉ extent.name
  filesize_eq : filesize = extent.data.length
  next_eq : extent.next = start + headerSize + (extentText start extent.name extent.data).length

theorem parseExtent_sound {namesize filesize : Nat} {extent : Extent}
    (h : parseExtent bytes start namesize filesize = .ok extent) :
    extent.Sound bytes start namesize filesize := by
  simp only [parseExtent, bind_eq_ok, rejectIf_eq_ok, okOr_eq_ok, checkedAdd_eq_some, align4_eq_some,
    getRange_has, sliceAt_eq_ok, any_ne_zero, decide_eq_false_iff_not, Bool.or_eq_false_iff,
    not_not, ne_eq, Outcome.pure_eq, Outcome.ok.injEq, exists_const] at h
  obtain ⟨_, -, hmax, _, -, hpos, _, ⟨-, rfl⟩, _, -, _, ⟨-, rfl⟩, nameWithNul, ⟨hname, hnameLen⟩,
    name, ⟨hcut, hcutLen⟩, ⟨hlast, hnul⟩, _, ⟨-, rfl⟩, pad, ⟨hpad, hpadLen⟩, hpadZero, _, ⟨-, rfl⟩,
    data, ⟨hdata, hdataLen⟩, _, ⟨-, rfl⟩, hend, tail, ⟨htail, htailLen⟩, htailZero, rfl⟩ := h
  obtain rfl := (nul_terminated hcut hcutLen (by omega)).mp hlast
  obtain rfl : namesize = name.length + 1 := by simpa using hnameLen
  obtain rfl : filesize = data.length := by omega
  have hpadding : pad = padding (start + headerSize + (name.length + 1)) := by
    rw [hpadZero, padding]
    exact congrArg (List.replicate · 0) (by rw [alignUp]; omega)
  have htailing : tail = padding (alignUp (start + headerSize + (name.length + 1)) + data.length) := by
    rw [htailZero, padding, htailLen]
    rfl
  subst hpadding htailing
  have htext : Has bytes (start + headerSize) (extentText start name data) := by
    simp only [extentText, has_append, List.length_append, List.length_singleton, length_padding]
    rw [has_append] at hname
    refine ⟨hname, by simpa [Nat.add_assoc] using hpad, ?_, ?_⟩
    · rw [add_padding]
      exact hdata
    · rw [add_padding]
      exact htail
  refine ⟨htext, rfl, Nat.not_lt.mp hmax, ?_, rfl, ?_⟩
  · rwa [← List.contains_iff_mem, Bool.not_eq_true]
  · rw [length_extentText]
    rfl

theorem parseExtent_complete {name data : List UInt8} (hbytes : bytes.length < 2 ^ 63)
    (htext : Has bytes (start + headerSize) (extentText start name data))
    (hmax : name.length + 1 ≤ maxEncodedNameBytes) (hnul : 0 ∉ name) :
    parseExtent bytes start (name.length + 1) data.length =
      .ok ⟨name, data, start + headerSize + (extentText start name data).length⟩ := by
  simp only [parseExtent, bind_eq_ok, rejectIf_eq_ok, okOr_eq_ok, checkedAdd_eq_some, align4_eq_some,
    getRange_has, sliceAt_eq_ok, any_ne_zero, decide_eq_false_iff_not, Bool.or_eq_false_iff,
    not_not, ne_eq, Outcome.pure_eq, Outcome.ok.injEq, exists_const]
  have hfits := has_length htext
  rw [length_extentText] at hfits ⊢
  have halign := le_alignUp (start + headerSize + (name.length + 1))
  have halign' := le_alignUp (alignUp (start + headerSize + (name.length + 1)) + data.length)
  simp only [extentText, has_append, List.length_append, List.length_singleton,
    length_padding] at htext
  rw [add_padding] at htext
  obtain ⟨hname, hpad, hdata, htail⟩ := htext
  have hheader : headerSize = 110 := rfl
  have hplus : (plus start 94 : ParseCheck Nat) = .ok (start + 94) := if_pos (by omega)
  have hcut := (@has_whole (name ++ [0]) _).mpr rfl
  rw [has_append] at hcut
  refine ⟨_, hplus, Nat.not_lt.mpr hmax, _, hplus, by omega, _, ⟨by omega, rfl⟩, _, hplus, _,
    ⟨by omega, rfl⟩, name ++ [0], ⟨has_append.mpr hname, by simp⟩, name, ⟨hcut.1.1, by simp⟩,
    ⟨by simp, ?_⟩, _, ⟨by omega, rfl⟩, _, ⟨hpad, ?_⟩, ?_, _, ⟨by omega, rfl⟩, data, ⟨hdata, rfl⟩, _,
    ⟨by omega, rfl⟩, ?_, _, ⟨htail, ?_⟩, ?_, ?_⟩
  · rwa [← List.contains_iff_mem, Bool.not_eq_true] at hnul
  · rw [length_padding]
    exact (Nat.add_sub_cancel' halign.1).symm
  · rw [length_padding]
    rfl
  · exact Nat.not_lt.mpr hfits
  · rw [length_padding]
    rfl
  · rw [length_padding]
    rfl
  · rfl

/-! ## Records -/

/-- What an accepted record is. -/
structure Record.Sound (bytes : List UInt8) (start : Nat) (record : Record) : Prop where
  start_eq : record.start = start
  text : Has bytes (start + headerSize) (extentText start record.name record.data)
  next_eq : record.next = start + headerSize + (extentText start record.name record.data).length
  trailer_iff : record.isTrailer = true ↔ record.name = trailerName
  path_eq : record.isTrailer = false → ∃ path, record.path = some path ∧ path.bytes = record.name

theorem parseRecord_sound {record : Record} (h : parseRecord bytes start = .ok record) :
    record.Sound bytes start := by
  obtain ⟨fields, -, h₁⟩ := bind_eq_ok.mp h
  obtain ⟨extent, hextent, h₂⟩ := bind_eq_ok.mp h₁
  have hsound := parseExtent_sound hextent
  by_cases hname : extent.name = trailerName
  · rw [if_pos hname] at h₂
    obtain ⟨_, -, h₃⟩ := bind_eq_ok.mp h₂
    obtain rfl := Outcome.ok.inj h₃
    exact ⟨rfl, hsound.text, hsound.next_eq, iff_of_true rfl hname, nofun⟩
  · rw [if_neg hname] at h₂
    obtain ⟨_, -, h₃⟩ := bind_eq_ok.mp h₂
    obtain ⟨_, -, h₄⟩ := bind_eq_ok.mp h₃
    obtain ⟨executable, -, h₅⟩ := bind_eq_ok.mp h₄
    obtain ⟨path, hpath, h₆⟩ := bind_eq_ok.mp h₅
    obtain rfl := Outcome.ok.inj h₆
    refine ⟨rfl, hsound.text, hsound.next_eq, iff_of_false nofun hname, fun _ => ⟨path, rfl, ?_⟩⟩
    cases hnew : ArchivePath.new extent.name with
    | ok path' =>
        rw [hnew] at hpath
        obtain rfl := Outcome.ok.inj hpath
        exact ArchivePath.new_eq_ok.mp hnew
    | err e | panic =>
        rw [hnew] at hpath
        cases hpath

theorem parseRecord_next {record : Record} (h : parseRecord bytes start = .ok record) :
    start + headerSize < record.next ∧ record.next ≤ bytes.length := by
  have hsound := parseRecord_sound h
  refine ⟨?_, ?_⟩
  · rw [hsound.next_eq]
    simp only [extentText, List.length_append, List.length_singleton]
    omega
  · rw [hsound.next_eq]
    exact has_length hsound.text

/-! ## The archive -/

/-- The loop of `Archive::new`. -/
def validateRecords (bytes : List UInt8) (cursor : Nat) (previousName : Option (List UInt8))
    (recordCount : Nat) : ParseCheck Unit :=
  match _h : parseRecord bytes cursor with
  | .err e => .err e
  | .panic => .panic
  | .ok record =>
      if !record.isTrailer && maxRecords < recordCount + 1 then .err (.tooManyRecords record.start)
      else if record.isTrailer then rejectIf (record.next ≠ bytes.length) (.trailingBytes record.next)
      else
        match previousName with
        | none => validateRecords bytes record.next (some record.name) (recordCount + 1)
        | some previous =>
            if record.name = previous then .err (.duplicateName record.start)
            else if record.name < previous then .err (.unsortedName record.start)
            else validateRecords bytes record.next (some record.name) (recordCount + 1)
termination_by bytes.length - cursor
decreasing_by
  all_goals
    obtain ⟨hnext, hend⟩ := parseRecord_next _h
    omega

def checkArchiveLength (byteLen : Nat) : ParseCheck Unit :=
  rejectIf (maxArchiveBytes < byteLen) (.archiveTooLarge maxArchiveBytes)

structure Archive where
  bytes : List UInt8
deriving DecidableEq

def Archive.new (bytes : List UInt8) : ParseCheck Archive := do
  checkArchiveLength bytes.length
  validateRecords bytes 0 none 0
  pure ⟨bytes⟩

structure Entry where
  name : List UInt8
  data : List UInt8
  path : ArchivePath
  executable : Bool

/-- What `Entries::next` yields from `cursor` on, until it yields nothing. -/
def entriesFrom (bytes : List UInt8) (cursor : Nat) : Outcome Empty (List Entry) :=
  match _h : parseRecord bytes cursor with
  | .err _ => .ok []
  | .panic => .panic
  | .ok record =>
      if record.isTrailer then .ok []
      else
        match record.path with
        | none => .ok []
        | some path => do
            let rest ← entriesFrom bytes record.next
            pure (⟨record.name, record.data, path, record.executable⟩ :: rest)
termination_by bytes.length - cursor
decreasing_by
  obtain ⟨hnext, hend⟩ := parseRecord_next _h
  omega

def Archive.entries (archive : Archive) : Outcome Empty (List Entry) := entriesFrom archive.bytes 0

inductive LookupError where
  | invalidPath (error : ArchivePathError)
  | notFound
deriving DecidableEq

def Archive.lookup (archive : Archive) (query : List UInt8) : Outcome LookupError Entry := do
  let canonicalQuery ← (ArchivePath.new query).mapErr LookupError.invalidPath
  let entries ← archive.entries.mapErr Empty.elim
  okOr (entries.find? fun entry => entry.name == canonicalQuery.bytes) .notFound

end Wyrmroot.Bootfs
