import Mathlib.Data.List.Sort
import Wyrmroot.Lib.Bytes

/-!
# The user ELF planner

`elf::plan`: a hostile image in, a sorted list of load segments out.
Offsets, addresses and sizes are 64-bit values read from the image, so every
`checked_add` is a comparison with `2 ^ 64`; an unchecked slice or a wrapped
subtraction would be a panic.

What the process loader uses of an accepted plan is `plan_ok`: there are at
most `maxLoadSegments` of them and each one's file range lies in the image.
-/

namespace Wyrmroot.Loader

open Outcome

def pageSize : Nat := 4096
def maxElfBytes : Nat := 16 * 1024 * 1024
def maxProgramHeaders : Nat := 16
def maxLoadSegments : Nat := 8
def maxMappedImageBytes : Nat := 32 * 1024 * 1024
def userEndExclusive : Nat := 0x0000800000000000
def stackTop : Nat := 0x00007fffffff0000
def stackBytes : Nat := 128 * 1024
def stackGuardBytes : Nat := pageSize
def stackBottom : Nat := stackTop - stackBytes
def stackGuardStart : Nat := stackBottom - stackGuardBytes

def elfHeaderBytes : Nat := 64
def programHeaderBytes : Nat := 56
def etExec : Nat := 2
def emX8664 : Nat := 62
def evCurrent : Nat := 1
def ptLoad : Nat := 1
def ptPhdr : Nat := 6
def ptGnuStack : Nat := 0x6474e551
def pfX : Nat := 1
def pfW : Nat := 2
def pfR : Nat := 4
def pfRW : Nat := 6
def pfRX : Nat := 5

inductive SegmentProtection where
  | read
  | readWrite
  | readExecute
deriving DecidableEq

structure LoadSegment where
  headerIndex : Nat
  fileOffset : Nat
  fileSize : Nat
  memorySize : Nat
  virtualAddress : Nat
  mappingStart : Nat
  mappingSize : Nat
  leadingBytes : Nat
  protection : SegmentProtection
deriving DecidableEq

def LoadSegment.memoryEnd (s : LoadSegment) : Nat := s.virtualAddress + s.memorySize

def LoadSegment.mappingEnd (s : LoadSegment) : Nat := s.mappingStart + s.mappingSize

structure ElfLoadPlan where
  entry : Nat
  segments : List LoadSegment
  mappedBytes : Nat
deriving DecidableEq

inductive ElfError where
  | imageSize
  | headerTruncated
  | badMagic
  | unsupportedClass (value : Nat)
  | unsupportedDataEncoding (value : Nat)
  | unsupportedIdentVersion (value : Nat)
  | unsupportedOsAbi (value : Nat)
  | unsupportedAbiVersion (value : Nat)
  | unsupportedElfType (value : Nat)
  | unsupportedMachine (value : Nat)
  | unsupportedElfVersion (value : Nat)
  | unsupportedElfFlags (value : Nat)
  | invalidElfHeaderSize (value : Nat)
  | invalidProgramHeaderSize (value : Nat)
  | missingProgramHeaders
  | tooManyProgramHeaders (count : Nat)
  | programHeaderTableOverflow
  | programHeaderTableTruncated
  | programHeaderTableOverlapsElfHeader
  | programHeaderTableMisaligned
  | unsupportedProgramHeaderType (index headerType : Nat)
  | duplicateProgramHeaderType (headerType : Nat)
  | unknownSegmentFlags (index flags : Nat)
  | invalidStackHeader (index : Nat)
  | invalidPhdrHeader (index : Nat)
  | tooManyLoadSegments (count : Nat)
  | outputTooSmall (required supplied : Nat)
  | emptyLoadSegment (index : Nat)
  | fileSizeExceedsMemorySize (index : Nat)
  | segmentFileRangeOverflow (index : Nat)
  | segmentFileRangeTruncated (index : Nat)
  | segmentVirtualRangeOverflow (index : Nat)
  | segmentMappingRangeOverflow (index : Nat)
  | invalidSegmentAlignment (index alignment : Nat)
  | segmentAlignmentBelowPolicy (index alignment : Nat)
  | segmentAddressAlignmentMismatch (index : Nat)
  | segmentVirtualRangeOutsidePolicy (index : Nat)
  | segmentOverlapsInitialStack (index : Nat)
  | writableExecutableSegment (index : Nat)
  | unsupportedSegmentProtection (index flags : Nat)
  | overlappingVirtualSegments (first second : Nat)
  | overlappingVirtualMappingRanges (first second : Nat)
  | mappedImageLimit
  | zeroEntryPoint
  | entryPointOutsideExecutableSegment
deriving DecidableEq

/-- A planning step: a value, a rejection, or a panic. -/
abbrev Plan (α : Type) := Outcome ElfError α

/-- `u64::checked_add`; `usize` has the same width here. -/
def checkedAdd (a b : Nat) : Option Nat := if a + b < 2 ^ 64 then some (a + b) else none

/-- `u64::is_power_of_two`. -/
def isPowerOfTwo (n : Nat) : Bool := 2 ^ n.log2 = n

/-- `value & !(alignment - 1)` for a power of two. -/
def alignDown (value alignment : Nat) : Nat := value / alignment * alignment

/-- `align_up`, for a power of two. -/
def alignUp (value alignment : Nat) : Option Nat :=
  (checkedAdd value (alignment - 1)).map (alignDown · alignment)

structure ElfHeader where
  entry : Nat
  programOffset : Nat
  programCount : Nat
deriving DecidableEq

/-- The identification bytes: each must have its one supported value. -/
def checkIdent (bytes : List UInt8) (offset expected : Nat) (e : Nat → ElfError) : Plan Unit := do
  let value ← byteAt bytes offset
  rejectIf (value ≠ expected) (e value)

/-- A header field with one supported value. -/
def checkField (n : Nat) (bytes : List UInt8) (offset expected : Nat) (e : Nat → ElfError) :
    Plan Unit := do
  let value ← getLE n bytes offset
  rejectIf (value ≠ expected) (e value)

def parseElfHeader (image : List UInt8) : Plan ElfHeader := do
  rejectIf (image.isEmpty || maxElfBytes < image.length) .imageSize
  let bytes ← okOr (slice image 0 elfHeaderBytes) .headerTruncated
  let magic ← sliceAt bytes 0 4
  rejectIf (magic ≠ [0x7f, 0x45, 0x4c, 0x46]) .badMagic
  checkIdent bytes 4 2 .unsupportedClass
  checkIdent bytes 5 1 .unsupportedDataEncoding
  checkIdent bytes 6 1 .unsupportedIdentVersion
  checkIdent bytes 7 0 .unsupportedOsAbi
  checkIdent bytes 8 0 .unsupportedAbiVersion
  checkField 2 bytes 16 etExec .unsupportedElfType
  checkField 2 bytes 18 emX8664 .unsupportedMachine
  checkField 4 bytes 20 evCurrent .unsupportedElfVersion
  checkField 4 bytes 48 0 .unsupportedElfFlags
  checkField 2 bytes 52 elfHeaderBytes .invalidElfHeaderSize
  checkField 2 bytes 54 programHeaderBytes .invalidProgramHeaderSize
  let programCount ← getLE 2 bytes 56
  rejectIf (programCount = 0) .missingProgramHeaders
  rejectIf (maxProgramHeaders < programCount) (.tooManyProgramHeaders programCount)
  let programOffset ← getLE 8 bytes 32
  rejectIf (programOffset < elfHeaderBytes) .programHeaderTableOverlapsElfHeader
  rejectIf (programOffset % 8 ≠ 0) .programHeaderTableMisaligned
  let tableEnd ← okOr (checkedAdd programOffset (programCount * programHeaderBytes))
    .programHeaderTableOverflow
  rejectIf (image.length < tableEnd) .programHeaderTableTruncated
  let entry ← getLE 8 bytes 24
  pure { entry, programOffset, programCount }

def programHeader (image : List UInt8) (header : ElfHeader) (index : Nat) :
    Plan (List UInt8) := do
  let start ← okOr (checkedAdd header.programOffset (index * programHeaderBytes))
    .programHeaderTableOverflow
  -- `start + PROGRAM_HEADER_BYTES` is an unchecked addition
  if start + programHeaderBytes < 2 ^ 64 then
    okOr (slice image start programHeaderBytes) .programHeaderTableTruncated
  else .panic

def validateStackHeader (ph : List UInt8) (index : Nat) : Plan Unit := do
  let flags ← getLE 4 ph 4
  let offset ← getLE 8 ph 8
  let address ← getLE 8 ph 16
  let physical ← getLE 8 ph 24
  let fileSize ← getLE 8 ph 32
  let memorySize ← getLE 8 ph 40
  rejectIf (flags ≠ pfRW || offset ≠ 0 || address ≠ 0 || physical ≠ 0 || fileSize ≠ 0
    || memorySize ≠ 0) (.invalidStackHeader index)

def validatePhdrHeader (ph : List UInt8) (header : ElfHeader) (index imageLen : Nat) :
    Plan Unit := do
  let tableBytes := header.programCount * programHeaderBytes
  let fileEnd ← okOr (checkedAdd header.programOffset tableBytes) (.invalidPhdrHeader index)
  let flags ← getLE 4 ph 4
  let offset ← getLE 8 ph 8
  let fileSize ← getLE 8 ph 32
  let memorySize ← getLE 8 ph 40
  rejectIf (flags ≠ pfR || offset ≠ header.programOffset || fileSize ≠ tableBytes
    || memorySize ≠ tableBytes || imageLen < fileEnd) (.invalidPhdrHeader index)

/-- What the first pass over the program headers has seen. -/
structure HeaderScan where
  count : Nat := 0
  sawPhdr : Bool := false
  sawStack : Bool := false
deriving DecidableEq

def scanHeader (image : List UInt8) (header : ElfHeader) (scan : HeaderScan) (index : Nat) :
    Plan HeaderScan := do
  let ph ← programHeader image header index
  let headerType ← getLE 4 ph 0
  if headerType = ptLoad then
    rejectIf (maxLoadSegments < scan.count + 1) (.tooManyLoadSegments (scan.count + 1))
    pure { scan with count := scan.count + 1 }
  else if headerType = ptPhdr then
    rejectIf scan.sawPhdr (.duplicateProgramHeaderType ptPhdr)
    validatePhdrHeader ph header index image.length
    pure { scan with sawPhdr := true }
  else if headerType = ptGnuStack then
    rejectIf scan.sawStack (.duplicateProgramHeaderType ptGnuStack)
    validateStackHeader ph index
    pure { scan with sawStack := true }
  else .err (.unsupportedProgramHeaderType index headerType)

def requiredSegmentCount (image : List UInt8) : Plan Nat := do
  let header ← parseElfHeader image
  let scan ← (List.range header.programCount).foldlM (scanHeader image header) {}
  rejectIf (scan.count = 0) .missingProgramHeaders
  pure scan.count

def segmentProtection (index flags : Nat) : Plan SegmentProtection :=
  if flags = pfR then .ok .read
  else if flags = pfRW then .ok .readWrite
  else if flags = pfRX then .ok .readExecute
  else .err (.unsupportedSegmentProtection index flags)

def parseLoadSegment (image ph : List UInt8) (index : Nat) : Plan LoadSegment := do
  let flags ← getLE 4 ph 4
  rejectIf (pfR ||| pfW ||| pfX < flags) (.unknownSegmentFlags index flags)
  rejectIf (flags &&& pfW ≠ 0 && flags &&& pfX ≠ 0) (.writableExecutableSegment index)
  let protection ← segmentProtection index flags
  let fileOffset ← getLE 8 ph 8
  let virtualAddress ← getLE 8 ph 16
  let fileSize ← getLE 8 ph 32
  let memorySize ← getLE 8 ph 40
  let alignment ← getLE 8 ph 48
  rejectIf (memorySize = 0) (.emptyLoadSegment index)
  rejectIf (memorySize < fileSize) (.fileSizeExceedsMemorySize index)
  let fileEnd ← okOr (checkedAdd fileOffset fileSize) (.segmentFileRangeOverflow index)
  rejectIf (image.length < fileEnd) (.segmentFileRangeTruncated index)
  let memoryEnd ← okOr (checkedAdd virtualAddress memorySize) (.segmentVirtualRangeOverflow index)
  rejectIf (!isPowerOfTwo alignment) (.invalidSegmentAlignment index alignment)
  rejectIf (alignment < pageSize) (.segmentAlignmentBelowPolicy index alignment)
  rejectIf (fileOffset % alignment ≠ virtualAddress % alignment)
    (.segmentAddressAlignmentMismatch index)
  let mappingStart := alignDown virtualAddress pageSize
  let mappingEnd ← okOr (alignUp memoryEnd pageSize) (.segmentMappingRangeOverflow index)
  rejectIf (mappingEnd < mappingStart) (.segmentMappingRangeOverflow index)
  rejectIf (mappingStart < pageSize || userEndExclusive < mappingEnd)
    (.segmentVirtualRangeOutsidePolicy index)
  rejectIf (mappingStart < stackTop && stackGuardStart < mappingEnd)
    (.segmentOverlapsInitialStack index)
  pure { headerIndex := index, fileOffset, fileSize, memorySize, virtualAddress, mappingStart,
         mappingSize := mappingEnd - mappingStart,
         leadingBytes := virtualAddress - mappingStart, protection }

/-- The segments gathered so far, in header order, and their total size. -/
structure SegmentScan where
  segments : List LoadSegment := []
  mappedBytes : Nat := 0
deriving DecidableEq

/-- One turn of the second pass; `output[len] = segment` needs room. -/
def gatherSegment (image : List UInt8) (header : ElfHeader) (outputLen : Nat)
    (scan : SegmentScan) (index : Nat) : Plan SegmentScan := do
  let ph ← programHeader image header index
  let headerType ← getLE 4 ph 0
  if headerType ≠ ptLoad then pure scan
  else do
    let segment ← parseLoadSegment image ph index
    let mappedBytes ← okOr (checkedAdd scan.mappedBytes segment.mappingSize) .mappedImageLimit
    rejectIf (maxMappedImageBytes < mappedBytes) .mappedImageLimit
    if scan.segments.length < outputLen then
      pure { segments := scan.segments ++ [segment], mappedBytes }
    else .panic

/-- The order of `sort_unstable_by_key`; header indices are distinct, so no
two segments share a key. -/
def LoadSegment.Before (a b : LoadSegment) : Prop :=
  a.mappingStart < b.mappingStart
    ∨ (a.mappingStart = b.mappingStart ∧ a.headerIndex ≤ b.headerIndex)

instance : DecidableRel LoadSegment.Before := fun _ _ => inferInstanceAs (Decidable (_ ∨ _))

def validateNonoverlap : List LoadSegment → Plan Unit
  | first :: second :: rest => do
      rejectIf (second.virtualAddress < first.memoryEnd)
        (.overlappingVirtualSegments first.headerIndex second.headerIndex)
      rejectIf (second.mappingStart < first.mappingEnd)
        (.overlappingVirtualMappingRanges first.headerIndex second.headerIndex)
      validateNonoverlap (second :: rest)
  | _ => .ok ()

def LoadSegment.holdsEntry (entry : Nat) (s : LoadSegment) : Bool :=
  s.protection = .readExecute && s.virtualAddress ≤ entry && entry < s.memoryEnd

/-- `plan` with an output array of `outputLen` segments. -/
def plan (image : List UInt8) (outputLen : Nat) : Plan ElfLoadPlan := do
  let required ← requiredSegmentCount image
  rejectIf (outputLen < required) (.outputTooSmall required outputLen)
  let header ← parseElfHeader image
  let scan ← (List.range header.programCount).foldlM (gatherSegment image header outputLen) {}
  let segments := scan.segments.insertionSort LoadSegment.Before
  validateNonoverlap segments
  rejectIf (header.entry = 0) .zeroEntryPoint
  rejectIf (!segments.any (LoadSegment.holdsEntry header.entry))
    .entryPointOutsideExecutableSegment
  pure { entry := header.entry, segments, mappedBytes := scan.mappedBytes }

/-! ## No panics -/

theorem checkedAdd_eq_some
    {a b c : Nat} : checkedAdd a b = some c ↔ a + b < 2 ^ 64 ∧ a + b = c := by
  unfold checkedAdd
  split <;> simp_all

theorem alignDown_le (value alignment : Nat) : alignDown value alignment ≤ value :=
  Nat.div_mul_le_self value alignment

theorem le_alignUp {value alignment rounded : Nat} (hpos : 0 < alignment)
    (h : alignUp value alignment = some rounded) : value ≤ rounded := by
  rw [alignUp, Option.map_eq_some_iff] at h
  obtain ⟨sum, hsum, rfl⟩ := h
  obtain ⟨-, rfl⟩ := checkedAdd_eq_some.mp hsum
  have hlt := Nat.lt_div_mul_add (a := value + (alignment - 1)) hpos
  show value ≤ (value + (alignment - 1)) / alignment * alignment
  omega

theorem isPowerOfTwo_pos {n : Nat} (h : isPowerOfTwo n = true) : 0 < n := by
  rw [← of_decide_eq_true h]
  exact Nat.two_pow_pos _

theorem checkIdent_ne_panic {bytes : List UInt8} {offset expected : Nat} {e : Nat → ElfError}
    (h : offset < bytes.length) : checkIdent bytes offset expected e ≠ .panic := by
  unfold checkIdent byteAt
  rw [List.getElem?_eq_getElem h]
  exact rejectIf_ne_panic _ _

theorem checkField_ne_panic {n offset expected : Nat} {bytes : List UInt8} {e : Nat → ElfError}
    (h : offset + n ≤ bytes.length) : checkField n bytes offset expected e ≠ .panic := by
  unfold checkField
  rw [getLE_ok h]
  exact rejectIf_ne_panic _ _

/-- The program header table lies in the image. -/
def ElfHeader.TableIn (header : ElfHeader) (image : List UInt8) : Prop :=
  header.programOffset + header.programCount * programHeaderBytes ≤ image.length
    ∧ image.length ≤ maxElfBytes

theorem parseElfHeader_ne_panic (image : List UInt8) : parseElfHeader image ≠ .panic := by
  unfold parseElfHeader
  refine bind_ne_panic (rejectIf_ne_panic _ _) fun _ _ => ?_
  refine bind_ne_panic (okOr_ne_panic _ _) fun bytes hbytes => ?_
  have hlen : bytes.length = 64 := slice_length (okOr_eq_ok.mp hbytes)
  refine bind_ne_panic ?_ fun _ _ => ?_
  · rw [sliceAt_ok (by omega)]
    exact nofun
  refine bind_ne_panic (rejectIf_ne_panic _ _) fun _ _ => ?_
  iterate 5 refine bind_ne_panic (checkIdent_ne_panic (by omega)) fun _ _ => ?_
  iterate 6 refine bind_ne_panic (checkField_ne_panic (by omega)) fun _ _ => ?_
  iterate 9 first
    | refine bind_ne_panic (getLE_ne_panic (by omega)) fun _ _ => ?_
    | refine bind_ne_panic (rejectIf_ne_panic _ _) fun _ _ => ?_
    | refine bind_ne_panic (okOr_ne_panic _ _) fun _ _ => ?_
  exact pure_ne_panic _

variable {image : List UInt8}

theorem parseElfHeader_ok {header : ElfHeader}
    (h : parseElfHeader image = .ok header) : header.TableIn image := by
  simp only [parseElfHeader, bind_eq_ok, rejectIf_eq_ok, okOr_eq_ok, exists_const,
    Bool.or_eq_false_iff, decide_eq_false_iff_not, Nat.not_lt] at h
  obtain ⟨⟨-, hsize⟩, bytes, -, magic, -, -, -, -, -, -, -, -, -, -, -, -, -, -, -, -, -, -, -, -,
    -, -, -, -, count, -, -, -, offset, -, -, -, tableEnd, hend, hfit, entry, -, heq⟩ := h
  obtain rfl := Outcome.ok.inj heq
  obtain ⟨-, hsum⟩ := checkedAdd_eq_some.mp hend
  exact ⟨hsum.trans_le hfit, hsize⟩

theorem programHeader_ne_panic {header : ElfHeader} {index : Nat}
    (htable : header.TableIn image) (hindex : index < header.programCount) :
    programHeader image header index ≠ .panic := by
  obtain ⟨htable, hsize⟩ := htable
  unfold programHeader
  refine bind_ne_panic (okOr_ne_panic _ _) fun start hstart => ?_
  obtain ⟨-, rfl⟩ := checkedAdd_eq_some.mp (okOr_eq_ok.mp hstart)
  have hfits : header.programOffset + index * programHeaderBytes + programHeaderBytes < 2 ^ 64 := by
    simp only [programHeaderBytes, maxElfBytes] at *
    omega
  rw [if_pos hfits]
  exact okOr_ne_panic _ _

variable {ph : List UInt8}

theorem programHeader_length {header : ElfHeader} {index : Nat}
    (h : programHeader image header index = .ok ph) : ph.length = programHeaderBytes := by
  simp only [programHeader, bind_eq_ok] at h
  obtain ⟨start, -, h⟩ := h
  split at h
  · exact slice_length (okOr_eq_ok.mp h)
  · cases h

theorem validateStackHeader_ne_panic {index : Nat}
    (h : ph.length = programHeaderBytes) : validateStackHeader ph index ≠ .panic := by
  rw [programHeaderBytes] at h
  unfold validateStackHeader
  iterate 6 refine bind_ne_panic (getLE_ne_panic (by omega)) fun _ _ => ?_
  exact rejectIf_ne_panic _ _

theorem validatePhdrHeader_ne_panic {header : ElfHeader} {index imageLen : Nat}
    (h : ph.length = programHeaderBytes) :
    validatePhdrHeader ph header index imageLen ≠ .panic := by
  rw [programHeaderBytes] at h
  unfold validatePhdrHeader
  refine bind_ne_panic (okOr_ne_panic _ _) fun _ _ => ?_
  iterate 4 refine bind_ne_panic (getLE_ne_panic (by omega)) fun _ _ => ?_
  exact rejectIf_ne_panic _ _

theorem scanHeader_ne_panic {header : ElfHeader} {index : Nat}
    (htable : header.TableIn image) (hindex : index < header.programCount) (scan : HeaderScan) :
    scanHeader image header scan index ≠ .panic := by
  unfold scanHeader
  refine bind_ne_panic (programHeader_ne_panic htable hindex) fun ph hph => ?_
  have hlen := programHeader_length hph
  have hfit : 0 + 4 ≤ ph.length := by
    rw [hlen]
    decide
  refine bind_ne_panic (getLE_ne_panic hfit) fun headerType _ => ?_
  split
  · exact bind_ne_panic (rejectIf_ne_panic _ _) fun _ _ => pure_ne_panic _
  split
  · refine bind_ne_panic (rejectIf_ne_panic _ _) fun _ _ => ?_
    exact bind_ne_panic (validatePhdrHeader_ne_panic hlen) fun _ _ => pure_ne_panic _
  split
  · refine bind_ne_panic (rejectIf_ne_panic _ _) fun _ _ => ?_
    exact bind_ne_panic (validateStackHeader_ne_panic hlen) fun _ _ => pure_ne_panic _
  · exact nofun

theorem segmentProtection_ne_panic (index flags : Nat) :
    segmentProtection index flags ≠ .panic := by
  unfold segmentProtection
  split
  · exact nofun
  split
  · exact nofun
  split <;> exact nofun

theorem parseLoadSegment_ne_panic {index : Nat}
    (h : ph.length = programHeaderBytes) : parseLoadSegment image ph index ≠ .panic := by
  rw [programHeaderBytes] at h
  unfold parseLoadSegment
  refine bind_ne_panic (getLE_ne_panic (by omega)) fun flags _ => ?_
  iterate 2 refine bind_ne_panic (rejectIf_ne_panic _ _) fun _ _ => ?_
  refine bind_ne_panic (segmentProtection_ne_panic _ _) fun _ _ => ?_
  iterate 5 refine bind_ne_panic (getLE_ne_panic (by omega)) fun _ _ => ?_
  iterate 12 first
    | refine bind_ne_panic (okOr_ne_panic _ _) fun _ _ => ?_
    | refine bind_ne_panic (rejectIf_ne_panic _ _) fun _ _ => ?_
  exact pure_ne_panic _

theorem validateNonoverlap_ne_panic (segments : List LoadSegment) :
    validateNonoverlap segments ≠ .panic := by
  induction segments with
  | nil => exact nofun
  | cons first rest ih =>
      cases rest with
      | nil => exact nofun
      | cons second rest =>
          rw [validateNonoverlap]
          refine bind_ne_panic (rejectIf_ne_panic _ _) fun _ _ => ?_
          exact bind_ne_panic (rejectIf_ne_panic _ _) fun _ _ => ih

/-! ## What an accepted plan is -/

/-- The bytes a segment is filled with are bytes of the image. -/
def LoadSegment.FileIn (s : LoadSegment) (image : List UInt8) : Prop :=
  s.fileOffset + s.fileSize ≤ image.length

theorem parseLoadSegment_fileIn {index : Nat} {segment : LoadSegment}
    (h : parseLoadSegment image ph index = .ok segment) : segment.FileIn image := by
  simp only [parseLoadSegment, bind_eq_ok, rejectIf_eq_ok, okOr_eq_ok, exists_const,
    decide_eq_false_iff_not, Nat.not_lt] at h
  obtain ⟨flags, -, -, -, protection, -, fileOffset, -, virtualAddress, -, fileSize, -, memorySize,
    -, alignment, -, -, -, fileEnd, hend, hfit, memoryEnd, -, -, -, -, mappingEnd, -, -, -, -,
    heq⟩ := h
  obtain rfl := Outcome.ok.inj heq
  obtain ⟨-, hsum⟩ := checkedAdd_eq_some.mp hend
  rw [LoadSegment.FileIn, hsum]
  exact hfit

/-- What the second pass has after the headers the first pass has counted. -/
structure Gathered (image : List UInt8) (scan : HeaderScan) (g : SegmentScan) : Prop where
  length_eq : g.segments.length = scan.count
  fileIn : ∀ s ∈ g.segments, s.FileIn image

theorem scanHeader_count {header : ElfHeader} {scan scan' : HeaderScan}
    {index : Nat} (hph : programHeader image header index = .ok ph)
    {headerType : Nat} (htype : getLE 4 ph 0 = (.ok headerType : Plan Nat))
    (h : scanHeader image header scan index = .ok scan') :
    scan'.count = if headerType = ptLoad then scan.count + 1 else scan.count := by
  rw [scanHeader, hph, ok_bind, htype, ok_bind] at h
  split at h
  · simp only [bind_eq_ok, rejectIf_eq_ok] at h
    obtain ⟨-, -, heq⟩ := h
    rw [if_pos (by assumption), ← Outcome.ok.inj heq]
  · rw [if_neg (by assumption)]
    split at h
    · simp only [bind_eq_ok, rejectIf_eq_ok] at h
      obtain ⟨-, -, -, -, heq⟩ := h
      rw [← Outcome.ok.inj heq]
    · split at h
      · simp only [bind_eq_ok, rejectIf_eq_ok] at h
        obtain ⟨-, -, -, -, heq⟩ := h
        rw [← Outcome.ok.inj heq]
      · cases h

variable {indices : List Nat}

theorem scanHeader_count_le {header : ElfHeader}
    {scan last : HeaderScan} (h : indices.foldlM (scanHeader image header) scan = .ok last) :
    scan.count ≤ last.count := by
  induction indices generalizing scan with
  | nil => exact Nat.le_of_eq (congrArg HeaderScan.count (Outcome.ok.inj h))
  | cons index rest ih =>
      rw [List.foldlM_cons, bind_eq_ok] at h
      obtain ⟨scan', hstep, hrest⟩ := h
      refine Nat.le_trans ?_ (ih hrest)
      have hstep' := hstep
      simp only [scanHeader, bind_eq_ok] at hstep'
      obtain ⟨ph, hph, headerType, htype, -⟩ := hstep'
      rw [scanHeader_count hph htype hstep]
      split <;> omega

theorem gatherSegment_step {header : ElfHeader} {outputLen index : Nat}
    {scan scan' : HeaderScan} {g : SegmentScan} (hg : Gathered image scan g)
    (hscan : scanHeader image header scan index = .ok scan') (hroom : scan'.count ≤ outputLen) :
    gatherSegment image header outputLen g index ≠ .panic
      ∧ ∀ g', gatherSegment image header outputLen g index = .ok g' → Gathered image scan' g' := by
  have hscan' := hscan
  simp only [scanHeader, bind_eq_ok] at hscan'
  obtain ⟨ph, hph, headerType, htype, -⟩ := hscan'
  have hcount := scanHeader_count hph htype hscan
  have hlen := programHeader_length hph
  rw [gatherSegment, hph, ok_bind, htype, ok_bind]
  by_cases hload : headerType = ptLoad
  · rw [if_pos hload] at hcount
    have hlt : g.segments.length < outputLen := by
      rw [hg.length_eq]
      omega
    rw [if_neg (not_not.mpr hload)]
    simp only [if_pos hlt]
    constructor
    · refine bind_ne_panic (parseLoadSegment_ne_panic hlen) fun segment _ => ?_
      refine bind_ne_panic (okOr_ne_panic _ _) fun _ _ => ?_
      exact bind_ne_panic (rejectIf_ne_panic _ _) fun _ _ => pure_ne_panic _
    · intro g' h
      simp only [bind_eq_ok] at h
      obtain ⟨segment, hsegment, total, -, -, -, heq⟩ := h
      obtain rfl := Outcome.ok.inj heq
      refine ⟨?_, ?_⟩
      · simp only [List.length_append, List.length_singleton, hg.length_eq, hcount]
      · intro s hs
        rcases List.mem_append.mp hs with hold | hnew
        · exact hg.fileIn s hold
        · rw [List.mem_singleton.mp hnew]
          exact parseLoadSegment_fileIn hsegment
  · rw [if_neg hload] at hcount
    rw [if_pos hload]
    refine ⟨pure_ne_panic _, ?_⟩
    intro g' h
    obtain rfl := Outcome.ok.inj h
    exact ⟨hg.length_eq.trans hcount.symm, hg.fileIn⟩

theorem gatherSegments_spec {header : ElfHeader} {outputLen : Nat} {scan last : HeaderScan}
    {g : SegmentScan} (hg : Gathered image scan g)
    (hscan : indices.foldlM (scanHeader image header) scan = .ok last)
    (hroom : last.count ≤ outputLen) :
    indices.foldlM (gatherSegment image header outputLen) g ≠ .panic
      ∧ ∀ g', indices.foldlM (gatherSegment image header outputLen) g = .ok g' →
        Gathered image last g' := by
  induction indices generalizing scan g with
  | nil =>
      obtain rfl := Outcome.ok.inj hscan
      refine ⟨pure_ne_panic _, ?_⟩
      intro g' h
      obtain rfl := Outcome.ok.inj h
      exact hg
  | cons index rest ih =>
      rw [List.foldlM_cons, bind_eq_ok] at hscan
      obtain ⟨scan', hstep, hrest⟩ := hscan
      have hle := scanHeader_count_le hrest
      obtain ⟨hsafe, hnext⟩ := gatherSegment_step hg hstep (Nat.le_trans hle hroom)
      rw [List.foldlM_cons]
      constructor
      · exact bind_ne_panic hsafe fun g' hg' => (ih (hnext g' hg') hrest).1
      · intro last' h
        obtain ⟨g', hg', h⟩ := bind_eq_ok.mp h
        exact (ih (hnext g' hg') hrest).2 last' h

theorem scanHeaders_ne_panic {header : ElfHeader} (htable : header.TableIn image)
    (hindices : ∀ i ∈ indices, i < header.programCount) (scan : HeaderScan) :
    indices.foldlM (scanHeader image header) scan ≠ .panic := by
  induction indices generalizing scan with
  | nil => exact pure_ne_panic _
  | cons index rest ih =>
      rw [List.foldlM_cons]
      refine bind_ne_panic (scanHeader_ne_panic htable (hindices _ List.mem_cons_self) scan) ?_
      intro scan' _
      exact ih (fun i hi => hindices i (List.mem_cons_of_mem _ hi)) scan'

/-- Planning never panics, and an accepted plan fits the output and the
image. -/
theorem plan_spec (image : List UInt8) (outputLen : Nat) :
    plan image outputLen ≠ .panic
      ∧ ∀ p, plan image outputLen = .ok p →
        p.segments.length ≤ outputLen ∧ ∀ s ∈ p.segments, s.FileIn image := by
  unfold plan requiredSegmentCount
  cases hheader : parseElfHeader image with
  | panic => exact absurd hheader (parseElfHeader_ne_panic image)
  | err e => exact ⟨nofun, nofun⟩
  | ok header =>
      have hrange : ∀ i ∈ List.range header.programCount, i < header.programCount :=
        fun i hi => List.mem_range.mp hi
      simp only [ok_bind]
      cases hscan : (List.range header.programCount).foldlM (scanHeader image header) {} with
      | panic => exact absurd hscan (scanHeaders_ne_panic (parseElfHeader_ok hheader) hrange {})
      | err e => exact ⟨nofun, nofun⟩
      | ok scan =>
          simp only [ok_bind]
          by_cases hzero : scan.count = 0
          · simp [hzero]
          by_cases hroom : scan.count ≤ outputLen
          · obtain ⟨hsafe, hgather⟩ :=
              gatherSegments_spec (g := {}) ⟨rfl, nofun⟩ hscan hroom
            simp only [hzero, Nat.not_lt.mpr hroom, decide_false, rejectIf_false, ok_bind, pure_eq]
            constructor
            · refine bind_ne_panic hsafe fun g _ => ?_
              refine bind_ne_panic (validateNonoverlap_ne_panic _) fun _ _ => ?_
              refine bind_ne_panic (rejectIf_ne_panic _ _) fun _ _ => ?_
              exact bind_ne_panic (rejectIf_ne_panic _ _) fun _ _ => nofun
            · intro p h
              simp only [bind_eq_ok] at h
              obtain ⟨g, hg, -, -, -, -, -, -, heq⟩ := h
              obtain rfl := Outcome.ok.inj heq
              have hperm := List.perm_insertionSort LoadSegment.Before g.segments
              refine ⟨?_, fun s hs => (hgather g hg).fileIn s (hperm.mem_iff.mp hs)⟩
              rw [hperm.length_eq, (hgather g hg).length_eq]
              exact hroom
          · simp [hzero, Nat.not_le.mp hroom]

/-! ## Small images -/

/-- A program header of a segment to load. -/
def loadHeader (flags offset address fileSize memorySize : Nat) : List UInt8 :=
  leBytes 4 1 ++ leBytes 4 flags ++ leBytes 8 offset ++ leBytes 8 address ++ leBytes 8 0
    ++ leBytes 8 fileSize ++ leBytes 8 memorySize ++ leBytes 8 4096

/-- A static executable that is its headers and nothing else. -/
def elfImage (entry : Nat) (headers : List (List UInt8)) : List UInt8 :=
  [0x7f, 0x45, 0x4c, 0x46, 2, 1, 1, 0] ++ leBytes 8 0
    -- executable, machine, version, entry, program headers, sections, flags
    ++ leBytes 2 2 ++ leBytes 2 62 ++ leBytes 4 1 ++ leBytes 8 entry ++ leBytes 8 64
    ++ leBytes 8 0 ++ leBytes 4 0
    -- sizes: header, program header, how many of these, no section
    ++ leBytes 2 64 ++ leBytes 2 56 ++ leBytes 2 headers.length ++ leBytes 6 0 ++ headers.flatten

/-- One readable and executable segment, mapped at its entry point. -/
def tinyElf : List UInt8 := elfImage 0x400000 [loadHeader 5 0 0x400000 120 120]

end Wyrmroot.Loader
