import Wyrmroot.Lib.Layout
import Wyrmroot.Lib.Region
import Wyrmroot.Lib.Unchecked
import Wyrmroot.Transition.Model

/-!
# The kernel ELF planner

`loader/src/kernel_elf.rs`: from the bytes of `deepwyrm.elf` and a policy to the
segments that are allocated, copied and mapped. Every program header is one to
load. The additions that the later passes make without a check are `Unchecked`
here, so an overflow would be a panic.
-/

namespace Wyrmroot.Transition

open Outcome
open Loader (checkedAdd isPowerOfTwo alignDown alignUp)
open Startup (checkedMul)

def elfHeaderSize : Nat := 64
def programHeaderSize : Nat := 56
def elfTypeExecutable : Nat := 2
def elfMachineX8664 : Nat := 62
def elfVersionCurrent : Nat := 1
def programTypeLoad : Nat := 1
def flagExecute : Nat := 1
def flagWrite : Nat := 2
def flagRead : Nat := 4
def knownFlags : Nat := flagExecute ||| flagWrite ||| flagRead

/-- The source's `end` is `stop` here. -/
structure AddressRange where
  start : Nat
  stop : Nat
deriving DecidableEq

def AddressRange.contains (self : AddressRange) (start stop : Nat) : Bool :=
  self.start ≤ start && start < stop && stop ≤ self.stop

structure KernelElfPolicy where
  virtualAddresses : AddressRange
  linkBase : Nat
  mappingGranule : Nat
deriving DecidableEq

structure KernelLoadPlan where
  entryPoint : Nat
  segments : List KernelLoadSegment
  virtualSpan : AddressRange
deriving DecidableEq

inductive KernelElfError where
  | headerTruncated
  | badMagic
  | unsupportedClass (value : Nat)
  | unsupportedDataEncoding (value : Nat)
  | unsupportedIdentVersion (value : Nat)
  | unsupportedOsAbi (value : Nat)
  | unsupportedAbiVersion (value : Nat)
  | unsupportedElfType (value : Nat)
  | unsupportedMachine (value : Nat)
  | unsupportedElfVersion (value : Nat)
  | unsupportedElfFlags (value : Nat)
  | invalidElfHeaderSize (value : Nat)
  | invalidProgramHeaderSize (value : Nat)
  | missingProgramHeaders
  | extendedProgramHeaderCountUnsupported
  | programHeaderTableOverlapsElfHeader
  | programHeaderTableMisaligned
  | programHeaderTableOverflow
  | programHeaderTableTruncated
  | invalidPolicy
  | outputTooSmall (required available : Nat)
  | unsupportedProgramHeaderType (index programType : Nat)
  | unknownSegmentFlags (index flags : Nat)
  | writableExecutableSegment (index : Nat)
  | emptyLoadSegment (index : Nat)
  | fileSizeExceedsMemorySize (index : Nat)
  | segmentFileRangeOverflow (index : Nat)
  | segmentFileRangeTruncated (index : Nat)
  | segmentVirtualRangeOverflow (index : Nat)
  | segmentMappingRangeOverflow (index : Nat)
  | invalidSegmentAlignment (index alignment : Nat)
  | segmentAlignmentBelowPolicy (index alignment : Nat)
  | segmentAddressAlignmentMismatch (index : Nat)
  | segmentVirtualRangeOutsidePolicy (index : Nat)
  | overlappingVirtualSegments (first second : UInt16)
  | overlappingVirtualMappingRanges (first second : UInt16)
  | kernelLinkBaseMismatch (expected observed : Nat)
  | zeroEntryPoint
  | entryPointNotInExecutableFileData
deriving DecidableEq

abbrev KernelElf (α : Type) := Outcome KernelElfError α

/-! ## The header -/

structure KernelHeader where
  entryPoint : Nat
  programHeaderOffset : Nat
  programHeaderSize : Nat
  programHeaderCount : Nat
deriving DecidableEq

/-- An identification byte with one supported value. -/
def requireByte (header : List UInt8) (offset expected : Nat) (e : Nat → KernelElfError) :
    KernelElf Unit := do
  let value ← byteAt header offset
  rejectIf (value ≠ expected) (e value)

/-- A field with one supported value. -/
def requireField (n : Nat) (header : List UInt8) (offset expected : Nat) (e : Nat → KernelElfError) :
    KernelElf Unit := do
  let value ← getLE n header offset
  rejectIf (value ≠ expected) (e value)

def parseHeader (image : List UInt8) : KernelElf KernelHeader := do
  let header ← okOr (slice image 0 elfHeaderSize) .headerTruncated
  let magic ← sliceAt header 0 4
  rejectIf (magic ≠ [0x7f, 0x45, 0x4c, 0x46]) .badMagic
  requireByte header 4 2 .unsupportedClass
  requireByte header 5 1 .unsupportedDataEncoding
  requireByte header 6 1 .unsupportedIdentVersion
  requireByte header 7 0 .unsupportedOsAbi
  requireByte header 8 0 .unsupportedAbiVersion
  requireField 2 header 16 elfTypeExecutable .unsupportedElfType
  requireField 2 header 18 elfMachineX8664 .unsupportedMachine
  requireField 4 header 20 elfVersionCurrent .unsupportedElfVersion
  requireField 4 header 48 0 .unsupportedElfFlags
  requireField 2 header 52 elfHeaderSize .invalidElfHeaderSize
  let size ← getLE 2 header 54
  rejectIf (size ≠ programHeaderSize) (.invalidProgramHeaderSize size)
  let programHeaderCount ← getLE 2 header 56
  rejectIf (programHeaderCount = 0) .missingProgramHeaders
  rejectIf (programHeaderCount = 0xffff) .extendedProgramHeaderCountUnsupported
  let programHeaderOffset ← getLE 8 header 32
  rejectIf (programHeaderOffset < elfHeaderSize) .programHeaderTableOverlapsElfHeader
  rejectIf (!isMultipleOf programHeaderOffset 8) .programHeaderTableMisaligned
  let entryPoint ← getLE 8 header 24
  pure ⟨entryPoint, programHeaderOffset, size, programHeaderCount⟩

def validateElfPolicy (policy : KernelElfPolicy) : KernelElf Unit :=
  rejectIf (policy.virtualAddresses.start ≠ policy.linkBase
    || policy.virtualAddresses.stop ≠ 2 ^ 64 - 1
    || !isPowerOfTwo policy.mappingGranule
    || !isMultipleOf policy.linkBase policy.mappingGranule) .invalidPolicy

/-- `byte_range`: the end of the range is a checked sum. -/
def byteRange (image : List UInt8) (offset size : Nat) : Option (List UInt8) :=
  (checkedAdd offset size).bind fun _ => slice image offset size

def programHeaderBytes (image : List UInt8) (header : KernelHeader) (index : Nat) :
    KernelElf (List UInt8) := do
  let relativeOffset ← okOr (checkedMul index header.programHeaderSize) .programHeaderTableOverflow
  let offset ← okOr (checkedAdd header.programHeaderOffset relativeOffset)
    .programHeaderTableOverflow
  okOr (byteRange image offset programHeaderSize) .programHeaderTableTruncated

def checkProgramType (image : List UInt8) (header : KernelHeader) (index : Nat) :
    KernelElf Unit := do
  let bytes ← programHeaderBytes image header index
  let programType ← getLE 4 bytes 0
  rejectIf (programType ≠ programTypeLoad) (.unsupportedProgramHeaderType index programType)

def validatedHeaderAndCapacity (image : List UInt8) (policy : KernelElfPolicy) :
    KernelElf (KernelHeader × Nat) := do
  validateElfPolicy policy
  let header ← parseHeader image
  let tableSize ← okOr (checkedMul header.programHeaderCount header.programHeaderSize)
    .programHeaderTableOverflow
  let tableEnd ← okOr (checkedAdd header.programHeaderOffset tableSize) .programHeaderTableOverflow
  rejectIf (image.length < tableEnd) .programHeaderTableTruncated
  (List.range header.programHeaderCount).forM (checkProgramType image header)
  pure (header, header.programHeaderCount)

/-! ## Segments -/

def parseSegment (image header : List UInt8) (index : Nat) (policy : KernelElfPolicy) :
    KernelElf KernelLoadSegment := do
  let programType ← getLE 4 header 0
  rejectIf (programType ≠ programTypeLoad) (.unsupportedProgramHeaderType index programType)
  let flags ← getLE 4 header 4
  rejectIf (knownFlags < flags) (.unknownSegmentFlags index flags)
  rejectIf (flags &&& flagWrite ≠ 0 && flags &&& flagExecute ≠ 0) (.writableExecutableSegment index)
  let fileOffset ← getLE 8 header 8
  let virtualAddress ← getLE 8 header 16
  let fileSize ← getLE 8 header 32
  let memorySize ← getLE 8 header 40
  let alignment ← getLE 8 header 48
  rejectIf (memorySize = 0) (.emptyLoadSegment index)
  rejectIf (memorySize < fileSize) (.fileSizeExceedsMemorySize index)
  let fileEnd ← okOr (checkedAdd fileOffset fileSize) (.segmentFileRangeOverflow index)
  rejectIf (image.length < fileEnd) (.segmentFileRangeTruncated index)
  let virtualEnd ← okOr (checkedAdd virtualAddress memorySize) (.segmentVirtualRangeOverflow index)
  let mappingStart := alignDown virtualAddress policy.mappingGranule
  let mappingEnd ← okOr (alignUp virtualEnd policy.mappingGranule)
    (.segmentMappingRangeOverflow index)
  rejectIf (!isPowerOfTwo alignment) (.invalidSegmentAlignment index alignment)
  rejectIf (alignment < policy.mappingGranule) (.segmentAlignmentBelowPolicy index alignment)
  rejectIf (virtualAddress % alignment ≠ fileOffset % alignment)
    (.segmentAddressAlignmentMismatch index)
  rejectIf (!policy.virtualAddresses.contains mappingStart mappingEnd)
    (.segmentVirtualRangeOutsidePolicy index)
  let mappingByteLen ← Unchecked.sub mappingEnd mappingStart
  let segmentPageOffset ← Unchecked.sub virtualAddress mappingStart
  pure {
    programHeaderIndex := UInt16.ofNat index, fileOffset, fileSize, virtualAddress,
    mappingVirtualAddress := mappingStart, mappingByteLen, segmentPageOffset, memorySize, alignment,
    permissions := ⟨flags &&& flagRead ≠ 0, flags &&& flagWrite ≠ 0, flags &&& flagExecute ≠ 0⟩ }

/-- `output[index] = parse_segment(..)?` on an output of `available` slots. -/
def planSegment (image : List UInt8) (header : KernelHeader) (policy : KernelElfPolicy)
    (available index : Nat) : KernelElf KernelLoadSegment := do
  let bytes ← programHeaderBytes image header index
  let segment ← parseSegment image bytes index policy
  if index < available then pure segment else .panic

/-- The order of the sort: by address, then by header index. -/
def KernelLoadSegment.Precedes (left right : KernelLoadSegment) : Prop :=
  left.virtualAddress < right.virtualAddress
    ∨ (left.virtualAddress = right.virtualAddress
      ∧ left.programHeaderIndex.toNat ≤ right.programHeaderIndex.toNat)

instance : DecidableRel KernelLoadSegment.Precedes := fun _ _ => inferInstanceAs (Decidable (_ ∨ _))

/-- The first loop over the neighbours: their bytes. -/
def validateApart : List KernelLoadSegment → KernelElf Unit
  | left :: right :: rest => do
      let leftEnd ← Unchecked.add left.virtualAddress left.memorySize
      rejectIf (right.virtualAddress < leftEnd)
        (.overlappingVirtualSegments left.programHeaderIndex right.programHeaderIndex)
      validateApart (right :: rest)
  | _ => .ok ()

/-- The second loop over the neighbours: their pages. -/
def validateMappingsApart (granule : Nat) : List KernelLoadSegment → KernelElf Unit
  | left :: right :: rest => do
      let leftEnd ← Unchecked.add left.virtualAddress left.memorySize
      let leftMappingEnd ← okOr (alignUp leftEnd granule)
        (.segmentMappingRangeOverflow left.programHeaderIndex.toNat)
      let rightMappingStart := alignDown right.virtualAddress granule
      rejectIf (rightMappingStart < leftMappingEnd)
        (.overlappingVirtualMappingRanges left.programHeaderIndex right.programHeaderIndex)
      validateMappingsApart granule (right :: rest)
  | _ => .ok ()

def validateNonOverlapping (segments : List KernelLoadSegment) (granule : Nat) : KernelElf Unit := do
  validateApart segments
  validateMappingsApart granule segments

def KernelLoadSegment.backsEntry (entryPoint : Nat) (segment : KernelLoadSegment) : Bool :=
  segment.permissions.execute && segment.fileSize ≠ 0 && segment.virtualAddress ≤ entryPoint
    && entryPoint - segment.virtualAddress < segment.fileSize

/-- The end of the span so far, and one more segment. -/
def extendSpan (virtualEnd : Nat) (segment : KernelLoadSegment) : KernelElf Nat := do
  let segmentEnd ← Unchecked.add segment.virtualAddress segment.memorySize
  pure (max virtualEnd segmentEnd)

def planKernelElf (image : List UInt8) (policy : KernelElfPolicy) (available : Nat) :
    KernelElf KernelLoadPlan := do
  let (header, segmentCount) ← validatedHeaderAndCapacity image policy
  rejectIf (available < segmentCount) (.outputTooSmall segmentCount available)
  let output ← (List.range header.programHeaderCount).foldlM
    (collect (planSegment image header policy available)) []
  let segments := output.insertionSort KernelLoadSegment.Precedes
  validateNonOverlapping segments policy.mappingGranule
  rejectIf (header.entryPoint = 0) .zeroEntryPoint
  rejectIf (!segments.any (KernelLoadSegment.backsEntry header.entryPoint))
    .entryPointNotInExecutableFileData
  match segments with
  | [] => .err .missingProgramHeaders
  | first :: rest => do
      rejectIf (first.mappingVirtualAddress ≠ policy.linkBase)
        (.kernelLinkBaseMismatch policy.linkBase first.mappingVirtualAddress)
      let firstEnd ← Unchecked.add first.virtualAddress first.memorySize
      let virtualEnd ← rest.foldlM extendSpan firstEnd
      pure ⟨header.entryPoint, segments, ⟨first.virtualAddress, virtualEnd⟩⟩

end Wyrmroot.Transition
