import Wyrmroot.Startup.Block

/-!
# The transition address space

`loader/src/transition.rs`: the mappings the loader hands to the kernel, and the
check that the pages of a kernel segment pass.

A physical or virtual address and a length are `u64`s read as numbers: checked
arithmetic fails where it leaves the range, unchecked arithmetic panics there.
-/

namespace Wyrmroot.Transition

open Outcome
open Loader (checkedAdd isPowerOfTwo alignDown alignUp)

/-! ## Inputs -/

inductive AllocationLifetime where
  | retainedUntilKernelPageTableReplacement
  | releasedBeforeKernelPageTableReplacement
deriving DecidableEq

structure RetainedPhysicalRange where
  physicalStart : Nat
  byteLen : Nat
  lifetime : AllocationLifetime
deriving DecidableEq

structure SegmentPermissions where
  read : Bool
  write : Bool
  execute : Bool
deriving DecidableEq

structure KernelLoadSegment where
  programHeaderIndex : UInt16
  fileOffset : Nat
  fileSize : Nat
  virtualAddress : Nat
  mappingVirtualAddress : Nat
  mappingByteLen : Nat
  segmentPageOffset : Nat
  memorySize : Nat
  alignment : Nat
  permissions : SegmentPermissions
deriving DecidableEq

structure KernelSegmentPages where
  segment : KernelLoadSegment
  pages : RetainedPhysicalRange
deriving DecidableEq

structure TransitionPolicy where
  mappingGranule : Nat
  rsdpMaxIntersectingPages : Nat
  transitionStackSize : Nat
  transitionStackAlignment : Nat
  stackPointerAlignment : Nat
  bootInfoAlignment : Nat
deriving DecidableEq

inductive MappingKind where
  | kernelSegment (programHeaderIndex : UInt16)
  | bootInfo
  | memoryMapTable
  | moduleTable
  | moduleData (index : Nat)
  | commandLine
  | entropy
  | requiredAcpiRsdp
  | handoffStub
  | transitionStack
  | transitionTableIdentity
deriving DecidableEq

/-! ## Plans -/

inductive TransitionError where
  | invalidPolicy
  | mappingCountOverflow
  | outputTooSmall (required available : Nat)
  | emptyRange (kind : MappingKind)
  | rangeOverflow (kind : MappingKind)
  | mappingRoundOverflow (kind : MappingKind)
  | allocationNotRetained (kind : MappingKind)
  | physicalPagesUnaligned (kind : MappingKind)
  | kernelPageLengthMismatch (programHeaderIndex : UInt16)
  | invalidKernelSegment (programHeaderIndex : UInt16)
  | writableExecutable (kind : MappingKind)
  | pageZeroWouldBeMapped (kind : MappingKind)
  | virtualOverlap (first second : MappingKind)
  | physicalAlias (first second : MappingKind)
  | framebufferPixelsWouldBeMapped (kind : MappingKind)
  | kernelEntryNotExecutable
  | bootInfoMisaligned
  | handoffStubEntryOutsideMapping
  | invalidTransitionStack
  | invalidPageTableStorage
  | pageTableStorageLengthMismatch (requiredPages providedPages : Nat)
  | pageTableCountOverflow
  | nonCanonicalVirtualRange (kind : MappingKind)
  | invalidFramebufferRange
  | invalidRsdpRecord
  | rsdpRecordRangeOverflow
  | rsdpRetainedAllocationMismatch
  | rsdpMappingPageLimitExceeded (requiredPages maximumPages : Nat)
  | kernelSourceOutsideImage (programHeaderIndex : UInt16)
  | pageTableStorageAlias (conflict : MappingKind)
  | framebufferPixelsWouldBackPageTables
  | temporaryMappingConflict (conflict : MappingKind)
  | pageTableFixedPointCapacityExceeded (requiredPages maximumPages : Nat)
  | pageTableFixedPointRegressed
  | pageTableFixedPointDidNotConverge
deriving DecidableEq

abbrev TransitionCheck := Outcome TransitionError

/-! ## Arithmetic -/

def minus (a b : Nat) : TransitionCheck Nat := if b ≤ a then .ok (a - b) else .panic

/-- `a.is_multiple_of(b)`; only zero is a multiple of zero. -/
def isMultipleOf (a b : Nat) : Bool := a % b = 0

/-! ## Gathering the mappings -/

def checkedEnd (range : RetainedPhysicalRange) (kind : MappingKind) : TransitionCheck Nat :=
  okOr (checkedAdd range.physicalStart range.byteLen) (.rangeOverflow kind)

def validateRetained (range : RetainedPhysicalRange) (kind : MappingKind) :
    TransitionCheck Unit := do
  rejectIf (range.byteLen = 0) (.emptyRange kind)
  rejectIf (range.lifetime ≠ .retainedUntilKernelPageTableReplacement) (.allocationNotRetained kind)
  let _ ← checkedEnd range kind

def validateKernelSegment (input : KernelSegmentPages) (policy : TransitionPolicy)
    (kernelImageByteLen : Nat) : TransitionCheck Unit := do
  let segment := input.segment
  let kind := MappingKind.kernelSegment segment.programHeaderIndex
  rejectIf (segment.memorySize = 0 || segment.memorySize < segment.fileSize
    || !isPowerOfTwo segment.alignment || segment.alignment < policy.mappingGranule)
    (.invalidKernelSegment segment.programHeaderIndex)
  let sourceEnd ← okOr (checkedAdd segment.fileOffset segment.fileSize)
    (.kernelSourceOutsideImage segment.programHeaderIndex)
  rejectIf (kernelImageByteLen < sourceEnd) (.kernelSourceOutsideImage segment.programHeaderIndex)
  validateRetained input.pages kind
  rejectIf (!isMultipleOf input.pages.physicalStart policy.mappingGranule)
    (.physicalPagesUnaligned kind)
  let virtualStart := alignDown segment.virtualAddress policy.mappingGranule
  let pageOffset ← minus segment.virtualAddress virtualStart
  let covered ← okOr (checkedAdd pageOffset segment.memorySize) (.rangeOverflow kind)
  let required ← okOr (alignUp covered policy.mappingGranule) (.mappingRoundOverflow kind)
  rejectIf (segment.mappingVirtualAddress ≠ virtualStart || segment.mappingByteLen ≠ required
    || segment.segmentPageOffset ≠ pageOffset) (.invalidKernelSegment segment.programHeaderIndex)
  rejectIf (input.pages.byteLen ≠ segment.mappingByteLen)
    (.kernelPageLengthMismatch segment.programHeaderIndex)
  rejectIf (segment.permissions.write && segment.permissions.execute) (.writableExecutable kind)

end Wyrmroot.Transition
