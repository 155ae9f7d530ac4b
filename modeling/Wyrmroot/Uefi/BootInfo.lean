import Wyrmroot.Startup.Block

/-!
# BootInfo

`loader/src/boot_info.rs`: the handoff record for the kernel, built from
storage that firmware services have left behind. The record types and their
constants are those of the kernel's ABI crate, so they are a parameter here
(`DeepwyrmAbi`). An address or a length is a `u64` read as a number; checked
arithmetic fails where it leaves the range, unchecked arithmetic panics there.
-/

namespace Wyrmroot.Uefi

open Outcome
open Loader (checkedAdd)
open Startup (checkedMul)

/-! ## The kernel's ABI -/

structure DwBootFramebufferV1 where
  size : UInt32
  version : UInt32
  flags : UInt32
  pixelFormat : UInt32
  physicalStart : Nat
  byteLen : Nat
  width : UInt32
  height : UInt32
  pixelsPerScanline : UInt32
  reserved0 : UInt32
  redMask : UInt32
  greenMask : UInt32
  blueMask : UInt32
  reservedMask : UInt32
  reserved : List Nat
deriving DecidableEq

structure DwBootEntropyV1 where
  size : UInt32
  version : UInt32
  source : UInt32
  flags : UInt32
  physicalStart : Nat
  byteLen : Nat
  reserved : List Nat
deriving DecidableEq

structure DwBootInfoV1 where
  size : UInt32
  version : UInt32
  flags : UInt32
  memoryMapPhysicalStart : Nat
  memoryMapEntryCount : Nat
  memoryMapEntrySize : UInt32
  reserved0 : UInt32
  modulesPhysicalStart : Nat
  moduleCount : Nat
  moduleEntrySize : UInt32
  reserved1 : UInt32
  acpiRsdpPhysicalAddress : Nat
  framebuffer : DwBootFramebufferV1
  commandLinePhysicalStart : Nat
  commandLineByteLen : Nat
  entropy : DwBootEntropyV1
  reserved : List Nat
deriving DecidableEq

structure DwBootMemoryRangeV1 where
  size : UInt32
  version : UInt32
  kind : UInt32
  reserved0 : UInt32
  physicalStart : Nat
  pageCount : Nat
  firmwareAttributes : Nat
  reserved : List Nat
deriving DecidableEq

structure DwBootModuleV1 where
  size : UInt32
  version : UInt32
  kind : UInt32
  flags : UInt32
  physicalStart : Nat
  byteLen : Nat
  reserved : List Nat
deriving DecidableEq

/-- The constants of `deepwyrm_abi`, with the alignments and the defaults of its types. -/
structure DeepwyrmAbi where
  basePageSize : UInt32
  entropyFlagConditioned : UInt32
  entropySourceFirmwarePlatform : UInt32
  entropySourceMixedFirmware : UInt32
  entropySourceUefiRngProtocol : UInt32
  entropyV1Size : UInt32
  entropyV1Version : UInt32
  framebufferFlagLinear : UInt32
  framebufferV1Size : UInt32
  framebufferV1Version : UInt32
  infoFlagFramebufferPresent : UInt32
  infoV1Size : UInt32
  infoV1Version : UInt32
  memoryKindAcpiNvs : UInt32
  memoryKindAcpiReclaim : UInt32
  memoryKindMmio : UInt32
  memoryKindReserved : UInt32
  memoryKindRuntimeServices : UInt32
  memoryKindUnusable : UInt32
  memoryKindUsable : UInt32
  memoryRangeV1Size : UInt32
  memoryRangeV1Version : UInt32
  memoryRangeV1Align : Nat
  moduleFlagReadOnly : UInt32
  moduleKindBootDeviceTableV1 : UInt32
  moduleKindPagingHandoffV1 : UInt32
  moduleKindWyrmrootBootfs : UInt32
  moduleKindWyrmrootBootstrap : UInt32
  moduleV1Size : UInt32
  moduleV1Version : UInt32
  moduleV1Align : Nat
  pixelFormatBgrx8 : UInt32
  pixelFormatBitmask : UInt32
  pixelFormatRgbx8 : UInt32
  pagingHandoffMaxByteLen : UInt32
  pagingHandoffMinTableFrameCount : UInt32
  pagingHandoffTableFrameStride : UInt32
  pagingHandoffTableFramesOffset : UInt32
  framebufferDefault : DwBootFramebufferV1
  entropyDefault : DwBootEntropyV1

/-! ## Inputs -/

def maxCommandLineBytes : Nat := 4096
def maxEntropyBytes : Nat := 4096
def acpiRsdpMinimumBytes : Nat := 20
def acpiRsdpAlignment : Nat := 16

inductive FirmwarePhase where
  | beforeExitBootServices
  | afterExitBootServices
deriving DecidableEq

inductive AllocationLifetime where
  | retainedUntilDeepwyrmPageTableReplacement
  | releasedBeforeDeepwyrmPageTableReplacement
  | allocationFailed
deriving DecidableEq

structure HandoffAllocation where
  physicalStart : Nat
  byteLen : Nat
  lifetime : AllocationLifetime
deriving DecidableEq

inductive FirmwareEntropySource where
  | uefiRngProtocol
  | firmwarePlatform
  | mixedFirmware
deriving DecidableEq

structure EntropyInput where
  storage : HandoffAllocation
  byteLen : Nat
  source : FirmwareEntropySource
  conditioned : Bool
deriving DecidableEq

structure CommandLineInput where
  storage : HandoffAllocation
  byteLen : Nat
deriving DecidableEq

inductive FramebufferPixelFormat where
  | rgbx8
  | bgrx8
  | bitmask (redMask greenMask blueMask reservedMask : UInt32)
deriving DecidableEq

structure FramebufferInput where
  physicalStart : Nat
  byteLen : Nat
  width : UInt32
  height : UInt32
  pixelsPerScanline : UInt32
  pixelFormat : FramebufferPixelFormat
deriving DecidableEq

structure AcpiRsdpInput where
  storage : HandoffAllocation
  byteLen : Nat
deriving DecidableEq

structure BootInfoInput where
  phase : FirmwarePhase
  bootInfoStorage : HandoffAllocation
  memoryMapStorage : HandoffAllocation
  moduleTableStorage : HandoffAllocation
  memoryMap : List DwBootMemoryRangeV1
  modules : List DwBootModuleV1
  acpiRsdp : Option AcpiRsdpInput
  framebuffer : Option FramebufferInput
  commandLine : Option CommandLineInput
  entropy : Option EntropyInput

structure BootInfoOutput where
  bootInfo : DwBootInfoV1
  modules : List DwBootModuleV1

structure BootInfoLimits where
  maxMemoryMapEntries : Nat
  maxModuleEntries : Nat

inductive BootInfoError where
  | exitBootServicesIncomplete
  | allocationUnavailable
  | allocationReleased
  | emptyMemoryMap
  | outputLengthMismatch
  | memoryMapEntryLimitExceeded
  | moduleEntryLimitExceeded
  | physicalAddressUnaligned
  | emptyRange
  | rangeOverflow
  | memoryMapOverlap
  | handoffStorageNotReserved
  | handoffStorageOverlap
  | missingBootstrapModule
  | missingBootfsModule
  | missingPagingHandoffModule
  | invalidModuleOrder
  | duplicateModule
  | moduleMustBeReadOnly
  | unsupportedModuleFlags
  | commandLineTooLarge
  | invalidOptionalAddress
  | invalidAcpiRsdp
  | invalidFramebuffer
  | invalidEntropy
  | invalidHeader
  | invalidReservedField
  | invalidTableReference
  | unknownMemoryKind
deriving DecidableEq

abbrev BootCheck := Outcome BootInfoError

/-! ## Arithmetic -/

/-- `a + b`, `a - b` and `a * b` on `u64`. -/
def plus (a b : Nat) : BootCheck Nat := if a + b < 2 ^ 64 then .ok (a + b) else .panic

def minus (a b : Nat) : BootCheck Nat := if b ≤ a then .ok (a - b) else .panic

def times (a b : Nat) : BootCheck Nat := if a * b < 2 ^ 64 then .ok (a * b) else .panic

/-- `a / b`. -/
def divide (a b : Nat) : BootCheck Nat := if b = 0 then .panic else .ok (a / b)

/-- `a.is_multiple_of(b)`; only zero is a multiple of zero. -/
def isMultipleOf (a b : Nat) : Bool := a % b = 0

/-- `u64::try_from(n)`. -/
def u64TryFrom (n : Nat) : BootCheck Nat :=
  okOr (if n < 2 ^ 64 then some n else none) .rangeOverflow

section Checks

variable (abi : DeepwyrmAbi)

/-! ## Ranges -/

def validateRetained (allocation : HandoffAllocation) (minimumLen : Nat) : BootCheck Unit := do
  match allocation.lifetime with
  | .allocationFailed => .err .allocationUnavailable
  | .releasedBeforeDeepwyrmPageTableReplacement => .err .allocationReleased
  | .retainedUntilDeepwyrmPageTableReplacement => do
      rejectIf (allocation.physicalStart = 0 || allocation.byteLen < minimumLen) .emptyRange
      rejectIf (!isMultipleOf allocation.physicalStart abi.basePageSize.toNat
        || !isMultipleOf allocation.byteLen abi.basePageSize.toNat) .physicalAddressUnaligned
      rejectIf (checkedAdd allocation.physicalStart allocation.byteLen).isNone .rangeOverflow

def validateTableStorage (allocation : HandoffAllocation) (entryCount entrySize alignment : Nat) :
    BootCheck Unit := do
  let count ← u64TryFrom entryCount
  let required ← okOr (checkedMul count entrySize) .rangeOverflow
  validateRetained abi allocation required
  rejectIf (!isMultipleOf allocation.physicalStart alignment) .physicalAddressUnaligned

def validateTableReference (physicalStart count : Nat) (entrySize expectedSize : UInt32)
    (alignment : Nat) : BootCheck Unit := do
  rejectIf (count = 0 || entrySize ≠ expectedSize || physicalStart = 0
    || !isMultipleOf physicalStart alignment) .invalidTableReference
  let byteLen ← okOr (checkedMul count entrySize.toNat) .rangeOverflow
  let _ ← okOr (checkedAdd physicalStart byteLen) .rangeOverflow

def validateByteReference (physicalStart byteLen maximumLen : Nat) : BootCheck Unit := do
  rejectIf (maximumLen < byteLen || (byteLen = 0 && physicalStart ≠ 0)
    || (byteLen ≠ 0 && physicalStart = 0)) .invalidOptionalAddress
  rejectIf (byteLen ≠ 0 && (checkedAdd physicalStart byteLen).isNone) .rangeOverflow

def pageRangeEnd (physicalStart pageCount : Nat) : BootCheck Nat := do
  let byteLen ← okOr (checkedMul pageCount abi.basePageSize.toNat) .rangeOverflow
  okOr (checkedAdd physicalStart byteLen) .rangeOverflow

def validatePageRange (physicalStart pageCount : Nat) : BootCheck Unit := do
  rejectIf (pageCount = 0) .emptyRange
  rejectIf (!isMultipleOf physicalStart abi.basePageSize.toNat) .physicalAddressUnaligned
  let _ ← pageRangeEnd abi physicalStart pageCount

def validateModuleRange (physicalStart byteLen : Nat) : BootCheck Unit := do
  rejectIf (byteLen = 0) .emptyRange
  rejectIf (physicalStart = 0 || !isMultipleOf physicalStart abi.basePageSize.toNat)
    .physicalAddressUnaligned
  let _ ← okOr (checkedAdd physicalStart byteLen) .rangeOverflow

def moduleAllocationLen (byteLen : Nat) : BootCheck Nat := do
  let rounded ← okOr (checkedAdd byteLen (← minus abi.basePageSize.toNat 1)) .rangeOverflow
  times (← divide rounded abi.basePageSize.toNat) abi.basePageSize.toNat

def rangesOverlap (leftStart leftLen rightStart rightLen : Nat) : BootCheck Bool := do
  let leftEnd ← okOr (checkedAdd leftStart leftLen) .rangeOverflow
  let rightEnd ← okOr (checkedAdd rightStart rightLen) .rangeOverflow
  pure (leftStart < rightEnd && rightStart < leftEnd)

/-- The loop of `range_has_kind`. -/
def scanKinds (physicalStart stop : Nat) (accepts : UInt32 → Bool) :
    List DwBootMemoryRangeV1 → BootCheck Bool
  | [] => pure false
  | entry :: rest => do
      let entryEnd ← pageRangeEnd abi entry.physicalStart entry.pageCount
      if accepts entry.kind && entry.physicalStart ≤ physicalStart && stop ≤ entryEnd then
        pure true
      else scanKinds physicalStart stop accepts rest

def rangeHasKind (physicalStart byteLen : Nat) (memoryMap : List DwBootMemoryRangeV1)
    (accepts : UInt32 → Bool) : BootCheck Bool := do
  let stop ← okOr (checkedAdd physicalStart byteLen) .rangeOverflow
  scanKinds abi physicalStart stop accepts memoryMap

def validateReservedRange (physicalStart byteLen : Nat) (memoryMap : List DwBootMemoryRangeV1) :
    BootCheck Unit := do
  rejectIf (!(← rangeHasKind abi physicalStart byteLen memoryMap
    fun kind => kind = abi.memoryKindReserved)) .handoffStorageNotReserved

def validateReservedStorage (allocation : HandoffAllocation)
    (memoryMap : List DwBootMemoryRangeV1) : BootCheck Unit :=
  validateReservedRange abi allocation.physicalStart allocation.byteLen memoryMap

/-! ## The memory map -/

def isKnownMemoryKind (kind : UInt32) : Bool :=
  kind = abi.memoryKindUsable || kind = abi.memoryKindReserved
    || kind = abi.memoryKindAcpiReclaim || kind = abi.memoryKindAcpiNvs
    || kind = abi.memoryKindMmio || kind = abi.memoryKindRuntimeServices
    || kind = abi.memoryKindUnusable

/-- The loop of `validate_memory_map`; there is no entry before the first. -/
def scanMemoryMap (previousEnd : Option Nat) : List DwBootMemoryRangeV1 → BootCheck Unit
  | [] => pure ()
  | entry :: rest => do
      rejectIf (entry.size ≠ abi.memoryRangeV1Size || entry.version ≠ abi.memoryRangeV1Version)
        .invalidHeader
      rejectIf (entry.reserved0 ≠ 0 || entry.reserved.any fun value => value ≠ 0)
        .invalidReservedField
      rejectIf (!isKnownMemoryKind abi entry.kind) .unknownMemoryKind
      validatePageRange abi entry.physicalStart entry.pageCount
      let stop ← pageRangeEnd abi entry.physicalStart entry.pageCount
      rejectIf (previousEnd.any fun previous => entry.physicalStart < previous) .memoryMapOverlap
      scanMemoryMap (some stop) rest

def validateMemoryMap (memoryMap : List DwBootMemoryRangeV1) : BootCheck Unit :=
  scanMemoryMap abi none memoryMap

/-! ## The modules -/

/-- The four flags of `validate_modules`. -/
structure ModulesSeen where
  bootstrap : Bool
  bootfs : Bool
  pagingHandoff : Bool
  bootDeviceTable : Bool
deriving DecidableEq

def checkPagingHandoffLen (byteLen : Nat) : BootCheck Unit := do
  let offset := abi.pagingHandoffTableFramesOffset.toNat
  let stride := abi.pagingHandoffTableFrameStride.toNat
  let minimum ← plus offset (← times abi.pagingHandoffMinTableFrameCount.toNat stride)
  if minimum ≤ byteLen ∧ byteLen ≤ abi.pagingHandoffMaxByteLen.toNat then
    rejectIf (!isMultipleOf (← minus byteLen offset) stride) .invalidHeader
  else .err .invalidHeader

/-- The branches on the kind of a module. -/
def seeModule (seen : ModulesSeen) (module : DwBootModuleV1) : BootCheck ModulesSeen :=
  if module.kind = abi.moduleKindWyrmrootBootstrap then do
    rejectIf seen.bootstrap .duplicateModule
    pure { seen with bootstrap := true }
  else if module.kind = abi.moduleKindWyrmrootBootfs then do
    rejectIf seen.bootfs .duplicateModule
    rejectIf (module.flags &&& abi.moduleFlagReadOnly = 0) .moduleMustBeReadOnly
    pure { seen with bootfs := true }
  else if module.kind = abi.moduleKindPagingHandoffV1 then do
    rejectIf seen.pagingHandoff .duplicateModule
    rejectIf (module.flags ≠ abi.moduleFlagReadOnly) .moduleMustBeReadOnly
    checkPagingHandoffLen abi module.byteLen
    pure { seen with pagingHandoff := true }
  else if module.kind = abi.moduleKindBootDeviceTableV1 then do
    rejectIf seen.bootDeviceTable .duplicateModule
    rejectIf (module.flags ≠ abi.moduleFlagReadOnly) .moduleMustBeReadOnly
    pure { seen with bootDeviceTable := true }
  else .err .invalidHeader

/-- The loop over the modules behind one. -/
def checkApart (module : DwBootModuleV1) : List DwBootModuleV1 → BootCheck Unit
  | [] => pure ()
  | other :: rest => do
      rejectIf (← rangesOverlap module.physicalStart (← moduleAllocationLen abi module.byteLen)
        other.physicalStart (← moduleAllocationLen abi other.byteLen)) .handoffStorageOverlap
      checkApart module rest

/-- The loop of `validate_modules`. -/
def scanModules (seen : ModulesSeen) : List DwBootModuleV1 → BootCheck ModulesSeen
  | [] => pure seen
  | module :: rest => do
      rejectIf (module.size ≠ abi.moduleV1Size || module.version ≠ abi.moduleV1Version)
        .invalidHeader
      rejectIf (module.reserved.any fun value => value ≠ 0) .invalidReservedField
      validateModuleRange abi module.physicalStart module.byteLen
      rejectIf (module.flags &&& ~~~abi.moduleFlagReadOnly ≠ 0) .unsupportedModuleFlags
      let seen ← seeModule abi seen module
      checkApart abi module rest
      scanModules seen rest

def expectedKinds (bootDeviceTable : Bool) : List UInt32 :=
  if bootDeviceTable then [abi.moduleKindWyrmrootBootstrap, abi.moduleKindWyrmrootBootfs,
    abi.moduleKindPagingHandoffV1, abi.moduleKindBootDeviceTableV1]
  else [abi.moduleKindWyrmrootBootstrap, abi.moduleKindWyrmrootBootfs,
    abi.moduleKindPagingHandoffV1]

def validateModules (modules : List DwBootModuleV1) : BootCheck Unit := do
  let seen ← scanModules abi ⟨false, false, false, false⟩ modules
  rejectIf (!seen.bootstrap) .missingBootstrapModule
  rejectIf (!seen.bootfs) .missingBootfsModule
  rejectIf (!seen.pagingHandoff) .missingPagingHandoffModule
  let expectedKinds := expectedKinds abi seen.bootDeviceTable
  rejectIf (modules.length ≠ expectedKinds.length
    || (modules.zip expectedKinds).any fun (module, kind) => module.kind ≠ kind) .invalidModuleOrder

/-! ## Optional descriptors -/

def masksOverlap (red green blue reserved : UInt32) : Bool :=
  red &&& green ≠ 0 || red &&& blue ≠ 0 || red &&& reserved ≠ 0 || green &&& blue ≠ 0
    || green &&& reserved ≠ 0 || blue &&& reserved ≠ 0

/-- The format and the four masks of a descriptor. -/
def pixelFormatFields : FramebufferPixelFormat →
    BootCheck (UInt32 × UInt32 × UInt32 × UInt32 × UInt32)
  | .rgbx8 => pure (abi.pixelFormatRgbx8, 0, 0, 0, 0)
  | .bgrx8 => pure (abi.pixelFormatBgrx8, 0, 0, 0, 0)
  | .bitmask redMask greenMask blueMask reservedMask => do
      rejectIf (redMask = 0 || greenMask = 0 || blueMask = 0
        || masksOverlap redMask greenMask blueMask reservedMask) .invalidFramebuffer
      pure (abi.pixelFormatBitmask, redMask, greenMask, blueMask, reservedMask)

def framebufferDescriptor (framebuffer : FramebufferInput) : BootCheck DwBootFramebufferV1 := do
  rejectIf (framebuffer.width = 0 || framebuffer.height = 0
    || framebuffer.pixelsPerScanline < framebuffer.width) .invalidFramebuffer
  let bytesPerLine ← okOr (checkedMul framebuffer.pixelsPerScanline.toNat 4) .invalidFramebuffer
  let requiredLen ← okOr (checkedMul bytesPerLine framebuffer.height.toNat) .invalidFramebuffer
  rejectIf (framebuffer.byteLen < requiredLen
    || (checkedAdd framebuffer.physicalStart framebuffer.byteLen).isNone) .invalidFramebuffer
  let (pixelFormat, redMask, greenMask, blueMask, reservedMask) ←
    pixelFormatFields abi framebuffer.pixelFormat
  pure {
    size := abi.framebufferV1Size, version := abi.framebufferV1Version
    flags := abi.framebufferFlagLinear, pixelFormat
    physicalStart := framebuffer.physicalStart, byteLen := framebuffer.byteLen
    width := framebuffer.width, height := framebuffer.height
    pixelsPerScanline := framebuffer.pixelsPerScanline, reserved0 := 0
    redMask, greenMask, blueMask, reservedMask, reserved := [0, 0, 0, 0] }

def framebufferFormat (framebuffer : DwBootFramebufferV1) : BootCheck FramebufferPixelFormat :=
  if framebuffer.pixelFormat = abi.pixelFormatRgbx8 then pure .rgbx8
  else if framebuffer.pixelFormat = abi.pixelFormatBgrx8 then pure .bgrx8
  else if framebuffer.pixelFormat = abi.pixelFormatBitmask then
    pure (.bitmask framebuffer.redMask framebuffer.greenMask framebuffer.blueMask
      framebuffer.reservedMask)
  else .err .invalidFramebuffer

def FramebufferPixelFormat.isBitmask : FramebufferPixelFormat → Bool
  | .bitmask .. => true
  | _ => false

def validateFramebuffer (framebuffer : DwBootFramebufferV1) : BootCheck Unit := do
  rejectIf (framebuffer.size ≠ abi.framebufferV1Size
    || framebuffer.version ≠ abi.framebufferV1Version
    || framebuffer.flags ≠ abi.framebufferFlagLinear || framebuffer.reserved0 ≠ 0
    || framebuffer.reserved.any fun value => value ≠ 0) .invalidFramebuffer
  let format ← framebufferFormat abi framebuffer
  rejectIf (!format.isBitmask && (framebuffer.redMask ≠ 0 || framebuffer.greenMask ≠ 0
    || framebuffer.blueMask ≠ 0 || framebuffer.reservedMask ≠ 0)) .invalidFramebuffer
  let _ ← framebufferDescriptor abi {
    physicalStart := framebuffer.physicalStart, byteLen := framebuffer.byteLen
    width := framebuffer.width, height := framebuffer.height
    pixelsPerScanline := framebuffer.pixelsPerScanline, pixelFormat := format }

def validateEntropy (entropy : DwBootEntropyV1) : BootCheck Unit := do
  rejectIf (entropy.size ≠ abi.entropyV1Size || entropy.version ≠ abi.entropyV1Version
    || (entropy.reserved.any fun value => value ≠ 0) || entropy.byteLen = 0
    || maxEntropyBytes < entropy.byteLen || entropy.physicalStart = 0
    || !isMultipleOf entropy.physicalStart abi.basePageSize.toNat
    || (checkedAdd entropy.physicalStart entropy.byteLen).isNone
    || entropy.flags &&& ~~~abi.entropyFlagConditioned ≠ 0) .invalidEntropy
  rejectIf (entropy.source ≠ abi.entropySourceUefiRngProtocol
    && entropy.source ≠ abi.entropySourceFirmwarePlatform
    && entropy.source ≠ abi.entropySourceMixedFirmware) .invalidEntropy

/-! ## Published validators -/

def validateBootInfo (info : DwBootInfoV1) : BootCheck Unit := do
  rejectIf (info.size ≠ abi.infoV1Size || info.version ≠ abi.infoV1Version) .invalidHeader
  rejectIf (info.reserved0 ≠ 0 || info.reserved1 ≠ 0 || info.reserved.any fun value => value ≠ 0)
    .invalidReservedField
  rejectIf (info.flags &&& ~~~abi.infoFlagFramebufferPresent ≠ 0) .invalidHeader
  rejectIf (info.acpiRsdpPhysicalAddress ≠ 0
    && !isMultipleOf info.acpiRsdpPhysicalAddress acpiRsdpAlignment) .invalidAcpiRsdp
  validateTableReference info.memoryMapPhysicalStart info.memoryMapEntryCount
    info.memoryMapEntrySize abi.memoryRangeV1Size abi.memoryRangeV1Align
  validateTableReference info.modulesPhysicalStart info.moduleCount info.moduleEntrySize
    abi.moduleV1Size abi.moduleV1Align
  rejectIf (maxCommandLineBytes < info.commandLineByteLen) .commandLineTooLarge
  validateByteReference info.commandLinePhysicalStart info.commandLineByteLen maxCommandLineBytes
  if info.flags &&& abi.infoFlagFramebufferPresent ≠ 0 then validateFramebuffer abi info.framebuffer
  else rejectIf (info.framebuffer ≠ abi.framebufferDefault) .invalidFramebuffer
  if info.entropy ≠ abi.entropyDefault then validateEntropy abi info.entropy else pure ()

def validateTables (info : DwBootInfoV1) (memoryMap : List DwBootMemoryRangeV1)
    (modules : List DwBootModuleV1) : BootCheck Unit := do
  rejectIf (info.memoryMapEntryCount ≠ (← u64TryFrom memoryMap.length)
    || info.moduleCount ≠ (← u64TryFrom modules.length)) .invalidTableReference
  validateMemoryMap abi memoryMap
  if info.acpiRsdpPhysicalAddress ≠ 0 then
    rejectIf (!(← rangeHasKind abi info.acpiRsdpPhysicalAddress acpiRsdpMinimumBytes memoryMap
      fun kind => kind = abi.memoryKindAcpiReclaim || kind = abi.memoryKindAcpiNvs
        || kind = abi.memoryKindReserved)) .invalidAcpiRsdp
  else pure ()
  validateModules abi modules

/-! ## Building -/

/-- No command line. -/
def noCommandLine : CommandLineInput :=
  ⟨⟨0, 0, .retainedUntilDeepwyrmPageTableReplacement⟩, 0⟩

def buildCommandLine (commandLine : Option CommandLineInput)
    (memoryMap : List DwBootMemoryRangeV1) : BootCheck CommandLineInput :=
  match commandLine with
  | none => pure noCommandLine
  | some commandLine => do
      validateRetained abi commandLine.storage commandLine.byteLen
      rejectIf (maxCommandLineBytes < commandLine.byteLen) .commandLineTooLarge
      rejectIf (commandLine.byteLen = 0) .invalidOptionalAddress
      validateReservedStorage abi commandLine.storage memoryMap
      pure commandLine

def entropySource : FirmwareEntropySource → UInt32
  | .uefiRngProtocol => abi.entropySourceUefiRngProtocol
  | .firmwarePlatform => abi.entropySourceFirmwarePlatform
  | .mixedFirmware => abi.entropySourceMixedFirmware

def buildEntropy (entropy : Option EntropyInput) (memoryMap : List DwBootMemoryRangeV1) :
    BootCheck DwBootEntropyV1 :=
  match entropy with
  | none => pure abi.entropyDefault
  | some entropy => do
      rejectIf (entropy.byteLen = 0 || maxEntropyBytes < entropy.byteLen
        || entropy.storage.byteLen < entropy.byteLen) .invalidEntropy
      validateRetained abi entropy.storage entropy.byteLen
      validateReservedStorage abi entropy.storage memoryMap
      pure {
        size := abi.entropyV1Size, version := abi.entropyV1Version
        source := entropySource abi entropy.source
        flags := if entropy.conditioned then abi.entropyFlagConditioned else 0
        physicalStart := entropy.storage.physicalStart, byteLen := entropy.byteLen
        reserved := [0, 0, 0, 0] }

def buildAcpiRsdp (rsdp : Option AcpiRsdpInput) (memoryMap : List DwBootMemoryRangeV1) :
    BootCheck Nat :=
  match rsdp with
  | none => pure 0
  | some rsdp => do
      rejectIf (rsdp.storage.physicalStart = 0
        || !isMultipleOf rsdp.storage.physicalStart acpiRsdpAlignment
        || rsdp.byteLen < acpiRsdpMinimumBytes || rsdp.storage.byteLen < rsdp.byteLen)
        .invalidAcpiRsdp
      validateRetained abi rsdp.storage rsdp.byteLen
      validateReservedStorage abi rsdp.storage memoryMap
      pure rsdp.storage.physicalStart

def buildFramebuffer (framebuffer : Option FramebufferInput)
    (memoryMap : List DwBootMemoryRangeV1) : BootCheck (UInt32 × DwBootFramebufferV1) :=
  match framebuffer with
  | none => pure (0, abi.framebufferDefault)
  | some framebuffer => do
      let descriptor ← framebufferDescriptor abi framebuffer
      rejectIf (!(← rangeHasKind abi descriptor.physicalStart descriptor.byteLen memoryMap
        fun kind => kind = abi.memoryKindReserved || kind = abi.memoryKindMmio))
        .handoffStorageNotReserved
      pure (abi.infoFlagFramebufferPresent, descriptor)

/-- `if ranges_overlap(..)? { return Err(..) }` over some allocations. -/
def apartFrom (left : HandoffAllocation) : List HandoffAllocation → BootCheck Unit
  | [] => pure ()
  | right :: rest => do
      rejectIf (← rangesOverlap left.physicalStart left.byteLen right.physicalStart right.byteLen)
        .handoffStorageOverlap
      apartFrom left rest

def apartFromModules (left : HandoffAllocation) : List DwBootModuleV1 → BootCheck Unit
  | [] => pure ()
  | module :: rest => do
      rejectIf (← rangesOverlap left.physicalStart left.byteLen module.physicalStart
        (← moduleAllocationLen abi module.byteLen)) .handoffStorageOverlap
      apartFromModules left rest

/-- The loop over the fixed allocations. -/
def fixedApart (modules : List DwBootModuleV1) : List HandoffAllocation → BootCheck Unit
  | [] => pure ()
  | left :: rest => do
      apartFrom left rest
      apartFromModules abi left modules
      fixedApart modules rest

/-- The loop over the additional allocations; `prior` are those before. The
operands of the last comparison are the other way around. -/
def additionalApart (fixed : List HandoffAllocation) (modules : List DwBootModuleV1)
    (prior : List HandoffAllocation) : List (Option HandoffAllocation) → BootCheck Unit
  | [] => pure ()
  | none :: rest => additionalApart fixed modules prior rest
  | some allocation :: rest => do
      fixedBefore allocation fixed
      apartFromModules abi allocation modules
      apartFrom allocation prior
      additionalApart fixed modules (prior ++ [allocation]) rest
where
  fixedBefore (allocation : HandoffAllocation) : List HandoffAllocation → BootCheck Unit
    | [] => pure ()
    | left :: rest => do
        rejectIf (← rangesOverlap left.physicalStart left.byteLen allocation.physicalStart
          allocation.byteLen) .handoffStorageOverlap
        fixedBefore allocation rest

def validateDistinctHandoffRanges (input : BootInfoInput) (commandLine : CommandLineInput) :
    BootCheck Unit := do
  let fixed := [input.bootInfoStorage, input.memoryMapStorage, input.moduleTableStorage]
  fixedApart abi input.modules fixed
  additionalApart abi fixed input.modules []
    [if commandLine.byteLen ≠ 0 then some commandLine.storage else none,
      input.entropy.map EntropyInput.storage, input.acpiRsdp.map AcpiRsdpInput.storage]

/-- The loop over the modules of `build_inner`. -/
def modulesReserved (memoryMap : List DwBootMemoryRangeV1) : List DwBootModuleV1 → BootCheck Unit
  | [] => pure ()
  | module :: rest => do
      validateReservedRange abi module.physicalStart (← moduleAllocationLen abi module.byteLen)
        memoryMap
      modulesReserved memoryMap rest

def checkLimits (input : BootInfoInput) : Option BootInfoLimits → BootCheck Unit
  | none => pure ()
  | some limits => do
      rejectIf (limits.maxMemoryMapEntries < input.memoryMap.length) .memoryMapEntryLimitExceeded
      rejectIf (limits.maxModuleEntries < input.modules.length) .moduleEntryLimitExceeded

/-- `build_inner` up to its first write. -/
def describe (input : BootInfoInput) (outputModules : Nat) (limits : Option BootInfoLimits) :
    BootCheck DwBootInfoV1 := do
  rejectIf (input.phase ≠ .afterExitBootServices) .exitBootServicesIncomplete
  rejectIf input.memoryMap.isEmpty .emptyMemoryMap
  rejectIf (input.modules.length ≠ outputModules) .outputLengthMismatch
  checkLimits input limits
  let memoryMapEntryCount ← u64TryFrom input.memoryMap.length
  let moduleCount ← u64TryFrom input.modules.length
  validateRetained abi input.bootInfoStorage abi.infoV1Size.toNat
  validateTableStorage abi input.memoryMapStorage input.memoryMap.length
    abi.memoryRangeV1Size.toNat abi.memoryRangeV1Align
  validateTableStorage abi input.moduleTableStorage input.modules.length abi.moduleV1Size.toNat
    abi.moduleV1Align
  validateMemoryMap abi input.memoryMap
  validateReservedStorage abi input.bootInfoStorage input.memoryMap
  validateReservedStorage abi input.memoryMapStorage input.memoryMap
  validateReservedStorage abi input.moduleTableStorage input.memoryMap
  validateModules abi input.modules
  modulesReserved abi input.memoryMap input.modules
  let commandLine ← buildCommandLine abi input.commandLine input.memoryMap
  let entropy ← buildEntropy abi input.entropy input.memoryMap
  let (flags, framebuffer) ← buildFramebuffer abi input.framebuffer input.memoryMap
  let acpiRsdpPhysicalAddress ← buildAcpiRsdp abi input.acpiRsdp input.memoryMap
  validateDistinctHandoffRanges abi input commandLine
  let info : DwBootInfoV1 := {
    size := abi.infoV1Size, version := abi.infoV1Version, flags
    memoryMapPhysicalStart := input.memoryMapStorage.physicalStart, memoryMapEntryCount
    memoryMapEntrySize := abi.memoryRangeV1Size, reserved0 := 0
    modulesPhysicalStart := input.moduleTableStorage.physicalStart, moduleCount
    moduleEntrySize := abi.moduleV1Size, reserved1 := 0, acpiRsdpPhysicalAddress, framebuffer
    commandLinePhysicalStart := commandLine.storage.physicalStart
    commandLineByteLen := commandLine.byteLen, entropy, reserved := List.replicate 8 0 }
  validateBootInfo abi info
  pure info

abbrev Builder (α : Type) := Prog BootInfoOutput Empty BootInfoError α

/-- `output.modules.copy_from_slice(modules)`. -/
def copyModules (modules : List DwBootModuleV1) : Builder Unit := fun output =>
  if modules.length = output.modules.length then (.ok (), { output with modules }, [])
  else (.panic, output, [])

def buildInner (input : BootInfoInput) (limits : Option BootInfoLimits) : Builder Unit := do
  let output ← .get
  let info ← .lift (describe abi input output.modules.length limits)
  copyModules input.modules
  let output ← .get
  .lift (validateTables abi info input.memoryMap output.modules)
  .modify ({ · with bootInfo := info })

def build (input : BootInfoInput) : Builder Unit := buildInner abi input none

def buildWithLimits (input : BootInfoInput) (limits : BootInfoLimits) : Builder Unit :=
  buildInner abi input (some limits)

end Checks

end Wyrmroot.Uefi
