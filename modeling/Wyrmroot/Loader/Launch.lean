import Mathlib.Data.Finset.Basic
import Wyrmroot.Lib.Layout

/-!
# The WRLP launch protocol

What a parent sends its child before the child runs (INIT) and what the
child answers (READY): the profiles, the encoders that fill the loader's
buffer, and the parsers the child and its supervisor use.

Rights are sets of named bits, since their positions belong to the kernel's
interface and nothing here depends on them; identifiers and generations are
the 64-bit words of the wire.
-/

namespace Wyrmroot.Loader

open Outcome

/-- The bits of a `DwRights` that the loader names, and the others. -/
inductive Right where
  | read
  | write
  | execute
  | map
  | modify
  | wait
  | duplicate
  | transfer
  | inspect
  | resource
  | other (bit : Nat)
deriving DecidableEq

/-- `DwRights`. -/
abbrev Rights := Finset Right

/-- `DwObjectType`. -/
inductive ObjectType where
  | addressRegion
  | channel
  | memoryObject
  | taskGroup
  | other (code : Nat)
deriving DecidableEq

/-- `DwReceivedHandleInfoV1`. -/
structure ReceivedHandleInfo where
  handle : Nat
  objectType : ObjectType
  rights : Rights
  reserved0 : Nat
  reserved : List Nat
deriving DecidableEq

def headerBytes : Nat := 40
def deviceCoordinatorBytes : Nat := 72
def deviceCoordinatorResourceBytes : Nat := 80
def deviceDriverBytes : Nat := 104
def consoledBytes : Nat := 128
def wyrmshBytes : Nat := 160
def maxCapabilities : Nat := 6

/-- `b"WRLP"`. -/
def magic : List UInt8 := [0x57, 0x52, 0x4c, 0x50]
def major : Nat := 1
def typeInit : Nat := 1
def typeReady : Nat := 2
def roleSelfRoot : Nat := 1
def roleBootfs : Nat := 2
def roleLoaderTaskGroup : Nat := 3
def roleSupervisorControl : Nat := 4
def rolePublicationAuthority : Nat := 5
def roleRegistryClient : Nat := 6
def roleLaunchSession : Nat := 7
def roleStdin : Nat := 8
def roleStdout : Nat := 9
def roleStderr : Nat := 10
def roleDw1bProgressData : Nat := 11
def roleDeviceManifest : Nat := 12
def roleDeviceControl : Nat := 13
def roleResourceDomain : Nat := 14
def roleD6ResourceDomain : Nat := 15
def roleConsoleStatus : Nat := 16

def selfRootRights : Rights := {.map, .modify, .inspect}
def bootfsRights : Rights := {.read, .map, .inspect, .duplicate, .transfer}
def loaderTaskGroupRights : Rights := {.modify, .inspect, .duplicate, .transfer}
def childChannelRights : Rights := {.read, .write, .wait, .inspect}
def deviceManifestRights : Rights := {.read, .map, .inspect}
def resourceDomainClaimRights : Rights := {.resource, .inspect}
def resourceDomainClaimTransferRights : Rights := {.resource, .inspect, .transfer}
def resourceDomainCustodyRights : Rights :=
  {.modify, .duplicate, .transfer, .inspect, .resource}

inductive LaunchProfile where
  | init0
  | i2Stress
  | capabilityController
  | probeChild
  | supervisor
  | supervisorResourceDomain
  | earlyBootStub
  | bootstrapRegistry
  | bootstrapService
  | registryClient
  | launchClient
  | consoled
  | wyrmsh
  | jobV2
  | jobV2Streams
  | dw1bProgress
  | deviceCoordinator
  | deviceCoordinatorResourceDomain
  | deviceDriver
  | d6ResourceOwner
  | hello
deriving DecidableEq

namespace LaunchProfile

def capabilityCount : LaunchProfile → Nat
  | .init0 | .i2Stress | .capabilityController | .supervisor => 3
  | .supervisorResourceDomain => 4
  | .d6ResourceOwner => 1
  | .probeChild | .dw1bProgress => 1
  | .bootstrapRegistry | .bootstrapService | .registryClient | .launchClient => 2
  | .consoled => 3
  | .wyrmsh => 6
  | .jobV2Streams => 3
  | .deviceCoordinator => 3
  | .deviceCoordinatorResourceDomain => 4
  | .deviceDriver => 2
  | .hello | .earlyBootStub | .jobV2 => 0

def protocolMinor : LaunchProfile → Nat
  | .probeChild => 1
  | .supervisor | .earlyBootStub => 2
  | .supervisorResourceDomain => 7
  | .d6ResourceOwner => 8
  | .bootstrapRegistry | .bootstrapService | .registryClient | .launchClient | .jobV2
  | .jobV2Streams => 3
  | .dw1bProgress => 4
  | .deviceCoordinator => 5
  | .deviceCoordinatorResourceDomain => 9
  | .consoled => 10
  | .wyrmsh => 11
  | .deviceDriver => 6
  | .init0 | .i2Stress | .capabilityController | .hello => 0

def initSize (profile : LaunchProfile) : Nat :=
  match profile with
  | .wyrmsh => wyrmshBytes
  | .consoled => consoledBytes
  | .deviceCoordinator => deviceCoordinatorBytes
  | .deviceCoordinatorResourceDomain => deviceCoordinatorResourceBytes
  | .deviceDriver => deviceDriverBytes
  | _ => headerBytes + profile.capabilityCount * 8

def hasLoaderAuthorityTrio : LaunchProfile → Bool
  | .init0 | .i2Stress | .capabilityController | .supervisor => true
  | _ => false

def hasLoaderAuthorityQuartet : LaunchProfile → Bool
  | .supervisorResourceDomain => true
  | _ => false

def needsSelfRoot (profile : LaunchProfile) : Bool :=
  profile.hasLoaderAuthorityTrio || profile.hasLoaderAuthorityQuartet ||
    match profile with
    | .probeChild | .bootstrapRegistry | .bootstrapService | .registryClient | .launchClient
    | .deviceCoordinator | .deviceCoordinatorResourceDomain | .deviceDriver | .consoled => true
    | _ => false

def channelRole : LaunchProfile → Option Nat
  | .bootstrapRegistry => some roleSupervisorControl
  | .bootstrapService => some rolePublicationAuthority
  | .registryClient => some roleRegistryClient
  | .launchClient => some roleLaunchSession
  | .dw1bProgress => some roleDw1bProgressData
  | .deviceDriver => some roleDeviceControl
  | _ => none

end LaunchProfile

inductive LaunchError where
  | bufferSize
  | badMagic
  | badVersion
  | badType
  | nonzeroFlags
  | badTotalSize
  | badCapabilityCount
  | zeroTransaction
  | transactionMismatch
  | nonzeroReserved
  | badCapabilityRole (index : Nat)
  | handleCount
  | handleMetadata (index : Nat)
  | profileSpecificEncoderRequired
deriving DecidableEq

structure ParsedMessage where
  transactionId : UInt64
  profile : LaunchProfile
deriving DecidableEq

structure DeviceCoordinatorInit where
  transactionId : UInt64
  supervisorGeneration : UInt64
deriving DecidableEq

structure DeviceDriverInit where
  transactionId : UInt64
  supervisorGeneration : UInt64
  roleId : UInt64
  attemptGeneration : UInt64
  launchSession : UInt64
  endpointId : UInt64
  endpointGeneration : UInt64
deriving DecidableEq

structure ConsoledInit where
  transactionId : UInt64
  registryGeneration : UInt64
  registryEndpointId : UInt64
  registryEndpointGeneration : UInt64
  launchConnectionId : UInt64
  launchConnectionGeneration : UInt64
deriving DecidableEq

structure WyrmshInit where
  transactionId : UInt64
  registryGeneration : UInt64
  registryEndpointId : UInt64
  registryEndpointGeneration : UInt64
  launchConnectionId : UInt64
  launchConnectionGeneration : UInt64
  consoleGeneration : UInt64
  statusGeneration : UInt64
  childGeneration : UInt64
  outerLaunchTransaction : UInt64
deriving DecidableEq

/-! ## Encoding -/

/-- A step of an encoder. -/
abbrev Encode (α : Type) := Fill LaunchError α

def putU16 (offset value : Nat) : Encode Unit := storeBytes offset (leBytes 2 value)

def putU32 (offset value : Nat) : Encode Unit := storeBytes offset (leBytes 4 value)

def putU64 (offset : Nat) (value : UInt64) : Encode Unit :=
  storeBytes offset (leBytes 8 value.toNat)

def writeHeader (minor messageType totalSize capabilities : Nat) (transactionId : UInt64) :
    Encode Unit := do
  storeBytes 0 magic
  putU16 4 major
  putU16 6 minor
  putU32 8 messageType
  putU32 16 totalSize
  putU32 20 capabilities
  putU64 24 transactionId

/-- `for (index, role) in roles.enumerate()`, from capability `index` on. -/
def putRoles (index : Nat) : List Nat → Encode Unit
  | [] => pure ()
  | role :: rest => do
      putU32 (headerBytes + index * 8) role
      putRoles (index + 1) rest

/-- `for (index, value) in values.enumerate()`, eight bytes each. -/
def putWords (offset : Nat) : List UInt64 → Encode Unit
  | [] => pure ()
  | value :: rest => do
      putU64 offset value
      putWords (offset + 8) rest

def writeRoles (profile : LaunchProfile) : Encode Unit :=
  if profile.hasLoaderAuthorityTrio || profile.hasLoaderAuthorityQuartet then do
    putRoles 0 [roleSelfRoot, roleBootfs, roleLoaderTaskGroup]
    if profile.hasLoaderAuthorityQuartet then putU32 (headerBytes + 3 * 8) roleResourceDomain
    else pure ()
  else if profile = .consoled then
    putRoles 0 [roleSelfRoot, roleRegistryClient, roleLaunchSession]
  else if profile = .wyrmsh then
    putRoles 0 [roleStdin, roleStdout, roleStderr, roleConsoleStatus, roleRegistryClient,
      roleLaunchSession]
  else if profile = .d6ResourceOwner then putU32 headerBytes roleD6ResourceDomain
  else if profile = .deviceCoordinator || profile = .deviceCoordinatorResourceDomain then do
    putRoles 0 [roleSelfRoot, rolePublicationAuthority, roleDeviceManifest]
    if profile = .deviceCoordinatorResourceDomain then
      putU32 (headerBytes + 3 * 8) roleResourceDomain
    else pure ()
  else if profile = .deviceDriver then putRoles 0 [roleSelfRoot, roleDeviceControl]
  else if profile = .dw1bProgress then putU32 headerBytes roleDw1bProgressData
  else if profile.needsSelfRoot then do
    putU32 headerBytes roleSelfRoot
    match profile.channelRole with
    | some role => putU32 (headerBytes + 8) role
    | none => pure ()
  else if profile = .jobV2Streams then putRoles 0 [roleStdin, roleStdout, roleStderr]
  else pure ()

def encodeInitInner (profile : LaunchProfile) (transactionId : UInt64) : Encode Nat := do
  let output ← Prog.get
  let size := profile.initSize
  if output.length < size then Prog.throw .bufferSize
  else if transactionId = 0 then Prog.throw .zeroTransaction
  else do
    storeBytes 0 (List.replicate size 0)
    writeHeader profile.protocolMinor typeInit size profile.capabilityCount transactionId
    writeRoles profile
    pure size

def encodeInit (profile : LaunchProfile) (transactionId : UInt64) : Encode Nat :=
  match profile with
  | .deviceCoordinator | .deviceCoordinatorResourceDomain | .deviceDriver | .consoled
  | .wyrmsh => Prog.throw .profileSpecificEncoderRequired
  | _ => encodeInitInner profile transactionId

/-- The profile-specific encoders: no correlation value may be zero, and
they follow the capability records from `offset` on. -/
def encodeCorrelated (profile : LaunchProfile) (offset : Nat) (transactionId : UInt64)
    (correlations : List UInt64) : Encode Nat := do
  if correlations.contains 0 then Prog.throw .zeroTransaction
  else do
    let size ← encodeInitInner profile transactionId
    putWords offset correlations
    pure size

def encodeDeviceCoordinatorInit (transactionId supervisorGeneration : UInt64) : Encode Nat :=
  encodeCorrelated .deviceCoordinator 64 transactionId [supervisorGeneration]

def encodeDeviceCoordinatorResourceInit (transactionId supervisorGeneration : UInt64) :
    Encode Nat :=
  encodeCorrelated .deviceCoordinatorResourceDomain 72 transactionId [supervisorGeneration]

def encodeDeviceDriverInit (transactionId supervisorGeneration roleId attemptGeneration
    launchSession endpointId endpointGeneration : UInt64) : Encode Nat :=
  encodeCorrelated .deviceDriver 56 transactionId
    [supervisorGeneration, roleId, attemptGeneration, launchSession, endpointId,
      endpointGeneration]

def encodeConsoledInit (transactionId registryGeneration registryEndpointId
    registryEndpointGeneration launchConnectionId launchConnectionGeneration : UInt64) :
    Encode Nat :=
  encodeCorrelated .consoled 88 transactionId
    [registryGeneration, registryEndpointId, registryEndpointGeneration, launchConnectionId,
      launchConnectionGeneration]

def encodeWyrmshInit (transactionId registryGeneration registryEndpointId
    registryEndpointGeneration launchConnectionId launchConnectionGeneration consoleGeneration
    statusGeneration childGeneration outerLaunchTransaction : UInt64) : Encode Nat :=
  encodeCorrelated .wyrmsh 88 transactionId
    [registryGeneration, registryEndpointId, registryEndpointGeneration, launchConnectionId,
      launchConnectionGeneration, consoleGeneration, statusGeneration, childGeneration,
      outerLaunchTransaction]

def encodeReadyForProfile (profile : LaunchProfile) (transactionId : UInt64) : Encode Nat := do
  let output ← Prog.get
  if output.length < headerBytes then Prog.throw .bufferSize
  else if transactionId = 0 then Prog.throw .zeroTransaction
  else do
    storeBytes 0 (List.replicate headerBytes 0)
    writeHeader profile.protocolMinor typeReady headerBytes 0 transactionId
    pure headerBytes

/-! ## Parsing -/

/-- A step of a parser. -/
abbrev Launch (α : Type) := Outcome LaunchError α

def getU64 (bytes : List UInt8) (offset : Nat) : Launch UInt64 := do
  let value ← getLE 8 bytes offset
  pure (UInt64.ofNat value)

def parseHeader (bytes : List UInt8) (messageType expectedMinor expectedSize
    expectedCapabilities : Nat) : Launch UInt64 := do
  rejectIf (bytes.length ≠ expectedSize) .bufferSize
  let front ← sliceAt bytes 0 4
  rejectIf (front ≠ magic) .badMagic
  let foundMajor ← getLE 2 bytes 4
  let foundMinor ← getLE 2 bytes 6
  rejectIf (foundMajor ≠ major || foundMinor ≠ expectedMinor) .badVersion
  let foundType ← getLE 4 bytes 8
  rejectIf (foundType ≠ messageType) .badType
  let flags ← getLE 4 bytes 12
  rejectIf (flags ≠ 0) .nonzeroFlags
  let totalSize ← getLE 4 bytes 16
  rejectIf (totalSize ≠ expectedSize) .badTotalSize
  let capabilities ← getLE 4 bytes 20
  rejectIf (capabilities ≠ expectedCapabilities) .badCapabilityCount
  let transactionId ← getU64 bytes 24
  rejectIf (transactionId = 0) .zeroTransaction
  let reserved ← getU64 bytes 32
  rejectIf (reserved ≠ 0) .nonzeroReserved
  pure transactionId

def validateHandle (handle : ReceivedHandleInfo) (objectType : ObjectType) (rights : Rights)
    (index : Nat) : Launch Unit :=
  rejectIf (handle.handle = 0 || handle.objectType ≠ objectType || handle.rights ≠ rights
    || handle.reserved0 ≠ 0 || handle.reserved ≠ [0, 0]) (.handleMetadata index)

/-- What the parser expects of one capability: its role, kind and rights. -/
structure Capability where
  role : Nat
  objectType : ObjectType
  rights : Rights
deriving DecidableEq

def checkCapability (bytes : List UInt8) (handles : List ReceivedHandleInfo) (index : Nat)
    (expected : Capability) : Launch Unit := do
  let role ← getLE 4 bytes (headerBytes + index * 8)
  let reserved ← getLE 4 bytes (headerBytes + index * 8 + 4)
  rejectIf (role ≠ expected.role || reserved ≠ 0) (.badCapabilityRole index)
  match handles[index]? with
  | some handle => validateHandle handle expected.objectType expected.rights index
  | none => .panic

def checkCapabilities (bytes : List UInt8) (handles : List ReceivedHandleInfo) (index : Nat) :
    List Capability → Launch Unit
  | [] => .ok ()
  | expected :: rest => do
      checkCapability bytes handles index expected
      checkCapabilities bytes handles (index + 1) rest

def selfRootCapability : Capability := ⟨roleSelfRoot, .addressRegion, selfRootRights⟩

def channelCapability (role : Nat) : Capability := ⟨role, .channel, childChannelRights⟩

/-- `core::array::from_fn(|index| get_u64(bytes, offset + index * 8))`. -/
def getWords (bytes : List UInt8) (offset : Nat) : Nat → Launch (List UInt64)
  | 0 => .ok []
  | count + 1 => do
      let value ← getU64 bytes offset
      let rest ← getWords bytes (offset + 8) count
      pure (value :: rest)

def parseCapabilities (profile : LaunchProfile) (bytes : List UInt8)
    (handles : List ReceivedHandleInfo) : Launch Unit :=
  if profile.hasLoaderAuthorityTrio || profile.hasLoaderAuthorityQuartet then do
    checkCapabilities bytes handles 0 [selfRootCapability,
      ⟨roleBootfs, .memoryObject, bootfsRights⟩,
      ⟨roleLoaderTaskGroup, .taskGroup, loaderTaskGroupRights⟩]
    if profile.hasLoaderAuthorityQuartet then
      checkCapability bytes handles 3 ⟨roleResourceDomain, .taskGroup, resourceDomainCustodyRights⟩
    else pure ()
  else if profile = .consoled then
    checkCapabilities bytes handles 0 [selfRootCapability, channelCapability roleRegistryClient,
      channelCapability roleLaunchSession]
  else if profile = .wyrmsh then do
    checkCapabilities bytes handles 0 ([roleStdin, roleStdout, roleStderr, roleConsoleStatus,
      roleRegistryClient, roleLaunchSession].map channelCapability)
    let correlations ← getWords bytes 88 9
    rejectIf (correlations.contains 0) .zeroTransaction
  else if profile = .d6ResourceOwner then
    checkCapability bytes handles 0 ⟨roleD6ResourceDomain, .taskGroup, resourceDomainClaimRights⟩
  else if profile = .deviceCoordinator || profile = .deviceCoordinatorResourceDomain then do
    checkCapabilities bytes handles 0 [selfRootCapability,
      channelCapability rolePublicationAuthority,
      ⟨roleDeviceManifest, .memoryObject, deviceManifestRights⟩]
    if profile = .deviceCoordinatorResourceDomain then
      checkCapability bytes handles 3 ⟨roleResourceDomain, .taskGroup, resourceDomainClaimRights⟩
    else pure ()
  else if profile = .deviceDriver then
    checkCapabilities bytes handles 0 [selfRootCapability, channelCapability roleDeviceControl]
  else if profile = .dw1bProgress then
    checkCapability bytes handles 0 (channelCapability roleDw1bProgressData)
  else if profile.needsSelfRoot then do
    checkCapability bytes handles 0 selfRootCapability
    match profile.channelRole with
    | some role => checkCapability bytes handles 1 (channelCapability role)
    | none => pure ()
  else if profile = .jobV2Streams then
    checkCapabilities bytes handles 0 ([roleStdin, roleStdout, roleStderr].map channelCapability)
  else pure ()

def parseInit (profile : LaunchProfile) (bytes : List UInt8) (handles : List ReceivedHandleInfo) :
    Launch ParsedMessage := do
  let transactionId ← parseHeader bytes typeInit profile.protocolMinor profile.initSize
    profile.capabilityCount
  rejectIf (handles.length ≠ profile.capabilityCount) .handleCount
  parseCapabilities profile bytes handles
  pure { transactionId, profile }

/-- The profile-specific parsers: `parse_init`, then `count` words from
`offset` on, none of them zero. -/
def parseCorrelated (profile : LaunchProfile) (offset count : Nat) (bytes : List UInt8)
    (handles : List ReceivedHandleInfo) : Launch (UInt64 × List UInt64) := do
  let parsed ← parseInit profile bytes handles
  let fields ← getWords bytes offset count
  rejectIf (fields.contains 0) .zeroTransaction
  pure (parsed.transactionId, fields)

def parseDeviceCoordinatorInit (bytes : List UInt8) (handles : List ReceivedHandleInfo) :
    Launch DeviceCoordinatorInit := do
  let (transactionId, fields) ← parseCorrelated .deviceCoordinator 64 1 bytes handles
  match fields with
  | [supervisorGeneration] => pure { transactionId, supervisorGeneration }
  | _ => .panic

def parseDeviceCoordinatorResourceInit (bytes : List UInt8) (handles : List ReceivedHandleInfo) :
    Launch DeviceCoordinatorInit := do
  let (transactionId, fields) ← parseCorrelated .deviceCoordinatorResourceDomain 72 1 bytes handles
  match fields with
  | [supervisorGeneration] => pure { transactionId, supervisorGeneration }
  | _ => .panic

def parseDeviceDriverInit (bytes : List UInt8) (handles : List ReceivedHandleInfo) :
    Launch DeviceDriverInit := do
  let (transactionId, fields) ← parseCorrelated .deviceDriver 56 6 bytes handles
  match fields with
  | [supervisorGeneration, roleId, attemptGeneration, launchSession, endpointId,
      endpointGeneration] =>
      pure { transactionId, supervisorGeneration, roleId, attemptGeneration, launchSession,
             endpointId, endpointGeneration }
  | _ => .panic

def parseConsoledInit (bytes : List UInt8) (handles : List ReceivedHandleInfo) :
    Launch ConsoledInit := do
  let (transactionId, fields) ← parseCorrelated .consoled 88 5 bytes handles
  match fields with
  | [registryGeneration, registryEndpointId, registryEndpointGeneration, launchConnectionId,
      launchConnectionGeneration] =>
      pure { transactionId, registryGeneration, registryEndpointId, registryEndpointGeneration,
             launchConnectionId, launchConnectionGeneration }
  | _ => .panic

/-- `parse_init` has already refused a zero correlation. -/
def parseWyrmshInit (bytes : List UInt8) (handles : List ReceivedHandleInfo) :
    Launch WyrmshInit := do
  let parsed ← parseInit .wyrmsh bytes handles
  let fields ← getWords bytes 88 9
  match fields with
  | [registryGeneration, registryEndpointId, registryEndpointGeneration, launchConnectionId,
      launchConnectionGeneration, consoleGeneration, statusGeneration, childGeneration,
      outerLaunchTransaction] =>
      pure { transactionId := parsed.transactionId, registryGeneration, registryEndpointId,
             registryEndpointGeneration, launchConnectionId, launchConnectionGeneration,
             consoleGeneration, statusGeneration, childGeneration, outerLaunchTransaction }
  | _ => .panic

def parseReadyForProfile (profile : LaunchProfile) (bytes : List UInt8)
    (expectedTransaction : UInt64) : Launch Unit := do
  let transactionId ← parseHeader bytes typeReady profile.protocolMinor headerBytes 0
  rejectIf (transactionId ≠ expectedTransaction) .transactionMismatch

end Wyrmroot.Loader
