import Wyrmroot.Lib.Bytes

/-!
# WRRG messages

The value types of the registry protocol, as `wyrmroot-registry-proto`
declares them. A `u64`, `u32` or `u16` field is a natural; the codec is
where widths matter. A borrowed name is the list of its bytes.

`VersionList` has a private field and only the parser makes one, so what
the parser checks is part of the type.
-/

namespace Wyrmroot.Registry

def headerBytes : Nat := 64
def maxServices : Nat := 32
def maxServiceNameBytes : Nat := 128
def maxProtocolVersions : Nat := 4
def maxOutstandingPerClient : Nat := 16
def maxClientReplay : Nat := 32
def maxPublicationReplay : Nat := 8
def maxPendingWatches : Nat := 32
def serviceListPrefixBytes : Nat := 80
def serviceListRecordBytes : Nat := 168
def maxServiceListRecords : Nat := 2
def maxServiceListPages : Nat := 16

theorem maxClientReplay_pos : 0 < maxClientReplay := by decide

theorem maxPublicationReplay_pos : 0 < maxPublicationReplay := by decide

inductive MessageType where
  | installPublication
  | installClient
  | publish
  | published
  | retire
  | retired
  | lookupConnect
  | connectOffer
  | connected
  | enumerate
  | serviceList
  | watch
  | generationChanged
  | cancel
  | cancelled
  | error
deriving DecidableEq

structure Header where
  messageType : MessageType
  registryGeneration : Nat
  endpointId : Nat
  endpointGeneration : Nat
  transactionId : Nat
deriving DecidableEq

structure ProtocolVersion where
  major : Nat
  minor : Nat
deriving DecidableEq

/-- The derived order: major first. -/
def ProtocolVersion.lt (a b : ProtocolVersion) : Bool :=
  a.major < b.major || (a.major == b.major && a.minor < b.minor)

/-- Each version is below the next. -/
def ascending : List ProtocolVersion → Bool
  | a :: b :: rest => a.lt b && ascending (b :: rest)
  | _ => true

structure VersionList where
  toList : List ProtocolVersion
  nonempty : toList ≠ []
  length_le : toList.length ≤ maxProtocolVersions
  canonical : ascending toList = true
deriving DecidableEq

inductive EnumerationScope where
  | none
  | bootstrapMetadata
deriving DecidableEq

abbrev Name := List UInt8

structure InstallPublication where
  endpointId : Nat
  endpointGeneration : Nat
  supervisorRoleId : Nat
  publicationId : Nat
  serviceGeneration : Nat
  protocolId : Nat
  versions : VersionList
  serviceName : Name
deriving DecidableEq

structure InstallClient where
  endpointId : Nat
  endpointGeneration : Nat
  clientId : Nat
  clientGeneration : Nat
  scope : EnumerationScope
deriving DecidableEq

structure Lookup where
  protocolId : Nat
  version : ProtocolVersion
  serviceName : Name
deriving DecidableEq

structure Watch where
  protocolId : Nat
  lastObservedGeneration : Nat
  serviceName : Name
deriving DecidableEq

/-!
## The WRRG codec

`parse` and `decode_header` of `wyrmroot-registry-proto`, over lists of bytes. A slice index that the source leaves
unchecked panics when it is out of range; a `get` does not.
-/

inductive Error where
  | wrongSize
  | wrongMagic
  | unsupportedVersion
  | unknownMessageType
  | nonzeroFlags
  | nonzeroReserved
  | wrongHandleCount
  | zeroIdentity
  | wrongEndpointScope
  | invalidScope
  | invalidServiceName
  | invalidProtocolId
  | invalidVersionList
  | noncanonicalVersions
  | invalidServiceList
  | invalidErrorCode
deriving DecidableEq

inductive ErrorCode where
  | malformedRequest
  | correlationMismatch
  | wrongEndpointKind
  | transactionLive
  | transactionReplay
  | outstandingLimit
  | capacity
  | notPublished
  | unsupportedVersion
  | enumerationDenied
  | unknownTransaction
  | invalidState
  | forwardFailed
deriving DecidableEq

structure ParsedHeader where
  header : Header
  declaredSize : Nat
  declaredHandleCount : Nat
deriving DecidableEq

structure DecodedHeader where
  major : Nat
  minor : Nat
  messageType : Option MessageType
  flags : Nat
  declaredSize : Nat
  declaredHandleCount : Nat
  registryGeneration : Nat
  endpointId : Nat
  endpointGeneration : Nat
  transactionId : Nat
  reserved : Nat
deriving DecidableEq

structure ServiceListPage where
  bytes : List UInt8
  pageIndex : Nat
  pageCount : Nat
  recordCount : Nat
  totalCount : Nat
deriving DecidableEq

inductive Message where
  | installPublication (value : InstallPublication)
  | installClient (value : InstallClient)
  | publish
  | published
  | retire
  | retired
  | lookupConnect (value : Lookup)
  | connectOffer (value : Lookup)
  | connected
  | enumerate
  | serviceList (page : ServiceListPage)
  | watch (value : Watch)
  | generationChanged (serviceGeneration : Nat)
  | cancel (targetTransactionId : Nat)
  | cancelled (targetTransactionId : Nat)
  | error (code : ErrorCode)
deriving DecidableEq

structure ParsedMessage where
  header : Header
  message : Message
deriving DecidableEq

abbrev Parse (α : Type) := Outcome Error α

/-- The bytes of `WRRG`. -/
def magic : List UInt8 := [0x57, 0x52, 0x52, 0x47]

def MessageType.parse : Nat → Parse MessageType
  | 1 => .ok .installPublication
  | 2 => .ok .installClient
  | 3 => .ok .publish
  | 4 => .ok .published
  | 5 => .ok .retire
  | 6 => .ok .retired
  | 7 => .ok .lookupConnect
  | 8 => .ok .connectOffer
  | 9 => .ok .connected
  | 10 => .ok .enumerate
  | 11 => .ok .serviceList
  | 12 => .ok .watch
  | 13 => .ok .generationChanged
  | 14 => .ok .cancel
  | 15 => .ok .cancelled
  | 16 => .ok .error
  | _ => .err .unknownMessageType

def ErrorCode.parse : Nat → Parse ErrorCode
  | 1 => .ok .malformedRequest
  | 2 => .ok .correlationMismatch
  | 3 => .ok .wrongEndpointKind
  | 4 => .ok .transactionLive
  | 5 => .ok .transactionReplay
  | 6 => .ok .outstandingLimit
  | 7 => .ok .capacity
  | 8 => .ok .notPublished
  | 9 => .ok .unsupportedVersion
  | 10 => .ok .enumerationDenied
  | 11 => .ok .unknownTransaction
  | 12 => .ok .invalidState
  | 13 => .ok .forwardFailed
  | _ => .err .invalidErrorCode

/-! ## Reading -/

/-- `read_u16`, `read_u32`, `read_u64`: the `n`-byte integer at `offset`. -/
def readLE (n : Nat) (bytes : List UInt8) (offset : Nat) : Parse Nat :=
  match slice bytes offset n with
  | some s => .ok (leNat s)
  | none => .err .wrongSize

def readU16 := readLE 2
def readU32 := readLE 4
def readU64 := readLE 8

/-- `if c { return Err(e) }`. -/
def failIf (c : Bool) (e : Error) : Parse Unit :=
  if c then .err e else .ok ()

def isAsciiLowercase (b : UInt8) : Bool := 97 ≤ b.toNat && b.toNat ≤ 122

def isAsciiDigit (b : UInt8) : Bool := 48 ≤ b.toNat && b.toNat ≤ 57

/-- Lower-case letters, digits, `.` and `-`, starting with a letter. -/
def validateName (name : Name) : Parse Unit :=
  match name with
  | [] => .err .invalidServiceName
  | first :: rest =>
      if maxServiceNameBytes < name.length || !isAsciiLowercase first then
        .err .invalidServiceName
      else if rest.all fun b => isAsciiLowercase b || isAsciiDigit b || b == 46 || b == 45 then
        .ok ()
      else .err .invalidServiceName

/-- An underflow of the `u16` subtractions is a panic. -/
def validatePageShape (pageIndex pageCount totalCount recordCount : Nat) : Parse Unit := do
  let expectedPages := if totalCount = 0 then 1 else (totalCount + 1) / 2
  let expectedRecords ←
    if totalCount = 0 then .ok 0
    else if pageIndex + 1 < pageCount then .ok 2
    else if pageCount = 0 || totalCount < 2 * (pageCount - 1) then .panic
    else .ok (totalCount - 2 * (pageCount - 1))
  failIf (pageCount ≠ expectedPages || recordCount ≠ expectedRecords) .invalidServiceList

/-- The version at `offset`, both halves read. -/
def readVersion (bytes : List UInt8) (offset : Nat) : Parse ProtocolVersion := do
  let major ← readU16 bytes offset
  let minor ← readU16 bytes (offset + 2)
  pure { major, minor }

/-- `count` versions from `offset` on. -/
def readVersions (bytes : List UInt8) (offset : Nat) : Nat → Parse (List ProtocolVersion)
  | 0 => .ok []
  | count + 1 => do
      let version ← readVersion bytes offset
      let rest ← readVersions bytes (offset + 4) count
      pure (version :: rest)

/-- `VersionList { bytes }` once `validate_version_list` has passed. -/
def VersionList.ofBytes (bytes : List UInt8) : Parse VersionList := do
  let versions ← readVersions bytes 0 (bytes.length / 4)
  if h : versions ≠ [] ∧ versions.length ≤ maxProtocolVersions then
    if hc : ascending versions = true then .ok ⟨versions, h.1, h.2, hc⟩
    else .err .noncanonicalVersions
  else .err .invalidVersionList

def requireSize (bytes : List UInt8) (expected : Nat) : Parse Unit :=
  failIf (bytes.length ≠ expected) .wrongSize

def requireHandles (actual expected : Nat) : Parse Unit :=
  failIf (actual ≠ expected) .wrongHandleCount

def exactHeader (bytes : List UInt8) (handles : Nat) (value : Message) : Parse Message := do
  requireHandles handles 0
  requireSize bytes headerBytes
  pure value

def MessageType.onSupervisor : MessageType → Bool
  | .installPublication | .installClient => true
  | _ => false

def parseHeader (bytes : List UInt8) : Parse ParsedHeader := do
  failIf (bytes.length < headerBytes) .wrongSize
  let front ← sliceAt bytes 0 4
  failIf (front ≠ magic) .wrongMagic
  let major ← readU16 bytes 4
  let minor ← readU16 bytes 6
  failIf (major ≠ 1 || minor ≠ 0) .unsupportedVersion
  let code ← readU32 bytes 8
  let messageType ← MessageType.parse code
  let flags ← readU32 bytes 12
  failIf (flags ≠ 0) .nonzeroFlags
  let declaredSize ← readU32 bytes 16
  failIf (declaredSize ≠ bytes.length || declaredSize < headerBytes) .wrongSize
  let declaredHandleCount ← readU32 bytes 20
  let registryGeneration ← readU64 bytes 24
  let endpointId ← readU64 bytes 32
  let endpointGeneration ← readU64 bytes 40
  let transactionId ← readU64 bytes 48
  let reserved ← readU64 bytes 56
  failIf (reserved ≠ 0) .nonzeroReserved
  failIf (registryGeneration = 0 || transactionId = 0) .zeroIdentity
  if messageType.onSupervisor then
    failIf (endpointId ≠ 0 || endpointGeneration ≠ 0) .wrongEndpointScope
  else failIf (endpointId = 0 || endpointGeneration = 0) .wrongEndpointScope
  pure { header := { messageType, registryGeneration, endpointId, endpointGeneration,
                     transactionId },
         declaredSize, declaredHandleCount }

def decodeHeader (bytes : List UInt8) : Parse DecodedHeader := do
  failIf (bytes.length < headerBytes) .wrongSize
  let front ← sliceAt bytes 0 4
  failIf (front ≠ magic) .wrongMagic
  let transactionId ← readU64 bytes 48
  failIf (transactionId = 0) .zeroIdentity
  let major ← readU16 bytes 4
  let minor ← readU16 bytes 6
  let code ← readU32 bytes 8
  let flags ← readU32 bytes 12
  let declaredSize ← readU32 bytes 16
  let declaredHandleCount ← readU32 bytes 20
  let registryGeneration ← readU64 bytes 24
  let endpointId ← readU64 bytes 32
  let endpointGeneration ← readU64 bytes 40
  let reserved ← readU64 bytes 56
  let messageType :=
    match MessageType.parse code with
    | .ok t => some t
    | _ => none
  pure { major, minor, messageType, flags, declaredSize, declaredHandleCount,
         registryGeneration, endpointId, endpointGeneration, transactionId, reserved }

def parseInstallPublication (bytes : List UInt8) : Parse InstallPublication := do
  failIf (bytes.length < 124) .wrongSize
  let first ← readU32 bytes 84
  let second ← readU32 bytes 116
  failIf (first ≠ 0 || second ≠ 0) .nonzeroReserved
  let count ← readU16 bytes 112
  let nameLen ← readU16 bytes 114
  failIf (count < 1 || maxProtocolVersions < count) .invalidVersionList
  let versionsEnd := 120 + count * 4
  failIf (versionsEnd + nameLen ≠ bytes.length) .wrongSize
  let versionBytes ← sliceAt bytes 120 (versionsEnd - 120)
  let versions ← VersionList.ofBytes versionBytes
  let serviceName ← sliceFrom bytes versionsEnd
  validateName serviceName
  let endpointId ← readU64 bytes 64
  let endpointGeneration ← readU64 bytes 72
  let supervisorRoleId ← readU32 bytes 80
  let publicationId ← readU64 bytes 88
  let serviceGeneration ← readU64 bytes 96
  let protocolId ← readU64 bytes 104
  failIf (endpointId = 0 || endpointGeneration = 0 || supervisorRoleId = 0 || publicationId = 0
    || serviceGeneration = 0) .zeroIdentity
  failIf (protocolId = 0) .invalidProtocolId
  pure { endpointId, endpointGeneration, supervisorRoleId, publicationId, serviceGeneration,
         protocolId, versions, serviceName }

def parseInstallClient (bytes : List UInt8) : Parse InstallClient := do
  requireSize bytes 104
  let code ← readU32 bytes 96
  let scope ←
    match code with
    | 0 => .ok EnumerationScope.none
    | 1 => .ok EnumerationScope.bootstrapMetadata
    | _ => .err .invalidScope
  let reserved ← readU32 bytes 100
  failIf (reserved ≠ 0) .nonzeroReserved
  let endpointId ← readU64 bytes 64
  let endpointGeneration ← readU64 bytes 72
  let clientId ← readU64 bytes 80
  let clientGeneration ← readU64 bytes 88
  failIf (endpointId = 0 || endpointGeneration = 0 || clientId = 0 || clientGeneration = 0)
    .zeroIdentity
  pure { endpointId, endpointGeneration, clientId, clientGeneration, scope }

def parseLookup (bytes : List UInt8) : Parse Lookup := do
  failIf (bytes.length < 81) .wrongSize
  let nameLen ← readU16 bytes 76
  let reserved ← readU16 bytes 78
  failIf (reserved ≠ 0) .nonzeroReserved
  failIf (bytes.length ≠ 80 + nameLen) .wrongSize
  let protocolId ← readU64 bytes 64
  failIf (protocolId = 0) .invalidProtocolId
  let serviceName ← sliceFrom bytes 80
  validateName serviceName
  let version ← readVersion bytes 72
  pure { protocolId, version, serviceName }

def parseWatch (bytes : List UInt8) : Parse Watch := do
  failIf (bytes.length < 89) .wrongSize
  let nameLen ← readU16 bytes 80
  let first ← readU16 bytes 82
  let second ← readU32 bytes 84
  failIf (first ≠ 0 || second ≠ 0) .nonzeroReserved
  failIf (bytes.length ≠ 88 + nameLen) .wrongSize
  let protocolId ← readU64 bytes 64
  failIf (protocolId = 0) .invalidProtocolId
  let serviceName ← sliceFrom bytes 88
  validateName serviceName
  let lastObservedGeneration ← readU64 bytes 72
  pure { protocolId, lastObservedGeneration, serviceName }

/-- The four version fields of a record: the first `count` ascend, the rest
are zero. -/
def parseRecordVersions (bytes : List UInt8) (base count : Nat) : Parse Unit := do
  let versions ← readVersions bytes (base + 24) maxProtocolVersions
  let rec check : Nat → Option ProtocolVersion → List ProtocolVersion → Parse Unit
    | _, _, [] => .ok ()
    | index, previous, value :: rest =>
        if index < count then
          if previous.any fun prior => !prior.lt value then .err .noncanonicalVersions
          else check (index + 1) (some value) rest
        else if value ≠ ⟨0, 0⟩ then .err .invalidServiceList
        else check (index + 1) previous rest
  check 0 none versions

/-- One turn of the loop in `parse_service_list`: the record's name. -/
def parseRecord (bytes : List UInt8) (previous : Option Name) (index : Nat) : Parse Name := do
  let base := serviceListPrefixBytes + index * serviceListRecordBytes
  let protocolId ← readU64 bytes base
  let serviceGeneration ← readU64 bytes (base + 8)
  let nameLen ← readU16 bytes (base + 16)
  let versionCount ← byteAt bytes (base + 18)
  let first ← byteAt bytes (base + 19)
  let second ← readU32 bytes (base + 20)
  failIf (protocolId = 0 || serviceGeneration = 0 || first ≠ 0 || second ≠ 0
    || versionCount < 1 || maxProtocolVersions < versionCount
    || nameLen < 1 || maxServiceNameBytes < nameLen) .invalidServiceList
  parseRecordVersions bytes base versionCount
  let name ← sliceAt bytes (base + 40) nameLen
  validateName name
  let padding ← sliceAt bytes (base + 40 + nameLen) (serviceListRecordBytes - 40 - nameLen)
  failIf (padding.any (· ≠ 0) || previous.any fun prior => !decide (prior < name))
    .invalidServiceList
  pure name

def parseRecords (bytes : List UInt8) (previous : Option Name) (index : Nat) :
    Nat → Parse Unit
  | 0 => .ok ()
  | count + 1 => do
      let name ← parseRecord bytes previous index
      parseRecords bytes (some name) (index + 1) count

def parseServiceList (bytes : List UInt8) : Parse ServiceListPage := do
  failIf (bytes.length ≠ serviceListPrefixBytes
    && bytes.length ≠ serviceListPrefixBytes + serviceListRecordBytes
    && bytes.length ≠ serviceListPrefixBytes + 2 * serviceListRecordBytes) .wrongSize
  let pageIndex ← readU16 bytes 64
  let pageCount ← readU16 bytes 66
  let recordCount ← readU16 bytes 68
  let totalCount ← readU16 bytes 70
  let first ← readU32 bytes 72
  let second ← readU32 bytes 76
  failIf (first ≠ 0 || second ≠ 0) .nonzeroReserved
  failIf (maxServiceListRecords < recordCount || maxServiceListPages < pageCount
    || maxServices < totalCount || pageCount = 0 || pageCount ≤ pageIndex
    || bytes.length ≠ serviceListPrefixBytes + recordCount * serviceListRecordBytes)
    .invalidServiceList
  validatePageShape pageIndex pageCount totalCount recordCount
  parseRecords bytes none 0 recordCount
  pure { bytes, pageIndex, pageCount, recordCount, totalCount }

def parseTarget (bytes : List UInt8) (handles : Nat) : Parse Nat := do
  requireHandles handles 0
  requireSize bytes 72
  let target ← readU64 bytes 64
  failIf (target = 0) .zeroIdentity
  pure target

def parseBody (bytes : List UInt8) (handles : Nat) : MessageType → Parse Message
  | .installPublication => do
      requireHandles handles 1
      let value ← parseInstallPublication bytes
      pure (.installPublication value)
  | .installClient => do
      requireHandles handles 1
      let value ← parseInstallClient bytes
      pure (.installClient value)
  | .publish => exactHeader bytes handles .publish
  | .published => exactHeader bytes handles .published
  | .retire => exactHeader bytes handles .retire
  | .retired => exactHeader bytes handles .retired
  | .lookupConnect => do
      requireHandles handles 1
      let value ← parseLookup bytes
      pure (.lookupConnect value)
  | .connectOffer => do
      requireHandles handles 1
      let value ← parseLookup bytes
      pure (.connectOffer value)
  | .connected => exactHeader bytes handles .connected
  | .enumerate => exactHeader bytes handles .enumerate
  | .serviceList => do
      requireHandles handles 0
      let page ← parseServiceList bytes
      pure (.serviceList page)
  | .watch => do
      requireHandles handles 0
      let value ← parseWatch bytes
      pure (.watch value)
  | .generationChanged => do
      requireHandles handles 0
      requireSize bytes 72
      let generation ← readU64 bytes 64
      pure (.generationChanged generation)
  | .cancel => do
      let target ← parseTarget bytes handles
      pure (.cancel target)
  | .cancelled => do
      let target ← parseTarget bytes handles
      pure (.cancelled target)
  | .error => do
      requireHandles handles 0
      requireSize bytes 72
      let reserved ← readU32 bytes 68
      failIf (reserved ≠ 0) .nonzeroReserved
      let raw ← readU32 bytes 64
      let code ← ErrorCode.parse raw
      pure (.error code)

def parse (bytes : List UInt8) (receivedHandleCount : Nat) : Parse ParsedMessage := do
  let framing ← parseHeader bytes
  failIf (framing.declaredHandleCount ≠ receivedHandleCount) .wrongHandleCount
  let message ← parseBody bytes receivedHandleCount framing.header.messageType
  pure { header := framing.header, message }

end Wyrmroot.Registry
