import Wyrmroot.Lib.Codec
import Wyrmroot.Lib.Mask
import Wyrmroot.Bootfs.Archive
import Wyrmroot.Startup.Block

/-!
# The WRRM manifest

`wyrmroot-rrc-manifest/src/format.rs`: a header, one record a role, one record
an edge, and the strings. A `Manifest` borrows the bytes; its roles and edges
are read again at every access, and an access to a record that was not
validated panics. An index or a sum outside the bytes is a panic too, so what
never panics never overflows either.
-/

namespace Wyrmroot.Rrc

open Outcome
open Bootfs (ArchivePath)
open Loader (checkedAdd)
open Startup (checkedMul)

def headerSize : Nat := 80
def roleRecordSize : Nat := 96
def edgeRecordSize : Nat := 32
def maxRoles : Nat := 16
def maxEdges : Nat := 64
def maxPathBytes : Nat := 256
def maxJustificationBytes : Nat := 512
def maxStringBytes : Nat := 16 * 1024
def maxTotalBytes : Nat := 64 * 1024

/-- `*b"WRRM"`. -/
def magic : List UInt8 := [87, 82, 82, 77]

def major : UInt16 := 1
def minor : UInt16 := 0
def roleFlagRequired : UInt32 := 1
def roleFlagRequiresReady : UInt32 := 2
def roleFlagsMask : UInt32 := roleFlagRequired ||| roleFlagRequiresReady
def edgeFlagRequired : UInt16 := 1
def residencyRrcA : UInt16 := 1
def restartPolicyFiniteWyr1 : UInt16 := 1

inductive RoleId where
  | registryd
  | devmgr
  | uart16550d
  | consoled
  | wyrmsh
deriving DecidableEq, Ord

inductive Activation where
  | early
  | deviceBound
  | consoleBound
deriving DecidableEq

inductive StartupProfile where
  | retained
  | earlyBootStub
  | bootstrapRegistry
  | deviceCoordinator
  | wyrmsh
deriving DecidableEq

inductive DependencyKind where
  | executable
  | config
  | runtime
  | firmware
  | roleReady
deriving DecidableEq, Ord

inductive ParseError where
  | truncatedHeader
  | manifestTooLarge
  | wrongMagic
  | unsupportedVersion
  | wrongHeaderSize
  | wrongRoleRecordSize
  | wrongEdgeRecordSize
  | nonzeroHeaderReserved
  | nonzeroHeaderFlags
  | wrongTotalSize
  | roleCountOutOfRange
  | edgeCountOutOfRange
  | stringBytesOutOfRange
  | sizeOverflow
  | wrongSectionOffset
  | zeroBootGenerationIdentity
  | bootGenerationIdentityMismatch
  | unknownRoleId
  | noncanonicalRoleOrder
  | invalidRoleFlags
  | unsupportedResidency
  | unknownActivation
  | unsupportedRestartPolicy
  | unknownStartupProfile
  | activationProfileMismatch
  | invalidPathLength
  | invalidJustificationLength
  | nonzeroRoleReserved
  | zeroExecutableIdentity
  | invalidRoleEdgeRange
  | duplicateRolePath
  | stringOutOfRange
  | invalidUtf8
  | invalidPath
  | noncanonicalStringLayout
  | nonzeroEdgeReserved
  | wrongEdgeOwner
  | unknownDependencyKind
  | invalidEdgeFlags
  | invalidEdgeTarget
  | missingRoleDependency
  | noncanonicalEdgeOrder
  | dependencyCycle
deriving DecidableEq

abbrev ManifestCheck := Outcome ParseError

/-- `.expect(..)` on a result. -/
def expect {α : Type} : ManifestCheck α → ManifestCheck α
  | .ok a => .ok a
  | _ => .panic

namespace RoleId

/-- `self as u32`. -/
def toNat : RoleId → Nat
  | .registryd => 1
  | .devmgr => 2
  | .uart16550d => 3
  | .consoled => 4
  | .wyrmsh => 5

def fromWire (value : UInt32) : ManifestCheck RoleId :=
  if value = 1 then .ok .registryd
  else if value = 2 then .ok .devmgr
  else if value = 3 then .ok .uart16550d
  else if value = 4 then .ok .consoled
  else if value = 5 then .ok .wyrmsh
  else .err .unknownRoleId

end RoleId

def Activation.fromWire (value : UInt16) : ManifestCheck Activation :=
  if value = 1 then .ok .early
  else if value = 2 then .ok .deviceBound
  else if value = 3 then .ok .consoleBound
  else .err .unknownActivation

def StartupProfile.fromWire (value : UInt16) : ManifestCheck StartupProfile :=
  if value = 0 then .ok .retained
  else if value = 1 then .ok .earlyBootStub
  else if value = 2 then .ok .bootstrapRegistry
  else if value = 3 then .ok .deviceCoordinator
  else if value = 4 then .ok .wyrmsh
  else .err .unknownStartupProfile

def DependencyKind.fromWire (value : UInt16) : ManifestCheck DependencyKind :=
  if value = 1 then .ok .executable
  else if value = 2 then .ok .config
  else if value = 3 then .ok .runtime
  else if value = 4 then .ok .firmware
  else if value = 5 then .ok .roleReady
  else .err .unknownDependencyKind

def validateActivationProfile : Activation → StartupProfile → ManifestCheck Unit
  | .early, .earlyBootStub => .ok ()
  | .early, .bootstrapRegistry => .ok ()
  | .early, .deviceCoordinator => .ok ()
  | .deviceBound, .retained => .ok ()
  | .consoleBound, .retained => .ok ()
  | .consoleBound, .wyrmsh => .ok ()
  | _, _ => .err .activationProfileMismatch

/-- `&[u8; 32]` at an offset; a slice of 32 bytes always converts. -/
def array32 (bytes : List UInt8) (offset : Nat) : ManifestCheck (List UInt8) :=
  sliceAt bytes offset 32

def isZeroIdentity (identity : List UInt8) : Bool := identity.all fun byte => byte = 0

/-- A `u32` always fits a `usize`. -/
def toUsize (value : UInt32) : ManifestCheck Nat := .ok value.toNat

structure Manifest where
  bytes : List UInt8
  roleCount : Nat
  edgeCount : Nat
  edgesOffset : Nat
  stringsOffset : Nat
deriving DecidableEq

structure Role where
  manifest : Manifest
  index : Nat
deriving DecidableEq

structure DependencyEdge where
  manifest : Manifest
  index : Nat
deriving DecidableEq

namespace Manifest

def roleAt (self : Manifest) (index : Nat) : Role := ⟨self, index⟩

def edgeAt (self : Manifest) (index : Nat) : DependencyEdge := ⟨self, index⟩

def roleBytes (self : Manifest) (index : Nat) : ManifestCheck (List UInt8) :=
  sliceAt self.bytes (headerSize + index * roleRecordSize) roleRecordSize

def edgeBytes (self : Manifest) (index : Nat) : ManifestCheck (List UInt8) :=
  sliceAt self.bytes (self.edgesOffset + index * edgeRecordSize) edgeRecordSize

def string (self : Manifest) (relativeOffset len stringBytes : Nat) :
    ManifestCheck (List UInt8) := do
  let stop ← okOr (checkedAdd relativeOffset len) .sizeOverflow
  rejectIf (stringBytes < stop) .stringOutOfRange
  sliceAt self.bytes (self.stringsOffset + relativeOffset) (stop - relativeOffset)

/-- `str::from_utf8` of the string at an offset, expected to be one. -/
def text (self : Manifest) (offset len : Nat) : ManifestCheck String := do
  let bytes ← sliceAt self.bytes (self.stringsOffset + offset) len
  unwrap (fromUtf8 bytes)

/-- The roles the iterator yields. -/
def roles (self : Manifest) : List Role := (List.range self.roleCount).map self.roleAt

/-- The edges an iterator from `index` to `stop` yields. -/
def edgesBetween (self : Manifest) (index stop : Nat) : List DependencyEdge :=
  (List.range' index (stop - index)).map self.edgeAt

def edges (self : Manifest) : List DependencyEdge := self.edgesBetween 0 self.edgeCount

end Manifest

namespace Role

def bytes (self : Role) : ManifestCheck (List UInt8) := self.manifest.roleBytes self.index

def id (self : Role) : ManifestCheck RoleId := do
  expect (RoleId.fromWire (← get32 (← self.bytes) 0))

def required (self : Role) : ManifestCheck Bool := do
  pure ((← get32 (← self.bytes) 4) &&& roleFlagRequired ≠ 0)

def requiresReady (self : Role) : ManifestCheck Bool := do
  pure ((← get32 (← self.bytes) 4) &&& roleFlagRequiresReady ≠ 0)

def activation (self : Role) : ManifestCheck Activation := do
  expect (Activation.fromWire (← get16 (← self.bytes) 10))

def startupProfile (self : Role) : ManifestCheck StartupProfile := do
  expect (StartupProfile.fromWire (← get16 (← self.bytes) 14))

def path (self : Role) : ManifestCheck String := do
  let record ← self.bytes
  self.manifest.text (← get32 record 16).toNat (← get16 record 20).toNat

def justification (self : Role) : ManifestCheck String := do
  let record ← self.bytes
  self.manifest.text (← get32 record 24).toNat (← get16 record 28).toNat

def executableIdentity (self : Role) : ManifestCheck (List UInt8) := do
  array32 (← self.bytes) 40

/-- The range of its edges, as `start` and `end`. -/
def edgeRange (self : Role) : ManifestCheck (Nat × Nat) := do
  let record ← self.bytes
  let start := (← get16 record 32).toNat
  pure (start, start + (← get16 record 34).toNat)

def edges (self : Role) : ManifestCheck (List DependencyEdge) := do
  let (start, stop) ← self.edgeRange
  pure (self.manifest.edgesBetween start stop)

end Role

namespace DependencyEdge

def bytes (self : DependencyEdge) : ManifestCheck (List UInt8) := self.manifest.edgeBytes self.index

def owner (self : DependencyEdge) : ManifestCheck RoleId := do
  expect (RoleId.fromWire (← get32 (← self.bytes) 0))

def kind (self : DependencyEdge) : ManifestCheck DependencyKind := do
  expect (DependencyKind.fromWire (← get16 (← self.bytes) 4))

def targetRole (self : DependencyEdge) : ManifestCheck (Option RoleId) := do
  let raw ← get32 (← self.bytes) 8
  if raw = 0 then pure none else some <$> expect (RoleId.fromWire raw)

def targetPath (self : DependencyEdge) : ManifestCheck (Option String) := do
  let record ← self.bytes
  let len := (← get16 record 16).toNat
  if len = 0 then pure none
  else some <$> self.manifest.text (← get32 record 12).toNat len

end DependencyEdge

namespace Manifest

/-- `roles.find(|role| role.id() == role_id)`. -/
def findRole (roleId : RoleId) : List Role → ManifestCheck (Option Role)
  | [] => pure none
  | role :: rest => do
      if (← role.id) = roleId then pure (some role) else findRole roleId rest

def role (self : Manifest) (roleId : RoleId) : ManifestCheck (Option Role) :=
  findRole roleId self.roles

/-- The loop of `owner_for_edge`. -/
def findOwner (edgeIndex : Nat) : List Role → ManifestCheck RoleId
  | [] => .err .invalidRoleEdgeRange
  | role :: rest => do
      let (start, stop) ← role.edgeRange
      if start ≤ edgeIndex ∧ edgeIndex < stop then role.id else findOwner edgeIndex rest

def ownerForEdge (self : Manifest) (edgeIndex : Nat) : ManifestCheck RoleId :=
  findOwner edgeIndex self.roles

/-! ## The records -/

/-- What the loop over the roles carries. -/
structure RoleScan where
  stringCursor : Nat
  expectedFirstEdge : Nat
  previousRoleId : Option RoleId
deriving DecidableEq

/-- A turn of the loop over the roles. -/
def checkRole (self : Manifest) (stringBytes roleIndex : Nat) (scan : RoleScan) :
    ManifestCheck RoleScan := do
  let record ← self.roleBytes roleIndex
  let roleId ← RoleId.fromWire (← get32 record 0)
  rejectIf (scan.previousRoleId.any fun previous => roleId.toNat ≤ previous.toNat)
    .noncanonicalRoleOrder
  rejectIf ((← get32 record 4) &&& ~~~roleFlagsMask ≠ 0) .invalidRoleFlags
  rejectIf ((← get16 record 8) ≠ residencyRrcA) .unsupportedResidency
  let activation ← Activation.fromWire (← get16 record 10)
  rejectIf ((← get16 record 12) ≠ restartPolicyFiniteWyr1) .unsupportedRestartPolicy
  let profile ← StartupProfile.fromWire (← get16 record 14)
  validateActivationProfile activation profile
  rejectIf ((← get16 record 22) ≠ 0 || (← get16 record 30) ≠ 0 || (← get32 record 36) ≠ 0
    || (← sliceAt record 72 24).any fun byte => byte ≠ 0) .nonzeroRoleReserved
  rejectIf (isZeroIdentity (← array32 record 40)) .zeroExecutableIdentity
  let pathOffset ← toUsize (← get32 record 16)
  let pathLen := (← get16 record 20).toNat
  rejectIf (!(1 ≤ pathLen && pathLen ≤ maxPathBytes)) .invalidPathLength
  rejectIf (pathOffset ≠ scan.stringCursor) .noncanonicalStringLayout
  let path ← self.string pathOffset pathLen stringBytes
  let _ ← okOr (fromUtf8 path) .invalidUtf8
  let _ ← (ArchivePath.new path).mapErr fun _ => ParseError.invalidPath
  let stringCursor ← okOr (checkedAdd scan.stringCursor pathLen) .sizeOverflow
  let justificationOffset ← toUsize (← get32 record 24)
  let justificationLen := (← get16 record 28).toNat
  rejectIf (!(1 ≤ justificationLen && justificationLen ≤ maxJustificationBytes))
    .invalidJustificationLength
  rejectIf (justificationOffset ≠ stringCursor) .noncanonicalStringLayout
  let justification ← self.string justificationOffset justificationLen stringBytes
  let _ ← okOr (fromUtf8 justification) .invalidUtf8
  let stringCursor ← okOr (checkedAdd stringCursor justificationLen) .sizeOverflow
  let firstEdge := (← get16 record 32).toNat
  let roleEdgeCount := (← get16 record 34).toNat
  let edgeEnd ← okOr (checkedAdd firstEdge roleEdgeCount) .sizeOverflow
  rejectIf (firstEdge ≠ scan.expectedFirstEdge || self.edgeCount < edgeEnd) .invalidRoleEdgeRange
  pure { stringCursor, expectedFirstEdge := edgeEnd, previousRoleId := some roleId }

/-- A turn of the inner loop over the paths. -/
def checkPathPair (self : Manifest) (left right : Nat) : ManifestCheck Unit := do
  rejectIf (utf8 (← (self.roleAt left).path) = utf8 (← (self.roleAt right).path)) .duplicateRolePath

def checkPaths (self : Manifest) : ManifestCheck Unit :=
  forRange (fun left _ => forRange (fun right _ => self.checkPathPair left right) (left + 1)
    (self.roleCount - (left + 1)) ()) 0 self.roleCount ()

structure EdgeKey where
  owner : RoleId
  kind : DependencyKind
  targetRole : Option RoleId
  targetPath : List UInt8
deriving DecidableEq

/-- `cmp`, in the order of the tuple. -/
def EdgeKey.cmp (self other : EdgeKey) : Ordering :=
  (compare self.owner other.owner).then <| (compare self.kind other.kind).then <|
    (compare self.targetRole other.targetRole).then (compare self.targetPath other.targetPath)

structure EdgeScan where
  stringCursor : Nat
  previousEdge : Option EdgeKey
deriving DecidableEq

/-- The target of an edge and the string cursor behind it. -/
def checkTarget (self : Manifest) (stringBytes stringCursor : Nat) (kind : DependencyKind)
    (targetRoleRaw : UInt32) (targetPathOffset targetPathLen : Nat) :
    ManifestCheck (Option RoleId × List UInt8 × Nat) :=
  if kind = .roleReady then do
    rejectIf (targetRoleRaw = 0 || targetPathLen ≠ 0) .invalidEdgeTarget
    let target ← RoleId.fromWire targetRoleRaw
    rejectIf (← self.role target).isNone .missingRoleDependency
    pure (some target, [], stringCursor)
  else do
    rejectIf (targetRoleRaw ≠ 0 || !(1 ≤ targetPathLen && targetPathLen ≤ maxPathBytes))
      .invalidEdgeTarget
    let targetPath ← self.string targetPathOffset targetPathLen stringBytes
    let _ ← okOr (fromUtf8 targetPath) .invalidUtf8
    let _ ← (ArchivePath.new targetPath).mapErr fun _ => ParseError.invalidPath
    let stringCursor ← okOr (checkedAdd stringCursor targetPathLen) .sizeOverflow
    pure (none, targetPath, stringCursor)

/-- A turn of the loop over the edges. -/
def checkEdge (self : Manifest) (stringBytes edgeIndex : Nat) (scan : EdgeScan) :
    ManifestCheck EdgeScan := do
  let record ← self.edgeBytes edgeIndex
  rejectIf ((← sliceAt record 18 14).any fun byte => byte ≠ 0) .nonzeroEdgeReserved
  let owner ← RoleId.fromWire (← get32 record 0)
  let expectedOwner ← self.ownerForEdge edgeIndex
  rejectIf (owner ≠ expectedOwner) .wrongEdgeOwner
  let kind ← DependencyKind.fromWire (← get16 record 4)
  rejectIf ((← get16 record 6) ≠ edgeFlagRequired) .invalidEdgeFlags
  let targetRoleRaw ← get32 record 8
  let targetPathOffset ← toUsize (← get32 record 12)
  let targetPathLen := (← get16 record 16).toNat
  rejectIf (targetPathOffset ≠ scan.stringCursor) .noncanonicalStringLayout
  let (targetRole, targetPath, stringCursor) ← self.checkTarget stringBytes scan.stringCursor kind
    targetRoleRaw targetPathOffset targetPathLen
  let key := { owner, kind, targetRole, targetPath }
  rejectIf (scan.previousEdge.any fun previous => EdgeKey.cmp key previous ≠ .gt)
    .noncanonicalEdgeOrder
  pure { stringCursor, previousEdge := some key }

/-- `validate_records` up to the search for cycles. -/
def checkRecords (self : Manifest) (stringBytes : Nat) : ManifestCheck Unit := do
  let scan ← forRange (self.checkRole stringBytes) 0 self.roleCount ⟨0, 0, none⟩
  rejectIf (scan.expectedFirstEdge ≠ self.edgeCount) .invalidRoleEdgeRange
  self.checkPaths
  let edgeScan ← forRange (self.checkEdge stringBytes) 0 self.edgeCount ⟨scan.stringCursor, none⟩
  rejectIf (edgeScan.stringCursor ≠ stringBytes) .noncanonicalStringLayout

/-! ## The search for cycles -/

/-- `1u32 << (role as u32 - 1)`. -/
def roleBit (role : RoleId) : BitVec 32 := Mask.bit 32 (role.toNat - 1)

/-- The targets of the role a search starts at. -/
def targetBits (frontier : BitVec 32) : List DependencyEdge → ManifestCheck (BitVec 32)
  | [] => pure frontier
  | edge :: rest => do
      match ← edge.targetRole with
      | some target => targetBits (frontier ||| roleBit target) rest
      | none => targetBits frontier rest

/-- The targets of a role the search has reached. -/
def expand (startBit visited frontier : BitVec 32) :
    List DependencyEdge → ManifestCheck (BitVec 32)
  | [] => pure frontier
  | edge :: rest => do
      match ← edge.targetRole with
      | none => expand startBit visited frontier rest
      | some target =>
          if roleBit target = startBit then .err .dependencyCycle
          else if visited &&& roleBit target = 0 then
            expand startBit visited (frontier ||| roleBit target) rest
          else expand startBit visited frontier rest

/-- `while frontier != 0`. A turn either takes a role out of the frontier or
puts one more into `visited`. -/
def search (self : Manifest) (startBit visited frontier : BitVec 32) : ManifestCheck Unit :=
  if _ : frontier = 0 then .ok ()
  else
    let bit := Mask.trailingZeros frontier
    if Mask.bit 32 bit = startBit then .err .dependencyCycle
    else if _ : visited &&& Mask.bit 32 bit ≠ 0 then
      search self startBit visited (Mask.clear frontier bit)
    else do
      let roleId ← RoleId.fromWire (UInt32.ofNat (bit + 1))
      let role ← okOr (← self.role roleId) .missingRoleDependency
      let frontier ← expand startBit (visited ||| Mask.bit 32 bit) (Mask.clear frontier bit)
        (← role.edges)
      search self startBit (visited ||| Mask.bit 32 bit) frontier
termination_by (2 ^ 32 - visited.toNat, frontier.toNat)
decreasing_by
  · exact Prod.Lex.right _ (Mask.toNat_clear_lt (Mask.getLsbD_trailingZeros ‹¬ frontier = 0›))
  · rename_i frontier hfrontier _ hvisited
    have hbit := Mask.lt_of_getLsbD (Mask.getLsbD_trailingZeros hfrontier)
    have hlt := Mask.lt_toNat_or_bit hbit ((Mask.and_bit_eq_zero hbit).mp (not_not.mp hvisited))
    have := (visited ||| Mask.bit 32 (Mask.trailingZeros frontier)).isLt
    exact Prod.Lex.left _ _ (by omega)

/-- The loop over the roles a search starts at. -/
def searchFrom (self : Manifest) : List Role → ManifestCheck Unit
  | [] => pure ()
  | start :: rest => do
      let startBit := roleBit (← start.id)
      let frontier ← targetBits 0 (← start.edges)
      self.search startBit startBit frontier
      self.searchFrom rest

def validateAcyclicRoleDependencies (self : Manifest) : ManifestCheck Unit :=
  self.searchFrom self.roles

def validateRecords (self : Manifest) (stringBytes : Nat) : ManifestCheck Unit := do
  self.checkRecords stringBytes
  self.validateAcyclicRoleDependencies

/-! ## The header -/

/-- `parse_structural` up to the records: the manifest and the size of its strings. -/
def header (bytes : List UInt8) (expectedBootGeneration : Vector UInt8 32) :
    ManifestCheck (Manifest × Nat) := do
  rejectIf (maxTotalBytes < bytes.length) .manifestTooLarge
  rejectIf (bytes.length < headerSize) .truncatedHeader
  rejectIf ((← sliceAt bytes 0 4) ≠ magic) .wrongMagic
  rejectIf ((← get16 bytes 4) ≠ major || (← get16 bytes 6) ≠ minor) .unsupportedVersion
  rejectIf ((← get16 bytes 8).toNat ≠ headerSize) .wrongHeaderSize
  rejectIf ((← get16 bytes 10).toNat ≠ roleRecordSize) .wrongRoleRecordSize
  rejectIf ((← get16 bytes 12).toNat ≠ edgeRecordSize) .wrongEdgeRecordSize
  rejectIf ((← get16 bytes 14) ≠ 0 || (← get32 bytes 44) ≠ 0) .nonzeroHeaderReserved
  rejectIf ((← get32 bytes 16) ≠ 0) .nonzeroHeaderFlags
  let totalSize ← toUsize (← get32 bytes 20)
  rejectIf (totalSize ≠ bytes.length) .wrongTotalSize
  let roleCount := (← get16 bytes 24).toNat
  rejectIf (!(1 ≤ roleCount && roleCount ≤ maxRoles)) .roleCountOutOfRange
  let edgeCount := (← get16 bytes 26).toNat
  rejectIf (maxEdges < edgeCount) .edgeCountOutOfRange
  let stringBytes ← toUsize (← get32 bytes 28)
  rejectIf (maxStringBytes < stringBytes) .stringBytesOutOfRange
  let roleBytes ← okOr (checkedMul roleCount roleRecordSize) .sizeOverflow
  let expectedEdgesOffset ← okOr (checkedAdd headerSize roleBytes) .sizeOverflow
  let edgeBytes ← okOr (checkedMul edgeCount edgeRecordSize) .sizeOverflow
  let expectedStringsOffset ← okOr (checkedAdd expectedEdgesOffset edgeBytes) .sizeOverflow
  let expectedTotal ← okOr (checkedAdd expectedStringsOffset stringBytes) .sizeOverflow
  rejectIf ((← toUsize (← get32 bytes 32)) ≠ headerSize
    || (← toUsize (← get32 bytes 36)) ≠ expectedEdgesOffset
    || (← toUsize (← get32 bytes 40)) ≠ expectedStringsOffset) .wrongSectionOffset
  rejectIf (expectedTotal ≠ bytes.length) .wrongTotalSize
  let encodedBootGeneration ← array32 bytes 48
  rejectIf (isZeroIdentity encodedBootGeneration) .zeroBootGenerationIdentity
  rejectIf (isZeroIdentity expectedBootGeneration.toList
    || encodedBootGeneration ≠ expectedBootGeneration.toList) .bootGenerationIdentityMismatch
  pure ({ bytes, roleCount, edgeCount, edgesOffset := expectedEdgesOffset,
          stringsOffset := expectedStringsOffset }, stringBytes)

def parseStructural (bytes : List UInt8) (expectedBootGeneration : Vector UInt8 32) :
    ManifestCheck Manifest := do
  let (manifest, stringBytes) ← header bytes expectedBootGeneration
  manifest.validateRecords stringBytes
  pure manifest

end Manifest

end Wyrmroot.Rrc
