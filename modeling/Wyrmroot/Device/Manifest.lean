import Wyrmroot.Lib.Yields
import Wyrmroot.Startup.Block

/-!
# The device-role manifest

The parsed manifest of `wyrmroot-device-proto/src/manifest.rs` and the one
role it may name: `match_com2` checks a record against the fixed COM2 policy.
Identities are `u64` or `u32` newtypes in the source; nothing computes with
them, so they are `Nat`.
-/

namespace Wyrmroot.Device

open Outcome
open Loader (checkedAdd)
open Startup (checkedMul)

def maxRecords : Nat := 4

/-- `[u8; 32]`. -/
abbrev ContentIdentity := Vector UInt8 32

structure PioRange where
  base : Nat
  length : Nat
deriving DecidableEq

inductive Hardware where
  | com1
  | com2
deriving DecidableEq

inductive ResourceKind where
  | pioInterrupt
deriving DecidableEq

structure DeviceRole where
  roleId : Nat
  hardware : Hardware
  resourceKind : ResourceKind
  pio : PioRange
  irq : Nat
  driverPath : List UInt8
  contentIdentity : ContentIdentity
  metadataPolicy : Nat
deriving DecidableEq

inductive ManifestError where
  | wrongSize
  | wrongMagic
  | wrongVersion
  | wrongProfile
  | nonzeroReserved
  | nonzeroObjectPadding
  | zeroRole
  | unknownHardware
  | unknownResourceKind
  | zeroPioLength
  | pioRangeOverflow
  | zeroIrq
  | zeroContentIdentity
  | zeroMetadataPolicy
  | pathEmpty
  | pathTooLong
  | nonzeroPathPadding
  | duplicateRole
  | duplicateIrq
  | overlappingPio
  | unexpectedRoleCount
  | unknownRole
  | com1Rejected
  | wrongResource
  | wrongDriverPath
  | wrongMetadataPolicy
  | wrongContentIdentity
deriving DecidableEq

/-- `b"system/uart16550d"`. -/
def uart16550dPath : List UInt8 :=
  [115, 121, 115, 116, 101, 109, 47, 117, 97, 114, 116, 49, 54, 53, 53, 48, 100]

structure Com2Policy where
  roleId : Nat
  profile : Nat
  profileVersion : Nat
  pio : PioRange
  irq : Nat
  driverPath : List UInt8
  metadataPolicy : Nat

def com2Policy : Com2Policy where
  roleId := 1
  profile := 1
  profileVersion := 1
  pio := ⟨0x2f8, 8⟩
  irq := 3
  driverPath := uart16550dPath
  metadataPolicy := 1

structure Manifest where
  profile : Nat
  profileVersion : Nat
  records : Vector (Option DeviceRole) maxRecords
  count : Nat

namespace Manifest

/-- Admit the one role, checking the complete fixed policy. -/
def matchCom2 (self : Manifest) (expectedContent : ContentIdentity) :
    Outcome ManifestError DeviceRole := do
  rejectIf (self.count ≠ 1) .unexpectedRoleCount
  let role ← okOr (self.records.get ⟨0, by decide⟩) .wrongSize
  rejectIf (role.roleId ≠ com2Policy.roleId) .unknownRole
  rejectIf (role.hardware ≠ .com2) .com1Rejected
  rejectIf (role.resourceKind ≠ .pioInterrupt || role.pio ≠ com2Policy.pio
    || role.irq ≠ com2Policy.irq) .wrongResource
  rejectIf (role.driverPath ≠ com2Policy.driverPath) .wrongDriverPath
  rejectIf (role.metadataPolicy ≠ com2Policy.metadataPolicy) .wrongMetadataPolicy
  rejectIf (role.contentIdentity ≠ expectedContent) .wrongContentIdentity
  pure role

theorem matchCom2_ne_panic (self : Manifest) (expectedContent : ContentIdentity) :
    self.matchCom2 expectedContent ≠ .panic := by
  refine bind_ne_panic (rejectIf_ne_panic _ _) fun _ _ => ?_
  refine bind_ne_panic (okOr_ne_panic _ _) fun role _ => ?_
  iterate 5 refine bind_ne_panic (rejectIf_ne_panic _ _) fun _ _ => ?_
  exact bind_ne_panic (rejectIf_ne_panic _ _) fun _ _ => pure_ne_panic role

theorem matchCom2_eq_ok {self : Manifest} {expectedContent : ContentIdentity} {role : DeviceRole}
    (h : self.matchCom2 expectedContent = .ok role) :
    role = { roleId := com2Policy.roleId, hardware := .com2, resourceKind := .pioInterrupt,
             pio := com2Policy.pio, irq := com2Policy.irq, driverPath := com2Policy.driverPath,
             contentIdentity := expectedContent, metadataPolicy := com2Policy.metadataPolicy } := by
  simp only [matchCom2, bind_eq_ok, rejectIf_eq_ok, okOr_eq_ok, decide_eq_false_iff_not, not_not,
    ne_eq, Bool.or_eq_false_iff, exists_const] at h
  obtain ⟨-, found, -, hrole, hhardware, ⟨⟨hkind, hpio⟩, hirq⟩, hpath, hpolicy, hcontent, hsame⟩ := h
  obtain rfl := Outcome.ok.inj hsame
  cases found
  simp_all

end Manifest

/-!
## Parsing the device-role manifest

The two parsers and the encoder of `wyrmroot-device-proto/src/manifest.rs`. A
driver's manifest is handed over in pages, so `parsePadded` takes the length
from the header and asks for zeros behind it.
-/

/-- `b"WRDM"`. -/
def manifestMagic : List UInt8 := [87, 82, 68, 77]

def manifestMajor : Nat := 1
def manifestMinor : Nat := 0
def manifestHeaderBytes : Nat := 32
def manifestRecordBytes : Nat := 144
def maxDriverPathBytes : Nat := 64

def profileQ35 : Nat := 1
def profileQ35Version : Nat := 1

abbrev ManifestParse (α : Type) := Outcome ManifestError α

/-- `PioRange::end`: a sum of two `u16` in a `u32`. -/
def PioRange.stop (self : PioRange) : Nat := self.base + self.length

/-- `as_range().any(|port| other.as_range().contains(&port))`. -/
def PioRange.meets (self other : PioRange) : Bool :=
  (List.range' self.base self.length).any fun port => other.base ≤ port && port < other.stop

def Hardware.fromWire : Nat → Option Hardware
  | 1 => some .com1
  | 2 => some .com2
  | _ => none

def ResourceKind.fromWire : Nat → Option ResourceKind
  | 1 => some .pioInterrupt
  | _ => none

/-- `iter().any(|byte| *byte != 0)`. -/
def anyNonzero (bytes : List UInt8) : Bool := bytes.any fun byte => byte ≠ 0

def contentAt (bytes : List UInt8) (offset : Nat) : ManifestParse ContentIdentity := do
  let content ← sliceAt bytes offset 32
  if h : content.length = 32 then .ok ⟨content.toArray, h⟩ else .panic

def parseRecord (bytes : List UInt8) (base : Nat) : ManifestParse DeviceRole := do
  let roleId ← getLE 8 bytes base
  rejectIf (roleId = 0) .zeroRole
  let hardware ← okOr (Hardware.fromWire (← getLE 4 bytes (base + 8))) .unknownHardware
  let resourceKind ← okOr (ResourceKind.fromWire (← getLE 4 bytes (base + 12)))
    .unknownResourceKind
  let pioBase ← getLE 2 bytes (base + 16)
  let pioLength ← getLE 2 bytes (base + 18)
  rejectIf (pioLength = 0) .zeroPioLength
  rejectIf (0x10000 < pioBase + pioLength) .pioRangeOverflow
  let irq ← getLE 4 bytes (base + 20)
  rejectIf (irq = 0) .zeroIrq
  let pathLen ← getLE 2 bytes (base + 24)
  rejectIf (pathLen = 0) .pathEmpty
  rejectIf (maxDriverPathBytes < pathLen) .pathTooLong
  let reserved ← getLE 2 bytes (base + 26)
  rejectIf (reserved ≠ 0) .nonzeroReserved
  rejectIf (anyNonzero (← sliceAt bytes (base + 64) 8)) .nonzeroReserved
  rejectIf (anyNonzero (← sliceAt bytes (base + 136) 8)) .nonzeroReserved
  let contentIdentity ← contentAt bytes (base + 28)
  rejectIf (!anyNonzero contentIdentity.toList) .zeroContentIdentity
  let metadataPolicy ← getLE 4 bytes (base + 60)
  rejectIf (metadataPolicy = 0) .zeroMetadataPolicy
  let path ← okOr (slice bytes (base + 72) maxDriverPathBytes) .wrongSize
  rejectIf (anyNonzero (← sliceFrom path pathLen)) .nonzeroPathPadding
  let driverPath ← sliceAt path 0 pathLen
  pure {
    roleId, hardware, resourceKind, pio := ⟨pioBase, pioLength⟩, irq, driverPath
    contentIdentity, metadataPolicy }

/-- The comparison with one of the records before. -/
def checkPrevious (record previous : DeviceRole) : ManifestParse Unit := do
  rejectIf (previous.roleId = record.roleId) .duplicateRole
  rejectIf (previous.irq = record.irq) .duplicateIrq
  rejectIf (previous.pio.meets record.pio) .overlappingPio

abbrev Records := Vector (Option DeviceRole) maxRecords

/-- One turn of the loop over the records. -/
def admitRecord (bytes : List UInt8) (records : Records) (index : Nat) : ManifestParse Records := do
  let record ← parseRecord bytes (manifestHeaderBytes + index * manifestRecordBytes)
  records.toList.reduceOption.forM (checkPrevious record)
  if h : index < maxRecords then .ok (records.set index (some record) h) else .panic

namespace Manifest

/-- The tests that both parsers start with. -/
def checkFront (bytes : List UInt8) : ManifestParse Unit := do
  rejectIf (bytes.length < manifestHeaderBytes) .wrongSize
  rejectIf ((← sliceAt bytes 0 4) ≠ manifestMagic) .wrongMagic
  rejectIf ((← getLE 2 bytes 4) ≠ manifestMajor) .wrongVersion
  rejectIf ((← getLE 2 bytes 6) ≠ manifestMinor) .wrongVersion

def parse (bytes : List UInt8) : ManifestParse Manifest := do
  checkFront bytes
  let total ← getLE 4 bytes 8
  let count ← getLE 2 bytes 12
  rejectIf (total ≠ bytes.length || count = 0 || maxRecords < count) .wrongSize
  rejectIf ((← getLE 2 bytes 14) ≠ 0) .nonzeroReserved
  rejectIf ((← getLE 8 bytes 24) ≠ 0) .nonzeroReserved
  let profile ← getLE 4 bytes 16
  let profileVersion ← getLE 4 bytes 20
  rejectIf (profile ≠ profileQ35 || profileVersion ≠ profileQ35Version) .wrongProfile
  let size ← okOr (checkedMul count manifestRecordBytes) .wrongSize
  let expected ← okOr (checkedAdd manifestHeaderBytes size) .wrongSize
  rejectIf (expected ≠ bytes.length) .wrongSize
  let records ← (List.range count).foldlM (admitRecord bytes) (Vector.replicate maxRecords none)
  pure ⟨profile, profileVersion, records, count⟩

def parsePadded (bytes : List UInt8) : ManifestParse Manifest := do
  checkFront bytes
  let total ← getLE 4 bytes 8
  rejectIf (total < manifestHeaderBytes || bytes.length < total) .wrongSize
  rejectIf (anyNonzero (← sliceFrom bytes total)) .nonzeroObjectPadding
  parse (← sliceAt bytes 0 total)

end Manifest

/-- `TOTAL`. -/
def com2ManifestBytes : Nat := manifestHeaderBytes + manifestRecordBytes

/-- The stores of `encode_com2_manifest`, on cleared bytes. -/
def storeCom2Manifest (contentIdentity : ContentIdentity) : Fill ManifestError Nat := do
  storeBytes 0 manifestMagic
  storeBytes 4 (leBytes 2 manifestMajor)
  storeBytes 6 (leBytes 2 manifestMinor)
  storeBytes 8 (leBytes 4 com2ManifestBytes)
  storeBytes 12 (leBytes 2 1)
  storeBytes 16 (leBytes 4 com2Policy.profile)
  storeBytes 20 (leBytes 4 com2Policy.profileVersion)
  storeBytes manifestHeaderBytes (leBytes 8 com2Policy.roleId)
  storeBytes (manifestHeaderBytes + 8) (leBytes 4 2)
  storeBytes (manifestHeaderBytes + 12) (leBytes 4 1)
  storeBytes (manifestHeaderBytes + 16) (leBytes 2 com2Policy.pio.base)
  storeBytes (manifestHeaderBytes + 18) (leBytes 2 com2Policy.pio.length)
  storeBytes (manifestHeaderBytes + 20) (leBytes 4 com2Policy.irq)
  storeBytes (manifestHeaderBytes + 24) (leBytes 2 com2Policy.driverPath.length)
  storeBytes (manifestHeaderBytes + 28) contentIdentity.toList
  storeBytes (manifestHeaderBytes + 60) (leBytes 4 com2Policy.metadataPolicy)
  storeBytes (manifestHeaderBytes + 72) com2Policy.driverPath
  pure com2ManifestBytes

def encodeCom2Manifest (contentIdentity : ContentIdentity) : Fill ManifestError Nat := do
  let output ← Prog.get
  Prog.lift (rejectIf (output.length < com2ManifestBytes) .wrongSize)
  Prog.lift (rejectIf (!anyNonzero contentIdentity.toList) .zeroContentIdentity)
  storeBytes 0 (List.replicate com2ManifestBytes 0)
  storeCom2Manifest contentIdentity

end Wyrmroot.Device
