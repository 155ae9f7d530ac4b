import Wyrmroot.Lib.Codec
import Wyrmroot.Bootfs.Archive
import Wyrmroot.Startup.Block

/-!
# The launch policy

`launch_policy.rs`: the WRJP table of the programs that may be launched. A
header, one fixed record an entry, and the paths, one behind the other.
`parse` and `encode_version` check entries in their own ways, with the
profile rules written out twice.
-/

namespace Wyrmroot.Bootfs

open Outcome
open Loader (checkedAdd)
open Startup (checkedMul)

namespace Policy

def headerBytes : Nat := 64
def recordBytes : Nat := 64
def maxEntries : Nat := 32
def maxPathBytes : Nat := 256

/-- `b"WRJP"`. -/
def magic : List UInt8 := [87, 82, 74, 80]

def versionMajor : UInt16 := 1
def versionMinorHistorical : UInt16 := 0
def versionMinorWyrmsh : UInt16 := 1
def versionMinorRecoveryTrigger : UInt16 := 2
def jobV2ProfileId : UInt16 := 1
def wyrmshProfileId : UInt16 := 2
def recoveryTriggerProfileId : UInt16 := 3
def wyrmshPath : String := "system/wyrmsh"

end Policy

open Policy

/-- `[u8; 32]`. -/
abbrev Sha256 := Vector UInt8 32

structure LaunchPolicyEntry where
  path : String
  contentSha256 : Sha256
  startupAbi : UInt16
  profileId : UInt16
  allowNoStreams : Bool
  allowThreeStreams : Bool
deriving DecidableEq

structure LaunchPolicy where
  bytes : List UInt8
  count : Nat
  stringsOffset : Nat
  bootGenerationSha256 : Sha256
  minor : UInt16
deriving DecidableEq

inductive PolicyError where
  | wrongSize
  | wrongMagic
  | unsupportedVersion
  | nonzeroReserved
  | invalidCount
  | invalidBootGeneration
  | invalidPath
  | noncanonicalPathOrder
  | invalidDigest
  | invalidStartupProfile
  | invalidStreamModes
  | invalidClassification
  | arithmeticOverflow
deriving DecidableEq

abbrev PolicyCheck := Outcome PolicyError

namespace Policy

def readU16 (bytes : List UInt8) (offset : Nat) : PolicyCheck UInt16 :=
  okOr (getU16 bytes offset) .wrongSize

def readU32 (bytes : List UInt8) (offset : Nat) : PolicyCheck UInt32 :=
  okOr (getU32 bytes offset) .wrongSize

def readU64 (bytes : List UInt8) (offset : Nat) : PolicyCheck UInt64 :=
  okOr (getU64 bytes offset) .wrongSize

/-- `digest.copy_from_slice(&bytes[offset..offset + 32])`. -/
def copySha256 (bytes : List UInt8) (offset : Nat) : PolicyCheck Sha256 := do
  let part ← sliceAt bytes offset 32
  if h : part.length = 32 then pure ⟨part.toArray, h⟩ else .panic

def noSha256 : Sha256 := Vector.replicate 32 0

/-- The components are cut from the bytes, as `/` is ASCII. -/
def validatePath (path : String) : PolicyCheck Unit :=
  let bytes := utf8 path
  rejectIf (bytes.isEmpty || maxPathBytes < bytes.length || !(bytes.all fun b => b.toNat < 128)
    || bytes.head? == some slash || bytes.contains 0
    || (bytes.splitOn slash).any fun component =>
      component.isEmpty || component == [dot] || component == [dot, dot]) .invalidPath

/-- What `parse_entry` refuses of a profile. -/
def profileRefused (minor profileId : UInt16) (path : String) : Bool :=
  if minor = versionMinorHistorical ∧ profileId = jobV2ProfileId then false
  else if (minor = versionMinorWyrmsh ∨ minor = versionMinorRecoveryTrigger) ∧
    profileId = jobV2ProfileId then path = wyrmshPath
  else if (minor = versionMinorWyrmsh ∨ minor = versionMinorRecoveryTrigger) ∧
    profileId = wyrmshProfileId then path ≠ wyrmshPath
  else if minor = versionMinorRecoveryTrigger ∧ profileId = recoveryTriggerProfileId then false
  else true

/-- What `encode_version` refuses of a profile. -/
def profileUnencodable (minor profileId : UInt16) (path : String) : Bool :=
  if minor = versionMinorHistorical ∧ profileId = jobV2ProfileId then false
  else if minor = versionMinorRecoveryTrigger ∧ profileId = recoveryTriggerProfileId then false
  else if (minor = versionMinorWyrmsh ∨ minor = versionMinorRecoveryTrigger) ∧
    profileId = jobV2ProfileId then path = wyrmshPath
  else if (minor = versionMinorWyrmsh ∨ minor = versionMinorRecoveryTrigger) ∧
    profileId = wyrmshProfileId then path ≠ wyrmshPath
  else true

/-- The profiles that take three streams only. -/
def threeStreamsOnly (profileId : UInt16) : Bool :=
  profileId = wyrmshProfileId || profileId = recoveryTriggerProfileId

end Policy

namespace LaunchPolicy

def record (self : LaunchPolicy) (index : Nat) : PolicyCheck (List UInt8) := do
  let offset ← okOr (checkedMul index recordBytes) .arithmeticOverflow
  let start ← okOr (checkedAdd headerBytes offset) .arithmeticOverflow
  okOr (slice self.bytes start recordBytes) .wrongSize

def parseEntry (self : LaunchPolicy) (index : Nat) : PolicyCheck LaunchPolicyEntry := do
  let record ← self.record index
  rejectIf ((← sliceAt record 48 16) ≠ List.replicate 16 0) .nonzeroReserved
  let pathOffset ← readU32 record 0
  let pathLen ← readU16 record 4
  rejectIf (pathLen = 0 || maxPathBytes < pathLen.toNat) .invalidPath
  let start ← okOr (checkedAdd self.stringsOffset pathOffset.toNat) .arithmeticOverflow
  let _ ← okOr (checkedAdd start pathLen.toNat) .arithmeticOverflow
  let bytes ← okOr (slice self.bytes start pathLen.toNat) .invalidPath
  let path ← okOr (fromUtf8 bytes) .invalidPath
  validatePath path
  let startupAbi ← readU16 record 6
  let profileId ← readU16 record 8
  rejectIf (startupAbi ≠ 2 || profileRefused self.minor profileId path) .invalidStartupProfile
  let streamModes ← readU16 record 10
  rejectIf (streamModes = 0 || streamModes &&& ~~~3 ≠ 0
    || threeStreamsOnly profileId && streamModes ≠ 2) .invalidStreamModes
  rejectIf ((← readU32 record 12) ≠ 1) .invalidClassification
  let contentSha256 ← copySha256 record 16
  rejectIf (contentSha256 = noSha256) .invalidDigest
  pure { path, contentSha256, startupAbi, profileId, allowNoStreams := streamModes &&& 1 ≠ 0,
         allowThreeStreams := streamModes &&& 2 ≠ 0 }

def entry (self : LaunchPolicy) (index : Nat) : Option (PolicyCheck LaunchPolicyEntry) :=
  if self.count ≤ index then none else some (self.parseEntry index)

/-- The entry of a turn of `find`, if its path is the one looked for. -/
def matching (path : String) : PolicyCheck LaunchPolicyEntry → Option LaunchPolicyEntry
  | .ok entry => if entry.path = path then some entry else none
  | _ => none

def find (self : LaunchPolicy) (path : String) : Option LaunchPolicyEntry :=
  (List.range self.count).findSome? fun index => matching path (self.parseEntry index)

/-- The loop of `parse` from `index` on; it returns the offset behind the
last path. -/
def checkEntries (self : LaunchPolicy) (previous : Option String) (expectedOffset index : Nat) :
    Nat → PolicyCheck Nat
  | 0 => .ok expectedOffset
  | remaining + 1 => do
      let parsed ← okOr (self.entry index) .wrongSize
      let entry ← parsed
      rejectIf (previous.any fun path => utf8 entry.path ≤ utf8 path) .noncanonicalPathOrder
      let record ← self.record index
      rejectIf ((← readU32 record 0).toNat ≠ expectedOffset) .invalidPath
      let expectedOffset ← okOr (checkedAdd expectedOffset (utf8 entry.path).length)
        .arithmeticOverflow
      checkEntries self (some entry.path) expectedOffset (index + 1) remaining

def parse (bytes : List UInt8) : PolicyCheck LaunchPolicy := do
  rejectIf (bytes.length < headerBytes) .wrongSize
  rejectIf ((← sliceAt bytes 0 4) ≠ magic) .wrongMagic
  let minor ← readU16 bytes 6
  rejectIf ((← readU16 bytes 4) ≠ versionMajor || !(minor = versionMinorHistorical
    || minor = versionMinorWyrmsh || minor = versionMinorRecoveryTrigger)) .unsupportedVersion
  rejectIf ((← readU16 bytes 8).toNat ≠ headerBytes || (← readU16 bytes 10).toNat ≠ recordBytes)
    .wrongSize
  let count := (← readU16 bytes 12).toNat
  rejectIf (!(1 ≤ count && count ≤ maxEntries)) .invalidCount
  rejectIf ((← readU16 bytes 14) ≠ 0 || (← readU64 bytes 56) ≠ 0) .nonzeroReserved
  rejectIf ((← readU32 bytes 16).toNat ≠ bytes.length) .wrongSize
  let stringBytes := (← readU32 bytes 20).toNat
  let recordsBytes ← okOr (checkedMul count recordBytes) .arithmeticOverflow
  let stringsOffset ← okOr (checkedAdd headerBytes recordsBytes) .arithmeticOverflow
  let total ← okOr (checkedAdd stringsOffset stringBytes) .arithmeticOverflow
  rejectIf (total ≠ bytes.length) .wrongSize
  let bootGenerationSha256 ← copySha256 bytes 24
  rejectIf (bootGenerationSha256 = noSha256) .invalidBootGeneration
  let policy := { bytes, count, stringsOffset, bootGenerationSha256, minor }
  let expectedOffset ← checkEntries policy none 0 0 count
  rejectIf (expectedOffset ≠ stringBytes) .invalidPath
  pure policy

end LaunchPolicy

namespace Policy

abbrev PolicyEncoder := Fill PolicyError

def putU16 (offset : Nat) (value : UInt16) : PolicyEncoder Unit :=
  putBytes .wrongSize offset (u16 value)

def putU32 (offset : Nat) (value : UInt32) : PolicyEncoder Unit :=
  putBytes .wrongSize offset (u32 value)

/-- The length of all paths. -/
def stringBytesOf (sum : Nat) : List LaunchPolicyEntry → PolicyCheck Nat
  | [] => .ok sum
  | entry :: rest => do
      let sum ← okOr (checkedAdd sum (utf8 entry.path).length) .arithmeticOverflow
      stringBytesOf sum rest

/-- `u16::from(allow_no_streams) | u16::from(allow_three_streams) << 1`. -/
def streamModesOf (entry : LaunchPolicyEntry) : UInt16 :=
  entry.allowNoStreams.toUInt16 ||| entry.allowThreeStreams.toUInt16 <<< 1

/-- What `encode_version` asks of an entry before it writes it. -/
def checkEntry (minor : UInt16) (previous : Option String) (entry : LaunchPolicyEntry) :
    PolicyCheck Unit := do
  validatePath entry.path
  rejectIf (previous.any fun path => utf8 entry.path ≤ utf8 path) .noncanonicalPathOrder
  rejectIf (entry.contentSha256 = noSha256) .invalidDigest
  rejectIf (entry.startupAbi ≠ 2 || profileUnencodable minor entry.profileId entry.path)
    .invalidStartupProfile
  rejectIf (streamModesOf entry = 0 || threeStreamsOnly entry.profileId && streamModesOf entry ≠ 2)
    .invalidStreamModes

/-- The record and the path of an entry, in their places. -/
def writeEntry (stringsStart stringOffset index : Nat) (entry : LaunchPolicyEntry) :
    PolicyEncoder Unit := do
  let record := headerBytes + index * recordBytes
  putU32 record (UInt32.ofNat stringOffset)
  putU16 (record + 4) (UInt16.ofNat (utf8 entry.path).length)
  putU16 (record + 6) 2
  putU16 (record + 8) entry.profileId
  putU16 (record + 10) (streamModesOf entry)
  putU32 (record + 12) 1
  storeBytes (record + 16) entry.contentSha256.toList
  storeBytes (stringsStart + stringOffset) (utf8 entry.path)

/-- The loop of `encode_version` from `index` on. -/
def encodeEntries (minor : UInt16) (stringsStart : Nat) (previous : Option String)
    (stringOffset index : Nat) : List LaunchPolicyEntry → PolicyEncoder Unit
  | [] => pure ()
  | entry :: rest => do
      .lift (checkEntry minor previous entry)
      writeEntry stringsStart stringOffset index entry
      encodeEntries minor stringsStart (some entry.path) (stringOffset + (utf8 entry.path).length)
        (index + 1) rest

/-- The writes of `encode_version`. -/
def writePolicy (minor : UInt16) (bootGenerationSha256 : Sha256) (entries : List LaunchPolicyEntry)
    (total stringBytes : Nat) : PolicyEncoder Unit := do
  storeBytes 0 (List.replicate total 0)
  storeBytes 0 magic
  putU16 4 versionMajor
  putU16 6 minor
  putU16 8 (UInt16.ofNat headerBytes)
  putU16 10 (UInt16.ofNat recordBytes)
  putU16 12 (UInt16.ofNat entries.length)
  putU32 16 (UInt32.ofNat total)
  putU32 20 (UInt32.ofNat stringBytes)
  storeBytes 24 bootGenerationSha256.toList
  encodeEntries minor (headerBytes + entries.length * recordBytes) none 0 0 entries

def encodeVersion (minor : UInt16) (bootGenerationSha256 : Sha256)
    (entries : List LaunchPolicyEntry) : PolicyEncoder Nat := do
  .lift (rejectIf (bootGenerationSha256 = noSha256) .invalidBootGeneration)
  .lift (rejectIf (entries.isEmpty || maxEntries < entries.length) .invalidCount)
  let stringBytes ← .lift (stringBytesOf 0 entries)
  let total ← .lift (okOr ((checkedAdd headerBytes (entries.length * recordBytes)).bind
    (checkedAdd · stringBytes)) .arithmeticOverflow)
  let output ← .get
  .lift (rejectIf (output.length < total) .wrongSize)
  writePolicy minor bootGenerationSha256 entries total stringBytes
  let output ← .get
  let _ ← .lift (LaunchPolicy.parse (output.take total))
  pure total

end Policy

end Wyrmroot.Bootfs
