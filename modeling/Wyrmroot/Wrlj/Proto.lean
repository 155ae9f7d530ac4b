import Wyrmroot.Lib.Codec
import Wyrmroot.Loader.Image

/-!
# The WRLJ launch protocol

`wyrmroot-launch-proto`: the messages between a launch client and the job
controller, their parser and their encoders. Protocol 1.0 has fifteen
messages under `parse_message`; protocol 1.1 is one shell request and its
reply, with parsers of their own.

Wire integers have their own types. The `checked_add`s and `try_from`s of
the source that only guard sums of bounded counts are plain sums here.
-/

namespace Wyrmroot.Wrlj

open Outcome

def envelopeBytes : Nat := 40
def prefixBytes : Nat := 8
def headerBytes : Nat := envelopeBytes + prefixBytes
def maxLiveJobs : Nat := 32
def maxArgv : Nat := 64
def maxEnvironment : Nat := 64
def maxStringBytes : Nat := 16 * 1024
def maxPathBytes : Nat := 256
def streamCount : Nat := 3
def shellV1HandleCount : Nat := 4
def shellV1RequestBytes : Nat := 128
def shellV1ReplyBytes : Nat := 56
def shellV1Path : String := "system/wyrmsh"
def shellV1StartupAbi : UInt16 := 2
def shellV1PolicyProfile : UInt16 := 2

/-- `*b"WRLJ"`. -/
def magic : List UInt8 := [87, 82, 76, 74]
def major : UInt16 := 1
def minor : UInt16 := 0
def shellV1Minor : UInt16 := 1
def shellV1MessageType : UInt32 := 16
def recordBytes : Nat := 8
def launchFixedBytes : Nat := 72

/-- All cleanup bits that the protocol admits. -/
def cleanupResultMask : UInt32 := 0x1f

structure Reservation where
  connectionId : UInt64
  generation : UInt64
  transactionId : UInt64
deriving DecidableEq

inductive MessageType where
  | launch
  | launchAccepted
  | query
  | jobState
  | wait
  | jobResult
  | terminate
  | terminationAccepted
  | listJobs
  | jobList
  | cancel
  | cancelled
  | closeJob
  | closed
  | error
deriving DecidableEq

/-- `self as u32`. -/
def MessageType.code : MessageType → UInt32
  | .launch => 1
  | .launchAccepted => 2
  | .query => 3
  | .jobState => 4
  | .wait => 5
  | .jobResult => 6
  | .terminate => 7
  | .terminationAccepted => 8
  | .listJobs => 9
  | .jobList => 10
  | .cancel => 11
  | .cancelled => 12
  | .closeJob => 13
  | .closed => 14
  | .error => 15

inductive StreamRole where
  | stdin
  | stdout
  | stderr
deriving DecidableEq

/-- `self as u32`. -/
def StreamRole.code : StreamRole → UInt32
  | .stdin => 1
  | .stdout => 2
  | .stderr => 3

inductive JobPhase where
  | running
  | terminating
  | exited
  | reaped
deriving DecidableEq

def JobPhase.code : JobPhase → UInt32
  | .running => 1
  | .terminating => 2
  | .exited => 3
  | .reaped => 4

inductive ErrorCode where
  | malformedRequest
  | staleOrUnknownSession
  | transactionReplay
  | foreignOrUnknownJob
  | invalidState
  | capacity
  | policyRejected
  | loaderFailure
  | cleanupFailure
  | cancellationUnavailable
deriving DecidableEq

/-- `as_u32`. -/
def ErrorCode.code : ErrorCode → UInt32
  | .malformedRequest => 1
  | .staleOrUnknownSession => 2
  | .transactionReplay => 3
  | .foreignOrUnknownJob => 4
  | .invalidState => 5
  | .capacity => 6
  | .policyRejected => 7
  | .loaderFailure => 8
  | .cleanupFailure => 9
  | .cancellationUnavailable => 10

inductive TerminationClassification where
  | normalExit
  | authorized
  | unhandledException
  | resourcePolicy
  | taskGroupTeardown
deriving DecidableEq

/-- `as_u32`. -/
def TerminationClassification.code : TerminationClassification → UInt32
  | .normalExit => 1
  | .authorized => 2
  | .unhandledException => 3
  | .resourcePolicy => 4
  | .taskGroupTeardown => 5

structure TerminationResult where
  classification : TerminationClassification
  applicationCode : UInt32
  exceptionClass : UInt32
  exceptionDetail : UInt32
  exceptionAddress : UInt64
  cleanupResult : UInt32
deriving DecidableEq

inductive Error where
  | wrongSize
  | wrongMagic
  | unsupportedVersion
  | unknownMessageType
  | nonzeroFlags
  | nonzeroReserved
  | zeroIdentity
  | wrongHandleCount
  | invalidPath
  | invalidArgumentCount
  | invalidEnvironmentCount
  | invalidStreamRoles
  | stringBytesExceeded
  | noncanonicalStringRecords
  | invalidUtf8
  | invalidEnvironment
  | duplicateEnvironmentName
  | argv0Mismatch
  | invalidJobState
  | invalidErrorCode
  | invalidTerminationClassification
  | invalidCleanupResult
  | arithmeticOverflow
deriving DecidableEq

/-- A `Result` of this crate. -/
abbrev Check := Outcome Error

/-- An encoder of this crate. -/
abbrev Encoder := Fill Error

/-! ## Small readers -/

def nonzero (value : UInt64) : Check UInt64 := if value = 0 then .err .zeroIdentity else .ok value

def parseCleanupResult (value : UInt32) : Check UInt32 :=
  if value &&& ~~~cleanupResultMask ≠ 0 then .err .invalidCleanupResult else .ok value

def requireSize (bytes : List UInt8) (expected : Nat) : Check Unit :=
  rejectIf (bytes.length ≠ expected) .wrongSize

def requireHandles (actual expected : Nat) : Check Unit :=
  rejectIf (actual ≠ expected) .wrongHandleCount

def readU16 (bytes : List UInt8) (offset : Nat) : Check UInt16 :=
  okOr (getU16 bytes offset) .wrongSize

def readU32 (bytes : List UInt8) (offset : Nat) : Check UInt32 :=
  okOr (getU32 bytes offset) .wrongSize

def readU64 (bytes : List UInt8) (offset : Nat) : Check UInt64 :=
  okOr (getU64 bytes offset) .wrongSize

def MessageType.parse (value : UInt32) : Check MessageType :=
  match value.toNat with
  | 1 => .ok .launch
  | 2 => .ok .launchAccepted
  | 3 => .ok .query
  | 4 => .ok .jobState
  | 5 => .ok .wait
  | 6 => .ok .jobResult
  | 7 => .ok .terminate
  | 8 => .ok .terminationAccepted
  | 9 => .ok .listJobs
  | 10 => .ok .jobList
  | 11 => .ok .cancel
  | 12 => .ok .cancelled
  | 13 => .ok .closeJob
  | 14 => .ok .closed
  | 15 => .ok .error
  | _ => .err .unknownMessageType

def JobPhase.parse (value : UInt32) : Check JobPhase :=
  match value.toNat with
  | 1 => .ok .running
  | 2 => .ok .terminating
  | 3 => .ok .exited
  | 4 => .ok .reaped
  | _ => .err .invalidJobState

def ErrorCode.parse (value : UInt32) : Check ErrorCode :=
  match value.toNat with
  | 1 => .ok .malformedRequest
  | 2 => .ok .staleOrUnknownSession
  | 3 => .ok .transactionReplay
  | 4 => .ok .foreignOrUnknownJob
  | 5 => .ok .invalidState
  | 6 => .ok .capacity
  | 7 => .ok .policyRejected
  | 8 => .ok .loaderFailure
  | 9 => .ok .cleanupFailure
  | 10 => .ok .cancellationUnavailable
  | _ => .err .invalidErrorCode

def TerminationClassification.parse (value : UInt32) : Check TerminationClassification :=
  match value.toNat with
  | 1 => .ok .normalExit
  | 2 => .ok .authorized
  | 3 => .ok .unhandledException
  | 4 => .ok .resourcePolicy
  | 5 => .ok .taskGroupTeardown
  | _ => .err .invalidTerminationClassification

/-! ## What a message borrows from its bytes -/

structure StringRecords where
  records : List UInt8
  strings : List UInt8
  count : Nat
deriving DecidableEq

/-- The index of a record panics where the records end before the count. -/
def StringRecords.get (values : StringRecords) (index : Nat) : Check (Option String) :=
  if values.count ≤ index then .ok none
  else do
    let record ← sliceAt values.records (index * recordBytes) recordBytes
    pure do
      let offset ← getU32 record 0
      let length ← getU16 record 4
      (slice values.strings offset.toNat length.toNat).bind fromUtf8

structure LaunchRequest where
  path : String
  argv : StringRecords
  environment : StringRecords
  streamCount : Nat
deriving DecidableEq

namespace LaunchRequest

def argc (request : LaunchRequest) : Nat := request.argv.count

def environmentCount (request : LaunchRequest) : Nat := request.environment.count

def arg (request : LaunchRequest) (index : Nat) : Check (Option String) :=
  request.argv.get index

def environmentEntry (request : LaunchRequest) (index : Nat) : Check (Option String) :=
  request.environment.get index

end LaunchRequest

structure JobIds where
  bytes : List UInt8
deriving DecidableEq

namespace JobIds

def len (ids : JobIds) : Nat := ids.bytes.length / 8

def get (ids : JobIds) (index : Nat) : Option UInt64 := getU64 ids.bytes (index * 8)

end JobIds

inductive Message where
  | launch (request : LaunchRequest)
  | launchAccepted (jobId : UInt64)
  | query (jobId : UInt64)
  | jobState (jobId : UInt64) (phase : JobPhase)
  | wait (jobId : UInt64)
  | jobResult (jobId : UInt64) (result : TerminationResult)
  | terminate (jobId : UInt64)
  | terminationAccepted (jobId : UInt64)
  | listJobs
  | jobList (ids : JobIds)
  | cancel (targetTransactionId : UInt64)
  | cancelled (targetTransactionId : UInt64)
  | closeJob (jobId : UInt64)
  | closed (jobId : UInt64)
  | error (code : ErrorCode)
deriving DecidableEq

structure ParsedMessage where
  reservation : Reservation
  message : Message
deriving DecidableEq

/-! ## Envelopes -/

def parseEnvelopeVersion (bytes : List UInt8) (minor : UInt16) : Check Reservation := do
  rejectIf (bytes.length < envelopeBytes) .wrongSize
  let first ← sliceAt bytes 0 4
  rejectIf (first ≠ magic) .wrongMagic
  rejectIf ((← readU16 bytes 4) ≠ major || (← readU16 bytes 6) ≠ minor) .unsupportedVersion
  rejectIf ((← readU64 bytes 32) ≠ 0) .nonzeroReserved
  let connectionId ← readU64 bytes 8
  let generation ← readU64 bytes 16
  let transactionId ← readU64 bytes 24
  rejectIf (connectionId = 0 || generation = 0 || transactionId = 0) .zeroIdentity
  pure { connectionId, generation, transactionId }

def parseEnvelope (bytes : List UInt8) : Check Reservation := parseEnvelopeVersion bytes minor

/-! ## Launch requests -/

/-- `b'/'`. -/
def slash : UInt8 := 47

/-- `b'.'`. -/
def dot : UInt8 := 46

/-- A relative ASCII path whose components are not empty, `.` or `..`. The
components are cut from the bytes, as `/` is ASCII. -/
def validatePath (path : String) : Check Unit := do
  let bytes := utf8 path
  rejectIf (bytes.isEmpty || maxPathBytes < bytes.length || !(bytes.all fun b => b.toNat < 128)
    || bytes.head? == some slash || bytes.contains 0) .invalidPath
  rejectIf ((bytes.splitOn slash).any fun component =>
    component.isEmpty || component == [dot] || component == [dot, dot]) .invalidPath

/-- One turn of `validate_records`; the state is `expected_offset`. -/
def validateRecord (records strings : List UInt8) (index expectedOffset : Nat) : Check Nat := do
  let record ← sliceAt records (index * recordBytes) recordBytes
  rejectIf (getU32 record 0 ≠ some (UInt32.ofNat expectedOffset) || getU16 record 6 ≠ some 0)
    .noncanonicalStringRecords
  let length ← readU16 record 4
  let value ← okOr (slice strings expectedOffset length.toNat) .wrongSize
  let _ ← okOr (fromUtf8 value) .invalidUtf8
  pure (expectedOffset + length.toNat)

def validateRecords (records strings : List UInt8) (count : Nat) : Check Unit := do
  let expectedOffset ← forRange (validateRecord records strings) 0 count 0
  rejectIf (expectedOffset ≠ strings.length) .noncanonicalStringRecords

/-- `environment_name(values.get(index).ok_or(InvalidUtf8)?)?`. -/
def environmentNameAt (values : StringRecords) (index : Nat) : Check (List UInt8) := do
  let value ← okOr (← values.get index) .invalidUtf8
  Startup.environmentName .invalidEnvironment (utf8 value)

/-- One turn of the inner loop of `validate_environment_records`. -/
def checkOtherName (values : StringRecords) (name : List UInt8) (previous : Nat) (_ : Unit) :
    Check Unit := do
  let other ← environmentNameAt values previous
  rejectIf (other = name) .duplicateEnvironmentName

/-- One turn of the outer loop. -/
def validateEnvironmentRecord (values : StringRecords) (index : Nat) (_ : Unit) : Check Unit := do
  let name ← environmentNameAt values index
  forRange (checkOtherName values name) 0 index ()

def validateEnvironmentRecords (values : StringRecords) : Check Unit :=
  forRange (validateEnvironmentRecord values) 0 values.count ()

/-- The roles in the order of their records, each with a zero word behind it. -/
def checkStreamRoles (bytes : List UInt8) (offset : Nat) : List StreamRole → Check Unit
  | [] => .ok ()
  | expected :: rest => do
      rejectIf ((← readU32 bytes offset) ≠ expected.code) .invalidStreamRoles
      rejectIf ((← readU32 bytes (offset + 4)) ≠ 0) .nonzeroReserved
      checkStreamRoles bytes (offset + recordBytes) rest

def streamRoles : List StreamRole := [.stdin, .stdout, .stderr]

def parseLaunch (bytes : List UInt8) (receivedHandles : Nat) : Check LaunchRequest := do
  rejectIf (bytes.length < launchFixedBytes) .wrongSize
  rejectIf ((← readU32 bytes 48).toNat ≠ bytes.length) .wrongSize
  let declaredHandles ← readU32 bytes 52
  requireHandles receivedHandles declaredHandles.toNat
  let pathLen ← readU16 bytes 56
  let argc ← readU16 bytes 58
  let envc ← readU16 bytes 60
  let streamCount ← readU16 bytes 62
  let stringBytes ← readU32 bytes 64
  rejectIf ((← readU32 bytes 68) ≠ 0) .nonzeroReserved
  rejectIf (argc.toNat < 1 || maxArgv < argc.toNat) .invalidArgumentCount
  rejectIf (maxEnvironment < envc.toNat) .invalidEnvironmentCount
  rejectIf ((streamCount.toNat ≠ 0 && streamCount.toNat ≠ Wrlj.streamCount)
    || streamCount.toNat ≠ declaredHandles.toNat) .invalidStreamRoles
  rejectIf (maxStringBytes < stringBytes.toNat) .stringBytesExceeded
  let recordCount := argc.toNat + envc.toNat
  let recordsEnd := launchFixedBytes + recordCount * recordBytes
  let streamEnd := recordsEnd + streamCount.toNat * recordBytes
  let pathEnd := streamEnd + pathLen.toNat
  rejectIf (pathEnd + stringBytes.toNat ≠ bytes.length) .wrongSize
  checkStreamRoles bytes recordsEnd
    (if streamCount.toNat = Wrlj.streamCount then streamRoles else [])
  let path ← okOr (fromUtf8 (← sliceAt bytes streamEnd pathLen.toNat)) .invalidUtf8
  validatePath path
  let allRecords ← sliceAt bytes launchFixedBytes (recordCount * recordBytes)
  let strings ← sliceFrom bytes pathEnd
  validateRecords allRecords strings recordCount
  let argv : StringRecords :=
    { records := ← sliceAt allRecords 0 (argc.toNat * recordBytes), strings, count := argc.toNat }
  let environment : StringRecords :=
    { records := ← sliceFrom allRecords (argc.toNat * recordBytes), strings, count := envc.toNat }
  rejectIf ((← argv.get 0) ≠ some path) .argv0Mismatch
  validateEnvironmentRecords environment
  pure { path, argv, environment, streamCount := streamCount.toNat }

/-! ## Messages -/

def parseJobId (bytes : List UInt8) (handles : Nat) : Check UInt64 := do
  requireHandles handles 0
  requireSize bytes 56
  nonzero (← readU64 bytes 48)

/-- One turn of the loop over a job list. -/
def checkJobId (ids : JobIds) (index : Nat) (_ : Unit) : Check Unit := do
  let _ ← nonzero (← okOr (ids.get index) .wrongSize)
  pure ()

def parseJobList (bytes : List UInt8) (receivedHandles : Nat) : Check JobIds := do
  requireHandles receivedHandles 0
  rejectIf (bytes.length < 56) .wrongSize
  let count ← readU32 bytes 48
  rejectIf (maxLiveJobs < count.toNat || (← readU32 bytes 52) ≠ 0
    || bytes.length ≠ 56 + count.toNat * 8) .wrongSize
  let ids : JobIds := { bytes := ← sliceFrom bytes 56 }
  forRange (checkJobId ids) 0 ids.len ()
  pure ids

def parseJobState (bytes : List UInt8) (receivedHandles : Nat) : Check Message := do
  requireHandles receivedHandles 0
  requireSize bytes 64
  let jobId ← nonzero (← readU64 bytes 48)
  let phase ← JobPhase.parse (← readU32 bytes 56)
  rejectIf ((← readU32 bytes 60) ≠ 0) .nonzeroReserved
  pure (.jobState jobId phase)

def parseJobResult (bytes : List UInt8) (receivedHandles : Nat) : Check Message := do
  requireHandles receivedHandles 0
  requireSize bytes 88
  rejectIf ((← readU32 bytes 84) ≠ 0) .nonzeroReserved
  let jobId ← nonzero (← readU64 bytes 48)
  let classification ← TerminationClassification.parse (← readU32 bytes 56)
  let applicationCode ← readU32 bytes 60
  let exceptionClass ← readU32 bytes 64
  let exceptionDetail ← readU32 bytes 68
  let exceptionAddress ← readU64 bytes 72
  let cleanupResult ← parseCleanupResult (← readU32 bytes 80)
  pure (.jobResult jobId ⟨classification, applicationCode, exceptionClass, exceptionDetail,
    exceptionAddress, cleanupResult⟩)

def parseError (bytes : List UInt8) (receivedHandles : Nat) : Check Message := do
  requireHandles receivedHandles 0
  requireSize bytes 56
  rejectIf ((← readU32 bytes 52) ≠ 0) .nonzeroReserved
  pure (.error (← ErrorCode.parse (← readU32 bytes 48)))

/-- The `match` of `parse_message`. -/
def parseBody (messageType : MessageType) (bytes : List UInt8) (receivedHandles : Nat) :
    Check Message :=
  match messageType with
  | .launch => do pure (.launch (← parseLaunch bytes receivedHandles))
  | .launchAccepted => do pure (.launchAccepted (← parseJobId bytes receivedHandles))
  | .query => do pure (.query (← parseJobId bytes receivedHandles))
  | .jobState => parseJobState bytes receivedHandles
  | .wait => do pure (.wait (← parseJobId bytes receivedHandles))
  | .jobResult => parseJobResult bytes receivedHandles
  | .terminate => do pure (.terminate (← parseJobId bytes receivedHandles))
  | .terminationAccepted => do pure (.terminationAccepted (← parseJobId bytes receivedHandles))
  | .listJobs => do
      requireHandles receivedHandles 0
      requireSize bytes headerBytes
      pure .listJobs
  | .jobList => do pure (.jobList (← parseJobList bytes receivedHandles))
  | .cancel => do pure (.cancel (← parseJobId bytes receivedHandles))
  | .cancelled => do pure (.cancelled (← parseJobId bytes receivedHandles))
  | .closeJob => do pure (.closeJob (← parseJobId bytes receivedHandles))
  | .closed => do pure (.closed (← parseJobId bytes receivedHandles))
  | .error => parseError bytes receivedHandles

def parseMessage (bytes : List UInt8) (receivedHandles : Nat) : Check ParsedMessage := do
  rejectIf (bytes.length < headerBytes) .wrongSize
  let reservation ← parseEnvelope bytes
  let messageType ← MessageType.parse (← readU32 bytes 40)
  rejectIf ((← readU32 bytes 44) ≠ 0) .nonzeroFlags
  let message ← parseBody messageType bytes receivedHandles
  pure { reservation, message }

/-! ## The shell's own launch, protocol 1.1 -/

structure ShellV1Request where
  consoleGeneration : UInt64
  statusGeneration : UInt64
  requestedChildGeneration : UInt64
deriving DecidableEq

structure ParsedShellV1Request where
  reservation : Reservation
  request : ShellV1Request
deriving DecidableEq

inductive ShellV1Reply where
  | launchAccepted (jobId : UInt64)
  | error (code : ErrorCode)
deriving DecidableEq

structure ParsedShellV1Reply where
  reservation : Reservation
  reply : ShellV1Reply
deriving DecidableEq

/-- The roles of the four handles, each with a zero word behind it. -/
def checkShellRoles (bytes : List UInt8) (offset : Nat) : List UInt32 → Check Unit
  | [] => .ok ()
  | expectedRole :: rest => do
      rejectIf ((← readU32 bytes offset) ≠ expectedRole) .invalidStreamRoles
      rejectIf ((← readU32 bytes (offset + 4)) ≠ 0) .nonzeroReserved
      checkShellRoles bytes (offset + recordBytes) rest

def parseShellV1Request (bytes : List UInt8) (receivedHandles : Nat) :
    Check ParsedShellV1Request := do
  requireSize bytes shellV1RequestBytes
  requireHandles receivedHandles shellV1HandleCount
  let reservation ← parseEnvelopeVersion bytes shellV1Minor
  rejectIf ((← readU32 bytes 40) ≠ shellV1MessageType) .unknownMessageType
  rejectIf ((← readU32 bytes 44) ≠ 0) .nonzeroFlags
  let consoleGeneration ← nonzero (← readU64 bytes 48)
  let statusGeneration ← nonzero (← readU64 bytes 56)
  let requestedChildGeneration ← nonzero (← readU64 bytes 64)
  rejectIf ((← readU16 bytes 72) ≠ UInt16.ofNat (utf8 shellV1Path).length
    || (← readU16 bytes 74) ≠ shellV1StartupAbi || (← readU16 bytes 76) ≠ shellV1PolicyProfile
    || (← readU16 bytes 78) ≠ 0) .nonzeroReserved
  checkShellRoles bytes 80 [1, 2, 3, 4]
  let path ← sliceAt bytes 112 (utf8 shellV1Path).length
  rejectIf (path ≠ utf8 shellV1Path) .invalidPath
  let rest ← sliceFrom bytes (112 + (utf8 shellV1Path).length)
  rejectIf (rest.any (· ≠ 0)) .nonzeroReserved
  pure ⟨reservation, consoleGeneration, statusGeneration, requestedChildGeneration⟩

def parseShellV1Reply (bytes : List UInt8) (receivedHandles : Nat) : Check ParsedShellV1Reply := do
  requireSize bytes shellV1ReplyBytes
  requireHandles receivedHandles 0
  let reservation ← parseEnvelopeVersion bytes shellV1Minor
  rejectIf ((← readU32 bytes 44) ≠ 0 || (← readU32 bytes 52) ≠ 0) .nonzeroReserved
  let messageType ← readU32 bytes 40
  if messageType = MessageType.launchAccepted.code then
    pure ⟨reservation, .launchAccepted (← nonzero (← readU64 bytes 48))⟩
  else if messageType = MessageType.error.code then
    pure ⟨reservation, .error (← ErrorCode.parse (← readU32 bytes 48))⟩
  else .err .unknownMessageType

/-! ## Encoders -/

def putU16 (offset : Nat) (value : UInt16) : Encoder Unit := putBytes .wrongSize offset (u16 value)

def putU32 (offset : Nat) (value : UInt32) : Encoder Unit := putBytes .wrongSize offset (u32 value)

def putU64 (offset : Nat) (value : UInt64) : Encoder Unit := putBytes .wrongSize offset (u64 value)

/-- `if out.len() < size { return Err(WrongSize) }`. -/
def requireRoom (size : Nat) : Encoder Unit := do
  let out ← Prog.get
  Prog.lift (rejectIf (out.length < size) .wrongSize)

/-- `out[..size].fill(0)`. -/
def clear (size : Nat) : Encoder Unit := storeBytes 0 (List.replicate size 0)

def encodeEnvelopeVersion (value : Reservation) (minor : UInt16) : Encoder Unit := do
  requireRoom envelopeBytes
  Prog.lift (rejectIf (value.connectionId = 0 || value.generation = 0 || value.transactionId = 0)
    .zeroIdentity)
  clear envelopeBytes
  storeBytes 0 magic
  putU16 4 major
  putU16 6 minor
  putU64 8 value.connectionId
  putU64 16 value.generation
  putU64 24 value.transactionId

def encodePrefixVersion (value : Reservation) (minor : UInt16) (messageType : UInt32) :
    Encoder Unit := do
  requireRoom headerBytes
  encodeEnvelopeVersion value minor
  putU32 40 messageType

def encodePrefix (value : Reservation) (messageType : MessageType) : Encoder Unit :=
  encodePrefixVersion value minor messageType.code

def validateEnvironment (values : List String) : Check Unit :=
  Startup.checkNames .invalidEnvironment .duplicateEnvironmentName [] (values.map utf8)

/-- One record per string: where it starts among the strings, and its length. -/
def putRecords (recordOffset stringOffset : Nat) : List String → Encoder Unit
  | [] => pure ()
  | value :: rest => do
      putU32 recordOffset (UInt32.ofNat stringOffset)
      putU16 (recordOffset + 4) (UInt16.ofNat (utf8 value).length)
      putRecords (recordOffset + recordBytes) (stringOffset + (utf8 value).length) rest

def putRoles (recordOffset : Nat) : List StreamRole → Encoder Unit
  | [] => pure ()
  | role :: rest => do
      putU32 recordOffset role.code
      putRoles (recordOffset + recordBytes) rest

def storeStrings (cursor : Nat) : List String → Encoder Unit
  | [] => pure ()
  | value :: rest => do
      storeBytes cursor (utf8 value)
      storeStrings (cursor + (utf8 value).length) rest

def encodeLaunch (reservation : Reservation) (path : String) (argv environment : List String)
    (streams : Bool) : Encoder Nat := do
  Prog.lift (validatePath path)
  Prog.lift (rejectIf (argv.isEmpty || maxArgv < argv.length) .invalidArgumentCount)
  Prog.lift (rejectIf (maxEnvironment < environment.length) .invalidEnvironmentCount)
  Prog.lift (rejectIf (argv.head? ≠ some path) .argv0Mismatch)
  Prog.lift (validateEnvironment environment)
  let stringBytes ← Prog.lift
    (okOr (Loader.totalBytes (argv ++ environment)) .arithmeticOverflow)
  Prog.lift (rejectIf (maxStringBytes < stringBytes) .stringBytesExceeded)
  let records := (argv.length + environment.length) * recordBytes
  let roles := if streams then streamRoles else []
  let total := launchFixedBytes + records + roles.length * recordBytes + (utf8 path).length
    + stringBytes
  requireRoom total
  clear total
  encodePrefix reservation .launch
  putU32 48 (UInt32.ofNat total)
  putU32 52 (UInt32.ofNat roles.length)
  putU16 56 (UInt16.ofNat (utf8 path).length)
  putU16 58 (UInt16.ofNat argv.length)
  putU16 60 (UInt16.ofNat environment.length)
  putU16 62 (UInt16.ofNat roles.length)
  putU32 64 (UInt32.ofNat stringBytes)
  putRecords launchFixedBytes 0 (argv ++ environment)
  let recordOffset := launchFixedBytes + records
  putRoles recordOffset roles
  let cursor := recordOffset + roles.length * recordBytes
  storeBytes cursor (utf8 path)
  storeStrings (cursor + (utf8 path).length) (argv ++ environment)
  pure total

/-- The kinds that carry one identity and nothing else. -/
def MessageType.isJob : MessageType → Bool
  | .launchAccepted | .query | .wait | .terminate | .terminationAccepted | .cancel | .cancelled
  | .closeJob | .closed => true
  | _ => false

def encodeJobMessage (reservation : Reservation) (kind : MessageType) (jobId : UInt64) :
    Encoder Nat := do
  Prog.lift (rejectIf (!kind.isJob) .unknownMessageType)
  let _ ← Prog.lift (nonzero jobId)
  requireRoom 56
  clear 56
  encodePrefix reservation kind
  putU64 48 jobId
  pure 56

def encodeListJobs (reservation : Reservation) : Encoder Nat := do
  requireRoom headerBytes
  clear headerBytes
  encodePrefix reservation .listJobs
  pure headerBytes

def encodeJobState (reservation : Reservation) (jobId : UInt64) (phase : JobPhase) :
    Encoder Nat := do
  let _ ← Prog.lift (nonzero jobId)
  requireRoom 64
  clear 64
  encodePrefix reservation .jobState
  putU64 48 jobId
  putU32 56 phase.code
  pure 64

def encodeJobResult (reservation : Reservation) (jobId : UInt64) (result : TerminationResult) :
    Encoder Nat := do
  let _ ← Prog.lift (nonzero jobId)
  requireRoom 88
  clear 88
  encodePrefix reservation .jobResult
  putU64 48 jobId
  putU32 56 result.classification.code
  putU32 60 result.applicationCode
  putU32 64 result.exceptionClass
  putU32 68 result.exceptionDetail
  putU64 72 result.exceptionAddress
  let cleanupResult ← Prog.lift (parseCleanupResult result.cleanupResult)
  putU32 80 cleanupResult
  pure 88

def encodeError (reservation : Reservation) (code : ErrorCode) : Encoder Nat := do
  requireRoom 56
  clear 56
  encodePrefix reservation .error
  putU32 48 code.code
  pure 56

def putJobIds (offset : Nat) : List UInt64 → Encoder Unit
  | [] => pure ()
  | jobId :: rest => do
      let _ ← Prog.lift (nonzero jobId)
      putU64 offset jobId
      putJobIds (offset + 8) rest

def encodeJobList (reservation : Reservation) (jobIds : List UInt64) : Encoder Nat := do
  Prog.lift (rejectIf (maxLiveJobs < jobIds.length) .wrongSize)
  let size := 56 + jobIds.length * 8
  requireRoom size
  clear size
  encodePrefix reservation .jobList
  putU32 48 (UInt32.ofNat jobIds.length)
  putJobIds 56 jobIds
  pure size

end Wyrmroot.Wrlj
