import Wyrmroot.Lib.Codec

/-!
# The console status protocol

`wyrmroot-console-proto`: the WRCN records a shell and its console exchange
about status, and the session of one relationship. A query is a header, a
snapshot and an error are a header with a body. `validate` is run by the
writer before it writes and by the reader after it has read.
-/

namespace Wyrmroot.Console

open Outcome

def headerBytes : Nat := 48
def errorBytes : Nat := 56
def snapshotBytes : Nat := 160
def maxQueueBytes : UInt32 := 4096
def maxFailures : UInt32 := 4
def livePeerMask : UInt32 := 0b111
def flagSerialPresent : UInt32 := (1 : UInt32) <<< (0 : UInt32)
def flagChildPresent : UInt32 := (1 : UInt32) <<< (1 : UInt32)
def flagsMask : UInt32 := (1 : UInt32) <<< (7 : UInt32) - 1

/-- `*b"WRCN"`. -/
def magic : List UInt8 := [87, 82, 67, 78]

def major : UInt16 := 1
def minor : UInt16 := 0
def queryStatus : UInt32 := 1
def statusSnapshot : UInt32 := 2
def error : UInt32 := 3

structure Header where
  transactionId : UInt64
  consoleGeneration : UInt64
  statusGeneration : UInt64
deriving DecidableEq

def Header.valid (self : Header) : Bool :=
  self.transactionId ≠ 0 && self.consoleGeneration ≠ 0 && self.statusGeneration ≠ 0

inductive EncodeError where
  | buffer
  | identity
  | bounds
  | invariant
deriving DecidableEq

inductive DecodeError where
  | size
  | handles
  | magic
  | version
  | flags
  | identity
  | messageType
  | state
  | lastFailure
  | errorCode
  | bounds
  | invariant
  | reserved
deriving DecidableEq

abbrev EncodeCheck := Outcome EncodeError

abbrev DecodeCheck := Outcome DecodeError

inductive State where
  | active
  | retiringChild
  | awaitingReap
  | reconnecting
  | exhausted
  | failClosed
deriving DecidableEq

namespace State

/-- `self as u32`. -/
def toU32 : State → UInt32
  | .active => 1
  | .retiringChild => 2
  | .awaitingReap => 3
  | .reconnecting => 4
  | .exhausted => 5
  | .failClosed => 6

def parse : UInt32 → DecodeCheck State
  | 1 => .ok .active
  | 2 => .ok .retiringChild
  | 3 => .ok .awaitingReap
  | 4 => .ok .reconnecting
  | 5 => .ok .exhausted
  | 6 => .ok .failClosed
  | _ => .err .state

end State

inductive LastFailure where
  | none
  | zeroCorrelation
  | staleCorrelation
  | wrongConnectionState
  | noChild
  | incompleteCleanup
  | alreadyReserved
  | unknownReservation
  | backpressure
  | tooLarge
  | monotonicRegression
  | arithmeticOverflow
  | restartExhausted
  | serialDisconnected
  | childDisconnected
  | wrongDirection
deriving DecidableEq

namespace LastFailure

/-- `self as u32`. -/
def toU32 : LastFailure → UInt32
  | .none => 0
  | .zeroCorrelation => 1
  | .staleCorrelation => 2
  | .wrongConnectionState => 3
  | .noChild => 4
  | .incompleteCleanup => 5
  | .alreadyReserved => 6
  | .unknownReservation => 7
  | .backpressure => 8
  | .tooLarge => 9
  | .monotonicRegression => 10
  | .arithmeticOverflow => 11
  | .restartExhausted => 12
  | .serialDisconnected => 13
  | .childDisconnected => 14
  | .wrongDirection => 15

def parse : UInt32 → DecodeCheck LastFailure
  | 0 => .ok .none
  | 1 => .ok .zeroCorrelation
  | 2 => .ok .staleCorrelation
  | 3 => .ok .wrongConnectionState
  | 4 => .ok .noChild
  | 5 => .ok .incompleteCleanup
  | 6 => .ok .alreadyReserved
  | 7 => .ok .unknownReservation
  | 8 => .ok .backpressure
  | 9 => .ok .tooLarge
  | 10 => .ok .monotonicRegression
  | 11 => .ok .arithmeticOverflow
  | 12 => .ok .restartExhausted
  | 13 => .ok .serialDisconnected
  | 14 => .ok .childDisconnected
  | 15 => .ok .wrongDirection
  | _ => .err .lastFailure

end LastFailure

inductive ErrorCode where
  | malformed
  | staleGeneration
  | replay
  | unavailable
deriving DecidableEq

namespace ErrorCode

/-- `self as u32`. -/
def toU32 : ErrorCode → UInt32
  | .malformed => 1
  | .staleGeneration => 2
  | .replay => 3
  | .unavailable => 4

def parse : UInt32 → DecodeCheck ErrorCode
  | 1 => .ok .malformed
  | 2 => .ok .staleGeneration
  | 3 => .ok .replay
  | 4 => .ok .unavailable
  | _ => .err .errorCode

end ErrorCode

structure Snapshot where
  state : State
  flags : UInt32
  serialRegistryGeneration : UInt64
  publicationGeneration : UInt64
  deviceBundle : UInt64
  driverAttempt : UInt64
  rawStreamGeneration : UInt64
  childGeneration : UInt64
  outerJob : UInt64
  outerLaunchTransaction : UInt64
  livePeerMask : UInt32
  inputQueueBytes : UInt32
  stdoutQueueBytes : UInt32
  stderrQueueBytes : UInt32
  childFailures : UInt32
  serialFailures : UInt32
  lastFailure : LastFailure
deriving DecidableEq

namespace Snapshot

/-- The serial ids that `validate` looks at. -/
def serial (self : Snapshot) : List UInt64 :=
  [self.serialRegistryGeneration, self.publicationGeneration, self.deviceBundle,
   self.driverAttempt, self.rawStreamGeneration]

/-- The child ids that `validate` looks at. -/
def child (self : Snapshot) : List UInt64 :=
  [self.childGeneration, self.outerJob, self.outerLaunchTransaction]

def validate (self : Snapshot) : EncodeCheck Unit := do
  rejectIf (self.flags &&& ~~~flagsMask ≠ 0
    || self.livePeerMask &&& ~~~Console.livePeerMask ≠ 0
    || maxQueueBytes < self.inputQueueBytes
    || maxQueueBytes < self.stdoutQueueBytes
    || maxQueueBytes < self.stderrQueueBytes
    || maxFailures < self.childFailures
    || maxFailures < self.serialFailures) .bounds
  rejectIf ((decide (self.flags &&& flagSerialPresent ≠ 0)) != self.serial.all (· ≠ 0)
    || self.flags &&& flagSerialPresent = 0 && self.serial.any (· ≠ 0)) .invariant
  rejectIf ((decide (self.flags &&& flagChildPresent ≠ 0)) != self.child.all (· ≠ 0)
    || self.flags &&& flagChildPresent = 0
      && (self.child.any (· ≠ 0) || self.livePeerMask ≠ 0)) .invariant

end Snapshot

inductive Message where
  | query (header : Header)
  | snapshot (header : Header) (snapshot : Snapshot)
  | error (header : Header) (code : ErrorCode)
deriving DecidableEq

/-! ## Reading -/

/-- `u16::from_le_bytes([bytes[offset], bytes[offset + 1]])`. -/
def getU16 (bytes : List UInt8) (offset : Nat) : DecodeCheck UInt16 :=
  unwrap (Wyrmroot.getU16 bytes offset)

def getU32 (bytes : List UInt8) (offset : Nat) : DecodeCheck UInt32 :=
  unwrap (Wyrmroot.getU32 bytes offset)

def getU64 (bytes : List UInt8) (offset : Nat) : DecodeCheck UInt64 :=
  unwrap (Wyrmroot.getU64 bytes offset)

def parseHeader (bytes : List UInt8) (handles : Nat) : DecodeCheck Header := do
  rejectIf (bytes.length < headerBytes) .size
  rejectIf (handles ≠ 0 || (← getU32 bytes 20) ≠ 0) .handles
  rejectIf ((← sliceAt bytes 0 4) ≠ magic) .magic
  rejectIf ((← getU16 bytes 4) ≠ major || (← getU16 bytes 6) ≠ minor) .version
  rejectIf ((← getU32 bytes 12) ≠ 0) .flags
  let header : Header :=
    { transactionId := ← getU64 bytes 24, consoleGeneration := ← getU64 bytes 32,
      statusGeneration := ← getU64 bytes 40 }
  rejectIf (!header.valid) .identity
  pure header

/-- The size of a message of this type. -/
def expectedBytes (messageType : UInt32) : DecodeCheck Nat :=
  if messageType = queryStatus then .ok headerBytes
  else if messageType = statusSnapshot then .ok snapshotBytes
  else if messageType = error then .ok errorBytes
  else .err .messageType

/-- The `map_err` behind `snapshot.validate()`. -/
def invalidSnapshot : EncodeError → DecodeError
  | .bounds => .bounds
  | _ => .invariant

/-- The arm of `decode` for a snapshot. -/
def decodeSnapshot (bytes : List UInt8) : DecodeCheck Snapshot := do
  rejectIf ((← getU32 bytes 148) ≠ 0 || (← getU64 bytes 152) ≠ 0) .reserved
  let snapshot : Snapshot :=
    { state := ← State.parse (← getU32 bytes 48)
      flags := ← getU32 bytes 52
      serialRegistryGeneration := ← getU64 bytes 56
      publicationGeneration := ← getU64 bytes 64
      deviceBundle := ← getU64 bytes 72
      driverAttempt := ← getU64 bytes 80
      rawStreamGeneration := ← getU64 bytes 88
      childGeneration := ← getU64 bytes 96
      outerJob := ← getU64 bytes 104
      outerLaunchTransaction := ← getU64 bytes 112
      livePeerMask := ← getU32 bytes 120
      inputQueueBytes := ← getU32 bytes 124
      stdoutQueueBytes := ← getU32 bytes 128
      stderrQueueBytes := ← getU32 bytes 132
      childFailures := ← getU32 bytes 136
      serialFailures := ← getU32 bytes 140
      lastFailure := ← LastFailure.parse (← getU32 bytes 144) }
  snapshot.validate.mapErr invalidSnapshot
  pure snapshot

/-- The arm of `decode` for an error. -/
def decodeError (bytes : List UInt8) : DecodeCheck ErrorCode := do
  rejectIf ((← getU32 bytes 52) ≠ 0) .reserved
  ErrorCode.parse (← getU32 bytes 48)

def decode (bytes : List UInt8) (handles : Nat) : DecodeCheck Message := do
  let header ← parseHeader bytes handles
  let messageType ← getU32 bytes 8
  let expected ← expectedBytes messageType
  rejectIf (bytes.length ≠ expected || (← getU32 bytes 16).toNat ≠ expected) .size
  if messageType = queryStatus then pure (.query header)
  else if messageType = statusSnapshot then
    let snapshot ← decodeSnapshot bytes
    pure (.snapshot header snapshot)
  else if messageType = error then
    let code ← decodeError bytes
    pure (.error header code)
  else .err .messageType

/-! ## Writing -/

abbrev Encoder := Fill EncodeError

def putU16 (offset : Nat) (value : UInt16) : Encoder Unit := storeBytes offset (u16 value)

def putU32 (offset : Nat) (value : UInt32) : Encoder Unit := storeBytes offset (u32 value)

def putU64 (offset : Nat) (value : UInt64) : Encoder Unit := storeBytes offset (u64 value)

def encodeHeader (header : Header) (messageType : UInt32) (size : Nat) : Encoder Unit := do
  .lift (rejectIf (!header.valid) .identity)
  let output ← .get
  .lift (rejectIf (output.length < size) .buffer)
  storeBytes 0 (List.replicate size 0)
  storeBytes 0 magic
  putU16 4 major
  putU16 6 minor
  putU32 8 messageType
  putU32 16 (UInt32.ofNat size)
  putU64 24 header.transactionId
  putU64 32 header.consoleGeneration
  putU64 40 header.statusGeneration

def encodeQuery (header : Header) : Encoder Nat := do
  encodeHeader header queryStatus headerBytes
  pure headerBytes

/-- The loop of `encode_snapshot` over its ids from `index` on. -/
def putIds (index : Nat) : List UInt64 → Encoder Unit
  | [] => pure ()
  | value :: rest => do
      putU64 (56 + index * 8) value
      putIds (index + 1) rest

def encodeSnapshot (header : Header) (snapshot : Snapshot) : Encoder Nat := do
  .lift snapshot.validate
  encodeHeader header statusSnapshot snapshotBytes
  putU32 48 snapshot.state.toU32
  putU32 52 snapshot.flags
  putIds 0 (snapshot.serial ++ snapshot.child)
  putU32 120 snapshot.livePeerMask
  putU32 124 snapshot.inputQueueBytes
  putU32 128 snapshot.stdoutQueueBytes
  putU32 132 snapshot.stderrQueueBytes
  putU32 136 snapshot.childFailures
  putU32 140 snapshot.serialFailures
  putU32 144 snapshot.lastFailure.toU32
  pure snapshotBytes

def encodeError (header : Header) (code : ErrorCode) : Encoder Nat := do
  encodeHeader header error errorBytes
  putU32 48 code.toU32
  pure errorBytes

end Wyrmroot.Console
