import Wyrmroot.Lib.Packed
import Wyrmroot.Wrlj.Proto

/-!
# Native causes

`NativeError` of `wyrmroot-runtime/src/native.rs`, and the sixteen bits that
diagnostics keep of one. A `DwStatus` is an `i32`; its magnitude saturates
below the bit that marks a malformed output.
-/

namespace Wyrmroot.Diagnostics

open Packed

inductive NativeOutputError where
  | invalidObjectInfo
  | invalidMemoryObjectInfo
  | invalidChannelReceive
  | invalidMappedRange
  | invalidLoaderOutput
  | invalidWaitResult
  | invalidTaskTerminationInfo
  | deadlineOverflow
deriving DecidableEq

inductive NativeError where
  | status (status : Int32)
  | output (output : NativeOutputError)
deriving DecidableEq

def unsignedAbs (status : Int32) : Nat := status.toInt.natAbs

def nativeOutputCode : NativeOutputError → Nat
  | .invalidObjectInfo => 1
  | .invalidMemoryObjectInfo => 2
  | .invalidChannelReceive => 3
  | .invalidMappedRange => 4
  | .invalidLoaderOutput => 5
  | .invalidWaitResult => 6
  | .invalidTaskTerminationInfo => 7
  | .deadlineOverflow => 8

def boundedStatusCode (code : Nat) : Nat := if 0x7fff < code then 0x7fff else code

def nativeErrorCode : NativeError → Nat
  | .status status => boundedStatusCode (unsignedAbs status)
  | .output output => 0x8000 ||| nativeOutputCode output

theorem nativeOutputCode_lt (output : NativeOutputError) : nativeOutputCode output < 2 ^ 4 := by
  cases output <;> decide

theorem boundedStatusCode_lt (code : Nat) : boundedStatusCode code < 2 ^ 15 := by
  rw [boundedStatusCode]
  split <;> omega

theorem nativeErrorCode_lt (error : NativeError) : nativeErrorCode error < 2 ^ 16 := by
  cases error with
  | status status =>
      have h := boundedStatusCode_lt (unsignedAbs status)
      rw [nativeErrorCode]
      omega
  | output output => cases output <;> decide

/-!
## The status of a fatal resident tick

`system-init/src/lib.rs`: an error on its way out of permanent init is given
the operation it came from, then what the emergency cleanup did, and is put
into the thirty-two bits of a process status, which a reader takes apart with
`decode_tick_failure`. This is the encoding of every build but selector 34's.

`InitError` keeps the payloads that the encoding reads; `Wyr1B` and the other
selectors' variants stand here with the ordinary ones. A status is a `Nat`
below `2 ^ 32`.
-/

inductive EmergencyCleanup where
  | notRun
  | disconnectFailed
  | attempted (channelCloseFailed ownerCleanupFailed : Bool)
deriving DecidableEq

def EmergencyCleanup.failed : EmergencyCleanup → Bool
  | .notRun => false
  | .disconnectFailed => true
  | .attempted channelCloseFailed ownerCleanupFailed => channelCloseFailed || ownerCleanupFailed

inductive RecoveryOperation where
  | triggerWait
  | quiesced
  | requestRetire
  | retireDependents
  | reapDriver
  | acknowledgeReaped
  | driverRetired
  | rebindPublication
  | actionDeadline
  | recoveryFallback
  | retireRegistry
  | launchRegistry
  | commitRegistry
  | startConsole
  | receiveProduct
  | mapRetainedBootfs
  | activateRegistry
  | activateDevmgr
  | activateUart
  | activateConsole
  | activateShell
  | residentTick
  | dispatchHistoricalJob
  | dispatchConsoleJob
  | dispatchShellJob
deriving DecidableEq

/-- `operation as u8`; `0x0f` is not an operation's. -/
def RecoveryOperation.code : RecoveryOperation → UInt8
  | .triggerWait => 0x01
  | .quiesced => 0x02
  | .requestRetire => 0x03
  | .retireDependents => 0x04
  | .reapDriver => 0x05
  | .acknowledgeReaped => 0x06
  | .driverRetired => 0x07
  | .rebindPublication => 0x08
  | .actionDeadline => 0x09
  | .recoveryFallback => 0x0a
  | .retireRegistry => 0x0b
  | .launchRegistry => 0x0c
  | .commitRegistry => 0x0d
  | .startConsole => 0x0e
  | .receiveProduct => 0x10
  | .mapRetainedBootfs => 0x11
  | .activateRegistry => 0x12
  | .activateDevmgr => 0x13
  | .activateUart => 0x14
  | .activateConsole => 0x15
  | .activateShell => 0x16
  | .residentTick => 0x17
  | .dispatchHistoricalJob => 0x18
  | .dispatchConsoleJob => 0x19
  | .dispatchShellJob => 0x1a

def unattributedOperation : UInt8 := 0x0f

inductive InitError where
  | wrongManifestProfile
  | unlaunchableRole
  | wrongActivationOrder
  | missingAttemptResources
  | resourcesAlreadyInstalled
  | resourceIdentityMismatch
  | invalidResourceHandle
  | restart
  | bootfs
  | missingRetainedMaterial
  | nonExecutableRole
  | manifest
  | zeroBootGeneration
  | artifactIdentityMismatch
  | native (error : NativeError)
  | capability
  | mapping
  | startupMapping
  | ordinaryMapping
  | launch
  | launchProtocol (error : Wrlj.Error)
  | loader
  | supervision
  | cleanup
  | accounting
  | gateConfig
  | evidence
  | wyr1BGateConfig
  | registryProtocol
  | wyr1BGateProtocol
  | wyr1BGateMismatch
  | wyr1BModel
  | wyr1BEvidence
  | wyr1C6GateConfig
  | absentState (site : UInt8)
  | registryAbandoned (reason : UInt8)
  | sessionShutdown (steps : UInt8)
  | recoveryTransition (operation initiatingKind : UInt8) (payload : UInt16)
      (emergencyCleanup : EmergencyCleanup)
  | bootstrapRetirement
deriving DecidableEq

/-- `error as u16` of a `wyrmroot_launch_proto::Error`, by its place in the
enumeration. -/
def launchProtocolCode : Wrlj.Error → UInt16
  | .wrongSize => 0
  | .wrongMagic => 1
  | .unsupportedVersion => 2
  | .unknownMessageType => 3
  | .nonzeroFlags => 4
  | .nonzeroReserved => 5
  | .zeroIdentity => 6
  | .wrongHandleCount => 7
  | .invalidPath => 8
  | .invalidArgumentCount => 9
  | .invalidEnvironmentCount => 10
  | .invalidStreamRoles => 11
  | .stringBytesExceeded => 12
  | .noncanonicalStringRecords => 13
  | .invalidUtf8 => 14
  | .invalidEnvironment => 15
  | .duplicateEnvironmentName => 16
  | .argv0Mismatch => 17
  | .invalidJobState => 18
  | .invalidErrorCode => 19
  | .invalidTerminationClassification => 20
  | .invalidCleanupResult => 21
  | .arithmeticOverflow => 22

def failureInstance : InitError → UInt16
  | .native error => UInt16.ofNat (nativeErrorCode error)
  | .absentState site => site.toUInt16
  | .registryAbandoned reason => reason.toUInt16
  | .sessionShutdown steps => steps.toUInt16
  | .launchProtocol error => launchProtocolCode error
  | .recoveryTransition _ _ payload _ => payload
  | _ => 0

def failureKind : InitError → UInt8
  | .wrongActivationOrder => 0x01
  | .absentState _ => 0x09
  | .registryAbandoned _ => 0x0a
  | .sessionShutdown _ => 0x0b
  | .accounting | .wyr1BModel => 0x02
  | .supervision | .bootstrapRetirement => 0x03
  | .cleanup => 0x04
  | .native _ => 0x05
  | .wrongManifestProfile | .resourceIdentityMismatch | .invalidResourceHandle | .capability
  | .registryProtocol | .wyr1BGateProtocol | .wyr1BGateMismatch => 0x06
  | .unlaunchableRole | .bootfs | .missingRetainedMaterial | .nonExecutableRole | .manifest
  | .artifactIdentityMismatch | .mapping | .launch | .loader => 0x07
  | .launchProtocol _ => 0x06
  | .gateConfig | .evidence | .wyr1BGateConfig | .wyr1BEvidence => 0x08
  | .startupMapping | .ordinaryMapping => 0x07
  | .wyr1C6GateConfig => 0x08
  | .recoveryTransition _ initiatingKind _ emergencyCleanup =>
      if emergencyCleanup.failed then 0x04 else initiatingKind
  | .missingAttemptResources | .resourcesAlreadyInstalled | .restart | .zeroBootGeneration => 0x0f

/-- Whether an operation has claimed the error. -/
def InitError.attributed : InitError → Bool
  | .recoveryTransition .. => true
  | _ => false

def attributeFailure {α : Type} (operation : RecoveryOperation) :
    Except InitError α → Except InitError α
  | .ok value => .ok value
  | .error error =>
      .error <| match error with
        | .recoveryTransition .. => error
        | _ => .recoveryTransition operation.code (failureKind error) (failureInstance error) .notRun

def dispatchFailure (error : InitError) (emergencyCleanup : EmergencyCleanup) : InitError :=
  match error with
  | .recoveryTransition operation initiatingKind payload _ =>
      .recoveryTransition operation initiatingKind payload emergencyCleanup
  | error =>
      .recoveryTransition 0x0f (failureKind error) (failureInstance error) emergencyCleanup

/-! ## Encoding and decoding -/

def clampOperation (operation : UInt8) : UInt8 :=
  if 0x01 ≤ operation ∧ operation ≤ 0xfe then operation else unattributedOperation

def clampKind (kind : UInt8) : UInt8 :=
  if (0x01 ≤ kind ∧ kind ≤ 0x0b) ∨ kind = 0x0f then kind else 0x0f

/-- The operation and the kind that the status reports, before they are
clamped. -/
def reported : InitError → UInt8 × UInt8
  | .recoveryTransition operation initiatingKind _ emergencyCleanup =>
      (operation, if emergencyCleanup.failed then 0x04 else initiatingKind)
  | unattributed => (unattributedOperation, failureKind unattributed)

def isLaunchProtocol : InitError → Bool
  | .launchProtocol _ => true
  | _ => false

def residentTickFailureApplicationStatus (error : InitError) : Nat :=
  let operation := (clampOperation (reported error).1).toNat
  let kind := clampKind (reported error).2
  let instanceCode := (failureInstance error).toNat
  if kind = 0x05 then
    let magnitude := instanceCode &&& 0x7fff
    let saturated := if 0x7f < magnitude then 0x7f else magnitude
    0xAF1E0000 ||| operation <<< 8 ||| (if instanceCode &&& 0x8000 ≠ 0 then 0x80 else 0)
      ||| saturated
  else if kind = 0x09 then
    0xAF1F0000 ||| operation <<< 8 ||| (instanceCode &&& 0xff)
  else if kind = 0x0a then
    0xAF210000 ||| operation <<< 8 ||| (instanceCode &&& 0xff)
  else if kind = 0x0b then
    0xAF220000 ||| operation <<< 8 ||| (instanceCode &&& 0xff)
  else if kind = 0x06 ∧ isLaunchProtocol error then
    0xAF200000 ||| operation <<< 8 ||| (instanceCode &&& 0xff)
  else
    0xAF180000 ||| operation <<< 8 ||| kind.toNat

structure TickFailure where
  operation : UInt8
  kind : UInt8
  instanceCode : UInt16
  saturated : Bool
deriving DecidableEq

def decodeTickFailure (status : Nat) : Option TickFailure :=
  let operation := UInt8.ofNat (status >>> 8 &&& 0xff)
  if status >>> 16 = 0xAF18 then
    some ⟨operation, UInt8.ofNat (status &&& 0x0f), 0, false⟩
  else if status >>> 16 = 0xAF1E then
    some ⟨operation, 0x05,
      UInt16.ofNat ((status &&& 0x7f) ||| (if status &&& 0x80 ≠ 0 then 0x8000 else 0)),
      status &&& 0x7f = 0x7f⟩
  else if status >>> 16 = 0xAF1F then
    some ⟨operation, 0x09, UInt16.ofNat (status &&& 0xff), false⟩
  else if status >>> 16 = 0xAF20 then
    some ⟨operation, 0x06, UInt16.ofNat (status &&& 0xff), false⟩
  else if status >>> 16 = 0xAF21 then
    some ⟨operation, 0x0a, UInt16.ofNat (status &&& 0xff), false⟩
  else if status >>> 16 = 0xAF22 then
    some ⟨operation, 0x0b, UInt16.ofNat (status &&& 0xff), false⟩
  else
    none

/-! ## What a status says

Every tag has one layout: the tag in the high half, then the operation, then
a byte of the cause. -/

def word (tag operation low : Nat) : Nat := tag <<< 16 ||| operation <<< 8 ||| low

section Word

variable {tag operation low : Nat}

theorem word_tag (ho : operation < 2 ^ 8)
    (hl : low < 2 ^ 8) : word tag operation low >>> 16 = tag := by
  have hmid : operation <<< 8 >>> 16 = 0 := by omega
  have hlow : low >>> 16 = 0 := by omega
  rw [word, Nat.shiftRight_or_distrib, Nat.shiftRight_or_distrib, Nat.shiftLeft_shiftRight, hmid,
    hlow, Nat.or_zero, Nat.or_zero]

theorem word_operation (ho : operation < 2 ^ 8) (hl : low < 2 ^ 8) :
    word tag operation low >>> 8 &&& 0xff = operation := by
  rw [show (0xff : Nat) = 2 ^ 8 - 1 from rfl, shift_and_low_mask, word, field_or, field_or,
    field_shift_above (by decide), field_shift ho, field_of_lt hl, Nat.zero_or, Nat.or_zero]

theorem word_and (mask : Nat) (hm : mask < 2 ^ 8) :
    word tag operation low &&& mask = low &&& mask := by
  apply Nat.eq_of_testBit_eq
  intro j
  rw [word, Nat.testBit_and, Nat.testBit_and, Nat.testBit_or, Nat.testBit_or,
    Nat.testBit_shiftLeft, Nat.testBit_shiftLeft]
  by_cases hj : j < 8
  · have h16 : ¬16 ≤ j := by omega
    have h8 : ¬8 ≤ j := by omega
    simp [h16, h8]
  · have hbit : mask.testBit j = false :=
      Nat.testBit_lt_two_pow (Nat.lt_of_lt_of_le hm (Nat.pow_le_pow_right (by decide) (by omega)))
    simp [hbit]

theorem word_low (hl : low < 2 ^ 8) : word tag operation low &&& 0xff = low := by
  rw [word_and _ (by decide), show (0xff : Nat) = 2 ^ 8 - 1 from rfl, and_low_mask,
    field_zero_of_lt hl]

end Word

/-- What a reader is told about an operation, a kind and an instance. -/
def reading (operation kind : UInt8) (launch : Bool) (instanceCode : UInt16) : TickFailure where
  operation := operation
  kind := kind
  instanceCode :=
    if kind = 0x05 then
      UInt16.ofNat (min (instanceCode.toNat &&& 0x7fff) 0x7f |||
        (if instanceCode.toNat &&& 0x8000 ≠ 0 then 0x8000 else 0))
    else if kind = 0x09 ∨ kind = 0x0a ∨ kind = 0x0b ∨ (kind = 0x06 ∧ launch) then
      UInt16.ofNat (instanceCode.toNat &&& 0xff)
    else 0
  saturated := kind = 0x05 ∧ 0x7f ≤ instanceCode.toNat &&& 0x7fff

section Decoding

variable {operation kind : UInt8} {low : Nat}

theorem decode_native (hl : low < 2 ^ 8) :
    decodeTickFailure (word 0xAF1E operation.toNat low) = some ⟨operation, 0x05,
      UInt16.ofNat ((low &&& 0x7f) ||| (if low &&& 0x80 ≠ 0 then 0x8000 else 0)),
      low &&& 0x7f = 0x7f⟩ := by
  rw [decodeTickFailure, word_tag operation.toNat_lt hl, word_operation operation.toNat_lt hl,
    word_and 0x7f (by decide), word_and 0x80 (by decide)]
  simp

theorem decode_byte (tag : Nat) {kind : UInt8} (hl : low < 2 ^ 8)
    (ht : (tag, kind) ∈ [(0xAF1F, 0x09), (0xAF20, 0x06), (0xAF21, 0x0a), (0xAF22, 0x0b)]) :
    decodeTickFailure (word tag operation.toNat low) =
      some ⟨operation, kind, UInt16.ofNat low, false⟩ := by
  rw [decodeTickFailure, word_tag operation.toNat_lt hl, word_operation operation.toNat_lt hl,
    word_low hl]
  simp only [List.mem_cons, Prod.mk.injEq, List.not_mem_nil, or_false] at ht
  rcases ht with ⟨rfl, rfl⟩ | ⟨rfl, rfl⟩ | ⟨rfl, rfl⟩ | ⟨rfl, rfl⟩ <;> simp

theorem decode_plain (hk : kind.toNat < 2 ^ 4) :
    decodeTickFailure (word 0xAF18 operation.toNat kind.toNat) = some ⟨operation, kind, 0, false⟩ := by
  have hkind : kind.toNat &&& 0x0f = kind.toNat := by
    rw [show (0x0f : Nat) = 2 ^ 4 - 1 from rfl, and_low_mask, field_zero_of_lt hk]
  rw [decodeTickFailure, word_tag operation.toNat_lt kind.toNat_lt,
    word_operation operation.toNat_lt kind.toNat_lt, word_and _ (by decide), hkind]
  simp

end Decoding

theorem native_byte {magnitude : Nat} (output : Prop) [Decidable output] (hm : magnitude < 2 ^ 7) :
    ((if output then 0x80 else 0) ||| magnitude < 2 ^ 8) ∧
      ((if output then 0x80 else 0) ||| magnitude) &&& 0x7f = magnitude ∧
      (((if output then 0x80 else 0) ||| magnitude) &&& 0x80 ≠ 0 ↔ output) := by
  have hbyte : ((if output then 0x80 else 0) : Nat) = (if output then 1 else 0) <<< 7 := by
    split <;> rfl
  have hflag : ((if output then 1 else 0) : Nat) < 2 := by split <;> decide
  refine ⟨Nat.or_lt_two_pow (by split <;> decide) (by omega), ?_, ?_⟩
  · rw [show (0x7f : Nat) = 2 ^ 7 - 1 from rfl, and_low_mask, hbyte, field_or,
      field_shift_above (by decide), field_zero_of_lt hm, Nat.zero_or]
  · rw [show (0x80 : Nat) = 2 ^ 7 from rfl, and_bit_ne_zero, Nat.testBit_or,
      Nat.testBit_lt_two_pow hm, Bool.or_false]
    by_cases houtput : output
    · simp only [houtput, if_true, iff_true]
      decide
    · simp [houtput]

theorem decode_status (error : InitError) :
    decodeTickFailure (residentTickFailureApplicationStatus error) =
      some (reading (clampOperation (reported error).1) (clampKind (reported error).2)
        (isLaunchProtocol error) (failureInstance error)) := by
  have hkind : (clampKind (reported error).2).toNat < 2 ^ 4 := by
    rw [clampKind]
    split
    next h => 
      rcases h with ⟨-, h⟩ | h
      · exact Nat.lt_of_le_of_lt (UInt8.le_iff_toNat_le.mp h) (by decide)
      · rw [h]; decide
    next => decide
  rw [residentTickFailureApplicationStatus]
  generalize clampOperation (reported error).1 = operation
  generalize clampKind (reported error).2 = kind at hkind ⊢
  generalize (failureInstance error) = instanceCode
  have hlow : instanceCode.toNat &&& 0xff < 2 ^ 8 :=
    Nat.lt_of_le_of_lt Nat.and_le_right (by decide)
  dsimp only
  split
  next h =>
    subst h
    have hmin : (if 0x7f < instanceCode.toNat &&& 0x7fff then 0x7f else instanceCode.toNat &&& 0x7fff)
        = min (instanceCode.toNat &&& 0x7fff) 0x7f := by
      split <;> omega
    rw [hmin]
    have hseven : min (instanceCode.toNat &&& 0x7fff) 0x7f < 2 ^ 7 := by omega
    obtain ⟨hbyte, hmagnitude, hfamily⟩ := native_byte (instanceCode.toNat &&& 0x8000 ≠ 0) hseven
    have hword := @decode_native operation _ hbyte
    rw [word, ← Nat.or_assoc] at hword
    refine hword.trans ?_
    rw [hmagnitude]
    simp only [hfamily, reading]
    simp
  next h05 =>
    split
    next h =>
      subst h
      exact decode_byte 0xAF1F hlow (by simp)
    next h09 =>
      split
      next h =>
        subst h
        exact decode_byte 0xAF21 hlow (by simp)
      next h0a =>
        split
        next h =>
          subst h
          exact decode_byte 0xAF22 hlow (by simp)
        next h0b =>
          split
          next h =>
            obtain ⟨rfl, hlaunch⟩ := h
            rw [hlaunch]
            exact decode_byte 0xAF20 hlow (by simp)
          next h06 =>
            refine (decode_plain hkind).trans ?_
            simp [reading, h05, h09, h0a, h0b, h06]

end Wyrmroot.Diagnostics
