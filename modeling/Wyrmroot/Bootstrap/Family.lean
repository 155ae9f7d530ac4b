import Mathlib.Tactic.IntervalCases
import Wyrmroot.Lib.Digest
import Wyrmroot.Bootstrap.Model
import Wyrmroot.Diagnostics.TickFailure

/-!
# The exit code of the primordial bootstrap

`BootstrapError::exit_code` of `bootstrap/src/lib.rs` and
`NativeSystem::exit_code` of `bootstrap/src/main.rs`: one `u32` for every way
in which the bootstrap fails. A code is a `Nat` below `2 ^ 32`.

The programs of the bootstrap are written for every type of errors. Here it is
`Cause`: the native error with the number of the call of `BootstrapSystem`
that returned it, which no program can look at and no code is made from. A
status has a magnitude below `2 ^ 16`.
-/

namespace Wyrmroot.Bootstrap

open Diagnostics Packed
open Loader (LoadStage LaunchError)
open Supervision (ExitObservedReadinessError ExitValidationError ObservedSupervisionError
  ReceiveCounts SupervisionError TaskTerminationInfo TerminationAbi validateTerminalRecord)

def statusLimit : Nat := 2 ^ 16

/-- The magnitude of a status is below `statusLimit`. -/
def Bounded : NativeError → Prop
  | .status status => unsignedAbs status < statusLimit
  | .output _ => True

/-- A native error and, for the calls of `BootstrapSystem`, the number of the
call. -/
structure Cause where
  error : NativeError
  bounded : Bounded error
  operation : Nat

/-! ## Codes -/

def boundedU32 (value maximum : Nat) : Nat := if maximum < value then maximum else value

def boundedIndex (index : Nat) : Nat := if 0xFF < index then 0xFF else index

def launchErrorCode : LaunchError → Nat
  | .bufferSize => 1
  | .badMagic => 2
  | .badVersion => 3
  | .badType => 4
  | .nonzeroFlags => 5
  | .badTotalSize => 6
  | .badCapabilityCount => 7
  | .zeroTransaction => 8
  | .transactionMismatch => 9
  | .nonzeroReserved => 10
  | .badCapabilityRole index => 0x100 ||| boundedIndex index
  | .handleCount => 11
  | .handleMetadata index => 0x200 ||| boundedIndex index
  | .profileSpecificEncoderRequired => 0x300

def receiveCountsDetail (counts : ReceiveCounts) : Nat :=
  boundedU32 counts.bytes 0x7F <<< 7 ||| boundedU32 counts.handles 0x7F

def supervisionCode (category detail : Nat) : Nat :=
  0xB0200000 ||| boundedU32 detail 0x3FFF <<< 6 ||| category

def supervisionNativeCode (category : Nat) : NativeError → Nat
  | .status status => supervisionCode category (unsignedAbs status)
  | .output output => supervisionCode category (nativeOutputCode output) ||| 1 <<< 20

def supervisionExitCode : SupervisionError Cause → Nat
  | .unboundedDeadline => supervisionCode 1 0
  | .platform cause => supervisionNativeCode 2 cause.error
  | .exitQuery cause => supervisionNativeCode 3 cause.error
  | .invalidWaitResult => supervisionCode 4 0
  | .invalidReadyReceive counts => supervisionCode 5 (receiveCountsDetail counts)
  | .ready error => supervisionCode 6 (launchErrorCode error)
  | .exitedBeforeReady => supervisionCode 7 0
  | .peerClosedBeforeReady => supervisionCode 8 0
  | .duplicateReady => supervisionCode 9 0
  | .exit .invalidEnvelope => supervisionCode 10 0
  | .exit .notExited => supervisionCode 11 0
  | .exit .notNormalExit => supervisionCode 12 0
  | .exit (.nonzeroApplicationCode code) => code.toNat
  | .exit .nonzeroExceptionFields => supervisionCode 13 0
  | .exitObservedReadiness (.platform cause) => supervisionNativeCode 14 cause.error
  | .exitObservedReadiness .invalidWaitResult => supervisionCode 15 0
  | .exitObservedReadiness (.invalidReadyReceive counts) =>
      supervisionCode 16 (receiveCountsDetail counts)
  | .exitObservedReadiness (.ready error) => supervisionCode 17 (launchErrorCode error)
  | .exitObservedReadiness .duplicateReady => supervisionCode 18 0

def faultAddressClass (address : UInt64) : Nat :=
  if address = 0 then 0
  else if address < 0x0000800000000000 then 1
  else if 0xFFFF800000000000 ≤ address then 2
  else 3

def observedTerminalCode (category : Nat) (info : TaskTerminationInfo) : Nat :=
  0xB4000000 ||| faultAddressClass info.faultAddress <<< 22 |||
    boundedU32 info.reason.toNat 0xF <<< 18 ||| boundedU32 info.exceptionType.toNat 0xF <<< 14 |||
    boundedU32 info.detail.toNat 0xFF <<< 6 ||| category

def observedExitValidationCode (error : ExitValidationError) (info : TaskTerminationInfo) : Nat :=
  match error with
  | .invalidEnvelope => observedTerminalCode 10 info
  | .notExited => observedTerminalCode 11 info
  | .notNormalExit => observedTerminalCode 12 info
  | .nonzeroApplicationCode code => code.toNat
  | .nonzeroExceptionFields => observedTerminalCode 13 info

variable (abi : TerminationAbi)

def validateSuccessfulExit (info : TaskTerminationInfo) : Outcome ExitValidationError Unit := do
  validateTerminalRecord abi info
  Outcome.rejectIf (info.reason ≠ abi.normalExit) .notNormalExit
  Outcome.rejectIf (info.applicationCode ≠ 0) (.nonzeroApplicationCode info.applicationCode)
  Outcome.rejectIf (info.exceptionType ≠ 0 || info.detail ≠ 0 || info.faultAddress ≠ 0)
    .nonzeroExceptionFields

def observedTerminalReadinessCode (info : TaskTerminationInfo) (readinessCategory : Nat) : Nat :=
  match validateSuccessfulExit abi info with
  | .err error => observedExitValidationCode error info
  | _ => observedTerminalCode readinessCategory info

def observedReadinessCategory : ExitObservedReadinessError Cause → Nat
  | .platform _ => 14
  | .invalidWaitResult => 15
  | .invalidReadyReceive _ => 16
  | .ready _ => 17
  | .duplicateReady => 18

def observedSupervisionExitCode : ObservedSupervisionError Cause → Nat
  | .supervision error => supervisionExitCode error
  | .exitedBeforeReady info => observedTerminalReadinessCode abi info 7
  | .peerClosedBeforeReady info => observedTerminalReadinessCode abi info 8
  | .exit error info => observedExitValidationCode error info
  | .exitObservedReadiness error info => observedTerminalCode (observedReadinessCategory error) info

def childCleanupStageCode : ChildCleanupStage → Nat
  | .processTerminate => 1
  | .launchChannelClose => 2
  | .processHandleClose => 3

def cleanupExitCode (error : ChildCleanupError Cause) : Nat :=
  let cause := match error.cause.error with
    | .status status => 0xB2000000 ||| boundedStatusCode (unsignedAbs status)
    | .output output => 0xB2000000 ||| 0x8000 ||| nativeOutputCode output
  cause ||| childCleanupStageCode error.stage <<< 16

def loadStageCode : LoadStage → Nat
  | .channelCreate => 1
  | .channelReduce => 2
  | .processCreate => 3
  | .memoryCreate => 4
  | .parentMaterialize => 5
  | .parentUnmap => 6
  | .childMap => 7
  | .threadCreate => 8
  | .capabilityDuplicate => 9
  | .initSend => 10
  | .threadStart => 11
  | .successCleanup => 12

def loaderPlatformExitCode (stage : LoadStage) (cause : NativeError) (rollbackFailed : Bool) : Nat :=
  let rollback := if rollbackFailed then 1 <<< 23 else 0
  let cause := match cause with
    | .status status => boundedStatusCode (unsignedAbs status)
    | .output output => 0x8000 ||| nativeOutputCode output
  0xB1000000 ||| rollback ||| loadStageCode stage <<< 16 ||| cause

def exitCode : BootstrapError Cause → Nat
  | .native ⟨.status status, _, _⟩ => 0xB0000000 ||| 0x00010000 ||| unsignedAbs status
  | .native ⟨.output output, _, _⟩ => 0xB0000000 ||| 0x00020000 ||| nativeOutputCode output
  | .bootstrapChannel _ => 0xB0000000 ||| 0x02
  | .protocol _ => 0xB0000000 ||| 0x03
  | .receiveCounts _ => 0xB0000000 ||| 0x04
  | .unexpectedMessage => 0xB0000000 ||| 0x05
  | .unexpectedTransactionId => 0xB0000000 ||| 0x06
  | .capability _ => 0xB0000000 ||| 0x07
  | .mapping _ => 0xB0000000 ||| 0x08
  | .bootfs _ => 0xB0000000 ||| 0x09
  | .missingRequiredEntry => 0xB0000000 ||| 0x0A
  | .requiredEntryNotExecutable => 0xB0000000 ||| 0x0B
  | .loader (.platform stage cause rollbackFailed) =>
      loaderPlatformExitCode stage cause.error rollbackFailed
  | .loader (.elf _) => 0xB0000000 ||| 0x0101
  | .loader (.startup _) => 0xB0000000 ||| 0x0102
  | .loader (.launch _) => 0xB0000000 ||| 0x0103
  | .supervision error => supervisionExitCode error
  | .observedSupervision error => observedSupervisionExitCode abi error
  | .cleanup error => cleanupExitCode error
  | .missingLoadedProcess => 0xB0000000 ||| 0x0301

/-! ## The native system -/

/-- What a call of `BootstrapSystem` that fails leaves in
`failed_native_operation`; the mapping of the bootfs and its unmapping are
told apart. -/
def Call.operation : Call → Nat
  | .queryCapabilityInfo _ => 1
  | .receiveChannel _ _ _ => 2
  | .queryMemoryObjectSize _ => 3
  | .mapBootfs _ _ _ => 4
  | .unmapBootfs _ _ _ => 5
  | .sendChannel _ _ => 6
  | .closeHandle _ => 7

/-- An answer of the kernel. -/
abbrev KernelError := { error : NativeError // Bounded error }

def KernelError.answering (error : KernelError) (operation : Nat) : Cause :=
  ⟨error.1, error.2, operation⟩

/-- The three native platforms, with the calls that answer named in their
errors. -/
def nativeSystem {τ : Type} (p : Platform τ KernelError) : Platform τ Cause where
  system c s := ((p.system c s).1.mapError (KernelError.answering · c.operation), (p.system c s).2)
  loader := ⟨fun c s => ((p.loader.call c s).1.mapError (KernelError.answering · 0),
    (p.loader.call c s).2)⟩
  supervisor := ⟨fun c s => ((p.supervisor.call c s).1.mapError (KernelError.answering · 0),
    (p.supervisor.call c s).2)⟩

/-- The operations of the calls of `BootstrapSystem` that fail, in order. -/
def Event.failedOperation : Event → List Nat
  | .failed c => [c.operation]
  | _ => []

def failedOperations (w : List Event) : List Nat := Prog.digest Event.failedOperation w

/-- `failed_native_operation` after a run: every failing call overwrites it,
and nothing else does. -/
def failedNativeOperation (w : List Event) : Nat := (failedOperations w).getLastD 0

def nativeSystemExitCode (operation : Nat) (error : BootstrapError Cause) : Nat :=
  match error with
  | .native _ => exitCode abi error ||| operation <<< 20
  | _ => exitCode abi error

/-!
## Reading an exit code

The high byte of a code tells three families apart. The fourth byte, `0xB0`,
is shared: bits 23..20 are the operation of a native error, or what
`supervision_code` has there. A native error of a receive, operation 2, has a
code that is also the code of a supervision error whose detail goes beyond ten
bits, and those are all the codes with two readings.
-/

inductive Family where
  | native
  | loaderPlatform
  | cleanup
  | supervision
  | observedTerminal
  | bootstrap
deriving DecidableEq

def supervisionFamily : SupervisionError Cause → Option Family
  | .exit (.nonzeroApplicationCode _) => none
  | _ => some .supervision

def terminalFamily : Outcome ExitValidationError Unit → Option Family
  | .err (.nonzeroApplicationCode _) => none
  | _ => some .observedTerminal

def observedFamily : ObservedSupervisionError Cause → Option Family
  | .supervision error => supervisionFamily error
  | .exitedBeforeReady info | .peerClosedBeforeReady info =>
      terminalFamily (validateSuccessfulExit abi info)
  | .exit error _ => terminalFamily (.err error)
  | .exitObservedReadiness _ _ => some .observedTerminal

/-- The family of an error, unless its code is a descendant's own. -/
def family : BootstrapError Cause → Option Family
  | .native _ => some .native
  | .loader (.platform ..) => some .loaderPlatform
  | .supervision error => supervisionFamily error
  | .observedSupervision error => observedFamily abi error
  | .cleanup _ => some .cleanup
  | _ => some .bootstrap

/-- What a reader of an exit code takes it for. -/
def readFamily (code : Nat) : Family :=
  let operation := field code 20 4
  let kind := field code 16 4
  let low := field code 0 16
  if field code 24 8 = 0xB1 then .loaderPlatform
  else if field code 24 8 = 0xB2 then .cleanup
  else if field code 24 8 = 0xB4 then .observedTerminal
  else if operation = 0 then .bootstrap
  else if operation = 2 then
    if kind = 1 ∨ (kind = 2 ∧ 1 ≤ low ∧ low ≤ 8) then .native else .supervision
  else if operation = 3 ∧ kind = 0 then .supervision
  else .native

/-! ## Supervision -/

def supervisionCategory : SupervisionError Cause → Nat
  | .unboundedDeadline => 1
  | .platform _ => 2
  | .exitQuery _ => 3
  | .invalidWaitResult => 4
  | .invalidReadyReceive _ => 5
  | .ready _ => 6
  | .exitedBeforeReady => 7
  | .peerClosedBeforeReady => 8
  | .duplicateReady => 9
  | .exit .invalidEnvelope => 10
  | .exit .notExited => 11
  | .exit .notNormalExit => 12
  | .exit (.nonzeroApplicationCode _) => 0
  | .exit .nonzeroExceptionFields => 13
  | .exitObservedReadiness error => observedReadinessCategory error

def nativeDetail : NativeError → Nat
  | .status status => unsignedAbs status
  | .output _ => 0

/-- The magnitude of the status, or the counts of the receive. -/
def readinessDetail : ExitObservedReadinessError Cause → Nat
  | .platform cause => nativeDetail cause.error
  | .invalidReadyReceive counts => receiveCountsDetail counts
  | _ => 0

def supervisionDetail : SupervisionError Cause → Nat
  | .platform cause | .exitQuery cause => nativeDetail cause.error
  | .invalidReadyReceive counts => receiveCountsDetail counts
  | .exitObservedReadiness error => readinessDetail error
  | _ => 0

/-- The supervision errors that have the code of a native one. -/
def Shared (error : SupervisionError Cause) : Prop :=
  (1024 ≤ supervisionDetail error ∧ supervisionDetail error < 2048) ∨
    (supervisionDetail error = 2048 ∧ supervisionCategory error ≤ 8)

theorem boundedU32_le (value maximum : Nat) : boundedU32 value maximum ≤ maximum := by
  rw [boundedU32]
  split <;> omega

variable {category detail : Nat}

theorem supervisionCode_eq (hc : category < 2 ^ 6) :
    supervisionCode category detail =
      (0xB02 * 2 ^ 14 + boundedU32 detail 0x3FFF) * 2 ^ 6 + category := by
  have hle := boundedU32_le detail 0x3FFF
  have hfirst : 0xB0200000 ||| boundedU32 detail 0x3FFF <<< 6 =
      (0xB02 * 2 ^ 14 + boundedU32 detail 0x3FFF) * 2 ^ 6 := by
    rw [show (0xB0200000 : Nat) = 0xB02 * 2 ^ 20 from rfl,
      or_eq_add (shift_lt (m := 14) (by omega) (by decide)), Nat.shiftLeft_eq]
    omega
  rw [supervisionCode, hfirst, or_eq_add hc]

theorem supervisionCode_fields {detail : Nat} (hc : category < 2 ^ 6) :
    field (supervisionCode category detail) 24 8 = 0xB0 ∧
      field (supervisionCode category detail) 20 4 = 2 ∧
      field (supervisionCode category detail) 16 4 = boundedU32 detail 0x3FFF / 1024 ∧
      field (supervisionCode category detail) 0 16 =
        boundedU32 detail 0x3FFF % 1024 * 64 + category := by
  have hle := boundedU32_le detail 0x3FFF
  rw [supervisionCode_eq hc]
  generalize boundedU32 detail 0x3FFF = d at hle ⊢
  simp only [field, Nat.shiftRight_eq_div_pow]
  omega

theorem readFamily_supervisionCode (hc : category < 2 ^ 6) (hpos : 0 < category) :
    readFamily (supervisionCode category detail) = .supervision ↔
      ¬((1024 ≤ detail ∧ detail < 2048) ∨ (detail = 2048 ∧ category ≤ 8)) := by
  obtain ⟨hbyte, hoperation, hkind, hlow⟩ := @supervisionCode_fields category detail hc
  have hshared : (boundedU32 detail 0x3FFF / 1024 = 1 ∨ (boundedU32 detail 0x3FFF / 1024 = 2 ∧
      1 ≤ boundedU32 detail 0x3FFF % 1024 * 64 + category ∧
      boundedU32 detail 0x3FFF % 1024 * 64 + category ≤ 8)) ↔
      (1024 ≤ detail ∧ detail < 2048) ∨ (detail = 2048 ∧ category ≤ 8) := by
    rw [boundedU32]
    split <;> omega
  rw [← hshared, readFamily, hbyte, hoperation, hkind, hlow]
  simp only [Nat.reduceEqDiff, if_false, if_true]
  split
  next h => exact iff_of_false (by rintro ⟨⟩) (not_not_intro h)
  next h => exact iff_of_true rfl h

theorem readFamily_output (output : NativeOutputError) (hc : category < 2 ^ 6) :
    readFamily (supervisionCode category (nativeOutputCode output) ||| 1 <<< 20) = .supervision := by
  obtain ⟨hbyte, hoperation, hkind, -⟩ :=
    @supervisionCode_fields category (nativeOutputCode output) hc
  have hsmall : boundedU32 (nativeOutputCode output) 0x3FFF / 1024 = 0 := by
    cases output <;> rfl
  rw [readFamily, field_or, field_or, field_or, hbyte, hoperation, hkind, hsmall]
  rfl

theorem launchErrorCode_lt (error : LaunchError) : launchErrorCode error < 1024 := by
  have hindex : ∀ index, boundedIndex index < 2 ^ 10 := by
    intro index
    rw [boundedIndex]
    split <;> omega
  cases error with
  | badCapabilityRole index | handleMetadata index =>
      exact Nat.or_lt_two_pow (n := 10) (by decide) (hindex index)
  | _ => decide

theorem readFamily_native (error : NativeError) (hc : category < 2 ^ 6) (hpos : 0 < category) :
    readFamily (supervisionNativeCode category error) = .supervision ↔
      ¬((1024 ≤ nativeDetail error ∧ nativeDetail error < 2048) ∨
        (nativeDetail error = 2048 ∧ category ≤ 8)) := by
  cases error with
  | status status => exact readFamily_supervisionCode hc hpos
  | output output =>
      refine iff_of_true (readFamily_output output hc) ?_
      simp [nativeDetail]

theorem readFamily_supervision {error : SupervisionError Cause}
    (hown : supervisionFamily error = some .supervision) :
    readFamily (supervisionExitCode error) = .supervision ↔ ¬Shared error := by
  have hready : ∀ (category : Nat) (e : LaunchError), category < 2 ^ 6 → 0 < category →
      readFamily (supervisionCode category (launchErrorCode e)) = .supervision := by
    intro category e hc hpos
    have hlt := launchErrorCode_lt e
    exact (readFamily_supervisionCode hc hpos).mpr (by omega)
  cases error with
  | platform cause | exitQuery cause => exact readFamily_native cause.error (by decide) (by decide)
  | invalidReadyReceive counts => exact readFamily_supervisionCode (by decide) (by decide)
  | ready e =>
      exact iff_of_true (hready 6 e (by decide) (by decide)) (by simp [Shared, supervisionDetail])
  | exit e =>
      cases e with
      | nonzeroApplicationCode code => cases hown
      | _ => exact readFamily_supervisionCode (by decide) (by decide)
  | exitObservedReadiness e =>
      cases e with
      | platform cause => exact readFamily_native cause.error (by decide) (by decide)
      | ready e =>
          exact iff_of_true (hready 17 e (by decide) (by decide))
            (by simp [Shared, supervisionDetail, readinessDetail])
      | _ => exact readFamily_supervisionCode (by decide) (by decide)
  | _ => exact readFamily_supervisionCode (by decide) (by decide)

/-! ## Codes with two readings -/

theorem Shared.code {error : SupervisionError Cause} (h : Shared error) :
    supervisionExitCode error =
      supervisionCode (supervisionCategory error) (supervisionDetail error) := by
  have hnative : ∀ (category : Nat) (e : NativeError), 1024 ≤ nativeDetail e →
      supervisionNativeCode category e = supervisionCode category (nativeDetail e) := by
    intro category e he
    cases e with
    | status status => rfl
    | output output => exact absurd he (Nat.not_succ_le_zero _)
  have hlarge : 1024 ≤ supervisionDetail error := by
    rcases h with h | h <;> omega
  cases error with
  | platform cause => exact hnative 2 cause.error hlarge
  | exitQuery cause => exact hnative 3 cause.error hlarge
  | invalidReadyReceive counts => rfl
  | exitObservedReadiness e =>
      cases e with
      | platform cause => exact hnative 14 cause.error hlarge
      | invalidReadyReceive counts => rfl
      | _ => exact absurd hlarge (of_decide_eq_false rfl)
  | _ => exact absurd hlarge (of_decide_eq_false rfl)

theorem supervisionCategory_lt (error : SupervisionError Cause) :
    supervisionCategory error < 2 ^ 6 := by
  cases error with
  | exit e => cases e <;> simp [supervisionCategory]
  | exitObservedReadiness e => cases e <;> simp [supervisionCategory, observedReadinessCategory]
  | _ => simp [supervisionCategory]

theorem supervisionCategory_pos {error : SupervisionError Cause} (h : 0 < supervisionDetail error) :
    0 < supervisionCategory error := by
  cases error with
  | exit e => exact absurd h (Nat.not_lt_zero 0)
  | exitObservedReadiness e => cases e <;> simp [supervisionCategory, observedReadinessCategory]
  | _ => simp [supervisionCategory]

theorem exists_status {magnitude : Nat} (h : magnitude < 2 ^ 16) :
    ∃ status : Int32, unsignedAbs status = magnitude := by
  refine ⟨Int32.ofInt magnitude, ?_⟩
  rw [unsignedAbs, Int32.toInt_ofInt_of_le (by omega) (by omega)]
  exact Int.natAbs_natCast magnitude

theorem exists_output {code : Nat} (hpos : 0 < code) (hle : code ≤ 8) :
    ∃ output, nativeOutputCode output = code := by
  interval_cases code
  · exact ⟨.invalidObjectInfo, rfl⟩
  · exact ⟨.invalidMemoryObjectInfo, rfl⟩
  · exact ⟨.invalidChannelReceive, rfl⟩
  · exact ⟨.invalidMappedRange, rfl⟩
  · exact ⟨.invalidLoaderOutput, rfl⟩
  · exact ⟨.invalidWaitResult, rfl⟩
  · exact ⟨.invalidTaskTerminationInfo, rfl⟩
  · exact ⟨.deadlineOverflow, rfl⟩

/-! ## The other families -/

theorem readFamily_byte {code : Nat} :
    (field code 24 8 = 0xB1 → readFamily code = .loaderPlatform) ∧
      (field code 24 8 = 0xB2 → readFamily code = .cleanup) ∧
      (field code 24 8 = 0xB4 → readFamily code = .observedTerminal) := by
  refine ⟨fun h => ?_, fun h => ?_, fun h => ?_⟩ <;>
  · rw [readFamily, h]
    rfl

theorem readFamily_bootstrap (hc : category < 2 ^ 16) :
    readFamily (0xB0000000 ||| category) = .bootstrap := by
  rw [readFamily, field_or_of_lt _ (Nat.lt_trans hc (by decide)),
    field_or_of_lt _ (Nat.lt_trans hc (by decide))]
  rfl

theorem observedReadinessCategory_lt (error : ExitObservedReadinessError Cause) :
    observedReadinessCategory error < 2 ^ 6 := by
  cases error <;> simp [observedReadinessCategory]

theorem readFamily_loaderPlatform (stage : LoadStage) (cause : NativeError)
    (rollbackFailed : Bool) :
    readFamily (loaderPlatformExitCode stage cause rollbackFailed) = .loaderPlatform := by
  refine readFamily_byte.1 ?_
  have hstage : loadStageCode stage < 2 ^ 4 := by cases stage <;> decide
  have hrollback : (if rollbackFailed then 1 <<< 23 else 0) < 2 ^ 24 := by split <;> decide
  have hprefix : ∀ low < 2 ^ 16, field (0xB1000000 ||| (if rollbackFailed then 1 <<< 23 else 0) |||
      loadStageCode stage <<< 16 ||| low) 24 8 = 0xB1 := by
    intro low hlow
    rw [field_or_of_lt _ (Nat.lt_trans hlow (by decide)),
      field_or_of_lt _ (shift_lt hstage (by decide)), field_or_of_lt _ hrollback]
    rfl
  cases cause with
  | status status => exact hprefix _ (nativeErrorCode_lt (.status status))
  | output output => exact hprefix _ (nativeErrorCode_lt (.output output))

theorem readFamily_cleanup (error : ChildCleanupError Cause) :
    readFamily (cleanupExitCode error) = .cleanup := by
  refine readFamily_byte.2.1 ?_
  have hstage : childCleanupStageCode error.stage < 2 ^ 4 := by cases error.stage <;> decide
  rw [cleanupExitCode, field_or_of_lt _ (shift_lt hstage (by decide))]
  cases error.cause.error with
  | status status =>
      rw [field_or_of_lt _ (Nat.lt_trans (boundedStatusCode_lt _) (by decide))]
      rfl
  | output output => cases output <;> rfl

theorem faultAddressClass_lt (address : UInt64) : faultAddressClass address < 2 ^ 2 := by
  rw [faultAddressClass]
  split
  · decide
  split
  · decide
  split <;> decide

theorem readFamily_observedTerminal (info : TaskTerminationInfo) (hc : category < 2 ^ 6) :
    readFamily (observedTerminalCode category info) = .observedTerminal := by
  refine readFamily_byte.2.2 ?_
  have hreason : boundedU32 info.reason.toNat 0xF < 2 ^ 4 :=
    Nat.lt_succ_of_le (boundedU32_le _ _)
  have hexception : boundedU32 info.exceptionType.toNat 0xF < 2 ^ 4 :=
    Nat.lt_succ_of_le (boundedU32_le _ _)
  have hdetail : boundedU32 info.detail.toNat 0xFF < 2 ^ 8 := Nat.lt_succ_of_le (boundedU32_le _ _)
  rw [observedTerminalCode, field_or_of_lt _ (Nat.lt_trans hc (by decide)),
    field_or_of_lt _ (shift_lt hdetail (by decide)),
    field_or_of_lt _ (shift_lt hexception (by decide)),
    field_or_of_lt _ (shift_lt hreason (by decide)),
    field_or_of_lt _ (shift_lt (faultAddressClass_lt _) (by decide))]
  rfl

variable {info : TaskTerminationInfo} {f : Family}

theorem readFamily_validation {error : ExitValidationError}
    (hown : terminalFamily (.err error) = some f) :
    readFamily (observedExitValidationCode error info) = f := by
  cases error with
  | nonzeroApplicationCode code => cases hown
  | _ =>
      obtain rfl := Option.some.inj hown
      exact readFamily_observedTerminal info (by decide)

theorem readFamily_readiness
    (hc : category < 2 ^ 6) (hown : terminalFamily (validateSuccessfulExit abi info) = some f) :
    readFamily (observedTerminalReadinessCode abi info category) = f := by
  rw [observedTerminalReadinessCode]
  cases hvalid : validateSuccessfulExit abi info with
  | err error =>
      rw [hvalid] at hown
      exact readFamily_validation hown
  | ok u | panic =>
      rw [hvalid] at hown
      obtain rfl := Option.some.inj hown
      exact readFamily_observedTerminal info hc

/-! ## Native errors -/

theorem native_fields (cause : Cause) {operation : Nat} (ho : operation < 2 ^ 4) :
    let code := nativeSystemExitCode abi operation (.native cause)
    field code 24 8 = 0xB0 ∧ field code 20 4 = operation ∧
      (field code 16 4 = 1 ∨ (field code 16 4 = 2 ∧ 1 ≤ field code 0 16 ∧ field code 0 16 ≤ 8)) := by
  intro code
  have hhigh : field (operation <<< 20) 24 8 = 0 := field_of_lt (shift_lt ho (by decide))
  have hself : field (operation <<< 20) 20 4 = operation := field_shift ho
  have hkind : field (operation <<< 20) 16 4 = 0 := field_shift_above (by decide)
  have hlow : field (operation <<< 20) 0 16 = 0 := field_shift_above (by decide)
  obtain ⟨error, hbounded, source⟩ := cause
  cases error with
  | status status =>
      have hcode : ∀ i n, field code i n =
          field (0xB0000000 ||| 0x00010000 ||| unsignedAbs status) i n |||
            field (operation <<< 20) i n := fun i n => field_or _ _ i n
      have hstatus : unsignedAbs status < 2 ^ 16 := hbounded
      refine ⟨?_, ?_, .inl ?_⟩
      · rw [hcode, hhigh, field_or_of_lt _ (Nat.lt_trans hstatus (by decide))]
        rfl
      · rw [hcode, hself, field_or_of_lt _ (Nat.lt_trans hstatus (by decide))]
        exact Nat.zero_or operation
      · rw [hcode, hkind, field_or_of_lt _ hstatus]
        rfl
  | output output =>
      have hcode : ∀ i n, field code i n =
          field (0xB0000000 ||| 0x00020000 ||| nativeOutputCode output) i n |||
            field (operation <<< 20) i n := fun i n => field_or _ _ i n
      refine ⟨?_, ?_, .inr ?_⟩
      · rw [hcode, hhigh]
        cases output <;> rfl
      · rw [hcode, hself]
        cases output <;> exact Nat.zero_or operation
      · rw [hcode, hcode, hkind, hlow]
        cases output <;> decide

theorem readFamily_nativeSystem (cause : Cause) {operation : Nat} (hpos : 0 < operation)
    (ho : operation < 2 ^ 4) :
    readFamily (nativeSystemExitCode abi operation (.native cause)) = .native := by
  obtain ⟨hbyte, hoperation, hkind⟩ := native_fields abi cause ho
  have hzero : ¬operation = 0 := by omega
  have hthree : ¬(operation = 3 ∧
      field (nativeSystemExitCode abi operation (.native cause)) 16 4 = 0) := by omega
  rw [readFamily, hbyte, hoperation]
  simp only [Nat.reduceEqDiff, if_false, hzero, hkind, if_true, hthree]
  split <;> rfl

/-- A receive that fails has the code of any shared supervision error. -/
theorem Shared.native {error : SupervisionError Cause} (h : Shared error) :
    ∃ cause : Cause, cause.operation = 2 ∧
      nativeSystemExitCode abi 2 (.native cause) = supervisionExitCode error := by
  have hcategory := supervisionCategory_lt error
  rw [h.code, supervisionCode_eq hcategory]
  have hswap : ∀ a b : Nat, 0xB0000000 ||| a ||| b ||| 2 <<< 20 = 0xB0000000 ||| a ||| 2 <<< 20 ||| b := by
    intro a b
    rw [Nat.or_assoc, Nat.or_comm b, ← Nat.or_assoc]
  have hbounded : boundedU32 (supervisionDetail error) 0x3FFF = supervisionDetail error := by
    rw [boundedU32, if_neg (by rcases h with h | h <;> omega)]
  rw [hbounded]
  rcases h with ⟨hlow, hhigh⟩ | ⟨hdetail, hle⟩
  · have hmagnitude : (supervisionDetail error - 1024) * 64 + supervisionCategory error < 2 ^ 16 := by
      omega
    obtain ⟨status, hstatus⟩ := exists_status hmagnitude
    refine ⟨⟨.status status, ?_, 2⟩, rfl, ?_⟩
    · show unsignedAbs status < 2 ^ 16
      rwa [hstatus]
    · show 0xB0000000 ||| 0x00010000 ||| unsignedAbs status ||| 2 <<< 20 = _
      rw [hswap, hstatus, show 0xB0000000 ||| 0x00010000 ||| 2 <<< 20 = 0xB021 * 2 ^ 16 from rfl,
        or_eq_add hmagnitude]
      omega
  · have hpos := @supervisionCategory_pos error (by omega)
    obtain ⟨output, houtput⟩ := exists_output hpos hle
    refine ⟨⟨.output output, trivial, 2⟩, rfl, ?_⟩
    show 0xB0000000 ||| 0x00020000 ||| nativeOutputCode output ||| 2 <<< 20 = _
    have hsmall : nativeOutputCode output < 2 ^ 16 :=
      Nat.lt_trans (nativeOutputCode_lt output) (by decide)
    rw [hswap, show 0xB0000000 ||| 0x00020000 ||| 2 <<< 20 = 0xB022 * 2 ^ 16 from rfl,
      or_eq_add hsmall, houtput, hdetail]
    rfl

/-- Whether a reader of the code is misled about the family. -/
def Misread : BootstrapError Cause → Prop
  | .supervision error | .observedSupervision (.supervision error) => Shared error
  | _ => False

theorem Shared.own {error : SupervisionError Cause} (h : Shared error) :
    supervisionFamily error = some .supervision := by
  cases error with
  | exit e =>
      have hzero : supervisionDetail (.exit e) = 0 := rfl
      rw [Shared, hzero] at h
      omega
  | _ => rfl

theorem Misread.own {error : BootstrapError Cause} (h : Misread error) :
    family abi error = some .supervision := by
  cases error with
  | supervision e => exact Shared.own h
  | observedSupervision e =>
      cases e with
      | supervision e => exact Shared.own h
      | _ => exact h.elim
  | _ => exact h.elim

/-- A code that is the bootstrap's own is read as what it is, unless it is
shared. -/
theorem readFamily_iff {error : BootstrapError Cause} {operation : Nat}
    (hoperation : ∀ cause, error = .native cause → 0 < operation ∧ operation < 2 ^ 4)
    (hown : family abi error = some f) :
    readFamily (nativeSystemExitCode abi operation error) = f ↔ ¬Misread error := by
  have hsupervision : ∀ e : SupervisionError Cause, supervisionFamily e = some f →
      (readFamily (supervisionExitCode e) = f ↔ ¬Shared e) := by
    intro e he
    have hf : f = .supervision := by
      cases e with
      | exit reason =>
          cases reason with
          | nonzeroApplicationCode code => cases he
          | _ => exact (Option.some.inj he).symm
      | _ => exact (Option.some.inj he).symm
    subst hf
    exact readFamily_supervision he
  cases error with
  | native cause =>
      obtain rfl := Option.some.inj hown
      obtain ⟨hpos, ho⟩ := hoperation cause rfl
      exact iff_of_true (readFamily_nativeSystem abi cause hpos ho) not_false
  | loader e =>
      cases e with
      | platform stage cause rollbackFailed =>
          obtain rfl := Option.some.inj hown
          exact iff_of_true (readFamily_loaderPlatform stage cause.error rollbackFailed) not_false
      | _ =>
          obtain rfl := Option.some.inj hown
          exact iff_of_true (readFamily_bootstrap (by decide)) not_false
  | supervision e => exact hsupervision e hown
  | observedSupervision e =>
      cases e with
      | supervision e => exact hsupervision e hown
      | exitedBeforeReady info | peerClosedBeforeReady info =>
          exact iff_of_true (readFamily_readiness abi (by decide) hown) not_false
      | exit reason info => exact iff_of_true (readFamily_validation hown) not_false
      | exitObservedReadiness e info =>
          obtain rfl := Option.some.inj hown
          exact iff_of_true (readFamily_observedTerminal info (observedReadinessCategory_lt e))
            not_false
  | cleanup e =>
      obtain rfl := Option.some.inj hown
      exact iff_of_true (readFamily_cleanup e) not_false
  | _ =>
      obtain rfl := Option.some.inj hown
      exact iff_of_true (readFamily_bootstrap (by decide)) not_false

/-- The shared codes are those of the supervision errors that no reader who knows the native ones tells
from them. -/
theorem shared_iff_unreadable (error : SupervisionError Cause) :
    Shared error ↔ supervisionFamily error = some .supervision ∧ ∀ read : Nat → Family,
      (∀ operation cause, 0 < operation → operation < 2 ^ 4 →
        read (nativeSystemExitCode abi operation (.native cause)) = .native) →
      read (supervisionExitCode error) ≠ .supervision := by
  constructor
  · intro h
    refine ⟨h.own, fun read hnative hread => ?_⟩
    obtain ⟨cause, -, hcode⟩ := h.native abi
    have hboth := hnative 2 cause (by decide) (by decide)
    rw [hcode, hread] at hboth
    cases hboth
  · intro h
    obtain ⟨hown, hunreadable⟩ := h
    by_contra hshared
    exact hunreadable readFamily (fun _ cause hpos hlt => readFamily_nativeSystem abi cause hpos hlt)
      ((readFamily_supervision hown).mpr hshared)

end Wyrmroot.Bootstrap
