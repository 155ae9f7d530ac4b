import Wyrmroot.Diagnostics.TickFailure

/-!
# What attribution keeps

An error is claimed by the innermost operation it passes through. From there
on it carries that operation, its kind and its instance, and nothing above
changes them; what the dispatcher adds is whether its emergency cleanup
failed. A reader of the status is told all of it, but for a refused launch
message: the encoder gives that one its tag by the variant of the error,
which attribution has replaced.
-/

namespace Wyrmroot.Diagnostics

variable {α : Type}

/-! ## Wrapping -/

/-- The calls of `attribute_failure` that a result passes through, innermost
first. -/
def attributeEach (operations : List RecoveryOperation) (result : Except InitError α) :
    Except InitError α :=
  operations.foldl (fun result operation => attributeFailure operation result) result

/-- The call of `dispatch_failure`, where the dispatcher is among the
callers. -/
def dispatchOptional (emergencyCleanup : Option EmergencyCleanup) (result : Except InitError α) :
    Except InitError α :=
  match emergencyCleanup with
  | none => result
  | some emergencyCleanup => result.mapError (dispatchFailure · emergencyCleanup)

theorem attributeEach_attributed (operations : List RecoveryOperation) {error : InitError}
    (h : error.attributed = true) :
    attributeEach operations (.error error : Except InitError α) = .error error := by
  induction operations with
  | nil => rfl
  | cons operation rest ih =>
      cases error with
      | recoveryTransition => exact ih
      | _ => cases h

theorem attributeFailure_error (operation : RecoveryOperation) {error : InitError}
    (h : error.attributed = false) :
    attributeFailure operation (.error error : Except InitError α) =
      .error (.recoveryTransition operation.code (failureKind error) (failureInstance error)
        .notRun) := by
  cases error with
  | recoveryTransition => cases h
  | _ => rfl

theorem chain_error (operation : RecoveryOperation) (inner outer : List RecoveryOperation)
    (emergencyCleanup : Option EmergencyCleanup) {error : InitError}
    (h : error.attributed = false) :
    attributeEach outer (dispatchOptional emergencyCleanup
        (attributeEach (operation :: inner) (.error error : Except InitError α))) =
      .error (.recoveryTransition operation.code (failureKind error) (failureInstance error)
        (emergencyCleanup.getD .notRun)) := by
  have hinner : attributeEach (operation :: inner) (.error error : Except InitError α) =
      .error (.recoveryTransition operation.code (failureKind error) (failureInstance error)
        .notRun) := by
    rw [attributeEach, List.foldl_cons, attributeFailure_error operation h]
    exact attributeEach_attributed inner rfl
  rw [hinner]
  cases emergencyCleanup with
  | none | some emergencyCleanup => exact attributeEach_attributed outer rfl

/-! ## The report -/

/-- The kinds whose causes have an instance. -/
def carriesInstance (kind : UInt8) : Bool :=
  kind = 0x05 ∨ kind = 0x06 ∨ kind = 0x09 ∨ kind = 0x0a ∨ kind = 0x0b

theorem clampOperation_code (operation : RecoveryOperation) :
    clampOperation operation.code = operation.code := by
  cases operation <;> decide

theorem clampKind_failureKind {error : InitError} (h : error.attributed = false) :
    clampKind (failureKind error) = failureKind error := by
  cases error with
  | recoveryTransition => cases h
  | _ => rfl

theorem native_instance (error : NativeError) :
    let instanceCode := UInt16.ofNat (nativeErrorCode error)
    0x7f ≤ instanceCode.toNat &&& 0x7fff ∨
      UInt16.ofNat (min (instanceCode.toNat &&& 0x7fff) 0x7f |||
        (if instanceCode.toNat &&& 0x8000 ≠ 0 then 0x8000 else 0)) = instanceCode := by
  cases error with
  | status status =>
      intro instanceCode
      have hlt := boundedStatusCode_lt (unsignedAbs status)
      have hcode : instanceCode.toNat = boundedStatusCode (unsignedAbs status) :=
        UInt16.toNat_ofNat_of_lt (by rw [nativeErrorCode]; simp only [UInt16.size]; omega)
      have hmagnitude : instanceCode.toNat &&& 0x7fff = instanceCode.toNat := by
        rw [show (0x7fff : Nat) = 2 ^ 15 - 1 from rfl, Packed.and_low_mask,
          Packed.field_zero_of_lt (by omega)]
      have hfamily : ¬instanceCode.toNat &&& 0x8000 ≠ 0 := by
        rw [show (0x8000 : Nat) = 2 ^ 15 from rfl, Packed.and_bit_ne_zero,
          Nat.testBit_lt_two_pow (by omega)]
        decide
      by_cases hsat : 0x7f ≤ instanceCode.toNat
      · left
        rwa [hmagnitude]
      · right
        rw [if_neg hfamily, hmagnitude, Nat.min_eq_left (by omega), Nat.or_zero,
          UInt16.ofNat_toNat]
  | output output => cases output <;> decide

theorem byte_instance (value : UInt8) :
    UInt16.ofNat (value.toUInt16.toNat &&& 0xff) = value.toUInt16 := by
  have hlt : value.toUInt16.toNat < 2 ^ 8 := by
    rw [UInt8.toNat_toUInt16]
    exact value.toNat_lt
  rw [show (0xff : Nat) = 2 ^ 8 - 1 from rfl, Packed.and_low_mask, Packed.field_zero_of_lt hlt,
    UInt16.ofNat_toNat]

theorem launchProtocolCode_eq_zero {reason : Wrlj.Error} :
    launchProtocolCode reason = 0 ↔ reason = .wrongSize := by
  cases reason <;> decide

/-- The instance of a refused launch message that the launch tag does not
report. -/
def lost (error : InitError) (launch : Bool) : Prop :=
  launch = false ∧ ∃ reason, error = .launchProtocol reason ∧ reason ≠ .wrongSize

theorem reading_instance (operation : UInt8) {error : InitError} {launch : Bool}
    (h : error.attributed = false) (hkept : ¬lost error launch) :
    (reading operation (failureKind error) launch (failureInstance error)).saturated = true ∨
      (reading operation (failureKind error) launch (failureInstance error)).instanceCode =
        failureInstance error := by
  cases error with
  | recoveryTransition => cases h
  | native error =>
      rcases native_instance error with hsat | hexact
      · left
        simpa [reading, failureKind, failureInstance] using hsat
      · right
        simpa [reading, failureKind, failureInstance] using hexact
  | absentState site => exact .inr (byte_instance site)
  | registryAbandoned reason => exact .inr (byte_instance reason)
  | sessionShutdown steps => exact .inr (byte_instance steps)
  | launchProtocol reason =>
      right
      cases launch with
      | true => cases reason <;> rfl
      | false =>
          by_cases hreason : reason = .wrongSize
          · subst hreason
            rfl
          · exact absurd ⟨rfl, reason, rfl, hreason⟩ hkept
  | _ => right; cases launch <;> rfl

theorem reading_lost (operation : UInt8) {error : InitError} {launch : Bool}
    (hlost : lost error launch) :
    (reading operation (failureKind error) launch (failureInstance error)).saturated = false ∧
      (reading operation (failureKind error) launch (failureInstance error)).instanceCode ≠
        failureInstance error := by
  obtain ⟨rfl, reason, rfl, hreason⟩ := hlost
  exact ⟨rfl, fun h => hreason (launchProtocolCode_eq_zero.mp h.symm)⟩

theorem decode_attributed (operation : RecoveryOperation) (kind : UInt8) (payload : UInt16)
    (emergencyCleanup : EmergencyCleanup) :
    decodeTickFailure (residentTickFailureApplicationStatus
        (.recoveryTransition operation.code kind payload emergencyCleanup)) =
      some (reading operation.code (clampKind (if emergencyCleanup.failed then 0x04 else kind))
        false payload) := by
  have h := decode_status (.recoveryTransition operation.code kind payload emergencyCleanup)
  rwa [reported, clampOperation_code] at h

theorem decode_bare {error : InitError} (h : error.attributed = false) :
    decodeTickFailure (residentTickFailureApplicationStatus error) =
      some (reading unattributedOperation (failureKind error) (isLaunchProtocol error)
        (failureInstance error)) := by
  have hreported : reported error = (unattributedOperation, failureKind error) := by
    cases error with
    | recoveryTransition => cases h
    | _ => rfl
  have hbare := decode_status error
  rw [hreported, clampKind_failureKind h] at hbare
  exact hbare

/-- What a status keeps of an error that `operation` was the first to claim:
the operation, the kind, and the instance of a kind that has one. It says of
kind and instance what the status of the error by itself says. -/
def Survives (operation : RecoveryOperation) (cleanupFailed : Bool) (initiating : InitError)
    (error : InitError) : Prop :=
  ∃ told bare,
    decodeTickFailure (residentTickFailureApplicationStatus error) = some told ∧
    decodeTickFailure (residentTickFailureApplicationStatus initiating) = some bare ∧
    told.operation = operation.code ∧
    told.kind = (if cleanupFailed then 0x04 else failureKind initiating) ∧
    (carriesInstance told.kind = true →
      told.saturated = true ∨ told.instanceCode = failureInstance initiating) ∧
    (cleanupFailed = false →
      told.kind = bare.kind ∧ told.instanceCode = bare.instanceCode)

/-- Diagnostics survive attribution and encoding unless a refused launch
message was claimed: its status then says the kind and no reason. -/
theorem tickFailure_survives (initiating : InitError) (hbare : initiating.attributed = false)
    (operation : RecoveryOperation) (inner outer : List RecoveryOperation)
    (emergencyCleanup : Option EmergencyCleanup) :
    ∃ error,
      attributeEach outer (dispatchOptional emergencyCleanup
        (attributeEach (operation :: inner) (.error initiating : Except InitError α))) =
          .error error ∧
      (Survives operation (emergencyCleanup.getD .notRun).failed initiating error ↔
        (emergencyCleanup.getD .notRun).failed = true ∨
          ∀ reason, initiating = .launchProtocol reason → reason = .wrongSize) := by
  refine ⟨_, chain_error operation inner outer emergencyCleanup hbare, ?_⟩
  generalize emergencyCleanup.getD .notRun = cleanup
  have htold := decode_attributed operation (failureKind initiating) (failureInstance initiating)
    cleanup
  have hself := decode_bare hbare
  cases hfailed : cleanup.failed with
  | true =>
      rw [hfailed] at htold
      refine iff_of_true ⟨_, _, htold, hself, rfl, rfl, ?_, ?_⟩ (.inl rfl)
      · intro h
        cases h
      · intro h
        cases h
  | false =>
      rw [hfailed, if_neg (by decide), clampKind_failureKind hbare] at htold
      constructor
      · rintro ⟨told, bare, htold', -, -, -, hinstance, -⟩
        right
        rintro reason rfl
        by_contra hreason
        rw [htold, Option.some.injEq] at htold'
        subst htold'
        have hlost : lost (.launchProtocol reason) false := ⟨rfl, reason, rfl, hreason⟩
        obtain ⟨hsat, hne⟩ := reading_lost operation.code hlost
        rcases hinstance rfl with h | h
        · rw [hsat] at h
          cases h
        · exact hne h
      · rintro (h | hreason)
        · cases h
        have hkept : ¬lost initiating false := by
          rintro ⟨-, reason, h, hne⟩
          exact hne (hreason reason h)
        refine ⟨_, _, htold, hself, rfl, rfl, fun _ => reading_instance _ hbare hkept, fun _ => ?_⟩
        refine ⟨rfl, ?_⟩
        cases initiating with
        | recoveryTransition => cases hbare
        | launchProtocol reason => rw [hreason reason rfl]; rfl
        | _ => rfl

/-- A launch request that a shell's job session refuses for its handles: the
status of the bare error says reason 7, the attributed one's says none. -/
theorem refused_launch_loses_reason :
    ∃ error,
      attributeEach [.residentTick] (dispatchOptional (some (.attempted false false))
        (attributeEach [.dispatchShellJob]
          (.error (.launchProtocol .wrongHandleCount) : Except InitError Unit))) = .error error ∧
      decodeTickFailure (residentTickFailureApplicationStatus error) =
        some ⟨0x1a, 0x06, 0, false⟩ ∧
      decodeTickFailure (residentTickFailureApplicationStatus (.launchProtocol .wrongHandleCount)) =
        some ⟨0x0f, 0x06, 7, false⟩ ∧
      ¬Survives .dispatchShellJob false (.launchProtocol .wrongHandleCount) error := by
  refine ⟨_, rfl, by decide, by decide, ?_⟩
  rintro ⟨told, bare, htold, -, -, -, hinstance, -⟩
  obtain rfl : (⟨0x1a, 0x06, 0, false⟩ : TickFailure) = told := Option.some.inj htold
  revert hinstance
  decide

/-- A native status claimed twice below a dispatcher whose cleanup failed. -/
theorem tickFailure_survives_native :
    ∃ error,
      attributeEach [.residentTick] (dispatchOptional (some .disconnectFailed)
        (attributeEach [.activateUart, .activateConsole]
          (.error (.native (.status (-7))) : Except InitError Unit))) = .error error ∧
      (Survives .activateUart true (.native (.status (-7))) error ↔
        true = true ∨ ∀ reason, InitError.native (.status (-7)) = .launchProtocol reason →
          reason = .wrongSize) :=
  tickFailure_survives (.native (.status (-7))) rfl .activateUart [.activateConsole]
    [.residentTick] (some .disconnectFailed)

end Wyrmroot.Diagnostics
