import Wyrmroot.DeviceProto.Envelope

/-!
# WRDC 1.0, the driver control codec

`wyrmroot-device-proto/src/control.rs`. A record is the common front, the six
identity words and a body that only `Configure` and `Failure` have. The
reader checks each kind in its arm and the identity at the end; the writer
checks the identity first. Both admit the texts of `Valid` messages.
-/

namespace Wyrmroot.DeviceProto

open Outcome

structure ControlEndpoint where
  id : UInt64
  generation : UInt64
deriving DecidableEq

inductive FailureCode where
  | malformedResource
  | driverRejected
  | driverExited
  | cleanupFailed
  | intentionalRestart
deriving DecidableEq

/-- `code as u32`. -/
def FailureCode.toU32 : FailureCode → UInt32
  | .malformedResource => 1
  | .driverRejected => 2
  | .driverExited => 3
  | .cleanupFailed => 4
  | .intentionalRestart => 5

/-- `*b"WRDC"`. -/
def controlMagic : List UInt8 := [87, 82, 68, 67]

def profileQ35 : UInt32 := 1
def profileQ35Version : UInt32 := 1

namespace Control

def minor : UInt16 := 0
def configureBytes : Nat := headerBytes + 16
def resourceBundleBytes : Nat := headerBytes
def readyBytes : Nat := headerBytes
def failureBytes : Nat := headerBytes + 8
def retireBytes : Nat := headerBytes
def triggerFailureBytes : Nat := headerBytes
def controlReadyBytes : Nat := headerBytes
def configureHandleCount : UInt32 := 0
def resourceBundleHandleCount : UInt32 := 2
def readyHandleCount : UInt32 := 0
def failureHandleCount : UInt32 := 0
def retireHandleCount : UInt32 := 0
def controlReadyHandleCount : UInt32 := 0

inductive ParseError where
  | wrongSize
  | wrongMagic
  | wrongVersion
  | unknownMessage
  | nonzeroFlags
  | wrongHandleCount
  | zeroIdentity
  | nonzeroReserved
  | invalidProfile
  | unknownFailure
deriving DecidableEq

abbrev Check := Outcome ParseError

end Control

def FailureCode.parse : UInt32 → Control.Check FailureCode
  | 1 => .ok .malformedResource
  | 2 => .ok .driverRejected
  | 3 => .ok .driverExited
  | 4 => .ok .cleanupFailed
  | 5 => .ok .intentionalRestart
  | _ => .err .unknownFailure

theorem FailureCode.parse_eq_ok {value : UInt32} {code : FailureCode} :
    FailureCode.parse value = .ok code ↔ value = code.toU32 := by
  constructor
  · intro h
    unfold FailureCode.parse at h
    split at h
    all_goals cases h
    all_goals rfl
  · rintro rfl
    cases code <;> rfl

inductive ControlMessage where
  | configure (roleId bundleGeneration attemptGeneration : UInt64) (endpoint : ControlEndpoint)
      (transactionId : UInt64) (profile profileVersion : UInt32)
  | resourceBundle (roleId bundleGeneration attemptGeneration : UInt64) (endpoint : ControlEndpoint)
      (transactionId : UInt64)
  | ready (roleId bundleGeneration attemptGeneration : UInt64) (endpoint : ControlEndpoint)
      (transactionId : UInt64)
  | controlReady (roleId attemptGeneration : UInt64) (endpoint : ControlEndpoint)
      (transactionId : UInt64)
  | failure (roleId bundleGeneration attemptGeneration : UInt64) (endpoint : ControlEndpoint)
      (transactionId : UInt64) (code : FailureCode)
  | triggerFailure (roleId bundleGeneration attemptGeneration : UInt64)
      (endpoint : ControlEndpoint) (transactionId : UInt64)
  | retire (roleId bundleGeneration attemptGeneration : UInt64) (endpoint : ControlEndpoint)
      (transactionId : UInt64)
deriving DecidableEq

namespace ControlMessage

def handleCount : ControlMessage → UInt32
  | .resourceBundle .. => Control.resourceBundleHandleCount
  | _ => 0

def wireSize : ControlMessage → Nat
  | .configure .. => Control.configureBytes
  | .resourceBundle .. => Control.resourceBundleBytes
  | .ready .. | .retire .. | .triggerFailure .. => headerBytes
  | .controlReady .. => Control.controlReadyBytes
  | .failure .. => Control.failureBytes

def messageType : ControlMessage → UInt32
  | .configure .. => 1
  | .resourceBundle .. => 2
  | .ready .. => 3
  | .failure .. => 4
  | .retire .. => 5
  | .controlReady .. => 6
  | .triggerFailure .. => 7

def roleId : ControlMessage → UInt64
  | .configure r _ _ _ _ _ _ | .resourceBundle r _ _ _ _ | .ready r _ _ _ _ | .failure r _ _ _ _ _
  | .retire r _ _ _ _ | .triggerFailure r _ _ _ _ => r
  | .controlReady r _ _ _ => r

def bundleGeneration : ControlMessage → UInt64
  | .configure _ b _ _ _ _ _ | .resourceBundle _ b _ _ _ | .ready _ b _ _ _ | .failure _ b _ _ _ _
  | .retire _ b _ _ _ | .triggerFailure _ b _ _ _ => b
  | .controlReady .. => 0

def attemptGeneration : ControlMessage → UInt64
  | .configure _ _ a _ _ _ _ | .resourceBundle _ _ a _ _ | .ready _ _ a _ _ | .failure _ _ a _ _ _
  | .retire _ _ a _ _ | .triggerFailure _ _ a _ _ | .controlReady _ a _ _ => a

def endpoint : ControlMessage → ControlEndpoint
  | .configure _ _ _ e _ _ _ | .resourceBundle _ _ _ e _ | .ready _ _ _ e _ | .failure _ _ _ e _ _
  | .retire _ _ _ e _ | .triggerFailure _ _ _ e _ => e
  | .controlReady _ _ e _ => e

def transactionId : ControlMessage → UInt64
  | .configure _ _ _ _ t _ _ | .resourceBundle _ _ _ _ t | .ready _ _ _ _ t | .failure _ _ _ _ t _
  | .retire _ _ _ _ t | .triggerFailure _ _ _ _ t => t
  | .controlReady _ _ _ t => t

/-- `matches!(message, ControlMessage::ControlReady { .. })`. -/
def isControlReady : ControlMessage → Bool
  | .controlReady .. => true
  | _ => false

/-- The test of the profile, of the one message that has one. -/
def wrongProfile : ControlMessage → Bool
  | .configure _ _ _ _ _ profile profileVersion =>
      profile ≠ profileQ35 || profileVersion ≠ profileQ35Version
  | _ => false

end ControlMessage

namespace Control

def validateIdentity (message : ControlMessage) : Check Unit := do
  rejectIf (message.roleId = 0 || (!message.isControlReady && message.bundleGeneration = 0)
    || message.attemptGeneration = 0 || message.endpoint.id = 0 || message.endpoint.generation = 0
    || message.transactionId = 0) .zeroIdentity
  rejectIf message.wrongProfile .invalidProfile

/-! ## Writing -/

/-- What `encode` writes behind the header. -/
def putBody : ControlMessage → Fill ParseError Unit
  | .configure _ _ _ _ _ profile profileVersion => do
      put32 headerBytes profile
      put32 (headerBytes + 4) profileVersion
  | .failure _ _ _ _ _ code => put32 headerBytes code.toU32
  | _ => pure ()

def encode (message : ControlMessage) : Fill ParseError Unit := do
  let output ← .get
  .lift (rejectIf (output.length ≠ message.wireSize) .wrongSize)
  .lift (validateIdentity message)
  fillZero
  putFront controlMagic minor message.messageType output.length message.handleCount
  put64 24 message.roleId
  put64 32 message.bundleGeneration
  put64 40 message.attemptGeneration
  put64 48 message.endpoint.id
  put64 56 message.endpoint.generation
  put64 64 message.transactionId
  putBody message

/-! ## Reading -/

/-- The arms of `parse`. The length is known before anything behind the
header is read. -/
def parseArm (bytes : List UInt8) (handles : UInt32) (role bundle attempt : UInt64)
    (endpoint : ControlEndpoint) (transaction : UInt64) : UInt32 → Check ControlMessage
  | 1 => do
      rejectIf (bytes.length ≠ configureBytes || handles ≠ configureHandleCount) .wrongSize
      rejectIf ((← get64 bytes (headerBytes + 8)) ≠ 0) .wrongSize
      let profile ← get32 bytes headerBytes
      let profileVersion ← get32 bytes (headerBytes + 4)
      rejectIf (profile ≠ profileQ35 || profileVersion ≠ profileQ35Version) .invalidProfile
      pure (.configure role bundle attempt endpoint transaction profile profileVersion)
  | 2 => do
      rejectIf (bytes.length ≠ resourceBundleBytes || handles ≠ resourceBundleHandleCount)
        .wrongHandleCount
      pure (.resourceBundle role bundle attempt endpoint transaction)
  | 3 => do
      rejectIf (bytes.length ≠ readyBytes || handles ≠ readyHandleCount) .wrongHandleCount
      pure (.ready role bundle attempt endpoint transaction)
  | 4 => do
      rejectIf (bytes.length ≠ failureBytes || handles ≠ failureHandleCount) .nonzeroReserved
      rejectIf ((← get32 bytes (headerBytes + 4)) ≠ 0) .nonzeroReserved
      let code ← FailureCode.parse (← get32 bytes headerBytes)
      pure (.failure role bundle attempt endpoint transaction code)
  | 5 => do
      rejectIf (bytes.length ≠ retireBytes || handles ≠ retireHandleCount) .wrongHandleCount
      pure (.retire role bundle attempt endpoint transaction)
  | 6 => do
      rejectIf (bytes.length ≠ controlReadyBytes || handles ≠ controlReadyHandleCount)
        .wrongHandleCount
      rejectIf (bundle ≠ 0) .nonzeroReserved
      pure (.controlReady role attempt endpoint transaction)
  | 7 => do
      rejectIf (bytes.length ≠ triggerFailureBytes || handles ≠ 0) .wrongHandleCount
      pure (.triggerFailure role bundle attempt endpoint transaction)
  | _ => .err .unknownMessage

def parse (bytes : List UInt8) : Check ControlMessage := do
  rejectIf (bytes.length < headerBytes) .wrongSize
  rejectIf ((← sliceAt bytes 0 4) ≠ controlMagic) .wrongMagic
  rejectIf ((← get16 bytes 4) ≠ major || (← get16 bytes 6) ≠ minor) .wrongVersion
  let flags ← get32 bytes 12
  let transaction ← get64 bytes 64
  rejectIf (flags ≠ 0 || transaction = 0) (if flags ≠ 0 then .nonzeroFlags else .zeroIdentity)
  let size ← get32 bytes 16
  let handles ← get32 bytes 20
  rejectIf (size.toNat ≠ bytes.length) .wrongSize
  let role ← get64 bytes 24
  let bundle ← get64 bytes 32
  let attempt ← get64 bytes 40
  let endpoint : ControlEndpoint := { id := ← get64 bytes 48, generation := ← get64 bytes 56 }
  let message ← parseArm bytes handles role bundle attempt endpoint transaction (← get32 bytes 8)
  validateIdentity message
  pure message

end Control

/-!
## The WRDC 1.0 codec

`parse` accepts the texts of valid messages (`parse_eq_ok`) and `encode`
writes them (`encode_text`).
-/

variable {bytes : List UInt8}

namespace ControlMessage

def words (message : ControlMessage) : List UInt64 :=
  [message.roleId, message.bundleGeneration, message.attemptGeneration, message.endpoint.id,
   message.endpoint.generation, message.transactionId]

def bodyText : ControlMessage → List UInt8
  | .configure _ _ _ _ _ profile profileVersion => u32 profile ++ (u32 profileVersion ++ u64 0)
  | .failure _ _ _ _ _ code => u32 code.toU32 ++ u32 0
  | _ => []

def text (message : ControlMessage) : List UInt8 :=
  front controlMagic Control.minor message.messageType message.wireSize message.handleCount ++
    (u64s message.words ++ message.bodyText)

theorem wireSize_eq (message : ControlMessage) :
    message.wireSize = headerBytes + message.bodyText.length := by
  cases message <;> rfl

@[simp] theorem length_text
    (message : ControlMessage) : message.text.length = message.wireSize := by
  rw [text, List.length_append, length_front rfl, List.length_append, length_u64s, wireSize_eq]
  simp only [words, List.length_cons, List.length_nil, headerBytes]
  omega

theorem wireSize_lt (message : ControlMessage) : message.wireSize < 4294967296 := by
  unfold wireSize
  split <;> decide

end ControlMessage

namespace Control

/-! ## Reading -/

/-- What an arm accepts: the type it is for, with the handles, the size and
the body of the message it returns. -/
theorem parseArm_eq_ok {handles role bundle attempt transaction messageType}
    {endpoint : ControlEndpoint} {message : ControlMessage} :
    parseArm bytes handles role bundle attempt endpoint transaction messageType = .ok message ↔
      messageType = message.messageType ∧ handles = message.handleCount ∧
        bytes.length = message.wireSize ∧ role = message.roleId ∧
        bundle = message.bundleGeneration ∧ attempt = message.attemptGeneration ∧
        endpoint = message.endpoint ∧ transaction = message.transactionId ∧
        Has bytes headerBytes message.bodyText ∧ message.wrongProfile = false := by
  have hnil : bytes.length = headerBytes → Has bytes headerBytes [] := fun h =>
    slice_eq_some.mpr ⟨Nat.le_of_eq h.symm, rfl⟩
  constructor
  · intro h
    unfold parseArm at h
    split at h
    case h_1 =>
      simp only [bind_eq_ok, rejectIf_eq_ok, get32_eq_ok, get64_eq_ok, Bool.or_eq_false_iff,
        decide_eq_false_iff_not, not_not, ne_eq, exists_const] at h
      obtain ⟨⟨hlen, rfl⟩, _, hzero, rfl, profile, hprofile, version, hversion, ⟨rfl, rfl⟩, hm⟩ := h
      obtain rfl := Outcome.ok.inj hm
      refine ⟨rfl, rfl, hlen, rfl, rfl, rfl, rfl, rfl, ?_, rfl⟩
      rw [ControlMessage.bodyText, has_append, has_append]
      exact ⟨hprofile, hversion, hzero⟩
    case h_4 =>
      simp only [bind_eq_ok, rejectIf_eq_ok, get32_eq_ok, FailureCode.parse_eq_ok,
        Bool.or_eq_false_iff, decide_eq_false_iff_not, not_not, ne_eq, exists_const] at h
      obtain ⟨⟨hlen, rfl⟩, _, hzero, rfl, _, hcode, code, rfl, hm⟩ := h
      obtain rfl := Outcome.ok.inj hm
      refine ⟨rfl, rfl, hlen, rfl, rfl, rfl, rfl, rfl, ?_, rfl⟩
      rw [ControlMessage.bodyText, has_append]
      exact ⟨hcode, hzero⟩
    case h_6 =>
      simp only [bind_eq_ok, rejectIf_eq_ok, Bool.or_eq_false_iff, decide_eq_false_iff_not, not_not,
        ne_eq, exists_const] at h
      obtain ⟨⟨hlen, rfl⟩, rfl, hm⟩ := h
      obtain rfl := Outcome.ok.inj hm
      exact ⟨rfl, rfl, hlen, rfl, rfl, rfl, rfl, rfl, hnil hlen, rfl⟩
    case h_8 => cases h
    all_goals
      simp only [bind_eq_ok, rejectIf_eq_ok, Bool.or_eq_false_iff, decide_eq_false_iff_not, not_not,
        ne_eq, exists_const] at h
      obtain ⟨⟨hlen, rfl⟩, hm⟩ := h
      obtain rfl := Outcome.ok.inj hm
      exact ⟨rfl, rfl, hlen, rfl, rfl, rfl, rfl, rfl, hnil hlen, rfl⟩
  · rintro ⟨rfl, rfl, hlen, rfl, rfl, rfl, rfl, rfl, hbody, hprofile⟩
    cases message with
    | configure role bundle attempt endpoint transaction profile version =>
        rw [ControlMessage.bodyText, has_append, has_append] at hbody
        simp only [ControlMessage.wrongProfile, Bool.or_eq_false_iff, decide_eq_false_iff_not,
          not_not, ne_eq] at hprofile
        obtain ⟨rfl, rfl⟩ := hprofile
        simp only [ControlMessage.messageType, parseArm, bind_eq_ok, rejectIf_eq_ok, get32_eq_ok,
          get64_eq_ok, Bool.or_eq_false_iff, decide_eq_false_iff_not, not_not, ne_eq, exists_const]
        exact ⟨⟨hlen, rfl⟩, 0, hbody.2.2, rfl, _, hbody.1, _, hbody.2.1, ⟨rfl, rfl⟩, rfl⟩
    | failure role bundle attempt endpoint transaction code =>
        rw [ControlMessage.bodyText, has_append] at hbody
        simp only [ControlMessage.messageType, parseArm, bind_eq_ok, rejectIf_eq_ok, get32_eq_ok,
          FailureCode.parse_eq_ok, Bool.or_eq_false_iff, decide_eq_false_iff_not, not_not, ne_eq,
          exists_const]
        exact ⟨⟨hlen, rfl⟩, 0, hbody.2, rfl, _, hbody.1, code, rfl, rfl⟩
    | controlReady role attempt endpoint transaction =>
        simp only [ControlMessage.messageType, parseArm, bind_eq_ok, rejectIf_eq_ok,
          Bool.or_eq_false_iff, decide_eq_false_iff_not, not_not, ne_eq, exists_const]
        exact ⟨⟨hlen, rfl⟩, rfl, rfl⟩
    | _ =>
        simp only [ControlMessage.messageType, parseArm, bind_eq_ok, rejectIf_eq_ok,
          Bool.or_eq_false_iff, decide_eq_false_iff_not, not_not, ne_eq, exists_const]
        exact ⟨⟨hlen, rfl⟩, rfl⟩

/-- What either side asks of a message. -/
def Valid (message : ControlMessage) : Prop := validateIdentity message = .ok ()

theorem Valid.wrongProfile {message : ControlMessage} (h : Valid message) :
    message.wrongProfile = false := by
  simp only [Valid, validateIdentity, bind_eq_ok, rejectIf_eq_ok, exists_const] at h
  exact h.2

theorem Valid.transactionId {message : ControlMessage} (h : Valid message) :
    message.transactionId ≠ 0 := by
  simp only [Valid, validateIdentity, bind_eq_ok, rejectIf_eq_ok, exists_const,
    Bool.or_eq_false_iff, decide_eq_false_iff_not] at h
  exact h.1.2

theorem text_iff {message : ControlMessage} : bytes = message.text ↔
    FrontAt bytes controlMagic minor message.messageType message.wireSize message.handleCount ∧
      (Has bytes 24 (u64 message.roleId) ∧ Has bytes 32 (u64 message.bundleGeneration) ∧
        Has bytes 40 (u64 message.attemptGeneration) ∧ Has bytes 48 (u64 message.endpoint.id) ∧
        Has bytes 56 (u64 message.endpoint.generation) ∧
        Has bytes 64 (u64 message.transactionId)) ∧
      Has bytes headerBytes message.bodyText ∧ bytes.length = message.wireSize := by
  rw [ControlMessage.text, ControlMessage.words, words_iff rfl, ← message.wireSize_eq]

theorem parse_eq_ok {message : ControlMessage} :
    parse bytes = .ok message ↔ Valid message ∧ bytes = message.text := by
  rw [text_iff]
  simp only [parse, bind_eq_ok, rejectIf_eq_ok, get16_eq_ok, get32_eq_ok, get64_eq_ok,
    sliceAt_eq_ok, parseArm_eq_ok, Bool.or_eq_false_iff, decide_eq_false_iff_not, not_not, ne_eq,
    exists_const, Outcome.pure_eq, Outcome.ok.injEq]
  constructor
  · rintro ⟨-, _, ⟨hmagic, -⟩, rfl, _, hmajor, _, hminor, ⟨rfl, rfl⟩, flags, hflags, transaction,
      htransaction, ⟨rfl, -⟩, size, hsize, handles, hhandles, hlen, role, hrole, bundle, hbundle,
      attempt, hattempt, id, hid, generation, hgeneration, messageType, htype, message', ⟨rfl, rfl,
      hwire, rfl, rfl, rfl, hendpoint, rfl, hbody, -⟩, _, hvalid, rfl⟩
    rw [hwire, size_word message'.wireSize_lt] at hlen
    subst hlen
    rw [← hendpoint]
    exact ⟨hvalid, ⟨hmagic, hmajor, hminor, htype, hflags, hsize, hhandles⟩,
      ⟨hrole, hbundle, hattempt, hid, hgeneration, htransaction⟩, hbody, hwire⟩
  · rintro ⟨hvalid, ⟨hmagic, hmajor, hminor, htype, hflags, hsize, hhandles⟩,
      ⟨hrole, hbundle, hattempt, hid, hgeneration, htransaction⟩, hbody, hwire⟩
    have hheader : ¬ bytes.length < headerBytes := by
      have hfit := message.wireSize_eq
      omega
    refine ⟨hheader, _, ⟨hmagic, rfl⟩, rfl, _, hmajor, _, hminor, ⟨rfl, rfl⟩, _, hflags, _,
      htransaction, ⟨rfl, hvalid.transactionId⟩, _, hsize, _, hhandles, ?_, _, hrole, _, hbundle, _,
      hattempt, _, hid, _, hgeneration, _, htype, message, ⟨rfl, rfl, hwire, rfl, rfl, rfl, rfl,
      rfl, hbody, hvalid.wrongProfile⟩, (), hvalid, rfl⟩
    rw [hwire]
    exact UInt32.toNat_ofNat_of_lt message.wireSize_lt

/-! ## Writing -/

theorem putBody_turns (message : ControlMessage) :
    Turns (putBody message) () headerBytes (List.replicate message.bodyText.length 0)
      message.bodyText := by
  cases message with
  | configure role bundle attempt endpoint transaction profile version =>
      have hzeros : List.replicate 16 (0 : UInt8) = List.replicate 4 0 ++ (List.replicate 4 0 ++
          u64 0) := rfl
      show Turns _ _ _ (List.replicate 16 0) _
      rw [hzeros]
      exact .append (.storeAt rfl rfl) (.before (.storeAt rfl rfl))
  | failure role bundle attempt endpoint transaction code =>
      have hcode : Turns (put32 headerBytes code.toU32 : Fill ParseError Unit) () headerBytes
          (List.replicate 4 0) (u32 code.toU32) := .storeAt rfl rfl
      exact .before hcode
  | _ => exact .pure ()

theorem encode_text {message : ControlMessage} {out : List UInt8} (hvalid : Valid message)
    (hlen : out.length = message.text.length) :
    encode message out = (.ok (), message.text, []) := by
  rw [message.length_text] at hlen
  rw [encode, sized_run hlen, hvalid, Prog.lift_ok_bind, hlen]
  exact words_written rfl (putBody_turns message) (hlen.trans message.wireSize_eq)

theorem encode_accepts {message : ControlMessage} {out out' : List UInt8} {w : List Empty}
    (h : encode message out = (.ok (), out', w)) :
    Valid message ∧ out.length = message.text.length := by
  obtain ⟨hsize, h⟩ := sized_accepts h
  obtain ⟨_, hvalid, -⟩ := Prog.lift_bind_eq_ok h
  exact ⟨hvalid, hsize.trans message.length_text.symm⟩

theorem codec : Inverse encode parse :=
  .of_text Valid ControlMessage.text parse_eq_ok encode_accepts encode_text

end Control

end Wyrmroot.DeviceProto
