import Wyrmroot.DeviceProto.Control

/-!
# WRDC 1.1, device staging and stream attachment

`wyrmroot-device-proto/src/control_v1_1.rs`. The identity is checked before
the arms and the body behind them, and every body but two ends in bytes that
have to be zero.
-/

namespace Wyrmroot.DeviceProto

open Outcome

structure ControlIdentityV1_1 where
  roleId : UInt64
  bundleGeneration : UInt64
  attemptGeneration : UInt64
  endpoint : ControlEndpoint
  transactionId : UInt64
deriving DecidableEq

inductive ControlMessageV1_1 where
  | deviceStage (identity : ControlIdentityV1_1) (stageGeneration resourceId : UInt64)
      (pioBase pioLength : UInt16) (source : UInt32)
  | deviceQuiesced (identity : ControlIdentityV1_1) (stageGeneration : UInt64)
  | interruptStage (identity : ControlIdentityV1_1) (stageGeneration parentResourceId : UInt64)
      (source : UInt32)
  | attachStream (identity : ControlIdentityV1_1) (streamGeneration publicationGeneration : UInt64)
  | streamReady (identity : ControlIdentityV1_1) (streamGeneration publicationGeneration : UInt64)
  | streamDetached (identity : ControlIdentityV1_1)
      (streamGeneration publicationGeneration : UInt64)
  | ready (identity : ControlIdentityV1_1)
  | failure (identity : ControlIdentityV1_1) (code : FailureCode)
  | retire (identity : ControlIdentityV1_1)
deriving DecidableEq

namespace ControlV11

def minor : UInt16 := 1
def deviceStageBytes : Nat := 112
def deviceQuiescedBytes : Nat := 80
def interruptStageBytes : Nat := 96
def attachStreamBytes : Nat := 96
def readyBytes : Nat := headerBytes
def failureBytes : Nat := headerBytes + 8
def retireBytes : Nat := headerBytes

inductive ParseError where
  | wrongSize
  | wrongMagic
  | wrongVersion
  | unknownMessage
  | nonzeroFlags
  | wrongHandleCount
  | zeroIdentity
  | nonzeroReserved
  | unknownFailure
deriving DecidableEq

abbrev Check := Outcome ParseError

end ControlV11

namespace ControlMessageV1_1

def identity : ControlMessageV1_1 → ControlIdentityV1_1
  | .deviceStage i _ _ _ _ _ | .deviceQuiesced i _ | .interruptStage i _ _ _ | .attachStream i _ _
  | .streamReady i _ _ | .streamDetached i _ _ | .ready i | .failure i _ | .retire i => i

def wireSize : ControlMessageV1_1 → Nat
  | .deviceStage .. => ControlV11.deviceStageBytes
  | .deviceQuiesced .. => ControlV11.deviceQuiescedBytes
  | .interruptStage .. => ControlV11.interruptStageBytes
  | .attachStream .. | .streamReady .. | .streamDetached .. => ControlV11.attachStreamBytes
  | .ready .. | .retire .. => headerBytes
  | .failure .. => ControlV11.failureBytes

def handleCount : ControlMessageV1_1 → UInt32
  | .deviceStage .. | .interruptStage .. | .attachStream .. => 1
  | _ => 0

def messageType : ControlMessageV1_1 → UInt32
  | .ready .. => 3
  | .failure .. => 4
  | .retire .. => 5
  | .deviceStage .. => 8
  | .deviceQuiesced .. => 9
  | .interruptStage .. => 10
  | .attachStream .. => 11
  | .streamReady .. => 12
  | .streamDetached .. => 13

/-- `valid` of `validate_body`. -/
def bodyOk : ControlMessageV1_1 → Bool
  | .deviceStage _ stageGeneration resourceId _ pioLength source =>
      stageGeneration ≠ 0 && resourceId ≠ 0 && pioLength ≠ 0 && source ≠ 0
  | .deviceQuiesced _ stageGeneration => stageGeneration ≠ 0
  | .interruptStage _ stageGeneration parentResourceId source =>
      stageGeneration ≠ 0 && parentResourceId ≠ 0 && source ≠ 0
  | .attachStream _ streamGeneration publicationGeneration
  | .streamReady _ streamGeneration publicationGeneration
  | .streamDetached _ streamGeneration publicationGeneration =>
      streamGeneration ≠ 0 && publicationGeneration ≠ 0
  | .failure _ code => code ≠ .intentionalRestart
  | .ready _ | .retire _ => true

end ControlMessageV1_1

namespace ControlV11

def validateIdentity (identity : ControlIdentityV1_1) : Check Unit :=
  rejectIf (identity.roleId = 0 || identity.bundleGeneration = 0 || identity.attemptGeneration = 0
    || identity.endpoint.id = 0 || identity.endpoint.generation = 0 || identity.transactionId = 0)
    .zeroIdentity

def validateBody (message : ControlMessageV1_1) : Check Unit :=
  rejectIf (!message.bodyOk) .zeroIdentity

/-! ## Writing -/

/-- The `match` at the end of `encode`. -/
def putBody : ControlMessageV1_1 → Fill ParseError Unit
  | .deviceStage _ stageGeneration resourceId pioBase pioLength source => do
      put64 72 stageGeneration
      put64 80 resourceId
      put16 88 pioBase
      put16 90 pioLength
      put32 92 source
  | .deviceQuiesced _ stageGeneration => put64 72 stageGeneration
  | .interruptStage _ stageGeneration parentResourceId source => do
      put64 72 stageGeneration
      put64 80 parentResourceId
      put32 88 source
  | .attachStream _ streamGeneration publicationGeneration
  | .streamReady _ streamGeneration publicationGeneration
  | .streamDetached _ streamGeneration publicationGeneration => do
      put64 72 streamGeneration
      put64 80 publicationGeneration
  | .failure _ code => put32 72 code.toU32
  | .ready _ | .retire _ => pure ()

def encode (message : ControlMessageV1_1) : Fill ParseError Unit := do
  let output ← .get
  .lift (rejectIf (output.length ≠ message.wireSize) .wrongSize)
  .lift (validateIdentity message.identity)
  .lift (validateBody message)
  fillZero
  putFront controlMagic minor message.messageType output.length message.handleCount
  put64 24 message.identity.roleId
  put64 32 message.identity.bundleGeneration
  put64 40 message.identity.attemptGeneration
  put64 48 message.identity.endpoint.id
  put64 56 message.identity.endpoint.generation
  put64 64 message.identity.transactionId
  putBody message

/-! ## Reading -/

def requireShape (bytes : List UInt8) (size : Nat) (actualHandles expectedHandles : UInt32) :
    Check Unit := do
  rejectIf (bytes.length ≠ size) .wrongSize
  rejectIf (actualHandles ≠ expectedHandles) .wrongHandleCount

/-- `bytes[start..end]` is all zero. -/
def requireZero (bytes : List UInt8) (start stop : Nat) : Check Unit := do
  let reserved ← sliceAt bytes start (stop - start)
  rejectIf (reserved.any (· ≠ 0)) .nonzeroReserved

/-- The `match` on the code of a failure. -/
def parseFailure : UInt32 → Check FailureCode
  | 1 => .ok .malformedResource
  | 2 => .ok .driverRejected
  | 3 => .ok .driverExited
  | 4 => .ok .cleanupFailed
  | 5 => .ok .intentionalRestart
  | _ => .err .unknownFailure

/-- The arm `11..=13`, for one of the three types. -/
def parseStream (bytes : List UInt8) (handles expected : UInt32)
    (message : UInt64 → UInt64 → ControlMessageV1_1) : Check ControlMessageV1_1 := do
  requireShape bytes attachStreamBytes handles expected
  requireZero bytes 88 96
  let streamGeneration ← get64 bytes 72
  let publicationGeneration ← get64 bytes 80
  pure (message streamGeneration publicationGeneration)

def parseArm (bytes : List UInt8) (handles : UInt32) (identity : ControlIdentityV1_1) :
    UInt32 → Check ControlMessageV1_1
  | 8 => do
      requireShape bytes deviceStageBytes handles 1
      requireZero bytes 96 112
      pure (.deviceStage identity (← get64 bytes 72) (← get64 bytes 80) (← get16 bytes 88)
        (← get16 bytes 90) (← get32 bytes 92))
  | 9 => do
      requireShape bytes deviceQuiescedBytes handles 0
      pure (.deviceQuiesced identity (← get64 bytes 72))
  | 10 => do
      requireShape bytes interruptStageBytes handles 1
      requireZero bytes 92 96
      pure (.interruptStage identity (← get64 bytes 72) (← get64 bytes 80) (← get32 bytes 88))
  | 11 => parseStream bytes handles 1 (.attachStream identity)
  | 12 => parseStream bytes handles 0 (.streamReady identity)
  | 13 => parseStream bytes handles 0 (.streamDetached identity)
  | 3 => do
      requireShape bytes readyBytes handles 0
      pure (.ready identity)
  | 4 => do
      requireShape bytes failureBytes handles 0
      requireZero bytes 76 80
      let code ← parseFailure (← get32 bytes 72)
      pure (.failure identity code)
  | 5 => do
      requireShape bytes retireBytes handles 0
      pure (.retire identity)
  | _ => .err .unknownMessage

def parse (bytes : List UInt8) : Check ControlMessageV1_1 := do
  rejectIf (bytes.length < headerBytes) .wrongSize
  rejectIf ((← sliceAt bytes 0 4) ≠ controlMagic) .wrongMagic
  rejectIf ((← get16 bytes 4) ≠ major || (← get16 bytes 6) ≠ minor) .wrongVersion
  rejectIf ((← get32 bytes 12) ≠ 0) .nonzeroFlags
  rejectIf ((← get32 bytes 16).toNat ≠ bytes.length) .wrongSize
  let identity : ControlIdentityV1_1 :=
    { roleId := ← get64 bytes 24, bundleGeneration := ← get64 bytes 32,
      attemptGeneration := ← get64 bytes 40,
      endpoint := { id := ← get64 bytes 48, generation := ← get64 bytes 56 },
      transactionId := ← get64 bytes 64 }
  validateIdentity identity
  let handles ← get32 bytes 20
  let message ← parseArm bytes handles identity (← get32 bytes 8)
  validateBody message
  pure message

end ControlV11

/-! ## The text of a message -/

namespace ControlMessageV1_1

def words (message : ControlMessageV1_1) : List UInt64 :=
  [message.identity.roleId, message.identity.bundleGeneration, message.identity.attemptGeneration,
   message.identity.endpoint.id, message.identity.endpoint.generation,
   message.identity.transactionId]

def bodyText : ControlMessageV1_1 → List UInt8
  | .deviceStage _ stageGeneration resourceId pioBase pioLength source =>
      u64 stageGeneration ++ (u64 resourceId ++ (u16 pioBase ++ (u16 pioLength ++ (u32 source ++
        List.replicate 16 0))))
  | .deviceQuiesced _ stageGeneration => u64 stageGeneration
  | .interruptStage _ stageGeneration parentResourceId source =>
      u64 stageGeneration ++ (u64 parentResourceId ++ (u32 source ++ List.replicate 4 0))
  | .attachStream _ streamGeneration publicationGeneration
  | .streamReady _ streamGeneration publicationGeneration
  | .streamDetached _ streamGeneration publicationGeneration =>
      u64 streamGeneration ++ (u64 publicationGeneration ++ List.replicate 8 0)
  | .failure _ code => u32 code.toU32 ++ List.replicate 4 0
  | .ready _ | .retire _ => []

def text (message : ControlMessageV1_1) : List UInt8 :=
  front controlMagic ControlV11.minor message.messageType message.wireSize message.handleCount ++
    (u64s message.words ++ message.bodyText)

theorem wireSize_eq (message : ControlMessageV1_1) :
    message.wireSize = headerBytes + message.bodyText.length := by
  cases message <;> rfl

theorem length_text (message : ControlMessageV1_1) : message.text.length = message.wireSize := by
  rw [text, List.length_append, length_front rfl, List.length_append, length_u64s, wireSize_eq]
  simp only [words, List.length_cons, List.length_nil, headerBytes]
  omega

theorem wireSize_lt (message : ControlMessageV1_1) : message.wireSize < 4294967296 := by
  unfold wireSize
  split <;> decide

end ControlMessageV1_1

namespace ControlV11

variable {bytes : List UInt8}

/-! ## Reading, by texts -/

theorem parseFailure_eq_ok {value : UInt32} {code : FailureCode} :
    parseFailure value = .ok code ↔ value = code.toU32 := by
  constructor
  · intro h
    unfold parseFailure at h
    split at h
    all_goals cases h
    all_goals rfl
  · rintro rfl
    cases code <;> rfl

theorem requireShape_eq_ok {size : Nat} {actual expected : UInt32} {u : Unit} :
    requireShape bytes size actual expected = .ok u ↔ bytes.length = size ∧ actual = expected := by
  simp only [requireShape, bind_eq_ok, rejectIf_eq_ok, decide_eq_false_iff_not, not_not, ne_eq,
    exists_const]

theorem requireZero_eq_ok {start stop : Nat} {u : Unit} :
    requireZero bytes start stop = .ok u ↔ Has bytes start (List.replicate (stop - start) 0) := by
  simp only [requireZero, bind_eq_ok, sliceAt_eq_ok, rejectIf_eq_ok]
  constructor
  · rintro ⟨reserved, ⟨hhas, hlen⟩, hzero⟩
    have hall : reserved = List.replicate (stop - start) 0 := by
      rw [List.eq_replicate_iff]
      refine ⟨hlen, fun b hb => ?_⟩
      have hb' := List.any_eq_false.mp hzero b hb
      simpa using hb'
    rwa [hall] at hhas
  · intro h
    refine ⟨_, ⟨h, List.length_replicate⟩, ?_⟩
    rw [List.any_eq_false]
    intro b hb
    simp [List.eq_of_mem_replicate hb]

theorem parseStream_eq_ok {handles expected : UInt32} {f : UInt64 → UInt64 → ControlMessageV1_1}
    {message : ControlMessageV1_1} : parseStream bytes handles expected f = .ok message ↔
      ∃ stream publication, message = f stream publication ∧ handles = expected ∧
        bytes.length = attachStreamBytes ∧
        Has bytes 72 (u64 stream ++ (u64 publication ++ List.replicate 8 0)) := by
  simp only [parseStream, bind_eq_ok, requireShape_eq_ok, requireZero_eq_ok, Nat.reduceSub,
    get64_eq_ok, Outcome.pure_eq, Outcome.ok.injEq, exists_const, has_append, length_u64]
  constructor
  · rintro ⟨⟨hlen, rfl⟩, hzero, stream, hstream, publication, hpublication, rfl⟩
    exact ⟨stream, publication, rfl, rfl, hlen, hstream, hpublication, hzero⟩
  · rintro ⟨stream, publication, rfl, rfl, hlen, hstream, hpublication, hzero⟩
    exact ⟨⟨hlen, rfl⟩, hzero, stream, hstream, publication, hpublication, rfl⟩

/-- What an arm accepts: the type it is for, with the handles, the size and
the body of the message it returns. -/
theorem parseArm_eq_ok {handles messageType : UInt32} {identity : ControlIdentityV1_1}
    {message : ControlMessageV1_1} : parseArm bytes handles identity messageType = .ok message ↔
      messageType = message.messageType ∧ handles = message.handleCount ∧
        bytes.length = message.wireSize ∧ identity = message.identity ∧
        Has bytes headerBytes message.bodyText := by
  have hnil : bytes.length = headerBytes → Has bytes headerBytes [] := fun h =>
    slice_eq_some.mpr ⟨Nat.le_of_eq h.symm, rfl⟩
  constructor
  · intro h
    unfold parseArm at h
    split at h
    case h_1 =>
      simp only [bind_eq_ok, requireShape_eq_ok, requireZero_eq_ok, Nat.reduceSub, get16_eq_ok,
        get32_eq_ok, get64_eq_ok, exists_const] at h
      obtain ⟨⟨hlen, rfl⟩, hzero, stage, hstage, resource, hresource, base, hbase, length, hlength,
        source, hsource, hm⟩ := h
      obtain rfl := Outcome.ok.inj hm
      refine ⟨rfl, rfl, hlen, rfl, ?_⟩
      simp only [ControlMessageV1_1.bodyText, has_append]
      exact ⟨hstage, hresource, hbase, hlength, hsource, hzero⟩
    case h_2 =>
      simp only [bind_eq_ok, requireShape_eq_ok, get64_eq_ok, exists_const] at h
      obtain ⟨⟨hlen, rfl⟩, stage, hstage, hm⟩ := h
      obtain rfl := Outcome.ok.inj hm
      exact ⟨rfl, rfl, hlen, rfl, hstage⟩
    case h_3 =>
      simp only [bind_eq_ok, requireShape_eq_ok, requireZero_eq_ok, Nat.reduceSub, get32_eq_ok,
        get64_eq_ok, exists_const] at h
      obtain ⟨⟨hlen, rfl⟩, hzero, stage, hstage, parent, hparent, source, hsource, hm⟩ := h
      obtain rfl := Outcome.ok.inj hm
      refine ⟨rfl, rfl, hlen, rfl, ?_⟩
      simp only [ControlMessageV1_1.bodyText, has_append]
      exact ⟨hstage, hparent, hsource, hzero⟩
    case h_8 =>
      simp only [bind_eq_ok, requireShape_eq_ok, requireZero_eq_ok, Nat.reduceSub, get32_eq_ok,
        parseFailure_eq_ok, exists_const] at h
      obtain ⟨⟨hlen, rfl⟩, hzero, _, hcode, code, rfl, hm⟩ := h
      obtain rfl := Outcome.ok.inj hm
      refine ⟨rfl, rfl, hlen, rfl, ?_⟩
      simp only [ControlMessageV1_1.bodyText, has_append]
      exact ⟨hcode, hzero⟩
    case h_10 => cases h
    case h_7 | h_9 =>
      simp only [bind_eq_ok, requireShape_eq_ok, exists_const] at h
      obtain ⟨⟨hlen, rfl⟩, hm⟩ := h
      obtain rfl := Outcome.ok.inj hm
      exact ⟨rfl, rfl, hlen, rfl, hnil hlen⟩
    -- the three kinds of stream messages
    all_goals
      obtain ⟨stream, publication, rfl, rfl, hlen, hbody⟩ := parseStream_eq_ok.mp h
      exact ⟨rfl, rfl, hlen, rfl, hbody⟩
  · rintro ⟨rfl, rfl, hlen, rfl, hbody⟩
    cases message with
    | deviceStage identity stage resource base length source =>
        simp only [ControlMessageV1_1.bodyText, has_append] at hbody
        obtain ⟨hstage, hresource, hbase, hlength, hsource, hzero⟩ := hbody
        simp only [ControlMessageV1_1.messageType, parseArm, bind_eq_ok, requireShape_eq_ok,
          requireZero_eq_ok, Nat.reduceSub, get16_eq_ok, get32_eq_ok, get64_eq_ok, exists_const]
        exact ⟨⟨hlen, rfl⟩, hzero, _, hstage, _, hresource, _, hbase, _, hlength, _, hsource, rfl⟩
    | deviceQuiesced identity stage =>
        simp only [ControlMessageV1_1.messageType, parseArm, bind_eq_ok, requireShape_eq_ok,
          get64_eq_ok, exists_const]
        exact ⟨⟨hlen, rfl⟩, _, hbody, rfl⟩
    | interruptStage identity stage parent source =>
        simp only [ControlMessageV1_1.bodyText, has_append] at hbody
        obtain ⟨hstage, hparent, hsource, hzero⟩ := hbody
        simp only [ControlMessageV1_1.messageType, parseArm, bind_eq_ok, requireShape_eq_ok,
          requireZero_eq_ok, Nat.reduceSub, get32_eq_ok, get64_eq_ok, exists_const]
        exact ⟨⟨hlen, rfl⟩, hzero, _, hstage, _, hparent, _, hsource, rfl⟩
    | failure identity code =>
        simp only [ControlMessageV1_1.bodyText, has_append] at hbody
        simp only [ControlMessageV1_1.messageType, parseArm, bind_eq_ok, requireShape_eq_ok,
          requireZero_eq_ok, Nat.reduceSub, get32_eq_ok, parseFailure_eq_ok, exists_const]
        exact ⟨⟨hlen, rfl⟩, hbody.2, _, hbody.1, code, rfl, rfl⟩
    | ready identity | retire identity =>
        simp only [ControlMessageV1_1.messageType, parseArm, bind_eq_ok, requireShape_eq_ok,
          exists_const]
        exact ⟨⟨hlen, rfl⟩, rfl⟩
    | _ => exact parseStream_eq_ok.mpr ⟨_, _, rfl, rfl, hlen, hbody⟩

/-- What either side asks of a message. -/
def Valid (message : ControlMessageV1_1) : Prop :=
  validateIdentity message.identity = .ok () ∧ validateBody message = .ok ()

theorem text_iff {message : ControlMessageV1_1} : bytes = message.text ↔
    FrontAt bytes controlMagic minor message.messageType message.wireSize message.handleCount ∧
      (Has bytes 24 (u64 message.identity.roleId) ∧
        Has bytes 32 (u64 message.identity.bundleGeneration) ∧
        Has bytes 40 (u64 message.identity.attemptGeneration) ∧
        Has bytes 48 (u64 message.identity.endpoint.id) ∧
        Has bytes 56 (u64 message.identity.endpoint.generation) ∧
        Has bytes 64 (u64 message.identity.transactionId)) ∧
      Has bytes headerBytes message.bodyText ∧ bytes.length = message.wireSize := by
  rw [ControlMessageV1_1.text, ControlMessageV1_1.words, words_iff rfl, ← message.wireSize_eq]

theorem parse_eq_ok {message : ControlMessageV1_1} :
    parse bytes = .ok message ↔ Valid message ∧ bytes = message.text := by
  rw [text_iff]
  simp only [parse, bind_eq_ok, rejectIf_eq_ok, get16_eq_ok, get32_eq_ok, get64_eq_ok,
    sliceAt_eq_ok, parseArm_eq_ok, Bool.or_eq_false_iff, decide_eq_false_iff_not, not_not, ne_eq,
    exists_const, Outcome.pure_eq, Outcome.ok.injEq]
  constructor
  · rintro ⟨-, _, ⟨hmagic, -⟩, rfl, _, hmajor, _, hminor, ⟨rfl, rfl⟩, _, hflags, rfl, size, hsize,
      hlen, role, hrole, bundle, hbundle, attempt, hattempt, id, hid, generation, hgeneration,
      transaction, htransaction, _, hvalid, handles, hhandles, messageType, htype, message',
      ⟨rfl, rfl, hwire, hidentity, hbody⟩, _, hvalidBody, rfl⟩
    rw [hwire, size_word message'.wireSize_lt] at hlen
    subst hlen
    rw [hidentity] at hvalid
    rw [← hidentity]
    exact ⟨⟨hvalid, hvalidBody⟩, ⟨hmagic, hmajor, hminor, htype, hflags, hsize, hhandles⟩,
      ⟨hrole, hbundle, hattempt, hid, hgeneration, htransaction⟩, hbody, hwire⟩
  · rintro ⟨⟨hvalid, hvalidBody⟩, ⟨hmagic, hmajor, hminor, htype, hflags, hsize, hhandles⟩,
      ⟨hrole, hbundle, hattempt, hid, hgeneration, htransaction⟩, hbody, hwire⟩
    have hheader : ¬ bytes.length < headerBytes := by
      have hfit := message.wireSize_eq
      omega
    refine ⟨hheader, _, ⟨hmagic, rfl⟩, rfl, _, hmajor, _, hminor, ⟨rfl, rfl⟩, _, hflags, rfl, _,
      hsize, ?_, _, hrole, _, hbundle, _, hattempt, _, hid, _, hgeneration, _, htransaction, (),
      hvalid, _, hhandles, _, htype, message, ⟨rfl, rfl, hwire, rfl, hbody⟩, (), hvalidBody, rfl⟩
    rw [hwire]
    exact UInt32.toNat_ofNat_of_lt message.wireSize_lt

/-! ## Writing, by texts -/

theorem putStream_turns {stream publication : UInt64} :
    Turns (do put64 72 stream; put64 80 publication : Fill ParseError Unit) () headerBytes
      (List.replicate 24 0) (u64 stream ++ (u64 publication ++ List.replicate 8 0)) := by
  have hzeros : List.replicate 24 (0 : UInt8) = List.replicate 8 0 ++ (List.replicate 8 0 ++
      List.replicate 8 0) := rfl
  rw [hzeros]
  exact .append (.storeAt rfl rfl) (.before (.storeAt rfl rfl))

theorem putBody_turns (message : ControlMessageV1_1) :
    Turns (putBody message) () headerBytes (List.replicate message.bodyText.length 0)
      message.bodyText := by
  cases message with
  | deviceStage identity stage resource base length source =>
      have hzeros : List.replicate 40 (0 : UInt8) = List.replicate 8 0 ++ (List.replicate 8 0 ++
          (List.replicate 2 0 ++ (List.replicate 2 0 ++ (List.replicate 4 0 ++
            List.replicate 16 0)))) := rfl
      show Turns _ _ _ (List.replicate 40 0) _
      rw [hzeros]
      exact .append (.storeAt rfl rfl) (.append (.storeAt rfl rfl) (.append (.storeAt rfl rfl)
        (.append (.storeAt rfl rfl) (.before (.storeAt rfl rfl)))))
  | deviceQuiesced identity stage => exact .storeAt rfl rfl
  | interruptStage identity stage parent source =>
      have hzeros : List.replicate 24 (0 : UInt8) = List.replicate 8 0 ++ (List.replicate 8 0 ++
          (List.replicate 4 0 ++ List.replicate 4 0)) := rfl
      show Turns _ _ _ (List.replicate 24 0) _
      rw [hzeros]
      exact .append (.storeAt rfl rfl) (.append (.storeAt rfl rfl) (.before (.storeAt rfl rfl)))
  | failure identity code =>
      have hcode : Turns (put32 72 code.toU32 : Fill ParseError Unit) () headerBytes
          (List.replicate 4 0) (u32 code.toU32) := .storeAt rfl rfl
      exact .before hcode
  | ready identity | retire identity => exact .pure ()
  | _ => exact putStream_turns

theorem encode_text {message : ControlMessageV1_1} {out : List UInt8} (hvalid : Valid message)
    (hlen : out.length = message.text.length) :
    encode message out = (.ok (), message.text, []) := by
  rw [message.length_text] at hlen
  rw [encode, sized_run hlen, hvalid.1, Prog.lift_ok_bind, hvalid.2, Prog.lift_ok_bind, hlen]
  exact words_written rfl (putBody_turns message) (hlen.trans message.wireSize_eq)

theorem encode_accepts {message : ControlMessageV1_1} {out out' : List UInt8} {w : List Empty}
    (h : encode message out = (.ok (), out', w)) :
    Valid message ∧ out.length = message.text.length := by
  obtain ⟨hsize, h⟩ := sized_accepts h
  obtain ⟨_, hidentity, h⟩ := Prog.lift_bind_eq_ok h
  obtain ⟨_, hbody, -⟩ := Prog.lift_bind_eq_ok h
  exact ⟨⟨hidentity, hbody⟩, hsize.trans message.length_text.symm⟩

theorem codec : Inverse encode parse :=
  .of_text Valid ControlMessageV1_1.text parse_eq_ok encode_accepts encode_text

end ControlV11

/-! ## Both minors -/

/-- Either codec undoes itself, and the texts of the two minors differ. -/
theorem control_codecs : Inverse Control.encode Control.parse ∧
    Inverse ControlV11.encode ControlV11.parse ∧
    ∀ bytes message message', ¬ (Control.parse bytes = .ok message ∧
      ControlV11.parse bytes = .ok message') := by
  refine ⟨Control.codec, ControlV11.codec, ?_⟩
  rintro bytes message message' ⟨hzero, hone⟩
  obtain ⟨-, htext⟩ := Control.parse_eq_ok.mp hzero
  obtain ⟨-, htext'⟩ := ControlV11.parse_eq_ok.mp hone
  have hminor := (Control.text_iff.mp htext).1.minor_unique (ControlV11.text_iff.mp htext').1
  exact absurd hminor (by decide)

end Wyrmroot.DeviceProto
