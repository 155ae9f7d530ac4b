import Wyrmroot.DeviceProto.Envelope

/-!
# WRCS 1.0, the supervisor's controller codec

`wyrmroot-device-proto/src/controller.rs`. The six words of the front are the
supervisor generation, the registry binding (zeros when there is none), the
transaction and a reserved word; a status has a body of 16 bytes, where a
missing attempt is zero as well. `validate_message` is run by both sides.
-/

namespace Wyrmroot.DeviceProto

open Outcome

structure RegistryEndpoint where
  id : UInt64
  generation : UInt64
deriving DecidableEq

structure RegistryBinding where
  generation : UInt64
  endpoint : RegistryEndpoint
deriving DecidableEq

/-- `*b"WRCS"`. -/
def controllerMagic : List UInt8 := [87, 82, 67, 83]

inductive ControllerParseError where
  | wrongSize
  | wrongMagic
  | wrongVersion
  | unknownMessage
  | nonzeroFlags
  | wrongHandleCount
  | zeroIdentity
  | nonzeroReserved
  | staleBinding
  | deviceBoundStatus
  | missingAttempt
deriving DecidableEq

namespace Controller

abbrev Check := Outcome ControllerParseError

def minor : UInt16 := 0
def installBytes : Nat := headerBytes
def statusBytes : Nat := headerBytes + 16
def installHandleCount : UInt32 := 0
def rebindHandleCount : UInt32 := 1
def statusHandleCount : UInt32 := 0

inductive MessageType where
  | installPublication
  | rebindPublication
  | status
deriving DecidableEq

/-- `self as u32`. -/
def MessageType.toU32 : MessageType → UInt32
  | .installPublication => 1
  | .rebindPublication => 2
  | .status => 3

def MessageType.parse : UInt32 → Check MessageType
  | 1 => .ok .installPublication
  | 2 => .ok .rebindPublication
  | 3 => .ok .status
  | _ => .err .unknownMessage

inductive StatusCode where
  | operationalWaitingForRegistry
  | operationalWaitingForDeviceBundle
  | cleaningUp
  | backoff
  | permanentFailure
  | operationalResourceOwned
deriving DecidableEq

namespace StatusCode

/-- `self as u32`. -/
def toU32 : StatusCode → UInt32
  | .operationalWaitingForRegistry => 1
  | .operationalWaitingForDeviceBundle => 2
  | .cleaningUp => 3
  | .backoff => 4
  | .permanentFailure => 5
  | .operationalResourceOwned => 6

def parse : UInt32 → Check StatusCode
  | 1 => .ok .operationalWaitingForRegistry
  | 2 => .ok .operationalWaitingForDeviceBundle
  | 3 => .ok .cleaningUp
  | 4 => .ok .backoff
  | 5 => .ok .permanentFailure
  | 6 => .ok .operationalResourceOwned
  | _ => .err .deviceBoundStatus

def isDeviceBound (_ : StatusCode) : Bool := false

/-- The states that only a devmgr with a binding reports. -/
def needsBinding (self : StatusCode) : Bool :=
  self = .operationalWaitingForDeviceBundle || self = .operationalResourceOwned
    || self = .cleaningUp || self = .backoff || self = .permanentFailure

end StatusCode

end Controller

inductive ControllerMessage where
  | installPublication (supervisorGeneration : UInt64) (binding : RegistryBinding)
      (transactionId : UInt64)
  | rebindPublication (supervisorGeneration : UInt64) (binding : RegistryBinding)
      (transactionId : UInt64)
  | status (supervisorGeneration : UInt64) (binding : Option RegistryBinding)
      (transactionId : UInt64) (status : Controller.StatusCode)
      (attemptGeneration : Option UInt64)
deriving DecidableEq

namespace ControllerMessage

open Controller (MessageType)

def messageType : ControllerMessage → MessageType
  | .installPublication .. => .installPublication
  | .rebindPublication .. => .rebindPublication
  | .status .. => .status

def wireSize : ControllerMessage → Nat
  | .status .. => Controller.statusBytes
  | .installPublication .. | .rebindPublication .. => Controller.installBytes

def handleCount : ControllerMessage → UInt32
  | .installPublication .. => Controller.installHandleCount
  | .rebindPublication .. => Controller.rebindHandleCount
  | .status .. => Controller.statusHandleCount

def supervisorGeneration : ControllerMessage → UInt64
  | .installPublication s _ _ | .rebindPublication s _ _ | .status s _ _ _ _ => s

def binding : ControllerMessage → Option RegistryBinding
  | .installPublication _ b _ | .rebindPublication _ b _ => some b
  | .status _ b _ _ _ => b

def transactionId : ControllerMessage → UInt64
  | .installPublication _ _ t | .rebindPublication _ _ t | .status _ _ t _ _ => t

end ControllerMessage

namespace Controller

/-- Some part of the binding is zero. -/
def zeroBinding (binding : RegistryBinding) : Bool :=
  binding.generation = 0 || binding.endpoint.id = 0 || binding.endpoint.generation = 0

/-- The checks of a status that both sides make in the same words. -/
def checkStatus (status : StatusCode) (binding : Option RegistryBinding)
    (attemptGeneration : Option UInt64) : Check Unit := do
  rejectIf (status.needsBinding && binding.isNone) .staleBinding
  rejectIf (status = .backoff && attemptGeneration.isNone) .missingAttempt

def validateMessage (message : ControllerMessage) : Check Unit := do
  rejectIf (message.supervisorGeneration = 0 || message.transactionId = 0) .zeroIdentity
  rejectIf (message.binding.any zeroBinding) .zeroIdentity
  match message with
  | .status _ binding _ status attemptGeneration => do
      rejectIf status.isDeviceBound .deviceBoundStatus
      checkStatus status binding attemptGeneration
  | _ => pure ()

/-! ## Writing -/

/-- `if let Some(binding) = binding(message)`. -/
def putBinding : Option RegistryBinding → Fill ControllerParseError Unit
  | some binding => do
      put64 32 binding.generation
      put64 40 binding.endpoint.id
      put64 48 binding.endpoint.generation
  | none => pure ()

def putBody : ControllerMessage → Fill ControllerParseError Unit
  | .status _ _ _ status attemptGeneration => do
      put32 headerBytes status.toU32
      put64 (headerBytes + 8) (attemptGeneration.getD 0)
  | .installPublication .. | .rebindPublication .. => pure ()

def encode (message : ControllerMessage) : Fill ControllerParseError Unit := do
  let output ← .get
  .lift (rejectIf (output.length ≠ message.wireSize) .wrongSize)
  .lift (validateMessage message)
  fillZero
  putFront controllerMagic minor message.messageType.toU32 output.length message.handleCount
  put64 24 message.supervisorGeneration
  putBinding message.binding
  put64 56 message.transactionId
  putBody message

/-! ## Reading -/

def bindingFromBytes (bytes : List UInt8) : Check (Option RegistryBinding) := do
  let generation ← get64 bytes 32
  let id ← get64 bytes 40
  let endpointGeneration ← get64 bytes 48
  if generation = 0 && id = 0 && endpointGeneration = 0 then pure none
  else do
    rejectIf (generation = 0 || id = 0 || endpointGeneration = 0) .zeroIdentity
    pure (some { generation, endpoint := { id, generation := endpointGeneration } })

def expectedSize : MessageType → Nat
  | .status => statusBytes
  | .installPublication | .rebindPublication => installBytes

def expectedHandles : MessageType → UInt32
  | .status => statusHandleCount
  | .installPublication => installHandleCount
  | .rebindPublication => rebindHandleCount

/-- The arms of `parse`. -/
def parseArm (bytes : List UInt8) (supervisor : UInt64) (binding : Option RegistryBinding)
    (transaction : UInt64) : MessageType → Check ControllerMessage
  | .installPublication => do
      pure (.installPublication supervisor (← okOr binding .zeroIdentity) transaction)
  | .rebindPublication => do
      pure (.rebindPublication supervisor (← okOr binding .zeroIdentity) transaction)
  | .status => do
      rejectIf ((← get32 bytes (headerBytes + 4)) ≠ 0) .nonzeroReserved
      let status ← StatusCode.parse (← get32 bytes headerBytes)
      let rawAttempt ← get64 bytes (headerBytes + 8)
      let attemptGeneration := if rawAttempt = 0 then none else some rawAttempt
      checkStatus status binding attemptGeneration
      pure (.status supervisor binding transaction status attemptGeneration)

def parse (bytes : List UInt8) : Check ControllerMessage := do
  rejectIf (bytes.length < headerBytes) .wrongSize
  rejectIf ((← sliceAt bytes 0 4) ≠ controllerMagic) .wrongMagic
  rejectIf ((← get16 bytes 4) ≠ major || (← get16 bytes 6) ≠ minor) .wrongVersion
  rejectIf ((← get32 bytes 12) ≠ 0) .nonzeroFlags
  let messageType ← MessageType.parse (← get32 bytes 8)
  rejectIf (bytes.length ≠ expectedSize messageType
    || (← get32 bytes 16).toNat ≠ expectedSize messageType) .wrongSize
  rejectIf ((← get32 bytes 20) ≠ expectedHandles messageType) .wrongHandleCount
  rejectIf ((← get64 bytes 64) ≠ 0) .nonzeroReserved
  let supervisor ← get64 bytes 24
  let binding ← bindingFromBytes bytes
  let transaction ← get64 bytes 56
  rejectIf (supervisor = 0 || transaction = 0) .zeroIdentity
  let message ← parseArm bytes supervisor binding transaction messageType
  validateMessage message
  pure message

/-! ## Texts -/

variable {value : UInt32}

theorem MessageType.parse_eq_ok {messageType : MessageType} :
    MessageType.parse value = .ok messageType ↔ value = messageType.toU32 := by
  constructor
  · intro h
    unfold MessageType.parse at h
    split at h
    all_goals cases h
    all_goals rfl
  · rintro rfl
    cases messageType <;> rfl

theorem StatusCode.parse_eq_ok {status : StatusCode} :
    StatusCode.parse value = .ok status ↔ value = status.toU32 := by
  constructor
  · intro h
    unfold StatusCode.parse at h
    split at h
    all_goals cases h
    all_goals rfl
  · rintro rfl
    cases status <;> rfl

end Controller

namespace ControllerMessage

open Controller

def bindingWords : Option RegistryBinding → List UInt64
  | some binding => [binding.generation, binding.endpoint.id, binding.endpoint.generation]
  | none => [0, 0, 0]

def words (message : ControllerMessage) : List UInt64 :=
  message.supervisorGeneration :: (bindingWords message.binding ++ [message.transactionId, 0])

def attemptGeneration : ControllerMessage → Option UInt64
  | .status _ _ _ _ attempt => attempt
  | _ => none

def bodyText : ControllerMessage → List UInt8
  | .status _ _ _ code attempt => u32 code.toU32 ++ (u32 0 ++ u64 (attempt.getD 0))
  | _ => []

def text (message : ControllerMessage) : List UInt8 :=
  front controllerMagic minor message.messageType.toU32 message.wireSize message.handleCount ++
    (u64s message.words ++ message.bodyText)

theorem wireSize_eq (message : ControllerMessage) :
    message.wireSize = headerBytes + message.bodyText.length := by
  cases message <;> rfl

@[simp] theorem length_bindingWords (binding : Option RegistryBinding) :
    (bindingWords binding).length = 3 := by
  cases binding <;> rfl

theorem length_text (message : ControllerMessage) : message.text.length = message.wireSize := by
  rw [text, List.length_append, length_front rfl, List.length_append, length_u64s, wireSize_eq]
  simp only [words, List.length_cons, List.length_append, length_bindingWords, List.length_nil,
    headerBytes]
  omega

theorem expectedSize_messageType (message : ControllerMessage) :
    expectedSize message.messageType = message.wireSize := by
  cases message <;> rfl

theorem expectedHandles_messageType (message : ControllerMessage) :
    expectedHandles message.messageType = message.handleCount := by
  cases message <;> rfl

theorem wireSize_lt (message : ControllerMessage) : message.wireSize < 4294967296 := by
  unfold wireSize
  split <;> decide

end ControllerMessage

/-!
## The WRCS 1.0 codec

`parse` accepts the texts of valid messages, but never returns a status whose
attempt generation is `Some(0)`: a zero there is read as no attempt. `encode`
takes such a message as well and writes the text of the one without an
attempt, so it is read back as another message or not at all
(`encode_parse_iff`).
-/

variable {bytes : List UInt8}

namespace Controller

/-! ## Reading -/

theorem bindingFromBytes_eq_ok {binding : Option RegistryBinding} :
    bindingFromBytes bytes = .ok binding ↔
      Has bytes 32 (u64s (ControllerMessage.bindingWords binding)) ∧
        binding.any zeroBinding = false := by
  simp only [bindingFromBytes, bind_eq_ok, get64_eq_ok]
  constructor
  · rintro ⟨generation, hgeneration, id, hid, endpoint, hendpoint, h⟩
    split_ifs at h with hzero
    · simp only [Bool.and_eq_true, decide_eq_true_eq] at hzero
      obtain ⟨⟨rfl, rfl⟩, rfl⟩ := hzero
      obtain rfl := Outcome.ok.inj h
      simp only [ControllerMessage.bindingWords, u64s_cons, u64s_nil, List.append_nil, has_append,
        length_u64]
      exact ⟨⟨hgeneration, hid, hendpoint⟩, rfl⟩
    · simp only [bind_eq_ok, rejectIf_eq_ok, exists_const] at h
      obtain ⟨hnonzero, h⟩ := h
      obtain rfl := Outcome.ok.inj h
      simp only [ControllerMessage.bindingWords, u64s_cons, u64s_nil, List.append_nil, has_append,
        length_u64]
      exact ⟨⟨hgeneration, hid, hendpoint⟩, hnonzero⟩
  · rintro ⟨hwords, hvalid⟩
    cases binding with
    | none =>
        simp only [ControllerMessage.bindingWords, u64s_cons, u64s_nil, List.append_nil, has_append,
          length_u64] at hwords
        exact ⟨0, hwords.1, 0, hwords.2.1, 0, hwords.2.2, rfl⟩
    | some binding =>
        simp only [ControllerMessage.bindingWords, u64s_cons, u64s_nil, List.append_nil, has_append,
          length_u64] at hwords
        refine ⟨_, hwords.1, _, hwords.2.1, _, hwords.2.2, ?_⟩
        have hnonzero : zeroBinding binding = false := hvalid
        have hother : (decide (binding.generation = 0) && decide (binding.endpoint.id = 0)
            && decide (binding.endpoint.generation = 0)) = false := by
          simp only [zeroBinding, Bool.or_eq_false_iff] at hnonzero
          rw [hnonzero.2, Bool.and_false]
        rw [if_neg (by rw [hother]; exact Bool.false_ne_true)]
        simp only [bind_eq_ok, rejectIf_eq_ok, exists_const]
        exact ⟨hnonzero, rfl⟩

/-- What either side asks of a message. -/
def Valid (message : ControllerMessage) : Prop := validateMessage message = .ok ()

/-- What the arm of a status asks. -/
def armCheck : ControllerMessage → Check Unit
  | .status _ binding _ code attempt => checkStatus code binding attempt
  | _ => .ok ()

theorem Valid.parts {message : ControllerMessage} (h : Valid message) :
    (message.supervisorGeneration ≠ 0 ∧ message.transactionId ≠ 0) ∧
      message.binding.any zeroBinding = false ∧ armCheck message = .ok () := by
  simp only [Valid, validateMessage, bind_eq_ok, rejectIf_eq_ok, exists_const,
    Bool.or_eq_false_iff, decide_eq_false_iff_not] at h
  obtain ⟨hids, hbinding, harm⟩ := h
  refine ⟨hids, hbinding, ?_⟩
  cases message with
  | status supervisor binding transaction code attempt =>
      simp only [bind_eq_ok, rejectIf_eq_ok, exists_const] at harm
      exact harm.2
  | _ => rfl

theorem parseArm_eq_ok {supervisor transaction : UInt64} {binding : Option RegistryBinding}
    {messageType : MessageType} {message : ControllerMessage} (hlen : headerBytes ≤ bytes.length) :
    parseArm bytes supervisor binding transaction messageType = .ok message ↔
      messageType = message.messageType ∧ supervisor = message.supervisorGeneration ∧
        binding = message.binding ∧ transaction = message.transactionId ∧
        Has bytes headerBytes message.bodyText ∧ armCheck message = .ok () ∧
        message.attemptGeneration ≠ some 0 := by
  have hnil : Has bytes headerBytes [] := slice_eq_some.mpr ⟨hlen, rfl⟩
  have hattempt : (none : Option UInt64) ≠ some 0 := by rintro ⟨⟩
  constructor
  · intro h
    cases messageType with
    | installPublication | rebindPublication =>
        simp only [parseArm, bind_eq_ok, okOr_eq_ok, Outcome.pure_eq, Outcome.ok.injEq] at h
        obtain ⟨found, rfl, rfl⟩ := h
        exact ⟨rfl, rfl, rfl, rfl, hnil, rfl, hattempt⟩
    | status =>
        simp only [parseArm, bind_eq_ok, get32_eq_ok, get64_eq_ok, rejectIf_eq_ok,
          StatusCode.parse_eq_ok, Outcome.pure_eq, Outcome.ok.injEq, exists_const,
          decide_eq_false_iff_not, not_not, ne_eq] at h
        obtain ⟨_, hzero, rfl, _, hcode, code, rfl, raw, hraw, _, hcheck, rfl⟩ := h
        have hword : u64 ((if raw = 0 then none else some raw : Option UInt64).getD 0) = u64 raw := by
          split_ifs with h
          · rw [h]
            rfl
          · rfl
        refine ⟨rfl, rfl, rfl, rfl, ?_, hcheck, ?_⟩
        · rw [ControllerMessage.bodyText, has_append, has_append, hword]
          exact ⟨hcode, hzero, hraw⟩
        · show (if raw = 0 then none else some raw : Option UInt64) ≠ some 0
          split_ifs with h
          · exact hattempt
          · intro hsome
            exact h (Option.some.inj hsome)
  · rintro ⟨rfl, rfl, rfl, rfl, hbody, hcheck, hnonzero⟩
    cases message with
    | status supervisor binding transaction code attempt =>
        rw [ControllerMessage.bodyText, has_append, has_append] at hbody
        have hread : (if attempt.getD 0 = 0 then none else some (attempt.getD 0)) = attempt := by
          cases attempt with
          | none => rfl
          | some attempt =>
              have hne : attempt ≠ 0 := by
                rintro rfl
                exact hnonzero rfl
              exact if_neg hne
        simp only [ControllerMessage.messageType, parseArm, bind_eq_ok, get32_eq_ok, get64_eq_ok,
          rejectIf_eq_ok, StatusCode.parse_eq_ok, Outcome.pure_eq, Outcome.ok.injEq, exists_const,
          decide_eq_false_iff_not, not_not, ne_eq]
        refine ⟨_, hbody.2.1, rfl, _, hbody.1, code, rfl, _, hbody.2.2, (), ?_, ?_⟩
        · rw [hread]
          exact hcheck
        · rw [hread]
          rfl
    | _ => rfl

theorem text_iff {message : ControllerMessage} : bytes = message.text ↔
    FrontAt bytes controllerMagic minor message.messageType.toU32 message.wireSize
      message.handleCount ∧
      (Has bytes 24 (u64 message.supervisorGeneration) ∧
        Has bytes 32 (u64s (ControllerMessage.bindingWords message.binding)) ∧
        Has bytes 56 (u64 message.transactionId) ∧ Has bytes 64 (u64 0)) ∧
      Has bytes headerBytes message.bodyText ∧ bytes.length = message.wireSize := by
  have hlen : 24 + (u64s message.words ++ message.bodyText).length = message.wireSize := by
    rw [message.wireSize_eq, List.length_append, length_u64s]
    simp only [ControllerMessage.words, List.length_cons, List.length_append,
      ControllerMessage.length_bindingWords, List.length_nil, headerBytes]
    omega
  have hsplit : u64s message.words = u64 message.supervisorGeneration ++
      (u64s (ControllerMessage.bindingWords message.binding) ++
        (u64 message.transactionId ++ u64 0)) := by
    simp only [ControllerMessage.words, u64s, List.flatMap_cons, List.flatMap_append,
      List.flatMap_nil, List.append_nil]
  rw [ControllerMessage.text, record_iff rfl, hlen, hsplit]
  simp only [List.append_assoc, has_append, length_u64, length_u64s,
    ControllerMessage.length_bindingWords, headerBytes]
  constructor
  · rintro ⟨hfront, ⟨h1, h2, h3, h4, hbody⟩, hsize⟩
    exact ⟨hfront, ⟨h1, h2, h3, h4⟩, hbody, hsize⟩
  · rintro ⟨hfront, ⟨h1, h2, h3, h4⟩, hbody, hsize⟩
    exact ⟨hfront, ⟨h1, h2, h3, h4, hbody⟩, hsize⟩

theorem parse_eq_ok {message : ControllerMessage} : parse bytes = .ok message ↔
    (Valid message ∧ message.attemptGeneration ≠ some 0) ∧ bytes = message.text := by
  rw [text_iff]
  simp only [parse, bind_eq_ok, rejectIf_eq_ok, get16_eq_ok, get32_eq_ok, get64_eq_ok,
    sliceAt_eq_ok, bindingFromBytes_eq_ok, MessageType.parse_eq_ok, Bool.or_eq_false_iff,
    decide_eq_false_iff_not, not_not, ne_eq, exists_const, Outcome.pure_eq, Outcome.ok.injEq]
  constructor
  · rintro ⟨hheader, _, ⟨hmagic, -⟩, rfl, _, hmajor, _, hminor, ⟨rfl, rfl⟩, _, hflags, rfl, _, htype,
      messageType, rfl, size, hsize, ⟨hlen, hword⟩, handles, hhandles, rfl, _, hreserved, rfl,
      supervisor, hsupervisor, binding, ⟨hbinding, -⟩, transaction, htransaction, -, message', harm,
      _, hvalid, rfl⟩
    rw [parseArm_eq_ok (Nat.le_of_not_lt hheader)] at harm
    obtain ⟨rfl, rfl, rfl, rfl, hbody, -, hattempt⟩ := harm
    rw [message'.expectedSize_messageType] at hlen hword
    rw [size_word message'.wireSize_lt] at hword
    subst hword
    rw [message'.expectedHandles_messageType] at hhandles
    exact ⟨⟨hvalid, hattempt⟩, ⟨hmagic, hmajor, hminor, htype, hflags, hsize, hhandles⟩,
      ⟨hsupervisor, hbinding, htransaction, hreserved⟩, hbody, hlen⟩
  · rintro ⟨⟨hvalid, hattempt⟩, ⟨hmagic, hmajor, hminor, htype, hflags, hsize, hhandles⟩,
      ⟨hsupervisor, hbinding, htransaction, hreserved⟩, hbody, hlen⟩
    have hfit : headerBytes ≤ bytes.length := by
      have hwire := message.wireSize_eq
      omega
    have hword : (UInt32.ofNat message.wireSize).toNat = message.wireSize :=
      UInt32.toNat_ofNat_of_lt message.wireSize_lt
    obtain ⟨hids, hnonzero, harm⟩ := hvalid.parts
    refine ⟨Nat.not_lt.mpr hfit, _, ⟨hmagic, rfl⟩, rfl, _, hmajor, _, hminor, ⟨rfl, rfl⟩, _, hflags,
      rfl, _, htype, message.messageType, rfl, _, hsize, ?_, _, hhandles, ?_, _, hreserved, rfl, _,
      hsupervisor, _, ⟨hbinding, hnonzero⟩, _, htransaction, hids, message, ?_, (), hvalid, rfl⟩
    · rw [message.expectedSize_messageType]
      exact ⟨hlen, hword⟩
    · exact message.expectedHandles_messageType.symm
    · exact (parseArm_eq_ok hfit).mpr ⟨rfl, rfl, rfl, rfl, hbody, harm, hattempt⟩

/-! ## Writing -/

theorem putBinding_turns (binding : Option RegistryBinding) :
    Turns (putBinding binding) () 32 (List.replicate 24 0)
      (u64s (ControllerMessage.bindingWords binding)) := by
  cases binding with
  | none => exact .pure ()
  | some binding =>
      have hzeros : List.replicate 24 (0 : UInt8) = List.replicate 8 0 ++ (List.replicate 8 0 ++
          List.replicate 8 0) := rfl
      simp only [ControllerMessage.bindingWords, u64s_cons, u64s_nil, List.append_nil]
      rw [hzeros]
      exact .append (.storeAt rfl rfl) (.append (.storeAt rfl rfl) (.storeAt rfl rfl))

theorem putBody_turns (message : ControllerMessage) :
    Turns (putBody message) () headerBytes (List.replicate message.bodyText.length 0)
      message.bodyText := by
  cases message with
  | status supervisor binding transaction code attempt =>
      have hzeros : List.replicate 16 (0 : UInt8) = List.replicate 4 0 ++ (u32 0 ++
          List.replicate 8 0) := rfl
      show Turns _ _ _ (List.replicate 16 0) _
      rw [hzeros]
      exact .append (.storeAt rfl rfl) (.behind (.storeAt rfl rfl))
  | _ => exact .pure ()

theorem encode_text {message : ControllerMessage} {out : List UInt8} (hvalid : Valid message)
    (hlen : out.length = message.text.length) :
    encode message out = (.ok (), message.text, []) := by
  rw [message.length_text] at hlen
  rw [encode, sized_run hlen, hvalid, Prog.lift_ok_bind]
  refine fillZero_bind ?_
  have hzeros : List.replicate out.length (0 : UInt8) = List.replicate 24 0 ++
      (List.replicate 8 0 ++ (List.replicate 24 0 ++ (List.replicate 8 0 ++ (u64 0 ++
        List.replicate message.bodyText.length 0)))) := by
    rw [show u64 0 = List.replicate 8 0 from rfl]
    simp only [← List.replicate_add, hlen, message.wireSize_eq, headerBytes]
    congr 1
    omega
  have htext : message.text = front controllerMagic minor message.messageType.toU32
      message.wireSize message.handleCount ++ (u64 message.supervisorGeneration ++
        (u64s (ControllerMessage.bindingWords message.binding) ++
          (u64 message.transactionId ++ (u64 0 ++ message.bodyText)))) := by
    simp only [ControllerMessage.text, ControllerMessage.words, u64s, List.flatMap_cons,
      List.flatMap_append, List.flatMap_nil, List.append_nil, List.append_assoc]
  rw [hzeros, hlen, htext]
  have hfront : (front controllerMagic minor message.messageType.toU32 message.wireSize
      message.handleCount).length = 24 := length_front rfl
  have hbinding := putBinding_turns message.binding
  rw [show 32 = 0 + (front controllerMagic minor message.messageType.toU32 message.wireSize
    message.handleCount).length + (u64 message.supervisorGeneration).length by
      rw [hfront, length_u64]] at hbinding
  have hbody := putBody_turns message
  refine .append (putFront_turns rfl) (.append (.storeAt ?_ rfl) (.append hbinding
    (.append (.storeAt ?_ rfl) (.behind ?_))))
  · rw [hfront]
  · simp only [hfront, length_u64, length_u64s, ControllerMessage.length_bindingWords, Nat.zero_add]
  · simpa [hfront, headerBytes] using hbody

variable {out out' : List UInt8} {w : List Empty}

theorem encode_accepts {message : ControllerMessage} (h : encode message out = (.ok (), out', w)) :
    Valid message ∧ out.length = message.text.length := by
  obtain ⟨hsize, h⟩ := sized_accepts h
  obtain ⟨_, hvalid, -⟩ := Prog.lift_bind_eq_ok h
  exact ⟨hvalid, hsize.trans message.length_text.symm⟩

/-- What `encode` wrote is read back as the message unless its attempt
generation is `Some(0)`. -/
theorem encode_parse_iff {message : ControllerMessage}
    (h : encode message out = (.ok (), out', w)) :
    parse out' = .ok message ↔ message.attemptGeneration ≠ some 0 := by
  obtain ⟨hvalid, hlen⟩ := encode_accepts h
  rw [encode_text hvalid hlen] at h
  obtain ⟨-, hrest⟩ := Prod.mk.inj h
  obtain ⟨rfl, -⟩ := Prod.mk.inj hrest
  rw [parse_eq_ok]
  constructor
  · intro hparse
    exact hparse.1.2
  · intro hattempt
    exact ⟨⟨hvalid, hattempt⟩, rfl⟩

theorem parse_encode {message : ControllerMessage}
    (h : parse bytes = .ok message) (hlen : out.length = bytes.length) :
    encode message out = (.ok (), bytes, []) := by
  obtain ⟨⟨hvalid, -⟩, rfl⟩ := parse_eq_ok.mp h
  exact encode_text hvalid hlen

end Controller

end Wyrmroot.DeviceProto
