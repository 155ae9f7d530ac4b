import Wyrmroot.Bootfs.Archive
import Wyrmroot.Loader.Entry
import Wyrmroot.Supervision.Model

/-!
# The bootstrap envelope

`wyrmroot-bootstrap-proto`: the INIT that the kernel sends to the primordial
process and the READY that it sends back. Three versions share one header of
40 bytes; they differ in the minor number, in the number of capabilities an
INIT names, and in the error that a wrong count is reported as.
-/

namespace Wyrmroot.Bootstrap

open Outcome

/-- `b"WRBP"`. -/
def protocolMagic : List UInt8 := [87, 82, 66, 80]
def protocolMajor : Nat := 1
def protocolMinor : Nat := 0
def protocolMinorV2 : Nat := 1
def protocolMinorV3 : Nat := 2
def headerSize : Nat := 40
def bootstrapInitV1Size : Nat := 56
def bootstrapInitV2Size : Nat := 64
def bootstrapInitV3Size : Nat := 72
def bootstrapReadyV1Size : Nat := 40
def bootstrapReadyV2Size : Nat := 40
def bootstrapReadyV3Size : Nat := 40
def maxBootstrapV2Handles : Nat := 3
def maxBootstrapHandles : Nat := 4
def initType : Nat := 1
def readyType : Nat := 2
def roleDescriptorSize : Nat := 8

/-- The wire values of `CapabilityRole`. -/
def selfRootAddressRegion : Nat := 1
def bootfsMemoryObject : Nat := 2
def loaderTaskGroup : Nat := 3
def resourceDomainTaskGroup : Nat := 4

inductive BootstrapMessage where
  | init (transactionId : UInt64)
  | ready (transactionId : UInt64)
  | initV2 (transactionId : UInt64)
  | readyV2 (transactionId : UInt64)
  | initV3 (transactionId : UInt64)
  | readyV3 (transactionId : UInt64)
deriving DecidableEq

inductive DecodeError where
  | truncatedHeader
  | wrongMagic
  | unsupportedMajor
  | unsupportedMinor
  | unknownMessageType
  | nonzeroFlags
  | nonzeroReserved
  | wrongTotalSize
  | wrongCapabilityCount
  | wrongHandleCount
  | zeroTransactionId
  | wrongCapabilityRoles
  | encodeBufferTooSmall
deriving DecidableEq

abbrev Decode := Outcome DecodeError

/-! ## Decoding -/

def checkTotalSize (input : List UInt8) (size : Nat) : Decode Unit := do
  rejectIf ((← getLE 4 input 16) ≠ size || input.length ≠ size) .wrongTotalSize

/-- The role descriptors from `index` on. -/
def checkRoles (input : List UInt8) (index : Nat) : List Nat → Decode Unit
  | [] => .ok ()
  | role :: rest => do
      let found ← getLE 4 input (headerSize + index * roleDescriptorSize)
      let reserved ← getLE 4 input (headerSize + index * roleDescriptorSize + 4)
      rejectIf (found ≠ role || reserved ≠ 0) .wrongCapabilityRoles
      checkRoles input (index + 1) rest

/-- The versions that report the two counts apart. -/
def checkCounts (input : List UInt8) (receivedHandleCount expected : Nat) : Decode Unit := do
  rejectIf ((← getLE 4 input 20) ≠ expected) .wrongCapabilityCount
  rejectIf (receivedHandleCount ≠ expected) .wrongHandleCount

/-- The versions that report them as one. -/
def checkCountsTogether (input : List UInt8) (receivedHandleCount expected : Nat)
    (error : DecodeError) : Decode Unit := do
  rejectIf ((← getLE 4 input 20) ≠ expected || receivedHandleCount ≠ expected) error

def decodeInit (input : List UInt8) (receivedHandleCount : Nat) (transactionId : UInt64) :
    Decode BootstrapMessage := do
  checkTotalSize input bootstrapInitV1Size
  checkCounts input receivedHandleCount 2
  checkRoles input 0 [selfRootAddressRegion, bootfsMemoryObject]
  pure (.init transactionId)

def decodeInitV2 (input : List UInt8) (receivedHandleCount : Nat) (transactionId : UInt64) :
    Decode BootstrapMessage := do
  checkTotalSize input bootstrapInitV2Size
  checkCounts input receivedHandleCount maxBootstrapV2Handles
  checkRoles input 0 [selfRootAddressRegion, bootfsMemoryObject, loaderTaskGroup]
  pure (.initV2 transactionId)

def decodeInitV3 (input : List UInt8) (receivedHandleCount : Nat) (transactionId : UInt64) :
    Decode BootstrapMessage := do
  checkTotalSize input bootstrapInitV3Size
  checkCountsTogether input receivedHandleCount maxBootstrapHandles .wrongCapabilityCount
  checkRoles input 0 [selfRootAddressRegion, bootfsMemoryObject, loaderTaskGroup,
    resourceDomainTaskGroup]
  pure (.initV3 transactionId)

def decodeReady (input : List UInt8) (receivedHandleCount : Nat) (transactionId : UInt64) :
    Decode BootstrapMessage := do
  checkTotalSize input bootstrapReadyV1Size
  checkCounts input receivedHandleCount 0
  pure (.ready transactionId)

def decodeReadyV2 (input : List UInt8) (receivedHandleCount : Nat) (transactionId : UInt64) :
    Decode BootstrapMessage := do
  checkTotalSize input bootstrapReadyV2Size
  checkCounts input receivedHandleCount 0
  pure (.readyV2 transactionId)

def decodeReadyV3 (input : List UInt8) (receivedHandleCount : Nat) (transactionId : UInt64) :
    Decode BootstrapMessage := do
  checkTotalSize input bootstrapReadyV3Size
  checkCountsTogether input receivedHandleCount 0 .wrongHandleCount
  pure (.readyV3 transactionId)

/-- The last `match` of `decode`. -/
def decodeBody (input : List UInt8) (receivedHandleCount minor : Nat) (transactionId : UInt64)
    (messageType : Nat) : Decode BootstrapMessage :=
  if messageType = initType then
    if minor = protocolMinor then decodeInit input receivedHandleCount transactionId
    else if minor = protocolMinorV2 then decodeInitV2 input receivedHandleCount transactionId
    else decodeInitV3 input receivedHandleCount transactionId
  else if messageType = readyType then
    if minor = protocolMinor then decodeReady input receivedHandleCount transactionId
    else if minor = protocolMinorV2 then decodeReadyV2 input receivedHandleCount transactionId
    else decodeReadyV3 input receivedHandleCount transactionId
  else .err .unknownMessageType

def decode (input : List UInt8) (receivedHandleCount : Nat) : Decode BootstrapMessage := do
  rejectIf (input.length < headerSize) .truncatedHeader
  rejectIf ((← sliceAt input 0 4) ≠ protocolMagic) .wrongMagic
  rejectIf ((← getLE 2 input 4) ≠ protocolMajor) .unsupportedMajor
  let minor ← getLE 2 input 6
  rejectIf (!([protocolMinor, protocolMinorV2, protocolMinorV3].contains minor)) .unsupportedMinor
  rejectIf ((← getLE 4 input 12) ≠ 0) .nonzeroFlags
  rejectIf ((← getLE 8 input 32) ≠ 0) .nonzeroReserved
  let transactionId ← getLE 8 input 24
  rejectIf (transactionId = 0) .zeroTransactionId
  let messageType ← getLE 4 input 8
  decodeBody input receivedHandleCount minor (UInt64.ofNat transactionId) messageType

/-! ## Encoding READY -/

/-- `write_header_version`, on the whole of a header. -/
def headerText (minor messageType totalSize capabilityCount : Nat) (transactionId : UInt64) :
    List UInt8 :=
  protocolMagic ++ leBytes 2 protocolMajor ++ leBytes 2 minor ++ leBytes 4 messageType ++
    leBytes 4 0 ++ leBytes 4 totalSize ++ leBytes 4 capabilityCount ++
    leBytes 8 transactionId.toNat ++ leBytes 8 0

/-- `encode_into` of a READY on a buffer of its own size. -/
def encodeReady (minor size : Nat) (transactionId : UInt64) : Decode (List UInt8) :=
  if transactionId = 0 then .err .zeroTransactionId
  else .ok (headerText minor readyType size 0 transactionId)

def encodeReadyV2 (transactionId : UInt64) : Decode (List UInt8) :=
  encodeReady protocolMinorV2 bootstrapReadyV2Size transactionId

def encodeReadyV3 (transactionId : UInt64) : Decode (List UInt8) :=
  encodeReady protocolMinorV3 bootstrapReadyV3Size transactionId

/-! ## Decoding does not panic -/

variable {input : List UInt8}

theorem getLE_bind_ne_panic {α : Type} {n offset : Nat} {f : Nat → Decode α}
    (h : offset + n ≤ input.length) (hf : ∀ v, f v ≠ .panic) :
    ((getLE n input offset : Decode Nat) >>= f) ≠ .panic := by
  refine bind_ne_panic ?_ fun v _ => hf v
  rw [getLE, slice_isSome h]
  exact ok_ne_panic _

theorem checkRoles_ne_panic {roles : List Nat} : ∀ {index : Nat},
    headerSize + (index + roles.length) * roleDescriptorSize ≤ input.length →
      checkRoles input index roles ≠ .panic := by
  induction roles with
  | nil => exact fun _ => ok_ne_panic ()
  | cons role rest ih =>
      intro index h
      rw [List.length_cons] at h
      have hroom : headerSize + index * roleDescriptorSize + 8 ≤ input.length := by
        unfold headerSize roleDescriptorSize at h ⊢
        omega
      refine getLE_bind_ne_panic (by omega) fun _ => getLE_bind_ne_panic (by omega) fun _ => ?_
      refine bind_ne_panic (rejectIf_ne_panic _ _) fun _ _ => ih ?_
      rwa [Nat.add_assoc, Nat.add_comm 1]

variable {f : Unit → Decode BootstrapMessage}

theorem checkTotalSize_bind_ne_panic {size : Nat} (h : headerSize ≤ input.length)
    (hf : input.length = size → f () ≠ .panic) : (checkTotalSize input size >>= f) ≠ .panic := by
  unfold headerSize at h
  refine bind_ne_panic (getLE_bind_ne_panic (by omega) fun _ => rejectIf_ne_panic _ _) ?_
  intro _ hsize
  obtain ⟨_, -, hsize⟩ := bind_eq_ok.mp hsize
  rw [rejectIf_eq_ok, Bool.or_eq_false_iff, decide_eq_false_iff_not, decide_eq_false_iff_not,
    not_not, not_not] at hsize
  exact hf hsize.2

variable {count : Nat}

theorem checkCounts_bind_ne_panic {expected : Nat} (h : headerSize ≤ input.length)
    (hf : f () ≠ .panic) :
    (checkCounts input count expected >>= f) ≠ .panic := by
  unfold headerSize at h
  exact bind_ne_panic (getLE_bind_ne_panic (by omega) fun _ =>
    bind_ne_panic (rejectIf_ne_panic _ _) fun _ _ => rejectIf_ne_panic _ _) fun _ _ => hf

theorem checkCountsTogether_bind_ne_panic {expected : Nat}
    {error : DecodeError} (h : headerSize ≤ input.length)
    (hf : f () ≠ .panic) : (checkCountsTogether input count expected error >>= f) ≠ .panic := by
  unfold headerSize at h
  exact bind_ne_panic (getLE_bind_ne_panic (by omega) fun _ => rejectIf_ne_panic _ _) fun _ _ => hf

theorem decodeBody_ne_panic {minor messageType : Nat}
    {transactionId : UInt64} (h : headerSize ≤ input.length) :
    decodeBody input count minor transactionId messageType ≠ .panic := by
  have hroles : ∀ {roles : List Nat} (message : BootstrapMessage),
      headerSize + roles.length * roleDescriptorSize ≤ input.length →
        (checkRoles input 0 roles >>= fun _ => pure message) ≠ .panic := fun message hlen =>
    bind_ne_panic (checkRoles_ne_panic (by rwa [Nat.zero_add])) fun _ _ => pure_ne_panic message
  unfold decodeBody
  split_ifs
  · exact checkTotalSize_bind_ne_panic h fun hlen => checkCounts_bind_ne_panic h
      (hroles _ (by rw [hlen]; decide))
  · exact checkTotalSize_bind_ne_panic h fun hlen => checkCounts_bind_ne_panic h
      (hroles _ (by rw [hlen]; decide))
  · exact checkTotalSize_bind_ne_panic h fun hlen => checkCountsTogether_bind_ne_panic h
      (hroles _ (by rw [hlen]; decide))
  · exact checkTotalSize_bind_ne_panic h fun _ => checkCounts_bind_ne_panic h (pure_ne_panic _)
  · exact checkTotalSize_bind_ne_panic h fun _ => checkCounts_bind_ne_panic h (pure_ne_panic _)
  · exact checkTotalSize_bind_ne_panic h fun _ =>
      checkCountsTogether_bind_ne_panic h (pure_ne_panic _)
  · exact err_ne_panic _

theorem decode_ne_panic (input : List UInt8) (count : Nat) : decode input count ≠ .panic := by
  refine bind_ne_panic (rejectIf_ne_panic _ _) fun _ hlen => ?_
  rw [rejectIf_eq_ok, decide_eq_false_iff_not, Nat.not_lt] at hlen
  have h := hlen
  unfold headerSize at h
  refine bind_ne_panic (sliceAt_ok (ε := DecodeError) (by omega : 0 + 4 ≤ input.length) ▸ ok_ne_panic _) fun _ _ => ?_
  iterate 6 first
    | refine bind_ne_panic (rejectIf_ne_panic _ _) fun _ _ => ?_
    | refine getLE_bind_ne_panic (by omega) fun _ => bind_ne_panic (rejectIf_ne_panic _ _) fun _ _ => ?_
  exact getLE_bind_ne_panic (by omega) fun _ => decodeBody_ne_panic hlen

end Wyrmroot.Bootstrap
