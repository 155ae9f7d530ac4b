import Wyrmroot.Uart.StreamProto

/-!
# The driver's raw stream

`StreamAttachment` of `uart16550d/src/lib.rs`: the driver's end of the
connector. At most one raw stream is attached. ATTACH_STREAM brings its
Channel and is answered by STREAM_READY; a detached stream gives the Channel
back with the STREAM_DETACHED that reports it.

The driver knows itself by the identity of its READY. What the broker
publishes has another transaction, and the one of an attach is another again:
`SameAttempt` is what the driver compares.
-/

namespace Wyrmroot.Uart

open Outcome Devmgr
open Loader (Rights ReceivedHandleInfo)

def rawStreamRights : Rights := {.read, .write, .wait, .inspect}

/-- The handle that came with the message, taken over field by field. -/
abbrev ReceivedStreamEndpoint := ReceivedHandleInfo

inductive StreamAttachError where
  | busy
  | wrongMessage
  | wrongCorrelation
  | wrongHandle
deriving DecidableEq

structure StreamAttachment where
  driver : ControlIdentityV1_1
  /-- The transaction, the stream and the publication of the attached stream, and its end. -/
  active : Option (Nat × Nat × Nat × ReceivedStreamEndpoint)
deriving DecidableEq

abbrev Attachment (α : Type) := Prog StreamAttachment Empty StreamAttachError α

namespace StreamAttachment

def new (driver : ControlIdentityV1_1) : StreamAttachment := { driver, active := none }

def attach (message : ControlMessageV1_1) (endpoint : ReceivedStreamEndpoint) :
    Attachment ControlMessageV1_1 := do
  let self ← .get
  .lift (rejectIf self.active.isSome .busy)
  match message with
  | .attachStream identity streamGeneration publicationGeneration => do
      .lift (rejectIf (identity.roleId ≠ self.driver.roleId
        || identity.bundleGeneration ≠ self.driver.bundleGeneration
        || identity.attemptGeneration ≠ self.driver.attemptGeneration
        || identity.endpoint ≠ self.driver.endpoint
        || identity.transactionId = 0
        || streamGeneration = 0
        || publicationGeneration = 0) .wrongCorrelation)
      .lift (rejectIf (endpoint.handle = 0
        || endpoint.objectType ≠ .channel
        || endpoint.rights ≠ rawStreamRights
        || endpoint.reserved0 ≠ 0
        || endpoint.reserved ≠ [0, 0]) .wrongHandle)
      .modify ({ · with active := some (identity.transactionId, streamGeneration,
        publicationGeneration, endpoint) })
      pure (.streamReady identity streamGeneration publicationGeneration)
  | _ => .throw .wrongMessage

def detach : Attachment (Option (ControlMessageV1_1 × ReceivedStreamEndpoint)) := do
  let self ← .get
  match self.active with
  | some (transactionId, streamGeneration, publicationGeneration, endpoint) => do
      .modify ({ · with active := none })
      pure (some (.streamDetached { self.driver with transactionId } streamGeneration
        publicationGeneration, endpoint))
  | none => pure none

end StreamAttachment

/-! ## An attach of the broker -/

/-- Two identities of one driver attempt: they differ in the transaction at most. -/
def SameAttempt (identity driver : ControlIdentityV1_1) : Prop :=
  identity.roleId = driver.roleId ∧ identity.bundleGeneration = driver.bundleGeneration ∧
    identity.attemptGeneration = driver.attemptGeneration ∧ identity.endpoint = driver.endpoint

instance (identity driver : ControlIdentityV1_1) : Decidable (SameAttempt identity driver) :=
  inferInstanceAs (Decidable (_ ∧ _))

theorem SameAttempt.renamed {identity driver : ControlIdentityV1_1}
    (h : SameAttempt identity driver) (transactionId : Nat) :
    { identity with transactionId } = { driver with transactionId } := by
  obtain ⟨hrole, hbundle, hattempt, hendpoint⟩ := h
  rw [ControlIdentityV1_1.mk.injEq]
  exact ⟨hrole, hbundle, hattempt, hendpoint, rfl⟩

/-- What the driver keeps of an attach. -/
def activeOf (attach : AttachCorrelation) (endpoint : ReceivedStreamEndpoint) :
    Nat × Nat × Nat × ReceivedStreamEndpoint :=
  (attach.attachTransactionId, attach.streamGeneration, attach.driver.publicationGeneration,
    endpoint)

variable {self : StreamAttachment} {attach : AttachCorrelation}
  {endpoint : ReceivedStreamEndpoint}

/-- An idle driver takes every attach of its attempt, unless the handle is not what a
stream is. -/
theorem attach_own (hidle : self.active = none)
    (hsame : SameAttempt attach.driver.control self.driver)
    (htransaction : 0 < attach.attachTransactionId) (hstream : 0 < attach.streamGeneration)
    (hpublication : 0 < attach.driver.publicationGeneration) :
    StreamAttachment.attach attach.attachMessage endpoint self =
        (.ok attach.readyMessage, { self with active := some (activeOf attach endpoint) }, []) ∨
      StreamAttachment.attach attach.attachMessage endpoint self = (.err .wrongHandle, self, []) := by
  obtain ⟨driver, active⟩ := self
  obtain rfl : active = none := hidle
  have hready : attach.readyMessage = .streamReady
      { driver with transactionId := attach.attachTransactionId } attach.streamGeneration
      attach.driver.publicationGeneration := by
    rw [← hsame.renamed]
    rfl
  obtain ⟨hrole, hbundle, hattempt, hendpoint⟩ := hsame
  rw [StreamAttachment.attach, Prog.get_bind_run, hready]
  simp only [AttachCorrelation.attachMessage, AttachCorrelation.controlIdentity, hrole, hbundle,
    hattempt, hendpoint, ne_eq, not_true_eq_false, decide_false, Bool.false_or, htransaction.ne',
    hstream.ne', hpublication.ne', Option.isSome_none, rejectIf_false, Prog.lift_ok_bind]
  unfold rejectIf
  split_ifs
  · exact .inr rfl
  · exact .inl rfl

theorem detach_run (self : StreamAttachment) : ∃ given,
    StreamAttachment.detach self = (.ok given, { self with active := none }, []) := by
  obtain ⟨driver, active⟩ := self
  cases active with
  | none => exact ⟨none, rfl⟩
  | some active => exact ⟨_, rfl⟩

theorem detach_own (hactive : self.active = some (activeOf attach endpoint))
    (hsame : SameAttempt attach.driver.control self.driver) :
    StreamAttachment.detach self =
      (.ok (some (attach.detachedMessage, endpoint)), { self with active := none }, []) := by
  rw [StreamAttachment.detach, Prog.get_bind_run, hactive]
  simp only [activeOf, AttachCorrelation.detachedMessage, AttachCorrelation.controlIdentity]
  rw [← hsame.renamed]
  rfl

end Wyrmroot.Uart
