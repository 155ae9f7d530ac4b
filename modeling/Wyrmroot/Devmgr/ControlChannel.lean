import Wyrmroot.Lib.Component
import Wyrmroot.Devmgr.Publications
import Wyrmroot.Uart.RawStream

/-!
# The broker and a driver at the two ends of a control channel

The broker of devmgr and the `StreamAttachment` of one driver attempt, with the
messages that are on their way in each direction, oldest first. Every step
belongs to one of the two: the broker may be called with anything at any time,
a client's release, a time-out or a retirement among it, and the driver may
detach whenever it holds a stream. What devmgr cannot see without this driver
is kept from the broker (`admits`): a message of the attempt that did not come
over the channel, and evidence that the attempt was reaped while it runs.

A message is kept with the attach it was emitted for, and so is the stream the
driver holds. Neither party reads that; it is what `Agreed` speaks about.
-/

namespace Wyrmroot.Devmgr

open Outcome ConnectorBroker Uart

/-- `valid` of the connector codec's `validate`: what `parse` lets through. -/
def ConnectorMessage.valid : ConnectorMessage → Bool
  | .connectStream publicationGeneration clientTransactionId
  | .error publicationGeneration clientTransactionId _ =>
      publicationGeneration ≠ 0 && clientTransactionId ≠ 0
  | .connected identity =>
      [identity.publicationGeneration, identity.clientTransactionId, identity.deviceRoleId,
        identity.bundleGeneration, identity.driverAttemptGeneration,
        identity.driverControlEndpointId, identity.driverControlEndpointGeneration,
        identity.attachTransactionId, identity.streamGeneration].all (· ≠ 0)

def ControlMessageV1_1.identity : ControlMessageV1_1 → ControlIdentityV1_1
  | .deviceStage identity _ _ _ _ _ | .deviceQuiesced identity _ | .interruptStage identity _ _ _
  | .attachStream identity _ _ | .streamReady identity _ _ | .streamDetached identity _ _
  | .ready identity | .failure identity _ | .retire identity => identity

structure StreamSession where
  broker : ConnectorBroker
  attachment : StreamAttachment
  /-- The process of the attempt has not ended. -/
  running : Bool
  /-- The attach whose stream the driver holds. -/
  attached : Option AttachCorrelation
  /-- ATTACH_STREAM messages, each with the endpoint moved by it. -/
  toDriver : List (AttachCorrelation × ReceivedStreamEndpoint)
  toDevmgr : List (AttachCorrelation × ControlMessageV1_1)
deriving DecidableEq

inductive SessionError where
  | broker (error : ConnectorModelError)
  | attach (error : StreamAttachError)
  | nothingToTake
  | cannotHappen
deriving DecidableEq

abbrev Session (α : Type) := Prog StreamSession Empty SessionError α

/-- What devmgr takes the next message of the driver for. -/
inductive Reading where
  | streamReady
  | rejection
  | streamDetached
deriving DecidableEq

def Reading.op : Reading → ControlMessageV1_1 → Op
  | .streamReady => .acceptStreamReady
  | .rejection => .pendingAttachRejected
  | .streamDetached => .driverDetached

inductive SessionOp where
  | broker (op : Op)
  /-- ATTACH_STREAM was sent and the endpoint moved. -/
  | send (attach : AttachCorrelation) (endpoint : ReceivedStreamEndpoint)
  | receive (reading : Reading)
  /-- The driver takes the next message; what it refuses it may answer. -/
  | deliver (answers : Bool)
  /-- The driver gives its stream up, and mostly says so. -/
  | detach (reports : Bool)
  | exit
deriving DecidableEq

inductive SessionReply where
  | unit
  | broker (reply : Reply)
deriving DecidableEq

namespace StreamSession

def new (broker : ConnectorBroker) (driver : ControlIdentityV1_1) : StreamSession where
  broker
  attachment := .new driver
  running := true
  attached := none
  toDriver := []
  toDevmgr := []

/-- The calls of the broker that need nothing of the driver's channel. -/
def admits (self : StreamSession) : Op → Bool
  | .beginConnect request => request.valid
  | .driverEndpointMoved observed => ¬ SameAttempt observed.driver.control self.attachment.driver
  | .acceptStreamReady message | .pendingAttachRejected message | .driverDetached message =>
      ¬ SameAttempt message.identity self.attachment.driver
  | .driverAttemptReaped observed =>
      ¬ (self.running ∧ SameAttempt observed.control self.attachment.driver)
  | _ => true

def callBroker (op : Op) : Session SessionReply :=
  .broker <$> (exec op).within StreamSession.broker (fun broker self => { self with broker }) .broker

def callDriver {α : Type} (m : Attachment α) : Session α :=
  m.within StreamSession.attachment (fun attachment self => { self with attachment }) .attach

def say (attach : AttachCorrelation) (message : ControlMessageV1_1) : Session Unit :=
  .modify fun self => { self with toDevmgr := self.toDevmgr ++ [(attach, message)] }

/-- The driver process's end closes what it holds and its channel. -/
def exit : Session Unit := do
  let _ ← callDriver StreamAttachment.detach
  .modify ({ · with running := false, attached := none, toDriver := [] })

end StreamSession

open StreamSession in
def act : SessionOp → Session SessionReply
  | .broker op => do
      let self ← .get
      .lift (rejectIf (!self.admits op) .cannotHappen)
      callBroker op
  | .send attach endpoint => do
      let self ← .get
      .lift (rejectIf (!self.running || ¬ SameAttempt attach.driver.control self.attachment.driver)
        .cannotHappen)
      let reply ← callBroker (.driverEndpointMoved attach)
      .modify fun self => { self with toDriver := self.toDriver ++ [(attach, endpoint)] }
      pure reply
  | .receive reading => do
      let self ← .get
      match self.toDevmgr with
      | [] => .throw .nothingToTake
      | (_, message) :: rest => do
          .modify ({ · with toDevmgr := rest })
          callBroker (reading.op message)
  | .deliver answers => do
      let self ← .get
      match self.toDriver with
      | [] => .throw .nothingToTake
      | (attach, endpoint) :: rest => do
          .modify ({ · with toDriver := rest })
          match ← (callDriver (StreamAttachment.attach attach.attachMessage endpoint)).attempt with
          | .ok ready => do
              .modify ({ · with attached := some attach })
              say attach ready
              pure .unit
          | .error error => do
              if answers then say attach (.failure attach.controlIdentity .driverRejected)
              .throw error
  | .detach reports => do
      let self ← .get
      match self.attached, ← callDriver StreamAttachment.detach with
      | some attach, some (message, _) => do
          .modify ({ · with attached := none })
          if reports then say attach message
          pure .unit
      | _, _ => .throw .nothingToTake
  | .exit => do
      exit
      pure .unit

abbrev SessionCall := Call SessionOp StreamSession Empty SessionError SessionReply

end Wyrmroot.Devmgr
