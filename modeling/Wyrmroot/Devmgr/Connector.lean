import Wyrmroot.Lib.Run
import Wyrmroot.Loader.Elf

/-!
# The serial connector

`ConnectorBroker` of `devmgr/src/connector.rs`: one slot in which a client is
attached to the published driver. The native code owns the Channel handles;
the broker names every change of owner and answers with what the native code
is to do. Two endpoints belong to an attach, the client's and the driver's,
and their releases arrive in any order.

Generations and transactions are `u64` in the source; the only arithmetic on
them is checked, so they are `Nat` with the bound at the checked addition.
-/

namespace Wyrmroot.Devmgr

open Outcome
open Loader (checkedAdd)

/-! ## The messages of the protocol crate -/

structure ControlEndpoint where
  id : Nat
  generation : Nat
deriving DecidableEq

structure ControlIdentityV1_1 where
  roleId : Nat
  bundleGeneration : Nat
  attemptGeneration : Nat
  endpoint : ControlEndpoint
  transactionId : Nat
deriving DecidableEq

inductive FailureCode where
  | malformedResource
  | driverRejected
  | driverExited
  | cleanupFailed
  | intentionalRestart
deriving DecidableEq

inductive ControlMessageV1_1 where
  | deviceStage (identity : ControlIdentityV1_1) (stageGeneration resourceId pioBase pioLength
      source : Nat)
  | deviceQuiesced (identity : ControlIdentityV1_1) (stageGeneration : Nat)
  | interruptStage (identity : ControlIdentityV1_1) (stageGeneration parentResourceId source : Nat)
  | attachStream (identity : ControlIdentityV1_1) (streamGeneration publicationGeneration : Nat)
  | streamReady (identity : ControlIdentityV1_1) (streamGeneration publicationGeneration : Nat)
  | streamDetached (identity : ControlIdentityV1_1) (streamGeneration publicationGeneration : Nat)
  | ready (identity : ControlIdentityV1_1)
  | failure (identity : ControlIdentityV1_1) (code : FailureCode)
  | retire (identity : ControlIdentityV1_1)
deriving DecidableEq

structure ConnectorIdentity where
  publicationGeneration : Nat
  clientTransactionId : Nat
  deviceRoleId : Nat
  bundleGeneration : Nat
  driverAttemptGeneration : Nat
  driverControlEndpointId : Nat
  driverControlEndpointGeneration : Nat
  attachTransactionId : Nat
  streamGeneration : Nat
deriving DecidableEq

inductive ConnectorErrorCode where
  | busy
  | notReady
  | stale
  | internalFailure
deriving DecidableEq

inductive ConnectorMessage where
  | connectStream (publicationGeneration clientTransactionId : Nat)
  | connected (identity : ConnectorIdentity)
  | error (publicationGeneration clientTransactionId : Nat) (code : ConnectorErrorCode)
deriving DecidableEq

/-! ## The broker -/

structure PublishedDriver where
  publicationGeneration : Nat
  control : ControlIdentityV1_1
deriving DecidableEq

structure AttachCorrelation where
  driver : PublishedDriver
  clientTransactionId : Nat
  attachTransactionId : Nat
  streamGeneration : Nat
deriving DecidableEq

namespace AttachCorrelation

def connectorIdentity (self : AttachCorrelation) : ConnectorIdentity where
  publicationGeneration := self.driver.publicationGeneration
  clientTransactionId := self.clientTransactionId
  deviceRoleId := self.driver.control.roleId
  bundleGeneration := self.driver.control.bundleGeneration
  driverAttemptGeneration := self.driver.control.attemptGeneration
  driverControlEndpointId := self.driver.control.endpoint.id
  driverControlEndpointGeneration := self.driver.control.endpoint.generation
  attachTransactionId := self.attachTransactionId
  streamGeneration := self.streamGeneration

/-- The control identity of the driver with the transaction of the attach. -/
def controlIdentity (self : AttachCorrelation) : ControlIdentityV1_1 :=
  { self.driver.control with transactionId := self.attachTransactionId }

def attachMessage (self : AttachCorrelation) : ControlMessageV1_1 :=
  .attachStream self.controlIdentity self.streamGeneration self.driver.publicationGeneration

def readyMessage (self : AttachCorrelation) : ControlMessageV1_1 :=
  .streamReady self.controlIdentity self.streamGeneration self.driver.publicationGeneration

def detachedMessage (self : AttachCorrelation) : ControlMessageV1_1 :=
  .streamDetached self.controlIdentity self.streamGeneration self.driver.publicationGeneration

end AttachCorrelation

inductive EndpointOwner where
  | devmgr
  | driver
  | client
  | released
deriving DecidableEq

structure PairOwnership where
  client : EndpointOwner
  driver : EndpointOwner
deriving DecidableEq

inductive ConnectorSlot where
  | empty
  | preMove (attach : AttachCorrelation) (pair : PairOwnership)
  | postMovePending (attach : AttachCorrelation) (pair : PairOwnership)
  | readyToConnect (attach : AttachCorrelation) (pair : PairOwnership)
  | active (attach : AttachCorrelation) (pair : PairOwnership)
  | awaitingDriverRelease (attach : AttachCorrelation) (pair : PairOwnership)
  | awaitingClientRelease (attach : AttachCorrelation) (pair : PairOwnership)
  | retiringActive (attach : AttachCorrelation) (pair : PairOwnership)
deriving DecidableEq

inductive ConnectorAction where
  /-- Create a pair; devmgr owns both endpoints. -/
  | allocatePair (attach : AttachCorrelation) (driverMessage : ControlMessageV1_1)
  | moveDriverEndpoint (attach : AttachCorrelation)
  | moveClientEndpoint (response : ConnectorMessage)
  /-- Close both endpoints; neither was moved. -/
  | closePreMovePair (attach : AttachCorrelation)
  /-- Close the client endpoint and ask the driver to close its own. -/
  | closeRetainedClientAndRequestDriverRelease (attach : AttachCorrelation)
  /-- Close the client endpoint; the driver's went with the driver. -/
  | closeRetainedClient (attach : AttachCorrelation)
deriving DecidableEq

inductive ConnectorModelError where
  | busy
  | notReady
  | stale
  | internalFailure
deriving DecidableEq

structure ConnectorBroker where
  current : Option PublishedDriver
  nextAttachTransaction : Nat
  nextStreamGeneration : Nat
  slot : ConnectorSlot
deriving DecidableEq

abbrev Broker (α : Type) := Prog ConnectorBroker Empty ConnectorModelError α

namespace ConnectorBroker

def new (current : Option PublishedDriver) (firstAttachTransaction firstStreamGeneration : Nat) :
    Outcome ConnectorModelError ConnectorBroker := do
  rejectIf (firstAttachTransaction = 0 || firstStreamGeneration = 0) .internalFailure
  pure { current, nextAttachTransaction := firstAttachTransaction,
         nextStreamGeneration := firstStreamGeneration, slot := .empty }

def setSlot (slot : ConnectorSlot) : Broker Unit := .modify ({ · with slot })

def replacePublishedDriver (replacement : PublishedDriver) : Broker Unit := do
  let self ← .get
  .lift (rejectIf (self.slot ≠ .empty
    || self.current.any (fun current =>
      replacement.publicationGeneration ≤ current.publicationGeneration)
    || replacement.publicationGeneration = 0) .stale)
  .modify ({ · with current := some replacement })

def beginConnect (request : ConnectorMessage) : Broker ConnectorAction := do
  let self ← .get
  match request with
  | .connectStream publicationGeneration clientTransactionId => do
      let current ← .lift (okOr self.current .notReady)
      .lift (rejectIf (publicationGeneration ≠ current.publicationGeneration
        || clientTransactionId = 0) .stale)
      .lift (rejectIf (self.slot ≠ .empty) .busy)
      let nextAttach ← .lift (okOr (checkedAdd self.nextAttachTransaction 1) .internalFailure)
      let nextStream ← .lift (okOr (checkedAdd self.nextStreamGeneration 1) .internalFailure)
      let attach : AttachCorrelation :=
        { driver := current, clientTransactionId,
          attachTransactionId := self.nextAttachTransaction,
          streamGeneration := self.nextStreamGeneration }
      .modify ({ · with nextAttachTransaction := nextAttach, nextStreamGeneration := nextStream })
      setSlot (.preMove attach { client := .devmgr, driver := .devmgr })
      pure (.allocatePair attach attach.attachMessage)
  | _ => .throw .stale

def driverEndpointMoved (observed : AttachCorrelation) : Broker ConnectorAction := do
  let self ← .get
  match self.slot with
  | .preMove attach pair => do
      .lift (rejectIf (observed ≠ attach) .stale)
      setSlot (.postMovePending attach { pair with driver := .driver })
      pure (.moveDriverEndpoint attach)
  | _ => .throw .stale

def attachSendFailed (observed : AttachCorrelation) : Broker ConnectorAction := do
  let self ← .get
  match self.slot with
  | .preMove attach _ => do
      .lift (rejectIf (observed ≠ attach) .stale)
      setSlot .empty
      pure (.closePreMovePair attach)
  | _ => .throw .stale

def acceptStreamReady (message : ControlMessageV1_1) : Broker Unit := do
  let self ← .get
  match self.slot with
  | .postMovePending attach pair => do
      .lift (rejectIf (message ≠ attach.readyMessage) .stale)
      setSlot (.readyToConnect attach pair)
  | _ => .throw .stale

def abortPostMovePending (observed : AttachCorrelation) : Broker ConnectorAction := do
  let self ← .get
  match self.slot with
  | .postMovePending attach pair => do
      .lift (rejectIf (observed ≠ attach || pair.client ≠ .devmgr || pair.driver ≠ .driver) .stale)
      setSlot (.awaitingDriverRelease attach { pair with client := .released })
      pure (.closeRetainedClientAndRequestDriverRelease attach)
  | _ => .throw .stale

def pendingAttachTimedOut (observed : AttachCorrelation) : Broker ConnectorAction :=
  abortPostMovePending observed

def pendingAttachRejected (message : ControlMessageV1_1) : Broker ConnectorAction := do
  let self ← .get
  match self.slot with
  | .postMovePending attach _ =>
      match message with
      | .failure identity code => do
          .lift (rejectIf (identity ≠ attach.controlIdentity || code ≠ .driverRejected) .stale)
          abortPostMovePending attach
      | _ => .throw .stale
  | _ => .throw .stale

def clientEndpointMoved : Broker ConnectorAction := do
  let self ← .get
  match self.slot with
  | .readyToConnect attach pair => do
      setSlot (.active attach { pair with client := .client })
      pure (.moveClientEndpoint (.connected attach.connectorIdentity))
  | _ => .throw .stale

def connectedSendFailed : Broker ConnectorAction := do
  let self ← .get
  match self.slot with
  | .readyToConnect attach pair => do
      setSlot (.awaitingDriverRelease attach { pair with client := .released })
      pure (.closeRetainedClientAndRequestDriverRelease attach)
  | _ => .throw .stale

def activeClientReleased (observed : AttachCorrelation) : Broker Unit := do
  let self ← .get
  match self.slot with
  | .active attach pair => do
      .lift (rejectIf (observed ≠ attach) .stale)
      setSlot (.awaitingDriverRelease attach { pair with client := .released })
  | _ => .throw .stale

def driverDetached (message : ControlMessageV1_1) : Broker Unit := do
  let self ← .get
  let (attach, pair, retiring) ← match self.slot with
    | .active attach pair => pure (attach, pair, false)
    | .awaitingDriverRelease attach pair => pure (attach, pair, false)
    | .retiringActive attach pair => pure (attach, pair, true)
    | _ => .throw .stale
  .lift (rejectIf (message ≠ attach.detachedMessage || pair.driver ≠ .driver) .stale)
  let pair := { pair with driver := .released }
  if pair.client = .released then setSlot .empty
  else if retiring then setSlot (.retiringActive attach pair)
  else setSlot (.awaitingClientRelease attach pair)

def clientReleaseObserved (observed : AttachCorrelation) : Broker Unit := do
  let self ← .get
  let (attach, pair, retiring) ← match self.slot with
    | .awaitingClientRelease attach pair => pure (attach, pair, false)
    | .retiringActive attach pair => pure (attach, pair, true)
    | _ => .throw .stale
  .lift (rejectIf (observed ≠ attach || pair.client ≠ .client) .stale)
  let pair := { pair with client := .released }
  if pair.driver = .released then setSlot .empty
  else if retiring then setSlot (.retiringActive attach pair)
  else setSlot (.awaitingDriverRelease attach pair)

/-- The driver the slot is attached to. -/
def slotDriver : ConnectorSlot → Option PublishedDriver
  | .empty => none
  | .preMove attach _ | .postMovePending attach _ | .readyToConnect attach _ | .active attach _
  | .awaitingDriverRelease attach _ | .awaitingClientRelease attach _ | .retiringActive attach _ =>
      some attach.driver

def retireCurrent : Broker (Option ConnectorAction) := do
  .modify ({ · with current := none })
  let self ← .get
  match self.slot with
  | .preMove attach _ => do
      setSlot .empty
      pure (some (.closePreMovePair attach))
  | .postMovePending attach pair | .readyToConnect attach pair => do
      setSlot (.awaitingDriverRelease attach { pair with client := .released })
      pure (some (.closeRetainedClientAndRequestDriverRelease attach))
  | .active attach pair | .awaitingClientRelease attach pair | .awaitingDriverRelease attach pair => do
      setSlot (.retiringActive attach pair)
      pure none
  | .retiringActive _ _ | .empty => pure none

def selectorFinalizeClientRelease (observedDriver : PublishedDriver)
    (observedStreamGeneration : Nat) : Broker AttachCorrelation := do
  let self ← .get
  match self.slot with
  | .active attach _ => do
      .lift (rejectIf (self.current ≠ some observedDriver || attach.driver ≠ observedDriver
        || attach.streamGeneration ≠ observedStreamGeneration) .stale)
      let _ ← retireCurrent
      clientReleaseObserved attach
      pure attach
  | _ => .throw .stale

def driverAttemptReaped (observed : PublishedDriver) : Broker (Option ConnectorAction) := do
  let self ← .get
  let exactSlot := slotDriver self.slot = some observed
  let exactCurrent := self.current = some observed
  .lift (rejectIf (¬ exactSlot ∧ ¬ exactCurrent) .stale)
  if exactCurrent then .modify ({ · with current := none })
  match self.slot with
  | .empty => pure none
  | .preMove attach _ => do
      setSlot .empty
      pure (some (.closePreMovePair attach))
  | .postMovePending attach _ | .readyToConnect attach _ => do
      setSlot .empty
      pure (some (.closeRetainedClient attach))
  | .active attach pair | .awaitingClientRelease attach pair | .awaitingDriverRelease attach pair => do
      let pair := { pair with driver := .released }
      setSlot (if pair.client = .released then .empty else .awaitingClientRelease attach pair)
      pure none
  | .retiringActive attach pair => do
      let pair := { pair with driver := .released }
      setSlot (if pair.client = .released then .empty else .retiringActive attach pair)
      pure none

end ConnectorBroker

/-! ## The machine -/

inductive Op where
  | replacePublishedDriver (replacement : PublishedDriver)
  | beginConnect (request : ConnectorMessage)
  | driverEndpointMoved (observed : AttachCorrelation)
  | attachSendFailed (observed : AttachCorrelation)
  | acceptStreamReady (message : ControlMessageV1_1)
  | pendingAttachTimedOut (observed : AttachCorrelation)
  | pendingAttachRejected (message : ControlMessageV1_1)
  | clientEndpointMoved
  | connectedSendFailed
  | activeClientReleased (observed : AttachCorrelation)
  | driverDetached (message : ControlMessageV1_1)
  | clientReleaseObserved (observed : AttachCorrelation)
  | selectorFinalizeClientRelease (observedDriver : PublishedDriver) (observedStreamGeneration : Nat)
  | driverAttemptReaped (observed : PublishedDriver)
  | retireCurrent
deriving DecidableEq

/-- What an operation returns. -/
inductive Reply where
  | unit
  | action (action : ConnectorAction)
  | optional (action : Option ConnectorAction)
  | attach (attach : AttachCorrelation)
deriving DecidableEq

open ConnectorBroker in
def exec : Op → Broker Reply
  | .replacePublishedDriver replacement => do
      replacePublishedDriver replacement
      pure .unit
  | .beginConnect request => .action <$> beginConnect request
  | .driverEndpointMoved observed => .action <$> driverEndpointMoved observed
  | .attachSendFailed observed => .action <$> attachSendFailed observed
  | .acceptStreamReady message => do
      acceptStreamReady message
      pure .unit
  | .pendingAttachTimedOut observed => .action <$> pendingAttachTimedOut observed
  | .pendingAttachRejected message => .action <$> pendingAttachRejected message
  | .clientEndpointMoved => .action <$> clientEndpointMoved
  | .connectedSendFailed => .action <$> connectedSendFailed
  | .activeClientReleased observed => do
      activeClientReleased observed
      pure .unit
  | .driverDetached message => do
      driverDetached message
      pure .unit
  | .clientReleaseObserved observed => do
      clientReleaseObserved observed
      pure .unit
  | .selectorFinalizeClientRelease observedDriver observedStreamGeneration =>
      .attach <$> selectorFinalizeClientRelease observedDriver observedStreamGeneration
  | .driverAttemptReaped observed => .optional <$> driverAttemptReaped observed
  | .retireCurrent => .optional <$> retireCurrent

theorem exec_pendingAttachTimedOut (observed : AttachCorrelation) :
    exec (.pendingAttachTimedOut observed) =
      .action <$> ConnectorBroker.abortPostMovePending observed := by
  rw [exec, ConnectorBroker.pendingAttachTimedOut]

abbrev BrokerCall := Call Op ConnectorBroker Empty ConnectorModelError Reply

end Wyrmroot.Devmgr
