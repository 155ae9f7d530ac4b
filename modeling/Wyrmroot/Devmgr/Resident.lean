import Wyrmroot.Devmgr.DriverLaunch

/-!
# The resident controller

`ResidentController` of `devmgr/src/lib.rs`: what a devmgr process keeps while
it lives. Its registry side is a publication binding that is installed, lost
and replaced; its driver side is a resource bundle and one driver launch at a
time, with its retries. Both sides write the one lifecycle state.

Every supervisor generation owns a stride of the correlation numbers. The
methods that only read (`report`, `publication_acknowledgement`,
`publication_retire_transaction` and the accessors) are left out.
-/

namespace Wyrmroot.Devmgr

open Outcome
open Loader (checkedAdd)
open Device (CoordinatorState CoordinatorError ManifestError RegistryBinding PioRange
  ContentIdentity checkedAddU8 maxAttempts retryBackoffNs)

def driverCorrelationStride : Nat := 2 ^ 32
def driverAttemptOffset : Nat := 1
def driverSessionOffset : Nat := 2 ^ 30 + 1
def driverEndpointOffset : Nat := 2 * 2 ^ 30 + 1
def driverTransactionOffset : Nat := 3 * 2 ^ 30 + 1

def com2ResourceId : Nat := 1

/-- `u64::checked_mul`. -/
def checkedMul (a b : Nat) : Option Nat := if a * b < 2 ^ 64 then some (a * b) else none

/-! ## The controller messages -/

inductive StatusCode where
  | operationalWaitingForRegistry
  | operationalWaitingForDeviceBundle
  | cleaningUp
  | backoff
  | permanentFailure
  | operationalResourceOwned
deriving DecidableEq

inductive ControllerMessage where
  | installPublication (supervisorGeneration : Nat) (binding : RegistryBinding) (transactionId : Nat)
  | rebindPublication (supervisorGeneration : Nat) (binding : RegistryBinding) (transactionId : Nat)
  | status (supervisorGeneration : Nat) (binding : Option RegistryBinding) (transactionId : Nat)
      (status : StatusCode) (attemptGeneration : Option Nat)
deriving DecidableEq

inductive ControllerParseError where
  | wrongSize
  | wrongMagic
  | wrongVersion
  | unknownMessage
  | nonzeroFlags
  | wrongHandleCount
  | zeroIdentity
  | nonzeroReserved
  | staleBinding
  | deviceBoundStatus
  | missingAttempt
deriving DecidableEq

def ControllerMessage.handleCount : ControllerMessage → Nat
  | .installPublication .. => 0
  | .rebindPublication .. => 1
  | .status .. => 0

/-- What makes a binding stale beside the last one. -/
def staleBinding (old binding : RegistryBinding) : Bool :=
  binding.generation < old.generation || binding.endpoint.id < old.endpoint.id
    || (binding.endpoint.id = old.endpoint.id
      && binding.endpoint.generation ≤ old.endpoint.generation)

/-- A monotonic install or rebind against the current supervisor generation. -/
def validateBindingTransition (supervisorGeneration : Nat) (current : Option RegistryBinding)
    (incoming : ControllerMessage) : Outcome ControllerParseError RegistryBinding := do
  let (generation, binding) ← match incoming with
    | .installPublication incomingSupervisor binding _
    | .rebindPublication incomingSupervisor binding _ => pure (incomingSupervisor, binding)
    | .status .. => .err .staleBinding
  rejectIf (generation ≠ supervisorGeneration) .staleBinding
  match incoming with
  | .installPublication .. => rejectIf current.isSome .staleBinding
  | .rebindPublication .. => rejectIf current.isNone .staleBinding
  | .status .. => .err .staleBinding
  rejectIf (current.any fun old => staleBinding old binding) .staleBinding
  pure binding

/-- The 1.1 message: the service generation is the supervisor's. -/
structure PublicationMessage where
  controller : ControllerMessage
  serviceGeneration : Nat
deriving DecidableEq

/-! ## The device resource -/

structure DwDeviceResourceInfoV1 where
  size : Nat
  version : Nat
  kind : Nat
  flags : Nat
  resourceId : Nat
  leaseGeneration : Nat
  pioBase : Nat
  pioLength : Nat
  interruptSource : Nat
  reserved : Nat
deriving DecidableEq

/-- The constants of the system-call crate that a resource record is held to. -/
structure DeviceResourceAbi where
  infoV1Size : Nat
  infoV1Version : Nat
  kindX86PioWithPlatformInterrupt : Nat

/-! ## The controller -/

inductive ControllerCounter where
  | driverAttempt
  | driverSession
  | driverEndpoint
  | driverTransaction
  | interruptTransaction
  | readyTransaction
  | nextTransaction
  | stageGeneration
  | requestTransaction
  | driverFailures
  | retryDeadline
deriving DecidableEq

inductive ControllerDatum where
  | activeDriver
  | activeDriverRequest
  | bundleGeneration
  | retryDeadline
deriving DecidableEq

inductive ControllerLifecycleFault where
  | exhausted (counter : ControllerCounter)
  | absent (datum : ControllerDatum)
deriving DecidableEq

inductive DevmgrError where
  | manifest (error : ManifestError)
  | coordinator (error : CoordinatorError)
  | missingRole
  | controller (error : ControllerParseError)
  | startupCorrelation
  | staleControllerTransaction
  | controllerLifecycle (fault : ControllerLifecycleFault)
  | controllerPrecondition
  | driverLaunch (error : DriverLaunchError)
  | resourceIdentity
deriving DecidableEq

structure OperationalStatus where
  supervisorGeneration : Nat
  state : CoordinatorState
  profile : Nat
  profileVersion : Nat
  roleId : Nat
  pio : PioRange
  irq : Nat
  driverIdentity : ContentIdentity
  metadataPolicy : Nat
deriving DecidableEq

structure D3StageCorrelations where
  stageGeneration : Nat
  deviceTransactionId : Nat
  interruptTransactionId : Nat
  readyTransactionId : Nat
deriving DecidableEq

inductive ControllerAction where
  | initialPublicationBound
  | publicationRebound
deriving DecidableEq

structure ResidentController where
  status : OperationalStatus
  startupTransactionId : Nat
  lastTransactionId : Nat
  lastBinding : Option RegistryBinding
  publicationServiceGeneration : Nat
  activeBinding : Option RegistryBinding
  retiredBinding : Option RegistryBinding
  retiredDriverAttempt : Option Nat
  activeDriver : Option DriverLaunch
  bundleGeneration : Option Nat
  driverReady : Bool
  publicationCurrent : Bool
  nextDriverAttempt : Nat
  nextDriverSession : Nat
  nextDriverEndpoint : Nat
  nextDriverTransaction : Nat
  nextDriverStageGeneration : Nat
  driverFailures : Nat
  retryUntilNs : Option Nat
  driverLeaseGeneration : Option Nat
  driverIrqBinding : Option Nat
deriving DecidableEq

abbrev Resident (α : Type) := Prog ResidentController Empty DevmgrError α

def exhausted (counter : ControllerCounter) : DevmgrError :=
  .controllerLifecycle (.exhausted counter)

def absent (datum : ControllerDatum) : DevmgrError := .controllerLifecycle (.absent datum)

namespace ResidentController

def new (status : OperationalStatus) (startupTransactionId : Nat) :
    Outcome DevmgrError ResidentController := do
  rejectIf (startupTransactionId = 0) .startupCorrelation
  rejectIf (status.state ≠ .waitingForRegistry) .controllerPrecondition
  let driverNamespace ← okOr (checkedMul status.supervisorGeneration driverCorrelationStride)
    .startupCorrelation
  let driverAttempt ← okOr (checkedAdd driverNamespace driverAttemptOffset) .startupCorrelation
  let driverSession ← okOr (checkedAdd driverNamespace driverSessionOffset) .startupCorrelation
  let driverEndpoint ← okOr (checkedAdd driverNamespace driverEndpointOffset) .startupCorrelation
  let driverTransaction ← okOr (checkedAdd driverNamespace driverTransactionOffset)
    .startupCorrelation
  pure { status, startupTransactionId, lastTransactionId := 0, lastBinding := none,
         publicationServiceGeneration := 0, activeBinding := none, retiredBinding := none,
         retiredDriverAttempt := none, activeDriver := none, bundleGeneration := none,
         driverReady := false, publicationCurrent := false, nextDriverAttempt := driverAttempt,
         nextDriverSession := driverSession, nextDriverEndpoint := driverEndpoint,
         nextDriverTransaction := driverTransaction, nextDriverStageGeneration := driverAttempt,
         driverFailures := 0, retryUntilNs := none, driverLeaseGeneration := none,
         driverIrqBinding := none }

def activeDriverRequest (self : ResidentController) : Option DriverLaunchRequest :=
  self.activeDriver.map DriverLaunch.request

def setState (state : CoordinatorState) : Resident Unit :=
  .modify fun self => { self with status := { self.status with state } }

def setDriverBindings (leaseGeneration irqBinding : Nat) : Resident Unit := do
  let self ← .get
  .lift (rejectIf (leaseGeneration = 0 || irqBinding = 0
    || self.bundleGeneration ≠ some leaseGeneration) .resourceIdentity)
  .modify ({ · with driverLeaseGeneration := some leaseGeneration,
                    driverIrqBinding := some irqBinding })

/-- Admits one exact queried COM2 resource; its lease is the bundle generation. -/
def admitDeviceResource (abi : DeviceResourceAbi) (resource : DwDeviceResourceInfoV1) :
    Resident Nat := do
  let self ← .get
  .lift (rejectIf (self.status.state ≠ .waitingForDeviceBundle || self.activeBinding.isNone
    || self.bundleGeneration.isSome || resource.size ≠ abi.infoV1Size
    || resource.version ≠ abi.infoV1Version
    || resource.kind ≠ abi.kindX86PioWithPlatformInterrupt || resource.flags ≠ 0
    || resource.resourceId ≠ com2ResourceId || resource.leaseGeneration = 0
    || resource.pioBase ≠ self.status.pio.base || resource.pioLength ≠ self.status.pio.length
    || resource.interruptSource ≠ self.status.irq || resource.reserved ≠ 0) .resourceIdentity)
  .modify ({ · with bundleGeneration := some resource.leaseGeneration })
  setState .matched
  pure resource.leaseGeneration

/-- The launch that is issued next. -/
def nextRequest (self : ResidentController) (childIsChannel : Bool)
    (childRights : DirectControlRights) : DriverLaunchRequest :=
  { supervisorGeneration := self.status.supervisorGeneration, roleId := self.status.roleId,
    attemptGeneration := self.nextDriverAttempt, launchSession := self.nextDriverSession,
    endpoint := { id := self.nextDriverEndpoint, generation := 1 },
    transactionId := self.nextDriverTransaction, driverPath := deviceDriverPath,
    actorIdentity := self.status.driverIdentity, childIsChannel, childRights }

/-- The launch is installed before the four counters are bumped, one after the other. -/
def issueDriverLaunch (childIsChannel : Bool) (childRights : DirectControlRights) :
    Resident DriverLaunchRequest := do
  let self ← .get
  .lift (rejectIf (self.activeBinding.isNone || self.activeDriver.isSome) .controllerPrecondition)
  let request := self.nextRequest childIsChannel childRights
  let launch ← .lift ((DriverLaunch.new request).mapErr .driverLaunch)
  .modify ({ · with activeDriver := some launch })
  let nextDriverAttempt ← .lift (okOr (checkedAdd self.nextDriverAttempt 1)
    (exhausted .driverAttempt))
  .modify ({ · with nextDriverAttempt })
  let nextDriverSession ← .lift (okOr (checkedAdd self.nextDriverSession 1)
    (exhausted .driverSession))
  .modify ({ · with nextDriverSession })
  let nextDriverEndpoint ← .lift (okOr (checkedAdd self.nextDriverEndpoint 1)
    (exhausted .driverEndpoint))
  .modify ({ · with nextDriverEndpoint })
  let nextDriverTransaction ← .lift (okOr (checkedAdd self.nextDriverTransaction 1)
    (exhausted .driverTransaction))
  .modify ({ · with nextDriverTransaction })
  pure request

def issueDriverLaunchWithBundle (childIsChannel : Bool) (childRights : DirectControlRights) :
    Resident DriverLaunchRequest := do
  let self ← .get
  .lift (rejectIf (self.bundleGeneration.isNone || self.status.state ≠ .matched)
    .controllerPrecondition)
  issueDriverLaunch childIsChannel childRights

/-- Reserves the stage identities of the active driver, all of them or none. -/
def reserveD3StageCorrelations (request : DriverLaunchRequest) : Resident D3StageCorrelations := do
  let self ← .get
  .lift (rejectIf (self.activeDriverRequest ≠ some request) .controllerPrecondition)
  let stageGeneration := self.nextDriverStageGeneration
  let deviceTransactionId := self.nextDriverTransaction
  let interruptTransactionId ← .lift (okOr (checkedAdd deviceTransactionId 1)
    (exhausted .interruptTransaction))
  let readyTransactionId ← .lift (okOr (checkedAdd interruptTransactionId 1)
    (exhausted .readyTransaction))
  let nextTransaction ← .lift (okOr (checkedAdd readyTransactionId 1) (exhausted .nextTransaction))
  let nextStageGeneration ← .lift (okOr (checkedAdd stageGeneration 1) (exhausted .stageGeneration))
  .modify ({ · with nextDriverTransaction := nextTransaction,
                    nextDriverStageGeneration := nextStageGeneration })
  pure { stageGeneration, deviceTransactionId, interruptTransactionId, readyTransactionId }

/-- Reserves the first attach transaction and stream generation of a connector. -/
def reserveD3ConnectorCorrelations (request : DriverLaunchRequest) : Resident (Nat × Nat) := do
  let self ← .get
  .lift (rejectIf (self.activeDriverRequest ≠ some request || !self.publicationCurrent)
    .controllerPrecondition)
  let attachTransaction := self.nextDriverTransaction
  let streamGeneration := self.nextDriverStageGeneration
  let nextDriverTransaction ← .lift (okOr (checkedAdd attachTransaction 1)
    (exhausted .driverTransaction))
  .modify ({ · with nextDriverTransaction })
  let nextDriverStageGeneration ← .lift (okOr (checkedAdd streamGeneration 1)
    (exhausted .stageGeneration))
  .modify ({ · with nextDriverStageGeneration })
  pure (attachTransaction, streamGeneration)

/-- `self.active_driver.as_mut().ok_or(..)?` and one method of the launch. -/
def withActiveDriver (method : DriverLaunch → Outcome DriverLaunchError DriverLaunch) :
    Resident Unit := do
  let self ← .get
  let launch ← .lift (okOr self.activeDriver (absent .activeDriver))
  let next ← .lift ((method launch).mapErr .driverLaunch)
  .modify ({ · with activeDriver := some next })

def driverConstructed : Resident Unit := withActiveDriver DriverLaunch.constructed

def resourceBundleMessage : Resident ControlMessage := do
  let self ← .get
  .lift (rejectIf (self.status.state ≠ .matched || self.driverReady) .controllerPrecondition)
  let launch ← .lift (okOr self.activeDriver (absent .activeDriver))
  .lift (rejectIf (launch.state ≠ .awaitingControlReady) .controllerPrecondition)
  let request := launch.request
  let bundleGeneration ← .lift (okOr self.bundleGeneration (absent .bundleGeneration))
  pure (.resourceBundle request.roleId bundleGeneration request.attemptGeneration request.endpoint
    request.transactionId)

def bundleTransferred : Resident Unit := do
  let self ← .get
  .lift (rejectIf (self.status.state ≠ .matched || self.driverReady) .controllerPrecondition)
  withActiveDriver DriverLaunch.bundleTransferred
  setState .awaitingDriverReady

/-- Accepts the READY of the active attempt under an authority-reserved transaction. -/
def acceptDriverReadyForTransaction (message : ControlMessage) (readyTransactionId : Nat) :
    Resident Unit := do
  let self ← .get
  .lift (rejectIf (self.status.state ≠ .awaitingDriverReady || self.driverReady)
    .controllerPrecondition)
  .lift (rejectIf (readyTransactionId = 0) .controllerPrecondition)
  let request ← .lift (okOr self.activeDriverRequest (absent .activeDriverRequest))
  let bundleGeneration ← .lift (okOr self.bundleGeneration (absent .bundleGeneration))
  .lift (rejectIf (message ≠ .ready request.roleId bundleGeneration request.attemptGeneration
    request.endpoint readyTransactionId) .controllerPrecondition)
  withActiveDriver DriverLaunch.driverReady
  .modify ({ · with driverReady := true, publicationCurrent := false })
  setState .awaitingPublication

def acceptDriverReady (message : ControlMessage) : Resident Unit := do
  let self ← .get
  let request ← .lift (okOr self.activeDriverRequest (absent .activeDriverRequest))
  acceptDriverReadyForTransaction message request.transactionId

def publicationCommitted : Resident Unit := do
  let self ← .get
  .lift (rejectIf (self.status.state ≠ .awaitingPublication || !self.driverReady
    || self.activeBinding.isNone || self.publicationCurrent) .controllerPrecondition)
  .modify ({ · with publicationCurrent := true })
  setState .published

def driverFailed (endpoint : ControlEndpoint) : Resident Unit := do
  let self ← .get
  .lift (rejectIf (self.status.state ≠ .awaitingDriverReady
    && self.status.state ≠ .awaitingPublication && self.status.state ≠ .published)
    .controllerPrecondition)
  let request ← .lift (okOr self.activeDriverRequest (absent .activeDriverRequest))
  .lift (rejectIf (request.endpoint ≠ endpoint) .controllerPrecondition)
  .modify ({ · with driverReady := false, publicationCurrent := false })
  setState .cleaningUp

def acceptIntentionalDriverTerminal (request : DriverLaunchRequest) : Resident Unit := do
  let self ← .get
  .lift (rejectIf (self.status.state ≠ .cleaningUp || !self.driverReady || self.publicationCurrent
    || self.activeDriverRequest ≠ some request) .controllerPrecondition)
  .modify ({ · with driverReady := false })

def publicationRetired : Resident Unit := do
  let self ← .get
  .lift (rejectIf (self.status.state ≠ .cleaningUp || self.activeBinding.isNone)
    .controllerPrecondition)
  .modify ({ · with
    retiredBinding := self.activeBinding,
    retiredDriverAttempt := self.activeDriverRequest.map DriverLaunchRequest.attemptGeneration,
    activeBinding := none })

def retireMessage : Resident ControlMessage := do
  let self ← .get
  .lift (rejectIf (!self.driverReady) .controllerPrecondition)
  let request ← .lift (okOr self.activeDriverRequest (absent .activeDriverRequest))
  let bundleGeneration ← .lift (okOr self.bundleGeneration (absent .bundleGeneration))
  .modify ({ · with publicationCurrent := false })
  setState .cleaningUp
  pure (.retire request.roleId bundleGeneration request.attemptGeneration request.endpoint
    request.transactionId)

def acceptDriverControlReady (message : ControlMessage) : Resident Unit :=
  withActiveDriver fun launch => launch.acceptControlReady message

/-- The launch is taken before it is reaped. -/
def reapDriver : Resident Unit := do
  let self ← .get
  .modify ({ · with activeDriver := none })
  let launch ← .lift (okOr self.activeDriver (absent .activeDriver))
  let _ ← .lift (launch.reap.mapErr .driverLaunch)
  .modify ({ · with driverReady := false, publicationCurrent := false })

/-- The failure is counted before the deadline is computed. -/
def completeDriverFailureCleanup (nowNs : Nat) : Resident Unit := do
  let self ← .get
  .lift (rejectIf (self.status.state ≠ .cleaningUp) .controllerPrecondition)
  let driverFailures ← .lift (okOr (checkedAddU8 self.driverFailures 1) (exhausted .driverFailures))
  .modify ({ · with driverFailures })
  if maxAttempts ≤ driverFailures then do
    .modify ({ · with retryUntilNs := none })
    setState .permanentFailure
  else do
    let untilNs ← .lift (okOr (checkedAdd nowNs retryBackoffNs) (exhausted .retryDeadline))
    .modify ({ · with retryUntilNs := some untilNs })
    setState (.backoff self.nextDriverAttempt untilNs)

/-- `matches!(state, CoordinatorState::Backoff { .. })`. -/
def isBackoff : CoordinatorState → Bool
  | .backoff _ _ => true
  | _ => false

def driverRetryReady (nowNs : Nat) : Resident Unit := do
  let self ← .get
  let untilNs ← .lift (okOr self.retryUntilNs (absent .retryDeadline))
  .lift (rejectIf (nowNs < untilNs || !isBackoff self.status.state) .controllerPrecondition)
  .modify ({ · with retryUntilNs := none })
  setState .matched

/-- The state a rebind leaves, from the flags that are left of the one before. -/
def reboundState (self : ResidentController) : CoordinatorState :=
  if self.status.state = .cleaningUp then .cleaningUp
  else if self.driverReady then .awaitingPublication
  else if self.bundleGeneration.isSome then .matched
  else .waitingForDeviceBundle

def bind (binding : RegistryBinding) (transactionId : Nat) (state : CoordinatorState) :
    Resident Unit := do
  .modify ({ · with lastTransactionId := transactionId, lastBinding := some binding,
                    activeBinding := some binding })
  setState state

def acceptController (message : ControllerMessage) (receivedHandles : Nat) :
    Resident ControllerAction := do
  .lift (rejectIf (receivedHandles ≠ message.handleCount) (.controller .wrongHandleCount))
  let self ← .get
  match message with
  | .installPublication supervisorGeneration _ transactionId => do
      .lift (rejectIf (transactionId ≠ self.startupTransactionId || self.lastBinding.isSome
        || self.status.supervisorGeneration ≠ supervisorGeneration) .startupCorrelation)
      let binding ← .lift ((validateBindingTransition self.status.supervisorGeneration none
        message).mapErr .controller)
      bind binding transactionId .waitingForDeviceBundle
      pure .initialPublicationBound
  | .rebindPublication supervisorGeneration _ transactionId => do
      .lift (rejectIf (self.status.supervisorGeneration ≠ supervisorGeneration
        || self.lastBinding.isNone || self.activeBinding.isSome
        || transactionId ≤ self.lastTransactionId) .staleControllerTransaction)
      let binding ← .lift ((validateBindingTransition self.status.supervisorGeneration
        self.lastBinding message).mapErr .controller)
      bind binding transactionId self.reboundState
      pure .publicationRebound
  | .status .. => .throw .controllerPrecondition

def accept (message : ControllerMessage) (receivedHandles : Nat) : Resident ControllerAction := do
  let self ← .get
  .lift (rejectIf (self.publicationServiceGeneration ≠ 0) .staleControllerTransaction)
  acceptController message receivedHandles

def acceptPublication (message : PublicationMessage) (receivedHandles : Nat) :
    Resident ControllerAction := do
  let self ← .get
  .lift (rejectIf (message.serviceGeneration ≤ self.publicationServiceGeneration)
    .staleControllerTransaction)
  let action ← acceptController message.controller receivedHandles
  .modify ({ · with publicationServiceGeneration := message.serviceGeneration })
  pure action

/-- The registry-side peer is gone; the last binding stays to hold its replacement to. -/
def publicationPeerClosed : Resident Unit := do
  let self ← .get
  .lift (rejectIf self.activeBinding.isNone .controllerPrecondition)
  .modify ({ · with activeBinding := none, publicationCurrent := false })
  setState .waitingForRegistry

end ResidentController

/-! ## The machine -/

inductive ResidentOp where
  | setDriverBindings (leaseGeneration irqBinding : Nat)
  | admitDeviceResource (resource : DwDeviceResourceInfoV1)
  | issueDriverLaunch (childIsChannel : Bool) (childRights : DirectControlRights)
  | issueDriverLaunchWithBundle (childIsChannel : Bool) (childRights : DirectControlRights)
  | reserveD3StageCorrelations (request : DriverLaunchRequest)
  | reserveD3ConnectorCorrelations (request : DriverLaunchRequest)
  | driverConstructed
  | resourceBundleMessage
  | bundleTransferred
  | acceptDriverReady (message : ControlMessage)
  | acceptDriverReadyForTransaction (message : ControlMessage) (readyTransactionId : Nat)
  | publicationCommitted
  | driverFailed (endpoint : ControlEndpoint)
  | acceptIntentionalDriverTerminal (request : DriverLaunchRequest)
  | publicationRetired
  | retireMessage
  | acceptDriverControlReady (message : ControlMessage)
  | reapDriver
  | completeDriverFailureCleanup (nowNs : Nat)
  | driverRetryReady (nowNs : Nat)
  | accept (message : ControllerMessage) (receivedHandles : Nat)
  | acceptPublication (message : PublicationMessage) (receivedHandles : Nat)
  | publicationPeerClosed
deriving DecidableEq

/-- What an operation returns. -/
inductive ResidentReply where
  | unit
  | lease (generation : Nat)
  | request (request : DriverLaunchRequest)
  | stages (correlations : D3StageCorrelations)
  | connector (attachTransaction streamGeneration : Nat)
  | message (message : ControlMessage)
  | action (action : ControllerAction)
deriving DecidableEq

open ResidentController in
def serve (abi : DeviceResourceAbi) : ResidentOp → Resident ResidentReply
  | .setDriverBindings leaseGeneration irqBinding => do
      setDriverBindings leaseGeneration irqBinding
      pure .unit
  | .admitDeviceResource resource => .lease <$> admitDeviceResource abi resource
  | .issueDriverLaunch childIsChannel childRights =>
      .request <$> issueDriverLaunch childIsChannel childRights
  | .issueDriverLaunchWithBundle childIsChannel childRights =>
      .request <$> issueDriverLaunchWithBundle childIsChannel childRights
  | .reserveD3StageCorrelations request => .stages <$> reserveD3StageCorrelations request
  | .reserveD3ConnectorCorrelations request =>
      (fun pair => .connector pair.1 pair.2) <$> reserveD3ConnectorCorrelations request
  | .driverConstructed => do
      driverConstructed
      pure .unit
  | .resourceBundleMessage => .message <$> resourceBundleMessage
  | .bundleTransferred => do
      bundleTransferred
      pure .unit
  | .acceptDriverReady message => do
      acceptDriverReady message
      pure .unit
  | .acceptDriverReadyForTransaction message readyTransactionId => do
      acceptDriverReadyForTransaction message readyTransactionId
      pure .unit
  | .publicationCommitted => do
      publicationCommitted
      pure .unit
  | .driverFailed endpoint => do
      driverFailed endpoint
      pure .unit
  | .acceptIntentionalDriverTerminal request => do
      acceptIntentionalDriverTerminal request
      pure .unit
  | .publicationRetired => do
      publicationRetired
      pure .unit
  | .retireMessage => .message <$> retireMessage
  | .acceptDriverControlReady message => do
      acceptDriverControlReady message
      pure .unit
  | .reapDriver => do
      reapDriver
      pure .unit
  | .completeDriverFailureCleanup nowNs => do
      completeDriverFailureCleanup nowNs
      pure .unit
  | .driverRetryReady nowNs => do
      driverRetryReady nowNs
      pure .unit
  | .accept message receivedHandles => .action <$> accept message receivedHandles
  | .acceptPublication message receivedHandles =>
      .action <$> acceptPublication message receivedHandles
  | .publicationPeerClosed => do
      publicationPeerClosed
      pure .unit

abbrev ResidentCall := Call ResidentOp ResidentController Empty DevmgrError ResidentReply

end Wyrmroot.Devmgr
