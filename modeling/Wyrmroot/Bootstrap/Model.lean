import Wyrmroot.Bootstrap.Envelope

/-!
# The primordial bootstrap

`bootstrap/src/lib.rs`: the primordial process receives one INIT with the
capabilities of the system, loads `system/init` out of the bootfs, waits for
its READY, gives the capabilities back and answers READY itself.

The two permanent entry points differ in the version of the INIT, in the
authority it delegates and in the loader they call; `Handoff` holds what one
of them has of its own, and `runHandoff` is the rest. The bootfs is mapped
for the length of a callback: `withBootfsBytes` is written with the two calls
that surround it, either of which may fail. The variable that the callback
leaves the loaded process in is part of the state.
-/

namespace Wyrmroot.Bootstrap

open Outcome
open Bootfs (Archive ParseError)
open Loader (Load LoadAuthority LoadedProcess LoaderPlatform LoadError LaunchProfile ObjectType
  Rights ReceivedHandleInfo)
open Supervision (Deadline ObservedSupervisionError ReceiveCounts SupervisionError
  SupervisionPlatform TerminationAbi)

/-! ## Capabilities -/

structure CapabilityInfo where
  objectType : ObjectType
  rights : Rights
deriving DecidableEq

/-- `CapabilityExpectation` has the fields of the metadata it is compared with. -/
abbrev CapabilityExpectation := CapabilityInfo

def bootstrapChannelExpectation : CapabilityExpectation :=
  ⟨.channel, {.read, .write, .wait, .inspect}⟩

def selfRootExpectation : CapabilityExpectation := ⟨.addressRegion, {.map, .modify, .inspect}⟩

def bootfsExpectation : CapabilityExpectation :=
  ⟨.memoryObject, {.read, .map, .inspect, .duplicate, .transfer}⟩

def loaderTaskGroupExpectation : CapabilityExpectation :=
  ⟨.taskGroup, {.modify, .inspect, .duplicate, .transfer}⟩

def resourceDomainTaskGroupExpectation : CapabilityExpectation :=
  ⟨.taskGroup, {.modify, .duplicate, .transfer, .inspect, .resource}⟩

structure InitCapability where
  received : CapabilityInfo
  fresh : CapabilityInfo

inductive CapabilityValidationError where
  | invalidBootstrapChannel
  | wrongInitCapabilityCount
  | invalidReceivedCapability
  | invalidFreshCapability
deriving DecidableEq

abbrev Validate := Outcome CapabilityValidationError

def validateBootstrapChannel (actual : CapabilityInfo) (expected : CapabilityExpectation) :
    Validate Unit :=
  if actual = expected then .ok () else .err .invalidBootstrapChannel

/-- The loop of the `validate_init_capabilities` functions. -/
def validateEach : List (InitCapability × CapabilityExpectation) → Validate Unit
  | [] => .ok ()
  | (capability, expected) :: rest => do
      rejectIf (capability.received ≠ expected) .invalidReceivedCapability
      rejectIf (capability.fresh ≠ expected) .invalidFreshCapability
      validateEach rest

def validateInitCapabilities (capabilities : List InitCapability)
    (expectations : List CapabilityExpectation) : Validate Unit := do
  rejectIf (capabilities.length ≠ expectations.length) .wrongInitCapabilityCount
  validateEach (capabilities.zip expectations)

def validateInitCapabilitiesV2 (capabilities : List InitCapability)
    (root bootfs taskGroup : CapabilityExpectation) : Validate Unit :=
  validateInitCapabilities capabilities [root, bootfs, taskGroup]

def validateInitCapabilitiesV3 (capabilities : List InitCapability)
    (root bootfs taskGroup resourceDomain : CapabilityExpectation) : Validate Unit :=
  validateInitCapabilities capabilities [root, bootfs, taskGroup, resourceDomain]

def receivedCapability (info : ReceivedHandleInfo) : CapabilityInfo := ⟨info.objectType, info.rights⟩

/-! ## The mapping plan -/

def pageSize : Nat := 4096
def maxBootfsLogicalSize : Nat := 32 * 1024 * 1024

structure MappingPlan where
  logicalSize : Nat
  mappedSize : Nat
deriving DecidableEq

inductive MappingPlanError where
  | emptyArchive
  | archiveTooLarge
  | roundingOverflow
deriving DecidableEq

def MappingPlan.forLimit (logicalSize maximumSize : Nat) : Outcome MappingPlanError MappingPlan := do
  rejectIf (logicalSize = 0) .emptyArchive
  rejectIf (maximumSize < logicalSize) .archiveTooLarge
  let raised ← okOr (Loader.checkedAdd logicalSize (pageSize - 1)) .roundingOverflow
  pure ⟨logicalSize, raised / pageSize * pageSize⟩

def MappingPlan.forBootfs (logicalSize : Nat) : Outcome MappingPlanError MappingPlan :=
  MappingPlan.forLimit logicalSize maxBootfsLogicalSize

/-! ## The platform -/

/-- What a receive leaves in the caller's two buffers. -/
structure Received (bytesLen handlesLen : Nat) where
  counts : ReceiveCounts
  bytes : Vector UInt8 bytesLen
  handles : Vector ReceivedHandleInfo handlesLen

/-- `&handles[..counts.handles]`; the counts may exceed the buffer. -/
def Received.initialized {b h : Nat} (r : Received b h) : List ReceivedHandleInfo :=
  r.handles.toList.take r.counts.handles

/-- The calls of the `BootstrapSystem` trait. `with_bootfs_bytes` maps the
bootfs, hands its bytes to a callback, and unmaps it. -/
inductive Call where
  | queryCapabilityInfo (handle : Nat)
  | receiveChannel (channel bytesLen handlesLen : Nat)
  | queryMemoryObjectSize (handle : Nat)
  | mapBootfs (rootRegion bootfs : Nat) (plan : MappingPlan)
  | unmapBootfs (rootRegion bootfs : Nat) (plan : MappingPlan)
  | sendChannel (channel : Nat) (bytes : List UInt8)
  | closeHandle (handle : Nat)

/-- What a successful call returns. -/
def Call.Result : Call → Type
  | .queryCapabilityInfo _ => CapabilityInfo
  | .receiveChannel _ bytesLen handlesLen => Received bytesLen handlesLen
  | .queryMemoryObjectSize _ => Nat
  | .mapBootfs _ _ _ => List UInt8
  | _ => Unit

/-- The three platforms of the bootstrap, over one state `τ` and with one
error `ε`. -/
structure Platform (τ ε : Type) where
  system : (c : Call) → τ → Except ε c.Result × τ
  loader : LoaderPlatform τ ε
  supervisor : SupervisionPlatform τ ε

/-- The loader's events are those of a load, or of the cleanup that reclaims
what it returned; `loadReturned` marks where it hands its process over. -/
inductive Event where
  | done (c : Call) (result : c.Result)
  | failed (c : Call)
  | loader (event : Loader.Event)
  | reclaim (event : Loader.Event)
  | supervisor (event : Supervision.Event)
  | loadReturned (loaded : LoadedProcess)

/-- The platform's state, and the variable `loaded`. -/
structure BootState (τ : Type) where
  io : τ
  loaded : Option LoadedProcess

inductive ChildCleanupStage where
  | processTerminate
  | launchChannelClose
  | processHandleClose
deriving DecidableEq

structure ChildCleanupError (ε : Type) where
  stage : ChildCleanupStage
  cause : ε

inductive BootstrapError (ε : Type) where
  | native (e : ε)
  | bootstrapChannel (e : CapabilityValidationError)
  | protocol (e : DecodeError)
  | receiveCounts (counts : ReceiveCounts)
  | unexpectedMessage
  | unexpectedTransactionId
  | capability (e : CapabilityValidationError)
  | mapping (e : MappingPlanError)
  | bootfs (e : ParseError)
  | missingRequiredEntry
  | requiredEntryNotExecutable
  | loader (e : LoadError ε)
  | supervision (e : SupervisionError ε)
  | observedSupervision (e : ObservedSupervisionError ε)
  | cleanup (e : ChildCleanupError ε)
  | missingLoadedProcess

/-- A program that calls the platforms. -/
abbrev Io (τ ε α : Type) := Prog (BootState τ) Event ε α

/-- A program of the bootstrap. -/
abbrev Boot (τ ε α : Type) := Io τ (BootstrapError ε) α

variable {τ ε α : Type} (p : Platform τ ε)

def request (c : Call) : Io τ ε c.Result := fun s =>
  match p.system c s.io with
  | (.ok result, io) => (.ok result, { s with io }, [.done c result])
  | (.error e, io) => (.err e, { s with io }, [.failed c])

/-- `call.map_err(BootstrapError::Native)?`. -/
def native (c : Call) : Boot τ ε c.Result :=
  Prog.within id (fun s _ => s) .native (request p c)

/-- A program of the loader, on the state they share. -/
def hostLoader {ε' : Type} (event : Loader.Event → Event) (body : Loader.Io τ ε' α) : Io τ ε' α :=
  Prog.hosted (fun s => ⟨s.io, false⟩) (fun t s => { s with io := t.io }) event body

def hostSupervisor {ε' : Type} (body : Supervision.Io τ ε' α) : Io τ ε' α :=
  Prog.hosted (fun s => s.io) (fun t s => { s with io := t }) Event.supervisor body

/-! ## Closing -/

/-- The loop over the received handles: each is closed, the first error is
kept. -/
def closeEach (first : Option (BootstrapError ε)) :
    List ReceivedHandleInfo → Boot τ ε (Option (BootstrapError ε))
  | [] => pure first
  | info :: rest => do
      let result ← Prog.attempt (native p (.closeHandle info.handle))
      match result with
      | .ok _ => closeEach first rest
      | .error e => closeEach (first.or (some e)) rest

/-- `first_error.map_or(Ok(()), Err)`. -/
def orFirst (first : Option ε) : Prog (BootState τ) Event ε Unit :=
  match first with
  | some e => Prog.throw e
  | none => pure ()

def closeReceivedHandles (handles : List ReceivedHandleInfo) : Boot τ ε Unit := do
  let first ← closeEach p none handles
  orFirst first

/-- One step of a cleanup: whatever comes of it, the first error is kept. -/
def cleanupStep (first : Option (ChildCleanupError ε)) (stage : ChildCleanupStage)
    (body : Io τ ε Unit) : Io τ (ChildCleanupError ε) (Option (ChildCleanupError ε)) := do
  let result ← Prog.attempt body
  match result with
  | .ok _ => pure first
  | .error cause => pure (first.or (some ⟨stage, cause⟩))

/-- `if terminate && let Err(error) = loader.process_terminate(..)`. -/
def terminateStep (process : Nat) (terminate : Bool) :
    Io τ (ChildCleanupError ε) (Option (ChildCleanupError ε)) :=
  if terminate then
    cleanupStep none .processTerminate
      (hostLoader .reclaim (Loader.request p.loader (.processTerminate process)))
  else pure none

def cleanupLoadedProcess (loaded : LoadedProcess) (terminate : Bool) :
    Io τ (ChildCleanupError ε) Unit := do
  let first ← terminateStep p loaded.process terminate
  let first ← cleanupStep first .launchChannelClose (request p (.closeHandle loaded.launchChannel))
  let first ← cleanupStep first .processHandleClose (request p (.closeHandle loaded.process))
  orFirst first

/-! ## Authority -/

/-- A fresh query for each received handle, in order. -/
def queryEach : List ReceivedHandleInfo → Boot τ ε (List InitCapability)
  | [] => pure []
  | info :: rest => do
      let fresh : CapabilityInfo ← native p (.queryCapabilityInfo info.handle)
      let others ← queryEach rest
      pure (⟨receivedCapability info, fresh⟩ :: others)

def validatedLoadAuthority (handles : List ReceivedHandleInfo) : Boot τ ε LoadAuthority :=
  match handles with
  | [root, bootfs, taskGroup] => do
      let capabilities ← queryEach p [root, bootfs, taskGroup]
      Prog.lift ((validateInitCapabilitiesV2 capabilities selfRootExpectation bootfsExpectation
        loaderTaskGroupExpectation).mapErr .capability)
      pure { parentRoot := root.handle, bootfs := bootfs.handle, taskGroup := taskGroup.handle }
  | _ => Prog.throw (.capability .wrongInitCapabilityCount)

/-- The whole array of four, all of it received. The first handle is queried
once more, to fill the array of capabilities that the loop then overwrites. -/
def validatedResourceDomainAuthority (handles : Vector ReceivedHandleInfo maxBootstrapHandles) :
    Boot τ ε (LoadAuthority × Nat) :=
  match handles.toList with
  | [root, bootfs, taskGroup, resourceDomain] => do
      let _ ← native p (.queryCapabilityInfo root.handle)
      let capabilities ← queryEach p [root, bootfs, taskGroup, resourceDomain]
      Prog.lift ((validateInitCapabilitiesV3 capabilities selfRootExpectation bootfsExpectation
        loaderTaskGroupExpectation resourceDomainTaskGroupExpectation).mapErr .capability)
      pure ({ parentRoot := root.handle, bootfs := bootfs.handle, taskGroup := taskGroup.handle },
        resourceDomain.handle)
  | _ => Prog.panic

def bootfsMappingPlan (bootfs : Nat) : Boot τ ε MappingPlan := do
  let size : Nat ← native p (.queryMemoryObjectSize bootfs)
  Prog.lift ((MappingPlan.forBootfs size).mapErr .mapping)

/-! ## Loading -/

/-- `b"system/init"`. -/
def systemInitPath : List UInt8 := [115, 121, 115, 116, 101, 109, 47, 105, 110, 105, 116]

def systemInitTransactionId : UInt64 := 0x5759523100000001

/-- The image of `system/init` and its path as a string. -/
def requiredEntry (bootfs : List UInt8) : Outcome (BootstrapError ε) (List UInt8 × String) := do
  let archive ← (Archive.new bootfs).mapErr .bootfs
  let entry ← (archive.lookup systemInitPath).mapErr fun _ => .missingRequiredEntry
  rejectIf (!entry.executable || entry.data.isEmpty) .requiredEntryNotExecutable
  let displayPath ← okOr (fromUtf8 entry.name) .missingRequiredEntry
  pure (entry.data, displayPath)

/-- The `with_bootfs_bytes` of the native platform. -/
def withBootfsBytes {ε' : Type} (rootRegion bootfs : Nat) (plan : MappingPlan)
    (useBytes : List UInt8 → Io τ ε' α) : Io τ ε (Except ε' α) := do
  let bytes : List UInt8 ← request p (.mapBootfs rootRegion bootfs plan)
  let result ← Prog.attempt (useBytes bytes)
  let _ ← request p (.unmapBootfs rootRegion bootfs plan)
  pure result

/-- A load of an image under a display path. -/
abbrev Launcher (τ ε : Type) := List UInt8 → String → Load τ ε LoadedProcess

/-- The callback of `with_bootfs_bytes`. -/
def loadInit (launch : Launcher τ ε) (bootfs : List UInt8) : Boot τ ε Unit := do
  let entry ← Prog.lift (requiredEntry bootfs)
  let loaded ← Prog.within id (fun s _ => s) .loader (hostLoader .loader (launch entry.1 entry.2))
  Prog.emit (.loadReturned loaded)
  Prog.modify fun s => { s with loaded := some loaded }

/-! ## The two entry points -/

/-- What an entry point has of its own. -/
structure Handoff (τ ε : Type) where
  bytesLen : Nat
  handlesLen : Nat
  /-- The transaction of the INIT it consumes. -/
  accepts : BootstrapMessage → Option UInt64
  authority : Received bytesLen handlesLen → Boot τ ε (LoadAuthority × Launcher τ ε)
  profile : LaunchProfile
  encodeReady : UInt64 → Decode (List UInt8)

variable (abi : TerminationAbi)

/-- READY, or the cleanup that its absence calls for. -/
def superviseInit (profile : LaunchProfile) (loaded : LoadedProcess) (deadline : Deadline) :
    Boot τ ε Unit := do
  let ready ← Prog.attempt (hostSupervisor (Supervision.awaitChildReadyProfileObserved abi
    p.supervisor loaded.process loaded.launchChannel profile systemInitTransactionId deadline))
  match ready with
  | .error error => do
      Prog.within id (fun s _ => s) .cleanup
        (cleanupLoadedProcess p loaded (!error.processExitObserved))
      match error with
      | .supervision e => Prog.throw (.supervision e)
      | e => Prog.throw (.observedSupervision e)
  | .ok _ => Prog.within id (fun s _ => s) .cleanup (cleanupLoadedProcess p loaded false)

/-- The closure `operation`. -/
def operation (h : Handoff τ ε) (r : Received h.bytesLen h.handlesLen) (deadline : Deadline) :
    Boot τ ε UInt64 := do
  let message ← Prog.lift ((decode (r.bytes.toList.take r.counts.bytes) r.counts.handles).mapErr
    .protocol)
  let transactionId ← Prog.okOr (h.accepts message) .unexpectedMessage
  Prog.lift (rejectIf (transactionId ≠ 1) .unexpectedTransactionId)
  let authority ← h.authority r
  let plan ← bootfsMappingPlan p authority.1.bootfs
  let result ← Prog.within id (fun s _ => s) .native
    (withBootfsBytes p authority.1.parentRoot authority.1.bootfs plan (loadInit authority.2))
  Prog.lift (ofExcept result)
  let s ← Prog.get
  let loaded ← Prog.okOr s.loaded .missingLoadedProcess
  superviseInit p abi h.profile loaded deadline
  pure transactionId

def sendReady (encode : UInt64 → Decode (List UInt8)) (bootstrapChannel : Nat)
    (transactionId : UInt64) : Boot τ ε Unit := do
  let ready ← Prog.lift ((encode transactionId).mapErr .protocol)
  let _ ← native p (.sendChannel bootstrapChannel ready)
  native p (.closeHandle bootstrapChannel)

/-- The counts of the receive exceed the buffers. -/
def refuseCounts {b h : Nat} (bootstrapChannel : Nat) (r : Received b h) : Boot τ ε Unit := do
  let handlesCleanup ← Prog.attempt (closeReceivedHandles p r.initialized)
  let channelCleanup ← Prog.attempt (native p (.closeHandle bootstrapChannel))
  Prog.lift (ofExcept handlesCleanup)
  let _ ← Prog.lift (ofExcept channelCleanup)
  Prog.throw (.receiveCounts r.counts)

/-- What follows a receive within the buffers. -/
def settle (h : Handoff τ ε) (r : Received h.bytesLen h.handlesLen) (bootstrapChannel : Nat)
    (deadline : Deadline) : Boot τ ε Unit := do
  let operation ← Prog.attempt (operation p abi h r deadline)
  let cleanup ← Prog.attempt (closeReceivedHandles p r.initialized)
  let transaction ← Prog.lift (ofExcept operation)
  Prog.lift (ofExcept cleanup)
  sendReady p h.encodeReady bootstrapChannel transaction

def runHandoff (h : Handoff τ ε) (bootstrapChannel : Nat) (deadline : Deadline) :
    Boot τ ε Unit := do
  let channelInfo : CapabilityInfo ← native p (.queryCapabilityInfo bootstrapChannel)
  Prog.lift ((validateBootstrapChannel channelInfo bootstrapChannelExpectation).mapErr
    .bootstrapChannel)
  let r : Received h.bytesLen h.handlesLen ←
    native p (.receiveChannel bootstrapChannel h.bytesLen h.handlesLen)
  if h.bytesLen < r.counts.bytes ∨ h.handlesLen < r.counts.handles then
    refuseCounts p bootstrapChannel r
  else settle p abi h r bootstrapChannel deadline

def acceptsInitV2 : BootstrapMessage → Option UInt64
  | .initV2 transactionId => some transactionId
  | _ => none

def acceptsInitV3 : BootstrapMessage → Option UInt64
  | .initV3 transactionId => some transactionId
  | _ => none

def supervisorHandoff : Handoff τ ε where
  bytesLen := bootstrapInitV2Size
  handlesLen := maxBootstrapV2Handles
  accepts := acceptsInitV2
  authority r := do
    let authority ← validatedLoadAuthority p r.initialized
    pure (authority, fun image displayPath => Loader.loadProcess p.loader authority
      { image, displayPath, profile := .supervisor, transactionId := systemInitTransactionId })
  profile := .supervisor
  encodeReady := encodeReadyV2

def resourceDomainHandoff : Handoff τ ε where
  bytesLen := bootstrapInitV3Size
  handlesLen := maxBootstrapHandles
  accepts := acceptsInitV3
  authority r := do
    let authority ← validatedResourceDomainAuthority p r.handles
    pure (authority.1, fun image displayPath => Loader.loadResourceDomainProcess p.loader authority.1
      { image, displayPath, resourceDomain := authority.2,
        transactionId := systemInitTransactionId })
  profile := .supervisorResourceDomain
  encodeReady := encodeReadyV3

def runSupervisorBootstrap (bootstrapChannel : Nat) (deadline : Deadline) : Boot τ ε Unit :=
  runHandoff p abi (supervisorHandoff p) bootstrapChannel deadline

def runSupervisorResourceDomainBootstrap (bootstrapChannel : Nat) (deadline : Deadline) :
    Boot τ ε Unit :=
  runHandoff p abi (resourceDomainHandoff p) bootstrapChannel deadline

end Wyrmroot.Bootstrap
