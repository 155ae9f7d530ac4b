import Wyrmroot.Loader.Image
import Wyrmroot.Loader.Launch

/-!
# Child construction

The loader's transaction over a platform that may fail at every call. A
platform is a function from a call and its own state to a result; a program
of the loader shows its environment the calls it made and how each ended.

`loadProcessMaterialized` is cut into the phases of the source, in their
order: `openLaunchChannel`, `createProcess`, `placeSegments` and `placeStack`
(both `placeObject`), `createThread`, `stageCapabilities`, `deliverInit`,
`startChild`. The `Transaction` is what the source keeps in its local
variable of that name, and `fail` is the one way out after the first call.
-/

namespace Wyrmroot.Loader

open Outcome

def maxChildRanges : Nat := maxLoadSegments + 1

def channelBroadRights : Rights := {.read, .write, .wait, .duplicate, .transfer, .inspect}
def channelRetainedRights : Rights := {.read, .write, .wait, .inspect}
def processRights : Rights := {.wait, .modify, .inspect}
def rootRights : Rights := {.map, .modify, .inspect, .transfer}
def threadRights : Rights := {.execute, .modify, .inspect}
def memoryRights : Rights := {.read, .write, .execute, .map, .inspect}

/-! ## The platform -/

structure ProcessCreateRequest where
  taskGroup : Nat
  bootstrapChannel : Nat
  processRights : Rights
  rootRights : Rights
  childBootstrapRights : Rights

structure ProcessCreateResult where
  process : Nat
  root : Nat
  childBootstrap : Nat
deriving DecidableEq

structure ParentMapping where
  address : Nat
  bytes : Nat
deriving DecidableEq

/-- `DwHandleTransferV1`; the operation is always a MOVE. -/
structure HandleTransfer where
  handle : Nat
  requestedRights : Rights
deriving DecidableEq

/-- The calls of the `LoaderPlatform` trait. `materialize_parent_with` maps
and zeroes the object and has `contents` written at the offset. -/
inductive Call where
  | channelCreate (rights : Rights)
  | duplicate (handle : Nat) (rights : Rights)
  | close (handle : Nat)
  | processCreate (request : ProcessCreateRequest)
  | memoryCreate (bytes : Nat) (rights : Rights)
  | materializeParent (parentRoot memory objectSize destinationOffset : Nat)
      (contents : List UInt8)
  | unmapParent (parentRoot : Nat) (mapping : ParentMapping)
  | mapChild (childRoot memory address bytes : Nat) (protection : SegmentProtection)
  | unmapChild (childRoot address bytes : Nat)
  | threadCreate (process : Nat) (rights : Rights)
  | sendInit (channel : Nat) (bytes : List UInt8) (transfers : List HandleTransfer)
  | threadStart (thread entry stackPointer childBootstrap startupAbi : Nat)
  | threadTerminate (thread : Nat)
  | processTerminate (process : Nat)

/-- What a successful call returns. -/
def Call.Result : Call → Type
  | .channelCreate _ => Nat × Nat
  | .duplicate _ _ => Nat
  | .processCreate _ => ProcessCreateResult
  | .memoryCreate _ _ => Nat
  | .materializeParent _ _ _ _ _ => ParentMapping
  | .threadCreate _ _ => Nat
  | _ => Unit

/-- `LoaderPlatform`, with state `τ` and errors `ε`. -/
structure LoaderPlatform (τ ε : Type) where
  call : (c : Call) → τ → Except ε c.Result × τ

inductive Event where
  | done (c : Call) (result : c.Result)
  | failed (c : Call)

/-- The platform, and `*delegated_channels_consumed`. -/
structure LoadState (τ : Type) where
  io : τ
  consumed : Bool

inductive LoadStage where
  | channelCreate
  | channelReduce
  | processCreate
  | memoryCreate
  | parentMaterialize
  | parentUnmap
  | childMap
  | threadCreate
  | capabilityDuplicate
  | initSend
  | threadStart
  | successCleanup
deriving DecidableEq

inductive LoadError (ε : Type) where
  | elf (e : ElfError)
  | startup (e : StartupBlockError)
  | launch (e : LaunchError)
  | platform (stage : LoadStage) (cause : ε) (rollbackFailed : Bool)
deriving DecidableEq

/-- A program that calls the platform. -/
abbrev Io (τ ε α : Type) := Prog (LoadState τ) Event ε α

/-- A program of the loader. -/
abbrev Load (τ ε α : Type) := Io τ (LoadError ε) α

variable {τ ε α : Type} (tr : LoaderPlatform τ ε)

def request (c : Call) : Io τ ε c.Result := fun s =>
  match tr.call c s.io with
  | (.ok result, io) => (.ok result, { s with io }, [.done c result])
  | (.error e, io) => (.err e, { s with io }, [.failed c])

/-- `call.is_err()`. -/
def isErr (c : Call) : Load τ ε Bool := do
  let result ← Prog.attempt (request tr c)
  match result with
  | .ok _ => pure false
  | .error _ => pure true

/-! ## The transaction -/

structure Range where
  address : Nat
  bytes : Nat
deriving DecidableEq

/-- What the load owns so far. `delegatedChannels` are the slots in use. -/
structure Transaction where
  parentRoot : Nat
  broadParent : Option Nat := none
  childEndpoint : Option Nat := none
  parentChannel : Option Nat := none
  process : Option Nat := none
  root : Option Nat := none
  thread : Option Nat := none
  scratchMemory : Option Nat := none
  parentMapping : Option ParentMapping := none
  delegatedBootfs : Option Nat := none
  delegatedTaskGroup : Option Nat := none
  delegatedResourceDomain : Option Nat := none
  delegatedChannels : List Nat := []
  delegatedManifest : Option Nat := none
  ranges : List Range := []

/-- `if let Some(..) = slot.take() { failed |= .. }`. -/
def whenSome {β : Type} (slot : Option β) (body : β → Load τ ε Bool) : Load τ ε Bool :=
  match slot with
  | some b => body b
  | none => pure false

/-- Unmaps each range, whatever becomes of the others. -/
def unmapRanges (root : Nat) : List Range → Load τ ε Bool
  | [] => pure false
  | range :: rest => do
      let failed ← isErr tr (.unmapChild root range.address range.bytes)
      let others ← unmapRanges root rest
      pure (failed || others)

/-- Closes each handle, whatever becomes of the others. -/
def closeEach : List Nat → Load τ ε Bool
  | [] => pure false
  | handle :: rest => do
      let failed ← isErr tr (.close handle)
      let others ← closeEach rest
      pure (failed || others)

/-- The thread, if there is one: whether it was terminated, and whether
closing it failed. -/
def endThread (thread : Option Nat) : Load τ ε (Bool × Bool) :=
  match thread with
  | some thread => do
      let running ← isErr tr (.threadTerminate thread)
      let failed ← isErr tr (.close thread)
      pure (!running, failed)
  | none => pure (false, false)

def endProcess (threadTerminated : Bool) (process : Nat) : Load τ ε Bool := do
  let running ←
    if threadTerminated then pure false else isErr tr (.processTerminate process)
  let failed ← isErr tr (.close process)
  pure (running || failed)

/-- Whether anything could not be undone. The child's ranges go first: its
address space takes no more calls once the process has exited. -/
def rollback (tx : Transaction) : Load τ ε Bool := do
  let mapping ← whenSome tx.parentMapping fun mapping =>
    isErr tr (.unmapParent tx.parentRoot mapping)
  let ranges ← whenSome tx.root fun root => unmapRanges tr root tx.ranges.reverse
  let (threadTerminated, thread) ← endThread tr tx.thread
  let root ← whenSome tx.root fun root => isErr tr (.close root)
  let process ← whenSome tx.process (endProcess tr threadTerminated)
  let staged ← closeEach tr ([tx.scratchMemory, tx.delegatedTaskGroup, tx.delegatedResourceDomain,
    tx.delegatedBootfs].filterMap id)
  let channels ← closeEach tr tx.delegatedChannels
  let endpoints ← closeEach tr ([tx.delegatedManifest, tx.childEndpoint, tx.broadParent,
    tx.parentChannel].filterMap id)
  pure (mapping || ranges || thread || root || process || staged || channels || endpoints)

def fail (tx : Transaction) (stage : LoadStage) (cause : ε) : Load τ ε α := do
  let rollbackFailed ← rollback tr tx
  Prog.throw (.platform stage cause rollbackFailed)

/-- `match platform.call(..) { Ok(value) => value, Err(cause) => return
Err(fail(platform, &mut transaction, stage, cause)) }`. -/
def callOrFail (tx : Transaction) (stage : LoadStage) (c : Call) : Load τ ε c.Result := do
  let result ← Prog.attempt (request tr c)
  match result with
  | .ok value => pure value
  | .error cause => fail tr tx stage cause

/-! ## Requests -/

structure LoadAuthority where
  parentRoot : Nat
  taskGroup : Nat
  bootfs : Nat

inductive LoadFault where
  | none
  | malformedElf
  | malformedStartup
  | initCapabilityCount
  | initCapabilityType
  | initCapabilityRights
deriving DecidableEq

inductive StartupSpec where
  | legacy (displayPath : String)
  | jobV2 (path : String) (argv environment : List String)

structure WyrmshCorrelation where
  registryGeneration : UInt64
  registryEndpointId : UInt64
  registryEndpointGeneration : UInt64
  launchConnectionId : UInt64
  launchConnectionGeneration : UInt64
  consoleGeneration : UInt64
  statusGeneration : UInt64
  childGeneration : UInt64
  outerLaunchTransaction : UInt64

def WyrmshCorrelation.words (c : WyrmshCorrelation) : List UInt64 :=
  [c.registryGeneration, c.registryEndpointId, c.registryEndpointGeneration,
    c.launchConnectionId, c.launchConnectionGeneration, c.consoleGeneration, c.statusGeneration,
    c.childGeneration, c.outerLaunchTransaction]

structure InternalLoadRequest where
  image : List UInt8
  profile : LaunchProfile
  transactionId : UInt64
  startup : StartupSpec
  channels : List Nat := []
  deviceManifest : Option Nat := none
  supervisorGeneration : Option UInt64 := none
  driverCorrelation : Option (UInt64 × UInt64 × UInt64 × UInt64 × UInt64 × UInt64) := none
  consoledCorrelation : Option (UInt64 × UInt64 × UInt64 × UInt64 × UInt64) := none
  wyrmshCorrelation : Option WyrmshCorrelation := none
  resourceDomain : Option Nat := none

structure LoadedProcess where
  process : Nat
  launchChannel : Nat
deriving DecidableEq

/-! ## The INIT message -/

def encodeRequest (request : InternalLoadRequest) : Encode Nat :=
  match request.profile with
  | .wyrmsh =>
      match request.wyrmshCorrelation with
      | some c => encodeWyrmshInit request.transactionId c.registryGeneration
          c.registryEndpointId c.registryEndpointGeneration c.launchConnectionId
          c.launchConnectionGeneration c.consoleGeneration c.statusGeneration c.childGeneration
          c.outerLaunchTransaction
      | none => Prog.throw .zeroTransaction
  | .consoled =>
      match request.consoledCorrelation with
      | some (registry, registryId, registryGeneration, launchId, launchGeneration) =>
          encodeConsoledInit request.transactionId registry registryId registryGeneration launchId
            launchGeneration
      | none => Prog.throw .zeroTransaction
  | .deviceCoordinator =>
      match request.supervisorGeneration with
      | some generation => encodeDeviceCoordinatorInit request.transactionId generation
      | none => Prog.throw .zeroTransaction
  | .deviceCoordinatorResourceDomain =>
      match request.supervisorGeneration with
      | some generation => encodeDeviceCoordinatorResourceInit request.transactionId generation
      | none => Prog.throw .zeroTransaction
  | .deviceDriver =>
      match request.driverCorrelation with
      | some (supervisor, role, attempt, session, endpoint, endpointGeneration) =>
          encodeDeviceDriverInit request.transactionId supervisor role attempt session endpoint
            endpointGeneration
      | none => Prog.throw .zeroTransaction
  | profile => encodeInit profile request.transactionId

/-- Offset 20 is the capability count. -/
def applyInitFault (fault : LoadFault) (init : List UInt8) : List UInt8 :=
  if fault = .initCapabilityCount then splice init 20 (leBytes 4 2) else init

/-- `&init[..init_len]`, with the fault applied. -/
def initMessage (request : InternalLoadRequest) (fault : LoadFault) :
    Outcome LaunchError (List UInt8) :=
  match encodeRequest request (List.replicate wyrmshBytes 0) with
  | (.ok size, init, _) => .ok (applyInitFault fault (init.take size))
  | (.err e, _, _) => .err e
  | (.panic, _, _) => .panic

/-! ## The phases -/

/-- The parent keeps a duplicate of its end, without the transfer right. -/
def reduceLaunchChannel (tx : Transaction) (broadParent childEndpoint : Nat) :
    Load τ ε (Transaction × Nat × Nat) := do
  let tx := { tx with broadParent := some broadParent, childEndpoint := some childEndpoint }
  let parentChannel : Nat ← callOrFail tr tx .channelReduce
    (.duplicate broadParent channelRetainedRights)
  let tx := { tx with parentChannel := some parentChannel }
  callOrFail tr tx .channelReduce (.close broadParent)
  pure ({ tx with broadParent := none }, parentChannel, childEndpoint)

def openLaunchChannel (authority : LoadAuthority) : Load τ ε (Transaction × Nat × Nat) := do
  let result ← Prog.attempt (request tr (.channelCreate channelBroadRights))
  match result with
  | .error cause => Prog.throw (.platform .channelCreate cause false)
  | .ok ends =>
      reduceLaunchChannel tr { parentRoot := authority.parentRoot } ends.1 ends.2

def createProcess (authority : LoadAuthority) (tx : Transaction) (childEndpoint : Nat) :
    Load τ ε (Transaction × ProcessCreateResult) := do
  let created : ProcessCreateResult ← callOrFail tr tx .processCreate (.processCreate
    { taskGroup := authority.taskGroup, bootstrapChannel := childEndpoint, processRights,
      rootRights, childBootstrapRights := channelRetainedRights })
  pure ({ tx with childEndpoint := none, process := some created.process,
                  root := some created.root }, created)

/-- One MemoryObject: created, filled through a parent alias, the alias
removed, mapped into the child, closed. -/
def placeObject (authority : LoadAuthority) (childRoot : Nat) (tx : Transaction)
    (objectSize destinationOffset : Nat) (contents : Load τ ε (List UInt8))
    (childAddress : Nat) (protection : SegmentProtection) : Load τ ε Transaction := do
  let memory : Nat ← callOrFail tr tx .memoryCreate (.memoryCreate objectSize memoryRights)
  let tx := { tx with scratchMemory := some memory }
  let contents ← contents
  let mapping : ParentMapping ← callOrFail tr tx .parentMaterialize
    (.materializeParent authority.parentRoot memory objectSize destinationOffset contents)
  let tx := { tx with parentMapping := some mapping }
  callOrFail tr tx .parentUnmap (.unmapParent authority.parentRoot mapping)
  let tx := { tx with parentMapping := none }
  callOrFail tr tx .childMap (.mapChild childRoot memory childAddress objectSize protection)
  if tx.ranges.length < maxChildRanges then do
    let tx := { tx with ranges := tx.ranges ++ [⟨childAddress, objectSize⟩] }
    callOrFail tr tx .successCleanup (.close memory)
    pure { tx with scratchMemory := none }
  else Prog.panic

/-- `&request.image[source_start..source_end]`. -/
def segmentBytes (image : List UInt8) (m : MaterializationPlan) : Load τ ε (List UInt8) :=
  Prog.lift (sliceAt image m.sourceOffset m.sourceSize)

def placeSegments (authority : LoadAuthority) (childRoot : Nat) (image : List UInt8)
    (tx : Transaction) : List LoadSegment → Load τ ε Transaction
  | [] => pure tx
  | segment :: rest => do
      let m := MaterializationPlan.ofSegment segment
      let tx ← placeObject tr authority childRoot tx m.objectSize m.destinationOffset
        (segmentBytes image m) m.childAddress m.protection
      placeSegments authority childRoot image tx rest

inductive StartupMaterialization where
  | legacy (block : List UInt8)
  | jobV2 (plan : StartupBlockV2Plan)

/-- The page or block says two arguments where there is one. -/
def applyStartupFault (fault : LoadFault) (block : List UInt8) : List UInt8 :=
  if fault = .malformedStartup then splice block 0 (leBytes 8 2) else block

/-- The block is handed over only when the write has succeeded. -/
def writtenBlock (fault : LoadFault) :
    Outcome StartupBlockError Unit × List UInt8 × List Empty → Load τ ε (List UInt8)
  | (.ok _, block, _) => pure (applyStartupFault fault block)
  | _ => Prog.panic

/-- What is copied into the stack object. -/
def startupBytes (startup : StartupMaterialization) (fault : LoadFault) :
    Load τ ε (List UInt8) :=
  match startup with
  | .legacy block => pure block
  | .jobV2 plan => writtenBlock fault (plan.write (List.replicate startupV2BlockBytes 0))

def createThread (tx : Transaction) (process : Nat) : Load τ ε (Transaction × Nat) := do
  let thread : Nat ← callOrFail tr tx .threadCreate (.threadCreate process threadRights)
  pure ({ tx with thread := some thread }, thread)

def transfer (handle : Nat) (rights : Rights) : HandleTransfer := ⟨handle, rights⟩

def duplicateFor (tx : Transaction) (handle : Nat) (rights : Rights) : Load τ ε Nat :=
  callOrFail tr tx .capabilityDuplicate (.duplicate handle rights)

/-- `.ok_or(LoadError::Launch(e))?`: no rollback. -/
def require {β : Type} (value : Option β) (e : LaunchError) : Load τ ε β :=
  Prog.lift (okOr value (.launch e))

/-- `request.channels[0]`. -/
def firstChannel (request : InternalLoadRequest) : Load τ ε Nat :=
  Prog.unwrap request.channels.head?

def stageAuthority (authority : LoadAuthority) (request : InternalLoadRequest)
    (tx : Transaction) (root : Nat) : Load τ ε (Transaction × List HandleTransfer) := do
  let bootfs ← duplicateFor tr tx authority.bootfs bootfsRights
  let tx := { tx with delegatedBootfs := some bootfs }
  let taskGroup ← duplicateFor tr tx authority.taskGroup loaderTaskGroupRights
  let tx := { tx with delegatedTaskGroup := some taskGroup }
  let trio := [transfer root selfRootRights, transfer bootfs bootfsRights,
    transfer taskGroup loaderTaskGroupRights]
  if request.profile.hasLoaderAuthorityQuartet then do
    let domain ← require request.resourceDomain .handleCount
    let domain ← duplicateFor tr tx domain resourceDomainCustodyRights
    pure ({ tx with delegatedResourceDomain := some domain },
      trio ++ [transfer domain resourceDomainCustodyRights])
  else pure (tx, trio)

def stageResourceOwner (request : InternalLoadRequest) (tx : Transaction) :
    Load τ ε (Transaction × List HandleTransfer) := do
  let domain ← require request.resourceDomain .handleCount
  let domain ← duplicateFor tr tx domain resourceDomainClaimTransferRights
  pure ({ tx with delegatedResourceDomain := some domain },
    [transfer domain resourceDomainClaimRights])

def stageCoordinator (request : InternalLoadRequest) (tx : Transaction) (root : Nat) :
    Load τ ε (Transaction × List HandleTransfer) := do
  let manifest ← require request.deviceManifest .handleCount
  if request.profile = .deviceCoordinatorResourceDomain then do
    let domain ← require request.resourceDomain .handleCount
    let domain ← duplicateFor tr tx domain resourceDomainClaimTransferRights
    let channel ← firstChannel request
    pure ({ tx with delegatedResourceDomain := some domain, delegatedChannels := [channel],
                    delegatedManifest := some manifest },
      [transfer root selfRootRights, transfer channel childChannelRights,
        transfer manifest deviceManifestRights, transfer domain resourceDomainClaimRights])
  else do
    let channel ← firstChannel request
    pure ({ tx with delegatedChannels := [channel], delegatedManifest := some manifest },
      [transfer root selfRootRights, transfer channel childChannelRights,
        transfer manifest deviceManifestRights])

/-- The transfer list of the INIT. -/
def stageCapabilities (authority : LoadAuthority) (request : InternalLoadRequest)
    (tx : Transaction) (root : Nat) : Load τ ε (Transaction × List HandleTransfer) :=
  let streams := request.channels.map (transfer · childChannelRights)
  if request.profile.hasLoaderAuthorityTrio || request.profile.hasLoaderAuthorityQuartet then
    stageAuthority tr authority request tx root
  else if request.profile = .d6ResourceOwner then stageResourceOwner tr request tx
  else if request.profile = .dw1bProgress then do
    let channel ← firstChannel request
    pure ({ tx with delegatedChannels := [channel] }, [transfer channel childChannelRights])
  else if request.profile = .deviceCoordinator
      || request.profile = .deviceCoordinatorResourceDomain then
    stageCoordinator tr request tx root
  else if request.profile = .wyrmsh then
    pure ({ tx with delegatedChannels := request.channels }, streams)
  else if request.profile = .consoled then
    pure ({ tx with delegatedChannels := request.channels },
      transfer root selfRootRights :: streams)
  else if request.profile.channelRole.isSome then do
    let channel ← firstChannel request
    pure ({ tx with delegatedChannels := [channel] },
      [transfer root selfRootRights, transfer channel childChannelRights])
  else if request.profile.needsSelfRoot then pure (tx, [transfer root selfRootRights])
  else if request.profile = .jobV2Streams then
    pure ({ tx with delegatedChannels := request.channels }, streams)
  else pure (tx, [])

def applyCapabilityFault (fault : LoadFault) (transfers : List HandleTransfer) :
    List HandleTransfer :=
  match fault, transfers with
  | .initCapabilityType, [a, b, c] => [c, b, a]
  | .initCapabilityRights, a :: rest => { a with requestedRights := rootRights } :: rest
  | _, transfers => transfers

/-- The slots that are the child's once the INIT has gone out. -/
def releaseMoved (profile : LaunchProfile) (tx : Transaction) : Transaction :=
  let tx := { tx with delegatedChannels := [], delegatedManifest := none }
  let tx :=
    if profile = .deviceCoordinatorResourceDomain then { tx with delegatedResourceDomain := none }
    else tx
  if profile.needsSelfRoot then
    let tx := { tx with root := none }
    if profile.hasLoaderAuthorityTrio || profile.hasLoaderAuthorityQuartet then
      { tx with delegatedBootfs := none, delegatedTaskGroup := none,
                delegatedResourceDomain := none }
    else tx
  else if profile = .d6ResourceOwner then { tx with delegatedResourceDomain := none }
  else tx

/-- What the caller supplied stays the caller's if the send fails: a failed
MOVE consumes nothing. -/
def keepSupplied (tx : Transaction) : Transaction :=
  { tx with delegatedChannels := [], delegatedManifest := none }

/-- The send that commits the transfers. -/
def commitInit (request : InternalLoadRequest) (tx : Transaction) (parentChannel : Nat)
    (init : List UInt8) (transfers : List HandleTransfer) : Load τ ε Unit := do
  callOrFail tr (keepSupplied tx) .initSend (.sendInit parentChannel init transfers)
  Prog.modify fun s => { s with consumed := !request.channels.isEmpty }

/-- A root that was not moved is closed once the INIT has gone out. -/
def deliverInit (request : InternalLoadRequest) (tx : Transaction) (parentChannel root : Nat)
    (init : List UInt8) (transfers : List HandleTransfer) : Load τ ε Transaction := do
  commitInit tr request tx parentChannel init transfers
  let tx := releaseMoved request.profile tx
  if request.profile.needsSelfRoot then pure tx
  else do
    callOrFail tr tx .successCleanup (.close root)
    pure { tx with root := none }

/-- Whether the child is still running after both ways to stop it. -/
def stopChild (process thread : Nat) : Load τ ε Bool := do
  let processRunning ← isErr tr (.processTerminate process)
  if processRunning then isErr tr (.threadTerminate thread) else pure false

/-- After the start only the thread handle is left to close; if that fails
the child is stopped again by hand. -/
def abandonChild (process thread parentChannel : Nat) (cause : ε) : Load τ ε α := do
  let running ← stopChild tr process thread
  let failed ← closeEach tr [thread, process, parentChannel]
  Prog.throw (.platform .successCleanup cause (running || failed))

def startChild (tx : Transaction) (created : ProcessCreateResult) (thread parentChannel entry
    stackPointer startupAbi : Nat) : Load τ ε LoadedProcess := do
  callOrFail tr tx .threadStart
    (.threadStart thread entry stackPointer created.childBootstrap startupAbi)
  let result ← Prog.attempt (request tr (.close thread))
  match result with
  | .error cause => abandonChild tr created.process thread parentChannel cause
  | .ok _ => pure { process := created.process, launchChannel := parentChannel }

def loadProcessMaterialized (authority : LoadAuthority) (request : InternalLoadRequest)
    (fault : LoadFault) (plan : ElfLoadPlan) (startup : StartupMaterialization)
    (startupOffset stackPointer startupAbi : Nat) : Load τ ε LoadedProcess := do
  let init ← Prog.lift ((initMessage request fault).mapErr .launch)
  let (tx, parentChannel, childEndpoint) ← openLaunchChannel tr authority
  let (tx, created) ← createProcess tr authority tx childEndpoint
  let tx ← placeSegments tr authority created.root request.image tx plan.segments
  let tx ← placeObject tr authority created.root tx initialStack.objectSize startupOffset
    (startupBytes startup fault) initialStack.childAddress .readWrite
  let (tx, thread) ← createThread tr tx created.process
  let (tx, transfers) ← stageCapabilities tr authority request tx created.root
  let tx ← deliverInit tr request tx parentChannel created.root init
    (applyCapabilityFault fault transfers)
  startChild tr tx created thread parentChannel plan.entry stackPointer startupAbi

def loadLegacyProcessMaterialized (authority : LoadAuthority) (request : InternalLoadRequest)
    (displayPath : String) (fault : LoadFault) (plan : ElfLoadPlan) :
    Load τ ε LoadedProcess :=
  match writeStartupBlock initialStackPointer displayPath (List.replicate pageSize 0) with
  | (.err e, _, _) => Prog.throw (.startup e)
  | (.panic, _, _) => Prog.panic
  | (.ok _, block, _) =>
      loadProcessMaterialized tr authority request fault plan
        (.legacy (applyStartupFault fault block)) initialStack.startupPageOffset
        initialStack.stackPointer startupAbiVersion

def loadJobV2ProcessMaterialized (authority : LoadAuthority) (request : InternalLoadRequest)
    (path : String) (argv environment : List String) (fault : LoadFault) (plan : ElfLoadPlan) :
    Load τ ε LoadedProcess := do
  let startup ← Prog.lift ((StartupBlockV2Plan.new startupV2BlockBytes startupV2BlockAddress path
    argv environment).mapErr .startup)
  loadProcessMaterialized tr authority request fault plan (.jobV2 startup)
    (initialStack.objectSize - startupV2BlockBytes) startupV2BlockAddress startupAbiV2

def LaunchProfile.expectedChannels (profile : LaunchProfile) : Nat :=
  if profile = .wyrmsh then maxCapabilities
  else if profile = .consoled then 2
  else if profile.channelRole.isSome || profile = .deviceCoordinator
      || profile = .deviceCoordinatorResourceDomain || profile = .deviceDriver then 1
  else if profile = .jobV2Streams then 3
  else 0

/-- The request has what its profile needs, and nothing else. -/
def checkShape (request : InternalLoadRequest) : Outcome LaunchError Unit := do
  let profile := request.profile
  rejectIf (request.channels.length ≠ profile.expectedChannels) .handleCount
  rejectIf ((profile = .deviceCoordinator || profile = .deviceCoordinatorResourceDomain)
    ≠ request.deviceManifest.isSome) .handleCount
  rejectIf (decide (profile = .deviceDriver) ≠ request.driverCorrelation.isSome) .handleCount
  rejectIf (decide (profile = .consoled) ≠ request.consoledCorrelation.isSome) .handleCount
  rejectIf (decide (profile = .wyrmsh) ≠ request.wyrmshCorrelation.isSome) .handleCount

def loadProcessInternal (authority : LoadAuthority) (request : InternalLoadRequest)
    (fault : LoadFault) : Load τ ε LoadedProcess := do
  Prog.lift ((checkShape request).mapErr .launch)
  if fault = .malformedElf then
    match plan (List.replicate 64 0) maxLoadSegments with
    | .err e => Prog.throw (.elf e)
    | _ => Prog.panic
  else do
    let plan ← Prog.lift ((plan request.image maxLoadSegments).mapErr .elf)
    match request.startup with
    | .legacy displayPath =>
        loadLegacyProcessMaterialized tr authority request displayPath fault plan
    | .jobV2 path argv environment =>
        loadJobV2ProcessMaterialized tr authority request path argv environment fault plan

/-- A platform on which every call succeeds, handing out new numbers from
`base` on. -/
def countingPlatform (base : Nat) : LoaderPlatform Nat Unit where
  call
    | .channelCreate _, n => (.ok (base + n, base + n + 1), n + 2)
    | .duplicate _ _, n => (.ok (base + n), n + 1)
    | .processCreate _, n => (.ok ⟨base + n, base + n + 1, 1⟩, n + 2)
    | .memoryCreate _ _, n => (.ok (base + n), n + 1)
    | .materializeParent _ _ size _ _, n => (.ok ⟨pageSize, size⟩, n)
    | .threadCreate _ _, n => (.ok (base + n), n + 1)
    | .close _, n => (.ok (), n)
    | .unmapParent _ _, n => (.ok (), n)
    | .mapChild _ _ _ _ _, n => (.ok (), n)
    | .unmapChild _ _ _, n => (.ok (), n)
    | .sendInit _ _ _, n => (.ok (), n)
    | .threadStart _ _ _ _ _, n => (.ok (), n)
    | .threadTerminate _, n => (.ok (), n)
    | .processTerminate _, n => (.ok (), n)

end Wyrmroot.Loader
