import Wyrmroot.Loader.Process

/-!
# The entry points of the loader

Each public `load_*` function checks its request, turns it into an
`InternalLoadRequest`, and pairs a failure with who holds the handles the
caller supplied. `EntryPoint` lists them with their requests, and
`EntryPoint.load` runs one with its report in a common form: each supplied
handle with the flag the entry point returned for it.
-/

namespace Wyrmroot.Loader

open Outcome

variable {τ ε ε' α : Type} (tr : LoaderPlatform τ ε)

/-! ## The registry correlation of a child -/

/-- `CorrelationEnvironment`: only made by `new`, which refuses a zero. -/
structure CorrelationEnvironment where
  registryGeneration : UInt64
  endpointId : UInt64
  endpointGeneration : UInt64
  registryGeneration_ne : registryGeneration ≠ 0
  endpointId_ne : endpointId ≠ 0
  endpointGeneration_ne : endpointGeneration ≠ 0

def correlationEnvironmentCount : Nat := 3

def CorrelationEnvironment.entry (c : CorrelationEnvironment) : Nat → Option String
  | 0 => some ("WYR_REGISTRY_GENERATION=" ++ toString c.registryGeneration.toNat)
  | 1 => some ("WYR_REGISTRY_ENDPOINT_ID=" ++ toString c.endpointId.toNat)
  | 2 => some ("WYR_REGISTRY_ENDPOINT_GENERATION=" ++ toString c.endpointGeneration.toNat)
  | _ => none

/-- The three entries, in the order of the environment. -/
def CorrelationEnvironment.entries (c : CorrelationEnvironment) :
    Outcome StartupBlockError (List String) :=
  (List.range correlationEnvironmentCount).mapM fun i => okOr (c.entry i) .invalidEnvironment

/-! ## Requests and failures -/

structure LoadRequest where
  image : List UInt8
  displayPath : String
  profile : LaunchProfile
  transactionId : UInt64

structure ResourceDomainLoadRequest where
  image : List UInt8
  displayPath : String
  resourceDomain : Nat
  transactionId : UInt64

structure D6ResourceOwnerLoadRequest where
  image : List UInt8
  displayPath : String
  resourceDomain : Nat
  transactionId : UInt64

structure JobLoadRequest where
  image : List UInt8
  policyPath : String
  argv : List String
  environment : List String
  streams : List Nat
  transactionId : UInt64

structure ServiceLoadRequest where
  image : List UInt8
  displayPath : String
  profile : LaunchProfile
  serviceChannel : Nat
  correlation : Option CorrelationEnvironment
  transactionId : UInt64

structure LaunchClientLoadRequest where
  image : List UInt8
  displayPath : String
  launchSession : Nat
  arguments : List String
  correlation : CorrelationEnvironment
  transactionId : UInt64

structure ConsoledLoadRequest where
  image : List UInt8
  displayPath : String
  registryEndpoint : Nat
  registryGeneration : UInt64
  registryEndpointId : UInt64
  registryEndpointGeneration : UInt64
  launchEndpoint : Nat
  launchConnectionId : UInt64
  launchConnectionGeneration : UInt64
  transactionId : UInt64

structure WyrmshLoadRequest where
  image : List UInt8
  stdin : Nat
  stdout : Nat
  stderr : Nat
  consoleStatus : Nat
  registryClient : Nat
  launchSession : Nat
  correlation : WyrmshCorrelation
  transactionId : UInt64

structure DeviceCoordinatorLoadRequest where
  image : List UInt8
  displayPath : String
  publicationEndpoint : Nat
  manifest : Nat
  supervisorGeneration : UInt64
  transactionId : UInt64

structure DeviceCoordinatorResourceLoadRequest where
  image : List UInt8
  displayPath : String
  publicationEndpoint : Nat
  manifest : Nat
  resourceDomain : Nat
  supervisorGeneration : UInt64
  transactionId : UInt64

structure DeviceDriverLoadRequest where
  image : List UInt8
  displayPath : String
  controlEndpoint : Nat
  supervisorGeneration : UInt64
  roleId : UInt64
  attemptGeneration : UInt64
  launchSession : UInt64
  endpointId : UInt64
  endpointGeneration : UInt64
  transactionId : UInt64

structure JobLoadError (ε : Type) where
  error : LoadError ε
  streamsConsumed : Bool

structure ServiceLoadError (ε : Type) where
  error : LoadError ε
  serviceChannelConsumed : Bool

structure LaunchClientLoadError (ε : Type) where
  error : LoadError ε
  launchSessionConsumed : Bool

structure DeviceCoordinatorLoadError (ε : Type) where
  error : LoadError ε
  publicationEndpointConsumed : Bool
  manifestConsumed : Bool

structure DeviceDriverLoadError (ε : Type) where
  error : LoadError ε
  controlEndpointConsumed : Bool

structure ConsoledLoadError (ε : Type) where
  error : LoadError ε
  registryEndpointConsumed : Bool
  launchEndpointConsumed : Bool

structure WyrmshLoadError (ε : Type) where
  error : LoadError ε
  stdinConsumed : Bool
  stdoutConsumed : Bool
  stderrConsumed : Bool
  consoleStatusConsumed : Bool
  registryClientConsumed : Bool
  launchSessionConsumed : Bool

/-- `let mut consumed = false; body.map_err(|error| report(error, consumed))`.
A check before the load fails through the same report, with `false`. -/
def reporting (report : LoadError ε → Bool → ε') (body : Load τ ε α) : Io τ ε' α := fun s =>
  match body { s with consumed := false } with
  | (.ok a, s', w) => (.ok a, s', w)
  | (.err e, s', w) => (.err (report e s'.consumed), s', w)
  | (.panic, s', w) => (.panic, s', w)

/-! ## The entry points

Each is a check of its request, which yields the internal one, and a load. -/

/-- A check of an entry point. -/
abbrev Checked (ε α : Type) := Outcome (LoadError ε) α

def loadChecked (authority : LoadAuthority) (checked : Checked ε InternalLoadRequest)
    (fault : LoadFault) : Load τ ε LoadedProcess := do
  let request ← Prog.lift checked
  loadProcessInternal tr authority request fault

def processRequest (request : LoadRequest) : InternalLoadRequest :=
  { image := request.image, profile := request.profile, transactionId := request.transactionId,
    startup := .legacy request.displayPath }

def loadProcessWithFault (authority : LoadAuthority) (request : LoadRequest)
    (fault : LoadFault) : Load τ ε LoadedProcess :=
  reporting (fun error _ => error)
    (loadChecked tr authority (.ok (processRequest request)) fault)

def loadProcess (authority : LoadAuthority) (request : LoadRequest) : Load τ ε LoadedProcess :=
  loadProcessWithFault tr authority request .none

def resourceDomainRequest (request : ResourceDomainLoadRequest) : InternalLoadRequest :=
  { image := request.image, profile := .supervisorResourceDomain,
    transactionId := request.transactionId, startup := .legacy request.displayPath,
    resourceDomain := some request.resourceDomain }

def loadResourceDomainProcess (authority : LoadAuthority) (request : ResourceDomainLoadRequest) :
    Load τ ε LoadedProcess :=
  reporting (fun error _ => error)
    (loadChecked tr authority (.ok (resourceDomainRequest request)) .none)

def d6ResourceOwnerRequest (request : D6ResourceOwnerLoadRequest) : InternalLoadRequest :=
  { image := request.image, profile := .d6ResourceOwner,
    transactionId := request.transactionId, startup := .legacy request.displayPath,
    resourceDomain := some request.resourceDomain }

/-- The owner is created inside the domain it is given. -/
def loadD6ResourceOwnerProcess (authority : LoadAuthority)
    (request : D6ResourceOwnerLoadRequest) : Load τ ε LoadedProcess :=
  reporting (fun error _ => error)
    (loadChecked tr { authority with taskGroup := request.resourceDomain }
      (.ok (d6ResourceOwnerRequest request)) .none)

def jobProfile (request : JobLoadRequest) : Checked ε LaunchProfile :=
  match request.streams.length with
  | 0 => .ok .jobV2
  | 3 => .ok .jobV2Streams
  | _ => .err (.launch .handleCount)

def jobRequest (request : JobLoadRequest) : Checked ε InternalLoadRequest := do
  let profile ← jobProfile request
  pure { image := request.image, profile, transactionId := request.transactionId,
         startup := .jobV2 request.policyPath request.argv request.environment,
         channels := request.streams }

def loadJobProcess (authority : LoadAuthority) (request : JobLoadRequest) :
    Io τ (JobLoadError ε) LoadedProcess :=
  reporting JobLoadError.mk (loadChecked tr authority (jobRequest request) .none)

def usesCorrelation (profile : LaunchProfile) : Bool :=
  profile = .bootstrapService || profile = .registryClient

/-- The correlation is there exactly for the profiles that use it. -/
def serviceStartup (request : ServiceLoadRequest) : Outcome StartupBlockError StartupSpec :=
  if usesCorrelation request.profile then do
    let correlation ← okOr request.correlation .invalidEnvironment
    let environment ← correlation.entries
    pure (.jobV2 request.displayPath [request.displayPath] environment)
  else if request.correlation.isNone then .ok (.legacy request.displayPath)
  else .err .tooManyArguments

def serviceRequest (request : ServiceLoadRequest) : Checked ε InternalLoadRequest := do
  rejectIf request.profile.channelRole.isNone (.launch .handleCount)
  let startup ← (serviceStartup request).mapErr .startup
  pure { image := request.image, profile := request.profile,
         transactionId := request.transactionId, startup, channels := [request.serviceChannel] }

def loadServiceProcess (authority : LoadAuthority) (request : ServiceLoadRequest) :
    Io τ (ServiceLoadError ε) LoadedProcess :=
  reporting ServiceLoadError.mk (loadChecked tr authority (serviceRequest request) .none)

def maxLaunchClientArguments : Nat := 2

def launchClientRequest (request : LaunchClientLoadRequest) : Checked ε InternalLoadRequest := do
  rejectIf (request.launchSession = 0) (.launch .handleCount)
  rejectIf (maxLaunchClientArguments < request.arguments.length) (.startup .tooManyArguments)
  let environment ← request.correlation.entries.mapErr .startup
  pure { image := request.image, profile := .launchClient,
         transactionId := request.transactionId,
         startup := .jobV2 request.displayPath (request.displayPath :: request.arguments)
           environment,
         channels := [request.launchSession] }

def loadLaunchClientProcess (authority : LoadAuthority) (request : LaunchClientLoadRequest) :
    Io τ (LaunchClientLoadError ε) LoadedProcess :=
  reporting LaunchClientLoadError.mk
    (loadChecked tr authority (launchClientRequest request) .none)

def consoledRequest (request : ConsoledLoadRequest) : Checked ε InternalLoadRequest := do
  rejectIf (request.displayPath ≠ "system/consoled" || request.registryEndpoint = 0
    || request.launchEndpoint = 0 || request.registryEndpoint = request.launchEndpoint
    || [request.registryGeneration, request.registryEndpointId,
        request.registryEndpointGeneration, request.launchConnectionId,
        request.launchConnectionGeneration].contains 0) (.launch .handleCount)
  pure { image := request.image, profile := .consoled, transactionId := request.transactionId,
         startup := .legacy request.displayPath,
         channels := [request.registryEndpoint, request.launchEndpoint],
         consoledCorrelation := some (request.registryGeneration, request.registryEndpointId,
           request.registryEndpointGeneration, request.launchConnectionId,
           request.launchConnectionGeneration) }

def loadConsoledProcess (authority : LoadAuthority) (request : ConsoledLoadRequest) :
    Io τ (ConsoledLoadError ε) LoadedProcess :=
  reporting (fun error consumed => ⟨error, consumed, consumed⟩)
    (loadChecked tr authority (consoledRequest request) .none)

def WyrmshLoadRequest.channels (request : WyrmshLoadRequest) : List Nat :=
  [request.stdin, request.stdout, request.stderr, request.consoleStatus, request.registryClient,
    request.launchSession]

def wyrmshRequest (request : WyrmshLoadRequest) : Checked ε InternalLoadRequest := do
  rejectIf (request.channels.contains 0 || !decide request.channels.Nodup) (.launch .handleCount)
  rejectIf ((request.correlation.words ++ [request.transactionId]).contains 0)
    (.launch .zeroTransaction)
  pure { image := request.image, profile := .wyrmsh, transactionId := request.transactionId,
         startup := .jobV2 "system/wyrmsh" ["system/wyrmsh"] [],
         channels := request.channels, wyrmshCorrelation := some request.correlation }

def loadWyrmshProcess (authority : LoadAuthority) (request : WyrmshLoadRequest) :
    Io τ (WyrmshLoadError ε) LoadedProcess :=
  reporting (fun error c => ⟨error, c, c, c, c, c, c⟩)
    (loadChecked tr authority (wyrmshRequest request) .none)

def deviceCoordinatorRequest (request : DeviceCoordinatorLoadRequest) : Checked ε InternalLoadRequest := do
  rejectIf (request.publicationEndpoint = request.manifest
    || request.supervisorGeneration = 0) (.launch .handleCount)
  pure { image := request.image, profile := .deviceCoordinator,
         transactionId := request.transactionId, startup := .legacy request.displayPath,
         channels := [request.publicationEndpoint], deviceManifest := some request.manifest,
         supervisorGeneration := some request.supervisorGeneration }

def loadDeviceCoordinatorProcess (authority : LoadAuthority)
    (request : DeviceCoordinatorLoadRequest) :
    Io τ (DeviceCoordinatorLoadError ε) LoadedProcess :=
  reporting (fun error consumed => ⟨error, consumed, consumed⟩)
    (loadChecked tr authority (deviceCoordinatorRequest request) .none)

def deviceCoordinatorResourceRequest (request : DeviceCoordinatorResourceLoadRequest) :
    Checked ε InternalLoadRequest := do
  rejectIf (request.publicationEndpoint = request.manifest
    || request.publicationEndpoint = request.resourceDomain
    || request.manifest = request.resourceDomain
    || request.supervisorGeneration = 0) (.launch .handleCount)
  pure { image := request.image, profile := .deviceCoordinatorResourceDomain,
         transactionId := request.transactionId, startup := .legacy request.displayPath,
         channels := [request.publicationEndpoint], deviceManifest := some request.manifest,
         supervisorGeneration := some request.supervisorGeneration,
         resourceDomain := some request.resourceDomain }

def loadDeviceCoordinatorResourceProcess (authority : LoadAuthority)
    (request : DeviceCoordinatorResourceLoadRequest) :
    Io τ (DeviceCoordinatorLoadError ε) LoadedProcess :=
  reporting (fun error consumed => ⟨error, consumed, consumed⟩)
    (loadChecked tr authority (deviceCoordinatorResourceRequest request) .none)

def deviceDriverRequest (request : DeviceDriverLoadRequest) : Checked ε InternalLoadRequest := do
  rejectIf (request.displayPath ≠ "/system/uart16550d"
    || request.supervisorGeneration = 0 || request.roleId = 0 || request.attemptGeneration = 0
    || request.launchSession = 0 || request.endpointId = 0 || request.endpointGeneration = 0)
    (.launch .handleCount)
  pure { image := request.image, profile := .deviceDriver, transactionId := request.transactionId,
         startup := .legacy request.displayPath, channels := [request.controlEndpoint],
         driverCorrelation := some (request.supervisorGeneration, request.roleId,
           request.attemptGeneration, request.launchSession, request.endpointId,
           request.endpointGeneration) }

def loadDeviceDriverProcess (authority : LoadAuthority) (request : DeviceDriverLoadRequest) :
    Io τ (DeviceDriverLoadError ε) LoadedProcess :=
  reporting DeviceDriverLoadError.mk
    (loadChecked tr authority (deviceDriverRequest request) .none)

/-! ## All entry points at once -/

inductive EntryPoint where
  | process (request : LoadRequest)
  | processWithFault (request : LoadRequest) (fault : LoadFault)
  | resourceDomain (request : ResourceDomainLoadRequest)
  | d6ResourceOwner (request : D6ResourceOwnerLoadRequest)
  | job (request : JobLoadRequest)
  | service (request : ServiceLoadRequest)
  | launchClient (request : LaunchClientLoadRequest)
  | consoled (request : ConsoledLoadRequest)
  | wyrmsh (request : WyrmshLoadRequest)
  | deviceCoordinator (request : DeviceCoordinatorLoadRequest)
  | deviceCoordinatorResource (request : DeviceCoordinatorResourceLoadRequest)
  | deviceDriver (request : DeviceDriverLoadRequest)

/-- An error with the report of the entry point: each handle the caller
supplied to be moved, and whether it is reported consumed. -/
structure LoadFailure (ε : Type) where
  error : LoadError ε
  custody : List (Nat × Bool)

def relabel (f : ε → ε') (m : Io τ ε α) : Io τ ε' α := fun s =>
  match m s with
  | (.ok a, s', w) => (.ok a, s', w)
  | (.err e, s', w) => (.err (f e), s', w)
  | (.panic, s', w) => (.panic, s', w)

namespace EntryPoint

def load (authority : LoadAuthority) : EntryPoint → Io τ (LoadFailure ε) LoadedProcess
  | .process r => relabel (⟨·, []⟩) (loadProcess tr authority r)
  | .processWithFault r fault => relabel (⟨·, []⟩) (loadProcessWithFault tr authority r fault)
  | .resourceDomain r => relabel (⟨·, []⟩) (loadResourceDomainProcess tr authority r)
  | .d6ResourceOwner r => relabel (⟨·, []⟩) (loadD6ResourceOwnerProcess tr authority r)
  | .job r => relabel (fun e => ⟨e.error, r.streams.map (·, e.streamsConsumed)⟩)
      (loadJobProcess tr authority r)
  | .service r => relabel (fun e => ⟨e.error, [(r.serviceChannel, e.serviceChannelConsumed)]⟩)
      (loadServiceProcess tr authority r)
  | .launchClient r =>
      relabel (fun e => ⟨e.error, [(r.launchSession, e.launchSessionConsumed)]⟩)
        (loadLaunchClientProcess tr authority r)
  | .consoled r =>
      relabel (fun e => ⟨e.error, [(r.registryEndpoint, e.registryEndpointConsumed),
        (r.launchEndpoint, e.launchEndpointConsumed)]⟩) (loadConsoledProcess tr authority r)
  | .wyrmsh r =>
      relabel (fun e => ⟨e.error, [(r.stdin, e.stdinConsumed), (r.stdout, e.stdoutConsumed),
        (r.stderr, e.stderrConsumed), (r.consoleStatus, e.consoleStatusConsumed),
        (r.registryClient, e.registryClientConsumed),
        (r.launchSession, e.launchSessionConsumed)]⟩) (loadWyrmshProcess tr authority r)
  | .deviceCoordinator r =>
      relabel (fun e => ⟨e.error, [(r.publicationEndpoint, e.publicationEndpointConsumed),
        (r.manifest, e.manifestConsumed)]⟩) (loadDeviceCoordinatorProcess tr authority r)
  | .deviceCoordinatorResource r =>
      relabel (fun e => ⟨e.error, [(r.publicationEndpoint, e.publicationEndpointConsumed),
        (r.manifest, e.manifestConsumed)]⟩) (loadDeviceCoordinatorResourceProcess tr authority r)
  | .deviceDriver r =>
      relabel (fun e => ⟨e.error, [(r.controlEndpoint, e.controlEndpointConsumed)]⟩)
        (loadDeviceDriverProcess tr authority r)

/-- What the entry point asks of the loader once its own checks pass. -/
def checked : EntryPoint → Checked ε InternalLoadRequest
  | .process r => .ok (processRequest r)
  | .processWithFault r _ => .ok (processRequest r)
  | .resourceDomain r => .ok (resourceDomainRequest r)
  | .d6ResourceOwner r => .ok (d6ResourceOwnerRequest r)
  | .job r => jobRequest r
  | .service r => serviceRequest r
  | .launchClient r => launchClientRequest r
  | .consoled r => consoledRequest r
  | .wyrmsh r => wyrmshRequest r
  | .deviceCoordinator r => deviceCoordinatorRequest r
  | .deviceCoordinatorResource r => deviceCoordinatorResourceRequest r
  | .deviceDriver r => deviceDriverRequest r

def fault : EntryPoint → LoadFault
  | .processWithFault _ fault => fault
  | _ => .none

/-- The authority the load runs with. -/
def authority (given : LoadAuthority) : EntryPoint → LoadAuthority
  | .d6ResourceOwner r => { given with taskGroup := r.resourceDomain }
  | _ => given

/-- The channels, streams and manifest the caller supplies to be moved. -/
def supplied : EntryPoint → List Nat
  | .job r => r.streams
  | .service r => [r.serviceChannel]
  | .launchClient r => [r.launchSession]
  | .consoled r => [r.registryEndpoint, r.launchEndpoint]
  | .wyrmsh r => r.channels
  | .deviceCoordinator r => [r.publicationEndpoint, r.manifest]
  | .deviceCoordinatorResource r => [r.publicationEndpoint, r.manifest]
  | .deviceDriver r => [r.controlEndpoint]
  | _ => []

/-- The resource domain the caller lends. -/
def domain : EntryPoint → Option Nat
  | .resourceDomain r => some r.resourceDomain
  | .d6ResourceOwner r => some r.resourceDomain
  | .deviceCoordinatorResource r => some r.resourceDomain
  | _ => none

/-- Every handle the caller holds while the load runs. -/
def callerHandles (e : EntryPoint) (authority : LoadAuthority) : List Nat :=
  [authority.parentRoot, authority.taskGroup, authority.bootfs] ++ (e.supplied ++ e.domain.toList)

theorem relabel_reporting {ε₁ ε₂ : Type} (f : ε₁ → ε₂) (report : LoadError ε → Bool → ε₁)
    (body : Load τ ε α) :
    relabel f (reporting report body) = reporting (fun e c => f (report e c)) body := by
  funext s
  unfold relabel reporting
  rcases body { s with consumed := false } with ⟨_ | _ | _, s', w⟩ <;> rfl

theorem load_eq (e : EntryPoint) (given : LoadAuthority) :
    e.load tr given = reporting (fun error c => ⟨error, e.supplied.map (·, c)⟩)
      (loadChecked tr (e.authority given) e.checked e.fault) := by
  cases e
  case process r =>
    exact relabel_reporting (LoadFailure.mk · []) (fun error _ => error)
      (loadChecked tr given (.ok (processRequest r)) .none)
  all_goals exact relabel_reporting _ _ _

end EntryPoint

end Wyrmroot.Loader
