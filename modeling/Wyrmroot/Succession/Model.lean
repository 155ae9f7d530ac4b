import Wyrmroot.Consoled.Requests
import Wyrmroot.Loader.Process
import Wyrmroot.Restart.Model

/-!
# Consoles one after another

`system-init/src/wyr1b_native.rs`, `wyr1e_native.rs` and `wyr1b.rs`: what init
keeps between the consoles it launches, in a build without
`wyr1e8-selector33`. `ShellControllerState` belongs to init and outlives a
console; its three marks are the generations of the last shell it reserved.
Handles are numbers, and what the platform, the loader and the job dispatcher
answer is an argument of the operation that asks (`LaunchAnswers`,
`AcceptAnswers`).

`World` puts init next to the console it has installed, with the session
channel between them, and `exec` is the machine of the two: whatever init does,
and whatever the console does with its model and its transactions.
-/

namespace Wyrmroot.Succession

open Outcome
open Consoled (ExitCode LaunchFacts ShellV1Request)
open Loader (LoadedProcess checkedAdd)
open Restart (wyr0ISupervisionPolicy)

/-! ## Errors -/

inductive JobError where
  | zeroIdentity
  | arithmeticOverflow
  | capacity
  | duplicateConnection
  | unknownConnection
  | closedConnection
  | staleGeneration
  | transactionReplay
  | foreignJob
  | unknownJob
  | wrongState
  | resourceIdentity
  | policy (code : Nat)
  | policyMissing
  | policyExecutable
  | bootfs (code : Nat)
  | bootGenerationMismatch
  | artifactNotExecutable
  | artifactIdentityMismatch
  | streamPolicy
deriving DecidableEq

/-- The cases of `InitError` that these operations return; the numbers stand
for the errors of the platform, the archive, the registry protocol and the
loader. -/
inductive InitError where
  | wrongActivationOrder
  | missingRetainedMaterial
  | nonExecutableRole
  | supervision
  | cleanup
  | accounting
  | absentState (site : Nat)
  | native (code : Nat)
  | bootfs (code : Nat)
  | registryProtocol (code : Nat)
  | loader (code : Nat)
  | wyr1bModel (e : JobError)
deriving DecidableEq

/-! ## The registry topology -/

inductive EndpointKind where
  | publication
  | registryClient
  | launchSession
deriving DecidableEq

structure EndpointGrant where
  registryGeneration : Nat
  endpointId : Nat
  endpointGeneration : Nat
  roleGeneration : Nat
  kind : EndpointKind
deriving DecidableEq

structure RegistryTopology where
  registryGeneration : Nat
  nextEndpointId : Nat
deriving DecidableEq

variable {ω : Type}

namespace RegistryTopology

def new (registryGeneration : Nat) : Outcome JobError RegistryTopology := do
  rejectIf (registryGeneration = 0) .zeroIdentity
  pure ⟨registryGeneration, 1⟩

def issue (roleGeneration : Nat) (kind : EndpointKind) :
    Prog RegistryTopology ω JobError EndpointGrant := do
  .lift (rejectIf (roleGeneration = 0) .zeroIdentity)
  let self ← .get
  let next ← .okOr (checkedAdd self.nextEndpointId 1) .arithmeticOverflow
  .modify ({ · with nextEndpointId := next })
  pure ⟨self.registryGeneration, self.nextEndpointId, 1, roleGeneration, kind⟩

def restart (nextGeneration : Nat) : Prog RegistryTopology ω JobError Unit := do
  let self ← .get
  .lift (rejectIf (nextGeneration ≤ self.registryGeneration) .staleGeneration)
  .modify ({ · with registryGeneration := nextGeneration })

end RegistryTopology

/-! ## The shell controller -/

inductive ShellRegistryHealth where
  | healthy (generation : Nat)
  | poisoned (generation : Nat)
  | exhausted
deriving DecidableEq

structure ShellControllerState where
  health : ShellRegistryHealth
  nextInstallTransaction : Nat
  replacementAttempts : Nat
  lastConsoleGeneration : Nat
  lastStatusGeneration : Nat
  lastChildGeneration : Nat
  recoveryDeadline : Option Nat
deriving DecidableEq

def wyrmshFirstInstallTransaction : Nat := 0xE3000001

namespace ShellControllerState

def new (registryGeneration : Nat) : Outcome InitError ShellControllerState := do
  rejectIf (registryGeneration = 0) .accounting
  pure {
    health := .healthy registryGeneration, nextInstallTransaction := wyrmshFirstInstallTransaction
    replacementAttempts := 0, lastConsoleGeneration := 0, lastStatusGeneration := 0
    lastChildGeneration := 0, recoveryDeadline := none }

def recoveryDeadlineExpired (self : ShellControllerState) (now : Nat) : Bool :=
  self.recoveryDeadline.any (· ≤ now)

def capRecoveryDeadline (self : ShellControllerState) (deadline : Nat) : Nat :=
  self.recoveryDeadline.elim deadline (min deadline)

def requireRecoveryLiveAt (self : ShellControllerState) (now : Nat) : Outcome InitError Unit :=
  rejectIf (self.recoveryDeadlineExpired now) .supervision

/-- `reserve_shell_generation` refuses this request. -/
def stale (self : ShellControllerState) (request : ShellV1Request) : Bool :=
  self.lastConsoleGeneration ≠ 0
    && (request.consoleGeneration < self.lastConsoleGeneration
      || request.statusGeneration ≤ self.lastStatusGeneration
      || request.requestedChildGeneration ≤ self.lastChildGeneration)

def reserveShellGeneration (request : ShellV1Request) :
    Prog ShellControllerState ω InitError Unit := do
  let self ← .get
  .lift (rejectIf (self.stale request) (.wyr1bModel .staleGeneration))
  .modify ({ · with
    lastConsoleGeneration := request.consoleGeneration
    lastStatusGeneration := request.statusGeneration
    lastChildGeneration := request.requestedChildGeneration })

def reserveInstallTransaction (generation : Nat) : Prog ShellControllerState ω InitError Nat := do
  let self ← .get
  .lift (rejectIf (self.health ≠ .healthy generation) .cleanup)
  let next ← .okOr (checkedAdd self.nextInstallTransaction 1) .accounting
  .modify ({ · with nextInstallTransaction := next })
  pure self.nextInstallTransaction

def poison (generation : Nat) : Prog ShellControllerState ω InitError Unit :=
  .modify fun self =>
    if self.health = .healthy generation then { self with health := .poisoned generation } else self

/-- The generation of a poisoned registry. -/
def poisonedGeneration (self : ShellControllerState) : Option Nat :=
  match self.health with
  | .poisoned previous => some previous
  | _ => none

def reserveReplacementGeneration (generation : Nat) : Prog ShellControllerState ω InitError Unit := do
  let self ← .get
  let previous ← .okOr self.poisonedGeneration .wrongActivationOrder
  .lift (rejectIf (generation ≤ previous) .accounting)
  .lift (rejectIf (2 ^ 16 ≤ self.replacementAttempts + 1) .accounting)
  .modify ({ · with replacementAttempts := self.replacementAttempts + 1 })
  if wyr0ISupervisionPolicy.maxAttempts < self.replacementAttempts + 1 then do
    .modify ({ · with health := .exhausted })
    .throw .cleanup
  else pure ()

def commitReplacementGeneration (generation : Nat) : Prog ShellControllerState ω InitError Unit := do
  let self ← .get
  let previous ← .okOr self.poisonedGeneration .wrongActivationOrder
  .lift (rejectIf (generation ≤ previous) .accounting)
  .modify ({ · with
    health := .healthy generation, nextInstallTransaction := wyrmshFirstInstallTransaction })

end ShellControllerState

/-! ## The launches of a console -/

structure InstalledPeer where
  grant : EndpointGrant
  loaded : LoadedProcess
  taskGroup : Nat
deriving DecidableEq

structure State where
  console : Option InstalledPeer
  shell : ShellControllerState
  awaitingReady : Bool
  bootstrapReleased : Bool
  readyDeadline : Nat
  consoleTransaction : Nat
  nextConsoleTransaction : Nat
  consoleLaunchAttempts : Nat
deriving DecidableEq

def firstConsoleTransaction : Nat := 0xE6000001

def State.new (registryGeneration : Nat) : Outcome InitError State := do
  let shell ← ShellControllerState.new registryGeneration
  pure {
    console := none, shell, awaitingReady := false, bootstrapReleased := false, readyDeadline := 0
    consoleTransaction := 0, nextConsoleTransaction := firstConsoleTransaction
    consoleLaunchAttempts := 0 }

/-- Init's state and, next to it, the topology it issues endpoints from. -/
structure Controller where
  e6 : State
  topology : RegistryTopology
deriving DecidableEq

abbrev Init (ω α : Type) := Prog Controller ω InitError α

def onShell {α : Type} (m : Prog ShellControllerState ω InitError α) : Init ω α :=
  .within (·.e6.shell) (fun shell c => { c with e6 := { c.e6 with shell } }) id m

def issue (roleGeneration : Nat) (kind : EndpointKind) : Init ω EndpointGrant :=
  .within Controller.topology (fun topology c => { c with topology }) .wyr1bModel
    (RegistryTopology.issue roleGeneration kind)

def takeConsoleTransaction : Init ω Nat := do
  let c ← .get
  .lift (rejectIf (wyr0ISupervisionPolicy.maxAttempts ≤ c.e6.consoleLaunchAttempts) .cleanup)
  let next ← .okOr (checkedAdd c.e6.nextConsoleTransaction 1) .accounting
  .modify fun c => { c with e6 := { c.e6 with nextConsoleTransaction := next } }
  .lift (rejectIf (2 ^ 8 ≤ c.e6.consoleLaunchAttempts + 1) .accounting)
  .modify fun c => { c with e6 := { c.e6 with consoleLaunchAttempts := c.e6.consoleLaunchAttempts + 1 } }
  pure c.e6.nextConsoleTransaction

/-- The image that the archive holds for the console. -/
structure ConsoleImage where
  executable : Bool
  empty : Bool
deriving DecidableEq

/-- What a launch is answered: by the archive, the platform, the dispatcher and
the loader in turn, and whether everything that a failing launch closes is
closed. -/
structure LaunchAnswers where
  image : Outcome InitError ConsoleImage
  group : Outcome Nat Nat
  registryPair : Outcome Nat (Nat × Nat)
  installClient : Outcome InitError Unit
  launchPair : Outcome Nat (Nat × Nat)
  installScopedSession : Outcome JobError Unit
  load : Outcome Nat LoadedProcess
  now : Outcome Nat Nat
  attachSessionOwner : Outcome JobError Unit
  closed : Bool

/-- The error of a launch that has cleaned up. -/
def LaunchAnswers.failing (a : LaunchAnswers) (e : InitError) : InitError :=
  if a.closed then e else .cleanup

/-- A step behind the task group. -/
def undone {α : Type} (a : LaunchAnswers) (step : Init ω α) : Init ω α := do
  match ← .attempt step with
  | .ok value => pure value
  | .error e => .throw (a.failing e)

/-- A step behind the installation of the registry client: the registry is
poisoned where it fails. -/
def poisoning {α : Type} (a : LaunchAnswers) (step : Init ω α) : Init ω α := do
  match ← .attempt step with
  | .ok value => pure value
  | .error e => do
      let c ← .get
      onShell (ShellControllerState.poison c.topology.registryGeneration)
      .throw (a.failing e)

def readyDeadline (a : LaunchAnswers) : Init ω Nat := do
  let now ← .lift (a.now.mapErr .native)
  let c ← .get
  .lift (c.e6.shell.requireRecoveryLiveAt now)
  let deadline ← .okOr (checkedAdd now wyr0ISupervisionPolicy.readyTimeoutNs) .accounting
  pure (c.e6.shell.capRecoveryDeadline deadline)

/-- What a launched console starts with. -/
structure Launched where
  transaction : Nat
  grant : EndpointGrant
deriving DecidableEq

def launchConsole (a : LaunchAnswers) : Init ω Launched := do
  let c ← .get
  .lift (rejectIf c.e6.console.isSome .wrongActivationOrder)
  let image ← .lift a.image
  .lift (rejectIf (!image.executable || image.empty) .nonExecutableRole)
  let transaction ← takeConsoleTransaction
  let _registryGrant ← issue transaction .registryClient
  let launchGrant ← issue transaction .launchSession
  let group ← .lift (a.group.mapErr .native)
  let _registryPair ← undone a (.lift (a.registryPair.mapErr .native))
  undone a (.lift a.installClient)
  let _launchPair ← poisoning a (.lift (a.launchPair.mapErr .native))
  poisoning a (.lift (a.installScopedSession.mapErr .wyr1bModel))
  let loaded ← poisoning a (.lift (a.load.mapErr .loader))
  let deadline ← poisoning a (readyDeadline a)
  poisoning a (.lift (a.attachSessionOwner.mapErr .wyr1bModel))
  .modify fun c => { c with e6 := { c.e6 with
    readyDeadline := deadline, console := some ⟨launchGrant, loaded, group⟩
    consoleTransaction := transaction, awaitingReady := true, bootstrapReleased := false } }
  pure ⟨transaction, launchGrant⟩

/-- `reconcile_job_dispatcher_outcome`, for the session of a console. -/
def sessionClosed (grant : EndpointGrant) : Init ω Unit := do
  let c ← .get
  let peer ← .okOr c.e6.console (.absentState 0x80)
  .lift (rejectIf (peer.grant ≠ grant) .accounting)
  .modify fun c => { c with e6 := { c.e6 with
    console := none, awaitingReady := false, bootstrapReleased := false, consoleTransaction := 0 } }

def commitRegistryReplacement (generation : Nat) : Init ω Unit := do
  onShell (ShellControllerState.commitReplacementGeneration generation)
  .modify fun c => { c with e6 := { c.e6 with consoleLaunchAttempts := 0 } }

/-! ## A request for a shell -/

/-- What `reserve_shell_generation` was asked, for the console that was
launched with the transaction `console`, and whether it accepted. -/
structure Reservation where
  console : Nat
  request : ShellV1Request
  accepted : Bool
deriving DecidableEq

/-- What the checks before the reservation answer, and whether everything that
a failing acceptance closes is closed. -/
structure AcceptAnswers where
  hasShellSession : Bool
  authorizeWyrmsh : Outcome JobError Unit
  beginReservedLaunch : Outcome JobError Unit
  closed : Bool

def AcceptAnswers.failing (a : AcceptAnswers) (e : InitError) : InitError :=
  if a.closed then e else .cleanup

/-- `accept_reserved_shell` up to its reservation. -/
def acceptReservedShell (a : AcceptAnswers) (console : Nat) (request : ShellV1Request) :
    Init Reservation Unit := do
  .lift (rejectIf a.hasShellSession (a.failing (.wyr1bModel .capacity)))
  .lift (a.authorizeWyrmsh.mapErr fun e => a.failing (.wyr1bModel e))
  .lift (a.beginReservedLaunch.mapErr fun e => a.failing (.wyr1bModel e))
  let reserved ← .attempt (onShell (ShellControllerState.reserveShellGeneration request))
  .emit ⟨console, request, reserved.isOk⟩
  .lift ((ofExcept reserved).mapErr a.failing)

/-! ## The two together -/

/-- Init, and the console that runs. -/
structure World where
  controller : Controller
  consoled : Option Consoled.Process

inductive Fault where
  | init (e : InitError)
  | console (code : ExitCode)
deriving DecidableEq

inductive Op where
  | launchConsole (answers : LaunchAnswers)
  | sessionClosed (grant : EndpointGrant)
  | poison (generation : Nat)
  | reserveReplacementGeneration (generation : Nat)
  | commitRegistryReplacement (generation : Nat)
  | restartTopology (generation : Nat)
  | issue (roleGeneration : Nat) (kind : EndpointKind)
  | reserveInstallTransaction (generation : Nat)
  | acceptReservedShell (answers : AcceptAnswers)
  | model (op : Consoled.Op)
  | takeTransaction
  | launchChildOnce (facts : LaunchFacts)

abbrev Machine (α : Type) := Prog World Reservation Fault α

def onInit {α : Type} (m : Init Reservation α) : Machine α :=
  .within World.controller (fun controller w => { w with controller }) .init m

/-- A step of the console, where one runs. -/
def onConsole (m : Consoled.Running Unit) : Machine Unit := fun w =>
  match w.consoled with
  | none => (.ok (), w, [])
  | some p => ((m p).1.mapErr .console, { w with consoled := some (m p).2.1 }, [])

/-- The process of a launched console: it has its own counters from the start. -/
def Launched.process (launched : Launched) : Option Consoled.Process :=
  match Consoled.Process.start ⟨.ofNat launched.grant.endpointId,
    .ofNat launched.grant.endpointGeneration, launched.transaction⟩ with
  | .ok p => some p
  | _ => none

/-- The oldest request of the console goes to init. -/
def serve (a : AcceptAnswers) : Machine Unit := fun w =>
  match w.consoled with
  | none => (.ok (), w, [])
  | some p =>
      match p.sent with
      | [] => (.ok (), w, [])
      | (_, request) :: rest =>
          onInit (Succession.acceptReservedShell a p.authorities.startupTransaction request)
            { w with consoled := some { p with sent := rest } }

def exec : Op → Machine Unit
  | .launchConsole answers => do
      let launched ← onInit (launchConsole answers)
      .modify ({ · with consoled := launched.process })
  | .sessionClosed grant => do
      onInit (sessionClosed grant)
      .modify ({ · with consoled := none })
  | .poison generation => onInit (onShell (ShellControllerState.poison generation))
  | .reserveReplacementGeneration generation =>
      onInit (onShell (ShellControllerState.reserveReplacementGeneration generation))
  | .commitRegistryReplacement generation => onInit (commitRegistryReplacement generation)
  | .restartTopology generation =>
      onInit (.within Controller.topology (fun topology c => { c with topology }) .wyr1bModel
        (RegistryTopology.restart generation))
  | .issue roleGeneration kind => do
      let _ ← onInit (issue roleGeneration kind)
      pure ()
  | .reserveInstallTransaction generation => do
      let _ ← onInit (onShell (ShellControllerState.reserveInstallTransaction generation))
      pure ()
  | .acceptReservedShell answers => serve answers
  | .model op => onConsole do
      let _ ← Consoled.console op 0
      pure ()
  | .takeTransaction => onConsole do
      let _ ← Consoled.takeTransaction
      pure ()
  | .launchChildOnce facts => onConsole (Consoled.launchChildOnce facts)

/-- Init has just built its state; no console has been launched. -/
def Fresh (w : World) : Prop :=
  ∃ registryGeneration, State.new registryGeneration = .ok w.controller.e6
    ∧ RegistryTopology.new registryGeneration = .ok w.controller.topology ∧ w.consoled = none

abbrev SuccessionCall := Call Op World Reservation Fault Unit

/-- The reservations of a run, in their order. -/
def reservations (h : List SuccessionCall) : List Reservation := h.flatMap Call.events

end Wyrmroot.Succession
