import Wyrmroot.Lib.Run
import Wyrmroot.Device.Manifest

/-!
# The device coordinator

`Coordinator` of `wyrmroot-device-proto/src/coordinator.rs`: the lifecycle of
one device role. A manifest names the role, a registry binding and a device
bundle arrive, and drivers are launched for the bundle until one publishes or
the attempts are used up.

The identities are `u64` newtypes and the only arithmetic on them is checked,
so they are `Nat` with the bound at the checked addition.
-/

namespace Wyrmroot.Device

open Outcome
open Loader (checkedAdd)

/-- `u8::checked_add`. -/
def checkedAddU8 (a b : Nat) : Option Nat := if a + b < 2 ^ 8 then some (a + b) else none

theorem checkedAdd_cases (a b : Nat) :
    checkedAdd a b = none ∧ 2 ^ 64 ≤ a + b ∨ checkedAdd a b = some (a + b) := by
  unfold checkedAdd
  split_ifs with h
  · exact .inr rfl
  · exact .inl ⟨rfl, Nat.le_of_not_lt h⟩

def maxAttempts : Nat := 4

def retryBackoffNs : Nat := 25000000

structure DeviceBundle where
  roleId : Nat
  generation : Nat
deriving DecidableEq

structure DriverEndpoint where
  id : Nat
  generation : Nat
deriving DecidableEq

structure DriverAttempt where
  generation : Nat
  launchSession : Nat
  endpoint : DriverEndpoint
deriving DecidableEq

structure RegistryEndpoint where
  id : Nat
  generation : Nat
deriving DecidableEq

structure RegistryBinding where
  generation : Nat
  endpoint : RegistryEndpoint
deriving DecidableEq

inductive CoordinatorState where
  | starting
  | waitingForRegistry
  | waitingForDeviceBundle
  | matched
  | launchingDriver
  | awaitingDriverReady
  | awaitingPublication
  | published
  | cleaningUp
  | backoff (attempt untilNs : Nat)
  | permanentFailure
deriving DecidableEq

inductive CoordinatorError where
  | invalidSupervisorGeneration
  | invalidState
  | manifest (error : ManifestError)
  | staleRegistry
  | invalidRegistryIdentity
  | invalidBundle
  | staleBundle
  | invalidAttempt
  | attemptBudgetExhausted
  | staleDriverEndpoint
  | driverAlreadyReady
  | staleDriverAttempt
  | stalePublicationEndpoint
  | stalePublishedGeneration
  | backoffNotElapsed
  | timeOverflow
deriving DecidableEq

structure Coordinator where
  supervisorGeneration : Nat
  state : CoordinatorState
  role : Option DeviceRole
  bundle : Option DeviceBundle
  attempt : Option DriverAttempt
  attemptsStarted : Nat
  registry : Option RegistryBinding
  publicationEndpoint : Option RegistryEndpoint
  publishedGeneration : Option Nat
  lastPublishedGeneration : Nat
  nextAttempt : Nat
  nextSession : Nat
  nextEndpoint : Nat
  lastBundleGeneration : Nat
deriving DecidableEq

abbrev Coordination (α : Type) := Prog Coordinator Empty CoordinatorError α

def validateRegistry (binding : RegistryBinding) : Outcome CoordinatorError Unit :=
  rejectIf (binding.generation = 0 || binding.endpoint.id = 0 || binding.endpoint.generation = 0)
    .invalidRegistryIdentity

namespace Coordinator

def new (supervisorGeneration : Nat) : Outcome CoordinatorError Coordinator := do
  rejectIf (supervisorGeneration = 0) .invalidSupervisorGeneration
  pure { supervisorGeneration, state := .starting, role := none, bundle := none, attempt := none,
         attemptsStarted := 0, registry := none, publicationEndpoint := none,
         publishedGeneration := none, lastPublishedGeneration := 0, nextAttempt := 1,
         nextSession := 1, nextEndpoint := 1, lastBundleGeneration := 0 }

def setState (state : CoordinatorState) : Coordination Unit := .modify ({ · with state })

def intakeManifest (manifest : Manifest) (content : ContentIdentity) : Coordination Unit := do
  let self ← .get
  .lift (rejectIf (self.state ≠ .starting) .invalidState)
  let role ← .lift ((manifest.matchCom2 content).mapErr .manifest)
  .modify ({ · with role := some role })
  setState .waitingForRegistry

def registryReady (binding : RegistryBinding) : Coordination Unit := do
  .lift (validateRegistry binding)
  let self ← .get
  .lift (rejectIf (self.state ≠ .waitingForRegistry) .invalidState)
  .modify ({ · with registry := some binding })
  setState .waitingForDeviceBundle

/-- What makes a replacement stale beside the binding it replaces. -/
def staleReplacement (old binding : RegistryBinding) : Bool :=
  old = binding || binding.generation ≤ old.generation
    || (binding.endpoint.id = old.endpoint.id
      && binding.endpoint.generation ≤ old.endpoint.generation)

/-- Replace only registry-facing state. -/
def replaceRegistry (binding : RegistryBinding) : Coordination Unit := do
  .lift (validateRegistry binding)
  let self ← .get
  .lift (rejectIf (self.registry.any fun old => staleReplacement old binding) .staleRegistry)
  .modify ({ · with registry := some binding, publicationEndpoint := none,
                    publishedGeneration := none })
  if self.state = .published then setState .awaitingPublication else pure ()

def acceptBundle (bundle : DeviceBundle) : Coordination Unit := do
  let self ← .get
  .lift (rejectIf (self.state ≠ .waitingForDeviceBundle) .invalidState)
  .lift (rejectIf (bundle.generation = 0
    || self.role.map DeviceRole.roleId ≠ some bundle.roleId) .invalidBundle)
  .lift (rejectIf (bundle.generation ≤ self.lastBundleGeneration) .staleBundle)
  .modify ({ · with lastBundleGeneration := bundle.generation, attemptsStarted := 0,
                    bundle := some bundle })
  setState .matched

/-- The counters are bumped one after the other. -/
def beginLaunch : Coordination Unit := do
  let self ← .get
  .lift (rejectIf (self.state ≠ .matched) .invalidState)
  .lift (rejectIf (maxAttempts ≤ self.attemptsStarted) .attemptBudgetExhausted)
  let attempt : DriverAttempt :=
    { generation := self.nextAttempt, launchSession := self.nextSession,
      endpoint := { id := self.nextEndpoint, generation := self.nextAttempt } }
  let nextAttempt ← .lift (okOr (checkedAdd self.nextAttempt 1) .invalidAttempt)
  .modify ({ · with nextAttempt })
  let nextSession ← .lift (okOr (checkedAdd self.nextSession 1) .invalidAttempt)
  .modify ({ · with nextSession })
  let nextEndpoint ← .lift (okOr (checkedAdd self.nextEndpoint 1) .invalidAttempt)
  .modify ({ · with nextEndpoint })
  let attemptsStarted ← .lift (okOr (checkedAddU8 self.attemptsStarted 1) .invalidAttempt)
  .modify ({ · with attemptsStarted })
  .modify ({ · with attempt := some attempt })
  setState .launchingDriver

def launchAccepted (endpoint : DriverEndpoint) : Coordination Unit := do
  let self ← .get
  .lift (rejectIf (self.state ≠ .launchingDriver) .invalidState)
  .lift (rejectIf (self.attempt.map DriverAttempt.endpoint ≠ some endpoint || endpoint.id = 0
    || endpoint.generation = 0) .staleDriverEndpoint)
  setState .awaitingDriverReady

def driverReady (endpoint : DriverEndpoint) : Coordination Unit := do
  let self ← .get
  .lift (rejectIf (self.state = .awaitingPublication) .driverAlreadyReady)
  .lift (rejectIf (self.state ≠ .awaitingDriverReady) .invalidState)
  .lift (rejectIf (self.attempt.map DriverAttempt.endpoint ≠ some endpoint) .staleDriverEndpoint)
  setState .awaitingPublication

def publish (attempt : DriverAttempt) (endpoint : RegistryEndpoint) (serviceGeneration : Nat) :
    Coordination Unit := do
  let self ← .get
  .lift (rejectIf (self.state ≠ .awaitingPublication) .invalidState)
  .lift (rejectIf (self.attempt ≠ some attempt) .staleDriverAttempt)
  .lift (rejectIf (self.registry.map RegistryBinding.endpoint ≠ some endpoint)
    .stalePublicationEndpoint)
  .lift (rejectIf (serviceGeneration = 0 || serviceGeneration ≤ self.lastPublishedGeneration)
    .stalePublishedGeneration)
  .modify ({ · with publicationEndpoint := some endpoint,
                    publishedGeneration := some serviceGeneration,
                    lastPublishedGeneration := serviceGeneration })
  setState .published

def retire : Coordination Unit := do
  let self ← .get
  .lift (rejectIf (self.state ≠ .published && self.state ≠ .awaitingPublication) .invalidState)
  .modify ({ · with publicationEndpoint := none, publishedGeneration := none })
  setState .cleaningUp

/-- Complete an intentional retire: the bundle and the driver are discarded. -/
def completeRetireCleanup : Coordination Unit := do
  let self ← .get
  .lift (rejectIf (self.state ≠ .cleaningUp) .invalidState)
  .modify ({ · with bundle := none, attempt := none })
  setState .waitingForDeviceBundle

def driverFailed (endpoint : DriverEndpoint) : Coordination Unit := do
  let self ← .get
  .lift (rejectIf (self.state ≠ .awaitingDriverReady && self.state ≠ .awaitingPublication
    && self.state ≠ .published) .invalidState)
  .lift (rejectIf (self.attempt.map DriverAttempt.endpoint ≠ some endpoint) .staleDriverEndpoint)
  .modify ({ · with publicationEndpoint := none, publishedGeneration := none })
  setState .cleaningUp

/-- A failed native cleanup is terminal for this coordinator generation. -/
def cleanupFailed : Coordination Unit := do
  let self ← .get
  .lift (rejectIf (self.state ≠ .cleaningUp) .invalidState)
  setState .permanentFailure

/-- The attempt is cleared before the deadline is computed. -/
def completeFailureCleanup (nowNs : Nat) : Coordination Unit := do
  let self ← .get
  .lift (rejectIf (self.state ≠ .cleaningUp) .invalidState)
  .modify ({ · with attempt := none })
  if maxAttempts ≤ self.attemptsStarted then setState .permanentFailure
  else do
    let untilNs ← .lift (okOr (checkedAdd nowNs retryBackoffNs) .timeOverflow)
    setState (.backoff (self.attemptsStarted + 1) untilNs)

def backoffElapsed (nowNs : Nat) : Coordination Unit := do
  let self ← .get
  match self.state with
  | .backoff _ untilNs => do
      .lift (rejectIf (nowNs < untilNs) .backoffNotElapsed)
      .lift (rejectIf self.bundle.isNone .invalidBundle)
      setState .matched
  | _ => .throw .invalidState

end Coordinator

/-! ## The machine -/

inductive CoordinatorOp where
  | intakeManifest (manifest : Manifest) (content : ContentIdentity)
  | registryReady (binding : RegistryBinding)
  | replaceRegistry (binding : RegistryBinding)
  | acceptBundle (bundle : DeviceBundle)
  | beginLaunch
  | launchAccepted (endpoint : DriverEndpoint)
  | driverReady (endpoint : DriverEndpoint)
  | publish (attempt : DriverAttempt) (endpoint : RegistryEndpoint) (serviceGeneration : Nat)
  | retire
  | completeRetireCleanup
  | driverFailed (endpoint : DriverEndpoint)
  | cleanupFailed
  | completeFailureCleanup (nowNs : Nat)
  | backoffElapsed (nowNs : Nat)

open Coordinator in
def exec : CoordinatorOp → Coordination Unit
  | .intakeManifest manifest content => intakeManifest manifest content
  | .registryReady binding => registryReady binding
  | .replaceRegistry binding => replaceRegistry binding
  | .acceptBundle bundle => acceptBundle bundle
  | .beginLaunch => beginLaunch
  | .launchAccepted endpoint => launchAccepted endpoint
  | .driverReady endpoint => driverReady endpoint
  | .publish attempt endpoint serviceGeneration => publish attempt endpoint serviceGeneration
  | .retire => retire
  | .completeRetireCleanup => completeRetireCleanup
  | .driverFailed endpoint => driverFailed endpoint
  | .cleanupFailed => cleanupFailed
  | .completeFailureCleanup nowNs => completeFailureCleanup nowNs
  | .backoffElapsed nowNs => backoffElapsed nowNs

abbrev CoordinatorCall := Call CoordinatorOp Coordinator Empty CoordinatorError Unit

end Wyrmroot.Device
