import Wyrmroot.Lib.Table
import Wyrmroot.Succession.Model

/-!
# Launch transactions

`LaunchTransactions` of `system-init/src/launch_transaction.rs`: the arena in
which a launch waits for READY of its child after the dispatcher has gone on. A
transaction is named by a token, the slot it has and the generation of the slot
when it was opened.

Handles, generations and ids are numbers; the only arithmetic is the checked
step of a generation. What a slot keeps for the evidence features is part of the
slot here; a build without them never attaches any.
-/

namespace Wyrmroot.Launching

open Loader (LaunchProfile checkedAdd)
open Succession (EndpointGrant)
open Wrlj (Reservation)

def launchTransactionSlots : Nat := 5

def u64Max : Nat := 2 ^ 64 - 1

inductive LaunchSessionScope where
  | historical
  | consoleLauncher
  | shellJobs
deriving DecidableEq

inductive LaunchStage where
  | reserved
  | constructed
  | awaitingReady
  | published
  | failing
  | cleanup
  | complete
deriving DecidableEq

def LaunchStage.mayAdvanceTo : LaunchStage → LaunchStage → Bool
  | .reserved, .constructed => true
  | .reserved, .failing => true
  | .constructed, .awaitingReady => true
  | .constructed, .failing => true
  | .awaitingReady, .published => true
  | .awaitingReady, .failing => true
  | .published, .cleanup => true
  | .failing, .cleanup => true
  | .cleanup, .complete => true
  | _, _ => false

structure LaunchResources where
  process : Nat
  launchChannel : Nat
  taskGroup : Nat
deriving DecidableEq

structure LaunchFailure where
  code : Nat
  cleanupFailed : Bool
deriving DecidableEq

def minErrorCode : Nat := 1

def maxErrorCode : Nat := 10

inductive LaunchTransactionError where
  | capacity
  | stale
  | sessionBusy
  | stageTransition
  | resourcesHeld
  | resourceIdentity
  | incomplete
  | errorCode
  | generationExhausted
deriving DecidableEq

structure LaunchToken where
  slot : Nat
  generation : Nat
deriving DecidableEq

structure LaunchRequestFacts where
  reservation : Reservation
  requestDigest : Vector UInt8 32
  shapeDigest : Vector UInt8 32
deriving DecidableEq

inductive E8RecoveryAction where
  | driver
  | registry
deriving DecidableEq

structure LaunchSlot where
  generation : Nat
  opened : Bool
  grant : EndpointGrant
  session : Nat
  scope : LaunchSessionScope
  reservation : Reservation
  stage : LaunchStage
  jobId : Nat
  profile : Option LaunchProfile
  resources : Option LaunchResources
  readyDeadline : Option Nat
  failure : Option LaunchFailure
  requestFacts : Option LaunchRequestFacts
  triggerAction : Option E8RecoveryAction
deriving DecidableEq

structure LaunchTransactions where
  slots : Fin launchTransactionSlots → Option LaunchSlot
  retired : Fin launchTransactionSlots → Bool
  generations : Fin launchTransactionSlots → Nat

/-- A call on the arena. -/
abbrev Arena (α : Type) := Prog LaunchTransactions Empty LaunchTransactionError α

/-- What is done with a slot that a token has reached. -/
abbrev OnSlot (α : Type) := Prog LaunchSlot Empty LaunchTransactionError α

open Outcome (rejectIf)

namespace LaunchTransactions

def new : LaunchTransactions := ⟨fun _ => none, fun _ => false, fun _ => 0⟩

/-- `slots.get(index).and_then(Option::as_ref)`. -/
def getSlot (self : LaunchTransactions) (index : Nat) : Option LaunchSlot :=
  if h : index < launchTransactionSlots then self.slots ⟨index, h⟩ else none

def putSlot (index : Nat) (slot : Option LaunchSlot) (self : LaunchTransactions) :
    LaunchTransactions :=
  { self with slots := fun i => if i.val = index then slot else self.slots i }

/-- The slot of a transaction that has just been opened. -/
def openedSlot (generation : Nat) (grant : EndpointGrant) (session : Nat)
    (scope : LaunchSessionScope) (reservation : Reservation) : LaunchSlot where
  generation
  opened := true
  grant
  session
  scope
  reservation
  stage := .reserved
  jobId := 0
  profile := none
  resources := none
  readyDeadline := none
  failure := none
  requestFacts := none
  triggerAction := none

def place (index : Fin launchTransactionSlots) (slot : LaunchSlot) (self : LaunchTransactions) :
    LaunchTransactions :=
  { self with
    generations := Function.update self.generations index slot.generation
    slots := Function.update self.slots index (some slot) }

/-- `LaunchTransactions::open`. -/
def openLaunch (grant : EndpointGrant) (session : Nat) (scope : LaunchSessionScope)
    (reservation : Reservation) : Arena LaunchToken := do
  .lift (rejectIf (session = 0 || reservation.connectionId = 0 || reservation.generation = 0
    || reservation.transactionId = 0) .resourceIdentity)
  let self ← .get
  .lift (rejectIf ((List.finRange launchTransactionSlots).any fun i =>
    (self.slots i).any fun slot => slot.opened && slot.grant = grant) .sessionBusy)
  let index ← .okOr (position fun i => (self.slots i).isNone && !self.retired i) .capacity
  let generation ← .okOr (checkedAdd (self.generations index) 1) .generationExhausted
  .modify (place index (openedSlot generation grant session scope reservation))
  pure ⟨index, generation⟩

def slot (token : LaunchToken) : Arena LaunchSlot := do
  let self ← .get
  let slot ← .okOr (self.getSlot token.slot) .stale
  .lift (rejectIf (!slot.opened || slot.generation ≠ token.generation) .stale)
  pure slot

/-- `slot_mut`, and what is done with the slot. -/
def slotMut {α : Type} (token : LaunchToken) (body : OnSlot α) : Arena α := do
  let slot ← slot token
  .within (fun _ => slot) (fun slot => putSlot token.slot (some slot)) id body

/-! ## Reading -/

def read {α : Type} (field : LaunchSlot → α) (token : LaunchToken) : Arena α := do
  let slot ← slot token
  pure (field slot)

def stage := read (·.stage)
def scope := read (·.scope)
def responseEnvelope := read fun slot => (slot.session, slot.reservation)
def grant := read (·.grant)
def jobId := read (·.jobId)
def resources := read (·.resources)
def profile := read (·.profile)
def requestFacts := read (·.requestFacts)
def triggerAction := read (·.triggerAction)
def readyDeadline := read (·.readyDeadline)
def failure := read (·.failure)

/-- The first of these slots whose open transaction passes, by its token. -/
def findToken (self : LaunchTransactions) (p : LaunchSlot → Bool)
    (order : List (Fin launchTransactionSlots)) : Option LaunchToken :=
  order.findSome? fun i => match self.slots i with
    | some slot => if slot.opened && p slot then some ⟨i, slot.generation⟩ else none
    | none => none

def sessionTransaction (grant : EndpointGrant) : Arena (Option LaunchToken) := do
  let self ← .get
  pure (self.findToken (·.grant = grant) (List.finRange launchTransactionSlots))

/-- The slots from `start` on, wrapping once. -/
def slotsFrom (start : Nat) : List (Fin launchTransactionSlots) :=
  (List.range launchTransactionSlots).map fun offset =>
    ⟨(start % launchTransactionSlots + offset) % launchTransactionSlots, Nat.mod_lt _ (by decide)⟩

def awaitingReadyFrom (start : Nat) : Arena (Option LaunchToken) := do
  let self ← .get
  pure (self.findToken (·.stage = .awaitingReady) (slotsFrom start))

def jobTransaction (jobId : Nat) : Arena (Option LaunchToken) := do
  let self ← .get
  pure (if jobId = 0 then none
    else self.findToken (·.jobId = jobId) (List.finRange launchTransactionSlots))

def openCount : Arena Nat := do
  let self ← .get
  pure ((List.finRange launchTransactionSlots).countP fun i => (self.slots i).any (·.opened))

/-! ## Writing -/

def advance (token : LaunchToken) (next : LaunchStage) : Arena Unit :=
  slotMut token do
    let slot ← .get
    .lift (rejectIf (!slot.stage.mayAdvanceTo next) .stageTransition)
    .modify ({ · with stage := next })

def attachJob (token : LaunchToken) (jobId : Nat) : Arena Unit := do
  .lift (rejectIf (jobId = 0) .resourceIdentity)
  slotMut token do
    let slot ← .get
    .lift (rejectIf (slot.jobId ≠ 0) .resourceIdentity)
    .modify ({ · with jobId := jobId })

def attachResources (token : LaunchToken) (profile : LaunchProfile) (resources : LaunchResources) :
    Arena Unit := do
  .lift (rejectIf (resources.process = 0 || resources.launchChannel = 0
    || resources.taskGroup = 0) .resourceIdentity)
  slotMut token do
    let slot ← .get
    .lift (rejectIf slot.resources.isSome .resourceIdentity)
    .modify ({ · with profile := some profile, resources := some resources })

def takeResources (token : LaunchToken) : Arena (Option LaunchResources) :=
  slotMut token do
    let slot ← .get
    .modify ({ · with resources := none })
    pure slot.resources

def attachRequestFacts (token : LaunchToken) (facts : LaunchRequestFacts) : Arena Unit := do
  let slot ← slot token
  .lift (rejectIf (facts.reservation ≠ slot.reservation) .resourceIdentity)
  slotMut token do
    let slot ← .get
    .lift (rejectIf slot.requestFacts.isSome .resourceIdentity)
    .modify ({ · with requestFacts := some facts })

def attachTriggerAction (token : LaunchToken) (action : E8RecoveryAction) : Arena Unit :=
  slotMut token do
    let slot ← .get
    .lift (rejectIf slot.triggerAction.isSome .resourceIdentity)
    .modify ({ · with triggerAction := some action })

def armReadyDeadline (token : LaunchToken) (deadline : Nat) : Arena Unit :=
  slotMut token (.modify ({ · with readyDeadline := some deadline }))

/-- What a slot reports when `failure` is recorded: the first code stays. -/
def merged (existing : Option LaunchFailure) (failure : LaunchFailure) : LaunchFailure :=
  match existing with
  | some existing =>
      { existing with cleanupFailed := existing.cleanupFailed || failure.cleanupFailed }
  | none => failure

def fail (token : LaunchToken) (failure : LaunchFailure) : Arena LaunchFailure := do
  .lift (rejectIf (!(minErrorCode ≤ failure.code && failure.code ≤ maxErrorCode)) .errorCode)
  slotMut token do
    let slot ← .get
    .modify ({ · with failure := some (merged slot.failure failure) })
    pure (merged slot.failure failure)

/-- A slot whose generation is used up is not opened again. -/
def retire (index generation : Nat) (self : LaunchTransactions) : LaunchTransactions :=
  { self with
    retired := fun i => if i.val = index && generation = u64Max then true else self.retired i }

def close (token : LaunchToken) : Arena Nat := do
  let slot ← slot token
  .lift (rejectIf (slot.stage ≠ .complete) .incomplete)
  .lift (rejectIf slot.resources.isSome .resourcesHeld)
  .modify (putSlot token.slot none)
  .modify (retire token.slot slot.generation)
  pure slot.jobId

end LaunchTransactions

/-! ## The machine -/

/-- The calls that only read the slot of a token. -/
inductive Query where
  | stage
  | scope
  | responseEnvelope
  | grant
  | jobId
  | resources
  | profile
  | requestFacts
  | triggerAction
  | readyDeadline
  | failure

inductive Op where
  | openLaunch (grant : EndpointGrant) (session : Nat) (scope : LaunchSessionScope)
      (reservation : Reservation)
  | query (query : Query) (token : LaunchToken)
  | sessionTransaction (grant : EndpointGrant)
  | awaitingReadyFrom (start : Nat)
  | jobTransaction (jobId : Nat)
  | openCount
  | advance (token : LaunchToken) (next : LaunchStage)
  | attachJob (token : LaunchToken) (jobId : Nat)
  | attachResources (token : LaunchToken) (profile : LaunchProfile) (resources : LaunchResources)
  | takeResources (token : LaunchToken)
  | attachRequestFacts (token : LaunchToken) (facts : LaunchRequestFacts)
  | attachTriggerAction (token : LaunchToken) (action : E8RecoveryAction)
  | armReadyDeadline (token : LaunchToken) (deadline : Nat)
  | fail (token : LaunchToken) (failure : LaunchFailure)
  | close (token : LaunchToken)

inductive Reply where
  | token (token : LaunchToken)
  | found (token : Option LaunchToken)
  | count (n : Nat)
  | done
  | stage (stage : LaunchStage)
  | scope (scope : LaunchSessionScope)
  | envelope (envelope : Nat × Reservation)
  | grant (grant : EndpointGrant)
  | jobId (jobId : Nat)
  | resources (resources : Option LaunchResources)
  | profile (profile : Option LaunchProfile)
  | requestFacts (facts : Option LaunchRequestFacts)
  | triggerAction (action : Option E8RecoveryAction)
  | readyDeadline (deadline : Option Nat)
  | failure (failure : Option LaunchFailure)

namespace LaunchTransactions

def answer (token : LaunchToken) : Query → Arena Reply
  | .stage => .stage <$> stage token
  | .scope => .scope <$> scope token
  | .responseEnvelope => .envelope <$> responseEnvelope token
  | .grant => .grant <$> grant token
  | .jobId => .jobId <$> jobId token
  | .resources => .resources <$> resources token
  | .profile => .profile <$> profile token
  | .requestFacts => .requestFacts <$> requestFacts token
  | .triggerAction => .triggerAction <$> triggerAction token
  | .readyDeadline => .readyDeadline <$> readyDeadline token
  | .failure => .failure <$> failure token

def exec : Op → Arena Reply
  | .openLaunch grant session scope reservation =>
      .token <$> openLaunch grant session scope reservation
  | .query query token => answer token query
  | .sessionTransaction grant => .found <$> sessionTransaction grant
  | .awaitingReadyFrom start => .found <$> awaitingReadyFrom start
  | .jobTransaction jobId => .found <$> jobTransaction jobId
  | .openCount => .count <$> openCount
  | .advance token next => (fun _ => .done) <$> advance token next
  | .attachJob token jobId => (fun _ => .done) <$> attachJob token jobId
  | .attachResources token profile resources =>
      (fun _ => .done) <$> attachResources token profile resources
  | .takeResources token => .resources <$> takeResources token
  | .attachRequestFacts token facts => (fun _ => .done) <$> attachRequestFacts token facts
  | .attachTriggerAction token action => (fun _ => .done) <$> attachTriggerAction token action
  | .armReadyDeadline token deadline => (fun _ => .done) <$> armReadyDeadline token deadline
  | .fail token reason => (fun reported => .failure (some reported)) <$> fail token reason
  | .close token => .jobId <$> close token

end LaunchTransactions

/-- The token a call names. -/
def Op.token? : Op → Option LaunchToken
  | .query _ token => some token
  | .advance token _ => some token
  | .attachJob token _ => some token
  | .attachResources token _ _ => some token
  | .takeResources token => some token
  | .attachRequestFacts token _ => some token
  | .attachTriggerAction token _ => some token
  | .armReadyDeadline token _ => some token
  | .fail token _ => some token
  | .close token => some token
  | _ => none

end Wyrmroot.Launching
