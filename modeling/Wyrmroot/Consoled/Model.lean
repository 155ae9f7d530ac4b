import Wyrmroot.Console.Proto
import Wyrmroot.Consoled.Queue
import Wyrmroot.Loader.Elf

/-!
# ConsoleModel

The lifecycle core of `consoled/src/lib.rs`: the serial correlation, the child
session, the staging queues with their reservations, and the two restart
windows. Every operation of the source is a program over `ConsoleModel`. Ids
that come from outside are `UInt64`; times and the model's own counters are
numbers, and the operations check where one would overflow.
-/

namespace Wyrmroot.Consoled

open Outcome (rejectIf)
open Loader (checkedAdd)

def restartWindowMillis : Nat := 60000
def stableRunMillis : Nat := 60000
def serialRetryBackoffMillis : Nat := 25
def maxFailuresPerWindow : Nat := 4

inductive ConnectionState where
  | active
  | retiringChild
  | awaitingReap
  | reconnecting
  | exhausted
  | failClosed
deriving DecidableEq

inductive OutputSource where
  | stdout
  | stderr
deriving DecidableEq

def other : OutputSource → OutputSource
  | .stdout => .stderr
  | .stderr => .stdout

inductive StreamKind where
  | stdin
  | stdout
  | stderr
deriving DecidableEq

def StreamKind.index : StreamKind → Fin 3
  | .stdin => 0
  | .stdout => 1
  | .stderr => 2

/-! ## Identities -/

structure SerialCorrelation where
  registryGeneration : UInt64
  registryEndpointId : UInt64
  registryEndpointGeneration : UInt64
  publicationGeneration : UInt64
  connectorClientTransaction : UInt64
  deviceRole : UInt64
  deviceBundle : UInt64
  driverAttempt : UInt64
  driverControlEndpointId : UInt64
  driverControlEndpointGeneration : UInt64
  attachTransaction : UInt64
  streamGeneration : UInt64
deriving DecidableEq

namespace SerialCorrelation

def connected (self : SerialCorrelation) : Bool :=
  self.registryGeneration ≠ 0 && self.registryEndpointId ≠ 0
    && self.registryEndpointGeneration ≠ 0 && self.publicationGeneration ≠ 0
    && self.connectorClientTransaction ≠ 0 && self.deviceRole ≠ 0 && self.deviceBundle ≠ 0
    && self.driverAttempt ≠ 0 && self.driverControlEndpointId ≠ 0
    && self.driverControlEndpointGeneration ≠ 0 && self.attachTransaction ≠ 0
    && self.streamGeneration ≠ 0

def validTransitionFrom (self previous : SerialCorrelation) : Bool :=
  if self.registryGeneration ≠ previous.registryGeneration
      || self.registryEndpointId ≠ previous.registryEndpointId
      || self.registryEndpointGeneration ≠ previous.registryEndpointGeneration
      || self.deviceRole ≠ previous.deviceRole
      || self.connectorClientTransaction ≤ previous.connectorClientTransaction then false
  else if self.publicationGeneration = previous.publicationGeneration then
    self.deviceBundle = previous.deviceBundle && self.driverAttempt = previous.driverAttempt
      && self.driverControlEndpointId = previous.driverControlEndpointId
      && self.driverControlEndpointGeneration = previous.driverControlEndpointGeneration
      && previous.attachTransaction < self.attachTransaction
      && previous.streamGeneration < self.streamGeneration
  else
    previous.publicationGeneration < self.publicationGeneration
      && previous.driverAttempt < self.driverAttempt
      && (self.driverControlEndpointId, self.driverControlEndpointGeneration)
        ≠ (previous.driverControlEndpointId, previous.driverControlEndpointGeneration)
      && previous.attachTransaction < self.attachTransaction
      && previous.streamGeneration < self.streamGeneration
      && previous.deviceBundle ≤ self.deviceBundle

end SerialCorrelation

structure ConnectRequest where
  registryGeneration : UInt64
  registryEndpointId : UInt64
  registryEndpointGeneration : UInt64
  requestedPublicationGeneration : UInt64
  connectorClientTransaction : UInt64
deriving DecidableEq

namespace ConnectRequest

def valid (self : ConnectRequest) : Bool :=
  self.registryGeneration ≠ 0 && self.registryEndpointId ≠ 0
    && self.registryEndpointGeneration ≠ 0 && self.requestedPublicationGeneration ≠ 0
    && self.connectorClientTransaction ≠ 0

/-- `matches`. -/
def agrees (self : ConnectRequest) (connected : SerialCorrelation) : Bool :=
  self.registryGeneration = connected.registryGeneration
    && self.registryEndpointId = connected.registryEndpointId
    && self.registryEndpointGeneration = connected.registryEndpointGeneration
    && self.requestedPublicationGeneration = connected.publicationGeneration
    && self.connectorClientTransaction = connected.connectorClientTransaction

end ConnectRequest

structure SessionIds where
  serial : SerialCorrelation
  consoleGeneration : Nat
  childGeneration : Nat
  childJob : UInt64
  childLaunch : UInt64
deriving DecidableEq

def SessionIds.complete (self : SessionIds) : Bool :=
  self.serial.connected && self.consoleGeneration ≠ 0 && self.childGeneration ≠ 0
    && self.childJob ≠ 0 && self.childLaunch ≠ 0

structure EventGeneration where
  serial : SerialCorrelation
  consoleGeneration : Nat
  childGeneration : Nat
  childJob : UInt64
  childLaunch : UInt64
deriving DecidableEq

/-- `EventGeneration::from`. -/
def SessionIds.event (ids : SessionIds) : EventGeneration :=
  ⟨ids.serial, ids.consoleGeneration, ids.childGeneration, ids.childJob, ids.childLaunch⟩

abbrev Endpoint := Nat

structure PeerState where
  endpoint : Endpoint
  live : Bool
deriving DecidableEq

structure ChildSession where
  ids : SessionIds
  peers : Vector PeerState 3
deriving DecidableEq

namespace ChildSession

def allPeersLive (self : ChildSession) : Bool :=
  self.peers[0].live && self.peers[1].live && self.peers[2].live

def anyPeerLive (self : ChildSession) : Bool :=
  self.peers[0].live || self.peers[1].live || self.peers[2].live

/-- `child.peers[kind.index()].live = false`. -/
def closePeer (self : ChildSession) (kind : StreamKind) : ChildSession :=
  { self with peers := self.peers.set kind.index { self.peers[kind.index] with live := false } }

end ChildSession

/-! ## Launches -/

inductive CleanupDisposition where
  | closeConsoledPeer
  | closeUnmovedChildPeer
  | revokeMovedChildPeerFromLaunch
deriving DecidableEq

structure EndpointCleanup where
  endpoint : Endpoint
  disposition : CleanupDisposition
deriving DecidableEq

structure LaunchCleanup where
  entries : Vector EndpointCleanup 6
deriving DecidableEq

structure LaunchIdentity where
  serial : SerialCorrelation
  consoleGeneration : Nat
  childGeneration : Nat
  childLaunch : UInt64
deriving DecidableEq

structure LaunchTransaction where
  serial : SerialCorrelation
  consoleGeneration : Nat
  childGeneration : Nat
  childJob : UInt64
  childLaunch : UInt64
  consoled : Vector Endpoint 3
  childPeers : Vector Endpoint 3
  moved : Vector Bool 3
  committed : Bool
deriving DecidableEq

def childCleanup (moved : Bool) : CleanupDisposition :=
  if moved then .revokeMovedChildPeerFromLaunch else .closeUnmovedChildPeer

namespace LaunchTransaction

def identity (self : LaunchTransaction) : LaunchIdentity :=
  ⟨self.serial, self.consoleGeneration, self.childGeneration, self.childLaunch⟩

def moveChildPeer (self : LaunchTransaction) (kind : StreamKind) :
    ModelCheck (Endpoint × LaunchTransaction) :=
  if self.committed || self.moved[kind.index] then .err .wrongConnectionState
  else .ok (self.childPeers[kind.index], { self with moved := self.moved.set kind.index true })

def allMoved (self : LaunchTransaction) : Bool := self.moved[0] && self.moved[1] && self.moved[2]

def cleanup (self : LaunchTransaction) : LaunchCleanup :=
  ⟨#v[⟨self.consoled[0], .closeConsoledPeer⟩, ⟨self.consoled[1], .closeConsoledPeer⟩,
    ⟨self.consoled[2], .closeConsoledPeer⟩, ⟨self.childPeers[0], childCleanup self.moved[0]⟩,
    ⟨self.childPeers[1], childCleanup self.moved[1]⟩,
    ⟨self.childPeers[2], childCleanup self.moved[2]⟩]⟩

def abortCleanup (self : LaunchTransaction) : ModelCheck LaunchCleanup :=
  if self.committed then .err .wrongConnectionState else .ok self.cleanup

end LaunchTransaction

/-- Its fields are private: there is one only where a launch was aborted. -/
structure LaunchCleanupToken where
  identity : LaunchIdentity
  cleanup : LaunchCleanup
  aborted : ∃ transaction : LaunchTransaction, cleanup = transaction.cleanup

structure LaunchCleanupEvidence where
  consoledPeersClosed : Vector Bool 3
  unmovedChildPeersClosed : Vector Bool 3
  movedChildPeersRevoked : Vector Bool 3
deriving DecidableEq

/-- The loop over the six entries; an index out of range panics. -/
def evidenceMatchesCleanup (cleanup : LaunchCleanup) (evidence : LaunchCleanupEvidence) :
    ModelCheck Bool :=
  scan cleanup.entries.toList 0
where
  satisfied (entry : EndpointCleanup) (index : Nat) : ModelCheck Bool :=
    match entry.disposition with
    | .closeConsoledPeer => Outcome.unwrap evidence.consoledPeersClosed[index]?
    | .closeUnmovedChildPeer =>
        if index < 3 then .panic else Outcome.unwrap evidence.unmovedChildPeersClosed[index - 3]?
    | .revokeMovedChildPeerFromLaunch =>
        if index < 3 then .panic else Outcome.unwrap evidence.movedChildPeersRevoked[index - 3]?
  scan : List EndpointCleanup → Nat → ModelCheck Bool
    | [], _ => .ok true
    | entry :: rest, index => do
        if !(← satisfied entry index) then pure false else scan rest (index + 1)

/-! ## Windows and reservations -/

inductive RecoveryAction where
  | none
  | terminateChild (job : UInt64)
  | reapChild (job : UInt64)
  | replaceChild
  | retrySerialAt (time : Nat)
  | escalate
deriving DecidableEq

/-- The first `len` of the four times. -/
structure RestartWindow where
  times : List Nat
deriving DecidableEq

namespace RestartWindow

def new : RestartWindow := ⟨[]⟩

def failures (self : RestartWindow) : Nat := self.times.length

/-- The compacting loop of `add`. -/
def recent (now : Nat) : List Nat → ModelCheck (List Nat)
  | [] => .ok []
  | time :: rest => do
      let age ← if time ≤ now then .ok (now - time) else .panic
      let kept ← recent now rest
      pure (if age < restartWindowMillis then time :: kept else kept)

def add (self : RestartWindow) (now : Nat) : ModelCheck (Bool × RestartWindow) := do
  let kept ← recent now self.times
  let times := if kept.length < maxFailuresPerWindow then kept ++ [now] else kept
  pure (maxFailuresPerWindow ≤ times.length, ⟨times⟩)

end RestartWindow

structure ReadyToken where
  ids : SessionIds
  peers : Vector Endpoint 3
deriving DecidableEq

structure Reservation where
  token : Nat
  source : Option OutputSource
  length : Nat
  event : EventGeneration
deriving DecidableEq

/-! ## The model -/

structure ConsoleModel where
  state : ConnectionState
  serial : Option SerialCorrelation
  lastSerial : Option SerialCorrelation
  consoleGeneration : Option Nat
  child : Option ChildSession
  input : BoundedQueue
  stdout : BoundedQueue
  stderr : BoundedQueue
  inputNormalizer : InputNormalizer
  stdoutNormalizer : OutputNormalizer
  stderrNormalizer : OutputNormalizer
  nextOutput : OutputSource
  pendingStdin : Option Reservation
  pendingTx : Option Reservation
  pendingLaunch : Option LaunchIdentity
  pendingLaunchCleanup : Option LaunchIdentity
  pendingConnect : Option ConnectRequest
  childWindow : RestartWindow
  serialWindow : RestartWindow
  stable : Option (ReadyToken × Nat)
  readyObserved : Option EventGeneration
  serialCleanup : Bool
  serialInvalidated : Bool
  childExhausted : Bool
  serialExhausted : Bool
  childTerminated : Bool
  childReaped : Bool
  childFailureAt : Option Nat
  lastNow : Option Nat
  nextGeneration : Nat
  nextEndpoint : Nat
  nextReservation : Nat
  lastFailure : Option ModelError
  pendingRecovery : Option RecoveryAction

abbrev Operation (α : Type) := Prog ConsoleModel Empty ModelError α

namespace ConsoleModel

def new : ConsoleModel where
  state := .reconnecting
  serial := none
  lastSerial := none
  consoleGeneration := none
  child := none
  input := .new
  stdout := .new
  stderr := .new
  inputNormalizer := .new
  stdoutNormalizer := .new
  stderrNormalizer := .new
  nextOutput := .stdout
  pendingStdin := none
  pendingTx := none
  pendingLaunch := none
  pendingLaunchCleanup := none
  pendingConnect := none
  childWindow := .new
  serialWindow := .new
  stable := none
  readyObserved := none
  serialCleanup := true
  serialInvalidated := false
  childExhausted := false
  serialExhausted := false
  childTerminated := true
  childReaped := true
  childFailureAt := none
  lastNow := none
  nextGeneration := 1
  nextEndpoint := 1
  nextReservation := 1
  lastFailure := none
  pendingRecovery := none

/-- `fail`: the state it leaves. -/
def failed (m : ConsoleModel) (e : ModelError) : ConsoleModel :=
  { m with state := .failClosed, lastFailure := some e, stable := none }

def clearReservations (m : ConsoleModel) : ConsoleModel :=
  { m with pendingStdin := none, pendingTx := none }

def clearVolatile (m : ConsoleModel) : ConsoleModel :=
  { m with
    input := m.input.clear, stdout := m.stdout.clear, stderr := m.stderr.clear
    stdoutNormalizer := .new, stderrNormalizer := .new, nextOutput := .stdout
    pendingStdin := none, pendingTx := none, stable := none, readyObserved := none }

def event (m : ConsoleModel) : Option EventGeneration := m.child.map fun child => child.ids.event

def eventIsCurrent (m : ConsoleModel) (event : EventGeneration) : Bool :=
  m.state = .active && m.event = some event

def eventMatchesChild (m : ConsoleModel) (event : EventGeneration) : Bool := m.event = some event

def liveEvent (m : ConsoleModel) : ModelCheck EventGeneration := do
  let child ← Outcome.okOr m.child .noChild
  rejectIf (m.state ≠ .active || !child.allPeersLive) .wrongConnectionState
  pure child.ids.event

/-- `self.child.map(|value| value.ids.child_job).unwrap_or(0)`. -/
def childJob (m : ConsoleModel) : UInt64 := (m.child.map fun child => child.ids.childJob).getD 0

def queueFor (m : ConsoleModel) : OutputSource → BoundedQueue
  | .stdout => m.stdout
  | .stderr => m.stderr

/-- `*self.queue_for_mut(source) = queue`. -/
def setQueue (m : ConsoleModel) (queue : BoundedQueue) : OutputSource → ConsoleModel
  | .stdout => { m with stdout := queue }
  | .stderr => { m with stderr := queue }

/-- Whose turn it is. -/
def turn (m : ConsoleModel) : OutputSource :=
  if (m.queueFor m.nextOutput).isEmpty then other m.nextOutput else m.nextOutput

def readyToken (m : ConsoleModel) : Option ReadyToken :=
  m.child.bind fun child =>
    if m.state ≠ .active || !child.ids.complete || !child.allPeersLive
        || m.readyObserved ≠ some child.ids.event then none
    else some ⟨child.ids, child.peers.map PeerState.endpoint⟩

end ConsoleModel

/-! ## Helpers -/

def fail {α : Type} (e : ModelError) : Operation α := do
  .modify (ConsoleModel.failed · e)
  .throw e

def time (now : Nat) : Operation Unit := do
  let m ← .get
  if m.lastNow.any (now < ·) then fail .monotonicRegression
  else .modify ({ · with lastNow := some now })

def requireCurrent (event : EventGeneration) : Operation Unit := do
  let m ← .get
  if m.eventIsCurrent event then pure ()
  else do
    .modify ({ · with lastFailure := some .staleCorrelation })
    .throw .staleCorrelation

def markChildPeerClosed (event : EventGeneration) (kind : StreamKind) : Operation Unit := do
  let m ← .get
  if m.event ≠ some event then .throw .staleCorrelation
  else do
    let child ← .okOr m.child .noChild
    .modify ({ · with child := some (child.closePeer kind) })

def startChildRetirement (serialCleanup captureChildFailure : Bool) (now : Nat) :
    Operation RecoveryAction := do
  .modify ConsoleModel.clearVolatile
  .modify fun m => { m with
    childTerminated := false, childReaped := false
    childFailureAt :=
      if captureChildFailure && m.childFailureAt.isNone then some now else m.childFailureAt
    serialCleanup := if serialCleanup then false else m.serialCleanup
    state := .retiringChild }
  let m ← .get
  pure (.terminateChild m.childJob)

def completeRetirement (now : Nat) : Operation RecoveryAction := do
  let m ← .get
  let child ← .okOr m.child .noChild
  if child.anyPeerLive then .throw .incompleteCleanup
  else if !m.serialCleanup then pure .none
  else do
    .modify ({ · with child := none })
    .modify ConsoleModel.clearVolatile
    let m ← .get
    let failureAt := m.childFailureAt.getD now
    .modify ({ · with childFailureAt := none })
    let (full, childWindow) ← .lift (m.childWindow.add failureAt)
    .modify ({ · with childWindow })
    if full then do
      .modify ({ · with
        state := .exhausted, childExhausted := true, lastFailure := some .restartExhausted })
      pure .escalate
    else do
      .modify ({ · with state := .active })
      pure .replaceChild

def finishSerialCleanup (now : Nat) : Operation RecoveryAction := do
  match checkedAdd now serialRetryBackoffMillis with
  | none => fail .arithmeticOverflow
  | some retry => do
      .modify ({ · with
        serial := none, consoleGeneration := none, serialCleanup := true
        serialInvalidated := false, state := .reconnecting })
      .modify ConsoleModel.clearVolatile
      .modify ({ · with inputNormalizer := .new })
      pure (.retrySerialAt retry)

def maybeFinishSerialInvalidation : Operation Unit := do
  let m ← .get
  if m.serialInvalidated && m.child.isNone && m.pendingLaunch.isNone
      && m.pendingLaunchCleanup.isNone then
    match m.lastNow with
    | none => fail .monotonicRegression
    | some now => do
        let action ← finishSerialCleanup now
        .modify ({ · with pendingRecovery := some action })
  else pure ()

/-- The next number of a counter; `put` stores the one behind it. -/
def allocate (counter : ConsoleModel → Nat) (put : ConsoleModel → Nat → ConsoleModel) :
    Operation Nat := do
  let m ← .get
  match checkedAdd (counter m) 1 with
  | none => fail .arithmeticOverflow
  | some next => do
      .modify (put · next)
      pure (counter m)

def allocateGeneration : Operation Nat :=
  allocate ConsoleModel.nextGeneration fun m next => { m with nextGeneration := next }

def allocateEndpoint : Operation Endpoint :=
  allocate ConsoleModel.nextEndpoint fun m next => { m with nextEndpoint := next }

def allocateReservation : Operation Nat :=
  allocate ConsoleModel.nextReservation fun m next => { m with nextReservation := next }

/-! ## Serial connection and launches -/

def beginConnect (expected : ConnectRequest) : Operation Unit := do
  let m ← .get
  .lift (rejectIf (m.state = .exhausted && m.serialExhausted) .restartExhausted)
  .lift (rejectIf (m.state ≠ .reconnecting || m.pendingConnect.isSome) .wrongConnectionState)
  .lift (rejectIf (!expected.valid) .zeroCorrelation)
  .modify ({ · with pendingConnect := some expected })

def abortConnect (request : ConnectRequest) : Operation Unit := do
  let m ← .get
  .lift (rejectIf ((m.state ≠ .reconnecting && m.state ≠ .failClosed)
    || m.pendingConnect ≠ some request) .staleCorrelation)
  .modify ({ · with pendingConnect := none })

def attachConnected (serial : SerialCorrelation) (now : Nat) : Operation Nat := do
  time now
  let m ← .get
  .lift (rejectIf (m.state = .exhausted && m.serialExhausted) .restartExhausted)
  .lift (rejectIf (m.state ≠ .reconnecting || !m.serialCleanup || !m.childReaped)
    .wrongConnectionState)
  let request ← .okOr m.pendingConnect .staleCorrelation
  .lift (rejectIf (!serial.connected || !request.agrees serial
    || m.lastSerial.any fun previous => !serial.validTransitionFrom previous) .staleCorrelation)
  let console ← allocateGeneration
  .modify ({ · with
    serial := some serial, lastSerial := some serial, pendingConnect := none
    consoleGeneration := some console, state := .active, serialWindow := .new })
  .modify ConsoleModel.clearVolatile
  .modify ({ · with inputNormalizer := .new })
  pure console

def beginChildLaunch (childLaunch : UInt64) : Operation LaunchTransaction := do
  let m ← .get
  .lift (rejectIf (m.state = .exhausted || m.childExhausted) .restartExhausted)
  .lift (rejectIf (m.state ≠ .active || m.serial.isNone || m.child.isSome) .wrongConnectionState)
  .lift (rejectIf m.pendingLaunch.isSome .wrongConnectionState)
  .lift (rejectIf (childLaunch = 0) .zeroCorrelation)
  let childGeneration ← allocateGeneration
  let m ← .get
  let serial ← .okOr m.serial .wrongConnectionState
  let consoleGeneration ← .okOr m.consoleGeneration .wrongConnectionState
  let stdin ← allocateEndpoint
  let stdout ← allocateEndpoint
  let stderr ← allocateEndpoint
  let childStdin ← allocateEndpoint
  let childStdout ← allocateEndpoint
  let childStderr ← allocateEndpoint
  let transaction : LaunchTransaction := {
    serial, consoleGeneration, childGeneration, childJob := 0, childLaunch
    consoled := #v[stdin, stdout, stderr], childPeers := #v[childStdin, childStdout, childStderr]
    moved := .replicate 3 false, committed := false }
  .modify ({ · with pendingLaunch := some transaction.identity })
  pure transaction

/-- The transaction behind it is the second component. -/
def commitChildLaunch (tx : LaunchTransaction) (childJob : UInt64) :
    Operation (ChildSession × LaunchTransaction) := do
  let m ← .get
  .lift (rejectIf (m.state = .exhausted || m.childExhausted) .restartExhausted)
  .lift (rejectIf (m.state ≠ .active || tx.committed || !tx.allMoved || m.child.isSome
    || m.serialInvalidated || m.serial ≠ some tx.serial
    || m.consoleGeneration ≠ some tx.consoleGeneration || childJob = 0
    || m.pendingLaunch ≠ some tx.identity) .staleCorrelation)
  let child : ChildSession := {
    ids := { serial := tx.serial, consoleGeneration := tx.consoleGeneration
             childGeneration := tx.childGeneration, childJob, childLaunch := tx.childLaunch }
    peers := tx.consoled.map fun endpoint => ⟨endpoint, true⟩ }
  .modify ({ · with child := some child, pendingLaunch := none, stable := none })
  pure (child, { tx with childJob, committed := true })

def abortChildLaunch (transaction : LaunchTransaction) : Operation LaunchCleanupToken := do
  let m ← .get
  .lift (rejectIf ((m.state ≠ .active && m.state ≠ .failClosed) || m.child.isSome
    || m.serial ≠ some transaction.serial
    || m.consoleGeneration ≠ some transaction.consoleGeneration
    || m.pendingLaunch ≠ some transaction.identity) .staleCorrelation)
  let _ ← .lift transaction.abortCleanup
  .modify ({ · with pendingLaunchCleanup := some transaction.identity })
  pure ⟨transaction.identity, transaction.cleanup, transaction, rfl⟩

def completeAbortChildLaunch (token : LaunchCleanupToken) (evidence : LaunchCleanupEvidence) :
    Operation LaunchCleanup := do
  let m ← .get
  .lift (rejectIf (m.pendingLaunch ≠ some token.identity
    || m.pendingLaunchCleanup ≠ some token.identity) .staleCorrelation)
  let satisfied ← .lift (evidenceMatchesCleanup token.cleanup evidence)
  .lift (rejectIf (!satisfied) .incompleteCleanup)
  .modify ({ · with pendingLaunch := none, pendingLaunchCleanup := none })
  maybeFinishSerialInvalidation
  pure token.cleanup

/-! ## Staging -/

def stageSerialInput (event : EventGeneration) (bytes : List UInt8) : Operation Unit := do
  requireCurrent event
  let m ← .get
  let (inputNormalizer, input) ← .lift (m.inputNormalizer.stage bytes m.input)
  .modify ({ · with inputNormalizer, input })

def stageChildOutput (event : EventGeneration) (source : OutputSource) (bytes : List UInt8) :
    Operation Unit := do
  requireCurrent event
  let m ← .get
  match source with
  | .stdout => do
      let (stdoutNormalizer, stdout) ← .lift (m.stdoutNormalizer.stage bytes m.stdout)
      .modify ({ · with stdoutNormalizer, stdout })
  | .stderr => do
      let (stderrNormalizer, stderr) ← .lift (m.stderrNormalizer.stage bytes m.stderr)
      .modify ({ · with stderrNormalizer, stderr })

/-- One turn of the read callback: the buffer it leaves and its result. -/
abbrev Read := OutputSource → Vector UInt8 fairSourceBytesPerTurn →
  Vector UInt8 fairSourceBytesPerTurn × Except ModelError (Option Nat)

/-- A turn of the loop of `poll_output_quiescence`: the buffer behind it and whether it was quiet. -/
def pollSource (event : EventGeneration) (read : Read) (source : OutputSource)
    (payload : Vector UInt8 fairSourceBytesPerTurn) :
    Operation (Vector UInt8 fairSourceBytesPerTurn × Bool) :=
  match read source payload with
  | (_, .error e) => .throw e
  | (payload, .ok none) => pure (payload, true)
  | (payload, .ok (some count)) => do
      .lift (rejectIf (count = 0 || fairSourceBytesPerTurn < count) .tooLarge)
      stageChildOutput event source (payload.toList.take count)
      pure (payload, false)

def pollOutputQuiescence (event : EventGeneration) (read : Read) : Operation Bool := do
  requireCurrent event
  let m ← .get
  if !m.input.isEmpty || !m.stdout.isEmpty || !m.stderr.isEmpty || m.pendingStdin.isSome
      || m.pendingTx.isSome then pure false
  else do
    let (payload, first) ← pollSource event read .stdout (.replicate fairSourceBytesPerTurn 0)
    let (_, second) ← pollSource event read .stderr payload
    pure (first && second)

/-! ## Failures and retirement -/

def wrongDirectionData (event : EventGeneration) (now : Nat) : Operation RecoveryAction := do
  time now
  requireCurrent event
  .modify ({ · with lastFailure := some .wrongDirection })
  startChildRetirement false true now

def childTerminal (event : EventGeneration) (now : Nat) : Operation RecoveryAction := do
  time now
  requireCurrent event
  .modify ({ · with lastFailure := some .childDisconnected })
  .modify ConsoleModel.clearVolatile
  .modify ({ · with
    childFailureAt := some now, childTerminated := true, childReaped := false
    state := .awaitingReap })
  pure (.reapChild event.childJob)

def childTerminalPrecursor (event : EventGeneration) (now : Nat) : Operation RecoveryAction := do
  time now
  requireCurrent event
  pure .none

def childPeerClosed (event : EventGeneration) (kind : StreamKind) (now : Nat) :
    Operation RecoveryAction := do
  time now
  requireCurrent event
  .modify ({ · with lastFailure := some .childDisconnected })
  markChildPeerClosed event kind
  startChildRetirement false true now

def statusPeerClosed (event : EventGeneration) (now : Nat) : Operation RecoveryAction := do
  time now
  requireCurrent event
  .modify ({ · with lastFailure := some .childDisconnected })
  startChildRetirement false true now

def requireRetiring : Operation Unit := do
  let m ← .get
  .lift (rejectIf (m.state ≠ .retiringChild && m.state ≠ .awaitingReap) .wrongConnectionState)

def observeChildPeerClosed (event : EventGeneration) (kind : StreamKind) (now : Nat) :
    Operation Unit := do
  time now
  requireRetiring
  markChildPeerClosed event kind

def childStreamsClosed (event : EventGeneration) (now : Nat) : Operation Unit := do
  time now
  requireRetiring
  markChildPeerClosed event .stdin
  markChildPeerClosed event .stdout
  markChildPeerClosed event .stderr

def serialPeerClosed (serial : SerialCorrelation) (consoleGeneration now : Nat) :
    Operation RecoveryAction := do
  time now
  let m ← .get
  .lift (rejectIf ((m.state ≠ .active && m.state ≠ .retiringChild && m.state ≠ .awaitingReap
      && m.state ≠ .exhausted) || m.serial ≠ some serial
      || m.consoleGeneration ≠ some consoleGeneration) .wrongConnectionState)
  .modify ({ · with
    lastFailure := some .serialDisconnected, childFailureAt := none, serialCleanup := false
    serialInvalidated := true, inputNormalizer := .new, stable := none })
  .modify ConsoleModel.clearReservations
  if m.child.isSome && m.state = .active then startChildRetirement true false now
  else if m.child.isNone && m.pendingLaunch.isNone then do
    .modify ({ · with childTerminated := true, childReaped := true })
    finishSerialCleanup now
  else pure .none

def childTerminated (event : EventGeneration) (now : Nat) : Operation RecoveryAction := do
  time now
  let m ← .get
  .lift (rejectIf (m.state ≠ .retiringChild || !m.eventMatchesChild event) .wrongConnectionState)
  .modify ({ · with childTerminated := true, state := .awaitingReap })
  let m ← .get
  pure (.reapChild m.childJob)

def childReaped (event : EventGeneration) (now : Nat) : Operation RecoveryAction := do
  time now
  let m ← .get
  .lift (rejectIf (m.state ≠ .awaitingReap || !m.childTerminated || !m.eventMatchesChild event)
    .wrongConnectionState)
  .modify ({ · with childReaped := true })
  completeRetirement now

def completeSerialCleanup (serial : SerialCorrelation) (consoleGeneration now : Nat) :
    Operation RecoveryAction := do
  time now
  let m ← .get
  .lift (rejectIf (m.state ≠ .awaitingReap || m.serialCleanup || !m.childReaped
    || m.serial ≠ some serial || m.consoleGeneration ≠ some consoleGeneration)
    .wrongConnectionState)
  .lift (rejectIf (m.child.any ChildSession.anyPeerLive) .incompleteCleanup)
  .modify ({ · with child := none })
  finishSerialCleanup now

def serialReconnectFailed (now : Nat) : Operation RecoveryAction := do
  time now
  let m ← .get
  .lift (rejectIf (m.state ≠ .reconnecting) .wrongConnectionState)
  .modify ({ · with pendingConnect := none })
  let (full, serialWindow) ← .lift (m.serialWindow.add now)
  .modify ({ · with serialWindow })
  if full then do
    .modify ({ · with
      state := .exhausted, serialExhausted := true, lastFailure := some .restartExhausted })
    pure .escalate
  else
    match checkedAdd now serialRetryBackoffMillis with
    | none => fail .arithmeticOverflow
    | some retry => pure (.retrySerialAt retry)

/-! ## Reservations -/

/-- What was reserved, with the bytes that the caller's buffer holds then. -/
abbrev Reserved := Option (Reservation × List UInt8)

def reserveChildStdin (room : Nat) : Operation Reserved := do
  let m ← .get
  if room = 0 then pure none
  else do
    let event ← .lift m.liveEvent
    .lift (rejectIf m.pendingStdin.isSome .alreadyReserved)
    if m.input.isEmpty then pure none
    else do
      let bytes := m.input.copyPrefix room fairSourceBytesPerTurn
      let token ← allocateReservation
      let reservation : Reservation := ⟨token, none, bytes.length, event⟩
      .modify ({ · with pendingStdin := some reservation })
      pure (some (reservation, bytes))

/-- A reservation that is pending and belongs to the live child. -/
def requireReserved (pending : Option Reservation) (reservation : Reservation) : Operation Unit := do
  let m ← .get
  .lift (rejectIf (pending ≠ some reservation) .unknownReservation)
  let event ← .lift m.liveEvent
  .lift (rejectIf (event ≠ reservation.event) .unknownReservation)

def commitChildStdin (reservation : Reservation) : Operation Unit := do
  let m ← .get
  requireReserved m.pendingStdin reservation
  let input ← .lift (m.input.consume reservation.length)
  .modify ({ · with input, pendingStdin := none })

def releaseChildStdin (reservation : Reservation) : Operation Unit := do
  let m ← .get
  requireReserved m.pendingStdin reservation
  .modify ({ · with pendingStdin := none })

def reserveSerialTx (room : Nat) : Operation Reserved := do
  let m ← .get
  if room = 0 then pure none
  else do
    let event ← .lift m.liveEvent
    .lift (rejectIf m.pendingTx.isSome .alreadyReserved)
    let source := m.turn
    if (m.queueFor source).isEmpty then pure none
    else do
      let bytes := (m.queueFor source).copyPrefix room fairSourceBytesPerTurn
      let token ← allocateReservation
      let reservation : Reservation := ⟨token, some source, bytes.length, event⟩
      .modify ({ · with pendingTx := some reservation })
      pure (some (reservation, bytes))

def commitSerialTx (reservation : Reservation) : Operation Unit := do
  let m ← .get
  requireReserved m.pendingTx reservation
  let source ← .okOr reservation.source .unknownReservation
  let queue ← .lift ((m.queueFor source).consume reservation.length)
  .modify (ConsoleModel.setQueue · queue source)
  .modify ({ · with nextOutput := other source, pendingTx := none })

def releaseSerialTx (reservation : Reservation) : Operation Unit := do
  let m ← .get
  requireReserved m.pendingTx reservation
  .modify ({ · with pendingTx := none })

/-! ## READY -/

def observeChildReady (event : EventGeneration) (now : Nat) : Operation ReadyToken := do
  time now
  let m ← .get
  .lift (rejectIf (!m.eventIsCurrent event) .staleCorrelation)
  .modify ({ · with readyObserved := some event })
  let m ← .get
  let token ← .okOr m.readyToken .wrongConnectionState
  if m.stable.map Prod.fst ≠ some token then .modify ({ · with stable := some (token, now) })
  else pure ()
  pure token

def observeReady (now : Nat) (token : ReadyToken) : Operation Bool := do
  time now
  let m ← .get
  .lift (rejectIf (m.readyToken ≠ some token) .staleCorrelation)
  match m.stable.filter fun stable => stable.1 = token with
  | some (_, since) => do
      let run ← .lift (if since ≤ now then .ok (now - since) else .panic)
      if run < stableRunMillis then pure false
      else do
        .modify ({ · with childWindow := .new, stable := some (token, now) })
        pure true
  | none => do
      .modify ({ · with stable := some (token, now) })
      pure false

def takeRecoveryAction : Operation (Option RecoveryAction) := do
  let m ← .get
  .modify ({ · with pendingRecovery := none })
  pure m.pendingRecovery

end Wyrmroot.Consoled
