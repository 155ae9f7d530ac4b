import Wyrmroot.Consoled.Calls

/-!
# What one console call can do

`Moves` lists it: a call is refused, fails the console closed, or moves the
lifecycle as its name says. Two refusals leave more behind than a time and a
failure: `incomplete`, a reap that comes before the peers are closed, and the
calls that fail only behind their first writes. `perform_moves` says so of
every call on a `Regular` model, where nothing that the source leaves unchecked
underflows; nothing after this file unfolds an operation.
-/

namespace Wyrmroot.Consoled

open Outcome

namespace ConsoleModel

/-- Time has not run backwards. -/
def Timely (m : ConsoleModel) (now : Nat) : Prop := ∀ previous ∈ m.lastNow, previous ≤ now

/-- The last time behind a call. -/
def Clock (m : ConsoleModel) (t : Option Nat) : Prop := t = m.lastNow ∨ ∃ now, t = some now ∧ m.Timely now

def atTime (m : ConsoleModel) (now : Nat) : ConsoleModel := { m with lastNow := some now }

/-- `start_child_retirement`: the state it leaves. -/
def retiring (m : ConsoleModel) (serialCleanup captureChildFailure : Bool) (now : Nat) :
    ConsoleModel :=
  { m.clearVolatile with
    childTerminated := false, childReaped := false
    childFailureAt :=
      if captureChildFailure && m.childFailureAt.isNone then some now else m.childFailureAt
    serialCleanup := if serialCleanup then false else m.serialCleanup
    state := .retiringChild }

/-- `serial_peer_closed` up to its branches. -/
def lost (m : ConsoleModel) : ConsoleModel :=
  { m with
    lastFailure := some .serialDisconnected, childFailureAt := none, serialCleanup := false
    serialInvalidated := true, inputNormalizer := .new, stable := none
    pendingStdin := none, pendingTx := none }

/-- `finish_serial_cleanup`: the state it leaves. -/
def disconnected (m : ConsoleModel) : ConsoleModel :=
  { m.clearVolatile with
    serial := none, consoleGeneration := none, serialCleanup := true
    serialInvalidated := false, state := .reconnecting, inputNormalizer := .new }

/-- `attach_connected`: the state it leaves. -/
def connected (m : ConsoleModel) (serial : SerialCorrelation) : ConsoleModel :=
  { m.clearVolatile with
    serial := some serial, lastSerial := some serial, pendingConnect := none
    consoleGeneration := some m.nextGeneration, nextGeneration := m.nextGeneration + 1
    state := .active, serialWindow := .new, inputNormalizer := .new }

/-- `complete_retirement`: the child is gone and its failure counted. -/
def retired (m : ConsoleModel) (childWindow : RestartWindow) : ConsoleModel :=
  { m.clearVolatile with
    child := none, childFailureAt := none, childReaped := true, childWindow, state := .active }

def normalizerFor (m : ConsoleModel) : OutputSource → OutputNormalizer
  | .stdout => m.stdoutNormalizer
  | .stderr => m.stderrNormalizer

/-- The queue and the normalizer of a source behind a staging. -/
def setOutput (m : ConsoleModel) (normalizer : OutputNormalizer) (queue : BoundedQueue) :
    OutputSource → ConsoleModel
  | .stdout => { m with stdoutNormalizer := normalizer, stdout := queue }
  | .stderr => { m with stderrNormalizer := normalizer, stderr := queue }

/-- What the operations rely on and do not check. -/
structure Regular (m : ConsoleModel) : Prop where
  input : m.input.Fits
  stdout : m.stdout.Fits
  stderr : m.stderr.Fits
  stdin : ∀ r ∈ m.pendingStdin, r.length ≤ m.input.len
  tx : ∀ r ∈ m.pendingTx, ∀ source ∈ r.source, r.length ≤ (m.queueFor source).len
  childWindow : ∀ t ∈ m.childWindow.times, ∃ now ∈ m.lastNow, t ≤ now
  failure : ∀ t ∈ m.childWindow.times, ∀ failedAt ∈ m.childFailureAt, t ≤ failedAt
  serialWindow : ∀ t ∈ m.serialWindow.times, ∃ now ∈ m.lastNow, t ≤ now
  stable : ∀ stable ∈ m.stable, ∃ now ∈ m.lastNow, stable.2 ≤ now
  console : m.serial.isSome = m.consoleGeneration.isSome
  ready : m.state = .active → ∀ child ∈ m.child,
    child.ids.complete = true ∧ child.allPeersLive = true

end ConsoleModel

open ConsoleModel

/-- The transaction that `begin_child_launch` hands out. -/
def LaunchTransaction.fresh (m : ConsoleModel) (serial : SerialCorrelation)
    (consoleGeneration : Nat) (childLaunch : UInt64) : LaunchTransaction where
  serial := serial
  consoleGeneration := consoleGeneration
  childGeneration := m.nextGeneration
  childJob := 0
  childLaunch := childLaunch
  consoled := #v[m.nextEndpoint, m.nextEndpoint + 1, m.nextEndpoint + 2]
  childPeers := #v[m.nextEndpoint + 3, m.nextEndpoint + 4, m.nextEndpoint + 5]
  moved := .replicate 3 false
  committed := false

/-- The child that `commit_child_launch` installs. -/
def LaunchTransaction.session (tx : LaunchTransaction) (childJob : UInt64) : ChildSession where
  ids := ⟨tx.serial, tx.consoleGeneration, tx.childGeneration, childJob, tx.childLaunch⟩
  peers := tx.consoled.map fun endpoint => ⟨endpoint, true⟩

/-- A call that retires the current child, with the failure that it records. -/
inductive Retires : Op → EventGeneration → Nat → ModelError → Prop
  | wrongDirection (event : EventGeneration) (now : Nat) :
      Retires (.wrongDirectionData event now) event now .wrongDirection
  | peerClosed (event : EventGeneration) (kind : StreamKind) (now : Nat) :
      Retires (.childPeerClosed event kind now) event now .childDisconnected
  | statusClosed (event : EventGeneration) (now : Nat) :
      Retires (.statusPeerClosed event now) event now .childDisconnected

/-- A call that closes peers of a retiring child. -/
inductive Closes : Op → EventGeneration → Nat → Prop
  | peer (event : EventGeneration) (kind : StreamKind) (now : Nat) :
      Closes (.observeChildPeerClosed event kind now) event now
  | streams (event : EventGeneration) (now : Nat) : Closes (.childStreamsClosed event now) event now

/-- How a poll ends. -/
inductive Quiets : Outcome ModelError Reply → Prop
  | ok (quiet : Bool) : Quiets (.ok (.quiet quiet))
  | err (e : ModelError) : Quiets (.err e)

inductive Reserves : Op → Prop
  | stdin (room : Nat) : Reserves (.reserveChildStdin room)
  | tx (room : Nat) : Reserves (.reserveSerialTx room)

/-- Some bytes of a source staged. -/
def Staged (m : ConsoleModel) (source : OutputSource) (bytes : List UInt8) (m' : ConsoleModel) : Prop :=
  ∃ normalizer queue, (m.normalizerFor source).stage bytes (m.queueFor source) =
    .ok (normalizer, queue) ∧ m' = m.setOutput normalizer queue source

/-- A turn of the poll stages something of its source or leaves the model alone. -/
def Polls (m : ConsoleModel) (source : OutputSource) (m' : ConsoleModel) : Prop :=
  m' = m ∨ ∃ bytes, Staged m source bytes m'

/-- What a reservation of the child's input takes. -/
def ConsoleModel.stdinBytes (m : ConsoleModel) (room : Nat) : List UInt8 :=
  m.input.copyPrefix room fairSourceBytesPerTurn

def ConsoleModel.stdinReservation (m : ConsoleModel) (room : Nat) (event : EventGeneration) :
    Reservation :=
  ⟨m.nextReservation, none, (m.stdinBytes room).length, event⟩

/-- What a reservation of the output whose turn it is takes. -/
def ConsoleModel.txBytes (m : ConsoleModel) (room : Nat) : List UInt8 :=
  (m.queueFor m.turn).copyPrefix room fairSourceBytesPerTurn

def ConsoleModel.txReservation (m : ConsoleModel) (room : Nat) (event : EventGeneration) :
    Reservation :=
  ⟨m.nextReservation, some m.turn, (m.txBytes room).length, event⟩

/-- The child has been terminated and none of its peers is left. -/
structure ConsoleModel.Reapable (m : ConsoleModel) (event : EventGeneration) (now : Nat) : Prop where
  timely : m.Timely now
  state : m.state = .awaitingReap
  terminated : m.childTerminated = true
  event : m.event = some event
  closed : ∃ child ∈ m.child, child.anyPeerLive = false

inductive Moves (m : ConsoleModel) : Op → Outcome ModelError Reply → ConsoleModel → Prop
  | refused {op : Op} {e : ModelError} {t : Option Nat} {f : Option ModelError} : m.Clock t →
      Moves m op (.err e) { m with lastNow := t, lastFailure := f }
  | failed {op : Op} {e : ModelError} {t : Option Nat} : m.Clock t →
      Moves m op (.err e) (ConsoleModel.failed { m with lastNow := t } e)
  | connecting {request : ConnectRequest} : m.state = .reconnecting → m.pendingConnect = none →
      Moves m (.beginConnect request) (.ok .done) { m with pendingConnect := some request }
  | abandoned {request : ConnectRequest} : m.pendingConnect = some request →
      Moves m (.abortConnect request) (.ok .done) { m with pendingConnect := none }
  | attached {serial : SerialCorrelation} {now : Nat} : m.Timely now → m.state = .reconnecting →
      serial.connected = true → (∀ previous ∈ m.lastSerial, serial.validTransitionFrom previous = true) →
      m.pendingConnect.isSome = true → m.nextGeneration + 1 < 2 ^ 64 →
      Moves m (.attachConnected serial now) (.ok (.attached m.nextGeneration))
        ((m.atTime now).connected serial)
  | launching {childLaunch : UInt64} {serial : SerialCorrelation} {consoleGeneration : Nat} :
      m.state = .active → m.childExhausted = false → m.serial = some serial →
      m.consoleGeneration = some consoleGeneration → m.child = none → m.pendingLaunch = none →
      childLaunch ≠ 0 → m.nextGeneration + 1 < 2 ^ 64 → m.nextEndpoint + 6 < 2 ^ 64 →
      Moves m (.beginChildLaunch childLaunch)
        (.ok (.launching (.fresh m serial consoleGeneration childLaunch)))
        { m with nextGeneration := m.nextGeneration + 1, nextEndpoint := m.nextEndpoint + 6
                 pendingLaunch :=
                   some (LaunchTransaction.fresh m serial consoleGeneration childLaunch).identity }
  | launchFailed {childLaunch : UInt64} {e : ModelError} {generation endpoint : Nat} :
      m.state = .active → m.nextGeneration ≤ generation → m.nextEndpoint ≤ endpoint →
      generation < 2 ^ 64 ∨ generation = m.nextGeneration →
      endpoint < 2 ^ 64 ∨ endpoint = m.nextEndpoint →
      Moves m (.beginChildLaunch childLaunch) (.err e)
        (ConsoleModel.failed { m with nextGeneration := generation, nextEndpoint := endpoint } e)
  | moved {tx tx' : LaunchTransaction} {kind : StreamKind} {endpoint : Endpoint} :
      tx.moveChildPeer kind = .ok (endpoint, tx') →
      Moves m (.moveChildPeer tx kind) (.ok (.moved endpoint tx')) m
  | launched {tx : LaunchTransaction} {childJob : UInt64} : m.state = .active →
      m.childExhausted = false → tx.committed = false → m.child = none →
      m.serialInvalidated = false → m.serial = some tx.serial →
      m.consoleGeneration = some tx.consoleGeneration → childJob ≠ 0 →
      m.pendingLaunch = some tx.identity →
      Moves m (.commitChildLaunch tx childJob)
        (.ok (.launched (tx.session childJob) { tx with childJob, committed := true }))
        { m with child := some (tx.session childJob), pendingLaunch := none, stable := none }
  | aborting {tx : LaunchTransaction} : m.state = .active ∨ m.state = .failClosed →
      m.pendingLaunch = some tx.identity →
      Moves m (.abortChildLaunch tx) (.ok (.aborting ⟨tx.identity, tx.cleanup, tx, rfl⟩))
        { m with pendingLaunchCleanup := some tx.identity }
  | aborted {token : LaunchCleanupToken} {evidence : LaunchCleanupEvidence} :
      m.pendingLaunch = some token.identity → m.pendingLaunchCleanup = some token.identity →
      ¬ (m.serialInvalidated = true ∧ m.child = none) →
      Moves m (.completeAbortChildLaunch token evidence) (.ok (.aborted token.cleanup))
        { m with pendingLaunch := none, pendingLaunchCleanup := none }
  | abortedAfterLoss {token : LaunchCleanupToken} {evidence : LaunchCleanupEvidence} {now : Nat} :
      m.pendingLaunch = some token.identity → m.pendingLaunchCleanup = some token.identity →
      evidenceMatchesCleanup token.cleanup evidence = .ok true →
      m.serialInvalidated = true → m.child = none → m.lastNow = some now →
      now + serialRetryBackoffMillis < 2 ^ 64 →
      Moves m (.completeAbortChildLaunch token evidence) (.ok (.aborted token.cleanup))
        { m.disconnected with
          pendingLaunch := none, pendingLaunchCleanup := none
          pendingRecovery := some (.retrySerialAt (now + serialRetryBackoffMillis)) }
  | abortFailed {token : LaunchCleanupToken} {evidence : LaunchCleanupEvidence} {e : ModelError} :
      m.pendingLaunch = some token.identity → m.pendingLaunchCleanup = some token.identity →
      evidenceMatchesCleanup token.cleanup evidence = .ok true →
      m.serialInvalidated = true → m.child = none →
      (∀ now ∈ m.lastNow, 2 ^ 64 ≤ now + serialRetryBackoffMillis) →
      Moves m (.completeAbortChildLaunch token evidence) (.err e)
        (ConsoleModel.failed { m with pendingLaunch := none, pendingLaunchCleanup := none } e)
  | stagedInput {event : EventGeneration} {bytes : List UInt8} {normalizer : InputNormalizer}
      {queue : BoundedQueue} : m.eventIsCurrent event = true →
      m.inputNormalizer.stage bytes m.input = .ok (normalizer, queue) →
      Moves m (.stageSerialInput event bytes) (.ok .done)
        { m with inputNormalizer := normalizer, input := queue }
  | stagedOutput {event : EventGeneration} {source : OutputSource} {bytes : List UInt8}
      {stdoutNormalizer stderrNormalizer : OutputNormalizer} {stdout stderr : BoundedQueue} :
      m.eventIsCurrent event = true →
      Staged m source bytes { m with stdoutNormalizer, stdout, stderrNormalizer, stderr } →
      Moves m (.stageChildOutput event source bytes) (.ok .done)
        { m with stdoutNormalizer, stdout, stderrNormalizer, stderr }
  | polled {event : EventGeneration} {read : Read} {o : Outcome ModelError Reply}
      {m₁ : ConsoleModel} {stdoutNormalizer stderrNormalizer : OutputNormalizer}
      {stdout stderr : BoundedQueue} : m.eventIsCurrent event = true → Quiets o →
      Polls m .stdout m₁ →
      Polls m₁ .stderr { m with stdoutNormalizer, stdout, stderrNormalizer, stderr } →
      Moves m (.pollOutputQuiescence event read) o
        { m with stdoutNormalizer, stdout, stderrNormalizer, stderr }
  | retire {op : Op} {event : EventGeneration} {now : Nat} {e : ModelError}
      {child child' : ChildSession} : Retires op event now e → m.Timely now → m.state = .active →
      m.child = some child → child.ids.event = event → child'.ids = child.ids →
      Moves m op (.ok (.action (.terminateChild child.ids.childJob)))
        { (m.atTime now).retiring false true now with child := some child', lastFailure := some e }
  | terminal {event : EventGeneration} {now : Nat} : m.Timely now → m.eventIsCurrent event = true →
      Moves m (.childTerminal event now) (.ok (.action (.reapChild event.childJob)))
        { (m.atTime now).clearVolatile with
          lastFailure := some .childDisconnected, childFailureAt := some now
          childTerminated := true, childReaped := false, state := .awaitingReap }
  | precursor {event : EventGeneration} {now : Nat} : m.Timely now → m.eventIsCurrent event = true →
      Moves m (.childTerminalPrecursor event now) (.ok (.action .none)) (m.atTime now)
  | closed {op : Op} {event : EventGeneration} {now : Nat} {child child' : ChildSession} :
      Closes op event now → m.Timely now → m.state = .retiringChild ∨ m.state = .awaitingReap →
      m.child = some child → child.ids.event = event → child'.ids = child.ids →
      Moves m op (.ok .done) { m.atTime now with child := some child' }
  | lostChild {serial : SerialCorrelation} {consoleGeneration now : Nat} {child : ChildSession} :
      m.Timely now → m.state = .active → m.serial = some serial →
      m.consoleGeneration = some consoleGeneration → m.child = some child →
      Moves m (.serialPeerClosed serial consoleGeneration now)
        (.ok (.action (.terminateChild child.ids.childJob)))
        ((m.atTime now).lost.retiring true false now)
  | lostIdle {serial : SerialCorrelation} {consoleGeneration now : Nat} : m.Timely now →
      m.state ≠ .reconnecting → m.state ≠ .failClosed → m.serial = some serial →
      m.consoleGeneration = some consoleGeneration → m.child = none → m.pendingLaunch = none →
      now + serialRetryBackoffMillis < 2 ^ 64 →
      Moves m (.serialPeerClosed serial consoleGeneration now)
        (.ok (.action (.retrySerialAt (now + serialRetryBackoffMillis))))
        { (m.atTime now).lost with childTerminated := true, childReaped := true }.disconnected
  | lostIdleFailed {serial : SerialCorrelation} {consoleGeneration now : Nat} {e : ModelError} :
      m.Timely now → m.state ≠ .reconnecting → m.state ≠ .failClosed → m.serial = some serial →
      m.consoleGeneration = some consoleGeneration → m.child = none → m.pendingLaunch = none →
      Moves m (.serialPeerClosed serial consoleGeneration now) (.err e)
        ({ (m.atTime now).lost with childTerminated := true, childReaped := true }.failed e)
  | lostBusy {serial : SerialCorrelation} {consoleGeneration now : Nat} : m.Timely now →
      m.state ≠ .reconnecting → m.state ≠ .failClosed → m.serial = some serial →
      m.consoleGeneration = some consoleGeneration →
      (m.child.isSome = true ∧ m.state ≠ .active) ∨ (m.child = none ∧ m.pendingLaunch.isSome = true) →
      Moves m (.serialPeerClosed serial consoleGeneration now) (.ok (.action .none))
        (m.atTime now).lost
  | terminated {event : EventGeneration} {now : Nat} : m.Timely now → m.state = .retiringChild →
      m.event = some event →
      Moves m (.childTerminated event now) (.ok (.action (.reapChild m.childJob)))
        { m.atTime now with childTerminated := true, state := .awaitingReap }
  | incomplete {event : EventGeneration} {now : Nat} {child : ChildSession} : m.Timely now →
      m.state = .awaitingReap → m.childTerminated = true → m.event = some event →
      m.child = some child → child.anyPeerLive = true →
      Moves m (.childReaped event now) (.err .incompleteCleanup)
        { m.atTime now with childReaped := true }
  | reapedAfterLoss {event : EventGeneration} {now : Nat} : m.Timely now →
      m.state = .awaitingReap → m.event = some event → m.serialCleanup = false →
      m.Reapable event now →
      Moves m (.childReaped event now) (.ok (.action .none)) { m.atTime now with childReaped := true }
  | replaced {event : EventGeneration} {now : Nat} {childWindow : RestartWindow} : m.Timely now →
      m.state = .awaitingReap → m.event = some event → m.serialCleanup = true →
      m.childWindow.add (m.childFailureAt.getD now) = .ok (false, childWindow) →
      m.Reapable event now →
      Moves m (.childReaped event now) (.ok (.action .replaceChild))
        ((m.atTime now).retired childWindow)
  | escalated {event : EventGeneration} {now : Nat} {childWindow : RestartWindow} : m.Timely now →
      m.state = .awaitingReap → m.event = some event → m.serialCleanup = true →
      m.childWindow.add (m.childFailureAt.getD now) = .ok (true, childWindow) →
      m.Reapable event now →
      Moves m (.childReaped event now) (.ok (.action .escalate))
        { (m.atTime now).retired childWindow with
          state := .exhausted, childExhausted := true, lastFailure := some .restartExhausted }
  | cleaned {serial : SerialCorrelation} {consoleGeneration now : Nat} : m.Timely now →
      m.state = .awaitingReap → m.serialCleanup = false → m.childReaped = true →
      m.serial = some serial → m.consoleGeneration = some consoleGeneration →
      now + serialRetryBackoffMillis < 2 ^ 64 →
      Moves m (.completeSerialCleanup serial consoleGeneration now)
        (.ok (.action (.retrySerialAt (now + serialRetryBackoffMillis))))
        { m.atTime now with child := none }.disconnected
  | cleanupFailed {serial : SerialCorrelation} {consoleGeneration now : Nat} {e : ModelError} :
      m.Timely now → m.state = .awaitingReap → m.serialCleanup = false → m.serial = some serial →
      Moves m (.completeSerialCleanup serial consoleGeneration now) (.err e)
        ({ m.atTime now with child := none }.failed e)
  | retrying {now : Nat} {serialWindow : RestartWindow} : m.Timely now → m.state = .reconnecting →
      m.serialWindow.add now = .ok (false, serialWindow) →
      now + serialRetryBackoffMillis < 2 ^ 64 →
      Moves m (.serialReconnectFailed now)
        (.ok (.action (.retrySerialAt (now + serialRetryBackoffMillis))))
        { m.atTime now with pendingConnect := none, serialWindow }
  | serialExhausted {now : Nat} {serialWindow : RestartWindow} : m.Timely now →
      m.state = .reconnecting → m.serialWindow.add now = .ok (true, serialWindow) →
      Moves m (.serialReconnectFailed now) (.ok (.action .escalate))
        { m.atTime now with
          pendingConnect := none, serialWindow, state := .exhausted, serialExhausted := true
          lastFailure := some .restartExhausted }
  | reconnectFailed {now : Nat} {serialWindow : RestartWindow} {e : ModelError} : m.Timely now →
      m.state = .reconnecting → m.serialWindow.add now = .ok (false, serialWindow) →
      Moves m (.serialReconnectFailed now) (.err e)
        ({ m.atTime now with pendingConnect := none, serialWindow }.failed e)
  | reservedNothing {op : Op} : Reserves op → Moves m op (.ok (.reserved none)) m
  | reservedStdin {room : Nat} {event : EventGeneration} : m.state = .active →
      m.event = some event → m.pendingStdin = none → m.nextReservation + 1 < 2 ^ 64 →
      Moves m (.reserveChildStdin room)
        (.ok (.reserved (some (m.stdinReservation room event, m.stdinBytes room))))
        { m with nextReservation := m.nextReservation + 1
                 pendingStdin := some (m.stdinReservation room event) }
  | committedStdin {reservation : Reservation} {queue : BoundedQueue} : m.state = .active →
      m.pendingStdin = some reservation → m.event = some reservation.event →
      m.input.consume reservation.length = .ok queue →
      Moves m (.commitChildStdin reservation) (.ok .done)
        { m with input := queue, pendingStdin := none }
  | releasedStdin {reservation : Reservation} : m.pendingStdin = some reservation →
      m.event = some reservation.event →
      Moves m (.releaseChildStdin reservation) (.ok .done) { m with pendingStdin := none }
  | reservedTx {room : Nat} {event : EventGeneration} : m.state = .active →
      m.event = some event → m.pendingTx = none → (m.queueFor m.turn).isEmpty = false →
      m.nextReservation + 1 < 2 ^ 64 →
      Moves m (.reserveSerialTx room)
        (.ok (.reserved (some (m.txReservation room event, m.txBytes room))))
        { m with nextReservation := m.nextReservation + 1
                 pendingTx := some (m.txReservation room event) }
  | committedTx {reservation : Reservation} {source : OutputSource}
      {queue stdout stderr : BoundedQueue} : m.state = .active →
      m.pendingTx = some reservation → m.event = some reservation.event →
      reservation.source = some source →
      (m.queueFor source).consume reservation.length = .ok queue →
      m.setQueue queue source = { m with stdout, stderr } →
      Moves m (.commitSerialTx reservation) (.ok .done)
        { m with stdout, stderr, nextOutput := other source, pendingTx := none }
  | releasedTx {reservation : Reservation} : m.pendingTx = some reservation →
      m.event = some reservation.event →
      Moves m (.releaseSerialTx reservation) (.ok .done) { m with pendingTx := none }
  | readied {event : EventGeneration} {now : Nat} {token : ReadyToken} : m.Timely now →
      m.eventIsCurrent event = true →
      readyToken { m with readyObserved := some event } = some token →
      Moves m (.observeChildReady event now) (.ok (.ready token))
        { m.atTime now with
          readyObserved := some event
          stable := if m.stable.map Prod.fst = some token then m.stable else some (token, now) }
  | unstable {now since : Nat} {token : ReadyToken} : m.Timely now → m.readyToken = some token →
      m.stable = some (token, since) → now < since + stableRunMillis →
      Moves m (.observeReady now token) (.ok (.stable false)) (m.atTime now)
  | stable {now since : Nat} {token : ReadyToken} : m.Timely now → m.readyToken = some token →
      m.stable = some (token, since) → since + stableRunMillis ≤ now →
      Moves m (.observeReady now token) (.ok (.stable true))
        { m.atTime now with childWindow := .new, stable := some (token, now) }
  | restabilized {now : Nat} {token : ReadyToken} : m.Timely now → m.readyToken = some token →
      (∀ stable ∈ m.stable, stable.1 ≠ token) →
      Moves m (.observeReady now token) (.ok (.stable false))
        { m.atTime now with stable := some (token, now) }
  | taken : Moves m .takeRecoveryAction (.ok (.recovery m.pendingRecovery))
      { m with pendingRecovery := none }

end Wyrmroot.Consoled
