import Mathlib.Algebra.Group.Nat.Defs
import Wyrmroot.Lib.Run

/-!
# The restart supervisor

`RestartSupervisor` of `wyrmroot-runtime/src/supervision/restart.rs`: the
finite restart policy of one logical peer. Times, generations and
transactions are `u64` in the source; the only arithmetic on them is
checked, so they are `Nat` here with the `u64` bound at each checked
addition.

The fixed history `[Option<AttemptRecord>; 4]` with its length is the list
of its first `len` records; the source never looks past the length.
-/

namespace Wyrmroot.Restart

def u64Max : Nat := 2 ^ 64 - 1

def u8Max : Nat := 2 ^ 8 - 1

/-- Maximum number of terminal attempts retained. -/
def restartHistoryCapacity : Nat := 4

structure SupervisionPolicy where
  maxAttempts : Nat
  backoffNs : Nat
  restartWindowNs : Nat
  readyTimeoutNs : Nat
  cleanupTimeoutNs : Nat
deriving DecidableEq

def wyr0ISupervisionPolicy : SupervisionPolicy where
  maxAttempts := 4
  backoffNs := 25000000
  restartWindowNs := 2000000000
  readyTimeoutNs := 1000000000
  cleanupTimeoutNs := 1000000000

inductive TerminalDisposition where
  | normalExit (code : Nat)
  | authorizedTermination
  | taskGroupTeardown
  | unhandledException
deriving DecidableEq

inductive AttemptFailure where
  | creationFailed
  | startFailed
  | exitBeforeReady (disposition : TerminalDisposition)
  | malformedReady
  | duplicateReady
  | readinessFailedAfterExit
  | wrongTransactionReady
  | peerClosedBeforeReady
  | waitFailed
  | exitQueryFailed
  | readyTimeout
  | exitAfterReady (disposition : TerminalDisposition)
  | cancelled
deriving DecidableEq

inductive CleanupAction where
  | closeUnpublished
  | terminateTaskGroup
  | closeTerminal
deriving DecidableEq

inductive CleanupDisposition where
  | complete
  | failed
deriving DecidableEq

structure AttemptRecord where
  attempt : Nat
  generation : Nat
  transactionId : Nat
  startedAtNs : Nat
  terminalAtNs : Nat
  failure : AttemptFailure
  cleanup : CleanupDisposition
deriving DecidableEq

inductive RestartState where
  | stopped
  | starting (attempt generation transactionId deadlineNs : Nat)
  | awaitingReady (attempt generation transactionId deadlineNs : Nat)
  | ready (attempt generation transactionId : Nat)
  | cleaningUp (attempt generation transactionId : Nat) (failure : AttemptFailure)
      (action : CleanupAction) (classifiedAtNs deadlineNs : Nat) (retry : Bool)
  | backoff (nextAttempt nextGeneration deadlineNs : Nat)
  | permanentFailure (finalFailure : AttemptFailure) (cleanup : CleanupDisposition)
deriving DecidableEq

inductive RestartTransitionError where
  | invalidPolicy
  | zeroIdentity
  | invalidState
  | staleGeneration
  | transactionMismatch
  | deadlineNotReached
  | deadlineExpired
  | deadlineMismatch
  | timeRegression
  | generationNotAdvanced
  | attemptFailed (failure : AttemptFailure)
  | arithmeticOverflow
  | historyExhausted
deriving DecidableEq

structure RestartSupervisor where
  policy : SupervisionPolicy
  state : RestartState
  history : List AttemptRecord
  episodeStartedAtNs : Nat
  attemptStartedAtNs : Nat
  lastObservedNs : Nat
  lastGeneration : Nat
deriving DecidableEq

abbrev Sup (α : Type) := Prog RestartSupervisor Empty RestartTransitionError α

/-! ## Checks -/

abbrev Check (α : Type) := Outcome RestartTransitionError α

def validateIdentity (generation transactionId : Nat) : Check Unit :=
  if generation = 0 ∨ transactionId = 0 then .err .zeroIdentity else .ok ()

def validateEventIdentity (generation transactionId currentGeneration
    currentTransaction : Nat) : Check Unit := do
  validateIdentity generation transactionId
  if generation ≠ currentGeneration then .err .staleGeneration
  else if transactionId ≠ currentTransaction then .err .transactionMismatch
  else .ok ()

def checkedDeadline (nowNs durationNs : Nat) : Check Nat :=
  if nowNs + durationNs ≤ u64Max then .ok (nowNs + durationNs) else .err .arithmeticOverflow

def validateDeadline (expectedDeadlineNs currentDeadlineNs : Nat) : Check Unit :=
  if expectedDeadlineNs = currentDeadlineNs then .ok () else .err .deadlineMismatch

def requireReached (nowNs deadlineNs : Nat) : Check Unit :=
  if nowNs < deadlineNs then .err .deadlineNotReached else .ok ()

/-- The identity of the generation in flight, if there is one. -/
def activeIdentity : RestartState → Option (Nat × Nat)
  | .starting _ generation transactionId _ => some (generation, transactionId)
  | .awaitingReady _ generation transactionId _ => some (generation, transactionId)
  | .ready _ generation transactionId => some (generation, transactionId)
  | .cleaningUp _ generation transactionId _ _ _ _ _ => some (generation, transactionId)
  | _ => none

/-! ## The supervisor's own helpers -/

namespace RestartSupervisor

def new (policy : SupervisionPolicy) : Check RestartSupervisor :=
  if policy.maxAttempts = 0 ∨ restartHistoryCapacity < policy.maxAttempts
      ∨ policy.backoffNs = 0 ∨ policy.restartWindowNs = 0
      ∨ policy.readyTimeoutNs = 0 ∨ policy.cleanupTimeoutNs = 0 then
    .err .invalidPolicy
  else
    .ok { policy, state := .stopped, history := [], episodeStartedAtNs := 0,
          attemptStartedAtNs := 0, lastObservedNs := 0, lastGeneration := 0 }

def observeTime (nowNs : Nat) : Sup Unit := do
  let self ← Prog.get
  if nowNs < self.lastObservedNs then Prog.throw .timeRegression
  else Prog.set { self with lastObservedNs := nowNs }

/-- `RestartHistory::push`. -/
def pushHistory (record : AttemptRecord) : Sup Unit := do
  let self ← Prog.get
  if self.history.length < restartHistoryCapacity then
    Prog.set { self with history := self.history ++ [record] }
  else Prog.throw .historyExhausted

def setState (state : RestartState) : Sup Unit :=
  Prog.modify fun self => { self with state }

def identityErrorOrInvalidState (generation transactionId : Nat) : Sup Unit := do
  let self ← Prog.get
  match activeIdentity self.state with
  | some (currentGeneration, currentTransaction) => do
      Prog.lift (validateEventIdentity generation transactionId currentGeneration
        currentTransaction)
      Prog.throw .invalidState
  | none => Prog.throw .invalidState

def currentFailure : Sup AttemptFailure := do
  let self ← Prog.get
  match self.state with
  | .cleaningUp _ _ _ failure _ _ _ _ => pure failure
  | _ => Prog.throw .invalidState

def lastFailure : Sup AttemptFailure := do
  let self ← Prog.get
  match self.history.getLast? with
  | some record => pure record.failure
  | none => Prog.throw .invalidState

def enterCleanup (nowNs : Nat) (failure : AttemptFailure) (action : CleanupAction)
    (retry : Bool) : Sup Unit := do
  let self ← Prog.get
  match self.state with
  | .starting attempt generation transactionId _
  | .awaitingReady attempt generation transactionId _
  | .ready attempt generation transactionId => do
      let deadlineNs ← Prog.lift (checkedDeadline nowNs self.policy.cleanupTimeoutNs)
      setState (.cleaningUp attempt generation transactionId failure action nowNs
        deadlineNs retry)
  | _ => Prog.throw .invalidState

/-- Leave `CleaningUp`. The record is pushed first; the deadline arithmetic
that follows can still fail. -/
def finishCleanup (nowNs : Nat) (failure : AttemptFailure)
    (requestedCleanup : CleanupDisposition) : Sup Unit := do
  let self ← Prog.get
  match self.state with
  | .cleaningUp attempt generation transactionId current _ classifiedAtNs deadlineNs retry => do
      if failure ≠ current then Prog.throw .invalidState
      else do
        let cleanup :=
          if requestedCleanup = .complete ∧ deadlineNs ≤ nowNs then .failed
          else requestedCleanup
        pushHistory { attempt, generation, transactionId,
                      startedAtNs := self.attemptStartedAtNs,
                      terminalAtNs := classifiedAtNs, failure, cleanup }
        if cleanup = .failed then setState (.permanentFailure failure cleanup)
        else if retry = false then setState .stopped
        else if u8Max < attempt + 1 then Prog.throw .arithmeticOverflow
        else if self.policy.maxAttempts < attempt + 1 then
          setState (.permanentFailure failure cleanup)
        else if u64Max < generation + 1 then
          setState (.permanentFailure failure cleanup)
        else do
          let deadlineNs ← Prog.lift (checkedDeadline nowNs self.policy.backoffNs)
          let windowEnd ← Prog.lift
            (checkedDeadline self.episodeStartedAtNs self.policy.restartWindowNs)
          if windowEnd < deadlineNs then setState (.permanentFailure failure cleanup)
          else setState (.backoff (attempt + 1) (generation + 1) deadlineNs)
  | _ => Prog.throw .invalidState

/-! ## Public transitions -/

def begin (nowNs generation transactionId : Nat) : Sup Unit := do
  let self ← Prog.get
  if self.state ≠ .stopped then Prog.throw .invalidState
  else do
    Prog.lift (validateIdentity generation transactionId)
    if generation ≤ self.lastGeneration then Prog.throw .generationNotAdvanced
    else do
      let deadlineNs ← Prog.lift (checkedDeadline nowNs self.policy.readyTimeoutNs)
      observeTime nowNs
      Prog.modify fun self =>
        { self with
          history := [], episodeStartedAtNs := nowNs, attemptStartedAtNs := nowNs,
          lastGeneration := generation,
          state := .starting 1 generation transactionId deadlineNs }

def childStarted (generation transactionId nowNs : Nat) : Sup Unit := do
  let self ← Prog.get
  match self.state with
  | .starting attempt currentGeneration currentTransaction deadlineNs => do
      Prog.lift (validateEventIdentity generation transactionId currentGeneration
        currentTransaction)
      observeTime nowNs
      if deadlineNs ≤ nowNs then do
        enterCleanup nowNs .readyTimeout .terminateTaskGroup true
        Prog.throw (.attemptFailed .readyTimeout)
      else setState (.awaitingReady attempt generation transactionId deadlineNs)
  | _ => Prog.throw .invalidState

def ready (generation transactionId nowNs : Nat) : Sup Unit := do
  let self ← Prog.get
  match self.state with
  | .awaitingReady attempt currentGeneration currentTransaction deadlineNs => do
      Prog.lift (validateIdentity generation transactionId)
      if generation ≠ currentGeneration then Prog.throw .staleGeneration
      else do
        observeTime nowNs
        if transactionId ≠ currentTransaction then do
          enterCleanup nowNs .wrongTransactionReady .terminateTaskGroup true
          Prog.throw (.attemptFailed .wrongTransactionReady)
        else if deadlineNs ≤ nowNs then do
          enterCleanup nowNs .readyTimeout .terminateTaskGroup true
          Prog.throw (.attemptFailed .readyTimeout)
        else setState (.ready attempt generation transactionId)
  | _ => identityErrorOrInvalidState generation transactionId

/-- Which failures a controller may report in which state. -/
def failureAllowed (failure : AttemptFailure) (state : RestartState) : Bool :=
  match failure, state with
  | .creationFailed, .starting .. => true
  | .startFailed, .starting .. => true
  | .malformedReady, .awaitingReady .. => true
  | .wrongTransactionReady, .awaitingReady .. => true
  | .peerClosedBeforeReady, .awaitingReady .. => true
  | .duplicateReady, .ready .. => true
  | .readinessFailedAfterExit, .awaitingReady .. => true
  | .readinessFailedAfterExit, .ready .. => true
  | .waitFailed, .awaitingReady .. => true
  | .waitFailed, .ready .. => true
  | .exitQueryFailed, .awaitingReady .. => true
  | .exitQueryFailed, .ready .. => true
  | _, _ => false

/-- The cleanup a generation needs in the state it is in. -/
def activeAction : RestartState → Option (Nat × Nat × CleanupAction)
  | .starting _ generation transactionId _ =>
      some (generation, transactionId, .closeUnpublished)
  | .awaitingReady _ generation transactionId _ =>
      some (generation, transactionId, .terminateTaskGroup)
  | .ready _ generation transactionId =>
      some (generation, transactionId, .terminateTaskGroup)
  | _ => none

def failAttempt (generation transactionId nowNs : Nat) (failure : AttemptFailure) :
    Sup Unit := do
  let self ← Prog.get
  match activeAction self.state with
  | some (currentGeneration, currentTransaction, action) => do
      Prog.lift (validateEventIdentity generation transactionId currentGeneration
        currentTransaction)
      observeTime nowNs
      if failureAllowed failure self.state = false then Prog.throw .invalidState
      else
        let action :=
          if failure = .exitQueryFailed ∨ failure = .readinessFailedAfterExit then
            .closeTerminal
          else action
        enterCleanup nowNs failure action true
  | none => identityErrorOrInvalidState generation transactionId

/-- Works on a copy: an error of the inner `fail_attempt` is returned
without storing the copy back. -/
def admitRecovery (generation transactionId nowNs : Nat) (failure : AttemptFailure) :
    Sup Unit := do
  let self ← Prog.get
  match self.state with
  | .ready _ currentGeneration currentTransaction => do
      Prog.lift (validateEventIdentity generation transactionId currentGeneration
        currentTransaction)
      let _ ← Prog.lift (checkedDeadline nowNs self.policy.restartWindowNs)
      let candidate :=
        { self with
          history := [], episodeStartedAtNs := nowNs,
          state := .ready 1 generation transactionId }
      match failAttempt generation transactionId nowNs failure candidate with
      | (.ok _, candidate', _) => Prog.set candidate'
      | (.err e, _, _) => Prog.throw e
      | (.panic, _, _) => Prog.panic
  | _ => Prog.throw .invalidState

def retireActiveFailClosed (generation transactionId nowNs : Nat)
    (failure : AttemptFailure) (cleanup : CleanupDisposition) : Sup Unit := do
  let self ← Prog.get
  match self.state with
  | .starting attempt currentGeneration currentTransaction _
  | .awaitingReady attempt currentGeneration currentTransaction _
  | .ready attempt currentGeneration currentTransaction => do
      Prog.lift (validateEventIdentity generation transactionId currentGeneration
        currentTransaction)
      observeTime nowNs
      pushHistory { attempt, generation, transactionId,
                    startedAtNs := self.attemptStartedAtNs,
                    terminalAtNs := nowNs, failure, cleanup }
      setState (.permanentFailure failure cleanup)
  | _ => identityErrorOrInvalidState generation transactionId

def terminal (generation transactionId nowNs : Nat) (disposition : TerminalDisposition) :
    Sup Unit := do
  let self ← Prog.get
  match self.state with
  | .starting _ currentGeneration currentTransaction _
  | .awaitingReady _ currentGeneration currentTransaction _ => do
      Prog.lift (validateEventIdentity generation transactionId currentGeneration
        currentTransaction)
      observeTime nowNs
      enterCleanup nowNs (.exitBeforeReady disposition) .closeTerminal true
  | .ready _ currentGeneration currentTransaction => do
      Prog.lift (validateEventIdentity generation transactionId currentGeneration
        currentTransaction)
      observeTime nowNs
      enterCleanup nowNs (.exitAfterReady disposition) .closeTerminal
        (decide (disposition ≠ .normalExit 0))
  | _ => identityErrorOrInvalidState generation transactionId

def deadlineElapsed (generation transactionId expectedDeadlineNs nowNs : Nat) :
    Sup Unit := do
  let self ← Prog.get
  match self.state with
  | .starting _ currentGeneration currentTransaction deadlineNs => do
      Prog.lift (validateEventIdentity generation transactionId currentGeneration
        currentTransaction)
      Prog.lift (validateDeadline expectedDeadlineNs deadlineNs)
      observeTime nowNs
      Prog.lift (requireReached nowNs deadlineNs)
      enterCleanup nowNs .readyTimeout .closeUnpublished true
  | .awaitingReady _ currentGeneration currentTransaction deadlineNs => do
      Prog.lift (validateEventIdentity generation transactionId currentGeneration
        currentTransaction)
      Prog.lift (validateDeadline expectedDeadlineNs deadlineNs)
      observeTime nowNs
      Prog.lift (requireReached nowNs deadlineNs)
      enterCleanup nowNs .readyTimeout .terminateTaskGroup true
  | .cleaningUp _ currentGeneration currentTransaction failure _ _ deadlineNs _ => do
      Prog.lift (validateEventIdentity generation transactionId currentGeneration
        currentTransaction)
      Prog.lift (validateDeadline expectedDeadlineNs deadlineNs)
      observeTime nowNs
      Prog.lift (requireReached nowNs deadlineNs)
      finishCleanup nowNs failure .failed
  | _ => Prog.throw .invalidState

def cancel (generation transactionId nowNs : Nat) : Sup Unit := do
  let self ← Prog.get
  match activeAction self.state with
  | some (currentGeneration, currentTransaction, action) => do
      Prog.lift (validateEventIdentity generation transactionId currentGeneration
        currentTransaction)
      observeTime nowNs
      enterCleanup nowNs .cancelled action false
  | none => identityErrorOrInvalidState generation transactionId

/-- `cleanup_complete` and `cleanup_failed` differ only in the disposition
they ask `finish_cleanup` for. -/
def cleanupReported (requested : CleanupDisposition) (generation transactionId nowNs : Nat) :
    Sup Unit := do
  let self ← Prog.get
  match self.state with
  | .cleaningUp _ currentGeneration currentTransaction _ _ _ _ _ => do
      Prog.lift (validateEventIdentity generation transactionId currentGeneration
        currentTransaction)
      observeTime nowNs
      let failure ← currentFailure
      finishCleanup nowNs failure requested
  | _ => identityErrorOrInvalidState generation transactionId

def cleanupComplete (generation transactionId nowNs : Nat) : Sup Unit :=
  cleanupReported .complete generation transactionId nowNs

def cleanupFailed (generation transactionId nowNs : Nat) : Sup Unit :=
  cleanupReported .failed generation transactionId nowNs

def startReplacement (nowNs generation transactionId : Nat) : Sup Unit := do
  let self ← Prog.get
  match self.state with
  | .backoff nextAttempt nextGeneration deadlineNs => do
      Prog.lift (validateIdentity generation transactionId)
      if generation ≠ nextGeneration then Prog.throw .staleGeneration
      else do
        observeTime nowNs
        Prog.lift (requireReached nowNs deadlineNs)
        let windowEnd ← Prog.lift
          (checkedDeadline self.episodeStartedAtNs self.policy.restartWindowNs)
        if windowEnd < nowNs then do
          let finalFailure ← lastFailure
          setState (.permanentFailure finalFailure .complete)
        else do
          let deadlineNs ← Prog.lift (checkedDeadline nowNs self.policy.readyTimeoutNs)
          Prog.modify fun self =>
            { self with
              attemptStartedAtNs := nowNs, lastGeneration := generation,
              state := .starting nextAttempt generation transactionId deadlineNs }
  | _ => Prog.throw .invalidState

end RestartSupervisor

/-! ## The machine -/

inductive Op where
  | begin (nowNs generation transactionId : Nat)
  | childStarted (generation transactionId nowNs : Nat)
  | ready (generation transactionId nowNs : Nat)
  | failAttempt (generation transactionId nowNs : Nat) (failure : AttemptFailure)
  | admitRecovery (generation transactionId nowNs : Nat) (failure : AttemptFailure)
  | retireActiveFailClosed (generation transactionId nowNs : Nat)
      (failure : AttemptFailure) (cleanup : CleanupDisposition)
  | terminal (generation transactionId nowNs : Nat) (disposition : TerminalDisposition)
  | deadlineElapsed (generation transactionId expectedDeadlineNs nowNs : Nat)
  | cancel (generation transactionId nowNs : Nat)
  | cleanupComplete (generation transactionId nowNs : Nat)
  | cleanupFailed (generation transactionId nowNs : Nat)
  | startReplacement (nowNs generation transactionId : Nat)
deriving DecidableEq

open RestartSupervisor in
def exec : Op → Sup Unit
  | .begin now g t => begin now g t
  | .childStarted g t now => childStarted g t now
  | .ready g t now => ready g t now
  | .failAttempt g t now f => failAttempt g t now f
  | .admitRecovery g t now f => admitRecovery g t now f
  | .retireActiveFailClosed g t now f c => retireActiveFailClosed g t now f c
  | .terminal g t now d => terminal g t now d
  | .deadlineElapsed g t d now => deadlineElapsed g t d now
  | .cancel g t now => cancel g t now
  | .cleanupComplete g t now => cleanupComplete g t now
  | .cleanupFailed g t now => cleanupFailed g t now
  | .startReplacement now g t => startReplacement now g t

/-- A supervisor as `RestartSupervisor::new` returns it. -/
def Fresh (s : RestartSupervisor) : Prop :=
  ∃ policy, RestartSupervisor.new policy = .ok s

abbrev SupervisorCall := Call Op RestartSupervisor Empty RestartTransitionError Unit

abbrev History := List SupervisorCall

abbrev SupervisorRun : History → RestartSupervisor → Prop := Run exec Fresh

end Wyrmroot.Restart
