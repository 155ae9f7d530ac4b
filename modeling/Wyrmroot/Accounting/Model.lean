import Wyrmroot.Lib.Table
import Wyrmroot.Restart.Model

/-!
# Readiness accounting

The bounded ledger of `bounded_accounting.rs`: per-peer and aggregate
counters of thirteen resources, with admission, release, transaction,
restart-history and retirement operations.

Arrays over `AccountedResource` are functions of the resource; the two
arrays `next_peer` and `next_aggregate`, which the source always walks
together, are one array of pairs. Counters, generations and transaction
ids are naturals and every addition the source checks is checked against
`u64::MAX`.

Tokens are affine values held outside the ledger: an operation takes
`&mut token`, so its program runs over the ledger and the token together.
The machine at the end has any number of ledgers side by side, made by
`with_budgets`, and one pool with every token any of them issued; a call
names its ledger and token by position and can bring a token to a ledger
that did not issue it.
-/

namespace Wyrmroot.Accounting

open Function
open Wyrmroot.Restart (u64Max AttemptRecord)

/-- Maximum simultaneously admitted logical peer slots. -/
def maxAccountedPeers : Nat := 4

/-- Maximum live transactions retained for one peer generation. -/
def maxLiveTransactionsPerPeer : Nat := 4

/-- Maximum completed transaction ids retained for replay rejection. -/
def maxReplayEntriesPerPeer : Nat := 8

inductive EnforcementClass where
  | kernel
  | wyrmroot
  | future
deriving DecidableEq

inductive AccountedResource where
  | liveProcessGenerations
  | inFlightTransactions
  | completedReplayEntries
  | retainedMessages
  | retainedPayloadBytes
  | delegatedHandles
  | sharedMemoryObjects
  | sharedMemoryBytes
  | mappedBytes
  | waitOperations
  | events
  | timers
  | restartHistoryRecords
deriving DecidableEq

namespace AccountedResource

def all : List AccountedResource :=
  [liveProcessGenerations, inFlightTransactions, completedReplayEntries, retainedMessages,
    retainedPayloadBytes, delegatedHandles, sharedMemoryObjects, sharedMemoryBytes,
    mappedBytes, waitOperations, events, timers, restartHistoryRecords]

/-- Resources with transitions of their own. -/
def managed : AccountedResource → Bool
  | liveProcessGenerations => true
  | inFlightTransactions => true
  | completedReplayEntries => true
  | restartHistoryRecords => true
  | _ => false

@[simp] theorem mem_all (r : AccountedResource) : r ∈ all := by
  cases r <;> simp [all]

theorem nodup_all : all.Nodup := by
  decide

end AccountedResource

abbrev Counters := AccountedResource → Nat

structure ResourceBudget where
  resource : AccountedResource
  perPeer : Nat
  aggregate : Nat
  enforcement : EnforcementClass
deriving DecidableEq

def budget (resource : AccountedResource) (perPeer aggregate : Nat) : ResourceBudget :=
  { resource, perPeer, aggregate, enforcement := .wyrmroot }

/-- Canonical controller-owned budgets. -/
def wyr0IResourceBudgets : AccountedResource → ResourceBudget
  | .liveProcessGenerations => budget .liveProcessGenerations 1 4
  | .inFlightTransactions => budget .inFlightTransactions 4 16
  | .completedReplayEntries => budget .completedReplayEntries 8 32
  | .retainedMessages => budget .retainedMessages 8 32
  | .retainedPayloadBytes => budget .retainedPayloadBytes 4096 16384
  | .delegatedHandles => budget .delegatedHandles 8 32
  | .sharedMemoryObjects => budget .sharedMemoryObjects 2 8
  | .sharedMemoryBytes => budget .sharedMemoryBytes 8192 32768
  | .mappedBytes => budget .mappedBytes 16384 65536
  | .waitOperations => budget .waitOperations 4 16
  | .events => budget .events 2 8
  | .timers => budget .timers 2 8
  | .restartHistoryRecords => budget .restartHistoryRecords 4 16

inductive ReservationState where
  | reserved
  | published
  | released
deriving DecidableEq

structure ReservationToken where
  controllerId : Nat
  peer : Nat
  generation : Nat
  amounts : Counters
  state : ReservationState

structure TransactionToken where
  controllerId : Nat
  peer : Nat
  generation : Nat
  transactionId : Nat
  active : Bool
deriving DecidableEq

structure GenerationRetirement where
  released : Counters
  preservedRestartHistory : Nat

inductive AccountingError where
  | controllerIdExhausted
  | invalidBudgetPolicy
  | invalidPeer
  | zeroGeneration
  | zeroTransaction
  | peerAlreadyActive
  | peerInactive
  | generationNotAdvanced
  | staleGeneration
  | emptyReservation
  | managedResource (resource : AccountedResource)
  | perPeerLimit (resource : AccountedResource)
  | aggregateLimit (resource : AccountedResource)
  | counterOverflow
  | counterUnderflow
  | tokenOriginMismatch
  | tokenAlreadyPublished
  | tokenAlreadyReleased
  | duplicateTransaction
  | replayedTransaction
  | transactionCapacity
  | transactionTokenInactive
  | transactionNotLive
  | episodeStillActive
  | restartHistoryMismatch
  | terminalRecordMissing
  | cleanupIncomplete
  | outstandingGenerationResource (resource : AccountedResource)
deriving DecidableEq

structure PeerAccounting where
  active : Bool
  generation : Nat
  counters : Counters
  liveTransactions : Fin maxLiveTransactionsPerPeer → Nat
  replay : Fin maxReplayEntriesPerPeer → Nat
  replayLen : Nat
  replayNext : Nat
  lastHistoryGeneration : Nat
  terminalGeneration : Nat
  terminalCleanupComplete : Bool

namespace PeerAccounting

def new : PeerAccounting :=
  { active := false, generation := 0, counters := fun _ => 0,
    liveTransactions := fun _ => 0, replay := fun _ => 0, replayLen := 0, replayNext := 0,
    lastHistoryGeneration := 0, terminalGeneration := 0, terminalCleanupComplete := false }

/-- `self.replay[..replay_len].contains(&transaction_id)`. -/
def replayContains (self : PeerAccounting) (transactionId : Nat) : Bool :=
  (List.finRange maxReplayEntriesPerPeer).any fun i =>
    i.val < self.replayLen && self.replay i == transactionId

def livePosition (self : PeerAccounting) (transactionId : Nat) :
    Option (Fin maxLiveTransactionsPerPeer) :=
  position fun i => self.liveTransactions i == transactionId

end PeerAccounting

structure ReadinessAccounting where
  controllerId : Nat
  budgets : AccountedResource → ResourceBudget
  peers : Fin maxAccountedPeers → PeerAccounting
  aggregate : Counters

abbrev Check (α : Type) := Outcome AccountingError α

/-- Operations on a ledger. -/
abbrev Ledger (α : Type) := Prog ReadinessAccounting Empty AccountingError α

/-- Operations on a ledger and a token the caller holds. -/
abbrev TokenLedger (τ α : Type) := Prog (ReadinessAccounting × τ) Empty AccountingError α

/-! ## Requests -/

structure ReservationRequest where
  amounts : Counters

namespace ReservationRequest

def isEmpty (self : ReservationRequest) : Bool :=
  AccountedResource.all.all fun r => self.amounts r == 0

end ReservationRequest

/-! ## Checks -/

def checkedAdmit (current amount limit : Nat) (overLimit : AccountingError) : Check Nat :=
  if u64Max < current + amount then .err .counterOverflow
  else if limit < current + amount then .err overLimit
  else .ok (current + amount)

/-- `checked_sub(..).ok_or(CounterUnderflow)`. -/
def checkedRelease (current amount : Nat) : Check Nat :=
  if current < amount then .err .counterUnderflow else .ok (current - amount)

def peerIndex (peer : Nat) : Check (Fin maxAccountedPeers) :=
  if h : peer < maxAccountedPeers then .ok ⟨peer, h⟩ else .err .invalidPeer

namespace ReadinessAccounting

def validateGeneration (self : ReadinessAccounting) (peer generation : Nat) :
    Check (Fin maxAccountedPeers) := do
  if generation = 0 then .err .zeroGeneration
  else do
    let i ← peerIndex peer
    if (self.peers i).active = false then .err .peerInactive
    else if generation ≠ (self.peers i).generation then .err .staleGeneration
    else .ok i

def validateReservationToken (self : ReadinessAccounting) (token : ReservationToken) :
    Check Unit := do
  if token.controllerId ≠ self.controllerId then .err .tokenOriginMismatch
  else if token.state = .released then .err .tokenAlreadyReleased
  else do
    let _ ← self.validateGeneration token.peer token.generation
    .ok ()

def validateTransactionToken (self : ReadinessAccounting) (token : TransactionToken) :
    Check (Fin maxAccountedPeers) :=
  if token.controllerId ≠ self.controllerId then .err .tokenOriginMismatch
  else if token.active = false then .err .transactionTokenInactive
  else self.validateGeneration token.peer token.generation

/-- Both counters of every resource, as one table. -/
def both (self : ReadinessAccounting) (i : Fin maxAccountedPeers) :
    AccountedResource → Nat × Nat :=
  fun r => ((self.peers i).counters r, self.aggregate r)

/-- Write one peer's entry. -/
def setPeer (self : ReadinessAccounting) (i : Fin maxAccountedPeers) (p : PeerAccounting) :
    ReadinessAccounting :=
  { self with peers := update self.peers i p }

/-- Write one peer's counters and the aggregate back from a table of both. -/
def commit (self : ReadinessAccounting) (i : Fin maxAccountedPeers)
    (next : AccountedResource → Nat × Nat) : ReadinessAccounting :=
  { self.setPeer i { self.peers i with counters := fun r => (next r).1 } with
    aggregate := fun r => (next r).2 }

/-! ## Construction -/

def budgetOk (resource : AccountedResource) (policy : ResourceBudget) : Bool :=
  !(policy.resource ≠ resource || policy.perPeer == 0 || policy.aggregate == 0
    || policy.aggregate < policy.perPeer
    || min (policy.perPeer * maxAccountedPeers) u64Max < policy.aggregate
    || policy.enforcement ≠ .wyrmroot)

/-- `with_budgets`, given the id `allocate_controller_id` hands out. -/
def withBudgets (controllerId : Check Nat) (budgets : AccountedResource → ResourceBudget) :
    Check ReadinessAccounting := do
  if AccountedResource.all.all (fun r => budgetOk r (budgets r)) = false then
    .err .invalidBudgetPolicy
  else if (budgets .liveProcessGenerations).perPeer ≠ 1
      ∨ maxLiveTransactionsPerPeer < (budgets .inFlightTransactions).perPeer
      ∨ maxReplayEntriesPerPeer < (budgets .completedReplayEntries).perPeer
      ∨ 4 < (budgets .restartHistoryRecords).perPeer then
    .err .invalidBudgetPolicy
  else do
    let controllerId ← controllerId
    .ok { controllerId, budgets, peers := fun _ => PeerAccounting.new,
          aggregate := fun _ => 0 }

/-! ## Generations and reservations -/

def beginGeneration (peer generation : Nat) : Ledger Unit := do
  let self ← Prog.get
  if generation = 0 then Prog.throw .zeroGeneration
  else do
    let i ← Prog.lift (peerIndex peer)
    let current := self.peers i
    if current.active then Prog.throw .peerAlreadyActive
    else if generation ≤ current.generation then Prog.throw .generationNotAdvanced
    else do
      let aggregate ← Prog.lift (checkedAdmit (self.aggregate .liveProcessGenerations) 1
        (self.budgets .liveProcessGenerations).aggregate
        (.aggregateLimit .liveProcessGenerations))
      Prog.set
        { self.setPeer i
            { current with
              active := true, generation,
              counters := update (update (fun _ => 0) .restartHistoryRecords
                (current.counters .restartHistoryRecords)) .liveProcessGenerations 1,
              liveTransactions := fun _ => 0, replay := fun _ => 0, replayLen := 0,
              replayNext := 0, terminalGeneration := 0, terminalCleanupComplete := false } with
          aggregate := update self.aggregate .liveProcessGenerations aggregate }

/-- One turn of the loop in `reserve`. -/
def admitResource (budgets : AccountedResource → ResourceBudget) (amounts : Counters)
    (resource : AccountedResource) (current : Nat × Nat) : Check (Nat × Nat) :=
  let amount := amounts resource
  if amount = 0 then .ok current
  else if resource.managed then .err (.managedResource resource)
  else do
    let peer ← checkedAdmit current.1 amount (budgets resource).perPeer
      (.perPeerLimit resource)
    let aggregate ← checkedAdmit current.2 amount (budgets resource).aggregate
      (.aggregateLimit resource)
    .ok (peer, aggregate)

def reserve (peer generation : Nat) (request : ReservationRequest) :
    Ledger ReservationToken := do
  let self ← Prog.get
  if request.isEmpty then Prog.throw .emptyReservation
  else do
    let i ← Prog.lift (self.validateGeneration peer generation)
    let next ← Prog.lift (updateEach (admitResource self.budgets request.amounts)
      AccountedResource.all (self.both i))
    Prog.set (self.commit i next)
    pure { controllerId := self.controllerId, peer, generation,
           amounts := request.amounts, state := .reserved }

def publish : TokenLedger ReservationToken Unit := do
  let (self, token) ← Prog.get
  Prog.lift (self.validateReservationToken token)
  match token.state with
  | .reserved => Prog.set (self, { token with state := .published })
  | .published => Prog.throw .tokenAlreadyPublished
  | .released => Prog.throw .tokenAlreadyReleased

/-- One turn of the loop in `release`. -/
def releaseResource (amounts : Counters) (resource : AccountedResource)
    (current : Nat × Nat) : Check (Nat × Nat) := do
  let peer ← checkedRelease current.1 (amounts resource)
  let aggregate ← checkedRelease current.2 (amounts resource)
  .ok (peer, aggregate)

def release : TokenLedger ReservationToken Unit := do
  let (self, token) ← Prog.get
  Prog.lift (self.validateReservationToken token)
  if token.state = .released then Prog.throw .tokenAlreadyReleased
  else do
    let i ← Prog.lift (self.validateGeneration token.peer token.generation)
    let next ← Prog.lift (updateEach (releaseResource token.amounts)
      AccountedResource.all (self.both i))
    Prog.set (self.commit i next, { token with state := .released })

/-! ## Transactions -/

def beginTransaction (peer generation transactionId : Nat) : Ledger TransactionToken := do
  let self ← Prog.get
  if transactionId = 0 then Prog.throw .zeroTransaction
  else do
    let i ← Prog.lift (self.validateGeneration peer generation)
    let state := self.peers i
    if (state.livePosition transactionId).isSome then Prog.throw .duplicateTransaction
    else if state.replayContains transactionId then Prog.throw .replayedTransaction
    else
      match state.livePosition 0 with
      | none => Prog.throw .transactionCapacity
      | some liveSlot => do
          let policy := self.budgets .inFlightTransactions
          let nextPeer ← Prog.lift (checkedAdmit (state.counters .inFlightTransactions) 1
            policy.perPeer (.perPeerLimit .inFlightTransactions))
          let nextAggregate ← Prog.lift (checkedAdmit (self.aggregate .inFlightTransactions) 1
            policy.aggregate (.aggregateLimit .inFlightTransactions))
          Prog.set
            { self.setPeer i
                { state with
                  counters := update state.counters .inFlightTransactions nextPeer,
                  liveTransactions := update state.liveTransactions liveSlot transactionId } with
              aggregate := update self.aggregate .inFlightTransactions nextAggregate }
          pure { controllerId := self.controllerId, peer, generation, transactionId,
                 active := true }

/-- The replay capacity is a `u64` budget of at most eight, so the source's
`usize::try_from` cannot fail. An index past the array or a zero modulus
would panic. -/
def completeTransaction : TokenLedger TransactionToken Unit := do
  let (self, token) ← Prog.get
  let i ← Prog.lift (self.validateTransactionToken token)
  let state := self.peers i
  match state.livePosition token.transactionId with
  | none => Prog.throw .transactionNotLive
  | some transactionSlot => do
      let replayCapacity := (self.budgets .completedReplayEntries).perPeer
      let replayGrows : Bool := state.replayLen < replayCapacity
      let nextPeerReplay ← Prog.lift (
        if replayGrows then
          checkedAdmit (state.counters .completedReplayEntries) 1 replayCapacity
            (.perPeerLimit .completedReplayEntries)
        else .ok (state.counters .completedReplayEntries))
      let nextAggregateReplay ← Prog.lift (
        if replayGrows then
          checkedAdmit (self.aggregate .completedReplayEntries) 1
            (self.budgets .completedReplayEntries).aggregate
            (.aggregateLimit .completedReplayEntries)
        else .ok (self.aggregate .completedReplayEntries))
      let nextPeerInFlight ← Prog.lift (checkedRelease (state.counters .inFlightTransactions) 1)
      let nextAggregateInFlight ← Prog.lift
        (checkedRelease (self.aggregate .inFlightTransactions) 1)
      if h : state.replayNext < maxReplayEntriesPerPeer ∧ replayCapacity ≠ 0 then
        Prog.set
          ({ self.setPeer i
              { state with
                liveTransactions := update state.liveTransactions transactionSlot 0,
                counters := update (update state.counters .inFlightTransactions nextPeerInFlight)
                  .completedReplayEntries nextPeerReplay,
                replay := update state.replay ⟨state.replayNext, h.1⟩ token.transactionId,
                replayNext := (state.replayNext + 1) % replayCapacity,
                replayLen := if replayGrows then state.replayLen + 1 else state.replayLen } with
              aggregate := update (update self.aggregate .inFlightTransactions
                nextAggregateInFlight) .completedReplayEntries nextAggregateReplay },
            { token with active := false })
      else Prog.panic

def abortTransaction : TokenLedger TransactionToken Unit := do
  let (self, token) ← Prog.get
  let i ← Prog.lift (self.validateTransactionToken token)
  let state := self.peers i
  match state.livePosition token.transactionId with
  | none => Prog.throw .transactionNotLive
  | some transactionSlot => do
      let nextPeer ← Prog.lift (checkedRelease (state.counters .inFlightTransactions) 1)
      let nextAggregate ← Prog.lift (checkedRelease (self.aggregate .inFlightTransactions) 1)
      Prog.set
        ({ self.setPeer i
            { state with
              liveTransactions := update state.liveTransactions transactionSlot 0,
              counters := update state.counters .inFlightTransactions nextPeer } with
            aggregate := update self.aggregate .inFlightTransactions nextAggregate },
          { token with active := false })

/-! ## Restart history and retirement -/

def recordRestartHistory (peer generation : Nat) (record : AttemptRecord) : Ledger Unit := do
  let self ← Prog.get
  let i ← Prog.lift (self.validateGeneration peer generation)
  let state := self.peers i
  let currentCount := state.counters .restartHistoryRecords
  if u64Max < currentCount + 1 then Prog.throw .counterOverflow
  else if record.generation ≠ generation ∨ record.attempt ≠ currentCount + 1
      ∨ generation ≤ state.lastHistoryGeneration then
    Prog.throw .restartHistoryMismatch
  else do
    let policy := self.budgets .restartHistoryRecords
    let nextPeer ← Prog.lift (checkedAdmit currentCount 1 policy.perPeer
      (.perPeerLimit .restartHistoryRecords))
    let nextAggregate ← Prog.lift (checkedAdmit (self.aggregate .restartHistoryRecords) 1
      policy.aggregate (.aggregateLimit .restartHistoryRecords))
    Prog.set
      { self.setPeer i
          { state with
            counters := update state.counters .restartHistoryRecords nextPeer,
            lastHistoryGeneration := generation, terminalGeneration := generation,
            terminalCleanupComplete := record.cleanup = .complete } with
        aggregate := update self.aggregate .restartHistoryRecords nextAggregate }

/-- The resources a generation may still hold when it retires. -/
def keptUntilRetirement : AccountedResource → Bool
  | .liveProcessGenerations => true
  | .completedReplayEntries => true
  | .restartHistoryRecords => true
  | _ => false

/-- One turn of the second loop in `retire_generation`. -/
def retireResource (released : Counters) (resource : AccountedResource) (current : Nat) :
    Check Nat :=
  if resource = .restartHistoryRecords then .ok current
  else checkedRelease current (released resource)

def retireGeneration (peer generation : Nat) : Ledger GenerationRetirement := do
  let self ← Prog.get
  let i ← Prog.lift (self.validateGeneration peer generation)
  let state := self.peers i
  if state.terminalGeneration ≠ generation then Prog.throw .terminalRecordMissing
  else if state.terminalCleanupComplete = false then Prog.throw .cleanupIncomplete
  else
    match AccountedResource.all.find?
        (fun r => !keptUntilRetirement r && state.counters r != 0) with
    | some resource => Prog.throw (.outstandingGenerationResource resource)
    | none => do
        let history := state.counters .restartHistoryRecords
        let released := update state.counters .restartHistoryRecords 0
        let nextAggregate ← Prog.lift (updateEach (retireResource released)
          AccountedResource.all self.aggregate)
        Prog.set
          { self.setPeer i
              { state with
                active := false,
                counters := update (fun _ => 0) .restartHistoryRecords history,
                liveTransactions := fun _ => 0, replay := fun _ => 0, replayLen := 0,
                replayNext := 0, terminalGeneration := 0,
                terminalCleanupComplete := false } with
            aggregate := nextAggregate }
        pure { released, preservedRestartHistory := history }

def finishRestartEpisode (peer : Nat) : Ledger Nat := do
  let self ← Prog.get
  let i ← Prog.lift (peerIndex peer)
  let state := self.peers i
  if state.active then Prog.throw .episodeStillActive
  else do
    let history := state.counters .restartHistoryRecords
    let nextAggregate ← Prog.lift
      (checkedRelease (self.aggregate .restartHistoryRecords) history)
    Prog.set
      { self.setPeer i
          { state with
            counters := update state.counters .restartHistoryRecords 0,
            lastHistoryGeneration := 0 } with
        aggregate := update self.aggregate .restartHistoryRecords nextAggregate }
    pure history

end ReadinessAccounting

/-! ## The machine -/

/-- The process: the next controller id, every ledger, and every token that
has been issued, whoever holds it. -/
structure Controllers where
  nextControllerId : Nat
  ledgers : List ReadinessAccounting
  reservations : List ReservationToken
  transactions : List TransactionToken

/-- A call names its ledger and its token by their position in the pools. -/
inductive Op where
  | withBudgets (budgets : AccountedResource → ResourceBudget)
  | beginGeneration (ledger peer generation : Nat)
  | reserve (ledger peer generation : Nat) (request : ReservationRequest)
  | publish (ledger token : Nat)
  | release (ledger token : Nat)
  | beginTransaction (ledger peer generation transactionId : Nat)
  | completeTransaction (ledger token : Nat)
  | abortTransaction (ledger token : Nat)
  | recordRestartHistory (ledger peer generation : Nat) (record : AttemptRecord)
  | retireGeneration (ledger peer generation : Nat)
  | finishRestartEpisode (ledger peer : Nat)

abbrev System (α : Type) := Prog Controllers Empty AccountingError α

namespace Controllers

/-- `NEXT_CONTROLLER_ID.fetch_update(.., |current| current.checked_add(1))`. -/
def allocateControllerId (self : Controllers) : Check Nat :=
  if u64Max < self.nextControllerId + 1 then .err .controllerIdExhausted
  else .ok self.nextControllerId

/-- Run a ledger method on the ledger at `index`; no call is made when there
is none. -/
def onLedger {α : Type} (index : Nat) (method : Ledger α) : System (Option α) := fun c =>
  match c.ledgers[index]? with
  | none => (.ok none, c, [])
  | some ledger =>
      ((method ledger).1.bind fun a => .ok (some a),
        { c with ledgers := c.ledgers.set index (method ledger).2.1 }, [])

/-- Run a token method on the ledger at `index` and the token at `token` of a
pool. -/
def onToken {τ : Type} (pool : Controllers → List τ)
    (store : List τ → Controllers → Controllers) (index token : Nat)
    (method : TokenLedger τ Unit) : System Unit := fun c =>
  match c.ledgers[index]?, (pool c)[token]? with
  | some ledger, some held =>
      ((method (ledger, held)).1,
        store ((pool c).set token (method (ledger, held)).2.1.2)
          { c with ledgers := c.ledgers.set index (method (ledger, held)).2.1.1 }, [])
  | _, _ => (.ok (), c, [])

def onReservation : Nat → Nat → TokenLedger ReservationToken Unit → System Unit :=
  onToken (·.reservations) fun reservations c => { c with reservations }

def onTransaction : Nat → Nat → TokenLedger TransactionToken Unit → System Unit :=
  onToken (·.transactions) fun transactions c => { c with transactions }

def withBudgets (budgets : AccountedResource → ResourceBudget) : System Unit := do
  let self ← Prog.get
  let ledger ← Prog.lift (ReadinessAccounting.withBudgets self.allocateControllerId budgets)
  Prog.set { self with
    nextControllerId := self.nextControllerId + 1, ledgers := self.ledgers ++ [ledger] }

/-- The caller keeps a token that a call returns. -/
def keepReservation (token : Option ReservationToken) : System Unit :=
  Prog.modify fun c => { c with reservations := c.reservations ++ token.toList }

def keepTransaction (token : Option TransactionToken) : System Unit :=
  Prog.modify fun c => { c with transactions := c.transactions ++ token.toList }

end Controllers

open Controllers ReadinessAccounting in
def exec : Op → System Unit
  | .withBudgets budgets => Controllers.withBudgets budgets
  | .beginGeneration l peer g => do
      let _ ← onLedger l (beginGeneration peer g)
  | .reserve l peer g request => do
      let token ← onLedger l (reserve peer g request)
      keepReservation token
  | .publish l t => onReservation l t publish
  | .release l t => onReservation l t release
  | .beginTransaction l peer g tx => do
      let token ← onLedger l (beginTransaction peer g tx)
      keepTransaction token
  | .completeTransaction l t => onTransaction l t completeTransaction
  | .abortTransaction l t => onTransaction l t abortTransaction
  | .recordRestartHistory l peer g record => do
      let _ ← onLedger l (recordRestartHistory peer g record)
  | .retireGeneration l peer g => do
      let _ ← onLedger l (retireGeneration peer g)
  | .finishRestartEpisode l peer => do
      let _ ← onLedger l (finishRestartEpisode peer)

/-- Before the first ledger: `NEXT_CONTROLLER_ID` is one. -/
def boot : Controllers :=
  { nextControllerId := 1, ledgers := [], reservations := [], transactions := [] }

abbrev AccountingCall := Call Op Controllers Empty AccountingError Unit

abbrev AccountingRun : List AccountingCall → Controllers → Prop := Run exec (· = boot)

end Wyrmroot.Accounting
