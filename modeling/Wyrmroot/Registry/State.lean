import Wyrmroot.Lib.Replay
import Wyrmroot.Lib.Run
import Wyrmroot.Lib.Table
import Wyrmroot.Registry.Codec

/-!
# Registry state

`RegistryState` of `registryd`: service slots, clients, pending watches
and the identities issued so far.

A fixed array with a length (`live_transactions`, the issued ids) is the
list of its used prefix with the same capacity checks; an array of options
is a table. A stored name is the list of its bytes, and copying one that
does not fit panics as the slice index does.

The events of these programs are the points where a transaction id of an
endpoint is accepted and where it is completed.
-/

namespace Wyrmroot.Registry

open Function

def maxClients : Nat := 32
/-- The length of the endpoint array in `RegistryService::step`. -/
def maxEndpoints : Nat := 64
def maxIssuedEndpointIds : Nat := 128
def maxIssuedPublicationIds : Nat := 64
def maxIssuedClientIds : Nat := 64

inductive EndpointKind where
  | publication
  | client
deriving DecidableEq

structure EndpointIdentity where
  id : Nat
  generation : Nat
deriving DecidableEq

structure InstalledEndpoint where
  identity : EndpointIdentity
  handle : Nat
  kind : EndpointKind
deriving DecidableEq

structure ForwardOffer where
  publication : EndpointIdentity
  publicationHandle : Nat
  serviceGeneration : Nat
  clientTransaction : Nat
deriving DecidableEq

structure ServiceMetadata where
  name : Name
  protocolId : Nat
  versions : VersionList
  serviceGeneration : Nat
deriving DecidableEq

inductive RegistryError where
  | zeroIdentity
  | wrongRegistryGeneration
  | duplicateEndpoint
  | duplicatePublication
  | duplicateClient
  | duplicateService
  | staleServiceGeneration
  | capacity
  | unknownEndpoint
  | wrongEndpointGeneration
  | notPublished
  | unsupportedVersion
  | enumerationDenied
  | transactionLive
  | transactionReplay
  | outstandingLimit
  | wrongEndpointKind
  | unknownTransaction
  | invalidState
deriving DecidableEq

structure WatchNotification where
  client : EndpointIdentity
  clientHandle : Nat
  transactionId : Nat
  serviceGeneration : Nat
deriving DecidableEq

inductive WatchDisposition where
  | immediate (serviceGeneration : Nat)
  | pending
deriving DecidableEq

structure PublishOutcome where
  serviceGeneration : Nat
  notifications : List WatchNotification
deriving DecidableEq

structure PublishTicket where
  endpoint : EndpointIdentity
  transaction : Nat
deriving DecidableEq

structure RetireOutcome where
  registryHandle : Nat
  serviceGeneration : Nat
  notifications : List WatchNotification
deriving DecidableEq

structure PeerCloseOutcome where
  handle : Nat
  kind : EndpointKind
  notifications : List WatchNotification
deriving DecidableEq

structure EnumerationTicket where
  client : EndpointIdentity
  transaction : Nat
  totalCount : Nat
  pageCount : Nat
deriving DecidableEq

/-- `Replay<N>`: the completed ids still remembered. -/
abbrev Replay (n : Nat) := Ring Nat n

inductive PublicationPhase where
  | installed
  | published
deriving DecidableEq

structure Publication where
  endpoint : EndpointIdentity
  handle : Nat
  roleId : Nat
  publicationId : Nat
  serviceGeneration : Nat
  protocolId : Nat
  versions : VersionList
  phase : PublicationPhase
  liveTransaction : Nat
  replay : Replay maxPublicationReplay

structure ServiceSlot where
  name : Name
  lastGeneration : Nat
  active : Option Publication

structure Client where
  endpoint : EndpointIdentity
  handle : Nat
  clientId : Nat
  scope : EnumerationScope
  liveTransactions : List Nat
  replay : Replay maxClientReplay

structure PendingWatch where
  client : EndpointIdentity
  clientHandle : Nat
  transaction : Nat
  protocolId : Nat
  lastGeneration : Nat
  name : Name
deriving DecidableEq

structure RegistryState where
  generation : Nat
  services : Fin maxServices → Option ServiceSlot
  clients : Fin maxClients → Option Client
  watches : Fin maxPendingWatches → Option PendingWatch
  issuedEndpointIds : List Nat
  issuedPublicationIds : List Nat
  issuedClientIds : List Nat

/-- An accept or a completion on one endpoint. -/
structure TxEvent where
  endpoint : EndpointIdentity
  step : TxStep Nat
deriving DecidableEq

abbrev Check (α : Type) := Outcome RegistryError α

abbrev Reg (α : Type) := Prog RegistryState TxEvent RegistryError α

/-! ## Transactions of one endpoint -/

namespace Client

def reserve (self : Client) (transaction : Nat) : Check Client :=
  if transaction = 0 then .err .zeroIdentity
  else if self.replay.contains transaction then .err .transactionReplay
  else if self.liveTransactions.contains transaction then .err .transactionLive
  else if self.liveTransactions.length = maxOutstandingPerClient then .err .outstandingLimit
  else .ok { self with liveTransactions := self.liveTransactions ++ [transaction] }

def complete (self : Client) (transaction : Nat) : Client :=
  match self.liveTransactions.findIdx? (· == transaction) with
  | some index =>
      { self with
        liveTransactions := swapRemove self.liveTransactions index,
        replay := self.replay.push transaction }
  | none => self

end Client

def publicationReserve (publication : Publication) (transaction : Nat) : Check Publication :=
  if transaction = 0 then .err .zeroIdentity
  else if publication.liveTransaction = transaction then .err .transactionLive
  else if publication.replay.contains transaction then .err .transactionReplay
  else if publication.liveTransaction ≠ 0 then .err .outstandingLimit
  else .ok { publication with liveTransaction := transaction }

/-- The `debug_assert_eq!` is a panic. -/
def publicationComplete (publication : Publication) (transaction : Nat) : Check Publication :=
  if publication.liveTransaction ≠ transaction then .panic
  else .ok { publication with
    liveTransaction := 0, replay := publication.replay.push transaction }

def Publication.installed (self : Publication) : InstalledEndpoint :=
  ⟨self.endpoint, self.handle, .publication⟩

def Client.installed (self : Client) : InstalledEndpoint :=
  ⟨self.endpoint, self.handle, .client⟩

namespace ServiceSlot

def metadata (self : ServiceSlot) : Option ServiceMetadata := do
  let publication ← self.active
  if publication.phase ≠ .published then none
  else some {
    name := self.name, protocolId := publication.protocolId,
    versions := publication.versions, serviceGeneration := publication.serviceGeneration }

end ServiceSlot

def Publication.supports (self : Publication) (version : ProtocolVersion) : Bool :=
  self.versions.toList.contains version

namespace RegistryState

/-! ## Queries -/

def new (generation : Nat) : Check RegistryState :=
  if generation = 0 then .err .zeroIdentity
  else .ok { generation, services := fun _ => none, clients := fun _ => none,
             watches := fun _ => none, issuedEndpointIds := [], issuedPublicationIds := [],
             issuedClientIds := [] }

/-- `self.services.iter().flatten()`. -/
def slots (self : RegistryState) : List ServiceSlot :=
  (List.finRange maxServices).filterMap self.services

def publishedCount (self : RegistryState) : Nat :=
  (self.slots.filter (·.metadata.isSome)).length

/-- Publications first, then clients, in table order. -/
def endpoints (self : RegistryState) : List InstalledEndpoint :=
  self.slots.filterMap (fun slot => slot.active.map (·.installed))
    ++ ((List.finRange maxClients).filterMap self.clients).map (·.installed)

def publicationIndex (self : RegistryState) (endpoint : EndpointIdentity) :
    Check (Fin maxServices) :=
  match position fun j =>
      ((self.services j).bind (·.active)).any (·.endpoint.id == endpoint.id) with
  | none => .err .unknownEndpoint
  | some j =>
      match (self.services j).bind (·.active) with
      | none => .panic
      | some p => if p.endpoint ≠ endpoint then .err .wrongEndpointGeneration else .ok j

def clientIndex (self : RegistryState) (endpoint : EndpointIdentity) :
    Check (Fin maxClients) :=
  match position fun i => (self.clients i).any (·.endpoint.id == endpoint.id) with
  | none => .err .unknownEndpoint
  | some i =>
      match self.clients i with
      | none => .panic
      | some c => if c.endpoint ≠ endpoint then .err .wrongEndpointGeneration else .ok i

/-- The first published slot with this name and protocol. -/
def findPublished (self : RegistryState) (protocolId : Nat) (name : Name) :
    Option Publication :=
  self.slots.findSome? fun slot => do
    let publication ← slot.active
    if publication.phase = .published ∧ publication.protocolId = protocolId ∧ slot.name = name
    then some publication else none

def currentGeneration (self : RegistryState) (protocolId : Nat) (name : Name) : Nat :=
  ((self.findPublished protocolId name).map (·.serviceGeneration)).getD 0

def validateInstall (self : RegistryState) (generation : Nat) (endpoint : EndpointIdentity)
    (handle : Nat) : Check Unit :=
  if generation ≠ self.generation then .err .wrongRegistryGeneration
  else if endpoint.id = 0 ∨ endpoint.generation = 0 ∨ handle = 0 then .err .zeroIdentity
  else .ok ()

def validateFreshEndpointId (self : RegistryState) (id : Nat) : Check Unit :=
  if self.issuedEndpointIds.contains id then .err .duplicateEndpoint
  else if self.issuedEndpointIds.length = maxIssuedEndpointIds then .err .capacity
  else .ok ()

/-- `name[..source.len()].copy_from_slice(source)` into a 128-byte array. -/
def copyName (source : Name) : Check Name :=
  if source.length ≤ maxServiceNameBytes then .ok source else .panic

def setClient (self : RegistryState) (i : Fin maxClients) (c : Option Client) :
    RegistryState :=
  { self with clients := update self.clients i c }

def setSlot (self : RegistryState) (j : Fin maxServices) (slot : ServiceSlot) :
    RegistryState :=
  { self with services := update self.services j (some slot) }

def setWatch (self : RegistryState) (k : Fin maxPendingWatches) (w : Option PendingWatch) :
    RegistryState :=
  { self with watches := update self.watches k w }

/-! ## Accepting and completing -/

/-- `self.clients[i].as_mut().unwrap().reserve(transaction)?`. -/
def reserveClient (i : Fin maxClients) (transaction : Nat) : Reg Unit := do
  let self ← Prog.get
  let client ← Prog.unwrap (self.clients i)
  let reserved ← Prog.lift (client.reserve transaction)
  Prog.set (self.setClient i (some reserved))
  Prog.emit ⟨client.endpoint, .accepted transaction⟩

/-- `self.clients[i].as_mut().unwrap().complete(transaction)`. -/
def completeClient (i : Fin maxClients) (transaction : Nat) : Reg Unit := do
  let self ← Prog.get
  let client ← Prog.unwrap (self.clients i)
  Prog.set (self.setClient i (some (client.complete transaction)))
  if client.liveTransactions.contains transaction then
    Prog.emit ⟨client.endpoint, .completed transaction⟩
  else pure ()

/-- The slot at `j` and its publication, both unwrapped. -/
def activeAt (j : Fin maxServices) : Reg (ServiceSlot × Publication) := do
  let self ← Prog.get
  let slot ← Prog.unwrap (self.services j)
  let publication ← Prog.unwrap slot.active
  pure (slot, publication)

def reservePublication (j : Fin maxServices) (transaction : Nat) : Reg Unit := do
  let (slot, publication) ← activeAt j
  let reserved ← Prog.lift (publicationReserve publication transaction)
  Prog.modify (·.setSlot j { slot with active := some reserved })
  Prog.emit ⟨publication.endpoint, .accepted transaction⟩

def completePublication (j : Fin maxServices) (transaction : Nat) : Reg Unit := do
  let (slot, publication) ← activeAt j
  let completed ← Prog.lift (publicationComplete publication transaction)
  Prog.modify (·.setSlot j { slot with active := some completed })
  Prog.emit ⟨publication.endpoint, .completed transaction⟩

/-! ## Watches -/

/-- One turn of the loop in `notify`. -/
def notifyAt (protocolId : Nat) (name : Name) (generation : Nat) (k : Fin maxPendingWatches) :
    Reg (List WatchNotification) := do
  let self ← Prog.get
  match self.watches k with
  | none => pure []
  | some watch =>
      if watch.protocolId = protocolId ∧ watch.name = name
          ∧ watch.lastGeneration ≠ generation then do
        let sent ←
          match self.clientIndex watch.client with
          | .ok i => do
              completeClient i watch.transaction
              pure [⟨watch.client, watch.clientHandle, watch.transaction, generation⟩]
          | .err _ => pure []
          | .panic => Prog.panic
        Prog.modify (·.setWatch k none)
        pure sent
      else pure []

def notify (protocolId : Nat) (name : Name) (generation : Nat) :
    Reg (List WatchNotification) :=
  Prog.collect (List.finRange maxPendingWatches) (notifyAt protocolId name generation)

/-! ## Installation -/

def recordPublication (endpointId publicationId : Nat) : Reg Unit :=
  Prog.modify fun self =>
    { self with
      issuedEndpointIds := self.issuedEndpointIds ++ [endpointId],
      issuedPublicationIds := self.issuedPublicationIds ++ [publicationId] }

/-- Where a publication of this name goes: its tombstoned slot, or a free one. -/
def slotFor (self : RegistryState) (name : Name) (serviceGeneration : Nat) :
    Check (Fin maxServices) :=
  match position fun j => (self.services j).any (·.name == name) with
  | some j =>
      match self.services j with
      | none => .panic
      | some slot =>
          if slot.active.isSome then .err .duplicateService
          else if serviceGeneration ≤ slot.lastGeneration then .err .staleServiceGeneration
          else .ok j
  | none =>
      match position fun j => (self.services j).isNone with
      | none => .err .capacity
      | some j => .ok j

def installPublication (registryGeneration handle : Nat) (install : InstallPublication) :
    Reg Unit := do
  let self ← Prog.get
  let endpoint : EndpointIdentity := ⟨install.endpointId, install.endpointGeneration⟩
  Prog.lift (self.validateInstall registryGeneration endpoint handle)
  Prog.lift (self.validateFreshEndpointId endpoint.id)
  if self.issuedPublicationIds.contains install.publicationId then
    Prog.throw .duplicatePublication
  else if self.issuedPublicationIds.length = maxIssuedPublicationIds then
    Prog.throw .capacity
  else do
    let j ← Prog.lift (self.slotFor install.serviceName install.serviceGeneration)
    let name ← Prog.lift (copyName install.serviceName)
    Prog.set (self.setSlot j
      { name, lastGeneration := install.serviceGeneration,
        active := some {
          endpoint, handle, roleId := install.supervisorRoleId,
          publicationId := install.publicationId,
          serviceGeneration := install.serviceGeneration, protocolId := install.protocolId,
          versions := install.versions, phase := .installed, liveTransaction := 0,
          replay := Ring.new 0 maxPublicationReplay_pos } })
    recordPublication endpoint.id install.publicationId

def installClient (registryGeneration handle : Nat) (install : InstallClient) : Reg Unit := do
  let self ← Prog.get
  let endpoint : EndpointIdentity := ⟨install.endpointId, install.endpointGeneration⟩
  Prog.lift (self.validateInstall registryGeneration endpoint handle)
  Prog.lift (self.validateFreshEndpointId endpoint.id)
  if self.issuedClientIds.contains install.clientId then Prog.throw .duplicateClient
  else if self.issuedClientIds.length = maxIssuedClientIds then Prog.throw .capacity
  else
    match position fun i => (self.clients i).isNone with
    | none => Prog.throw .capacity
    | some i =>
        Prog.set
          { self.setClient i (some {
              endpoint, handle, clientId := install.clientId, scope := install.scope,
              liveTransactions := [], replay := Ring.new 0 maxClientReplay_pos }) with
            issuedEndpointIds := self.issuedEndpointIds ++ [endpoint.id],
            issuedClientIds := self.issuedClientIds ++ [install.clientId] }

/-! ## Publication endpoints -/

def preparePublish (endpoint : EndpointIdentity) (transaction : Nat) : Reg PublishTicket := do
  let self ← Prog.get
  let j ← Prog.lift (self.publicationIndex endpoint)
  let (_, publication) ← activeAt j
  reservePublication j transaction
  if publication.phase ≠ .installed then do
    completePublication j transaction
    Prog.throw .invalidState
  else pure { endpoint, transaction }

def commitPublish (ticket : PublishTicket) : Reg PublishOutcome := do
  let self ← Prog.get
  let j ← Prog.lift (self.publicationIndex ticket.endpoint)
  let (slot, publication) ← activeAt j
  if publication.liveTransaction ≠ ticket.transaction ∨ publication.phase ≠ .installed then
    Prog.throw .invalidState
  else do
    Prog.modify (·.setSlot j { slot with active := some { publication with phase := .published } })
    completePublication j ticket.transaction
    let notifications ← notify publication.protocolId slot.name publication.serviceGeneration
    pure { serviceGeneration := publication.serviceGeneration, notifications }

def retire (endpoint : EndpointIdentity) (transaction : Nat) : Reg RetireOutcome := do
  let self ← Prog.get
  let j ← Prog.lift (self.publicationIndex endpoint)
  let (slot, publication) ← activeAt j
  reservePublication j transaction
  completePublication j transaction
  Prog.modify (·.setSlot j { slot with active := none })
  let notifications ← notify publication.protocolId slot.name 0
  pure { registryHandle := publication.handle,
         serviceGeneration := publication.serviceGeneration, notifications }

/-! ## Client endpoints -/

/-- What `lookup` answers once the id is accepted. -/
def offerFor (self : RegistryState) (transaction : Nat) (request : Lookup) :
    Except RegistryError ForwardOffer :=
  match self.findPublished request.protocolId request.serviceName with
  | none => .error .notPublished
  | some publication =>
      if publication.supports request.version then
        .ok { publication := publication.endpoint, publicationHandle := publication.handle,
              serviceGeneration := publication.serviceGeneration,
              clientTransaction := transaction }
      else .error .unsupportedVersion

def lookup (client : EndpointIdentity) (transaction : Nat) (request : Lookup) :
    Reg ForwardOffer := do
  let self ← Prog.get
  let i ← Prog.lift (self.clientIndex client)
  reserveClient i transaction
  let self ← Prog.get
  let result := self.offerFor transaction request
  completeClient i transaction
  Prog.lift (.ofExcept result)

def watch (client : EndpointIdentity) (transaction : Nat) (request : Watch) :
    Reg WatchDisposition := do
  let self ← Prog.get
  let i ← Prog.lift (self.clientIndex client)
  reserveClient i transaction
  let self ← Prog.get
  let current := self.currentGeneration request.protocolId request.serviceName
  if current ≠ request.lastObservedGeneration then do
    completeClient i transaction
    pure (.immediate current)
  else
    let perClient := countWhere fun k => (self.watches k).any (·.client == client)
    match position fun k => (self.watches k).isNone with
    | none => do
        completeClient i transaction
        Prog.throw .capacity
    | some k =>
        if perClient = maxOutstandingPerClient then do
          completeClient i transaction
          Prog.throw .capacity
        else do
          let name ← Prog.lift (copyName request.serviceName)
          let installed ← Prog.unwrap (self.clients i)
          Prog.modify (·.setWatch k (some {
            client, clientHandle := installed.handle, transaction,
            protocolId := request.protocolId,
            lastGeneration := request.lastObservedGeneration, name }))
          pure .pending

def cancel (client : EndpointIdentity) (transaction target : Nat) : Reg Unit := do
  let self ← Prog.get
  let i ← Prog.lift (self.clientIndex client)
  reserveClient i transaction
  let self ← Prog.get
  match position fun k =>
      (self.watches k).any fun w => w.client == client && w.transaction == target with
  | some k => do
      Prog.modify (·.setWatch k none)
      completeClient i target
      completeClient i transaction
  | none => do
      completeClient i transaction
      Prog.throw .unknownTransaction

def enumerateBegin (client : EndpointIdentity) (transaction : Nat) :
    Reg EnumerationTicket := do
  let self ← Prog.get
  let i ← Prog.lift (self.clientIndex client)
  let installed ← Prog.unwrap (self.clients i)
  if installed.scope ≠ .bootstrapMetadata then do
    reserveClient i transaction
    completeClient i transaction
    Prog.throw .enumerationDenied
  else do
    reserveClient i transaction
    let totalCount := self.publishedCount
    let pageCount := if totalCount = 0 then 1 else (totalCount + 1) / 2
    -- `debug_assert!`
    if maxServiceListPages < pageCount then Prog.panic
    else pure { client, transaction, totalCount, pageCount }

def enumerationComplete (ticket : EnumerationTicket) : Reg Unit := do
  let self ← Prog.get
  let i ← Prog.lift (self.clientIndex ticket.client)
  let installed ← Prog.unwrap (self.clients i)
  if installed.liveTransactions.contains ticket.transaction then
    completeClient i ticket.transaction
  else Prog.throw .unknownTransaction

/-! ## Any endpoint -/

def completeTransaction (endpoint : EndpointIdentity) (kind : EndpointKind)
    (transaction : Nat) : Reg Unit := do
  let self ← Prog.get
  match kind with
  | .client => do
      let i ← Prog.lift (self.clientIndex endpoint)
      reserveClient i transaction
      completeClient i transaction
  | .publication => do
      let j ← Prog.lift (self.publicationIndex endpoint)
      reservePublication j transaction
      completePublication j transaction

def peerClosed (endpoint : EndpointIdentity) : Reg PeerCloseOutcome := do
  let self ← Prog.get
  match self.publicationIndex endpoint with
  | .ok j => do
      let (slot, publication) ← activeAt j
      Prog.modify (·.setSlot j { slot with active := none })
      let notifications ← notify publication.protocolId slot.name 0
      pure { handle := publication.handle, kind := .publication, notifications }
  | .panic => Prog.panic
  | .err _ => do
      let i ← Prog.lift (self.clientIndex endpoint)
      let client ← Prog.unwrap (self.clients i)
      Prog.set
        { self.setClient i none with
          watches := fun k => (self.watches k).filter (·.client ≠ endpoint) }
      pure { handle := client.handle, kind := .client, notifications := [] }

end RegistryState

/-! ## The machine -/

/-- The operations, over the type of what names a ticket. -/
inductive Op (τ υ : Type) where
  | installPublication (registryGeneration handle : Nat) (install : InstallPublication)
  | installClient (registryGeneration handle : Nat) (install : InstallClient)
  | preparePublish (endpoint : EndpointIdentity) (transaction : Nat)
  | commitPublish (ticket : τ)
  | retire (endpoint : EndpointIdentity) (transaction : Nat)
  | lookup (client : EndpointIdentity) (transaction : Nat) (request : Lookup)
  | watch (client : EndpointIdentity) (transaction : Nat) (request : Watch)
  | cancel (client : EndpointIdentity) (transaction target : Nat)
  | enumerateBegin (client : EndpointIdentity) (transaction : Nat)
  | enumerationComplete (ticket : υ)
  | completeTransaction (endpoint : EndpointIdentity) (kind : EndpointKind)
      (transaction : Nat)
  | peerClosed (endpoint : EndpointIdentity)
deriving DecidableEq

inductive Reply where
  | done
  | prepared (ticket : PublishTicket)
  | published (outcome : PublishOutcome)
  | retired (outcome : RetireOutcome)
  | offered (offer : ForwardOffer)
  | watched (disposition : WatchDisposition)
  | begun (ticket : EnumerationTicket)
  | enumerated
  | closed (outcome : PeerCloseOutcome)
  | absent
deriving DecidableEq

abbrev TicketOp := Op PublishTicket EnumerationTicket

open RegistryState in
def execState : TicketOp → Reg Reply
  | .installPublication g h install => do
      installPublication g h install
      pure .done
  | .installClient g h install => do
      installClient g h install
      pure .done
  | .preparePublish e tx => do
      let ticket ← preparePublish e tx
      pure (.prepared ticket)
  | .commitPublish ticket => do
      let outcome ← commitPublish ticket
      pure (.published outcome)
  | .retire e tx => do
      let outcome ← retire e tx
      pure (.retired outcome)
  | .lookup c tx request => do
      let offer ← lookup c tx request
      pure (.offered offer)
  | .watch c tx request => do
      let disposition ← watch c tx request
      pure (.watched disposition)
  | .cancel c tx target => do
      cancel c tx target
      pure .done
  | .enumerateBegin c tx => do
      let ticket ← enumerateBegin c tx
      pure (.begun ticket)
  | .enumerationComplete ticket => do
      enumerationComplete ticket
      pure .enumerated
  | .completeTransaction e kind tx => do
      completeTransaction e kind tx
      pure .done
  | .peerClosed e => do
      let outcome ← peerClosed e
      pure (.closed outcome)

/-- A registry and the tickets it has issued. Ticket fields are private and
tickets are `Copy`: a caller can present any issued ticket, any number of
times, and no other. -/
structure Session where
  state : RegistryState
  publishTickets : List PublishTicket
  enumerationTickets : List EnumerationTicket

namespace Session

/-- Replace ticket positions by the tickets. -/
def resolve (self : Session) : Op Nat Nat → Option TicketOp
  | .installPublication g h install => some (.installPublication g h install)
  | .installClient g h install => some (.installClient g h install)
  | .preparePublish e tx => some (.preparePublish e tx)
  | .commitPublish k => (self.publishTickets[k]?).map .commitPublish
  | .retire e tx => some (.retire e tx)
  | .lookup c tx request => some (.lookup c tx request)
  | .watch c tx request => some (.watch c tx request)
  | .cancel c tx target => some (.cancel c tx target)
  | .enumerateBegin c tx => some (.enumerateBegin c tx)
  | .enumerationComplete k => (self.enumerationTickets[k]?).map .enumerationComplete
  | .completeTransaction e kind tx => some (.completeTransaction e kind tx)
  | .peerClosed e => some (.peerClosed e)

/-- The tickets a reply carries. -/
def keep (self : Session) : Outcome RegistryError Reply → Session
  | .ok (.prepared ticket) => { self with publishTickets := self.publishTickets ++ [ticket] }
  | .ok (.begun ticket) =>
      { self with enumerationTickets := self.enumerationTickets ++ [ticket] }
  | _ => self

/-- One call; a call with a ticket that does not exist is not made. -/
def exec (op : Op Nat Nat) : Prog Session TxEvent RegistryError Reply := fun self =>
  match self.resolve op with
  | none => (.ok .absent, self, [])
  | some op =>
      ((execState op self.state).1,
        { self with state := (execState op self.state).2.1 }.keep (execState op self.state).1,
        (execState op self.state).2.2)

/-- A registry as `RegistryState::new` returns it. -/
def Fresh (self : Session) : Prop :=
  ∃ generation, RegistryState.new generation = .ok self.state ∧ self.publishTickets = []
    ∧ self.enumerationTickets = []

end Session

abbrev RegistryCall := Call (Op Nat Nat) Session TxEvent RegistryError Reply

abbrev RegistryRun : List RegistryCall → Session → Prop := Run Session.exec Session.Fresh

end Wyrmroot.Registry
