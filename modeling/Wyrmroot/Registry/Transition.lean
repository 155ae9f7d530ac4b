import Wyrmroot.Registry.State

/-!
# What one registry operation can do

`Transition` lists every effect an operation can have on a registry whose
tables are consistent (`Core`), with its reply and the accepts and
completions it makes. Nothing after this file unfolds an operation.

`notify` is described twice over. `Drops` is its effect as a sequence of
single drops (one watch removed, its id completed), which is what the
invariants on transactions need; `Notified` adds which watches those are
and what was reported for them.
-/

namespace Wyrmroot.Registry

open Function Prog RegistryState

/-! ## Transactions of a client -/

variable {tx : Nat} {c : Client}

namespace Client

/-- What `reserve` checks. -/
structure Accepts (c : Client) (tx : Nat) : Prop where
  nonzero : tx ≠ 0
  not_replayed : tx ∉ c.replay.toList
  not_live : tx ∉ c.liveTransactions
  room : c.liveTransactions.length ≠ maxOutstandingPerClient

/-- With `tx` live. -/
def accept (c : Client) (tx : Nat) : Client :=
  { c with liveTransactions := c.liveTransactions ++ [tx] }

/-- With `tx` accepted and completed at once. -/
def touch (c : Client) (tx : Nat) : Client :=
  { c with replay := c.replay.push tx }

theorem reserve_cases (c : Client) (tx : Nat) :
    (c.Accepts tx ∧ c.reserve tx = .ok (c.accept tx)) ∨ ∃ e, c.reserve tx = .err e := by
  unfold reserve
  split
  · exact Or.inr ⟨_, rfl⟩
  rename_i hzero
  split
  · exact Or.inr ⟨_, rfl⟩
  rename_i hreplay
  split
  · exact Or.inr ⟨_, rfl⟩
  rename_i hlive
  split
  · exact Or.inr ⟨_, rfl⟩
  rename_i hroom
  rw [Ring.contains_iff] at hreplay
  exact Or.inl ⟨⟨hzero, hreplay, by simpa using hlive, hroom⟩, rfl⟩

theorem findIdx_none {live : List Nat} (h : tx ∉ live) :
    live.findIdx? (· == tx) = none := by
  refine List.findIdx?_eq_none_iff.mpr fun x hx => ?_
  have hne : x ≠ tx := fun heq => h (heq ▸ hx)
  simpa using hne

theorem complete_accept (h : tx ∉ c.liveTransactions) :
    (c.accept tx).complete tx = c.touch tx := by
  have hidx : (c.liveTransactions ++ [tx]).findIdx? (· == tx)
      = some c.liveTransactions.length := by
    simp [List.findIdx?_append, findIdx_none h]
  simp [complete, accept, touch, hidx, swapRemove_last]

theorem complete_live (h : tx ∈ c.liveTransactions) :
    ∃ live, (tx :: live).Perm c.liveTransactions
      ∧ c.complete tx = { c with liveTransactions := live, replay := c.replay.push tx } := by
  have hidx := List.findIdx?_eq_some_of_exists (p := (· == tx)) ⟨tx, h, by simp⟩
  obtain ⟨hi, htx, -⟩ := List.findIdx?_eq_some_iff_getElem.mp hidx
  have hget : c.liveTransactions[c.liveTransactions.findIdx (· == tx)]? = some tx :=
    List.getElem?_eq_some_iff.mpr ⟨hi, by simpa using htx⟩
  exact ⟨_, swapRemove_perm hget, by simp only [complete, hidx]⟩

theorem complete_not_live (h : tx ∉ c.liveTransactions) :
    c.complete tx = c := by
  simp [complete, findIdx_none h]

theorem mem_complete {u : Nat} (hnodup : c.liveTransactions.Nodup) :
    u ∈ (c.complete tx).liveTransactions ↔ u ∈ c.liveTransactions ∧ u ≠ tx := by
  by_cases hlive : tx ∈ c.liveTransactions
  · obtain ⟨live, hperm, hcomplete⟩ := complete_live hlive
    obtain ⟨htx, -⟩ := List.nodup_cons.mp (hperm.nodup_iff.mpr hnodup)
    rw [hcomplete, ← hperm.mem_iff, List.mem_cons]
    constructor
    · exact fun hu => ⟨Or.inr hu, fun heq => htx (heq ▸ hu)⟩
    · rintro ⟨rfl | hu, hne⟩
      · exact absurd rfl hne
      · exact hu
  · rw [complete_not_live hlive]
    exact ⟨fun hu => ⟨hu, fun heq => hlive (heq ▸ hu)⟩, fun hu => hu.1⟩

theorem nodup_complete (hnodup : c.liveTransactions.Nodup) :
    (c.complete tx).liveTransactions.Nodup := by
  by_cases hlive : tx ∈ c.liveTransactions
  · obtain ⟨live, hperm, hcomplete⟩ := complete_live hlive
    rw [hcomplete]
    exact (List.nodup_cons.mp (hperm.nodup_iff.mpr hnodup)).2
  · rwa [complete_not_live hlive]

@[simp] theorem complete_endpoint (c : Client) (tx : Nat) :
    (c.complete tx).endpoint = c.endpoint := by
  unfold complete
  split <;> rfl

@[simp] theorem complete_handle (c : Client) (tx : Nat) :
    (c.complete tx).handle = c.handle := by
  unfold complete
  split <;> rfl

@[simp] theorem accept_endpoint (c : Client) (tx : Nat) :
    (c.accept tx).endpoint = c.endpoint := rfl

@[simp] theorem touch_endpoint (c : Client) (tx : Nat) :
    (c.touch tx).endpoint = c.endpoint := rfl

/-- What completing `tx` shows. -/
def completed (c : Client) (tx : Nat) : List TxEvent :=
  if tx ∈ c.liveTransactions then [⟨c.endpoint, .completed tx⟩] else []

end Client

/-! ## Transactions of a publication -/

variable {p : Publication}

namespace Publication

/-- What `publication_reserve` checks. -/
structure Accepts (p : Publication) (tx : Nat) : Prop where
  nonzero : tx ≠ 0
  not_replayed : tx ∉ p.replay.toList
  idle : p.liveTransaction = 0

/-- With `tx` accepted and completed at once. -/
def touch (p : Publication) (tx : Nat) : Publication :=
  { p with replay := p.replay.push tx }

theorem reserve_cases (p : Publication) (tx : Nat) :
    (p.Accepts tx ∧ publicationReserve p tx = .ok { p with liveTransaction := tx })
      ∨ ∃ e, publicationReserve p tx = .err e := by
  unfold publicationReserve
  split
  · exact Or.inr ⟨_, rfl⟩
  rename_i hzero
  split
  · exact Or.inr ⟨_, rfl⟩
  split
  · exact Or.inr ⟨_, rfl⟩
  rename_i hreplay
  split
  · exact Or.inr ⟨_, rfl⟩
  rename_i hidle
  rw [Ring.contains_iff] at hreplay
  exact Or.inl ⟨⟨hzero, hreplay, not_not.mp hidle⟩, rfl⟩

theorem Accepts.reserve (h : p.Accepts tx) :
    publicationReserve p tx = .ok { p with liveTransaction := tx } := by
  rcases p.reserve_cases tx with ⟨-, hok⟩ | ⟨e, he⟩
  · exact hok
  · have hnew : ¬ p.replay.contains tx = true := by
      rw [Ring.contains_iff]
      exact h.not_replayed
    simp [publicationReserve, h.nonzero, h.idle, hnew, h.nonzero.symm] at he

end Publication

/-! ## Consistent tables -/

/-- The publication in slot `j`. -/
def RegistryState.publicationAt (s : RegistryState) (j : Fin maxServices) :
    Option Publication :=
  (s.services j).bind (·.active)

/-- At most one slot carries each name. -/
def UniqueNames (services : Fin maxServices → Option ServiceSlot) : Prop :=
  ∀ j j' a b, services j = some a → services j' = some b → a.name = b.name → j = j'

/-- The tables agree with each other and with the ids issued so far. -/
structure Core (s : RegistryState) : Prop where
  publication_issued : ∀ j p, s.publicationAt j = some p → p.endpoint.id ∈ s.issuedEndpointIds
  client_issued : ∀ i c, s.clients i = some c → c.endpoint.id ∈ s.issuedEndpointIds
  publication_unique : ∀ j j' p p', s.publicationAt j = some p → s.publicationAt j' = some p' →
    p.endpoint.id = p'.endpoint.id → j = j'
  client_unique : ∀ i i' c c', s.clients i = some c → s.clients i' = some c' →
    c.endpoint.id = c'.endpoint.id → i = i'
  disjoint : ∀ j p i c, s.publicationAt j = some p → s.clients i = some c →
    p.endpoint.id ≠ c.endpoint.id
  name_unique : UniqueNames s.services
  issued_nodup : s.issuedEndpointIds.Nodup
  watch_client : ∀ k w, s.watches k = some w → ∃ i c, s.clients i = some c
    ∧ c.endpoint = w.client ∧ c.handle = w.clientHandle

variable {j : Fin maxServices} {i : Fin maxClients}

section Tables

variable {s : RegistryState}

@[simp] theorem setClient_clients (i : Fin maxClients) (c : Option Client) :
    (s.setClient i c).clients = update s.clients i c := rfl

@[simp] theorem setClient_watches (i : Fin maxClients) (c : Option Client) :
    (s.setClient i c).watches = s.watches := rfl

@[simp] theorem setClient_services (i : Fin maxClients) (c : Option Client) :
    (s.setClient i c).services = s.services := rfl

@[simp] theorem setClient_setClient (i : Fin maxClients) (c c' : Option Client) :
    (s.setClient i c).setClient i c' = s.setClient i c' := by
  simp [setClient]

@[simp] theorem setWatch_watches (k : Fin maxPendingWatches) (w : Option PendingWatch) :
    (s.setWatch k w).watches = update s.watches k w := rfl

@[simp] theorem setWatch_clients (k : Fin maxPendingWatches) (w : Option PendingWatch) :
    (s.setWatch k w).clients = s.clients := rfl

@[simp] theorem setWatch_services (k : Fin maxPendingWatches) (w : Option PendingWatch) :
    (s.setWatch k w).services = s.services := rfl

@[simp] theorem setSlot_services (j : Fin maxServices) (slot : ServiceSlot) :
    (s.setSlot j slot).services = update s.services j (some slot) := rfl

@[simp] theorem setSlot_clients (j : Fin maxServices) (slot : ServiceSlot) :
    (s.setSlot j slot).clients = s.clients := rfl

@[simp] theorem setSlot_watches (j : Fin maxServices) (slot : ServiceSlot) :
    (s.setSlot j slot).watches = s.watches := rfl

@[simp] theorem setSlot_setSlot (j : Fin maxServices) (a b : ServiceSlot) :
    (s.setSlot j a).setSlot j b = s.setSlot j b := by
  simp [setSlot]

theorem publicationAt_eq_some :
    s.publicationAt j = some p ↔ ∃ slot, s.services j = some slot ∧ slot.active = some p := by
  simp [publicationAt, Option.bind_eq_some_iff]

theorem clientIndex_cases (s : RegistryState) (e : EndpointIdentity) :
    (∃ i c, s.clients i = some c ∧ c.endpoint = e ∧ s.clientIndex e = .ok i)
      ∨ s.clientIndex e = .err .unknownEndpoint
      ∨ s.clientIndex e = .err .wrongEndpointGeneration := by
  unfold clientIndex
  cases hpos : position fun i => (s.clients i).any (·.endpoint.id == e.id) with
  | none => exact Or.inr (Or.inl rfl)
  | some i =>
      have hany := position_some hpos
      cases hc : s.clients i with
      | none => simp [hc] at hany
      | some c =>
          by_cases heq : c.endpoint = e
          · exact Or.inl ⟨i, c, hc, heq, by simp [hc, heq]⟩
          · exact Or.inr (Or.inr (by simp [hc, heq]))

theorem publicationIndex_cases (s : RegistryState) (e : EndpointIdentity) :
    (∃ j slot p, s.services j = some slot ∧ slot.active = some p ∧ p.endpoint = e
        ∧ s.publicationIndex e = .ok j)
      ∨ ∃ err, s.publicationIndex e = .err err := by
  unfold publicationIndex
  cases hpos : position fun j =>
      ((s.services j).bind (·.active)).any (·.endpoint.id == e.id) with
  | none => exact Or.inr ⟨_, rfl⟩
  | some j =>
      have hany := position_some hpos
      cases hp : (s.services j).bind (·.active) with
      | none => simp [hp] at hany
      | some p =>
          obtain ⟨slot, hslot, hactive⟩ := Option.bind_eq_some_iff.mp hp
          by_cases heq : p.endpoint = e
          · exact Or.inl ⟨j, slot, p, hslot, hactive, heq, by simp [hp, heq]⟩
          · exact Or.inr ⟨.wrongEndpointGeneration, by simp [hp, heq]⟩

theorem Core.clientIndex (hcore : Core s)
    (hc : s.clients i = some c) : s.clientIndex c.endpoint = .ok i := by
  unfold RegistryState.clientIndex
  obtain ⟨i', hpos⟩ := position_isSome
    (p := fun i => (s.clients i).any (·.endpoint.id == c.endpoint.id)) (i := i) (by simp [hc])
  have hany := position_some hpos
  cases hc' : s.clients i' with
  | none => simp [hc'] at hany
  | some c' =>
      have hid : c'.endpoint.id = c.endpoint.id := by simpa [hc'] using hany
      obtain rfl := hcore.client_unique i' i c' c hc' hc hid
      obtain rfl : c' = c := Option.some.inj (hc'.symm.trans hc)
      simp [hpos, hc']

theorem Core.publicationIndex (hcore : Core s)
    (hp : s.publicationAt j = some p) : s.publicationIndex p.endpoint = .ok j := by
  unfold RegistryState.publicationIndex
  obtain ⟨j', hpos⟩ := position_isSome
    (p := fun j => ((s.services j).bind (·.active)).any (·.endpoint.id == p.endpoint.id))
    (i := j) (by simp [show (s.services j).bind (·.active) = some p from hp])
  have hany := position_some hpos
  cases hp' : (s.services j').bind (·.active) with
  | none => simp [hp'] at hany
  | some p' =>
      have hid : p'.endpoint.id = p.endpoint.id := by simpa [hp'] using hany
      obtain rfl := hcore.publication_unique j' j p' p hp' hp hid
      obtain rfl : p' = p := Option.some.inj (hp'.symm.trans hp)
      simp [hpos, hp']

end Tables

/-! ## Notification -/

/-- A pending watch that a change to `generation` concerns. -/
def PendingWatch.Concerns (w : PendingWatch) (protocolId : Nat) (name : Name)
    (generation : Nat) : Prop :=
  w.protocolId = protocolId ∧ w.name = name ∧ w.lastGeneration ≠ generation

instance (w : PendingWatch) (protocolId : Nat) (name : Name) (generation : Nat) :
    Decidable (w.Concerns protocolId name generation) :=
  inferInstanceAs (Decidable (_ ∧ _ ∧ _))

/-- What is reported for a watch. -/
def PendingWatch.notification (w : PendingWatch) (generation : Nat) : WatchNotification :=
  ⟨w.client, w.clientHandle, w.transaction, generation⟩

/-- Watch `k` of client `c` removed and its id completed. -/
def RegistryState.drop (s : RegistryState) (k : Fin maxPendingWatches) (i : Fin maxClients)
    (c : Client) (tx : Nat) : RegistryState :=
  (s.setClient i (some (c.complete tx))).setWatch k none

/-- A sequence of drops, with the completions they make. -/
inductive Drops : RegistryState → List TxEvent → RegistryState → Prop
  | nil {s : RegistryState} : Drops s [] s
  | cons {s s' : RegistryState} {evs : List TxEvent} {k : Fin maxPendingWatches}
      {w : PendingWatch} {i : Fin maxClients} {c : Client} (hk : s.watches k = some w)
      (hc : s.clients i = some c) (hendpoint : c.endpoint = w.client)
      (hrest : Drops (s.drop k i c w.transaction) evs s') :
      Drops s (c.completed w.transaction ++ evs) s'

/-- The watches that a notification drops, and what it reports. -/
structure Notified (s : RegistryState) (protocolId : Nat) (name : Name) (generation : Nat)
    (sent : List WatchNotification) (evs : List TxEvent) (s' : RegistryState) : Prop where
  drops : Drops s evs s'
  watches : ∀ k, s'.watches k
    = (s.watches k).filter fun w => !decide (w.Concerns protocolId name generation)
  sent : sent = (List.finRange maxPendingWatches).filterMap fun k =>
    ((s.watches k).filter fun w => decide (w.Concerns protocolId name generation)).map
      (·.notification generation)

section Drops

variable {s s' : RegistryState} {evs : List TxEvent}

theorem Drops.frame (h : Drops s evs s') :
    s'.services = s.services ∧ s'.generation = s.generation
      ∧ s'.issuedEndpointIds = s.issuedEndpointIds
      ∧ s'.issuedPublicationIds = s.issuedPublicationIds
      ∧ s'.issuedClientIds = s.issuedClientIds := by
  induction h with
  | nil => exact ⟨rfl, rfl, rfl, rfl, rfl⟩
  | cons _ _ _ _ ih => exact ih

/-- Core facts read clients only through `installed`. -/
theorem Core.of_clients (hcore : Core s) (hservices : s'.services = s.services)
    (hissued : s'.issuedEndpointIds = s.issuedEndpointIds)
    (hclients : ∀ i, (s'.clients i).map (·.installed) = (s.clients i).map (·.installed))
    (hwatches : ∀ k w, s'.watches k = some w → ∃ i c, s'.clients i = some c
      ∧ c.endpoint = w.client ∧ c.handle = w.clientHandle) : Core s' := by
  have hpub : ∀ j, s'.publicationAt j = s.publicationAt j := fun j => by
    simp [publicationAt, hservices]
  have hold : ∀ i c, s'.clients i = some c →
      ∃ c₀, s.clients i = some c₀ ∧ c₀.endpoint = c.endpoint := by
    intro i c hc
    have hmap := hclients i
    rw [hc, Option.map_some, eq_comm, Option.map_eq_some_iff] at hmap
    obtain ⟨c₀, hc₀, heq⟩ := hmap
    exact ⟨c₀, hc₀, congrArg InstalledEndpoint.identity heq⟩
  constructor
  · intro j p hp
    rw [hissued]
    exact hcore.publication_issued j p (hpub j ▸ hp)
  · intro i c hc
    obtain ⟨c₀, hc₀, heq⟩ := hold i c hc
    rw [hissued, ← heq]
    exact hcore.client_issued i c₀ hc₀
  · intro j j' p p' hp hp'
    exact hcore.publication_unique j j' p p' (hpub j ▸ hp) (hpub j' ▸ hp')
  · intro i i' c c' hc hc' hid
    obtain ⟨c₀, hc₀, heq⟩ := hold i c hc
    obtain ⟨c₁, hc₁, heq'⟩ := hold i' c' hc'
    exact hcore.client_unique i i' c₀ c₁ hc₀ hc₁ (by rw [heq, heq', hid])
  · intro j p i c hp hc
    obtain ⟨c₀, hc₀, heq⟩ := hold i c hc
    rw [← heq]
    exact hcore.disjoint j p i c₀ (hpub j ▸ hp) hc₀
  · rw [hservices]
    exact hcore.name_unique
  · rw [hissued]
    exact hcore.issued_nodup
  · exact hwatches

theorem Core.drop (hcore : Core s) {k : Fin maxPendingWatches} (hc : s.clients i = some c) : Core
    (s.drop k i c tx) := by
  have hclients : ∀ i', ((s.drop k i c tx).clients i').map (·.installed)
      = (s.clients i').map (·.installed) := by
    intro i'
    by_cases hi : i' = i
    · subst hi
      simp [RegistryState.drop, hc, Client.installed]
    · simp [RegistryState.drop, hi]
  refine hcore.of_clients rfl rfl hclients fun k' w hw => ?_
  have hw' : s.watches k' = some w := by
    by_cases hk : k' = k
    · simp [RegistryState.drop, hk] at hw
    · simpa [RegistryState.drop, hk] using hw
  obtain ⟨i', c', hc', hendpoint, hhandle⟩ := hcore.watch_client k' w hw'
  have hmap := hclients i'
  rw [hc', Option.map_some, Option.map_eq_some_iff] at hmap
  obtain ⟨c₁, hc₁, heq⟩ := hmap
  exact ⟨i', c₁, hc₁, (congrArg InstalledEndpoint.identity heq).trans hendpoint,
    (congrArg InstalledEndpoint.handle heq).trans hhandle⟩

theorem Drops.core (h : Drops s evs s') (hcore : Core s) : Core s' := by
  induction h with
  | nil => exact hcore
  | cons _ hc _ _ ih => exact ih (hcore.drop hc)

theorem Core.setActive (hcore : Core s) {slot : ServiceSlot} (hslot : s.services j = some slot)
    (hactive : slot.active = some p)
    {active : Option Publication} (hsame : ∀ q, active = some q → q.endpoint = p.endpoint) :
    Core (s.setSlot j { slot with active }) := by
  have hp : s.publicationAt j = some p := publicationAt_eq_some.mpr ⟨slot, hslot, hactive⟩
  have hold : ∀ j' q, (s.setSlot j { slot with active }).publicationAt j' = some q →
      ∃ q₀, s.publicationAt j' = some q₀ ∧ q₀.endpoint = q.endpoint := by
    intro j' q hq
    by_cases hj : j' = j
    · subst hj
      have hq' : active = some q := by simpa [publicationAt] using hq
      exact ⟨p, hp, (hsame q hq').symm⟩
    · exact ⟨q, by simpa [publicationAt, hj] using hq, rfl⟩
  have hnames : ∀ j' a, (s.setSlot j { slot with active }).services j' = some a →
      ∃ a₀, s.services j' = some a₀ ∧ a₀.name = a.name := by
    intro j' a ha
    by_cases hj : j' = j
    · subst hj
      obtain rfl : { slot with active } = a := by simpa using ha
      exact ⟨slot, hslot, rfl⟩
    · exact ⟨a, by simpa [hj] using ha, rfl⟩
  constructor
  · intro j' q hq
    obtain ⟨q₀, hq₀, heq⟩ := hold j' q hq
    rw [← heq]
    exact hcore.publication_issued j' q₀ hq₀
  · exact hcore.client_issued
  · intro j₁ j₂ q₁ q₂ hq₁ hq₂ hid
    obtain ⟨a₁, ha₁, heq₁⟩ := hold j₁ q₁ hq₁
    obtain ⟨a₂, ha₂, heq₂⟩ := hold j₂ q₂ hq₂
    exact hcore.publication_unique j₁ j₂ a₁ a₂ ha₁ ha₂ (by rw [heq₁, heq₂, hid])
  · exact hcore.client_unique
  · intro j' q i c hq hc
    obtain ⟨q₀, hq₀, heq⟩ := hold j' q hq
    rw [← heq]
    exact hcore.disjoint j' q₀ i c hq₀ hc
  · intro j₁ j₂ a b ha hb hname
    obtain ⟨a₀, ha₀, heqa⟩ := hnames j₁ a ha
    obtain ⟨b₀, hb₀, heqb⟩ := hnames j₂ b hb
    exact hcore.name_unique j₁ j₂ a₀ b₀ ha₀ hb₀ (by rw [heqa, heqb, hname])
  · exact hcore.issued_nodup
  · exact hcore.watch_client

end Drops

/-! ## Programs -/

section Helpers

variable {s : RegistryState} {α : Type}
  {Q : Outcome RegistryError α → RegistryState → List TxEvent → Prop} {f : Unit → Reg α}

theorem wp_reserveClient (hc : s.clients i = some c) (herr : ∀ e, Q (.err e) s [])
    (hok : c.Accepts tx → wp (f ())
      (fun o s' w => Q o s' (⟨c.endpoint, .accepted tx⟩ :: w)) (s.setClient i (c.accept tx))) :
    wp (reserveClient i tx >>= f) Q s := by
  rw [wp_bind, reserveClient, wp_get_bind, hc, unwrap_some, pure_bind, wp_lift_bind]
  rcases c.reserve_cases tx with ⟨haccepts, hreserve⟩ | ⟨e, he⟩
  · rw [hreserve]
    simpa [wp, bind_run] using hok haccepts
  · rw [he]
    exact herr e

theorem wp_completeClient (hc : s.clients i = some c)
    (hok : wp (f ()) (fun o s' w => Q o s' (c.completed tx ++ w))
      (s.setClient i (c.complete tx))) :
    wp (completeClient i tx >>= f) Q s := by
  rw [wp_bind, completeClient, wp_get_bind, hc, unwrap_some, pure_bind]
  by_cases hlive : tx ∈ c.liveTransactions
  · simpa [wp, bind_run, hlive, Client.completed] using hok
  · simpa [wp, bind_run, hlive, Client.completed] using hok

theorem wp_activeAt {slot : ServiceSlot}
    {f : ServiceSlot × Publication → Reg α} (hslot : s.services j = some slot)
    (hactive : slot.active = some p) (hok : wp (f (slot, p)) Q s) :
    wp (activeAt j >>= f) Q s := by
  simpa [wp, activeAt, bind_run, hslot, hactive] using hok

theorem wp_reservePublication {slot : ServiceSlot} (hslot : s.services j = some slot)
    (hactive : slot.active = some p) (herr : ∀ e, ¬ p.Accepts tx → Q (.err e) s [])
    (hok : p.Accepts tx → wp (f ())
      (fun o s' w => Q o s' (⟨p.endpoint, .accepted tx⟩ :: w))
      (s.setSlot j { slot with active := some { p with liveTransaction := tx } })) :
    wp (reservePublication j tx >>= f) Q s := by
  rw [wp_bind, reservePublication]
  refine wp_activeAt hslot hactive ?_
  rw [wp_lift_bind]
  rcases p.reserve_cases tx with ⟨haccepts, hreserve⟩ | ⟨e, he⟩
  · rw [hreserve]
    simpa [wp, bind_run] using hok haccepts
  · rw [he]
    refine herr e fun haccepts => ?_
    rw [haccepts.reserve] at he
    cases he

theorem wp_completePublication (slot : ServiceSlot) (hslot : s.services j = some slot)
    (hactive : slot.active = some p) (hlive : p.liveTransaction = tx)
    (hok : wp (f ()) (fun o s' w => Q o s' (⟨p.endpoint, .completed tx⟩ :: w))
      (s.setSlot j { slot with
        active := some { p with liveTransaction := 0, replay := p.replay.push tx } })) :
    wp (completePublication j tx >>= f) Q s := by
  rw [wp_bind, completePublication]
  refine wp_activeAt hslot hactive ?_
  simpa [wp, bind_run, publicationComplete, hlive] using hok

theorem wp_touchPublication {slot : ServiceSlot} (hslot : s.services j = some slot)
    (hactive : slot.active = some p) (herr : ∀ e, ¬ p.Accepts tx → Q (.err e) s [])
    (hok : p.Accepts tx → wp (f ())
      (fun o s' w => Q o s' (⟨p.endpoint, .accepted tx⟩ :: ⟨p.endpoint, .completed tx⟩ :: w))
      (s.setSlot j { slot with active := some (p.touch tx) })) :
    wp (reservePublication j tx >>= fun _ => completePublication j tx >>= f) Q s := by
  refine wp_reservePublication hslot hactive herr fun haccepts => ?_
  refine wp_completePublication { slot with active := some { p with liveTransaction := tx } }
    (by simp) rfl rfl ?_
  have hidle : ({ p with liveTransaction := 0, replay := p.replay.push tx } : Publication)
      = p.touch tx := by
    rw [Publication.touch, ← haccepts.idle]
  simpa [hidle] using hok haccepts

theorem wp_touchClient (hc : s.clients i = some c) (herr : ∀ e, Q (.err e) s [])
    (hok : c.Accepts tx → wp (f ())
      (fun o s' w => Q o s' (⟨c.endpoint, .accepted tx⟩ :: ⟨c.endpoint, .completed tx⟩ :: w))
      (s.setClient i (c.touch tx))) :
    wp (reserveClient i tx >>= fun _ => completeClient i tx >>= f) Q s := by
  refine wp_reserveClient hc herr fun haccepts => ?_
  refine wp_completeClient (c := c.accept tx) (by simp) ?_
  have hmem : tx ∈ (c.accept tx).liveTransactions := by simp [Client.accept]
  simpa [Client.completed, hmem, Client.complete_accept haccepts.not_live] using hok haccepts

/-! ## Notification -/

variable {protocolId : Nat} {name : Name} {generation : Nat}

theorem notifyAt_spec (hcore : Core s) (k : Fin maxPendingWatches) :
    wp (notifyAt protocolId name generation k) (fun o s' evs =>
      o = .ok (((s.watches k).filter
          fun w => decide (w.Concerns protocolId name generation)).map
            (·.notification generation)).toList
        ∧ Drops s evs s'
        ∧ s'.watches = update s.watches k ((s.watches k).filter
            fun w => !decide (w.Concerns protocolId name generation))) s := by
  rw [notifyAt, wp_get_bind]
  cases hk : s.watches k with
  | none =>
      have hsame : update s.watches k none = s.watches := by rw [← hk, update_eq_self]
      exact ⟨rfl, .nil, hsame.symm⟩
  | some w =>
      by_cases hconcerns : w.Concerns protocolId name generation
      · obtain ⟨i, c, hc, hendpoint, hhandle⟩ := hcore.watch_client k w hk
        have hindex : s.clientIndex w.client = .ok i := hendpoint ▸ hcore.clientIndex hc
        have hif : w.protocolId = protocolId ∧ w.name = name ∧ w.lastGeneration ≠ generation :=
          hconcerns
        simp only [hindex, if_pos hif]
        refine wp_completeClient hc ?_
        simp only [pure_bind, wp_bind, wp_modify, wp_pure, List.append_nil]
        refine ⟨by simp [Option.filter_some, hconcerns, PendingWatch.notification], ?_,
          by simp [Option.filter_some, hconcerns]⟩
        have hdrop : Drops s (c.completed w.transaction ++ []) (s.drop k i c w.transaction) :=
          .cons hk hc hendpoint .nil
        rw [List.append_nil] at hdrop
        exact hdrop
      · have hif : ¬ (w.protocolId = protocolId ∧ w.name = name
            ∧ w.lastGeneration ≠ generation) := hconcerns
        simp only [if_neg hif]
        have hsame : update s.watches k (some w) = s.watches := by rw [← hk, update_eq_self]
        refine ⟨by simp [Option.filter_some, hconcerns], .nil, ?_⟩
        rw [Option.filter_some, if_pos (by simp [hconcerns]), hsame]
        rfl

theorem Drops.trans {s s' s'' : RegistryState} {evs evs' : List TxEvent} (h : Drops s evs s')
    (h' : Drops s' evs' s'') : Drops s (evs ++ evs') s'' := by
  induction h with
  | nil => exact h'
  | cons hk hc hendpoint _ ih =>
      rw [List.append_assoc]
      exact .cons hk hc hendpoint (ih h')

theorem collect_notifyAt_spec : ∀ (ks : List (Fin maxPendingWatches)) {s : RegistryState},
    ks.Nodup → Core s →
    wp (Prog.collect ks (notifyAt protocolId name generation)) (fun o s' evs =>
      o = .ok (ks.filterMap fun k => ((s.watches k).filter
          fun w => decide (w.Concerns protocolId name generation)).map
            (·.notification generation))
        ∧ Drops s evs s'
        ∧ ∀ k, s'.watches k = if k ∈ ks then (s.watches k).filter
            (fun w => !decide (w.Concerns protocolId name generation)) else s.watches k) s
  | [], s, _, _ => ⟨rfl, .nil, fun _ => rfl⟩
  | k :: ks, s, hnd, hcore => by
      obtain ⟨hk, hnd⟩ := List.nodup_cons.mp hnd
      rw [Prog.collect, wp_bind]
      refine wp_mono (notifyAt_spec hcore k) ?_
      rintro _ s₁ evs ⟨rfl, hdrops, hwatches⟩
      simp only [wp_bind]
      refine wp_mono (collect_notifyAt_spec ks hnd (hdrops.core hcore)) ?_
      rintro _ s₂ evs' ⟨rfl, hdrops', hwatches'⟩
      have hother : ∀ k' ∈ ks, s₁.watches k' = s.watches k' := by
        intro k' hk'
        have hne : k' ≠ k := fun heq => hk (heq ▸ hk')
        rw [hwatches, update_of_ne hne]
      simp only [wp_pure]
      refine ⟨?_, by simpa using hdrops.trans hdrops', fun k' => ?_⟩
      · rw [List.filterMap_congr fun k' hk' => by rw [hother k' hk'], List.filterMap_cons]
        cases ((s.watches k).filter fun w => decide (w.Concerns protocolId name generation)).map
          (·.notification generation) <;> rfl
      · rw [hwatches' k']
        by_cases hmem : k' ∈ ks
        · simp [hmem, hother k' hmem]
        · by_cases heq : k' = k
          · subst heq
            simp [hmem, hwatches]
          · simp [hmem, heq, hwatches]

theorem wp_notify {f : List WatchNotification → Reg α} (hcore : Core s)
    (hok : ∀ sent evs s', Notified s protocolId name generation sent evs s' →
      wp (f sent) (fun o s'' w => Q o s'' (evs ++ w)) s') :
    wp (notify protocolId name generation >>= f) Q s := by
  rw [wp_bind, notify]
  refine wp_mono (collect_notifyAt_spec _ (List.nodup_finRange _) hcore) ?_
  rintro _ s' evs ⟨rfl, hdrops, hwatches⟩
  exact hok _ evs s' ⟨hdrops, fun k => by simpa using hwatches k, rfl⟩

end Helpers

/-! ## Transitions -/

/-- A reply that an id accepted and completed at once can get. -/
inductive Answers (s : RegistryState) : TicketOp → Reply → Prop
  | acknowledged {e : EndpointIdentity} {kind : EndpointKind} {tx : Nat} :
      Answers s (.completeTransaction e kind tx) .done
  | immediate {e : EndpointIdentity} {tx : Nat} {request : Watch}
      (hmoved : s.currentGeneration request.protocolId request.serviceName
        ≠ request.lastObservedGeneration) :
      Answers s (.watch e tx request)
        (.watched (.immediate (s.currentGeneration request.protocolId request.serviceName)))
  | offered {e : EndpointIdentity} {tx : Nat} {request : Lookup} {offer : ForwardOffer}
      (hoffer : s.offerFor tx request = .ok offer) :
      Answers s (.lookup e tx request) (.offered offer)

/-- An error, or such a reply. -/
def Concludes (s : RegistryState) (op : TicketOp) : Outcome RegistryError Reply → Prop
  | .ok reply => Answers s op reply
  | .err _ => True
  | .panic => False

/-- The slot an accepted installation fills. -/
def InstallPublication.slot (install : InstallPublication) (handle : Nat) : ServiceSlot :=
  { name := install.serviceName, lastGeneration := install.serviceGeneration,
    active := some {
      endpoint := ⟨install.endpointId, install.endpointGeneration⟩, handle,
      roleId := install.supervisorRoleId, publicationId := install.publicationId,
      serviceGeneration := install.serviceGeneration, protocolId := install.protocolId,
      versions := install.versions, phase := .installed, liveTransaction := 0,
      replay := Ring.new 0 maxPublicationReplay_pos } }

/-- The client an accepted installation adds. -/
def InstallClient.client (install : InstallClient) (handle : Nat) : Client :=
  { endpoint := ⟨install.endpointId, install.endpointGeneration⟩, handle,
    clientId := install.clientId, scope := install.scope, liveTransactions := [],
    replay := Ring.new 0 maxClientReplay_pos }

/-- What both installations check of an endpoint. -/
structure FreshEndpoint (s : RegistryState) (registryGeneration : Nat)
    (endpoint : EndpointIdentity) (handle : Nat) : Prop where
  generation : registryGeneration = s.generation
  id_nonzero : endpoint.id ≠ 0
  generation_nonzero : endpoint.generation ≠ 0
  handle_nonzero : handle ≠ 0
  fresh : endpoint.id ∉ s.issuedEndpointIds

/-- A slot that may be filled: unused with the name nowhere else, or the
tombstone of this name with an older generation. -/
def Vacant (s : RegistryState) (j : Fin maxServices) (name : Name) (generation : Nat) : Prop :=
  (s.services j = none ∧ ∀ j' slot, s.services j' = some slot → slot.name ≠ name)
    ∨ ∃ slot, s.services j = some slot ∧ slot.name = name ∧ slot.active = none
        ∧ slot.lastGeneration < generation

/-- Names fit where they are copied to, as the parser makes sure. -/
def TicketOp.NameFits : TicketOp → Prop
  | .installPublication _ _ install => install.serviceName.length ≤ maxServiceNameBytes
  | .watch _ _ request => request.serviceName.length ≤ maxServiceNameBytes
  | _ => True

/-- Every effect of an operation: its reply, the accepts and completions it
makes, and the state it leaves. -/
inductive Transition (s : RegistryState) :
    TicketOp → Outcome RegistryError Reply → List TxEvent → RegistryState → Prop
  | refused {op : TicketOp} {e : RegistryError} : Transition s op (.err e) [] s
  | panicked {op : TicketOp} {evs : List TxEvent} {s' : RegistryState}
      (hlong : ¬ op.NameFits) : Transition s op .panic evs s'
  | publicationInstalled {g handle : Nat} {install : InstallPublication} {j : Fin maxServices}
      (hfresh : FreshEndpoint s g ⟨install.endpointId, install.endpointGeneration⟩ handle)
      (hvacant : Vacant s j install.serviceName install.serviceGeneration) :
      Transition s (.installPublication g handle install) (.ok .done) []
        { s.setSlot j (install.slot handle) with
          issuedEndpointIds := s.issuedEndpointIds ++ [install.endpointId],
          issuedPublicationIds := s.issuedPublicationIds ++ [install.publicationId] }
  | clientInstalled {g handle : Nat} {install : InstallClient} {i : Fin maxClients}
      (hfresh : FreshEndpoint s g ⟨install.endpointId, install.endpointGeneration⟩ handle)
      (hi : s.clients i = none) :
      Transition s (.installClient g handle install) (.ok .done) []
        { s.setClient i (some (install.client handle)) with
          issuedEndpointIds := s.issuedEndpointIds ++ [install.endpointId],
          issuedClientIds := s.issuedClientIds ++ [install.clientId] }
  | clientTouched {op : TicketOp} {o : Outcome RegistryError Reply} {i : Fin maxClients}
      {c : Client} {tx : Nat} (hc : s.clients i = some c) (haccepts : c.Accepts tx)
      (ho : Concludes s op o) :
      Transition s op o [⟨c.endpoint, .accepted tx⟩, ⟨c.endpoint, .completed tx⟩]
        (s.setClient i (some (c.touch tx)))
  | publicationTouched {op : TicketOp} {o : Outcome RegistryError Reply}
      {j : Fin maxServices} {slot : ServiceSlot} {p : Publication} {tx : Nat}
      (hslot : s.services j = some slot) (hactive : slot.active = some p)
      (haccepts : p.Accepts tx) (ho : Concludes s op o) :
      Transition s op o [⟨p.endpoint, .accepted tx⟩, ⟨p.endpoint, .completed tx⟩]
        (s.setSlot j { slot with active := some (p.touch tx) })
  | watchAdded {i : Fin maxClients} {c : Client} {tx : Nat} {request : Watch}
      {k : Fin maxPendingWatches} (hc : s.clients i = some c) (haccepts : c.Accepts tx)
      (hk : s.watches k = none)
      (hcurrent : s.currentGeneration request.protocolId request.serviceName
        = request.lastObservedGeneration) :
      Transition s (.watch c.endpoint tx request) (.ok (.watched .pending))
        [⟨c.endpoint, .accepted tx⟩]
        ((s.setClient i (some (c.accept tx))).setWatch k (some {
          client := c.endpoint, clientHandle := c.handle, transaction := tx,
          protocolId := request.protocolId, lastGeneration := request.lastObservedGeneration,
          name := request.serviceName }))
  | cancelled {i : Fin maxClients} {c : Client} {tx : Nat} {k : Fin maxPendingWatches}
      {w : PendingWatch} (hc : s.clients i = some c) (haccepts : c.Accepts tx)
      (hk : s.watches k = some w) (hw : w.client = c.endpoint) :
      Transition s (.cancel c.endpoint tx w.transaction) (.ok .done)
        (⟨c.endpoint, .accepted tx⟩ :: ((c.accept tx).completed w.transaction
          ++ ((c.accept tx).complete w.transaction).completed tx))
        ((s.setWatch k none).setClient i
          (some (((c.accept tx).complete w.transaction).complete tx)))
  | enumerationBegun {i : Fin maxClients} {c : Client} {tx : Nat} (hc : s.clients i = some c)
      (haccepts : c.Accepts tx) :
      Transition s (.enumerateBegin c.endpoint tx)
        (.ok (.begun {
          client := c.endpoint, transaction := tx, totalCount := s.publishedCount,
          pageCount := if s.publishedCount = 0 then 1 else (s.publishedCount + 1) / 2 }))
        [⟨c.endpoint, .accepted tx⟩] (s.setClient i (some (c.accept tx)))
  | enumerationCompleted {i : Fin maxClients} {c : Client} {ticket : EnumerationTicket}
      (hc : s.clients i = some c) (hticket : ticket.client = c.endpoint)
      (hlive : ticket.transaction ∈ c.liveTransactions) :
      Transition s (.enumerationComplete ticket) (.ok .enumerated)
        [⟨c.endpoint, .completed ticket.transaction⟩]
        (s.setClient i (some (c.complete ticket.transaction)))
  | prepared {j : Fin maxServices} {slot : ServiceSlot} {p : Publication} {tx : Nat}
      (hslot : s.services j = some slot) (hactive : slot.active = some p)
      (haccepts : p.Accepts tx) (hphase : p.phase = .installed) :
      Transition s (.preparePublish p.endpoint tx) (.ok (.prepared ⟨p.endpoint, tx⟩))
        [⟨p.endpoint, .accepted tx⟩]
        (s.setSlot j { slot with active := some { p with liveTransaction := tx } })
  | committed {j : Fin maxServices} {slot : ServiceSlot} {p : Publication}
      {sent : List WatchNotification} {evs : List TxEvent} {s' : RegistryState}
      (hslot : s.services j = some slot) (hactive : slot.active = some p)
      (hphase : p.phase = .installed)
      (hnotified : Notified (s.setSlot j { slot with active := some { p with
          phase := .published, liveTransaction := 0,
          replay := p.replay.push p.liveTransaction } })
        p.protocolId slot.name p.serviceGeneration sent evs s') :
      Transition s (.commitPublish ⟨p.endpoint, p.liveTransaction⟩)
        (.ok (.published ⟨p.serviceGeneration, sent⟩))
        (⟨p.endpoint, .completed p.liveTransaction⟩ :: evs) s'
  | retired {j : Fin maxServices} {slot : ServiceSlot} {p : Publication} {tx : Nat}
      {sent : List WatchNotification} {evs : List TxEvent} {s' : RegistryState}
      (hslot : s.services j = some slot) (hactive : slot.active = some p)
      (haccepts : p.Accepts tx)
      (hnotified : Notified (s.setSlot j { slot with active := none }) p.protocolId slot.name 0
        sent evs s') :
      Transition s (.retire p.endpoint tx)
        (.ok (.retired ⟨p.handle, p.serviceGeneration, sent⟩))
        (⟨p.endpoint, .accepted tx⟩ :: ⟨p.endpoint, .completed tx⟩ :: evs) s'
  | publicationClosed {j : Fin maxServices} {slot : ServiceSlot} {p : Publication}
      {sent : List WatchNotification} {evs : List TxEvent} {s' : RegistryState}
      (hslot : s.services j = some slot) (hactive : slot.active = some p)
      (hnotified : Notified (s.setSlot j { slot with active := none }) p.protocolId slot.name 0
        sent evs s') :
      Transition s (.peerClosed p.endpoint) (.ok (.closed ⟨p.handle, .publication, sent⟩)) evs s'
  | clientClosed {i : Fin maxClients} {c : Client} (hc : s.clients i = some c) :
      Transition s (.peerClosed c.endpoint) (.ok (.closed ⟨c.handle, .client, []⟩)) []
        { s.setClient i none with
          watches := fun k => (s.watches k).filter (·.client ≠ c.endpoint) }

section Specs

variable {s : RegistryState}

/-- A call described by `Transition`, its result tagged as a reply. -/
def Does {α : Type} (m : Reg α) (s : RegistryState) (op : TicketOp) (tag : α → Reply) : Prop :=
  wp m (fun o s' evs => Transition s op (o.map tag) evs s') s

theorem clientTouched_err {op : TicketOp}
    {e : RegistryError} (hc : s.clients i = some c) (haccepts : c.Accepts tx) :
    Transition s op (.err e) [⟨c.endpoint, .accepted tx⟩, ⟨c.endpoint, .completed tx⟩]
      (s.setClient i (some (c.touch tx))) :=
  .clientTouched hc haccepts trivial

theorem preparePublish_spec (e : EndpointIdentity) (tx : Nat) :
    Does (preparePublish e tx) s (.preparePublish e tx) .prepared := by
  rw [Does, preparePublish, wp_get_bind, wp_lift_bind]
  rcases publicationIndex_cases s e with ⟨j, slot, p, hslot, hactive, rfl, hindex⟩ | ⟨err, herr⟩
  · rw [hindex]
    refine wp_activeAt hslot hactive ?_
    by_cases hphase : p.phase = .installed
    · simp only [hphase, ne_eq, not_true_eq_false, if_false]
      exact wp_reservePublication hslot hactive (fun _ _ => .refused)
        fun haccepts => .prepared hslot hactive haccepts hphase
    · simp only [hphase, ne_eq, not_false_eq_true, if_true]
      exact wp_touchPublication hslot hactive (fun _ _ => .refused)
        fun haccepts => .publicationTouched hslot hactive haccepts trivial
  · rw [herr]
    exact .refused

theorem wp_commitPublish (hcore : Core s) {slot : ServiceSlot}
    {Q : Outcome RegistryError PublishOutcome → RegistryState →
      List TxEvent → Prop}
    (hslot : s.services j = some slot) (hactive : slot.active = some p)
    (hphase : p.phase = .installed)
    (hok : ∀ sent evs s', Notified (s.setSlot j { slot with active := some { p with
        phase := .published, liveTransaction := 0,
        replay := p.replay.push p.liveTransaction } })
      p.protocolId slot.name p.serviceGeneration sent evs s' →
      Q (.ok ⟨p.serviceGeneration, sent⟩) s' (⟨p.endpoint, .completed p.liveTransaction⟩ :: evs)) :
    wp (commitPublish ⟨p.endpoint, p.liveTransaction⟩) Q s := by
  have hindex := hcore.publicationIndex (publicationAt_eq_some.mpr ⟨slot, hslot, hactive⟩)
  rw [commitPublish, wp_get_bind, wp_lift_bind, hindex]
  refine wp_activeAt hslot hactive ?_
  simp only [hphase, ne_eq, not_true_eq_false, or_self, if_false]
  rw [wp_bind, wp_modify]
  refine wp_completePublication { slot with active := some { p with phase := .published } }
    (by simp) rfl rfl ?_
  rw [setSlot_setSlot]
  refine wp_notify (hcore.setActive hslot hactive ?_) fun sent evs s' hnotified => ?_
  · rintro _ ⟨⟩
    rfl
  · simpa using hok sent evs s' hnotified

theorem commitPublish_spec (hcore : Core s) (ticket : PublishTicket) :
    Does (commitPublish ticket) s (.commitPublish ticket) .published := by
  rcases publicationIndex_cases s ticket.endpoint with
    ⟨j, slot, p, hslot, hactive, hendpoint, hindex⟩ | ⟨err, herr⟩
  · by_cases hstale : p.liveTransaction ≠ ticket.transaction ∨ p.phase ≠ .installed
    · rw [Does, commitPublish, wp_get_bind, wp_lift_bind, hindex]
      refine wp_activeAt hslot hactive ?_
      simp only [hstale, if_true]
      exact .refused
    · rw [not_or, not_not, not_not] at hstale
      obtain ⟨hlive, hphase⟩ := hstale
      obtain rfl : (⟨p.endpoint, p.liveTransaction⟩ : PublishTicket) = ticket := by
        rw [hendpoint, hlive]
      exact wp_commitPublish hcore hslot hactive hphase
        fun _ _ _ hnotified => .committed hslot hactive hphase hnotified
  · rw [Does, commitPublish, wp_get_bind, wp_lift_bind, herr]
    exact .refused

theorem retire_spec (hcore : Core s) (e : EndpointIdentity) (tx : Nat) :
    Does (retire e tx) s (.retire e tx) .retired := by
  rw [Does, retire, wp_get_bind, wp_lift_bind]
  rcases publicationIndex_cases s e with ⟨j, slot, p, hslot, hactive, rfl, hindex⟩ | ⟨err, herr⟩
  · rw [hindex]
    refine wp_activeAt hslot hactive ?_
    refine wp_touchPublication hslot hactive (fun _ _ => .refused) fun haccepts => ?_
    rw [wp_bind, wp_modify, setSlot_setSlot]
    refine wp_notify (hcore.setActive hslot hactive (by simp)) fun sent evs s' hnotified => ?_
    simpa using Transition.retired hslot hactive haccepts hnotified
  · rw [herr]
    exact .refused

theorem offerFor_setClient (i : Fin maxClients) (c : Option Client) (tx : Nat)
    (request : Lookup) : (s.setClient i c).offerFor tx request = s.offerFor tx request := rfl

theorem currentGeneration_setClient (i : Fin maxClients) (c : Option Client) (protocolId : Nat)
    (name : Name) :
    (s.setClient i c).currentGeneration protocolId name = s.currentGeneration protocolId name :=
  rfl

theorem lookup_spec (e : EndpointIdentity) (tx : Nat) (request : Lookup) :
    Does (lookup e tx request) s (.lookup e tx request) .offered := by
  rw [Does, lookup, wp_get_bind, wp_lift_bind]
  rcases clientIndex_cases s e with ⟨i, c, hc, rfl, hindex⟩ | herr | herr
  · rw [hindex]
    refine wp_reserveClient hc (fun _ => .refused) fun haccepts => ?_
    rw [wp_get_bind, offerFor_setClient]
    refine wp_completeClient (c := c.accept tx) (by simp) ?_
    have hmem : tx ∈ (c.accept tx).liveTransactions := by simp [Client.accept]
    simp only [wp_lift, setClient_setClient, Client.completed, hmem, if_true,
      Client.complete_accept haccepts.not_live]
    cases hoffer : s.offerFor tx request with
    | ok offer => exact .clientTouched hc haccepts (.offered hoffer)
    | error err => exact clientTouched_err hc haccepts
  all_goals
    rw [herr]
    exact .refused

theorem watch_spec (e : EndpointIdentity) (tx : Nat) (request : Watch) :
    Does (watch e tx request) s (.watch e tx request) .watched := by
  rw [Does, watch, wp_get_bind, wp_lift_bind]
  rcases clientIndex_cases s e with ⟨i, c, hc, rfl, hindex⟩ | herr | herr
  · rw [hindex]
    refine wp_reserveClient hc (fun _ => .refused) fun haccepts => ?_
    rw [wp_get_bind, currentGeneration_setClient]
    have hmem : tx ∈ (c.accept tx).liveTransactions := by simp [Client.accept]
    have hcomplete := Client.complete_accept haccepts.not_live
    by_cases hcurrent : s.currentGeneration request.protocolId request.serviceName
        = request.lastObservedGeneration
    · simp only [hcurrent, ne_eq, not_true_eq_false, if_false]
      cases hpos : position fun k => (s.watches k).isNone with
      | none =>
          simp only [setClient_watches, hpos]
          refine wp_completeClient (c := c.accept tx) (by simp) ?_
          simpa [Client.completed, hmem, hcomplete] using clientTouched_err hc haccepts
      | some k =>
          have hk : s.watches k = none := by simpa using position_some hpos
          simp only [setClient_watches, hpos]
          by_cases hfull : countWhere (fun k => (s.watches k).any (·.client == c.endpoint))
              = maxOutstandingPerClient
          · simp only [hfull, if_true]
            refine wp_completeClient (c := c.accept tx) (by simp) ?_
            simpa [Client.completed, hmem, hcomplete] using clientTouched_err hc haccepts
          · simp only [hfull, if_false, copyName, wp_lift_bind]
            by_cases hname : request.serviceName.length ≤ maxServiceNameBytes
            · simp only [hname, if_true, setClient_clients, update_self, unwrap_some, pure_bind,
                wp_bind, wp_modify, wp_pure]
              exact .watchAdded hc haccepts hk hcurrent
            · simp only [hname, if_false]
              exact .panicked hname
    · simp only [hcurrent, ne_eq, not_false_eq_true, if_true]
      refine wp_completeClient (c := c.accept tx) (by simp) ?_
      simp only [wp_pure, setClient_setClient, Client.completed, hmem, if_true, hcomplete]
      exact .clientTouched hc haccepts (.immediate hcurrent)
  all_goals
    rw [herr]
    exact .refused

theorem cancel_spec (e : EndpointIdentity) (tx target : Nat) :
    Does (cancel e tx target) s (.cancel e tx target) fun _ => .done := by
  rw [Does, cancel, wp_get_bind, wp_lift_bind]
  rcases clientIndex_cases s e with ⟨i, c, hc, rfl, hindex⟩ | herr | herr
  · rw [hindex]
    refine wp_reserveClient hc (fun _ => .refused) fun haccepts => ?_
    rw [wp_get_bind]
    simp only [setClient_watches]
    split
    · rename_i k hpos
      have hany := position_some hpos
      cases hk : s.watches k with
      | none => simp [hk] at hany
      | some w =>
          obtain ⟨hclient, rfl⟩ : w.client = c.endpoint ∧ w.transaction = target := by
            simpa [hk] using hany
          rw [wp_bind, wp_modify]
          refine wp_completeClient (c := c.accept tx) (by simp) ?_
          rw [← bind_pure (completeClient i tx)]
          refine wp_completeClient (c := (c.accept tx).complete w.transaction) (by simp) ?_
          have hstate : (((s.setClient i (some (c.accept tx))).setWatch k none).setClient i
                (some ((c.accept tx).complete w.transaction))).setClient i
                  (some (((c.accept tx).complete w.transaction).complete tx))
              = (s.setWatch k none).setClient i
                  (some (((c.accept tx).complete w.transaction).complete tx)) := by
            simp [setClient, setWatch]
          rw [hstate]
          simpa using Transition.cancelled hc haccepts hk hclient
    · refine wp_completeClient (c := c.accept tx) (by simp) ?_
      have hmem : tx ∈ (c.accept tx).liveTransactions := by simp [Client.accept]
      simpa [Client.completed, hmem, Client.complete_accept haccepts.not_live]
        using clientTouched_err hc haccepts
  all_goals
    rw [herr]
    exact .refused

theorem publishedCount_le (s : RegistryState) : s.publishedCount ≤ maxServices := by
  calc s.publishedCount ≤ s.slots.length := List.length_filter_le _ _
    _ ≤ (List.finRange maxServices).length := List.length_filterMap_le _ _
    _ = maxServices := List.length_finRange

theorem enumerateBegin_spec (e : EndpointIdentity) (tx : Nat) :
    Does (enumerateBegin e tx) s (.enumerateBegin e tx) .begun := by
  rw [Does, enumerateBegin, wp_get_bind, wp_lift_bind]
  rcases clientIndex_cases s e with ⟨i, c, hc, rfl, hindex⟩ | herr | herr
  · rw [hindex]
    simp only [hc, unwrap_some, pure_bind]
    by_cases hscope : c.scope = .bootstrapMetadata
    · simp only [hscope, ne_eq, not_true_eq_false, if_false]
      refine wp_reserveClient hc (fun _ => .refused) fun haccepts => ?_
      have hpages : ¬ maxServiceListPages
          < (if s.publishedCount = 0 then 1 else (s.publishedCount + 1) / 2) := by
        have hle := publishedCount_le s
        simp only [maxServices] at hle
        split <;> simp only [maxServiceListPages] <;> omega
      simp only [hpages, if_false, wp_pure]
      exact .enumerationBegun hc haccepts
    · simp only [hscope, ne_eq, not_false_eq_true, if_true]
      refine wp_touchClient hc (fun _ => .refused) fun haccepts => ?_
      exact clientTouched_err hc haccepts
  all_goals
    rw [herr]
    exact .refused

theorem wp_enumerationComplete {ticket : EnumerationTicket}
    {Q : Outcome RegistryError Unit → RegistryState → List TxEvent → Prop}
    (hc : s.clients i = some c) (hindex : s.clientIndex ticket.client = .ok i)
    (hlive : ticket.transaction ∈ c.liveTransactions)
    (hok : Q (.ok ()) (s.setClient i (some (c.complete ticket.transaction)))
      [⟨c.endpoint, .completed ticket.transaction⟩]) :
    wp (enumerationComplete ticket) Q s := by
  rw [enumerationComplete, wp_get_bind, wp_lift_bind, hindex]
  simp only [hc, unwrap_some, pure_bind, List.contains_iff_mem, hlive, if_true]
  rw [← bind_pure (completeClient i ticket.transaction)]
  refine wp_completeClient hc ?_
  simpa [Client.completed, hlive] using hok

theorem enumerationComplete_spec (ticket : EnumerationTicket) :
    Does (enumerationComplete ticket) s (.enumerationComplete ticket) fun _ => .enumerated := by
  rcases clientIndex_cases s ticket.client with ⟨i, c, hc, hendpoint, hindex⟩ | herr | herr
  · by_cases hlive : ticket.transaction ∈ c.liveTransactions
    · exact wp_enumerationComplete hc hindex hlive
        (.enumerationCompleted hc hendpoint.symm hlive)
    · rw [Does, enumerationComplete, wp_get_bind, wp_lift_bind, hindex]
      simp only [hc, unwrap_some, pure_bind, List.contains_iff_mem, hlive, if_false]
      exact .refused
  all_goals
    rw [Does, enumerationComplete, wp_get_bind, wp_lift_bind, herr]
    exact .refused

theorem completeTransaction_spec (e : EndpointIdentity) (kind : EndpointKind) (tx : Nat) :
    Does (completeTransaction e kind tx) s (.completeTransaction e kind tx)
      fun _ => .done := by
  rw [Does, completeTransaction, wp_get_bind]
  cases kind with
  | client =>
      simp only [wp_lift_bind]
      rcases clientIndex_cases s e with ⟨i, c, hc, rfl, hindex⟩ | herr | herr
      · rw [hindex]
        simp only []
        rw [← bind_pure (completeClient i tx)]
        exact wp_touchClient hc (fun _ => .refused)
          fun haccepts => .clientTouched hc haccepts .acknowledged
      all_goals
        rw [herr]
        exact .refused
  | publication =>
      simp only [wp_lift_bind]
      rcases publicationIndex_cases s e with
        ⟨j, slot, p, hslot, hactive, rfl, hindex⟩ | ⟨err, herr⟩
      · rw [hindex]
        simp only []
        rw [← bind_pure (completePublication j tx)]
        exact wp_touchPublication hslot hactive (fun _ _ => .refused)
          fun haccepts => .publicationTouched hslot hactive haccepts .acknowledged
      · rw [herr]
        exact .refused

theorem wp_peerClosed_publication (hcore : Core s) {slot : ServiceSlot}
    {Q : Outcome RegistryError PeerCloseOutcome → RegistryState →
      List TxEvent → Prop}
    (hslot : s.services j = some slot) (hactive : slot.active = some p)
    (hok : ∀ sent evs s', Notified (s.setSlot j { slot with active := none }) p.protocolId
      slot.name 0 sent evs s' → Q (.ok ⟨p.handle, .publication, sent⟩) s' evs) :
    wp (peerClosed p.endpoint) Q s := by
  have hindex := hcore.publicationIndex (publicationAt_eq_some.mpr ⟨slot, hslot, hactive⟩)
  rw [peerClosed, wp_get_bind, hindex]
  simp only []
  refine wp_activeAt hslot hactive ?_
  rw [wp_bind, wp_modify]
  refine wp_notify (hcore.setActive hslot hactive (by simp)) fun sent evs s' hnotified => ?_
  simpa using hok sent evs s' hnotified

theorem wp_peerClosed_client (hcore : Core s)
    {Q : Outcome RegistryError PeerCloseOutcome → RegistryState → List TxEvent → Prop}
    (hc : s.clients i = some c)
    (hok : Q (.ok ⟨c.handle, .client, []⟩)
      { s.setClient i none with
        watches := fun k => (s.watches k).filter (·.client ≠ c.endpoint) } []) :
    wp (peerClosed c.endpoint) Q s := by
  rw [peerClosed, wp_get_bind]
  rcases publicationIndex_cases s c.endpoint with
    ⟨j, slot, p, hslot, hactive, hendpoint, -⟩ | ⟨err, herr⟩
  · have hp := publicationAt_eq_some.mpr ⟨slot, hslot, hactive⟩
    exact absurd (congrArg EndpointIdentity.id hendpoint) (hcore.disjoint j p i c hp hc)
  · rw [herr]
    simp only [wp_lift_bind, hcore.clientIndex hc]
    simp only [hc, unwrap_some, pure_bind, wp_bind, wp_set, wp_pure]
    exact hok

theorem wp_peerClosed_absent {e : EndpointIdentity}
    {Q : Outcome RegistryError PeerCloseOutcome → RegistryState → List TxEvent → Prop}
    (hp : ∀ j p, s.publicationAt j = some p → p.endpoint ≠ e)
    (hc : ∀ i c, s.clients i = some c → c.endpoint ≠ e)
    (herr : ∀ err, Q (.err err) s []) : wp (peerClosed e) Q s := by
  rw [peerClosed, wp_get_bind]
  rcases publicationIndex_cases s e with ⟨j, slot, p, hslot, hactive, heq, -⟩ | ⟨err, hindex⟩
  · exact absurd heq (hp j p (publicationAt_eq_some.mpr ⟨slot, hslot, hactive⟩))
  · rw [hindex]
    simp only [wp_lift_bind]
    rcases clientIndex_cases s e with ⟨i, c, hci, heq, -⟩ | hindex' | hindex'
    · exact absurd heq (hc i c hci)
    all_goals
      rw [hindex']
      exact herr _

theorem endpoint_cases (s : RegistryState) (e : EndpointIdentity) :
    (∃ j slot p, s.services j = some slot ∧ slot.active = some p ∧ p.endpoint = e)
      ∨ (∃ i c, s.clients i = some c ∧ c.endpoint = e)
      ∨ (∀ j p, s.publicationAt j = some p → p.endpoint ≠ e)
        ∧ ∀ i c, s.clients i = some c → c.endpoint ≠ e := by
  by_cases hp : ∃ j slot p, s.services j = some slot ∧ slot.active = some p ∧ p.endpoint = e
  · exact Or.inl hp
  by_cases hc : ∃ i c, s.clients i = some c ∧ c.endpoint = e
  · exact Or.inr (Or.inl hc)
  refine Or.inr (Or.inr ⟨fun j p hj heq => hp ?_, fun i c hi heq => hc ⟨i, c, hi, heq⟩⟩)
  obtain ⟨slot, hslot, hactive⟩ := publicationAt_eq_some.mp hj
  exact ⟨j, slot, p, hslot, hactive, heq⟩

theorem peerClosed_spec (hcore : Core s) (e : EndpointIdentity) :
    Does (peerClosed e) s (.peerClosed e) .closed := by
  rcases endpoint_cases s e with ⟨j, slot, p, hslot, hactive, rfl⟩ | ⟨i, c, hc, rfl⟩ | ⟨hp, hc⟩
  · exact wp_peerClosed_publication hcore hslot hactive
      fun _ _ _ hnotified => .publicationClosed hslot hactive hnotified
  · exact wp_peerClosed_client hcore hc (.clientClosed hc)
  · exact wp_peerClosed_absent hp hc fun _ => .refused

theorem slotFor_cases (s : RegistryState) (name : Name) (generation : Nat) :
    (∃ j, s.slotFor name generation = .ok j ∧ Vacant s j name generation)
      ∨ ∃ e, s.slotFor name generation = .err e := by
  unfold slotFor
  cases hpos : position fun j => (s.services j).any (·.name == name) with
  | some j =>
      have hany := position_some hpos
      cases hslot : s.services j with
      | none => simp [hslot] at hany
      | some slot =>
          have hname : slot.name = name := by simpa [hslot] using hany
          cases hactive : slot.active with
          | some p => exact Or.inr ⟨.duplicateService, by simp [hslot, hactive]⟩
          | none =>
              by_cases hold : generation ≤ slot.lastGeneration
              · exact Or.inr ⟨.staleServiceGeneration, by simp [hslot, hactive, hold]⟩
              · exact Or.inl ⟨j, by simp [hslot, hactive, hold],
                  Or.inr ⟨slot, hslot, hname, hactive, Nat.lt_of_not_le hold⟩⟩
  | none =>
      have hother : ∀ j' slot, s.services j' = some slot → slot.name ≠ name := by
        intro j' slot hslot
        simpa [hslot] using position_none.mp hpos j'
      cases hfree : position fun j => (s.services j).isNone with
      | none => exact Or.inr ⟨.capacity, rfl⟩
      | some j =>
          have hnone : s.services j = none := by simpa using position_some hfree
          exact Or.inl ⟨j, rfl, Or.inl ⟨hnone, hother⟩⟩

theorem freshEndpoint_cases (s : RegistryState) (g : Nat) (endpoint : EndpointIdentity)
    (handle : Nat) :
    (FreshEndpoint s g endpoint handle ∧ s.validateInstall g endpoint handle = .ok ()
        ∧ s.validateFreshEndpointId endpoint.id = .ok ())
      ∨ (∃ e, s.validateInstall g endpoint handle = .err e)
      ∨ (s.validateInstall g endpoint handle = .ok ()
        ∧ ∃ e, s.validateFreshEndpointId endpoint.id = .err e) := by
  unfold validateInstall validateFreshEndpointId
  by_cases hg : g = s.generation
  · by_cases hzero : endpoint.id = 0 ∨ endpoint.generation = 0 ∨ handle = 0
    · exact Or.inr (Or.inl ⟨.zeroIdentity, by simp [hg, hzero]⟩)
    · by_cases hissued : endpoint.id ∈ s.issuedEndpointIds
      · exact Or.inr (Or.inr ⟨by simp [hg, hzero], .duplicateEndpoint, by simp [hissued]⟩)
      · by_cases hroom : s.issuedEndpointIds.length = maxIssuedEndpointIds
        · exact Or.inr (Or.inr ⟨by simp [hg, hzero], .capacity, by simp [hissued, hroom]⟩)
        · rw [not_or, not_or] at hzero
          exact Or.inl ⟨⟨hg, hzero.1, hzero.2.1, hzero.2.2, hissued⟩, by simp [hg, hzero],
            by simp [hissued, hroom]⟩
  · exact Or.inr (Or.inl ⟨.wrongRegistryGeneration, by simp [hg]⟩)

theorem installPublication_spec (g handle : Nat) (install : InstallPublication) :
    Does (installPublication g handle install) s (.installPublication g handle install)
      fun _ => .done := by
  rw [Does, installPublication, wp_get_bind, wp_lift_bind]
  rcases freshEndpoint_cases s g ⟨install.endpointId, install.endpointGeneration⟩ handle with
    ⟨hfresh, hvalid, hid⟩ | ⟨e, he⟩ | ⟨hvalid, e, he⟩
  · rw [hvalid]
    simp only [wp_lift_bind, hid]
    split
    · exact .refused
    split
    · exact .refused
    rw [wp_lift_bind]
    rcases slotFor_cases s install.serviceName install.serviceGeneration with
      ⟨j, hj, hvacant⟩ | ⟨e, he⟩
    · simp only [hj, copyName, wp_lift_bind]
      by_cases hname : install.serviceName.length ≤ maxServiceNameBytes
      · simp only [hname, if_true, wp_bind, wp_set, recordPublication, wp_modify]
        exact .publicationInstalled hfresh hvacant
      · simp only [hname, if_false]
        exact .panicked hname
    · rw [he]
      exact .refused
  · rw [he]
    exact .refused
  · rw [hvalid]
    simp only [wp_lift_bind, he]
    exact .refused

theorem installClient_spec (g handle : Nat) (install : InstallClient) :
    Does (installClient g handle install) s (.installClient g handle install)
      fun _ => .done := by
  rw [Does, installClient, wp_get_bind, wp_lift_bind]
  rcases freshEndpoint_cases s g ⟨install.endpointId, install.endpointGeneration⟩ handle with
    ⟨hfresh, hvalid, hid⟩ | ⟨e, he⟩ | ⟨hvalid, e, he⟩
  · rw [hvalid]
    simp only [wp_lift_bind, hid]
    split
    · exact .refused
    split
    · exact .refused
    cases hpos : position fun i => (s.clients i).isNone with
    | none => exact .refused
    | some i =>
        have hi : s.clients i = none := by simpa using position_some hpos
        exact .clientInstalled hfresh hi
  · rw [he]
    exact .refused
  · rw [hvalid]
    simp only [wp_lift_bind, he]
    exact .refused

end Specs

theorem execState_transition {s : RegistryState} (hcore : Core s) (op : TicketOp) :
    Transition s op (execState op s).1 (execState op s).2.2 (execState op s).2.1 := by
  show wp (execState op) (fun o s' evs => Transition s op o evs s') s
  cases op with
  | installPublication g handle install =>
      exact (wp_bind_pure ..).mpr (installPublication_spec g handle install)
  | installClient g handle install =>
      exact (wp_bind_pure ..).mpr (installClient_spec g handle install)
  | preparePublish e tx => exact (wp_bind_pure ..).mpr (preparePublish_spec e tx)
  | commitPublish ticket => exact (wp_bind_pure ..).mpr (commitPublish_spec hcore ticket)
  | retire e tx => exact (wp_bind_pure ..).mpr (retire_spec hcore e tx)
  | lookup e tx request => exact (wp_bind_pure ..).mpr (lookup_spec e tx request)
  | watch e tx request => exact (wp_bind_pure ..).mpr (watch_spec e tx request)
  | cancel e tx target => exact (wp_bind_pure ..).mpr (cancel_spec e tx target)
  | enumerateBegin e tx => exact (wp_bind_pure ..).mpr (enumerateBegin_spec e tx)
  | enumerationComplete ticket =>
      exact (wp_bind_pure ..).mpr (enumerationComplete_spec ticket)
  | completeTransaction e kind tx =>
      exact (wp_bind_pure ..).mpr (completeTransaction_spec e kind tx)
  | peerClosed e => exact (wp_bind_pure ..).mpr (peerClosed_spec hcore e)

end Wyrmroot.Registry
