import Wyrmroot.Registry.Transition

/-!
# Reachable registries

`Core` holds in every state a registry reaches, so every call of every
history is a `Transition` (`RegistryRun.transition`). The claims about whole
histories start from there.
-/

namespace Wyrmroot.Registry

open Function RegistryState

variable {o : Outcome RegistryError Reply} {evs : List TxEvent}

section Core

variable {s s' : RegistryState} {i : Fin maxClients}

theorem Core.setClient (hcore : Core s) {c : Client} (c' : Client)
    (hc : s.clients i = some c) (hsame : c'.installed = c.installed) :
    Core (s.setClient i (some c')) := by
  have hclients : ∀ i', ((s.setClient i (some c')).clients i').map (·.installed)
      = (s.clients i').map (·.installed) := by
    intro i'
    by_cases hi : i' = i
    · subst hi
      simp [hc, hsame]
    · simp [hi]
  refine hcore.of_clients rfl rfl hclients fun k w hw => ?_
  obtain ⟨i', c₀, hc₀, hendpoint, hhandle⟩ := hcore.watch_client k w hw
  have hmap := hclients i'
  rw [hc₀, Option.map_some, Option.map_eq_some_iff] at hmap
  obtain ⟨c₁, hc₁, heq⟩ := hmap
  exact ⟨i', c₁, hc₁, (congrArg InstalledEndpoint.identity heq).trans hendpoint,
    (congrArg InstalledEndpoint.handle heq).trans hhandle⟩

theorem Core.setWatch (hcore : Core s) {k : Fin maxPendingWatches} {w : Option PendingWatch}
    (hw : ∀ w', w = some w' → ∃ i c, s.clients i = some c ∧ c.endpoint = w'.client
      ∧ c.handle = w'.clientHandle) : Core (s.setWatch k w) := by
  refine hcore.of_clients rfl rfl (fun _ => rfl) fun k' w' hw' => ?_
  by_cases hk : k' = k
  · subst hk
    exact hw w' (by simpa using hw')
  · exact hcore.watch_client k' w' (by simpa [hk] using hw')

variable {g handle : Nat}

theorem Core.installPublication (hcore : Core s) {j : Fin maxServices}
    {install : InstallPublication} {publicationIds : List Nat}
    (hfresh : FreshEndpoint s g ⟨install.endpointId, install.endpointGeneration⟩ handle)
    (hvacant : Vacant s j install.serviceName install.serviceGeneration) :
    Core { s.setSlot j (install.slot handle) with
      issuedEndpointIds := s.issuedEndpointIds ++ [install.endpointId],
      issuedPublicationIds := publicationIds } := by
  have hnew : install.endpointId ∉ s.issuedEndpointIds := hfresh.fresh
  -- every publication is the new one, or was there under an issued id
  have hcases : ∀ j' p, ((s.setSlot j (install.slot handle)).services j').bind (·.active) = some p →
      (j' = j ∧ p.endpoint.id = install.endpointId)
        ∨ (j' ≠ j ∧ s.publicationAt j' = some p) := by
    intro j' p hp
    by_cases hj : j' = j
    · subst hj
      obtain rfl := by simpa [InstallPublication.slot] using hp
      exact Or.inl ⟨rfl, rfl⟩
    · exact Or.inr ⟨hj, by simpa [hj, publicationAt] using hp⟩
  have hissued : ∀ j' p, s.publicationAt j' = some p → p.endpoint.id ≠ install.endpointId :=
    fun j' p hp heq => hnew (heq ▸ hcore.publication_issued j' p hp)
  have hname : ∀ j' a, j' ≠ j → s.services j' = some a → a.name ≠ install.serviceName := by
    intro j' a hj ha
    rcases hvacant with ⟨-, hother⟩ | ⟨slot, hslot, hname, -, -⟩
    · exact hother j' a ha
    · exact fun heq => hj (hcore.name_unique j' j a slot ha hslot (heq.trans hname.symm))
  constructor
  · intro j' p hp
    rcases hcases j' p hp with ⟨-, hid⟩ | ⟨-, hp'⟩
    · simp [hid]
    · simp [hcore.publication_issued j' p hp']
  · intro i c hc
    simp [hcore.client_issued i c hc]
  · intro j₁ j₂ p₁ p₂ hp₁ hp₂ hid
    rcases hcases j₁ p₁ hp₁ with ⟨rfl, hid₁⟩ | ⟨-, hp₁'⟩ <;>
      rcases hcases j₂ p₂ hp₂ with ⟨rfl, hid₂⟩ | ⟨-, hp₂'⟩
    · rfl
    · exact absurd (hid.symm.trans hid₁) (hissued j₂ p₂ hp₂')
    · exact absurd (hid.trans hid₂) (hissued j₁ p₁ hp₁')
    · exact hcore.publication_unique j₁ j₂ p₁ p₂ hp₁' hp₂' hid
  · exact hcore.client_unique
  · intro j' p i c hp hc
    rcases hcases j' p hp with ⟨-, hid⟩ | ⟨-, hp'⟩
    · exact fun heq => hnew (hid ▸ heq ▸ hcore.client_issued i c hc)
    · exact hcore.disjoint j' p i c hp' hc
  · intro j₁ j₂ a b ha hb heq
    by_cases h₁ : j₁ = j <;> by_cases h₂ : j₂ = j
    · rw [h₁, h₂]
    · subst h₁
      obtain rfl : install.slot handle = a := by simpa using ha
      exact absurd heq.symm (hname j₂ b h₂ (by simpa [h₂] using hb))
    · subst h₂
      obtain rfl : install.slot handle = b := by simpa using hb
      exact absurd heq (hname j₁ a h₁ (by simpa [h₁] using ha))
    · exact hcore.name_unique j₁ j₂ a b (by simpa [h₁] using ha) (by simpa [h₂] using hb) heq
  · exact List.nodup_append'.mpr ⟨hcore.issued_nodup, by simp, by simpa using hnew⟩
  · exact hcore.watch_client

theorem Core.installClient (hcore : Core s) {install : InstallClient} {clientIds : List Nat}
    (hfresh : FreshEndpoint s g ⟨install.endpointId, install.endpointGeneration⟩ handle)
    (hi : s.clients i = none) :
    Core { s.setClient i (some (install.client handle)) with
      issuedEndpointIds := s.issuedEndpointIds ++ [install.endpointId],
      issuedClientIds := clientIds } := by
  have hnew : install.endpointId ∉ s.issuedEndpointIds := hfresh.fresh
  have hcases : ∀ i' c, (s.setClient i (some (install.client handle))).clients i' = some c →
      (i' = i ∧ c.endpoint.id = install.endpointId) ∨ (i' ≠ i ∧ s.clients i' = some c) := by
    intro i' c hc
    by_cases heq : i' = i
    · subst heq
      obtain rfl : install.client handle = c := by simpa using hc
      exact Or.inl ⟨rfl, rfl⟩
    · exact Or.inr ⟨heq, by simpa [heq] using hc⟩
  have hissued : ∀ i' c, s.clients i' = some c → c.endpoint.id ≠ install.endpointId :=
    fun i' c hc heq => hnew (heq ▸ hcore.client_issued i' c hc)
  constructor
  · intro j p hp
    have hmem := hcore.publication_issued j p hp
    simp [hmem]
  · intro i' c hc
    rcases hcases i' c hc with ⟨-, hid⟩ | ⟨-, hc'⟩
    · simp [hid]
    · simp [hcore.client_issued i' c hc']
  · exact hcore.publication_unique
  · intro i₁ i₂ c₁ c₂ hc₁ hc₂ hid
    rcases hcases i₁ c₁ hc₁ with ⟨rfl, hid₁⟩ | ⟨-, hc₁'⟩ <;>
      rcases hcases i₂ c₂ hc₂ with ⟨rfl, hid₂⟩ | ⟨-, hc₂'⟩
    · rfl
    · exact absurd (hid.symm.trans hid₁) (hissued i₂ c₂ hc₂')
    · exact absurd (hid.trans hid₂) (hissued i₁ c₁ hc₁')
    · exact hcore.client_unique i₁ i₂ c₁ c₂ hc₁' hc₂' hid
  · intro j p i' c hp hc
    rcases hcases i' c hc with ⟨-, hid⟩ | ⟨-, hc'⟩
    · exact fun heq => hnew (hid ▸ heq ▸ hcore.publication_issued j p hp)
    · exact hcore.disjoint j p i' c hp hc'
  · exact hcore.name_unique
  · exact List.nodup_append'.mpr ⟨hcore.issued_nodup, by simp, by simpa using hnew⟩
  · intro k w hw
    obtain ⟨i', c, hc, hsame⟩ := hcore.watch_client k w hw
    have hne : i' ≠ i := fun heq => by simp [heq ▸ hi] at hc
    exact ⟨i', c, by simpa [hne] using hc, hsame⟩

theorem Core.closeClient (hcore : Core s) {c : Client} (hc : s.clients i = some c) :
    Core { s.setClient i none with
      watches := fun k => (s.watches k).filter (·.client ≠ c.endpoint) } := by
  have hold : ∀ i' c', (s.setClient i none).clients i' = some c' → s.clients i' = some c' := by
    intro i' c' hc'
    by_cases heq : i' = i
    · simp [heq] at hc'
    · simpa [heq] using hc'
  constructor
  · exact hcore.publication_issued
  · exact fun i' c' hc' => hcore.client_issued i' c' (hold i' c' hc')
  · exact hcore.publication_unique
  · exact fun i₁ i₂ c₁ c₂ hc₁ hc₂ => hcore.client_unique i₁ i₂ c₁ c₂ (hold _ _ hc₁) (hold _ _ hc₂)
  · exact fun j p i' c' hp hc' => hcore.disjoint j p i' c' hp (hold i' c' hc')
  · exact hcore.name_unique
  · exact hcore.issued_nodup
  · intro k w hw
    obtain ⟨hw', hne⟩ := Option.filter_eq_some_iff.mp hw
    obtain ⟨i', c', hc', hendpoint, hhandle⟩ := hcore.watch_client k w hw'
    have hi : i' ≠ i := by
      rintro rfl
      obtain rfl := Option.some.inj (hc.symm.trans hc')
      simp [hendpoint] at hne
    exact ⟨i', c', by simpa [hi] using hc', hendpoint, hhandle⟩

theorem Transition.core {op : TicketOp}
    (h : Transition s op o evs s') (hcore : Core s) (hp : o ≠ .panic) : Core s' := by
  cases h with
  | refused => exact hcore
  | panicked _ => exact absurd rfl hp
  | publicationInstalled hfresh hvacant => exact hcore.installPublication hfresh hvacant
  | clientInstalled hfresh hi => exact hcore.installClient hfresh hi
  | clientTouched hc _ _ | enumerationBegun hc _ => exact hcore.setClient _ hc rfl
  | publicationTouched hslot hactive _ _ | prepared hslot hactive _ _ =>
      refine hcore.setActive hslot hactive ?_
      rintro _ ⟨⟩
      rfl
  | @watchAdded i c tx _ _ hc _ _ _ =>
      exact (hcore.setClient (c.accept tx) hc rfl).setWatch fun w' hw' =>
        ⟨i, c.accept tx, by simp, by obtain rfl := Option.some.inj hw'; exact ⟨rfl, rfl⟩⟩
  | cancelled hc _ _ _ =>
      exact (hcore.setWatch (by simp)).setClient _ hc (by simp [Client.installed, Client.accept])
  | enumerationCompleted hc _ _ => exact hcore.setClient _ hc (by simp [Client.installed])
  | committed hslot hactive _ hnotified =>
      refine hnotified.drops.core (hcore.setActive hslot hactive ?_)
      rintro _ ⟨⟩
      rfl
  | retired hslot hactive _ hnotified | publicationClosed hslot hactive hnotified =>
      exact hnotified.drops.core (hcore.setActive hslot hactive (by simp))
  | clientClosed hc => exact hcore.closeClient hc

theorem new_core {generation : Nat} (h : RegistryState.new generation = .ok s) : Core s := by
  unfold RegistryState.new at h
  split at h
  · cases h
  · obtain rfl := Outcome.ok.inj h
    constructor <;> simp [publicationAt, UniqueNames]

end Core

/-! ## Published services -/

section Published

variable {s : RegistryState} {slot : ServiceSlot} {protocolId : Nat} {name : Name}
  {p : Publication}

theorem mem_slots : slot ∈ s.slots ↔ ∃ j, s.services j = some slot := by
  simp [slots]

theorem findPublished_some (h : s.findPublished protocolId name = some p) :
    ∃ j slot, s.services j = some slot ∧ slot.active = some p ∧ p.phase = .published
      ∧ p.protocolId = protocolId ∧ slot.name = name := by
  obtain ⟨slot, hmem, hfound⟩ := List.exists_of_findSome?_eq_some h
  obtain ⟨j, hslot⟩ := mem_slots.mp hmem
  obtain ⟨q, hactive, hq⟩ := Option.bind_eq_some_iff.mp hfound
  split at hq
  · rename_i hcond
    obtain rfl := Option.some.inj hq
    exact ⟨j, slot, hslot, hactive, hcond⟩
  · cases hq

theorem findPublished_eq_some (hunique : UniqueNames s.services) :
    s.findPublished protocolId name = some p ↔
      ∃ j slot, s.services j = some slot ∧ slot.active = some p ∧ p.phase = .published
        ∧ p.protocolId = protocolId ∧ slot.name = name := by
  refine ⟨findPublished_some, ?_⟩
  rintro ⟨j, slot, hslot, hactive, hphase, hprotocol, hname⟩
  cases hfound : s.findPublished protocolId name with
  | none =>
      have hmiss := List.findSome?_eq_none_iff.mp hfound slot (mem_slots.mpr ⟨j, hslot⟩)
      simp [hactive, hphase, hprotocol, hname] at hmiss
  | some q =>
      obtain ⟨j', slot', hslot', hactive', -, -, hname'⟩ := findPublished_some hfound
      obtain rfl := hunique j' j slot' slot hslot' hslot (hname'.trans hname.symm)
      obtain rfl := Option.some.inj (hslot'.symm.trans hslot)
      exact hactive'.symm.trans hactive

end Published

/-! ## Calls -/

/-- What one call can do to a session: nothing, when its ticket does not
exist, or a transition of the registry. -/
inductive Session.Step (self : Session) (op : Op Nat Nat) :
    Outcome RegistryError Reply → List TxEvent → Session → Prop
  | absent (hop : self.resolve op = none) : Session.Step self op (.ok .absent) [] self
  | call {op' : TicketOp} {o : Outcome RegistryError Reply} {evs : List TxEvent}
      {self' : Session} (hop : self.resolve op = some op')
      (htrans : Transition self.state op' o evs self'.state)
      (hkeep : self' = { self with state := self'.state }.keep o) :
      Session.Step self op o evs self'

@[simp] theorem Session.keep_state (self : Session) (o : Outcome RegistryError Reply) :
    (self.keep o).state = self.state := by
  unfold Session.keep
  split <;> rfl

theorem Session.exec_step {self : Session} (hcore : Core self.state) (op : Op Nat Nat) :
    self.Step op (exec op self).1 (exec op self).2.2 (exec op self).2.1 := by
  cases hop : self.resolve op with
  | none =>
      simp only [exec, hop]
      exact .absent hop
  | some op' =>
      simp only [exec, hop]
      exact .call hop (by simpa using execState_transition hcore op') (by simp)

theorem Session.Step.core {self self' : Session} {op : Op Nat Nat} (h : self.Step op o evs self')
    (hcore : Core self.state) (hp : o ≠ .panic) : Core self'.state := by
  cases h with
  | absent _ => exact hcore
  | call _ htrans _ => exact htrans.core hcore hp

theorem Session.Fresh.core {self : Session} (h : self.Fresh) : Core self.state := by
  obtain ⟨generation, hnew, -⟩ := h
  exact new_core hnew

/-- The call was made, and its operation and outcome satisfy `P`. -/
def Did (P : TicketOp → Outcome RegistryError Reply → Prop) (c : RegistryCall) : Prop :=
  ∃ op, c.before.resolve c.op = some op ∧ P op c.outcome

variable {c : RegistryCall} {P : TicketOp → Outcome RegistryError Reply → Prop}

theorem did_iff {op : TicketOp}
    (hop : c.before.resolve c.op = some op) : Did P c ↔ P op c.outcome := by
  refine ⟨?_, fun hP => ⟨op, hop, hP⟩⟩
  rintro ⟨op', hop', hP⟩
  obtain rfl := Option.some.inj (hop.symm.trans hop')
  exact hP

theorem not_did (hop : c.before.resolve c.op = none) : ¬ Did P c := by
  rintro ⟨op, hop', -⟩
  rw [hop] at hop'
  cases hop'

section Runs

variable {h : List RegistryCall} {s : Session}

theorem RegistryRun.core (hrun : RegistryRun h s) : Core s.state :=
  Run.invariant (I := fun s => Core s.state) (fun _ hs => Session.Fresh.core hs)
    (fun op _ hcore hp => (Session.exec_step hcore op).core hcore hp) hrun

theorem RegistryRun.induct {P : List RegistryCall → Session → Prop} (hstart : ∀ s, s.Fresh → P [] s)
    (hstep : ∀ h s (c : RegistryCall), RegistryRun h s → P h s → Core s.state →
      c.before = s → c.outcome ≠ .panic → s.Step c.op c.outcome c.events c.after →
      P (h ++ [c]) c.after)
    (hrun : RegistryRun h s) : P h s := by
  induction hrun with
  | start hs => exact hstart _ hs
  | call op hr hp ih =>
      have hcore := RegistryRun.core hr
      exact hstep _ _ (callOf Session.exec op _) hr ih hcore rfl hp (Session.exec_step hcore op)

theorem RegistryRun.step (hrun : RegistryRun h s) (hc : c ∈ h) :
    Core c.before.state ∧ c.before.Step c.op c.outcome c.events c.after
      ∧ c.outcome ≠ .panic := by
  obtain ⟨⟨h', -, hr⟩, heq, hp⟩ := hrun.mem hc
  have hcore := RegistryRun.core hr
  refine ⟨hcore, ?_, hp⟩
  rw [heq]
  exact Session.exec_step hcore c.op

end Runs

/-! ## A sample history -/

/-- A registry of generation 7, nothing installed. -/
def emptySession : Session :=
  { state := { generation := 7, services := fun _ => none, clients := fun _ => none,
               watches := fun _ => none, issuedEndpointIds := [], issuedPublicationIds := [],
               issuedClientIds := [] },
    publishTickets := [], enumerationTickets := [] }

theorem emptySession_run (ops : List (Op Nat Nat))
    (hp : ∀ c ∈ (replay Session.exec ops emptySession).1, c.outcome ≠ .panic) :
    RegistryRun (replay Session.exec ops emptySession).1
      (replay Session.exec ops emptySession).2 := by
  have hrun : RegistryRun [] emptySession := Run.start ⟨7, rfl, rfl, rfl⟩
  simpa using Run.replay ops hrun hp

/-- A client watches a service before it is published. -/
def firstPublication : List (Op Nat Nat) :=
  [.installClient 7 9 ⟨3, 1, 5, 1, .bootstrapMetadata⟩,
    .installPublication 7 11
      ⟨4, 1, 2, 6, 21, 77, ⟨[⟨1, 0⟩], by decide, by decide, by decide⟩, [97]⟩,
    .watch ⟨3, 1⟩ 5 ⟨77, 0, [97]⟩, .preparePublish ⟨4, 1⟩ 8, .commitPublish 0]

end Wyrmroot.Registry
