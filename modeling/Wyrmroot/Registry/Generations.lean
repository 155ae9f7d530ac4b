import Wyrmroot.Registry.Invariant

/-!
# Generations over whole histories

A slot keeps its name for the life of the registry and its last generation
only grows, so installations under one name are strictly increasing however
they are interleaved with retirements and closes. A published slot remembers
a commit that no retirement or close has undone; `lookup` answers from such
a slot only.
-/

namespace Wyrmroot.Registry

open Function RegistryState

/-- A publication was installed under `name` with this generation. -/
def Installs (name : Name) (generation : Nat) : TicketOp → Outcome RegistryError Reply → Prop
  | .installPublication _ _ install, .ok _ =>
      install.serviceName = name ∧ install.serviceGeneration = generation
  | _, _ => False

/-- The publication at `e` was committed, with this generation. -/
def Commits (e : EndpointIdentity) (generation : Nat) :
    TicketOp → Outcome RegistryError Reply → Prop
  | .commitPublish ticket, .ok (.published outcome) =>
      ticket.endpoint = e ∧ outcome.serviceGeneration = generation
  | _, _ => False

/-- The endpoint `e` retired or was closed. -/
def Withdraws (e : EndpointIdentity) : TicketOp → Outcome RegistryError Reply → Prop
  | .retire e' _, .ok _ => e' = e
  | .peerClosed e', .ok _ => e' = e
  | _, _ => False

/-- `e` was committed with this generation, and not withdrawn since. -/
def Standing (h : List RegistryCall) (e : EndpointIdentity) (generation : Nat) : Prop :=
  ∃ h₁ d h₂, h = h₁ ++ d :: h₂ ∧ Did (Commits e generation) d
    ∧ ∀ c ∈ h₂, ¬ Did (Withdraws e) c

variable {e : EndpointIdentity} {generation tx : Nat}

section Step

variable {s s' : RegistryState} {op : TicketOp} {o : Outcome RegistryError Reply}
  {evs : List TxEvent}

theorem Concludes.not_withdraws (ho : Concludes s op o) :
    ¬ Withdraws e op o := by
  cases o with
  | ok reply => cases ho <;> exact id
  | err _ => cases op <;> exact id
  | panic => exact ho.elim

variable {j : Fin maxServices}

/-- A published slot was published before and not withdrawn by this call, or
was committed by it. -/
theorem Transition.published (h : Transition s op o evs s') (hcore : Core s) (hp : o ≠ .panic)
    {p' : Publication} (hp' : s'.publicationAt j = some p')
    (hphase' : p'.phase = .published) :
    Commits p'.endpoint p'.serviceGeneration op o
      ∨ (¬ Withdraws p'.endpoint op o ∧ ∃ p, s.publicationAt j = some p ∧ p.phase = .published
          ∧ p.endpoint = p'.endpoint ∧ p.serviceGeneration = p'.serviceGeneration) := by
  -- a slot rewritten in place, and one that loses its publication
  have hrewrite : ∀ {j₀ : Fin maxServices} {slot : ServiceSlot} {p q : Publication},
      s.services j₀ = some slot → slot.active = some p →
      (s.setSlot j₀ { slot with active := some q }).publicationAt j = some p' →
      q.phase = p.phase → q.endpoint = p.endpoint → q.serviceGeneration = p.serviceGeneration →
      ∃ p, s.publicationAt j = some p ∧ p.phase = .published ∧ p.endpoint = p'.endpoint
        ∧ p.serviceGeneration = p'.serviceGeneration := by
    intro j₀ slot p q hslot hactive hat hphase hendpoint hgeneration
    by_cases hj : j = j₀
    · subst hj
      obtain rfl : q = p' := by simpa [publicationAt] using hat
      exact ⟨p, publicationAt_eq_some.mpr ⟨slot, hslot, hactive⟩, hphase ▸ hphase',
        hendpoint.symm, hgeneration.symm⟩
    · exact ⟨p', by simpa [publicationAt, hj] using hat, hphase', rfl, rfl⟩
  have hleave : ∀ {j₀ : Fin maxServices} {slot : ServiceSlot} {p : Publication},
      s.services j₀ = some slot → slot.active = some p →
      (s.setSlot j₀ { slot with active := none }).publicationAt j = some p' →
      s.publicationAt j = some p' ∧ p'.endpoint ≠ p.endpoint := by
    intro j₀ slot p hslot hactive hat
    by_cases hj : j = j₀
    · simp [publicationAt, hj] at hat
    · have hold : s.publicationAt j = some p' := by simpa [publicationAt, hj] using hat
      refine ⟨hold, fun heq => hj ?_⟩
      exact hcore.publication_unique j j₀ p' p hold
        (publicationAt_eq_some.mpr ⟨slot, hslot, hactive⟩) (by rw [heq])
  have hframe : ∀ {s₁ : RegistryState} {evs : List TxEvent}, Drops s₁ evs s' →
      s₁.publicationAt j = some p' := by
    intro s₁ evs hdrops
    rw [← hp', publicationAt, publicationAt, hdrops.frame.1]
  cases h with
  | refused => exact Or.inr ⟨by cases op <;> exact id, p', hp', hphase', rfl, rfl⟩
  | panicked _ => exact absurd rfl hp
  | @publicationInstalled g handle install j₀ _ hvacant =>
      by_cases hj : j = j₀
      · subst hj
        obtain rfl := by simpa [publicationAt, InstallPublication.slot] using hp'
        cases hphase'
      · exact Or.inr ⟨id, p', by simpa [publicationAt, hj] using hp', hphase',
          rfl, rfl⟩
  | clientInstalled _ _ | watchAdded _ _ _ _ | cancelled _ _ _ _ | enumerationBegun _ _
  | enumerationCompleted _ _ _ => exact Or.inr ⟨id, p', hp', hphase', rfl, rfl⟩
  | clientTouched _ _ ho => exact Or.inr ⟨ho.not_withdraws, p', hp', hphase', rfl, rfl⟩
  | publicationTouched hslot hactive _ ho =>
      exact Or.inr ⟨ho.not_withdraws, hrewrite hslot hactive hp' rfl rfl rfl⟩
  | prepared hslot hactive _ _ =>
      exact Or.inr ⟨id, hrewrite hslot hactive hp' rfl rfl rfl⟩
  | @committed j₀ slot p sent evs s' hslot hactive hphase hnotified =>
      have hat := hframe hnotified.drops
      by_cases hj : j = j₀
      · subst hj
        obtain rfl := by simpa [publicationAt] using hat
        exact Or.inl ⟨rfl, rfl⟩
      · exact Or.inr ⟨id, p', by simpa [publicationAt, hj] using hat, hphase',
          rfl, rfl⟩
  | retired hslot hactive _ hnotified | publicationClosed hslot hactive hnotified =>
      obtain ⟨hold, hne⟩ := hleave hslot hactive (hframe hnotified.drops)
      exact Or.inr ⟨fun heq => hne heq.symm, p', hold, hphase', rfl, rfl⟩
  | clientClosed hc =>
      refine Or.inr ⟨fun heq => ?_, p', hp', hphase', rfl, rfl⟩
      exact hcore.disjoint j p' _ _ hp' hc (by rw [show _ = p'.endpoint from heq])

/-- The slot `j` is still there under its name, its last generation not smaller. -/
def Keeps (s s' : RegistryState) : Prop :=
  ∀ j slot, s.services j = some slot → ∃ slot', s'.services j = some slot'
    ∧ slot'.name = slot.name ∧ slot.lastGeneration ≤ slot'.lastGeneration

theorem Keeps.of_services (h : s'.services = s.services) : Keeps s s' :=
  fun _ slot hslot => ⟨slot, h ▸ hslot, rfl, le_rfl⟩

theorem Keeps.setSlot {new : ServiceSlot} (hservices : s'.services
      = (s.setSlot j new).services)
    (hold : ∀ slot, s.services j = some slot →
      new.name = slot.name ∧ slot.lastGeneration ≤ new.lastGeneration) : Keeps s s' := by
  intro j' slot hslot
  rw [hservices]
  by_cases hj : j' = j
  · subst hj
    exact ⟨new, by simp, hold slot hslot⟩
  · exact ⟨slot, by simpa [hj] using hslot, rfl, le_rfl⟩

theorem Keeps.setActive {slot : ServiceSlot} {active : Option Publication}
    (hslot : s.services j = some slot)
    (hservices : s'.services = (s.setSlot j { slot with active }).services) : Keeps s s' := by
  refine .setSlot hservices fun slot' hslot' => ?_
  obtain rfl := Option.some.inj (hslot.symm.trans hslot')
  exact ⟨rfl, le_rfl⟩

theorem Transition.keeps (h : Transition s op o evs s') (hp : o ≠ .panic) : Keeps s s' := by
  cases h with
  | panicked _ => exact absurd rfl hp
  | publicationInstalled _ hvacant =>
      refine .setSlot rfl fun slot hslot => ?_
      rcases hvacant with ⟨hnone, -⟩ | ⟨slot', hslot', hname, -, hlt⟩
      · rw [hnone] at hslot
        cases hslot
      · obtain rfl := Option.some.inj (hslot'.symm.trans hslot)
        exact ⟨hname.symm, hlt.le⟩
  | publicationTouched hslot _ _ _ | prepared hslot _ _ _ => exact .setActive hslot rfl
  | committed hslot _ _ hnotified | retired hslot _ _ hnotified
  | publicationClosed hslot _ hnotified => exact .setActive hslot hnotified.drops.frame.1
  | refused | clientInstalled _ _ | clientTouched _ _ _ | watchAdded _ _ _ _ | cancelled _ _ _ _
  | enumerationBegun _ _ | enumerationCompleted _ _ _ | clientClosed _ => exact .of_services rfl

theorem Transition.installs (h : Transition s op o evs s') (hcore : Core s) {name : Name}
    (hinstalls : Installs name generation op o) :
    (∃ j slot, s'.services j = some slot ∧ slot.name = name ∧ slot.lastGeneration = generation)
      ∧ ∀ j slot, s.services j = some slot → slot.name = name →
          slot.lastGeneration < generation := by
  cases h with
  | @publicationInstalled g handle install j _ hvacant =>
      obtain ⟨rfl, rfl⟩ := hinstalls
      refine ⟨⟨j, install.slot handle, by simp, rfl, rfl⟩, fun j' slot' hslot' hname' => ?_⟩
      rcases hvacant with ⟨-, hother⟩ | ⟨slot, hslot, hname, -, hlt⟩
      · exact absurd hname' (hother j' slot' hslot')
      · obtain rfl := hcore.name_unique j' j slot' slot hslot' hslot (hname'.trans hname.symm)
        obtain rfl := Option.some.inj (hslot.symm.trans hslot')
        exact hlt
  | clientTouched _ _ ho | publicationTouched _ _ _ ho =>
      cases o with
      | ok reply => cases ho <;> exact hinstalls.elim
      | err _ => cases op <;> exact hinstalls.elim
      | panic => exact ho.elim
  | refused | panicked _ => cases op <;> exact hinstalls.elim
  | clientInstalled _ _ | watchAdded _ _ _ _ | cancelled _ _ _ _ | enumerationBegun _ _
  | enumerationCompleted _ _ _ | prepared _ _ _ _ | committed _ _ _ _ | retired _ _ _ _
  | publicationClosed _ _ _ | clientClosed _ => exact hinstalls.elim

theorem Transition.offers {request : Lookup}
    {offer : ForwardOffer} (h : Transition s (.lookup e tx request) (.ok (.offered offer)) evs s') :
    s.offerFor tx request = .ok offer := by
  cases h with
  | clientTouched _ _ ho | publicationTouched _ _ _ ho =>
      cases ho with
      | offered hoffer => exact hoffer

end Step

/-! ## Histories -/

/-- What a history says about the slots at its end. -/
structure Provenance (h : List RegistryCall) (s : RegistryState) : Prop where
  standing : ∀ j p, s.publicationAt j = some p → p.phase = .published →
    Standing h p.endpoint p.serviceGeneration
  recorded : ∀ c ∈ h, ∀ name generation, Did (Installs name generation) c →
    ∃ j slot, s.services j = some slot ∧ slot.name = name ∧ generation ≤ slot.lastGeneration
  increasing : h.Pairwise fun c c' => ∀ name g g', Did (Installs name g) c →
    Did (Installs name g') c' → g < g'

variable {h : List RegistryCall} {c : RegistryCall}

theorem Standing.snoc (hstanding : Standing h e generation) (hc : ¬ Did (Withdraws e) c) :
    Standing (h ++ [c]) e generation := by
  obtain ⟨h₁, d, h₂, rfl, hd, hrest⟩ := hstanding
  refine ⟨h₁, d, h₂ ++ [c], by simp, hd, fun c' hc' => ?_⟩
  rcases List.mem_append.mp hc' with hmem | hmem
  · exact hrest c' hmem
  · obtain rfl := List.mem_singleton.mp hmem
    exact hc

theorem Provenance.step {op : TicketOp}
    (hprov : Provenance h c.before.state) (hcore : Core c.before.state)
    (hp : c.outcome ≠ .panic) (hop : c.before.resolve c.op = some op)
    (htrans : Transition c.before.state op c.outcome c.events c.after.state) :
    Provenance (h ++ [c]) c.after.state := by
  constructor
  · intro j p hat hphase
    rcases htrans.published hcore hp hat hphase with
      hcommits | ⟨hkept, p₀, hat₀, hphase₀, hendpoint, hgeneration⟩
    · exact ⟨h, c, [], rfl, (did_iff hop).mpr hcommits, by simp⟩
    · rw [← hendpoint, ← hgeneration]
      exact (hprov.standing j p₀ hat₀ hphase₀).snoc
        fun hw => hkept (hendpoint ▸ (did_iff hop).mp hw)
  · intro c' hc' name generation hinstalls
    rcases List.mem_append.mp hc' with hmem | hmem
    · obtain ⟨j, slot, hslot, hname, hle⟩ := hprov.recorded c' hmem name generation hinstalls
      obtain ⟨slot', hslot', hname', hle'⟩ := htrans.keeps hp j slot hslot
      exact ⟨j, slot', hslot', hname'.trans hname, hle.trans hle'⟩
    · obtain rfl := List.mem_singleton.mp hmem
      obtain ⟨⟨j, slot, hslot, hname, heq⟩, -⟩ := htrans.installs hcore ((did_iff hop).mp hinstalls)
      exact ⟨j, slot, hslot, hname, heq.ge⟩
  · refine List.pairwise_append.mpr ⟨hprov.increasing, List.pairwise_singleton _ _, ?_⟩
    intro c' hc' d hd name g g' hg hg'
    obtain rfl := List.mem_singleton.mp hd
    obtain ⟨j, slot, hslot, hname, hle⟩ := hprov.recorded c' hc' name g hg
    exact hle.trans_lt ((htrans.installs hcore ((did_iff hop).mp hg')).2 j slot hslot hname)

theorem RegistryRun.provenance {s : Session} (hrun : RegistryRun h s) :
    Provenance h s.state := by
  refine hrun.induct (P := fun h s => Provenance h s.state) (fun s hs => ?_) ?_
  · obtain ⟨generation, hnew, -⟩ := hs
    have hempty : ∀ j p, s.state.publicationAt j ≠ some p := by
      unfold RegistryState.new at hnew
      split at hnew
      · cases hnew
      · simp [← Outcome.ok.inj hnew, publicationAt]
    exact ⟨fun j p hat => absurd hat (hempty j p), by simp, .nil⟩
  · rintro h _ ⟨before, op, o, after, evs⟩ - hprov hcore rfl hp hstep
    cases hstep with
    | absent hnone =>
        refine ⟨fun j p hat hphase => (hprov.standing j p hat hphase).snoc (not_did hnone), ?_, ?_⟩
        · intro c' hc' name generation hinstalls
          rcases List.mem_append.mp hc' with hmem | hmem
          · exact hprov.recorded c' hmem name generation hinstalls
          · obtain rfl := List.mem_singleton.mp hmem
            exact absurd hinstalls (not_did hnone)
        · refine List.pairwise_append.mpr ⟨hprov.increasing, List.pairwise_singleton _ _, ?_⟩
          intro c' _ d hd name g g' _ hg'
          obtain rfl := List.mem_singleton.mp hd
          exact absurd hg' (not_did hnone)
    | call hop htrans _ => exact hprov.step hcore hp hop htrans

/-- The slot that an offer in answer to `request` comes from. -/
structure OfferedFrom (s : RegistryState) (tx : Nat) (request : Lookup) (offer : ForwardOffer)
    (p : Publication) : Prop where
  slot : ∃! j, ∃ slot, s.services j = some slot ∧ slot.name = request.serviceName
  active : ∃ j slot, s.services j = some slot ∧ slot.name = request.serviceName
    ∧ slot.active = some p
  published : p.phase = .published
  protocol : p.protocolId = request.protocolId
  version : request.version ∈ p.versions.toList
  endpoint : offer.publication = p.endpoint
  handle : offer.publicationHandle = p.handle
  generation : offer.serviceGeneration = p.serviceGeneration
  transaction : offer.clientTransaction = tx

theorem offerFor_ok {s : RegistryState} {request : Lookup} {offer : ForwardOffer}
    (hcore : Core s) (h : s.offerFor tx request = .ok offer) :
    ∃ p, OfferedFrom s tx request offer p := by
  unfold offerFor at h
  split at h
  · cases h
  rename_i p hfound
  split at h
  · rename_i hsupports
    obtain rfl := Except.ok.inj h
    obtain ⟨j, slot, hslot, hactive, hphase, hprotocol, hname⟩ := findPublished_some hfound
    refine ⟨p, ⟨j, ⟨slot, hslot, hname⟩, ?_⟩, ⟨j, slot, hslot, hname, hactive⟩, hphase, hprotocol,
      by simpa [Publication.supports] using hsupports, rfl, rfl, rfl, rfl⟩
    rintro j' ⟨slot', hslot', hname'⟩
    exact hcore.name_unique j' j slot' slot hslot' hslot (hname'.trans hname.symm)
  · cases h

/-- Installations under one name are strictly increasing over a history, and
an offer comes from the one slot of the requested name, whose publication
was committed and has been neither retired nor closed since. -/
theorem generations_safe {h : List RegistryCall} {s : Session} (hrun : RegistryRun h s) :
    (h.Pairwise fun c c' => ∀ name g g', Did (Installs name g) c →
        Did (Installs name g') c' → g < g')
      ∧ ∀ h₁ c h₂, h = h₁ ++ c :: h₂ → ∀ client tx request offer,
          c.op = .lookup client tx request → c.outcome = .ok (.offered offer) →
          ∃ p, OfferedFrom c.before.state tx request offer p
            ∧ Standing h₁ p.endpoint p.serviceGeneration := by
  refine ⟨hrun.provenance.increasing, ?_⟩
  rintro h₁ c h₂ rfl client tx request offer hop houtcome
  obtain ⟨hpre, -, -⟩ := Run.split hrun
  obtain ⟨hcore, hstep, -⟩ := hrun.step (c := c) (by simp)
  rw [hop, houtcome] at hstep
  cases hstep with
  | call hresolve htrans _ =>
      obtain rfl := Option.some.inj hresolve
      obtain ⟨p, hfrom⟩ := offerFor_ok hcore htrans.offers
      obtain ⟨j, slot, hslot, -, hactive⟩ := hfrom.active
      exact ⟨p, hfrom, (RegistryRun.provenance hpre).standing j p
        (publicationAt_eq_some.mpr ⟨slot, hslot, hactive⟩) hfrom.published⟩

/-- The watched service is published and looked up. -/
def firstLookup : List (Op Nat Nat) :=
  firstPublication ++ [.lookup ⟨3, 1⟩ 6 ⟨77, ⟨1, 0⟩, [97]⟩]

theorem generations_safe_firstLookup :
    (replay Session.exec firstLookup emptySession).1.getLast?.map (·.outcome)
        = some (.ok (.offered ⟨⟨4, 1⟩, 11, 21, 6⟩))
      ∧ ((replay Session.exec firstLookup emptySession).1.Pairwise fun c c' => ∀ name g g',
          Did (Installs name g) c → Did (Installs name g') c' → g < g')
      ∧ ∀ h₁ c h₂, (replay Session.exec firstLookup emptySession).1 = h₁ ++ c :: h₂ →
          ∀ client tx request offer, c.op = .lookup client tx request →
          c.outcome = .ok (.offered offer) →
          ∃ p, OfferedFrom c.before.state tx request offer p
            ∧ Standing h₁ p.endpoint p.serviceGeneration :=
  ⟨by decide +kernel, generations_safe (emptySession_run firstLookup (by decide +kernel))⟩

end Wyrmroot.Registry
