import Wyrmroot.Registry.Invariant

/-!
# Watches are never stale

A pending watch stores the generation its client last saw. In every
reachable state that is still the current one, so a change of generation
always finds the watch and reports the new value, once.
-/

namespace Wyrmroot.Registry

open Function RegistryState

section Generations

variable {s : RegistryState} {j : Fin maxServices} {slot : ServiceSlot} {protocolId : Nat}
  {name : Name}

/-- The generation a slot shows under a protocol. -/
def ServiceSlot.generationFor (slot : ServiceSlot) (protocolId : Nat) : Nat :=
  match slot.active with
  | some p => if p.phase = .published ∧ p.protocolId = protocolId then p.serviceGeneration else 0
  | none => 0

theorem currentGeneration_slot (hunique : UniqueNames s.services)
    (hslot : s.services j = some slot) :
    s.currentGeneration protocolId slot.name = slot.generationFor protocolId := by
  unfold currentGeneration
  cases hfound : s.findPublished protocolId slot.name with
  | some p =>
      obtain ⟨j', slot', hslot', hactive, hphase, hprotocol, hname⟩ := findPublished_some hfound
      obtain rfl := hunique j' j slot' slot hslot' hslot hname
      obtain rfl := Option.some.inj (hslot'.symm.trans hslot)
      simp [ServiceSlot.generationFor, hactive, hphase, hprotocol]
  | none =>
      cases hactive : slot.active with
      | none => simp [ServiceSlot.generationFor, hactive]
      | some p =>
          have hnot : ¬ (p.phase = .published ∧ p.protocolId = protocolId) := by
            rintro ⟨hphase, hprotocol⟩
            have hsome := (findPublished_eq_some hunique).mpr
              ⟨j, slot, hslot, hactive, hphase, hprotocol, rfl⟩
            rw [hsome] at hfound
            cases hfound
          simp [ServiceSlot.generationFor, hactive, hnot]

theorem currentGeneration_absent (h : ∀ j slot, s.services j = some slot → slot.name ≠ name) :
    s.currentGeneration protocolId name = 0 := by
  unfold currentGeneration
  cases hfound : s.findPublished protocolId name with
  | none => rfl
  | some p =>
      obtain ⟨j, slot, hslot, -, -, -, hname⟩ := findPublished_some hfound
      exact absurd hname (h j slot hslot)

theorem currentGeneration_setSlot (hunique : UniqueNames s.services)
    (hunique' : UniqueNames (s.setSlot j slot).services)
    (hsame : ∀ a, s.services j = some a → a.name = slot.name) :
    (s.setSlot j slot).currentGeneration protocolId name
      = if name = slot.name then slot.generationFor protocolId
        else s.currentGeneration protocolId name := by
  split
  · rename_i hname
    rw [hname]
    exact currentGeneration_slot (j := j) hunique' (by simp)
  · rename_i hname
    have hfound : (s.setSlot j slot).findPublished protocolId name
        = s.findPublished protocolId name := by
      refine Option.ext fun p => ?_
      rw [findPublished_eq_some hunique, findPublished_eq_some hunique']
      refine exists_congr fun j' => exists_congr fun slot' => ?_
      by_cases hj : j' = j
      · subst hj
        constructor
        · rintro ⟨hslot', -, -, -, hn⟩
          obtain rfl : slot = slot' := by simpa using hslot'
          exact absurd hn.symm hname
        · rintro ⟨hslot', -, -, -, hn⟩
          exact absurd (hn.symm.trans (hsame slot' hslot')) hname
      · simp [hj]
    simp only [currentGeneration, hfound]

end Generations

/-! ## Deliveries -/

/-- Every pending watch stores the current generation. -/
def NoStaleWatch (s : RegistryState) : Prop :=
  ∀ k w, s.watches k = some w → w.lastGeneration = s.currentGeneration w.protocolId w.name

/-- The notifications a call returns. -/
def notificationsOf : Outcome RegistryError Reply → List WatchNotification
  | .ok (.published outcome) => outcome.notifications
  | .ok (.retired outcome) => outcome.notifications
  | .ok (.closed outcome) => outcome.notifications
  | _ => []

/-- The generation that `w` watches differs from the one it reported. -/
def PendingWatch.Moved (w : PendingWatch) (s : RegistryState) : Prop :=
  s.currentGeneration w.protocolId w.name ≠ w.lastGeneration

instance (w : PendingWatch) (s : RegistryState) : Decidable (w.Moved s) :=
  inferInstanceAs (Decidable (_ ≠ _))

/-- The client itself gives up `w`: it cancels it, or closes. -/
def PendingWatch.GivenUp (w : PendingWatch) (op : TicketOp) : Prop :=
  (∃ tx, op = .cancel w.client tx w.transaction) ∨ op = .peerClosed w.client

/-- A call from `s` to `s'` returned `o`: exactly the pending watches whose
generation moved are reported, each once with the new generation, and they
are gone; every other one stays unless its client gives it up. An immediate
answer reports the current generation, and one the client did not have. -/
structure Delivered (s : RegistryState) (op : TicketOp) (o : Outcome RegistryError Reply)
    (s' : RegistryState) : Prop where
  sent : notificationsOf o = (List.finRange maxPendingWatches).filterMap fun k =>
    ((s.watches k).filter fun w => decide (w.Moved s')).map fun w =>
      w.notification (s'.currentGeneration w.protocolId w.name)
  removed : ∀ k w, s.watches k = some w → w.Moved s' → s'.watches k = none
  kept : ∀ k w, s.watches k = some w → ¬ w.Moved s' → s'.watches k = some w ∨ w.GivenUp op
  immediate : ∀ e tx request generation, op = .watch e tx request →
    o = .ok (.watched (.immediate generation)) →
    generation = s.currentGeneration request.protocolId request.serviceName
      ∧ generation ≠ request.lastObservedGeneration

section Step

variable {s s' : RegistryState} {op : TicketOp} {o : Outcome RegistryError Reply}

theorem Delivered.quiet (hstale : NoStaleWatch s)
    (hsame : ∀ protocolId name, s'.currentGeneration protocolId name
      = s.currentGeneration protocolId name)
    (hsent : notificationsOf o = [])
    (hkept : ∀ k w, s.watches k = some w → s'.watches k = some w ∨ w.GivenUp op)
    (himmediate : ∀ e tx request generation, op = .watch e tx request →
      o = .ok (.watched (.immediate generation)) →
      generation = s.currentGeneration request.protocolId request.serviceName
        ∧ generation ≠ request.lastObservedGeneration) :
    Delivered s op o s' := by
  have hstill : ∀ k w, s.watches k = some w → ¬ w.Moved s' := by
    intro k w hw hmoved
    exact hmoved ((hsame _ _).trans (hstale k w hw).symm)
  refine ⟨?_, fun k w hw hmoved => absurd hmoved (hstill k w hw),
    fun k w hw _ => hkept k w hw, himmediate⟩
  rw [hsent, eq_comm, List.filterMap_eq_nil_iff]
  intro k _
  cases hw : s.watches k with
  | none => rfl
  | some w => simp [Option.filter_some, hstill k w hw]

theorem NoStaleWatch.quiet (hstale : NoStaleWatch s)
    (hsame : ∀ protocolId name, s'.currentGeneration protocolId name
      = s.currentGeneration protocolId name)
    (hold : ∀ k w, s'.watches k = some w → s.watches k = some w) : NoStaleWatch s' :=
  fun k w hw => (hstale k w (hold k w hw)).trans (hsame _ _).symm

/-- A slot changes what it shows under its own protocol only, and those who
watch it there are notified. -/
theorem Notified.delivered {j : Fin maxServices} {slot slot' : ServiceSlot}
    {protocolId generation : Nat} {sent : List WatchNotification} {evs : List TxEvent}
    (hnotified : Notified (s.setSlot j slot') protocolId slot.name generation sent evs s')
    (hcore : Core s) (hcore' : Core (s.setSlot j slot')) (hstale : NoStaleWatch s)
    (hslot : s.services j = some slot) (hname : slot'.name = slot.name)
    (hthis : slot'.generationFor protocolId = generation)
    (hother : ∀ protocolId', protocolId' ≠ protocolId →
      slot'.generationFor protocolId' = slot.generationFor protocolId')
    (hsent : notificationsOf o = sent) (hop : ∀ e tx request, op ≠ .watch e tx request) :
    NoStaleWatch s' ∧ Delivered s op o s' := by
  have hgeneration : ∀ protocolId' name, s'.currentGeneration protocolId' name
      = if name = slot.name then slot'.generationFor protocolId'
        else s.currentGeneration protocolId' name := by
    intro protocolId' name
    have hframe : s'.currentGeneration protocolId' name
        = (s.setSlot j slot').currentGeneration protocolId' name := by
      simp only [currentGeneration, findPublished, slots, hnotified.drops.frame.1]
    rw [hframe, currentGeneration_setSlot hcore.name_unique hcore'.name_unique, hname]
    intro a ha
    obtain rfl := Option.some.inj (hslot.symm.trans ha)
    exact hname.symm
  -- the watches that are notified are those whose generation moved
  have hconcerns : ∀ k w, s.watches k = some w →
      (w.Concerns protocolId slot.name generation ↔ w.Moved s') := by
    intro k w hw
    have hlast := hstale k w hw
    rw [PendingWatch.Concerns, PendingWatch.Moved, hgeneration]
    by_cases hn : w.name = slot.name
    · by_cases hp : w.protocolId = protocolId
      · simp [hn, hp, hthis, eq_comm]
      · rw [hn, currentGeneration_slot hcore.name_unique hslot] at hlast
        simp [hn, hp, hother w.protocolId hp, hlast]
    · simp [hn, hlast]
  have hafter : ∀ k w, s.watches k = some w → w.Moved s' → s'.watches k = none := by
    intro k w hw hmoved
    rw [hnotified.watches, setSlot_watches, hw, Option.filter_some,
      if_neg (by simp [(hconcerns k w hw).mpr hmoved])]
  have hstay : ∀ k w, s.watches k = some w → ¬ w.Moved s' → s'.watches k = some w := by
    intro k w hw hstill
    have hnot : ¬ w.Concerns protocolId slot.name generation :=
      fun h => hstill ((hconcerns k w hw).mp h)
    rw [hnotified.watches, setSlot_watches, hw, Option.filter_some, if_pos (by simp [hnot])]
  refine ⟨fun k w hw => ?_, ?_, hafter, fun k w hw hstill => Or.inl (hstay k w hw hstill),
    fun e tx request _ heq => absurd heq (hop e tx request)⟩
  · have hw₀ : s.watches k = some w := by
      rw [hnotified.watches, setSlot_watches] at hw
      exact (Option.filter_eq_some_iff.mp hw).1
    by_contra hne
    have hmoved : w.Moved s' := fun heq => hne heq.symm
    rw [hafter k w hw₀ hmoved] at hw
    cases hw
  · rw [hsent, hnotified.sent]
    refine List.filterMap_congr fun k _ => ?_
    rw [setSlot_watches]
    cases hw : s.watches k with
    | none => rfl
    | some w =>
        by_cases hmoved : w.Moved s'
        · have hc := (hconcerns k w hw).mpr hmoved
          have hgen : s'.currentGeneration w.protocolId w.name = generation := by
            rw [hgeneration, if_pos hc.2.1, hc.1, hthis]
          simp [Option.filter_some, hmoved, hc, hgen]
        · have hc : ¬ w.Concerns protocolId slot.name generation :=
            fun h => hmoved ((hconcerns k w hw).mp h)
          simp [Option.filter_some, hmoved, hc]

theorem currentGeneration_rewrite {j : Fin maxServices} {slot slot' : ServiceSlot}
    (hcore : Core s) (hcore' : Core (s.setSlot j slot')) (hslot : s.services j = some slot)
    (hname : slot'.name = slot.name)
    (hsame : ∀ protocolId, slot'.generationFor protocolId = slot.generationFor protocolId)
    (protocolId : Nat) (name : Name) :
    (s.setSlot j slot').currentGeneration protocolId name
      = s.currentGeneration protocolId name := by
  rw [currentGeneration_setSlot hcore.name_unique hcore'.name_unique]
  · split
    · rename_i hn
      rw [hn, hname, currentGeneration_slot hcore.name_unique hslot, hsame]
    · rfl
  · intro a ha
    obtain rfl := Option.some.inj (hslot.symm.trans ha)
    exact hname.symm

theorem currentGeneration_install {j : Fin maxServices} {install : InstallPublication}
    {handle : Nat} (hcore : Core s)
    (hunique : UniqueNames (s.setSlot j (install.slot handle)).services)
    (hvacant : Vacant s j install.serviceName install.serviceGeneration)
    (protocolId : Nat) (name : Name) :
    (s.setSlot j (install.slot handle)).currentGeneration protocolId name
      = s.currentGeneration protocolId name := by
  have hquiet : (install.slot handle).generationFor protocolId = 0 := by
    simp [ServiceSlot.generationFor, InstallPublication.slot]
  rw [currentGeneration_setSlot hcore.name_unique hunique]
  · split
    · rename_i hn
      obtain rfl : name = install.serviceName := hn
      rcases hvacant with ⟨-, hother⟩ | ⟨slot, hslot, hname, hactive, -⟩
      · rw [hquiet, currentGeneration_absent hother]
      · rw [← hname, currentGeneration_slot hcore.name_unique hslot, hquiet]
        simp [ServiceSlot.generationFor, hactive]
    · rfl
  · intro a ha
    rcases hvacant with ⟨hnone, -⟩ | ⟨slot, hslot, hname, -, -⟩
    · rw [hnone] at ha
      cases ha
    · obtain rfl := Option.some.inj (hslot.symm.trans ha)
      exact hname

/-- The step: no operation leaves a stale watch or loses a change. -/
theorem Transition.delivered {evs : List TxEvent} (h : Transition s op o evs s')
    (hcore : Core s) (hp : o ≠ .panic) (hstale : NoStaleWatch s) :
    NoStaleWatch s' ∧ Delivered s op o s' := by
  have hcore' : Core s' := h.core hcore hp
  cases h with
  | refused | clientInstalled _ _ | enumerationBegun _ _ | enumerationCompleted _ _ _ =>
      exact ⟨hstale, .quiet hstale (fun _ _ => rfl) rfl (fun _ _ hw => Or.inl hw) nofun⟩
  | panicked _ => exact absurd rfl hp
  | publicationInstalled hfresh hvacant =>
      have hsame := currentGeneration_install hcore hcore'.name_unique hvacant
      exact ⟨hstale.quiet hsame fun _ _ hw => hw,
        .quiet hstale hsame rfl (fun _ _ hw => Or.inl hw) nofun⟩
  | clientTouched _ _ ho =>
      refine ⟨hstale, .quiet hstale (fun _ _ => rfl) ?_ (fun _ _ hw => Or.inl hw) ?_⟩
      · cases o with
        | ok reply => cases ho <;> rfl
        | err _ | panic => rfl
      · rintro e tx request generation rfl rfl
        cases ho with
        | immediate hmoved => exact ⟨rfl, hmoved⟩
  | publicationTouched hslot hactive haccepts ho =>
      have hsame := currentGeneration_rewrite hcore hcore' hslot rfl fun _ => by
        simp only [ServiceSlot.generationFor, hactive]
        rfl
      refine ⟨hstale.quiet hsame fun _ _ hw => hw,
        .quiet hstale hsame ?_ (fun _ _ hw => Or.inl hw) ?_⟩
      · cases o with
        | ok reply => cases ho <;> rfl
        | err _ | panic => rfl
      · rintro e tx request generation rfl rfl
        cases ho with
        | immediate hmoved => exact ⟨rfl, hmoved⟩
  | @watchAdded i c tx request k _ _ hk hcurrent =>
      refine ⟨fun k' w hw => ?_, .quiet hstale (fun _ _ => rfl) rfl (fun k' w hw => ?_) nofun⟩
      · by_cases heq : k' = k
        · subst heq
          obtain rfl := by simpa using hw
          exact hcurrent.symm
        · exact hstale k' w (by simpa [heq] using hw)
      · have heq : k' ≠ k := fun h => by simp [h ▸ hw] at hk
        exact Or.inl (by simpa [heq] using hw)
  | @cancelled i c tx k w _ _ hk hw =>
      refine ⟨hstale.quiet (fun _ _ => rfl) fun k' w' hw' => ?_,
        .quiet hstale (fun _ _ => rfl) rfl (fun k' w' hw' => ?_) nofun⟩
      · by_cases heq : k' = k
        · simp [heq] at hw'
        · simpa [heq] using hw'
      · by_cases heq : k' = k
        · obtain rfl : w = w' := Option.some.inj (hk.symm.trans (heq ▸ hw'))
          exact Or.inr (Or.inl ⟨tx, by rw [hw]⟩)
        · exact Or.inl (by simpa [heq] using hw')
  | prepared hslot hactive _ _ =>
      have hsame := currentGeneration_rewrite hcore hcore' hslot rfl fun _ => by
        simp [ServiceSlot.generationFor, hactive]
      exact ⟨hstale.quiet hsame fun _ _ hw => hw,
        .quiet hstale hsame rfl (fun _ _ hw => Or.inl hw) nofun⟩
  | committed hslot hactive hphase hnotified =>
      refine hnotified.delivered hcore (hcore.setActive hslot hactive ?_) hstale hslot rfl ?_ ?_
        rfl nofun
      · rintro _ ⟨⟩
        rfl
      · simp [ServiceSlot.generationFor]
      · intro protocolId hne
        simp [ServiceSlot.generationFor, hactive, hne.symm]
  | retired hslot hactive _ hnotified | publicationClosed hslot hactive hnotified =>
      refine hnotified.delivered hcore (hcore.setActive hslot hactive (by simp)) hstale hslot rfl
        rfl ?_ rfl nofun
      intro protocolId hne
      simp [ServiceSlot.generationFor, hactive, hne.symm]
  | @clientClosed i c hc =>
      refine ⟨hstale.quiet (fun _ _ => rfl) fun k w hw => (Option.filter_eq_some_iff.mp hw).1,
        .quiet hstale (fun _ _ => rfl) rfl (fun k w hw => ?_) nofun⟩
      by_cases heq : w.client = c.endpoint
      · exact Or.inr (Or.inr (by rw [heq]))
      · exact Or.inl (by simp [hw, Option.filter_some, heq])

end Step

theorem Session.Fresh.noStaleWatch {s : Session} (h : s.Fresh) : NoStaleWatch s.state := by
  obtain ⟨generation, hnew, -⟩ := h
  unfold RegistryState.new at hnew
  split at hnew
  · cases hnew
  · intro k w hw
    rw [← Outcome.ok.inj hnew] at hw
    cases hw

theorem RegistryRun.noStaleWatch {h : List RegistryCall} {s : Session} (hrun : RegistryRun h s) :
    NoStaleWatch s.state := by
  refine hrun.induct (P := fun _ s => NoStaleWatch s.state)
    (fun _ hs => Session.Fresh.noStaleWatch hs) ?_
  rintro h s ⟨_, op, o, after, evs⟩ - hstale hcore rfl hp hstep
  cases hstep with
  | absent _ => exact hstale
  | call _ htrans _ => exact (htrans.delivered hcore hp hstale).1

/-- In every reachable state each pending watch stores the current
generation, and every call of the history delivered exactly the changes
that it made. -/
theorem watches_never_stale {h : List RegistryCall} {s : Session} (hrun : RegistryRun h s) :
    NoStaleWatch s.state
      ∧ ∀ c ∈ h, ∀ op, c.before.resolve c.op = some op →
          Delivered c.before.state op c.outcome c.after.state := by
  refine ⟨hrun.noStaleWatch, ?_⟩
  rintro ⟨before, op, o, after, evs⟩ hc op' hop
  obtain ⟨⟨h', -, hr⟩, -, -⟩ := hrun.mem hc
  obtain ⟨hcore, hstep, hp⟩ := hrun.step hc
  cases hstep with
  | absent hnone =>
      rw [hnone] at hop
      cases hop
  | call hop' htrans _ =>
      obtain rfl := Option.some.inj (hop'.symm.trans hop)
      exact (htrans.delivered hcore hp (RegistryRun.noStaleWatch hr)).2

theorem watches_never_stale_firstPublication :
    (replay Session.exec firstPublication emptySession).1.map (notificationsOf ·.outcome)
        = [[], [], [], [], [⟨⟨3, 1⟩, 9, 5, 21⟩]]
      ∧ NoStaleWatch (replay Session.exec firstPublication emptySession).2.state
      ∧ ∀ c ∈ (replay Session.exec firstPublication emptySession).1, ∀ op,
          c.before.resolve c.op = some op →
          Delivered c.before.state op c.outcome c.after.state :=
  ⟨by decide +kernel, watches_never_stale (emptySession_run firstPublication (by decide +kernel))⟩

end Wyrmroot.Registry
