import Wyrmroot.Registry.Invariant

/-!
# Replay protection

The accepts and completions of one endpoint, over a whole history, form a
guarded log: an id is accepted only while it is neither open nor among the
last completions that the endpoint's ring remembers. The log of an endpoint
that has left stays as it was, since its id is never issued again.
-/

namespace Wyrmroot.Registry

open Function RegistryState

/-- How many completions an endpoint remembers. -/
def replayCapacity : EndpointKind → Nat
  | .client => maxClientReplay
  | .publication => maxPublicationReplay

/-! ## The log of one endpoint -/

def logFor (e : EndpointIdentity) (log : List TxEvent) : List (TxStep Nat) :=
  log.filterMap fun ev => if ev.endpoint = e then some ev.step else none

section LogFor

variable {e e' : EndpointIdentity} {log evs : List TxEvent}

@[simp] theorem logFor_nil : logFor e [] = [] := rfl

@[simp] theorem logFor_append : logFor e (log ++ evs) = logFor e log ++ logFor e evs :=
  List.filterMap_append

@[simp] theorem logFor_cons_self (step : TxStep Nat) :
    logFor e (⟨e, step⟩ :: evs) = step :: logFor e evs := by
  simp [logFor]

theorem logFor_eq_nil (h : ∀ ev ∈ evs, ev.endpoint ≠ e) : logFor e evs = [] := by
  refine List.filterMap_eq_nil_iff.mpr fun ev hev => ?_
  simp [h ev hev]

theorem mem_logFor {step : TxStep Nat} : step ∈ logFor e log ↔ ⟨e, step⟩ ∈ log := by
  simp only [logFor, List.mem_filterMap, Option.ite_none_right_eq_some, Option.some.injEq]
  constructor
  · rintro ⟨ev, hmem, rfl, rfl⟩
    exact hmem
  · exact fun hmem => ⟨_, hmem, rfl, rfl⟩

end LogFor

namespace Client

/-- The record follows the log of its endpoint. -/
structure Tracks (c : Client) (log : List (TxStep Nat)) : Prop where
  tracked : Tracked log (· ∈ c.liveTransactions) c.replay
  nodup : c.liveTransactions.Nodup

variable {c : Client} {log : List (TxStep Nat)} {tx : Nat}

theorem Tracks.accept (h : c.Tracks log) (haccepts : c.Accepts tx) :
    (c.accept tx).Tracks (log ++ [.accepted tx]) where
  tracked := h.tracked.accept haccepts.not_live haccepts.not_replayed
    fun u => by simp [Client.accept]
  nodup := List.nodup_append'.mpr ⟨h.nodup, by simp, by simpa using haccepts.not_live⟩

theorem Tracks.complete (h : c.Tracks log) (tx : Nat) :
    (c.complete tx).Tracks (log ++ logFor c.endpoint (c.completed tx)) := by
  by_cases hlive : tx ∈ c.liveTransactions
  · obtain ⟨live, -, hcomplete⟩ := complete_live hlive
    have hreplay : (c.complete tx).replay = c.replay.push tx := by rw [hcomplete]
    refine ⟨?_, nodup_complete h.nodup⟩
    simp only [completed, hlive, if_true, logFor_cons_self, logFor_nil, hreplay]
    exact h.tracked.complete hlive fun u => mem_complete h.nodup
  · simpa [complete_not_live hlive, completed, hlive] using h

theorem Tracks.touch (h : c.Tracks log) (haccepts : c.Accepts tx) :
    (c.touch tx).Tracks (log ++ [.accepted tx, .completed tx]) := by
  have hmem : tx ∈ (c.accept tx).liveTransactions := by simp [Client.accept]
  have hdone := (h.accept haccepts).complete tx
  simpa [complete_accept haccepts.not_live, completed, hmem] using hdone

end Client

namespace Publication

/-- The record follows the log of its endpoint; zero is no transaction. -/
def Tracks (p : Publication) (log : List (TxStep Nat)) : Prop :=
  Tracked log (fun t => t = p.liveTransaction ∧ t ≠ 0) p.replay

variable {p : Publication} {log : List (TxStep Nat)} {tx : Nat}

theorem Tracks.accept (h : p.Tracks log) (haccepts : p.Accepts tx) :
    Tracks { p with liveTransaction := tx } (log ++ [.accepted tx]) := by
  refine Tracked.accept h (by simp [haccepts.idle]) haccepts.not_replayed fun u => ?_
  simp only [haccepts.idle, and_not_self, false_or, and_iff_left_iff_imp]
  rintro rfl
  exact haccepts.nonzero

theorem Tracks.complete (h : p.Tracks log) (hlive : p.liveTransaction ≠ 0) :
    Tracks { p with liveTransaction := 0, replay := p.replay.push p.liveTransaction }
      (log ++ [.completed p.liveTransaction]) := by
  refine Tracked.complete h ⟨rfl, hlive⟩ fun u => ?_
  simp only [and_not_self, false_iff, not_and, not_not, and_imp]
  exact fun heq _ => heq

theorem Tracks.touch (h : p.Tracks log) (haccepts : p.Accepts tx) :
    (p.touch tx).Tracks (log ++ [.accepted tx, .completed tx]) := by
  have hdone := (h.accept haccepts).complete haccepts.nonzero
  rw [List.append_assoc] at hdone
  rw [Publication.touch, haccepts.idle]
  exact hdone

end Publication

/-! ## The log of all endpoints -/

/-- The log of everything that happened in a registry whose endpoints so far
are `known`. -/
structure Logged (known : EndpointIdentity → EndpointKind → Prop) (log : List TxEvent)
    (s : RegistryState) : Prop where
  client : ∀ i c, s.clients i = some c →
    known c.endpoint .client ∧ c.Tracks (logFor c.endpoint log)
  publication : ∀ j p, s.publicationAt j = some p →
    known p.endpoint .publication ∧ p.Tracks (logFor p.endpoint log)
  guarded : ∀ e kind, known e kind → ∃ live, Guarded (replayCapacity kind) (logFor e log) live
  known_issued : ∀ e kind, known e kind → e.id ∈ s.issuedEndpointIds
  known_unique : ∀ e kind e' kind', known e kind → known e' kind' → e.id = e'.id →
    e = e' ∧ kind = kind'
  event_known : ∀ ev ∈ log, ∃ kind, known ev.endpoint kind
  nonzero : ∀ ev ∈ log, ∀ t, ev.step = .accepted t → t ≠ 0

variable {o : Outcome RegistryError Reply}

section Logged

variable {known : EndpointIdentity → EndpointKind → Prop} {log evs : List TxEvent}
  {s s' : RegistryState}

theorem Logged.extend (h : Logged known log s) {e : EndpointIdentity} {kind : EndpointKind}
    (hknown : known e kind) (hevs : ∀ ev ∈ evs, ev.endpoint = e)
    (hguarded : ∃ live, Guarded (replayCapacity kind) (logFor e (log ++ evs)) live)
    (hnonzero : ∀ ev ∈ evs, ∀ t, ev.step = .accepted t → t ≠ 0)
    (hissued : s'.issuedEndpointIds = s.issuedEndpointIds)
    (hclient : ∀ i c, s'.clients i = some c →
      (c.endpoint = e ∧ kind = .client ∧ c.Tracks (logFor e (log ++ evs)))
        ∨ (c.endpoint ≠ e ∧ s.clients i = some c))
    (hpublication : ∀ j p, s'.publicationAt j = some p →
      (p.endpoint = e ∧ kind = .publication ∧ p.Tracks (logFor e (log ++ evs)))
        ∨ (p.endpoint ≠ e ∧ s.publicationAt j = some p)) :
    Logged known (log ++ evs) s' := by
  have hother : ∀ e', e' ≠ e → logFor e' (log ++ evs) = logFor e' log := by
    intro e' hne
    rw [logFor_append, logFor_eq_nil fun ev hev heq => hne (heq.symm.trans (hevs ev hev)),
      List.append_nil]
  constructor
  · intro i c hc
    rcases hclient i c hc with ⟨rfl, rfl, htracks⟩ | ⟨hne, hc'⟩
    · exact ⟨hknown, htracks⟩
    · rw [hother _ hne]
      exact h.client i c hc'
  · intro j p hp
    rcases hpublication j p hp with ⟨rfl, rfl, htracks⟩ | ⟨hne, hp'⟩
    · exact ⟨hknown, htracks⟩
    · rw [hother _ hne]
      exact h.publication j p hp'
  · intro e' kind' hknown'
    by_cases heq : e' = e
    · subst heq
      obtain ⟨-, rfl⟩ := h.known_unique _ _ _ _ hknown hknown' rfl
      exact hguarded
    · rw [hother e' heq]
      exact h.guarded e' kind' hknown'
  · rw [hissued]
    exact h.known_issued
  · exact h.known_unique
  · intro ev hev
    rcases List.mem_append.mp hev with hmem | hmem
    · exact h.event_known ev hmem
    · exact ⟨kind, hevs ev hmem ▸ hknown⟩
  · intro ev hev
    rcases List.mem_append.mp hev with hmem | hmem
    · exact h.nonzero ev hmem
    · exact hnonzero ev hmem

theorem Logged.setClient (h : Logged known log s) (hcore : Core s) {i : Fin maxClients}
    {c c' : Client} (hc : s.clients i = some c) (hsame : c'.endpoint = c.endpoint)
    (hevs : ∀ ev ∈ evs, ev.endpoint = c.endpoint)
    (htracks : c'.Tracks (logFor c.endpoint (log ++ evs)))
    (hnonzero : ∀ ev ∈ evs, ∀ t, ev.step = .accepted t → t ≠ 0) :
    Logged known (log ++ evs) (s.setClient i (some c')) := by
  refine h.extend (h.client i c hc).1 hevs ⟨_, htracks.tracked.guarded⟩ hnonzero rfl
    (fun i' d hd => ?_) fun j p hp => Or.inr ⟨fun heq => ?_, hp⟩
  · by_cases hi : i' = i
    · subst hi
      obtain rfl : c' = d := by simpa using hd
      exact Or.inl ⟨hsame, rfl, htracks⟩
    · have hd' : s.clients i' = some d := by simpa [hi] using hd
      exact Or.inr ⟨fun heq => hi (hcore.client_unique i' i d c hd' hc (by rw [heq])), hd'⟩
  · exact hcore.disjoint j p i c hp hc (by rw [heq])

variable {j : Fin maxServices}

theorem Logged.setActive (h : Logged known log s) (hcore : Core s)
    {slot : ServiceSlot} {p : Publication} (hslot : s.services j = some slot)
    (hactive : slot.active = some p) {active : Option Publication}
    (hevs : ∀ ev ∈ evs, ev.endpoint = p.endpoint)
    (hguarded : ∃ live, Guarded maxPublicationReplay (logFor p.endpoint (log ++ evs)) live)
    (hnew : ∀ q, active = some q →
      q.endpoint = p.endpoint ∧ q.Tracks (logFor p.endpoint (log ++ evs)))
    (hnonzero : ∀ ev ∈ evs, ∀ t, ev.step = .accepted t → t ≠ 0) :
    Logged known (log ++ evs) (s.setSlot j { slot with active }) := by
  have hat : s.publicationAt j = some p := publicationAt_eq_some.mpr ⟨slot, hslot, hactive⟩
  refine h.extend (h.publication j p hat).1 hevs hguarded hnonzero rfl
    (fun i c hc => Or.inr ⟨fun heq => ?_, hc⟩) fun j' q hq => ?_
  · exact hcore.disjoint j p i c hat hc (by rw [heq])
  · by_cases hj : j' = j
    · subst hj
      obtain ⟨hsame, htracks⟩ := hnew q (by simpa [publicationAt] using hq)
      exact Or.inl ⟨hsame, rfl, htracks⟩
    · have hq' : s.publicationAt j' = some q := by simpa [publicationAt, hj] using hq
      exact Or.inr ⟨fun heq => hj (hcore.publication_unique j' j q p hq' hat (by rw [heq])), hq'⟩

theorem Logged.setPublication (h : Logged known log s) (hcore : Core s)
    {slot : ServiceSlot} {p q : Publication} (hslot : s.services j = some slot)
    (hactive : slot.active = some p) (hsame : q.endpoint = p.endpoint)
    (hevs : ∀ ev ∈ evs, ev.endpoint = p.endpoint)
    (htracks : q.Tracks (logFor p.endpoint (log ++ evs)))
    (hnonzero : ∀ ev ∈ evs, ∀ t, ev.step = .accepted t → t ≠ 0) :
    Logged known (log ++ evs) (s.setSlot j { slot with active := some q }) := by
  refine h.setActive hcore hslot hactive hevs ⟨_, htracks.guarded⟩ ?_ hnonzero
  rintro _ ⟨⟩
  exact ⟨hsame, htracks⟩

theorem Logged.closePublication (h : Logged known log s) (hcore : Core s)
    {slot : ServiceSlot} {p : Publication} (hslot : s.services j = some slot)
    (hactive : slot.active = some p) :
    Logged known log (s.setSlot j { slot with active := none }) := by
  have hat := publicationAt_eq_some.mpr ⟨_, hslot, hactive⟩
  have htracks := (h.publication j p hat).2
  have hleft : Logged known (log ++ []) (s.setSlot j { slot with active := none }) :=
    h.setActive hcore hslot hactive (by simp) ⟨_, by simpa using htracks.guarded⟩ (by simp)
      (by simp)
  simpa using hleft

theorem Logged.setWatch (h : Logged known log s) (k : Fin maxPendingWatches)
    (w : Option PendingWatch) : Logged known log (s.setWatch k w) :=
  ⟨h.client, h.publication, h.guarded, h.known_issued, h.known_unique, h.event_known, h.nonzero⟩

theorem completed_events {c : Client} {tx : Nat} {ev : TxEvent} (hev : ev ∈ c.completed tx) :
    ev.endpoint = c.endpoint ∧ ∀ t, ev.step ≠ .accepted t := by
  unfold Client.completed at hev
  split at hev
  · obtain rfl := List.mem_singleton.mp hev
    exact ⟨rfl, nofun⟩
  · cases hev

theorem Drops.logged (hdrops : Drops s evs s') (hcore : Core s) (h : Logged known log s) :
    Logged known (log ++ evs) s' := by
  induction hdrops generalizing log with
  | nil => simpa using h
  | @cons s s' evs k w i c hk hc hendpoint hrest ih =>
      rw [← List.append_assoc]
      refine ih (hcore.drop hc) (Logged.setWatch ?_ k none)
      refine h.setClient hcore hc (by simp) (fun ev hev => (completed_events hev).1) ?_
        fun ev hev t heq => absurd heq ((completed_events hev).2 t)
      rw [logFor_append]
      exact (h.client i c hc).2.complete _

theorem Logged.congr {known' : EndpointIdentity → EndpointKind → Prop} (h : Logged known log s)
    (heq : ∀ e kind, known' e kind ↔ known e kind) : Logged known' log s := by
  have hfun : known' = known := funext fun e => funext fun kind => propext (heq e kind)
  exact hfun ▸ h

theorem Logged.introduce (h : Logged known log s) {e : EndpointIdentity} {kind : EndpointKind}
    (hfresh : e.id ∉ s.issuedEndpointIds)
    (hissued : s'.issuedEndpointIds = s.issuedEndpointIds ++ [e.id])
    (hclient : ∀ i c, s'.clients i = some c →
      (c.endpoint = e ∧ kind = .client ∧ c.Tracks []) ∨ s.clients i = some c)
    (hpublication : ∀ j p, s'.publicationAt j = some p →
      (p.endpoint = e ∧ kind = .publication ∧ p.Tracks []) ∨ s.publicationAt j = some p) :
    Logged (fun e' kind' => known e' kind' ∨ (e' = e ∧ kind' = kind)) log s' := by
  have hnew : ∀ e' kind', known e' kind' → e'.id ≠ e.id :=
    fun e' kind' hknown heq => hfresh (heq ▸ h.known_issued e' kind' hknown)
  have hempty : logFor e log = [] := by
    refine logFor_eq_nil fun ev hev heq => ?_
    obtain ⟨kind', hknown⟩ := h.event_known ev hev
    exact hnew _ kind' hknown (by rw [heq])
  constructor
  · intro i c hc
    rcases hclient i c hc with ⟨rfl, rfl, htracks⟩ | hc'
    · exact ⟨Or.inr ⟨rfl, rfl⟩, hempty ▸ htracks⟩
    · exact ⟨Or.inl (h.client i c hc').1, (h.client i c hc').2⟩
  · intro j p hp
    rcases hpublication j p hp with ⟨rfl, rfl, htracks⟩ | hp'
    · exact ⟨Or.inr ⟨rfl, rfl⟩, hempty ▸ htracks⟩
    · exact ⟨Or.inl (h.publication j p hp').1, (h.publication j p hp').2⟩
  · rintro e' kind' (hknown | ⟨rfl, rfl⟩)
    · exact h.guarded e' kind' hknown
    · exact ⟨fun _ => False, hempty ▸ .nil fun _ => id⟩
  · rw [hissued]
    rintro e' kind' (hknown | ⟨rfl, rfl⟩)
    · simp [h.known_issued e' kind' hknown]
    · simp
  · rintro e₁ kind₁ e₂ kind₂ (h₁ | ⟨rfl, rfl⟩) (h₂ | ⟨rfl, rfl⟩) hid
    · exact h.known_unique _ _ _ _ h₁ h₂ hid
    · exact absurd hid (hnew _ _ h₁)
    · exact absurd hid.symm (hnew _ _ h₂)
    · exact ⟨rfl, rfl⟩
  · intro ev hev
    obtain ⟨kind', hknown⟩ := h.event_known ev hev
    exact ⟨kind', Or.inl hknown⟩
  · exact h.nonzero

/-- The endpoint `e` was installed as a `kind`. -/
def Introduces (e : EndpointIdentity) (kind : EndpointKind) :
    TicketOp → Outcome RegistryError Reply → Prop
  | .installPublication _ _ install, .ok _ =>
      e = ⟨install.endpointId, install.endpointGeneration⟩ ∧ kind = .publication
  | .installClient _ _ install, .ok _ =>
      e = ⟨install.endpointId, install.endpointGeneration⟩ ∧ kind = .client
  | _, _ => False

theorem Concludes.not_introduces {op : TicketOp}
    (ho : Concludes s op o) (e : EndpointIdentity) (kind : EndpointKind) :
    ¬ Introduces e kind op o := by
  cases o with
  | ok reply => cases ho <;> exact id
  | err _ => cases op <;> exact id
  | panic => exact ho.elim

/-- The step: every operation extends the log it is given. -/
theorem Transition.logged {op : TicketOp}
    (h : Transition s op o evs s') (hcore : Core s) (hp : o ≠ .panic)
    (hticket : ∀ ticket, op = .commitPublish ticket → ticket.transaction ≠ 0)
    (hlog : Logged known log s) :
    Logged (fun e kind => known e kind ∨ Introduces e kind op o) (log ++ evs) s' := by
  have hold : Logged known (log ++ evs) s' → (∀ e kind, ¬ Introduces e kind op o) →
      Logged (fun e kind => known e kind ∨ Introduces e kind op o) (log ++ evs) s' :=
    fun hnext hnot => hnext.congr fun e kind => or_iff_left (hnot e kind)
  cases h with
  | refused => exact hold (by simpa using hlog) (by cases op <;> exact fun _ _ => id)
  | panicked _ => exact absurd rfl hp
  | @publicationInstalled g handle install j hfresh hvacant =>
      rw [List.append_nil]
      refine hlog.introduce (e := ⟨install.endpointId, install.endpointGeneration⟩) hfresh.fresh
        rfl (fun i c hc => Or.inr hc) fun j' p hat => ?_
      by_cases hj : j' = j
      · subst hj
        obtain rfl := by simpa [publicationAt, InstallPublication.slot] using hat
        exact Or.inl ⟨rfl, rfl, Tracked.new (by simp)⟩
      · exact Or.inr (by simpa [publicationAt, hj] using hat)
  | @clientInstalled g handle install i hfresh hi =>
      rw [List.append_nil]
      refine hlog.introduce (e := ⟨install.endpointId, install.endpointGeneration⟩) hfresh.fresh
        rfl (fun i' c hc => ?_) fun j p hat => Or.inr hat
      by_cases heq : i' = i
      · subst heq
        obtain rfl : install.client handle = c := by simpa using hc
        exact Or.inl ⟨rfl, rfl, Tracked.new (by simp [InstallClient.client]), List.nodup_nil⟩
      · exact Or.inr (by simpa [heq] using hc)
  | clientTouched hc haccepts ho =>
      refine hold (hlog.setClient hcore hc rfl (by simp) ?_ ?_) ho.not_introduces
      · simpa using (hlog.client _ _ hc).2.touch haccepts
      · simp [haccepts.nonzero]
  | publicationTouched hslot hactive haccepts ho =>
      have hat := publicationAt_eq_some.mpr ⟨_, hslot, hactive⟩
      have htracks := (hlog.publication _ _ hat).2.touch haccepts
      exact hold (hlog.setPublication hcore hslot hactive rfl (by simp) (by simpa using htracks)
        (by simp [haccepts.nonzero])) ho.not_introduces
  | watchAdded hc haccepts _ _ =>
      refine hold (Logged.setWatch ?_ _ _) fun _ _ => id
      refine hlog.setClient hcore hc rfl (by simp) ?_ (by simp [haccepts.nonzero])
      simpa using (hlog.client _ _ hc).2.accept haccepts
  | @cancelled i c tx k w hc haccepts _ _ =>
      have hdone : ∀ ev ∈ (c.accept tx).completed w.transaction
          ++ ((c.accept tx).complete w.transaction).completed tx,
          ev.endpoint = c.endpoint ∧ ∀ t, ev.step ≠ .accepted t := by
        intro ev hev
        rcases List.mem_append.mp hev with hmem | hmem
        · have hcompleted := completed_events hmem
          exact hcompleted
        · simpa using completed_events hmem
      refine hold ((hlog.setWatch k none).setClient (hcore.setWatch (by simp)) hc (by simp)
        ?_ ?_ ?_) fun _ _ => id
      · intro ev hev
        rcases List.mem_cons.mp hev with rfl | hmem
        · rfl
        · exact (hdone ev hmem).1
      · have htracks :=
          (((hlog.client _ _ hc).2.accept haccepts).complete w.transaction).complete tx
        simpa using htracks
      · intro ev hev t heq
        rcases List.mem_cons.mp hev with rfl | hmem
        · obtain rfl := TxStep.accepted.inj heq
          exact haccepts.nonzero
        · exact absurd heq ((hdone ev hmem).2 t)
  | enumerationBegun hc haccepts =>
      refine hold (hlog.setClient hcore hc rfl (by simp) ?_ ?_) fun _ _ => id
      · simpa using (hlog.client _ _ hc).2.accept haccepts
      · simp [haccepts.nonzero]
  | @enumerationCompleted i c ticket hc _ hlive =>
      refine hold (hlog.setClient hcore hc (by simp) (by simp) ?_ (by simp)) fun _ _ => id
      have htracks := (hlog.client _ _ hc).2.complete ticket.transaction
      simpa [Client.completed, hlive] using htracks
  | prepared hslot hactive haccepts _ =>
      have hat := publicationAt_eq_some.mpr ⟨_, hslot, hactive⟩
      have htracks := (hlog.publication _ _ hat).2.accept haccepts
      exact hold (hlog.setPublication hcore hslot hactive rfl (by simp) (by simpa using htracks)
        (by simp [haccepts.nonzero])) fun _ _ => id
  | @committed j slot p sent evs s' hslot hactive _ hnotified =>
      have hat := publicationAt_eq_some.mpr ⟨_, hslot, hactive⟩
      have htracks := (hlog.publication _ _ hat).2.complete (hticket _ rfl)
      refine hold ?_ fun _ _ => id
      rw [List.append_cons]
      refine hnotified.drops.logged (hcore.setActive hslot hactive ?_)
        (hlog.setPublication hcore hslot hactive rfl (by simp) ?_ (by simp))
      · rintro _ ⟨⟩
        rfl
      · rw [logFor_append, logFor_cons_self, logFor_nil]
        exact htracks
  | @retired j slot p tx sent evs s' hslot hactive haccepts hnotified =>
      have hat := publicationAt_eq_some.mpr ⟨_, hslot, hactive⟩
      have htracks := (hlog.publication _ _ hat).2.touch haccepts
      refine hold ?_ fun _ _ => id
      have hsplit : log ++ (⟨p.endpoint, .accepted tx⟩ :: ⟨p.endpoint, .completed tx⟩ :: evs)
          = (log ++ [⟨p.endpoint, .accepted tx⟩, ⟨p.endpoint, .completed tx⟩]) ++ evs := by
        simp
      rw [hsplit]
      exact hnotified.drops.logged (hcore.setActive hslot hactive (by simp))
        (hlog.setActive hcore hslot hactive (by simp) ⟨_, by simpa using htracks.guarded⟩
          (by simp) (by simp [haccepts.nonzero]))
  | publicationClosed hslot hactive hnotified =>
      exact hold (hnotified.drops.logged (hcore.setActive hslot hactive (by simp))
        (hlog.closePublication hcore hslot hactive)) fun _ _ => id
  | @clientClosed i c hc =>
      refine hold ?_ fun _ _ => id
      rw [List.append_nil]
      refine ⟨fun i' c' hc' => ?_, hlog.publication, hlog.guarded, hlog.known_issued,
        hlog.known_unique, hlog.event_known, hlog.nonzero⟩
      by_cases heq : i' = i
      · simp [heq] at hc'
      · exact hlog.client i' c' (by simpa [heq] using hc')

end Logged

/-! ## Histories -/

/-- Everything accepted and completed in a history, in order. -/
def eventsOf (h : List RegistryCall) : List TxEvent := h.flatMap (·.events)

/-- Some call of the history installed `e` as a `kind`. -/
def Known (h : List RegistryCall) (e : EndpointIdentity) (kind : EndpointKind) : Prop :=
  ∃ c ∈ h, Did (Introduces e kind) c

variable {ticket : PublishTicket}

theorem Transition.prepared_nonzero {s s' : RegistryState} {op : TicketOp} {evs : List TxEvent}
    (h : Transition s op (.ok (.prepared ticket)) evs s') :
    ticket.transaction ≠ 0 := by
  cases h with
  | prepared _ _ haccepts _ => exact haccepts.nonzero
  | clientTouched _ _ ho | publicationTouched _ _ _ ho => cases ho

theorem Session.resolve_commit {s : Session} {op : Op Nat Nat}
    (h : s.resolve op = some (.commitPublish ticket)) : ticket ∈ s.publishTickets := by
  cases op with
  | commitPublish k =>
      obtain ⟨t, ht, heq⟩ := Option.map_eq_some_iff.mp h
      obtain rfl := Op.commitPublish.inj heq
      exact List.mem_of_getElem? ht
  | enumerationComplete k =>
      obtain ⟨t, -, heq⟩ := Option.map_eq_some_iff.mp h
      cases heq
  | _ => cases h

theorem Session.keep_publishTickets {s : Session} (h : ticket ∈ (s.keep o).publishTickets) :
    ticket ∈ s.publishTickets ∨ o = .ok (.prepared ticket) := by
  unfold Session.keep at h
  split at h
  · rcases List.mem_append.mp h with hmem | hmem
    · exact Or.inl hmem
    · exact Or.inr (by rw [List.mem_singleton.mp hmem])
  all_goals exact Or.inl h

theorem known_snoc {h : List RegistryCall} {c : RegistryCall} {e : EndpointIdentity}
    {kind : EndpointKind} : Known (h ++ [c]) e kind ↔ Known h e kind ∨ Did
    (Introduces e kind) c := by
  simp [Known, or_and_right, exists_or]

theorem RegistryRun.logged {h : List RegistryCall} {s : Session} (hrun : RegistryRun h s) :
    Logged (Known h) (eventsOf h) s.state
      ∧ ∀ ticket ∈ s.publishTickets, ticket.transaction ≠ 0 := by
  refine hrun.induct (P := fun h s => Logged (Known h) (eventsOf h) s.state
    ∧ ∀ ticket ∈ s.publishTickets, ticket.transaction ≠ 0) (fun s hs => ?_) ?_
  · obtain ⟨generation, hnew, hpublish, -⟩ := hs
    refine ⟨?_, by simp [hpublish]⟩
    unfold RegistryState.new at hnew
    split at hnew
    · cases hnew
    · rw [← Outcome.ok.inj hnew]
      constructor <;> simp [Known, eventsOf, publicationAt]
  · rintro h _ ⟨before, op, o, after, evs⟩ - ⟨hlog, htickets⟩ hcore rfl hp hstep
    cases hstep with
    | absent hnone =>
        have hevents : eventsOf (h ++ [⟨before, op, .ok .absent, before, []⟩]) = eventsOf h := by
          simp [eventsOf]
        rw [hevents]
        refine ⟨hlog.congr fun e kind => ?_, htickets⟩
        rw [known_snoc, or_iff_left (not_did hnone)]
    | call hop htrans hkeep =>
        have hevents : eventsOf (h ++ [⟨before, op, o, after, evs⟩]) = eventsOf h ++ evs := by
          simp [eventsOf]
        rw [hevents]
        refine ⟨(htrans.logged hcore hp ?_ hlog).congr fun e kind => ?_, ?_⟩
        · rintro ticket rfl
          exact htickets ticket (Session.resolve_commit hop)
        · rw [known_snoc, did_iff hop]
        · intro ticket hmem
          rw [hkeep] at hmem
          rcases Session.keep_publishTickets hmem with hold | rfl
          · exact htickets ticket hold
          · exact htrans.prepared_nonzero

/-- In any history: zero is never accepted, only installed endpoints accept,
and between two accepts of one id on one endpoint lie the completion of that
id and, after it, as many completions of other ids as the endpoint's ring
holds. -/
theorem replay_protection {h : List RegistryCall} {s : Session} (hrun : RegistryRun h s) :
    (∀ ev ∈ eventsOf h, (∃ kind, Known h ev.endpoint kind) ∧ ev.step ≠ .accepted 0)
      ∧ ∀ e kind, Known h e kind → ∀ log t mid rest,
          logFor e (eventsOf h) = log ++ .accepted t :: (mid ++ .accepted t :: rest) →
          ∃ done after, mid = done ++ .completed t :: after
            ∧ replayCapacity kind ≤ (completions after).length ∧ t ∉ completions after := by
  obtain ⟨hlog, -⟩ := hrun.logged
  refine ⟨fun ev hev => ⟨hlog.event_known ev hev, fun heq => hlog.nonzero ev hev 0 heq rfl⟩, ?_⟩
  intro e kind hknown log t mid rest hsplit
  obtain ⟨live, hguarded⟩ := hlog.guarded e kind hknown
  rw [hsplit] at hguarded
  exact hguarded.replay_protected

/-- An id is used again once 32 others have completed. -/
def reusedId : List (Op Nat Nat) :=
  [.installClient 7 9 ⟨3, 1, 5, 1, .bootstrapMetadata⟩,
      .completeTransaction ⟨3, 1⟩ .client 5]
    ++ (List.range 32).map (fun k => .completeTransaction ⟨3, 1⟩ .client (100 + k))
    ++ [.completeTransaction ⟨3, 1⟩ .client 5]

theorem replay_protection_reusedId :
    (logFor ⟨3, 1⟩ (eventsOf (replay Session.exec reusedId emptySession).1)).count (.accepted 5) = 2
      ∧ (∀ ev ∈ eventsOf (replay Session.exec reusedId emptySession).1,
          (∃ kind, Known (replay Session.exec reusedId emptySession).1 ev.endpoint kind)
            ∧ ev.step ≠ .accepted 0)
      ∧ ∀ e kind, Known (replay Session.exec reusedId emptySession).1 e kind →
          ∀ log t mid rest, logFor e (eventsOf (replay Session.exec reusedId emptySession).1)
            = log ++ .accepted t :: (mid ++ .accepted t :: rest) →
          ∃ done after, mid = done ++ .completed t :: after
            ∧ replayCapacity kind ≤ (completions after).length ∧ t ∉ completions after :=
  ⟨by decide +kernel, replay_protection (emptySession_run reusedId (by decide +kernel))⟩

end Wyrmroot.Registry
