import Wyrmroot.Lib.Outcomes
import Wyrmroot.Registry.Invariant

/-!
# Failed operations

What an operation that returns an error has done to the registry: nothing,
or it has recorded its own transaction as completed on the endpoint that
asked (`Contained`). Most operations accept the transaction first and fail
later; every late failure completes it again, which gives back the live
slot and leaves the id in the replay window.
-/

namespace Wyrmroot.Registry

open Prog RegistryState

/-- Who asks, and under which transaction. An installation and the end of a
peer are no requests of an endpoint; a ticket names a request that was
accepted before. -/
def TicketOp.requester : TicketOp → Option (EndpointIdentity × Nat)
  | .preparePublish e tx => some (e, tx)
  | .retire e tx => some (e, tx)
  | .lookup e tx _ => some (e, tx)
  | .watch e tx _ => some (e, tx)
  | .cancel e tx _ => some (e, tx)
  | .enumerateBegin e tx => some (e, tx)
  | .completeTransaction e _ tx => some (e, tx)
  | .installPublication .. => none
  | .installClient .. => none
  | .commitPublish _ => none
  | .enumerationComplete _ => none
  | .peerClosed _ => none

/-- All that an error leaves behind. -/
inductive Contained (s : RegistryState) (request : Option (EndpointIdentity × Nat)) :
    RegistryState → Prop
  | unchanged : Contained s request s
  | client {i : Fin maxClients} {c : Client} {tx : Nat} (hc : s.clients i = some c)
      (hrequest : request = some (c.endpoint, tx)) :
      Contained s request (s.setClient i (some { c with replay := c.replay.push tx }))
  | publication {j : Fin maxServices} {slot : ServiceSlot} {p : Publication} {tx : Nat}
      (hslot : s.services j = some slot) (hactive : slot.active = some p)
      (hrequest : request = some (p.endpoint, tx)) :
      Contained s request
        (s.setSlot j { slot with active := some { p with replay := p.replay.push tx } })

section Steps

variable {s : RegistryState} {α β : Type} {R : RegistryState → Prop}

theorem onErr_clientIndex {e : EndpointIdentity} {f : Fin maxClients → Reg α} (herr : R s)
    (hok : ∀ i c, s.clients i = some c → c.endpoint = e → OnErr (f i) R s) :
    OnErr (lift (s.clientIndex e) >>= f) R s := by
  refine onErr_lift_bind herr fun i hi => ?_
  rcases clientIndex_cases s e with ⟨i', c, hc, hendpoint, hindex⟩ | hindex | hindex
  · obtain rfl := Outcome.ok.inj (hindex.symm.trans hi)
    exact hok i' c hc hendpoint
  all_goals
    rw [hindex] at hi
    cases hi

theorem onErr_publicationIndex {e : EndpointIdentity} {f : Fin maxServices → Reg α} (herr : R s)
    (hok : ∀ j slot p, s.services j = some slot → slot.active = some p → p.endpoint = e →
      OnErr (f j) R s) :
    OnErr (lift (s.publicationIndex e) >>= f) R s := by
  refine onErr_lift_bind herr fun j hj => ?_
  rcases publicationIndex_cases s e with
    ⟨j', slot, p, hslot, hactive, hendpoint, hindex⟩ | ⟨err, hindex⟩
  · obtain rfl := Outcome.ok.inj (hindex.symm.trans hj)
    exact hok j' slot p hslot hactive hendpoint
  · rw [hindex] at hj
    cases hj

theorem infallible_completeClient (i : Fin maxClients) (tx : Nat) :
    Infallible (completeClient i tx) := by
  exact infallible_get.bind fun s => (infallible_unwrap _).bind fun c =>
    (infallible_set _).bind fun _ => infallible_ite (infallible_emit _) (infallible_pure _)

theorem infallible_activeAt (j : Fin maxServices) : Infallible (activeAt j) :=
  infallible_get.bind fun _ => (infallible_unwrap _).bind fun _ =>
    (infallible_unwrap _).bind fun _ => infallible_pure _

theorem infallible_completePublication (j : Fin maxServices) (tx : Nat) :
    Infallible (completePublication j tx) := by
  refine (infallible_activeAt j).bind fun _ => (infallible_lift ?_).bind fun _ =>
    (infallible_modify _).bind fun _ => infallible_emit _
  intro e
  unfold publicationComplete
  split <;> exact nofun

theorem infallible_notify (protocolId : Nat) (name : Name) (generation : Nat) :
    Infallible (notify protocolId name generation) := by
  refine infallible_collect (fun k => infallible_get.bind fun s => ?_) _
  split
  · exact infallible_pure _
  split
  · have hdrop : ∀ sent : List WatchNotification,
        Infallible (Prog.modify (·.setWatch k none) >>= fun _ => (pure sent : Reg _)) :=
      fun _ => (infallible_modify _).bind fun _ => infallible_pure _
    dsimp only
    split
    · exact (infallible_completeClient _ _).bind fun _ => (infallible_pure _).bind hdrop
    · exact (infallible_pure _).bind hdrop
    · exact infallible_panic.bind hdrop
  · exact infallible_pure _

theorem onErr_undone {i : Fin maxClients} {c : Client} {tx : Nat} {e : RegistryError}
    {request : Option (EndpointIdentity × Nat)} (hc : s.clients i = some c)
    (haccepts : c.Accepts tx) (hrequest : request = some (c.endpoint, tx)) :
    OnErr (completeClient i tx >>= fun _ => (throw e : Reg α)) (Contained s request)
      (s.setClient i (some (c.accept tx))) := by
  refine wp_completeClient (c := c.accept tx) (by simp) (onErr_throw ?_)
  rw [setClient_setClient, Client.complete_accept haccepts.not_live]
  exact .client hc hrequest

end Steps

section Operations

variable {s : RegistryState}

theorem installPublication_onErr (g handle : Nat) (install : InstallPublication) :
    OnErr (installPublication g handle install) (· = s) s := by
  refine onErr_get_bind (onErr_lift_bind rfl fun _ _ => onErr_lift_bind rfl fun _ _ => ?_)
  split
  · exact onErr_throw rfl
  split
  · exact onErr_throw rfl
  exact onErr_lift_bind rfl fun j _ => onErr_lift_bind rfl fun name _ =>
    ((infallible_set _).bind fun _ => infallible_modify _).onErr

theorem installClient_onErr (g handle : Nat) (install : InstallClient) :
    OnErr (installClient g handle install) (· = s) s := by
  refine onErr_get_bind (onErr_lift_bind rfl fun _ _ => onErr_lift_bind rfl fun _ _ => ?_)
  split
  · exact onErr_throw rfl
  split
  · exact onErr_throw rfl
  split
  · exact onErr_throw rfl
  · exact (infallible_set _).onErr

theorem preparePublish_onErr (e : EndpointIdentity) (tx : Nat) :
    OnErr (preparePublish e tx) (Contained s (some (e, tx))) s := by
  refine onErr_get_bind (onErr_publicationIndex .unchanged ?_)
  rintro j slot p hslot hactive rfl
  refine wp_activeAt hslot hactive ?_
  by_cases hphase : p.phase = .installed
  · simp only [hphase, ne_eq, not_true_eq_false, if_false]
    exact wp_reservePublication hslot hactive (fun _ _ _ _ => .unchanged)
      fun _ => (infallible_pure _).onErr
  · simp only [hphase, ne_eq, not_false_eq_true, if_true]
    exact wp_touchPublication hslot hactive (fun _ _ _ _ => .unchanged)
      fun _ => onErr_throw (.publication hslot hactive rfl)

theorem commitPublish_onErr (ticket : PublishTicket) : OnErr (commitPublish ticket) (· = s) s := by
  refine onErr_get_bind (onErr_publicationIndex rfl fun j slot p hslot hactive _ => ?_)
  refine wp_activeAt hslot hactive ?_
  dsimp only
  by_cases hstale : p.liveTransaction ≠ ticket.transaction ∨ p.phase ≠ .installed
  · rw [if_pos hstale]
    exact onErr_throw rfl
  · rw [if_neg hstale]
    exact ((infallible_modify _).bind fun _ => (infallible_completePublication j _).bind fun _ =>
      (infallible_notify _ _ _).bind fun _ => infallible_pure _).onErr

theorem retire_onErr (e : EndpointIdentity) (tx : Nat) :
    OnErr (retire e tx) (Contained s (some (e, tx))) s := by
  refine onErr_get_bind (onErr_publicationIndex .unchanged fun j slot p hslot hactive _ => ?_)
  refine wp_activeAt hslot hactive (wp_reservePublication hslot hactive
    (fun _ _ _ _ => .unchanged) fun _ => ?_)
  exact ((infallible_completePublication j tx).bind fun _ => (infallible_modify _).bind fun _ =>
    (infallible_notify _ _ _).bind fun _ => infallible_pure _).onErr

theorem lookup_onErr (e : EndpointIdentity) (tx : Nat) (request : Lookup) :
    OnErr (lookup e tx request) (Contained s (some (e, tx))) s := by
  refine onErr_get_bind (onErr_clientIndex .unchanged ?_)
  rintro i c hc rfl
  refine wp_reserveClient hc (fun _ _ _ => .unchanged) fun haccepts => onErr_get_bind ?_
  rw [offerFor_setClient]
  cases s.offerFor tx request with
  | ok offer => exact ((infallible_completeClient i tx).bind fun _ => infallible_pure offer).onErr
  | error err => exact onErr_undone hc haccepts rfl

theorem watch_onErr (e : EndpointIdentity) (tx : Nat) (request : Watch) :
    OnErr (watch e tx request) (Contained s (some (e, tx))) s := by
  refine onErr_get_bind (onErr_clientIndex .unchanged ?_)
  rintro i c hc rfl
  refine wp_reserveClient hc (fun _ _ _ => .unchanged) fun haccepts => onErr_get_bind ?_
  dsimp only
  split
  · exact ((infallible_completeClient i tx).bind fun _ => infallible_pure _).onErr
  split
  · exact onErr_undone hc haccepts rfl
  split
  · exact onErr_undone hc haccepts rfl
  · refine (Infallible.bind (infallible_lift ?_) fun _ => (infallible_unwrap _).bind fun _ =>
      (infallible_modify _).bind fun _ => infallible_pure _).onErr
    intro err
    unfold copyName
    split <;> exact nofun

theorem cancel_onErr (e : EndpointIdentity) (tx target : Nat) :
    OnErr (cancel e tx target) (Contained s (some (e, tx))) s := by
  refine onErr_get_bind (onErr_clientIndex .unchanged ?_)
  rintro i c hc rfl
  refine wp_reserveClient hc (fun _ _ _ => .unchanged) fun haccepts => onErr_get_bind ?_
  split
  · exact ((infallible_modify _).bind fun _ => (infallible_completeClient i target).bind fun _ =>
      infallible_completeClient i tx).onErr
  · exact onErr_undone hc haccepts rfl

theorem enumerateBegin_onErr (e : EndpointIdentity) (tx : Nat) :
    OnErr (enumerateBegin e tx) (Contained s (some (e, tx))) s := by
  refine onErr_get_bind (onErr_clientIndex .unchanged ?_)
  rintro i c hc rfl
  refine onErr_unwrap_bind fun installed _ => ?_
  split
  · exact wp_touchClient hc (fun _ _ _ => .unchanged) fun _ => onErr_throw (.client hc rfl)
  · exact wp_reserveClient hc (fun _ _ _ => .unchanged) fun _ =>
      (infallible_ite infallible_panic (infallible_pure _)).onErr

theorem enumerationComplete_onErr (ticket : EnumerationTicket) :
    OnErr (enumerationComplete ticket) (· = s) s := by
  refine onErr_get_bind (onErr_clientIndex rfl fun i c _ _ => onErr_unwrap_bind fun _ _ => ?_)
  split
  · exact (infallible_completeClient i _).onErr
  · exact onErr_throw rfl

theorem completeTransaction_onErr (e : EndpointIdentity) (kind : EndpointKind) (tx : Nat) :
    OnErr (completeTransaction e kind tx) (Contained s (some (e, tx))) s := by
  refine onErr_get_bind ?_
  cases kind with
  | client =>
      refine onErr_clientIndex .unchanged fun i c hc _ => ?_
      exact wp_reserveClient hc (fun _ _ _ => .unchanged) fun _ =>
        (infallible_completeClient i tx).onErr
  | publication =>
      refine onErr_publicationIndex .unchanged fun j slot p hslot hactive _ => ?_
      exact wp_reservePublication hslot hactive (fun _ _ _ _ => .unchanged) fun _ =>
        (infallible_completePublication j tx).onErr

theorem peerClosed_onErr (e : EndpointIdentity) : OnErr (peerClosed e) (· = s) s := by
  refine onErr_get_bind ?_
  split
  · exact ((infallible_activeAt _).bind fun _ => (infallible_modify _).bind fun _ =>
      (infallible_notify _ _ _).bind fun _ => infallible_pure _).onErr
  · exact infallible_panic.onErr
  · exact onErr_clientIndex rfl fun i c _ _ => ((infallible_unwrap _).bind fun _ =>
      (infallible_set _).bind fun _ => infallible_pure _).onErr

/-- `publish`: a publication prepared and committed in one call. -/
def publish (endpoint : EndpointIdentity) (transaction : Nat) : Reg PublishOutcome := do
  let ticket ← preparePublish endpoint transaction
  commitPublish ticket

theorem publish_onErr (hcore : Core s) (e : EndpointIdentity) (tx : Nat) :
    OnErr (publish e tx) (Contained s (some (e, tx))) s := by
  refine onErr_bind (preparePublish_onErr e tx) fun ticket s' w hrun => ?_
  have hstep := preparePublish_spec (s := s) e tx
  rw [Does, wp, hrun] at hstep
  cases hstep with
  | prepared hslot hactive haccepts hphase =>
      rename_i j slot p
      refine wp_commitPublish (p := { p with liveTransaction := tx })
        (hcore.setActive hslot hactive ?_) (Function.update_self ..) rfl hphase (by rintro _ _ _ _ _ ⟨⟩)
      rintro p' hp'
      obtain rfl := Option.some.inj hp'
      rfl
  | clientTouched _ _ ho | publicationTouched _ _ _ ho => cases ho

theorem execState_onErr (op : TicketOp) : OnErr (execState op) (Contained s op.requester) s := by
  have hsame : ∀ {α : Type} {m : Reg α} {request : Option (EndpointIdentity × Nat)},
      OnErr m (· = s) s → OnErr m (Contained s request) s := by
    intro α m request h e he
    rw [h e he]
    exact .unchanged
  cases op with
  | installPublication g handle install =>
      exact (hsame (installPublication_onErr g handle install)).then_pure _
  | installClient g handle install => exact (hsame (installClient_onErr g handle install)).then_pure _
  | preparePublish e tx => exact (preparePublish_onErr e tx).then_pure _
  | commitPublish ticket => exact (hsame (commitPublish_onErr ticket)).then_pure _
  | retire e tx => exact (retire_onErr e tx).then_pure _
  | lookup e tx request => exact (lookup_onErr e tx request).then_pure _
  | watch e tx request => exact (watch_onErr e tx request).then_pure _
  | cancel e tx target => exact (cancel_onErr e tx target).then_pure _
  | enumerateBegin e tx => exact (enumerateBegin_onErr e tx).then_pure _
  | enumerationComplete ticket => exact (hsame (enumerationComplete_onErr ticket)).then_pure _
  | completeTransaction e kind tx => exact (completeTransaction_onErr e kind tx).then_pure _
  | peerClosed e => exact (hsame (peerClosed_onErr e)).then_pure _

end Operations

/-- In any reachable registry: an operation that fails, `publish` included,
has changed nothing but, at most, the replay window of the endpoint that
asked, which has its transaction as one more completed id; a failed
installation has changed nothing at all. -/
theorem failures_contained {h : List RegistryCall} {self : Session} (hrun : RegistryRun h self) :
    (∀ op e, (execState op self.state).1 = .err e →
        Contained self.state op.requester (execState op self.state).2.1)
      ∧ (∀ endpoint tx e, (publish endpoint tx self.state).1 = .err e →
        Contained self.state (some (endpoint, tx)) (publish endpoint tx self.state).2.1)
      ∧ (∀ g handle install e, (installPublication g handle install self.state).1 = .err e →
        (installPublication g handle install self.state).2.1 = self.state)
      ∧ ∀ g handle install e, (installClient g handle install self.state).1 = .err e →
        (installClient g handle install self.state).2.1 = self.state :=
  ⟨execState_onErr, publish_onErr hrun.core, installPublication_onErr, installClient_onErr⟩

/-- A client that cancels what it never asked for. -/
def lonelyClient : List (Op Nat Nat) :=
  [.installClient 7 9 ⟨3, 1, 5, 1, .bootstrapMetadata⟩]

theorem failures_contained_lonelyClient :
    (execState (.cancel ⟨3, 1⟩ 5 4) (replay Session.exec lonelyClient emptySession).2.state).1 =
        .err .unknownTransaction
      ∧ Contained (replay Session.exec lonelyClient emptySession).2.state (some (⟨3, 1⟩, 5))
        (execState (.cancel ⟨3, 1⟩ 5 4) (replay Session.exec lonelyClient emptySession).2.state).2.1 :=
  have hfails : (execState (.cancel ⟨3, 1⟩ 5 4)
      (replay Session.exec lonelyClient emptySession).2.state).1 = .err .unknownTransaction := by
    decide +kernel
  ⟨hfails, (failures_contained (emptySession_run lonelyClient (by decide +kernel))).1 _ _ hfails⟩

end Wyrmroot.Registry
