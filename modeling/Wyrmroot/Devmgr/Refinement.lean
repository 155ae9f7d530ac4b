import Wyrmroot.Devmgr.Custody

/-!
# What one connector call can do

From a slot whose state and pair agree (`SlotOk`), every call has an effect
on the pair that is held (`Effect`), a refused call has none, and `current`
stays the slot's driver or none. `exec_step` says so of all calls; nothing
after this file unfolds one.
-/

namespace Wyrmroot.Devmgr

open Outcome ConnectorBroker
open Loader (checkedAdd)

/-- The pair in the slot. -/
def held : ConnectorSlot → Held
  | .empty => none
  | .preMove attach pair | .postMovePending attach pair | .readyToConnect attach pair
  | .active attach pair | .awaitingDriverRelease attach pair | .awaitingClientRelease attach pair
  | .retiringActive attach pair => some (attach, pair)

/-- The owners that go with each state of the slot. -/
def SlotOk : ConnectorSlot → Prop
  | .empty => True
  | .preMove _ pair => pair = ⟨.devmgr, .devmgr⟩
  | .postMovePending _ pair => pair = ⟨.devmgr, .driver⟩
  | .readyToConnect _ pair => pair = ⟨.devmgr, .driver⟩
  | .active _ pair => pair = ⟨.client, .driver⟩
  | .awaitingDriverRelease _ pair => pair = ⟨.released, .driver⟩
  | .awaitingClientRelease _ pair => pair = ⟨.client, .released⟩
  | .retiringActive _ pair =>
      pair = ⟨.client, .driver⟩ ∨ pair = ⟨.released, .driver⟩ ∨ pair = ⟨.client, .released⟩

/-- New attaches go to the driver of the slot or nowhere. -/
def CurrentOk (s : ConnectorBroker) : Prop :=
  ∀ attach pair, held s.slot = some (attach, pair) →
    s.current = none ∨ s.current = some attach.driver

structure Good (s : ConnectorBroker) : Prop where
  slot : SlotOk s.slot
  current : CurrentOk s

/-- An attach takes the next transaction and the next stream generation. -/
def Numbered (s s' : ConnectorBroker) (attaches : List AttachCorrelation) : Prop :=
  (attaches = [] ∧ s'.nextAttachTransaction = s.nextAttachTransaction ∧
    s'.nextStreamGeneration = s.nextStreamGeneration) ∨
  ∃ attach, attaches = [attach] ∧ attach.attachTransactionId = s.nextAttachTransaction ∧
    attach.streamGeneration = s.nextStreamGeneration ∧
    s'.nextAttachTransaction = s.nextAttachTransaction + 1 ∧
    s'.nextStreamGeneration = s.nextStreamGeneration + 1

structure Step (s : ConnectorBroker) (op : Op) (o : Outcome ConnectorModelError Reply)
    (s' : ConnectorBroker) : Prop where
  total : o ≠ .panic
  unchanged : ∀ e, o = .err e → s' = s
  effect : Effect (held s.slot) (eventsOf op o) (held s'.slot)
  numbered : Numbered s s' (allocations (eventsOf op o))
  good : Good s'

variable {s : ConnectorBroker} {op : Op}

theorem eventsOf_err (op : Op) (e : ConnectorModelError) : eventsOf op (.err e) = [] := by
  cases op <;> rfl

theorem Step.refused (h : Good s) (e : ConnectorModelError) : Step s op (.err e) s := by
  refine ⟨err_ne_panic _, fun _ _ => rfl, ?_, ?_, h⟩
  · rw [eventsOf_err]
    exact .nothing _
  · rw [eventsOf_err]
    exact .inl ⟨rfl, rfl, rfl⟩

theorem Step.within {r : Reply} {slot : ConnectorSlot} {current : Option PublishedDriver}
    (h : Good s) (heffect : Effect (held s.slot) (eventsOf op (.ok r)) (held slot))
    (hslot : SlotOk slot) (hnone : allocations (eventsOf op (.ok r)) = [])
    (hcurrent : current = none ∨ current = s.current) :
    Step s op (.ok r) { s with current, slot } := by
  refine ⟨ok_ne_panic _, fun e he => absurd he (ok_ne_err _ e), heffect, .inl ⟨hnone, rfl, rfl⟩, hslot, fun attach pair hheld => ?_⟩
  rcases hcurrent with rfl | rfl
  · exact .inl rfl
  · obtain ⟨pair₀, hheld₀⟩ := heffect.same hnone hheld
    exact h.current attach pair₀ hheld₀

/-! ## One lemma an operation -/

abbrev Steps (s : ConnectorBroker) (op : Op) : Prop :=
  Prog.wp (exec op) (fun o s' _ => Step s op o s') s

theorem replacePublishedDriver_steps (h : Good s) (replacement : PublishedDriver) :
    Steps s (.replacePublishedDriver replacement) := by
  change Prog.wp (replacePublishedDriver replacement >>= fun _ => pure Reply.unit) _ s
  rw [Prog.wp_bind_pure, replacePublishedDriver, Prog.wp_get_bind,
    Prog.wp_rejectIf_bind]
  refine ⟨fun _ => .refused h _, fun hempty => ?_⟩
  simp only [Bool.or_eq_false_iff, decide_eq_false_iff_not, not_not, ne_eq] at hempty
  have hnone : held s.slot = none := by rw [hempty.1.1]; rfl
  refine ⟨ok_ne_panic _, fun e he => absurd he (ok_ne_err _ e), .nothing _, .inl ⟨rfl, rfl, rfl⟩, h.slot, fun attach pair hheld => ?_⟩
  cases hnone.symm.trans hheld

theorem beginConnect_steps (h : Good s) (request : ConnectorMessage) :
    Steps s (.beginConnect request) := by
  change Prog.wp (Reply.action <$> beginConnect request) _ s
  rw [Prog.wp_map, beginConnect, Prog.wp_get_bind]
  cases request with
  | connectStream publicationGeneration clientTransactionId =>
      simp only
      rw [Prog.wp_lift_bind]
      cases hcurrent : s.current with
      | none => exact .refused h _
      | some driver =>
          simp only [okOr_some]
          rw [Prog.wp_rejectIf_bind]
          refine ⟨fun _ => .refused h _, fun _ => ?_⟩
          rw [Prog.wp_rejectIf_bind]
          refine ⟨fun _ => .refused h _, fun hempty => ?_⟩
          simp only [decide_eq_false_iff_not, not_not, ne_eq] at hempty
          have hnone : held s.slot = none := by rw [hempty]; rfl
          rw [Prog.wp_lift_bind]
          cases hattach : checkedAdd s.nextAttachTransaction 1 with
          | none => exact .refused h _
          | some nextAttach =>
              simp only [okOr_some]
              rw [Prog.wp_lift_bind]
              cases hstream : checkedAdd s.nextStreamGeneration 1 with
              | none => exact .refused h _
              | some nextStream =>
                  obtain ⟨-, rfl⟩ := Loader.checkedAdd_eq_some.mp hattach
                  obtain ⟨-, rfl⟩ := Loader.checkedAdd_eq_some.mp hstream
                  refine ⟨ok_ne_panic _, fun e he => absurd he (ok_ne_err _ e), ?_, .inr ⟨_, rfl, rfl, rfl, rfl, rfl⟩, rfl, ?_⟩
                  · rw [hnone]
                    exact .allocate _
                  · rintro attach pair ⟨⟩
                    exact .inr hcurrent
  | connected identity | error publicationGeneration clientTransactionId code => exact .refused h _

theorem checked {α : Type} {c : Bool} {e : ConnectorModelError} {p : Broker α} {reply : α → Reply}
    (h : Good s) (hp : c = false → p.wp (fun o s' _ => Step s op (o.map reply) s') s) :
    (do .lift (rejectIf c e); p : Broker α).wp (fun o s' _ => Step s op (o.map reply) s') s := by
  rw [Prog.wp_rejectIf_bind]
  exact ⟨fun _ => .refused h _, hp⟩

theorem driverEndpointMoved_steps (h : Good s) (observed : AttachCorrelation) :
    Steps s (.driverEndpointMoved observed) := by
  change Prog.wp (Reply.action <$> driverEndpointMoved observed) _ s
  rw [Prog.wp_map, driverEndpointMoved, Prog.wp_get_bind]
  obtain ⟨current, next, next', slot⟩ := s
  cases slot with
  | preMove attach pair =>
      obtain rfl : pair = ⟨.devmgr, .devmgr⟩ := h.slot
      refine checked h fun _ => ?_
      exact .within h (.moveDriver attach) rfl rfl (.inr rfl)
  | _ => exact .refused h _

theorem attachSendFailed_steps (h : Good s) (observed : AttachCorrelation) :
    Steps s (.attachSendFailed observed) := by
  change Prog.wp (Reply.action <$> attachSendFailed observed) _ s
  rw [Prog.wp_map, attachSendFailed, Prog.wp_get_bind]
  obtain ⟨current, next, next', slot⟩ := s
  cases slot with
  | preMove attach pair =>
      obtain rfl : pair = ⟨.devmgr, .devmgr⟩ := h.slot
      refine checked h fun _ => ?_
      exact .within h (.closePair attach) trivial rfl (.inr rfl)
  | _ => exact .refused h _

theorem acceptStreamReady_steps (h : Good s) (message : ControlMessageV1_1) :
    Steps s (.acceptStreamReady message) := by
  change Prog.wp (acceptStreamReady message >>= fun _ => pure Reply.unit) _ s
  rw [Prog.wp_bind_pure, acceptStreamReady, Prog.wp_get_bind]
  obtain ⟨current, next, next', slot⟩ := s
  cases slot with
  | postMovePending attach pair =>
      obtain rfl : pair = ⟨.devmgr, .driver⟩ := h.slot
      refine checked h fun _ => ?_
      exact .within h (.nothing _) rfl rfl (.inr rfl)
  | _ => exact .refused h _

theorem abortPostMovePending_steps (h : Good s) (observed : AttachCorrelation)
    (hop : ∀ action, eventsOf op (.ok (.action action)) = actionEvents action) :
    (abortPostMovePending observed).wp (fun o s' _ => Step s op (o.map .action) s') s := by
  rw [abortPostMovePending, Prog.wp_get_bind]
  obtain ⟨current, next, next', slot⟩ := s
  cases slot with
  | postMovePending attach pair =>
      obtain rfl : pair = ⟨.devmgr, .driver⟩ := h.slot
      refine checked h fun _ => ?_
      have hevents := hop (.closeRetainedClientAndRequestDriverRelease attach)
      refine .within h ?_ rfl ?_ (.inr rfl)
      · rw [hevents]
        exact .closeClient attach
      · rw [hevents]
        rfl
  | _ => exact .refused h _

theorem pendingAttachTimedOut_steps (h : Good s) (observed : AttachCorrelation) :
    Steps s (.pendingAttachTimedOut observed) := by
  rw [Steps, exec_pendingAttachTimedOut, Prog.wp_map]
  exact abortPostMovePending_steps h observed fun _ => rfl

theorem pendingAttachRejected_steps (h : Good s) (message : ControlMessageV1_1) :
    Steps s (.pendingAttachRejected message) := by
  change Prog.wp (Reply.action <$> pendingAttachRejected message) _ s
  rw [Prog.wp_map, pendingAttachRejected, Prog.wp_get_bind]
  cases s.slot with
  | postMovePending attach pair =>
      cases message with
      | failure identity code =>
          exact checked h fun _ => abortPostMovePending_steps h attach fun _ => rfl
      | _ => exact .refused h _
  | _ => exact .refused h _

theorem clientEndpointMoved_steps (h : Good s) : Steps s .clientEndpointMoved := by
  change Prog.wp (Reply.action <$> clientEndpointMoved) _ s
  rw [Prog.wp_map, clientEndpointMoved, Prog.wp_get_bind]
  obtain ⟨current, next, next', slot⟩ := s
  cases slot with
  | readyToConnect attach pair =>
      obtain rfl : pair = ⟨.devmgr, .driver⟩ := h.slot
      exact .within h (.moveClient attach) rfl rfl (.inr rfl)
  | _ => exact .refused h _

theorem connectedSendFailed_steps (h : Good s) : Steps s .connectedSendFailed := by
  change Prog.wp (Reply.action <$> connectedSendFailed) _ s
  rw [Prog.wp_map, connectedSendFailed, Prog.wp_get_bind]
  obtain ⟨current, next, next', slot⟩ := s
  cases slot with
  | readyToConnect attach pair =>
      obtain rfl : pair = ⟨.devmgr, .driver⟩ := h.slot
      exact .within h (.closeClient attach) rfl rfl (.inr rfl)
  | _ => exact .refused h _

theorem activeClientReleased_steps (h : Good s) (observed : AttachCorrelation) :
    Steps s (.activeClientReleased observed) := by
  change Prog.wp (activeClientReleased observed >>= fun _ => pure Reply.unit) _ s
  rw [Prog.wp_bind_pure, activeClientReleased, Prog.wp_get_bind]
  obtain ⟨current, next, next', slot⟩ := s
  cases slot with
  | active attach pair =>
      obtain rfl : pair = ⟨.client, .driver⟩ := h.slot
      refine checked h fun hsame => ?_
      simp only [decide_eq_false_iff_not, not_not, ne_eq] at hsame
      subst hsame
      exact .within h (.releaseClient observed .driver) rfl rfl (.inr rfl)
  | _ => exact .refused h _

theorem detached_eq {message : ControlMessageV1_1} {attach : AttachCorrelation}
    {owner : EndpointOwner}
    (h : (decide (message ≠ attach.detachedMessage) || decide (owner ≠ .driver)) = false) :
    message = attach.detachedMessage ∧ owner = .driver := by
  simpa only [Bool.or_eq_false_iff, decide_eq_false_iff_not, not_not, ne_eq] using h

theorem driverDetached_steps (h : Good s) (message : ControlMessageV1_1) :
    Steps s (.driverDetached message) := by
  change Prog.wp (driverDetached message >>= fun _ => pure Reply.unit) _ s
  rw [Prog.wp_bind_pure, driverDetached, Prog.wp_get_bind]
  obtain ⟨current, next, next', slot⟩ := s
  cases slot with
  | active attach pair =>
      obtain rfl : pair = ⟨.client, .driver⟩ := h.slot
      refine checked h fun hsame => ?_
      obtain ⟨rfl, -⟩ := detached_eq hsame
      exact .within h (.detach attach .client) rfl rfl (.inr rfl)
  | awaitingDriverRelease attach pair =>
      obtain rfl : pair = ⟨.released, .driver⟩ := h.slot
      refine checked h fun hsame => ?_
      obtain ⟨rfl, -⟩ := detached_eq hsame
      exact .within h (.detach attach .released) trivial rfl (.inr rfl)
  | retiringActive attach pair =>
      refine checked h fun hsame => ?_
      obtain ⟨rfl, hdriver⟩ := detached_eq hsame
      rcases h.slot with rfl | rfl | rfl
      · exact .within h (.detach attach .client) (.inr (.inr rfl)) rfl (.inr rfl)
      · exact .within h (.detach attach .released) trivial rfl (.inr rfl)
      · cases hdriver
  | _ => exact .refused h _

theorem observed_eq {observed attach : AttachCorrelation} {owner : EndpointOwner}
    (h : (decide (observed ≠ attach) || decide (owner ≠ .client)) = false) :
    observed = attach ∧ owner = .client := by
  simpa only [Bool.or_eq_false_iff, decide_eq_false_iff_not, not_not, ne_eq] using h

theorem clientReleaseObserved_steps (h : Good s) (observed : AttachCorrelation) :
    Steps s (.clientReleaseObserved observed) := by
  change Prog.wp (clientReleaseObserved observed >>= fun _ => pure Reply.unit) _ s
  rw [Prog.wp_bind_pure, clientReleaseObserved, Prog.wp_get_bind]
  obtain ⟨current, next, next', slot⟩ := s
  cases slot with
  | awaitingClientRelease attach pair =>
      obtain rfl : pair = ⟨.client, .released⟩ := h.slot
      refine checked h fun hsame => ?_
      obtain ⟨rfl, -⟩ := observed_eq hsame
      exact .within h (.releaseClient observed .released) trivial rfl (.inr rfl)
  | retiringActive attach pair =>
      refine checked h fun hsame => ?_
      obtain ⟨rfl, hclient⟩ := observed_eq hsame
      rcases h.slot with rfl | rfl | rfl
      · exact .within h (.releaseClient observed .driver) (.inr (.inl rfl)) rfl (.inr rfl)
      · cases hclient
      · exact .within h (.releaseClient observed .released) trivial rfl (.inr rfl)
  | _ => exact .refused h _

theorem retireCurrent_active {current : Option PublishedDriver} {next next' : Nat}
    {attach : AttachCorrelation} {pair : PairOwnership} :
    retireCurrent ⟨current, next, next', .active attach pair⟩ =
      (.ok none, ⟨none, next, next', .retiringActive attach pair⟩, []) := rfl

theorem selectorFinalizeClientRelease_steps (h : Good s) (observedDriver : PublishedDriver)
    (observedStreamGeneration : Nat) :
    Steps s (.selectorFinalizeClientRelease observedDriver observedStreamGeneration) := by
  change Prog.wp (Reply.attach <$>
    selectorFinalizeClientRelease observedDriver observedStreamGeneration) _ s
  rw [Prog.wp_map, selectorFinalizeClientRelease, Prog.wp_get_bind]
  obtain ⟨current, next, next', slot⟩ := s
  cases slot with
  | active attach pair =>
      obtain rfl : pair = ⟨.client, .driver⟩ := h.slot
      refine checked h fun _ => ?_
      rw [Prog.wp_bind_ok retireCurrent_active, Prog.wp_bind_pure, clientReleaseObserved,
        Prog.wp_get_bind]
      simp only [pure_bind]
      rw [Prog.wp_rejectIf_bind]
      refine ⟨fun hrefused => ?_, fun _ => ?_⟩
      · simp at hrefused
      · exact .within h (.releaseClient attach .driver) (.inr (.inl rfl)) rfl (.inl rfl)
  | _ => exact .refused h _

theorem reaped_current {current : Option PublishedDriver} {observed : PublishedDriver}
    {next next' : Nat} {slot : ConnectorSlot} {m : Broker (Option ConnectorAction)}
    {Q : Outcome ConnectorModelError (Option ConnectorAction) → ConnectorBroker → List Empty → Prop}
    (hQ : ∀ current', current' = none ∨ current' = current →
      m.wp Q ⟨current', next, next', slot⟩) :
    (if current = some observed then
      (do
        (.modify ({ · with current := none }) : Broker Unit)
        m)
      else m).wp Q ⟨current, next, next', slot⟩ := by
  split_ifs
  · rw [Prog.wp_bind, Prog.wp_modify]
    exact hQ none (.inl rfl)
  · exact hQ current (.inr rfl)

theorem reaped_driver {observed : PublishedDriver} {attach : AttachCorrelation}
    {pair : PairOwnership} (h : Good s) (hheld : held s.slot = some (attach, pair))
    (hexact : decide (¬ slotDriver s.slot = some observed ∧ ¬ s.current = some observed) = false) :
    attach.driver = observed := by
  have hdriver : slotDriver s.slot = some attach.driver := by
    cases hslot : s.slot
    all_goals
      rw [hslot] at hheld
      cases hheld
    all_goals rfl
  rw [decide_eq_false_iff_not, not_and_or, not_not, not_not, hdriver] at hexact
  rcases hexact with hsame | hcurrent
  · exact Option.some.inj hsame
  · rcases h.current attach pair hheld with hnone | hsame
    · cases hnone.symm.trans hcurrent
    · exact Option.some.inj (hsame.symm.trans hcurrent)

theorem driverAttemptReaped_steps (h : Good s) (observed : PublishedDriver) :
    Steps s (.driverAttemptReaped observed) := by
  change Prog.wp (Reply.optional <$> driverAttemptReaped observed) _ s
  rw [Prog.wp_map, driverAttemptReaped, Prog.wp_get_bind]
  obtain ⟨current, next, next', slot⟩ := s
  refine checked h fun hexact => ?_
  refine reaped_current fun current' hcurrent' => ?_
  cases slot with
  | empty => exact .within h (.reapNothing observed (by rintro _ _ ⟨⟩)) trivial rfl hcurrent'
  | preMove attach pair =>
      obtain rfl : pair = ⟨.devmgr, .devmgr⟩ := h.slot
      obtain rfl := reaped_driver h rfl hexact
      exact .within h (.reapPair attach) trivial rfl hcurrent'
  | postMovePending attach pair | readyToConnect attach pair =>
      obtain rfl : pair = ⟨.devmgr, .driver⟩ := h.slot
      obtain rfl := reaped_driver h rfl hexact
      exact .within h (.reapClient attach) trivial rfl hcurrent'
  | active attach pair =>
      obtain rfl : pair = ⟨.client, .driver⟩ := h.slot
      obtain rfl := reaped_driver h rfl hexact
      exact .within h (.reap attach .client) rfl rfl hcurrent'
  | awaitingDriverRelease attach pair =>
      obtain rfl : pair = ⟨.released, .driver⟩ := h.slot
      obtain rfl := reaped_driver h rfl hexact
      exact .within h (.reap attach .released) trivial rfl hcurrent'
  | awaitingClientRelease attach pair =>
      obtain rfl : pair = ⟨.client, .released⟩ := h.slot
      refine .within h (.reapNothing observed ?_) rfl rfl hcurrent'
      rintro _ _ ⟨⟩ ⟨⟩
  | retiringActive attach pair =>
      obtain rfl := reaped_driver h rfl hexact
      rcases h.slot with rfl | rfl | rfl
      · exact .within h (.reap attach .client) (.inr (.inr rfl)) rfl hcurrent'
      · exact .within h (.reap attach .released) trivial rfl hcurrent'
      · refine .within h (.reapNothing _ ?_) (.inr (.inr rfl)) rfl hcurrent'
        rintro _ _ ⟨⟩ ⟨⟩

theorem retireCurrent_steps (h : Good s) : Steps s .retireCurrent := by
  change Prog.wp (Reply.optional <$> retireCurrent) _ s
  rw [Prog.wp_map, retireCurrent]
  obtain ⟨current, next, next', slot⟩ := s
  rw [Prog.wp_bind, Prog.wp_modify, Prog.wp_get_bind]
  cases slot with
  | empty => exact .within h (.nothing _) trivial rfl (.inl rfl)
  | preMove attach pair =>
      obtain rfl : pair = ⟨.devmgr, .devmgr⟩ := h.slot
      exact .within h (.closePair attach) trivial rfl (.inl rfl)
  | postMovePending attach pair | readyToConnect attach pair =>
      obtain rfl : pair = ⟨.devmgr, .driver⟩ := h.slot
      exact .within h (.closeClient attach) rfl rfl (.inl rfl)
  | active attach pair =>
      exact .within h (.nothing _) (.inl h.slot) rfl (.inl rfl)
  | awaitingClientRelease attach pair =>
      exact .within h (.nothing _) (.inr (.inr h.slot)) rfl (.inl rfl)
  | awaitingDriverRelease attach pair =>
      exact .within h (.nothing _) (.inr (.inl h.slot)) rfl (.inl rfl)
  | retiringActive attach pair => exact .within h (.nothing _) h.slot rfl (.inl rfl)

theorem exec_step (h : Good s) (op : Op) : Step s op (exec op s).1 (exec op s).2.1 := by
  cases op with
  | replacePublishedDriver replacement => exact replacePublishedDriver_steps h replacement
  | beginConnect request => exact beginConnect_steps h request
  | driverEndpointMoved observed => exact driverEndpointMoved_steps h observed
  | attachSendFailed observed => exact attachSendFailed_steps h observed
  | acceptStreamReady message => exact acceptStreamReady_steps h message
  | pendingAttachTimedOut observed => exact pendingAttachTimedOut_steps h observed
  | pendingAttachRejected message => exact pendingAttachRejected_steps h message
  | clientEndpointMoved => exact clientEndpointMoved_steps h
  | connectedSendFailed => exact connectedSendFailed_steps h
  | activeClientReleased observed => exact activeClientReleased_steps h observed
  | driverDetached message => exact driverDetached_steps h message
  | clientReleaseObserved observed => exact clientReleaseObserved_steps h observed
  | selectorFinalizeClientRelease observedDriver observedStreamGeneration =>
      exact selectorFinalizeClientRelease_steps h observedDriver observedStreamGeneration
  | driverAttemptReaped observed => exact driverAttemptReaped_steps h observed
  | retireCurrent => exact retireCurrent_steps h

/-- A broker as `new` makes it. -/
def Fresh (s : ConnectorBroker) : Prop :=
  ∃ current first first', ConnectorBroker.new current first first' = .ok s

theorem Fresh.slot (h : Fresh s) : s.slot = .empty := by
  obtain ⟨current, first, first', hnew⟩ := h
  obtain ⟨_, -, hs⟩ := bind_eq_ok.mp hnew
  obtain rfl := Outcome.ok.inj hs
  rfl

theorem Fresh.good (h : Fresh s) : Good s := by
  refine ⟨by rw [h.slot]; trivial, fun attach pair hheld => ?_⟩
  rw [h.slot] at hheld
  cases hheld

end Wyrmroot.Devmgr
