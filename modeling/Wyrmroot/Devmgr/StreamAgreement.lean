import Wyrmroot.Devmgr.ControlChannel

/-!
# Broker and driver agree about the stream

What is left of an attach on the driver's side is its message on the way, then
the stream the driver holds, then the report that it detached: `outstanding`
lists these in that order. While the driver runs there is one at most, and it is
of the attach whose pair the broker has with the driver. The slot is freed only
when the broker takes the report, or when the driver is gone, so the next
ATTACH_STREAM finds an idle driver.

A late STREAM_READY or STREAM_DETACHED is refused since attach transactions are
never used twice: with an earlier attach's number it cannot be taken for the one
in the slot (`Issued.only`).
-/

namespace Wyrmroot.Devmgr

open Outcome ConnectorBroker Uart

variable {b : ConnectorBroker} {op : Op} {a : AttachCorrelation}

/-! ## The broker's attaches -/

/-- An attach that the broker made, now or earlier. -/
structure Issued (b : ConnectorBroker) (a : AttachCorrelation) : Prop where
  transaction : 0 < a.attachTransactionId
  stream : 0 < a.streamGeneration
  publication : 0 < a.driver.publicationGeneration
  below : a.attachTransactionId < b.nextAttachTransaction
  only : ∀ a' pair, held b.slot = some (a', pair) →
    a'.attachTransactionId = a.attachTransactionId → a' = a

structure Issuing (b : ConnectorBroker) : Prop where
  good : Good b
  transaction : 0 < b.nextAttachTransaction
  stream : 0 < b.nextStreamGeneration
  slot : ∀ a pair, held b.slot = some (a, pair) → Issued b a

theorem slot_of_held_none {slot : ConnectorSlot} (h : held slot = none) : slot = .empty := by
  cases slot with
  | empty => rfl
  | _ => cases h

theorem exec_empty (hempty : b.slot = .empty) (hop : ∀ request, op ≠ .beginConnect request) :
    (exec op b).2.1.slot = .empty := by
  obtain ⟨current, next, next', slot⟩ := b
  obtain rfl : slot = .empty := hempty
  cases op with
  | beginConnect request => exact absurd rfl (hop request)
  | replacePublishedDriver replacement =>
      rcases exec_replace ⟨current, next, next', .empty⟩ replacement with ⟨-, hrun⟩ | ⟨-, hrun⟩
      · rw [hrun]
      · rw [hrun]
  | driverAttemptReaped observed =>
      have hstays : Prog.wp (exec (.driverAttemptReaped observed))
          (fun _ s' _ => s'.slot = .empty) ⟨current, next, next', .empty⟩ := by
        rw [exec, Prog.wp_map, driverAttemptReaped, Prog.wp_get_bind, Prog.wp_rejectIf_bind]
        exact ⟨fun _ => rfl, fun _ => reaped_current fun _ _ => rfl⟩
      exact hstays
  | _ => rfl

variable {held' : Held} {events : List Event}

theorem Effect.allocated {held : Held} (h : Effect held events held')
    (hone : allocations events = [a]) : held = none ∧ ∃ pair, held' = some (a, pair) := by
  cases h with
  | allocate _ =>
      cases hone
      exact ⟨rfl, _, rfl⟩
  | _ => cases hone

/-- A call other than a request leaves the number of the next attach, and the slot has
the attach it had or none. -/
theorem exec_holds (h : Good b) (hop : ∀ request, op ≠ .beginConnect request) :
    (exec op b).2.1.nextAttachTransaction = b.nextAttachTransaction ∧
    (exec op b).2.1.nextStreamGeneration = b.nextStreamGeneration ∧
    ∀ a pair, held (exec op b).2.1.slot = some (a, pair) → ∃ pair₀, held b.slot = some (a, pair₀) := by
  have hstep := exec_step h op
  rcases hstep.numbered with ⟨hnone, hattach, hstream⟩ | ⟨attach, hone, -⟩
  · exact ⟨hattach, hstream, fun a pair hheld => hstep.effect.same hnone hheld⟩
  · obtain ⟨hempty, pair, hheld⟩ := hstep.effect.allocated hone
    rw [exec_empty (slot_of_held_none hempty) hop] at hheld
    cases hheld

theorem Issued.call (h : Issued b a) (hgood : Good b) (op : Op) : Issued (exec op b).2.1 a := by
  have hstep := exec_step hgood op
  rcases hstep.numbered with ⟨hnone, hattach, -⟩ | ⟨attach, hone, hfresh, -, hattach, -⟩
  · refine { h with below := hattach ▸ h.below, only := fun a' pair hheld htransaction => ?_ }
    obtain ⟨pair₀, hheld₀⟩ := hstep.effect.same hnone hheld
    exact h.only a' pair₀ hheld₀ htransaction
  · have hbelow := h.below
    refine { h with below := by omega, only := fun a' pair hheld htransaction => ?_ }
    obtain ⟨-, pair', hheld'⟩ := hstep.effect.allocated hone
    obtain ⟨rfl, -⟩ := Prod.mk.inj (Option.some.inj (hheld.symm.trans hheld'))
    omega

theorem Issuing.call (h : Issuing b)
    (hvalid : ∀ request, op = .beginConnect request → request.valid = true) :
    Issuing (exec op b).2.1 := by
  have hgood : Good (exec op b).2.1 := (exec_step h.good op).good
  by_cases hop : ∃ request, op = .beginConnect request
  · obtain ⟨request, rfl⟩ := hop
    cases hreply : (exec (.beginConnect request) b).1 with
    | ok reply =>
        obtain ⟨driver, client, rfl, hclient, -, -, -, -, -, hafter⟩ := beginConnect_eq_ok hreply
        have hpublication := hvalid _ rfl
        rw [ConnectorMessage.valid, Bool.and_eq_true, decide_eq_true_eq] at hpublication
        rw [hafter] at hgood ⊢
        refine ⟨hgood, Nat.succ_pos _, Nat.succ_pos _, ?_⟩
        rintro a pair ⟨⟩
        refine ⟨h.transaction, h.stream, Nat.pos_of_ne_zero hpublication.1, Nat.lt_succ_self _, ?_⟩
        rintro a' pair' ⟨⟩ -
        rfl
    | err e =>
        rw [(exec_step h.good _).unchanged e hreply]
        exact h
    | panic => exact absurd hreply (exec_step h.good _).total
  · rw [not_exists] at hop
    obtain ⟨hattach, hstream, hslot⟩ := exec_holds h.good hop
    refine ⟨hgood, by rw [hattach]; exact h.transaction, by rw [hstream]; exact h.stream,
      fun a pair hheld => ?_⟩
    obtain ⟨pair₀, hheld₀⟩ := hslot a pair hheld
    exact (h.slot a pair₀ hheld₀).call h.good op

theorem Effect.detached {held : Held} {m : ControlMessageV1_1}
    (h : Effect held [.driverDetached m] held') :
    ∃ a pair, held = some (a, pair) ∧ m = a.detachedMessage := by
  cases h with
  | detach attach other => exact ⟨attach, _, rfl, rfl⟩

variable {pair : PairOwnership}

/-- The driver keeps its end until the broker takes the report of this attach, or
evidence that the driver was reaped. -/
theorem Effect.driver_holds {held : Held}
    (h : Effect held events held') (hheld : held = some (a, pair)) (hpair : pair.driver = .driver)
    (hdetached : .driverDetached a.detachedMessage ∉ events) (hreaped : .reaped a.driver ∉ events) :
    ∃ pair', held' = some (a, pair') ∧ pair'.driver = .driver := by
  subst hheld
  cases h with
  | nothing => exact ⟨pair, rfl, hpair⟩
  | reapNothing _ hother => exact absurd hpair (hother a pair rfl)
  | moveDriver | closePair => cases hpair
  | moveClient | closeClient => exact ⟨_, rfl, rfl⟩
  | releaseClient _ other =>
      obtain rfl : other = .driver := hpair
      exact ⟨_, rfl, rfl⟩
  | detach => exact absurd (List.mem_cons_self ..) hdetached
  | reap | reapPair | reapClient => exact absurd (List.mem_cons_self ..) hreaped

section Events

variable {o : Outcome ConnectorModelError Reply} {m : ControlMessageV1_1} {driver : PublishedDriver}

theorem detached_notMem (action : ConnectorAction) :
    .driverDetached m ∉ actionEvents action := by
  cases action with
  | moveClientEndpoint response => cases response <;> simp [actionEvents]
  | _ => simp [actionEvents]

theorem reaped_notMem (action : ConnectorAction) : .reaped driver ∉ actionEvents action := by
  cases action with
  | moveClientEndpoint response => cases response <;> simp [actionEvents]
  | _ => simp [actionEvents]

/-! Only two calls end what the driver holds. -/

theorem detached_of_mem (h : .driverDetached m ∈ eventsOf op o) : op = .driverDetached m := by
  cases o with
  | ok reply => cases op <;> cases reply <;> simp_all [eventsOf, detached_notMem]
  | err e => simp [eventsOf_err] at h
  | panic => cases op <;> cases h

theorem reaped_of_mem (h : .reaped driver ∈ eventsOf op o) : op = .driverAttemptReaped driver := by
  cases o with
  | ok reply => cases op <;> cases reply <;> simp_all [eventsOf, reaped_notMem]
  | err e => simp [eventsOf_err] at h
  | panic => cases op <;> cases h

end Events

theorem accepted_identity {reading : Reading} {m : ControlMessageV1_1} (hgood : Good b)
    (h : (exec (reading.op m) b).1.isOk = true) :
    ∃ a pair, held b.slot = some (a, pair) ∧ m.identity = a.controlIdentity := by
  cases reading with
  | streamReady =>
      have htakes : Prog.wp (exec (.acceptStreamReady m)) (fun o _ _ => o.isOk = true →
          ∃ a pair, held b.slot = some (a, pair) ∧ m.identity = a.controlIdentity) b := by
        rw [exec, Prog.wp_bind_pure, acceptStreamReady, Prog.wp_get_bind]
        obtain ⟨current, next, next', slot⟩ := b
        cases slot with
        | postMovePending attach pair =>
            simp only
            rw [Prog.wp_rejectIf_bind]
            refine ⟨fun _ => by rintro ⟨⟩, fun hsame _ => ⟨attach, pair, rfl, ?_⟩⟩
            rw [decide_eq_false_iff_not, not_not] at hsame
            rw [hsame]
            rfl
        | _ => rintro ⟨⟩
      exact htakes h
  | rejection =>
      have htakes : Prog.wp (exec (.pendingAttachRejected m)) (fun o _ _ => o.isOk = true →
          ∃ a pair, held b.slot = some (a, pair) ∧ m.identity = a.controlIdentity) b := by
        rw [exec, Prog.wp_map, pendingAttachRejected, Prog.wp_get_bind]
        cases hslot : b.slot with
        | postMovePending attach pair =>
            cases m with
            | failure identity code =>
                simp only
                rw [Prog.wp_rejectIf_bind]
                refine ⟨fun _ => by rintro ⟨⟩, fun hsame _ => ⟨attach, pair, rfl, ?_⟩⟩
                rw [Bool.or_eq_false_iff, decide_eq_false_iff_not, not_not] at hsame
                exact hsame.1
            | _ => rintro ⟨⟩
        | _ => rintro ⟨⟩
      exact htakes h
  | streamDetached =>
      obtain ⟨reply, hreply⟩ := exists_of_isOk h
      have heffect := (exec_step hgood (.driverDetached m)).effect
      rw [show (exec (.driverDetached m) b).1 = .ok reply from hreply, eventsOf] at heffect
      obtain ⟨attach, pair, hheld, rfl⟩ := heffect.detached
      exact ⟨attach, pair, hheld, rfl⟩

theorem moved_eq_ok (hgood : Good b) (h : (exec (.driverEndpointMoved a) b).1.isOk = true) :
    held b.slot = some (a, ⟨.devmgr, .devmgr⟩) ∧
      held (exec (.driverEndpointMoved a) b).2.1.slot = some (a, ⟨.devmgr, .driver⟩) := by
  have hmoves : Prog.wp (exec (.driverEndpointMoved a)) (fun o b' _ => o.isOk = true →
      held b.slot = some (a, ⟨.devmgr, .devmgr⟩) ∧
        held b'.slot = some (a, ⟨.devmgr, .driver⟩)) b := by
    rw [exec, Prog.wp_map, driverEndpointMoved, Prog.wp_get_bind]
    obtain ⟨current, next, next', slot⟩ := b
    cases slot with
    | preMove attach pair =>
        obtain rfl : pair = ⟨.devmgr, .devmgr⟩ := hgood.slot
        simp only
        rw [Prog.wp_rejectIf_bind]
        refine ⟨fun _ => by rintro ⟨⟩, fun hsame _ => ?_⟩
        rw [decide_eq_false_iff_not, not_not] at hsame
        subst hsame
        exact ⟨rfl, rfl⟩
    | _ => rintro ⟨⟩
  exact hmoves h

/-! ## What is left of an attach -/

/-- One attach at most is left, and then it is the one whose pair the driver has a part of. -/
def Holds (b : ConnectorBroker) (l : List AttachCorrelation) : Prop :=
  l = [] ∨ ∃ a pair, l = [a] ∧ held b.slot = some (a, pair) ∧ pair.driver = .driver

variable {l l' : List AttachCorrelation}

theorem Holds.sublist (h : Holds b l) (hl : l'.Sublist l) : Holds b l' := by
  rcases h with rfl | ⟨a, pair, rfl, hheld⟩
  · exact .inl (List.sublist_nil.mp hl)
  · rcases List.sublist_singleton.mp hl with rfl | rfl
    · exact .inl rfl
    · exact .inr ⟨a, pair, rfl, hheld⟩

theorem Holds.slot (h : Holds b l) (ha : a ∈ l) :
    l = [a] ∧ ∃ pair, held b.slot = some (a, pair) ∧ pair.driver = .driver := by
  rcases h with rfl | ⟨a', pair, rfl, hheld⟩
  · cases ha
  · obtain rfl := List.mem_singleton.mp ha
    exact ⟨rfl, pair, hheld⟩

theorem Holds.call (h : Holds b l) (hgood : Good b)
    (hdetached : ∀ a ∈ l, op ≠ .driverDetached a.detachedMessage)
    (hreaped : ∀ a ∈ l, op ≠ .driverAttemptReaped a.driver) : Holds (exec op b).2.1 l := by
  rcases h with rfl | ⟨a, pair, rfl, hheld, hpair⟩
  · exact .inl rfl
  · have hmem : a ∈ [a] := List.mem_singleton_self a
    obtain ⟨pair', hheld', hpair'⟩ := (exec_step hgood op).effect.driver_holds hheld hpair
      (fun hevent => hdetached a hmem (detached_of_mem hevent))
      (fun hevent => hreaped a hmem (reaped_of_mem hevent))
    exact .inr ⟨a, pair', rfl, hheld', hpair'⟩

variable {r : AttachCorrelation × ControlMessageV1_1}

namespace StreamSession

/-- The attaches of which a message or the driver speaks. -/
def spoken (s : StreamSession) : List AttachCorrelation :=
  s.toDriver.map Prod.fst ++ s.attached.toList ++ s.toDevmgr.map Prod.fst

/-- The attaches whose detachment is reported. -/
def reported (replies : List (AttachCorrelation × ControlMessageV1_1)) : List AttachCorrelation :=
  (replies.filter fun r => r.2 = r.1.detachedMessage).map Prod.fst

def outstanding (s : StreamSession) : List AttachCorrelation :=
  s.toDriver.map Prod.fst ++ s.attached.toList ++ reported s.toDevmgr

theorem outstanding_spoken (s : StreamSession) : s.outstanding.Sublist s.spoken :=
  (List.Sublist.refl _).append (List.filter_sublist.map Prod.fst)

theorem reported_append (l l' : List (AttachCorrelation × ControlMessageV1_1)) :
    reported (l ++ l') = reported l ++ reported l' := by
  simp [reported]

theorem reported_own (a : AttachCorrelation) : reported [(a, a.detachedMessage)] = [a] := by
  simp [reported]

theorem reported_other {m : ControlMessageV1_1} (h : m ≠ a.detachedMessage) :
    reported [(a, m)] = [] := by
  simp [reported, h]

theorem outstanding_rest {s : StreamSession}
    {rest : List (AttachCorrelation × ControlMessageV1_1)} (h : s.toDevmgr = r :: rest) :
    (outstanding { s with toDevmgr := rest }).Sublist s.outstanding := by
  have hrest : rest.Sublist s.toDevmgr := by
    rw [h]
    exact List.sublist_cons_self r rest
  exact (List.Sublist.refl _).append ((hrest.filter _).map Prod.fst)

theorem outstanding_report {s : StreamSession}
    {rest : List (AttachCorrelation × ControlMessageV1_1)}
    (h : s.toDevmgr = (a, a.detachedMessage) :: rest) :
    s.outstanding.length = (outstanding { s with toDevmgr := rest }).length + 1 := by
  simp [outstanding, reported, h, Nat.add_assoc]

end StreamSession

open StreamSession

structure Agreed (s : StreamSession) : Prop where
  broker : Issuing s.broker
  spoken : ∀ a ∈ s.spoken, SameAttempt a.driver.control s.attachment.driver ∧ Issued s.broker a
  replies : ∀ r ∈ s.toDevmgr, r.2.identity = r.1.controlIdentity
  active : s.attached = none ∧ s.attachment.active = none ∨
    ∃ a endpoint, s.attached = some a ∧ s.attachment.active = some (activeOf a endpoint)
  one : s.running = true → Holds s.broker s.outstanding
  ended : s.running = false → s.attached = none ∧ s.toDriver = []

variable {s : StreamSession}

theorem Agreed.idle (h : Agreed s) (hslot : s.broker.slot = .empty) :
    s.attachment.active = none ∧ s.toDriver = [] := by
  have hnone : s.attached = none ∧ s.toDriver = [] := by
    cases hrunning : s.running with
    | false => exact h.ended hrunning
    | true =>
        rcases h.one hrunning with hnil | ⟨a, pair, -, hheld, -⟩
        · simp only [outstanding, List.append_eq_nil_iff, List.map_eq_nil_iff,
            Option.toList_eq_nil_iff] at hnil
          exact ⟨hnil.1.2, hnil.1.1⟩
        · rw [hslot] at hheld
          cases hheld
  rcases h.active with ⟨-, hactive⟩ | ⟨a, _, hattached, -⟩
  · exact ⟨hactive, hnone.2⟩
  · cases hattached.symm.trans hnone.1

theorem Agreed.call (h : Agreed s)
    (hvalid : ∀ request, op = .beginConnect request → request.valid = true)
    (hone : s.running = true → Holds (exec op s.broker).2.1 s.outstanding) :
    Agreed { s with broker := (exec op s.broker).2.1 } where
  broker := h.broker.call hvalid
  spoken := fun a ha => ⟨(h.spoken a ha).1, (h.spoken a ha).2.call h.broker.good op⟩
  replies := h.replies
  active := h.active
  one := hone
  ended := h.ended

theorem Agreed.sent (h : Agreed s) {endpoint : ReceivedStreamEndpoint}
    (hrunning : s.running = true) (hsame : SameAttempt a.driver.control s.attachment.driver)
    (hnil : s.outstanding = []) (hheld : held s.broker.slot = some (a, pair))
    (hpair : pair.driver = .driver) :
    Agreed { s with toDriver := s.toDriver ++ [(a, endpoint)] } := by
  simp only [outstanding, List.append_eq_nil_iff] at hnil
  obtain ⟨⟨hdriver, hattached⟩, hreported⟩ := hnil
  refine { h with spoken := fun a' ha' => ?_, one := fun _ => .inr ⟨a, pair, ?_, hheld, hpair⟩,
                  ended := fun hended => by cases hrunning.symm.trans hended }
  · by_cases hnew : a' = a
    · subst hnew
      exact ⟨hsame, h.broker.slot a' pair hheld⟩
    · exact h.spoken a' (by simpa [StreamSession.spoken, hnew] using ha')
  · rw [outstanding, List.map_append, hdriver, hattached, hreported]
    rfl

theorem Agreed.said (h : Agreed s) {m : ControlMessageV1_1}
    (hsame : SameAttempt a.driver.control s.attachment.driver) (hissued : Issued s.broker a)
    (hm : m.identity = a.controlIdentity)
    (hone : s.running = true → Holds s.broker (s.outstanding ++ reported [(a, m)])) :
    Agreed { s with toDevmgr := s.toDevmgr ++ [(a, m)] } := by
  refine { h with spoken := fun a' ha' => ?_, replies := fun r hr => ?_, one := fun hrunning => ?_ }
  · by_cases hnew : a' = a
    · subst hnew
      exact ⟨hsame, hissued⟩
    · exact h.spoken a' (by simpa [StreamSession.spoken, hnew] using ha')
  · rcases List.mem_append.mp hr with hr | hr
    · exact h.replies r hr
    · obtain rfl := List.mem_singleton.mp hr
      exact hm
  · rw [outstanding, reported_append, ← List.append_assoc]
    exact hone hrunning

theorem Agreed.answered (h : Agreed s) {m : ControlMessageV1_1}
    (hsame : SameAttempt a.driver.control s.attachment.driver) (hissued : Issued s.broker a)
    (hm : m.identity = a.controlIdentity) (hother : m ≠ a.detachedMessage) :
    Agreed { s with toDevmgr := s.toDevmgr ++ [(a, m)] } := by
  refine h.said hsame hissued hm fun hrunning => ?_
  rw [reported_other hother, List.append_nil]
  exact h.one hrunning

theorem Agreed.taken (h : Agreed s)
    {rest : List (AttachCorrelation × ControlMessageV1_1)} (hr : s.toDevmgr = r :: rest) :
    Agreed { s with toDevmgr := rest } := by
  have hrest : rest.Sublist s.toDevmgr := by
    rw [hr]
    exact List.sublist_cons_self r rest
  have hspoken : (StreamSession.spoken { s with toDevmgr := rest }).Sublist s.spoken :=
    (List.Sublist.refl _).append (hrest.map Prod.fst)
  have houtstanding := outstanding_rest hr
  exact { h with
    spoken := fun a ha => h.spoken a (hspoken.subset ha)
    replies := fun r hr => h.replies r (hrest.subset hr)
    one := fun hrunning => (h.one hrunning).sublist houtstanding }

/-! ## One step -/

abbrev Settles (s : StreamSession) (op : SessionOp) : Prop :=
  Prog.wp (act op) (fun _ s' _ => Agreed s') s

theorem callBroker_wp (op : Op) (Q : Outcome SessionError SessionReply → StreamSession → Prop)
    (s : StreamSession) : (callBroker op).wp (fun o s' _ => Q o s') s ↔
      Q (((exec op s.broker).1.mapErr .broker).map .broker)
        { s with broker := (exec op s.broker).2.1 } := by
  rw [callBroker, Prog.wp_map, Prog.wp_within, Prog.wp]

theorem broker_settles (h : Agreed s) (op : Op) : Settles s (.broker op) := by
  rw [Settles, act, Prog.wp_get_bind, Prog.wp_rejectIf_bind]
  refine ⟨fun _ => h, fun hadmitted => ?_⟩
  rw [Bool.not_eq_false'] at hadmitted
  rw [callBroker_wp]
  refine h.call (fun request hop => ?_) fun hrunning => ?_
  · subst hop
    exact hadmitted
  · have hsame := fun a ha => (h.spoken a ((outstanding_spoken s).subset ha)).1
    refine (h.one hrunning).call h.broker.good (fun a ha hop => ?_) fun a ha hop => ?_
    · subst hop
      exact of_decide_eq_true hadmitted (hsame a ha)
    · subst hop
      exact of_decide_eq_true hadmitted ⟨hrunning, hsame a ha⟩

theorem send_settles (h : Agreed s) (attach : AttachCorrelation)
    (endpoint : ReceivedStreamEndpoint) : Settles s (.send attach endpoint) := by
  rw [Settles, act, Prog.wp_get_bind, Prog.wp_rejectIf_bind]
  refine ⟨fun _ => h, fun hadmitted => ?_⟩
  rw [Bool.or_eq_false_iff, Bool.not_eq_false', decide_eq_false_iff_not, not_not] at hadmitted
  obtain ⟨hrunning, hsame⟩ := hadmitted
  have hcalled : Agreed { s with broker := (exec (.driverEndpointMoved attach) s.broker).2.1 } :=
    h.call (by rintro _ ⟨⟩) fun _ =>
      (h.one hrunning).call h.broker.good (by rintro _ _ ⟨⟩) (by rintro _ _ ⟨⟩)
  rw [Prog.wp_bind, callBroker_wp]
  cases hmoved : (exec (.driverEndpointMoved attach) s.broker).1 with
  | ok reply =>
      obtain ⟨hbefore, hafter⟩ := moved_eq_ok h.broker.good (a := attach) (by rw [hmoved]; rfl)
      have hnil : s.outstanding = [] := by
        rcases h.one hrunning with hnil | ⟨a, pair, -, hheld, hpair⟩
        · exact hnil
        · obtain ⟨-, rfl⟩ := Prod.mk.inj (Option.some.inj (hheld.symm.trans hbefore))
          cases hpair
      exact hcalled.sent hrunning hsame hnil hafter rfl
  | err e | panic => exact hcalled

theorem receive_settles (h : Agreed s) (reading : Reading) : Settles s (.receive reading) := by
  rw [Settles, act, Prog.wp_get_bind]
  cases hqueue : s.toDevmgr with
  | nil => exact h
  | cons r rest =>
      obtain ⟨origin, m⟩ := r
      have hrest := h.taken hqueue
      have horigin : Issued s.broker origin := (h.spoken origin (by simp [StreamSession.spoken, hqueue])).2
      have hidentity : m.identity = origin.controlIdentity :=
        h.replies (origin, m) (by rw [hqueue]; exact List.mem_cons_self ..)
      simp only
      rw [Prog.wp_modify_bind, callBroker_wp]
      refine hrest.call (by cases reading <;> rintro _ ⟨⟩) fun hrunning => ?_
      refine (hrest.one hrunning).call hrest.broker.good (fun a ha hop => ?_) fun a ha hop => ?_
      · -- The only attach that is left is the message's own, and it was the report that is taken.
        obtain ⟨hone, pair, hheld, -⟩ := (h.one hrunning).slot
          ((outstanding_rest hqueue).subset ha)
        obtain rfl : m = a.detachedMessage := by cases reading <;> cases hop; rfl
        obtain rfl := horigin.only a pair hheld (congrArg ControlIdentityV1_1.transactionId hidentity)
        have hlength := outstanding_report hqueue
        rw [hone, List.length_singleton] at hlength
        have hpositive := List.length_pos_of_mem ha
        omega
      · cases reading <;> cases hop

variable {rest : List (AttachCorrelation × ReceivedStreamEndpoint)}

theorem Agreed.delivers (h : Agreed s) {endpoint : ReceivedStreamEndpoint}
    (hqueue : s.toDriver = (a, endpoint) :: rest) :
    s.running = true ∧ s.attached = none ∧ rest = [] ∧ reported s.toDevmgr = [] ∧
      (StreamAttachment.attach a.attachMessage endpoint s.attachment =
        (.ok a.readyMessage, { s.attachment with active := some (activeOf a endpoint) }, []) ∨
      StreamAttachment.attach a.attachMessage endpoint s.attachment =
        (.err .wrongHandle, s.attachment, [])) := by
  have hrunning : s.running = true := by
    by_contra hended
    rw [(h.ended (Bool.not_eq_true _ ▸ hended)).2] at hqueue
    cases hqueue
  obtain ⟨hsame, hissued⟩ := h.spoken a (by simp [StreamSession.spoken, hqueue])
  obtain ⟨hone, -⟩ := (h.one hrunning).slot (a := a) (by simp [outstanding, hqueue])
  simp only [outstanding, hqueue, List.map_cons, List.cons_append, List.cons.injEq, true_and,
    List.append_eq_nil_iff, List.map_eq_nil_iff, Option.toList_eq_nil_iff] at hone
  obtain ⟨⟨hrest, hattached⟩, hreported⟩ := hone
  have hidle : s.attachment.active = none := by
    rcases h.active with ⟨-, hactive⟩ | ⟨_, _, hsome, -⟩
    · exact hactive
    · cases hattached.symm.trans hsome
  exact ⟨hrunning, hattached, hrest, hreported,
    attach_own hidle hsame hissued.transaction hissued.stream hissued.publication⟩

theorem Agreed.attaches (h : Agreed s) {endpoint : ReceivedStreamEndpoint}
    (hqueue : s.toDriver = (a, endpoint) :: rest) :
    Agreed { s with attachment := { s.attachment with active := some (activeOf a endpoint) },
                    attached := some a, toDriver := rest } := by
  obtain ⟨hrunning, hattached, rfl, hreported, -⟩ := h.delivers hqueue
  have houtstanding : s.outstanding = [a] := by
    rw [outstanding, hqueue, hattached, hreported]
    rfl
  refine { h with spoken := fun a' ha' => h.spoken a' ?_, active := .inr ⟨a, endpoint, rfl, rfl⟩,
                  one := fun _ => ?_, ended := fun hended => by cases hrunning.symm.trans hended }
  · simpa [StreamSession.spoken, hqueue, hattached] using ha'
  · have hone := h.one hrunning
    rw [houtstanding] at hone
    rw [outstanding, hreported]
    exact hone

theorem Agreed.refuses (h : Agreed s) {endpoint : ReceivedStreamEndpoint}
    (hqueue : s.toDriver = (a, endpoint) :: rest) : Agreed { s with toDriver := rest } := by
  obtain ⟨hrunning, hattached, rfl, hreported, -⟩ := h.delivers hqueue
  refine { h with spoken := fun a' ha' => h.spoken a' ?_, one := fun _ => .inl ?_,
                  ended := fun hended => by cases hrunning.symm.trans hended }
  · simp only [StreamSession.spoken, hattached, List.map_nil, Option.toList_none, List.nil_append] at ha'
    exact List.mem_append_right _ ha'
  · rw [outstanding, hattached, hreported]
    rfl

theorem Agreed.delivered (h : Agreed s) (answers : Bool) :
    (act (.deliver answers) s).1 ≠ .err (.attach .busy) ∧
      (act (.deliver answers) s).1 ≠ .err (.attach .wrongCorrelation) := by
  have hwp : Prog.wp (act (.deliver answers)) (fun o _ _ =>
      o ≠ .err (.attach .busy) ∧ o ≠ .err (.attach .wrongCorrelation)) s := by
    rw [act, Prog.wp_get_bind]
    cases hqueue : s.toDriver with
    | nil => constructor <;> rintro ⟨⟩
    | cons r rest =>
        obtain ⟨-, -, -, -, htaken⟩ := h.delivers hqueue
        simp only
        rw [Prog.wp_modify_bind, Prog.wp_bind, Prog.wp_attempt, callDriver, Prog.wp_within, Prog.wp]
        rcases htaken with hready | hrefused
        · simp only [hready]
          constructor <;> rintro ⟨⟩
        · simp only [hrefused]
          cases answers with
          | true | false => constructor <;> rintro ⟨⟩
  exact hwp

theorem deliver_settles (h : Agreed s) (answers : Bool) : Settles s (.deliver answers) := by
  rw [Settles, act, Prog.wp_get_bind]
  cases hqueue : s.toDriver with
  | nil => exact h
  | cons r rest =>
      obtain ⟨attach, endpoint⟩ := r
      obtain ⟨hsame, hissued⟩ := h.spoken attach (by simp [StreamSession.spoken, hqueue])
      obtain ⟨-, -, -, -, htaken⟩ := h.delivers hqueue
      simp only
      rw [Prog.wp_modify_bind, Prog.wp_bind, Prog.wp_attempt, callDriver, Prog.wp_within, Prog.wp]
      rcases htaken with hready | hrefused
      · simp only [hready]
        exact (h.attaches hqueue).answered hsame hissued rfl (by rintro ⟨⟩)
      · simp only [hrefused]
        cases answers with
        | true => exact (h.refuses hqueue).answered hsame hissued rfl (by rintro ⟨⟩)
        | false => exact h.refuses hqueue

theorem Agreed.received (h : Agreed s) {reading : Reading}
    (hok : (act (.receive reading) s).1.isOk = true) :
    ∃ origin message rest pair, s.toDevmgr = (origin, message) :: rest ∧
      held s.broker.slot = some (origin, pair) := by
  have hwp : Prog.wp (act (.receive reading)) (fun o _ _ => o.isOk = true →
      ∃ origin message rest pair, s.toDevmgr = (origin, message) :: rest ∧
        held s.broker.slot = some (origin, pair)) s := by
    rw [act, Prog.wp_get_bind]
    cases hqueue : s.toDevmgr with
    | nil => rintro ⟨⟩
    | cons r rest =>
        obtain ⟨origin, m⟩ := r
        simp only
        rw [Prog.wp_modify_bind, callBroker_wp]
        intro htaken
        rw [isOk_map, isOk_mapErr] at htaken
        obtain ⟨a, pair, hheld, hidentity⟩ := accepted_identity h.broker.good htaken
        have horigin : Issued s.broker origin :=
          (h.spoken origin (by simp [StreamSession.spoken, hqueue])).2
        have hsaid : m.identity = origin.controlIdentity :=
          h.replies (origin, m) (by rw [hqueue]; exact List.mem_cons_self ..)
        obtain rfl := horigin.only a pair hheld
          (congrArg ControlIdentityV1_1.transactionId (hidentity.symm.trans hsaid))
        exact ⟨a, m, rest, pair, rfl, hheld⟩
  exact hwp hok

theorem Agreed.detaches (h : Agreed s) (hattached : s.attached = some a) :
    Agreed { s with attachment := { s.attachment with active := none }, attached := none } ∧
      (s.running = true → outstanding { s with attached := none } = [] ∧
        Holds s.broker [a]) := by
  have hleft : s.running = true → outstanding { s with attached := none } = [] ∧
      Holds s.broker [a] := by
    intro hrunning
    obtain ⟨hone, -⟩ := (h.one hrunning).slot (a := a) (by simp [outstanding, hattached])
    have hlength := congrArg List.length hone
    refine ⟨List.eq_nil_of_length_eq_zero ?_, hone ▸ h.one hrunning⟩
    simp only [outstanding, hattached, List.length_append, Option.toList_some,
      Option.toList_none, List.length_singleton, List.length_nil] at hlength ⊢
    omega
  refine ⟨{ h with spoken := fun a' ha' => h.spoken a' ?_, active := .inl ⟨rfl, rfl⟩,
                   one := fun hrunning => .inl (hleft hrunning).1,
                   ended := fun hended => ⟨rfl, (h.ended hended).2⟩ }, hleft⟩
  simp only [StreamSession.spoken, Option.toList_none, List.append_nil, List.mem_append] at ha' ⊢
  exact ha'.imp_left .inl

theorem detach_settles (h : Agreed s) (reports : Bool) : Settles s (.detach reports) := by
  rw [Settles, act, Prog.wp_get_bind, Prog.wp_bind, callDriver, Prog.wp_within, Prog.wp]
  rcases h.active with ⟨hattached, hactive⟩ | ⟨a, endpoint, hattached, hactive⟩
  · obtain ⟨given, hrun⟩ := detach_run s.attachment
    have hidle : Agreed { s with attachment := { s.attachment with active := none } } :=
      { h with active := .inl ⟨hattached, rfl⟩ }
    rw [hattached] at hidle
    rw [hrun, hattached]
    exact hidle
  · obtain ⟨hsame, hissued⟩ := h.spoken a (by simp [StreamSession.spoken, hattached])
    obtain ⟨hdetached, hleft⟩ := h.detaches hattached
    rw [detach_own hactive hsame, hattached]
    cases reports with
    | true =>
        refine hdetached.said hsame hissued rfl fun hrunning => ?_
        obtain ⟨hnil, hone⟩ := hleft hrunning
        have hlast : Holds s.broker (outstanding { s with attached := none } ++ [a]) := by
          rw [hnil]
          exact hone
        rw [reported_own]
        exact hlast
    | false => exact hdetached

theorem exit_settles (h : Agreed s) : Settles s .exit := by
  rw [Settles, act, Prog.wp_bind_pure, StreamSession.exit, Prog.wp_bind, callDriver, Prog.wp_within,
    Prog.wp]
  obtain ⟨given, hrun⟩ := detach_run s.attachment
  rw [hrun]
  exact { h with
    spoken := fun a ha => h.spoken a (List.mem_append_right _ ha)
    active := .inl ⟨rfl, rfl⟩
    one := by rintro ⟨⟩
    ended := fun _ => ⟨rfl, rfl⟩ }

theorem act_settles (h : Agreed s) (op : SessionOp) : Agreed (act op s).2.1 := by
  cases op with
  | broker op => exact broker_settles h op
  | send attach endpoint => exact send_settles h attach endpoint
  | receive reading => exact receive_settles h reading
  | deliver answers => exact deliver_settles h answers
  | detach reports => exact detach_settles h reports
  | exit => exact exit_settles h

/-! ## Over a run -/

theorem fresh_agreed {current : Option PublishedDriver} {first first' : Nat}
    {fresh : ConnectorBroker} (hnew : ConnectorBroker.new current first first' = .ok fresh)
    (driver : ControlIdentityV1_1) : Agreed (.new fresh driver) := by
  have hfresh : Fresh fresh := ⟨current, first, first', hnew⟩
  obtain ⟨_, hnonzero, hmade⟩ := bind_eq_ok.mp hnew
  obtain rfl := Outcome.ok.inj hmade
  rw [rejectIf_eq_ok, Bool.or_eq_false_iff, decide_eq_false_iff_not, decide_eq_false_iff_not]
    at hnonzero
  exact
    { broker := ⟨hfresh.good, Nat.pos_of_ne_zero hnonzero.1, Nat.pos_of_ne_zero hnonzero.2,
        by rintro _ _ ⟨⟩⟩
      spoken := List.forall_mem_nil _
      replies := List.forall_mem_nil _
      active := .inl ⟨rfl, rfl⟩
      one := fun _ => .inl rfl
      ended := by rintro ⟨⟩ }

/-- Over every interleaving: the driver is never busy with one attach when the next
arrives, nor takes it for another driver's; where the slot is empty the driver holds no
stream, and none is on its way; and what the broker takes of the driver was said of the
attach in the slot. -/
theorem stream_agreement (current : Option PublishedDriver) (first first' : Nat)
    (driver : ControlIdentityV1_1) (fresh : ConnectorBroker) (s : StreamSession)
    (ops : List SessionOp) (h : List SessionCall)
    (hnew : ConnectorBroker.new current first first' = .ok fresh)
    (hrun : replay act ops (.new fresh driver) = (h, s)) :
    (∀ c ∈ h, ∀ answers, c.op = .deliver answers →
      c.outcome ≠ .err (.attach .busy) ∧ c.outcome ≠ .err (.attach .wrongCorrelation)) ∧
    (∀ c ∈ h, c.after.broker.slot = .empty →
      c.after.attachment.active = none ∧ c.after.toDriver = []) ∧
    ∀ c ∈ h, ∀ reading, c.op = .receive reading → c.outcome.isOk = true →
      ∃ origin message rest pair, c.before.toDevmgr = (origin, message) :: rest ∧
        held c.before.broker.slot = some (origin, pair) := by
  have hcalls : ∀ c ∈ h, Agreed c.before ∧ c = callOf act c.op c.before := by
    intro c hc
    refine replay_mem (I := Agreed) (fun op s hs => act_settles hs op) ops
      (fresh_agreed hnew driver) ?_
    rw [hrun]
    exact hc
  refine ⟨fun c hc answers hop => ?_, fun c hc hempty => ?_, fun c hc reading hop hok => ?_⟩
  · obtain ⟨hagreed, hcall⟩ := hcalls c hc
    rw [hcall, hop]
    exact hagreed.delivered answers
  · obtain ⟨hagreed, hcall⟩ := hcalls c hc
    rw [hcall] at hempty ⊢
    exact (act_settles hagreed c.op).idle hempty
  · obtain ⟨hagreed, hcall⟩ := hcalls c hc
    rw [hcall, hop] at hok
    exact hagreed.received hok

def rawStream : ReceivedStreamEndpoint := ⟨9, .channel, rawStreamRights, 0, [0, 0]⟩

/-- The broker gives an attach up, its STREAM_READY comes late, and the client is back as
soon as the driver has detached. -/
def reconnected : List SessionOp :=
  [.broker (.beginConnect (.connectStream 10 7)), .send pendingAttach rawStream,
   .broker (.pendingAttachTimedOut pendingAttach), .deliver true, .detach true,
   .receive .streamReady, .receive .streamDetached,
   .broker (.beginConnect (.connectStream 10 8)), .send ⟨publishedDriver, 8, 101, 201⟩ rawStream,
   .deliver true]

theorem reconnected_stream :
    (replay act reconnected (.new ⟨some publishedDriver, 100, 200, .empty⟩ control)).2.attached =
        some ⟨publishedDriver, 8, 101, 201⟩ ∧
      ∀ c ∈ (replay act reconnected (.new ⟨some publishedDriver, 100, 200, .empty⟩ control)).1,
        ∀ answers, c.op = .deliver answers →
          c.outcome ≠ .err (.attach .busy) ∧ c.outcome ≠ .err (.attach .wrongCorrelation) :=
  ⟨by decide +kernel, (stream_agreement (some publishedDriver) 100 200 control
    ⟨some publishedDriver, 100, 200, .empty⟩ _ reconnected _ rfl Prod.mk.eta.symm).1⟩

end Wyrmroot.Devmgr
