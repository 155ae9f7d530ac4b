import Mathlib.Data.List.Chain
import Wyrmroot.Lib.Along
import Wyrmroot.Devmgr.ReleaseOrder

/-!
# Publication generations

`replace_published_driver` compares the replacement with the driver that is
current. A retired or reaped driver is not, so behind either the comparison is
with nothing and an old generation is taken again (`retired_again`). What is
left is exact: the generations of a run ascend if and only if every
replacement offered to a broker without a driver is newer than the driver it
had last.
-/

namespace Wyrmroot.Devmgr

open Outcome ConnectorBroker

/-- The generation an accepted replacement brings. -/
def acceptedGeneration (c : BrokerCall) : Option Nat :=
  match c.op, c.outcome with
  | .replacePublishedDriver replacement, .ok _ => some replacement.publicationGeneration
  | _, _ => none

/-- The generations of the drivers a broker had, in order. -/
def generations (current : Option PublishedDriver) (h : List BrokerCall) : List Nat :=
  (current.map PublishedDriver.publicationGeneration).toList ++ h.filterMap acceptedGeneration

/-- A replacement that finds no driver is newer than the last one was. -/
def Renews (last : Option Nat) (c : BrokerCall) : Prop :=
  ∀ replacement, c.op = .replacePublishedDriver replacement → c.before.slot = .empty →
    c.before.current = none → replacement.publicationGeneration ≠ 0 →
      ∀ generation, last = some generation → generation < replacement.publicationGeneration

/-! ## The driver a call leaves -/

/-- The driver is kept or gone. -/
def KeptOrGone (s s' : ConnectorBroker) : Prop := s'.current = s.current ∨ s'.current = none

instance : Std.Refl KeptOrGone where
  refl _ := .inl rfl

instance : IsTrans ConnectorBroker KeptOrGone where
  trans _ _ _ := by
    rintro h (h' | h')
    · rcases h with h | h
      · exact .inl (h'.trans h)
      · exact .inr (h'.trans h)
    · exact .inr h'

abbrev Keeps {α : Type} (m : Broker α) : Prop := m.Along KeptOrGone

theorem setSlot_keeps (slot : ConnectorSlot) : Keeps (setSlot slot) := .modify fun _ => .inl rfl

theorem clear_keeps : Keeps (.modify ({ · with current := none })) := .modify fun _ => .inr rfl

theorem numbers_keep (transaction stream : Nat) :
    Keeps (.modify ({ · with nextAttachTransaction := transaction,
                             nextStreamGeneration := stream })) := .modify fun _ => .inl rfl

theorem beginConnect_keeps (request : ConnectorMessage) : Keeps (beginConnect request) := by
  refine .bind .get fun self => ?_
  cases request with
  | connectStream publicationGeneration clientTransactionId =>
      refine .check fun current => .check fun _ => .check fun _ => .check fun _ => .check fun _ => ?_
      exact (numbers_keep _ _).bind fun _ => (setSlot_keeps _).bind fun _ => .pure _
  | _ => exact .throw _

theorem driverEndpointMoved_keeps (observed : AttachCorrelation) :
    Keeps (driverEndpointMoved observed) := by
  refine .bind .get fun self => ?_
  cases self.slot with
  | preMove attach pair => exact .check fun _ => (setSlot_keeps _).bind fun _ => .pure _
  | _ => exact .throw _

theorem attachSendFailed_keeps (observed : AttachCorrelation) :
    Keeps (attachSendFailed observed) := by
  refine .bind .get fun self => ?_
  cases self.slot with
  | preMove attach pair => exact .check fun _ => (setSlot_keeps _).bind fun _ => .pure _
  | _ => exact .throw _

theorem acceptStreamReady_keeps (message : ControlMessageV1_1) :
    Keeps (acceptStreamReady message) := by
  refine .bind .get fun self => ?_
  cases self.slot with
  | postMovePending attach pair => exact .check fun _ => setSlot_keeps _
  | _ => exact .throw _

theorem abortPostMovePending_keeps (observed : AttachCorrelation) :
    Keeps (abortPostMovePending observed) := by
  refine .bind .get fun self => ?_
  cases self.slot with
  | postMovePending attach pair => exact .check fun _ => (setSlot_keeps _).bind fun _ => .pure _
  | _ => exact .throw _

theorem pendingAttachRejected_keeps (message : ControlMessageV1_1) :
    Keeps (pendingAttachRejected message) := by
  refine .bind .get fun self => ?_
  cases self.slot with
  | postMovePending attach pair =>
      cases message with
      | failure identity code => exact .check fun _ => abortPostMovePending_keeps attach
      | _ => exact .throw _
  | _ => exact .throw _

theorem clientEndpointMoved_keeps : Keeps clientEndpointMoved := by
  refine .bind .get fun self => ?_
  cases self.slot with
  | readyToConnect attach pair => exact (setSlot_keeps _).bind fun _ => .pure _
  | _ => exact .throw _

theorem connectedSendFailed_keeps : Keeps connectedSendFailed := by
  refine .bind .get fun self => ?_
  cases self.slot with
  | readyToConnect attach pair => exact (setSlot_keeps _).bind fun _ => .pure _
  | _ => exact .throw _

theorem activeClientReleased_keeps (observed : AttachCorrelation) :
    Keeps (activeClientReleased observed) := by
  refine .bind .get fun self => ?_
  cases self.slot with
  | active attach pair => exact .check fun _ => setSlot_keeps _
  | _ => exact .throw _

theorem driverDetached_keeps (message : ControlMessageV1_1) : Keeps (driverDetached message) := by
  refine .bind .get fun self => ?_
  cases self.slot with
  | active attach pair | awaitingDriverRelease attach pair | retiringActive attach pair =>
      simp only [pure_bind]
      refine .check fun _ => ?_
      split_ifs <;> exact setSlot_keeps _
  | _ => exact .throw_bind _ _

theorem clientReleaseObserved_keeps (observed : AttachCorrelation) :
    Keeps (clientReleaseObserved observed) := by
  refine .bind .get fun self => ?_
  cases self.slot with
  | awaitingClientRelease attach pair | retiringActive attach pair =>
      simp only [pure_bind]
      refine .check fun _ => ?_
      split_ifs <;> exact setSlot_keeps _
  | _ => exact .throw_bind _ _

theorem retireCurrent_keeps : Keeps retireCurrent := by
  refine clear_keeps.bind fun _ => .bind .get fun self => ?_
  cases self.slot with
  | empty | retiringActive attach pair => exact .pure _
  | _ => exact (setSlot_keeps _).bind fun _ => .pure _

theorem selectorFinalizeClientRelease_keeps (observedDriver : PublishedDriver)
    (observedStreamGeneration : Nat) :
    Keeps (selectorFinalizeClientRelease observedDriver observedStreamGeneration) := by
  refine .bind .get fun self => ?_
  cases self.slot with
  | active attach pair =>
      exact .check fun _ => retireCurrent_keeps.bind fun _ =>
        (clientReleaseObserved_keeps attach).bind fun _ => .pure _
  | _ => exact .throw _

theorem driverAttemptReaped_keeps (observed : PublishedDriver) :
    Keeps (driverAttemptReaped observed) := by
  refine .bind .get fun self => .check fun _ => ?_
  simp only
  cases self.slot with
  | empty =>
      split_ifs
      · exact clear_keeps.bind fun _ => .pure _
      · exact .pure _
  | _ =>
      split_ifs
      · exact clear_keeps.bind fun _ => (setSlot_keeps _).bind fun _ => .pure _
      · exact (setSlot_keeps _).bind fun _ => .pure _

theorem exec_current {op : Op} (hop : ∀ replacement, op ≠ .replacePublishedDriver replacement) :
    Keeps (exec op) := by
  cases op with
  | replacePublishedDriver replacement => exact absurd rfl (hop replacement)
  | beginConnect request => exact (beginConnect_keeps request).map _
  | driverEndpointMoved observed => exact (driverEndpointMoved_keeps observed).map _
  | attachSendFailed observed => exact (attachSendFailed_keeps observed).map _
  | acceptStreamReady message => exact (acceptStreamReady_keeps message).bind fun _ => .pure _
  | pendingAttachTimedOut observed => exact (abortPostMovePending_keeps observed).map _
  | pendingAttachRejected message => exact (pendingAttachRejected_keeps message).map _
  | clientEndpointMoved => exact clientEndpointMoved_keeps.map _
  | connectedSendFailed => exact connectedSendFailed_keeps.map _
  | activeClientReleased observed =>
      exact (activeClientReleased_keeps observed).bind fun _ => .pure _
  | driverDetached message => exact (driverDetached_keeps message).bind fun _ => .pure _
  | clientReleaseObserved observed =>
      exact (clientReleaseObserved_keeps observed).bind fun _ => .pure _
  | selectorFinalizeClientRelease observedDriver observedStreamGeneration =>
      exact (selectorFinalizeClientRelease_keeps observedDriver observedStreamGeneration).map _
  | driverAttemptReaped observed => exact (driverAttemptReaped_keeps observed).map _
  | retireCurrent => exact retireCurrent_keeps.map _

theorem exec_replace (s : ConnectorBroker) (replacement : PublishedDriver) :
    ((s.slot = .empty ∧ (∀ driver, s.current = some driver →
        driver.publicationGeneration < replacement.publicationGeneration) ∧
        replacement.publicationGeneration ≠ 0) ∧
      exec (.replacePublishedDriver replacement) s =
        (.ok .unit, { s with current := some replacement }, [])) ∨
    (¬ (s.slot = .empty ∧ (∀ driver, s.current = some driver →
        driver.publicationGeneration < replacement.publicationGeneration) ∧
        replacement.publicationGeneration ≠ 0) ∧
      exec (.replacePublishedDriver replacement) s = (.err .stale, s, [])) := by
  have hcond : (decide (s.slot ≠ .empty) || (s.current.any fun current =>
        replacement.publicationGeneration ≤ current.publicationGeneration)
      || decide (replacement.publicationGeneration = 0)) = false ↔
      s.slot = .empty ∧ (∀ driver, s.current = some driver →
        driver.publicationGeneration < replacement.publicationGeneration) ∧
        replacement.publicationGeneration ≠ 0 := by
    cases s.current <;> simp [and_assoc]
  rw [← hcond, exec, replacePublishedDriver, bind_assoc, Prog.get_bind_run]
  cases hrefused : (decide (s.slot ≠ .empty) || (s.current.any fun current =>
      replacement.publicationGeneration ≤ current.publicationGeneration)
    || decide (replacement.publicationGeneration = 0)) with
  | true => exact .inr ⟨Bool.noConfusion, rfl⟩
  | false => exact .inl ⟨rfl, rfl⟩

theorem beginConnect_eq_ok {s : ConnectorBroker} {request : ConnectorMessage} {reply : Reply}
    (h : (exec (.beginConnect request) s).1 = .ok reply) :
    ∃ driver clientTransactionId,
      request = .connectStream driver.publicationGeneration clientTransactionId ∧
      clientTransactionId ≠ 0 ∧ s.current = some driver ∧ s.slot = .empty ∧
      s.nextAttachTransaction + 1 < 2 ^ 64 ∧ s.nextStreamGeneration + 1 < 2 ^ 64 ∧
      let attach : AttachCorrelation :=
        ⟨driver, clientTransactionId, s.nextAttachTransaction, s.nextStreamGeneration⟩
      reply = .action (.allocatePair attach attach.attachMessage) ∧
      (exec (.beginConnect request) s).2.1 =
        { s with nextAttachTransaction := s.nextAttachTransaction + 1,
                 nextStreamGeneration := s.nextStreamGeneration + 1,
                 slot := .preMove attach ⟨.devmgr, .devmgr⟩ } := by
  rcases hrun : ConnectorBroker.beginConnect request s with ⟨o, s', w⟩
  rw [exec, Prog.map_run, hrun] at h ⊢
  obtain ⟨action, rfl, rfl⟩ : ∃ action, o = .ok action ∧ reply = .action action := by
    cases o with
    | ok action => exact ⟨action, rfl, (Outcome.ok.inj h).symm⟩
    | _ => cases h
  rw [ConnectorBroker.beginConnect, Prog.get_bind_run] at hrun
  cases request with
  | connectStream publicationGeneration clientTransactionId =>
      obtain ⟨driver, hdriver, hrest⟩ := Prog.lift_bind_eq_ok hrun
      obtain ⟨_, hfresh, hrest⟩ := Prog.lift_bind_eq_ok hrest
      obtain ⟨_, hempty, hrest⟩ := Prog.lift_bind_eq_ok hrest
      obtain ⟨nextAttach, hattach, hrest⟩ := Prog.lift_bind_eq_ok hrest
      obtain ⟨nextStream, hstream, hrest⟩ := Prog.lift_bind_eq_ok hrest
      cases hrest
      rw [rejectIf_eq_ok, Bool.or_eq_false_iff, decide_eq_false_iff_not, not_not,
        decide_eq_false_iff_not] at hfresh
      rw [rejectIf_eq_ok, decide_eq_false_iff_not, not_not] at hempty
      obtain ⟨hattachRoom, rfl⟩ := Loader.checkedAdd_eq_some.mp (okOr_eq_ok.mp hattach)
      obtain ⟨hstreamRoom, rfl⟩ := Loader.checkedAdd_eq_some.mp (okOr_eq_ok.mp hstream)
      obtain ⟨rfl, hclient⟩ := hfresh
      exact ⟨driver, clientTransactionId, rfl, hclient, okOr_eq_ok.mp hdriver, hempty, hattachRoom,
        hstreamRoom, rfl, rfl⟩
  | _ => cases hrun

theorem beginConnect_current {s : ConnectorBroker} {publicationGeneration transaction : Nat}
    (h : (exec (.beginConnect (.connectStream publicationGeneration transaction)) s).1.isOk = true) :
    ∃ driver, s.current = some driver ∧ driver.publicationGeneration = publicationGeneration := by
  obtain ⟨reply, hreply⟩ := exists_of_isOk h
  obtain ⟨driver, _, hrequest, -, hcurrent, -⟩ := beginConnect_eq_ok hreply
  obtain ⟨hgeneration, -⟩ := ConnectorMessage.connectStream.inj hrequest
  exact ⟨driver, hcurrent, hgeneration.symm⟩

/-! ## Over a run -/

variable {current : Option PublishedDriver} {h : List BrokerCall} {s : ConnectorBroker}

theorem generations_snoc (current : Option PublishedDriver) (h : List BrokerCall) (c : BrokerCall) :
    generations current (h ++ [c]) = generations current h ++ (acceptedGeneration c).toList := by
  cases hc : acceptedGeneration c <;> simp [generations, hc]

/-- The driver a broker has is the last it had. -/
structure Installed (current : Option PublishedDriver) (h : List BrokerCall) (s : ConnectorBroker) :
    Prop where
  last : ∀ driver, s.current = some driver →
    (generations current h).getLast? = some driver.publicationGeneration
  known : ∀ c ∈ h, ∀ driver, c.before.current = some driver →
    driver.publicationGeneration ∈ generations current h

theorem Installed.call (ih : Installed current h s) (op : Op) :
    Installed current (h ++ [callOf exec op s]) (exec op s).2.1 := by
  have hknown : ∀ c ∈ h ++ [callOf exec op s], ∀ driver, c.before.current = some driver →
      driver.publicationGeneration ∈ generations current (h ++ [callOf exec op s]) := by
    intro c hc driver hdriver
    rw [generations_snoc]
    refine List.mem_append_left _ ?_
    rcases List.mem_append.mp hc with hc | hc
    · exact ih.known c hc driver hdriver
    · rw [List.mem_singleton.mp hc] at hdriver
      exact List.mem_of_getLast? (ih.last driver hdriver)
  refine ⟨fun driver hdriver => ?_, hknown⟩
  by_cases hop : ∃ replacement, op = .replacePublishedDriver replacement
  · obtain ⟨replacement, rfl⟩ := hop
    rcases exec_replace s replacement with ⟨-, hrun⟩ | ⟨-, hrun⟩
    · rw [hrun] at hdriver
      obtain rfl := Option.some.inj hdriver
      simp [generations_snoc, acceptedGeneration, callOf, hrun]
    · rw [hrun] at hdriver
      simpa [generations_snoc, acceptedGeneration, callOf, hrun] using ih.last driver hdriver
  · rw [not_exists] at hop
    have hnone : acceptedGeneration (callOf exec op s) = none := by
      cases op with
      | replacePublishedDriver replacement => exact absurd rfl (hop replacement)
      | _ => rfl
    rw [generations_snoc, hnone, Option.toList_none, List.append_nil]
    rcases exec_current hop s with hkept | hgone
    · exact ih.last driver (hkept ▸ hdriver)
    · cases hgone.symm.trans hdriver

theorem pairwise_snoc {l : List Nat} {n : Nat} :
    (l ++ [n]).Pairwise (· < ·) ↔ l.Pairwise (· < ·) ∧ ∀ m, l.getLast? = some m → m < n := by
  rw [← List.isChain_iff_pairwise, ← List.isChain_iff_pairwise, List.isChain_append]
  simp

theorem Installed.renews (ih : Installed current h s) (op : Op) :
    (generations current (h ++ [callOf exec op s])).Pairwise (· < ·) ↔
      (generations current h).Pairwise (· < ·) ∧
        Renews (generations current h).getLast? (callOf exec op s) := by
  by_cases hop : ∃ replacement, op = .replacePublishedDriver replacement
  · obtain ⟨replacement, rfl⟩ := hop
    rcases exec_replace s replacement with ⟨⟨hslot, hnewer, hzero⟩, hrun⟩ | ⟨hrefused, hrun⟩
    · have haccepted : acceptedGeneration (callOf exec (.replacePublishedDriver replacement) s) =
          some replacement.publicationGeneration := by
        simp [acceptedGeneration, callOf, hrun]
      rw [generations_snoc, haccepted, Option.toList_some, pairwise_snoc]
      refine and_congr_right fun _ => ⟨fun hlast => ?_, fun hrenews last hlast => ?_⟩
      · rintro _ ⟨⟩ - - - last hsome
        exact hlast last hsome
      · cases hcurrent : s.current with
        | none => exact hrenews replacement rfl hslot hcurrent hzero last hlast
        | some driver =>
            obtain rfl := Option.some.inj ((ih.last driver hcurrent).symm.trans hlast)
            exact hnewer driver hcurrent
    · have hrejected : acceptedGeneration (callOf exec (.replacePublishedDriver replacement) s) =
          none := by
        simp [acceptedGeneration, callOf, hrun]
      rw [generations_snoc, hrejected, Option.toList_none, List.append_nil]
      refine ⟨fun hpairwise => ⟨hpairwise, ?_⟩, And.left⟩
      rintro _ ⟨⟩ hslot hnone hzero
      refine absurd ⟨hslot, fun driver hdriver => ?_, hzero⟩ hrefused
      cases hnone.symm.trans hdriver
  · rw [not_exists] at hop
    have hnone : acceptedGeneration (callOf exec op s) = none := by
      cases op with
      | replacePublishedDriver replacement => exact absurd rfl (hop replacement)
      | _ => rfl
    rw [generations_snoc, hnone, Option.toList_none, List.append_nil]
    exact ⟨fun hpairwise => ⟨hpairwise, fun replacement hsame => absurd hsame (hop replacement)⟩,
      And.left⟩

theorem BrokerRun.installed {fresh : ConnectorBroker}
    (hrun : Run exec (· = fresh) h s) : Installed fresh.current h s := by
  induction hrun with
  | start hfresh =>
      subst hfresh
      refine ⟨fun driver hdriver => ?_, fun c hc => absurd hc List.not_mem_nil⟩
      simp [generations, hdriver]
  | call op _ _ ih => exact ih.call op

theorem BrokerRun.ascends_iff {fresh : ConnectorBroker} (hrun : Run exec (· = fresh) h s) :
    (∀ before c after, h = before ++ c :: after →
      Renews (generations fresh.current before).getLast? c) ↔
        (generations fresh.current h).Pairwise (· < ·) := by
  induction hrun with
  | start hfresh =>
      refine ⟨fun _ => ?_, fun _ before c after hsplit => by simp at hsplit⟩
      cases fresh.current <;> simp [generations]
  | @call h s op hrun hp ih =>
      rw [(BrokerRun.installed hrun).renews op, ← ih]
      constructor
      · intro hall
        exact ⟨fun before c after hsplit =>
          hall before c (after ++ [callOf exec op s]) (by simp [hsplit]), hall h _ [] rfl⟩
      · rintro ⟨hall, hlast⟩ before c after hsplit
        rcases snoc_eq_append_cons hsplit with ⟨rfl, rfl, -⟩ | ⟨rest, -, hbefore⟩
        · exact hlast
        · exact hall before c rest hbefore

theorem BrokerRun.newer {fresh : ConnectorBroker} (hrun : Run exec (· = fresh) h s)
    (hascending : (generations fresh.current h).Pairwise (· < ·)) :
    ∀ c ∈ h, ∀ driver, c.before.current = some driver → c.after.current = none →
      ∀ later, s.current = some later →
        driver.publicationGeneration < later.publicationGeneration := by
  induction hrun with
  | start _ => exact fun c hc => absurd hc List.not_mem_nil
  | @call h s op hrun hp ih =>
      have hinstalled := BrokerRun.installed hrun
      intro c hmem driver hdriver hgone later hlater
      rcases List.mem_append.mp hmem with hc | hc
      · by_cases hop : ∃ replacement, op = .replacePublishedDriver replacement
        · obtain ⟨replacement, rfl⟩ := hop
          have hbefore := (hinstalled.renews _).mp hascending
          rcases exec_replace s replacement with ⟨-, hexec⟩ | ⟨-, hexec⟩
          · rw [hexec] at hlater
            obtain rfl := Option.some.inj hlater
            rw [generations_snoc, show acceptedGeneration
                (callOf exec (.replacePublishedDriver replacement) s) =
                  some replacement.publicationGeneration by
                simp [acceptedGeneration, callOf, hexec], List.pairwise_append] at hascending
            exact hascending.2.2 _ (hinstalled.known c hc driver hdriver) _
              (List.mem_singleton_self _)
          · rw [hexec] at hlater
            exact ih hbefore.1 c hc driver hdriver hgone later hlater
        · rw [not_exists] at hop
          have hbefore := (hinstalled.renews op).mp hascending
          rcases exec_current hop s with hkept | hnone
          · exact ih hbefore.1 c hc driver hdriver hgone later (hkept ▸ hlater)
          · cases hnone.symm.trans hlater
      · rw [List.mem_singleton.mp hc] at hgone
        cases hgone.symm.trans hlater

/-- The generations of a run ascend if and only if its replacements renew, and
then a driver that was retired or reaped is never connected to again. -/
theorem retired_publications (current : Option PublishedDriver) (first first' : Nat)
    (fresh s : ConnectorBroker) (ops : List Op) (h : List BrokerCall)
    (hnew : ConnectorBroker.new current first first' = .ok fresh)
    (hrun : replay exec ops fresh = (h, s)) :
    ((∀ before c after, h = before ++ c :: after →
        Renews (generations current before).getLast? c) ↔
      (generations current h).Pairwise (· < ·)) ∧
    ((∀ before c after, h = before ++ c :: after →
        Renews (generations current before).getLast? c) →
      ∀ c ∈ h, ∀ driver, c.before.current = some driver → c.after.current = none →
        ∀ transaction, (exec (.beginConnect (.connectStream driver.publicationGeneration
          transaction)) s).1.isOk = false) := by
  obtain ⟨_, -, hfresh⟩ := bind_eq_ok.mp hnew
  obtain rfl := Outcome.ok.inj hfresh
  have hruns : Run exec (· = _) (replay exec ops _).1 (replay exec ops _).2 :=
    replay_run (fun s (hs : s = _) => (Fresh.good ⟨current, first, first', hs ▸ hnew⟩))
      (fun op _ h => ⟨(exec_step h op).total, (exec_step h op).good⟩) rfl ops
  rw [hrun] at hruns
  have hiff := BrokerRun.ascends_iff hruns
  refine ⟨hiff, fun hrenews c hc driver hdriver hgone transaction => ?_⟩
  by_contra hadmitted
  rw [Bool.not_eq_false] at hadmitted
  obtain ⟨later, hlater, hsame⟩ := beginConnect_current hadmitted
  have hnewer := BrokerRun.newer hruns (hiff.mp hrenews) c hc driver hdriver hgone later hlater
  exact absurd hsame (Nat.ne_of_gt hnewer)

/-- The published driver is retired and published again as it was. -/
def republished : List Op := [.retireCurrent, .replacePublishedDriver publishedDriver]

theorem retired_again : ¬ ∀ (current : Option PublishedDriver) (first first' : Nat)
    (fresh s : ConnectorBroker) (ops : List Op) (h : List BrokerCall),
    ConnectorBroker.new current first first' = .ok fresh → replay exec ops fresh = (h, s) →
      (generations current h).Pairwise (· < ·) ∧
      ∀ c ∈ h, ∀ driver, c.before.current = some driver → c.after.current = none →
        ∀ transaction, (exec (.beginConnect (.connectStream driver.publicationGeneration
          transaction)) s).1.isOk = false := by
  intro hall
  have hrun := hall (some publishedDriver) 100 200 ⟨some publishedDriver, 100, 200, .empty⟩ _
    republished _ rfl rfl
  have hadmitted := hrun.2 _ (List.mem_cons_self ..) publishedDriver rfl rfl 7
  cases hadmitted

/-- A newer driver is published behind the retired one. -/
theorem renewed_publications : (exec (.beginConnect (.connectStream 10 7))
    ⟨some ⟨11, control⟩, 100, 200, .empty⟩).1.isOk = false := by
  refine (retired_publications (some publishedDriver) 100 200
    ⟨some publishedDriver, 100, 200, .empty⟩ _
    [.retireCurrent, .replacePublishedDriver ⟨11, control⟩] _ rfl rfl).2 ?_ _
    (List.mem_cons_self ..) publishedDriver rfl rfl 7
  intro before c after hsplit
  rcases before with _ | ⟨first, _ | ⟨second, before⟩⟩
  · obtain ⟨rfl, -⟩ := List.cons.inj hsplit
    exact nofun
  · obtain ⟨rfl, hrest⟩ := List.cons.inj hsplit
    obtain ⟨rfl, -⟩ := List.cons.inj hrest
    rintro _ ⟨⟩ - - - last hlast
    obtain rfl : 10 = last := Option.some.inj hlast
    decide
  · have hlength := congrArg List.length hsplit
    simp [replay] at hlength

end Wyrmroot.Devmgr
