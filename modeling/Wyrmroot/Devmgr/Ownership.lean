import Wyrmroot.Devmgr.Refinement

/-!
# Endpoint ownership over whole runs

Each call has one of the effects on the pair in the slot, each effect is
lawful custody, and a new attach takes numbers that were never used. So the
events of a whole run are accepted by `custody`, and its ledger holds every
attach: settled, except for the one in the slot.
-/

namespace Wyrmroot.Devmgr

open Outcome

/-- The events of a history. -/
def eventsIn (h : List BrokerCall) : List Event := h.flatMap fun c => eventsOf c.op c.outcome

/-- The attaches a history admitted, in order. -/
def admitted (h : List BrokerCall) : List AttachCorrelation := allocations (eventsIn h)

theorem eventsIn_snoc (h : List BrokerCall) (c : BrokerCall) :
    eventsIn (h ++ [c]) = eventsIn h ++ eventsOf c.op c.outcome := by
  simp [eventsIn]

theorem allocations_append (events events' : List Event) :
    allocations (events ++ events') = allocations events ++ allocations events' :=
  List.filterMap_append

/-- The ledger of a run. -/
structure Owned (h : List BrokerCall) (s : ConnectorBroker) (ledger : Ledger) : Prop where
  lawful : custody.run [] (eventsIn h) = some ledger
  tracks : Tracks ledger (held s.slot)
  attaches : ledger.map Entry.attach = admitted h
  ascending : (admitted h).Pairwise fun a b =>
    a.attachTransactionId < b.attachTransactionId ∧ a.streamGeneration < b.streamGeneration
  bounded : ∀ attach ∈ admitted h, attach.attachTransactionId < s.nextAttachTransaction ∧
    attach.streamGeneration < s.nextStreamGeneration
  good : Good s

variable {s : ConnectorBroker}

theorem Owned.start (h : Fresh s) : Owned [] s [] := by
  refine ⟨rfl, ⟨[], ?_, nofun⟩, rfl, .nil, nofun, h.good⟩
  rw [h.slot]
  rfl

variable {h : List BrokerCall}

theorem Owned.others {done : Ledger}
    (ih : Owned h s (done ++ entries (held s.slot))) {attach : AttachCorrelation}
    {pair : PairOwnership} (hheld : held s.slot = some (attach, pair)) :
    ∀ d ∈ done, d.attach.attachTransactionId ≠ attach.attachTransactionId := by
  intro d hd
  have hascending := ih.ascending
  rw [← ih.attaches, hheld, List.map_append, List.pairwise_append] at hascending
  exact Nat.ne_of_lt (hascending.2.2 d.attach (List.mem_map_of_mem hd) attach
    (List.mem_singleton_self attach)).1

theorem Owned.call {ledger : Ledger} (ih : Owned h s ledger) (op : Op) :
    ∃ ledger', Owned (h ++ [callOf exec op s]) (exec op s).2.1 ledger' := by
  obtain ⟨done, rfl, hdone⟩ := ih.tracks
  have hstep := exec_step ih.good op
  obtain ⟨ledger', hrun, htracks, hattaches⟩ :=
    hstep.effect.lawful hdone fun attach pair hheld => ih.others hheld
  have hadmitted : admitted (h ++ [callOf exec op s]) =
      admitted h ++ allocations (eventsOf op (exec op s).1) := by
    rw [admitted, eventsIn_snoc, allocations_append]
    rfl
  refine ⟨ledger', ?_, htracks, ?_, ?_, ?_, hstep.good⟩
  · rw [eventsIn_snoc, Monitor.run_append, ih.lawful]
    exact hrun
  · rw [hattaches, ih.attaches, hadmitted]
  · rw [hadmitted]
    rcases hstep.numbered with ⟨hnone, -, -⟩ | ⟨attach, hone, hid, hstream, -, -⟩
    · rw [hnone, List.append_nil]
      exact ih.ascending
    · rw [hone, List.pairwise_append]
      refine ⟨ih.ascending, List.pairwise_singleton _ _, fun a ha b hb => ?_⟩
      rw [List.mem_singleton.mp hb, hid, hstream]
      exact ih.bounded a ha
  · intro attach hmem
    rw [hadmitted] at hmem
    rcases hstep.numbered with ⟨hnone, hnext, hnext'⟩ | ⟨new, hone, hid, hstream, hnext, hnext'⟩
    · rw [hnone, List.append_nil] at hmem
      rw [hnext, hnext']
      exact ih.bounded attach hmem
    · rw [hone] at hmem
      rw [hnext, hnext']
      rcases List.mem_append.mp hmem with hmem | hmem
      · have hbound := ih.bounded attach hmem
        exact ⟨Nat.lt_succ_of_lt hbound.1, Nat.lt_succ_of_lt hbound.2⟩
      · rw [List.mem_singleton.mp hmem, hid, hstream]
        exact ⟨Nat.lt_succ_self _, Nat.lt_succ_self _⟩

abbrev BrokerRun : List BrokerCall → ConnectorBroker → Prop := Run exec Fresh

theorem BrokerRun.owned (hrun : BrokerRun h s) :
    ∃ ledger, Owned h s ledger := by
  induction hrun with
  | start hfresh => exact ⟨[], .start hfresh⟩
  | call op _ _ ih =>
      obtain ⟨ledger, ih⟩ := ih
      exact ih.call op

theorem broker_run (hfresh : Fresh s) (ops : List Op) :
    BrokerRun (replay exec ops s).1 (replay exec ops s).2 :=
  replay_run (fun _ h => h.good)
    (fun op _ h => ⟨(exec_step h op).total, (exec_step h op).good⟩) hfresh ops

/-! ## Ownership -/

/-- What `custody` asks before it lets devmgr close an endpoint. -/
theorem closed_held {ledger ledger' : Ledger} {side : Side} {attach : AttachCorrelation}
    (h : custodyStep ledger (.closed side attach) = some ledger') :
    (∃ e ∈ ledger, e.attach = attach) ∧
      ∀ e ∈ ledger, e.attach = attach → e.owner side = .devmgr := by
  have hchange : change ledger (·.attach = attach) side .devmgr (.release side) = some ledger' := h
  unfold change at hchange
  split_ifs at hchange with hlawful
  rw [Bool.and_eq_true, List.any_eq_true, List.all_eq_true] at hlawful
  obtain ⟨⟨e, he, hsame⟩, hall⟩ := hlawful
  refine ⟨⟨e, he, of_decide_eq_true hsame⟩, fun d hd hattach => ?_⟩
  have hheld := hall d hd
  simp only [hattach, decide_true, Bool.not_true, Bool.false_or] at hheld
  exact of_decide_eq_true hheld

theorem SlotOk.unreleased {slot : ConnectorSlot} (h : SlotOk slot) {attach : AttachCorrelation}
    {pair : PairOwnership} (hheld : held slot = some (attach, pair)) :
    pair ≠ ⟨.released, .released⟩ := by
  rintro rfl
  cases slot
  all_goals
    cases hheld
  all_goals
    revert h
    simp [SlotOk]

theorem settled_or_held {ledger : Ledger} (h : Tracks ledger (held s.slot)) :
    ∀ e ∈ ledger, Settled e ∨ ∃ attach pair, held s.slot = some (attach, pair) ∧
      e = entryOf attach pair := by
  obtain ⟨done, rfl, hdone⟩ := h
  intro e he
  rcases List.mem_append.mp he with he | he
  · exact .inl (hdone e he)
  · cases hheld : held s.slot with
    | none =>
        rw [hheld] at he
        cases he
    | some pair =>
        rw [hheld] at he
        exact .inr ⟨pair.1, pair.2, rfl, List.mem_singleton.mp he⟩

/-- Over every sequence of operations, the ledger that the returned actions and
the accepted observations give rise to is lawful and has every admitted
attach. An endpoint was released once or, while its attach is in the slot and
the slot says who owns it, not yet; the slot is empty only when both were
released. Devmgr closes only what it holds. -/
theorem endpoint_ownership (current : Option PublishedDriver) (first first' : Nat)
    (fresh s : ConnectorBroker) (ops : List Op) (h : List BrokerCall)
    (hnew : ConnectorBroker.new current first first' = .ok fresh)
    (hrun : replay exec ops fresh = (h, s)) :
    (∃ ledger, custody.run [] (eventsIn h) = some ledger ∧
      ledger.map Entry.attach = admitted h ∧
      (∀ e ∈ ledger, ∀ side, e.releases side = if e.owner side = .released then 1 else 0) ∧
      (∀ e ∈ ledger, Settled e ∨ ∃ pair, held s.slot = some (e.attach, pair) ∧
        e.owner = pair.at ∧ pair ≠ ⟨.released, .released⟩) ∧
      (s.slot = .empty → ∀ e ∈ ledger, Settled e)) ∧
    (∀ before after side attach, eventsIn h = before ++ .closed side attach :: after →
      ∃ ledger, custody.run [] before = some ledger ∧ (∃ e ∈ ledger, e.attach = attach) ∧
        ∀ e ∈ ledger, e.attach = attach → e.owner side = .devmgr) ∧
    (∀ attach pair, held s.slot = some (attach, pair) →
      s.current = none ∨ s.current = some attach.driver) ∧
    (admitted h).Pairwise (fun a b =>
      a.attachTransactionId < b.attachTransactionId ∧ a.streamGeneration < b.streamGeneration) ∧
    ∀ op e, (exec op s).1 = .err e → (exec op s).2.1 = s := by
  have hruns := broker_run ⟨current, first, first', hnew⟩ ops
  rw [hrun] at hruns
  obtain ⟨ledger, howned⟩ := BrokerRun.owned hruns
  have hentries := settled_or_held howned.tracks
  refine ⟨⟨ledger, howned.lawful, howned.attaches, fun e he side => ?_, fun e he => ?_,
    fun hempty e he => ?_⟩, fun before after side attach hevents => ?_, howned.good.current,
    howned.ascending, fun op e herr => (exec_step howned.good op).unchanged e herr⟩
  · rcases hentries e he with hsettled | ⟨attach, pair, -, rfl⟩
    · rw [(hsettled side).1, (hsettled side).2]
      rfl
    · rfl
  · rcases hentries e he with hsettled | ⟨attach, pair, hheld, rfl⟩
    · exact .inl hsettled
    · exact .inr ⟨pair, hheld, rfl, howned.good.slot.unreleased hheld⟩
  · rcases hentries e he with hsettled | ⟨attach, pair, hheld, -⟩
    · exact hsettled
    · rw [hempty] at hheld
      cases hheld
  · have hlawful := howned.lawful
    rw [hevents, Monitor.run_append, Option.bind_eq_some_iff] at hlawful
    obtain ⟨middle, hbefore, hrest⟩ := hlawful
    obtain ⟨next, hclosed, -⟩ := Option.bind_eq_some_iff.mp hrest
    exact ⟨middle, hbefore, closed_held hclosed⟩

def control : ControlIdentityV1_1 :=
  { roleId := 1, bundleGeneration := 2, attemptGeneration := 1, endpoint := ⟨4, 1⟩,
    transactionId := 5 }

def publishedDriver : PublishedDriver := ⟨10, control⟩

def pendingAttach : AttachCorrelation := ⟨publishedDriver, 7, 100, 200⟩

/-- An attach that times out, and its driver's release. -/
def timedOut : List Op :=
  [.beginConnect (.connectStream 10 7), .driverEndpointMoved pendingAttach,
   .pendingAttachTimedOut pendingAttach, .driverDetached pendingAttach.detachedMessage]

theorem timedOut_ownership : ∃ ledger : Ledger,
    ledger.map Entry.attach = [pendingAttach] ∧ ∀ e ∈ ledger, Settled e := by
  obtain ⟨⟨ledger, -, hattaches, -, -, hempty⟩, -⟩ :=
    endpoint_ownership (some publishedDriver) 100 200
      ⟨some publishedDriver, 100, 200, .empty⟩ _ timedOut _ rfl rfl
  exact ⟨ledger, hattaches, hempty rfl⟩

end Wyrmroot.Devmgr
