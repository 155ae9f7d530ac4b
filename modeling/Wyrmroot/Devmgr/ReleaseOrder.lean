import Wyrmroot.Devmgr.Ownership

/-!
# Release evidence commutes

Three things end an active attach: the client's endpoint is released, the
driver's is, and the publication is retired. Which function accepts each
depends on what came before; the slot after some of them depends only on
which (`stageSlot`), so every order is accepted and ends the same.
-/

namespace Wyrmroot.Devmgr

open Outcome ConnectorBroker

inductive Evidence where
  | clientRelease
  | driverRelease
  | retire
deriving DecidableEq

/-- The operations that bring the evidence for this attach. -/
def Evidence.ops (attach : AttachCorrelation) : Evidence → List Op
  | .clientRelease => [.activeClientReleased attach, .clientReleaseObserved attach]
  | .driverRelease => [.driverDetached attach.detachedMessage, .driverAttemptReaped attach.driver]
  | .retire => [.retireCurrent]

/-- The evidence is accepted: by the one function that the state admits for the
client, by either for the driver. -/
def Admits (attach : AttachCorrelation) (s : ConnectorBroker) : Evidence → Prop
  | .clientRelease => (exec (.activeClientReleased attach) s).1.isOk =
      !(exec (.clientReleaseObserved attach) s).1.isOk
  | .driverRelease => (exec (.driverDetached attach.detachedMessage) s).1.isOk = true ∧
      (exec (.driverAttemptReaped attach.driver) s).1.isOk = true
  | .retire => (exec .retireCurrent s).1.isOk = true

/-- The pieces of evidence are accepted in this order, and operations are
rejected in between. -/
inductive Accepted (attach : AttachCorrelation) : List Evidence → ConnectorBroker →
    ConnectorBroker → Prop
  | done (s : ConnectorBroker) : Accepted attach [] s s
  | rejected {evidence : List Evidence} {s s' : ConnectorBroker} {op : Op}
      {e : ConnectorModelError} : (exec op s).1 = .err e →
      Accepted attach evidence (exec op s).2.1 s' → Accepted attach evidence s s'
  | next {evidence : List Evidence} {s s' : ConnectorBroker} {piece : Evidence} {op : Op} :
      op ∈ piece.ops attach → (exec op s).1.isOk = true →
      Accepted attach evidence (exec op s).2.1 s' → Accepted attach (piece :: evidence) s s'

/-! ## Stages -/

/-- Which evidence has come. -/
structure Stage where
  client : Bool
  driver : Bool
  retired : Bool

namespace Stage

def slot (attach : AttachCorrelation) : Stage → ConnectorSlot
  | ⟨true, true, _⟩ => .empty
  | ⟨false, false, true⟩ => .retiringActive attach ⟨.client, .driver⟩
  | ⟨true, false, true⟩ => .retiringActive attach ⟨.released, .driver⟩
  | ⟨false, true, true⟩ => .retiringActive attach ⟨.client, .released⟩
  | ⟨false, false, false⟩ => .active attach ⟨.client, .driver⟩
  | ⟨true, false, false⟩ => .awaitingDriverRelease attach ⟨.released, .driver⟩
  | ⟨false, true, false⟩ => .awaitingClientRelease attach ⟨.client, .released⟩

/-- The evidence that has not come yet. -/
def missing (stage : Stage) : List Evidence :=
  (if stage.client then [] else [.clientRelease]) ++
    ((if stage.driver then [] else [.driverRelease]) ++ if stage.retired then [] else [.retire])

def after (stage : Stage) : Evidence → Stage
  | .clientRelease => { stage with client := true }
  | .driverRelease => { stage with driver := true }
  | .retire => { stage with retired := true }

theorem missing_after (stage : Stage) (piece : Evidence) :
    (stage.after piece).missing = stage.missing.erase piece := by
  obtain ⟨client, driver, retired⟩ := stage
  cases piece <;> cases client <;> cases driver <;> cases retired <;> rfl

end Stage

section Calls

variable {attach : AttachCorrelation} {current : Option PublishedDriver} {next next' : Nat}

theorem detached_stage (client retired : Bool) :
    exec (.driverDetached attach.detachedMessage)
        ⟨current, next, next', Stage.slot attach ⟨client, false, retired⟩⟩ =
      (.ok .unit, ⟨current, next, next', Stage.slot attach ⟨client, true, retired⟩⟩, []) := by
  cases client <;> cases retired <;>
    simp [exec, driverDetached, Stage.slot, Prog.bind_run, setSlot]

theorem reaped_stage (client retired : Bool)
    (hcurrent : current = none ∨ current = some attach.driver) :
    exec (.driverAttemptReaped attach.driver)
        ⟨current, next, next', Stage.slot attach ⟨client, false, retired⟩⟩ =
      (.ok (.optional none), ⟨none, next, next', Stage.slot attach ⟨client, true, retired⟩⟩, []) := by
  rcases hcurrent with rfl | rfl <;> cases client <;> cases retired <;>
    simp [exec, driverAttemptReaped, Stage.slot, slotDriver, Prog.bind_run, Prog.map_run, setSlot]

theorem retired_stage (client driver : Bool) :
    exec .retireCurrent ⟨current, next, next', Stage.slot attach ⟨client, driver, false⟩⟩ =
      (.ok (.optional none), ⟨none, next, next', Stage.slot attach ⟨client, driver, true⟩⟩, []) := by
  cases client <;> cases driver <;> rfl

theorem active_stage (driver retired : Bool) :
    exec (.activeClientReleased attach)
        ⟨current, next, next', Stage.slot attach ⟨false, driver, retired⟩⟩ =
      if driver || retired then
        (.err .stale, ⟨current, next, next', Stage.slot attach ⟨false, driver, retired⟩⟩, [])
      else (.ok .unit, ⟨current, next, next', Stage.slot attach ⟨true, driver, retired⟩⟩, []) := by
  cases driver <;> cases retired <;>
    simp [exec, activeClientReleased, Stage.slot, Prog.bind_run, setSlot]

theorem observed_stage (driver retired : Bool) :
    exec (.clientReleaseObserved attach)
        ⟨current, next, next', Stage.slot attach ⟨false, driver, retired⟩⟩ =
      if driver || retired then
        (.ok .unit, ⟨current, next, next', Stage.slot attach ⟨true, driver, retired⟩⟩, [])
      else (.err .stale, ⟨current, next, next', Stage.slot attach ⟨false, driver, retired⟩⟩, []) := by
  cases driver <;> cases retired <;>
    simp [exec, clientReleaseObserved, Stage.slot, Prog.bind_run, setSlot]

end Calls

/-! ## Every order -/

/-- The broker `s₁` that `s` has become at a stage. -/
structure AtStage (s : ConnectorBroker) (attach : AttachCorrelation) (s₁ : ConnectorBroker)
    (stage : Stage) : Prop where
  slot : s₁.slot = stage.slot attach
  next : s₁.nextAttachTransaction = s.nextAttachTransaction
  next' : s₁.nextStreamGeneration = s.nextStreamGeneration
  current : s₁.current = none ∨ s₁.current = some attach.driver
  retired : stage.retired = true → s₁.current = none

variable {s s₁ s₂ : ConnectorBroker} {attach : AttachCorrelation} {stage : Stage}

theorem AtStage.eq (h : AtStage s attach s₁ stage) :
    s₁ = ⟨s₁.current, s.nextAttachTransaction, s.nextStreamGeneration, stage.slot attach⟩ := by
  obtain ⟨current, next, next', slot⟩ := s₁
  obtain ⟨rfl, rfl, rfl, -, -⟩ := h
  rfl

theorem AtStage.next_stage (h : AtStage s attach s₁ stage) {piece : Evidence} {op : Op}
    (hmissing : piece ∈ stage.missing) (hop : op ∈ piece.ops attach)
    (hok : (exec op s₁).1.isOk = true) :
    AtStage s attach (exec op s₁).2.1 (stage.after piece) := by
  obtain ⟨client, driver, retired⟩ := stage
  have hcurrent := h.current
  have hretired := h.retired
  rw [h.eq] at hok ⊢
  cases piece with
  | clientRelease =>
      obtain rfl : client = false := by cases client <;> simp_all [Stage.missing]
      simp only [Evidence.ops, List.mem_cons, List.not_mem_nil, or_false] at hop
      rcases hop with rfl | rfl
      · rw [active_stage] at hok ⊢
        split_ifs at hok ⊢
        · cases hok
        · exact ⟨rfl, rfl, rfl, hcurrent, hretired⟩
      · rw [observed_stage] at hok ⊢
        split_ifs at hok ⊢
        · exact ⟨rfl, rfl, rfl, hcurrent, hretired⟩
        · cases hok
  | driverRelease =>
      obtain rfl : driver = false := by cases driver <;> simp_all [Stage.missing]
      simp only [Evidence.ops, List.mem_cons, List.not_mem_nil, or_false] at hop
      rcases hop with rfl | rfl
      · rw [detached_stage]
        exact ⟨rfl, rfl, rfl, hcurrent, hretired⟩
      · rw [reaped_stage _ _ hcurrent]
        exact ⟨rfl, rfl, rfl, .inl rfl, fun _ => rfl⟩
  | retire =>
      obtain rfl : retired = false := by cases retired <;> simp_all [Stage.missing]
      obtain rfl := List.mem_singleton.mp hop
      rw [retired_stage]
      exact ⟨rfl, rfl, rfl, .inl rfl, fun _ => rfl⟩

theorem AtStage.admits (h : AtStage s attach s₁ stage) {piece : Evidence}
    (hmissing : piece ∈ stage.missing) : Admits attach s₁ piece := by
  obtain ⟨client, driver, retired⟩ := stage
  have hcurrent := h.current
  rw [h.eq]
  cases piece with
  | clientRelease =>
      obtain rfl : client = false := by cases client <;> simp_all [Stage.missing]
      rw [Admits, active_stage, observed_stage]
      split_ifs <;> rfl
  | driverRelease =>
      obtain rfl : driver = false := by cases driver <;> simp_all [Stage.missing]
      rw [Admits, detached_stage, reaped_stage _ _ hcurrent]
      exact ⟨rfl, rfl⟩
  | retire =>
      obtain rfl : retired = false := by cases retired <;> simp_all [Stage.missing]
      rw [Admits, retired_stage]
      rfl

theorem Accepted.reaches {evidence : List Evidence} (hrun : Accepted attach evidence s₁ s₂) :
    ∀ {stage : Stage} {rest : List Evidence}, AtStage s attach s₁ stage → Good s₁ →
      (evidence ++ rest).Perm stage.missing →
        ∃ stage', AtStage s attach s₂ stage' ∧ rest.Perm stage'.missing := by
  induction hrun with
  | done s => exact fun hstage _ hperm => ⟨_, hstage, hperm⟩
  | @rejected _ s₁ _ op _ herr _ ih =>
      intro stage rest hstage hgood hperm
      rw [(exec_step hgood op).unchanged _ herr] at ih
      exact ih hstage hgood hperm
  | @next _ s₁ _ piece op hop hok _ ih =>
      intro stage rest hstage hgood hperm
      have hmissing : piece ∈ stage.missing := hperm.subset (List.mem_cons_self ..)
      refine ih (hstage.next_stage hmissing hop hok) (exec_step hgood op).good ?_
      rw [Stage.missing_after]
      exact (List.cons_perm_iff_perm_erase.mp hperm).2

/-- From an active attach, all evidence of its end is accepted, in every order
and with any rejected operations in between, and leads to one broker: the slot
is empty and nothing is published. -/
theorem release_evidence (current : Option PublishedDriver) (first first' : Nat)
    (fresh s : ConnectorBroker) (ops : List Op) (h : List BrokerCall)
    (attach : AttachCorrelation) (pair : PairOwnership)
    (hnew : ConnectorBroker.new current first first' = .ok fresh)
    (hrun : replay exec ops fresh = (h, s)) (hactive : s.slot = .active attach pair) :
    (∀ evidence s', evidence.Perm [.clientRelease, .driverRelease, .retire] →
      Accepted attach evidence s s' → s' = { s with current := none, slot := .empty }) ∧
    ∀ evidence piece rest s', (evidence ++ piece :: rest).Perm [.clientRelease, .driverRelease, .retire] →
      Accepted attach evidence s s' → Admits attach s' piece := by
  have hruns := broker_run ⟨current, first, first', hnew⟩ ops
  rw [hrun] at hruns
  obtain ⟨ledger, howned⟩ := BrokerRun.owned hruns
  have hgood := howned.good
  obtain rfl : pair = ⟨.client, .driver⟩ := by
    have hslot := hgood.slot
    rw [hactive] at hslot
    exact hslot
  have hstage : AtStage s attach s ⟨false, false, false⟩ :=
    ⟨hactive, rfl, rfl, hgood.current attach _ (by rw [hactive]; rfl), nofun⟩
  constructor
  · intro evidence s' hperm haccepted
    have hall : (evidence ++ []).Perm (Stage.missing ⟨false, false, false⟩) := by
      rw [List.append_nil]
      exact hperm
    obtain ⟨stage, hend, hnone⟩ := haccepted.reaches hstage hgood hall
    have hmissing : stage.missing = [] := hnone.symm.eq_nil
    have hall : stage = ⟨true, true, true⟩ := by
      obtain ⟨client, driver, retired⟩ := stage
      revert hmissing
      cases client <;> cases driver <;> cases retired <;> simp [Stage.missing]
    subst hall
    rw [hend.eq, hend.retired rfl]
    rfl
  · intro evidence piece rest s' hperm haccepted
    obtain ⟨stage, hmid, hrest⟩ := haccepted.reaches hstage hgood hperm
    exact hmid.admits (hrest.subset (List.mem_cons_self ..))

/-- An attach whose client is connected. -/
def connect : List Op :=
  [.beginConnect (.connectStream 10 7), .driverEndpointMoved pendingAttach,
   .acceptStreamReady pendingAttach.readyMessage, .clientEndpointMoved]

/-- Retired, reaped, and then released by the client, which tries the function
for an active attach first. -/
theorem connect_release : (replay exec [.retireCurrent, .driverAttemptReaped publishedDriver,
      .activeClientReleased pendingAttach, .clientReleaseObserved pendingAttach]
        ⟨some publishedDriver, 101, 201, .active pendingAttach ⟨.client, .driver⟩⟩).2 =
    ⟨none, 101, 201, .empty⟩ := by
  have hevidence := release_evidence (some publishedDriver) 100 200
    ⟨some publishedDriver, 100, 200, .empty⟩ _ connect _ pendingAttach _ rfl rfl rfl
  refine hevidence.1 [.retire, .driverRelease, .clientRelease] _ (by decide) ?_
  refine @Accepted.next _ _ _ _ .retire .retireCurrent (by decide) rfl ?_
  refine @Accepted.next _ _ _ _ .driverRelease (.driverAttemptReaped publishedDriver) (by decide) rfl ?_
  refine @Accepted.rejected _ _ _ _ (.activeClientReleased pendingAttach) .stale rfl ?_
  exact @Accepted.next _ _ _ _ .clientRelease (.clientReleaseObserved pendingAttach) (by decide) rfl
    (.done _)

end Wyrmroot.Devmgr
