import Wyrmroot.Devmgr.ControllerBroker

/-!
# The transactions on a driver's control channel

The broker counts on from the pair it was made with, and the controller from
behind that pair. For the driver the broker was made for that is enough. A
replacement is launched under the very numbers the broker has yet to use
(`reused_transaction`), and whether they meet depends on how many attaches came
before: `Meets` is what the counters say about it when a client connects.
-/

namespace Wyrmroot.Devmgr

open Outcome

abbrev Launched := DriverLaunchRequest × D3StageCorrelations

/-- The launch a call made, with the numbers of its stages. -/
def launched (c : NativeCall) : Option Launched :=
  match c.outcome with
  | .ok (.launched request correlations) => some (request, correlations)
  | _ => none

/-- The attach a call issued. -/
def issued (c : NativeCall) : Option AttachCorrelation :=
  match c.op, c.outcome with
  | .broker (.beginConnect _) _, .ok (.broker (.action (.allocatePair attach _))) => some attach
  | _, _ => none

def launches (h : List NativeCall) : List Launched := h.filterMap launched

def attaches (h : List NativeCall) : List AttachCorrelation := h.filterMap issued

/-- The attaches to the driver of one attempt. -/
def attachesOf (attempt : Nat) (h : List NativeCall) : List AttachCorrelation :=
  (attaches h).filter fun attach => attach.driver.control.attemptGeneration = attempt

def stageTransactions (launch : Launched) : List Nat :=
  [launch.1.transactionId, launch.2.deviceTransactionId, launch.2.interruptTransactionId,
    launch.2.readyTransactionId]

/-- The next attach would take one of the four transactions of its driver's launch, or
the stream generation that is the stage generation of that launch. -/
def Meets (broker : ConnectorBroker) (driver : PublishedDriver) : Prop :=
  (driver.control.transactionId ≤ broker.nextAttachTransaction ∧
      broker.nextAttachTransaction ≤ driver.control.transactionId + 3) ∨
    (broker.nextAttachTransaction ≤ driver.control.transactionId ∧
      broker.nextStreamGeneration = driver.control.attemptGeneration + 1)

/-- A client connects while they meet. -/
inductive Reuses (s : NativeDevmgr) : NativeOp → Prop
  | connect {broker : ConnectorBroker} {driver : PublishedDriver} {clientTransactionId : Nat}
      {hop : (Op.beginConnect
        (.connectStream driver.publicationGeneration clientTransactionId)).replaces = false} :
      s.connectorBroker = some broker → broker.current = some driver → clientTransactionId ≠ 0 →
      broker.slot = .empty → broker.nextAttachTransaction + 1 < 2 ^ 64 →
      broker.nextStreamGeneration + 1 < 2 ^ 64 → Meets broker driver →
      Reuses s (.broker (.beginConnect
        (.connectStream driver.publicationGeneration clientTransactionId)) hop)

/-! ## The controller -/

variable {r r' : ResidentController} {op : ResidentOp} {o : Outcome DevmgrError ResidentReply}

/-- What an operation keeps that reserves nothing. -/
structure Unreserved (r r' : ResidentController) : Prop where
  attempt : r'.nextDriverAttempt = r.nextDriverAttempt
  transaction : r'.nextDriverTransaction = r.nextDriverTransaction
  stage : r'.nextDriverStageGeneration = r.nextDriverStageGeneration
  active : ∀ launch', r'.activeDriver = some launch' →
    ∃ launch, r.activeDriver = some launch ∧ launch'.request = launch.request

theorem Advances.unreserved (hadvances : Advances r op o r') (hop : op.reserves = false) :
    Unreserved r r' := by
  cases hadvances with
  | halfLaunched hissuable | issued hissuable =>
      rcases hissuable.1 with rfl | ⟨rfl, -⟩ <;> cases hop
  | halfReserved | staged | connected => cases hop
  | constructed hdriver | controlReady hdriver | transferred _ _ hdriver | ready _ _ hdriver =>
      refine ⟨rfl, rfl, rfl, ?_⟩
      rintro _ ⟨⟩
      exact ⟨_, hdriver, rfl⟩
  | reaped => exact ⟨rfl, rfl, rfl, nofun⟩
  | _ => exact ⟨rfl, rfl, rfl, fun launch hdriver => ⟨launch, hdriver, rfl⟩⟩

variable {w : List Empty} {α : Type} {a : α} {m : Resident α}

theorem advances_of_run {f : α → ResidentReply}
    (abi : DeviceResourceAbi) (op : ResidentOp) (hserve : serve abi op = f <$> m)
    (hlive : Live r) (hrun : m r = (.ok a, r', w)) : Advances r op (.ok (f a)) r' := by
  have hadvances := serve_advances abi hlive op
  rw [hserve, Prog.map_run, hrun] at hadvances
  exact hadvances

theorem onResident_eq_ok {err : DevmgrError → Failure}
    {s s' : NativeDevmgr} (hrun : onResident err m s = (.ok a, s', w)) :
    ∃ r', m s.resident = (.ok a, r', w) ∧ s' = { s with resident := r' } :=
  Prog.within_run_eq_ok hrun

/-- What a staged launch takes. -/
structure Staged (r : ResidentController) (launch : Launched) (r' : ResidentController) : Prop where
  sound : Sound r'
  attempt : launch.1.attemptGeneration = r.nextDriverAttempt
  transaction : launch.1.transactionId = r.nextDriverTransaction
  stages : launch.2 = ⟨r.nextDriverStageGeneration, r.nextDriverTransaction + 1,
    r.nextDriverTransaction + 2, r.nextDriverTransaction + 3⟩
  nextAttempt : r'.nextDriverAttempt = r.nextDriverAttempt + 1
  nextTransaction : r'.nextDriverTransaction = r.nextDriverTransaction + 4
  nextStage : r'.nextDriverStageGeneration = r.nextDriverStageGeneration + 1
  active : ∀ held, r'.activeDriver = some held → held.request = launch.1

theorem launchDriverStaged_staged {s s' : NativeDevmgr} {launch : Launched}
    (abi : DeviceResourceAbi) (hsound : Sound s.resident)
    (hrun : launchDriverStaged s = (.ok launch, s', w)) :
    ∃ r', s' = { s with resident := r' } ∧ Staged s.resident launch r' := by
  obtain ⟨request, _, _, _, hfirst, hrest, -⟩ := Prog.bind_run_eq_ok hrun
  obtain ⟨r₁, hissue, rfl⟩ := onResident_eq_ok hfirst
  obtain ⟨_, _, _, _, hsecond, hrest, -⟩ := Prog.bind_run_eq_ok hrest
  obtain ⟨r₂, hconstruct, rfl⟩ := onResident_eq_ok hsecond
  obtain ⟨stages, _, _, _, hthird, hrest, -⟩ := Prog.bind_run_eq_ok hrest
  obtain ⟨r₃, hstage, rfl⟩ := onResident_eq_ok hthird
  cases hrest
  have hissued := advances_of_run abi (.issueDriverLaunchWithBundle true .exactReduced) rfl
    hsound.live hissue
  have hsound₁ := hissued.sound hsound
  have hconstructed := advances_of_run (f := fun _ => .unit) abi .driverConstructed
    (map_eq_pure_bind _ _).symm hsound₁.live hconstruct
  have hsound₂ := hconstructed.sound hsound₁
  have hstaged := advances_of_run abi (.reserveD3StageCorrelations request) rfl hsound₂.live hstage
  have hsound₃ := hstaged.sound hsound₂
  refine ⟨r₃, rfl, ?_⟩
  cases hissued with
  | issued =>
      cases hconstructed with
      | ready hop => obtain ⟨message, hop | ⟨transactionId, hop⟩⟩ := hop <;> cases hop
      | constructed hdriver =>
          cases hdriver
          cases hstaged with
          | staged =>
              refine ⟨hsound₃, rfl, rfl, rfl, rfl, rfl, rfl, ?_⟩
              rintro _ ⟨⟩
              rfl

/-- What an activation does: a broker is given the driver of the active launch, or one is
made for it from two numbers of the controller. -/
inductive Activated (s : NativeDevmgr) (driver : PublishedDriver) : NativeDevmgr → Prop
  | replaced {broker : ConnectorBroker} : s.connectorBroker = some broker → broker.slot = .empty →
      Activated s driver { s with connectorBroker := some { broker with current := some driver } }
  | made : s.connectorBroker = none →
      Activated s driver
        { resident := { s.resident with
            nextDriverTransaction := s.resident.nextDriverTransaction + 1,
            nextDriverStageGeneration := s.resident.nextDriverStageGeneration + 1 },
          connectorBroker := some ⟨some driver, s.resident.nextDriverTransaction,
            s.resident.nextDriverStageGeneration, .empty⟩ }

variable {driver : PublishedDriver}

theorem publishedDriver_eq_ok {request : DriverLaunchRequest}
    (h : NativeDevmgr.publishedDriver r request = .ok driver) :
    driver.control.attemptGeneration = request.attemptGeneration ∧
      driver.control.transactionId = request.transactionId := by
  obtain ⟨_, -, h⟩ := bind_eq_ok.mp h
  obtain ⟨generation, -, h⟩ := bind_eq_ok.mp h
  obtain ⟨bundle, -, h⟩ := bind_eq_ok.mp h
  obtain rfl := Outcome.ok.inj h
  exact ⟨rfl, rfl⟩

theorem activateConnectorBroker_activated {s s' : NativeDevmgr} (abi : DeviceResourceAbi)
    (hsound : Sound s.resident)
    (hrun : activateConnectorBroker s = (.ok driver, s', w)) :
    Activated s driver s' ∧ ∃ held, s.resident.activeDriver = some held ∧
      driver.control.attemptGeneration = held.request.attemptGeneration ∧
      driver.control.transactionId = held.request.transactionId := by
  rw [activateConnectorBroker, Prog.get_bind_run] at hrun
  obtain ⟨request, hrequest, hrest⟩ := Prog.lift_bind_eq_ok hrun
  obtain ⟨current, hcurrent, hrest⟩ := Prog.lift_bind_eq_ok hrest
  obtain ⟨held, hheld, rfl⟩ := Option.map_eq_some_iff.mp (okOr_eq_ok.mp hrequest)
  have hidentity := publishedDriver_eq_ok hcurrent
  cases hbroker : s.connectorBroker with
  | some broker =>
      rw [hbroker] at hrest
      obtain ⟨_, -, hrest⟩ := Prog.lift_bind_eq_ok hrest
      obtain ⟨_, _, _, _, hfirst, hrest, -⟩ := Prog.bind_run_eq_ok hrest
      cases hrest
      obtain ⟨broker', hreplace, rfl⟩ := Prog.within_run_eq_ok hfirst
      refine ⟨?_, held, hheld, hidentity⟩
      rcases exec_replace broker driver with ⟨hempty, hexec⟩ | ⟨-, hexec⟩
      · rw [exec, Prog.bind_run_ok hreplace] at hexec
        obtain ⟨rfl, -⟩ := Prod.mk.inj (Prod.mk.inj hexec).2
        exact .replaced hbroker hempty.1
      · rw [exec, Prog.bind_run_ok hreplace] at hexec
        cases hexec
  | none =>
      rw [hbroker] at hrest
      obtain ⟨⟨attach, stream⟩, _, _, _, hfirst, hrest, -⟩ := Prog.bind_run_eq_ok hrest
      obtain ⟨r₁, hreserve, rfl⟩ := onResident_eq_ok hfirst
      obtain ⟨broker, hmade, hrest⟩ := Prog.lift_bind_eq_ok hrest
      cases hrest
      refine ⟨?_, held, hheld, hidentity⟩
      have hreserved := advances_of_run abi (.reserveD3ConnectorCorrelations held.request) rfl
        hsound.live hreserve
      cases hreserved with
      | connected =>
          rw [ConnectorBroker.new] at hmade
          cases hzero : decide (s.resident.nextDriverTransaction = 0) ||
              decide (s.resident.nextDriverStageGeneration = 0) with
          | true => rw [hzero] at hmade; cases hmade
          | false =>
              rw [hzero] at hmade
              cases hmade
              exact .made hbroker

/-! ## The broker -/

variable {b b' : ConnectorBroker}

/-- Both counters of a broker go up together, and only a replacement brings a driver. -/
structure Counts (b b' : ConnectorBroker) : Prop where
  good : Good b'
  attach : b.nextAttachTransaction ≤ b'.nextAttachTransaction
  together : b'.nextAttachTransaction + b.nextStreamGeneration =
    b.nextAttachTransaction + b'.nextStreamGeneration
  current : KeptOrGone b b'

theorem exec_counts {op : Op} (hgood : Good b) (hop : op.replaces = false) :
    Counts b (exec op b).2.1 := by
  have hstep := exec_step hgood op
  have hbrings : ∀ replacement, op ≠ .replacePublishedDriver replacement := by
    rintro replacement rfl
    cases hop
  have hkept := exec_current hbrings b
  rcases hstep.numbered with ⟨-, hattach, hstream⟩ | ⟨attach, -, -, -, hattach, hstream⟩
  · exact ⟨hstep.good, by rw [hattach], by rw [hattach, hstream], hkept⟩
  · exact ⟨hstep.good, by rw [hattach]; exact Nat.le_succ _, by rw [hattach, hstream]; omega, hkept⟩

/-! ## A history -/

variable {s s' : NativeDevmgr} {h : List NativeCall}

/-- Where the numbers of a launch stand to those the broker has left: they are all
below, or the stage generation is further ahead of the stream generation than
the launch transaction is of the attach transaction. -/
def Placed (b : ConnectorBroker) (launch : Launched) : Prop :=
  (launch.2.stageGeneration = launch.1.attemptGeneration ∧
      launch.1.transactionId + 3 < b.nextAttachTransaction ∧
      launch.2.stageGeneration < b.nextStreamGeneration) ∨
    (launch.2.stageGeneration = launch.1.attemptGeneration + 1 ∧
      b.nextAttachTransaction + launch.2.stageGeneration ≤
        launch.1.transactionId + b.nextStreamGeneration)

/-- The attach took none of the numbers of the launch. -/
def Apart (launch : Launched) (attach : AttachCorrelation) : Prop :=
  (attach.attachTransactionId < launch.1.transactionId ∨
      launch.1.transactionId + 3 < attach.attachTransactionId) ∧
    attach.streamGeneration ≠ launch.2.stageGeneration

theorem Placed.counts {launch : Launched} (hplaced : Placed b launch) (hcounts : Counts b b') :
    Placed b' launch := by
  have hattach := hcounts.attach
  have htogether := hcounts.together
  rcases hplaced with ⟨hstage, hbelow, hstream⟩ | ⟨hstage, hahead⟩
  · exact .inl ⟨hstage, by omega, by omega⟩
  · exact .inr ⟨hstage, by omega⟩

variable {clientTransactionId : Nat}

theorem Placed.apart {launch : Launched} (hplaced : Placed b launch) (hmeets : ¬ Meets b driver)
    (hattempt : launch.1.attemptGeneration = driver.control.attemptGeneration)
    (htransaction : launch.1.transactionId = driver.control.transactionId) :
    Apart launch
      ⟨driver, clientTransactionId, b.nextAttachTransaction, b.nextStreamGeneration⟩ := by
  rw [Meets, ← hattempt, ← htransaction] at hmeets
  rw [Apart]
  rcases hplaced with ⟨hstage, hbelow, hstream⟩ | ⟨hstage, hahead⟩
  · exact ⟨.inr hbelow, by simp only; omega⟩
  · refine ⟨by simp only; omega, fun hsame => ?_⟩
    simp only at hsame
    omega

structure Brokered (started : List Launched) (issued : List AttachCorrelation)
    (r : ResidentController) (b : ConnectorBroker) : Prop where
  good : Good b
  ascends : Ascends (issued.map AttachCorrelation.attachTransactionId) b.nextAttachTransaction
  owned : ∀ attach ∈ issued, attach.driver.control.attemptGeneration < r.nextDriverAttempt
  current : ∀ driver, b.current = some driver → ∃ launch ∈ started,
    launch.1.attemptGeneration = driver.control.attemptGeneration ∧
      launch.1.transactionId = driver.control.transactionId
  stage : r.nextDriverStageGeneration = r.nextDriverAttempt + 1
  gap : b.nextAttachTransaction + r.nextDriverStageGeneration ≤
    r.nextDriverTransaction + b.nextStreamGeneration
  placed : ∀ launch ∈ started, Placed b launch
  apart : ∀ launch ∈ started, ∀ attach ∈ issued,
    attach.driver.control.attemptGeneration = launch.1.attemptGeneration → Apart launch attach

/-- The launches and the attaches so far, in a state. -/
structure Numbering (started : List Launched) (issued : List AttachCorrelation)
    (s : NativeDevmgr) : Prop where
  sound : Sound s.resident
  blocks : ∀ launch ∈ started, stageTransactions launch =
    [launch.1.transactionId, launch.1.transactionId + 1, launch.1.transactionId + 2,
      launch.1.transactionId + 3]
  ascending : started.Pairwise fun launch launch' =>
    launch.1.attemptGeneration < launch'.1.attemptGeneration
  below : ∀ launch ∈ started, launch.1.attemptGeneration < s.resident.nextDriverAttempt ∧
    launch.1.transactionId + 3 < s.resident.nextDriverTransaction
  active : ∀ held, s.resident.activeDriver = some held →
    ∃ launch ∈ started, launch.1 = held.request
  unbrokered : s.connectorBroker = none → issued = [] ∧
    s.resident.nextDriverStageGeneration = s.resident.nextDriverAttempt ∧
    ∀ launch ∈ started, launch.2.stageGeneration = launch.1.attemptGeneration
  brokered : ∀ b, s.connectorBroker = some b → Brokered started issued s.resident b

variable {started : List Launched} {attached : List AttachCorrelation}

theorem Numbering.unique (ih : Numbering started attached s) {launch launch' : Launched}
    (hlaunch : launch ∈ started) (hlaunch' : launch' ∈ started)
    (hattempt : launch.1.attemptGeneration = launch'.1.attemptGeneration) : launch = launch' := by
  have hdistinct : started.Pairwise fun launch launch' =>
      launch.1.attemptGeneration = launch'.1.attemptGeneration → launch = launch' :=
    ih.ascending.imp fun hlt heq => absurd heq (Nat.ne_of_lt hlt)
  have hflipped : started.Pairwise fun launch launch' =>
      launch'.1.attemptGeneration = launch.1.attemptGeneration → launch' = launch :=
    ih.ascending.imp fun hlt heq => absurd heq (Nat.ne_of_gt hlt)
  exact List.Pairwise.forall_of_forall_of_flip (fun _ _ _ => rfl) hdistinct hflipped hlaunch hlaunch'
    hattempt

theorem Numbering.resident (ih : Numbering started attached s) (hsound : Sound r')
    (hsame : Unreserved s.resident r') :
    Numbering started attached { s with resident := r' } := by
  refine ⟨hsound, ih.blocks, ih.ascending, ?_, fun held hheld => ?_, ?_, fun b hb => ?_⟩
  · simp only [hsame.attempt, hsame.transaction]
    exact ih.below
  · obtain ⟨before, hbefore, hrequest⟩ := hsame.active held hheld
    rw [hrequest]
    exact ih.active before hbefore
  · simp only [hsame.attempt, hsame.stage]
    exact ih.unbrokered
  · have hbrokered := ih.brokered b hb
    refine ⟨hbrokered.good, hbrokered.ascends, ?_, hbrokered.current, ?_, ?_, hbrokered.placed,
      hbrokered.apart⟩
    · simp only [hsame.attempt]
      exact hbrokered.owned
    · simp only [hsame.attempt, hsame.stage]
      exact hbrokered.stage
    · simp only [hsame.transaction, hsame.stage]
      exact hbrokered.gap

theorem mem_snoc {l : List α} {x : α} : x ∈ l ++ [a] ↔ x ∈ l ∨ x = a := by
  rw [List.mem_append, List.mem_singleton]

theorem Numbering.launch {launch : Launched} (ih : Numbering started attached s)
    (hstaged : Staged s.resident launch r') :
    Numbering (started ++ [launch]) attached { s with resident := r' } := by
  obtain ⟨hsound, hattempt, htransaction, hstages, hnextAttempt, hnextTransaction, hnextStage,
    hactive⟩ := hstaged
  have hstage : launch.2.stageGeneration = s.resident.nextDriverStageGeneration := by rw [hstages]
  refine ⟨hsound, ?_, ?_, ?_, fun held hheld => ?_, fun hnone => ?_, fun b hb => ?_⟩
  · intro other hother
    rcases mem_snoc.mp hother with hother | rfl
    · exact ih.blocks other hother
    · rw [stageTransactions, hstages, htransaction]
  · refine List.pairwise_append.mpr ⟨ih.ascending, List.pairwise_singleton _ _, ?_⟩
    intro other hother last hlast
    obtain rfl := List.mem_singleton.mp hlast
    rw [hattempt]
    exact (ih.below other hother).1
  · intro other hother
    simp only [hnextAttempt, hnextTransaction]
    rcases mem_snoc.mp hother with hother | rfl
    · have hbelow := ih.below other hother
      omega
    · omega
  · exact ⟨launch, mem_snoc.mpr (.inr rfl), (hactive held hheld).symm⟩
  · obtain ⟨hissued, hsame, hstarted⟩ := ih.unbrokered hnone
    refine ⟨hissued, by simp only [hnextAttempt, hnextStage, hsame], fun other hother => ?_⟩
    rcases mem_snoc.mp hother with hother | rfl
    · exact hstarted other hother
    · rw [hstage, hattempt, hsame]
  · have hbrokered := ih.brokered b hb
    refine ⟨hbrokered.good, hbrokered.ascends, fun attach hattach => ?_, fun driver hdriver => ?_,
      ?_, ?_, fun other hother => ?_, fun other hother attach hattach hsame => ?_⟩
    · simp only [hnextAttempt]
      exact Nat.lt_succ_of_lt (hbrokered.owned attach hattach)
    · obtain ⟨other, hother, hidentity⟩ := hbrokered.current driver hdriver
      exact ⟨other, mem_snoc.mpr (.inl hother), hidentity⟩
    · simp only [hnextAttempt, hnextStage, hbrokered.stage]
    · have hgap := hbrokered.gap
      simp only [hnextTransaction, hnextStage]
      omega
    · rcases mem_snoc.mp hother with hother | rfl
      · exact hbrokered.placed other hother
      · refine .inr ⟨by rw [hstage, hattempt, hbrokered.stage], ?_⟩
        rw [hstage, htransaction]
        exact hbrokered.gap
    · rcases mem_snoc.mp hother with hother | rfl
      · exact hbrokered.apart other hother attach hattach hsame
      · have howned := hbrokered.owned attach hattach
        rw [hsame, hattempt] at howned
        exact absurd howned (Nat.lt_irrefl _)

theorem good_of_empty (hempty : b.slot = .empty) : Good b := by
  refine ⟨by rw [hempty]; trivial, fun attach pair hheld => ?_⟩
  rw [hempty] at hheld
  cases hheld

theorem Numbering.activate {held : DriverLaunch}
    (ih : Numbering started attached s) (hactivated : Activated s driver s')
    (hheld : s.resident.activeDriver = some held)
    (hattempt : driver.control.attemptGeneration = held.request.attemptGeneration)
    (htransaction : driver.control.transactionId = held.request.transactionId) :
    Numbering started attached s' := by
  have hcurrent : ∀ other, some driver = some other → ∃ launch ∈ started,
      launch.1.attemptGeneration = other.control.attemptGeneration ∧
        launch.1.transactionId = other.control.transactionId := by
    rintro _ ⟨⟩
    obtain ⟨launch, hlaunch, hrequest⟩ := ih.active held hheld
    exact ⟨launch, hlaunch, by rw [hattempt, hrequest], by rw [htransaction, hrequest]⟩
  cases hactivated with
  | replaced hb hempty =>
      refine ⟨ih.sound, ih.blocks, ih.ascending, ih.below, ih.active, nofun, ?_⟩
      rintro _ ⟨⟩
      obtain ⟨-, hascends, howned, -, hstage, hgap, hplaced, hapart⟩ := ih.brokered _ hb
      exact ⟨good_of_empty hempty, hascends, howned, hcurrent, hstage, hgap, hplaced, hapart⟩
  | made hb =>
      obtain ⟨rfl, hsame, hstarted⟩ := ih.unbrokered hb
      obtain ⟨hlive, hbehind, hunbundled, hawaiting⟩ := ih.sound
      refine ⟨⟨hlive, Nat.succ_lt_succ hbehind, hunbundled, hawaiting⟩, ih.blocks, ih.ascending,
        fun launch hlaunch => ?_, ih.active, nofun, ?_⟩
      · obtain ⟨hbelow, hblock⟩ := ih.below launch hlaunch
        exact ⟨hbelow, Nat.lt_succ_of_lt hblock⟩
      rintro _ ⟨⟩
      refine ⟨good_of_empty rfl, .nil, nofun, hcurrent, by simp only [hsame], by simp only; omega,
        fun launch hlaunch => ?_, fun _ _ _ hattach => absurd hattach List.not_mem_nil⟩
      obtain ⟨hbelow, hblock⟩ := ih.below launch hlaunch
      refine .inl ⟨hstarted launch hlaunch, hblock, ?_⟩
      simp only [hstarted launch hlaunch, hsame]
      exact hbelow

theorem Brokered.counts (ih : Brokered started attached r b) (hcounts : Counts b b') :
    Brokered started attached r b' := by
  have hattach := hcounts.attach
  have htogether := hcounts.together
  have hgap := ih.gap
  refine ⟨hcounts.good, ih.ascends.mono hattach, ih.owned, fun driver hdriver => ?_, ih.stage,
    by omega, fun launch hlaunch => (ih.placed launch hlaunch).counts hcounts, ih.apart⟩
  rcases hcounts.current with hkept | hgone
  · exact ih.current driver (hkept ▸ hdriver)
  · cases hgone.symm.trans hdriver

theorem Brokered.attach
    (hnumbering : Numbering started attached s) (ih : Brokered started attached s.resident b)
    (hcounts : Counts b b') (hcurrent : b.current = some driver) (hmeets : ¬ Meets b driver)
    (hnext : b'.nextAttachTransaction = b.nextAttachTransaction + 1) :
    Brokered started (attached ++
      [⟨driver, clientTransactionId, b.nextAttachTransaction, b.nextStreamGeneration⟩])
      s.resident b' := by
  obtain ⟨launch, hlaunch, hattempt, htransaction⟩ := ih.current driver hcurrent
  obtain ⟨hgood, -, -, hkept, hstage, hgap, hplaced, -⟩ := ih.counts hcounts
  refine ⟨hgood, ?_, fun attach hattach => ?_, hkept, hstage, hgap, hplaced,
    fun other hother attach hattach hsame => ?_⟩
  · rw [List.map_append, hnext]
    exact ih.ascends.snoc (Nat.le_refl _) (Nat.lt_succ_self _)
  · rcases mem_snoc.mp hattach with hattach | rfl
    · exact ih.owned attach hattach
    · rw [← hattempt]
      exact (hnumbering.below launch hlaunch).1
  · rcases mem_snoc.mp hattach with hattach | rfl
    · exact ih.apart other hother attach hattach hsame
    · obtain rfl := hnumbering.unique hother hlaunch (hsame.symm.trans hattempt.symm)
      exact (ih.placed other hother).apart hmeets hattempt htransaction

/-! ## A run -/

theorem launches_snoc (h : List NativeCall) (c : NativeCall) :
    launches (h ++ [c]) = launches h ++ (launched c).toList := by
  cases hc : launched c <;> simp [launches, hc]

theorem attaches_snoc (h : List NativeCall) (c : NativeCall) :
    attaches (h ++ [c]) = attaches h ++ (issued c).toList := by
  cases hc : issued c <;> simp [attaches, hc]

theorem issued_eq_some {c : NativeCall} {attach : AttachCorrelation} (hc : issued c = some attach) :
    ∃ request hop message, c.op = .broker (.beginConnect request) hop ∧
      c.outcome = .ok (.broker (.action (.allocatePair attach message))) := by
  unfold issued at hc
  split at hc
  · rename_i request hop other message hop' houtcome
    obtain rfl := Option.some.inj hc
    exact ⟨request, hop, message, hop', houtcome⟩
  · cases hc

variable {c : NativeCall}

theorem Numbering.quiet (hlaunched : launched c = none) (hissued : issued c = none)
    (ih : Numbering (launches h) (attaches h) s) :
    Numbering (launches (h ++ [c])) (attaches (h ++ [c])) s := by
  rw [launches_snoc, attaches_snoc, hlaunched, hissued, Option.toList_none, List.append_nil,
    Option.toList_none, List.append_nil]
  exact ih

theorem Numbering.broker {op : Op} {hop : op.replaces = false}
    (ih : Numbering (launches h) (attaches h) s) (hb : s.connectorBroker = some b)
    (hreuses : ¬ Reuses s (.broker op hop)) (hcop : c.op = .broker op hop)
    (houtcome : c.outcome = ((exec op b).1.mapErr Failure.connector).map NativeReply.broker) :
    Numbering (launches (h ++ [c])) (attaches (h ++ [c]))
      { s with connectorBroker := some (exec op b).2.1 } := by
  have hbrokered := ih.brokered b hb
  have hcounts := exec_counts hbrokered.good hop
  have hlaunched : launched c = none := by
    rw [launched, houtcome]
    rcases (exec op b).1 with _ | _ | _ <;> rfl
  have hkeep : ∀ {attached}, Brokered (launches h) attached s.resident (exec op b).2.1 →
      Numbering (launches h) attached { s with connectorBroker := some (exec op b).2.1 } := by
    intro attached hnext
    refine ⟨ih.sound, ih.blocks, ih.ascending, ih.below, ih.active, nofun, ?_⟩
    rintro _ ⟨⟩
    exact hnext
  cases hissued : issued c with
  | none => exact .quiet hlaunched hissued (hkeep (hbrokered.counts hcounts))
  | some attach =>
      rw [launches_snoc, attaches_snoc, hlaunched, hissued, Option.toList_none, List.append_nil]
      obtain ⟨request, _, message, hrequest, hreply⟩ := issued_eq_some hissued
      obtain ⟨rfl⟩ := NativeOp.broker.inj (hcop.symm.trans hrequest)
      have hallocated : (exec (.beginConnect request) b).1 =
          .ok (.action (.allocatePair attach message)) := by
        rw [houtcome] at hreply
        rcases hexec : (exec (.beginConnect request) b).1 with reply | _ | _ <;>
          rw [hexec] at hreply <;> cases hreply
        rfl
      obtain ⟨driver, clientTransactionId, rfl, hclient, hcurrent, hempty, hattachRoom, hstreamRoom,
        haction, hafter⟩ := beginConnect_eq_ok hallocated
      obtain ⟨rfl, -⟩ := ConnectorAction.allocatePair.inj (Reply.action.inj haction)
      have hnext := congrArg ConnectorBroker.nextAttachTransaction hafter
      have hmeets : ¬ Meets b driver := fun hmeets =>
        hreuses (.connect hb hcurrent hclient hempty hattachRoom hstreamRoom hmeets)
      exact hkeep (hbrokered.attach ih hcounts hcurrent hmeets hnext)

theorem Numbering.call {op : NativeOp} (abi : DeviceResourceAbi)
    (ih : Numbering (launches h) (attaches h) s) (hreuses : ¬ Reuses s op)
    (hlives : op = .launchDriverStaged ∨ op = .activateConnectorBroker →
      (drive abi op s).1.isOk = true) :
    Numbering (launches (h ++ [callOf (drive abi) op s]))
      (attaches (h ++ [callOf (drive abi) op s])) (drive abi op s).2.1 := by
  cases op with
  | resident op hop =>
      have hadvances := serve_advances abi ih.sound.live op
      have hrun : (drive abi (.resident op hop) s) =
          (((serve abi op s.resident).1.mapErr Failure.resident).map NativeReply.resident,
            { s with resident := (serve abi op s.resident).2.1 },
            (serve abi op s.resident).2.2) := by
        rw [drive, Prog.map_run]
        rfl
      rw [callOf, hrun]
      refine .quiet ?_ ?_ (ih.resident (hadvances.sound ih.sound) (hadvances.unreserved hop))
      · rcases (serve abi op s.resident).1 with _ | _ | _ <;> rfl
      · rcases (serve abi op s.resident).1 with _ | _ | _ <;> rfl
  | broker op hop =>
      cases hb : s.connectorBroker with
      | none =>
          have hrun : drive abi (.broker op hop) s = (.err .brokerAbsent, s, []) := by
            rw [drive, Prog.get_bind_run, hb]
            rfl
          rw [callOf, hrun]
          exact .quiet rfl (by cases op <;> rfl) ih
      | some b =>
          have hrun : drive abi (.broker op hop) s =
              (((exec op b).1.mapErr Failure.connector).map NativeReply.broker,
                { s with connectorBroker := some (exec op b).2.1 }, (exec op b).2.2) := by
            rw [drive, Prog.get_bind_run, hb]
            simp only
            rw [Prog.map_run]
            rfl
          rw [callOf, hrun]
          exact ih.broker hb hreuses rfl rfl
  | launchDriverStaged =>
      obtain ⟨reply, hreply⟩ := exists_of_isOk (hlives (.inl rfl))
      rcases hrun : launchDriverStaged s with ⟨launch | _ | _, s', w⟩
      · obtain ⟨r', rfl, hstaged⟩ := launchDriverStaged_staged abi ih.sound hrun
        have hdrive : drive abi .launchDriverStaged s =
            (.ok (.launched launch.1 launch.2), { s with resident := r' }, w) := by
          rw [drive, Prog.map_run, hrun]
          rfl
        rw [callOf, hdrive, launches_snoc, attaches_snoc]
        show Numbering (launches h ++ [launch]) (attaches h ++ []) _
        rw [List.append_nil]
        exact ih.launch hstaged
      all_goals
        rw [drive, Prog.map_run, hrun] at hreply
        cases hreply
  | activateConnectorBroker =>
      obtain ⟨reply, hreply⟩ := exists_of_isOk (hlives (.inr rfl))
      rcases hrun : activateConnectorBroker s with ⟨driver | _ | _, s', w⟩
      · obtain ⟨hactivated, held, hheld, hattempt, htransaction⟩ :=
          activateConnectorBroker_activated abi ih.sound hrun
        have hdrive : drive abi .activateConnectorBroker s = (.ok (.activated driver), s', w) := by
          rw [drive, Prog.map_run, hrun]
          rfl
        rw [callOf, hdrive]
        exact .quiet rfl rfl (ih.activate hactivated hheld hattempt htransaction)
      all_goals
        rw [drive, Prog.map_run, hrun] at hreply
        cases hreply

theorem Numbering.brokerless_or_brokered (ih : Numbering (launches h) (attaches h) s) :
    attaches h = [] ∨ ∃ b, Brokered (launches h) (attaches h) s.resident b := by
  cases hb : s.connectorBroker with
  | none => exact .inl (ih.unbrokered hb).1
  | some b => exact .inr ⟨b, ih.brokered b hb⟩

theorem Numbering.apart (ih : Numbering (launches h) (attaches h) s) {attempt : Nat}
    {launch : Launched} {attach : AttachCorrelation} (hlaunch : launch ∈ launches h)
    (hattempt : launch.1.attemptGeneration = attempt) (hattach : attach ∈ attachesOf attempt h) :
    Apart launch attach := by
  obtain ⟨hmem, hsame⟩ : attach ∈ attaches h ∧
      attach.driver.control.attemptGeneration = attempt := by
    simpa using List.mem_filter.mp hattach
  rcases ih.brokerless_or_brokered with hnone | ⟨b, hbrokered⟩
  · rw [hnone] at hmem
    cases hmem
  · exact hbrokered.apart launch hlaunch attach hmem (hsame.trans hattempt.symm)

/-- The numbers of supervisor 7. -/
def base : Nat := 7 * driverCorrelationStride

instance (broker : ConnectorBroker) (driver : PublishedDriver) : Decidable (Meets broker driver) :=
  inferInstanceAs (Decidable (_ ∧ _ ∨ _ ∧ _))

end Wyrmroot.Devmgr
