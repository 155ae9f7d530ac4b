import Wyrmroot.Devmgr.Resident

/-!
# What one resident call can do

`Advances` lists it, in the order of the operations. A refused call changes
nothing except in the three cases that stand first: a launch or a connector
reservation that runs out of numbers half way, and a cleanup whose deadline
does not exist. `serve_advances` says so of all calls as long as no reaped
launch is held, and none ever is; nothing after this file unfolds one, except
to compute a call on a given state.
-/

namespace Wyrmroot.Devmgr

open Outcome ResidentController
open Loader (checkedAdd_eq_some)
open Device (CoordinatorState RegistryBinding checkedAddU8 maxAttempts retryBackoffNs
  checkedAdd_cases)

/-- No launch counter is at its limit. -/
def Room (s : ResidentController) : Prop :=
  s.nextDriverAttempt + 1 < 2 ^ 64 ∧ s.nextDriverSession + 1 < 2 ^ 64 ∧
    s.nextDriverEndpoint + 1 < 2 ^ 64 ∧ s.nextDriverTransaction + 1 < 2 ^ 64

/-- A launch may be issued, were there numbers for it. -/
structure Launchable (s : ResidentController) (childIsChannel : Bool)
    (childRights : DirectControlRights) : Prop where
  binding : s.activeBinding ≠ none
  driver : s.activeDriver = none
  valid : DriverLaunch.new (s.nextRequest childIsChannel childRights) =
    .ok ⟨s.nextRequest childIsChannel childRights, .constructed⟩

/-- The operations that issue a launch, the second behind its own gate. -/
def Issues (s : ResidentController) (op : ResidentOp) (childIsChannel : Bool)
    (childRights : DirectControlRights) : Prop :=
  op = .issueDriverLaunch childIsChannel childRights ∨
    op = .issueDriverLaunchWithBundle childIsChannel childRights ∧ s.bundleGeneration ≠ none ∧
      s.status.state = .matched

/-- The operation issues a launch, were there numbers for it. -/
def Issuable (s : ResidentController) (op : ResidentOp) (childIsChannel : Bool)
    (childRights : DirectControlRights) : Prop :=
  Issues s op childIsChannel childRights ∧ Launchable s childIsChannel childRights

/-- The controller message that an operation brings, and the service generation behind it. -/
inductive Delivers (s : ResidentController) : ResidentOp → ControllerMessage → Nat → Prop
  | legacy (message : ControllerMessage) (receivedHandles : Nat) :
      s.publicationServiceGeneration = 0 → receivedHandles = message.handleCount →
      Delivers s (.accept message receivedHandles) message 0
  | publication (message : PublicationMessage) (receivedHandles : Nat) :
      s.publicationServiceGeneration < message.serviceGeneration →
      receivedHandles = message.controller.handleCount →
      Delivers s (.acceptPublication message receivedHandles) message.controller
        message.serviceGeneration

/-- The operation brings a replacement of the lost binding that is newer in all respects. -/
inductive Rebinds (s : ResidentController) (op : ResidentOp) (binding : RegistryBinding)
    (transactionId service : Nat) : Prop
  | intro {supervisorGeneration : Nat} {old : RegistryBinding} :
      Delivers s op (.rebindPublication supervisorGeneration binding transactionId) service →
      s.status.supervisorGeneration = supervisorGeneration → s.lastBinding = some old →
      staleBinding old binding = false → s.activeBinding = none →
      s.lastTransactionId < transactionId → Rebinds s op binding transactionId service

/-- The operations that accept a READY. -/
def AcceptsReady (op : ResidentOp) : Prop :=
  ∃ message, op = .acceptDriverReady message ∨
    ∃ transactionId, op = .acceptDriverReadyForTransaction message transactionId

def withState (s : ResidentController) (state : CoordinatorState) : ResidentController :=
  { s with status := { s.status with state } }

def bound (s : ResidentController) (binding : RegistryBinding) (transactionId service : Nat)
    (state : CoordinatorState) : ResidentController :=
  withState { s with lastTransactionId := transactionId, lastBinding := some binding,
                     activeBinding := some binding, publicationServiceGeneration := service } state

inductive Advances (s : ResidentController) :
    ResidentOp → Outcome DevmgrError ResidentReply → ResidentController → Prop
  | refused (op : ResidentOp) (e : DevmgrError) : Advances s op (.err e) s
  | halfLaunched {op : ResidentOp} {childIsChannel : Bool} {childRights : DirectControlRights}
      {e : DevmgrError} {attempt session endpoint : Nat} :
      Issuable s op childIsChannel childRights → ¬ Room s → s.nextDriverAttempt ≤ attempt →
      s.nextDriverSession ≤ session → s.nextDriverEndpoint ≤ endpoint →
      Advances s op (.err e)
        { s with activeDriver := some ⟨s.nextRequest childIsChannel childRights, .constructed⟩,
                 nextDriverAttempt := attempt, nextDriverSession := session,
                 nextDriverEndpoint := endpoint }
  | halfReserved {request : DriverLaunchRequest} {e : DevmgrError} :
      s.nextDriverTransaction + 1 < 2 ^ 64 → 2 ^ 64 ≤ s.nextDriverStageGeneration + 1 →
      Advances s (.reserveD3ConnectorCorrelations request) (.err e)
        { s with nextDriverTransaction := s.nextDriverTransaction + 1 }
  | uncleaned {nowNs : Nat} {e : DevmgrError} : s.status.state = .cleaningUp →
      s.driverFailures + 1 < maxAttempts → 2 ^ 64 ≤ nowNs + retryBackoffNs →
      Advances s (.completeDriverFailureCleanup nowNs) (.err e)
        { s with driverFailures := s.driverFailures + 1 }
  | bindings {leaseGeneration irqBinding : Nat} :
      Advances s (.setDriverBindings leaseGeneration irqBinding) (.ok .unit)
        { s with driverLeaseGeneration := some leaseGeneration,
                 driverIrqBinding := some irqBinding }
  | admitted {resource : DwDeviceResourceInfoV1} : s.status.state = .waitingForDeviceBundle →
      s.bundleGeneration = none →
      Advances s (.admitDeviceResource resource) (.ok (.lease resource.leaseGeneration))
        (withState { s with bundleGeneration := some resource.leaseGeneration } .matched)
  | issued {op : ResidentOp} {childIsChannel : Bool} {childRights : DirectControlRights} :
      Issuable s op childIsChannel childRights → Room s →
      Advances s op (.ok (.request (s.nextRequest childIsChannel childRights)))
        { s with activeDriver := some ⟨s.nextRequest childIsChannel childRights, .constructed⟩,
                 nextDriverAttempt := s.nextDriverAttempt + 1,
                 nextDriverSession := s.nextDriverSession + 1,
                 nextDriverEndpoint := s.nextDriverEndpoint + 1,
                 nextDriverTransaction := s.nextDriverTransaction + 1 }
  | staged {request : DriverLaunchRequest} : s.activeDriverRequest = some request →
      s.nextDriverTransaction + 3 < 2 ^ 64 →
      Advances s (.reserveD3StageCorrelations request)
        (.ok (.stages ⟨s.nextDriverStageGeneration, s.nextDriverTransaction,
          s.nextDriverTransaction + 1, s.nextDriverTransaction + 2⟩))
        { s with nextDriverTransaction := s.nextDriverTransaction + 3,
                 nextDriverStageGeneration := s.nextDriverStageGeneration + 1 }
  | connected {request : DriverLaunchRequest} : s.activeDriverRequest = some request →
      s.publicationCurrent = true → s.nextDriverTransaction + 1 < 2 ^ 64 →
      Advances s (.reserveD3ConnectorCorrelations request)
        (.ok (.connector s.nextDriverTransaction s.nextDriverStageGeneration))
        { s with nextDriverTransaction := s.nextDriverTransaction + 1,
                 nextDriverStageGeneration := s.nextDriverStageGeneration + 1 }
  | constructed {launch : DriverLaunch} : s.activeDriver = some launch →
      Advances s .driverConstructed (.ok .unit)
        { s with activeDriver := some { launch with state := .awaitingControlReady } }
  | bundleMessage {message : ControlMessage} :
      Advances s .resourceBundleMessage (.ok (.message message)) s
  | transferred {launch : DriverLaunch} : s.status.state = .matched → s.driverReady = false →
      s.activeDriver = some launch →
      Advances s .bundleTransferred (.ok .unit)
        (withState { s with activeDriver := some { launch with state := .bundleTransferred } }
          .awaitingDriverReady)
  | ready {op : ResidentOp} {request : DriverLaunchRequest} : AcceptsReady op →
      s.status.state = .awaitingDriverReady →
      s.activeDriver = some ⟨request, .bundleTransferred⟩ →
      Advances s op (.ok .unit)
        (withState { s with activeDriver := some ⟨request, .driverReady⟩,
                            driverReady := true, publicationCurrent := false } .awaitingPublication)
  | committed : s.status.state = .awaitingPublication → s.driverReady = true →
      s.activeBinding ≠ none →
      Advances s .publicationCommitted (.ok .unit)
        (withState { s with publicationCurrent := true } .published)
  | failed {endpoint : ControlEndpoint} :
      s.status.state = .awaitingDriverReady ∨ s.status.state = .awaitingPublication ∨
        s.status.state = .published → s.activeDriver ≠ none →
      Advances s (.driverFailed endpoint) (.ok .unit)
        (withState { s with driverReady := false, publicationCurrent := false } .cleaningUp)
  | terminal {request : DriverLaunchRequest} : s.status.state = .cleaningUp →
      s.driverReady = true →
      Advances s (.acceptIntentionalDriverTerminal request) (.ok .unit)
        { s with driverReady := false }
  | retired : s.status.state = .cleaningUp →
      Advances s .publicationRetired (.ok .unit)
        { s with retiredBinding := s.activeBinding,
                 retiredDriverAttempt :=
                   s.activeDriverRequest.map DriverLaunchRequest.attemptGeneration,
                 activeBinding := none }
  | retiring {message : ControlMessage} : s.driverReady = true → s.activeDriver ≠ none →
      Advances s .retireMessage (.ok (.message message))
        (withState { s with publicationCurrent := false } .cleaningUp)
  | controlReady {message : ControlMessage} {launch : DriverLaunch} : s.activeDriver = some launch →
      Advances s (.acceptDriverControlReady message) (.ok .unit)
        { s with activeDriver := some { launch with state := .controlReady } }
  | reaped : s.activeDriver ≠ none →
      Advances s .reapDriver (.ok .unit)
        { s with activeDriver := none, driverReady := false, publicationCurrent := false }
  | gaveUp {nowNs : Nat} : s.status.state = .cleaningUp → maxAttempts ≤ s.driverFailures + 1 →
      Advances s (.completeDriverFailureCleanup nowNs) (.ok .unit)
        (withState { s with driverFailures := s.driverFailures + 1, retryUntilNs := none }
          .permanentFailure)
  | backedOff {nowNs : Nat} : s.status.state = .cleaningUp →
      s.driverFailures + 1 < maxAttempts →
      Advances s (.completeDriverFailureCleanup nowNs) (.ok .unit)
        (withState { s with driverFailures := s.driverFailures + 1,
                            retryUntilNs := some (nowNs + retryBackoffNs) }
          (.backoff s.nextDriverAttempt (nowNs + retryBackoffNs)))
  | retried {nowNs untilNs : Nat} : s.retryUntilNs = some untilNs → untilNs ≤ nowNs →
      isBackoff s.status.state = true →
      Advances s (.driverRetryReady nowNs) (.ok .unit)
        (withState { s with retryUntilNs := none } .matched)
  | installed {op : ResidentOp} {supervisorGeneration transactionId service : Nat}
      {binding : RegistryBinding} :
      Delivers s op (.installPublication supervisorGeneration binding transactionId) service →
      transactionId = s.startupTransactionId → s.lastBinding = none →
      Advances s op (.ok (.action .initialPublicationBound))
        (bound s binding transactionId service .waitingForDeviceBundle)
  | rebound {op : ResidentOp} {transactionId service : Nat} {binding : RegistryBinding} :
      Rebinds s op binding transactionId service →
      Advances s op (.ok (.action .publicationRebound))
        (bound s binding transactionId service s.reboundState)
  | closed : s.activeBinding ≠ none →
      Advances s .publicationPeerClosed (.ok .unit)
        (withState { s with activeBinding := none, publicationCurrent := false }
          .waitingForRegistry)

/-- The launch that is held was not reaped. -/
def Live (s : ResidentController) : Prop :=
  ∀ launch, s.activeDriver = some launch → launch.state ≠ .reaped

theorem Advances.live {s s' : ResidentController} {op : ResidentOp}
    {o : Outcome DevmgrError ResidentReply} (h : Advances s op o s') (hs : Live s) : Live s' := by
  cases h with
  | halfLaunched | issued | constructed | transferred | ready | controlReady =>
      rintro launch ⟨⟩
      exact nofun
  | reaped => exact nofun
  | _ => exact hs

/-! ## One lemma an operation -/

variable {s : ResidentController} {abi : DeviceResourceAbi} {op : ResidentOp}

abbrev Advanced (abi : DeviceResourceAbi) (s : ResidentController) (op : ResidentOp) : Prop :=
  Prog.wp (serve abi op) (fun o s' _ => Advances s op o s') s

theorem setDriverBindings_advances (leaseGeneration irqBinding : Nat) :
    Advanced abi s (.setDriverBindings leaseGeneration irqBinding) := by
  rw [Advanced, serve, Prog.wp_bind_pure, setDriverBindings, Prog.wp_get_bind,
    Prog.wp_rejectIf_bind]
  exact ⟨fun _ => .refused _ _, fun _ => .bindings⟩

theorem admitDeviceResource_advances (resource : DwDeviceResourceInfoV1) :
    Advanced abi s (.admitDeviceResource resource) := by
  rw [Advanced, serve, Prog.wp_map, admitDeviceResource, Prog.wp_get_bind, Prog.wp_rejectIf_bind]
  refine ⟨fun _ => .refused _ _, fun h => ?_⟩
  simp only [Bool.or_eq_false_iff, decide_eq_false_iff_not, not_not, ne_eq, and_assoc] at h
  exact .admitted h.1 (Option.not_isSome_iff_eq_none.mp (by simp [h.2.2.1]))

variable {childIsChannel : Bool} {childRights : DirectControlRights}

theorem issueDriverLaunch_wp
    {Q : Outcome DevmgrError DriverLaunchRequest → ResidentController → List Empty → Prop}
    (hrefused : ∀ e, ¬ Launchable s childIsChannel childRights → Q (.err e) s [])
    (hhalf : ∀ e attempt session endpoint, Launchable s childIsChannel childRights → ¬ Room s →
      s.nextDriverAttempt ≤ attempt → s.nextDriverSession ≤ session →
      s.nextDriverEndpoint ≤ endpoint →
      Q (.err e) { s with
        activeDriver := some ⟨s.nextRequest childIsChannel childRights, .constructed⟩,
        nextDriverAttempt := attempt, nextDriverSession := session,
        nextDriverEndpoint := endpoint } [])
    (hissued : Launchable s childIsChannel childRights → Room s →
      Q (.ok (s.nextRequest childIsChannel childRights)) { s with
        activeDriver := some ⟨s.nextRequest childIsChannel childRights, .constructed⟩,
        nextDriverAttempt := s.nextDriverAttempt + 1,
        nextDriverSession := s.nextDriverSession + 1,
        nextDriverEndpoint := s.nextDriverEndpoint + 1,
        nextDriverTransaction := s.nextDriverTransaction + 1 } []) :
    (issueDriverLaunch childIsChannel childRights).wp Q s := by
  rw [issueDriverLaunch, Prog.wp_get_bind, Prog.wp_rejectIf_bind]
  refine ⟨fun hpre => hrefused _ fun hlaunchable => ?_, fun hpre => ?_⟩
  · rw [Bool.or_eq_true, Option.isNone_iff_eq_none, hlaunchable.driver] at hpre
    exact hlaunchable.binding (hpre.resolve_right nofun)
  simp only [Bool.or_eq_false_iff, Option.isNone_eq_false_iff, Option.isSome_eq_false_iff,
    Option.isNone_iff_eq_none] at hpre
  rw [Prog.wp_lift_bind]
  cases hlaunch : DriverLaunch.new (s.nextRequest childIsChannel childRights) with
  | err e =>
      refine hrefused _ fun hlaunchable => ?_
      cases hlaunch.symm.trans hlaunchable.valid
  | panic => exact absurd hlaunch (DriverLaunch.new_ne_panic _)
  | ok launch =>
      obtain rfl := DriverLaunch.new_eq_ok hlaunch
      have hlaunchable : Launchable s childIsChannel childRights :=
        ⟨Option.isSome_iff_ne_none.mp hpre.1, hpre.2, hlaunch⟩
      simp only [Outcome.mapErr]
      rw [Prog.wp_modify_bind]
      rcases checkedAdd_cases s.nextDriverAttempt 1 with ⟨hnone, hfull⟩ | hsome
      · rw [hnone, okOr_none, Prog.wp_lift_bind]
        exact hhalf _ _ _ _ hlaunchable (fun hroom => absurd hroom.1 (Nat.not_lt.mpr hfull))
          (Nat.le_refl _) (Nat.le_refl _) (Nat.le_refl _)
      rw [hsome, okOr_some, Prog.lift_ok_bind, Prog.wp_modify_bind]
      rcases checkedAdd_cases s.nextDriverSession 1 with ⟨hnone, hfull⟩ | hsome'
      · rw [hnone, okOr_none, Prog.wp_lift_bind]
        exact hhalf _ _ _ _ hlaunchable (fun hroom => absurd hroom.2.1 (Nat.not_lt.mpr hfull))
          (Nat.le_succ _) (Nat.le_refl _) (Nat.le_refl _)
      rw [hsome', okOr_some, Prog.lift_ok_bind, Prog.wp_modify_bind]
      rcases checkedAdd_cases s.nextDriverEndpoint 1 with ⟨hnone, hfull⟩ | hsome''
      · rw [hnone, okOr_none, Prog.wp_lift_bind]
        exact hhalf _ _ _ _ hlaunchable (fun hroom => absurd hroom.2.2.1 (Nat.not_lt.mpr hfull))
          (Nat.le_succ _) (Nat.le_succ _) (Nat.le_refl _)
      rw [hsome'', okOr_some, Prog.lift_ok_bind, Prog.wp_modify_bind]
      rcases checkedAdd_cases s.nextDriverTransaction 1 with ⟨hnone, hfull⟩ | hlast
      · rw [hnone, okOr_none, Prog.wp_lift_bind]
        exact hhalf _ _ _ _ hlaunchable (fun hroom => absurd hroom.2.2.2 (Nat.not_lt.mpr hfull))
          (Nat.le_succ _) (Nat.le_succ _) (Nat.le_succ _)
      rw [hlast, okOr_some, Prog.lift_ok_bind, Prog.wp_modify_bind]
      exact hissued hlaunchable ⟨(checkedAdd_eq_some.mp hsome).1,
        (checkedAdd_eq_some.mp hsome').1, (checkedAdd_eq_some.mp hsome'').1,
        (checkedAdd_eq_some.mp hlast).1⟩

theorem issueLaunch_advances (hop : Issues s op childIsChannel childRights) :
    (issueDriverLaunch childIsChannel childRights).wp
      (fun o s' _ => Advances s op (o.map .request) s') s :=
  issueDriverLaunch_wp (fun e _ => .refused _ e)
    (fun _ _ _ _ hlaunchable => .halfLaunched ⟨hop, hlaunchable⟩)
    (fun hlaunchable => .issued ⟨hop, hlaunchable⟩)

theorem issueDriverLaunch_advances (childIsChannel : Bool) (childRights : DirectControlRights) :
    Advanced abi s (.issueDriverLaunch childIsChannel childRights) := by
  rw [Advanced, serve, Prog.wp_map]
  exact issueLaunch_advances (.inl rfl)

theorem issueDriverLaunchWithBundle_advances (childIsChannel : Bool)
    (childRights : DirectControlRights) :
    Advanced abi s (.issueDriverLaunchWithBundle childIsChannel childRights) := by
  rw [Advanced, serve, Prog.wp_map, issueDriverLaunchWithBundle, Prog.wp_get_bind,
    Prog.wp_rejectIf_bind]
  refine ⟨fun _ => .refused _ _, fun hpre => ?_⟩
  simp only [Bool.or_eq_false_iff, Option.isNone_eq_false_iff, decide_eq_false_iff_not, not_not,
    ne_eq] at hpre
  exact issueLaunch_advances (.inr ⟨rfl, Option.isSome_iff_ne_none.mp hpre.1, hpre.2⟩)

theorem reserveD3StageCorrelations_advances (request : DriverLaunchRequest) :
    Advanced abi s (.reserveD3StageCorrelations request) := by
  rw [Advanced, serve, Prog.wp_map, reserveD3StageCorrelations, Prog.wp_get_bind,
    Prog.wp_rejectIf_bind]
  refine ⟨fun _ => .refused _ _, fun hrequest => ?_⟩
  simp only
  rcases checkedAdd_cases s.nextDriverTransaction 1 with ⟨hnone, -⟩ | hsome
  · rw [hnone, okOr_none, Prog.wp_lift_bind]
    exact .refused _ _
  rw [hsome, okOr_some, Prog.lift_ok_bind]
  rcases checkedAdd_cases (s.nextDriverTransaction + 1) 1 with ⟨hnone, -⟩ | hsome'
  · rw [hnone, okOr_none, Prog.wp_lift_bind]
    exact .refused _ _
  rw [hsome', okOr_some, Prog.lift_ok_bind]
  rcases checkedAdd_cases (s.nextDriverTransaction + 1 + 1) 1 with ⟨hnone, -⟩ | hlast
  · rw [hnone, okOr_none, Prog.wp_lift_bind]
    exact .refused _ _
  rw [hlast, okOr_some, Prog.lift_ok_bind]
  rcases checkedAdd_cases s.nextDriverStageGeneration 1 with ⟨hnone, -⟩ | hstage
  · rw [hnone, okOr_none, Prog.wp_lift_bind]
    exact .refused _ _
  rw [hstage, okOr_some, Prog.lift_ok_bind, Prog.wp_modify_bind]
  exact .staged (by simpa using hrequest) (checkedAdd_eq_some.mp hlast).1

theorem reserveD3ConnectorCorrelations_advances (request : DriverLaunchRequest) :
    Advanced abi s (.reserveD3ConnectorCorrelations request) := by
  rw [Advanced, serve, Prog.wp_map, reserveD3ConnectorCorrelations, Prog.wp_get_bind,
    Prog.wp_rejectIf_bind]
  refine ⟨fun _ => .refused _ _, fun hpre => ?_⟩
  simp only [Bool.or_eq_false_iff, decide_eq_false_iff_not, not_not, ne_eq, Bool.not_eq_false']
    at hpre
  simp only
  rcases checkedAdd_cases s.nextDriverTransaction 1 with ⟨hnone, -⟩ | hsome
  · rw [hnone, okOr_none, Prog.wp_lift_bind]
    exact .refused _ _
  rw [hsome, okOr_some, Prog.lift_ok_bind, Prog.wp_modify_bind]
  rcases checkedAdd_cases s.nextDriverStageGeneration 1 with ⟨hnone, hfull⟩ | hstage
  · rw [hnone, okOr_none, Prog.wp_lift_bind]
    exact .halfReserved (checkedAdd_eq_some.mp hsome).1 hfull
  rw [hstage, okOr_some, Prog.lift_ok_bind, Prog.wp_modify_bind]
  exact .connected hpre.1 hpre.2 (checkedAdd_eq_some.mp hsome).1

theorem withActiveDriver_wp {method : DriverLaunch → Outcome DriverLaunchError DriverLaunch}
    {Q : Outcome DevmgrError Unit → ResidentController → List Empty → Prop}
    (hmethod : ∀ launch, method launch ≠ .panic) (herr : ∀ e, Q (.err e) s [])
    (hok : ∀ launch next, s.activeDriver = some launch → method launch = .ok next →
      Q (.ok ()) { s with activeDriver := some next } []) :
    (withActiveDriver method).wp Q s := by
  rw [withActiveDriver, Prog.wp_get_bind, Prog.wp_lift_bind]
  cases hlaunch : s.activeDriver with
  | none => exact herr _
  | some launch =>
      simp only [okOr_some]
      rw [Prog.wp_lift_bind]
      cases hnext : method launch with
      | ok next => exact hok launch next hlaunch hnext
      | err e => exact herr _
      | panic => exact absurd hnext (hmethod launch)

theorem driverConstructed_advances : Advanced abi s .driverConstructed := by
  rw [Advanced, serve, Prog.wp_bind_pure, driverConstructed]
  refine withActiveDriver_wp DriverLaunch.constructed_ne_panic (fun e => .refused _ e) ?_
  intro launch next hlaunch hnext
  obtain ⟨-, rfl⟩ := DriverLaunch.constructed_eq_ok hnext
  exact .constructed hlaunch

theorem acceptDriverControlReady_advances (message : ControlMessage) :
    Advanced abi s (.acceptDriverControlReady message) := by
  rw [Advanced, serve, Prog.wp_bind_pure, acceptDriverControlReady]
  refine withActiveDriver_wp (DriverLaunch.acceptControlReady_ne_panic message)
    (fun e => .refused _ e) ?_
  intro launch next hlaunch hnext
  obtain ⟨-, rfl⟩ := DriverLaunch.acceptControlReady_eq_ok hnext
  exact .controlReady hlaunch

theorem resourceBundleMessage_advances : Advanced abi s .resourceBundleMessage := by
  rw [Advanced, serve, Prog.wp_map, resourceBundleMessage, Prog.wp_get_bind, Prog.wp_rejectIf_bind]
  refine ⟨fun _ => .refused _ _, fun _ => ?_⟩
  rw [Prog.wp_lift_bind]
  cases s.activeDriver with
  | none => exact .refused _ _
  | some launch =>
      simp only [okOr_some]
      rw [Prog.wp_rejectIf_bind]
      refine ⟨fun _ => .refused _ _, fun _ => ?_⟩
      rw [Prog.wp_lift_bind]
      cases s.bundleGeneration with
      | none => exact .refused _ _
      | some bundleGeneration => exact .bundleMessage

theorem bundleTransferred_advances : Advanced abi s .bundleTransferred := by
  rw [Advanced, serve, Prog.wp_bind_pure, bundleTransferred, Prog.wp_get_bind,
    Prog.wp_rejectIf_bind]
  refine ⟨fun _ => .refused _ _, fun hpre => ?_⟩
  simp only [Bool.or_eq_false_iff, decide_eq_false_iff_not, not_not, ne_eq] at hpre
  rw [Prog.wp_bind]
  refine withActiveDriver_wp DriverLaunch.bundleTransferred_ne_panic (fun e => .refused _ e) ?_
  intro launch next hlaunch hnext
  obtain ⟨-, rfl⟩ := DriverLaunch.bundleTransferred_eq_ok.mp hnext
  exact .transferred hpre.1 hpre.2 hlaunch

theorem acceptReady_wp {message : ControlMessage} {transactionId : Nat} (hop : AcceptsReady op) :
    (acceptDriverReadyForTransaction message transactionId).wp
      (fun o s' _ => Advances s op (o.map fun _ => .unit) s') s := by
  rw [acceptDriverReadyForTransaction, Prog.wp_get_bind, Prog.wp_rejectIf_bind]
  refine ⟨fun _ => .refused _ _, fun hpre => ?_⟩
  simp only [Bool.or_eq_false_iff, decide_eq_false_iff_not, not_not, ne_eq] at hpre
  rw [Prog.wp_rejectIf_bind]
  refine ⟨fun _ => .refused _ _, fun _ => ?_⟩
  rw [Prog.wp_lift_bind]
  cases s.activeDriverRequest with
  | none => exact .refused _ _
  | some request =>
      simp only [okOr_some]
      rw [Prog.wp_lift_bind]
      cases s.bundleGeneration with
      | none => exact .refused _ _
      | some bundleGeneration =>
          simp only [okOr_some]
          rw [Prog.wp_rejectIf_bind]
          refine ⟨fun _ => .refused _ _, fun _ => ?_⟩
          rw [Prog.wp_bind]
          refine withActiveDriver_wp DriverLaunch.driverReady_ne_panic (fun e => .refused _ e) ?_
          rintro ⟨request, _⟩ next hlaunch hnext
          obtain ⟨rfl, rfl⟩ := DriverLaunch.driverReady_eq_ok.mp hnext
          exact .ready hop hpre.1 hlaunch

theorem acceptDriverReady_advances (message : ControlMessage) :
    Advanced abi s (.acceptDriverReady message) := by
  rw [Advanced, serve, Prog.wp_bind_pure, acceptDriverReady, Prog.wp_get_bind, Prog.wp_lift_bind]
  cases s.activeDriverRequest with
  | none => exact .refused _ _
  | some request => exact acceptReady_wp ⟨message, .inl rfl⟩

theorem acceptDriverReadyForTransaction_advances (message : ControlMessage) (transactionId : Nat) :
    Advanced abi s (.acceptDriverReadyForTransaction message transactionId) := by
  rw [Advanced, serve, Prog.wp_bind_pure]
  exact acceptReady_wp ⟨message, .inr ⟨transactionId, rfl⟩⟩

theorem publicationCommitted_advances : Advanced abi s .publicationCommitted := by
  rw [Advanced, serve, Prog.wp_bind_pure, publicationCommitted, Prog.wp_get_bind,
    Prog.wp_rejectIf_bind]
  refine ⟨fun _ => .refused _ _, fun hpre => ?_⟩
  simp only [Bool.or_eq_false_iff, decide_eq_false_iff_not, not_not, ne_eq, Bool.not_eq_false',
    Option.isNone_eq_false_iff] at hpre
  exact .committed hpre.1.1.1 hpre.1.1.2 (Option.isSome_iff_ne_none.mp hpre.1.2)

theorem activeDriver_ne_none {request : DriverLaunchRequest}
    (h : s.activeDriverRequest = some request) : s.activeDriver ≠ none := by
  intro hnone
  rw [activeDriverRequest, hnone] at h
  cases h

theorem driverFailed_advances (endpoint : ControlEndpoint) :
    Advanced abi s (.driverFailed endpoint) := by
  rw [Advanced, serve, Prog.wp_bind_pure, driverFailed, Prog.wp_get_bind, Prog.wp_rejectIf_bind]
  refine ⟨fun _ => .refused _ _, fun hstate => ?_⟩
  simp only [ne_eq, Bool.and_eq_false_iff, decide_eq_false_iff_not, not_not, or_assoc] at hstate
  rw [Prog.wp_lift_bind]
  cases hrequest : s.activeDriverRequest with
  | none => exact .refused _ _
  | some request =>
      simp only [okOr_some]
      rw [Prog.wp_rejectIf_bind]
      exact ⟨fun _ => .refused _ _, fun _ => .failed hstate (activeDriver_ne_none hrequest)⟩

theorem acceptIntentionalDriverTerminal_advances (request : DriverLaunchRequest) :
    Advanced abi s (.acceptIntentionalDriverTerminal request) := by
  rw [Advanced, serve, Prog.wp_bind_pure, acceptIntentionalDriverTerminal, Prog.wp_get_bind,
    Prog.wp_rejectIf_bind]
  refine ⟨fun _ => .refused _ _, fun hpre => ?_⟩
  simp only [Bool.or_eq_false_iff, decide_eq_false_iff_not, not_not, ne_eq, Bool.not_eq_false'] at hpre
  exact .terminal hpre.1.1.1 hpre.1.1.2

theorem publicationRetired_advances : Advanced abi s .publicationRetired := by
  rw [Advanced, serve, Prog.wp_bind_pure, publicationRetired, Prog.wp_get_bind,
    Prog.wp_rejectIf_bind]
  refine ⟨fun _ => .refused _ _, fun hpre => ?_⟩
  simp only [Bool.or_eq_false_iff, decide_eq_false_iff_not, not_not, ne_eq] at hpre
  exact .retired hpre.1

theorem retireMessage_advances : Advanced abi s .retireMessage := by
  rw [Advanced, serve, Prog.wp_map, retireMessage, Prog.wp_get_bind, Prog.wp_rejectIf_bind]
  refine ⟨fun _ => .refused _ _, fun hready => ?_⟩
  rw [Bool.not_eq_false'] at hready
  rw [Prog.wp_lift_bind]
  cases hrequest : s.activeDriverRequest with
  | none => exact .refused _ _
  | some request =>
      simp only [okOr_some]
      rw [Prog.wp_lift_bind]
      cases s.bundleGeneration with
      | none => exact .refused _ _
      | some bundleGeneration => exact .retiring hready (activeDriver_ne_none hrequest)

theorem reapDriver_advances (hlive : Live s) : Advanced abi s .reapDriver := by
  rw [Advanced, serve, Prog.wp_bind_pure, reapDriver, Prog.wp_get_bind, Prog.wp_modify_bind,
    Prog.wp_lift_bind]
  cases hlaunch : s.activeDriver with
  | none =>
      have hsame : { s with activeDriver := none } = s := by rw [← hlaunch]
      simp only [okOr_none, hsame]
      exact .refused _ _
  | some launch =>
      simp only [okOr_some]
      rw [DriverLaunch.reap_of_live (hlive launch hlaunch), Prog.wp_lift_bind]
      exact .reaped (by rw [hlaunch]; exact Option.some_ne_none _)

theorem completeDriverFailureCleanup_advances (nowNs : Nat) :
    Advanced abi s (.completeDriverFailureCleanup nowNs) := by
  have hdeadline := checkedAdd_cases nowNs retryBackoffNs
  rw [Advanced, serve, Prog.wp_bind_pure, completeDriverFailureCleanup, Prog.wp_get_bind,
    Prog.wp_rejectIf_bind]
  refine ⟨fun _ => .refused _ _, fun hstate => ?_⟩
  simp only [decide_eq_false_iff_not, not_not, ne_eq] at hstate
  rw [Prog.wp_lift_bind]
  cases hfailures : checkedAddU8 s.driverFailures 1 with
  | none => exact .refused _ _
  | some failures =>
      obtain rfl : s.driverFailures + 1 = failures := by
        unfold checkedAddU8 at hfailures
        split_ifs at hfailures
        exact Option.some.inj hfailures
      simp only [okOr_some]
      rw [Prog.wp_modify_bind]
      by_cases hbudget : maxAttempts ≤ s.driverFailures + 1
      · rw [if_pos hbudget, Prog.wp_modify_bind]
        exact .gaveUp hstate hbudget
      · rw [if_neg hbudget]
        rw [Nat.not_le] at hbudget
        rcases hdeadline with ⟨hnone, hlate⟩ | hsome
        · rw [hnone, okOr_none, Prog.wp_lift_bind]
          exact .uncleaned hstate hbudget hlate
        · rw [hsome, okOr_some, Prog.lift_ok_bind, Prog.wp_modify_bind]
          exact .backedOff hstate hbudget

theorem driverRetryReady_advances (nowNs : Nat) : Advanced abi s (.driverRetryReady nowNs) := by
  rw [Advanced, serve, Prog.wp_bind_pure, driverRetryReady, Prog.wp_get_bind, Prog.wp_lift_bind]
  cases huntil : s.retryUntilNs with
  | none => exact .refused _ _
  | some untilNs =>
      simp only [okOr_some]
      rw [Prog.wp_rejectIf_bind]
      refine ⟨fun _ => .refused _ _, fun hpre => ?_⟩
      simp only [Bool.or_eq_false_iff, decide_eq_false_iff_not, Nat.not_lt, Bool.not_eq_false'] at hpre
      exact .retried huntil hpre.1 hpre.2

variable {supervisor : Nat}

theorem validate_install {supervisorGeneration transactionId : Nat} {binding next : RegistryBinding}
    (h : validateBindingTransition supervisorGeneration none
      (.installPublication supervisor binding transactionId) = .ok next) : next = binding := by
  simp only [validateBindingTransition, bind_eq_ok, rejectIf_eq_ok, exists_const] at h
  obtain ⟨_, hpair, -, -, -, hnext⟩ := h
  obtain rfl := Outcome.ok.inj hpair
  exact (Outcome.ok.inj hnext).symm

theorem validate_rebind {supervisorGeneration transactionId : Nat}
    {old binding next : RegistryBinding}
    (h : validateBindingTransition supervisorGeneration (some old)
      (.rebindPublication supervisor binding transactionId) = .ok next) :
    next = binding ∧ staleBinding old binding = false := by
  simp only [validateBindingTransition, bind_eq_ok, rejectIf_eq_ok, exists_const,
    Option.any_some] at h
  obtain ⟨_, hpair, -, -, hfresh, hnext⟩ := h
  obtain rfl := Outcome.ok.inj hpair
  exact ⟨(Outcome.ok.inj hnext).symm, hfresh⟩

theorem validateBindingTransition_ne_panic (supervisorGeneration : Nat)
    (current : Option RegistryBinding) (incoming : ControllerMessage) :
    validateBindingTransition supervisorGeneration current incoming ≠ .panic := by
  cases incoming with
  | status => exact nofun
  | _ =>
      refine bind_ne_panic (pure_ne_panic _) fun _ _ => ?_
      iterate 2 refine bind_ne_panic (rejectIf_ne_panic _ _) fun _ _ => ?_
      exact bind_ne_panic (rejectIf_ne_panic _ _) fun _ _ => pure_ne_panic _

/-- What an accepted controller message does. -/
inductive Binds (s : ResidentController) :
    ControllerMessage → ControllerAction → ResidentController → Prop
  | install {supervisorGeneration transactionId : Nat} {binding : RegistryBinding} :
      transactionId = s.startupTransactionId → s.lastBinding = none →
      Binds s (.installPublication supervisorGeneration binding transactionId)
        .initialPublicationBound
        (bound s binding transactionId s.publicationServiceGeneration .waitingForDeviceBundle)
  | rebind {supervisorGeneration transactionId : Nat} {old binding : RegistryBinding} :
      s.status.supervisorGeneration = supervisorGeneration → s.lastBinding = some old →
      staleBinding old binding = false → s.activeBinding = none →
      s.lastTransactionId < transactionId →
      Binds s (.rebindPublication supervisorGeneration binding transactionId) .publicationRebound
        (bound s binding transactionId s.publicationServiceGeneration s.reboundState)

theorem acceptController_wp {message : ControllerMessage} {receivedHandles : Nat}
    {Q : Outcome DevmgrError ControllerAction → ResidentController → List Empty → Prop}
    (herr : ∀ e, Q (.err e) s [])
    (hok : ∀ action s', receivedHandles = message.handleCount → Binds s message action s' →
      Q (.ok action) s' []) :
    (acceptController message receivedHandles).wp Q s := by
  rw [acceptController, Prog.wp_rejectIf_bind]
  refine ⟨fun _ => herr _, fun hhandles => ?_⟩
  rw [decide_eq_false_iff_not, not_not] at hhandles
  rw [Prog.wp_get_bind]
  cases message with
  | installPublication supervisorGeneration binding transactionId =>
      simp only
      rw [Prog.wp_rejectIf_bind]
      refine ⟨fun _ => herr _, fun hpre => ?_⟩
      simp only [Bool.or_eq_false_iff, decide_eq_false_iff_not, not_not, ne_eq,
        Option.isSome_eq_false_iff, Option.isNone_iff_eq_none] at hpre
      rw [Prog.wp_lift_bind]
      cases hvalid : validateBindingTransition s.status.supervisorGeneration none
        (.installPublication supervisorGeneration binding transactionId) with
      | err e => exact herr _
      | panic => exact absurd hvalid (validateBindingTransition_ne_panic _ _ _)
      | ok next =>
          obtain rfl := validate_install hvalid
          exact hok _ _ hhandles (.install hpre.1.1 hpre.1.2)
  | rebindPublication supervisorGeneration binding transactionId =>
      simp only
      rw [Prog.wp_rejectIf_bind]
      refine ⟨fun _ => herr _, fun hpre => ?_⟩
      simp only [Bool.or_eq_false_iff, decide_eq_false_iff_not, not_not, ne_eq,
        Option.isSome_eq_false_iff, Option.isNone_iff_eq_none, Option.isNone_eq_false_iff,
        Nat.not_le] at hpre
      obtain ⟨old, hold⟩ := Option.isSome_iff_exists.mp hpre.1.1.2
      rw [hold, Prog.wp_lift_bind]
      cases hvalid : validateBindingTransition s.status.supervisorGeneration (some old)
        (.rebindPublication supervisorGeneration binding transactionId) with
      | err e => exact herr _
      | panic => exact absurd hvalid (validateBindingTransition_ne_panic _ _ _)
      | ok next =>
          obtain ⟨rfl, hfresh⟩ := validate_rebind hvalid
          exact hok _ _ hhandles (.rebind hpre.1.1.1 hold hfresh hpre.1.2 hpre.2)
  | status => exact herr _

theorem accept_advances (message : ControllerMessage) (receivedHandles : Nat) :
    Advanced abi s (.accept message receivedHandles) := by
  rw [Advanced, serve, Prog.wp_map, accept, Prog.wp_get_bind, Prog.wp_rejectIf_bind]
  refine ⟨fun _ => .refused _ _, fun hlegacy => ?_⟩
  simp only [decide_eq_false_iff_not, not_not, ne_eq] at hlegacy
  refine acceptController_wp (fun e => .refused _ e) fun action s' hhandles hbinds => ?_
  have hdelivers := Delivers.legacy message receivedHandles hlegacy hhandles
  cases hbinds with
  | install htransaction hlast =>
      rw [hlegacy]
      exact .installed hdelivers htransaction hlast
  | rebind hsupervisor hlast hfresh hactive htransaction =>
      rw [hlegacy]
      exact .rebound (.intro hdelivers hsupervisor hlast hfresh hactive htransaction)

theorem acceptPublication_advances (message : PublicationMessage) (receivedHandles : Nat) :
    Advanced abi s (.acceptPublication message receivedHandles) := by
  rw [Advanced, serve, Prog.wp_map, acceptPublication, Prog.wp_get_bind, Prog.wp_rejectIf_bind]
  refine ⟨fun _ => .refused _ _, fun hnewer => ?_⟩
  simp only [decide_eq_false_iff_not, Nat.not_le] at hnewer
  rw [Prog.wp_bind]
  refine acceptController_wp (fun e => .refused _ e) fun action s' hhandles hbinds => ?_
  have hdelivers := Delivers.publication message receivedHandles hnewer hhandles
  cases message
  cases hbinds with
  | install htransaction hlast => exact .installed hdelivers htransaction hlast
  | rebind hsupervisor hlast hfresh hactive htransaction =>
      exact .rebound (.intro hdelivers hsupervisor hlast hfresh hactive htransaction)

theorem publicationPeerClosed_advances : Advanced abi s .publicationPeerClosed := by
  rw [Advanced, serve, Prog.wp_bind_pure, publicationPeerClosed, Prog.wp_get_bind,
    Prog.wp_rejectIf_bind]
  refine ⟨fun _ => .refused _ _, fun hactive => ?_⟩
  rw [Option.isNone_eq_false_iff] at hactive
  exact .closed (Option.isSome_iff_ne_none.mp hactive)

theorem serve_advances (abi : DeviceResourceAbi) (h : Live s) (op : ResidentOp) :
    Advances s op (serve abi op s).1 (serve abi op s).2.1 := by
  cases op with
  | setDriverBindings leaseGeneration irqBinding =>
      exact setDriverBindings_advances leaseGeneration irqBinding
  | admitDeviceResource resource => exact admitDeviceResource_advances resource
  | issueDriverLaunch childIsChannel childRights =>
      exact issueDriverLaunch_advances childIsChannel childRights
  | issueDriverLaunchWithBundle childIsChannel childRights =>
      exact issueDriverLaunchWithBundle_advances childIsChannel childRights
  | reserveD3StageCorrelations request => exact reserveD3StageCorrelations_advances request
  | reserveD3ConnectorCorrelations request => exact reserveD3ConnectorCorrelations_advances request
  | driverConstructed => exact driverConstructed_advances
  | resourceBundleMessage => exact resourceBundleMessage_advances
  | bundleTransferred => exact bundleTransferred_advances
  | acceptDriverReady message => exact acceptDriverReady_advances message
  | acceptDriverReadyForTransaction message transactionId =>
      exact acceptDriverReadyForTransaction_advances message transactionId
  | publicationCommitted => exact publicationCommitted_advances
  | driverFailed endpoint => exact driverFailed_advances endpoint
  | acceptIntentionalDriverTerminal request =>
      exact acceptIntentionalDriverTerminal_advances request
  | publicationRetired => exact publicationRetired_advances
  | retireMessage => exact retireMessage_advances
  | acceptDriverControlReady message => exact acceptDriverControlReady_advances message
  | reapDriver => exact reapDriver_advances h
  | completeDriverFailureCleanup nowNs => exact completeDriverFailureCleanup_advances nowNs
  | driverRetryReady nowNs => exact driverRetryReady_advances nowNs
  | accept message receivedHandles => exact accept_advances message receivedHandles
  | acceptPublication message receivedHandles =>
      exact acceptPublication_advances message receivedHandles
  | publicationPeerClosed => exact publicationPeerClosed_advances

end Wyrmroot.Devmgr
