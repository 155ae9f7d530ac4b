import Wyrmroot.Device.Coordinator
import Wyrmroot.Devmgr.Connector

/-!
# One driver launch

`DriverLaunch` of `wyrmroot-device-proto/src/driver_launch.rs`, the ownership
of one launched driver, and the 1.0 control messages it is driven by. A method
writes its state last, so it is a function from the launch to the next one.
-/

namespace Wyrmroot.Devmgr

open Outcome
open Device (ContentIdentity uart16550dPath)

def deviceDriverPath : String := "/system/uart16550d"

inductive ControlMessage where
  | configure (roleId bundleGeneration attemptGeneration : Nat) (endpoint : ControlEndpoint)
      (transactionId profile profileVersion : Nat)
  | resourceBundle (roleId bundleGeneration attemptGeneration : Nat) (endpoint : ControlEndpoint)
      (transactionId : Nat)
  | ready (roleId bundleGeneration attemptGeneration : Nat) (endpoint : ControlEndpoint)
      (transactionId : Nat)
  /-- The driver has validated its startup; no bundle is implied. -/
  | controlReady (roleId attemptGeneration : Nat) (endpoint : ControlEndpoint) (transactionId : Nat)
  | failure (roleId bundleGeneration attemptGeneration : Nat) (endpoint : ControlEndpoint)
      (transactionId : Nat) (code : FailureCode)
  | triggerFailure (roleId bundleGeneration attemptGeneration : Nat) (endpoint : ControlEndpoint)
      (transactionId : Nat)
  | retire (roleId bundleGeneration attemptGeneration : Nat) (endpoint : ControlEndpoint)
      (transactionId : Nat)
deriving DecidableEq

inductive DirectControlRights where
  | exactReduced
  | other
deriving DecidableEq

structure DriverLaunchRequest where
  supervisorGeneration : Nat
  roleId : Nat
  attemptGeneration : Nat
  launchSession : Nat
  endpoint : ControlEndpoint
  transactionId : Nat
  driverPath : String
  actorIdentity : ContentIdentity
  childIsChannel : Bool
  childRights : DirectControlRights
deriving DecidableEq

inductive DriverLaunchState where
  | constructed
  | awaitingControlReady
  | controlReady
  | bundleTransferred
  | driverReady
  | reaped
deriving DecidableEq

inductive DriverLaunchError where
  | zeroIdentity
  | wrongPath
  | wrongChannel
  | wrongRights
  | wrongMessage
  | staleEndpoint
  | replay
  | alreadyReaped
  | supervisorReplaced
deriving DecidableEq

structure DriverLaunch where
  request : DriverLaunchRequest
  state : DriverLaunchState
deriving DecidableEq

namespace DriverLaunch

def new (request : DriverLaunchRequest) : Outcome DriverLaunchError DriverLaunch := do
  rejectIf (request.supervisorGeneration = 0 || request.roleId = 0
    || request.attemptGeneration = 0 || request.launchSession = 0 || request.endpoint.id = 0
    || request.endpoint.generation = 0 || request.transactionId = 0
    || request.actorIdentity = Vector.replicate 32 0) .zeroIdentity
  rejectIf (request.driverPath ≠ deviceDriverPath || uart16550dPath ≠
    [115, 121, 115, 116, 101, 109, 47, 117, 97, 114, 116, 49, 54, 53, 53, 48, 100]) .wrongPath
  rejectIf (!request.childIsChannel) .wrongChannel
  rejectIf (request.childRights ≠ .exactReduced) .wrongRights
  pure { request, state := .constructed }

def constructed (self : DriverLaunch) : Outcome DriverLaunchError DriverLaunch := do
  rejectIf (self.state ≠ .constructed) .replay
  pure { self with state := .awaitingControlReady }

def acceptControlReady (self : DriverLaunch) (message : ControlMessage) :
    Outcome DriverLaunchError DriverLaunch := do
  rejectIf (self.state = .reaped) .alreadyReaped
  rejectIf (self.state ≠ .awaitingControlReady) .replay
  match message with
  | .controlReady roleId attemptGeneration endpoint transactionId => do
      rejectIf (roleId ≠ self.request.roleId
        || attemptGeneration ≠ self.request.attemptGeneration
        || endpoint ≠ self.request.endpoint
        || transactionId ≠ self.request.transactionId) .staleEndpoint
      pure { self with state := .controlReady }
  | _ => .err .wrongMessage

def bundleTransferred (self : DriverLaunch) : Outcome DriverLaunchError DriverLaunch := do
  rejectIf (self.state = .reaped) .alreadyReaped
  rejectIf (self.state ≠ .awaitingControlReady) .replay
  pure { self with state := .bundleTransferred }

def driverReady (self : DriverLaunch) : Outcome DriverLaunchError DriverLaunch := do
  rejectIf (self.state = .reaped) .alreadyReaped
  rejectIf (self.state ≠ .bundleTransferred) .replay
  pure { self with state := .driverReady }

def reap (self : DriverLaunch) : Outcome DriverLaunchError DriverLaunch := do
  rejectIf (self.state = .reaped) .alreadyReaped
  pure { self with state := .reaped }

/-! ## What a launch can become -/

variable {self next : DriverLaunch} {request : DriverLaunchRequest}

theorem new_eq_ok (h : new request = .ok next) : next = ⟨request, .constructed⟩ := by
  simp only [new, bind_eq_ok, rejectIf_eq_ok, exists_const] at h
  exact (Outcome.ok.inj h.2.2.2.2).symm

theorem constructed_eq_ok (h : self.constructed = .ok next) :
    self.state = .constructed ∧ next = { self with state := .awaitingControlReady } := by
  simp only [constructed, bind_eq_ok, rejectIf_eq_ok, exists_const, decide_eq_false_iff_not,
    not_not, ne_eq] at h
  exact ⟨h.1, (Outcome.ok.inj h.2).symm⟩

theorem acceptControlReady_eq_ok {message : ControlMessage}
    (h : self.acceptControlReady message = .ok next) :
    self.state = .awaitingControlReady ∧ next = { self with state := .controlReady } := by
  simp only [acceptControlReady, bind_eq_ok, rejectIf_eq_ok, exists_const, decide_eq_false_iff_not,
    not_not, ne_eq] at h
  obtain ⟨-, hstate, hrest⟩ := h
  cases message with
  | controlReady roleId attemptGeneration endpoint transactionId =>
      obtain ⟨_, -, hnext⟩ := bind_eq_ok.mp hrest
      exact ⟨hstate, (Outcome.ok.inj hnext).symm⟩
  | _ => cases hrest

theorem bundleTransferred_eq_ok :
    self.bundleTransferred = .ok next ↔
      self.state = .awaitingControlReady ∧ next = { self with state := .bundleTransferred } := by
  simp only [bundleTransferred, bind_eq_ok, rejectIf_eq_ok, exists_const, decide_eq_false_iff_not,
    not_not, ne_eq]
  constructor
  · exact fun h => ⟨h.2.1, (Outcome.ok.inj h.2.2).symm⟩
  · rintro ⟨hstate, rfl⟩
    exact ⟨by simp [hstate], hstate, rfl⟩

theorem driverReady_eq_ok :
    self.driverReady = .ok next ↔
      self.state = .bundleTransferred ∧ next = { self with state := .driverReady } := by
  simp only [driverReady, bind_eq_ok, rejectIf_eq_ok, exists_const, decide_eq_false_iff_not,
    not_not, ne_eq]
  constructor
  · exact fun h => ⟨h.2.1, (Outcome.ok.inj h.2.2).symm⟩
  · rintro ⟨hstate, rfl⟩
    exact ⟨by simp [hstate], hstate, rfl⟩

theorem new_ne_panic (request : DriverLaunchRequest) : new request ≠ .panic := by
  iterate 3 refine bind_ne_panic (rejectIf_ne_panic _ _) fun _ _ => ?_
  exact bind_ne_panic (rejectIf_ne_panic _ _) fun _ _ => pure_ne_panic _

theorem constructed_ne_panic (self : DriverLaunch) : self.constructed ≠ .panic :=
  bind_ne_panic (rejectIf_ne_panic _ _) fun _ _ => pure_ne_panic _

theorem acceptControlReady_ne_panic (message : ControlMessage) (self : DriverLaunch) :
    self.acceptControlReady message ≠ .panic := by
  iterate 2 refine bind_ne_panic (rejectIf_ne_panic _ _) fun _ _ => ?_
  cases message with
  | controlReady roleId attemptGeneration endpoint transactionId =>
      exact bind_ne_panic (rejectIf_ne_panic _ _) fun _ _ => pure_ne_panic _
  | _ => exact nofun

theorem bundleTransferred_ne_panic (self : DriverLaunch) : self.bundleTransferred ≠ .panic := by
  refine bind_ne_panic (rejectIf_ne_panic _ _) fun _ _ => ?_
  exact bind_ne_panic (rejectIf_ne_panic _ _) fun _ _ => pure_ne_panic _

theorem driverReady_ne_panic (self : DriverLaunch) : self.driverReady ≠ .panic := by
  refine bind_ne_panic (rejectIf_ne_panic _ _) fun _ _ => ?_
  exact bind_ne_panic (rejectIf_ne_panic _ _) fun _ _ => pure_ne_panic _

theorem reap_of_live (h : self.state ≠ .reaped) :
    self.reap = .ok { self with state := .reaped } := by
  simp [reap, h]

end DriverLaunch

end Wyrmroot.Devmgr
