import Wyrmroot.Devmgr.ResidentSteps

/-!
# Refused resident calls

Most operations check before they write. Two do not: issuing a launch installs
it and then bumps four counters, any of which may be at its limit, and
completing a cleanup counts the failure before it computes the deadline. A
refused call that is neither changes nothing, in every state that is reached.
-/

namespace Wyrmroot.Devmgr

open Outcome ResidentController
open Loader (checkedAdd)
open Device (checkedAddU8 maxAttempts retryBackoffNs)

/-- What every reached state is: no reaped launch is held, the stage generations
stay behind the transactions, and neither without a bundle nor before its READY
is a driver ready. -/
structure Sound (s : ResidentController) : Prop where
  live : Live s
  behind : s.nextDriverStageGeneration < s.nextDriverTransaction
  unbundled : s.bundleGeneration = none →
    (s.status.state = .waitingForRegistry ∨ s.status.state = .waitingForDeviceBundle) ∧
      s.driverReady = false
  awaiting : s.status.state = .awaitingDriverReady → s.driverReady = false

variable {s s' : ResidentController} {abi : DeviceResourceAbi} {op : ResidentOp}
  {o : Outcome DevmgrError ResidentReply}

theorem reboundState_cases (s : ResidentController) :
    (s.reboundState = .cleaningUp ∧ s.status.state = .cleaningUp) ∨
      (s.reboundState = .awaitingPublication ∧ s.driverReady = true) ∨
      (s.reboundState = .matched ∧ s.status.state ≠ .cleaningUp ∧ s.driverReady = false ∧
        s.bundleGeneration ≠ none) ∨
      (s.reboundState = .waitingForDeviceBundle ∧ s.bundleGeneration = none) := by
  rw [reboundState]
  by_cases hcleaning : s.status.state = .cleaningUp
  · exact .inl ⟨if_pos hcleaning, hcleaning⟩
  rw [if_neg hcleaning]
  cases hready : s.driverReady with
  | true => exact .inr (.inl ⟨if_pos rfl, rfl⟩)
  | false =>
      rw [if_neg Bool.false_ne_true]
      cases hbundle : s.bundleGeneration with
      | some bundle => exact .inr (.inr (.inl ⟨rfl, hcleaning, rfl, nofun⟩))
      | none => exact .inr (.inr (.inr ⟨rfl, rfl⟩))

theorem Advances.behind (hadvances : Advances s op o s')
    (hbehind : s.nextDriverStageGeneration < s.nextDriverTransaction) :
    s'.nextDriverStageGeneration < s'.nextDriverTransaction := by
  cases hadvances with
  | halfReserved | issued => exact Nat.lt_succ_of_lt hbehind
  | staged => exact Nat.add_lt_add hbehind (by decide : 1 < 3)
  | connected => exact Nat.succ_lt_succ hbehind
  | _ => exact hbehind

theorem Advances.unbundled (hadvances : Advances s op o s') (ih : Sound s)
    (hnone : s'.bundleGeneration = none) :
    (s'.status.state = .waitingForRegistry ∨ s'.status.state = .waitingForDeviceBundle) ∧
      s'.driverReady = false := by
  have hearly : ∀ state, s.bundleGeneration = none → s.status.state = state →
      state = .waitingForRegistry ∨ state = .waitingForDeviceBundle :=
    fun state hbundle hstate => hstate ▸ (ih.unbundled hbundle).1
  cases hadvances with
  | admitted => cases hnone
  | transferred hstate | committed hstate | terminal hstate | gaveUp hstate | backedOff hstate
  | ready _ hstate =>
      rcases hearly _ hnone hstate with hother | hother <;> cases hother
  | failed hstate =>
      rcases hstate with hstate | hstate | hstate <;>
        rcases hearly _ hnone hstate with hother | hother <;> cases hother
  | retiring hready => cases (ih.unbundled hnone).2.symm.trans hready
  | retried _ _ hbackoff =>
      rcases (ih.unbundled hnone).1 with hstate | hstate <;> rw [hstate] at hbackoff <;>
        cases hbackoff
  | installed => exact ⟨.inr rfl, (ih.unbundled hnone).2⟩
  | rebound =>
      obtain ⟨hstate, hready⟩ := ih.unbundled hnone
      rcases reboundState_cases s with ⟨-, hother⟩ | ⟨-, hother⟩ | ⟨-, -, -, hbundle⟩ | ⟨hother, -⟩
      · rcases hstate with hstate | hstate <;> cases hstate.symm.trans hother
      · cases hready.symm.trans hother
      · exact absurd hnone hbundle
      · exact ⟨.inr hother, hready⟩
  | closed => exact ⟨.inl rfl, (ih.unbundled hnone).2⟩
  | reaped => exact ⟨(ih.unbundled hnone).1, rfl⟩
  | _ => exact ih.unbundled hnone

theorem Advances.awaiting (hadvances : Advances s op o s') (ih : Sound s)
    (hstate : s'.status.state = .awaitingDriverReady) : s'.driverReady = false := by
  cases hadvances with
  | transferred _ hready => exact hready
  | terminal | reaped => rfl
  | admitted | ready | committed | failed | retiring | gaveUp | backedOff | retried | installed
  | closed => cases hstate
  | rebound =>
      simp only [bound, withState] at hstate
      rcases reboundState_cases s with ⟨hother, -⟩ | ⟨hother, -⟩ | ⟨hother, -⟩ | ⟨hother, -⟩ <;>
        cases hother.symm.trans hstate
  | _ => exact ih.awaiting hstate

theorem Advances.sound (hadvances : Advances s op o s') (h : Sound s) : Sound s' :=
  ⟨hadvances.live h.live, hadvances.behind h.behind, hadvances.unbundled h, hadvances.awaiting h⟩

theorem checkedAdd_eq {a b c : Nat} (h : checkedAdd a b = some c) : c = a + b :=
  (Loader.checkedAdd_eq_some.mp h).2.symm

variable {status : OperationalStatus} {startup : Nat}

theorem new_eq_ok {fresh : ResidentController}
    (h : ResidentController.new status startup = .ok fresh) :
    fresh = { status, startupTransactionId := startup, lastTransactionId := 0, lastBinding := none,
              publicationServiceGeneration := 0, activeBinding := none, retiredBinding := none,
              retiredDriverAttempt := none, activeDriver := none, bundleGeneration := none,
              driverReady := false, publicationCurrent := false,
              nextDriverAttempt :=
                status.supervisorGeneration * driverCorrelationStride + driverAttemptOffset,
              nextDriverSession :=
                status.supervisorGeneration * driverCorrelationStride + driverSessionOffset,
              nextDriverEndpoint :=
                status.supervisorGeneration * driverCorrelationStride + driverEndpointOffset,
              nextDriverTransaction :=
                status.supervisorGeneration * driverCorrelationStride + driverTransactionOffset,
              nextDriverStageGeneration :=
                status.supervisorGeneration * driverCorrelationStride + driverAttemptOffset,
              driverFailures := 0, retryUntilNs := none, driverLeaseGeneration := none,
              driverIrqBinding := none } ∧
      startup ≠ 0 ∧ status.state = .waitingForRegistry ∧
      status.supervisorGeneration * driverCorrelationStride + driverTransactionOffset < 2 ^ 64 := by
  simp only [ResidentController.new, bind_eq_ok, rejectIf_eq_ok, okOr_eq_ok, exists_const,
    decide_eq_false_iff_not, not_not, ne_eq] at h
  obtain ⟨hstartup, hstate, stride, hstride, attempt, hattempt, session, hsession, endpoint,
    hendpoint, transaction, htransaction, hfresh⟩ := h
  obtain rfl : status.supervisorGeneration * driverCorrelationStride = stride := by
    unfold checkedMul at hstride
    split_ifs at hstride
    exact Option.some.inj hstride
  have hroom := (Loader.checkedAdd_eq_some.mp htransaction).1
  rw [checkedAdd_eq hattempt, checkedAdd_eq hsession, checkedAdd_eq hendpoint,
    checkedAdd_eq htransaction] at hfresh
  exact ⟨(Outcome.ok.inj hfresh).symm, hstartup, hstate, hroom⟩

theorem Sound.fresh {fresh : ResidentController}
    (h : ResidentController.new status startup = .ok fresh) : Sound fresh := by
  obtain ⟨rfl, -, hstate, -⟩ := new_eq_ok h
  exact ⟨nofun, Nat.add_lt_add_left (by decide) _, fun _ => ⟨.inl hstate, rfl⟩, fun _ => rfl⟩

theorem resident_sound {fresh : ResidentController} {ops : List ResidentOp} {h : List ResidentCall}
    (hnew : ResidentController.new status startup = .ok fresh)
    (hrun : replay (serve abi) ops fresh = (h, s)) : Sound s := by
  have hstep : ∀ (_ : List ResidentCall) (s : ResidentController) (op : ResidentOp), Sound s →
      Sound (serve abi op s).2.1 := fun _ s op hs => (serve_advances abi hs.live op).sound hs
  have hkeeps := replay_keeps hstep ops (h := []) (.fresh hnew)
  rw [hrun] at hkeeps
  exact hkeeps

/-! ## The calls that stop half way -/

/-- A cleanup that is counted although its deadline does not exist. -/
def Uncleaned (s : ResidentController) (nowNs : Nat) : Prop :=
  s.status.state = .cleaningUp ∧ s.driverFailures + 1 < maxAttempts ∧
    2 ^ 64 ≤ nowNs + retryBackoffNs

inductive Halfway (s : ResidentController) : ResidentOp → Prop
  | launch {op : ResidentOp} {childIsChannel : Bool} {childRights : DirectControlRights} :
      Issuable s op childIsChannel childRights → ¬ Room s → Halfway s op
  | cleanup {nowNs : Nat} : Uncleaned s nowNs → Halfway s (.completeDriverFailureCleanup nowNs)

theorem Advances.refusal {e : DevmgrError} (hadvances : Advances s op (.err e) s') (h : Sound s) :
    s' = s ∨ Halfway s op := by
  cases hadvances with
  | refused => exact .inl rfl
  | halfLaunched hissuable hroom => exact .inr (.launch hissuable hroom)
  | halfReserved hroom hfull =>
      have hbehind := h.behind
      omega
  | uncleaned hstate hbudget hlate => exact .inr (.cleanup ⟨hstate, hbudget, hlate⟩)

theorem launch_halfway {childIsChannel : Bool} {childRights : DirectControlRights}
    (h : Launchable s childIsChannel childRights) (hroom : ¬ Room s) :
    (issueDriverLaunch childIsChannel childRights).wp
      (fun o s' _ => (∃ e, o = .err e) ∧ s'.activeDriver ≠ none) s :=
  issueDriverLaunch_wp (fun _ hnot => absurd h hnot)
    (fun _ _ _ _ _ _ _ _ _ => ⟨⟨_, rfl⟩, Option.some_ne_none _⟩) fun _ hroom' => absurd hroom' hroom

theorem serve_halfway (abi : DeviceResourceAbi) (h : Halfway s op) :
    ∃ e, (serve abi op s).1 = .err e ∧ (serve abi op s).2.1 ≠ s := by
  cases h with
  | launch hissuable hroom =>
      obtain ⟨hissues, hlaunchable⟩ := hissuable
      have hlaunch : (serve abi op).wp
          (fun o s' _ => (∃ e, o = .err e) ∧ s'.activeDriver ≠ none) s := by
        rcases hissues with rfl | ⟨rfl, hbundle, hstate⟩
        · rw [serve, Prog.wp_map]
          refine Prog.wp_mono (launch_halfway hlaunchable hroom) ?_
          rintro _ s' w ⟨⟨e, rfl⟩, hdriver⟩
          exact ⟨⟨e, rfl⟩, hdriver⟩
        · rw [serve, Prog.wp_map, issueDriverLaunchWithBundle, Prog.wp_get_bind,
            Prog.wp_rejectIf_bind]
          refine ⟨fun hrefused => ?_, fun _ => ?_⟩
          · rw [Bool.or_eq_true, Option.isNone_iff_eq_none, decide_eq_true_eq] at hrefused
            exact absurd hstate (hrefused.resolve_left hbundle)
          · refine Prog.wp_mono (launch_halfway hlaunchable hroom) ?_
            rintro _ s' w ⟨⟨e, rfl⟩, hdriver⟩
            exact ⟨⟨e, rfl⟩, hdriver⟩
      obtain ⟨⟨e, herr⟩, hdriver⟩ := hlaunch
      refine ⟨e, herr, fun hsame => ?_⟩
      rw [hsame] at hdriver
      exact hdriver hlaunchable.driver
  | @cleanup nowNs huncleaned =>
      obtain ⟨hstate, hbudget, hlate⟩ := huncleaned
      have hnone : checkedAdd nowNs retryBackoffNs = none := if_neg (Nat.not_lt.mpr hlate)
      have hu8 : checkedAddU8 s.driverFailures 1 = some (s.driverFailures + 1) :=
        if_pos (by rw [maxAttempts] at hbudget; omega)
      have hcleanup : (serve abi (.completeDriverFailureCleanup nowNs)).wp
          (fun o s' _ => (∃ e, o = .err e) ∧ s'.driverFailures = s.driverFailures + 1) s := by
        rw [serve, Prog.wp_bind_pure, completeDriverFailureCleanup, Prog.wp_get_bind,
          Prog.wp_rejectIf_bind]
        refine ⟨fun hrefused => absurd hstate (of_decide_eq_true hrefused), fun _ => ?_⟩
        rw [hu8, okOr_some, Prog.lift_ok_bind, Prog.wp_modify_bind,
          if_neg (Nat.not_le.mpr hbudget), hnone, okOr_none, Prog.wp_lift_bind]
        exact ⟨⟨_, rfl⟩, rfl⟩
      obtain ⟨⟨e, herr⟩, hcounted⟩ := hcleanup
      refine ⟨e, herr, fun hsame => ?_⟩
      rw [hsame] at hcounted
      omega

/-- In every state a run reaches, a refused call changes nothing exactly when it is
not one of those. -/
theorem resident_atomicity (abi : DeviceResourceAbi) (status : OperationalStatus) (startup : Nat)
    (fresh s : ResidentController) (ops : List ResidentOp) (h : List ResidentCall)
    (op : ResidentOp) (hnew : ResidentController.new status startup = .ok fresh)
    (hrun : replay (serve abi) ops fresh = (h, s)) :
    (∀ e, (serve abi op s).1 = .err e → (serve abi op s).2.1 = s) ↔ ¬ Halfway s op := by
  have hsound := resident_sound hnew hrun
  constructor
  · intro hatomic hhalfway
    obtain ⟨e, herr, hchanged⟩ := serve_halfway abi hhalfway
    exact hchanged (hatomic e herr)
  · intro hnot e herr
    have hadvances := serve_advances abi hsound.live op
    rw [herr] at hadvances
    exact (hadvances.refusal hsound).resolve_right hnot

/-! ## A controller and its first driver -/

def operational (supervisorGeneration : Nat) : OperationalStatus :=
  { supervisorGeneration, state := .waitingForRegistry, profile := 1, profileVersion := 1,
    roleId := 1, pio := ⟨0x2f8, 8⟩, irq := 3, driverIdentity := .replicate 32 0x5a,
    metadataPolicy := 1 }

def freshResident (supervisorGeneration : Nat) : ResidentController :=
  { status := operational supervisorGeneration, startupTransactionId := 41, lastTransactionId := 0, lastBinding := none,
    publicationServiceGeneration := 0, activeBinding := none, retiredBinding := none,
    retiredDriverAttempt := none, activeDriver := none, bundleGeneration := none,
    driverReady := false, publicationCurrent := false,
    nextDriverAttempt := supervisorGeneration * driverCorrelationStride + driverAttemptOffset,
    nextDriverSession := supervisorGeneration * driverCorrelationStride + driverSessionOffset,
    nextDriverEndpoint := supervisorGeneration * driverCorrelationStride + driverEndpointOffset,
    nextDriverTransaction :=
      supervisorGeneration * driverCorrelationStride + driverTransactionOffset,
    nextDriverStageGeneration :=
      supervisorGeneration * driverCorrelationStride + driverAttemptOffset, driverFailures := 0, retryUntilNs := none,
    driverLeaseGeneration := none, driverIrqBinding := none }

def resourceAbi : DeviceResourceAbi := ⟨64, 1, 1⟩

/-- The controller is bound, is given its resource and launches a driver. -/
def residentLaunch (supervisorGeneration : Nat) : List ResidentOp :=
  [.accept (.installPublication supervisorGeneration ⟨7, ⟨1, 1⟩⟩ 41) 0,
   .admitDeviceResource ⟨64, 1, 1, 0, 1, 19, 0x2f8, 8, 3, 0⟩,
   .issueDriverLaunchWithBundle true .exactReduced, .driverConstructed, .bundleTransferred]

/-- The endpoint of that driver. -/
def firstEndpoint (supervisorGeneration : Nat) : ControlEndpoint :=
  ⟨supervisorGeneration * driverCorrelationStride + driverEndpointOffset, 1⟩

/-- A cleanup at the end of time is counted. -/
theorem uncleaned_failure : ¬ ∀ (abi : DeviceResourceAbi) (status : OperationalStatus)
    (startup : Nat) (fresh s : ResidentController) (ops : List ResidentOp) (h : List ResidentCall)
    (op : ResidentOp), ResidentController.new status startup = .ok fresh →
      replay (serve abi) ops fresh = (h, s) →
        ∀ e, (serve abi op s).1 = .err e → (serve abi op s).2.1 = s := by
  intro hall
  have hsame := hall resourceAbi (operational 7) 41 (freshResident 7) _
    (residentLaunch 7 ++ [.driverFailed (firstEndpoint 7)]) _
    (.completeDriverFailureCleanup (2 ^ 64 - 1)) (by decide +kernel) rfl
    (exhausted .retryDeadline) (by decide +kernel)
  revert hsame
  decide +kernel

theorem refused_failure :
    (serve resourceAbi (.driverFailed ⟨1, 1⟩)
      (replay (serve resourceAbi) (residentLaunch 7) (freshResident 7)).2).2.1 =
      (replay (serve resourceAbi) (residentLaunch 7) (freshResident 7)).2 :=
  (resident_atomicity resourceAbi (operational 7) 41 (freshResident 7) _ (residentLaunch 7) _
    (.driverFailed ⟨1, 1⟩) (by decide +kernel) rfl).mpr
    (by rintro ⟨⟨hissues | ⟨hissues, -⟩, -⟩, -⟩ <;> cases hissues)
    .controllerPrecondition (by decide +kernel)

end Wyrmroot.Devmgr
