import Wyrmroot.Devmgr.ResidentAtomicity

/-!
# A registry that is lost and found again

Losing the registry peer overwrites the state, and the rebind computes it from
the two flags that are left. That is enough for a driver that is matched, ready
or published. A driver whose READY is awaited is taken for one that is only
matched, and a cleanup under way is forgotten: the two states in which the
driver side does not go on are exactly these.
-/

namespace Wyrmroot.Devmgr

open Outcome ResidentController

def CleansUp (op : ResidentOp) : Prop :=
  op = .publicationRetired ∨ op = .reapDriver ∨ ∃ nowNs, op = .completeDriverFailureCleanup nowNs

/-- The driver side goes on in `s'` as it would have in `s`. -/
structure Resumes (abi : DeviceResourceAbi) (s s' : ResidentController) : Prop where
  ready : s.status.state = .awaitingDriverReady → ∀ op, AcceptsReady op →
    (serve abi op s).1.isOk = true → (serve abi op s').1.isOk = true
  cleanup : s.status.state = .cleaningUp → ∀ op, CleansUp op →
    (serve abi op s).1.isOk = true → (serve abi op s').1.isOk = true
  counted : s.status.state = .cleaningUp → ∀ nowNs,
    (serve abi (.completeDriverFailureCleanup nowNs) s).1.isOk = true →
      (serve abi (.completeDriverFailureCleanup nowNs) s').2.1.driverFailures =
        s.driverFailures + 1
  retained : s.status.state = .matched ∨ s.status.state = .awaitingPublication ∨
      s.status.state = .published →
    s'.driverReady = s.driverReady ∧ s'.bundleGeneration = s.bundleGeneration ∧
      s'.activeDriver = s.activeDriver ∧
      (s.driverReady = true → (serve abi .publicationCommitted s').1.isOk = true) ∧
      (s.driverReady = false → s'.status.state = .matched)

variable {s s' : ResidentController} {abi : DeviceResourceAbi} {op : ResidentOp}

/-- What a lost peer leaves. -/
def lost (s : ResidentController) : ResidentController :=
  withState { s with activeBinding := none, publicationCurrent := false } .waitingForRegistry

theorem lost_reboundState (s : ResidentController) : (lost s).reboundState =
    if s.driverReady then .awaitingPublication
    else if s.bundleGeneration.isSome then .matched else .waitingForDeviceBundle := by
  rw [reboundState, if_neg (by rintro ⟨⟩)]
  rfl

theorem publicationPeerClosed_lost (hbinding : s.activeBinding ≠ none) :
    (serve abi .publicationPeerClosed s).2.1 = lost s := by
  have hlost : (serve abi .publicationPeerClosed).wp (fun _ s' _ => s' = lost s) s := by
    rw [serve, Prog.wp_bind_pure, publicationPeerClosed, Prog.wp_get_bind, Prog.wp_rejectIf_bind]
    exact ⟨fun hnone => absurd (Option.isNone_iff_eq_none.mp hnone) hbinding, fun _ => rfl⟩
  exact hlost

theorem rebind_bound (hlive : Live s)
    (hrebound : (serve abi op s).1 = .ok (.action .publicationRebound)) :
    ∃ binding transactionId service,
      (serve abi op s).2.1 = bound s binding transactionId service s.reboundState := by
  have hadvances := serve_advances abi hlive op
  rw [hrebound] at hadvances
  generalize (serve abi op s).2.1 = s' at hadvances
  cases hadvances with
  | rebound => exact ⟨_, _, _, rfl⟩

/-! ## The operations that go on -/

theorem publicationRetired_isOk (hbinding : s.activeBinding ≠ none)
    (hstate : s.status.state = .cleaningUp) : (serve abi .publicationRetired s).1.isOk = true := by
  have hretired : (serve abi .publicationRetired).wp (fun o _ _ => o.isOk = true) s := by
    rw [serve, Prog.wp_bind_pure, publicationRetired, Prog.wp_get_bind, Prog.wp_rejectIf_bind]
    refine ⟨fun hrefused => ?_, fun _ => rfl⟩
    rw [Bool.or_eq_true, decide_eq_true_eq, Option.isNone_iff_eq_none] at hrefused
    exact absurd hrefused (not_or.mpr ⟨not_not.mpr hstate, hbinding⟩)
  exact hretired

theorem publicationCommitted_isOk (hstate : s.status.state = .awaitingPublication)
    (hready : s.driverReady = true) (hbinding : s.activeBinding ≠ none)
    (hcurrent : s.publicationCurrent = false) :
    (serve abi .publicationCommitted s).1.isOk = true := by
  have hcommitted : (serve abi .publicationCommitted).wp (fun o _ _ => o.isOk = true) s := by
    rw [serve, Prog.wp_bind_pure, publicationCommitted, Prog.wp_get_bind, Prog.wp_rejectIf_bind]
    refine ⟨fun hrefused => ?_, fun _ => rfl⟩
    rw [hstate, hready, hcurrent] at hrefused
    exact absurd (Option.isNone_iff_eq_none.mp (by simpa using hrefused)) hbinding
  exact hcommitted

theorem driverReady_isOk {request : DriverLaunchRequest} {bundle : Nat}
    (hstate : s.status.state = .awaitingDriverReady) (hready : s.driverReady = false)
    (hbundle : s.bundleGeneration = some bundle)
    (hdriver : s.activeDriver = some ⟨request, .bundleTransferred⟩) :
    (serve abi (.acceptDriverReadyForTransaction (.ready request.roleId bundle
      request.attemptGeneration request.endpoint 1) 1) s).1.isOk = true := by
  have hrequest : s.activeDriverRequest = some request := by rw [activeDriverRequest, hdriver]; rfl
  have hnext : DriverLaunch.driverReady ⟨request, .bundleTransferred⟩ = .ok ⟨request, .driverReady⟩ :=
    DriverLaunch.driverReady_eq_ok.mpr ⟨rfl, rfl⟩
  have haccepted : (serve abi (.acceptDriverReadyForTransaction (.ready request.roleId bundle
      request.attemptGeneration request.endpoint 1) 1)).wp (fun o _ _ => o.isOk = true) s := by
    rw [serve, Prog.wp_bind_pure, acceptDriverReadyForTransaction, Prog.wp_get_bind,
      Prog.wp_rejectIf_bind]
    refine ⟨fun hrefused => ?_, fun _ => ?_⟩
    · simp [hstate, hready] at hrefused
    rw [Prog.wp_rejectIf_bind]
    refine ⟨by rintro ⟨⟩, fun _ => ?_⟩
    rw [hrequest, okOr_some, Prog.lift_ok_bind, hbundle, okOr_some, Prog.lift_ok_bind,
      Prog.wp_rejectIf_bind]
    refine ⟨fun hrefused => absurd rfl (of_decide_eq_true hrefused), fun _ => ?_⟩
    rw [Prog.wp_bind, withActiveDriver, Prog.wp_get_bind, hdriver, okOr_some, Prog.lift_ok_bind,
      hnext]
    rfl
  exact haccepted

theorem Advances.awaited {reply : ResidentReply} (hadvances : Advances s op (.ok reply) s')
    (hop : AcceptsReady op) : s.status.state = .awaitingDriverReady ∧
      ∃ request, s.activeDriver = some ⟨request, .bundleTransferred⟩ := by
  obtain ⟨message, rfl | ⟨transactionId, rfl⟩⟩ := hop
  all_goals
    cases hadvances with
    | issued hissuable => rcases hissuable.1 with hop | ⟨hop, -⟩ <;> cases hop
    | ready _ hstate hdriver => exact ⟨hstate, _, hdriver⟩
    | installed hdelivers => cases hdelivers
    | rebound hrebinds =>
        obtain ⟨hdelivers⟩ := hrebinds
        cases hdelivers

theorem Advances.cleansUp {reply : ResidentReply}
    (hadvances : Advances s .publicationRetired (.ok reply) s') : s.status.state = .cleaningUp := by
  cases hadvances with
  | issued hissuable => rcases hissuable.1 with hop | ⟨hop, -⟩ <;> cases hop
  | ready hop => obtain ⟨message, hop | ⟨transactionId, hop⟩⟩ := hop <;> cases hop
  | retired hstate => exact hstate
  | installed hdelivers => cases hdelivers
  | rebound hrebinds =>
      obtain ⟨hdelivers⟩ := hrebinds
      cases hdelivers

/-! ## The two states -/

/-- From every state that is reached with a binding, the driver side goes on behind a
lost peer and an accepted rebind exactly when it was neither cleaning up nor
awaiting the READY of a driver. -/
theorem registry_loss (abi : DeviceResourceAbi) (status : OperationalStatus) (startup : Nat)
    (fresh s : ResidentController) (ops : List ResidentOp) (h : List ResidentCall) (op : ResidentOp)
    (hnew : ResidentController.new status startup = .ok fresh)
    (hrun : replay (serve abi) ops fresh = (h, s)) (hbinding : s.activeBinding ≠ none)
    (hrebound : (serve abi op (serve abi .publicationPeerClosed s).2.1).1 =
      .ok (.action .publicationRebound)) :
    Resumes abi s (serve abi op (serve abi .publicationPeerClosed s).2.1).2.1 ↔
      s.status.state ≠ .cleaningUp ∧ ∀ request, s.status.state = .awaitingDriverReady →
        s.activeDriver ≠ some ⟨request, .bundleTransferred⟩ := by
  have hsound := resident_sound hnew hrun
  rw [publicationPeerClosed_lost hbinding] at hrebound ⊢
  obtain ⟨binding, transactionId, service, hbound⟩ := rebind_bound (s := lost s) hsound.live hrebound
  rw [hbound]
  have hlive : Live (bound (lost s) binding transactionId service (lost s).reboundState) :=
    hsound.live
  have hbusy : (lost s).reboundState ≠ .cleaningUp ∧ (lost s).reboundState ≠ .awaitingDriverReady := by
    rw [lost_reboundState]
    split_ifs <;> exact ⟨nofun, nofun⟩
  constructor
  · intro hresumes
    refine ⟨fun hstate => ?_, fun request hstate hdriver => ?_⟩
    · obtain ⟨reply, hok⟩ := exists_of_isOk (hresumes.cleanup hstate _ (.inl rfl)
        (publicationRetired_isOk hbinding hstate))
      have hadvances := serve_advances abi hlive .publicationRetired
      rw [hok] at hadvances
      exact hbusy.1 hadvances.cleansUp
    · obtain ⟨bundle, hbundle⟩ := Option.ne_none_iff_exists'.mp fun hnone => by
        rcases (hsound.unbundled hnone).1 with hother | hother <;> cases hother.symm.trans hstate
      have hop : AcceptsReady (.acceptDriverReadyForTransaction (.ready request.roleId bundle
        request.attemptGeneration request.endpoint 1) 1) := ⟨_, .inr ⟨_, rfl⟩⟩
      obtain ⟨reply, hok⟩ := exists_of_isOk (hresumes.ready hstate _ hop
        (driverReady_isOk hstate (hsound.awaiting hstate) hbundle hdriver))
      have hadvances := serve_advances abi hlive
        (.acceptDriverReadyForTransaction (.ready request.roleId bundle
          request.attemptGeneration request.endpoint 1) 1)
      rw [hok] at hadvances
      exact hbusy.2 (hadvances.awaited hop).1
  · rintro ⟨hclean, hunawaited⟩
    refine ⟨fun hstate op hop hok => ?_, fun hstate => absurd hstate hclean,
      fun hstate => absurd hstate hclean, fun hstate => ?_⟩
    · obtain ⟨reply, hok⟩ := exists_of_isOk hok
      have hadvances := serve_advances abi hsound.live op
      rw [hok] at hadvances
      obtain ⟨request, hdriver⟩ := (hadvances.awaited hop).2
      exact absurd hdriver (hunawaited request hstate)
    · refine ⟨rfl, rfl, rfl, fun hready => ?_, fun hready => ?_⟩
      · have hpublication : (lost s).reboundState = .awaitingPublication := by
          rw [lost_reboundState, if_pos hready]
        exact publicationCommitted_isOk hpublication hready (Option.some_ne_none _) rfl
      · have hbundle : s.bundleGeneration ≠ none := fun hnone => by
          rcases (hsound.unbundled hnone).1 with hother | hother <;>
            rcases hstate with hstate | hstate | hstate <;> cases hother.symm.trans hstate
        show (lost s).reboundState = .matched
        rw [lost_reboundState, if_neg (by simp [hready]),
          if_pos (Option.isSome_iff_ne_none.mpr hbundle)]

/-- The READY of the first driver. -/
def firstReady (supervisorGeneration : Nat) : ControlMessage :=
  .ready 1 19 (supervisorGeneration * driverCorrelationStride + driverAttemptOffset)
    (firstEndpoint supervisorGeneration)
    (supervisorGeneration * driverCorrelationStride + driverTransactionOffset)

/-- The binding that replaces the first one. -/
def replacement : ResidentOp := .accept (.rebindPublication 7 ⟨7, ⟨1, 2⟩⟩ 42) 1

/-- The registry is lost while the first READY is awaited. -/
theorem forgotten_ready : ¬ ∀ (abi : DeviceResourceAbi) (status : OperationalStatus) (startup : Nat)
    (fresh s : ResidentController) (ops : List ResidentOp) (h : List ResidentCall)
    (op : ResidentOp),
    ResidentController.new status startup = .ok fresh → replay (serve abi) ops fresh = (h, s) →
      s.activeBinding ≠ none →
      (serve abi op (serve abi .publicationPeerClosed s).2.1).1 =
        .ok (.action .publicationRebound) →
      Resumes abi s (serve abi op (serve abi .publicationPeerClosed s).2.1).2.1 := by
  intro hall
  have hresumes := hall resourceAbi (operational 7) 41 (freshResident 7) _ (residentLaunch 7) _
    replacement (by decide +kernel) Prod.mk.eta.symm (by decide +kernel) (by decide +kernel)
  have hrefused := hresumes.ready (by decide +kernel) (.acceptDriverReady (firstReady 7))
    ⟨_, .inl rfl⟩ (by decide +kernel)
  revert hrefused
  decide +kernel

/-- The first driver is published. -/
def published : List ResidentOp :=
  residentLaunch 7 ++ [.acceptDriverReady (firstReady 7), .publicationCommitted]

theorem published_resumes :
    Resumes resourceAbi (replay (serve resourceAbi) published (freshResident 7)).2
      (serve resourceAbi replacement (serve resourceAbi .publicationPeerClosed
        (replay (serve resourceAbi) published (freshResident 7)).2).2.1).2.1 := by
  have hstate : (replay (serve resourceAbi) published (freshResident 7)).2.status.state =
      .published := by decide +kernel
  refine (registry_loss resourceAbi (operational 7) 41 (freshResident 7) _ published _ replacement
    (by decide +kernel) Prod.mk.eta.symm (by decide +kernel) (by decide +kernel)).mpr
      ⟨?_, fun request hawaiting => ?_⟩
  · rw [hstate]
    exact nofun
  · cases hstate.symm.trans hawaiting

end Wyrmroot.Devmgr
