import Wyrmroot.Device.Coordinator

/-!
# What one coordinator call can do

`Moves` lists it: a call is refused and changes nothing, or moves the
lifecycle as its name says. The one call that is refused and still changes
something is `overdue`, a cleanup that is completed too close to the end of
time. `exec_moves` says so of all calls while the three launch counters run in
step; nothing after this file unfolds one.
-/

namespace Wyrmroot.Device

open Outcome Coordinator
open Loader (checkedAdd checkedAdd_eq_some)

/-- The launch counters start together and are bumped together. -/
def InStep (s : Coordinator) : Prop :=
  s.nextSession = s.nextAttempt ∧ s.nextEndpoint = s.nextAttempt

def nextDriver (s : Coordinator) : DriverAttempt :=
  ⟨s.nextAttempt, s.nextSession, ⟨s.nextEndpoint, s.nextAttempt⟩⟩

/-- A completed cleanup whose deadline does not exist. -/
def Overdue (s : Coordinator) (nowNs : Nat) : Prop :=
  s.state = .cleaningUp ∧ s.attemptsStarted < maxAttempts ∧ 2 ^ 64 ≤ nowNs + retryBackoffNs

inductive Moves (s : Coordinator) :
    CoordinatorOp → Outcome CoordinatorError Unit → Coordinator → Prop
  | refused (op : CoordinatorOp) (e : CoordinatorError) : Moves s op (.err e) s
  | overdue {nowNs : Nat} : Overdue s nowNs →
      Moves s (.completeFailureCleanup nowNs) (.err .timeOverflow) { s with attempt := none }
  | intake {manifest : Manifest} {content : ContentIdentity} {role : DeviceRole} :
      s.state = .starting → manifest.matchCom2 content = .ok role →
      Moves s (.intakeManifest manifest content) (.ok ())
        { s with role := some role, state := .waitingForRegistry }
  | bind {binding : RegistryBinding} : s.state = .waitingForRegistry →
      Moves s (.registryReady binding) (.ok ())
        { s with registry := some binding, state := .waitingForDeviceBundle }
  | rebind {binding : RegistryBinding} :
      (∀ old, s.registry = some old → old.generation < binding.generation) →
      Moves s (.replaceRegistry binding) (.ok ())
        { s with registry := some binding, publicationEndpoint := none,
                 publishedGeneration := none,
                 state := if s.state = .published then .awaitingPublication else s.state }
  | accept {bundle : DeviceBundle} : s.state = .waitingForDeviceBundle →
      s.lastBundleGeneration < bundle.generation →
      Moves s (.acceptBundle bundle) (.ok ())
        { s with lastBundleGeneration := bundle.generation, attemptsStarted := 0,
                 bundle := some bundle, state := .matched }
  | launch : s.state = .matched → s.attemptsStarted < maxAttempts →
      s.nextAttempt + 1 < 2 ^ 64 →
      Moves s .beginLaunch (.ok ())
        { s with nextAttempt := s.nextAttempt + 1, nextSession := s.nextSession + 1,
                 nextEndpoint := s.nextEndpoint + 1, attemptsStarted := s.attemptsStarted + 1,
                 attempt := some (nextDriver s), state := .launchingDriver }
  | launched {endpoint : DriverEndpoint} : s.state = .launchingDriver →
      s.attempt.map DriverAttempt.endpoint = some endpoint →
      Moves s (.launchAccepted endpoint) (.ok ()) { s with state := .awaitingDriverReady }
  | ready {endpoint : DriverEndpoint} : s.state = .awaitingDriverReady →
      s.attempt.map DriverAttempt.endpoint = some endpoint →
      Moves s (.driverReady endpoint) (.ok ()) { s with state := .awaitingPublication }
  | publish {attempt : DriverAttempt} {endpoint : RegistryEndpoint} {serviceGeneration : Nat} :
      s.state = .awaitingPublication → s.attempt = some attempt →
      s.registry.map RegistryBinding.endpoint = some endpoint →
      s.lastPublishedGeneration < serviceGeneration →
      Moves s (.publish attempt endpoint serviceGeneration) (.ok ())
        { s with publicationEndpoint := some endpoint,
                 publishedGeneration := some serviceGeneration,
                 lastPublishedGeneration := serviceGeneration, state := .published }
  | retire : s.state = .published ∨ s.state = .awaitingPublication →
      Moves s .retire (.ok ())
        { s with publicationEndpoint := none, publishedGeneration := none, state := .cleaningUp }
  | retired : s.state = .cleaningUp →
      Moves s .completeRetireCleanup (.ok ())
        { s with bundle := none, attempt := none, state := .waitingForDeviceBundle }
  | failed {endpoint : DriverEndpoint} :
      s.state = .awaitingDriverReady ∨ s.state = .awaitingPublication ∨ s.state = .published →
      s.attempt.map DriverAttempt.endpoint = some endpoint →
      Moves s (.driverFailed endpoint) (.ok ())
        { s with publicationEndpoint := none, publishedGeneration := none, state := .cleaningUp }
  | abandoned : s.state = .cleaningUp →
      Moves s .cleanupFailed (.ok ()) { s with state := .permanentFailure }
  | exhausted {nowNs : Nat} : s.state = .cleaningUp → maxAttempts ≤ s.attemptsStarted →
      Moves s (.completeFailureCleanup nowNs) (.ok ())
        { s with attempt := none, state := .permanentFailure }
  | cleaned {nowNs : Nat} : s.state = .cleaningUp → s.attemptsStarted < maxAttempts →
      Moves s (.completeFailureCleanup nowNs) (.ok ())
        { s with attempt := none,
                 state := .backoff (s.attemptsStarted + 1) (nowNs + retryBackoffNs) }
  | elapsed {attempt untilNs nowNs : Nat} : s.state = .backoff attempt untilNs →
      untilNs ≤ nowNs →
      Moves s (.backoffElapsed nowNs) (.ok ()) { s with state := .matched }

variable {s : Coordinator}

/-! ## One lemma an operation -/

abbrev Steps (s : Coordinator) (op : CoordinatorOp) : Prop :=
  Prog.wp (exec op) (fun o s' _ => Moves s op o s') s

theorem intakeManifest_moves (manifest : Manifest) (content : ContentIdentity) :
    Steps s (.intakeManifest manifest content) := by
  change Prog.wp (intakeManifest manifest content) _ s
  rw [intakeManifest, Prog.wp_get_bind, Prog.wp_rejectIf_bind]
  refine ⟨fun _ => .refused _ _, fun hstate => ?_⟩
  rw [Prog.wp_lift_bind]
  cases hrole : manifest.matchCom2 content with
  | ok role => exact .intake (by simpa using hstate) hrole
  | err e => exact .refused _ _
  | panic => exact absurd hrole (Manifest.matchCom2_ne_panic _ _)

theorem registryReady_moves (binding : RegistryBinding) : Steps s (.registryReady binding) := by
  change Prog.wp (registryReady binding) _ s
  rw [registryReady, validateRegistry, Prog.wp_rejectIf_bind]
  refine ⟨fun _ => .refused _ _, fun _ => ?_⟩
  rw [Prog.wp_get_bind, Prog.wp_rejectIf_bind]
  exact ⟨fun _ => .refused _ _, fun hstate => .bind (by simpa using hstate)⟩

theorem replaceRegistry_moves (binding : RegistryBinding) : Steps s (.replaceRegistry binding) := by
  change Prog.wp (replaceRegistry binding) _ s
  rw [replaceRegistry, validateRegistry, Prog.wp_rejectIf_bind]
  refine ⟨fun _ => .refused _ _, fun _ => ?_⟩
  rw [Prog.wp_get_bind, Prog.wp_rejectIf_bind]
  refine ⟨fun _ => .refused _ _, fun hfresh => ?_⟩
  have hnewer : ∀ old, s.registry = some old → old.generation < binding.generation := by
    intro old hold
    rw [hold, Option.any_some, staleReplacement, Bool.or_eq_false_iff, Bool.or_eq_false_iff] at hfresh
    exact Nat.lt_of_not_le (of_decide_eq_false hfresh.1.2)
  have hmoves := Moves.rebind hnewer
  rw [Prog.wp_modify_bind]
  split_ifs at hmoves ⊢
  · exact hmoves
  · exact hmoves

theorem acceptBundle_moves (bundle : DeviceBundle) : Steps s (.acceptBundle bundle) := by
  change Prog.wp (acceptBundle bundle) _ s
  rw [acceptBundle, Prog.wp_get_bind, Prog.wp_rejectIf_bind]
  refine ⟨fun _ => .refused _ _, fun hstate => ?_⟩
  rw [Prog.wp_rejectIf_bind]
  refine ⟨fun _ => .refused _ _, fun _ => ?_⟩
  rw [Prog.wp_rejectIf_bind]
  refine ⟨fun _ => .refused _ _, fun hstale => ?_⟩
  exact .accept (by simpa using hstate) (by simpa using hstale)

theorem beginLaunch_moves (h : InStep s) : Steps s .beginLaunch := by
  change Prog.wp beginLaunch _ s
  rw [beginLaunch, Prog.wp_get_bind, Prog.wp_rejectIf_bind]
  refine ⟨fun _ => .refused _ _, fun hstate => ?_⟩
  rw [Prog.wp_rejectIf_bind]
  refine ⟨fun _ => .refused _ _, fun hbudget => ?_⟩
  simp only [decide_eq_false_iff_not, not_not, ne_eq, Nat.not_le] at hstate hbudget
  rw [Prog.wp_lift_bind]
  cases hnext : checkedAdd s.nextAttempt 1 with
  | none => exact .refused _ _
  | some next =>
      -- in step, the other two counters have the same room
      have hu8 : checkedAddU8 s.attemptsStarted 1 = some (s.attemptsStarted + 1) :=
        if_pos (by rw [maxAttempts] at hbudget; omega)
      rw [h.1, h.2, hnext, hu8]
      obtain ⟨hroom, rfl⟩ := checkedAdd_eq_some.mp hnext
      have hmoves := Moves.launch hstate hbudget hroom
      rw [nextDriver, h.1, h.2] at hmoves
      exact hmoves

theorem launchAccepted_moves (endpoint : DriverEndpoint) : Steps s (.launchAccepted endpoint) := by
  change Prog.wp (launchAccepted endpoint) _ s
  rw [launchAccepted, Prog.wp_get_bind, Prog.wp_rejectIf_bind]
  refine ⟨fun _ => .refused _ _, fun hstate => ?_⟩
  rw [Prog.wp_rejectIf_bind]
  refine ⟨fun _ => .refused _ _, fun hsame => ?_⟩
  simp only [Bool.or_eq_false_iff, decide_eq_false_iff_not, not_not, ne_eq] at hstate hsame
  exact .launched hstate hsame.1.1

theorem driverReady_moves (endpoint : DriverEndpoint) : Steps s (.driverReady endpoint) := by
  change Prog.wp (driverReady endpoint) _ s
  rw [driverReady, Prog.wp_get_bind, Prog.wp_rejectIf_bind]
  refine ⟨fun _ => .refused _ _, fun _ => ?_⟩
  rw [Prog.wp_rejectIf_bind]
  refine ⟨fun _ => .refused _ _, fun hstate => ?_⟩
  rw [Prog.wp_rejectIf_bind]
  exact ⟨fun _ => .refused _ _, fun hsame => .ready (by simpa using hstate) (by simpa using hsame)⟩

theorem publish_moves (attempt : DriverAttempt) (endpoint : RegistryEndpoint)
    (serviceGeneration : Nat) : Steps s (.publish attempt endpoint serviceGeneration) := by
  change Prog.wp (Coordinator.publish attempt endpoint serviceGeneration) _ s
  rw [Coordinator.publish, Prog.wp_get_bind, Prog.wp_rejectIf_bind]
  refine ⟨fun _ => .refused _ _, fun hstate => ?_⟩
  rw [Prog.wp_rejectIf_bind]
  refine ⟨fun _ => .refused _ _, fun hattempt => ?_⟩
  rw [Prog.wp_rejectIf_bind]
  refine ⟨fun _ => .refused _ _, fun hregistry => ?_⟩
  rw [Prog.wp_rejectIf_bind]
  refine ⟨fun _ => .refused _ _, fun hstale => ?_⟩
  rw [Bool.or_eq_false_iff] at hstale
  exact .publish (by simpa using hstate) (by simpa using hattempt) (by simpa using hregistry)
    (Nat.lt_of_not_le (of_decide_eq_false hstale.2))

theorem retire_moves : Steps s .retire := by
  change Prog.wp (Coordinator.retire) _ s
  rw [Coordinator.retire, Prog.wp_get_bind, Prog.wp_rejectIf_bind]
  refine ⟨fun _ => .refused _ _, fun hstate => .retire ?_⟩
  simpa [← not_and_or, imp_iff_not_or] using hstate

theorem completeRetireCleanup_moves : Steps s .completeRetireCleanup := by
  change Prog.wp completeRetireCleanup _ s
  rw [completeRetireCleanup, Prog.wp_get_bind, Prog.wp_rejectIf_bind]
  exact ⟨fun _ => .refused _ _, fun hstate => .retired (by simpa using hstate)⟩

theorem driverFailed_moves (endpoint : DriverEndpoint) : Steps s (.driverFailed endpoint) := by
  change Prog.wp (driverFailed endpoint) _ s
  rw [driverFailed, Prog.wp_get_bind, Prog.wp_rejectIf_bind]
  refine ⟨fun _ => .refused _ _, fun hstate => ?_⟩
  rw [Prog.wp_rejectIf_bind]
  refine ⟨fun _ => .refused _ _, fun hsame => .failed ?_ (by simpa using hsame)⟩
  simpa only [ne_eq, Bool.and_eq_false_iff, decide_eq_false_iff_not, not_not, or_assoc] using hstate

theorem cleanupFailed_moves : Steps s .cleanupFailed := by
  change Prog.wp cleanupFailed _ s
  rw [cleanupFailed, Prog.wp_get_bind, Prog.wp_rejectIf_bind]
  exact ⟨fun _ => .refused _ _, fun hstate => .abandoned (by simpa using hstate)⟩

theorem completeFailureCleanup_moves (nowNs : Nat) : Steps s (.completeFailureCleanup nowNs) := by
  have hdeadline := checkedAdd_cases nowNs retryBackoffNs
  change Prog.wp (completeFailureCleanup nowNs) _ s
  rw [completeFailureCleanup, Prog.wp_get_bind, Prog.wp_rejectIf_bind]
  refine ⟨fun _ => .refused _ _, fun hstate => ?_⟩
  simp only [decide_eq_false_iff_not, not_not, ne_eq] at hstate
  rw [Prog.wp_modify_bind]
  by_cases hbudget : maxAttempts ≤ s.attemptsStarted
  · rw [if_pos hbudget]
    exact .exhausted hstate hbudget
  · rw [if_neg hbudget]
    rw [Nat.not_le] at hbudget
    rcases hdeadline with ⟨hnone, hlate⟩ | hsome
    · rw [hnone, okOr_none, Prog.wp_lift_bind]
      exact .overdue ⟨hstate, hbudget, hlate⟩
    · rw [hsome, okOr_some, Prog.wp_lift_bind]
      exact .cleaned hstate hbudget

theorem backoffElapsed_moves (nowNs : Nat) : Steps s (.backoffElapsed nowNs) := by
  change Prog.wp (backoffElapsed nowNs) _ s
  rw [backoffElapsed, Prog.wp_get_bind]
  cases hstate : s.state with
  | backoff attempt untilNs =>
      simp only
      rw [Prog.wp_rejectIf_bind]
      refine ⟨fun _ => .refused _ _, fun htime => ?_⟩
      rw [Prog.wp_rejectIf_bind]
      exact ⟨fun _ => .refused _ _, fun _ => .elapsed hstate (by simpa using htime)⟩
  | _ => exact .refused _ _

theorem exec_moves (h : InStep s) (op : CoordinatorOp) : Moves s op (exec op s).1
    (exec op s).2.1 := by
  cases op with
  | intakeManifest manifest content => exact intakeManifest_moves manifest content
  | registryReady binding => exact registryReady_moves binding
  | replaceRegistry binding => exact replaceRegistry_moves binding
  | acceptBundle bundle => exact acceptBundle_moves bundle
  | beginLaunch => exact beginLaunch_moves h
  | launchAccepted endpoint => exact launchAccepted_moves endpoint
  | driverReady endpoint => exact driverReady_moves endpoint
  | publish attempt endpoint serviceGeneration => exact publish_moves attempt endpoint _
  | retire => exact retire_moves
  | completeRetireCleanup => exact completeRetireCleanup_moves
  | driverFailed endpoint => exact driverFailed_moves endpoint
  | cleanupFailed => exact cleanupFailed_moves
  | completeFailureCleanup nowNs => exact completeFailureCleanup_moves nowNs
  | backoffElapsed nowNs => exact backoffElapsed_moves nowNs

theorem Moves.inStep {op : CoordinatorOp} {o : Outcome CoordinatorError Unit} {s' : Coordinator}
    (h : Moves s op o s') (hs : InStep s) : InStep s' := by
  cases h with
  | launch => exact ⟨congrArg (· + 1) hs.1, congrArg (· + 1) hs.2⟩
  | _ => exact hs

end Wyrmroot.Device
