import Wyrmroot.Lib.Ascending
import Wyrmroot.Device.Lifecycle

/-!
# The coordinator over whole runs

What the fields of a coordinator say of its state (`Shape`) and of the calls
that led to it (`History`): the counters are above everything they handed out,
the attempts of a bundle are counted, and a publication is the last one that
was accepted. Each is kept by every move.
-/

namespace Wyrmroot.Device

open Outcome Coordinator
open Loader (checkedAdd)

/-! ## What a history shows -/

def beganLaunch (c : CoordinatorCall) : Bool :=
  match c.op, c.outcome with
  | .beginLaunch, .ok _ => true
  | _, _ => false

/-- The generation of an accepted bundle. -/
def acceptedBundle (c : CoordinatorCall) : Option Nat :=
  match c.op, c.outcome with
  | .acceptBundle bundle, .ok _ => some bundle.generation
  | _, _ => none

/-- The generation of an accepted publication. -/
def publishedService (c : CoordinatorCall) : Option Nat :=
  match c.op, c.outcome with
  | .publish _ _ serviceGeneration, .ok _ => some serviceGeneration
  | _, _ => none

/-- The attempt that was begun. -/
def begunAttempt (c : CoordinatorCall) : Option DriverAttempt :=
  if beganLaunch c then c.after.attempt else none

def attempts (h : List CoordinatorCall) : List DriverAttempt := h.filterMap begunAttempt

def bundles (h : List CoordinatorCall) : List Nat := h.filterMap acceptedBundle

def publications (h : List CoordinatorCall) : List Nat := h.filterMap publishedService

/-- The launches since a bundle was last accepted. -/
def launchesOfBundle (h : List CoordinatorCall) : Nat :=
  h.foldl (fun count c => if (acceptedBundle c).isSome then 0
    else if beganLaunch c then count + 1 else count) 0

/-- A cleanup was overdue, and has not been completed since. -/
def OverdueCleanup (h : List CoordinatorCall) : Prop :=
  ∃ before c after, h = before ++ c :: after ∧ c.outcome = .err .timeOverflow ∧
    ∀ d ∈ after, d.after.state = .cleaningUp

/-! ## One state -/

/-- The states in which a driver is being launched or runs. -/
def Driving : CoordinatorState → Prop
  | .launchingDriver | .awaitingDriverReady | .awaitingPublication | .published => True
  | _ => False

/-- The states in which there is no driver. -/
def Idle : CoordinatorState → Prop
  | .starting | .waitingForRegistry | .waitingForDeviceBundle | .matched | .backoff _ _ => True
  | _ => False

structure Shape (s : Coordinator) : Prop where
  inStep : InStep s
  budget : s.attemptsStarted ≤ maxAttempts
  driving : Driving s.state → s.attempt ≠ none
  idle : Idle s.state → s.attempt = none
  unpublished : s.state ≠ .published → s.publicationEndpoint = none ∧ s.publishedGeneration = none
  published : s.state = .published → ∃ binding, s.registry = some binding ∧
    s.publicationEndpoint = some binding.endpoint ∧
    s.publishedGeneration = some s.lastPublishedGeneration

variable {s s' : Coordinator} {op : CoordinatorOp} {o : Outcome CoordinatorError Unit}
  {h : List CoordinatorCall}

theorem endpoint_isSome {attempt : Option DriverAttempt} {endpoint : DriverEndpoint}
    (h : attempt.map DriverAttempt.endpoint = some endpoint) : attempt ≠ none := by
  rintro rfl
  cases h

theorem Moves.attempt (hmoves : Moves s op o s') (h : Shape s) :
    (Driving s'.state → s'.attempt ≠ none) ∧ (Idle s'.state → s'.attempt = none) := by
  cases hmoves with
  | refused => exact ⟨h.driving, h.idle⟩
  | overdue hoverdue =>
      refine ⟨fun hdriving => ?_, fun _ => rfl⟩
      rw [hoverdue.1] at hdriving
      exact hdriving.elim
  | intake hstate | bind hstate | accept hstate | elapsed hstate =>
      exact ⟨nofun, fun _ => h.idle (hstate ▸ trivial)⟩
  | rebind =>
      simp only
      split_ifs with hstate
      · exact ⟨fun _ => h.driving (hstate ▸ trivial), nofun⟩
      · exact ⟨h.driving, h.idle⟩
  | launch => exact ⟨fun _ => Option.some_ne_none _, nofun⟩
  | launched _ hattempt | ready _ hattempt => exact ⟨fun _ => endpoint_isSome hattempt, nofun⟩
  | publish hstate => exact ⟨fun _ => h.driving (hstate ▸ trivial), nofun⟩
  | retire | failed | abandoned => exact ⟨nofun, nofun⟩
  | retired | exhausted | cleaned => exact ⟨nofun, fun _ => rfl⟩

theorem Moves.publication (hmoves : Moves s op o s') (h : Shape s) :
    (s'.state ≠ .published → s'.publicationEndpoint = none ∧ s'.publishedGeneration = none) ∧
    (s'.state = .published → ∃ binding, s'.registry = some binding ∧
      s'.publicationEndpoint = some binding.endpoint ∧
      s'.publishedGeneration = some s'.lastPublishedGeneration) := by
  have hunpublished : ∀ state, s.state = state → state ≠ .published →
      s.publicationEndpoint = none ∧ s.publishedGeneration = none :=
    fun state hstate hne => h.unpublished (hstate ▸ hne)
  cases hmoves with
  | refused => exact ⟨h.unpublished, h.published⟩
  | overdue hoverdue =>
      have hstate := hoverdue.1
      exact ⟨fun _ => hunpublished _ hstate nofun, fun hpublished => by simp [hstate] at hpublished⟩
  | rebind =>
      refine ⟨fun _ => ⟨rfl, rfl⟩, fun hpublished => ?_⟩
      simp only at hpublished
      split_ifs at hpublished with hstate
      exact absurd hpublished hstate
  | publish _ _ hregistry =>
      obtain ⟨binding, hbinding, rfl⟩ := Option.map_eq_some_iff.mp hregistry
      exact ⟨fun hne => absurd rfl hne, fun _ => ⟨binding, hbinding, rfl, rfl⟩⟩
  | retire | failed => exact ⟨fun _ => ⟨rfl, rfl⟩, nofun⟩
  | launched hstate | ready hstate | intake hstate | bind hstate | accept hstate | launch hstate
  | retired hstate | abandoned hstate | exhausted hstate | cleaned hstate | elapsed hstate =>
      exact ⟨fun _ => hunpublished _ hstate nofun, nofun⟩

theorem Moves.shape (hmoves : Moves s op o s') (h : Shape s) : Shape s' := by
  refine ⟨hmoves.inStep h.inStep, ?_, (hmoves.attempt h).1, (hmoves.attempt h).2,
    (hmoves.publication h).1, (hmoves.publication h).2⟩
  cases hmoves with
  | launch _ hbudget => exact hbudget
  | accept => exact Nat.zero_le _
  | _ => exact h.budget

/-! ## A history -/

theorem attempts_snoc (h : List CoordinatorCall) (c : CoordinatorCall) :
    attempts (h ++ [c]) = attempts h ++ (begunAttempt c).toList := by
  cases hc : begunAttempt c <;> simp [attempts, hc]

theorem bundles_snoc (h : List CoordinatorCall) (c : CoordinatorCall) :
    bundles (h ++ [c]) = bundles h ++ (acceptedBundle c).toList := by
  cases hc : acceptedBundle c <;> simp [bundles, hc]

theorem publications_snoc (h : List CoordinatorCall) (c : CoordinatorCall) :
    publications (h ++ [c]) = publications h ++ (publishedService c).toList := by
  cases hc : publishedService c <;> simp [publications, hc]

theorem launchesOfBundle_snoc (h : List CoordinatorCall) (c : CoordinatorCall) :
    launchesOfBundle (h ++ [c]) = if (acceptedBundle c).isSome then 0
      else if beganLaunch c then launchesOfBundle h + 1 else launchesOfBundle h := by
  rw [launchesOfBundle, List.foldl_append]
  rfl

theorem launchesOfBundle_append (h mid : List CoordinatorCall)
    (hnone : ∀ c ∈ mid, acceptedBundle c = none) :
    launchesOfBundle (h ++ mid) = launchesOfBundle h + mid.countP beganLaunch := by
  induction mid using List.reverseRecOn with
  | nil => simp
  | append_singleton mid c ih =>
      have hmid := ih fun d hd => hnone d (List.mem_append_left _ hd)
      have hc := hnone c (List.mem_append_right _ (List.mem_singleton_self c))
      rw [← List.append_assoc, launchesOfBundle_snoc, hc, hmid, List.countP_append]
      cases hl : beganLaunch c <;> simp [hl, Nat.add_assoc]

theorem Moves.begins (hmoves : Moves s op o s') (w : List Empty) :
    (beganLaunch ⟨s, op, o, s', w⟩ = false ∧ s'.nextAttempt = s.nextAttempt ∧
      s'.nextSession = s.nextSession ∧ s'.nextEndpoint = s.nextEndpoint) ∨
    (beganLaunch ⟨s, op, o, s', w⟩ = true ∧ s'.attempt = some (nextDriver s) ∧
      s'.nextAttempt = s.nextAttempt + 1 ∧ s'.nextSession = s.nextSession + 1 ∧
      s'.nextEndpoint = s.nextEndpoint + 1) := by
  cases hmoves with
  | refused op e => exact .inl ⟨by cases op <;> rfl, rfl, rfl, rfl⟩
  | launch => exact .inr ⟨rfl, rfl, rfl, rfl, rfl⟩
  | _ => exact .inl ⟨rfl, rfl, rfl, rfl⟩

theorem Moves.accepts (hmoves : Moves s op o s') (w : List Empty) :
    (acceptedBundle ⟨s, op, o, s', w⟩ = none ∧ s'.lastBundleGeneration = s.lastBundleGeneration ∧
      s'.attemptsStarted =
        if beganLaunch ⟨s, op, o, s', w⟩ then s.attemptsStarted + 1 else s.attemptsStarted) ∨
    (∃ generation, acceptedBundle ⟨s, op, o, s', w⟩ = some generation ∧
      s.lastBundleGeneration < generation ∧ s'.lastBundleGeneration = generation ∧
      s'.attemptsStarted = 0) := by
  cases hmoves with
  | refused op e => exact .inl ⟨by cases op <;> rfl, rfl, by cases op <;> rfl⟩
  | accept _ hnewer => exact .inr ⟨_, rfl, hnewer, rfl, rfl⟩
  | _ => exact .inl ⟨rfl, rfl, rfl⟩

theorem Moves.publishes (hmoves : Moves s op o s') (w : List Empty) :
    (publishedService ⟨s, op, o, s', w⟩ = none ∧
      s'.lastPublishedGeneration = s.lastPublishedGeneration ∧
      (s'.publishedGeneration = s.publishedGeneration ∨ s'.publishedGeneration = none)) ∨
    (∃ generation, publishedService ⟨s, op, o, s', w⟩ = some generation ∧
      s.lastPublishedGeneration < generation ∧ s'.lastPublishedGeneration = generation ∧
      s'.publishedGeneration = some generation) := by
  cases hmoves with
  | refused op e => exact .inl ⟨by cases op <;> rfl, rfl, .inl rfl⟩
  | publish _ _ _ hnewer => exact .inr ⟨_, rfl, hnewer, rfl, rfl⟩
  | rebind | retire | failed => exact .inl ⟨rfl, rfl, .inr rfl⟩
  | _ => exact .inl ⟨rfl, rfl, .inl rfl⟩

structure History (h : List CoordinatorCall) (s : Coordinator) : Prop where
  generations : Ascends ((attempts h).map DriverAttempt.generation) s.nextAttempt
  sessions : Ascends ((attempts h).map DriverAttempt.launchSession) s.nextSession
  endpoints : Ascends ((attempts h).map fun attempt => attempt.endpoint.id) s.nextEndpoint
  endpointGenerations :
    Ascends ((attempts h).map fun attempt => attempt.endpoint.generation) s.nextAttempt
  bundles : Ascends (bundles h) (s.lastBundleGeneration + 1)
  publications : Ascends (publications h) (s.lastPublishedGeneration + 1)
  last : ∀ generation, s.publishedGeneration = some generation →
    (Device.publications h).getLast? = some generation
  counted : launchesOfBundle h = s.attemptsStarted

theorem Moves.history (hmoves : Moves s op o s') (ih : History h s) (w : List Empty) :
    History (h ++ [⟨s, op, o, s', w⟩]) s' := by
  have hbegins : Ascends ((attempts (h ++ [⟨s, op, o, s', w⟩])).map DriverAttempt.generation)
        s'.nextAttempt ∧
      Ascends ((attempts (h ++ [⟨s, op, o, s', w⟩])).map DriverAttempt.launchSession)
        s'.nextSession ∧
      Ascends ((attempts (h ++ [⟨s, op, o, s', w⟩])).map fun attempt => attempt.endpoint.id)
        s'.nextEndpoint ∧
      Ascends ((attempts (h ++ [⟨s, op, o, s', w⟩])).map fun attempt => attempt.endpoint.generation)
        s'.nextAttempt := by
    rw [attempts_snoc, begunAttempt]
    rcases hmoves.begins w with ⟨hnone, hattempt, hsession, hendpoint⟩ |
      ⟨hbegun, hattempt, hnext, hsession, hendpoint⟩
    · rw [hnone, hattempt, hsession, hendpoint]
      simpa using ⟨ih.generations, ih.sessions, ih.endpoints, ih.endpointGenerations⟩
    · rw [hbegun, if_pos rfl, hattempt, hnext, hsession, hendpoint]
      simp only [Option.toList_some, List.map_append, List.map_singleton]
      exact ⟨ih.generations.snoc (Nat.le_refl _) (Nat.lt_succ_self _),
        ih.sessions.snoc (Nat.le_refl _) (Nat.lt_succ_self _),
        ih.endpoints.snoc (Nat.le_refl _) (Nat.lt_succ_self _),
        ih.endpointGenerations.snoc (Nat.le_refl _) (Nat.lt_succ_self _)⟩
  refine ⟨hbegins.1, hbegins.2.1, hbegins.2.2.1, hbegins.2.2.2, ?_, ?_, fun generation hgeneration => ?_, ?_⟩
  · rw [bundles_snoc]
    rcases hmoves.accepts w with ⟨hnone, hlast, -⟩ | ⟨generation, hsome, hnewer, hlast, -⟩
    · rw [hnone, hlast]
      simpa using ih.bundles
    · rw [hsome, hlast]
      exact ih.bundles.snoc hnewer (Nat.lt_succ_self _)
  · rw [publications_snoc]
    rcases hmoves.publishes w with ⟨hnone, hlast, -⟩ | ⟨generation, hsome, hnewer, hlast, -⟩
    · rw [hnone, hlast]
      simpa using ih.publications
    · rw [hsome, hlast]
      exact ih.publications.snoc hnewer (Nat.lt_succ_self _)
  · rw [publications_snoc]
    rcases hmoves.publishes w with ⟨hnone, -, hsame | hgone⟩ | ⟨service, hsome, -, -, hcurrent⟩
    · rw [hnone, Option.toList_none, List.append_nil]
      exact ih.last generation (hsame ▸ hgeneration)
    · cases hgone.symm.trans hgeneration
    · obtain rfl := Option.some.inj (hcurrent.symm.trans hgeneration)
      simp [hsome]
  · rw [launchesOfBundle_snoc]
    rcases hmoves.accepts w with ⟨hnone, -, hstarted⟩ | ⟨generation, hsome, -, -, hstarted⟩
    · rw [hnone, hstarted, ih.counted]
      rfl
    · rw [hsome, hstarted]
      rfl

/-! ## The attempt in the last states -/

/-- Where an attempt is missing while cleaning up, and where one is left behind
a permanent failure. -/
structure LeftOver (h : List CoordinatorCall) (s : Coordinator) : Prop where
  cleaning : s.state = .cleaningUp → s.attempt = none → OverdueCleanup h
  abandoned : s.state = .permanentFailure → s.attempt ≠ none →
    ∃ c ∈ h, c.op = .cleanupFailed ∧ c.outcome = .ok ()
  kept : ∀ c ∈ h, c.op = .cleanupFailed → c.outcome = .ok () →
    s.state = .permanentFailure ∧ s.attempt = c.before.attempt

theorem OverdueCleanup.snoc (hoverdue : OverdueCleanup h) {c : CoordinatorCall}
    (hc : c.after.state = .cleaningUp) : OverdueCleanup (h ++ [c]) := by
  obtain ⟨before, call, after, rfl, hcall, hafter⟩ := hoverdue
  refine ⟨before, call, after ++ [c], by simp, hcall, fun d hd => ?_⟩
  rcases List.mem_append.mp hd with hd | hd
  · exact hafter d hd
  · rw [List.mem_singleton.mp hd]
    exact hc

theorem Moves.permanent (hmoves : Moves s op o s') (hstate : s.state = .permanentFailure) :
    s'.state = .permanentFailure ∧ s'.attempt = s.attempt := by
  cases hmoves with
  | refused => exact ⟨hstate, rfl⟩
  | overdue hoverdue => cases hstate.symm.trans hoverdue.1
  | rebind => simp [hstate]
  | retire hother =>
      rcases hother with hother | hother <;> cases hstate.symm.trans hother
  | failed hother =>
      rcases hother with hother | hother | hother <;> cases hstate.symm.trans hother
  | intake hother | bind hother | accept hother | launch hother | launched hother | ready hother
  | publish hother | retired hother | abandoned hother | exhausted hother | cleaned hother
  | elapsed hother => cases hstate.symm.trans hother

theorem Moves.cleaning (hmoves : Moves s op o s') (hshape : Shape s)
    (hstate : s'.state = .cleaningUp) (hnone : s'.attempt = none) :
    o = .err .timeOverflow ∨ (s.state = .cleaningUp ∧ s.attempt = none) := by
  cases hmoves with
  | refused => exact .inr ⟨hstate, hnone⟩
  | overdue => exact .inl rfl
  | rebind =>
      simp only at hstate
      split_ifs at hstate
      exact .inr ⟨hstate, hnone⟩
  | retire hother =>
      rcases hother with hother | hother <;> exact absurd hnone (hshape.driving (hother ▸ trivial))
  | failed _ hattempt => exact absurd hnone (endpoint_isSome hattempt)
  | _ => cases hstate

theorem Moves.leftOver (hmoves : Moves s op o s') (hshape : Shape s) (ih : LeftOver h s)
    (w : List Empty) : LeftOver (h ++ [⟨s, op, o, s', w⟩]) s' := by
  refine ⟨fun hstate hnone => ?_, fun hstate hsome => ?_, fun c hc hop hok => ?_⟩
  · rcases hmoves.cleaning hshape hstate hnone with hoverdue | ⟨hbefore, hgone⟩
    · exact ⟨h, _, [], rfl, hoverdue, fun d hd => absurd hd List.not_mem_nil⟩
    · exact (ih.cleaning hbefore hgone).snoc hstate
  · by_cases hbefore : s.state = .permanentFailure
    · rw [(hmoves.permanent hbefore).2] at hsome
      obtain ⟨c, hc, hcall⟩ := ih.abandoned hbefore hsome
      exact ⟨c, List.mem_append_left _ hc, hcall⟩
    · refine ⟨_, List.mem_append_right _ (List.mem_singleton_self _), ?_⟩
      cases hmoves with
      | refused => exact absurd hstate hbefore
      | abandoned => exact ⟨rfl, rfl⟩
      | exhausted | overdue => exact absurd rfl hsome
      | rebind =>
          simp only at hstate
          split_ifs at hstate
          exact absurd hstate hbefore
      | _ => cases hstate
  · rcases List.mem_append.mp hc with hc | hc
    · obtain ⟨hbefore, hsame⟩ := ih.kept c hc hop hok
      obtain ⟨hafter, hkept⟩ := hmoves.permanent hbefore
      exact ⟨hafter, hkept.trans hsame⟩
    · obtain rfl := List.mem_singleton.mp hc
      cases hmoves with
      | refused => cases hok
      | abandoned => exact ⟨rfl, rfl⟩
      | _ => cases hop

/-! ## The registry -/

/-- A `registry_ready` is accepted where a binding is already installed. -/
def Rebinds (c : CoordinatorCall) : Prop :=
  c.before.registry ≠ none ∧ c.outcome = .ok () ∧ ∃ binding, c.op = .registryReady binding

/-- A binding stays, or gives way to one of no older generation. -/
def RegistryForward (s s' : Coordinator) : Prop :=
  ∀ old, s.registry = some old →
    ∃ binding, s'.registry = some binding ∧ old.generation ≤ binding.generation

theorem Moves.registryForward (hmoves : Moves s op o s') (w : List Empty)
    (hfirst : ¬ Rebinds ⟨s, op, o, s', w⟩) : RegistryForward s s' := by
  intro old hold
  cases hmoves with
  | bind => exact absurd ⟨hold ▸ Option.some_ne_none _, rfl, _, rfl⟩ hfirst
  | rebind hnewer => exact ⟨_, rfl, Nat.le_of_lt (hnewer old hold)⟩
  | _ => exact ⟨old, hold, Nat.le_refl _⟩

/-- The registry goes forward over every stretch in which nothing rebinds it. -/
def Advancing (h : List CoordinatorCall) (s : Coordinator) : Prop :=
  ∀ before mid, h = before ++ mid → (∀ c ∈ mid, ¬ Rebinds c) →
    ∀ c ∈ mid, RegistryForward c.before s

theorem Moves.advancing (hmoves : Moves s op o s') (w : List Empty) (ih : Advancing h s) :
    Advancing (h ++ [⟨s, op, o, s', w⟩]) s' := by
  intro before mid hsplit hfirst c hc
  rcases snoc_eq_append hsplit with rfl | ⟨rest, rfl, hbefore⟩
  · cases hc
  have hstep := hmoves.registryForward w
    (hfirst _ (List.mem_append_right _ (List.mem_singleton_self _)))
  rcases List.mem_append.mp hc with hc | hc
  · intro old hold
    have hrest := ih before rest hbefore fun d hd => hfirst d (List.mem_append_left _ hd)
    obtain ⟨middle, hmiddle, hle⟩ := hrest c hc old hold
    obtain ⟨binding, hbinding, hle'⟩ := hstep middle hmiddle
    exact ⟨binding, hbinding, Nat.le_trans hle hle'⟩
  · rw [List.mem_singleton.mp hc]
    exact hstep

/-! ## Every run -/

structure Ran (h : List CoordinatorCall) (s : Coordinator) : Prop where
  shape : Shape s
  history : History h s
  budget : ∀ before after, h = before ++ after → launchesOfBundle before ≤ maxAttempts
  leftOver : LeftOver h s
  calls : ∀ c ∈ h, ¬ Rebinds c → RegistryForward c.before c.after
  registry : Advancing h s

theorem Ran.call (ih : Ran h s) (op : CoordinatorOp) :
    Ran (h ++ [callOf exec op s]) (exec op s).2.1 := by
  have hmoves := exec_moves ih.shape.inStep op
  have hshape := hmoves.shape ih.shape
  have hhistory := hmoves.history ih.history (exec op s).2.2
  refine ⟨hshape, hhistory, fun before after hsplit => ?_,
    hmoves.leftOver ih.shape ih.leftOver _, List.forall_mem_append.mpr
      ⟨ih.calls, List.forall_mem_singleton.mpr (hmoves.registryForward _)⟩,
    hmoves.advancing _ ih.registry⟩
  rcases snoc_eq_append hsplit with rfl | ⟨rest, -, hbefore⟩
  · rw [List.append_nil] at hsplit
    rw [← hsplit]
    exact Nat.le_trans (Nat.le_of_eq hhistory.counted) hshape.budget
  · exact ih.budget before rest hbefore

theorem Ran.start {supervisorGeneration : Nat} {fresh : Coordinator}
    (hnew : Coordinator.new supervisorGeneration = .ok fresh) : Ran [] fresh := by
  obtain ⟨_, -, hfresh⟩ := bind_eq_ok.mp hnew
  obtain rfl := Outcome.ok.inj hfresh
  refine ⟨⟨⟨rfl, rfl⟩, Nat.zero_le _, fun hdriving => hdriving.elim, fun _ => rfl,
    fun _ => ⟨rfl, rfl⟩, nofun⟩, ⟨.nil, .nil, .nil, .nil, .nil, .nil, nofun, rfl⟩, ?_,
    ⟨nofun, nofun, ?_⟩, List.forall_mem_nil _, ?_⟩
  · intro before after hsplit
    rw [(List.nil_eq_append_iff.mp hsplit).1]
    exact Nat.zero_le _
  · exact fun c hc => absurd hc List.not_mem_nil
  · intro before mid hsplit _ c hc
    rw [(List.nil_eq_append_iff.mp hsplit).2] at hc
    cases hc

theorem coordinator_ran {supervisorGeneration : Nat} {fresh s : Coordinator}
    {ops : List CoordinatorOp} {h : List CoordinatorCall}
    (hnew : Coordinator.new supervisorGeneration = .ok fresh)
    (hrun : replay exec ops fresh = (h, s)) : Ran h s := by
  have hran := replay_keeps (P := Ran) (fun h s op ih => ih.call op) ops (.start hnew)
  rw [hrun] at hran
  exact hran

/-- Over every sequence of operations, no more launches begin for a bundle than
its attempts, every identity ascends, a publication is the last one accepted and
goes through the current registry, and an attempt is there exactly while a driver
is launched, runs or is cleaned up. An attempt is also kept in the permanent
failure that a failed cleanup ends in. -/
theorem coordinator_run (supervisorGeneration : Nat) (fresh s : Coordinator)
    (ops : List CoordinatorOp) (h : List CoordinatorCall)
    (hnew : Coordinator.new supervisorGeneration = .ok fresh)
    (hrun : replay exec ops fresh = (h, s)) :
    (∀ before mid after, h = before ++ mid ++ after → (∀ c ∈ mid, acceptedBundle c = none) →
      mid.countP beganLaunch ≤ maxAttempts) ∧
    (attempts h).Pairwise (fun a b => a.generation < b.generation ∧
      a.launchSession < b.launchSession ∧ a.endpoint.id < b.endpoint.id ∧
      a.endpoint.generation < b.endpoint.generation) ∧
    (bundles h).Pairwise (· < ·) ∧ (publications h).Pairwise (· < ·) ∧
    (s.state = .published → ∃ binding generation, s.registry = some binding ∧
      s.publicationEndpoint = some binding.endpoint ∧ s.publishedGeneration = some generation ∧
      (publications h).getLast? = some generation) ∧
    (s.state ≠ .published → s.publicationEndpoint = none ∧ s.publishedGeneration = none) ∧
    (Driving s.state → s.attempt ≠ none) ∧ (Idle s.state → s.attempt = none) ∧
    (s.state = .cleaningUp → s.attempt = none → OverdueCleanup h) ∧
    (s.state = .permanentFailure → s.attempt ≠ none →
      ∃ c ∈ h, c.op = .cleanupFailed ∧ c.outcome = .ok ()) ∧
    (∀ c ∈ h, c.op = .cleanupFailed → c.outcome = .ok () →
      s.state = .permanentFailure ∧ s.attempt = c.before.attempt) ∧
    (∀ c ∈ h, ¬ Rebinds c → RegistryForward c.before c.after) ∧
    (∀ before mid, h = before ++ mid → (∀ c ∈ mid, ¬ Rebinds c) →
      ∀ c ∈ mid, RegistryForward c.before s) := by
  have hran := coordinator_ran hnew hrun
  refine ⟨fun before mid after hsplit hnone => ?_, ?_, hran.history.bundles.sorted,
    hran.history.publications.sorted, fun hstate => ?_, hran.shape.unpublished,
    hran.shape.driving, hran.shape.idle, hran.leftOver.cleaning, hran.leftOver.abandoned,
    hran.leftOver.kept, hran.calls, hran.registry⟩
  · have hbudget := hran.budget (before ++ mid) after hsplit
    rw [launchesOfBundle_append before mid hnone] at hbudget
    omega
  · have hgenerations := List.pairwise_map.mp hran.history.generations.sorted
    have hsessions := List.pairwise_map.mp hran.history.sessions.sorted
    have hendpoints := List.pairwise_map.mp hran.history.endpoints.sorted
    have hendpoints' := List.pairwise_map.mp hran.history.endpointGenerations.sorted
    exact hgenerations.and (hsessions.and (hendpoints.and hendpoints'))
  · obtain ⟨binding, hbinding, hendpoint, hgeneration⟩ := hran.shape.published hstate
    exact ⟨binding, _, hbinding, hendpoint, hgeneration, hran.history.last _ hgeneration⟩

def content : ContentIdentity := Vector.replicate 32 9

def com2Role : DeviceRole :=
  { roleId := 1, hardware := .com2, resourceKind := .pioInterrupt, pio := ⟨0x2f8, 8⟩, irq := 3,
    driverPath := uart16550dPath, contentIdentity := content, metadataPolicy := 1 }

def manifest : Manifest :=
  { profile := 1, profileVersion := 1, records := #v[some com2Role, none, none, none], count := 1 }

/-- A driver is launched and the coordinator waits for it. -/
def launching : List CoordinatorOp :=
  [.intakeManifest manifest content, .registryReady ⟨1, ⟨2, 1⟩⟩, .acceptBundle ⟨1, 1⟩, .beginLaunch,
   .launchAccepted ⟨1, 1⟩]

/-- It becomes ready and publishes. -/
def publishing : List CoordinatorOp :=
  launching ++ [.driverReady ⟨1, 1⟩, .publish ⟨1, 1, ⟨1, 1⟩⟩ ⟨2, 1⟩ 1]

def freshCoordinator : Coordinator :=
  { supervisorGeneration := 1, state := .starting, role := none, bundle := none, attempt := none,
    attemptsStarted := 0, registry := none, publicationEndpoint := none,
    publishedGeneration := none, lastPublishedGeneration := 0, nextAttempt := 1,
    nextSession := 1, nextEndpoint := 1, lastBundleGeneration := 0 }

theorem publishing_run : (replay exec publishing freshCoordinator).2.attempt ≠ none ∧
    ∃ binding generation, (replay exec publishing freshCoordinator).2.registry = some binding ∧
      (replay exec publishing freshCoordinator).2.publicationEndpoint = some binding.endpoint ∧
      (publications (replay exec publishing freshCoordinator).1).getLast? = some generation := by
  have hstate : (replay exec publishing freshCoordinator).2.state = .published := by decide +kernel
  obtain ⟨-, -, -, -, hpublished, -, hdriving, -⟩ :=
    coordinator_run 1 freshCoordinator _ publishing _ rfl rfl
  refine ⟨hdriving (hstate ▸ trivial), ?_⟩
  obtain ⟨binding, generation, hbinding, hendpoint, -, hlast⟩ := hpublished hstate
  exact ⟨binding, generation, hbinding, hendpoint, hlast⟩

/-- The attempt outlives a cleanup that failed, and is gone in one that was
overdue; a first binding replaces a newer one. -/
theorem abandoned_attempt :
    (∃ ops, (replay exec ops freshCoordinator).2.state = .permanentFailure ∧
      (replay exec ops freshCoordinator).2.attempt ≠ none) ∧
    (∃ ops, (replay exec ops freshCoordinator).2.state = .cleaningUp ∧
      (replay exec ops freshCoordinator).2.attempt = none) ∧
    ∃ ops, ∃ c ∈ (replay exec ops freshCoordinator).1, ∃ old binding,
      c.before.registry = some old ∧
      (replay exec ops freshCoordinator).2.registry = some binding ∧
      binding.generation < old.generation := by
  refine ⟨⟨launching ++ [.driverFailed ⟨1, 1⟩, .cleanupFailed], ?_⟩,
    ⟨launching ++ [.driverFailed ⟨1, 1⟩, .completeFailureCleanup (2 ^ 64 - 1)], ?_⟩,
    [.intakeManifest manifest content, .replaceRegistry ⟨5, ⟨2, 1⟩⟩, .registryReady ⟨3, ⟨2, 1⟩⟩],
    _, List.mem_of_getElem? (i := 2) rfl, ⟨5, ⟨2, 1⟩⟩, ⟨3, ⟨2, 1⟩⟩, ?_⟩
  · decide +kernel
  · decide +kernel
  · decide +kernel

/-!
## Refused coordinator calls

A refused call leaves the coordinator as it was, except for one: completing a
cleanup clears the attempt before it finds that the deadline does not exist.
-/

theorem Moves.refusal {s s' : Coordinator} {op : CoordinatorOp} {e : CoordinatorError}
    (h : Moves s op (.err e) s') : s' = s ∨ ∃ nowNs, op = .completeFailureCleanup nowNs ∧
      Overdue s nowNs ∧ s' = { s with attempt := none } := by
  cases h with
  | refused => exact .inl rfl
  | overdue hoverdue => exact .inr ⟨_, rfl, hoverdue, rfl⟩

theorem exec_overdue {s : Coordinator} {nowNs : Nat} (h : Overdue s nowNs) :
    exec (.completeFailureCleanup nowNs) s = (.err .timeOverflow, { s with attempt := none }, []) := by
  obtain ⟨hstate, hbudget, hlate⟩ := h
  have hnone : checkedAdd nowNs retryBackoffNs = none := if_neg (Nat.not_lt.mpr hlate)
  have hchecked : rejectIf (decide (s.state ≠ .cleaningUp)) CoordinatorError.invalidState = .ok () := by
    simp [hstate]
  rw [exec, completeFailureCleanup, Prog.get_bind_run, hchecked, hnone, okOr_none,
    if_neg (Nat.not_le.mpr hbudget)]
  rfl

/-- In every state a run reaches, a refused call changes nothing exactly when it is
not the cleanup of a present attempt with a deadline beyond `u64`. -/
theorem coordinator_atomicity (supervisorGeneration : Nat) (fresh s : Coordinator)
    (ops : List CoordinatorOp) (h : List CoordinatorCall) (op : CoordinatorOp)
    (hnew : Coordinator.new supervisorGeneration = .ok fresh)
    (hrun : replay exec ops fresh = (h, s)) :
    (∀ e, (exec op s).1 = .err e → (exec op s).2.1 = s) ↔
      ¬ ∃ nowNs, op = .completeFailureCleanup nowNs ∧ Overdue s nowNs ∧ s.attempt ≠ none := by
  have hmoves := exec_moves (coordinator_ran hnew hrun).shape.inStep op
  constructor
  · rintro hatomic ⟨nowNs, rfl, hoverdue, hattempt⟩
    have hexec := exec_overdue hoverdue
    have hsame := hatomic .timeOverflow (by rw [hexec])
    rw [hexec] at hsame
    exact hattempt (congrArg Coordinator.attempt hsame).symm
  · intro hnot e herr
    rw [herr] at hmoves
    rcases hmoves.refusal with hsame | ⟨nowNs, rfl, hoverdue, hcleared⟩
    · exact hsame
    · have hnone : s.attempt = none := by
        by_contra hsome
        exact hnot ⟨nowNs, rfl, hoverdue, hsome⟩
      rw [hcleared, ← hnone]

/-- The failed launch of a driver, cleaned up at the end of time. -/
theorem overdue_cleanup : ¬ ∀ (supervisorGeneration : Nat) (fresh s : Coordinator)
    (ops : List CoordinatorOp) (h : List CoordinatorCall) (op : CoordinatorOp),
    Coordinator.new supervisorGeneration = .ok fresh → replay exec ops fresh = (h, s) →
      ∀ e, (exec op s).1 = .err e → (exec op s).2.1 = s := by
  intro hall
  have hsame := hall 1 freshCoordinator _ (launching ++ [.driverFailed ⟨1, 1⟩]) _
    (.completeFailureCleanup (2 ^ 64 - 1)) rfl rfl .timeOverflow (by decide +kernel)
  revert hsame
  decide +kernel

theorem stale_failure :
    (exec (.driverFailed ⟨7, 7⟩) (replay exec launching freshCoordinator).2).2.1 =
    (replay exec launching freshCoordinator).2 :=
  (coordinator_atomicity 1 freshCoordinator _ launching _ (.driverFailed ⟨7, 7⟩) rfl rfl).mpr
    (by rintro ⟨_, ⟨⟩, -⟩) .staleDriverEndpoint (by decide +kernel)

end Wyrmroot.Device
