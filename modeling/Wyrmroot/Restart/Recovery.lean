import Wyrmroot.Restart.Policy

/-!
# Admitting a recovery episode

`admit_recovery` works on a copy and stores it back at the end, so a
rejection changes nothing at all (unlike the other calls, which may leave the
observed time advanced). An admission does not start a process: it moves the
exact Ready owner, under the generation it already has, into the cleanup of
attempt 1 of a fresh episode.
-/

namespace Wyrmroot.Restart

open Prog

variable {s : RestartSupervisor} {h : History}

/-- The cleanup an admitted failure asks for: an owner whose process is gone
has nothing left to terminate. -/
def recoveryAction (f : AttemptFailure) : CleanupAction :=
  if f = .exitQueryFailed ∨ f = .readinessFailedAfterExit then .closeTerminal
  else .terminateTaskGroup

/-- The owner `g` of transaction `t`, retiring as the first attempt of an
episode that opens at `now`. -/
def retiring (s : RestartSupervisor) (g t now : Nat) (f : AttemptFailure) :
    RestartSupervisor :=
  { s with
    state := .cleaningUp 1 g t f (recoveryAction f) now (now + s.policy.cleanupTimeoutNs) true
    history := []
    episodeStartedAtNs := now
    lastObservedNs := now }

/-- When a recovery is admitted. -/
structure Admissible (s : RestartSupervisor) (g t now : Nat) (f : AttemptFailure) : Prop where
  owner : ∃ attempt, s.state = .ready attempt g t
  identity : 0 < g ∧ 0 < t
  reports : RestartSupervisor.failureAllowed f s.state = true
  forward : s.lastObservedNs ≤ now
  window : now + s.policy.restartWindowNs ≤ u64Max
  cleanup : now + s.policy.cleanupTimeoutNs ≤ u64Max

/-! ## The failure reported of a Ready owner -/

theorem failureAllowed_ready (f : AttemptFailure) (a b g t : Nat) :
    RestartSupervisor.failureAllowed f (.ready a g t)
      = RestartSupervisor.failureAllowed f (.ready b g t) := by
  cases f <;> rfl

variable {now a g t : Nat} {f : AttemptFailure}
  {Q : Outcome RestartTransitionError Unit → RestartSupervisor → List Empty → Prop}

theorem enterCleanup_ready {act : CleanupAction} {retry : Bool}
    (hst : s.state = .ready a g t) (herr : Q (.err .arithmeticOverflow) s [])
    (hok : now + s.policy.cleanupTimeoutNs ≤ u64Max →
      Q (.ok ())
        { s with
          state :=
            .cleaningUp a g t f act now (now + s.policy.cleanupTimeoutNs) retry } []) :
    wp (RestartSupervisor.enterCleanup now f act retry) Q s := by
  rw [RestartSupervisor.enterCleanup, wp_get_bind]
  simp only [hst]
  rw [wp_lift_bind]
  by_cases hfit : now + s.policy.cleanupTimeoutNs ≤ u64Max
  · simpa [checkedDeadline, hfit, RestartSupervisor.setState] using hok hfit
  · simpa [checkedDeadline, hfit] using herr

theorem failAttempt_ready (hst : s.state = .ready a g t) (herr : ∀ e s', Q (.err e) s' [])
    (hok : s.lastObservedNs ≤ now → RestartSupervisor.failureAllowed f s.state = true →
      now + s.policy.cleanupTimeoutNs ≤ u64Max →
      Q (.ok ())
        { s with
          lastObservedNs := now
          state :=
            .cleaningUp a g t f (recoveryAction f) now (now + s.policy.cleanupTimeoutNs)
              true } []) :
    wp (RestartSupervisor.failAttempt g t now f) Q s := by
  rw [RestartSupervisor.failAttempt, wp_get_bind]
  simp only [hst, RestartSupervisor.activeAction]
  refine wp_check (refuses_validateEventIdentity ..) (fun e _ => herr e s) fun _ _ => ?_
  refine wp_observeTime (herr _ s) fun hnow => ?_
  by_cases hallowed : RestartSupervisor.failureAllowed f (.ready a g t) = true
  · simp only [hallowed, Bool.true_eq_false, if_false]
    refine enterCleanup_ready (a := a) (g := g) (t := t) hst (herr _ _) fun hfit => ?_
    exact hok hnow (by rw [hst]; exact hallowed) hfit
  · simp only [hallowed]
    exact herr _ _

/-! ## The admission -/

/-- What an admission returned and left behind. -/
def Admits (s : RestartSupervisor) (g t now : Nat) (f : AttemptFailure) :
    Outcome RestartTransitionError Unit → RestartSupervisor → List Empty → Prop
  | .ok _, s', _ => Admissible s g t now f ∧ s' = retiring s g t now f
  | .err _, s', _ => s' = s
  | .panic, _, _ => False

theorem admitRecovery_admits (g t now : Nat) (f : AttemptFailure) :
    wp (RestartSupervisor.admitRecovery g t now f) (Admits s g t now f) s := by
  rw [RestartSupervisor.admitRecovery, wp_get_bind]
  split
  · rename_i attempt g' t' hst
    refine wp_check (refuses_validateEventIdentity ..) (fun _ _ => rfl) fun _ hid => ?_
    obtain ⟨hg, ht, rfl, rfl⟩ := validateEventIdentity_eq_ok.mp hid
    refine wp_check (refuses_checkedDeadline ..) (fun _ _ => rfl) fun _ hwindow => ?_
    have hfits := (checkedDeadline_eq_ok.mp hwindow).1
    let candidate : RestartSupervisor :=
      { s with history := [], episodeStartedAtNs := now, state := .ready 1 g t }
    -- the candidate is in attempt 1 of the owner it was copied from
    have hcopy := failAttempt_ready (s := candidate) (a := 1) (g := g) (t := t) (f := f)
      (Q := fun o s' _ => o ≠ .panic ∧
        (o.isOk = true → Admissible s g t now f ∧ s' = retiring s g t now f))
      rfl (fun e _ => ⟨Outcome.err_ne_panic e, Bool.noConfusion⟩) fun hnow hreports hclean => by
        have hallowed : RestartSupervisor.failureAllowed f s.state = true := by
          rw [hst, failureAllowed_ready f attempt 1]
          exact hreports
        exact ⟨Outcome.ok_ne_panic _, fun _ =>
          ⟨⟨⟨attempt, hst⟩, ⟨hg, ht⟩, hallowed, hnow, hfits, hclean⟩, rfl⟩⟩
    simp only [wp] at hcopy ⊢
    rcases hfa : RestartSupervisor.failAttempt g t now f candidate with ⟨_ | _ | _, s', w⟩
    · simpa [candidate, hfa, Admits] using hcopy
    · simp [Admits]
    · simp [hfa] at hcopy
  · exact rfl

theorem admitRecovery_admitted (hadm : Admissible s g t now f) :
    RestartSupervisor.admitRecovery g t now f s = (.ok (), retiring s g t now f, []) := by
  obtain ⟨⟨attempt, hst⟩, ⟨hg, ht⟩, hreports, hnow, hwindow, hclean⟩ := hadm
  have hid : validateEventIdentity g t g t = .ok () :=
    validateEventIdentity_eq_ok.mpr ⟨hg, ht, rfl, rfl⟩
  rw [hst, failureAllowed_ready f attempt 1] at hreports
  simp [RestartSupervisor.admitRecovery, RestartSupervisor.failAttempt,
    RestartSupervisor.activeAction, RestartSupervisor.observeTime,
    RestartSupervisor.enterCleanup, RestartSupervisor.setState, Prog.bind_run, hst, hid,
    checkedDeadline, hwindow, hclean, Nat.not_lt.mpr hnow, hreports, retiring, recoveryAction]

/-! ## The owner's generation -/

theorem SupervisorRun.last_started (hrun : SupervisorRun h s) :
    s.lastGeneration = 0 ∨ s.lastGeneration ∈ h.filterMap startedGeneration := by
  induction hrun with
  | @start s hs =>
      obtain ⟨policy, hnew⟩ := hs
      unfold RestartSupervisor.new at hnew
      split at hnew
      · cases hnew
      · cases hnew
        exact Or.inl rfl
  | @call h s op hr hp ih =>
      have htr := SupervisorRun.transition hr op
      rw [List.filterMap_append, List.mem_append]
      cases hg : startedGeneration (callOf exec op s) with
      | none =>
          have hlast : (exec op s).2.1.lastGeneration = s.lastGeneration :=
            Transition.lastGeneration_eq (c := callOf exec op s) htr hg
          rw [hlast]
          exact ih.imp_right Or.inl
      | some g =>
          obtain ⟨-, hlast, -⟩ := Transition.started (c := callOf exec op s) htr
            (SupervisorRun.wellFormed hr) hg
          right
          right
          rw [List.filterMap_cons, hg]
          exact List.mem_cons.mpr (Or.inl hlast)

theorem SupervisorRun.ready_greatest (hrun : SupervisorRun h s) (hst : s.state = .ready a g t) :
    IsGreatest {g' | g' ∈ h.filterMap startedGeneration} g := by
  have hcur := (SupervisorRun.wellFormed hrun).current (a := a) (g := g) (t := t)
    (by rw [hst]; rfl)
  have hpos := hcur.generation_pos
  rw [hcur.generation_eq] at hpos ⊢
  refine ⟨?_, (SupervisorRun.generations hrun).2⟩
  rcases SupervisorRun.last_started hrun with hzero | hmem
  · omega
  · exact hmem

/-- All or nothing: admitted, the newest generation started retires under that
same generation; rejected, nothing has changed. -/
def AllOrNothing (h : History) (s : RestartSupervisor) (g t now : Nat) (f : AttemptFailure) :
    Outcome RestartTransitionError Unit × RestartSupervisor × List Empty → Prop
  | (.ok _, s', _) =>
      s' = retiring s g t now f ∧ Admissible s g t now f
        ∧ IsGreatest {g' | g' ∈ h.filterMap startedGeneration} g
  | (.err _, s', _) => s' = s ∧ ¬ Admissible s g t now f
  | (.panic, _, _) => False

/-- Behind every run, a recovery is admitted exactly when it is `Admissible`: it
retires the newest generation started, or leaves no trace. -/
theorem admitRecovery_exact (hrun : SupervisorRun h s) (g t now : Nat) (f : AttemptFailure) :
    AllOrNothing h s g t now f (exec (.admitRecovery g t now f) s) := by
  change AllOrNothing h s g t now f (RestartSupervisor.admitRecovery g t now f s)
  have hadmits := admitRecovery_admits (s := s) g t now f
  simp only [wp] at hadmits
  rcases hx : RestartSupervisor.admitRecovery g t now f s with ⟨_ | e | _, s', w⟩
  · rw [hx] at hadmits
    obtain ⟨hadm, hs'⟩ := hadmits
    obtain ⟨attempt, hst⟩ := hadm.owner
    exact ⟨hs', hadm, SupervisorRun.ready_greatest hrun hst⟩
  · rw [hx] at hadmits
    refine ⟨hadmits, fun hadm => ?_⟩
    rw [admitRecovery_admitted hadm] at hx
    cases hx
  · rw [hx] at hadmits
    exact hadmits

/-- Generation 1, started and ready. -/
def readyCalls : List Op :=
  [.begin 0 1 11, .childStarted 1 11 0, .ready 1 11 0]

theorem admitRecovery_exact_ready :
    AllOrNothing (replay exec readyCalls idle).1 (replay exec readyCalls idle).2
      1 11 0 .waitFailed
      (exec (.admitRecovery 1 11 0 .waitFailed) (replay exec readyCalls idle).2) :=
  admitRecovery_exact
    (by simpa using Run.replay readyCalls (Run.start idle_fresh) (by decide +kernel))
    1 11 0 .waitFailed

/-- The episode it opens is in the cleanup of a generation already started,
not at the start of a newer one. -/
theorem admitRecovery_keeps_generation :
    SupervisorRun (replay exec readyCalls idle).1 (replay exec readyCalls idle).2
      ∧ (exec (.admitRecovery 1 11 0 .waitFailed) (replay exec readyCalls idle).2).1 = .ok ()
      ∧ (exec (.admitRecovery 1 11 0 .waitFailed) (replay exec readyCalls idle).2).2.1.state
          = .cleaningUp 1 1 11 .waitFailed .terminateTaskGroup 0 1000000000 true
      ∧ ¬ ∀ g ∈ (replay exec readyCalls idle).1.filterMap startedGeneration, g < 1 := by
  refine ⟨?_, by decide +kernel, by decide +kernel, by decide +kernel⟩
  simpa using Run.replay readyCalls (Run.start idle_fresh) (by decide +kernel)

end Wyrmroot.Restart
