import Wyrmroot.Restart.Model

/-!
# What one supervisor call can do

`Transition` lists every effect a call can have on the supervisor, guards
included; `exec_transition` says a call from a well-formed supervisor has
one of them. Nothing after this file unfolds a transition function.

`recordLeft` is the one effect that is not a transition of the policy: an
overflowing deadline in `finish_cleanup` returns an error after the
terminal record has been pushed. `DeadlineOverflow` is exactly when that
happens.
-/

namespace Wyrmroot.Restart

open Prog

/-- Attempt, generation and transaction of a generation that has been
started and not yet classified. -/
def activeAttempt : RestartState → Option (Nat × Nat × Nat)
  | .starting attempt generation transactionId _ => some (attempt, generation, transactionId)
  | .awaitingReady attempt generation transactionId _ =>
      some (attempt, generation, transactionId)
  | .ready attempt generation transactionId => some (attempt, generation, transactionId)
  | _ => none

/-- A policy that `RestartSupervisor::new` accepts. -/
structure PolicyOk (p : SupervisionPolicy) : Prop where
  attempts_pos : 0 < p.maxAttempts
  attempts_le : p.maxAttempts ≤ restartHistoryCapacity
  backoff_pos : 0 < p.backoffNs
  window_pos : 0 < p.restartWindowNs
  ready_pos : 0 < p.readyTimeoutNs
  cleanup_pos : 0 < p.cleanupTimeoutNs

/-- The identity of a generation in flight: a started, non-zero one. -/
structure Current (p : SupervisionPolicy) (last attempt generation transactionId : Nat) :
    Prop where
  attempt_pos : 0 < attempt
  attempt_le : attempt ≤ p.maxAttempts
  generation_pos : 0 < generation
  generation_eq : generation = last
  transaction_pos : 0 < transactionId

/-- The redundant fields of the supervisor agree. -/
def StateOk (s : RestartSupervisor) : Prop :=
  match s.state with
  | .starting a g t _ => Current s.policy s.lastGeneration a g t
  | .awaitingReady a g t _ => Current s.policy s.lastGeneration a g t
  | .ready a g t => Current s.policy s.lastGeneration a g t
  | .cleaningUp a g t _ _ _ _ _ => Current s.policy s.lastGeneration a g t
  | .backoff a g d =>
      1 < a ∧ a ≤ s.policy.maxAttempts ∧ g = s.lastGeneration + 1
        ∧ d ≤ s.episodeStartedAtNs + s.policy.restartWindowNs
        ∧ s.episodeStartedAtNs + s.policy.restartWindowNs ≤ u64Max
  | .stopped => True
  | .permanentFailure _ _ => True

structure WellFormed (s : RestartSupervisor) : Prop where
  policy : PolicyOk s.policy
  state : StateOk s

/-- A `cleanup_complete` that is accepted, would schedule a replacement, and
cannot represent its backoff deadline or the end of the restart window. -/
def DeadlineOverflow (s : RestartSupervisor) : Op → Prop
  | .cleanupComplete generation transactionId nowNs =>
      match s.state with
      | .cleaningUp attempt currentGeneration currentTransaction _ _ _ deadlineNs retry =>
          validateEventIdentity generation transactionId currentGeneration
              currentTransaction = .ok ()
            ∧ s.lastObservedNs ≤ nowNs ∧ nowNs < deadlineNs
            ∧ s.history.length < restartHistoryCapacity ∧ retry = true
            ∧ attempt < s.policy.maxAttempts ∧ currentGeneration < u64Max
            ∧ (u64Max < nowNs + s.policy.backoffNs
              ∨ u64Max < s.episodeStartedAtNs + s.policy.restartWindowNs)
      | _ => False
  | _ => False

/-- The record `finish_cleanup` pushes for the generation being cleaned up. -/
def terminalRecord (s : RestartSupervisor) (attempt generation transactionId : Nat)
    (failure : AttemptFailure) (classifiedAtNs : Nat) (cleanup : CleanupDisposition) :
    AttemptRecord :=
  { attempt, generation, transactionId, startedAtNs := s.attemptStartedAtNs,
    terminalAtNs := classifiedAtNs, failure, cleanup }

/-- The possible effects of a call in state `s`. -/
inductive Transition (s : RestartSupervisor) :
    Op → Outcome RestartTransitionError Unit → RestartSupervisor → Prop
  | refused {op e now} (he : ∀ f, e ≠ .attemptFailed f) (hnow : s.lastObservedNs ≤ now) :
      Transition s op (.err e) { s with lastObservedNs := now }
  | began {now g t d} (hstate : s.state = .stopped) (hg : s.lastGeneration < g)
      (ht : 0 < t) (hnow : s.lastObservedNs ≤ now) :
      Transition s (.begin now g t) (.ok ())
        { s with
          lastObservedNs := now, history := [], episodeStartedAtNs := now,
          attemptStartedAtNs := now, lastGeneration := g, state := .starting 1 g t d }
  | childStarted {a g t now d} (hstate : s.state = .starting a g t d)
      (hnow : s.lastObservedNs ≤ now) :
      Transition s (.childStarted g t now) (.ok ())
        { s with lastObservedNs := now, state := .awaitingReady a g t d }
  | becameReady {a g t now d} (hstate : s.state = .awaitingReady a g t d)
      (hnow : s.lastObservedNs ≤ now) :
      Transition s (.ready g t now) (.ok ())
        { s with lastObservedNs := now, state := .ready a g t }
  | enteredCleanup {op o a g t f act now d retry}
      (hactive : activeAttempt s.state = some (a, g, t)) (hnow : s.lastObservedNs ≤ now)
      (ho : o = .ok () ∨ o = .err (.attemptFailed f)) :
      Transition s op o
        { s with lastObservedNs := now, state := .cleaningUp a g t f act now d retry }
  | recovered {a g t f act now d} (hstate : s.state = .ready a g t)
      (hnow : s.lastObservedNs ≤ now) :
      Transition s (.admitRecovery g t now f) (.ok ())
        { s with
          lastObservedNs := now, history := [], episodeStartedAtNs := now,
          state := .cleaningUp 1 g t f act now d true }
  | retired {a g t f now cleanup} (hactive : activeAttempt s.state = some (a, g, t))
      (hnow : s.lastObservedNs ≤ now) :
      Transition s (.retireActiveFailClosed g t now f cleanup) (.ok ())
        { s with
          lastObservedNs := now,
          history := s.history ++ [terminalRecord s a g t f now cleanup],
          state := .permanentFailure f cleanup }
  | gaveUp {op a g t f act cl d retry now cleanup}
      (hstate : s.state = .cleaningUp a g t f act cl d retry)
      (hnow : s.lastObservedNs ≤ now) :
      Transition s op (.ok ())
        { s with
          lastObservedNs := now,
          history := s.history ++ [terminalRecord s a g t f cl cleanup],
          state := .permanentFailure f cleanup }
  | cleanedStopped {a g t f act cl d now}
      (hstate : s.state = .cleaningUp a g t f act cl d false)
      (hnow : s.lastObservedNs ≤ now) :
      Transition s (.cleanupComplete g t now) (.ok ())
        { s with
          lastObservedNs := now,
          history := s.history ++ [terminalRecord s a g t f cl .complete],
          state := .stopped }
  | cleanedBackoff {a g t f act cl d now}
      (hstate : s.state = .cleaningUp a g t f act cl d true)
      (hnow : s.lastObservedNs ≤ now) (ha : a + 1 ≤ s.policy.maxAttempts)
      (hwindow : now + s.policy.backoffNs ≤ s.episodeStartedAtNs + s.policy.restartWindowNs)
      (hfits : s.episodeStartedAtNs + s.policy.restartWindowNs ≤ u64Max) :
      Transition s (.cleanupComplete g t now) (.ok ())
        { s with
          lastObservedNs := now,
          history := s.history ++ [terminalRecord s a g t f cl .complete],
          state := .backoff (a + 1) (g + 1) (now + s.policy.backoffNs) }
  | recordLeft {a g t f act cl d retry now}
      (hover : DeadlineOverflow s (.cleanupComplete g t now))
      (hstate : s.state = .cleaningUp a g t f act cl d retry)
      (hnow : s.lastObservedNs ≤ now) :
      Transition s (.cleanupComplete g t now) (.err .arithmeticOverflow)
        { s with
          lastObservedNs := now,
          history := s.history ++ [terminalRecord s a g t f cl .complete] }
  | replaced {a g t now d d'} (hstate : s.state = .backoff a g d)
      (ht : 0 < t) (hnow : s.lastObservedNs ≤ now) (hd : d ≤ now)
      (hwindow : now ≤ s.episodeStartedAtNs + s.policy.restartWindowNs) :
      Transition s (.startReplacement now g t) (.ok ())
        { s with
          lastObservedNs := now, attemptStartedAtNs := now, lastGeneration := g,
          state := .starting a g t d' }
  | windowClosed {a g t now d f} (hstate : s.state = .backoff a g d)
      (hnow : s.lastObservedNs ≤ now) :
      Transition s (.startReplacement now g t) (.ok ())
        { s with lastObservedNs := now, state := .permanentFailure f .complete }

/-! ## Specifications of the helpers -/

variable {g t now : Nat} {retry : Bool} {a : Nat}

section Helpers

variable {s : RestartSupervisor} {Q : Outcome RestartTransitionError Unit →
  RestartSupervisor → List Empty → Prop}

theorem validateIdentity_eq_ok :
    validateIdentity g t = .ok () ↔ 0 < g ∧ 0 < t := by
  unfold validateIdentity
  split
  · simp; omega
  · simp; omega

theorem validateEventIdentity_eq_ok {g' t' : Nat} :
    validateEventIdentity g t g' t' = .ok () ↔ 0 < g ∧ 0 < t ∧ g = g' ∧ t = t' := by
  unfold validateEventIdentity
  rw [Outcome.bind_eq_ok]
  constructor
  · rintro ⟨⟨⟩, hid, h⟩
    rw [validateIdentity_eq_ok] at hid
    split at h
    · cases h
    · split at h
      · cases h
      · exact ⟨hid.1, hid.2, not_not.mp ‹_›, not_not.mp ‹_›⟩
  · rintro ⟨hg, ht, rfl, rfl⟩
    exact ⟨(), validateIdentity_eq_ok.mpr ⟨hg, ht⟩, by simp⟩

theorem checkedDeadline_eq_ok {d w : Nat} :
    checkedDeadline now d = .ok w ↔ now + d ≤ u64Max ∧ now + d = w := by
  unfold checkedDeadline
  split
  · simp [*]
  · simp [*]

/-- A check that fails with an ordinary error or not at all. -/
def Refuses {α : Type} (x : Check α) : Prop :=
  x ≠ .panic ∧ ∀ f, x ≠ .err (.attemptFailed f)

theorem refuses_validateIdentity (g t : Nat) : Refuses (validateIdentity g t) := by
  unfold validateIdentity
  split <;> simp [Refuses]

theorem refuses_validateEventIdentity (g t g' t' : Nat) :
    Refuses (validateEventIdentity g t g' t') := by
  unfold validateEventIdentity validateIdentity
  split
  · simp [Refuses]
  · simp only [Outcome.ok_bind]
    split
    · simp [Refuses]
    · split <;> simp [Refuses]

theorem refuses_checkedDeadline (now d : Nat) : Refuses (checkedDeadline now d) := by
  unfold checkedDeadline
  split <;> simp [Refuses]

theorem refuses_validateDeadline (d d' : Nat) : Refuses (validateDeadline d d') := by
  unfold validateDeadline
  split <;> simp [Refuses]

theorem refuses_requireReached (now d : Nat) : Refuses (requireReached now d) := by
  unfold requireReached
  split <;> simp [Refuses]

theorem wp_check {α : Type} {x : Check α} {f : α → Sup Unit} (hx : Refuses x)
    (herr : ∀ e, (∀ f, e ≠ .attemptFailed f) → Q (.err e) s [])
    (hok : ∀ a, x = .ok a → wp (f a) Q s) : wp (lift x >>= f) Q s := by
  rw [wp_lift_bind]
  cases x with
  | ok a => exact hok a rfl
  | err e => exact herr e fun f hf => hx.2 f (congrArg _ hf)
  | panic => exact absurd rfl hx.1

theorem wp_observeTime {f : Unit → Sup Unit} (herr : Q (.err .timeRegression) s [])
    (hok : s.lastObservedNs ≤ now → wp (f ()) Q { s with lastObservedNs := now }) :
    wp (RestartSupervisor.observeTime now >>= f) Q s := by
  rw [wp_bind, RestartSupervisor.observeTime, wp_get_bind]
  split
  · exact herr
  · simpa using hok (Nat.le_of_not_lt ‹_›)

theorem wp_enterCleanup {fl : AttemptFailure} {act : CleanupAction}
    (hactive : activeAttempt s.state = some (a, g, t))
    (herr : Q (.err .arithmeticOverflow) s [])
    (hok : ∀ d, Q (.ok ()) { s with state := .cleaningUp a g t fl act now d retry } []) :
    wp (RestartSupervisor.enterCleanup now fl act retry) Q s := by
  rw [RestartSupervisor.enterCleanup, wp_get_bind]
  have hbody : wp (lift (checkedDeadline now s.policy.cleanupTimeoutNs) >>= fun d =>
      RestartSupervisor.setState (.cleaningUp a g t fl act now d retry)) Q s := by
    rw [wp_lift_bind, checkedDeadline]
    by_cases hfit : now + s.policy.cleanupTimeoutNs ≤ u64Max
    · simpa [hfit, RestartSupervisor.setState] using hok _
    · simpa [hfit] using herr
  cases hst : s.state <;> simp_all [activeAttempt]

theorem wp_identityErrorOrInvalidState (herr : ∀ e, (∀ f, e ≠ .attemptFailed f) → Q (.err e) s []) :
    wp (RestartSupervisor.identityErrorOrInvalidState g t) Q s := by
  rw [RestartSupervisor.identityErrorOrInvalidState, wp_get_bind]
  split
  · exact wp_check (refuses_validateEventIdentity ..) herr fun _ _ => herr _ (by simp)
  · exact herr _ (by simp)

theorem wp_pushHistory {record : AttemptRecord} {f : Unit → Sup Unit}
    (herr : Q (.err .historyExhausted) s [])
    (hok : s.history.length < restartHistoryCapacity →
      wp (f ()) Q { s with history := s.history ++ [record] }) :
    wp (RestartSupervisor.pushHistory record >>= f) Q s := by
  rw [wp_bind, RestartSupervisor.pushHistory, wp_get_bind]
  split
  · simpa using hok ‹_›
  · exact herr

end Helpers

/-! ## One lemma per public transition -/

section Calls

variable {s : RestartSupervisor}

/-- The postcondition "this was one of the listed effects". -/
abbrev Does (s : RestartSupervisor) (op : Op) :
    Outcome RestartTransitionError Unit → RestartSupervisor → List Empty → Prop :=
  fun o s' _ => Transition s op o s'

theorem does_refuse {op : Op} (e : RestartTransitionError)
    (he : ∀ f, e ≠ .attemptFailed f) : Does s op (.err e) s [] :=
  Transition.refused he (Nat.le_refl _)

theorem does_refuse_later {op : Op} (hnow : s.lastObservedNs ≤ now)
    (e : RestartTransitionError) (he : ∀ f, e ≠ .attemptFailed f) :
    Does s op (.err e) { s with lastObservedNs := now } [] :=
  Transition.refused he hnow

theorem begin_does (now g t : Nat) :
    wp (RestartSupervisor.begin now g t) (Does s (.begin now g t)) s := by
  rw [RestartSupervisor.begin, wp_get_bind]
  split
  · exact does_refuse _ (by simp)
  · rename_i hst
    refine wp_check (refuses_validateIdentity ..) does_refuse fun _ hid => ?_
    split
    · exact does_refuse _ (by simp)
    · rename_i hg
      refine wp_check (refuses_checkedDeadline ..) does_refuse fun d _ => ?_
      refine wp_observeTime (does_refuse _ (by simp)) fun hnow => ?_
      exact Transition.began (not_not.mp hst) (Nat.lt_of_not_le hg)
        (validateIdentity_eq_ok.mp hid).2 hnow

theorem childStarted_does (g t now : Nat) :
    wp (RestartSupervisor.childStarted g t now) (Does s (.childStarted g t now)) s := by
  rw [RestartSupervisor.childStarted, wp_get_bind]
  split
  · rename_i a g' t' d hst
    refine wp_check (refuses_validateEventIdentity ..) does_refuse fun _ hid => ?_
    obtain ⟨-, -, rfl, rfl⟩ := validateEventIdentity_eq_ok.mp hid
    refine wp_observeTime (does_refuse _ (by simp)) fun hnow => ?_
    have hactive : activeAttempt s.state = some (a, g, t) := by rw [hst]; rfl
    split
    · rw [wp_bind]
      refine wp_enterCleanup hactive (does_refuse_later hnow _ (by simp)) fun d => ?_
      exact Transition.enteredCleanup hactive hnow (Or.inr rfl)
    · exact Transition.childStarted hst hnow
  · exact does_refuse _ (by simp)

theorem ready_does (g t now : Nat) :
    wp (RestartSupervisor.ready g t now) (Does s (.ready g t now)) s := by
  rw [RestartSupervisor.ready, wp_get_bind]
  split
  · rename_i a g' t' d hst
    refine wp_check (refuses_validateIdentity ..) does_refuse fun _ _ => ?_
    split
    · exact does_refuse _ (by simp)
    · rename_i hg
      obtain rfl := not_not.mp hg
      refine wp_observeTime (does_refuse _ (by simp)) fun hnow => ?_
      have hactive : activeAttempt s.state = some (a, g, t') := by rw [hst]; rfl
      have hfail : ∀ f, wp (RestartSupervisor.enterCleanup now f .terminateTaskGroup true >>=
          fun _ => throw (.attemptFailed f)) (Does s (.ready g t now))
          { s with lastObservedNs := now } := by
        intro f
        rw [wp_bind]
        refine wp_enterCleanup hactive (does_refuse_later hnow _ (by simp)) fun d => ?_
        exact Transition.enteredCleanup hactive hnow (Or.inr rfl)
      split
      · exact hfail _
      · rename_i ht
        obtain rfl := not_not.mp ht
        split
        · exact hfail _
        · exact Transition.becameReady hst hnow
  · exact wp_identityErrorOrInvalidState does_refuse

theorem activeAction_some {st : RestartState} {act : CleanupAction}
    (h : RestartSupervisor.activeAction st = some (g, t, act)) :
    ∃ a, activeAttempt st = some (a, g, t) := by
  cases st <;> simp_all [RestartSupervisor.activeAction, activeAttempt]

/-- `fail_attempt` either refuses or enters cleanup of the active generation
for the reported failure. -/
theorem failAttempt_spec (g t now : Nat) (f : AttemptFailure)
    {Q : Outcome RestartTransitionError Unit → RestartSupervisor → List Empty → Prop}
    (herr : ∀ e, (∀ f, e ≠ .attemptFailed f) → Q (.err e) s [])
    (hlater : s.lastObservedNs ≤ now → ∀ e, (∀ f, e ≠ .attemptFailed f) →
      Q (.err e) { s with lastObservedNs := now } [])
    (hok : ∀ a act d, activeAttempt s.state = some (a, g, t) → s.lastObservedNs ≤ now →
      Q (.ok ())
        { s with lastObservedNs := now, state := .cleaningUp a g t f act now d true } []) :
    wp (RestartSupervisor.failAttempt g t now f) Q s := by
  rw [RestartSupervisor.failAttempt, wp_get_bind]
  split
  · rename_i g' t' act hact
    obtain ⟨a, hactive⟩ := activeAction_some hact
    refine wp_check (refuses_validateEventIdentity ..) herr fun _ hid => ?_
    obtain ⟨-, -, rfl, rfl⟩ := validateEventIdentity_eq_ok.mp hid
    refine wp_observeTime (herr _ (by simp)) fun hnow => ?_
    split
    · exact hlater hnow _ (by simp)
    · exact wp_enterCleanup hactive (hlater hnow _ (by simp)) fun d => hok a _ d hactive hnow
  · exact wp_identityErrorOrInvalidState herr

theorem failAttempt_does (g t now : Nat) (f : AttemptFailure) :
    wp (RestartSupervisor.failAttempt g t now f) (Does s (.failAttempt g t now f)) s :=
  failAttempt_spec g t now f does_refuse does_refuse_later fun _ _ _ hactive hnow =>
    Transition.enteredCleanup hactive hnow (Or.inl rfl)

theorem admitRecovery_does (g t now : Nat) (f : AttemptFailure) :
    wp (RestartSupervisor.admitRecovery g t now f) (Does s (.admitRecovery g t now f)) s := by
  rw [RestartSupervisor.admitRecovery, wp_get_bind]
  split
  · rename_i a g' t' hst
    refine wp_check (refuses_validateEventIdentity ..) does_refuse fun _ hid => ?_
    obtain ⟨-, -, rfl, rfl⟩ := validateEventIdentity_eq_ok.mp hid
    refine wp_check (refuses_checkedDeadline ..) does_refuse fun _ _ => ?_
    -- the inner call runs on the copy; only its `ok` result is stored
    have hcopy := failAttempt_spec (s := { s with
        history := [], episodeStartedAtNs := now, state := .ready 1 g t }) g t now f
      (Q := fun o s' _ => match o with
        | .ok _ => Transition s (.admitRecovery g t now f) (.ok ()) s'
        | .err e => ∀ f, e ≠ .attemptFailed f
        | .panic => False)
      (fun e he => he) (fun _ e he => he) (fun a' act d hactive hnow => by
        simp only [activeAttempt, Option.some.injEq, Prod.mk.injEq] at hactive
        obtain ⟨rfl, -⟩ := hactive
        exact Transition.recovered hst hnow)
    simp only [wp] at hcopy ⊢
    rcases hfa : RestartSupervisor.failAttempt g t now f
      { s with history := [], episodeStartedAtNs := now, state := .ready 1 g t } with
      ⟨_ | _ | _, s', w⟩
    · simpa [hfa] using hcopy
    · simp only [hfa] at hcopy ⊢
      exact does_refuse _ hcopy
    · simp [hfa] at hcopy
  · exact does_refuse _ (by simp)

theorem retireActiveFailClosed_does (g t now : Nat) (f : AttemptFailure)
    (cleanup : CleanupDisposition) :
    wp (RestartSupervisor.retireActiveFailClosed g t now f cleanup)
      (Does s (.retireActiveFailClosed g t now f cleanup)) s := by
  rw [RestartSupervisor.retireActiveFailClosed, wp_get_bind]
  have hretire : ∀ a g' t', activeAttempt s.state = some (a, g', t') →
      wp (do
        lift (validateEventIdentity g t g' t')
        RestartSupervisor.observeTime now
        RestartSupervisor.pushHistory (terminalRecord s a g t f now cleanup)
        RestartSupervisor.setState (.permanentFailure f cleanup))
        (Does s (.retireActiveFailClosed g t now f cleanup)) s := by
    intro a g' t' hactive
    refine wp_check (refuses_validateEventIdentity ..) does_refuse fun _ hid => ?_
    obtain ⟨-, -, rfl, rfl⟩ := validateEventIdentity_eq_ok.mp hid
    refine wp_observeTime (does_refuse _ (by simp)) fun hnow => ?_
    refine wp_pushHistory (does_refuse_later hnow _ (by simp)) fun _ => ?_
    exact Transition.retired hactive hnow
  split
  · rename_i a g' t' d hst
    exact hretire a g' t' (by rw [hst]; rfl)
  · rename_i a g' t' d hst
    exact hretire a g' t' (by rw [hst]; rfl)
  · rename_i a g' t' hst
    exact hretire a g' t' (by rw [hst]; rfl)
  · exact wp_identityErrorOrInvalidState does_refuse

/-- The common tail of the calls that classify an active generation: check
the identity, observe the time, enter cleanup. -/
theorem classify_does {op : Op} {g' t' : Nat} {f : AttemptFailure} {act : CleanupAction}
    (hactive : activeAttempt s.state = some (a, g', t')) :
    wp (do
      lift (validateEventIdentity g t g' t')
      RestartSupervisor.observeTime now
      RestartSupervisor.enterCleanup now f act retry) (Does s op) s := by
  refine wp_check (refuses_validateEventIdentity ..) does_refuse fun _ _ => ?_
  refine wp_observeTime (does_refuse _ (by simp)) fun hnow => ?_
  exact wp_enterCleanup hactive (does_refuse_later hnow _ (by simp)) fun d =>
    Transition.enteredCleanup hactive hnow (Or.inl rfl)

theorem terminal_does (g t now : Nat) (disposition : TerminalDisposition) :
    wp (RestartSupervisor.terminal g t now disposition)
      (Does s (.terminal g t now disposition)) s := by
  rw [RestartSupervisor.terminal, wp_get_bind]
  split
  · rename_i hst
    exact classify_does (by rw [hst]; rfl)
  · rename_i hst
    exact classify_does (by rw [hst]; rfl)
  · rename_i hst
    exact classify_does (by rw [hst]; rfl)
  · exact wp_identityErrorOrInvalidState does_refuse

theorem cancel_does (g t now : Nat) :
    wp (RestartSupervisor.cancel g t now) (Does s (.cancel g t now)) s := by
  rw [RestartSupervisor.cancel, wp_get_bind]
  split
  · rename_i hact
    obtain ⟨a, hactive⟩ := activeAction_some hact
    exact classify_does hactive
  · exact wp_identityErrorOrInvalidState does_refuse

/-- Leaving cleanup. The attempt bound of a well-formed supervisor rules out
the `u8` overflow of the attempt number; what remains of the error branches
after the push is `DeadlineOverflow`. -/
theorem finishCleanup_does (hwf : WellFormed s) {op : Op} {cl d : Nat}
    {f : AttemptFailure} {act : CleanupAction} {requested : CleanupDisposition}
    (hst : s.state = .cleaningUp a g t f act cl d retry) (hnow : s.lastObservedNs ≤ now)
    (hop : requested = .complete → op = .cleanupComplete g t now) :
    wp (RestartSupervisor.finishCleanup now f requested) (Does s op)
      { s with lastObservedNs := now } := by
  have hcur : Current s.policy s.lastGeneration a g t := by
    have := hwf.state
    rwa [StateOk, hst] at this
  have ha : a + 1 ≤ u8Max := by
    have h1 := hcur.attempt_le
    have h2 := hwf.policy.attempts_le
    simp only [restartHistoryCapacity, u8Max] at *
    omega
  rw [RestartSupervisor.finishCleanup, wp_get_bind]
  split
  case h_2 hno => exact absurd hst (hno _ _ _ _ _ _ _ _)
  rename_i hst'
  obtain ⟨rfl, rfl, rfl, rfl, rfl, rfl, rfl, rfl⟩ :=
    RestartState.cleaningUp.inj (hst.symm.trans hst')
  rw [if_neg (not_not.mpr rfl)]
  generalize hcl : (if requested = .complete ∧ d ≤ now then .failed else requested) = cleanup
  refine wp_pushHistory (does_refuse_later hnow .historyExhausted (by simp)) fun hlen => ?_
  cases cleanup with
  | failed => exact Transition.gaveUp hst hnow
  | complete =>
    -- a cleanup that is not failed was asked for as complete, in time
    obtain ⟨hreq, hd⟩ : requested = .complete ∧ now < d := by
      split at hcl
      · cases hcl
      · rename_i hlate
        exact ⟨hcl, Nat.lt_of_not_le fun hle => hlate ⟨hcl, hle⟩⟩
    obtain rfl := hop hreq
    rw [if_neg (by simp)]
    cases retry with
    | false => exact Transition.cleanedStopped hst hnow
    | true =>
        simp only [Bool.true_eq_false, if_false]
        rw [if_neg (Nat.not_lt.mpr ha)]
        split
        · exact Transition.gaveUp hst hnow
        · rename_i hmax
          split
          · exact Transition.gaveUp hst hnow
          · rename_i hgen
            have hover : (u64Max < now + s.policy.backoffNs
                ∨ u64Max < s.episodeStartedAtNs + s.policy.restartWindowNs) →
                DeadlineOverflow s (.cleanupComplete g t now) := by
              intro hov
              simp only [DeadlineOverflow, hst]
              exact ⟨validateEventIdentity_eq_ok.mpr
                ⟨hcur.generation_pos, hcur.transaction_pos, rfl, rfl⟩,
                hnow, hd, hlen, trivial, Nat.lt_of_succ_le (Nat.le_of_not_lt hmax),
                Nat.lt_of_succ_le (Nat.le_of_not_lt hgen), hov⟩
            rw [wp_lift_bind, checkedDeadline]
            by_cases hb : now + s.policy.backoffNs ≤ u64Max
            · simp only [hb, if_true]
              rw [wp_lift_bind, checkedDeadline]
              by_cases hw : s.episodeStartedAtNs + s.policy.restartWindowNs ≤ u64Max
              · simp only [hw, if_true]
                split
                · exact Transition.gaveUp hst hnow
                · exact Transition.cleanedBackoff hst hnow (by omega) (by omega) hw
              · simp only [hw, if_false]
                exact Transition.recordLeft (hover (Or.inr (by omega))) hst hnow
            · simp only [hb, if_false]
              exact Transition.recordLeft (hover (Or.inl (by omega))) hst hnow

theorem deadlineElapsed_does (hwf : WellFormed s) (g t expected now : Nat) :
    wp (RestartSupervisor.deadlineElapsed g t expected now)
      (Does s (.deadlineElapsed g t expected now)) s := by
  -- the checks are the same in the three states that have a deadline
  have hchecked : ∀ {g' t' d} {m : Sup Unit},
      (s.lastObservedNs ≤ now → wp m (Does s (.deadlineElapsed g t expected now))
        { s with lastObservedNs := now }) →
      wp (do
        lift (validateEventIdentity g t g' t')
        lift (validateDeadline expected d)
        RestartSupervisor.observeTime now
        lift (requireReached now d)
        m) (Does s (.deadlineElapsed g t expected now)) s := by
    intro g' t' d m hm
    refine wp_check (refuses_validateEventIdentity ..) does_refuse fun _ _ => ?_
    refine wp_check (refuses_validateDeadline ..) does_refuse fun _ _ => ?_
    refine wp_observeTime (does_refuse _ (by simp)) fun hnow => ?_
    exact wp_check (refuses_requireReached ..) (does_refuse_later hnow) fun _ _ => hm hnow
  rw [RestartSupervisor.deadlineElapsed, wp_get_bind]
  split
  · rename_i a g' t' d hst
    have hactive : activeAttempt s.state = some (a, g', t') := by rw [hst]; rfl
    refine hchecked fun hnow => ?_
    exact wp_enterCleanup hactive (does_refuse_later hnow _ (by simp)) fun d =>
      Transition.enteredCleanup hactive hnow (Or.inl rfl)
  · rename_i a g' t' d hst
    have hactive : activeAttempt s.state = some (a, g', t') := by rw [hst]; rfl
    refine hchecked fun hnow => ?_
    exact wp_enterCleanup hactive (does_refuse_later hnow _ (by simp)) fun d =>
      Transition.enteredCleanup hactive hnow (Or.inl rfl)
  · rename_i hst
    exact hchecked fun hnow => finishCleanup_does hwf hst hnow (by simp)
  · exact does_refuse _ (by simp)

theorem cleanupReported_does (hwf : WellFormed s) {op : Op} (requested : CleanupDisposition)
    (g t now : Nat) (hop : requested = .complete → op = .cleanupComplete g t now) :
    wp (RestartSupervisor.cleanupReported requested g t now) (Does s op) s := by
  rw [RestartSupervisor.cleanupReported, wp_get_bind]
  split
  · rename_i hst
    refine wp_check (refuses_validateEventIdentity ..) does_refuse fun _ hid => ?_
    obtain ⟨-, -, rfl, rfl⟩ := validateEventIdentity_eq_ok.mp hid
    refine wp_observeTime (does_refuse _ (by simp)) fun hnow => ?_
    rw [wp_bind, RestartSupervisor.currentFailure, wp_get_bind]
    split
    case h_2 hno => exact absurd hst (hno _ _ _ _ _ _ _ _)
    rename_i hst'
    obtain ⟨rfl, rfl, rfl, rfl, rfl, rfl, rfl, rfl⟩ :=
      RestartState.cleaningUp.inj (hst.symm.trans hst')
    exact finishCleanup_does hwf hst hnow hop
  · exact wp_identityErrorOrInvalidState does_refuse

theorem startReplacement_does (now g t : Nat) :
    wp (RestartSupervisor.startReplacement now g t)
      (Does s (.startReplacement now g t)) s := by
  rw [RestartSupervisor.startReplacement, wp_get_bind]
  split
  · rename_i a g' d hst
    refine wp_check (refuses_validateIdentity ..) does_refuse fun _ hid => ?_
    split
    · exact does_refuse _ (by simp)
    · rename_i hg
      obtain rfl := not_not.mp hg
      refine wp_observeTime (does_refuse _ (by simp)) fun hnow => ?_
      refine wp_check (refuses_requireReached ..) (does_refuse_later hnow) fun _ hd => ?_
      refine wp_check (refuses_checkedDeadline ..) (does_refuse_later hnow) fun w hw => ?_
      obtain ⟨hfits, rfl⟩ := checkedDeadline_eq_ok.mp hw
      split
      · rw [wp_bind, RestartSupervisor.lastFailure, wp_get_bind]
        split
        · exact Transition.windowClosed hst hnow
        · exact does_refuse_later hnow _ (by simp)
      · refine wp_check (refuses_checkedDeadline ..) (does_refuse_later hnow) fun _ _ => ?_
        have hd' : d ≤ now := by
          simpa [requireReached] using hd
        exact Transition.replaced hst (validateIdentity_eq_ok.mp hid).2 hnow hd' (by omega)
  · exact does_refuse _ (by simp)

theorem exec_transition (hwf : WellFormed s) (op : Op) :
    Transition s op (exec op s).1 (exec op s).2.1 := by
  change wp (exec op) (Does s op) s
  cases op with
  | begin now g t => exact begin_does now g t
  | childStarted g t now => exact childStarted_does g t now
  | ready g t now => exact ready_does g t now
  | failAttempt g t now f => exact failAttempt_does g t now f
  | admitRecovery g t now f => exact admitRecovery_does g t now f
  | retireActiveFailClosed g t now f c => exact retireActiveFailClosed_does g t now f c
  | terminal g t now d => exact terminal_does g t now d
  | deadlineElapsed g t d now => exact deadlineElapsed_does hwf g t d now
  | cancel g t now => exact cancel_does g t now
  | cleanupComplete g t now => exact cleanupReported_does hwf .complete g t now fun _ => rfl
  | cleanupFailed g t now => exact cleanupReported_does hwf .failed g t now (by simp)
  | startReplacement now g t => exact startReplacement_does now g t

end Calls

end Wyrmroot.Restart
