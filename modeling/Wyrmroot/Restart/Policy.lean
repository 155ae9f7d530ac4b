import Mathlib.Data.Nat.SuccPred
import Wyrmroot.Restart.Transition

/-!
# The restart policy over whole runs

Everything here is about a history of calls from a fresh supervisor.

- `exec_errorAtomic_iff`: a call that reports an ordinary error changed
  nothing but the observed time, unless it is a `DeadlineOverflow`.
- `policy_holds_iff`: the policy invariants hold along a run exactly when
  no call of it is a `DeadlineOverflow`. All of them except the exactness
  of the terminal history hold in every run; the history gains a second
  record for an attempt in flight when a deadline overflows.
-/

namespace Wyrmroot.Restart

variable {s s' : RestartSupervisor} {op : Op}
  {o : Outcome RestartTransitionError Unit} {h : History}

/-! ## Well-formedness -/

theorem fresh_wellFormed (hs : Fresh s) : WellFormed s := by
  obtain ⟨policy, hnew⟩ := hs
  unfold RestartSupervisor.new at hnew
  split at hnew
  · cases hnew
  · rename_i hbad
    cases hnew
    have hpolicy : PolicyOk policy := by
      constructor <;> omega
    exact ⟨hpolicy, trivial⟩

variable {a g t : Nat}

theorem WellFormed.current (hwf : WellFormed s) (hactive : activeAttempt s.state = some (a, g, t)) :
    Current s.policy s.lastGeneration a g t := by
  have hst := hwf.state
  unfold StateOk at hst
  cases hs : s.state <;> simp_all [activeAttempt]

theorem Transition.wellFormed (htr : Transition s op o s') (hwf : WellFormed s) :
    WellFormed s' := by
  have hst := hwf.state
  refine ⟨by cases htr <;> exact hwf.policy, ?_⟩
  cases htr with
  | refused he hnow | recordLeft hover hstate hnow => exact hst
  | began hstate hg ht hnow =>
      exact ⟨Nat.one_pos, hwf.policy.attempts_pos, by omega, rfl, ht⟩
  | childStarted hstate hnow | becameReady hstate hnow =>
      rw [StateOk, hstate] at hst
      exact hst
  | enteredCleanup hactive hnow ho => exact hwf.current hactive
  | recovered hstate hnow =>
      rw [StateOk, hstate] at hst
      exact ⟨Nat.one_pos, hwf.policy.attempts_pos, hst.3, hst.4, hst.5⟩
  | retired hactive hnow | gaveUp hstate hnow | cleanedStopped hstate hnow
  | windowClosed hstate hnow => trivial
  | cleanedBackoff hstate hnow ha hwindow hfits =>
      rw [StateOk, hstate] at hst
      exact ⟨Nat.succ_lt_succ hst.1, ha, congrArg (· + 1) hst.4, hwindow, hfits⟩
  | replaced hstate ht hnow hd hwindow =>
      rw [StateOk, hstate] at hst
      obtain ⟨ha, hmax, hg, -, -⟩ := hst
      exact ⟨by omega, hmax, by omega, rfl, ht⟩

theorem SupervisorRun.wellFormed (hrun : SupervisorRun h s) : WellFormed s :=
  Run.invariant (fun _ => fresh_wellFormed)
    (fun op _ hwf _ => (exec_transition hwf op).wellFormed hwf) hrun

theorem SupervisorRun.transition (hrun : SupervisorRun h s) (op : Op) :
    Transition s op (exec op s).1 (exec op s).2.1 :=
  exec_transition hrun.wellFormed op

variable {c : SupervisorCall}

/-- Every call of a history is one of the listed effects, from a
well-formed supervisor. -/
theorem SupervisorRun.mem_transition (hrun : SupervisorRun h s) (hc : c ∈ h) :
    Transition c.before c.op c.outcome c.after := by
  obtain ⟨⟨h', -, hr⟩, heq, -⟩ := Run.mem hrun hc
  rw [heq]
  exact SupervisorRun.transition hr c.op

/-! ## Errors -/

/-- An ordinary error leaves everything but the observed time as it was. -/
def ErrorAtomic (s : RestartSupervisor) (op : Op) : Prop :=
  ∀ e, (exec op s).1 = .err e → (∀ f, e ≠ .attemptFailed f) →
    ∃ now, s.lastObservedNs ≤ now ∧ (exec op s).2.1 = { s with lastObservedNs := now }

theorem DeadlineOverflow.run (hwf : WellFormed s) (hover : DeadlineOverflow s op) :
    (exec op s).1 = .err .arithmeticOverflow
      ∧ ∃ a g t f act cl d retry, s.state = .cleaningUp a g t f act cl d retry
        ∧ (exec op s).2.1.state = s.state
        ∧ (exec op s).2.1.history
            = s.history ++ [terminalRecord s a g t f cl .complete] := by
  cases op with
  | cleanupComplete g t now =>
      simp only [DeadlineOverflow] at hover
      split at hover
      · rename_i a g' t' f act cl d retry hst
        obtain ⟨hid, hnow, hd, hlen, rfl, hmax, hgen, hov⟩ := hover
        obtain ⟨-, -, rfl, rfl⟩ := validateEventIdentity_eq_ok.mp hid
        have hle := hwf.policy.attempts_le
        have hu8 : ¬ u8Max ≤ a := by
          simp only [restartHistoryCapacity, u8Max] at *
          omega
        have hrun : (exec (.cleanupComplete g t now) s) = (.err .arithmeticOverflow,
            { s with
              lastObservedNs := now,
              history := s.history ++ [terminalRecord s a g t f cl .complete] }, []) := by
          have hwin : now + s.policy.backoffNs ≤ u64Max →
              ¬ s.episodeStartedAtNs + s.policy.restartWindowNs ≤ u64Max := by omega
          by_cases hb : now + s.policy.backoffNs ≤ u64Max <;>
            simp [exec, RestartSupervisor.cleanupComplete, RestartSupervisor.cleanupReported,
              RestartSupervisor.observeTime, RestartSupervisor.currentFailure,
              RestartSupervisor.finishCleanup, RestartSupervisor.pushHistory,
              Prog.bind_run, hst, hid, Nat.not_lt.mpr hnow, Nat.not_le.mpr hd, hlen, hu8,
              Nat.not_le.mpr hmax, Nat.not_le.mpr hgen,
              checkedDeadline, hb, hwin, terminalRecord]
        rw [hrun]
        exact ⟨rfl, a, g, t, f, act, cl, d, true, hst, rfl, rfl⟩
      · exact hover.elim
  | _ => exact hover.elim

/-- Behind every run, a call that reports an ordinary error has changed nothing but
the observed time exactly when it is no `DeadlineOverflow`. -/
theorem exec_errorAtomic_iff (hrun : SupervisorRun h s) (op : Op) :
    ErrorAtomic s op ↔ ¬ DeadlineOverflow s op := by
  constructor
  · intro hatomic hover
    obtain ⟨herr, a, g, t, f, act, cl, d, retry, -, -, hhist⟩ := hover.run hrun.wellFormed
    obtain ⟨now, -, hsame⟩ := hatomic _ herr (by simp)
    rw [hsame] at hhist
    simp at hhist
  · intro hno e herr he
    have htr := SupervisorRun.transition hrun op
    revert htr
    generalize (exec op s).2.1 = s'
    rw [herr]
    intro htr
    cases htr with
    | refused _ hnow => exact ⟨_, hnow, rfl⟩
    | enteredCleanup hactive hnow ho =>
        rcases ho with ho | ho
        · cases ho
        · exact absurd (Outcome.err.inj ho) (he _)
    | recordLeft hover => exact absurd hover hno

/-- A supervisor under the locked policy, before any call. -/
def idle : RestartSupervisor where
  policy := wyr0ISupervisionPolicy
  state := .stopped
  history := []
  episodeStartedAtNs := 0
  attemptStartedAtNs := 0
  lastObservedNs := 0
  lastGeneration := 0

theorem idle_fresh : Fresh idle := ⟨wyr0ISupervisionPolicy, rfl⟩

/-- The first attempt fails and is cleaned up. -/
def backingOff : List Op :=
  [.begin 0 1 11, .failAttempt 1 11 5 .creationFailed, .cleanupComplete 1 11 6]

/-- A replacement is refused while the supervisor backs off. -/
theorem exec_errorAtomic_backoff :
    let s := (replay exec backingOff idle).2
    s.state = .backoff 2 2 25000006 ∧ s.history.length = 1 ∧
      (exec (.startReplacement 7 2 12) s).1 = .err .deadlineNotReached ∧
      ErrorAtomic s (.startReplacement 7 2 12) := by
  have hrun : SupervisorRun (replay exec backingOff idle).1 (replay exec backingOff idle).2 := by
    simpa using Run.replay backingOff (Run.start idle_fresh) (by decide +kernel)
  exact ⟨by decide +kernel, by decide +kernel, by decide +kernel,
    (exec_errorAtomic_iff hrun _).mpr id⟩

/-- The last instant at which an attempt of the locked policy can begin and
be classified. -/
def lateNs : Nat := u64Max - 1000000000

/-- One attempt begun and failed at `lateNs`, now being cleaned up. -/
def lateCalls : List Op :=
  [.begin lateNs 1 11, .failAttempt 1 11 lateNs .creationFailed]

/-- In time for its cleanup deadline, too late for a backoff deadline. -/
def lateCleanup : Op := .cleanupComplete 1 11 (u64Max - 1)

/-- Reporting that cleanup complete fails, and leaves its record behind. -/
theorem cleanupComplete_leaves_record :
    SupervisorRun (replay exec lateCalls idle).1 (replay exec lateCalls idle).2
      ∧ ¬ ErrorAtomic (replay exec lateCalls idle).2 lateCleanup := by
  refine ⟨?_, ?_⟩
  · simpa using Run.replay lateCalls (Run.start idle_fresh) (by decide +kernel)
  · intro hatomic
    obtain ⟨now, -, hsame⟩ := hatomic .arithmeticOverflow (by decide +kernel) (by simp)
    have hhist : (exec lateCleanup (replay exec lateCalls idle).2).2.1.history.length
        = (replay exec lateCalls idle).2.history.length :=
      congrArg (fun s => s.history.length) hsame
    revert hhist
    decide +kernel

/-! ## Starting attempts -/

/-- The generation a call started, if it started one. -/
def startedGeneration (c : SupervisorCall) : Option Nat :=
  match c.op, c.outcome, c.after.state with
  | .begin .., .ok _, .starting _ g _ _ => some g
  | .startReplacement .., .ok _, .starting _ g _ _ => some g
  | _, _, _ => none

/-- The calls that open an episode. -/
def opensEpisode (c : SupervisorCall) : Bool :=
  match c.op, c.outcome with
  | .begin .., .ok _ => true
  | .admitRecovery .., .ok _ => true
  | _, _ => false

/-- A `cleanup_complete` of generation `g` that was accepted as complete. -/
def ReportsCleanup (c : SupervisorCall) (g : Nat) : Prop :=
  (∃ t now, c.op = .cleanupComplete g t now) ∧ c.outcome = .ok ()
    ∧ (c.after.state = .stopped ∨ ∃ a g' d, c.after.state = .backoff a g' d)

/-- A call that starts an attempt does it from `Stopped` or from an elapsed
backoff, and takes a generation above every earlier one. -/
theorem Transition.started
    (htr : Transition c.before c.op c.outcome c.after) (hwf : WellFormed c.before)
    (hg : startedGeneration c = some g) :
    c.before.lastGeneration < g ∧ c.after.lastGeneration = g
      ∧ ((c.before.state = .stopped ∧ opensEpisode c = true
            ∧ ∃ t d, c.after.state = .starting 1 g t d)
        ∨ ∃ a d t d' now, c.before.state = .backoff a g d ∧ c.after.state = .starting a g t d'
            ∧ c.op = .startReplacement now g t ∧ d ≤ now
            ∧ now ≤ c.before.episodeStartedAtNs + c.before.policy.restartWindowNs) := by
  obtain ⟨s, op, o, s', w⟩ := c
  have hst := hwf.state
  change Transition s op o s' at htr
  cases htr with
  | began hstate hlt ht hnow =>
      simp only [startedGeneration, Option.some.injEq] at hg
      subst hg
      exact ⟨hlt, rfl, Or.inl ⟨hstate, rfl, _, _, rfl⟩⟩
  | replaced hstate ht hnow hd hwindow =>
      simp only [startedGeneration, Option.some.injEq] at hg
      subst hg
      simp only [StateOk, hstate] at hst
      exact ⟨by simp only; omega, rfl,
        Or.inr ⟨_, _, _, _, _, hstate, rfl, rfl, hd, hwindow⟩⟩
  | enteredCleanup hactive hnow ho =>
      rcases ho with rfl | rfl <;> cases op <;> simp [startedGeneration] at hg
  | gaveUp hstate hnow | refused he hnow => cases op <;> simp [startedGeneration] at hg
  | _ => simp [startedGeneration] at hg

theorem Transition.lastGeneration_eq (htr : Transition c.before c.op c.outcome c.after)
    (hnone : startedGeneration c = none) :
    c.after.lastGeneration = c.before.lastGeneration := by
  obtain ⟨s, op, o, s', w⟩ := c
  change Transition s op o s' at htr
  cases htr with
  | began | replaced => simp [startedGeneration] at hnone
  | _ => rfl

theorem Transition.policy_eq (htr : Transition s op o s') : s'.policy = s.policy := by
  cases htr <;> rfl

/-- No attempt in flight and none being cleaned up. -/
def Idle (st : RestartState) : Prop :=
  st = .stopped ∨ ∃ a g d, st = .backoff a g d

/-- The only way from a generation in flight to an idle state is the report
that this generation is clean. -/
theorem Transition.idle
    (htr : Transition c.before c.op c.outcome c.after) (hwf : WellFormed c.before)
    (hidle : Idle c.after.state) :
    Idle c.before.state ∨ ReportsCleanup c c.before.lastGeneration := by
  obtain ⟨s, op, o, s', w⟩ := c
  have hst := hwf.state
  change Transition s op o s' at htr
  cases htr with
  | refused he hnow | recordLeft hover hstate hnow => exact Or.inl hidle
  | cleanedStopped hstate hnow =>
      simp only [StateOk, hstate] at hst
      exact Or.inr ⟨⟨_, _, by rw [hst.generation_eq]⟩, rfl, Or.inl rfl⟩
  | cleanedBackoff hstate hnow ha hwindow hfits =>
      simp only [StateOk, hstate] at hst
      exact Or.inr ⟨⟨_, _, by rw [hst.generation_eq]⟩, rfl, Or.inr ⟨_, _, _, rfl⟩⟩
  | _ => simp [Idle] at hidle

/-! ## Facts about every run -/

theorem SupervisorRun.policy_mem (hrun : SupervisorRun h s) :
    ∀ c ∈ h, c.after.policy = s.policy ∧ c.before.policy = s.policy := by
  induction hrun with
  | start _ => simp
  | @call h s op hr hp ih =>
      have hkeep := (SupervisorRun.transition hr op).policy_eq
      intro c hc
      rw [List.mem_append, List.mem_singleton] at hc
      rcases hc with hc | rfl
      · rw [hkeep]
        exact ih c hc
      · exact ⟨rfl, hkeep.symm⟩

/-- Started generations strictly increase, and the high-water mark bounds
them. -/
theorem SupervisorRun.generations (hrun : SupervisorRun h s) :
    (h.filterMap startedGeneration).Pairwise (· < ·)
      ∧ ∀ g ∈ h.filterMap startedGeneration, g ≤ s.lastGeneration := by
  induction hrun with
  | start _ => simp
  | @call h s op hr hp ih =>
      obtain ⟨hpair, hle⟩ := ih
      have htr := SupervisorRun.transition hr op
      have hwf := SupervisorRun.wellFormed hr
      rw [List.filterMap_append]
      cases hg : startedGeneration (callOf exec op s) with
      | none =>
          have hlast := Transition.lastGeneration_eq (c := callOf exec op s) htr hg
          simp only [List.filterMap_cons, hg, List.filterMap_nil, List.append_nil]
          refine ⟨hpair, fun g hmem => ?_⟩
          exact Nat.le_trans (hle g hmem) (Nat.le_of_eq hlast.symm)
      | some g =>
          obtain ⟨hlt, hlast, -⟩ := Transition.started (c := callOf exec op s) htr hwf hg
          simp only [List.filterMap_cons, hg, List.filterMap_nil]
          refine ⟨List.pairwise_append.mpr ⟨hpair, List.pairwise_singleton _ _, ?_⟩, ?_⟩
          · intro x hx y hy
            rw [List.mem_singleton.mp hy]
            exact Nat.lt_of_le_of_lt (hle x hx) hlt
          · intro x hx
            rcases List.mem_append.mp hx with hx | hx
            · exact Nat.le_trans (hle x hx) (hlast ▸ Nat.le_of_lt hlt)
            · rw [List.mem_singleton.mp hx]
              exact Nat.le_of_eq hlast.symm

/-- While nothing has been started since the call `c` that started `g`, the
high-water mark is `g`, and being idle means that `g` was reported clean. -/
theorem SupervisorRun.cleaned_since (hrun : SupervisorRun h s) :
    ∀ h₁ c h₂ g, h = h₁ ++ c :: h₂ → startedGeneration c = some g →
      (∀ x ∈ h₂, startedGeneration x = none) →
      s.lastGeneration = g ∧ (Idle s.state → ∃ x ∈ h₂, ReportsCleanup x g) := by
  induction hrun with
  | start _ => simp
  | @call h s op hr hp ih =>
      intro h₁ c h₂ g hsplit hg hnone
      have htr := SupervisorRun.transition hr op
      have hwf := SupervisorRun.wellFormed hr
      rcases snoc_eq_append_cons hsplit with ⟨rfl, rfl, rfl⟩ | ⟨t, rfl, rfl⟩
      · obtain ⟨-, hlast, hfrom⟩ := htr.started (c := callOf exec op s) hwf hg
        refine ⟨hlast, fun hidle => ?_⟩
        rcases hfrom with ⟨-, -, t, d, hst⟩ | ⟨a, d, t, d', now, -, hst, -⟩ <;>
          exact absurd hidle (by simp [Idle, show (exec op s).2.1.state = _ from hst])
      · have hlastNone := hnone (callOf exec op s) (by simp)
        obtain ⟨hlast, hclean⟩ := ih h₁ c t g rfl hg fun x hx => hnone x (by simp [hx])
        refine ⟨(htr.lastGeneration_eq (c := callOf exec op s) hlastNone).trans hlast, ?_⟩
        intro hidle
        rcases htr.idle (c := callOf exec op s) hwf hidle with hbefore | hreport
        · obtain ⟨x, hx, hrep⟩ := hclean hbefore
          exact ⟨x, by simp [hx], hrep⟩
        · exact ⟨callOf exec op s, by simp, by rwa [← hlast]⟩

/-! ## Episodes -/

/-- How many attempts of the current episode have been used up; in an idle
or final state, all of them. -/
def attemptsUsed (s : RestartSupervisor) : Nat :=
  match s.state with
  | .starting a _ _ _ => a
  | .awaitingReady a _ _ _ => a
  | .ready a _ _ => a
  | .cleaningUp a _ _ _ _ _ _ _ => a
  | .backoff a _ _ => a - 1
  | .stopped => s.policy.maxAttempts
  | .permanentFailure _ _ => s.policy.maxAttempts

/-- The number of attempts a stretch of history started. -/
def startsIn (h : History) : Nat := (h.filterMap startedGeneration).length

theorem startsIn_append (h₁ h₂ : History) :
    startsIn (h₁ ++ h₂) = startsIn h₁ + startsIn h₂ := by
  simp [startsIn]

theorem startsIn_some (hg : startedGeneration c = some g) :
    startsIn [c] = 1 := by
  simp [startsIn, hg]

theorem startsIn_none (hnone : startedGeneration c = none) :
    startsIn [c] = 0 := by
  simp [startsIn, hnone]

theorem attemptsUsed_le (hwf : WellFormed s) : attemptsUsed s ≤ s.policy.maxAttempts := by
  have hst := hwf.state
  unfold attemptsUsed StateOk at *
  cases hs : s.state <;> simp_all <;> first | exact hst.attempt_le | omega

theorem attemptsUsed_active
    (hactive : activeAttempt s.state = some (a, g, t)) : attemptsUsed s = a := by
  unfold attemptsUsed
  cases hs : s.state <;> simp_all [activeAttempt]

/-- A call that does not open an episode uses an attempt exactly when it
starts one. -/
theorem Transition.attemptsUsed_step
    (htr : Transition c.before c.op c.outcome c.after) (hwf : WellFormed c.before) :
    startsIn [c] + (if opensEpisode c then 0 else attemptsUsed c.before)
      ≤ attemptsUsed c.after := by
  obtain ⟨s, op, o, s', w⟩ := c
  have hle := attemptsUsed_le hwf
  have hst := hwf.state
  change Transition s op o s' at htr
  have hquiet : ∀ c : SupervisorCall, startedGeneration c = none →
      attemptsUsed c.before ≤ attemptsUsed c.after →
      startsIn [c] + (if opensEpisode c then 0 else attemptsUsed c.before)
        ≤ attemptsUsed c.after := by
    intro c hnone hmono
    rw [startsIn_none hnone]
    split <;> omega
  cases htr with
  | began hstate hg ht hnow => exact Nat.le_of_eq (startsIn_some rfl)
  | @replaced a g t now d d' hstate ht hnow hd hwindow =>
      simp only [StateOk, hstate] at hst
      rw [startsIn_some (g := g) rfl]
      simp only [opensEpisode, attemptsUsed, hstate, Bool.false_eq_true, if_false]
      omega
  | refused he hnow =>
      exact hquiet _ (by cases op <;> rfl) (Nat.le_refl _)
  | enteredCleanup hactive hnow ho =>
      refine hquiet _ (by rcases ho with rfl | rfl <;> cases op <;> rfl) ?_
      exact Nat.le_of_eq (attemptsUsed_active hactive)
  | recovered hstate hnow =>
      rw [startsIn_none rfl]
      exact Nat.zero_le _
  | gaveUp hstate hnow => exact hquiet _ (by cases op <;> rfl) hle
  | retired hactive hnow | cleanedStopped hstate hnow | windowClosed hstate hnow =>
      exact hquiet _ rfl hle
  | cleanedBackoff hstate hnow ha hwindow hfits | childStarted hstate hnow
  | becameReady hstate hnow | recordLeft hover hstate hnow =>
      exact hquiet _ rfl (by simp [attemptsUsed, hstate])

/-- A stretch of history that opens no episode after its first call starts
no more attempts than the episode has used. -/
theorem SupervisorRun.starts_le (hrun : SupervisorRun h s) :
    ∀ h₁ h₂, h = h₁ ++ h₂ → (∀ x ∈ h₂.tail, opensEpisode x = false) →
      startsIn h₂ ≤ attemptsUsed s := by
  induction hrun with
  | start _ =>
      intro h₁ h₂ hsplit _
      simp [(List.append_eq_nil_iff.mp hsplit.symm).2, startsIn]
  | @call h s op hr hp ih =>
      intro h₁ h₂ hsplit hopens
      have hstep := (SupervisorRun.transition hr op).attemptsUsed_step
        (c := callOf exec op s) (SupervisorRun.wellFormed hr)
      rcases snoc_eq_append hsplit with rfl | ⟨t, rfl, rfl⟩
      · simp [startsIn]
      · rw [startsIn_append]
        cases t with
        | nil => exact (Nat.zero_add _).symm ▸ Nat.le_trans (Nat.le_add_right _ _) hstep
        | cons x t =>
            have hlast : opensEpisode (callOf exec op s) = false :=
              hopens _ (by simp)
            have hbefore := ih h₁ (x :: t) rfl fun y hy => hopens y (by simp_all)
            rw [hlast] at hstep
            have hstep' : startsIn [callOf exec op s] + attemptsUsed s
                ≤ attemptsUsed (exec op s).2.1 := hstep
            omega

/-! ## The terminal history -/

/-- The history holds the attempts before `attempt`, in order, all cleaned
up, with generations strictly increasing up to `generation`. -/
structure RecordsBefore (history : List AttemptRecord) (attempt generation : Nat) : Prop where
  attempts : history.map (·.attempt) = List.range' 1 (attempt - 1)
  generations : (history.map (·.generation) ++ [generation]).Pairwise (· < ·)
  cleaned : ∀ r ∈ history, r.cleanup = .complete

/-- The history of an episode in progress is exact. -/
def HistoryExact (s : RestartSupervisor) : Prop :=
  match s.state with
  | .starting a g _ _ => RecordsBefore s.history a g
  | .awaitingReady a g _ _ => RecordsBefore s.history a g
  | .ready a g _ => RecordsBefore s.history a g
  | .cleaningUp a g _ _ _ _ _ _ => RecordsBefore s.history a g
  | .backoff a g _ => RecordsBefore s.history a g
  | .stopped => True
  | .permanentFailure _ _ => True

theorem recordsBefore_nil (g : Nat) : RecordsBefore [] 1 g := by
  constructor <;> simp

theorem HistoryExact.active (hex : HistoryExact s)
    (hactive : activeAttempt s.state = some (a, g, t)) : RecordsBefore s.history a g := by
  unfold HistoryExact at hex
  cases hs : s.state <;> simp_all [activeAttempt]

theorem RecordsBefore.push {hist : List AttemptRecord}
    (hb : RecordsBefore hist a g) (ha : 0 < a) {r : AttemptRecord} (hra : r.attempt = a)
    (hrg : r.generation = g) (hrc : r.cleanup = .complete) :
    RecordsBefore (hist ++ [r]) (a + 1) (g + 1) := by
  obtain ⟨n, rfl⟩ : ∃ n, a = n + 1 := ⟨a - 1, by omega⟩
  refine ⟨?_, ?_, ?_⟩
  · rw [List.map_append, hb.attempts, Nat.add_sub_cancel, Nat.add_sub_cancel,
      List.range'_1_concat]
    simp [hra, Nat.add_comm]
  · simp only [List.map_append, List.map_cons, List.map_nil, hrg]
    refine List.pairwise_append.mpr ⟨hb.generations, List.pairwise_singleton _ _, ?_⟩
    intro x hx y hy
    rw [List.mem_singleton.mp hy]
    rcases List.mem_append.mp hx with hx | hx
    · have := (List.pairwise_append.mp hb.generations).2.2 x hx g (List.mem_singleton.mpr rfl)
      omega
    · rw [List.mem_singleton.mp hx]
      exact Nat.lt_succ_self g
  · intro x hx
    rcases List.mem_append.mp hx with hx | hx
    · exact hb.cleaned x hx
    · rw [List.mem_singleton.mp hx]
      exact hrc

theorem Transition.historyExact (htr : Transition s op o s') (hwf : WellFormed s)
    (hno : ¬ DeadlineOverflow s op) (hex : HistoryExact s) : HistoryExact s' := by
  have hst := hwf.state
  cases htr with
  | refused he hnow => exact hex
  | began hstate hg ht hnow | recovered hstate hnow => exact recordsBefore_nil _
  | childStarted hstate hnow | becameReady hstate hnow => exact hex.active (by rw [hstate]; rfl)
  | enteredCleanup hactive hnow ho => exact hex.active hactive
  | retired hactive hnow | gaveUp hstate hnow | cleanedStopped hstate hnow
  | windowClosed hstate hnow => trivial
  | cleanedBackoff hstate hnow ha hwindow hfits =>
      simp only [StateOk, hstate] at hst
      simp only [HistoryExact, hstate] at hex
      exact hex.push hst.attempt_pos rfl rfl rfl
  | recordLeft hover hstate hnow => exact absurd hover hno
  | replaced hstate ht hnow hd hwindow =>
      simp only [HistoryExact, hstate] at hex
      exact hex

theorem SupervisorRun.historyExact (hrun : SupervisorRun h s) :
    (∀ c ∈ h, ¬ DeadlineOverflow c.before c.op) → HistoryExact s := by
  induction hrun with
  | start hs =>
      intro _
      obtain ⟨policy, hnew⟩ := hs
      unfold RestartSupervisor.new at hnew
      split at hnew <;> cases hnew
      trivial
  | @call h s op hr hp ih =>
      intro hno
      refine (SupervisorRun.transition hr op).historyExact (SupervisorRun.wellFormed hr)
        (hno (callOf exec op s) (by simp)) (ih fun c hc => hno c (by simp [hc]))

/-- After an overflowing `cleanup_complete` the history names the attempt
still in flight. -/
theorem DeadlineOverflow.not_historyExact (hwf : WellFormed s)
    (hover : DeadlineOverflow s op) : ¬ HistoryExact (exec op s).2.1 := by
  obtain ⟨-, a, g, t, f, act, cl, d, retry, hst, hsame, hhist⟩ := hover.run hwf
  intro hex
  rw [HistoryExact, hsame, hst] at hex
  have hmem : a ∈ (exec op s).2.1.history.map (·.attempt) := by
    rw [hhist]
    simp [terminalRecord]
  rw [hex.attempts, List.mem_range'_1] at hmem
  omega

/-! ## The policy as a whole -/

/-- The restart policy over a history `h` that ends in `s`. -/
structure PolicyHolds (h : History) (s : RestartSupervisor) : Prop where
  /-- Generations of started attempts strictly increase, across episodes. -/
  generations_increase : (h.filterMap startedGeneration).Pairwise (· < ·)
  /-- Between two consecutive starts the first generation was reported clean. -/
  cleaned_before_start : ∀ h₁ c h₂ c' h₃ g, h = h₁ ++ c :: h₂ ++ c' :: h₃ →
    startedGeneration c = some g → (startedGeneration c').isSome →
    (∀ x ∈ h₂, startedGeneration x = none) → ∃ x ∈ h₂, ReportsCleanup x g
  /-- An episode starts at most `max_attempts` attempts. -/
  attempts_bounded : ∀ h₁ h₂ h₃, h = h₁ ++ h₂ ++ h₃ →
    (∀ x ∈ h₂.tail, opensEpisode x = false) → startsIn h₂ ≤ s.policy.maxAttempts
  /-- In every state reached the history is that of the attempts before the
  current one. -/
  history_exact : ∀ c ∈ h, HistoryExact c.after
  /-- Permanent failure is final. -/
  permanent_kept : ∀ c ∈ h, ∀ f k, c.before.state = .permanentFailure f k →
    c.after.state = .permanentFailure f k
  /-- A replacement starts after its backoff and inside the window. -/
  replacement_timely : ∀ c ∈ h, ∀ now g t, c.op = .startReplacement now g t →
    (startedGeneration c).isSome → ∃ a d, c.before.state = .backoff a g d ∧ d ≤ now
      ∧ now ≤ c.before.episodeStartedAtNs + c.before.policy.restartWindowNs

theorem SupervisorRun.cleaned_before_start (hrun : SupervisorRun h s) :
    ∀ h₁ c h₂ c' h₃ g, h = h₁ ++ c :: h₂ ++ c' :: h₃ →
      startedGeneration c = some g → (startedGeneration c').isSome →
      (∀ x ∈ h₂, startedGeneration x = none) → ∃ x ∈ h₂, ReportsCleanup x g := by
  rintro h₁ c h₂ c' h₃ g rfl hg hc' hnone
  obtain ⟨g', hg'⟩ := Option.isSome_iff_exists.mp hc'
  obtain ⟨hr, -, -⟩ := Run.split hrun
  have htr := SupervisorRun.mem_transition hrun (c := c') (by simp)
  refine (SupervisorRun.cleaned_since hr h₁ c h₂ g rfl hg hnone).2 ?_
  -- the later start was made from `Stopped` or from a backoff
  rcases (htr.started (SupervisorRun.wellFormed hr) hg').2.2 with
    ⟨hst, -⟩ | ⟨a, d, t, d', now, hst, -⟩
  · exact Or.inl hst
  · exact Or.inr ⟨_, _, _, hst⟩

theorem SupervisorRun.attempts_bounded (hrun : SupervisorRun h s) :
    ∀ h₁ h₂ h₃, h = h₁ ++ h₂ ++ h₃ → (∀ x ∈ h₂.tail, opensEpisode x = false) →
      startsIn h₂ ≤ s.policy.maxAttempts := by
  rintro h₁ h₂ h₃ rfl hopens
  have hstretch : ∀ s', SupervisorRun (h₁ ++ h₂) s' →
      startsIn h₂ ≤ s'.policy.maxAttempts := fun s' hr =>
    Nat.le_trans (SupervisorRun.starts_le hr h₁ h₂ rfl hopens)
      (attemptsUsed_le (SupervisorRun.wellFormed hr))
  cases h₃ with
  | nil => exact hstretch s (by simpa using hrun)
  | cons c t =>
      have hpolicy := (SupervisorRun.policy_mem hrun c (by simp)).2
      rw [← hpolicy]
      exact hstretch c.before (Run.split hrun).1

theorem Transition.permanent_kept (htr : Transition s op o s') {f : AttemptFailure}
    {k : CleanupDisposition} (hst : s.state = .permanentFailure f k) :
    s'.state = .permanentFailure f k := by
  cases htr <;> simp_all [activeAttempt]

theorem SupervisorRun.replacement_timely (hrun : SupervisorRun h s) :
    ∀ c ∈ h, ∀ now g t, c.op = .startReplacement now g t →
      (startedGeneration c).isSome → ∃ a d, c.before.state = .backoff a g d ∧ d ≤ now
        ∧ now ≤ c.before.episodeStartedAtNs + c.before.policy.restartWindowNs := by
  intro c hc now g t hop hstarted
  obtain ⟨g', hg'⟩ := Option.isSome_iff_exists.mp hstarted
  obtain ⟨⟨h', -, hr⟩, -, -⟩ := Run.mem hrun hc
  have htr := SupervisorRun.mem_transition hrun hc
  rcases (htr.started (SupervisorRun.wellFormed hr) hg').2.2 with
    ⟨-, hopens, -⟩ | ⟨a, d, t', d', now', hst, -, hop', hd, hwindow⟩
  · simp [opensEpisode, hop] at hopens
  · obtain ⟨rfl, rfl, rfl⟩ := Op.startReplacement.inj (hop.symm.trans hop')
    exact ⟨a, d, hst, hd, hwindow⟩

/-- The policy holds along a run exactly when no call of the run is a
`cleanup_complete` whose deadlines overflow. -/
theorem policy_holds_iff (hrun : SupervisorRun h s) :
    PolicyHolds h s ↔ ∀ c ∈ h, ¬ DeadlineOverflow c.before c.op := by
  constructor
  · intro hpolicy c hc hover
    obtain ⟨⟨h', -, hr⟩, heq, -⟩ := Run.mem hrun hc
    have hexact := hpolicy.history_exact c hc
    rw [heq] at hexact
    exact hover.not_historyExact (SupervisorRun.wellFormed hr) hexact
  · intro hno
    refine ⟨(SupervisorRun.generations hrun).1, SupervisorRun.cleaned_before_start hrun,
      SupervisorRun.attempts_bounded hrun, ?_, ?_, SupervisorRun.replacement_timely hrun⟩
    · intro c hc
      obtain ⟨h₁, h₂, rfl⟩ := List.append_of_mem hc
      obtain ⟨hr, heq, hp⟩ := Run.split hrun
      rw [heq] at hp ⊢
      have hr' := Run.call c.op hr hp
      refine SupervisorRun.historyExact hr' fun x hx => hno x ?_
      rw [← heq] at hx
      simp only [List.mem_append, List.mem_cons] at hx ⊢
      tauto
    · intro c hc f k hst
      exact (SupervisorRun.mem_transition hrun hc).permanent_kept hst

/-- The failed attempt is replaced as soon as its backoff is over, and the
replacement is ready. -/
def replacing : List Op :=
  backingOff ++ [.startReplacement 25000006 2 12, .childStarted 2 12 25000007, .ready 2 12 25000008]

theorem policy_holds_replacing :
    (replay exec replacing idle).2.state = .ready 2 2 12 ∧
      (replay exec replacing idle).2.history.length = 1 ∧
      PolicyHolds (replay exec replacing idle).1 (replay exec replacing idle).2 := by
  have hrun : SupervisorRun (replay exec replacing idle).1 (replay exec replacing idle).2 := by
    simpa using Run.replay replacing (Run.start idle_fresh) (by decide +kernel)
  refine ⟨by decide +kernel, by decide +kernel, (policy_holds_iff hrun).mpr fun c hc hover => ?_⟩
  obtain ⟨⟨h', -, hr⟩, heq, -⟩ := Run.mem hrun hc
  have hok : ∀ c ∈ (replay exec replacing idle).1, c.outcome = .ok () := by decide +kernel
  have hcalled : c.outcome = (exec c.op c.before).1 := congrArg Call.outcome heq
  rw [hok c hc, (hover.run (SupervisorRun.wellFormed hr)).1] at hcalled
  cases hcalled

/-- The late cleanup breaks the policy: attempt 1 is still being cleaned up
and already has a terminal record. -/
theorem policy_fails_late_cleanup :
    SupervisorRun (replay exec (lateCalls ++ [lateCleanup]) idle).1
        (replay exec (lateCalls ++ [lateCleanup]) idle).2
      ∧ ¬ PolicyHolds (replay exec (lateCalls ++ [lateCleanup]) idle).1
          (replay exec (lateCalls ++ [lateCleanup]) idle).2 := by
  refine ⟨?_, ?_⟩
  · simpa using Run.replay (lateCalls ++ [lateCleanup]) (Run.start idle_fresh)
      (by decide +kernel)
  · intro hpolicy
    have hexact := hpolicy.history_exact
      (callOf exec lateCleanup (replay exec lateCalls idle).2)
      (by simp [replay, lateCalls])
    have hattempts : (exec lateCleanup (replay exec lateCalls idle).2).2.1.history.map
        (·.attempt) = List.range' 1 (1 - 1) := by
      have hstate : (exec lateCleanup (replay exec lateCalls idle).2).2.1.state
          = .cleaningUp 1 1 11 .creationFailed .closeUnpublished lateNs u64Max true := by
        decide +kernel
      rw [HistoryExact, show (callOf exec lateCleanup (replay exec lateCalls idle).2).after
        = (exec lateCleanup (replay exec lateCalls idle).2).2.1 from rfl, hstate] at hexact
      exact hexact.attempts
    revert hattempts
    decide +kernel

end Wyrmroot.Restart
