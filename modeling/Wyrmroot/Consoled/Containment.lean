import Wyrmroot.Consoled.FailedClosed

/-!
# What a failed call leaves behind

A call that fails without closing the model changes the last time and the last
failure and nothing else, with two exceptions (`Leaks`): `child_reaped` writes
`child_reaped` before it looks at the peers, and on a model that is closed
already the cleanup of a launch is recorded before the retry time overflows.
-/

namespace Wyrmroot.Consoled

open Outcome ConsoleModel

/-- Up to the last time and the last failure. -/
def ConsoleModel.Unchanged (m m' : ConsoleModel) : Prop :=
  ∃ t f, m' = { m with lastNow := t, lastFailure := f }

/-- The call does not fail, or it enters the closed state, or it changes nothing. -/
def Contained (w : World) (op : Op) : Prop :=
  ∀ e, (exec op w).1 = .err e →
    w.model.state = .failClosed ∨ (exec op w).2.1.model.state ≠ .failClosed →
      w.model.Unchanged (exec op w).2.1.model

/-- The calls that fail behind a write. -/
def Leaks (m : ConsoleModel) : Op → Prop
  | .childReaped event now =>
      m.Timely now ∧ m.state = .awaitingReap ∧ m.childTerminated = true ∧ m.event = some event ∧
        m.childReaped = false ∧ ∃ child ∈ m.child, child.anyPeerLive = true
  | .completeAbortChildLaunch token evidence =>
      m.state = .failClosed ∧ m.serialInvalidated = true ∧ m.pendingLaunch = some token.identity ∧
        m.pendingLaunchCleanup = some token.identity ∧
        evidenceMatchesCleanup token.cleanup evidence = .ok true ∧
        ∀ now ∈ m.lastNow, 2 ^ 64 ≤ now + serialRetryBackoffMillis
  | _ => False

/-- Nothing is stable on a closed model. -/
def ConsoleModel.Unstable (m : ConsoleModel) : Prop := m.state = .failClosed → m.stable = none

variable {m m' : ConsoleModel} {op : Op} {o : Outcome ModelError Reply} {w : World}

theorem unstable_moves (h : m.Unstable) (hmove : Moves m op o m') : m'.Unstable := by
  cases hmove with
  | failed | launchFailed | launched | abortedAfterLoss | abortFailed | retire | terminal | attached
  | lostChild | lostIdle | lostIdleFailed | lostBusy | replaced | escalated | cleaned
  | cleanupFailed | reconnectFailed => exact fun _ => rfl
  | terminated | serialExhausted => rintro ⟨⟩
  | readied _ hcurrent =>
      exact fun hclosed => absurd (hclosed.symm.trans (active_of_current hcurrent)) (by decide)
  | stable _ htoken | restabilized _ htoken =>
      exact fun hclosed => absurd (hclosed.symm.trans (active_of_readyToken htoken)) (by decide)
  | _ => exact h

theorem run_unstable (ops : List Op) : (replay exec ops World.new).2.model.Unstable :=
  replay_sound_keeps (P := ConsoleModel.Unstable) (fun _ h hmove => unstable_moves h hmove) ops
    sound_new (by rintro ⟨⟩)

theorem err_moves {e : ModelError} (hunstable : m.Unstable)
    (hpoll : ∀ event read, op ≠ .pollOutputQuiescence event read) (hmove : Moves m op (.err e) m')
    (hopen : m.state = .failClosed ∨ m'.state ≠ .failClosed) : m.Unchanged m' ∨ Leaks m op := by
  have hclosed (hclosed' : m'.state = .failClosed) : m.state = .failClosed :=
    hopen.resolve_right fun hne => hne hclosed'
  have hother {state : ConnectionState} (hstate : m.state = state) (hne : state ≠ .failClosed)
      (hclosed' : m'.state = .failClosed) : False := hne (hstate.symm.trans (hclosed hclosed'))
  cases hmove with
  | @refused _ _ t f => exact .inl ⟨t, f, rfl⟩
  | @failed _ e t =>
      have hstate := hclosed rfl
      refine .inl ⟨t, some e, ?_⟩
      rw [ConsoleModel.failed, ← hstate, ← hunstable hstate]
  | launchFailed hactive => exact (hother hactive (by decide) rfl).elim
  | abortFailed hlaunch hcleanup hmatch hlost _ htime =>
      exact .inr ⟨hclosed rfl, hlost, hlaunch, hcleanup, hmatch, htime⟩
  | polled => exact absurd rfl (hpoll _ _)
  | lostIdleFailed _ _ hne => exact absurd (hclosed rfl) hne
  | @incomplete event now child htime hreap hterminated hevent hchild hlive =>
      cases hreaped : m.childReaped with
      | false => exact .inr ⟨htime, hreap, hterminated, hevent, hreaped, child, hchild, hlive⟩
      | true =>
          refine .inl ⟨some now, m.lastFailure, ?_⟩
          rw [ConsoleModel.atTime, ← hreaped]
  | cleanupFailed _ hreap => exact (hother hreap (by decide) rfl).elim
  | reconnectFailed _ hstate => exact (hother hstate (by decide) rfl).elim

variable {now : Nat}

theorem time_run_ok (h : m.Timely now) : time now m = (.ok (), m.atTime now, []) := by
  rw [time_run, not_any_lt.mpr h]
  rfl

theorem childReaped_run {event : EventGeneration} (htime : m.Timely now)
    (hreap : m.state = .awaitingReap) (hterminated : m.childTerminated = true)
    (hevent : m.event = some event) :
    childReaped event now m = completeRetirement now { m.atTime now with childReaped := true } := by
  have hevent' : (m.atTime now).eventMatchesChild event = true := decide_eq_true hevent
  have hreap' : (m.atTime now).state = .awaitingReap := hreap
  have hterminated' : (m.atTime now).childTerminated = true := hterminated
  unfold childReaped
  rw [Prog.bind_run_ok (time_run_ok htime), Prog.get_bind_run, hevent', hreap', hterminated']
  simp only [ne_eq, not_true_eq_false, decide_false, Bool.not_true, Bool.or_self, rejectIf_false,
    Prog.lift_ok_bind]
  rw [Prog.bind_run_ok (Prog.modify_run _ _)]
  rfl

theorem leaked_reap {event : EventGeneration} (h : Leaks m (.childReaped event now)) :
    childReaped event now m =
      (.err .incompleteCleanup, { m.atTime now with childReaped := true }, []) := by
  obtain ⟨htime, hreap, hterminated, hevent, -, child, hchild, hlive⟩ := h
  have hchild' : (m.atTime now).child = some child := hchild
  rw [childReaped_run htime hreap hterminated hevent, completeRetirement, Prog.get_bind_run, hchild',
    Prog.okOr_some]
  show (if child.anyPeerLive = true then _ else _ : Operation _) _ = _
  rw [if_pos hlive]
  rfl

theorem leaked_abort {token : LaunchCleanupToken} {evidence : LaunchCleanupEvidence}
    (hlife : m.lifecycle) (h : Leaks m (.completeAbortChildLaunch token evidence)) :
    ∃ e, completeAbortChildLaunch token evidence m = (.err e,
      ConsoleModel.failed { m with pendingLaunch := none, pendingLaunchCleanup := none } e, []) := by
  obtain ⟨-, hlost, hlaunch, hcleanup, hmatch, htime⟩ := h
  have hchild : m.child = none := (hlife.ofLaunch (hlaunch ▸ rfl)).2.1
  have hfinishes : Finishes { m with pendingLaunch := none, pendingLaunchCleanup := none } :=
    ⟨hlost, hchild, rfl, rfl⟩
  have hfinish : ∃ e, maybeFinishSerialInvalidation
      { m with pendingLaunch := none, pendingLaunchCleanup := none } = (.err e,
        ConsoleModel.failed { m with pendingLaunch := none, pendingLaunchCleanup := none } e, []) := by
    rcases Option.eq_none_or_eq_some m.lastNow with hnow | ⟨now, hnow⟩
    · exact ⟨_, maybeFinish_timeless hfinishes hnow⟩
    · have hrun := maybeFinish_run hfinishes hnow
      rw [if_neg (Nat.not_lt.mpr (htime now hnow))] at hrun
      exact ⟨_, hrun⟩
  obtain ⟨e, hfinish⟩ := hfinish
  refine ⟨e, ?_⟩
  rw [completeAbortChildLaunch_run hlaunch hcleanup hmatch, Prog.bind_run_err hfinish]

theorem leaks_run (hlife : m.lifecycle) (h : Leaks m op) : ∃ e, (perform op m).1 = .err e ∧
    (m.state = .failClosed ∨ (perform op m).2.1.state ≠ .failClosed) ∧
      ¬ m.Unchanged (perform op m).2.1 := by
  cases op
  case childReaped event now =>
    have hrun := leaked_reap h
    obtain ⟨-, hreap, -, -, hreaped, -⟩ := h
    rw [perform, Prog.map_run, hrun]
    refine ⟨_, rfl, .inr ?_, ?_⟩
    · show m.state ≠ .failClosed
      rw [hreap]
      decide
    · rintro ⟨_, _, hsame⟩
      have hwritten := congrArg ConsoleModel.childReaped hsame
      exact Bool.false_ne_true (hreaped.symm.trans hwritten.symm)
  case completeAbortChildLaunch token evidence =>
    obtain ⟨e, hrun⟩ := leaked_abort hlife h
    obtain ⟨hclosed, -, hlaunch, -⟩ := h
    rw [perform, Prog.map_run, hrun]
    refine ⟨_, rfl, .inl hclosed, ?_⟩
    rintro ⟨_, _, hsame⟩
    have hwritten := congrArg ConsoleModel.pendingLaunch hsame
    exact absurd (hwritten.trans hlaunch) (Option.some_ne_none _).symm
  all_goals exact h.elim

theorem leaks_not_contained (hsound : w.Sound) (hleaks : Leaks w.model op) : ¬ Contained w op := by
  intro hcontained
  have hfree : ∀ tx ∈ op.transaction, tx ∈ w.held := by
    cases op
    case childReaped | completeAbortChildLaunch => rintro _ ⟨⟩
    all_goals exact hleaks.elim
  obtain ⟨e, herr, hopen, hchanged⟩ := leaks_run hsound.lifecycle hleaks
  unfold Contained at hcontained
  rw [exec, if_pos hfree] at hcontained
  exact hchanged (hcontained e herr hopen)

/-- In every state of every run a failure is contained, or it is a reap before the peers are closed
or a cleanup of a launch behind a failure at the end of time. -/
theorem contained_iff (ops : List Op) (op : Op)
    (hpoll : ∀ event read, op ≠ .pollOutputQuiescence event read) :
    Contained (replay exec ops World.new).2 op ↔ ¬ Leaks (replay exec ops World.new).2.model op := by
  have hsound := run_sound ops
  have hunstable := run_unstable ops
  generalize (replay exec ops World.new).2 = w at hsound hunstable
  constructor
  · exact fun hcontained hleaks => leaks_not_contained hsound hleaks hcontained
  · intro hkept e herr hopen
    rcases exec_moves hsound op with ⟨-, hnot⟩ | ⟨-, hmove⟩
    · rw [hnot] at herr
      exact absurd herr (ok_ne_err _ _)
    · rw [herr] at hmove
      exact (err_moves hunstable hpoll hmove hopen).resolve_right hkept

/-- The first child of a console, and the launch that it came from. -/
def sampleEvent : EventGeneration := ⟨sampleSerial, 1, 2, 8, 7⟩

def sampleMoved (moved : Vector Bool 3) : LaunchTransaction := { sampleLaunch with moved }

/-- A launch whose child has been given these ends. -/
def sampleGiven (stdin stdout stderr : Bool) : LaunchTransaction :=
  sampleMoved #v[stdin, stdout, stderr]

/-- A session with a shell in it. -/
def live : List Op :=
  [.beginConnect sampleRequest, .attachConnected sampleSerial 1, .beginChildLaunch 7,
    .moveChildPeer sampleLaunch .stdin, .moveChildPeer (sampleGiven true false false) .stdout,
    .moveChildPeer (sampleGiven true true false) .stderr,
    .commitChildLaunch (sampleGiven true true true) 8]

/-- A reap of a shell that still runs is refused, and changes nothing. -/
theorem contained_live : ∃ e,
    (exec (.childReaped sampleEvent 2) (replay exec live World.new).2).1 = .err e ∧
    (replay exec live World.new).2.model.state = .active ∧
    (replay exec live World.new).2.model.Unchanged
      (exec (.childReaped sampleEvent 2) (replay exec live World.new).2).2.1.model := by
  have hkept : ¬ Leaks (replay exec live World.new).2.model (.childReaped sampleEvent 2) := by
    unfold Leaks ConsoleModel.Timely
    decide +kernel
  have hrefused : (exec (.childReaped sampleEvent 2) (replay exec live World.new).2).1 =
      .err .wrongConnectionState := rfl
  have hopen : (exec (.childReaped sampleEvent 2) (replay exec live World.new).2).2.1.model.state ≠
      .failClosed := by decide +kernel
  have hcontained := (contained_iff live (.childReaped sampleEvent 2) (by rintro _ _ ⟨⟩)).mpr hkept
  exact ⟨_, hrefused, by decide +kernel, hcontained _ hrefused (.inr hopen)⟩

/-! ## A reap that is refused and recorded -/

/-- A shell ends on its own. -/
def ended : List Op := live ++ [.childTerminal sampleEvent 2]

/-- It is reaped before its peers are closed: the reap is refused, and recorded. -/
theorem ended_leaks : ¬ ∀ (ops : List Op) (op : Op),
    (∀ event read, op ≠ .pollOutputQuiescence event read) →
      Contained (replay exec ops World.new).2 op := by
  intro hcontained
  have hleaks : Leaks (replay exec ended World.new).2.model (.childReaped sampleEvent 3) := by
    unfold Leaks ConsoleModel.Timely
    decide +kernel
  exact leaks_not_contained (run_sound ended) hleaks (hcontained ended _ (by rintro _ _ ⟨⟩))

end Wyrmroot.Consoled
