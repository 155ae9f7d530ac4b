import Wyrmroot.Consoled.Status

/-!
# A console that failed closed

Six calls are let through behind a failure, to finish what is pending. Five of
them leave the state alone. `complete_abort_child_launch` falls through into
`finish_serial_cleanup`, which has no check of the state: with the serial line
lost before the failure and a launch pending, the model reconnects
(`Reopens`). Nothing else ever leaves the state.
-/

namespace Wyrmroot.Consoled

open Outcome ConsoleModel

/-- The cleanup of a launch that outlived its serial line, completed behind a failure. -/
def Reopens (m : ConsoleModel) : Op → Prop
  | .completeAbortChildLaunch token evidence =>
      m.state = .failClosed ∧ m.serialInvalidated = true ∧ m.pendingLaunch = some token.identity ∧
        m.pendingLaunchCleanup = some token.identity ∧
        evidenceMatchesCleanup token.cleanup evidence = .ok true ∧
        ∃ now ∈ m.lastNow, now + serialRetryBackoffMillis < 2 ^ 64
  | _ => False

/-- A call that would start something. -/
def Op.admits : Op → Bool
  | .beginConnect _ => true
  | .attachConnected _ _ => true
  | .beginChildLaunch _ => true
  | _ => false

variable {m m' : ConsoleModel} {op : Op} {o : Outcome ModelError Reply}

theorem active_of_current {event : EventGeneration} (h : m.eventIsCurrent event = true) :
    m.state = .active :=
  (eventIsCurrent_iff.mp h).1

theorem active_of_readyToken {token : ReadyToken} (h : m.readyToken = some token) :
    m.state = .active := by
  obtain ⟨child, -, htoken⟩ := Option.bind_eq_some_iff.mp h
  split_ifs at htoken with hstate
  simp only [Bool.or_eq_true, not_or, decide_eq_true_eq, not_not] at hstate
  exact hstate.1.1.1

theorem closed_moves (hclosed : m.state = .failClosed) (hmove : Moves m op o m') :
    (m'.state = .failClosed ∧ (op.admits = true → o.isOk = false)) ∨ Reopens m op := by
  have hother {state : ConnectionState} (hstate : m.state = state)
      (hne : state ≠ .failClosed) : False := hne (hstate.symm.trans hclosed)
  cases hmove with
  | refused => exact .inl ⟨hclosed, fun _ => rfl⟩
  | failed | abortFailed => exact .inl ⟨rfl, fun _ => rfl⟩
  | abandoned | moved | aborting | aborted | releasedStdin | releasedTx | taken =>
      exact .inl ⟨hclosed, by rintro ⟨⟩⟩
  | abortedAfterLoss hlaunch hcleanup hmatch hlost _ hnow hroom =>
      exact .inr ⟨hclosed, hlost, hlaunch, hcleanup, hmatch, _, hnow, hroom⟩
  | reservedNothing hreserves =>
      refine .inl ⟨hclosed, ?_⟩
      cases hreserves <;> rintro ⟨⟩
  | connecting hstate | attached _ hstate | retrying _ hstate | serialExhausted _ hstate
  | reconnectFailed _ hstate | launching hstate | launchFailed hstate | launched hstate
  | retire _ _ hstate | lostChild _ hstate | reservedStdin hstate | committedStdin hstate
  | reservedTx hstate | committedTx hstate | terminated _ hstate | incomplete _ hstate
  | reapedAfterLoss _ hstate | replaced _ hstate | escalated _ hstate | cleaned _ hstate
  | cleanupFailed _ hstate => exact (hother hstate (by decide)).elim
  | stagedInput hcurrent | stagedOutput hcurrent | polled hcurrent | terminal _ hcurrent
  | precursor _ hcurrent | readied _ hcurrent =>
      exact (hother (active_of_current hcurrent) (by decide)).elim
  | unstable _ htoken | stable _ htoken | restabilized _ htoken =>
      exact (hother (active_of_readyToken htoken) (by decide)).elim
  | closed _ _ hstate =>
      rcases hstate with hstate | hstate
      · exact (hother hstate (by decide)).elim
      · exact (hother hstate (by decide)).elim
  | lostIdle _ _ hopen | lostIdleFailed _ _ hopen | lostBusy _ _ hopen => exact absurd hclosed hopen

theorem completeAbortChildLaunch_run {token : LaunchCleanupToken} {evidence : LaunchCleanupEvidence}
    (hlaunch : m.pendingLaunch = some token.identity)
    (hcleanup : m.pendingLaunchCleanup = some token.identity)
    (hmatch : evidenceMatchesCleanup token.cleanup evidence = .ok true) :
    completeAbortChildLaunch token evidence m =
      (maybeFinishSerialInvalidation >>= fun _ => pure token.cleanup)
        { m with pendingLaunch := none, pendingLaunchCleanup := none } := by
  unfold completeAbortChildLaunch
  rw [Prog.get_bind_run, hlaunch, hcleanup, hmatch]
  simp only [ne_eq, not_true_eq_false, decide_false, Bool.or_self, rejectIf_false, Bool.not_true,
    Prog.lift_ok_bind]
  exact Prog.bind_run_ok (Prog.modify_run _ m)

theorem reopens_run (hlife : m.lifecycle) (hopen : Reopens m op) :
    (perform op m).2.1.state = .reconnecting := by
  cases op
  case completeAbortChildLaunch token evidence =>
    obtain ⟨-, hlost, hlaunch, hcleanup, hmatch, now, hnow, hroom⟩ := hopen
    have hchild : m.child = none := (hlife.ofLaunch (hlaunch ▸ rfl)).2.1
    have hfinishes : Finishes { m with pendingLaunch := none, pendingLaunchCleanup := none } :=
      ⟨hlost, hchild, rfl, rfl⟩
    have hfinish := maybeFinish_run hfinishes hnow
    rw [if_pos hroom] at hfinish
    rw [perform, Prog.map_run, completeAbortChildLaunch_run hlaunch hcleanup hmatch,
      Prog.bind_run_ok hfinish]
    rfl
  all_goals exact hopen.elim

/-! ## Every run -/

variable {w : World}

theorem exec_closed (h : w.Sound) (hclosed : w.model.state = .failClosed) (op : Op) :
    ((exec op w).2.1.model.state = .failClosed ∧ (op.admits = true → (exec op w).1.isOk = false)) ↔
      ¬ Reopens w.model op := by
  constructor
  · rintro ⟨hkept, -⟩ hopen
    have hfree : ∀ tx ∈ op.transaction, tx ∈ w.held := by
      cases op
      case completeAbortChildLaunch => rintro _ ⟨⟩
      all_goals exact hopen.elim
    rw [exec, if_pos hfree] at hkept
    exact absurd (hkept.symm.trans (reopens_run h.lifecycle hopen)) (by decide)
  · intro hshut
    rcases exec_moves h op with ⟨hsome, hnot⟩ | ⟨-, hmove⟩
    · rw [hnot]
      refine ⟨hclosed, fun hadmits => ?_⟩
      cases op
      case beginConnect | attachConnected | beginChildLaunch => cases hsome
      all_goals cases hadmits
    · exact (closed_moves hclosed hmove).resolve_right hshut

theorem replay_closed (later : List Op) : ∀ w : World, w.Sound → w.model.state = .failClosed →
    ((∀ call ∈ (replay exec later w).1, call.after.model.state = .failClosed ∧
      (call.op.admits = true → call.outcome.isOk = false)) ↔
    ∀ call ∈ (replay exec later w).1, ¬ Reopens call.before.model call.op) := by
  induction later with
  | nil => exact fun w _ _ => ⟨fun _ => List.forall_mem_nil _, fun _ => List.forall_mem_nil _⟩
  | cons op rest ih =>
      intro w hw hclosed
      rw [replay, List.forall_mem_cons, List.forall_mem_cons]
      have hfirst := exec_closed hw hclosed op
      constructor
      · rintro ⟨hcall, hrest⟩
        exact ⟨hfirst.mp hcall, (ih _ (exec_sound op w hw) hcall.1).mp hrest⟩
      · rintro ⟨hcall, hrest⟩
        have hkept := hfirst.mpr hcall
        exact ⟨hkept, (ih _ (exec_sound op w hw) hkept.1).mpr hrest⟩

/-! ## A run that reopens -/

def sampleSerial : SerialCorrelation := ⟨1, 2, 3, 4, 5, 6, 7, 8, 9, 10, 11, 12⟩

def sampleRequest : ConnectRequest := ⟨1, 2, 3, 4, 5⟩

/-- The first launch of a console that has been connected once. -/
def sampleLaunch : LaunchTransaction where
  serial := sampleSerial
  consoleGeneration := 1
  childGeneration := 2
  childJob := 0
  childLaunch := 7
  consoled := #v[1, 2, 3]
  childPeers := #v[4, 5, 6]
  moved := .replicate 3 false
  committed := false

def sampleToken : LaunchCleanupToken :=
  ⟨sampleLaunch.identity, sampleLaunch.cleanup, sampleLaunch, rfl⟩

def sampleEvidence : LaunchCleanupEvidence :=
  ⟨.replicate 3 true, .replicate 3 true, .replicate 3 false⟩

/-- The serial line is lost while a launch is pending, and then the clock runs backwards. -/
def lostThenClosed : List Op :=
  [.beginConnect sampleRequest, .attachConnected sampleSerial 1, .beginChildLaunch 7,
    .serialPeerClosed sampleSerial 1 2, .serialReconnectFailed 1]

theorem lostThenClosed_closed :
    (replay exec lostThenClosed World.new).2.model.state = .failClosed := by
  decide +kernel

/-- A console that has failed closed stays so and starts nothing, for exactly as long as no launch
that outlived its serial line is cleaned up. -/
theorem failClosed_terminal (earlier later : List Op)
    (hclosed : (replay exec earlier World.new).2.model.state = .failClosed) :
    (∀ call ∈ (replay exec later (replay exec earlier World.new).2).1,
      call.after.model.state = .failClosed ∧ (call.op.admits = true → call.outcome.isOk = false)) ↔
    ∀ call ∈ (replay exec later (replay exec earlier World.new).2).1,
      ¬ Reopens call.before.model call.op :=
  replay_closed later _ (run_sound earlier) hclosed

/-- Without that call the same run stays closed. -/
theorem lostThenClosed_terminal :
    (∀ call ∈ (replay exec [.abortChildLaunch sampleLaunch, .beginConnect sampleRequest]
        (replay exec lostThenClosed World.new).2).1,
      call.after.model.state = .failClosed ∧ (call.op.admits = true → call.outcome.isOk = false)) ↔
    ∀ call ∈ (replay exec [.abortChildLaunch sampleLaunch, .beginConnect sampleRequest]
        (replay exec lostThenClosed World.new).2).1, ¬ Reopens call.before.model call.op :=
  failClosed_terminal lostThenClosed [.abortChildLaunch sampleLaunch, .beginConnect sampleRequest]
    lostThenClosed_closed

/-- The launch is cleaned up, and a connection is begun. -/
def cleanedThenConnected : List Op :=
  [.abortChildLaunch sampleLaunch, .completeAbortChildLaunch sampleToken sampleEvidence,
    .beginConnect { sampleRequest with connectorClientTransaction := 6 }]

/-- A failed console connects again. -/
theorem failClosed_reopened : ¬ ∀ earlier later : List Op,
    (replay exec earlier World.new).2.model.state = .failClosed →
    ∀ call ∈ (replay exec later (replay exec earlier World.new).2).1,
      call.after.model.state = .failClosed ∧ (call.op.admits = true → call.outcome.isOk = false) := by
  intro hterminal
  have hcalls := hterminal lostThenClosed cleanedThenConnected lostThenClosed_closed
  have hlast : ∃ call ∈ (replay exec cleanedThenConnected (replay exec lostThenClosed World.new).2).1,
      call.after.model.state = .reconnecting ∧ call.op.admits = true ∧ call.outcome.isOk = true := by
    refine ⟨_, .tail _ (.tail _ (.head _)), ?_⟩
    decide +kernel
  obtain ⟨call, hcall, hstate, -⟩ := hlast
  exact absurd ((hcalls call hcall).1.symm.trans hstate) (by decide)

end Wyrmroot.Consoled
