import Wyrmroot.Consoled.Moves

/-!
# One lemma an operation

`perform_moves`: on a regular model every call moves as `Moves` lists it. The
rules in front are for the checks that most operations share.
-/

namespace Wyrmroot.Consoled

open Outcome ConsoleModel
open Loader (checkedAdd)

variable {α : Type} {m : ConsoleModel}

/-! ## Shared checks -/

theorem clock_self : m.Clock m.lastNow := .inl rfl

variable {e : ModelError}

theorem Moves.refuse {op : Op} : Moves m op (.err e) m :=
  .refused (t := m.lastNow) (f := m.lastFailure) clock_self

variable {now : Nat}

theorem Moves.late {op : Op} (h : m.Timely now) :
    Moves m op (.err e) (m.atTime now) :=
  .refused (t := some now) (f := m.lastFailure) (.inr ⟨now, rfl, h⟩)

theorem time_run (now : Nat) : time now m =
    if m.lastNow.any (now < ·) then
      (.err .monotonicRegression, m.failed .monotonicRegression, [])
    else (.ok (), m.atTime now, []) := by
  unfold time
  rw [Prog.get_bind_run]
  split_ifs <;> rfl

theorem not_any_lt : m.lastNow.any (now < ·) = false ↔ m.Timely now := by
  unfold Timely
  cases m.lastNow <;> simp

theorem requireCurrent_run (event : EventGeneration) : requireCurrent event m =
    if m.eventIsCurrent event then (.ok (), m, [])
    else (.err .staleCorrelation, { m with lastFailure := some .staleCorrelation }, []) := by
  unfold requireCurrent
  rw [Prog.get_bind_run]
  split_ifs <;> rfl

theorem eventIsCurrent_iff {event : EventGeneration} :
    m.eventIsCurrent event = true ↔ m.state = .active ∧ m.event = some event := by
  simp [eventIsCurrent]

variable {f : Unit → Operation α}

section Rules

variable {β : Type} {op : Op} {reply : α → Reply} {m₁ : ConsoleModel}

/-- What a call has to be shown to do, from a point inside it. -/
abbrev Steps (m : ConsoleModel) (op : Op) (reply : α → Reply) (p : Operation α) :
    ConsoleModel → Prop :=
  Prog.wp p fun o m' _ => Moves m op (o.map reply) m'

theorem steps_get {f : ConsoleModel → Operation α} (h : Steps m op reply (f m₁) m₁) :
    Steps m op reply (.get >>= f) m₁ :=
  (Prog.wp_get_bind f _ m₁).mpr h

theorem steps_modify {g : ConsoleModel → ConsoleModel}
    (h : Steps m op reply (f ()) (g m₁)) : Steps m op reply (.modify g >>= f) m₁ :=
  (Prog.wp_modify_bind g f _ m₁).mpr h

theorem steps_reject {c : Bool}
    (herr : Moves m op (.err e) m₁) (h : c = false → Steps m op reply (f ()) m₁) :
    Steps m op reply (.lift (rejectIf c e) >>= f) m₁ :=
  (Prog.wp_rejectIf_bind c e f _ m₁).mpr ⟨fun _ => herr, h⟩

theorem steps_lift {x : ModelCheck β} {f : β → Operation α} (hpanic : x ≠ .panic)
    (herr : ∀ e, x = .err e → Moves m op (.err e) m₁)
    (h : ∀ b, x = .ok b → Steps m op reply (f b) m₁) : Steps m op reply (.lift x >>= f) m₁ := by
  refine (Prog.wp_lift_bind x f _ m₁).mpr ?_
  cases x with
  | ok b => exact h b rfl
  | err e => exact herr e rfl
  | panic => exact absurd rfl hpanic

theorem steps_okOr {x : Option β} {f : β → Operation α}
    (herr : Moves m op (.err e) m₁) (h : ∀ b, x = some b → Steps m op reply (f b) m₁) :
    Steps m op reply (.okOr x e >>= f) m₁ := by
  cases x with
  | none => exact herr
  | some b => exact h b rfl

theorem steps_okOr_some {x : Option β} {b : β} {f : β → Operation α}
    (hx : x = some b) (h : Steps m op reply (f b) m₁) : Steps m op reply (.okOr x e >>= f) m₁ := by
  subst hx
  exact h

theorem steps_time (h : m.Timely now → Steps m op reply (f ()) (m.atTime now)) :
    Steps m op reply (time now >>= f) m := by
  unfold Steps Prog.wp
  rw [Prog.bind_run, time_run]
  cases hany : m.lastNow.any (now < ·) with
  | true => exact .failed clock_self
  | false => exact h (not_any_lt.mp hany)

theorem steps_current {event : EventGeneration}
    (h : m.eventIsCurrent event = true → Steps m op reply (f ()) m) :
    Steps m op reply (requireCurrent event >>= f) m := by
  unfold Steps Prog.wp
  rw [Prog.bind_run, requireCurrent_run]
  cases hcurrent : m.eventIsCurrent event with
  | true => exact h hcurrent
  | false => exact .refused clock_self

theorem steps_time_current {event : EventGeneration}
    (h : m.Timely now → m.state = .active → m.event = some event →
      Steps m op reply (f ()) (m.atTime now)) :
    Steps m op reply (time now >>= fun _ => requireCurrent event >>= f) m := by
  refine steps_time fun htime => ?_
  unfold Steps Prog.wp
  rw [Prog.bind_run, requireCurrent_run]
  cases hcurrent : (m.atTime now).eventIsCurrent event with
  | true =>
      obtain ⟨hactive, hevent⟩ := eventIsCurrent_iff.mp hcurrent
      exact h htime hactive hevent
  | false => exact .refused (.inr ⟨now, rfl, htime⟩)

end Rules

/-! ## Connection and launches -/

theorem beginConnect_moves (expected : ConnectRequest) :
    Steps m (.beginConnect expected) (fun _ => .done) (beginConnect expected) m := by
  refine steps_get (steps_reject .refuse fun _ => steps_reject .refuse fun hstate => ?_)
  refine steps_reject .refuse fun _ => ?_
  simp only [Bool.or_eq_false_iff, decide_eq_false_iff_not, not_not, Option.isSome_eq_false_iff,
    Option.isNone_iff_eq_none] at hstate
  exact .connecting hstate.1 hstate.2

theorem abortConnect_moves (request : ConnectRequest) :
    Steps m (.abortConnect request) (fun _ => .done) (abortConnect request) m := by
  refine steps_get (steps_reject .refuse fun hpending => ?_)
  simp only [Bool.or_eq_false_iff, decide_eq_false_iff_not, not_not] at hpending
  exact .abandoned hpending.2

theorem allocate_run (counter : ConsoleModel → Nat) (put : ConsoleModel → Nat → ConsoleModel) :
    allocate counter put m = if counter m + 1 < 2 ^ 64 then
      (.ok (counter m), put m (counter m + 1), [])
    else (.err .arithmeticOverflow, m.failed .arithmeticOverflow, []) := by
  unfold allocate checkedAdd
  rw [Prog.get_bind_run]
  split_ifs <;> rfl

theorem attachConnected_moves (serial : SerialCorrelation) (now : Nat) :
    Steps m (.attachConnected serial now) .attached (attachConnected serial now) m := by
  refine steps_time fun htime => steps_get (steps_reject (.late htime) fun _ => ?_)
  refine steps_reject (.late htime) fun hstate => steps_okOr (.late htime) fun request hrequest => ?_
  refine steps_reject (.late htime) fun hserial => ?_
  simp only [Bool.or_eq_false_iff, decide_eq_false_iff_not, not_not, Bool.not_eq_false'] at hstate hserial
  have hvalid : ∀ previous ∈ m.lastSerial, serial.validTransitionFrom previous = true := by
    intro previous hprevious
    have hlast : (m.atTime now).lastSerial = some previous := hprevious
    have hnot := hserial.2
    rw [hlast, Option.any_some] at hnot
    simpa using hnot
  have hpending : m.pendingConnect.isSome = true := by
    have hsome : m.pendingConnect = some request := hrequest
    rw [hsome]
    rfl
  unfold Steps Prog.wp
  rw [Prog.bind_run, allocateGeneration, allocate_run]
  split_ifs with hroom
  · exact .attached htime hstate.1.1 hserial.1.1 hvalid hpending hroom
  · exact .failed (.inr ⟨now, rfl, htime⟩)

theorem steps_allocate {op : Op} {reply : α → Reply} {m₁ : ConsoleModel}
    {counter : ConsoleModel → Nat} {put : ConsoleModel → Nat → ConsoleModel}
    {f : Nat → Operation α} (hfail : Moves m op (.err .arithmeticOverflow)
      (m₁.failed .arithmeticOverflow))
    (h : counter m₁ + 1 < 2 ^ 64 → Steps m op reply (f (counter m₁)) (put m₁ (counter m₁ + 1))) :
    Steps m op reply (allocate counter put >>= f) m₁ := by
  unfold Steps Prog.wp
  rw [Prog.bind_run, allocate_run]
  split_ifs with hroom
  · exact h hroom
  · exact hfail

theorem beginChildLaunch_moves (hm : m.Regular) (childLaunch : UInt64) :
    Steps m (.beginChildLaunch childLaunch) .launching (beginChildLaunch childLaunch) m := by
  refine steps_get (steps_reject .refuse fun hexhausted => steps_reject .refuse fun hstate => ?_)
  refine steps_reject .refuse fun hpending => steps_reject .refuse fun hlaunch => ?_
  simp only [Bool.or_eq_false_iff, decide_eq_false_iff_not, not_not, Option.isSome_eq_false_iff,
    Option.isNone_eq_false_iff, Option.isNone_iff_eq_none] at hexhausted hstate hpending hlaunch
  have hactive : m.state = .active := hstate.1.1
  obtain ⟨serial, hserial⟩ := Option.isSome_iff_exists.mp hstate.1.2
  obtain ⟨consoleGeneration, hconsole⟩ :=
    Option.isSome_iff_exists.mp (hm.console ▸ hstate.1.2 : m.consoleGeneration.isSome = true)
  -- an endpoint that is not left finds the numbers before it taken
  have hfailed : ∀ endpoint, m.nextGeneration + 1 < 2 ^ 64 → m.nextEndpoint ≤ endpoint →
      endpoint < 2 ^ 64 ∨ endpoint = m.nextEndpoint →
      Moves m (.beginChildLaunch childLaunch) (.err .arithmeticOverflow)
        (ConsoleModel.failed
          { m with nextGeneration := m.nextGeneration + 1, nextEndpoint := endpoint }
          .arithmeticOverflow) :=
    fun _ hgeneration hendpoint hbound =>
      .launchFailed hactive (Nat.le_succ _) hendpoint (.inl hgeneration) hbound
  refine steps_allocate (.failed clock_self) fun hgeneration => steps_get ?_
  refine steps_okOr_some hserial (steps_okOr_some hconsole ?_)
  refine steps_allocate (hfailed _ hgeneration (Nat.le_refl _) (.inr rfl)) fun hstdin => ?_
  refine steps_allocate (hfailed _ hgeneration (Nat.le_add_right _ 1) (.inl hstdin)) fun hstdout => ?_
  refine steps_allocate (hfailed _ hgeneration (Nat.le_add_right _ 2) (.inl hstdout)) fun hstderr => ?_
  refine steps_allocate (hfailed _ hgeneration (Nat.le_add_right _ 3) (.inl hstderr)) fun hin => ?_
  refine steps_allocate (hfailed _ hgeneration (Nat.le_add_right _ 4) (.inl hin)) fun hout => ?_
  refine steps_allocate (hfailed _ hgeneration (Nat.le_add_right _ 5) (.inl hout)) fun herr => ?_
  exact .launching hactive hexhausted.2 hserial hconsole hstate.2 hpending hlaunch hgeneration herr

theorem moveChildPeer_moves (tx : LaunchTransaction) (kind : StreamKind) :
    Steps m (.moveChildPeer tx kind) (fun moved => .moved moved.1 moved.2)
      (.lift (tx.moveChildPeer kind)) m := by
  cases hmove : tx.moveChildPeer kind with
  | ok moved => exact .moved hmove
  | err e => exact .refuse
  | panic =>
      unfold LaunchTransaction.moveChildPeer at hmove
      split_ifs at hmove

theorem commitChildLaunch_moves (tx : LaunchTransaction) (childJob : UInt64) :
    Steps m (.commitChildLaunch tx childJob) (fun launched => .launched launched.1 launched.2)
      (commitChildLaunch tx childJob) m := by
  refine steps_get (steps_reject .refuse fun hexhausted => steps_reject .refuse fun hstate => ?_)
  simp only [Bool.or_eq_false_iff, decide_eq_false_iff_not, not_not, Option.isSome_eq_false_iff,
    Option.isNone_iff_eq_none, Bool.not_eq_false'] at hexhausted hstate
  obtain ⟨⟨⟨⟨⟨⟨⟨⟨hactive, hopen⟩, -⟩, hchild⟩, hvalid⟩, hserial⟩, hconsole⟩, hjob⟩, hpending⟩ := hstate
  exact .launched hactive hexhausted.2 hopen hchild hvalid hserial hconsole hjob hpending

theorem abortChildLaunch_moves (tx : LaunchTransaction) :
    Steps m (.abortChildLaunch tx) .aborting (abortChildLaunch tx) m := by
  refine steps_get (steps_reject .refuse fun hstate => steps_lift ?_ (fun _ _ => .refuse) fun _ _ => ?_)
  · unfold LaunchTransaction.abortCleanup
    split_ifs
    · exact err_ne_panic _
    · exact ok_ne_panic _
  · simp only [Bool.or_eq_false_iff, Bool.and_eq_false_iff, decide_eq_false_iff_not, not_not] at hstate
    exact .aborting hstate.1.1.1.1 hstate.2

theorem evidenceMatchesCleanup_ne_panic (tx : LaunchTransaction)
    (evidence : LaunchCleanupEvidence) :
    evidenceMatchesCleanup tx.cleanup evidence ≠ .panic := by
  have hchild : ∀ moved endpoint index, 3 ≤ index → index < 6 →
      evidenceMatchesCleanup.satisfied evidence ⟨endpoint, childCleanup moved⟩ index ≠ .panic := by
    intro moved endpoint index hle hlt
    have hindex : index - 3 < 3 := by omega
    cases moved
    · simp [evidenceMatchesCleanup.satisfied, childCleanup, Nat.not_lt.mpr hle, hindex, unwrap]
    · simp [evidenceMatchesCleanup.satisfied, childCleanup, Nat.not_lt.mpr hle, hindex, unwrap]
  have hturn : ∀ entry rest index, evidenceMatchesCleanup.satisfied evidence entry index ≠ .panic →
      evidenceMatchesCleanup.scan evidence rest (index + 1) ≠ .panic →
        evidenceMatchesCleanup.scan evidence (entry :: rest) index ≠ .panic := by
    intro entry rest index hentry hrest
    refine bind_ne_panic hentry fun satisfied _ => ?_
    split_ifs
    · exact ok_ne_panic _
    · exact hrest
  refine hturn _ _ _ (ok_ne_panic _) (hturn _ _ _ (ok_ne_panic _) (hturn _ _ _ (ok_ne_panic _) ?_))
  refine hturn _ _ _ (hchild _ _ _ (by decide) (by decide)) ?_
  refine hturn _ _ _ (hchild _ _ _ (by decide) (by decide)) ?_
  exact hturn _ _ _ (hchild _ _ _ (by decide) (by decide)) (ok_ne_panic _)

theorem finishSerialCleanup_run (now : Nat) : finishSerialCleanup now m =
    if now + serialRetryBackoffMillis < 2 ^ 64 then
      (.ok (.retrySerialAt (now + serialRetryBackoffMillis)), m.disconnected, [])
    else (.err .arithmeticOverflow, m.failed .arithmeticOverflow, []) := by
  unfold finishSerialCleanup checkedAdd
  split_ifs <;> rfl

/-- Nothing is pending and the serial line is lost. -/
def Finishes (m : ConsoleModel) : Prop :=
  m.serialInvalidated = true ∧ m.child = none ∧ m.pendingLaunch = none ∧ m.pendingLaunchCleanup = none

theorem maybeFinish_skip (h : ¬ Finishes m) : maybeFinishSerialInvalidation m =
    (.ok (), m, []) := by
  rw [maybeFinishSerialInvalidation, Prog.get_bind_run, if_neg (by simpa [Finishes, and_assoc] using h)]
  rfl

theorem maybeFinish_timeless (h : Finishes m) (hnow : m.lastNow = none) :
    maybeFinishSerialInvalidation m =
      (.err .monotonicRegression, m.failed .monotonicRegression, []) := by
  rw [maybeFinishSerialInvalidation, Prog.get_bind_run,
    if_pos (by simpa [Finishes, and_assoc] using h), hnow]
  rfl

theorem maybeFinish_run (h : Finishes m) (hnow : m.lastNow = some now) :
    maybeFinishSerialInvalidation m = if now + serialRetryBackoffMillis < 2 ^ 64 then
      (.ok (), { m.disconnected with
        pendingRecovery := some (.retrySerialAt (now + serialRetryBackoffMillis)) }, [])
    else (.err .arithmeticOverflow, m.failed .arithmeticOverflow, []) := by
  rw [maybeFinishSerialInvalidation, Prog.get_bind_run,
    if_pos (by simpa [Finishes, and_assoc] using h), hnow]
  show (finishSerialCleanup now >>= _) m = _
  rw [Prog.bind_run, finishSerialCleanup_run]
  split_ifs <;> rfl

theorem completeAbortChildLaunch_moves (token : LaunchCleanupToken)
    (evidence : LaunchCleanupEvidence) :
    Steps m (.completeAbortChildLaunch token evidence) .aborted
      (completeAbortChildLaunch token evidence) m := by
  refine steps_get (steps_reject .refuse fun hpending => steps_lift ?_ (fun _ _ => .refuse) fun _ hmatch => ?_)
  · obtain ⟨tx, htx⟩ := token.aborted
    rw [htx]
    exact evidenceMatchesCleanup_ne_panic tx evidence
  refine steps_reject .refuse fun hsatisfied => steps_modify ?_
  simp only [Bool.or_eq_false_iff, decide_eq_false_iff_not, not_not, Bool.not_eq_false'] at hpending hsatisfied
  subst hsatisfied
  by_cases hlost : m.serialInvalidated = true ∧ m.child = none
  · have hfinishes : Finishes { m with pendingLaunch := none, pendingLaunchCleanup := none } :=
      ⟨hlost.1, hlost.2, rfl, rfl⟩
    have hfailed : ∀ e, (∀ now ∈ m.lastNow, 2 ^ 64 ≤ now + serialRetryBackoffMillis) →
        Moves m (.completeAbortChildLaunch token evidence) (.err e)
          (ConsoleModel.failed { m with pendingLaunch := none, pendingLaunchCleanup := none } e) :=
      fun _ => .abortFailed hpending.1 hpending.2 hmatch hlost.1 hlost.2
    rcases Option.eq_none_or_eq_some m.lastNow with hnow | ⟨now, hnow⟩
    · unfold Steps Prog.wp
      rw [Prog.bind_run, maybeFinish_timeless hfinishes hnow]
      exact hfailed _ (by rw [hnow]; rintro _ ⟨⟩)
    · unfold Steps Prog.wp
      rw [Prog.bind_run, maybeFinish_run hfinishes hnow]
      split_ifs with hroom
      · exact .abortedAfterLoss hpending.1 hpending.2 hmatch hlost.1 hlost.2 hnow hroom
      · refine hfailed _ ?_
        rw [hnow]
        rintro _ ⟨⟩
        exact Nat.not_lt.mp hroom
  · have hskip : ¬ Finishes { m with pendingLaunch := none, pendingLaunchCleanup := none } :=
      fun h => hlost ⟨h.1, h.2.1⟩
    unfold Steps Prog.wp
    rw [Prog.bind_run, maybeFinish_skip hskip]
    exact .aborted hpending.1 hpending.2 hlost

/-! ## Staging -/

theorem InputNormalizer.stage_ne_panic {queue : BoundedQueue} (h : queue.Fits)
    (normalizer : InputNormalizer)
    (input : List UInt8) : normalizer.stage input queue ≠ .panic := by
  refine bind_ne_panic (rejectIf_ne_panic _ _) fun _ _ => ?_
  rw [BoundedQueue.available_eq h, ok_bind]
  exact bind_ne_panic (rejectIf_ne_panic _ _) fun _ _ => ok_ne_panic _

theorem OutputNormalizer.stage_ne_panic {queue : BoundedQueue} (h : queue.Fits)
    (normalizer : OutputNormalizer)
    (input : List UInt8) : normalizer.stage input queue ≠ .panic := by
  refine bind_ne_panic (rejectIf_ne_panic _ _) fun _ _ => ?_
  rw [BoundedQueue.available_eq h, ok_bind]
  exact bind_ne_panic (rejectIf_ne_panic _ _) fun _ _ => ok_ne_panic _

theorem stageSerialInput_moves (hm : m.Regular) (event : EventGeneration) (bytes : List UInt8) :
    Steps m (.stageSerialInput event bytes) (fun _ => .done) (stageSerialInput event bytes) m := by
  refine steps_current fun hcurrent => steps_get ?_
  refine steps_lift (InputNormalizer.stage_ne_panic hm.input _ _) (fun _ _ => .refuse) ?_
  rintro ⟨normalizer, queue⟩ hstage
  exact .stagedInput hcurrent hstage

variable {source : OutputSource} {m' : ConsoleModel}

theorem Staged.outputs {bytes : List UInt8} (h : Staged m source bytes m') :
    ∃ stdoutNormalizer stdout stderrNormalizer stderr,
      m' = { m with stdoutNormalizer, stdout, stderrNormalizer, stderr } := by
  obtain ⟨normalizer, queue, -, rfl⟩ := h
  cases source with
  | stdout => exact ⟨normalizer, queue, m.stderrNormalizer, m.stderr, rfl⟩
  | stderr => exact ⟨m.stdoutNormalizer, m.stdout, normalizer, queue, rfl⟩

theorem stageChildOutput_run (hfits : (m.queueFor source).Fits)
    {event : EventGeneration} (hcurrent : m.eventIsCurrent event = true) (bytes : List UInt8) :
    (∃ e, stageChildOutput event source bytes m = (.err e, m, [])) ∨
      ∃ m', Staged m source bytes m' ∧ stageChildOutput event source bytes m = (.ok (), m', []) := by
  have hcheck : requireCurrent event m = (.ok (), m, []) := by
    rw [requireCurrent_run, if_pos hcurrent]
  unfold stageChildOutput
  rw [Prog.bind_run_ok hcheck, Prog.get_bind_run]
  have hpanic := OutputNormalizer.stage_ne_panic hfits (m.normalizerFor source) bytes
  cases source with
  | stdout =>
      rcases hstage : m.stdoutNormalizer.stage bytes m.stdout with ⟨normalizer, queue⟩ | e | _
      · exact .inr ⟨_, ⟨normalizer, queue, hstage, rfl⟩, rfl⟩
      · exact .inl ⟨e, rfl⟩
      · exact absurd hstage hpanic
  | stderr =>
      rcases hstage : m.stderrNormalizer.stage bytes m.stderr with ⟨normalizer, queue⟩ | e | _
      · exact .inr ⟨_, ⟨normalizer, queue, hstage, rfl⟩, rfl⟩
      · exact .inl ⟨e, rfl⟩
      · exact absurd hstage hpanic

theorem ConsoleModel.Regular.queueFor (hm : m.Regular) : ∀ source, (m.queueFor source).Fits
  | .stdout => hm.stdout
  | .stderr => hm.stderr

theorem stageChildOutput_moves (hm : m.Regular) (event : EventGeneration) (source : OutputSource)
    (bytes : List UInt8) :
    Steps m (.stageChildOutput event source bytes) (fun _ => .done)
      (stageChildOutput event source bytes) m := by
  cases hcurrent : m.eventIsCurrent event with
  | true =>
      rcases stageChildOutput_run (hm.queueFor source) hcurrent bytes with
        ⟨e, hrun⟩ | ⟨m', hstaged, hrun⟩
      · unfold Steps Prog.wp
        rw [hrun]
        exact .refuse
      · unfold Steps Prog.wp
        rw [hrun]
        obtain ⟨_, _, _, _, rfl⟩ := hstaged.outputs
        exact .stagedOutput hcurrent hstaged
  | false => exact steps_current fun h => absurd (hcurrent.symm.trans h) Bool.false_ne_true

theorem pollSource_wp (hfits : (m.queueFor source).Fits)
    {event : EventGeneration} (hcurrent : m.eventIsCurrent event = true) (read : Read)
    (payload : Vector UInt8 fairSourceBytesPerTurn) :
    Prog.wp (pollSource event read source payload)
      (fun o m' _ => o ≠ .panic ∧ Polls m source m') m := by
  unfold pollSource
  split
  · exact ⟨err_ne_panic _, .inl rfl⟩
  · exact ⟨ok_ne_panic _, .inl rfl⟩
  · rename_i payload count _
    refine (Prog.wp_rejectIf_bind _ _ _ _ m).mpr ⟨fun _ => ⟨err_ne_panic _, .inl rfl⟩, fun _ => ?_⟩
    rcases stageChildOutput_run hfits hcurrent (payload.toList.take count) with
      ⟨e, hrun⟩ | ⟨m', hstaged, hrun⟩
    · rw [Prog.wp, Prog.bind_run_err hrun]
      exact ⟨err_ne_panic _, .inl rfl⟩
    · rw [Prog.wp_bind_ok hrun]
      exact ⟨ok_ne_panic _, .inr ⟨_, hstaged⟩⟩

theorem Staged.current {bytes : List UInt8}
    (h : Staged m source bytes m') (event : EventGeneration) :
    m'.eventIsCurrent event = m.eventIsCurrent event := by
  obtain ⟨_, _, -, rfl⟩ := h
  cases source <;> rfl

theorem Staged.queueFor_other {bytes : List UInt8}
    (h : Staged m source bytes m') : m'.queueFor (other source) = m.queueFor (other source) := by
  obtain ⟨_, _, -, rfl⟩ := h
  cases source <;> rfl

theorem Polls.current (h : Polls m source m')
    (event : EventGeneration) : m'.eventIsCurrent event = m.eventIsCurrent event := by
  rcases h with rfl | ⟨_, hstaged⟩
  · rfl
  · exact hstaged.current event

theorem Polls.queueFor_other (h : Polls m source m') :
    m'.queueFor (other source) = m.queueFor (other source) := by
  rcases h with rfl | ⟨_, hstaged⟩
  · rfl
  · exact hstaged.queueFor_other

theorem Polls.outputs (h : Polls m source m') :
    ∃ stdoutNormalizer stdout stderrNormalizer stderr,
      m' = { m with stdoutNormalizer, stdout, stderrNormalizer, stderr } := by
  rcases h with rfl | ⟨_, hstaged⟩
  · exact ⟨m'.stdoutNormalizer, m'.stdout, m'.stderrNormalizer, m'.stderr, rfl⟩
  · exact hstaged.outputs

theorem Polls.moves {m₁ : ConsoleModel} {event : EventGeneration} {read : Read}
    {o : Outcome ModelError Reply} (hfirst : Polls m .stdout m₁) (hsecond : Polls m₁ .stderr m')
    (hcurrent : m.eventIsCurrent event = true) (hquiets : Quiets o) :
    Moves m (.pollOutputQuiescence event read) o m' := by
  obtain ⟨_, _, _, _, rfl⟩ := hfirst.outputs
  obtain ⟨_, _, _, _, rfl⟩ := hsecond.outputs
  exact .polled hcurrent hquiets hfirst hsecond

theorem pollOutputQuiescence_moves (hm : m.Regular) (event : EventGeneration) (read : Read) :
    Steps m (.pollOutputQuiescence event read) .quiet (pollOutputQuiescence event read) m := by
  refine steps_current fun hcurrent => steps_get ?_
  split_ifs
  · exact Polls.moves (.inl rfl) (.inl rfl) hcurrent (.ok _)
  · refine (Prog.wp_bind _ _ _ m).mpr (Prog.wp_mono (pollSource_wp (hm.queueFor .stdout) hcurrent read _) ?_)
    rintro o m₁ _ ⟨hpanic, hfirst⟩
    have hcurrent₁ : m₁.eventIsCurrent event = true := (hfirst.current event).trans hcurrent
    have hfits : (m₁.queueFor .stderr).Fits := hfirst.queueFor_other ▸ hm.stderr
    cases o with
    | ok first =>
        refine (Prog.wp_bind _ _ _ m₁).mpr (Prog.wp_mono (pollSource_wp hfits hcurrent₁ read _) ?_)
        rintro o m₂ _ ⟨hpanic₁, hsecond⟩
        cases o with
        | ok second => exact hfirst.moves hsecond hcurrent (.ok _)
        | err e => exact hfirst.moves hsecond hcurrent (.err e)
        | panic => exact absurd rfl hpanic₁
    | err e => exact hfirst.moves (.inl rfl) hcurrent (.err e)
    | panic => exact absurd rfl hpanic

/-! ## Failures and retirement -/

theorem markChildPeerClosed_run {event : EventGeneration} (child : ChildSession)
    (hchild : m.child = some child) (hevent : child.ids.event = event) (kind : StreamKind) :
    markChildPeerClosed event kind m =
      (.ok (), { m with child := some (child.closePeer kind) }, []) := by
  unfold markChildPeerClosed
  rw [Prog.get_bind_run, if_neg (by simp [ConsoleModel.event, hchild, hevent]), hchild]
  rfl

theorem exists_child {event : EventGeneration} (h : m.event = some event) :
    ∃ child, m.child = some child ∧ child.ids.event = event :=
  Option.map_eq_some_iff.mp h

theorem startChildRetirement_moves {op : Op} {event : EventGeneration}
    {child : ChildSession} (hop : Retires op event now e) (htime : m.Timely now)
    (hactive : m.state = .active) (hchild : m.child = some child) (hids : child.ids.event = event)
    (child' : ChildSession) (hsame : child'.ids = child.ids) :
    Steps m op .action (startChildRetirement false true now)
      { m.atTime now with child := some child', lastFailure := some e } := by
  have hmoves := Moves.retire hop htime hactive hchild hids hsame
  rw [← hsame] at hmoves
  exact hmoves

theorem with_child {child : ChildSession} (hchild : m.child = some child) :
    m = { m with child := some child } := by
  rw [← hchild]

theorem wrongDirectionData_moves (event : EventGeneration) (now : Nat) :
    Steps m (.wrongDirectionData event now) .action (wrongDirectionData event now) m := by
  refine steps_time_current fun htime hactive hevent => steps_modify ?_
  obtain ⟨child, hchild, hids⟩ := exists_child hevent
  rw [with_child (m := { m.atTime now with lastFailure := _ }) hchild]
  exact startChildRetirement_moves (.wrongDirection event now) htime hactive hchild hids child rfl

theorem statusPeerClosed_moves (event : EventGeneration) (now : Nat) :
    Steps m (.statusPeerClosed event now) .action (statusPeerClosed event now) m := by
  refine steps_time_current fun htime hactive hevent => steps_modify ?_
  obtain ⟨child, hchild, hids⟩ := exists_child hevent
  rw [with_child (m := { m.atTime now with lastFailure := _ }) hchild]
  exact startChildRetirement_moves (.statusClosed event now) htime hactive hchild hids child rfl

theorem childPeerClosed_moves (event : EventGeneration) (kind : StreamKind) (now : Nat) :
    Steps m (.childPeerClosed event kind now) .action (childPeerClosed event kind now) m := by
  refine steps_time_current fun htime hactive hevent => steps_modify ?_
  obtain ⟨child, hchild, hids⟩ := exists_child hevent
  refine (Prog.wp_bind_ok (markChildPeerClosed_run (m := { m.atTime now with lastFailure := _ })
    child hchild hids kind) _ _).mpr ?_
  exact startChildRetirement_moves (.peerClosed event kind now) htime hactive hchild hids
    (child.closePeer kind) rfl

theorem childTerminal_moves (event : EventGeneration) (now : Nat) :
    Steps m (.childTerminal event now) .action (childTerminal event now) m := by
  refine steps_time_current fun htime hactive hevent => ?_
  exact .terminal htime (eventIsCurrent_iff.mpr ⟨hactive, hevent⟩)

theorem childTerminalPrecursor_moves (event : EventGeneration) (now : Nat) :
    Steps m (.childTerminalPrecursor event now) .action (childTerminalPrecursor event now) m := by
  refine steps_time_current fun htime hactive hevent => ?_
  exact .precursor htime (eventIsCurrent_iff.mpr ⟨hactive, hevent⟩)

theorem markChildPeerClosed_stale {event : EventGeneration} (h : m.event ≠ some event)
    (kind : StreamKind) : markChildPeerClosed event kind m = (.err .staleCorrelation, m, []) := by
  unfold markChildPeerClosed
  rw [Prog.get_bind_run, if_pos h]
  rfl

theorem steps_retiring {op : Op} {reply : α → Reply}
    (h : m.Timely now → m.state = .retiringChild ∨ m.state = .awaitingReap →
      Steps m op reply (f ()) (m.atTime now)) :
    Steps m op reply (time now >>= fun _ => requireRetiring >>= f) m := by
  refine steps_time fun htime => ?_
  simp only [requireRetiring, bind_assoc]
  refine steps_get (steps_reject (.late htime) fun hstate => h htime ?_)
  rcases Bool.and_eq_false_iff.mp hstate with h | h
  · exact .inl (not_not.mp (of_decide_eq_false h))
  · exact .inr (not_not.mp (of_decide_eq_false h))

theorem observeChildPeerClosed_moves (event : EventGeneration) (kind : StreamKind) (now : Nat) :
    Steps m (.observeChildPeerClosed event kind now) (fun _ => .done)
      (observeChildPeerClosed event kind now) m := by
  refine steps_retiring fun htime hstate => ?_
  by_cases hevent : m.event = some event
  · obtain ⟨child, hchild, hids⟩ := exists_child hevent
    unfold Steps Prog.wp
    rw [markChildPeerClosed_run (m := m.atTime now) child hchild hids]
    exact .closed (.peer event kind now) htime hstate hchild hids rfl
  · unfold Steps Prog.wp
    rw [markChildPeerClosed_stale (m := m.atTime now) hevent]
    exact .late htime

theorem childStreamsClosed_moves (event : EventGeneration) (now : Nat) :
    Steps m (.childStreamsClosed event now) (fun _ => .done) (childStreamsClosed event now) m := by
  refine steps_retiring fun htime hstate => ?_
  by_cases hevent : m.event = some event
  · obtain ⟨child, hchild, hids⟩ := exists_child hevent
    refine (Prog.wp_bind_ok (markChildPeerClosed_run (m := m.atTime now) child hchild hids _)
      _ _).mpr ?_
    refine (Prog.wp_bind_ok (markChildPeerClosed_run (child.closePeer .stdin) rfl hids _) _ _).mpr ?_
    unfold Prog.wp
    rw [markChildPeerClosed_run ((child.closePeer .stdin).closePeer .stdout) rfl hids]
    exact .closed (.streams event now) htime hstate hchild hids rfl
  · refine (Prog.wp_bind _ _ _ _).mpr ?_
    unfold Prog.wp
    rw [markChildPeerClosed_stale (m := m.atTime now) hevent]
    exact .late htime

theorem serialPeerClosed_moves (serial : SerialCorrelation) (consoleGeneration now : Nat) :
    Steps m (.serialPeerClosed serial consoleGeneration now) .action
      (serialPeerClosed serial consoleGeneration now) m := by
  refine steps_time fun htime => steps_get (steps_reject (.late htime) fun hstate => ?_)
  refine steps_modify (steps_modify ?_)
  simp only [Bool.or_eq_false_iff, Bool.and_eq_false_iff, decide_eq_false_iff_not, not_not] at hstate
  obtain ⟨⟨hlive, hserial⟩, hconsole⟩ := hstate
  have hopen : m.state ≠ .reconnecting ∧ m.state ≠ .failClosed := by
    have hlive' : (((m.state = .active ∨ m.state = .retiringChild) ∨ m.state = .awaitingReap) ∨
      m.state = .exhausted) := hlive
    rcases hlive' with ((h | h) | h) | h <;> rw [h] <;> decide
  by_cases hchild : m.child = none
  · by_cases hlaunch : m.pendingLaunch = none
    · rw [if_neg (by simp [atTime, hchild]), if_pos (by simp [atTime, hchild, hlaunch])]
      refine steps_modify ?_
      unfold Steps Prog.wp
      rw [finishSerialCleanup_run]
      split_ifs with hroom
      · exact .lostIdle htime hopen.1 hopen.2 hserial hconsole hchild hlaunch hroom
      · exact .lostIdleFailed htime hopen.1 hopen.2 hserial hconsole hchild hlaunch
    · rw [if_neg (by simp [atTime, hchild]), if_neg (by simp [atTime, hchild, hlaunch])]
      exact .lostBusy htime hopen.1 hopen.2 hserial hconsole
        (.inr ⟨hchild, Option.isSome_iff_ne_none.mpr hlaunch⟩)
  · obtain ⟨child, hsome⟩ := Option.ne_none_iff_exists'.mp hchild
    by_cases hactive : m.state = .active
    · rw [if_pos (by simp [atTime, hsome, hactive])]
      have hmoves := Moves.lostChild htime hactive hserial hconsole hsome
      have hjob : child.ids.childJob = m.childJob := by
        rw [childJob, hsome]
        rfl
      rw [hjob] at hmoves
      exact hmoves
    · rw [if_neg (by simp [atTime, hactive]), if_neg (by simp [atTime, hsome])]
      exact .lostBusy htime hopen.1 hopen.2 hserial hconsole
        (.inl ⟨Option.isSome_iff_ne_none.mpr hchild, hactive⟩)

theorem childTerminated_moves (event : EventGeneration) (now : Nat) :
    Steps m (.childTerminated event now) .action (childTerminated event now) m := by
  refine steps_time fun htime => steps_get (steps_reject (.late htime) fun hstate => ?_)
  simp only [Bool.or_eq_false_iff, decide_eq_false_iff_not, not_not, Bool.not_eq_false',
    eventMatchesChild, decide_eq_true_iff] at hstate
  exact .terminated htime hstate.1 hstate.2

/-! ## Windows -/

theorem recent_ok : ∀ {times : List Nat}, (∀ t ∈ times, t ≤ now) →
    RestartWindow.recent now times = .ok (times.filter fun t => now - t < restartWindowMillis)
  | [], _ => rfl
  | time :: rest, h => by
      obtain ⟨htime, hrest⟩ := List.forall_mem_cons.mp h
      rw [RestartWindow.recent, if_pos htime]
      show (RestartWindow.recent now rest >>= _) = _
      rw [recent_ok hrest, ok_bind, List.filter_cons]
      by_cases hrecent : now - time < restartWindowMillis
      · rw [if_pos hrecent, if_pos (decide_eq_true hrecent)]
        rfl
      · rw [if_neg hrecent, if_neg (by simpa using hrecent)]
        rfl

/-- The times that still count when another failure happens. -/
def RestartWindow.kept (window : RestartWindow) (now : Nat) : List Nat :=
  window.times.filter fun t => now - t < restartWindowMillis

theorem RestartWindow.add_ok {window : RestartWindow}
    (h : ∀ t ∈ window.times, t ≤ now) : ∃ full window', window.add now = .ok (full, window') := by
  rw [RestartWindow.add, recent_ok h, ok_bind]
  exact ⟨_, _, rfl⟩

theorem ConsoleModel.Regular.countsFailure (hm : m.Regular) (htime : m.Timely now) :
    ∃ full window, m.childWindow.add (m.childFailureAt.getD now) = .ok (full, window) := by
  refine RestartWindow.add_ok fun t ht => ?_
  cases hfailure : m.childFailureAt with
  | none =>
      obtain ⟨last, hlast, hle⟩ := hm.childWindow t ht
      exact hle.trans (htime last hlast)
  | some failedAt => exact hm.failure t ht failedAt hfailure

theorem ConsoleModel.Regular.countsReconnect (hm : m.Regular) (htime : m.Timely now) :
    ∃ full window, m.serialWindow.add now = .ok (full, window) := by
  refine RestartWindow.add_ok fun t ht => ?_
  obtain ⟨last, hlast, hle⟩ := hm.serialWindow t ht
  exact hle.trans (htime last hlast)

theorem childReaped_moves (hm : m.Regular) (event : EventGeneration) (now : Nat) :
    Steps m (.childReaped event now) .action (childReaped event now) m := by
  refine steps_time fun htime => steps_get (steps_reject (.late htime) fun hstate => ?_)
  simp only [Bool.or_eq_false_iff, decide_eq_false_iff_not, not_not, Bool.not_eq_false',
    eventMatchesChild, decide_eq_true_iff] at hstate
  obtain ⟨⟨hreap, hterminated⟩, hevent⟩ := hstate
  obtain ⟨child, hchild, -⟩ := exists_child hevent
  refine steps_modify (steps_get (steps_okOr_some hchild ?_))
  by_cases hlive : child.anyPeerLive = true
  · rw [if_pos hlive]
    exact .incomplete htime hreap hterminated hevent hchild hlive
  rw [if_neg hlive]
  have hreapable : m.Reapable event now :=
    ⟨htime, hreap, hterminated, hevent, child, hchild, Bool.eq_false_of_not_eq_true hlive⟩
  by_cases hcleanup : m.serialCleanup = true
  · rw [if_neg (by simp [atTime, hcleanup])]
    refine steps_modify (steps_modify (steps_get (steps_modify ?_)))
    obtain ⟨full, window, hadd⟩ := hm.countsFailure htime
    refine steps_lift (hadd ▸ ok_ne_panic _) (fun e he => absurd (hadd.symm.trans he) (ok_ne_err _ e)) ?_
    rintro ⟨full', window'⟩ hadd'
    refine steps_modify ?_
    cases full' with
    | true => exact .escalated htime hreap hevent hcleanup hadd' hreapable
    | false => exact .replaced htime hreap hevent hcleanup hadd' hreapable
  · rw [if_pos (by simp [atTime, hcleanup])]
    exact .reapedAfterLoss htime hreap hevent (Bool.not_eq_true _ ▸ hcleanup) hreapable

theorem completeSerialCleanup_moves (serial : SerialCorrelation) (consoleGeneration now : Nat) :
    Steps m (.completeSerialCleanup serial consoleGeneration now) .action
      (completeSerialCleanup serial consoleGeneration now) m := by
  refine steps_time fun htime => steps_get (steps_reject (.late htime) fun hstate => ?_)
  refine steps_reject (.late htime) fun _ => steps_modify ?_
  simp only [Bool.or_eq_false_iff, decide_eq_false_iff_not, not_not, Bool.not_eq_false'] at hstate
  obtain ⟨⟨⟨⟨hreap, hcleanup⟩, hreaped⟩, hserial⟩, hconsole⟩ := hstate
  unfold Steps Prog.wp
  rw [finishSerialCleanup_run]
  split_ifs with hroom
  · exact .cleaned htime hreap hcleanup hreaped hserial hconsole hroom
  · exact .cleanupFailed htime hreap hcleanup hserial

theorem serialReconnectFailed_moves (hm : m.Regular) (now : Nat) :
    Steps m (.serialReconnectFailed now) .action (serialReconnectFailed now) m := by
  refine steps_time fun htime => steps_get (steps_reject (.late htime) fun hstate => ?_)
  have hreconnecting : m.state = .reconnecting := not_not.mp (of_decide_eq_false hstate)
  obtain ⟨full, window, hadd⟩ := hm.countsReconnect htime
  refine steps_modify (steps_lift (hadd ▸ ok_ne_panic _)
    (fun e he => absurd (hadd.symm.trans he) (ok_ne_err _ e)) ?_)
  rintro ⟨full', window'⟩ hadd'
  refine steps_modify ?_
  cases full' with
  | true => exact .serialExhausted htime hreconnecting hadd'
  | false =>
      rw [if_neg Bool.false_ne_true]
      unfold checkedAdd
      split_ifs with hroom
      · exact .retrying htime hreconnecting hadd' hroom
      · exact .reconnectFailed htime hreconnecting hadd'

/-! ## Reservations -/

theorem liveEvent_ne_panic : m.liveEvent ≠ .panic := by
  refine bind_ne_panic (okOr_ne_panic _ _) fun _ _ => ?_
  exact bind_ne_panic (rejectIf_ne_panic _ _) fun _ _ => ok_ne_panic _

theorem liveEvent_eq_ok {event : EventGeneration} (h : m.liveEvent = .ok event) :
    m.state = .active ∧ m.event = some event := by
  obtain ⟨child, hchild, hrest⟩ := bind_eq_ok.mp h
  obtain ⟨_, hlive, hevent⟩ := bind_eq_ok.mp hrest
  have hstate := rejectIf_eq_ok.mp hlive
  simp only [Bool.or_eq_false_iff, decide_eq_false_iff_not, not_not] at hstate
  refine ⟨hstate.1, ?_⟩
  rw [ConsoleModel.event, okOr_eq_ok.mp hchild, Option.map_some, Outcome.ok.inj hevent]

theorem reserveChildStdin_moves (room : Nat) :
    Steps m (.reserveChildStdin room) .reserved (reserveChildStdin room) m := by
  refine steps_get ?_
  split
  · exact .reservedNothing (.stdin room)
  refine steps_lift liveEvent_ne_panic (fun _ _ => .refuse) fun event hevent => ?_
  obtain ⟨hactive, hevent⟩ := liveEvent_eq_ok hevent
  refine steps_reject .refuse fun hpending => ?_
  split_ifs
  · exact .reservedNothing (.stdin room)
  · unfold Steps Prog.wp
    rw [Prog.bind_run, allocateReservation, allocate_run]
    split_ifs with hroom
    · exact .reservedStdin hactive hevent (by simpa using hpending) hroom
    · exact .failed clock_self

theorem reserveSerialTx_moves (room : Nat) :
    Steps m (.reserveSerialTx room) .reserved (reserveSerialTx room) m := by
  refine steps_get ?_
  split
  · exact .reservedNothing (.tx room)
  refine steps_lift liveEvent_ne_panic (fun _ _ => .refuse) fun event hevent => ?_
  obtain ⟨hactive, hevent⟩ := liveEvent_eq_ok hevent
  refine steps_reject .refuse fun hpending => ?_
  by_cases hempty : (m.queueFor m.turn).isEmpty = true
  · rw [if_pos hempty]
    exact .reservedNothing (.tx room)
  · rw [if_neg hempty]
    unfold Steps Prog.wp
    rw [Prog.bind_run, allocateReservation, allocate_run]
    split_ifs with hroom
    · exact .reservedTx hactive hevent (by simpa using hpending) (Bool.not_eq_true _ ▸ hempty) hroom
    · exact .failed clock_self

theorem steps_reserved {op : Op} {reply : α → Reply} {pending : Option Reservation}
    {reservation : Reservation}
    (h : pending = some reservation → m.state = .active → m.event = some reservation.event →
      Steps m op reply (f ()) m) :
    Steps m op reply (requireReserved pending reservation >>= f) m := by
  simp only [requireReserved, bind_assoc]
  refine steps_get (steps_reject .refuse fun hpending => ?_)
  refine steps_lift liveEvent_ne_panic (fun _ _ => .refuse) fun event hevent => ?_
  refine steps_reject .refuse fun hsame => ?_
  obtain ⟨hactive, hevent⟩ := liveEvent_eq_ok hevent
  have hreserved : event = reservation.event := by simpa using hsame
  exact h (by simpa using hpending) hactive (hreserved ▸ hevent)

theorem commitChildStdin_moves (hm : m.Regular) (reservation : Reservation) :
    Steps m (.commitChildStdin reservation) (fun _ => .done) (commitChildStdin reservation) m := by
  refine steps_get (steps_reserved fun hpending hactive hevent => ?_)
  obtain ⟨queue, hconsume, -⟩ := BoundedQueue.consume_eq (hm.stdin reservation hpending)
  refine steps_lift (hconsume ▸ ok_ne_panic _)
    (fun e he => absurd (hconsume.symm.trans he) (ok_ne_err _ e)) fun queue' hconsume' => ?_
  exact .committedStdin hactive hpending hevent hconsume'

theorem releaseChildStdin_moves (reservation : Reservation) :
    Steps m (.releaseChildStdin reservation) (fun _ => .done) (releaseChildStdin reservation) m :=
  steps_get (steps_reserved fun hpending _ hevent => .releasedStdin hpending hevent)

theorem setQueue_eq (m : ConsoleModel) (queue : BoundedQueue) (source : OutputSource) :
    ∃ stdout stderr, m.setQueue queue source = { m with stdout, stderr } := by
  cases source with
  | stdout => exact ⟨queue, m.stderr, rfl⟩
  | stderr => exact ⟨m.stdout, queue, rfl⟩

theorem commitSerialTx_moves (hm : m.Regular) (reservation : Reservation) :
    Steps m (.commitSerialTx reservation) (fun _ => .done) (commitSerialTx reservation) m := by
  refine steps_get (steps_reserved fun hpending hactive hevent => ?_)
  refine steps_okOr .refuse fun source hsource => ?_
  obtain ⟨queue, hconsume, -⟩ := BoundedQueue.consume_eq (hm.tx reservation hpending source hsource)
  refine steps_lift (hconsume ▸ ok_ne_panic _)
    (fun e he => absurd (hconsume.symm.trans he) (ok_ne_err _ e)) fun queue' hconsume' => ?_
  obtain ⟨_, _, hset⟩ := setQueue_eq m queue' source
  show Moves m _ (.ok .done) { m.setQueue queue' source with nextOutput := other source, pendingTx := none }
  rw [hset]
  exact .committedTx hactive hpending hevent hsource hconsume' hset

theorem releaseSerialTx_moves (reservation : Reservation) :
    Steps m (.releaseSerialTx reservation) (fun _ => .done) (releaseSerialTx reservation) m :=
  steps_get (steps_reserved fun hpending _ hevent => .releasedTx hpending hevent)

/-! ## READY -/

theorem observeChildReady_moves (hm : m.Regular) (event : EventGeneration) (now : Nat) :
    Steps m (.observeChildReady event now) .ready (observeChildReady event now) m := by
  refine steps_time fun htime => steps_get (steps_reject (.late htime) fun hcurrent => ?_)
  have hcurrent' : (m.atTime now).eventIsCurrent event = true := by simpa using hcurrent
  obtain ⟨hactive, hevent⟩ : m.state = .active ∧ m.event = some event := eventIsCurrent_iff.mp hcurrent'
  obtain ⟨child, hchild, hids⟩ := exists_child hevent
  obtain ⟨hcomplete, hlive⟩ := hm.ready hactive child hchild
  have htoken : readyToken { m with readyObserved := some event } =
      some ⟨child.ids, child.peers.map PeerState.endpoint⟩ := by
    rw [readyToken, hchild, Option.bind_some, if_neg (by simp [hactive, hcomplete, hlive, hids])]
  refine steps_modify (steps_get (steps_okOr_some htoken ?_))
  have hmoves := Moves.readied htime hcurrent' htoken
  split
  · rename_i hother
    have hnew : m.stable.map Prod.fst ≠ some ⟨child.ids, child.peers.map PeerState.endpoint⟩ := hother
    rw [if_neg hnew] at hmoves
    exact hmoves
  · rename_i hsame
    have hkept : m.stable.map Prod.fst = some ⟨child.ids, child.peers.map PeerState.endpoint⟩ :=
      not_not.mp hsame
    rw [if_pos hkept] at hmoves
    exact hmoves

theorem observeReady_moves (hm : m.Regular) (now : Nat) (token : ReadyToken) :
    Steps m (.observeReady now token) .stable (observeReady now token) m := by
  refine steps_time fun htime => steps_get (steps_reject (.late htime) fun hready => ?_)
  have htoken : m.readyToken = some token := not_not.mp (of_decide_eq_false hready)
  rw [show (m.atTime now).stable = m.stable from rfl]
  by_cases hsame : ∃ since, m.stable = some (token, since)
  · obtain ⟨since, hstable⟩ := hsame
    obtain ⟨last, hlast, hle⟩ := hm.stable _ hstable
    have hsince : since ≤ now := Nat.le_trans hle (htime last hlast)
    rw [hstable, Option.filter_some, if_pos (decide_eq_true rfl)]
    refine steps_lift (by rw [if_pos hsince]; exact ok_ne_panic _)
      (fun e he => by rw [if_pos hsince] at he; cases he) fun run hrun => ?_
    rw [if_pos hsince] at hrun
    obtain rfl := Outcome.ok.inj hrun
    split_ifs with hshort
    · exact .unstable htime htoken hstable (by omega)
    · exact .stable htime htoken hstable (by omega)
  · have hother : ∀ stable ∈ m.stable, stable.1 ≠ token := by
      rintro ⟨token', since⟩ hstable rfl
      exact hsame ⟨since, hstable⟩
    have hnone : (m.stable.filter fun stable => stable.1 = token) = none := by
      rw [Option.filter_eq_none_iff]
      exact fun stable hstable => by simpa using hother stable hstable
    rw [hnone]
    exact .restabilized htime htoken hother

theorem takeRecoveryAction_moves :
    Steps m .takeRecoveryAction .recovery takeRecoveryAction m := .taken

theorem perform_moves (hm : m.Regular) (op : Op) :
    Moves m op (perform op m).1 (perform op m).2.1 := by
  show Prog.wp (perform op) (fun o m' _ => Moves m op o m') m
  cases op with
  | beginConnect expected => exact (Prog.wp_bind_pure _ _ _ m).mpr (beginConnect_moves expected)
  | abortConnect request => exact (Prog.wp_bind_pure _ _ _ m).mpr (abortConnect_moves request)
  | attachConnected serial now => exact (Prog.wp_map _ _ _ m).mpr (attachConnected_moves serial now)
  | beginChildLaunch childLaunch =>
      exact (Prog.wp_map _ _ _ m).mpr (beginChildLaunch_moves hm childLaunch)
  | moveChildPeer tx kind => exact (Prog.wp_bind_pure _ _ _ m).mpr (moveChildPeer_moves tx kind)
  | commitChildLaunch tx childJob =>
      exact (Prog.wp_bind_pure _ _ _ m).mpr (commitChildLaunch_moves tx childJob)
  | abortChildLaunch tx => exact (Prog.wp_map _ _ _ m).mpr (abortChildLaunch_moves tx)
  | completeAbortChildLaunch token evidence =>
      exact (Prog.wp_map _ _ _ m).mpr (completeAbortChildLaunch_moves token evidence)
  | stageSerialInput event bytes =>
      exact (Prog.wp_bind_pure _ _ _ m).mpr (stageSerialInput_moves hm event bytes)
  | stageChildOutput event source bytes =>
      exact (Prog.wp_bind_pure _ _ _ m).mpr (stageChildOutput_moves hm event source bytes)
  | pollOutputQuiescence event read =>
      exact (Prog.wp_map _ _ _ m).mpr (pollOutputQuiescence_moves hm event read)
  | wrongDirectionData event now =>
      exact (Prog.wp_map _ _ _ m).mpr (wrongDirectionData_moves event now)
  | childTerminal event now => exact (Prog.wp_map _ _ _ m).mpr (childTerminal_moves event now)
  | childTerminalPrecursor event now =>
      exact (Prog.wp_map _ _ _ m).mpr (childTerminalPrecursor_moves event now)
  | childPeerClosed event kind now =>
      exact (Prog.wp_map _ _ _ m).mpr (childPeerClosed_moves event kind now)
  | statusPeerClosed event now =>
      exact (Prog.wp_map _ _ _ m).mpr (statusPeerClosed_moves event now)
  | observeChildPeerClosed event kind now =>
      exact (Prog.wp_bind_pure _ _ _ m).mpr (observeChildPeerClosed_moves event kind now)
  | childStreamsClosed event now =>
      exact (Prog.wp_bind_pure _ _ _ m).mpr (childStreamsClosed_moves event now)
  | serialPeerClosed serial consoleGeneration now =>
      exact (Prog.wp_map _ _ _ m).mpr (serialPeerClosed_moves serial consoleGeneration now)
  | childTerminated event now => exact (Prog.wp_map _ _ _ m).mpr (childTerminated_moves event now)
  | childReaped event now => exact (Prog.wp_map _ _ _ m).mpr (childReaped_moves hm event now)
  | completeSerialCleanup serial consoleGeneration now =>
      exact (Prog.wp_map _ _ _ m).mpr (completeSerialCleanup_moves serial consoleGeneration now)
  | serialReconnectFailed now =>
      exact (Prog.wp_map _ _ _ m).mpr (serialReconnectFailed_moves hm now)
  | reserveChildStdin room => exact (Prog.wp_map _ _ _ m).mpr (reserveChildStdin_moves room)
  | commitChildStdin reservation =>
      exact (Prog.wp_bind_pure _ _ _ m).mpr (commitChildStdin_moves hm reservation)
  | releaseChildStdin reservation =>
      exact (Prog.wp_bind_pure _ _ _ m).mpr (releaseChildStdin_moves reservation)
  | reserveSerialTx room => exact (Prog.wp_map _ _ _ m).mpr (reserveSerialTx_moves room)
  | commitSerialTx reservation =>
      exact (Prog.wp_bind_pure _ _ _ m).mpr (commitSerialTx_moves hm reservation)
  | releaseSerialTx reservation =>
      exact (Prog.wp_bind_pure _ _ _ m).mpr (releaseSerialTx_moves reservation)
  | observeChildReady event now =>
      exact (Prog.wp_map _ _ _ m).mpr (observeChildReady_moves hm event now)
  | observeReady now token => exact (Prog.wp_map _ _ _ m).mpr (observeReady_moves hm now token)
  | takeRecoveryAction => exact (Prog.wp_map _ _ _ m).mpr takeRecoveryAction_moves

end Wyrmroot.Consoled
