import Wyrmroot.Devmgr.ResidentAtomicity

/-!
# The retry budget of a driver

Permanent failure and backoff are states like any other, and a rebind computes
the state anew: with a bundle and no ready driver it leaves `Matched`, whatever
was counted before (`forgotten_failures`). The count and the deadline
themselves are kept. So as long as no rebind leaves `Matched` while one of them
stands, and no cleanup moves a deadline back, a launch finds neither.
-/

namespace Wyrmroot.Devmgr

open Outcome ResidentController
open Device (maxAttempts retryBackoffNs)

/-- The budget is used up or a deadline stands. -/
def Pending (s : ResidentController) : Prop :=
  maxAttempts ≤ s.driverFailures ∨ s.retryUntilNs ≠ none

/-- The calls that pass over either. -/
inductive Forgets (s : ResidentController) : ResidentOp → Prop
  | rebind {op : ResidentOp} {binding : Device.RegistryBinding} {transactionId service : Nat} :
      Rebinds s op binding transactionId service → s.status.state ≠ .cleaningUp →
      s.driverReady = false → s.bundleGeneration ≠ none → Pending s → Forgets s op
  | hurried {nowNs untilNs : Nat} : s.retryUntilNs = some untilNs →
      nowNs + retryBackoffNs < untilNs → Forgets s (.completeDriverFailureCleanup nowNs)

def LaunchesWithBundle (c : ResidentCall) : Prop :=
  (∃ childIsChannel childRights, c.op = .issueDriverLaunchWithBundle childIsChannel childRights) ∧
    ∃ reply, c.outcome = .ok reply

/-- The call counted the fourth failure. -/
def CountsFourth (c : ResidentCall) : Prop :=
  (∃ nowNs, c.op = .completeDriverFailureCleanup nowNs) ∧ c.before.driverFailures < maxAttempts ∧
    maxAttempts ≤ c.after.driverFailures

/-- The cleanup completed at `nowNs` entered backoff. -/
def BacksOff (c : ResidentCall) (nowNs : Nat) : Prop :=
  c.op = .completeDriverFailureCleanup nowNs ∧ c.outcome = .ok .unit ∧
    isBackoff c.after.status.state = true

def RetriesAt (c : ResidentCall) (nowNs : Nat) : Prop :=
  c.op = .driverRetryReady nowNs ∧ c.outcome = .ok .unit

variable {s s' : ResidentController} {op : ResidentOp} {o : Outcome DevmgrError ResidentReply}
  {h : List ResidentCall} {nowNs : Nat}

/-! ## One call -/

/-- While the budget is used up or a deadline stands, the state is none in which a
launch begins or a bundle is admitted. -/
structure Holding (s : ResidentController) : Prop where
  sound : Sound s
  unbound : s.lastBinding = none →
    s.status.state = .waitingForRegistry ∧ s.driverReady = false ∧ ¬ Pending s
  unbundled : s.bundleGeneration = none → ¬ Pending s
  pending : Pending s →
    s.status.state ≠ .matched ∧ s.status.state ≠ .waitingForDeviceBundle
  backoff : isBackoff s.status.state = true → s.driverFailures < maxAttempts

theorem Advances.unbound (hadvances : Advances s op o s') (ih : Holding s)
    (hnone : s'.lastBinding = none) :
    s'.status.state = .waitingForRegistry ∧ s'.driverReady = false ∧ ¬ Pending s' := by
  cases hadvances with
  | installed | rebound => cases hnone
  | uncleaned hstate | admitted hstate | transferred hstate | committed hstate | terminal hstate
  | gaveUp hstate | backedOff hstate | ready _ hstate =>
      cases (ih.unbound hnone).1.symm.trans hstate
  | failed hstate =>
      have hwaiting := (ih.unbound hnone).1
      rcases hstate with hstate | hstate | hstate <;> cases hwaiting.symm.trans hstate
  | retiring hready => cases (ih.unbound hnone).2.1.symm.trans hready
  | retried _ _ hbackoff =>
      rw [(ih.unbound hnone).1] at hbackoff
      cases hbackoff
  | closed => exact ⟨rfl, (ih.unbound hnone).2⟩
  | reaped => exact ⟨(ih.unbound hnone).1, rfl, (ih.unbound hnone).2.2⟩
  | _ => exact ih.unbound hnone

theorem Advances.unpending (hadvances : Advances s op o s') (ih : Holding s)
    (hnone : s'.bundleGeneration = none) : ¬ Pending s' := by
  have hearly : ∀ state, s.bundleGeneration = none → s.status.state = state →
      state = .waitingForRegistry ∨ state = .waitingForDeviceBundle :=
    fun state hbundle hstate => hstate ▸ (ih.sound.unbundled hbundle).1
  cases hadvances with
  | admitted => cases hnone
  | uncleaned hstate | gaveUp hstate | backedOff hstate =>
      rcases hearly _ hnone hstate with hother | hother <;> cases hother
  | retried _ _ hbackoff =>
      rcases (ih.sound.unbundled hnone).1 with hstate | hstate <;> rw [hstate] at hbackoff <;>
        cases hbackoff
  | _ => exact ih.unbundled hnone

theorem Advances.pending (hadvances : Advances s op o s') (ih : Holding s)
    (hkeeps : ¬ Forgets s op) (hpending : Pending s') :
    s'.status.state ≠ .matched ∧ s'.status.state ≠ .waitingForDeviceBundle := by
  cases hadvances with
  | uncleaned hstate => exact ⟨by simp [hstate], by simp [hstate]⟩
  | admitted hstate => exact absurd hstate (ih.pending hpending).2
  | transferred | ready | committed | failed | retiring | gaveUp | backedOff | closed =>
      exact ⟨nofun, nofun⟩
  | retried _ _ hbackoff =>
      have hfew := ih.backoff hbackoff
      rcases hpending with hmany | hdeadline
      · exact absurd hmany (Nat.not_le.mpr hfew)
      · exact absurd rfl hdeadline
  | installed _ _ hlast => exact absurd hpending (ih.unbound hlast).2.2
  | rebound hrebinds =>
      simp only [bound, withState]
      rcases reboundState_cases s with ⟨hstate, -⟩ | ⟨hstate, -⟩ | ⟨-, hstate, hready, hbundle⟩ |
        ⟨-, hbundle⟩
      · simp [hstate]
      · simp [hstate]
      · exact absurd (.rebind hrebinds hstate hready hbundle hpending) hkeeps
      · exact absurd hpending (ih.unbundled hbundle)
  | _ => exact ih.pending hpending

theorem Advances.backoff (hadvances : Advances s op o s') (ih : Holding s)
    (hbackoff : isBackoff s'.status.state = true) : s'.driverFailures < maxAttempts := by
  cases hadvances with
  | uncleaned _ hbudget | backedOff _ hbudget => exact hbudget
  | admitted | transferred | ready | committed | failed | retiring | gaveUp | retried | installed
  | closed => cases hbackoff
  | rebound =>
      simp only [bound, withState] at hbackoff
      rcases reboundState_cases s with ⟨hstate, -⟩ | ⟨hstate, -⟩ | ⟨hstate, -⟩ | ⟨hstate, -⟩ <;>
        rw [hstate] at hbackoff <;> cases hbackoff
  | _ => exact ih.backoff hbackoff

theorem Advances.holding (hadvances : Advances s op o s') (ih : Holding s)
    (hkeeps : ¬ Forgets s op) : Holding s' :=
  ⟨hadvances.sound ih.sound, hadvances.unbound ih, hadvances.unpending ih,
    hadvances.pending ih hkeeps, hadvances.backoff ih⟩

theorem Advances.failures_le (hadvances : Advances s op o s') :
    s.driverFailures ≤ s'.driverFailures := by
  cases hadvances with
  | uncleaned | gaveUp | backedOff => exact Nat.le_succ _
  | _ => exact Nat.le_refl _

theorem Advances.matched {childIsChannel : Bool} {childRights : DirectControlRights}
    {reply : ResidentReply} (hadvances : Advances s
      (.issueDriverLaunchWithBundle childIsChannel childRights) (.ok reply) s') :
    s.status.state = .matched := by
  cases hadvances with
  | issued hissuable =>
      rcases hissuable.1 with hop | ⟨-, -, hstate⟩
      · cases hop
      · exact hstate
  | ready hop =>
      obtain ⟨message, hop | ⟨transactionId, hop⟩⟩ := hop <;> cases hop
  | installed hdelivers => cases hdelivers
  | rebound hrebinds =>
      obtain ⟨hdelivers⟩ := hrebinds
      cases hdelivers

/-- A deadline not before the backoff from `nowNs` stands, or no driver is left to wait for. -/
def Deferred (s : ResidentController) (nowNs : Nat) : Prop :=
  maxAttempts ≤ s.driverFailures ∨
    ∃ untilNs, s.retryUntilNs = some untilNs ∧ nowNs + retryBackoffNs ≤ untilNs

theorem Deferred.pending (h : Deferred s nowNs) : Pending s := by
  rcases h with hmany | ⟨untilNs, huntil, -⟩
  · exact .inl hmany
  · exact .inr (huntil ▸ Option.some_ne_none _)

theorem Advances.backsOff {nowNs : Nat} {w : List Empty} (hadvances : Advances s op o s')
    (hbacks : BacksOff ⟨s, op, o, s', w⟩ nowNs) : Deferred s' nowNs := by
  obtain ⟨hop, hok, hbackoff⟩ := hbacks
  subst hop hok
  cases hadvances with
  | gaveUp => cases hbackoff
  | backedOff => exact .inr ⟨_, rfl, Nat.le_refl _⟩
  | ready hop => obtain ⟨message, hop | ⟨transactionId, hop⟩⟩ := hop <;> cases hop

theorem Advances.deferred {w : List Empty} (hadvances : Advances s op o s')
    (hkeeps : ¬ Forgets s op) (h : Deferred s nowNs) :
    (∃ laterNs, RetriesAt ⟨s, op, o, s', w⟩ laterNs ∧ nowNs + retryBackoffNs ≤ laterNs) ∨
      Deferred s' nowNs := by
  rcases h with hmany | ⟨untilNs, huntil, hlate⟩
  · exact .inr (.inl (hmany.trans hadvances.failures_le))
  cases hadvances with
  | gaveUp _ hbudget => exact .inr (.inl hbudget)
  | @backedOff laterNs =>
      refine .inr (.inr ⟨_, rfl, ?_⟩)
      by_contra hearly
      exact hkeeps (.hurried huntil (by omega))
  | @retried laterNs _ huntil' hready =>
      obtain rfl := Option.some.inj (huntil.symm.trans huntil')
      exact .inl ⟨laterNs, ⟨rfl, rfl⟩, hlate.trans hready⟩
  | _ => exact .inr (.inr ⟨untilNs, huntil, hlate⟩)

/-! ## A history -/

/-- A retry is let through among the calls, a backoff or more after `nowNs`. -/
def Retried (calls : List ResidentCall) (nowNs : Nat) : Prop :=
  ∃ retry ∈ calls, ∃ laterNs, RetriesAt retry laterNs ∧ nowNs + retryBackoffNs ≤ laterNs

theorem Retried.snoc {calls : List ResidentCall} (h : Retried calls nowNs) (c : ResidentCall) :
    Retried (calls ++ [c]) nowNs := by
  obtain ⟨retry, hretry, hretries⟩ := h
  exact ⟨retry, List.mem_append_left _ hretry, hretries⟩

structure Budgeted (h : List ResidentCall) (s : ResidentController) : Prop where
  counted : ∀ c ∈ h, CountsFourth c → maxAttempts ≤ s.driverFailures
  deferred : ∀ before c mid nowNs, h = before ++ c :: mid → BacksOff c nowNs →
    Retried mid nowNs ∨ Deferred s nowNs
  spent : ∀ before c after, h = before ++ c :: after → CountsFourth c →
    ∀ launch ∈ after, ¬ LaunchesWithBundle launch
  spaced : ∀ before c mid launch after nowNs, h = before ++ c :: (mid ++ launch :: after) →
    BacksOff c nowNs → LaunchesWithBundle launch → Retried mid nowNs

/-- One more call: a launch among the earlier ones was looked at before, and the
last call launches only when nothing is pending. -/
theorem Budgeted.snoc (ih : Budgeted h s) (hholding : Holding s) (hadvances : Advances s op o s')
    (hkeeps : ¬ Forgets s op) (w : List Empty) : Budgeted (h ++ [⟨s, op, o, s', w⟩]) s' := by
  have hidle : LaunchesWithBundle ⟨s, op, o, s', w⟩ → ¬ Pending s := by
    rintro ⟨⟨childIsChannel, childRights, hop⟩, reply, hok⟩ hpending
    subst hop hok
    exact (hholding.pending hpending).1 hadvances.matched
  refine ⟨?_, ?_, ?_, ?_⟩
  · intro c hc hfourth
    rcases List.mem_append.mp hc with hc | hc
    · exact (ih.counted c hc hfourth).trans hadvances.failures_le
    · obtain rfl := List.mem_singleton.mp hc
      exact hfourth.2.2
  · intro before c mid nowNs hsplit hbacks
    rcases snoc_eq_append_cons hsplit with ⟨-, rfl, -⟩ | ⟨mid, rfl, hfront⟩
    · exact .inr (hadvances.backsOff hbacks)
    · rcases ih.deferred before c mid nowNs hfront hbacks with hretried | hdeferred
      · exact .inl (hretried.snoc _)
      · rcases hadvances.deferred (w := w) hkeeps hdeferred with hretries | hdeferred
        · exact .inl ⟨_, List.mem_append_right _ (List.mem_singleton_self _), hretries⟩
        · exact .inr hdeferred
  · intro before c after hsplit hfourth launch hlaunch hlaunches
    rcases snoc_eq_append_cons hsplit with ⟨-, -, rfl⟩ | ⟨after, rfl, rfl⟩
    · cases hlaunch
    · rcases List.mem_append.mp hlaunch with hlaunch | hlaunch
      · exact ih.spent before c after rfl hfourth launch hlaunch hlaunches
      · obtain rfl := List.mem_singleton.mp hlaunch
        exact hidle hlaunches (.inl (ih.counted c (by simp) hfourth))
  · intro before c mid launch after nowNs hsplit hbacks hlaunches
    rw [← List.cons_append, ← List.append_assoc] at hsplit
    rcases snoc_eq_append_cons hsplit with ⟨hmid, rfl, -⟩ | ⟨after, -, hfront⟩
    · rcases ih.deferred before c mid nowNs hmid hbacks with hretried | hdeferred
      · exact hretried
      · exact absurd hdeferred.pending (hidle hlaunches)
    · rw [List.append_assoc, List.cons_append] at hfront
      exact ih.spaced before c mid launch after nowNs hfront hbacks hlaunches

theorem Holding.fresh {status : OperationalStatus} {startup : Nat} {fresh : ResidentController}
    (hnew : ResidentController.new status startup = .ok fresh) : Holding fresh := by
  have hsound := Sound.fresh hnew
  obtain ⟨hfresh, -, hstate, -⟩ := new_eq_ok hnew
  have hfailures : fresh.driverFailures = 0 := by rw [hfresh]
  have huntil : fresh.retryUntilNs = none := by rw [hfresh]
  have hready : fresh.driverReady = false := by rw [hfresh]
  have hwaiting : fresh.status.state = .waitingForRegistry := by rw [hfresh, hstate]
  have hidle : ¬ Pending fresh := by
    rw [Pending, hfailures, huntil]
    decide
  exact ⟨hsound, fun _ => ⟨hwaiting, hready, hidle⟩, fun _ => hidle,
    fun hpending => absurd hpending hidle, fun _ => hfailures ▸ by decide⟩

theorem Budgeted.nil : Budgeted [] s := by
  refine ⟨fun c hc => absurd hc List.not_mem_nil, ?_, ?_, ?_⟩
  · intro before c mid nowNs hsplit
    exact absurd hsplit.symm (List.append_ne_nil_of_right_ne_nil _ (List.cons_ne_nil _ _))
  · intro before c after hsplit
    exact absurd hsplit.symm (List.append_ne_nil_of_right_ne_nil _ (List.cons_ne_nil _ _))
  · intro before c mid launch after nowNs hsplit
    exact absurd hsplit.symm (List.append_ne_nil_of_right_ne_nil _ (List.cons_ne_nil _ _))

/-- In a run without a forgetful call, no launch with a bundle follows the fourth
counted failure, and one that follows a backoff follows its retry. -/
theorem retry_budget (abi : DeviceResourceAbi) (status : OperationalStatus) (startup : Nat)
    (fresh s : ResidentController) (ops : List ResidentOp) (h : List ResidentCall)
    (hnew : ResidentController.new status startup = .ok fresh)
    (hrun : replay (serve abi) ops fresh = (h, s))
    (hkeeps : ∀ c ∈ h, ¬ Forgets c.before c.op) :
    (∀ before c after, h = before ++ c :: after → CountsFourth c →
      ∀ launch ∈ after, ¬ LaunchesWithBundle launch) ∧
    ∀ before c mid launch after nowNs, h = before ++ c :: (mid ++ launch :: after) →
      BacksOff c nowNs → LaunchesWithBundle launch →
        ∃ retry ∈ mid, ∃ laterNs, RetriesAt retry laterNs ∧ nowNs + retryBackoffNs ≤ laterNs := by
  have hstep : ∀ (h : List ResidentCall) (s : ResidentController) (op : ResidentOp),
      ((∀ c ∈ h, ¬ Forgets c.before c.op) → Holding s ∧ Budgeted h s) →
        (∀ c ∈ h ++ [callOf (serve abi) op s], ¬ Forgets c.before c.op) →
          Holding (serve abi op s).2.1 ∧
            Budgeted (h ++ [callOf (serve abi) op s]) (serve abi op s).2.1 := by
    intro h s op ih hkeeps
    obtain ⟨hholding, hbudgeted⟩ := ih fun c hc => hkeeps c (List.mem_append_left _ hc)
    have hlast := hkeeps _ (List.mem_append_right _ (List.mem_singleton_self _))
    have hadvances := serve_advances abi hholding.sound.live op
    exact ⟨hadvances.holding hholding hlast, hbudgeted.snoc hholding hadvances hlast _⟩
  have hrun' := replay_keeps hstep ops (h := []) fun _ => ⟨.fresh hnew, .nil⟩
  rw [hrun] at hrun'
  obtain ⟨-, hbudgeted⟩ := hrun' hkeeps
  exact ⟨hbudgeted.spent, hbudgeted.spaced⟩

/-! ## Two runs -/

/-- The first calls of the `n`-th failure: the driver is cleaned up and the failure counted. -/
def cleaning (n : Nat) : List ResidentOp :=
  [.driverFailed ⟨(firstEndpoint 7).id + n, 1⟩, .publicationRetired, .reapDriver]

/-- A new binding, and the next launch. -/
def rebinding (n : Nat) : List ResidentOp :=
  [.accept (.rebindPublication 7 ⟨7, ⟨1, n + 2⟩⟩ (42 + n)) 1,
   .issueDriverLaunchWithBundle true .exactReduced]

/-- Three drivers fail, and each of the next ones is launched without a retry. -/
def forgetful : List ResidentOp :=
  residentLaunch 7 ++ (List.range 3).flatMap (fun n => cleaning n ++
    .completeDriverFailureCleanup 0 :: rebinding n ++ [.driverConstructed, .bundleTransferred]) ++
    cleaning 3

/-- A fourth failure is counted, and a rebind later a fifth driver is launched. -/
theorem forgotten_failures : ¬ ∀ (abi : DeviceResourceAbi) (status : OperationalStatus)
    (startup : Nat) (fresh s : ResidentController) (ops : List ResidentOp) (h : List ResidentCall),
    ResidentController.new status startup = .ok fresh → replay (serve abi) ops fresh = (h, s) →
      (∀ before c after, h = before ++ c :: after → CountsFourth c →
        ∀ launch ∈ after, ¬ LaunchesWithBundle launch) ∧
      ∀ before c mid launch after nowNs, h = before ++ c :: (mid ++ launch :: after) →
        BacksOff c nowNs → LaunchesWithBundle launch →
          ∃ retry ∈ mid, ∃ laterNs, RetriesAt retry laterNs ∧
            nowNs + retryBackoffNs ≤ laterNs := by
  intro hall
  have hsplit := replay_split (serve resourceAbi) (.completeDriverFailureCleanup 0) (rebinding 3)
    forgetful (freshResident 7)
  obtain ⟨hspent, -⟩ := hall resourceAbi (operational 7) 41 (freshResident 7) _
    (forgetful ++ .completeDriverFailureCleanup 0 :: rebinding 3) _ (by decide +kernel)
    Prod.mk.eta.symm
  refine hspent _ _ _ hsplit ⟨⟨0, rfl⟩, by decide +kernel, by decide +kernel⟩ _
    (List.mem_cons_of_mem _ (List.mem_singleton_self _)) ⟨⟨true, .exactReduced, rfl⟩, ?_⟩
  exact exists_of_isOk (by decide +kernel)

instance : DecidablePred Pending := fun s =>
  inferInstanceAs (Decidable (maxAttempts ≤ s.driverFailures ∨ s.retryUntilNs ≠ none))

theorem Forgets.pending (h : Forgets s op) : Pending s ∧ ∀ nowNs, op ≠ .driverRetryReady nowNs := by
  cases h with
  | rebind hrebinds _ _ _ hpending =>
      refine ⟨hpending, ?_⟩
      rintro nowNs rfl
      obtain ⟨hdelivers⟩ := hrebinds
      cases hdelivers
  | hurried huntil => exact ⟨.inr (huntil ▸ Option.some_ne_none _), nofun⟩

/-- A driver fails and the rebind is waited for before its cleanup is completed. -/
def recovering : List ResidentOp :=
  residentLaunch 7 ++ cleaning 0 ++ [.accept (.rebindPublication 7 ⟨7, ⟨1, 2⟩⟩ 42) 1]

theorem recovered_driver :
    ∃ retry ∈ (replay (serve resourceAbi) [.driverRetryReady retryBackoffNs]
        (serve resourceAbi (.completeDriverFailureCleanup 0)
          (replay (serve resourceAbi) recovering (freshResident 7)).2).2.1).1,
      ∃ laterNs, RetriesAt retry laterNs ∧ 0 + retryBackoffNs ≤ laterNs := by
  have hquiet : ∀ c ∈ (replay (serve resourceAbi) (recovering ++
      [.completeDriverFailureCleanup 0, .driverRetryReady retryBackoffNs,
        .issueDriverLaunchWithBundle true .exactReduced]) (freshResident 7)).1,
      Pending c.before → c.op = .driverRetryReady retryBackoffNs := by decide +kernel
  have hsplit := replay_split (serve resourceAbi) (.completeDriverFailureCleanup 0)
    [.driverRetryReady retryBackoffNs, .issueDriverLaunchWithBundle true .exactReduced]
    recovering (freshResident 7)
  have hlater := replay_split (serve resourceAbi) (.issueDriverLaunchWithBundle true .exactReduced)
    [] [.driverRetryReady retryBackoffNs] (serve resourceAbi (.completeDriverFailureCleanup 0)
      (replay (serve resourceAbi) recovering (freshResident 7)).2).2.1
  rw [List.singleton_append] at hlater
  rw [hlater] at hsplit
  refine (retry_budget resourceAbi (operational 7) 41 (freshResident 7) _
    (recovering ++ [.completeDriverFailureCleanup 0, .driverRetryReady retryBackoffNs,
      .issueDriverLaunchWithBundle true .exactReduced]) _ (by decide +kernel) Prod.mk.eta.symm
    (fun c hc hforgets => hforgets.pending.2 _ (hquiet c hc hforgets.pending.1))).2
    _ _ _ _ _ 0 hsplit ⟨rfl, by decide +kernel, by decide +kernel⟩
    ⟨⟨true, .exactReduced, rfl⟩, exists_of_isOk (by decide +kernel)⟩

end Wyrmroot.Devmgr
