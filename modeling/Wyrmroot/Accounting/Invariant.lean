import Wyrmroot.Accounting.Model

/-!
# The ledger invariant

`LedgerOk` relates one ledger to the tokens held outside it. The tokens
enter only through two totals per peer and generation: `reserved`, the
amounts of the unreleased reservation tokens, and `running`, how many
active transaction tokens have an id that passes a test. Counters, live
slots and tokens then agree because every operation moves them together.

Each operation changes one peer and the aggregate by the same amounts, so
`LedgerOk.step` does the bookkeeping once; what is left per operation is
the changed peer.
-/

namespace Wyrmroot.Accounting

open Function Prog ReadinessAccounting

/-- Unreleased amounts by peer and generation. -/
abbrev Reserved := Nat → Nat → Counters

/-- Active transactions by peer and generation, with a test on the id. -/
abbrev Running := Nat → Nat → (Nat → Bool) → Nat

/-- What `with_budgets` checks and the operations rely on. -/
structure BudgetsOk (b : AccountedResource → ResourceBudget) : Prop where
  live : (b .liveProcessGenerations).perPeer = 1
  replay_pos : 0 < (b .completedReplayEntries).perPeer
  replay_le : (b .completedReplayEntries).perPeer ≤ maxReplayEntriesPerPeer

/-- The counters of an active peer and what they count. -/
structure ActivePeer (replayCapacity : Nat) (p : PeerAccounting) (reserved : Counters)
    (running : (Nat → Bool) → Nat) : Prop where
  live : p.counters .liveProcessGenerations = 1
  reserved : ∀ r, r.managed = false → p.counters r = reserved r
  inFlight : p.counters .inFlightTransactions = countWhere fun i => p.liveTransactions i != 0
  running : ∀ test, running test =
    countWhere fun i => p.liveTransactions i != 0 && test (p.liveTransactions i)
  replay : p.counters .completedReplayEntries = p.replayLen
  replayLen_le : p.replayLen ≤ replayCapacity
  replayNext_lt : p.replayNext < replayCapacity

structure LedgerOk (l : ReadinessAccounting) (reserved : Reserved) (running : Running) :
    Prop where
  budgets : BudgetsOk l.budgets
  balanced : ∀ r, l.aggregate r = ∑ i, (l.peers i).counters r
  peer_le : ∀ i r, (l.peers i).counters r ≤ (l.budgets r).perPeer
  aggregate_le : ∀ r, l.aggregate r ≤ (l.budgets r).aggregate
  active : ∀ i, (l.peers i).active = true →
    ActivePeer (l.budgets .completedReplayEntries).perPeer (l.peers i)
      (reserved i (l.peers i).generation) (running i (l.peers i).generation)
  retired : ∀ i, (l.peers i).active = false →
    ∀ r, r ≠ .restartHistoryRecords → (l.peers i).counters r = 0
  unissued : ∀ (i : Fin maxAccountedPeers) g, (l.peers i).generation < g →
    (∀ r, reserved i g r = 0) ∧ ∀ test, running i g test = 0

variable {p : PeerAccounting}

section Step

variable {l : ReadinessAccounting} {reserved reserved' : Reserved} {running running' : Running}
  {i : Fin maxAccountedPeers}

theorem LedgerOk.counter_le_aggregate (hok : LedgerOk l reserved running)
    (i : Fin maxAccountedPeers) (r : AccountedResource) :
    (l.peers i).counters r ≤ l.aggregate r := by
  rw [hok.balanced r]
  exact Finset.single_le_sum (f := fun j => (l.peers j).counters r)
    (fun _ _ => Nat.zero_le _) (Finset.mem_univ i)

theorem LedgerOk.step (hok : LedgerOk l reserved running) {aggregate : Counters}
    (hbalance : ∀ r, aggregate r + (l.peers i).counters r = l.aggregate r + p.counters r)
    (hpeer : ∀ r, p.counters r ≤ (l.budgets r).perPeer)
    (haggregate : ∀ r, aggregate r ≤ (l.budgets r).aggregate)
    (hothers : ∀ j : Fin maxAccountedPeers, j ≠ i →
      reserved' j = reserved j ∧ running' j = running j)
    (hactive : p.active = true → ActivePeer (l.budgets .completedReplayEntries).perPeer p
      (reserved' i p.generation) (running' i p.generation))
    (hretired : p.active = false → ∀ r, r ≠ .restartHistoryRecords → p.counters r = 0)
    (hunissued : ∀ g, p.generation < g →
      (∀ r, reserved' i g r = 0) ∧ ∀ test, running' i g test = 0) :
    LedgerOk { l.setPeer i p with aggregate := aggregate } reserved' running' where
  budgets := hok.budgets
  balanced r := by
    have hsum := sum_update_read (fun q : PeerAccounting => q.counters r) l.peers i p
    have hold := hok.balanced r
    have hnew := hbalance r
    simp only [ReadinessAccounting.setPeer]
    omega
  peer_le j r := by
    by_cases hj : j = i
    · subst hj
      simpa [ReadinessAccounting.setPeer] using hpeer r
    · simpa [ReadinessAccounting.setPeer, hj] using hok.peer_le j r
  aggregate_le := haggregate
  active j := by
    by_cases hj : j = i
    · subst hj
      simpa [ReadinessAccounting.setPeer] using hactive
    · simpa [ReadinessAccounting.setPeer, hj, hothers j hj] using hok.active j
  retired j := by
    by_cases hj : j = i
    · subst hj
      simpa [ReadinessAccounting.setPeer] using hretired
    · simpa [ReadinessAccounting.setPeer, hj] using hok.retired j
  unissued j g := by
    by_cases hj : j = i
    · subst hj
      simpa [ReadinessAccounting.setPeer] using hunissued g
    · simpa [ReadinessAccounting.setPeer, hj, hothers j hj] using hok.unissued j g

end Step

variable {counters : Counters}

/-- The two sides of `LedgerOk.step` for a change to one resource. -/
theorem update_balance {aggregate : Counters} {r₀ : AccountedResource} {a c : Nat}
    (h : a + counters r₀ = aggregate r₀ + c) (r : AccountedResource) :
    update aggregate r₀ a r + counters r = aggregate r + update counters r₀ c r := by
  by_cases hr : r = r₀
  · subst hr
    simpa using h
  · simp [hr]

theorem update_le {limits : Counters} {r₀ : AccountedResource} {c : Nat}
    (h : ∀ r, counters r ≤ limits r) (hc : c ≤ limits r₀) (r : AccountedResource) :
    update counters r₀ c r ≤ limits r := by
  by_cases hr : r = r₀
  · subst hr
    simpa using hc
  · simpa [hr] using h r

/-! ## Specifications of the checks -/

/-- A check that neither panics nor reports an underflow. -/
def Safe {α : Type} (x : Check α) : Prop :=
  x ≠ .panic ∧ x ≠ .err .counterUnderflow

variable {β α : Type}

theorem safe_bind {x : Check α} {f : α → Check β} (hx : Safe x)
    (hf : ∀ a, Safe (f a)) : Safe (x >>= f) := by
  cases x with
  | ok a => exact hf a
  | err e => exact ⟨by simp, by simpa using hx.2⟩
  | panic => exact absurd rfl hx.1

variable {amount : Nat} {e : AccountingError}

theorem checkedAdmit_eq_ok {current limit next : Nat} :
    checkedAdmit current amount limit e = .ok next ↔
      current + amount ≤ Restart.u64Max ∧ current + amount ≤ limit
        ∧ next = current + amount := by
  unfold checkedAdmit
  split
  · simp; omega
  · split
    · simp; omega
    · simp; omega

theorem safe_checkedAdmit {current limit : Nat}
    (he : e ≠ .counterUnderflow) : Safe (checkedAdmit current amount limit e) := by
  unfold checkedAdmit
  split
  · simp [Safe]
  · split <;> simp [Safe, he]

theorem checkedRelease_of_le {current : Nat} (h : amount ≤ current) :
    checkedRelease current amount = .ok (current - amount) := by
  rw [checkedRelease, if_neg (Nat.not_lt.mpr h)]

theorem peerIndex_eq_ok {peer : Nat} {i : Fin maxAccountedPeers} :
    peerIndex peer = .ok i ↔ i.val = peer := by
  unfold peerIndex
  split
  · simp [Fin.ext_iff, eq_comm]
  · have := i.isLt
    simp
    omega

theorem safe_peerIndex (peer : Nat) : Safe (peerIndex peer) := by
  unfold peerIndex
  split <;> simp [Safe]

section Validate

variable {l : ReadinessAccounting}

theorem validateGeneration_eq_ok {peer generation : Nat} {i : Fin maxAccountedPeers} :
    l.validateGeneration peer generation = .ok i ↔
      i.val = peer ∧ (l.peers i).active = true ∧ (l.peers i).generation = generation
        ∧ generation ≠ 0 := by
  unfold ReadinessAccounting.validateGeneration
  by_cases hg : generation = 0
  · simp [hg]
  · rw [if_neg hg, Outcome.bind_eq_ok]
    constructor
    · rintro ⟨j, hj, h⟩
      split at h
      · cases h
      · rename_i hactive
        split at h
        · cases h
        · rename_i hgen
          cases h
          exact ⟨peerIndex_eq_ok.mp hj, by simpa using hactive, (not_not.mp hgen).symm, hg⟩
    · rintro ⟨hi, hactive, rfl, -⟩
      exact ⟨i, peerIndex_eq_ok.mpr hi, by simp [hactive]⟩

theorem safe_validateGeneration (peer generation : Nat) :
    Safe (l.validateGeneration peer generation) := by
  unfold ReadinessAccounting.validateGeneration
  split
  · simp [Safe]
  · refine safe_bind (safe_peerIndex peer) fun i => ?_
    split
    · simp [Safe]
    · split <;> simp [Safe]

theorem validateReservationToken_eq_ok {token : ReservationToken} :
    l.validateReservationToken token = .ok () ↔
      token.controllerId = l.controllerId ∧ token.state ≠ .released
        ∧ ∃ i, l.validateGeneration token.peer token.generation = .ok i := by
  unfold ReadinessAccounting.validateReservationToken
  split
  · simp_all
  · split
    · simp_all
    · simp_all [Outcome.bind_eq_ok]

theorem safe_validateReservationToken (token : ReservationToken) :
    Safe (l.validateReservationToken token) := by
  unfold ReadinessAccounting.validateReservationToken
  split
  · simp [Safe]
  · split
    · simp [Safe]
    · exact safe_bind (safe_validateGeneration ..) fun _ => by simp [Safe]

theorem validateTransactionToken_eq_ok {token : TransactionToken} {i : Fin maxAccountedPeers} :
    l.validateTransactionToken token = .ok i ↔
      token.controllerId = l.controllerId ∧ token.active = true
        ∧ l.validateGeneration token.peer token.generation = .ok i := by
  unfold ReadinessAccounting.validateTransactionToken
  split
  · simp_all
  · split
    · simp_all
    · simp_all

theorem safe_validateTransactionToken (token : TransactionToken) :
    Safe (l.validateTransactionToken token) := by
  unfold ReadinessAccounting.validateTransactionToken
  split
  · simp [Safe]
  · split
    · simp [Safe]
    · exact safe_validateGeneration ..

end Validate

theorem safe_updateEach {g : AccountedResource → β → Check β}
    {f : AccountedResource → β} (h : ∀ r, Safe (g r (f r))) :
    Safe (updateEach g AccountedResource.all f) := by
  by_cases hstop : ∃ f', updateEach g AccountedResource.all f = .ok f'
  · obtain ⟨f', hf'⟩ := hstop
    rw [hf']
    exact ⟨by simp, by simp⟩
  · obtain ⟨r, -, -, hpanic, herr⟩ :=
      updateEach_stops AccountedResource.nodup_all (not_exists.mp hstop)
    exact ⟨fun hp => (h r).1 (hpanic hp), fun he => (h r).2 (herr _ he)⟩

theorem updateEach_all {g : AccountedResource → β → Check β} {f f' : AccountedResource → β} :
    updateEach g AccountedResource.all f = .ok f' ↔ ∀ r, g r (f r) = .ok (f' r) := by
  rw [updateEach_eq_ok AccountedResource.nodup_all]
  simp

/-- The postcondition of every operation: success with `P`, or an ordinary
error with nothing changed. -/
def Keeps {σ α : Type} (s : σ) (P : α → σ → Prop) :
    Outcome AccountingError α → σ → List Empty → Prop
  | .ok a, s', _ => P a s'
  | .err e, s', _ => s' = s ∧ e ≠ .counterUnderflow
  | .panic, _, _ => False

theorem wp_checked {σ : Type} {s : σ} {P : β → σ → Prop} {x : Check α}
    {f : α → Prog σ Empty AccountingError β} (hx : Safe x)
    (hok : ∀ a, x = .ok a → wp (f a) (Keeps s P) s) : wp (lift x >>= f) (Keeps s P) s := by
  rw [wp_lift_bind]
  cases x with
  | ok a => exact hok a rfl
  | err e => exact ⟨rfl, fun he => hx.2 (congrArg _ he)⟩
  | panic => exact absurd rfl hx.1

theorem keeps_err {σ : Type} {s : σ} {P : α → σ → Prop}
    (he : e ≠ .counterUnderflow) : wp (throw e) (Keeps s P) s :=
  ⟨rfl, he⟩

/-! ## How the tokens move -/

/-- `reserved'` is `reserved` with one more reservation. -/
def Reserves (peer generation : Nat) (amounts : Counters) (reserved reserved' : Reserved) :
    Prop :=
  ∀ p g r, reserved' p g r = reserved p g r
    + if p = peer ∧ g = generation then amounts r else 0

/-- `running'` is `running` with one more transaction. -/
def Starts (peer generation transactionId : Nat) (running running' : Running) : Prop :=
  ∀ p g test, running' p g test = running p g test
    + if p = peer ∧ g = generation ∧ test transactionId = true then 1 else 0

section Operations

variable {l : ReadinessAccounting} {reserved : Reserved} {running : Running} {amounts : Counters}

theorem admitResource_eq_ok {b : AccountedResource → ResourceBudget}
    {r : AccountedResource} {current next : Nat × Nat}
    (h : admitResource b amounts r current = .ok next) :
    (r.managed = true → amounts r = 0)
      ∧ next = (current.1 + amounts r, current.2 + amounts r)
      ∧ (amounts r ≠ 0 → next.1 ≤ (b r).perPeer ∧ next.2 ≤ (b r).aggregate) := by
  unfold admitResource at h
  simp only at h
  split at h
  · rename_i hzero
    obtain rfl := Outcome.ok.inj h
    simp [hzero]
  · rename_i hpos
    split at h
    · cases h
    · rename_i hmanaged
      obtain ⟨a, ha, h⟩ := Outcome.bind_eq_ok.mp h
      obtain ⟨b', hb, h⟩ := Outcome.bind_eq_ok.mp h
      obtain ⟨-, hle, rfl⟩ := checkedAdmit_eq_ok.mp ha
      obtain ⟨-, hle', rfl⟩ := checkedAdmit_eq_ok.mp hb
      obtain rfl := Outcome.ok.inj h
      exact ⟨fun hm => absurd hm hmanaged, rfl, fun _ => ⟨hle, hle'⟩⟩

theorem safe_admitResource (b : AccountedResource → ResourceBudget) (amounts : Counters)
    (r : AccountedResource) (current : Nat × Nat) :
    Safe (admitResource b amounts r current) := by
  unfold admitResource
  simp only
  split
  · simp [Safe]
  · split
    · simp [Safe]
    · refine safe_bind (safe_checkedAdmit (by simp)) fun a => ?_
      exact safe_bind (safe_checkedAdmit (by simp)) fun _ => by simp [Safe]

variable {capacity : Nat} {res : Counters}

theorem ActivePeer.withCounters {res' : Counters} {run : (Nat → Bool) → Nat}
    (hp : ActivePeer capacity p res run)
    (hmanaged : ∀ r, r.managed = true → counters r = p.counters r)
    (hres : ∀ r, r.managed = false → counters r = res' r) :
    ActivePeer capacity { p with counters } res' run where
  live := (hmanaged _ rfl).trans hp.live
  reserved := hres
  inFlight := (hmanaged _ rfl).trans hp.inFlight
  running := hp.running
  replay := (hmanaged _ rfl).trans hp.replay
  replayLen_le := hp.replayLen_le
  replayNext_lt := hp.replayNext_lt

variable {g : Nat}

theorem Reserves.other {i j : Fin maxAccountedPeers}
    {reserved' : Reserved} (h : Reserves i g amounts reserved reserved') (hj : j ≠ i) :
    reserved' j = reserved j := by
  funext g' r
  simpa [Fin.val_inj, hj] using h j g' r

theorem Reserves.here {i : Fin maxAccountedPeers}
    {reserved' : Reserved} (h : Reserves i g amounts reserved reserved') (r : AccountedResource) :
    reserved' i g r = reserved i g r + amounts r := by
  simpa using h i g r

theorem Reserves.later {i : Fin maxAccountedPeers} {g' : Nat}
    {reserved' : Reserved} (h : Reserves i g amounts reserved reserved') (hg : g < g')
    (r : AccountedResource) : reserved' i g' r = reserved i g' r := by
  have hne : g' ≠ g := by omega
  simpa [hne] using h i g' r

theorem reserve_spec (hok : LedgerOk l reserved running) (peer g : Nat)
    (request : ReservationRequest) :
    wp (reserve peer g request) (Keeps l fun token l' =>
      token = ⟨l.controllerId, peer, g, request.amounts, .reserved⟩
        ∧ l'.controllerId = l.controllerId
        ∧ (∀ r, r.managed = true → request.amounts r = 0)
        ∧ ∀ reserved', Reserves peer g request.amounts reserved reserved' →
          LedgerOk l' reserved' running) l := by
  rw [reserve, wp_get_bind]
  split
  · exact keeps_err (by simp)
  · refine wp_checked (safe_validateGeneration ..) fun i hi => ?_
    refine wp_checked (safe_updateEach fun r => safe_admitResource ..) fun next hnext => ?_
    obtain ⟨rfl, hactive, rfl, -⟩ := validateGeneration_eq_ok.mp hi
    have hadmits := fun r => admitResource_eq_ok (updateEach_all.mp hnext r)
    have hvalue : ∀ r, next r = ((l.peers i).counters r + request.amounts r,
        l.aggregate r + request.amounts r) := fun r => (hadmits r).2.1
    refine ⟨rfl, rfl, fun r => (hadmits r).1, fun reserved' hres => ?_⟩
    have hpeer := hok.active i hactive
    refine hok.step (fun r => ?_) (fun r => ?_) (fun r => ?_)
      (fun j hj => ⟨hres.other hj, rfl⟩) (fun _ => ?_) (fun h => ?_)
      (fun g hg => ⟨fun r => ?_, (hok.unissued i g hg).2⟩)
    · simp only [hvalue r]
      omega
    · by_cases hzero : request.amounts r = 0
      · simpa [hvalue r, hzero] using hok.peer_le i r
      · exact ((hadmits r).2.2 hzero).1
    · by_cases hzero : request.amounts r = 0
      · simpa [hvalue r, hzero] using hok.aggregate_le r
      · exact ((hadmits r).2.2 hzero).2
    · refine hpeer.withCounters (fun r hr => ?_) fun r hr => ?_
      · simp [hvalue r, (hadmits r).1 hr]
      · simp only [hvalue r, hres.here r, hpeer.reserved r hr]
    · exact absurd hactive (by simpa using h)
    · rw [hres.later hg, (hok.unissued i g hg).1 r]

theorem publish_spec (token : ReservationToken) :
    wp publish (Keeps (l, token) fun _ s' =>
      token.state ≠ .released ∧ s' = (l, { token with state := .published })) (l, token) := by
  rw [publish, wp_get_bind]
  refine wp_checked (safe_validateReservationToken token) fun _ _ => ?_
  split
  · rename_i hstate
    exact ⟨by simp [hstate], rfl⟩
  · exact keeps_err (by simp)
  · exact keeps_err (by simp)

theorem release_spec (hok : LedgerOk l reserved running) {token : ReservationToken}
    (hmanaged : ∀ r, r.managed = true → token.amounts r = 0)
    (hheld : token.controllerId = l.controllerId → token.state ≠ .released →
      ∀ r, token.amounts r ≤ reserved token.peer token.generation r) :
    wp release (Keeps (l, token) fun _ s' =>
      token.controllerId = l.controllerId ∧ token.state ≠ .released
        ∧ s'.2 = { token with state := .released } ∧ s'.1.controllerId = l.controllerId
        ∧ ∀ reserved', Reserves token.peer token.generation token.amounts reserved' reserved →
          LedgerOk s'.1 reserved' running) (l, token) := by
  rw [release, wp_get_bind]
  refine wp_checked (safe_validateReservationToken token) fun _ htoken => ?_
  obtain ⟨horigin, hstate, -⟩ := validateReservationToken_eq_ok.mp htoken
  split
  · exact absurd ‹_› hstate
  · refine wp_checked (safe_validateGeneration ..) fun i hi => ?_
    obtain ⟨hip, hactive, hgen, -⟩ := validateGeneration_eq_ok.mp hi
    have hpeer := hok.active i hactive
    have hle : ∀ r, token.amounts r ≤ (l.peers i).counters r := by
      intro r
      cases hr : r.managed with
      | true => simp [hmanaged r hr]
      | false =>
          rw [hpeer.reserved r hr, hip, hgen]
          exact hheld horigin hstate r
    have hle' := fun r => Nat.le_trans (hle r) (hok.counter_le_aggregate i r)
    have hturn : ∀ r, releaseResource token.amounts r (l.both i r) =
        .ok ((l.peers i).counters r - token.amounts r, l.aggregate r - token.amounts r) := by
      intro r
      simp only [releaseResource, both, checkedRelease_of_le (hle r),
        checkedRelease_of_le (hle' r), Outcome.ok_bind]
    rw [updateEach_all.mpr hturn]
    refine ⟨horigin, hstate, rfl, rfl, fun reserved' hres => ?_⟩
    rw [← hip] at hres
    refine hok.step (fun r => ?_) (fun r => ?_) (fun r => ?_)
      (fun j hj => ⟨(hres.other hj).symm, rfl⟩) (fun _ => ?_) (fun h => ?_)
      (fun g hg => ⟨fun r => ?_, (hok.unissued i g hg).2⟩)
    · have := hle r
      have := hle' r
      simp only
      omega
    · exact Nat.le_trans (Nat.sub_le ..) (hok.peer_le i r)
    · exact Nat.le_trans (Nat.sub_le ..) (hok.aggregate_le r)
    · refine hpeer.withCounters (fun r hr => by simp [hmanaged r hr]) fun r hr => ?_
      have hhere := hres.here r
      simp only [hpeer.reserved r hr, hgen]
      omega
    · exact absurd hactive (by simpa using h)
    · rw [← hgen] at hres
      rw [← hres.later hg, (hok.unissued i g hg).1 r]

/-! ## Transactions -/

variable {tx : Nat}

theorem Starts.other {i j : Fin maxAccountedPeers} {running' : Running}
    (h : Starts i g tx running running') (hj : j ≠ i) : running' j = running j := by
  funext g' test
  simpa [Fin.val_inj, hj] using h j g' test

theorem Starts.here {i : Fin maxAccountedPeers} {running' : Running}
    (h : Starts i g tx running running') (test : Nat → Bool) :
    running' i g test = running i g test + (test tx).toNat := by
  have heq := h i g test
  cases htest : test tx <;> simpa [htest] using heq

theorem Starts.later {i : Fin maxAccountedPeers} {g' : Nat} {running' : Running}
    (h : Starts i g tx running running') (hg : g < g') (test : Nat → Bool) :
    running' i g' test = running i g' test := by
  have hne : g' ≠ g := by omega
  simpa [hne] using h i g' test

theorem ActivePeer.start {run run' : (Nat → Bool) → Nat} (hp : ActivePeer capacity p res run)
    {slot : Fin maxLiveTransactionsPerPeer} (hfree : p.liveTransactions slot = 0)
    (htx : tx ≠ 0) (hrun : ∀ test, run' test = run test + (test tx).toNat) :
    ActivePeer capacity
      { p with
        counters := update p.counters .inFlightTransactions
          (p.counters .inFlightTransactions + 1),
        liveTransactions := update p.liveTransactions slot tx } res run' where
  live := by simpa using hp.live
  reserved r hr := by
    have hne : r ≠ .inFlightTransactions := by rintro rfl; cases hr
    simpa [hne] using hp.reserved r hr
  inFlight := by
    have hcount := countWhere_update (fun t : Nat => t != 0) p.liveTransactions slot tx
    simp only [hfree, bne_self_eq_false, Bool.toNat_false, bne_iff_ne.mpr htx,
      Bool.toNat_true, ← hp.inFlight] at hcount
    simpa using hcount.symm
  running test := by
    have hcount := countWhere_update (fun t : Nat => t != 0 && test t) p.liveTransactions slot tx
    simp only [hfree, bne_self_eq_false, Bool.false_and, Bool.toNat_false,
      bne_iff_ne.mpr htx, Bool.true_and, ← hp.running test] at hcount
    rw [hrun]
    exact hcount.symm
  replay := by simpa using hp.replay
  replayLen_le := hp.replayLen_le
  replayNext_lt := hp.replayNext_lt

theorem ActivePeer.finish {run run' : (Nat → Bool) → Nat} (hp : ActivePeer capacity p res run)
    {slot : Fin maxLiveTransactionsPerPeer} (hslot : p.liveTransactions slot = tx)
    (htx : tx ≠ 0) (hrun : ∀ test, run test = run' test + (test tx).toNat)
    {replay : Fin maxReplayEntriesPerPeer → Nat} {len next : Nat}
    (hinFlight : counters .inFlightTransactions = p.counters .inFlightTransactions - 1)
    (hreplay : counters .completedReplayEntries = len)
    (hrest : ∀ r, r ≠ .inFlightTransactions → r ≠ .completedReplayEntries →
      counters r = p.counters r)
    (hlen : len ≤ capacity) (hnext : next < capacity) :
    ActivePeer capacity
      { p with
        counters, liveTransactions := update p.liveTransactions slot 0, replay,
        replayLen := len, replayNext := next } res run' where
  live := (hrest _ (by simp) (by simp)).trans hp.live
  reserved r hr := by
    rw [← hp.reserved r hr]
    exact hrest r (by rintro rfl; cases hr) (by rintro rfl; cases hr)
  inFlight := by
    have hcount := countWhere_update (fun t : Nat => t != 0) p.liveTransactions slot 0
    simp only [hslot, bne_self_eq_false, Bool.toNat_false, bne_iff_ne.mpr htx,
      Bool.toNat_true, ← hp.inFlight] at hcount
    simp only [hinFlight]
    omega
  running test := by
    have hcount := countWhere_update (fun t : Nat => t != 0 && test t) p.liveTransactions slot 0
    simp only [hslot, bne_self_eq_false, Bool.false_and, Bool.toNat_false,
      bne_iff_ne.mpr htx, Bool.true_and, ← hp.running test, hrun] at hcount
    simp only
    omega
  replay := hreplay
  replayLen_le := hlen
  replayNext_lt := hnext

theorem ActivePeer.livePosition {run : (Nat → Bool) → Nat} (hp : ActivePeer capacity p res run)
    (hrun : 0 < run (· == tx)) :
    ∃ slot, p.livePosition tx = some slot ∧ p.liveTransactions slot = tx
      ∧ 0 < p.counters .inFlightTransactions := by
  rw [hp.running] at hrun
  obtain ⟨i, hi⟩ := exists_of_countWhere_pos hrun
  simp only [Bool.and_eq_true] at hi
  obtain ⟨slot, hslot⟩ := position_isSome (p := fun i => p.liveTransactions i == tx) hi.2
  have htx : p.liveTransactions slot = tx := by simpa using position_some hslot
  refine ⟨slot, hslot, htx, ?_⟩
  rw [hp.inFlight]
  refine Nat.lt_of_lt_of_le hrun (Finset.sum_le_sum fun j _ => ?_)
  exact Bool.toNat_le_toNat fun h => (Bool.and_eq_true _ _ ▸ h).1

theorem beginTransaction_spec (hok : LedgerOk l reserved running) (peer g tx : Nat) :
    wp (beginTransaction peer g tx) (Keeps l fun token l' =>
      token = ⟨l.controllerId, peer, g, tx, true⟩ ∧ tx ≠ 0
        ∧ l'.controllerId = l.controllerId
        ∧ ∀ running', Starts peer g tx running running' → LedgerOk l' reserved running') l := by
  rw [beginTransaction, wp_get_bind]
  split
  · exact keeps_err (by simp)
  rename_i htx
  refine wp_checked (safe_validateGeneration ..) fun i hi => ?_
  obtain ⟨rfl, hactive, rfl, -⟩ := validateGeneration_eq_ok.mp hi
  simp only
  split
  · exact keeps_err (by simp)
  split
  · exact keeps_err (by simp)
  split
  · exact keeps_err (by simp)
  rename_i slot hslot
  have hfree : (l.peers i).liveTransactions slot = 0 := by simpa using position_some hslot
  refine wp_checked (safe_checkedAdmit (by simp)) fun nextPeer hnextPeer => ?_
  refine wp_checked (safe_checkedAdmit (by simp)) fun nextAggregate hnextAggregate => ?_
  obtain ⟨-, hpeer, rfl⟩ := checkedAdmit_eq_ok.mp hnextPeer
  obtain ⟨-, haggregate, rfl⟩ := checkedAdmit_eq_ok.mp hnextAggregate
  refine ⟨rfl, htx, rfl, fun running' hrun => ?_⟩
  refine hok.step (update_balance (by omega)) (update_le (hok.peer_le i) hpeer)
    (update_le hok.aggregate_le haggregate) (fun j hj => ⟨rfl, hrun.other hj⟩) (fun _ => ?_)
    (fun h => absurd hactive (by simpa using h))
    (fun g hg => ⟨(hok.unissued i g hg).1, fun test => ?_⟩)
  · exact (hok.active i hactive).start hfree htx hrun.here
  · rw [hrun.later hg, (hok.unissued i g hg).2]

/-- What an active token of the ledger's own stands for: a live slot, and
counters that can be decremented. -/
theorem LedgerOk.running_slot (hok : LedgerOk l reserved running) {token : TransactionToken}
    {i : Fin maxAccountedPeers} (hi : l.validateTransactionToken token = .ok i)
    (hheld : token.controllerId = l.controllerId → token.active = true →
      0 < running token.peer token.generation (· == token.transactionId)) :
    ∃ slot, (l.peers i).livePosition token.transactionId = some slot
      ∧ (l.peers i).liveTransactions slot = token.transactionId
      ∧ 0 < (l.peers i).counters .inFlightTransactions
      ∧ 0 < l.aggregate .inFlightTransactions := by
  obtain ⟨horigin, hlive, hi⟩ := validateTransactionToken_eq_ok.mp hi
  obtain ⟨hip, hactive, hgen, -⟩ := validateGeneration_eq_ok.mp hi
  have hrun := hheld horigin hlive
  rw [← hip, ← hgen] at hrun
  obtain ⟨slot, hslot, htx, hpos⟩ := (hok.active i hactive).livePosition hrun
  exact ⟨slot, hslot, htx, hpos, Nat.lt_of_lt_of_le hpos (hok.counter_le_aggregate i _)⟩

/-- The postcondition of both ways to end a transaction. -/
abbrev Ends (l : ReadinessAccounting) (reserved : Reserved) (running : Running)
    (token : TransactionToken) (s' : ReadinessAccounting × TransactionToken) : Prop :=
  token.controllerId = l.controllerId ∧ token.active = true
    ∧ s'.2 = { token with active := false } ∧ s'.1.controllerId = l.controllerId
    ∧ ∀ running', Starts token.peer token.generation token.transactionId running' running →
      LedgerOk s'.1 reserved running'

theorem abortTransaction_spec (hok : LedgerOk l reserved running) {token : TransactionToken}
    (htx : token.transactionId ≠ 0)
    (hheld : token.controllerId = l.controllerId → token.active = true →
      0 < running token.peer token.generation (· == token.transactionId)) :
    wp abortTransaction (Keeps (l, token) fun _ => Ends l reserved running token)
      (l, token) := by
  rw [abortTransaction, wp_get_bind]
  refine wp_checked (safe_validateTransactionToken token) fun i hi => ?_
  obtain ⟨slot, hslot, hlive, hpos, hposAgg⟩ := hok.running_slot hi hheld
  obtain ⟨horigin, htoken, hv⟩ := validateTransactionToken_eq_ok.mp hi
  obtain ⟨hip, hactive, hgen, -⟩ := validateGeneration_eq_ok.mp hv
  have hpeer := hok.active i hactive
  simp only [hslot, checkedRelease_of_le hpos, checkedRelease_of_le hposAgg]
  refine ⟨horigin, htoken, rfl, rfl, fun running' hrun => ?_⟩
  rw [← hip, ← hgen] at hrun
  refine hok.step (update_balance (by omega))
    (update_le (hok.peer_le i) (Nat.le_trans (Nat.sub_le ..) (hok.peer_le i _)))
    (update_le hok.aggregate_le (Nat.le_trans (Nat.sub_le ..) (hok.aggregate_le _)))
    (fun j hj => ⟨rfl, (hrun.other hj).symm⟩) (fun _ => ?_)
    (fun h => absurd hactive (by simpa using h))
    (fun g hg => ⟨(hok.unissued i g hg).1, fun test => ?_⟩)
  · exact hpeer.finish hlive htx hrun.here (by simp) (by simpa using hpeer.replay)
      (fun r hr _ => by simp [hr]) hpeer.replayLen_le hpeer.replayNext_lt
  · rw [← hrun.later hg, (hok.unissued i g hg).2]

theorem completeTransaction_spec (hok : LedgerOk l reserved running)
    {token : TransactionToken} (htx : token.transactionId ≠ 0)
    (hheld : token.controllerId = l.controllerId → token.active = true →
      0 < running token.peer token.generation (· == token.transactionId)) :
    wp completeTransaction (Keeps (l, token) fun _ => Ends l reserved running token)
      (l, token) := by
  rw [completeTransaction, wp_get_bind]
  refine wp_checked (safe_validateTransactionToken token) fun i hi => ?_
  obtain ⟨slot, hslot, hlive, hpos, hposAgg⟩ := hok.running_slot hi hheld
  obtain ⟨horigin, htoken, hv⟩ := validateTransactionToken_eq_ok.mp hi
  obtain ⟨hip, hactive, hgen, -⟩ := validateGeneration_eq_ok.mp hv
  have hpeer := hok.active i hactive
  have hcap := hok.budgets.replay_pos
  have hnext : (l.peers i).replayNext < maxReplayEntriesPerPeer ∧
      (l.budgets .completedReplayEntries).perPeer ≠ 0 :=
    ⟨Nat.lt_of_lt_of_le hpeer.replayNext_lt hok.budgets.replay_le, by omega⟩
  have hle := hpeer.replayLen_le
  simp only [hslot, checkedRelease_of_le hpos, checkedRelease_of_le hposAgg, dif_pos hnext]
  -- the replay counters grow together while there is room, and stay once the ring is full
  refine wp_checked ?_ fun nextPeer hnextPeer => wp_checked ?_ fun nextAggregate hnextAgg => ?_
  · split
    · exact safe_checkedAdmit (by simp)
    · simp [Safe]
  · split
    · exact safe_checkedAdmit (by simp)
    · simp [Safe]
  have hreplay : nextPeer = (if (l.peers i).replayLen
        < (l.budgets .completedReplayEntries).perPeer
      then (l.peers i).replayLen + 1 else (l.peers i).replayLen)
      ∧ nextAggregate + (l.peers i).counters .completedReplayEntries
        = l.aggregate .completedReplayEntries + nextPeer
      ∧ nextPeer ≤ (l.budgets .completedReplayEntries).perPeer
      ∧ nextAggregate ≤ (l.budgets .completedReplayEntries).aggregate := by
    by_cases hgrow : (l.peers i).replayLen < (l.budgets .completedReplayEntries).perPeer
    · simp only [hgrow, decide_true, if_true] at hnextPeer hnextAgg ⊢
      obtain ⟨-, hp, rfl⟩ := checkedAdmit_eq_ok.mp hnextPeer
      obtain ⟨-, ha, rfl⟩ := checkedAdmit_eq_ok.mp hnextAgg
      exact ⟨by rw [hpeer.replay], by omega, hp, ha⟩
    · simp only [hgrow, decide_false, Bool.false_eq_true, if_false, Outcome.ok.injEq]
        at hnextPeer hnextAgg ⊢
      subst hnextPeer hnextAgg
      exact ⟨hpeer.replay, by omega, hok.peer_le i _, hok.aggregate_le _⟩
  obtain ⟨hlen, hbalance, hpeerLe, haggLe⟩ := hreplay
  refine ⟨horigin, htoken, rfl, rfl, fun running' hrun => ?_⟩
  rw [← hip, ← hgen] at hrun
  refine hok.step (fun r => ?_)
    (update_le (update_le (hok.peer_le i) (Nat.le_trans (Nat.sub_le ..) (hok.peer_le i _)))
      hpeerLe)
    (update_le (update_le hok.aggregate_le
      (Nat.le_trans (Nat.sub_le ..) (hok.aggregate_le _))) haggLe)
    (fun j hj => ⟨rfl, (hrun.other hj).symm⟩) (fun _ => ?_)
    (fun h => absurd hactive (by simpa using h))
    (fun g hg => ⟨(hok.unissued i g hg).1, fun test => ?_⟩)
  · by_cases hr : r = .completedReplayEntries
    · subst hr
      simpa using hbalance
    · simp only [update_of_ne hr]
      exact update_balance (by omega) r
  · refine hpeer.finish hlive htx hrun.here (by simp) (by simp [hlen])
      (fun r hr hr' => by simp [hr, hr']) ?_ (Nat.mod_lt _ hcap)
    simp only [decide_eq_true_iff]
    split <;> omega
  · rw [← hrun.later hg, (hok.unissued i g hg).2]

/-! ## Generations and restart history -/

theorem retired_counters (h : ∀ r, r ≠ .restartHistoryRecords → counters r = 0) :
    update (fun _ => 0) .restartHistoryRecords (counters .restartHistoryRecords)
      = counters := by
  funext r
  by_cases hr : r = .restartHistoryRecords
  · simp [hr]
  · simp [hr, h r hr]

theorem beginGeneration_spec (hok : LedgerOk l reserved running) (peer g : Nat) :
    wp (beginGeneration peer g) (Keeps l fun _ l' =>
      l'.controllerId = l.controllerId ∧ LedgerOk l' reserved running) l := by
  rw [beginGeneration, wp_get_bind]
  split
  · exact keeps_err (by simp)
  refine wp_checked (safe_peerIndex peer) fun i hi => ?_
  simp only
  split
  · exact keeps_err (by simp)
  rename_i hinactive
  split
  · exact keeps_err (by simp)
  rename_i hg
  refine wp_checked (safe_checkedAdmit (by simp)) fun aggregate hagg => ?_
  obtain ⟨-, haggLe, rfl⟩ := checkedAdmit_eq_ok.mp hagg
  have hretired := hok.retired i (by simpa using hinactive)
  have hlive := hretired .liveProcessGenerations (by simp)
  have hsame := retired_counters hretired
  have hnew := hok.unissued i g (Nat.lt_of_not_le hg)
  rw [hsame]
  refine ⟨rfl, hok.step (update_balance (by omega)) (update_le (hok.peer_le i) ?_)
    (update_le hok.aggregate_le haggLe) (fun j _ => ⟨rfl, rfl⟩) (fun _ => ?_)
    (fun h => by simp at h)
    (fun g' hg' => hok.unissued i g' (Nat.lt_trans (Nat.lt_of_not_le hg) hg'))⟩
  · rw [hok.budgets.live]
  · constructor
    · simp
    · intro r hr
      have hne : r ≠ .liveProcessGenerations := by rintro rfl; cases hr
      have hne' : r ≠ .restartHistoryRecords := by rintro rfl; cases hr
      simp [hne, hretired r hne', hnew.1 r]
    · simp [countWhere, hretired .inFlightTransactions]
    · intro test
      simp [countWhere, hnew.2 test]
    · simp [hretired .completedReplayEntries]
    · exact Nat.zero_le _
    · exact hok.budgets.replay_pos

theorem recordRestartHistory_spec (hok : LedgerOk l reserved running) (peer g : Nat)
    (record : Restart.AttemptRecord) :
    wp (recordRestartHistory peer g record) (Keeps l fun _ l' =>
      l'.controllerId = l.controllerId ∧ LedgerOk l' reserved running) l := by
  rw [recordRestartHistory, wp_get_bind]
  refine wp_checked (safe_validateGeneration ..) fun i hi => ?_
  obtain ⟨rfl, hactive, rfl, -⟩ := validateGeneration_eq_ok.mp hi
  simp only
  split
  · exact keeps_err (by simp)
  split
  · exact keeps_err (by simp)
  refine wp_checked (safe_checkedAdmit (by simp)) fun nextPeer hnextPeer => ?_
  refine wp_checked (safe_checkedAdmit (by simp)) fun nextAggregate hnextAggregate => ?_
  obtain ⟨-, hpeerLe, rfl⟩ := checkedAdmit_eq_ok.mp hnextPeer
  obtain ⟨-, haggLe, rfl⟩ := checkedAdmit_eq_ok.mp hnextAggregate
  have hpeer := hok.active i hactive
  refine ⟨rfl, hok.step (update_balance (by omega)) (update_le (hok.peer_le i) hpeerLe)
    (update_le hok.aggregate_le haggLe) (fun j _ => ⟨rfl, rfl⟩) (fun _ => ?_)
    (fun h => absurd hactive (by simpa using h)) (hok.unissued i)⟩
  constructor
  · simpa using hpeer.live
  · intro r hr
    have hne : r ≠ .restartHistoryRecords := by rintro rfl; cases hr
    simpa [hne] using hpeer.reserved r hr
  · simpa using hpeer.inFlight
  · exact hpeer.running
  · simpa using hpeer.replay
  · exact hpeer.replayLen_le
  · exact hpeer.replayNext_lt

theorem retireGeneration_spec (hok : LedgerOk l reserved running) (peer g : Nat) :
    wp (retireGeneration peer g) (Keeps l fun _ l' =>
      l'.controllerId = l.controllerId ∧ LedgerOk l' reserved running) l := by
  rw [retireGeneration, wp_get_bind]
  refine wp_checked (safe_validateGeneration ..) fun i hi => ?_
  obtain ⟨rfl, hactive, rfl, -⟩ := validateGeneration_eq_ok.mp hi
  simp only
  split
  · exact keeps_err (by simp)
  split
  · exact keeps_err (by simp)
  split
  · exact keeps_err (by simp)
  -- every resource but the history leaves the aggregate
  have hturn : ∀ r, retireResource
      (update (l.peers i).counters .restartHistoryRecords 0) r (l.aggregate r)
        = .ok (if r = .restartHistoryRecords then l.aggregate r
          else l.aggregate r - (l.peers i).counters r) := by
    intro r
    unfold retireResource
    by_cases hr : r = .restartHistoryRecords
    · simp [hr]
    · simp [hr, checkedRelease_of_le (hok.counter_le_aggregate i r)]
  rw [updateEach_all.mpr hturn]
  refine ⟨rfl, hok.step (fun r => ?_) (fun r => ?_) (fun r => ?_) (fun j _ => ⟨rfl, rfl⟩)
    (fun h => by simp at h) (fun _ r hr => by simp [hr]) (hok.unissued i)⟩
  · have hle := hok.counter_le_aggregate i r
    by_cases hr : r = .restartHistoryRecords
    · subst hr
      simp
    · simp only [hr, if_false, update_of_ne hr]
      omega
  · have hzero : ∀ r, (fun _ => 0 : Counters) r ≤ (l.budgets r).perPeer := fun _ => Nat.zero_le _
    exact update_le hzero (hok.peer_le i _) r
  · have hle := hok.aggregate_le r
    split <;> omega

theorem finishRestartEpisode_spec (hok : LedgerOk l reserved running) (peer : Nat) :
    wp (finishRestartEpisode peer) (Keeps l fun _ l' =>
      l'.controllerId = l.controllerId ∧ LedgerOk l' reserved running) l := by
  rw [finishRestartEpisode, wp_get_bind]
  refine wp_checked (safe_peerIndex peer) fun i hi => ?_
  simp only
  split
  · exact keeps_err (by simp)
  rename_i hinactive
  have hretired := hok.retired i (by simpa using hinactive)
  have hle := hok.counter_le_aggregate i .restartHistoryRecords
  simp only [checkedRelease_of_le hle]
  refine ⟨rfl, hok.step (update_balance (by omega))
    (update_le (hok.peer_le i) (Nat.zero_le _))
    (update_le hok.aggregate_le (Nat.le_trans (Nat.sub_le ..) (hok.aggregate_le _)))
    (fun j _ => ⟨rfl, rfl⟩) (fun h => absurd h hinactive)
    (fun _ r hr => by simpa [hr] using hretired r hr) (hok.unissued i)⟩

end Operations

end Wyrmroot.Accounting
