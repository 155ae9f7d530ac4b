import Wyrmroot.Accounting.Invariant

/-!
# The ledgers over whole runs

A run interleaves calls on any number of ledgers, peers and generations.
`SystemOk` says that every ledger agrees with the part of the token pools
it issued; a call touches one ledger and at most one token of that ledger,
so the others are framed by their controller ids.
-/

namespace Wyrmroot.Accounting

open Function Prog

/-- What a reservation token still holds of a resource, for one peer and
generation of one ledger. -/
def ReservationToken.holds (id peer generation : Nat) (r : AccountedResource)
    (t : ReservationToken) : Nat :=
  if t.controllerId = id ∧ t.state ≠ .released ∧ peer = t.peer ∧ generation = t.generation
  then t.amounts r else 0

def TransactionToken.runs (id peer generation : Nat) (test : Nat → Bool)
    (t : TransactionToken) : Nat :=
  if t.controllerId = id ∧ t.active = true ∧ peer = t.peer ∧ generation = t.generation
    ∧ test t.transactionId = true then 1 else 0

/-- The amounts of the outstanding tokens of ledger `id`. -/
def outstanding (tokens : List ReservationToken) (id : Nat) : Reserved :=
  fun peer generation r => (tokens.map (·.holds id peer generation r)).sum

/-- The active transaction tokens of ledger `id`. -/
def inFlight (tokens : List TransactionToken) (id : Nat) : Running :=
  fun peer generation test => (tokens.map (·.runs id peer generation test)).sum

structure SystemOk (c : Controllers) : Prop where
  ledger : ∀ l ∈ c.ledgers,
    LedgerOk l (outstanding c.reservations l.controllerId) (inFlight c.transactions l.controllerId)
  ids : (c.ledgers.map (·.controllerId)).Nodup
  ids_lt : ∀ l ∈ c.ledgers, l.controllerId < c.nextControllerId
  reservation : ∀ t ∈ c.reservations, t.controllerId < c.nextControllerId
    ∧ ∀ r, r.managed = true → t.amounts r = 0
  transaction : ∀ t ∈ c.transactions, t.controllerId < c.nextControllerId
    ∧ t.transactionId ≠ 0

/-! ## The pools -/

variable {t : ReservationToken} {j : Nat}

section Pools

variable {id p g : Nat} {r : AccountedResource} {test : Nat → Bool}

theorem ReservationToken.holds_other (hid : t.controllerId ≠ id) :
    t.holds id p g r = 0 :=
  if_neg fun h => hid h.1

theorem ReservationToken.holds_self (hstate : t.state ≠ .released) :
    t.holds t.controllerId p g r = if p = t.peer ∧ g = t.generation then t.amounts r else 0 := by
  simp [holds, hstate]

theorem ReservationToken.holds_released (t : ReservationToken) :
    holds id p g r { t with state := .released } = 0 :=
  if_neg fun h => h.2.1 rfl

theorem TransactionToken.runs_other {t : TransactionToken} (hid : t.controllerId ≠ id) :
    t.runs id p g test = 0 :=
  if_neg fun h => hid h.1

theorem TransactionToken.runs_self {t : TransactionToken} (hactive : t.active = true) :
    t.runs t.controllerId p g test
      = if p = t.peer ∧ g = t.generation ∧ test t.transactionId = true then 1 else 0 := by
  simp [runs, hactive]

theorem TransactionToken.runs_ended (t : TransactionToken) :
    runs id p g test { t with active := false } = 0 :=
  if_neg fun h => Bool.noConfusion h.2.1

theorem outstanding_append (tokens : List ReservationToken) (hstate : t.state ≠ .released) :
    Reserves t.peer t.generation t.amounts (outstanding tokens t.controllerId)
      (outstanding (tokens ++ [t]) t.controllerId) := by
  intro p g r
  simp only [outstanding, List.map_append, List.map_cons, List.map_nil, List.sum_append,
    List.sum_cons, List.sum_nil, t.holds_self hstate, Nat.add_zero]

theorem outstanding_append_other (tokens : List ReservationToken) (hid : t.controllerId ≠ id) :
    outstanding (tokens ++ [t]) id = outstanding tokens id := by
  funext p g r
  simp [outstanding, t.holds_other hid]

theorem inFlight_append (tokens : List TransactionToken) {t : TransactionToken}
    (hactive : t.active = true) :
    Starts t.peer t.generation t.transactionId (inFlight tokens t.controllerId)
      (inFlight (tokens ++ [t]) t.controllerId) := by
  intro p g test
  simp only [inFlight, List.map_append, List.map_cons, List.map_nil, List.sum_append,
    List.sum_cons, List.sum_nil, t.runs_self hactive, Nat.add_zero]

theorem inFlight_append_other (tokens : List TransactionToken) {t : TransactionToken}
    (hid : t.controllerId ≠ id) : inFlight (tokens ++ [t]) id = inFlight tokens id := by
  funext p g test
  simp [inFlight, t.runs_other hid]

theorem outstanding_release {tokens : List ReservationToken}
    (hj : tokens[j]? = some t) (hstate : t.state ≠ .released) :
    Reserves t.peer t.generation t.amounts
      (outstanding (tokens.set j { t with state := .released }) t.controllerId)
      (outstanding tokens t.controllerId) := by
  intro p g r
  have hsum := sum_map_set (·.holds t.controllerId p g r) hj { t with state := .released }
  rw [t.holds_self hstate, t.holds_released, Nat.add_zero] at hsum
  exact hsum.symm

variable {tokens : List TransactionToken}

theorem inFlight_end {t : TransactionToken} (hj : tokens[j]? = some t) (hactive : t.active = true) :
    Starts t.peer t.generation t.transactionId
      (inFlight (tokens.set j { t with active := false }) t.controllerId)
      (inFlight tokens t.controllerId) := by
  intro p g test
  have hsum := sum_map_set (·.runs t.controllerId p g test) hj { t with active := false }
  rw [t.runs_self hactive, t.runs_ended, Nat.add_zero] at hsum
  exact hsum.symm

theorem outstanding_set {tokens : List ReservationToken} {t' : ReservationToken}
    (hj : tokens[j]? = some t) (hsame : ∀ p g r, t'.holds id p g r = t.holds id p g r) :
    outstanding (tokens.set j t') id = outstanding tokens id := by
  funext p g r
  have hsum := sum_map_set (·.holds id p g r) hj t'
  rw [hsame p g r] at hsum
  exact Nat.add_right_cancel hsum

theorem inFlight_set {t t' : TransactionToken}
    (hj : tokens[j]? = some t) (hsame : ∀ p g test, t'.runs id p g test = t.runs id p g test) :
    inFlight (tokens.set j t') id = inFlight tokens id := by
  funext p g test
  have hsum := sum_map_set (·.runs id p g test) hj t'
  rw [hsame p g test] at hsum
  exact Nat.add_right_cancel hsum

end Pools

/-! ## One call -/

section Calls

variable {c : Controllers} {k : Nat} {l l' : ReadinessAccounting} {R : List ReservationToken}
  {T : List TransactionToken}

/-- Replacing ledger `k`, with pools that read the same to every other one. -/
theorem SystemOk.replace (hc : SystemOk c) (hk : c.ledgers[k]? = some l)
    (hid : l'.controllerId = l.controllerId)
    (hl' : LedgerOk l' (outstanding R l.controllerId) (inFlight T l.controllerId))
    (hR : ∀ id, id ≠ l.controllerId → outstanding R id = outstanding c.reservations id)
    (hT : ∀ id, id ≠ l.controllerId → inFlight T id = inFlight c.transactions id)
    (hreservation : ∀ t ∈ R, t.controllerId < c.nextControllerId
      ∧ ∀ r, r.managed = true → t.amounts r = 0)
    (htransaction : ∀ t ∈ T, t.controllerId < c.nextControllerId ∧ t.transactionId ≠ 0) :
    SystemOk { c with ledgers := c.ledgers.set k l', reservations := R, transactions := T } := by
  have hids : (c.ledgers.set k l').map (·.controllerId) = c.ledgers.map (·.controllerId) := by
    rw [List.map_set, hid]
    exact set_self (by simp [hk])
  refine ⟨fun m hm => ?_, by simpa only [hids] using hc.ids, fun m hm => ?_, hreservation,
    htransaction⟩
  · rcases mem_set_cases hm with rfl | ⟨j, hj, hm⟩
    · rw [hid]
      exact hl'
    · have hne := key_ne_of_nodup hc.ids hm hk hj
      rw [hR _ hne, hT _ hne]
      exact hc.ledger m (List.mem_of_getElem? hm)
  · rcases mem_set_cases hm with rfl | ⟨j, -, hm⟩
    · rw [hid]
      exact hc.ids_lt l (List.mem_of_getElem? hk)
    · exact hc.ids_lt m (List.mem_of_getElem? hm)

/-- The token at position `j` counts towards its own ledger. -/
theorem held_reservation
    (hj : R[j]? = some t) (hstate : t.state ≠ .released) (r : AccountedResource) :
    t.amounts r ≤ outstanding R t.controllerId t.peer t.generation r := by
  have hle := le_sum_map (·.holds t.controllerId t.peer t.generation r) hj
  rw [t.holds_self hstate] at hle
  simpa [outstanding] using hle

theorem held_transaction {t : TransactionToken} (hj : T[j]? = some t) (hactive : t.active = true) :
    0 < inFlight T t.controllerId t.peer t.generation (· == t.transactionId) := by
  have hle := le_sum_map (·.runs t.controllerId t.peer t.generation (· == t.transactionId)) hj
  rw [t.runs_self hactive] at hle
  show 1 ≤ inFlight T t.controllerId t.peer t.generation (· == t.transactionId)
  simpa [inFlight] using hle

/-- A call keeps the invariant, or fails with nothing changed. -/
abbrev Sound (c : Controllers) (m : System Unit) : Prop :=
  wp m (Keeps c fun _ c' => SystemOk c') c

variable {α : Type} {method : Ledger α}

/-- From a ledger method to a call on ledger `k`, with something done to the
result afterwards. -/
theorem wp_onLedger {f : Option α → System Unit}
    {P : ReadinessAccounting → α → ReadinessAccounting → Prop}
    (habsent : wp (f none) (Keeps c fun _ c' => SystemOk c') c)
    (hmethod : ∀ l, c.ledgers[k]? = some l → wp method (Keeps l (P l)) l)
    (hthen : ∀ l a l', c.ledgers[k]? = some l → P l a l' →
      wp (f (some a)) (Keeps c fun _ c' => SystemOk c')
        { c with ledgers := c.ledgers.set k l' }) :
    Sound c (Controllers.onLedger k method >>= f) := by
  rw [Sound, wp_bind]
  unfold wp Controllers.onLedger
  cases hk : c.ledgers[k]? with
  | none => simpa [wp] using habsent
  | some l =>
      have hm := hmethod l hk
      unfold wp at hm
      rcases hrun : method l with ⟨_ | _ | _, l', w⟩
      · rw [hrun] at hm
        simpa [Outcome.bind, wp, hrun] using hthen l _ l' hk hm
      · rw [hrun] at hm
        obtain ⟨rfl, he⟩ := hm
        simp [Outcome.bind, hrun, Keeps, he, set_self hk]
      · rw [hrun] at hm
        exact hm.elim

theorem wp_onToken {τ : Type} {pool : Controllers → List τ}
    {store : List τ → Controllers → Controllers} (hstore : store (pool c) c = c)
    {method : TokenLedger τ Unit}
    {P : ReadinessAccounting → τ → ReadinessAccounting × τ → Prop} (hc : SystemOk c)
    (hmethod : ∀ l t, c.ledgers[k]? = some l → (pool c)[j]? = some t →
      wp method (Keeps (l, t) fun _ => P l t) (l, t))
    (hthen : ∀ l t l' t', c.ledgers[k]? = some l → (pool c)[j]? = some t → P l t (l', t') →
      SystemOk (store ((pool c).set j t') { c with ledgers := c.ledgers.set k l' })) :
    Sound c (Controllers.onToken pool store k j method) := by
  unfold Sound wp Controllers.onToken
  split
  · rename_i l t hk hj
    have hm := hmethod l t hk hj
    unfold wp at hm
    rcases hrun : method (l, t) with ⟨_ | _ | _, s', w⟩
    · rw [hrun] at hm
      exact hthen l t s'.1 s'.2 hk hj hm
    · rw [hrun] at hm
      obtain ⟨rfl, he⟩ := hm
      simp [Keeps, he, set_self hk, set_self hj, hstore]
    · rw [hrun] at hm
      exact hm.elim
  · exact hc

theorem SystemOk.ledgerAt (hc : SystemOk c) (hk : c.ledgers[k]? = some l) :
    LedgerOk l (outstanding c.reservations l.controllerId)
      (inFlight c.transactions l.controllerId) :=
  hc.ledger l (List.mem_of_getElem? hk)

theorem onLedger_sound (hc : SystemOk c)
    (hmethod : ∀ {l reserved running}, LedgerOk l reserved running →
      wp method (Keeps l fun _ l' =>
        l'.controllerId = l.controllerId ∧ LedgerOk l' reserved running) l) :
    Sound c (do let _ ← Controllers.onLedger k method) := by
  refine wp_onLedger hc (fun l hk => hmethod (hc.ledgerAt hk)) fun l _ l' hk hl' => ?_
  exact hc.replace hk hl'.1 hl'.2 (fun _ _ => rfl) (fun _ _ => rfl) hc.reservation
    hc.transaction

theorem reserve_sound (hc : SystemOk c) (peer g : Nat) (request : ReservationRequest) :
    Sound c (exec (.reserve k peer g request)) := by
  refine wp_onLedger (by simpa [Controllers.keepReservation, Keeps] using hc)
    (fun l hk => reserve_spec (hc.ledgerAt hk) peer g request) fun l token l' hk hl' => ?_
  obtain ⟨rfl, hid, hmanaged, hl'⟩ := hl'
  have hlt := hc.ids_lt l (List.mem_of_getElem? hk)
  refine hc.replace hk hid (hl' _ (outstanding_append c.reservations (by simp)))
    (fun id hne => outstanding_append_other _ (Ne.symm hne)) (fun _ _ => rfl) ?_ hc.transaction
  intro t ht
  rcases List.mem_append.mp ht with ht | ht
  · exact hc.reservation t ht
  · obtain rfl := List.mem_singleton.mp ht
    exact ⟨hlt, hmanaged⟩

theorem beginTransaction_sound (hc : SystemOk c) (peer g tx : Nat) :
    Sound c (exec (.beginTransaction k peer g tx)) := by
  refine wp_onLedger (by simpa [Controllers.keepTransaction, Keeps] using hc)
    (fun l hk => beginTransaction_spec (hc.ledgerAt hk) peer g tx) fun l token l' hk hl' => ?_
  obtain ⟨rfl, htx, hid, hl'⟩ := hl'
  have hlt := hc.ids_lt l (List.mem_of_getElem? hk)
  refine hc.replace hk hid (hl' _ (inFlight_append c.transactions rfl))
    (fun _ _ => rfl) (fun id hne => inFlight_append_other _ (Ne.symm hne)) hc.reservation ?_
  intro t ht
  rcases List.mem_append.mp ht with ht | ht
  · exact hc.transaction t ht
  · obtain rfl := List.mem_singleton.mp ht
    exact ⟨hlt, htx⟩

/-- A rewritten token keeps what `SystemOk` knows of every token. -/
theorem SystemOk.reservation_set (hc : SystemOk c)
    (hj : c.reservations[j]? = some t) (state : ReservationState) :
    ∀ t' ∈ c.reservations.set j { t with state }, t'.controllerId < c.nextControllerId
      ∧ ∀ r, r.managed = true → t'.amounts r = 0 := by
  intro t' ht'
  rcases List.mem_or_eq_of_mem_set ht' with ht' | rfl
  · exact hc.reservation t' ht'
  · exact hc.reservation t (List.mem_of_getElem? hj)

theorem publish_sound (hc : SystemOk c) (j : Nat) : Sound c (exec (.publish k j)) := by
  refine wp_onToken rfl hc (fun l t _ _ => publish_spec t) fun l t l' t' hk hj hs => ?_
  obtain ⟨hstate, heq⟩ := hs
  obtain ⟨rfl, rfl⟩ := Prod.mk.inj heq
  have hsame : ∀ id, outstanding (c.reservations.set j { t with state := .published }) id
      = outstanding c.reservations id := fun id =>
    outstanding_set hj fun p g r => by simp [ReservationToken.holds, hstate]
  refine hc.replace hk rfl ?_ (fun id _ => hsame id) (fun _ _ => rfl) (hc.reservation_set hj _)
    hc.transaction
  rw [hsame]
  exact hc.ledgerAt hk

theorem release_sound (hc : SystemOk c) (j : Nat) : Sound c (exec (.release k j)) := by
  refine wp_onToken rfl hc (fun l t hk hj => release_spec (hc.ledgerAt hk)
    (hc.reservation t (List.mem_of_getElem? hj)).2
    fun hid hstate r => hid ▸ held_reservation hj hstate r) fun l t l' t' hk hj hs => ?_
  obtain ⟨horigin, hstate, rfl, hid, hl'⟩ := hs
  refine hc.replace hk hid (hl' _ ?_) (fun id hne => ?_) (fun _ _ => rfl)
    (hc.reservation_set hj _) hc.transaction
  · rw [← horigin]
    exact outstanding_release hj hstate
  · have hother : t.controllerId ≠ id := fun h => hne (h.symm.trans horigin)
    exact outstanding_set hj fun p g r => by
      rw [t.holds_released, t.holds_other hother]

theorem end_sound {method : TokenLedger TransactionToken Unit} (hc : SystemOk c) (j : Nat)
    (hmethod : ∀ {l reserved running token}, LedgerOk l reserved running →
      token.transactionId ≠ 0 →
      (token.controllerId = l.controllerId → token.active = true →
        0 < running token.peer token.generation (· == token.transactionId)) →
      wp method (Keeps (l, token) fun _ => Ends l reserved running token) (l, token)) :
    Sound c (Controllers.onTransaction k j method) := by
  refine wp_onToken rfl hc (fun l t hk hj => hmethod (hc.ledgerAt hk)
    (hc.transaction t (List.mem_of_getElem? hj)).2
    fun hid hactive => hid ▸ held_transaction hj hactive) fun l t l' t' hk hj hs => ?_
  obtain ⟨horigin, hactive, rfl, hid, hl'⟩ := hs
  refine hc.replace hk hid (hl' _ ?_) (fun _ _ => rfl) (fun id hne => ?_) hc.reservation ?_
  · rw [← horigin]
    exact inFlight_end hj hactive
  · have hother : t.controllerId ≠ id := fun h => hne (h.symm.trans horigin)
    exact inFlight_set hj fun p g test => by
      rw [t.runs_ended, t.runs_other hother]
  · intro t' ht'
    rcases List.mem_or_eq_of_mem_set ht' with ht' | rfl
    · exact hc.transaction t' ht'
    · exact hc.transaction t (List.mem_of_getElem? hj)

theorem withBudgets_budgetsOk {id : Check Nat} {budgets : AccountedResource → ResourceBudget}
    (h : ReadinessAccounting.withBudgets id budgets = .ok l) :
    BudgetsOk budgets ∧ id = .ok l.controllerId
      ∧ l = ⟨l.controllerId, budgets, fun _ => .new, fun _ => 0⟩ := by
  unfold ReadinessAccounting.withBudgets at h
  split at h
  · cases h
  rename_i hall
  split at h
  · cases h
  rename_i hspecial
  obtain ⟨n, hn, h⟩ := Outcome.bind_eq_ok.mp h
  obtain rfl := Outcome.ok.inj h
  have hreplay : ReadinessAccounting.budgetOk .completedReplayEntries
      (budgets .completedReplayEntries) = true := by
    simp only [Bool.not_eq_false, List.all_eq_true] at hall
    exact hall _ (by simp)
  simp only [ReadinessAccounting.budgetOk, Bool.not_eq_true', Bool.or_eq_false_iff,
    beq_eq_false_iff_ne] at hreplay
  exact ⟨⟨by omega, by omega, by omega⟩, hn, rfl⟩

theorem safe_withBudgets {id : Check Nat} (hid : Safe id)
    (budgets : AccountedResource → ResourceBudget) :
    Safe (ReadinessAccounting.withBudgets id budgets) := by
  unfold ReadinessAccounting.withBudgets
  split
  · simp [Safe]
  · split
    · simp [Safe]
    · exact safe_bind hid fun _ => by simp [Safe]

theorem safe_allocateControllerId (c : Controllers) : Safe c.allocateControllerId := by
  unfold Controllers.allocateControllerId
  split <;> simp [Safe]

theorem withBudgets_sound (hc : SystemOk c) (budgets : AccountedResource → ResourceBudget) :
    Sound c (exec (.withBudgets budgets)) := by
  rw [Sound, exec, Controllers.withBudgets, wp_get_bind]
  refine wp_checked (safe_withBudgets (safe_allocateControllerId c) budgets) fun l hl => ?_
  obtain ⟨hbudgets, hid, hl⟩ := withBudgets_budgetsOk hl
  have hnext : l.controllerId = c.nextControllerId := by
    unfold Controllers.allocateControllerId at hid
    split at hid
    · cases hid
    · exact (Outcome.ok.inj hid).symm
  -- no token carries the id that has just been allocated
  have hreserved : ∀ p g r, outstanding c.reservations l.controllerId p g r = 0 := by
    intro p g r
    refine List.sum_eq_zero fun x hx => ?_
    obtain ⟨t, ht, rfl⟩ := List.mem_map.mp hx
    exact t.holds_other (Nat.ne_of_lt (hnext ▸ (hc.reservation t ht).1))
  have hrunning : ∀ p g test, inFlight c.transactions l.controllerId p g test = 0 := by
    intro p g test
    refine List.sum_eq_zero fun x hx => ?_
    obtain ⟨t, ht, rfl⟩ := List.mem_map.mp hx
    exact t.runs_other (Nat.ne_of_lt (hnext ▸ (hc.transaction t ht).1))
  have hnew : LedgerOk l (outstanding c.reservations l.controllerId)
      (inFlight c.transactions l.controllerId) := by
    rw [hl]
    exact ⟨hbudgets, by simp [PeerAccounting.new], fun _ _ => Nat.zero_le _,
      fun _ => Nat.zero_le _, by simp [PeerAccounting.new], fun _ _ _ _ => rfl,
      fun i g _ => ⟨hreserved i g, hrunning i g⟩⟩
  rw [wp_set]
  refine ⟨fun m hm => ?_, ?_, fun m hm => ?_, fun t ht => ?_, fun t ht => ?_⟩
  · rcases List.mem_append.mp hm with hm | hm
    · exact hc.ledger m hm
    · obtain rfl := List.mem_singleton.mp hm
      exact hnew
  · rw [List.map_append, List.nodup_append]
    refine ⟨hc.ids, by simp, fun x hx y hy => ?_⟩
    obtain ⟨m, hm, rfl⟩ := List.mem_map.mp hx
    obtain rfl : y = l.controllerId := by simpa using hy
    exact Nat.ne_of_lt (hnext ▸ hc.ids_lt m hm)
  · rcases List.mem_append.mp hm with hm | hm
    · exact Nat.lt_succ_of_lt (hc.ids_lt m hm)
    · obtain rfl := List.mem_singleton.mp hm
      exact hnext ▸ Nat.lt_succ_self _
  · exact ⟨Nat.lt_succ_of_lt (hc.reservation t ht).1, (hc.reservation t ht).2⟩
  · exact ⟨Nat.lt_succ_of_lt (hc.transaction t ht).1, (hc.transaction t ht).2⟩

theorem exec_sound (hc : SystemOk c) (op : Op) : Sound c (exec op) := by
  cases op with
  | withBudgets budgets => exact withBudgets_sound hc budgets
  | beginGeneration k peer g => exact onLedger_sound hc fun h => beginGeneration_spec h peer g
  | reserve k peer g request => exact reserve_sound hc peer g request
  | publish k j => exact publish_sound hc j
  | release k j => exact release_sound hc j
  | beginTransaction k peer g tx => exact beginTransaction_sound hc peer g tx
  | completeTransaction k j => exact end_sound hc j fun h => completeTransaction_spec h
  | abortTransaction k j => exact end_sound hc j fun h => abortTransaction_spec h
  | recordRestartHistory k peer g record =>
      exact onLedger_sound hc fun h => recordRestartHistory_spec h peer g record
  | retireGeneration k peer g => exact onLedger_sound hc fun h => retireGeneration_spec h peer g
  | finishRestartEpisode k peer =>
      exact onLedger_sound hc fun h => finishRestartEpisode_spec h peer

end Calls

/-! ## Every run -/

theorem boot_systemOk : SystemOk boot :=
  ⟨by simp [boot], by simp [boot], by simp [boot], by simp [boot], by simp [boot]⟩

theorem AccountingRun.systemOk {h : List AccountingCall} {c : Controllers}
    (hrun : AccountingRun h c) : SystemOk c := by
  refine Run.invariant (by rintro _ rfl; exact boot_systemOk) (fun op c hc hp => ?_) hrun
  have hs := exec_sound hc op
  unfold Sound wp at hs
  rcases hexec : exec op c with ⟨_ | _ | _, c', w⟩
  · rw [hexec] at hs
    exact hs
  · rw [hexec] at hs
    exact hs.1 ▸ hc
  · rw [hexec] at hs
    exact hs.elim

/-- What the counters of a ledger stand for. The live slot of a generation is
counted by `LiveProcessGenerations`; restart history is episode state that no
token stands for. -/
structure Accounted (c : Controllers) (l : ReadinessAccounting) : Prop where
  aggregate_eq : ∀ r, l.aggregate r = ∑ i, (l.peers i).counters r
  peer_le : ∀ i r, (l.peers i).counters r ≤ (l.budgets r).perPeer
  aggregate_le : ∀ r, l.aggregate r ≤ (l.budgets r).aggregate
  counter_eq : ∀ i, (l.peers i).active = true → ∀ r, r ≠ .restartHistoryRecords →
    (l.peers i).counters r
      = outstanding c.reservations l.controllerId i (l.peers i).generation r
        + (if r = .inFlightTransactions
            then countWhere fun j => (l.peers i).liveTransactions j != 0 else 0)
        + (if r = .completedReplayEntries then (l.peers i).replayLen else 0)
        + (if r = .liveProcessGenerations then 1 else 0)
  live_eq : ∀ i, (l.peers i).active = true →
    countWhere (fun j => (l.peers i).liveTransactions j != 0)
      = inFlight c.transactions l.controllerId i (l.peers i).generation fun _ => true
  retired : ∀ i, (l.peers i).active = false →
    ∀ r, r ≠ .restartHistoryRecords → (l.peers i).counters r = 0

theorem SystemOk.outstanding_managed {c : Controllers} (hc : SystemOk c) {id p g : Nat}
    {r : AccountedResource} (hr : r.managed = true) :
    outstanding c.reservations id p g r = 0 := by
  refine List.sum_eq_zero fun x hx => ?_
  obtain ⟨t, ht, rfl⟩ := List.mem_map.mp hx
  simp [ReservationToken.holds, (hc.reservation t ht).2 r hr]

theorem SystemOk.accounted {c : Controllers} (hc : SystemOk c) {l : ReadinessAccounting}
    (hl : l ∈ c.ledgers) : Accounted c l where
  aggregate_eq := (hc.ledger l hl).balanced
  peer_le := (hc.ledger l hl).peer_le
  aggregate_le := (hc.ledger l hl).aggregate_le
  counter_eq i hactive r hr := by
    have hp := (hc.ledger l hl).active i hactive
    cases hmanaged : r.managed with
    | true =>
        rw [hc.outstanding_managed hmanaged]
        cases r <;> simp_all [AccountedResource.managed, hp.live, hp.inFlight, hp.replay]
    | false =>
        rw [hp.reserved r hmanaged]
        cases r <;> simp_all [AccountedResource.managed]
  live_eq i hactive := by
    have hp := (hc.ledger l hl).active i hactive
    simpa using (hp.running fun _ => true).symm
  retired := (hc.ledger l hl).retired

/-- After any history every ledger is accounted for, and no further call,
whatever it is, panics, underflows, or changes anything when it fails. -/
theorem ledgers_accounted {h : List AccountingCall} {c : Controllers} (hrun : AccountingRun h c) :
    (∀ l ∈ c.ledgers, Accounted c l)
      ∧ ∀ op, (exec op c).1 ≠ .panic ∧ (exec op c).1 ≠ .err .counterUnderflow
        ∧ ∀ e, (exec op c).1 = .err e → (exec op c).2.1 = c := by
  refine ⟨fun l hl => hrun.systemOk.accounted hl, fun op => ?_⟩
  have hs := exec_sound hrun.systemOk op
  unfold Sound wp at hs
  rcases hexec : exec op c with ⟨_ | _ | _, c', w⟩
  · simp
  · rw [hexec] at hs
    exact ⟨by simp, by simpa using hs.2, fun _ _ => hs.1⟩
  · rw [hexec] at hs
    exact hs.elim

/-- A generation, a reservation, and a transaction that completes. -/
def firstTransaction : List Op :=
  [.withBudgets wyr0IResourceBudgets, .beginGeneration 0 0 1,
    .reserve 0 0 1 ⟨update (fun _ => 0) .retainedMessages 2⟩, .beginTransaction 0 0 1 44,
    .completeTransaction 0 0]

theorem ledgers_accounted_firstTransaction :
    (∀ l ∈ (replay exec firstTransaction boot).2.ledgers,
        Accounted (replay exec firstTransaction boot).2 l)
      ∧ ∀ op, (exec op (replay exec firstTransaction boot).2).1 ≠ .panic
        ∧ (exec op (replay exec firstTransaction boot).2).1 ≠ .err .counterUnderflow
        ∧ ∀ e, (exec op (replay exec firstTransaction boot).2).1 = .err e →
          (exec op (replay exec firstTransaction boot).2).2.1
            = (replay exec firstTransaction boot).2 :=
  ledgers_accounted (h := (replay exec firstTransaction boot).1) (by
    have hrun : AccountingRun [] boot := Run.start rfl
    simpa using Run.replay firstTransaction hrun (by decide +kernel))

end Wyrmroot.Accounting
