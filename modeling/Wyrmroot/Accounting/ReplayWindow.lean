import Wyrmroot.Accounting.TransactionLog

/-!
# The replay window of a ledger

What `begin_transaction` accepts, read off the history. Every call advances
at most one ledger (`exec_touches`), so after any run the ledgers agree with
their logs (`AccountingRun.historyOk`), and an id is refused or accepted by
what the log of its generation says of it.
-/

namespace Wyrmroot.Accounting

open Function Prog ReadinessAccounting

variable {l l' : ReadinessAccounting} {logs : Nat → Nat → List TxMove}

/-! ## What begin_transaction answers -/

/-- The limits on live transactions are within the array and the counters. -/
structure Fits (budgets : AccountedResource → ResourceBudget) : Prop where
  slots : (budgets .inFlightTransactions).perPeer ≤ maxLiveTransactionsPerPeer
  counter : (budgets .inFlightTransactions).aggregate ≤ Restart.u64Max

/-- One more transaction is within the budgets. -/
structure HasRoom (l : ReadinessAccounting) (i : Fin maxAccountedPeers) : Prop where
  peer : (l.peers i).counters .inFlightTransactions < (l.budgets .inFlightTransactions).perPeer
  aggregate : l.aggregate .inFlightTransactions < (l.budgets .inFlightTransactions).aggregate

section Answers

variable {reserved : Reserved} {running : Running} {peer g t : Nat}

theorem beginTransaction_refused (hok : LedgerOk l reserved running) (hlogs : LogsOk l logs)
    (hknown : t ∈ window (capacityOf l) (completedIds (logs peer g)) ∨
      liveIn (logs peer g) t = true) : ∃ e, (beginTransaction peer g t l).1 = .err e := by
  have hspec := beginTransaction_spec hok peer g t
  unfold wp at hspec
  cases hrun : (beginTransaction peer g t l).1 with
  | err e => exact ⟨e, rfl⟩
  | panic =>
      rw [hrun] at hspec
      exact hspec.elim
  | ok token =>
      have hstep := beginTransaction_advances (l := l) peer g t token hrun
      cases hstep with
      | begun hbudgets hactive hfree hnew hfresh ht hpeers =>
          have hpeer := hlogs.active _ hactive
          rcases hknown with hwindow | hlive
          · obtain ⟨ring, hring, heq⟩ := hpeer.ring
            rw [← heq, ← hring.contains_iff hok.budgets.replay_le, hfresh] at hwindow
            cases hwindow
          · exact absurd ((hpeer.live t ht).mpr hlive) hnew

theorem beginTransaction_accepted (hok : LedgerOk l reserved running) (hlogs : LogsOk l logs)
    (hfits : Fits l.budgets) {i : Fin maxAccountedPeers} (hi : l.validateGeneration peer g = .ok i)
    (hroom : HasRoom l i) (ht : t ≠ 0) (hcompleted : .completed t ∉ logs peer g)
    (hlive : liveIn (logs peer g) t = false) :
    (beginTransaction peer g t l).1 = .ok ⟨l.controllerId, peer, g, t, true⟩ := by
  obtain ⟨rfl, hactive, rfl, -⟩ := validateGeneration_eq_ok.mp hi
  have hpeer := hlogs.active i hactive
  have hnew : ((l.peers i).livePosition t).isSome = false := by
    rw [Bool.eq_false_iff, Ne, livePosition_isSome, hpeer.live t ht, hlive]
    exact Bool.false_ne_true
  have hfresh : (l.peers i).replayContains t = false := by
    obtain ⟨ring, hring, heq⟩ := hpeer.ring
    rw [Bool.eq_false_iff, Ne, hring.contains_iff hok.budgets.replay_le, heq]
    exact fun hmem => hcompleted (mem_completedIds.mp (List.mem_of_mem_drop hmem))
  have hcount := (hok.active i hactive).inFlight
  obtain ⟨slot, hslot⟩ : ∃ slot, (l.peers i).livePosition 0 = some slot := by
    rw [← Option.isSome_iff_exists, livePosition_isSome]
    by_contra hfull
    have hall : ∀ slot, ((l.peers i).liveTransactions slot != 0) = true :=
      fun slot => bne_iff_ne.mpr fun h => hfull ⟨slot, h⟩
    have hslots := hfits.slots
    have hpeerRoom := hroom.peer
    simp only [countWhere, hall, Bool.toNat_true, Finset.sum_const, Finset.card_univ,
      Fintype.card_fin, smul_eq_mul, Nat.mul_one] at hcount
    omega
  have haggregate := hroom.aggregate
  have hmax := hfits.counter
  have hle := hok.counter_le_aggregate i .inFlightTransactions
  have hnextPeer : checkedAdmit ((l.peers i).counters .inFlightTransactions) 1
      (l.budgets .inFlightTransactions).perPeer (.perPeerLimit .inFlightTransactions) =
        .ok ((l.peers i).counters .inFlightTransactions + 1) :=
    checkedAdmit_eq_ok.mpr ⟨by omega, hroom.peer, rfl⟩
  have hnextAggregate : checkedAdmit (l.aggregate .inFlightTransactions) 1
      (l.budgets .inFlightTransactions).aggregate (.aggregateLimit .inFlightTransactions) =
        .ok (l.aggregate .inFlightTransactions + 1) :=
    checkedAdmit_eq_ok.mpr ⟨by omega, haggregate, rfl⟩
  simp only [beginTransaction, bind_run, get_run, ht, if_false, lift_run, hi, hnew, hfresh, hslot,
    hnextPeer, hnextAggregate, Bool.false_eq_true, set_run, pure_run]

theorem abortTransaction_room (hok : LedgerOk l reserved running) {token : TransactionToken} :
    OnOk abortTransaction (fun _ s' => ∃ i,
      s'.1.validateGeneration token.peer token.generation = .ok i ∧ HasRoom s'.1 i) (l, token) := by
  refine onOk_get_bind ?_
  refine onOk_lift_bind fun i hi => ?_
  obtain ⟨-, -, hi⟩ := validateTransactionToken_eq_ok.mp hi
  obtain ⟨hpeer, hactive, hgeneration, hpos⟩ := validateGeneration_eq_ok.mp hi
  dsimp only
  split
  · exact onOk_throw _
  rename_i slot hslot
  refine onOk_lift_bind fun nextPeer hnextPeer => onOk_lift_bind fun nextAggregate hnextAgg =>
    onOk_set ⟨i, validateGeneration_eq_ok.mpr ⟨hpeer, ?_, ?_, hpos⟩, ?_, ?_⟩
  · simpa [ReadinessAccounting.setPeer] using hactive
  · simpa [ReadinessAccounting.setPeer] using hgeneration
  · have hle := hok.peer_le i .inFlightTransactions
    unfold checkedRelease at hnextPeer
    split at hnextPeer
    · cases hnextPeer
    · obtain rfl := Outcome.ok.inj hnextPeer
      simp only [ReadinessAccounting.setPeer, update_self]
      omega
  · have hle := hok.aggregate_le .inFlightTransactions
    unfold checkedRelease at hnextAgg
    split at hnextAgg
    · cases hnextAgg
    · obtain rfl := Outcome.ok.inj hnextAgg
      simp only [update_self]
      show _ < (l.budgets .inFlightTransactions).aggregate
      omega

end Answers

/-! ## One call -/

section Calls

variable {c c' : Controllers} {k : Nat}

/-- What a successful call does to the ledgers, and to the log of each peer
generation of each. -/
inductive Touches (c : Controllers) : Controllers → (Nat → Nat → Nat → List TxMove) → Prop
  | none {c' : Controllers} {moves : Nat → Nat → Nat → List TxMove}
      (hledgers : c'.ledgers = c.ledgers) (hmoves : ∀ k peer g, moves k peer g = []) :
      Touches c c' moves
  | made {c' : Controllers} {moves : Nat → Nat → Nat → List TxMove} {l : ReadinessAccounting}
      (hledgers : c'.ledgers = c.ledgers ++ [l]) (hnew : ∀ i, l.peers i = .new)
      (hfits : Fits l.budgets) (hmoves : ∀ k peer g, moves k peer g = []) : Touches c c' moves
  | ledger {c' : Controllers} {moves : Nat → Nat → Nat → List TxMove} {k : Nat}
      {l l' : ReadinessAccounting} {move : Option (Nat × Nat × TxMove)}
      (hk : c.ledgers[k]? = some l) (hledgers : c'.ledgers = c.ledgers.set k l')
      (hstep : Advances l move l')
      (hmoves : ∀ k' peer g, moves k' peer g = if k = k' then addedBy move peer g else []) :
      Touches c c' moves

theorem onLedger_touches {α : Type} {method : Ledger α} {f : Option α → System Unit}
    {move : Option (Nat × Nat × TxMove)} {moves : Nat → Nat → Nat → List TxMove}
    (hf : ∀ a c, (f a c).2.1.ledgers = c.ledgers)
    (hmethod : ∀ l, OnOk method (fun _ l' => Advances l move l') l)
    (hok : ((Controllers.onLedger k method >>= f) c).1 = .ok ())
    (hmoves : ∀ k' peer g, moves k' peer g =
      if k = k' ∧ (c.ledgers[k]?).isSome then addedBy move peer g else []) :
    Touches c ((Controllers.onLedger k method >>= f) c).2.1 moves := by
  cases hk : c.ledgers[k]? with
  | none =>
      have hrun : Controllers.onLedger k method c = (.ok none, c, []) := by
        simp [Controllers.onLedger, hk]
      rw [bind_run_ok hrun]
      refine .none (hf none c) fun k' peer g => ?_
      rw [hmoves, if_neg (by simp [hk])]
  | some l =>
      rcases hm : method l with ⟨a | e | _, l', w⟩
      · have hrun : Controllers.onLedger k method c =
            (.ok (some a), { c with ledgers := c.ledgers.set k l' }, []) := by
          simp [Controllers.onLedger, hk, hm, Outcome.bind]
        rw [bind_run_ok hrun]
        have hstep := hmethod l a (congrArg Prod.fst hm)
        rw [hm] at hstep
        refine .ledger hk (hf _ _) hstep fun k' peer g => ?_
        rw [hmoves, hk]
        simp
      · have hrun : Controllers.onLedger k method c =
            (.err e, { c with ledgers := c.ledgers.set k l' }, []) := by
          simp [Controllers.onLedger, hk, hm, Outcome.bind]
        rw [bind_run_err hrun] at hok
        cases hok
      · rw [bind_run] at hok
        simp [Controllers.onLedger, hk, hm, Outcome.bind] at hok

theorem onToken_touches {τ : Type} {pool : Controllers → List τ}
    {store : List τ → Controllers → Controllers} {j : Nat} {method : TokenLedger τ Unit}
    {moves : Nat → Nat → Nat → List TxMove} (move : τ → Option (Nat × Nat × TxMove))
    (hstore : ∀ tokens c, (store tokens c).ledgers = c.ledgers)
    (hmethod : ∀ l token, (pool c)[j]? = some token →
      OnOk method (fun _ s' => Advances l (move token) s'.1) (l, token))
    (hok : (Controllers.onToken pool store k j method c).1 = .ok ())
    (hsome : ∀ l token, c.ledgers[k]? = some l → (pool c)[j]? = some token →
      ∀ k' peer g, moves k' peer g = if k = k' then addedBy (move token) peer g else [])
    (hnone : c.ledgers[k]? = none ∨ (pool c)[j]? = none → ∀ k' peer g, moves k' peer g = []) :
    Touches c (Controllers.onToken pool store k j method c).2.1 moves := by
  cases hk : c.ledgers[k]? with
  | none =>
      have hrun : Controllers.onToken pool store k j method c = (.ok (), c, []) := by
        simp [Controllers.onToken, hk]
      rw [hrun]
      exact .none rfl (hnone (.inl hk))
  | some l =>
      cases hj : (pool c)[j]? with
      | none =>
          have hrun : Controllers.onToken pool store k j method c = (.ok (), c, []) := by
            simp [Controllers.onToken, hk, hj]
          rw [hrun]
          exact .none rfl (hnone (.inr hj))
      | some token =>
          have hrun : Controllers.onToken pool store k j method c = ((method (l, token)).1,
              store ((pool c).set j (method (l, token)).2.1.2)
                { c with ledgers := c.ledgers.set k (method (l, token)).2.1.1 }, []) := by
            simp [Controllers.onToken, hk, hj]
          rw [hrun] at hok ⊢
          exact .ledger hk (hstore _ _) (hmethod l token hj () hok) (hsome l token hk hj)

theorem withBudgets_touches (budgets : AccountedResource → ResourceBudget) :
    OnOk (Controllers.withBudgets budgets) (fun _ c' =>
      ∃ l, c'.ledgers = c.ledgers ++ [l] ∧ (∀ i, l.peers i = .new) ∧ Fits l.budgets) c := by
  refine onOk_get_bind (onOk_lift_bind fun l hl => onOk_set ⟨l, rfl, fun i => ?_, ?_⟩)
  · obtain ⟨-, -, hl⟩ := withBudgets_budgetsOk hl
    rw [hl]
  · have heq := (withBudgets_budgetsOk hl).2.2
    unfold ReadinessAccounting.withBudgets at hl
    split at hl
    · cases hl
    rename_i hall
    split at hl
    · cases hl
    rename_i hspecial
    have hpolicy : budgetOk .inFlightTransactions (budgets .inFlightTransactions) = true := by
      rw [Bool.not_eq_false, List.all_eq_true] at hall
      exact hall _ (by simp)
    simp only [budgetOk, Bool.not_eq_true', Bool.or_eq_false_iff, decide_eq_false_iff_not] at hpolicy
    have hbudgets : l.budgets = budgets := congrArg (·.budgets) heq
    rw [hbudgets]
    exact ⟨by omega, by omega⟩

theorem onTransaction_touches (hc : SystemOk c) {j : Nat}
    {method : TokenLedger TransactionToken Unit} {moves : Nat → Nat → Nat → List TxMove}
    (made : Nat → TxMove)
    (hmethod : ∀ l (token : TransactionToken), token.transactionId ≠ 0 →
      OnOk method (fun _ s' =>
        Advances l (some (token.peer, token.generation, made token.transactionId)) s'.1) (l, token))
    (hok : (Controllers.onTransaction k j method c).1 = .ok ())
    (hmoves : ∀ k' peer g, moves k' peer g = if k = k' then endedBy k' peer g c j made else []) :
    Touches c (Controllers.onTransaction k j method c).2.1 moves := by
  refine onToken_touches (fun token => some (token.peer, token.generation, made token.transactionId))
    (fun _ _ => rfl)
    (fun l token hj => hmethod l token (hc.transaction token (List.mem_of_getElem? hj)).2) hok
    (fun l token hk hj k' peer g => ?_) fun habsent k' peer g => ?_
  · rw [hmoves, addedBy_some]
    by_cases hk' : k = k'
    · subst hk'
      simp only [if_true, endedBy, hk, hj]
    · rw [if_neg hk', if_neg hk']
  · rw [hmoves]
    by_cases hk' : k = k'
    · subst hk'
      rcases habsent with hk | hj
      · simp only [if_true, endedBy, hk]
      · cases hk : c.ledgers[k]? <;> simp only [if_true, endedBy, hk, hj]
    · rw [if_neg hk']

theorem exec_touches (hc : SystemOk c) {op : Op} (hok : (exec op c).1 = .ok ()) :
    Touches c (exec op c).2.1 fun k' peer g => moveOf k' peer g ⟨c, op, .ok (), c, []⟩ := by
  cases op with
  | withBudgets budgets =>
      obtain ⟨l, hledgers, hnew, hfits⟩ := withBudgets_touches (c := c) budgets () hok
      exact .made hledgers hnew hfits fun _ _ _ => by simp [moveOf]
  | beginGeneration k peer g =>
      exact onLedger_touches (f := fun _ => pure ()) (fun _ _ => rfl)
        (fun l => beginGeneration_advances peer g) hok fun _ _ _ => by simp [moveOf]
  | reserve k peer g request =>
      exact onLedger_touches (f := Controllers.keepReservation) (fun _ _ => rfl)
        (fun l => reserve_advances peer g request) hok fun _ _ _ => by simp [moveOf]
  | publish k j =>
      exact onToken_touches (fun _ => none) (fun _ _ => rfl)
        (fun l token _ => publish_advances token) hok (by simp [moveOf]) (by simp [moveOf])
  | release k j =>
      exact onToken_touches (fun _ => none) (fun _ _ => rfl)
        (fun l token _ => release_advances token) hok (by simp [moveOf]) (by simp [moveOf])
  | beginTransaction k peer g t =>
      refine onLedger_touches (f := Controllers.keepTransaction) (fun _ _ => rfl)
        (fun l => beginTransaction_advances peer g t) hok fun k' peer' g' => ?_
      simp only [moveOf, Outcome.isOk_ok, if_true, addedBy_some]
      by_cases hk' : k = k'
      · subst hk'
        by_cases hmade : (c.ledgers[k]?).isSome = true <;> simp [hmade]
      · simp [hk']
  | completeTransaction k j =>
      exact onTransaction_touches hc .completed (fun l token => completeTransaction_advances) hok
        fun _ _ _ => by simp [moveOf]
  | abortTransaction k j =>
      exact onTransaction_touches hc .aborted (fun l token => abortTransaction_advances) hok
        fun _ _ _ => by simp [moveOf]
  | recordRestartHistory k peer g record =>
      exact onLedger_touches (f := fun _ => pure ()) (fun _ _ => rfl)
        (fun l => recordRestartHistory_advances peer g record) hok fun _ _ _ => by simp [moveOf]
  | retireGeneration k peer g =>
      exact onLedger_touches (f := fun _ => pure ()) (fun _ _ => rfl)
        (fun l => retireGeneration_advances peer g) hok fun _ _ _ => by simp [moveOf]
  | finishRestartEpisode k peer =>
      exact onLedger_touches (f := fun _ => pure ()) (fun _ _ => rfl)
        (fun l => finishRestartEpisode_advances peer) hok fun _ _ _ => by simp [moveOf]

end Calls

/-! ## Every run -/

section Runs

variable {h h' : List AccountingCall} {c c' : Controllers}

/-- Every ledger agrees with its logs; a ledger that is not made yet has none. -/
structure HistoryOk (h : List AccountingCall) (c : Controllers) : Prop where
  ledger : ∀ k l, c.ledgers[k]? = some l → LogsOk l fun peer g => peerLog k peer g h
  fits : ∀ l ∈ c.ledgers, Fits l.budgets
  absent : ∀ k, c.ledgers[k]? = none → ∀ peer g, peerLog k peer g h = []

theorem HistoryOk.touch (hh : HistoryOk h c) (hc : SystemOk c)
    {moves : Nat → Nat → Nat → List TxMove} (htouch : Touches c c' moves)
    (hlogs : ∀ k peer g, peerLog k peer g h' = peerLog k peer g h ++ moves k peer g) :
    HistoryOk h' c' := by
  cases htouch with
  | none hledgers hmoves =>
      have hsame : ∀ k peer g, peerLog k peer g h' = peerLog k peer g h := by
        intro k peer g
        rw [hlogs, hmoves, List.append_nil]
      refine ⟨fun k l hk => ?_, fun l hl => ?_, fun k hk => ?_⟩
      · rw [hledgers] at hk
        simpa only [hsame] using hh.ledger k l hk
      · rw [hledgers] at hl
        exact hh.fits l hl
      · rw [hledgers] at hk
        simpa only [hsame] using hh.absent k hk
  | @made new hledgers hnew hfits hmoves =>
      have hsame : ∀ k peer g, peerLog k peer g h' = peerLog k peer g h := by
        intro k peer g
        rw [hlogs, hmoves, List.append_nil]
      refine ⟨fun k l hk => ?_, fun l hl => ?_, fun k hk => ?_⟩
      · rw [hledgers] at hk
        simp only [hsame]
        by_cases hlast : k < c.ledgers.length
        · rw [List.getElem?_append_left hlast] at hk
          exact hh.ledger k l hk
        · rw [List.getElem?_append_right (Nat.not_lt.mp hlast)] at hk
          obtain rfl := List.mem_singleton.mp (List.mem_of_getElem? hk)
          have hempty := hh.absent k (List.getElem?_eq_none (Nat.not_lt.mp hlast))
          refine ⟨fun i hi => ?_, fun i g _ => hempty i g, fun peer g m hm => ?_⟩
          · rw [hnew] at hi
            cases hi
          · rw [hempty] at hm
            cases hm
      · rw [hledgers] at hl
        rcases List.mem_append.mp hl with hl | hl
        · exact hh.fits l hl
        · rwa [List.mem_singleton.mp hl]
      · rw [hledgers, List.getElem?_eq_none_iff, List.length_append] at hk
        simp only [hsame]
        exact hh.absent k (List.getElem?_eq_none (Nat.le_trans (Nat.le_add_right ..) hk))
  | @ledger k₀ l₀ l₁ move hk₀ hledgers hstep hmoves =>
      have hpos : 0 < capacityOf l₀ := (hc.ledgerAt hk₀).budgets.replay_pos
      refine ⟨fun k l hk => ?_, fun l hl => ?_, fun k hk => ?_⟩
      · rw [hledgers, List.getElem?_set] at hk
        simp only [hlogs, hmoves]
        by_cases heq : k₀ = k
        · subst heq
          rw [if_pos rfl] at hk
          split at hk
          · obtain rfl := Option.some.inj hk
            simpa only [if_true] using (hh.ledger k₀ l₀ hk₀).advance hpos hstep
          · cases hk
        · rw [if_neg heq] at hk
          simpa only [if_neg heq, List.append_nil] using hh.ledger k l hk
      · rw [hledgers] at hl
        rcases List.mem_or_eq_of_mem_set hl with hl | rfl
        · exact hh.fits l hl
        · rw [hstep.budgets_eq]
          exact hh.fits l₀ (List.mem_of_getElem? hk₀)
      · rw [hledgers, List.getElem?_eq_none_iff, List.length_set, ← List.getElem?_eq_none_iff] at hk
        have hne : k₀ ≠ k := by
          rintro rfl
          rw [hk] at hk₀
          cases hk₀
        intro peer g
        rw [hlogs, hmoves, if_neg hne, List.append_nil]
        exact hh.absent k hk peer g

theorem HistoryOk.call (hh : HistoryOk h c) (hrun : AccountingRun h c) (op : Op)
    (hp : (exec op c).1 ≠ .panic) : HistoryOk (h ++ [callOf exec op c]) (exec op c).2.1 := by
  cases hok : (exec op c).1 with
  | panic => exact absurd hok hp
  | ok u =>
      refine hh.touch hrun.systemOk (exec_touches hrun.systemOk hok) fun k peer g => ?_
      rw [peerLog_snoc]
      simp only [moveOf, callOf, hok]
  | err e =>
      rw [((ledgers_accounted hrun).2 op).2.2 e hok]
      refine hh.touch hrun.systemOk (.none rfl fun _ _ _ => rfl) fun k peer g => ?_
      rw [peerLog_snoc]
      simp only [moveOf, callOf, hok, Outcome.isOk_err, Bool.false_eq_true, if_false]

theorem AccountingRun.historyOk (hrun : AccountingRun h c) : HistoryOk h c := by
  induction hrun with
  | start hs =>
      rw [hs]
      exact ⟨fun _ _ => nofun, fun _ => nofun, fun _ _ _ _ => rfl⟩
  | call op hr hp ih => exact ih.call hr op hp

/-- A completed id with fewer than `capacity` completions behind it is in
the window. -/
theorem completed_in_window {n t : Nat} {earlier later log : List TxMove}
    (hlog : log = earlier ++ .completed t :: later) (hshort : (completedIds later).length < n) :
    t ∈ window n (completedIds log) := by
  rw [hlog, completedIds_append]
  exact mem_window_of_short hshort

/-- In any history, for any ledger and peer generation: a completed id is
refused until as many later completions as the replay capacity have happened
in that generation, a live id is refused, and an id that was aborted and
never completed is accepted whenever there is room; right after its abort
there is. -/
theorem replay_window (hrun : AccountingRun h c) {k : Nat} {l : ReadinessAccounting}
    (hk : c.ledgers[k]? = some l) (peer g t : Nat) :
    (∀ earlier later, peerLog k peer g h = earlier ++ .completed t :: later →
        (completedIds later).length < capacityOf l →
          ∃ e, (beginTransaction peer g t l).1 = .err e)
      ∧ (liveIn (peerLog k peer g h) t = true → ∃ e, (beginTransaction peer g t l).1 = .err e)
      ∧ (.aborted t ∈ peerLog k peer g h → .completed t ∉ peerLog k peer g h →
        liveIn (peerLog k peer g h) t = false →
          ∀ i, l.validateGeneration peer g = .ok i → HasRoom l i →
            (beginTransaction peer g t l).1 = .ok ⟨l.controllerId, peer, g, t, true⟩)
      ∧ ∀ j token, c.transactions[j]? = some token → (exec (.abortTransaction k j) c).1 = .ok () →
        .completed token.transactionId ∉ peerLog k token.peer token.generation h →
          ∃ l', (exec (.abortTransaction k j) c).2.1.ledgers[k]? = some l'
            ∧ (beginTransaction token.peer token.generation token.transactionId l').1 =
              .ok ⟨l'.controllerId, token.peer, token.generation, token.transactionId, true⟩ := by
  have hledger := hrun.systemOk.ledgerAt hk
  have hlogs := hrun.historyOk.ledger k l hk
  refine ⟨fun earlier later hlog hshort => ?_, fun hlive => ?_, fun habort hnever hlive i hi hroom => ?_,
    fun j token hj hok hnever => ?_⟩
  · exact beginTransaction_refused hledger hlogs (.inl (completed_in_window hlog hshort))
  · exact beginTransaction_refused hledger hlogs (.inr hlive)
  · exact beginTransaction_accepted hledger hlogs
      (hrun.historyOk.fits l (List.mem_of_getElem? hk)) hi hroom (hlogs.nonzero peer g _ habort)
      hnever hlive
  · -- the history with the abort at its end
    have hrun' : AccountingRun (h ++ [callOf exec (.abortTransaction k j) c])
        (exec (.abortTransaction k j) c).2.1 :=
      Run.call (.abortTransaction k j) hrun (by rw [hok]; exact nofun)
    have hafter : exec (.abortTransaction k j) c = ((abortTransaction (l, token)).1,
        { c with
          ledgers := c.ledgers.set k (abortTransaction (l, token)).2.1.1,
          transactions := c.transactions.set j (abortTransaction (l, token)).2.1.2 }, []) := by
      simp [exec, Controllers.onTransaction, Controllers.onToken, hk, hj]
    have hlt : k < c.ledgers.length := (List.getElem?_eq_some_iff.mp hk).1
    have hk' : (exec (.abortTransaction k j) c).2.1.ledgers[k]? =
        some (abortTransaction (l, token)).2.1.1 := by
      rw [hafter]
      exact List.getElem?_set_self hlt
    have hmove : moveOf k token.peer token.generation (callOf exec (.abortTransaction k j) c) =
        [.aborted token.transactionId] := by
      simp [moveOf, callOf, hok, endedBy, hk, hj]
    rw [hafter] at hok
    obtain ⟨i, hi, hroom⟩ := abortTransaction_room hledger () hok
    have hlogs' := hrun'.historyOk.ledger k _ hk'
    refine ⟨_, hk', beginTransaction_accepted (hrun'.systemOk.ledgerAt hk') hlogs'
      (hrun'.historyOk.fits _ (List.mem_of_getElem? hk')) hi hroom
      (hrun.systemOk.transaction token (List.mem_of_getElem? hj)).2 ?_ ?_⟩
    · rw [peerLog_snoc, hmove, List.mem_append, List.mem_singleton]
      rintro (hmem | hmem)
      · exact hnever hmem
      · cases hmem
    · rw [peerLog_snoc, hmove, liveIn_snoc]
      simp [TxMove.leaves]

/-- One transaction completes, one is aborted. -/
def completedAndAborted : List Op :=
  [.withBudgets wyr0IResourceBudgets, .beginGeneration 0 0 1, .beginTransaction 0 0 1 44,
    .completeTransaction 0 0, .beginTransaction 0 0 1 45, .abortTransaction 0 1]

theorem completedAndAborted_window : ∃ l,
    (replay exec completedAndAborted boot).2.ledgers[0]? = some l
    ∧ (∃ e, (beginTransaction 0 1 44 l).1 = .err e)
    ∧ (beginTransaction 0 1 45 l).1 = .ok ⟨l.controllerId, 0, 1, 45, true⟩ := by
  have hrun : AccountingRun (replay exec completedAndAborted boot).1
      (replay exec completedAndAborted boot).2 := by
    have hstart : AccountingRun [] boot := Run.start rfl
    simpa using Run.replay completedAndAborted hstart (by decide +kernel)
  have hlog : peerLog 0 0 1 (replay exec completedAndAborted boot).1 =
      [.begun 44, .completed 44, .begun 45, .aborted 45] := by decide +kernel
  have hroom : ((replay exec completedAndAborted boot).2.ledgers[0]?).any (fun l =>
      l.validateGeneration 0 1 = .ok ⟨0, by decide⟩
        ∧ (l.peers ⟨0, by decide⟩).counters .inFlightTransactions < (l.budgets .inFlightTransactions).perPeer
        ∧ l.aggregate .inFlightTransactions < (l.budgets .inFlightTransactions).aggregate
        ∧ 0 < capacityOf l) = true := by decide +kernel
  obtain ⟨l, hl, hroom⟩ := (Option.any_eq_true ..).mp hroom
  obtain ⟨hi, hpeer, haggregate, hcapacity⟩ := of_decide_eq_true hroom
  exact ⟨l, hl, (replay_window hrun hl 0 1 44).1 [.begun 44] [.begun 45, .aborted 45] hlog hcapacity,
    (replay_window hrun hl 0 1 45).2.2.1 (by rw [hlog]; decide) (by rw [hlog]; decide)
      (by rw [hlog]; decide) ⟨0, by decide⟩ hi ⟨hpeer, haggregate⟩⟩

end Runs

end Wyrmroot.Accounting
