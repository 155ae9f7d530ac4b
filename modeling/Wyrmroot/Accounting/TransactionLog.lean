import Wyrmroot.Lib.Outcomes
import Wyrmroot.Lib.Replay
import Wyrmroot.Accounting.Runs

/-!
# The transaction log of a peer generation

Every peer generation has a log of the transactions begun, completed and
aborted in it (`peerLog`). Its live slots hold the ids the log leaves live,
and its replay array, used as a ring as large as the budget says, holds the
last completed ones (`PeerOk`). What a method does to the transactions of
its ledger is one move, or none (`Advances`); `LogsOk.advance` follows it.
-/

namespace Wyrmroot.Accounting

open Function Prog ReadinessAccounting

/-! ## Logs -/

/-- What happens to one transaction id. -/
inductive TxMove where
  | begun (t : Nat)
  | completed (t : Nat)
  | aborted (t : Nat)
deriving DecidableEq

namespace TxMove

def id : TxMove → Nat
  | .begun t => t
  | .completed t => t
  | .aborted t => t

def completedId : TxMove → Option Nat
  | .completed t => some t
  | _ => none

/-- Whether `t` is live behind this move. -/
def leaves (t : Nat) (live : Bool) : TxMove → Bool
  | .begun u => live || u == t
  | .completed u => live && u != t
  | .aborted u => live && u != t

end TxMove

/-- The completed ids, in order. -/
def completedIds (log : List TxMove) : List Nat := log.filterMap (·.completedId)

/-- Begun and neither completed nor aborted since. -/
def liveIn (log : List TxMove) (t : Nat) : Bool := log.foldl (TxMove.leaves t) false

@[simp] theorem completedIds_append (log log' : List TxMove) :
    completedIds (log ++ log') = completedIds log ++ completedIds log' := List.filterMap_append

@[simp] theorem liveIn_snoc (log : List TxMove) (move : TxMove) (t : Nat) :
    liveIn (log ++ [move]) t = move.leaves t (liveIn log t) := by
  rw [liveIn, List.foldl_append]
  rfl

theorem mem_completedIds {log : List TxMove} {t : Nat} :
    t ∈ completedIds log ↔ .completed t ∈ log := by
  rw [completedIds, List.mem_filterMap]
  constructor
  · rintro ⟨move, hmem, hmove⟩
    cases move with
    | completed u =>
        obtain rfl := Option.some.inj hmove
        exact hmem
    | begun u | aborted u => cases hmove
  · exact fun h => ⟨.completed t, h, rfl⟩

/-- The end of a transaction by token `j`, for one peer generation of ledger `k`. -/
def endedBy (k peer generation : Nat) (c : Controllers) (j : Nat) (move : Nat → TxMove) :
    List TxMove :=
  match c.ledgers[k]?, c.transactions[j]? with
  | some _, some token =>
      if token.peer = peer ∧ token.generation = generation then [move token.transactionId] else []
  | _, _ => []

/-- What a call did to the transactions of one peer generation of ledger `k`. -/
def moveOf (k peer generation : Nat) (call : AccountingCall) : List TxMove :=
  if call.outcome.isOk then
    match call.op with
    | .beginTransaction k' peer' generation' t =>
        if k' = k ∧ peer' = peer ∧ generation' = generation ∧ (call.before.ledgers[k]?).isSome
        then [.begun t] else []
    | .completeTransaction k' j =>
        if k' = k then endedBy k peer generation call.before j .completed else []
    | .abortTransaction k' j =>
        if k' = k then endedBy k peer generation call.before j .aborted else []
    | _ => []
  else []

def peerLog (k peer generation : Nat) (h : List AccountingCall) : List TxMove :=
  h.flatMap (moveOf k peer generation)

theorem peerLog_snoc (k peer generation : Nat) (h : List AccountingCall) (call : AccountingCall) :
    peerLog k peer generation (h ++ [call]) =
      peerLog k peer generation h ++ moveOf k peer generation call := by
  simp [peerLog]

/-! ## The ring in a peer's entry -/

variable {capacity : Nat} {p : PeerAccounting} {ring : Ring Nat capacity} {log : List TxMove}

/-- The used part of the replay array is this ring. -/
structure Remembers (p : PeerAccounting) (ring : Ring Nat capacity) : Prop where
  len_eq : p.replayLen = ring.len
  entries_eq : ∀ (i : Fin maxReplayEntriesPerPeer) (h : i.val < capacity),
    p.replay i = ring.entries ⟨i, h⟩
  next_eq : p.replayNext = (ring.start + ring.len) % capacity
  start_zero : ring.len < capacity → ring.start = 0

theorem slot_iff (hstart : ring.len < capacity → ring.start = 0) (j : Fin capacity) :
    j.val < ring.len ↔ ∃ i, i < ring.len ∧ ring.slot i = j := by
  have hj := j.isLt
  have hlt := ring.start_lt
  rcases Nat.lt_or_ge ring.len capacity with hlen | hlen
  · have hzero := hstart hlen
    have hslot : ∀ i, i < ring.len → ((ring.slot i).val = i) := by
      intro i hi
      show (ring.start + i) % capacity = i
      rw [hzero, Nat.zero_add, Nat.mod_eq_of_lt (Nat.lt_trans hi hlen)]
    constructor
    · intro h
      exact ⟨j, h, Fin.ext (hslot j h)⟩
    · rintro ⟨i, hi, rfl⟩
      rw [hslot i hi]
      exact hi
  · have hfull : ring.len = capacity := Nat.le_antisymm ring.len_le hlen
    refine iff_of_true (by omega) ⟨(j.val + (capacity - ring.start)) % capacity, ?_, ?_⟩
    · rw [hfull]
      exact Nat.mod_lt _ ring.pos
    · refine Fin.ext ?_
      show (ring.start + (j.val + (capacity - ring.start)) % capacity) % capacity = j.val
      rw [Nat.add_mod_mod, show ring.start + (j.val + (capacity - ring.start)) =
        j.val + capacity by omega, Nat.add_mod_right, Nat.mod_eq_of_lt hj]

theorem Remembers.contains_iff (h : Remembers p ring)
    (hcapacity : capacity ≤ maxReplayEntriesPerPeer)
    {t : Nat} : p.replayContains t = true ↔ t ∈ ring.toList := by
  simp only [PeerAccounting.replayContains, List.any_eq_true, List.mem_finRange, true_and,
    Bool.and_eq_true, decide_eq_true_eq, beq_iff_eq, Ring.toList, List.mem_map, List.mem_range,
    h.len_eq]
  have hle := ring.len_le
  constructor
  · rintro ⟨i, hi, rfl⟩
    obtain ⟨i', hi', hslot⟩ := (slot_iff h.start_zero ⟨i.val, by omega⟩).mp hi
    exact ⟨i', hi', by rw [hslot, h.entries_eq i (by omega)]⟩
  · rintro ⟨i, hi, rfl⟩
    have hslot := (slot_iff h.start_zero (ring.slot i)).mpr ⟨i, hi, rfl⟩
    exact ⟨⟨(ring.slot i).val, by omega⟩, hslot, h.entries_eq _ (ring.slot i).isLt⟩

theorem Remembers.push (h : Remembers p ring) (t : Nat)
    (hnext : p.replayNext < maxReplayEntriesPerPeer) :
    Remembers { p with
      replay := update p.replay ⟨p.replayNext, hnext⟩ t,
      replayNext := (p.replayNext + 1) % capacity,
      replayLen := if p.replayLen < capacity then p.replayLen + 1 else p.replayLen }
      (ring.push t) := by
  have hstart := ring.start_lt
  have hwrite : ∀ (at_ : Fin capacity), at_.val = p.replayNext →
      ∀ (i : Fin maxReplayEntriesPerPeer) (hi : i.val < capacity),
        update p.replay ⟨p.replayNext, hnext⟩ t i = update ring.entries at_ t ⟨i, hi⟩ := by
    intro at_ hat i hi
    by_cases heq : i.val = p.replayNext
    · have hi' : i = ⟨p.replayNext, hnext⟩ := Fin.ext heq
      have hat' : (⟨i.val, hi⟩ : Fin capacity) = at_ := Fin.ext (heq.trans hat.symm)
      rw [hat', hi', update_self, update_self]
    · have hi' : i ≠ ⟨p.replayNext, hnext⟩ := fun hc => heq (congrArg Fin.val hc)
      have hat' : (⟨i.val, hi⟩ : Fin capacity) ≠ at_ := fun hc =>
        heq ((congrArg Fin.val hc).trans hat)
      rw [update_of_ne hi', update_of_ne hat', h.entries_eq i hi]
  rw [Ring.push]
  by_cases hlen : ring.len < capacity
  · rw [dif_pos hlen, h.len_eq, if_pos hlen]
    refine ⟨rfl, hwrite _ h.next_eq.symm, ?_, fun hroom => h.start_zero hlen⟩
    show (p.replayNext + 1) % capacity = (ring.start + (ring.len + 1)) % capacity
    rw [h.next_eq, Nat.mod_add_mod, Nat.add_assoc]
  · have hfull : ring.len = capacity := Nat.le_antisymm ring.len_le (Nat.not_lt.mp hlen)
    have hnextEq : p.replayNext = ring.start := by
      rw [h.next_eq, hfull, Nat.add_mod_right, Nat.mod_eq_of_lt hstart]
    rw [dif_neg hlen, h.len_eq, if_neg hlen]
    refine ⟨rfl, hwrite _ hnextEq.symm, ?_, fun hroom => absurd hroom hlen⟩
    show (p.replayNext + 1) % capacity = ((ring.start + 1) % capacity + ring.len) % capacity
    rw [hnextEq, hfull, Nat.add_mod_right, Nat.mod_mod]

/-! ## One peer -/

/-- A peer's transactions are those its log leaves. -/
structure PeerOk (capacity : Nat) (p : PeerAccounting) (log : List TxMove) : Prop where
  ring : ∃ ring : Ring Nat capacity, Remembers p ring ∧
    ring.toList = window capacity (completedIds log)
  distinct : ∀ a b, p.liveTransactions a = p.liveTransactions b → p.liveTransactions a ≠ 0 → a = b
  live : ∀ t, t ≠ 0 → ((∃ slot, p.liveTransactions slot = t) ↔ liveIn log t = true)

/-- What `PeerOk` reads of an entry, and whose generation it is. -/
def PeerAccounting.txState (p : PeerAccounting) :=
  (p.active, p.generation, p.liveTransactions, p.replay, p.replayLen, p.replayNext)

theorem PeerOk.congr {p' : PeerAccounting} (h : PeerOk capacity p log)
    (hsame : p'.txState = p.txState) : PeerOk capacity p' log := by
  simp only [PeerAccounting.txState, Prod.mk.injEq] at hsame
  obtain ⟨-, -, hlive, hreplay, hlen, hnext⟩ := hsame
  obtain ⟨ring, hring, hwindow⟩ := h.ring
  exact ⟨⟨ring, ⟨hlen ▸ hring.len_eq, hreplay ▸ hring.entries_eq, hnext ▸ hring.next_eq,
    hring.start_zero⟩, hwindow⟩, hlive ▸ h.distinct, hlive ▸ h.live⟩

theorem livePosition_isSome {t : Nat} :
    (p.livePosition t).isSome = true ↔ ∃ slot, p.liveTransactions slot = t := by
  constructor
  · intro h
    obtain ⟨slot, hslot⟩ := Option.isSome_iff_exists.mp h
    exact ⟨slot, by simpa using position_some hslot⟩
  · rintro ⟨slot, rfl⟩
    obtain ⟨slot', hslot⟩ := position_isSome
      (p := fun i => p.liveTransactions i == p.liveTransactions slot) (i := slot) (by simp)
    exact Option.isSome_iff_exists.mpr ⟨slot', hslot⟩

theorem PeerOk.new (hcapacity : 0 < capacity) (hlive : p.liveTransactions = fun _ => 0)
    (hlen : p.replayLen = 0) (hnext : p.replayNext = 0) (hreplay : p.replay = fun _ => 0) :
    PeerOk capacity p [] := by
  refine ⟨⟨Ring.new 0 hcapacity, ⟨hlen, fun i _ => by rw [hreplay]; rfl, ?_, fun _ => rfl⟩,
    by simp [completedIds, window]⟩,
    fun a b _ hne => absurd (by rw [hlive]) hne, fun t ht => iff_of_false ?_ nofun⟩
  · rw [hnext]
    exact (Nat.zero_mod _).symm
  · rintro ⟨slot, rfl⟩
    exact ht (by rw [hlive])

section Slots

variable {slot : Fin maxLiveTransactionsPerPeer} {t : Nat}

theorem PeerOk.begun (h : PeerOk capacity p log) (hfree : p.liveTransactions slot = 0)
    (hnew : ¬ ∃ slot, p.liveTransactions slot = t) (counters : Counters) :
    PeerOk capacity { p with counters, liveTransactions := update p.liveTransactions slot t }
      (log ++ [.begun t]) := by
  obtain ⟨ring, hring, hwindow⟩ := h.ring
  refine ⟨⟨ring, ⟨hring.len_eq, hring.entries_eq, hring.next_eq, hring.start_zero⟩, ?_⟩, ?_, ?_⟩
  · simpa [completedIds, TxMove.completedId] using hwindow
  · intro a b heq hne
    by_cases ha : a = slot <;> by_cases hb : b = slot
    · rw [ha, hb]
    · simp only [ha, update_self, update_of_ne hb] at heq
      exact absurd ⟨b, heq.symm⟩ hnew
    · simp only [hb, update_self, update_of_ne ha] at heq
      exact absurd ⟨a, heq⟩ hnew
    · simp only [update_of_ne ha, update_of_ne hb] at heq hne
      exact h.distinct a b heq hne
  · intro u hu
    rw [liveIn_snoc, TxMove.leaves, Bool.or_eq_true, beq_iff_eq, ← h.live u hu]
    constructor
    · rintro ⟨a, ha⟩
      by_cases heq : a = slot
      · simp only [heq, update_self] at ha
        exact .inr ha
      · simp only [update_of_ne heq] at ha
        exact .inl ⟨a, ha⟩
    · rintro (⟨a, ha⟩ | rfl)
      · refine ⟨a, ?_⟩
        have heq : a ≠ slot := by
          rintro rfl
          exact hu (ha.symm.trans hfree)
        simpa only [update_of_ne heq] using ha
      · exact ⟨slot, by simp only [update_self]⟩

theorem PeerOk.vacate (h : PeerOk capacity p log) (hlive : p.liveTransactions slot = t)
    (ht : t ≠ 0) :
    (∀ a b, update p.liveTransactions slot 0 a = update p.liveTransactions slot 0 b →
      update p.liveTransactions slot 0 a ≠ 0 → a = b) ∧
    ∀ u, u ≠ 0 → ((∃ a, update p.liveTransactions slot 0 a = u) ↔ (liveIn log u && t != u) = true) := by
  refine ⟨fun a b heq hne => ?_, fun u hu => ?_⟩
  · have ha : a ≠ slot := by
      rintro rfl
      exact hne (update_self ..)
    have hb : b ≠ slot := by
      rintro rfl
      rw [heq] at hne
      exact hne (update_self ..)
    rw [update_of_ne ha] at heq hne
    rw [update_of_ne hb] at heq
    exact h.distinct a b heq hne
  · rw [Bool.and_eq_true, bne_iff_ne, ← h.live u hu]
    constructor
    · rintro ⟨a, ha⟩
      have hne : a ≠ slot := by
        rintro rfl
        exact hu (ha.symm.trans (update_self ..))
      rw [update_of_ne hne] at ha
      refine ⟨⟨a, ha⟩, ?_⟩
      rintro rfl
      exact hne (h.distinct a slot (ha.trans hlive.symm) (ha.symm ▸ ht))
    · rintro ⟨⟨a, ha⟩, hne⟩
      refine ⟨a, ?_⟩
      have hslot : a ≠ slot := by
        rintro rfl
        exact hne (hlive.symm.trans ha)
      rw [update_of_ne hslot, ha]

theorem PeerOk.aborted (h : PeerOk capacity p log) (hlive : p.liveTransactions slot = t)
    (ht : t ≠ 0)
    (counters : Counters) :
    PeerOk capacity { p with liveTransactions := update p.liveTransactions slot 0, counters }
      (log ++ [.aborted t]) := by
  obtain ⟨ring, hring, hwindow⟩ := h.ring
  obtain ⟨hdistinct, hslots⟩ := h.vacate hlive ht
  refine ⟨⟨ring, ⟨hring.len_eq, hring.entries_eq, hring.next_eq, hring.start_zero⟩, ?_⟩,
    hdistinct, fun u hu => ?_⟩
  · simpa [completedIds, TxMove.completedId] using hwindow
  · rw [liveIn_snoc]
    exact hslots u hu

theorem PeerOk.completed (h : PeerOk capacity p log) (hlive : p.liveTransactions slot = t)
    (ht : t ≠ 0) (hnext : p.replayNext < maxReplayEntriesPerPeer) (counters : Counters) :
    PeerOk capacity { p with
      liveTransactions := update p.liveTransactions slot 0, counters,
      replay := update p.replay ⟨p.replayNext, hnext⟩ t,
      replayNext := (p.replayNext + 1) % capacity,
      replayLen := if p.replayLen < capacity then p.replayLen + 1 else p.replayLen }
      (log ++ [.completed t]) := by
  obtain ⟨ring, hring, hwindow⟩ := h.ring
  obtain ⟨hdistinct, hslots⟩ := h.vacate hlive ht
  have hpush := hring.push t hnext
  refine ⟨⟨ring.push t, ⟨hpush.len_eq, hpush.entries_eq, hpush.next_eq, hpush.start_zero⟩, ?_⟩,
    hdistinct, fun u hu => ?_⟩
  · rw [ring.toList_push hwindow, completedIds_append]
    rfl
  · rw [liveIn_snoc]
    exact hslots u hu

end Slots

/-! ## One ledger -/

def capacityOf (l : ReadinessAccounting) : Nat := (l.budgets .completedReplayEntries).perPeer

/-- What a call that succeeds does to the transactions of a ledger: a move in
one peer generation, or none. -/
inductive Advances (l : ReadinessAccounting) :
    Option (Nat × Nat × TxMove) → ReadinessAccounting → Prop
  | quiet {l' : ReadinessAccounting} (hbudgets : l'.budgets = l.budgets)
      (hsame : ∀ i, (l'.peers i).txState = (l.peers i).txState) : Advances l none l'
  | opened {l' : ReadinessAccounting} {i : Fin maxAccountedPeers} {g : Nat} {p : PeerAccounting}
      (hbudgets : l'.budgets = l.budgets) (hg : (l.peers i).generation < g)
      (hpeers : l'.peers = update l.peers i p)
      (hnew : p.txState = (true, g, fun _ => 0, fun _ => 0, 0, 0)) : Advances l none l'
  | retired {l' : ReadinessAccounting} {i : Fin maxAccountedPeers} {p : PeerAccounting}
      (hbudgets : l'.budgets = l.budgets) (hpeers : l'.peers = update l.peers i p) (hactive : p.active = false)
      (hgeneration : p.generation = (l.peers i).generation) : Advances l none l'
  | begun {l' : ReadinessAccounting} {i : Fin maxAccountedPeers}
      {slot : Fin maxLiveTransactionsPerPeer} {t : Nat} {counters : Counters} (hbudgets : l'.budgets = l.budgets)
      (hactive : (l.peers i).active = true) (hfree : (l.peers i).liveTransactions slot = 0)
      (hnew : ¬ ∃ slot, (l.peers i).liveTransactions slot = t)
      (hfresh : (l.peers i).replayContains t = false) (ht : t ≠ 0)
      (hpeers : l'.peers = update l.peers i { l.peers i with
        counters, liveTransactions := update (l.peers i).liveTransactions slot t }) :
      Advances l (some (i, (l.peers i).generation, .begun t)) l'
  | completed {l' : ReadinessAccounting} {i : Fin maxAccountedPeers}
      {slot : Fin maxLiveTransactionsPerPeer} {t : Nat} {counters : Counters} (hbudgets : l'.budgets = l.budgets)
      (hactive : (l.peers i).active = true) (hlive : (l.peers i).liveTransactions slot = t)
      (ht : t ≠ 0) (hnext : (l.peers i).replayNext < maxReplayEntriesPerPeer)
      (hpeers : l'.peers = update l.peers i { l.peers i with
        liveTransactions := update (l.peers i).liveTransactions slot 0, counters,
        replay := update (l.peers i).replay ⟨(l.peers i).replayNext, hnext⟩ t,
        replayNext := ((l.peers i).replayNext + 1) % capacityOf l,
        replayLen := if (l.peers i).replayLen < capacityOf l then (l.peers i).replayLen + 1
          else (l.peers i).replayLen }) :
      Advances l (some (i, (l.peers i).generation, .completed t)) l'
  | aborted {l' : ReadinessAccounting} {i : Fin maxAccountedPeers}
      {slot : Fin maxLiveTransactionsPerPeer} {t : Nat} {counters : Counters} (hbudgets : l'.budgets = l.budgets)
      (hactive : (l.peers i).active = true) (hlive : (l.peers i).liveTransactions slot = t)
      (ht : t ≠ 0) (hpeers : l'.peers = update l.peers i { l.peers i with
        liveTransactions := update (l.peers i).liveTransactions slot 0, counters }) :
      Advances l (some (i, (l.peers i).generation, .aborted t)) l'

variable {l l' : ReadinessAccounting} {logs : Nat → Nat → List TxMove}

theorem Advances.budgets_eq {move : Option (Nat × Nat × TxMove)} (h : Advances l move l') :
    l'.budgets = l.budgets := by
  cases h <;> assumption

section Methods

theorem quiet_setPeer {i : Fin maxAccountedPeers} {p : PeerAccounting} {aggregate : Counters}
    (h : p.txState = (l.peers i).txState) :
    Advances l none { l.setPeer i p with aggregate } := by
  refine .quiet rfl fun j => ?_
  by_cases hj : j = i
  · rw [hj]
    simpa [ReadinessAccounting.setPeer] using h
  · simp [ReadinessAccounting.setPeer, hj]

theorem reserve_advances (peer g : Nat) (request : ReservationRequest) :
    OnOk (reserve peer g request) (fun _ l' => Advances l none l') l := by
  refine onOk_get_bind ?_
  split
  · exact onOk_throw _
  · exact onOk_lift_bind fun i _ => onOk_lift_bind fun next _ =>
      onOk_set_bind (onOk_pure (quiet_setPeer rfl))

theorem publish_advances (token : ReservationToken) :
    OnOk publish (fun _ s' => Advances l none s'.1) (l, token) := by
  refine onOk_get_bind ?_
  refine onOk_lift_bind fun _ _ => ?_
  cases token.state with
  | reserved => exact onOk_set (.quiet rfl fun _ => rfl)
  | published | released => exact onOk_throw _

theorem release_advances (token : ReservationToken) :
    OnOk release (fun _ s' => Advances l none s'.1) (l, token) := by
  refine onOk_get_bind ?_
  refine onOk_lift_bind fun _ _ => ?_
  split
  · exact onOk_throw _
  · exact onOk_lift_bind fun i _ => onOk_lift_bind fun next _ => onOk_set (quiet_setPeer rfl)

theorem recordRestartHistory_advances (peer g : Nat) (record : Restart.AttemptRecord) :
    OnOk (recordRestartHistory peer g record) (fun _ l' => Advances l none l') l := by
  refine onOk_get_bind ?_
  refine onOk_lift_bind fun i _ => ?_
  dsimp only
  split
  · exact onOk_throw _
  split
  · exact onOk_throw _
  · exact onOk_lift_bind fun _ _ => onOk_lift_bind fun _ _ => onOk_set (quiet_setPeer rfl)

theorem finishRestartEpisode_advances (peer : Nat) :
    OnOk (finishRestartEpisode peer) (fun _ l' => Advances l none l') l := by
  refine onOk_get_bind ?_
  refine onOk_lift_bind fun i _ => ?_
  dsimp only
  split
  · exact onOk_throw _
  · exact onOk_lift_bind fun _ _ => onOk_set_bind (onOk_pure (quiet_setPeer rfl))

theorem beginGeneration_advances (peer g : Nat) :
    OnOk (beginGeneration peer g) (fun _ l' => Advances l none l') l := by
  refine onOk_get_bind ?_
  split
  · exact onOk_throw _
  refine onOk_lift_bind fun i _ => ?_
  dsimp only
  split
  · exact onOk_throw _
  split
  · exact onOk_throw _
  rename_i hg
  exact onOk_lift_bind fun _ _ => onOk_set (.opened rfl (Nat.lt_of_not_le hg) rfl rfl)

theorem retireGeneration_advances (peer g : Nat) :
    OnOk (retireGeneration peer g) (fun _ l' => Advances l none l') l := by
  refine onOk_get_bind ?_
  refine onOk_lift_bind fun i _ => ?_
  dsimp only
  split
  · exact onOk_throw _
  split
  · exact onOk_throw _
  split
  · exact onOk_throw _
  · exact onOk_lift_bind fun _ _ => onOk_set_bind (onOk_pure (.retired rfl rfl rfl rfl))

theorem beginTransaction_advances (peer g t : Nat) :
    OnOk (beginTransaction peer g t)
      (fun _ l' => Advances l (some (peer, g, .begun t)) l') l := by
  refine onOk_get_bind ?_
  split
  · exact onOk_throw _
  rename_i ht
  refine onOk_lift_bind fun i hi => ?_
  obtain ⟨rfl, hactive, rfl, -⟩ := validateGeneration_eq_ok.mp hi
  dsimp only
  split
  · exact onOk_throw _
  rename_i hnew
  split
  · exact onOk_throw _
  rename_i hfresh
  split
  · exact onOk_throw _
  rename_i slot hslot
  have hfree : (l.peers i).liveTransactions slot = 0 := by simpa using position_some hslot
  exact onOk_lift_bind fun _ _ => onOk_lift_bind fun _ _ => onOk_set_bind (onOk_pure
    (.begun rfl hactive hfree (fun h => hnew (livePosition_isSome.mpr h))
      (Bool.eq_false_iff.mpr hfresh) ht rfl))

theorem completeTransaction_advances {token : TransactionToken} (ht : token.transactionId ≠ 0) :
    OnOk completeTransaction (fun _ s' =>
      Advances l (some (token.peer, token.generation, .completed token.transactionId)) s'.1)
      (l, token) := by
  refine onOk_get_bind ?_
  refine onOk_lift_bind fun i hi => ?_
  obtain ⟨-, -, hi⟩ := validateTransactionToken_eq_ok.mp hi
  obtain ⟨hpeer, hactive, hgeneration, -⟩ := validateGeneration_eq_ok.mp hi
  rw [← hpeer, ← hgeneration]
  dsimp only
  split
  · exact onOk_throw _
  rename_i slot hslot
  have hlive : (l.peers i).liveTransactions slot = token.transactionId := by
    simpa using position_some hslot
  refine onOk_lift_bind fun _ _ => onOk_lift_bind fun _ _ => onOk_lift_bind fun _ _ =>
    onOk_lift_bind fun _ _ => ?_
  split
  · rename_i hnext
    simp only [decide_eq_true_eq]
    exact onOk_set (.completed rfl hactive hlive ht hnext.1 rfl)
  · exact fun _ => nofun

theorem abortTransaction_advances {token : TransactionToken} (ht : token.transactionId ≠ 0) :
    OnOk abortTransaction (fun _ s' =>
      Advances l (some (token.peer, token.generation, .aborted token.transactionId)) s'.1)
      (l, token) := by
  refine onOk_get_bind ?_
  refine onOk_lift_bind fun i hi => ?_
  obtain ⟨-, -, hi⟩ := validateTransactionToken_eq_ok.mp hi
  obtain ⟨hpeer, hactive, hgeneration, -⟩ := validateGeneration_eq_ok.mp hi
  rw [← hpeer, ← hgeneration]
  dsimp only
  split
  · exact onOk_throw _
  rename_i slot hslot
  have hlive : (l.peers i).liveTransactions slot = token.transactionId := by
    simpa using position_some hslot
  exact onOk_lift_bind fun _ _ => onOk_lift_bind fun _ _ =>
    onOk_set (.aborted rfl hactive hlive ht rfl)

end Methods

/-- Every active peer of a ledger agrees with its log, and a generation that
has not begun has none. -/
structure LogsOk (l : ReadinessAccounting) (logs : Nat → Nat → List TxMove) : Prop where
  active : ∀ i, (l.peers i).active = true →
    PeerOk (capacityOf l) (l.peers i) (logs i (l.peers i).generation)
  future : ∀ (i : Fin maxAccountedPeers) g, (l.peers i).generation < g → logs i g = []
  nonzero : ∀ peer g, ∀ move ∈ logs peer g, move.id ≠ 0

/-- What a move adds to the log of one peer generation. -/
def addedBy (move : Option (Nat × Nat × TxMove)) (peer generation : Nat) : List TxMove :=
  (move.filter fun m => m.1 = peer ∧ m.2.1 = generation).toList.map (·.2.2)

@[simp] theorem addedBy_none (peer generation : Nat) : addedBy none peer generation = [] := rfl

theorem addedBy_some (peer' generation' peer generation : Nat) (move : TxMove) :
    addedBy (some (peer', generation', move)) peer generation =
      if peer' = peer ∧ generation' = generation then [move] else [] := by
  unfold addedBy
  by_cases hhere : peer' = peer ∧ generation' = generation
  · simp [hhere]
  · rw [if_neg hhere]
    simpa using not_and.mp hhere

theorem LogsOk.update_peer (h : LogsOk l logs) (hbudgets : l'.budgets = l.budgets)
    {i : Fin maxAccountedPeers} {p : PeerAccounting} (hpeers : l'.peers = update l.peers i p)
    (hgeneration : p.generation = (l.peers i).generation) {move : TxMove}
    (hp : PeerOk (capacityOf l) p (logs i (l.peers i).generation ++ [move])) (ht : move.id ≠ 0) :
    LogsOk l' fun peer g =>
      logs peer g ++ addedBy (some (i, (l.peers i).generation, move)) peer g := by
  have hcapacity : capacityOf l' = capacityOf l := by rw [capacityOf, hbudgets, capacityOf]
  refine ⟨fun j hj => ?_, fun j g hg => ?_, fun peer g m hm => ?_⟩
  · rw [hcapacity, hpeers, addedBy_some]
    by_cases hji : j = i
    · subst hji
      rwa [update_self, hgeneration, if_pos ⟨rfl, rfl⟩]
    · rw [hpeers, update_of_ne hji] at hj
      rw [update_of_ne hji, if_neg fun hc => hji (Fin.ext hc.1.symm), List.append_nil]
      exact h.active j hj
  · rw [hpeers] at hg
    rw [addedBy_some]
    by_cases hji : j = i
    · subst hji
      rw [update_self, hgeneration] at hg
      rw [h.future j g hg, if_neg fun hc => Nat.ne_of_lt hg hc.2]
      rfl
    · rw [update_of_ne hji] at hg
      rw [h.future j g hg, if_neg fun hc => hji (Fin.ext hc.1.symm)]
      rfl
  · rw [addedBy_some] at hm
    rcases List.mem_append.mp hm with hm | hm
    · exact h.nonzero peer g m hm
    · split at hm
      · rwa [List.mem_singleton.mp hm]
      · cases hm

theorem LogsOk.advance (h : LogsOk l logs) (hcapacity : 0 < capacityOf l)
    {move : Option (Nat × Nat × TxMove)} (hstep : Advances l move l') :
    LogsOk l' fun peer g => logs peer g ++ addedBy move peer g := by
  have hsame : capacityOf l' = capacityOf l := by rw [capacityOf, hstep.budgets_eq, capacityOf]
  cases hstep with
  | quiet hbudgets htx =>
      simp only [addedBy_none, List.append_nil]
      refine ⟨fun i hi => ?_, fun i g hg => h.future i g ?_, h.nonzero⟩
      · have hstate := htx i
        simp only [PeerAccounting.txState, Prod.mk.injEq] at hstate
        rw [hsame, hstate.2.1]
        exact (h.active i (hstate.1 ▸ hi)).congr (htx i)
      · have hstate := htx i
        simp only [PeerAccounting.txState, Prod.mk.injEq] at hstate
        rwa [hstate.2.1] at hg
  | @opened _ i g p hbudgets hg hpeers hnew =>
      simp only [addedBy_none, List.append_nil]
      simp only [PeerAccounting.txState, Prod.mk.injEq] at hnew
      obtain ⟨-, hgeneration, hlive, hreplay, hlen, hnext⟩ := hnew
      refine ⟨fun j hj => ?_, fun j g' hg' => ?_, h.nonzero⟩
      · rw [hsame, hpeers]
        by_cases hji : j = i
        · rw [hji, update_self, hgeneration, h.future i g hg]
          exact .new hcapacity hlive hlen hnext hreplay
        · rw [hpeers, update_of_ne hji] at hj
          rw [update_of_ne hji]
          exact h.active j hj
      · rw [hpeers] at hg'
        by_cases hji : j = i
        · rw [hji, update_self, hgeneration] at hg'
          rw [hji]
          exact h.future i g' (Nat.lt_trans hg hg')
        · rw [update_of_ne hji] at hg'
          exact h.future j g' hg'
  | @retired _ i p hbudgets hpeers hactive hgeneration =>
      simp only [addedBy_none, List.append_nil]
      refine ⟨fun j hj => ?_, fun j g' hg' => ?_, h.nonzero⟩
      · rw [hpeers] at hj
        by_cases hji : j = i
        · rw [hji, update_self, hactive] at hj
          cases hj
        · rw [update_of_ne hji] at hj
          rw [hsame, hpeers, update_of_ne hji]
          exact h.active j hj
      · rw [hpeers] at hg'
        by_cases hji : j = i
        · rw [hji, update_self, hgeneration] at hg'
          rw [hji]
          exact h.future i g' hg'
        · rw [update_of_ne hji] at hg'
          exact h.future j g' hg'
  | begun hbudgets hactive hfree hnew _ ht hpeers =>
      exact h.update_peer hbudgets hpeers rfl ((h.active _ hactive).begun hfree hnew _) ht
  | completed hbudgets hactive hlive ht hnext hpeers =>
      exact h.update_peer hbudgets hpeers rfl ((h.active _ hactive).completed hlive ht hnext _) ht
  | aborted hbudgets hactive hlive ht hpeers =>
      exact h.update_peer hbudgets hpeers rfl ((h.active _ hactive).aborted hlive ht _) ht

end Wyrmroot.Accounting
