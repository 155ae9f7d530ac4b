import Mathlib.Data.List.Basic
import Mathlib.Data.List.Induction
import Mathlib.Data.List.TakeDrop

/-!
# Replay windows

A peer's requests carry transaction ids. An id is accepted, stays open
while the request is worked on, and is completed; a bounded window of the
latest completions is remembered so that an old request cannot be played
again.

- `Ring` is the circular buffer a fixed-memory implementation keeps, and
  `Ring.toList_push` says it holds the last `n` values pushed.
- `Guarded` is the discipline on the log of accepts and completions of one
  peer, and `Guarded.replay_protected` what it buys: between two accepts of
  one id lie its completion and `n` completions of others.
-/

namespace Wyrmroot

open Function

/-- The last `n` elements. -/
def window {α : Type} (n : Nat) (l : List α) : List α := l.drop (l.length - n)

section Window

variable {α : Type} {n : Nat} {l : List α} {a : α}

theorem window_of_length_le (h : l.length ≤ n) : window n l = l := by
  rw [window, Nat.sub_eq_zero_of_le h, List.drop_zero]

theorem length_window : (window n l).length = min n l.length := by
  rw [window, List.length_drop]
  omega

theorem window_snoc_of_lt (h : l.length < n) : window n (l ++ [a]) = window n l ++ [a] := by
  rw [window_of_length_le (Nat.le_of_lt h), window_of_length_le (by simp; omega)]

theorem window_snoc_of_le (hn : 0 < n) (h : n ≤ l.length) :
    window n (l ++ [a]) = (window n l).tail ++ [a] := by
  rw [window, window, List.tail_drop, List.length_append, List.length_singleton,
    List.drop_append_of_le_length (by omega)]
  congr 2
  omega

/-- An element with fewer than `n` elements after it is in the window. -/
theorem mem_window_of_short {l₁ l₂ : List α} (h : l₂.length < n) :
    a ∈ window n (l₁ ++ a :: l₂) := by
  have hle : l₁.length + (l₂.length + 1) - n ≤ l₁.length := by omega
  rw [window, List.length_append, List.length_cons, List.drop_append_of_le_length hle]
  simp

end Window

/-! ## The circular buffer -/

/-- `entries` holds `len` values, the oldest at `start`. -/
structure Ring (α : Type) (n : Nat) where
  entries : Fin n → α
  start : Nat
  len : Nat
  start_lt : start < n
  len_le : len ≤ n

namespace Ring

variable {α : Type} {n : Nat}

theorem pos (r : Ring α n) : 0 < n := Nat.lt_of_le_of_lt (Nat.zero_le _) r.start_lt

def new (a : α) (hn : 0 < n) : Ring α n := ⟨fun _ => a, 0, 0, hn, Nat.zero_le _⟩

/-- The position of the `i`-th oldest value. -/
def slot (r : Ring α n) (i : Nat) : Fin n := ⟨(r.start + i) % n, Nat.mod_lt _ r.pos⟩

def contains [BEq α] (r : Ring α n) (a : α) : Bool :=
  (List.range r.len).any fun i => r.entries (r.slot i) == a

/-- Append while there is room, else overwrite the oldest. -/
def push (r : Ring α n) (a : α) : Ring α n :=
  if h : r.len < n then
    { r with entries := update r.entries (r.slot r.len) a, len := r.len + 1, len_le := h }
  else
    { r with
      entries := update r.entries ⟨r.start, r.start_lt⟩ a,
      start := (r.start + 1) % n, start_lt := Nat.mod_lt _ r.pos }

/-- The values, oldest first. -/
def toList (r : Ring α n) : List α := (List.range r.len).map fun i => r.entries (r.slot i)

@[simp] theorem toList_new (a : α) (hn : 0 < n) : (new a hn).toList = [] := rfl

@[simp] theorem length_toList (r : Ring α n) : r.toList.length = r.len := by
  simp [toList]

variable {r : Ring α n}

theorem contains_iff [BEq α] [LawfulBEq α] {a : α} :
    r.contains a = true ↔ a ∈ r.toList := by
  simp [contains, toList]

theorem slot_ne_of_lt {i j : Nat} (hij : i < j) (hj : j < n) :
    r.slot i ≠ r.slot j := by
  intro h
  have hmod : (r.start + i) % n = (r.start + j) % n := congrArg Fin.val h
  have hstart := r.start_lt
  rcases Nat.lt_or_ge (r.start + j) n with hlt | hge
  · rw [Nat.mod_eq_of_lt hlt, Nat.mod_eq_of_lt (by omega)] at hmod
    omega
  · have hj' : (r.start + j) % n = r.start + j - n := by
      rw [Nat.mod_eq_sub_mod hge, Nat.mod_eq_of_lt (by omega)]
    rcases Nat.lt_or_ge (r.start + i) n with hlt' | hge'
    · rw [hj', Nat.mod_eq_of_lt hlt'] at hmod
      omega
    · rw [hj', Nat.mod_eq_sub_mod hge', Nat.mod_eq_of_lt (by omega)] at hmod
      omega

theorem toList_push_of_lt (h : r.len < n) (a : α) :
    (r.push a).toList = r.toList ++ [a] := by
  have hat : ∀ i, (r.push a).slot i = r.slot i := fun i => by simp [push, h, slot]
  simp only [toList, hat]
  simp only [push, h, dif_pos, List.range_succ, List.map_append, List.map_cons, List.map_nil,
    update_self]
  congr 1
  refine List.map_congr_left fun i hi => ?_
  exact update_of_ne (slot_ne_of_lt (List.mem_range.mp hi) h) _ _

theorem toList_push_of_full (h : ¬ r.len < n) (a : α) :
    (r.push a).toList = r.toList.tail ++ [a] := by
  have hlen : r.len = n := Nat.le_antisymm r.len_le (Nat.not_lt.mp h)
  obtain ⟨m, rfl⟩ := Nat.exists_eq_succ_of_ne_zero (Nat.ne_of_gt r.pos)
  have hstart := r.start_lt
  -- the new `i`-th oldest is the old `i + 1`-st, and the slot written is the last one
  have hat : ∀ i, (r.push a).slot i = r.slot (i + 1) := by
    intro i
    simp only [push, h, dif_neg, not_false_eq_true, slot, Fin.mk.injEq, Nat.mod_add_mod]
    congr 1
    omega
  have hfirst : r.slot 0 = ⟨r.start, r.start_lt⟩ := by
    simp [slot, Nat.mod_eq_of_lt hstart]
  have hlast : r.slot (m + 1) = ⟨r.start, r.start_lt⟩ := by
    simp [slot, Nat.mod_eq_of_lt hstart]
  have hentries : (r.push a).entries = update r.entries ⟨r.start, r.start_lt⟩ a := by
    simp [push, h]
  have hlen' : (r.push a).len = m + 1 := by simp [push, hlen]
  have hold : r.toList.tail = (List.range m).map fun i => r.entries (r.slot (i + 1)) := by
    simp [toList, hlen, List.range_succ_eq_map]
  rw [hold]
  simp only [toList, hat, hentries, hlen', List.range_succ, List.map_append, List.map_cons,
    List.map_nil, hlast, update_self]
  congr 1
  refine List.map_congr_left fun i hi => ?_
  have hne : r.slot (i + 1) ≠ ⟨r.start, r.start_lt⟩ := by
    rw [← hfirst]
    exact (slot_ne_of_lt (Nat.succ_pos i) (Nat.succ_lt_succ (List.mem_range.mp hi))).symm
  exact update_of_ne hne _ _

/-- The ring keeps the window of what was pushed. -/
theorem toList_push {l : List α} (h : r.toList = window n l) (a : α) :
    (r.push a).toList = window n (l ++ [a]) := by
  have hlen : r.len = min n l.length := by rw [← length_toList, h, length_window]
  by_cases hlt : r.len < n
  · rw [toList_push_of_lt hlt, h, window_snoc_of_lt (by omega)]
  · rw [toList_push_of_full hlt, h, window_snoc_of_le r.pos (by omega)]

end Ring

/-! ## The log of one peer -/

/-- One peer's log: an id is accepted, an id is completed. -/
inductive TxStep (α : Type) where
  | accepted (t : α)
  | completed (t : α)
deriving DecidableEq

section Log

variable {α : Type} {n : Nat}

/-- The completed ids, in order. -/
def completions (log : List (TxStep α)) : List α :=
  log.filterMap fun
    | .accepted _ => none
    | .completed t => some t

@[simp] theorem completions_nil : completions ([] : List (TxStep α)) = [] := rfl

@[simp] theorem completions_append (log log' : List (TxStep α)) :
    completions (log ++ log') = completions log ++ completions log' :=
  List.filterMap_append

@[simp] theorem completions_accepted (t : α) (log : List (TxStep α)) :
    completions (.accepted t :: log) = completions log := rfl

@[simp] theorem completions_completed (t : α) (log : List (TxStep α)) :
    completions (.completed t :: log) = t :: completions log := rfl

theorem completed_mem_of_mem_completions {t : α} {log : List (TxStep α)}
    (h : t ∈ completions log) : TxStep.completed t ∈ log := by
  obtain ⟨step, hmem, hstep⟩ := List.mem_filterMap.mp h
  cases step with
  | accepted _ => cases hstep
  | completed t' =>
      obtain rfl := Option.some.inj hstep
      exact hmem

/-- Split at the last occurrence of an element. -/
theorem exists_last_split {β : Type} {b : β} {l : List β} (h : b ∈ l) :
    ∃ l₁ l₂, l = l₁ ++ b :: l₂ ∧ b ∉ l₂ := by
  obtain ⟨r₁, r₂, hr, hnot⟩ := List.eq_append_cons_of_mem (List.mem_reverse.mpr h)
  refine ⟨r₂.reverse, r₁.reverse, ?_, by simpa using hnot⟩
  rw [← List.reverse_reverse l, hr]
  simp

/-- `Guarded n log live`: every id was accepted while neither live nor among
the last `n` completions, only live ids were completed, and `live` are the
ids accepted and not completed. -/
inductive Guarded (n : Nat) : List (TxStep α) → (α → Prop) → Prop
  | nil {live : α → Prop} : (∀ t, ¬ live t) → Guarded n [] live
  | accept {log : List (TxStep α)} {live live' : α → Prop} {t : α} : Guarded n log live →
      ¬ live t → t ∉ window n (completions log) → (∀ u, live' u ↔ live u ∨ u = t) →
      Guarded n (log ++ [.accepted t]) live'
  | complete {log : List (TxStep α)} {live live' : α → Prop} {t : α} : Guarded n log live →
      live t → (∀ u, live' u ↔ live u ∧ u ≠ t) → Guarded n (log ++ [.completed t]) live'

namespace Guarded

variable {log : List (TxStep α)} {live : α → Prop} {t : α} {log' : List (TxStep α)}

theorem take (h : Guarded n (log ++ log') live) :
    ∃ live', Guarded n log live' := by
  induction log' using List.reverseRecOn generalizing live with
  | nil => exact ⟨live, by simpa using h⟩
  | append_singleton log' step ih =>
      rw [← List.append_assoc] at h
      generalize hg : log ++ log' ++ [step] = whole at h
      cases h with
      | nil _ => simp at hg
      | accept hprev _ _ _ | complete hprev _ _ =>
          obtain ⟨rfl, -⟩ := List.append_inj' hg rfl
          exact ih hprev

/-- What held of the log when an id in it was accepted. -/
theorem at_accept (h : Guarded n (log ++ .accepted t :: log') live) :
    ∃ live', Guarded n log live' ∧ ¬ live' t ∧ t ∉ window n (completions log) := by
  have h' : Guarded n ((log ++ [.accepted t]) ++ log') live := by simpa using h
  obtain ⟨live', hpre⟩ := h'.take
  generalize hg : log ++ [.accepted t] = whole at hpre
  cases hpre with
  | nil _ => simp at hg
  | accept hprev hlive hwindow _ =>
      obtain ⟨rfl, hstep⟩ := List.append_inj' hg rfl
      obtain rfl := TxStep.accepted.inj (List.cons.inj hstep).1
      exact ⟨_, hprev, hlive, hwindow⟩
  | complete _ _ _ =>
      obtain ⟨-, hstep⟩ := List.append_inj' hg rfl
      cases (List.cons.inj hstep).1

/-- An accepted id is live until it is completed. -/
theorem live_or_completed
    (h : Guarded n (log ++ .accepted t :: log') live) : live t ∨ .completed t ∈ log' := by
  induction log' using List.reverseRecOn generalizing live with
  | nil =>
      generalize hg : log ++ [TxStep.accepted t] = whole at h
      cases h with
      | nil _ => simp at hg
      | accept _ _ _ hlive =>
          obtain ⟨-, hstep⟩ := List.append_inj' hg rfl
          obtain rfl := TxStep.accepted.inj (List.cons.inj hstep).1
          exact Or.inl ((hlive _).mpr (Or.inr rfl))
      | complete _ _ _ =>
          obtain ⟨-, hstep⟩ := List.append_inj' hg rfl
          cases (List.cons.inj hstep).1
  | append_singleton log' step ih =>
      have hassoc : log ++ .accepted t :: (log' ++ [step])
          = (log ++ .accepted t :: log') ++ [step] := by simp
      rw [hassoc] at h
      generalize hg : (log ++ .accepted t :: log') ++ [step] = whole at h
      cases h with
      | nil _ => simp at hg
      | accept hprev _ _ hlive =>
          obtain ⟨rfl, -⟩ := List.append_inj' hg rfl
          rcases ih hprev with hl | hc
          · exact Or.inl ((hlive t).mpr (Or.inl hl))
          · exact Or.inr (by simp [hc])
      | @complete _ _ _ u hprev _ hlive =>
          obtain ⟨rfl, hstep⟩ := List.append_inj' hg rfl
          obtain rfl := (List.cons.inj hstep).1
          by_cases htu : t = u
          · subst htu
            exact Or.inr (by simp)
          · rcases ih hprev with hl | hc
            · exact Or.inl ((hlive t).mpr ⟨hl, htu⟩)
            · exact Or.inr (by simp [hc])

/-- A live id was accepted. -/
theorem accepted_of_live (h : Guarded n log live) (hlive : live t) : .accepted t ∈ log := by
  induction h with
  | nil hnone => exact absurd hlive (hnone t)
  | accept _ _ _ hnext ih =>
      rcases (hnext t).mp hlive with hl | rfl
      · exact List.mem_append_left _ (ih hl)
      · simp
  | complete _ _ hnext ih => exact List.mem_append_left _ (ih ((hnext t).mp hlive).1)

/-- Between two accepts of one id lie its completion and, after that, `n`
completions of other ids. -/
theorem replay_protected {mid rest : List (TxStep α)}
    (h : Guarded n (log ++ .accepted t :: (mid ++ .accepted t :: rest)) live) :
    ∃ done after, mid = done ++ .completed t :: after
      ∧ n ≤ (completions after).length ∧ t ∉ completions after := by
  have hsecond : Guarded n ((log ++ .accepted t :: mid) ++ .accepted t :: rest) live := by
    simpa using h
  obtain ⟨live', hg, hlive, hwindow⟩ := hsecond.at_accept
  have hcompleted : TxStep.completed t ∈ mid := hg.live_or_completed.resolve_left hlive
  obtain ⟨done, after, rfl, hlast⟩ := exists_last_split hcompleted
  have hnot : t ∉ completions after := fun hm => hlast (completed_mem_of_mem_completions hm)
  refine ⟨done, after, rfl, ?_, hnot⟩
  by_contra hshort
  refine hwindow ?_
  simp only [completions_append, completions_accepted, completions_completed]
  rw [← List.append_assoc]
  exact mem_window_of_short (Nat.lt_of_not_le hshort)

end Guarded

/-! ## A log and the ring that follows it -/

/-- A guarded log whose last `n` completions the ring holds. -/
structure Tracked (log : List (TxStep α)) (live : α → Prop) (ring : Ring α n) : Prop where
  guarded : Guarded n log live
  ring : ring.toList = window n (completions log)

namespace Tracked

variable {log : List (TxStep α)} {live live' : α → Prop} {ring : Ring α n} {t : α}

theorem new {a : α} {hn : 0 < n} (hlive : ∀ t, ¬ live t) :
    Tracked ([] : List (TxStep α)) live (Ring.new a hn) :=
  ⟨.nil hlive, by simp [completions, window]⟩

theorem accept (h : Tracked log live ring) (hlive : ¬ live t) (hring : t ∉ ring.toList)
    (hnext : ∀ u, live' u ↔ live u ∨ u = t) :
    Tracked (log ++ [.accepted t]) live' ring :=
  ⟨.accept h.guarded hlive (h.ring ▸ hring) hnext, by simpa using h.ring⟩

theorem complete (h : Tracked log live ring) (hlive : live t)
    (hnext : ∀ u, live' u ↔ live u ∧ u ≠ t) :
    Tracked (log ++ [.completed t]) live' (ring.push t) :=
  ⟨.complete h.guarded hlive hnext, by simpa using ring.toList_push h.ring t⟩

end Tracked

end Log

/-!
## A high-water mark

A guard that lets a value through if it is above the last one it let through,
and remembers it then. Where "above" is transitive, that one comparison decides
as if the value had been compared with all that have been let through.
-/

variable {α : Type} {Above : α → α → Prop}

/-- The mark of a guard that has let `passed` through. -/
structure HighWater (Above : α → α → Prop) (passed : List α) (mark : Option α) : Prop where
  reached : ∀ m ∈ mark, m ∈ passed
  covers : ∀ a ∈ passed, ∃ m ∈ mark, m = a ∨ Above m a

namespace HighWater

variable {passed : List α} {mark : Option α} {a : α}

theorem empty : HighWater Above [] none := ⟨by rintro m ⟨⟩, List.forall_mem_nil _⟩

/-- To be above the mark is to be above all that has passed. -/
theorem above_iff (h : HighWater Above passed mark)
    (trans : ∀ {x y z}, Above x y → Above y z → Above x z) :
    (∀ m ∈ mark, Above a m) ↔ ∀ b ∈ passed, Above a b := by
  constructor
  · intro habove b hb
    obtain ⟨m, hm, rfl | hle⟩ := h.covers b hb
    · exact habove m hm
    · exact trans (habove m hm) hle
  · intro habove m hm
    exact habove m (h.reached m hm)

/-- A value above the mark passes and is the new mark. -/
theorem pass (h : HighWater Above passed mark)
    (trans : ∀ {x y z}, Above x y → Above y z → Above x z) (habove : ∀ m ∈ mark, Above a m) :
    HighWater Above (passed ++ [a]) (some a) where
  reached m hm := by
    obtain rfl := Option.some.inj hm
    exact List.mem_append_right _ (List.mem_singleton_self _)
  covers b hb := by
    refine ⟨a, rfl, ?_⟩
    rcases List.mem_append.mp hb with hb | hb
    · exact Or.inr ((h.above_iff trans).mp habove b hb)
    · exact Or.inl (List.mem_singleton.mp hb).symm

end HighWater

/-!
## A sliding window over a history

What of a list of times still counts at a later time, and a shorter list that
may stand for it: one from which only times were dropped that no longer count.
Keeping what counts when a time is added is enough for that.
-/

variable {width now later : Nat} {l kept whole : List Nat}

/-- The times that count at `now`. -/
def recent (width now : Nat) (l : List Nat) : List Nat := l.filter fun t => now - t < width

theorem recent_append (l' : List Nat) :
    recent width now (l ++ l') = recent width now l ++ recent width now l' :=
  List.filter_append _ _

/-- A time counts when it happens. -/
theorem recent_snoc (hwidth : 0 < width) :
    recent width now (l ++ [now]) = recent width now l ++ [now] := by
  rw [recent_append, recent, recent, List.filter_singleton, Nat.sub_self, decide_eq_true hwidth]
  rfl

/-- What no longer counted does not count later. -/
theorem recent_recent (h : now ≤ later) :
    recent width later (recent width now l) = recent width later l := by
  rw [recent, recent, List.filter_filter, recent]
  refine List.filter_congr fun t _ => ?_
  by_cases hlater : later - t < width
  · have hnow : now - t < width := by omega
    rw [decide_eq_true hlater, decide_eq_true hnow]
    rfl
  · rw [decide_eq_false hlater]
    rfl

/-- The shorter list counts what the whole one counts, from its last time on. -/
def Compacts (width : Nat) (kept whole : List Nat) : Prop :=
  ∀ now, (∀ t ∈ whole, t ≤ now) → recent width now kept = recent width now whole

namespace Compacts

theorem nil : Compacts width [] [] := fun _ _ => rfl

theorem push (h : Compacts width kept whole) (hlast : ∀ t ∈ whole, t ≤ now) :
    Compacts width (recent width now kept ++ [now]) (whole ++ [now]) := by
  intro later hlater
  have hle : now ≤ later := hlater now (List.mem_append_right _ (List.mem_singleton_self now))
  have hwhole : ∀ t ∈ whole, t ≤ later := fun t ht => Nat.le_trans (hlast t ht) hle
  rw [recent_append, recent_append, recent_recent hle, h later hwhole]

end Compacts

end Wyrmroot
