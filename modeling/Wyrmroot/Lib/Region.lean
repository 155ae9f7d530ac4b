import Mathlib.Data.List.Chain
import Mathlib.Data.Set.BooleanAlgebra
import Mathlib.Order.CompletePartialOrder

/-!
# Regions of an address space

A start and a length, read as a half-open interval. `Before` is the order of a
sorted table, `Apart` what a comparison of two ends decides, `Inside`
containment by the ends (a region of length zero still has a place).
-/

namespace Wyrmroot

structure Region where
  start : Nat
  len : Nat
deriving DecidableEq

namespace Region

variable {r s t : Region}

def stop (r : Region) : Nat := r.start + r.len

def bytes (r : Region) : Set Nat := Set.Ico r.start r.stop

def Apart (r s : Region) : Prop := Disjoint r.bytes s.bytes

def Before (r s : Region) : Prop := r.stop ≤ s.start

def Inside (r s : Region) : Prop := s.start ≤ r.start ∧ r.stop ≤ s.stop

theorem start_le_stop (r : Region) : r.start ≤ r.stop := Nat.le_add_right _ _

theorem mem_bytes {r : Region} {a : Nat} : a ∈ r.bytes ↔ r.start ≤ a ∧ a < r.stop := Iff.rfl

theorem Apart.symm (h : r.Apart s) : s.Apart r := Disjoint.symm h

/-- Two ends are compared. -/
theorem apart_of_not_overlap (h : ¬ (r.start < s.stop ∧ s.start < r.stop)) : r.Apart s := by
  refine Set.disjoint_left.mpr fun a hr hs => h ⟨?_, ?_⟩
  · exact lt_of_le_of_lt hr.1 hs.2
  · exact lt_of_le_of_lt hs.1 hr.2

theorem Before.trans (hrs : r.Before s) (hst : s.Before t) : r.Before t :=
  Nat.le_trans hrs (Nat.le_trans s.start_le_stop hst)

instance : Trans Before Before Before := ⟨Before.trans⟩

/-! ## Sorted tables

Only neighbours are compared, and every two are in order. -/

section Tables

variable {α : Type} {f : α → Region} {l l' : List α}

theorem pairwise_before (h : l.IsChain fun a b => (f a).Before (f b)) :
    l.Pairwise fun a b => (f a).Before (f b) := by
  have htrans : ∀ {a b c : α}, (f a).Before (f b) → (f b).Before (f c) → (f a).Before (f c) :=
    Before.trans
  have : Trans (fun a b => (f a).Before (f b)) (fun a b => (f a).Before (f b))
      (fun a b => (f a).Before (f b)) := ⟨htrans⟩
  exact List.isChain_iff_pairwise.mp h

/-- In a sorted table without overlap an entry is known by where it starts. -/
theorem eq_of_start_eq (h : l.Pairwise fun a b => (f a).Before (f b))
    (hlen : ∀ a ∈ l, 0 < (f a).len) {a b : α} (ha : a ∈ l) (hb : b ∈ l)
    (hstart : (f a).start = (f b).start) : a = b := by
  have hdistinct : l.Pairwise fun a b => (f a).start ≠ (f b).start := by
    refine h.imp_of_mem fun ha _ hbefore => ?_
    have hpos := hlen _ ha
    unfold Before stop at hbefore
    omega
  have hsymm : Std.Symm fun a b => (f a).start ≠ (f b).start := ⟨fun _ _ hxy => hxy.symm⟩
  by_contra hne
  exact hdistinct.forall ha hb hne hstart

/-- Whoever sorts the same entries finds the same table. -/
theorem eq_of_perm_sorted (hperm : l.Perm l') (hl : l.Pairwise fun a b => (f a).Before (f b))
    (hlen : ∀ a ∈ l, 0 < (f a).len) (hl' : l'.Pairwise fun a b => (f a).start ≤ (f b).start) :
    l = l' := by
  refine hperm.eq_of_pairwise (fun a b ha hb hab hba => ?_) (hl.imp fun hbefore => ?_) hl'
  · exact eq_of_start_eq hl hlen ha (hperm.mem_iff.mpr hb) (Nat.le_antisymm hab hba)
  · exact Nat.le_trans (start_le_stop _) hbefore

end Tables

end Region

/-!
## Runs

A table of regions with labels stands for a partial map from addresses to labels.
A table that is sorted and has no neighbours to merge is known by its map
(`Maximal.unique`), so no table of that map has another number of runs.
`pushAll` builds it from runs in order, each merged into the last one where that
is possible.
-/

structure Stretch (κ : Type) where
  region : Region
  label : κ
deriving DecidableEq

namespace Stretch

variable {κ : Type} {l l' : List (Stretch κ)} {r s last : Stretch κ} {a : Nat} {k k' : κ}

def Labels (l : List (Stretch κ)) (a : Nat) (k : κ) : Prop := ∃ r ∈ l, a ∈ r.region.bytes ∧ r.label = k

/-- The second is where the first ends, and could be a part of it. -/
def Joins (r s : Stretch κ) : Prop := r.label = s.label ∧ r.region.stop = s.region.start

instance [DecidableEq κ] : Decidable (r.Joins s) := inferInstanceAs (Decidable (_ ∧ _))

structure Maximal (l : List (Stretch κ)) : Prop where
  nonempty : ∀ r ∈ l, 0 < r.region.len
  sorted : l.Pairwise fun r s => r.region.Before s.region
  apart : l.IsChain fun r s => ¬ r.Joins s

/-! ## Labels -/

theorem labels_cons : Labels (r :: l) a k ↔ (a ∈ r.region.bytes ∧ r.label = k) ∨ Labels l a k := by
  simp only [Labels, List.mem_cons, exists_eq_or_imp]

theorem labels_append : Labels (l ++ l') a k ↔ Labels l a k ∨ Labels l' a k := by
  simp only [Labels, List.mem_append, or_and_right, exists_or]

theorem labels_singleton : Labels [r] a k ↔ a ∈ r.region.bytes ∧ r.label = k := by
  simp [Labels]

theorem start_mem (h : 0 < r.region.len) : r.region.start ∈ r.region.bytes := by
  refine Region.mem_bytes.mpr ⟨Nat.le_refl _, ?_⟩
  unfold Region.stop
  omega

/-! ## Uniqueness -/

namespace Maximal

theorem tail (h : Maximal (r :: l)) : Maximal l :=
  ⟨fun s hs => h.nonempty s (List.mem_cons_of_mem _ hs), (List.pairwise_cons.mp h.sorted).2,
    h.apart.tail⟩

theorem labels_head (h : Maximal (r :: l)) : Labels (r :: l) r.region.start r.label :=
  ⟨r, List.mem_cons_self, start_mem (h.nonempty r List.mem_cons_self), rfl⟩

theorem stop_le (h : Maximal (r :: l)) (hlabels : Labels l a k) : r.region.stop ≤ a := by
  obtain ⟨s, hs, hmem, -⟩ := hlabels
  exact Nat.le_trans ((List.pairwise_cons.mp h.sorted).1 s hs) (Region.mem_bytes.mp hmem).1

theorem start_le (h : Maximal (r :: l)) (hlabels : Labels (r :: l) a k) : r.region.start ≤ a := by
  rcases labels_cons.mp hlabels with ⟨hmem, -⟩ | hrest
  · exact (Region.mem_bytes.mp hmem).1
  · exact Nat.le_trans r.region.start_le_stop (h.stop_le hrest)

/-- An address has one label. -/
theorem label_eq (h : Maximal l) (hk : Labels l a k) (hk' : Labels l a k') : k = k' := by
  induction l with
  | nil =>
      obtain ⟨_, hmem, -⟩ := hk
      cases hmem
  | cons r l ih =>
      rcases labels_cons.mp hk with ⟨hmem, rfl⟩ | hrest
      · rcases labels_cons.mp hk' with ⟨-, rfl⟩ | hrest'
        · rfl
        · exact absurd (Region.mem_bytes.mp hmem).2 (Nat.not_lt.mpr (h.stop_le hrest'))
      · rcases labels_cons.mp hk' with ⟨hmem', rfl⟩ | hrest'
        · exact absurd (Region.mem_bytes.mp hmem').2 (Nat.not_lt.mpr (h.stop_le hrest))
        · exact ih h.tail hrest hrest'

/-- Where the first run ends, its label ends. -/
theorem label_stop (h : Maximal (r :: l)) (hlabels : Labels (r :: l) r.region.stop k) :
    k ≠ r.label := by
  rcases labels_cons.mp hlabels with ⟨hmem, -⟩ | hrest
  · exact absurd (Region.mem_bytes.mp hmem).2 (Nat.lt_irrefl _)
  cases l with
  | nil =>
      obtain ⟨_, hmem, -⟩ := hrest
      cases hmem
  | cons s l =>
      have hbefore := (List.pairwise_cons.mp h.sorted).1 s List.mem_cons_self
      have hstart : s.region.start = r.region.stop := Nat.le_antisymm (h.tail.start_le hrest) hbefore
      have hlabel : k = s.label := by
        rw [← hstart] at hrest
        exact h.tail.label_eq hrest h.tail.labels_head
      rintro rfl
      exact (List.isChain_cons_cons.mp h.apart).1 ⟨hlabel, hstart.symm⟩

/-- The first run reaches as far as its label. -/
theorem stop_le_stop (h : Maximal (r :: l))
    (hlabels : ∀ a k, Labels (s :: l') a k → Labels (r :: l) a k)
    (hstart : s.region.start = r.region.start) (hlabel : s.label = r.label) :
    s.region.stop ≤ r.region.stop := by
  by_contra hlt
  refine h.label_stop (k := r.label) (hlabels _ _ ?_) rfl
  refine labels_cons.mpr (.inl ⟨Region.mem_bytes.mpr ⟨?_, Nat.not_le.mp hlt⟩, hlabel⟩)
  rw [hstart]
  exact r.region.start_le_stop

theorem labels_tail (h : Maximal (r :: l)) :
    Labels l a k ↔ Labels (r :: l) a k ∧ r.region.stop ≤ a := by
  rw [labels_cons]
  constructor
  · exact fun hrest => ⟨.inr hrest, h.stop_le hrest⟩
  · intro ⟨hlabels, hle⟩
    rcases hlabels with ⟨hmem, -⟩ | hrest
    · exact absurd (Region.mem_bytes.mp hmem).2 (Nat.not_lt.mpr hle)
    · exact hrest

/-- A map has one table. The induction takes the first run of both away. -/
theorem unique (h : Maximal l) (h' : Maximal l') (hlabels : ∀ a k, Labels l a k ↔ Labels l' a k) :
    l = l' := by
  induction l generalizing l' with
  | nil =>
      cases l' with
      | nil => rfl
      | cons s l' =>
          obtain ⟨_, hmem, -⟩ := (hlabels _ _).mpr h'.labels_head
          cases hmem
  | cons r l ih =>
      cases l' with
      | nil =>
          obtain ⟨_, hmem, -⟩ := (hlabels _ _).mp h.labels_head
          cases hmem
      | cons s l' =>
          have hstart : r.region.start = s.region.start :=
            Nat.le_antisymm (h.start_le ((hlabels _ _).mpr h'.labels_head))
              (h'.start_le ((hlabels _ _).mp h.labels_head))
          have hlabel : r.label = s.label :=
            h.label_eq h.labels_head (hstart ▸ (hlabels _ _).mpr h'.labels_head)
          have hstop : r.region.stop = s.region.stop := Nat.le_antisymm
            (h'.stop_le_stop (fun a k => (hlabels a k).mp) hstart hlabel)
            (h.stop_le_stop (fun a k => (hlabels a k).mpr) hstart.symm hlabel.symm)
          have hsame : r = s := by
            obtain ⟨⟨start, len⟩, label⟩ := r
            obtain ⟨⟨start', len'⟩, label'⟩ := s
            simp only [Region.stop] at hstart hlabel hstop
            subst hstart hlabel
            rw [Nat.add_left_cancel hstop]
          subst hsame
          refine congrArg (r :: ·) (ih h.tail h'.tail fun a k => ?_)
          rw [h.labels_tail, h'.labels_tail, hlabels]

end Maximal

/-! ## Building a table -/

/-- The run and one that it joins. -/
def extend (r s : Stretch κ) : Stretch κ := ⟨⟨r.region.start, r.region.len + s.region.len⟩, r.label⟩

theorem extend_stop (h : last.Joins r) : (last.extend r).region.stop = r.region.stop := by
  have hjoin := h.2
  unfold extend Region.stop at *
  dsimp only
  omega

theorem mem_extend (h : last.Joins r) :
    a ∈ (last.extend r).region.bytes ↔ a ∈ last.region.bytes ∨ a ∈ r.region.bytes := by
  have hjoin := h.2
  rw [Region.mem_bytes, Region.mem_bytes, Region.mem_bytes, extend_stop h]
  unfold extend Region.stop at *
  dsimp only
  omega

theorem maximal_nil : Maximal ([] : List (Stretch κ)) := ⟨List.forall_mem_nil _, .nil, .nil⟩

variable [DecidableEq κ]

def push (l : List (Stretch κ)) (r : Stretch κ) : List (Stretch κ) :=
  match l.getLast? with
  | none => [r]
  | some last => if last.Joins r then l.dropLast ++ [last.extend r] else l ++ [r]

def pushAll (l : List (Stretch κ)) : List (Stretch κ) := l.foldl push []

@[simp] theorem push_nil (r : Stretch κ) : push [] r = [r] := rfl

theorem push_snoc (l : List (Stretch κ)) (last r : Stretch κ) : push (l ++ [last]) r
    = if last.Joins r then l ++ [last.extend r] else l ++ [last] ++ [r] := by
  simp [push]

theorem labels_push (l : List (Stretch κ)) (r : Stretch κ) :
    Labels (push l r) a k ↔ Labels l a k ∨ (a ∈ r.region.bytes ∧ r.label = k) := by
  rcases List.eq_nil_or_concat l with rfl | ⟨l, last, rfl⟩
  · simp [Labels]
  rw [List.concat_eq_append, push_snoc]
  split_ifs with hjoin
  · rw [labels_append, labels_append, labels_singleton, labels_singleton, mem_extend hjoin, or_assoc,
      ← hjoin.1, ← or_and_right]
    rfl
  · rw [labels_append, labels_singleton]

theorem length_le_push (l : List (Stretch κ)) (r : Stretch κ) : l.length ≤ (push l r).length := by
  rcases List.eq_nil_or_concat l with rfl | ⟨l, last, rfl⟩
  · exact Nat.zero_le _
  rw [List.concat_eq_append, push_snoc]
  split_ifs
  · simp
  · simp

theorem Maximal.push (h : Maximal l) (hlen : 0 < r.region.len)
    (hbefore : ∀ s ∈ l, s.region.Before r.region) : Maximal (push l r) := by
  rcases List.eq_nil_or_concat l with rfl | ⟨l, last, rfl⟩
  · exact ⟨List.forall_mem_singleton.mpr hlen, List.pairwise_singleton _ _, .singleton _⟩
  rw [List.concat_eq_append] at h hbefore ⊢
  rw [push_snoc]
  have hsorted := List.pairwise_append.mp h.sorted
  have happart := List.isChain_append.mp h.apart
  split_ifs with hjoin
  · refine ⟨fun s hs => ?_, List.pairwise_append.mpr ⟨hsorted.1, List.pairwise_singleton _ _, ?_⟩,
      List.isChain_append.mpr ⟨happart.1, .singleton _, ?_⟩⟩
    · rcases List.mem_append.mp hs with hs | hs
      · exact h.nonempty s (List.mem_append_left _ hs)
      · rw [List.mem_singleton.mp hs]
        exact Nat.add_pos_right _ hlen
    · intro s hs t ht
      rw [List.mem_singleton.mp ht]
      exact hsorted.2.2 s hs last (List.mem_singleton_self _)
    · intro s hs t ht
      obtain rfl := Option.some.inj ht
      exact happart.2.2 s hs last rfl
  · refine ⟨fun s hs => ?_, List.pairwise_append.mpr ⟨h.sorted, List.pairwise_singleton _ _, ?_⟩,
      List.isChain_append.mpr ⟨h.apart, .singleton _, ?_⟩⟩
    · rcases List.mem_append.mp hs with hs | hs
      · exact h.nonempty s hs
      · rw [List.mem_singleton.mp hs]
        exact hlen
    · intro s hs t ht
      rw [List.mem_singleton.mp ht]
      exact hbefore s hs
    · intro s hs t ht
      obtain rfl := Option.some.inj ht
      rw [List.getLast?_append_of_ne_nil _ (List.cons_ne_nil _ _)] at hs
      obtain rfl := Option.some.inj hs
      exact hjoin

theorem pushAll_snoc (l : List (Stretch κ)) (r : Stretch κ) : pushAll (l ++ [r]) = push
    (pushAll l) r := by
  rw [pushAll, List.foldl_append]
  rfl

theorem labels_pushAll (l : List (Stretch κ)) : Labels (pushAll l) a k ↔ Labels l a k := by
  induction l using List.reverseRecOn with
  | nil => exact Iff.rfl
  | append_singleton l r ih => rw [pushAll_snoc, labels_push, ih, labels_append, labels_singleton]

theorem length_pushAll_le (l l' : List (Stretch κ)) :
    (pushAll l).length ≤ (pushAll (l ++ l')).length := by
  induction l' using List.reverseRecOn with
  | nil => rw [List.append_nil]
  | append_singleton l' r ih =>
      rw [← List.append_assoc, pushAll_snoc]
      exact Nat.le_trans ih (length_le_push _ _)

/-- Runs in order: none is empty, and each is behind those before it. -/
structure Ordered (l : List (Stretch κ)) : Prop where
  nonempty : ∀ r ∈ l, 0 < r.region.len
  sorted : l.Pairwise fun r s => r.region.Before s.region

theorem maximal_pushAll (h : Ordered l) : Maximal (pushAll l) := by
  induction l using List.reverseRecOn with
  | nil => exact maximal_nil
  | append_singleton l r ih =>
      have hsorted := List.pairwise_append.mp h.sorted
      have hmaximal := ih ⟨fun s hs => h.nonempty s (List.mem_append_left _ hs), hsorted.1⟩
      rw [pushAll_snoc]
      refine hmaximal.push (h.nonempty r (by simp)) fun s hs => ?_
      -- the last address of a pushed run is one of those that were pushed
      have hpos := hmaximal.nonempty s hs
      have hlast : s.region.stop - 1 ∈ s.region.bytes := by
        refine Region.mem_bytes.mpr ?_
        unfold Region.stop
        omega
      obtain ⟨t, ht, hmem, -⟩ := (labels_pushAll l).mp ⟨s, hs, hlast, rfl⟩
      have hbefore := hsorted.2.2 t ht r (List.mem_singleton_self _)
      have hlt := (Region.mem_bytes.mp hmem).2
      unfold Region.Before at hbefore ⊢
      omega

end Stretch

end Wyrmroot
