import Mathlib.Algebra.Group.Nat.Defs
import Mathlib.Data.List.Forall2
import Wyrmroot.Lib.Prog

/-!
# Code that does not panic

`Yields x Q`: the call does not panic, and what it returns satisfies `Q`; what
it refuses is not said. A function is gone through once, each read with what
makes it safe and what it found.
-/

namespace Wyrmroot.Outcome

variable {ε ε' α β : Type}

def Yields (x : Outcome ε α) (Q : α → Prop) : Prop := x ≠ .panic ∧ ∀ a, x = .ok a → Q a

variable {f : α → Outcome ε β}

namespace Yields

variable {x : Outcome ε α} {P Q : α → Prop} {R : β → Prop}

theorem ok {a : α} (h : Q a) : Yields (.ok a : Outcome ε α) Q :=
  ⟨ok_ne_panic _, fun _ heq => Outcome.ok.inj heq ▸ h⟩

theorem err (e : ε) : Yields (.err e : Outcome ε α) Q := ⟨err_ne_panic _, fun a h => by cases h⟩

/-- A call that does not panic yields what it returned. -/
theorem self (h : x ≠ .panic) : Yields x fun a => x = .ok a := ⟨h, fun _ heq => heq⟩

theorem keep (h : Yields x Q) : Yields x fun a => x = .ok a ∧ Q a :=
  ⟨h.1, fun a ha => ⟨ha, h.2 a ha⟩⟩

theorem mono (h : Yields x P) (himp : ∀ a, P a → Q a) : Yields x Q :=
  ⟨h.1, fun a ha => himp a (h.2 a ha)⟩

theorem bind (hx : Yields x P) (hf : ∀ a, P a → Yields (f a) R) :
    Yields (x >>= f) R := by
  refine ⟨bind_ne_panic hx.1 fun a ha => (hf a (hx.2 a ha)).1, fun b hb => ?_⟩
  obtain ⟨a, ha, hrest⟩ := bind_eq_ok.mp hb
  exact (hf a (hx.2 a ha)).2 b hrest

theorem rejectIf (c : Bool) (e : ε) : Yields (Outcome.rejectIf c e) fun _ => c = false :=
  ⟨rejectIf_ne_panic c e, fun _ h => rejectIf_eq_ok.mp h⟩

theorem okOr (y : Option α) (e : ε) : Yields (Outcome.okOr y e) fun a => y = some a :=
  ⟨okOr_ne_panic y e, fun _ h => okOr_eq_ok.mp h⟩

theorem mapErr (h : Yields x Q) (f : ε → ε') : Yields (x.mapErr f) Q := by
  cases x with
  | ok a => exact .ok (h.2 a rfl)
  | err e => exact .err _
  | panic => exact absurd rfl h.1

theorem ite {c : Prop} [Decidable c] {y : Outcome ε α} (h : c → Yields x Q)
    (h' : ¬ c → Yields y Q) :
    Yields (if c then x else y) Q := by
  split_ifs with hc
  · exact h hc
  · exact h' hc

/-- A loop is what its turns are, from one state between them to the next. -/
theorem forRange {body : Nat → α → Outcome ε α} {T : Nat → α → α → Prop} {count : Nat} :
    ∀ {index : Nat} {state : α},
      (∀ i a, index ≤ i → i < index + count → Yields (body i a) (T i a)) →
        Yields (forRange body index count state) fun state' => ∃ states : Nat → α,
          states index = state ∧ states (index + count) = state' ∧
            ∀ i, index ≤ i → i < index + count → T i (states i) (states (i + 1)) := by
  induction count with
  | zero => exact fun {_ state} _ => .ok ⟨fun _ => state, rfl, rfl, fun i hle hlt => by omega⟩
  | succ count ih =>
      intro index state hturn
      refine (hturn index state (Nat.le_refl _) (by omega)).bind fun next hfirst => ?_
      refine (ih fun i a hle hlt => hturn i a (by omega) (by omega)).mono ?_
      rintro state' ⟨states, hstart, hstop, hturns⟩
      refine ⟨fun i => if i = index then state else states i, if_pos rfl, ?_, fun i hle hlt => ?_⟩
      · have hne : index + (count + 1) ≠ index := by omega
        refine (if_neg hne).trans ?_
        rw [← hstop, Nat.add_assoc, Nat.add_comm 1]
      · have hnext : (if i + 1 = index then state else states (i + 1)) = states (i + 1) :=
          if_neg (by omega)
        show T i (if i = index then state else states i) (if i + 1 = index then state else _)
        rw [hnext]
        by_cases hi : i = index
        · rw [if_pos hi, hi, hstart]
          exact hfirst
        · rw [if_neg hi]
          exact hturns i (by omega) (by omega)

end Yields

/-! ## Which errors -/

/-- An error of the call is one of these. -/
def Refuses (x : Outcome ε α) (E : ε → Prop) : Prop := ∀ e, x = .err e → E e

namespace Refuses

variable {x : Outcome ε α} {E : ε → Prop}

theorem ok (a : α) : Refuses (.ok a : Outcome ε α) E := by
  intro e h
  cases h

variable {e : ε}

theorem err (h : E e) : Refuses (.err e : Outcome ε α) E := by
  intro e' heq
  rw [← Outcome.err.inj heq]
  exact h

theorem panic : Refuses (.panic : Outcome ε α) E := by
  intro e h
  cases h

theorem bind (hx : Refuses x E) (hf : ∀ a, x = .ok a → Refuses (f a) E) :
    Refuses (x >>= f) E := by
  cases x with
  | ok a => exact hf a rfl
  | err e => exact err (hx e rfl)
  | panic => exact panic

theorem rejectIf (c : Bool) (h : E e) : Refuses (Outcome.rejectIf c e) E := by
  cases c with
  | false => exact ok ()
  | true => exact err h

theorem okOr (y : Option α) (h : E e) : Refuses (Outcome.okOr y e) E := by
  cases y with
  | none => exact err h
  | some a => exact ok a

end Refuses

/-!
## Loops over a list

`for x in xs` over fallible turns: `forM` where a turn only checks, `collect` where
each has a result of its own, `foldlM` where it carries a state on. The invariant of `foldlM_ok` is about the elements
already taken, so that what a turn may assume of its element's place in the list
comes from the splitting.
-/

variable {σ : Type} {xs : List α}

theorem forM_eq_ok {check : α → Outcome ε Unit} :
    xs.forM check = .ok () ↔ ∀ x ∈ xs, check x = .ok () := by
  induction xs with
  | nil => exact ⟨fun _ => List.forall_mem_nil _, fun _ => rfl⟩
  | cons x xs ih =>
      rw [List.forM, bind_eq_ok, List.forall_mem_cons]
      constructor
      · intro ⟨_, hx, hrest⟩
        exact ⟨hx, ih.mp hrest⟩
      · intro ⟨hx, hrest⟩
        exact ⟨(), hx, ih.mpr hrest⟩

theorem forM_ne_panic {check : α → Outcome ε Unit}
    (h : ∀ x ∈ xs, check x ≠ .panic) : xs.forM check ≠ .panic := by
  induction xs with
  | nil => exact ok_ne_panic ()
  | cons x xs ih =>
      rw [List.forM]
      exact bind_ne_panic (h x (.head _)) fun _ _ => ih fun y hy => h y (.tail _ hy)

theorem foldlM_ne_panic {turn : σ → α → Outcome ε σ}
    (h : ∀ x ∈ xs, ∀ s, turn s x ≠ .panic) : ∀ s, xs.foldlM turn s ≠ .panic := by
  induction xs with
  | nil => exact fun s => ok_ne_panic s
  | cons x xs ih =>
      intro s
      rw [List.foldlM_cons]
      exact bind_ne_panic (h x (.head _) s) fun s' _ => ih (fun y hy => h y (.tail _ hy)) s'

/-- A turn that adds its result at the end. -/
def collect (f : α → Outcome ε β) (ys : List β) (x : α) : Outcome ε (List β) := do
  let y ← f x
  pure (ys ++ [y])

theorem collect_eq_ok : ∀ {ys₀ ys : List β},
    xs.foldlM (collect f) ys₀ = .ok ys ↔
      ∃ new, List.Forall₂ (fun x y => f x = .ok y) xs new ∧ ys₀ ++ new = ys := by
  induction xs with
  | nil =>
      intro ys₀ ys
      simp only [List.foldlM_nil, pure_eq, Outcome.ok.injEq, List.forall₂_nil_left_iff,
        exists_eq_left, List.append_nil]
  | cons x xs ih =>
      intro ys₀ ys
      rw [List.foldlM_cons, bind_eq_ok]
      simp only [collect, bind_eq_ok, pure_eq, Outcome.ok.injEq, ih, List.forall₂_cons_left_iff]
      constructor
      · rintro ⟨_, ⟨y, hy, rfl⟩, new, hnew, rfl⟩
        exact ⟨y :: new, ⟨y, new, hy, hnew, rfl⟩, by simp⟩
      · rintro ⟨_, ⟨y, new, hy, hnew, rfl⟩, rfl⟩
        exact ⟨_, ⟨y, hy, rfl⟩, new, hnew, by simp⟩

theorem collect_ne_panic (h : ∀ x ∈ xs, f x ≠ .panic) :
    ∀ ys, xs.foldlM (collect f) ys ≠ .panic :=
  foldlM_ne_panic fun x hx _ => bind_ne_panic (h x hx) fun _ _ => ok_ne_panic _

theorem foldlM_ok {turn : σ → α → Outcome ε σ} {I : List α → σ → Prop} {s : σ}
    (hturn : ∀ before x after s, xs = before ++ x :: after → I before s →
      ∃ s', turn s x = .ok s' ∧ I (before ++ [x]) s') (hstart : I [] s) :
    ∃ s', xs.foldlM turn s = .ok s' ∧ I xs s' := by
  -- the loop from any point on, `before` being what it has taken by then
  have hfrom : ∀ after before s, xs = before ++ after → I before s →
      ∃ s', after.foldlM turn s = .ok s' ∧ I xs s' := by
    intro after
    induction after with
    | nil =>
        intro before s hxs h
        rw [List.append_nil] at hxs
        exact ⟨s, rfl, hxs ▸ h⟩
    | cons x after ih =>
        intro before s hxs h
        obtain ⟨s', hrun, hnext⟩ := hturn before x after s hxs h
        rw [List.foldlM_cons, hrun, ok_bind]
        exact ih (before ++ [x]) s' (by rw [hxs, List.append_assoc]; rfl) hnext
  exact hfrom xs [] s rfl hstart

end Wyrmroot.Outcome
