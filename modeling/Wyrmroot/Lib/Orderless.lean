import Mathlib.Data.List.Forall2
import Wyrmroot.Lib.Prog

/-!
# Loops whose order does not matter

A loop over a list has the same end for every order of the list if each two of
its steps commute. The loop of a program has more to it than its step: it counts
its turns, and says which turn has failed. `Mirrors` relates it to the loop that
does not, as far as success goes, and `Alike` two calls that differ in that.
-/

namespace Wyrmroot

variable {ε σ τ α β : Type}

/-- Two steps in either order. -/
def StepsCommute (f : σ → α → Option σ) : Prop :=
  ∀ s a b, (f s a).bind (f · b) = (f s b).bind (f · a)

variable {l : List α}

theorem StepsCommute.foldlM_perm {f : σ → α → Option σ} (hf : StepsCommute f) {l' : List α}
    (h : l.Perm l') : ∀ s, l.foldlM f s = l'.foldlM f s := by
  induction h with
  | nil => exact fun s => rfl
  | cons a _ ih =>
      intro s
      rw [List.foldlM_cons, List.foldlM_cons]
      cases f s a with
      | none => rfl
      | some s' => exact ih s'
  | swap a b l =>
      intro s
      have hswap := congrArg (fun x => x.bind fun s' => l.foldlM f s') (hf s b a)
      simpa [List.foldlM_cons, Option.bind_assoc] using hswap
  | trans _ _ ih ih' => exact fun s => (ih s).trans (ih' s)

/-- A call succeeds where the other does, and the results are related. -/
def Mirrors (R : σ → τ → Prop) (x : Outcome ε σ) : Option τ → Prop
  | some t => ∃ s, x = .ok s ∧ R s t
  | none => ∀ s, x ≠ .ok s

variable {s : σ}

namespace Mirrors

variable {R : σ → τ → Prop} {x : Outcome ε σ} {y : Option τ}

theorem of_ok (h : Mirrors R x y) (hx : x = .ok s) : ∃ t, y = some t ∧ R s t := by
  cases y with
  | none => exact absurd hx (h s)
  | some t =>
      obtain ⟨s', hs', hR⟩ := h
      obtain rfl := Outcome.ok.inj (hx.symm.trans hs')
      exact ⟨t, rfl, hR⟩

theorem of_some {t : τ} (h : Mirrors R x y) (hy : y = some t) : ∃ s, x = .ok s ∧ R s t := by
  subst hy
  exact h

/-- The loops, over lists whose elements belong together. -/
theorem foldlM {F : σ → α → Outcome ε σ} {f : τ → β → Option τ} {P : α → β → Prop}
    (hstep : ∀ s t a b, R s t → P a b → Mirrors R (F s a) (f t b)) {m : List β}
    (h : List.Forall₂ P l m) : ∀ {s : σ} {t : τ}, R s t → Mirrors R (l.foldlM F s)
    (m.foldlM f t) := by
  induction h with
  | nil => exact fun {s t} hR => ⟨s, rfl, hR⟩
  | @cons a b l m hP _ ih =>
      intro s t hR
      have hone := hstep s t a b hR hP
      rw [List.foldlM_cons, List.foldlM_cons]
      cases hf : f t b with
      | none =>
          rw [hf] at hone
          intro s' hs'
          obtain ⟨s₁, hs₁, -⟩ := Outcome.bind_eq_ok.mp hs'
          exact hone s₁ hs₁
      | some t' =>
          obtain ⟨s', hs', hR'⟩ := hone.of_some hf
          rw [hs']
          exact ih hR'

end Mirrors

/-- The calls succeed together, and their results are related. -/
def Alike (R : σ → τ → Prop) : Outcome ε σ → Outcome ε τ → Prop
  | .ok s, .ok t => R s t
  | .ok _, _ => False
  | _, .ok _ => False
  | _, _ => True

namespace Alike

variable {R : σ → τ → Prop} {x : Outcome ε σ} {y : Outcome ε τ}

theorem self : ∀ x : Outcome ε σ, Alike (· = ·) x x
  | .ok _ => rfl
  | .err _ => trivial
  | .panic => trivial

theorem symm (h : Alike R x y) : Alike (fun t s => R s t) y x := by
  cases x <;> cases y <;> exact h

variable {f : σ → Outcome ε α} {T : α → β → Prop}

theorem bind {g : τ → Outcome ε β} (h : Alike R x y)
    (hf : ∀ s t, R s t → Alike T (f s) (g t)) : Alike T (x >>= f) (y >>= g) := by
  cases x with
  | ok s =>
      cases y with
      | ok t => exact hf s t h
      | err e | panic => exact h.elim
  | err e | panic =>
      cases y with
      | ok t => exact h.elim
      | err e' | panic => exact trivial

/-- The same call comes first. -/
theorem after (x : Outcome ε σ) {g : σ → Outcome ε β}
    (hf : ∀ s, Alike T (f s) (g s)) : Alike T (x >>= f) (x >>= g) :=
  (self x).bind fun s _ hs => hs ▸ hf s

/-- The same test, with an error of its own on each side. -/
theorem rejectIf (c : Bool) (e e' : ε) :
    Alike (· = ·) (Outcome.rejectIf c e) (Outcome.rejectIf c e') := by
  cases c with
  | false => exact rfl
  | true => exact trivial

theorem okOr (a : Option σ) (e e' : ε) :
    Alike (· = ·) (Outcome.okOr a e) (Outcome.okOr a e') := by
  cases a with
  | some a => exact rfl
  | none => exact trivial

theorem isOk_eq (h : Alike R x y) : x.isOk = y.isOk := by
  cases x <;> cases y <;> first | rfl | exact h.elim

theorem of_ok (h : Alike R x y) (hx : x = .ok s) : ∃ t, y = .ok t ∧ R s t := by
  subst hx
  cases y with
  | ok t => exact ⟨t, rfl, h⟩
  | err e | panic => exact h.elim

end Alike

/-- `ok()`. -/
def Outcome.success : Outcome ε σ → Option σ
  | .ok s => some s
  | _ => none

theorem Alike.success_eq {x : Outcome ε σ} {y : Outcome ε τ} {f : σ → α} {g : τ → α}
    (h : Alike (fun s t => f s = g t) x y) : x.success.map f = y.success.map g := by
  cases x with
  | ok s =>
      cases y with
      | ok t => exact congrArg some h
      | err e | panic => exact h.elim
  | err e | panic =>
      cases y with
      | ok t => exact h.elim
      | err e' | panic => rfl

end Wyrmroot
