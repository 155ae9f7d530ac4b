import Wyrmroot.Lib.Prog

/-!
# Programs with a pure shadow

A program over some storage, beside a computation that has no storage: whatever
the storage held, both end the same way, and where they return, what the program
returns and the storage it leaves stand for the other one's result.
-/

namespace Wyrmroot.Prog

variable {σ ω ε α β α' β' γ : Type}

/-- From `s` the program ends as `x` does, and `R` holds of what they return. -/
def Shadows (R : α → σ → β → Prop) (m : Prog σ ω ε α) (s : σ) : Outcome ε β → Prop
  | .ok b => ∃ a s' w, m s = (.ok a, s', w) ∧ R a s' b
  | .err e => ∃ s' w, m s = (.err e, s', w)
  | .panic => ∃ s' w, m s = (.panic, s', w)

namespace Shadows

variable {R : α → σ → β → Prop} {R' : α' → σ → β' → Prop} {m : Prog σ ω ε α} {s : σ}
  {x : Outcome ε β}

theorem pure {a : α} {b : β} (h : R a s b) :
    Shadows R (Pure.pure a : Prog σ ω ε α) s (.ok b) := ⟨a, s, [], rfl, h⟩

theorem throw (e : ε) : Shadows R (Prog.throw e : Prog σ ω ε α) s (.err e) := ⟨s, [], rfl⟩

theorem panic : Shadows R (Prog.panic : Prog σ ω ε α) s .panic := ⟨s, [], rfl⟩

theorem bind {f : α → Prog σ ω ε α'} {g : β → Outcome ε β'} (hm : Shadows R m s x)
    (hf : ∀ a s' b, R a s' b → Shadows R' (f a) s' (g b)) : Shadows R' (m >>= f) s (x >>= g) := by
  cases x with
  | err e =>
      obtain ⟨s', w, hrun⟩ := hm
      exact ⟨s', w, bind_run_err hrun⟩
  | panic =>
      obtain ⟨s', w, hrun⟩ := hm
      exact ⟨s', w, by rw [bind_run, hrun]⟩
  | ok b =>
      obtain ⟨a, s', w, hrun, hrel⟩ := hm
      have hrest := hf a s' b hrel
      rw [Outcome.ok_bind]
      revert hrest
      generalize g b = y
      intro hrest
      cases y with
      | ok b' =>
          obtain ⟨a', s'', w', hrest, hrel'⟩ := hrest
          exact ⟨a', s'', w ++ w', by rw [bind_run_ok hrun, hrest], hrel'⟩
      | err e | panic =>
          obtain ⟨s'', w', hrest⟩ := hrest
          exact ⟨s'', w ++ w', by rw [bind_run_ok hrun, hrest]⟩

/-- A check that needs no storage is its own shadow. -/
theorem check {f : γ → Prog σ ω ε α} {g : γ → Outcome ε β} {y : Outcome ε γ}
    (hf : ∀ c, y = .ok c → Shadows R (f c) s (g c)) :
    Shadows R (lift y >>= f) s (y >>= g) := by
  have hlift : Shadows (fun c s' c' => c = c' ∧ s' = s ∧ y = .ok c') (lift y : Prog σ ω ε γ) s y := by
    cases y with
    | ok c => exact ⟨c, s, [], rfl, rfl, rfl, rfl⟩
    | err e | panic => exact ⟨s, [], rfl⟩
  refine hlift.bind ?_
  rintro c s' c' ⟨rfl, rfl, hc⟩
  exact hf c hc

theorem get {f : σ → Prog σ ω ε α} (h : Shadows R (f s) s x) : Shadows R (Prog.get >>= f) s x := by
  rw [Shadows.eq_def] at h ⊢
  rw [get_bind_run]
  exact h

theorem ite {c : Prop} [Decidable c] {m' : Prog σ ω ε α} {x' : Outcome ε β}
    (h : c → Shadows R m s x) (h' : ¬ c → Shadows R m' s x') :
    Shadows R (if c then m else m') s (if c then x else x') := by
  split_ifs with hc
  · exact h hc
  · exact h' hc

/-- Where the values are the same, so is what the program returns. -/
theorem outcome {R : β → σ → β → Prop} {m : Prog σ ω ε β} (h : Shadows R m s x)
    (hR : ∀ a s' b, R a s' b → a = b) : (m s).1 = x := by
  cases x with
  | ok b =>
      obtain ⟨a, s', w, hrun, hrel⟩ := h
      rw [hrun, hR a s' b hrel]
  | err e | panic =>
      obtain ⟨s', w, hrun⟩ := h
      rw [hrun]

end Shadows

end Wyrmroot.Prog
