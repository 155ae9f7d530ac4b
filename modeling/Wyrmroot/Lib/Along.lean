import Wyrmroot.Lib.Prog

/-!
# What a program leaves of the state

`Along R m` says that a program takes the state along `R`, whether it returns,
is refused or panics. For a reflexive and transitive `R` the rules below follow
the text of the program, so a frame condition on one field ("kept or cleared",
"never smaller") needs no case analysis of the results.
-/

namespace Wyrmroot.Prog

variable {σ ω ε α β ι : Type}

def Along (R : σ → σ → Prop) (m : Prog σ ω ε α) : Prop := ∀ s, R s (m s).2.1

namespace Along

variable {R : σ → σ → Prop}

theorem modify {f : σ → σ} (h : ∀ s, R s (f s)) : Along R (.modify f : Prog σ ω ε Unit) := h

section Rules

variable [Std.Refl R]

theorem pure (a : α) : Along R (Pure.pure a : Prog σ ω ε α) := fun s => Std.Refl.refl s

theorem lift (x : Outcome ε α) : Along R (.lift x : Prog σ ω ε α) := fun s => Std.Refl.refl s

theorem throw (e : ε) : Along R (.throw e : Prog σ ω ε α) := fun s => Std.Refl.refl s

theorem get : Along R (.get : Prog σ ω ε σ) := fun s => Std.Refl.refl s

end Rules

variable {f : α → Prog σ ω ε β} {m : Prog σ ω ε α}

theorem bind [IsTrans σ R] (hm : Along R m) (hf : ∀ a, Along R (f a)) : Along R (m >>= f) := by
  intro s
  rcases hrun : m s with ⟨a | e | _, s', w⟩
  · rw [bind_run_ok hrun]
    have hfirst := hm s
    rw [hrun] at hfirst
    exact IsTrans.trans _ _ _ hfirst (hf a s')
  · rw [bind_run_err hrun]
    have hfirst := hm s
    rw [hrun] at hfirst
    exact hfirst
  · rw [bind_run, hrun]
    have hfirst := hm s
    rw [hrun] at hfirst
    exact hfirst

/-- A check in front. -/
theorem check {x : Outcome ε α} [Std.Refl R] [IsTrans σ R]
    (hf : ∀ a, Along R (f a)) : Along R (.lift x >>= f) := (lift x).bind hf

/-- Nothing runs behind an error. -/
theorem throw_bind (e : ε) (f : α → Prog σ ω ε β) [Std.Refl R] :
    Along R ((.throw e : Prog σ ω ε α) >>= f) := fun s => Std.Refl.refl s

theorem map (f : α → β) (hm : Along R m) : Along R (f <$> m) := by
  intro s
  rw [map_run]
  exact hm s

end Along

end Wyrmroot.Prog
