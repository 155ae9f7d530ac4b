import Wyrmroot.Lib.Prog

/-!
# What a call leaves behind

Postconditions for one way to end. `OnOk m R s`: if `m` returns from `s`,
its result and the state satisfy `R`; the checks that let it return are at
hand, the ones that fail need no word. `OnErr m R s`: if it fails, the state
it leaves satisfies `R`; the state survives an error, so this is about the
order of checks and writes. Behind the last check nothing fails any more
(`Infallible`).
-/

namespace Wyrmroot.Prog

variable {σ ω ε α β : Type}

def OnOk (m : Prog σ ω ε α) (R : α → σ → Prop) (s : σ) : Prop :=
  wp m (fun o s' _ => ∀ a, o = .ok a → R a s') s

def OnErr (m : Prog σ ω ε α) (R : σ → Prop) (s : σ) : Prop :=
  wp m (fun o s' _ => ∀ e, o = .err e → R s') s

/-- It returns or panics. -/
def Infallible (m : Prog σ ω ε α) : Prop := ∀ s e, (m s).1 ≠ .err e

section Infallible

variable {m : Prog σ ω ε α} {f : α → Prog σ ω ε β} {s : σ}

theorem infallible_pure (a : α) : Infallible (pure a : Prog σ ω ε α) := fun _ _ => nofun

theorem infallible_get : Infallible (get : Prog σ ω ε σ) := fun _ _ => nofun

theorem infallible_set (s' : σ) : Infallible (set s' : Prog σ ω ε Unit) := fun _ _ => nofun

theorem infallible_modify (g : σ → σ) : Infallible (modify g : Prog σ ω ε Unit) := fun _ _ => nofun

theorem infallible_emit (w : ω) : Infallible (emit w : Prog σ ω ε Unit) := fun _ _ => nofun

theorem infallible_panic : Infallible (panic : Prog σ ω ε α) := fun _ _ => nofun

theorem infallible_unwrap (x : Option α) : Infallible (unwrap x : Prog σ ω ε α) := by
  cases x with
  | none => exact infallible_panic
  | some a => exact infallible_pure a

theorem infallible_lift {x : Outcome ε α} (h : ∀ e, x ≠ .err e) :
    Infallible (lift x : Prog σ ω ε α) := fun _ => h

theorem Infallible.bind (hm : Infallible m) (hf : ∀ a, Infallible (f a)) : Infallible
    (m >>= f) := by
  intro s e
  rw [bind_run]
  rcases hrun : m s with ⟨a | e' | _, s', w⟩
  · exact hf a s' e
  · exact absurd (congrArg Prod.fst hrun) (hm s e')
  · exact nofun

theorem infallible_ite {c : Prop} [Decidable c] {m' : Prog σ ω ε α} (h : Infallible m)
    (h' : Infallible m') : Infallible (if c then m else m') := by
  split
  · exact h
  · exact h'

theorem infallible_collect {body : α → Prog σ ω ε (List β)} (hbody : ∀ x, Infallible (body x)) :
    ∀ xs, Infallible (collect xs body)
  | [] => infallible_pure []
  | x :: rest => (hbody x).bind fun _ => (infallible_collect hbody rest).bind fun _ => infallible_pure _

theorem Infallible.onErr {R : σ → Prop} (h : Infallible m) : OnErr m R s :=
  fun e he => absurd he (h s e)

end Infallible

section OnOk

variable {R : β → σ → Prop} {s : σ} {x : Outcome ε α} {f : α → Prog σ ω ε β}

theorem onOk_pure {b : β} (h : R b s) : OnOk (pure b : Prog σ ω ε β) R s := by
  rintro _ ⟨⟩
  exact h

theorem onOk_throw (e : ε) : OnOk (throw e : Prog σ ω ε β) R s := fun _ => nofun

theorem onOk_set {s' : σ} {R : Unit → σ → Prop} (h : R () s') :
    OnOk (set s' : Prog σ ω ε Unit) R s := fun _ _ => h

theorem onOk_get_bind {g : σ → Prog σ ω ε β} (h : OnOk (g s) R s) : OnOk (get >>= g) R s :=
  (wp_get_bind g _ s).mpr h

/-- Behind a check it has passed. -/
theorem onOk_lift_bind (h : ∀ a, x = .ok a → OnOk (f a) R s) : OnOk (lift x >>= f) R s := by
  rw [OnOk, wp_lift_bind]
  cases x with
  | ok a => exact h a rfl
  | err e | panic => exact fun _ => nofun

theorem onOk_set_bind {s' : σ} {m : Unit → Prog σ ω ε β} (h : OnOk (m ()) R s') :
    OnOk (set s' >>= m) R s := by
  rw [OnOk, wp_bind, wp_set]
  exact h

end OnOk

section OnErr

variable {R : σ → Prop} {s : σ} {x : Outcome ε α} {f : α → Prog σ ω ε β}

theorem onErr_throw {e : ε} (h : R s) : OnErr (throw e : Prog σ ω ε α) R s := fun _ _ => h

theorem onErr_get_bind {g : σ → Prog σ ω ε β} (h : OnErr (g s) R s) : OnErr (get >>= g) R s :=
  (wp_get_bind g _ s).mpr h

/-- A check fails before anything it guards is written. -/
theorem onErr_lift_bind (herr : R s) (hok : ∀ a, x = .ok a → OnErr (f a) R s) :
    OnErr (lift x >>= f) R s := by
  rw [OnErr, wp_lift_bind]
  cases x with
  | ok a => exact hok a rfl
  | err e => exact fun _ _ => herr
  | panic => exact nofun

theorem onErr_unwrap_bind {y : Option α} (h : ∀ a, y = some a → OnErr (f a) R s) :
    OnErr (unwrap y >>= f) R s := by
  cases y with
  | none => exact fun _ => nofun
  | some a => exact h a rfl

theorem onErr_bind {m : Prog σ ω ε α} (hm : OnErr m R s)
    (hf : ∀ a s' w, m s = (.ok a, s', w) → OnErr (f a) R s') : OnErr (m >>= f) R s := by
  rw [OnErr, wp_bind]
  unfold wp
  rcases hrun : m s with ⟨a | e | _, s', w⟩
  · exact hf a s' w hrun
  · have hR := hm e (congrArg Prod.fst hrun)
    rw [hrun] at hR
    exact fun _ _ => hR
  · exact nofun

/-- Tagging the result of a call. -/
theorem OnErr.then_pure {m : Prog σ ω ε α} (h : OnErr m R s) (g : α → β) :
    OnErr (m >>= fun a => pure (g a)) R s := by
  rw [OnErr, wp_bind_pure]
  refine wp_mono h fun o s' w hR e he => hR e ?_
  cases o with
  | ok a | panic => cases he
  | err e' => rw [Outcome.err.inj he]

end OnErr

end Wyrmroot.Prog
