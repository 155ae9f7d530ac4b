import Wyrmroot.Lib.Prog

/-!
# Monitors over the events of a program

A monitor reads the events of a program one by one and may refuse one. A
program is described by where it leaves the monitor (`Monitor.Ends`): the
rules below follow the program text, so a protocol on the events is proved
one statement at a time and never by looking at a trace.

`assume` is what the environment promises of each event; the protocol need
only hold of traces that keep the promise.
-/

namespace Wyrmroot

structure Monitor (ω μ : Type) where
  step : μ → ω → Option μ
  assume : ω → Prop

namespace Monitor

variable {σ ω ε ε' α β μ : Type} {M : Monitor ω μ} {m₀ : μ} {s : σ}

/-- The monitor after a trace, unless it refused an event of it. -/
def run (M : Monitor ω μ) (m : μ) (w : List ω) : Option μ := w.foldlM M.step m

@[simp] theorem run_nil (m : μ) : M.run m [] = some m := rfl

@[simp] theorem run_cons (m : μ) (e : ω) (w : List ω) :
    M.run m (e :: w) = (M.step m e).bind (M.run · w) := rfl

theorem run_append (m : μ) (w w' : List ω) :
    M.run m (w ++ w') = (M.run m w).bind (M.run · w') := by
  simp only [run, List.foldlM_append]
  rfl

variable {I : μ → Prop} {w : List ω}

/-- A property that every accepted event of a kind keeps holds after every
accepted trace of such events. -/
theorem run_invariant_of {A : ω → Prop}
    (hstep : ∀ m e m', A e → M.step m e = some m' → I m → I m') :
    ∀ {m m' : μ}, (∀ e ∈ w, A e) → M.run m w = some m' → I m → I m' := by
  induction w with
  | nil =>
      intro m m' _ h hm
      exact Option.some.inj h ▸ hm
  | cons e w ih =>
      intro m m' hA h hm
      obtain ⟨m₁, h₁, h₂⟩ := Option.bind_eq_some_iff.mp h
      have hrest : ∀ e ∈ w, A e := fun x hx => hA x (.tail _ hx)
      exact ih hrest h₂ (hstep m e m₁ (hA e (.head _)) h₁ hm)

theorem run_keeps (hstep : ∀ m e m', M.step m e = some m' → I m → I m') {m m' : μ}
    (h : M.run m w = some m') (hm : I m) : I m' :=
  run_invariant_of (A := fun _ => True) (fun m e m' _ => hstep m e m') (fun _ _ => trivial) h hm

/-- What an invariant says of the next event holds of every event of an
accepted trace. -/
theorem run_forall {P : ω → Prop} (hstep : ∀ m e m', M.step m e = some m' → I m → P e ∧ I m') :
    ∀ {m m' : μ}, M.run m w = some m' → I m → ∀ e ∈ w, P e := by
  induction w with
  | nil => exact fun _ _ _ h => nomatch h
  | cons e w ih =>
      intro m m' h hm e' he
      obtain ⟨m₁, h₁, h₂⟩ := Option.bind_eq_some_iff.mp h
      obtain ⟨hP, hm₁⟩ := hstep m e m₁ h₁ hm
      rcases List.mem_cons.mp he with rfl | he
      · exact hP
      · exact ih h₂ hm₁ e' he

/-- A quantity that each event adds to adds up over a trace. -/
theorem run_collect {T : μ → List α} {part : ω → List α}
    (hstep : ∀ m e m', M.step m e = some m' → T m' = T m ++ part e) :
    ∀ {m m' : μ}, M.run m w = some m' → T m' = T m ++ w.flatMap part := by
  induction w with
  | nil =>
      intro m m' h
      rw [Option.some.inj h, List.flatMap_nil, List.append_nil]
  | cons e w ih =>
      intro m m' h
      obtain ⟨m₁, h₁, h₂⟩ := Option.bind_eq_some_iff.mp h
      rw [ih h₂, hstep m e m₁ h₁, List.flatMap_cons, List.append_assoc]

/-- From `s`, the program shows only events the monitor accepts, and leaves
its own outcome, the state and the monitor in `Q`. -/
def Ends (M : Monitor ω μ) (m₀ : μ) (p : Prog σ ω ε α) (Q : Outcome ε α → σ → μ → Prop)
    (s : σ) : Prop :=
  p.wp (fun o s' w => (∀ e ∈ w, M.assume e) → ∃ m', M.run m₀ w = some m' ∧ Q o s' m') s

variable {p : Prog σ ω ε α} {Q : Outcome ε α → σ → μ → Prop}

/-- A program without events. -/
theorem Ends.silent {o : Outcome ε α} {s' : σ}
    (h : p s = (o, s', [])) (hQ : Q o s' m₀) : M.Ends m₀ p Q s := by
  unfold Ends Prog.wp
  rw [h]
  exact fun _ => ⟨m₀, rfl, hQ⟩

theorem Ends.mono {R : Outcome ε α → σ → μ → Prop}
    (h : M.Ends m₀ p Q s) (hQR : ∀ o s' m', Q o s' m' → R o s' m') : M.Ends m₀ p R s := by
  refine Prog.wp_mono h fun o s' w hw ha => ?_
  obtain ⟨m', hm', hQ⟩ := hw ha
  exact ⟨m', hm', hQR o s' m' hQ⟩

/-- What every accepted event keeps may be added to where a program ends. -/
theorem Ends.invariant
    (h : M.Ends m₀ p Q s) (hstep : ∀ m e m', M.step m e = some m' → I m → I m') (hI : I m₀) :
    M.Ends m₀ p (fun o s' m' => Q o s' m' ∧ I m') s := by
  refine Prog.wp_mono h fun o s' w hw ha => ?_
  obtain ⟨m', hm', hQ⟩ := hw ha
  exact ⟨m', hm', hQ, run_keeps hstep hm' hI⟩

/-- Where a sequence ends, given where its first part ends: the second part
takes over after a value, an error or a panic is the end. -/
def Continue (M : Monitor ω μ) (f : α → Prog σ ω ε β) (Q : Outcome ε β → σ → μ → Prop) :
    Outcome ε α → σ → μ → Prop
  | .ok a, s', m' => M.Ends m' (f a) Q s'
  | .err e, s', m' => Q (.err e) s' m'
  | .panic, s', m' => Q .panic s' m'

theorem Ends.bind {f : α → Prog σ ω ε β} {Q : Outcome ε β → σ → μ → Prop}
    (h : M.Ends m₀ p (M.Continue f Q) s) : M.Ends m₀ (p >>= f) Q s := by
  unfold Ends at h ⊢
  rw [Prog.wp_bind]
  refine Prog.wp_mono h fun o s' w hw => ?_
  cases o with
  | ok a =>
      intro ha
      obtain ⟨m', hm', hQ⟩ := hw fun e he => ha e (List.mem_append_left _ he)
      obtain ⟨m'', hm'', hQ'⟩ := hQ fun e he => ha e (List.mem_append_right _ he)
      exact ⟨m'', by rw [run_append, hm']; exact hm'', hQ'⟩
  | err e | panic => exact hw

/-- An error that has become a value. -/
def Caught (Q : Outcome ε' (Except ε α) → σ → μ → Prop) : Outcome ε α → σ → μ → Prop
  | .ok a, s', m' => Q (.ok (.ok a)) s' m'
  | .err e, s', m' => Q (.ok (.error e)) s' m'
  | .panic, s', m' => Q .panic s' m'

theorem Ends.attempt {Q : Outcome ε' (Except ε α) → σ → μ → Prop}
    (h : M.Ends m₀ p (Caught Q) s) : M.Ends m₀ p.attempt Q s := by
  unfold Ends at h ⊢
  rw [Prog.wp_attempt]
  refine Prog.wp_mono h fun o s' w hw => ?_
  cases o with
  | ok a | err e | panic => exact hw

end Monitor

end Wyrmroot
