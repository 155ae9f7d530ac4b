import Wyrmroot.Lib.Prog

/-!
# A program of one component

A program of a component, run where the component sits in a larger state: it
reads and writes its part, and its errors become errors of the whole. Where
the component has events of its own, `hosted` turns them into the whole's.
-/

namespace Wyrmroot.Prog

variable {σ τ ω ω' ε ε' α β : Type}

def within (part : σ → τ) (put : τ → σ → σ) (err : ε' → ε) (m : Prog τ ω ε' α) : Prog σ ω ε α :=
  fun s => ((m (part s)).1.mapErr err, put (m (part s)).2.1 s, (m (part s)).2.2)

theorem wp_within (part : σ → τ) (put : τ → σ → σ) (err : ε' → ε) (m : Prog τ ω ε' α)
    (Q : Outcome ε α → σ → List ω → Prop) (s : σ) :
    wp (within part put err m) Q s ↔ wp m (fun o t w => Q (o.mapErr err) (put t s) w) (part s) :=
  Iff.rfl

variable {part : σ → τ}

/-- What the component returned, the whole returns. -/
theorem within_run_eq_ok {put : τ → σ → σ} {err : ε' → ε} {m : Prog τ ω ε' α}
    {s s' : σ} {a : α} {w : List ω} (h : within part put err m s = (.ok a, s', w)) :
    ∃ t, m (part s) = (.ok a, t, w) ∧ s' = put t s := by
  rcases hm : m (part s) with ⟨b | e | _, t, v⟩
  · rw [within, hm] at h
    obtain ⟨hb, hs⟩ := Prod.mk.inj h
    obtain ⟨hs, hw⟩ := Prod.mk.inj hs
    obtain rfl := Outcome.ok.inj hb
    exact ⟨t, by rw [← hw], hs.symm⟩
  · rw [within, hm] at h
    cases h
  · rw [within, hm] at h
    cases h

def hosted (part : σ → τ) (put : τ → σ → σ) (event : ω' → ω) (m : Prog τ ω' ε α) : Prog σ ω ε α :=
  fun s => ((m (part s)).1, put (m (part s)).2.1 s, (m (part s)).2.2.map event)

theorem wp_hosted (part : σ → τ) (put : τ → σ → σ) (event : ω' → ω) (m : Prog τ ω' ε α)
    (Q : Outcome ε α → σ → List ω → Prop) (s : σ) :
    wp (hosted part put event m) Q s ↔
      wp m (fun o t w => Q o (put t s) (w.map event)) (part s) :=
  Iff.rfl

/-!
## Triples of programs that show nothing

`Triple P m Q E`: from a state in `P` the program shows no events, and ends in
`Q` of its value, or in `E` where it fails or panics. A `?` needs no word then:
what fails in front has left the state in `E`.
-/

def Triple (P : σ → Prop) (m : Prog σ ω ε α) (Q : α → σ → Prop) (E : σ → Prop) : Prop :=
  ∀ s, P s → wp m (fun o s' w => w = [] ∧ match o with
    | .ok a => Q a s'
    | .err _ => E s'
    | .panic => E s') s

/-- The program stays in `I`, however it ends. -/
abbrev Keeps (I : σ → Prop) (m : Prog σ ω ε α) : Prop := Triple I m (fun _ => I) I

namespace Triple

variable {P P' E E' I : σ → Prop} {Q Q' : α → σ → Prop} {m : Prog σ ω ε α}

theorem conseq (h : Triple P m Q E) (hP : ∀ s, P' s → P s) (hQ : ∀ a s, Q a s → Q' a s)
    (hE : ∀ s, E s → E' s) : Triple P' m Q' E' := by
  intro s hs
  obtain ⟨hw, hend⟩ := h s (hP s hs)
  refine ⟨hw, ?_⟩
  revert hend
  rcases (m s).1 with a | e | _
  · exact hQ a _
  · exact hE _
  · exact hE _

theorem pre (h : Triple P m Q E) (hP : ∀ s, P' s → P s) : Triple P' m Q E :=
  h.conseq hP (fun _ _ => id) fun _ => id

theorem post (h : Triple P m Q E) (hQ : ∀ a s, Q a s → Q' a s) : Triple P m Q' E :=
  h.conseq (fun _ => id) hQ fun _ => id

/-- A fact that does not depend on the state. -/
theorem assume {p : Prop} (h : p → Triple P m Q E) : Triple (fun s => p ∧ P s) m Q E :=
  fun s hs => h hs.1 s hs.2

theorem pure (a : α) : Triple (Q a) (Pure.pure a : Prog σ ω ε α) Q E := fun _ h => ⟨rfl, h⟩

theorem throw (e : ε) : Triple E (Prog.throw e : Prog σ ω ε α) Q E := fun _ h => ⟨rfl, h⟩

theorem modify (f : σ → σ) {Q : Unit → σ → Prop} :
    Triple (fun s => Q () (f s)) (Prog.modify f : Prog σ ω ε Unit) Q E := fun _ h => ⟨rfl, h⟩

/-- A pure result, and what is known where it is a value. -/
theorem lift {x : Outcome ε α} (hok : ∀ a, x = .ok a → ∀ s, P s → Q a s) (hE : ∀ s, P s → E s) :
    Triple P (Prog.lift x : Prog σ ω ε α) Q E := by
  intro s hs
  refine ⟨rfl, ?_⟩
  cases x with
  | ok a => exact hok a rfl s hs
  | err e | panic => exact hE s hs

theorem okOr {x : Option α} {e : ε} (hsome : ∀ a, x = some a → ∀ s, P s → Q a s)
    (hE : ∀ s, P s → E s) : Triple P (Prog.okOr x e : Prog σ ω ε α) Q E := by
  cases x with
  | none => exact fun s hs => ⟨rfl, hE s hs⟩
  | some a => exact fun s hs => ⟨rfl, hsome a rfl s hs⟩

theorem bind {f : α → Prog σ ω ε β} {R : β → σ → Prop} (hm : Triple P m Q E)
    (hf : ∀ a, Triple (Q a) (f a) R E) : Triple P (m >>= f) R E := by
  intro s hs
  have h := hm s hs
  rw [wp_bind]
  refine wp_mono h fun o s' w hend => ?_
  obtain ⟨rfl, hend⟩ := hend
  cases o with
  | ok a => exact hf a s' hend
  | err e | panic => exact ⟨rfl, hend⟩

theorem get_bind {f : σ → Prog σ ω ε α} (h : ∀ s, P s → Triple (· = s) (f s) Q E) :
    Triple P (Prog.get >>= f) Q E := fun s hs => h s hs s rfl

/-- The error is a value, and the state is what it left. -/
theorem attempt (hm : Triple P m Q E) :
    Triple P (Prog.attempt m : Prog σ ω ε' (Except ε α)) (fun r s => match r with
      | .ok a => Q a s
      | .error _ => E s) E := by
  intro s hs
  have h := hm s hs
  rw [wp_attempt]
  refine wp_mono h fun o s' w hend => ?_
  cases o with
  | ok a | err e | panic => exact hend

theorem ite {c : Prop} [Decidable c] {m' : Prog σ ω ε α} (h : c → Triple P m Q E)
    (h' : ¬ c → Triple P m' Q E) : Triple P (if c then m else m') Q E := by
  split_ifs with hc
  · exact h hc
  · exact h' hc

/-- A component, whose conditions are those of the whole with the component put back. -/
theorem within {put : τ → σ → σ} {err : ε' → ε} {m : Prog τ ω ε' α} {s : σ}
    {P : τ → Prop} (h : Triple P m (fun a t => Q a (put t s)) fun t => E (put t s))
    (hP : P (part s)) : Triple (· = s) (Prog.within part put err m) Q E := by
  rintro _ rfl
  rw [wp_within]
  refine wp_mono (h _ hP) fun o t w hend => ?_
  cases o with
  | ok a | err e | panic => exact hend

end Triple

namespace Keeps

variable {I : σ → Prop}

theorem iff {m : Prog σ ω ε α} : Keeps I m ↔ ∀ s, I s → (m s).2.2 = [] ∧ I (m s).2.1 := by
  refine forall_congr' fun s => imp_congr_right fun _ => ?_
  unfold wp
  rcases (m s).1 with _ | _ | _ <;> exact Iff.rfl

theorem pure (a : α) : Keeps I (Pure.pure a : Prog σ ω ε α) := Triple.pure (Q := fun _ => I) a

theorem lift (x : Outcome ε α) : Keeps I (Prog.lift x : Prog σ ω ε α) :=
  Triple.lift (fun _ _ _ => id) fun _ => id

theorem okOr (x : Option α) (e : ε) : Keeps I (Prog.okOr x e : Prog σ ω ε α) :=
  Triple.okOr (fun _ _ _ => id) fun _ => id

theorem bind {m : Prog σ ω ε α} {f : α → Prog σ ω ε β} (hm : Keeps I m) (hf : ∀ a, Keeps I (f a)) :
    Keeps I (m >>= f) := Triple.bind hm hf

theorem modify {f : σ → σ} (h : ∀ s, I s → I (f s)) : Keeps I (Prog.modify f : Prog σ ω ε Unit) :=
  (Triple.modify f).pre h

theorem get_bind {f : σ → Prog σ ω ε α} (h : ∀ s, I s → Keeps I (f s)) :
    Keeps I (Prog.get >>= f) :=
  Triple.get_bind fun s hs => (h s hs).pre (by rintro _ rfl; exact hs)

theorem attempt {m : Prog σ ω ε α} (h : Keeps I m) :
    Keeps I (Prog.attempt m : Prog σ ω ε' (Except ε α)) :=
  (Triple.attempt h).post fun r s hs => by cases r <;> exact hs

/-- A component that keeps what the whole keeps of it. -/
theorem within {put : τ → σ → σ} {err : ε' → ε} {m : Prog τ ω ε' α}
    (h : ∀ s, I s → Triple (· = part s) m (fun _ t => I (put t s)) fun t => I (put t s)) :
    Keeps I (Prog.within part put err m) :=
  fun s hs => Triple.within (h s hs) rfl s rfl

end Keeps

end Wyrmroot.Prog
