import Wyrmroot.Lib.Component

/-!
# Programs seen through a digest of their events

A property of a trace often depends on a few of its events only, and on those
only in part. `read` takes from each event what matters, and `Sees` is the
weakest precondition over what has been read. A part of the program that shows
nothing is stepped over with `Silent.bind`, whatever calls it makes.
-/

namespace Wyrmroot.Prog

variable {σ τ ω ω' κ ε ε' α β : Type}

/-- What a trace is read as. -/
def digest (read : ω → List κ) (w : List ω) : List κ := w.flatMap read

@[simp] theorem digest_nil (read : ω → List κ) : digest read [] = [] := rfl

@[simp] theorem digest_cons (read : ω → List κ) (e : ω) (w : List ω) :
    digest read (e :: w) = read e ++ digest read w := List.flatMap_cons

@[simp] theorem digest_append (read : ω → List κ) (w w' : List ω) :
    digest read (w ++ w') = digest read w ++ digest read w' := List.flatMap_append

theorem digest_map (read : ω → List κ) (event : ω' → ω) (w : List ω') :
    digest read (w.map event) = digest (read ∘ event) w := List.flatMap_map ..

theorem digest_eq_nil {read : ω → List κ} {w : List ω} (h : ∀ e ∈ w, read e = []) :
    digest read w = [] := List.flatMap_eq_nil_iff.mpr h

/-- From `s`, the program ends in `Q` of what its trace is read as. -/
def Sees (read : ω → List κ) (m : Prog σ ω ε α) (Q : Outcome ε α → σ → List κ → Prop) (s : σ) :
    Prop :=
  wp m (fun o s' w => Q o s' (digest read w)) s

variable {m : Prog σ ω ε α} {f : α → Prog σ ω ε β}

namespace Sees

variable {read : ω → List κ} {Q R : Outcome ε α → σ → List κ → Prop} {s : σ}

theorem mono (h : Sees read m Q s) (hQR : ∀ o s' t, Q o s' t → R o s' t) :
    Sees read m R s :=
  wp_mono h fun _ _ _ hq => hQR _ _ _ hq

/-- A sequence, from what its first part showed. -/
theorem bind {Q : Outcome ε β → σ → List κ → Prop} (h : Sees read m R s)
    (hok : ∀ a s' t, R (.ok a) s' t → Sees read (f a) (fun o s'' t' => Q o s'' (t ++ t')) s')
    (herr : ∀ e s' t, R (.err e) s' t → Q (.err e) s' t)
    (hpanic : ∀ s' t, R .panic s' t → Q .panic s' t) : Sees read (m >>= f) Q s := by
  unfold Sees at h ⊢
  rw [wp_bind]
  refine wp_mono h fun o s' w hR => ?_
  cases o with
  | ok a =>
      refine wp_mono (hok a s' _ hR) fun o s'' w' hq => ?_
      rwa [digest_append]
  | err e => exact herr e s' _ hR
  | panic => exact hpanic s' _ hR

theorem get_bind {f : σ → Prog σ ω ε α} (h : Sees read (f s) Q s) :
    Sees read (get >>= f) Q s := by
  unfold Sees
  rwa [wp_get_bind]

/-- A part that always returns a value. -/
theorem bind_value {R : α → σ → List κ → Prop} {Q : Outcome ε β → σ → List κ → Prop}
    (h : Sees read m (fun o s' t => ∃ a, o = .ok a ∧ R a s' t) s)
    (hf : ∀ a s' t, R a s' t → Sees read (f a) (fun o s'' t' => Q o s'' (t ++ t')) s') :
    Sees read (m >>= f) Q s := by
  refine h.bind (fun a s' t hR => ?_) (fun e s' t hR => ?_) fun s' t hR => ?_
  · obtain ⟨b, hb, hR⟩ := hR
    obtain rfl := Outcome.ok.inj hb
    exact hf a s' t hR
  · obtain ⟨b, hb, -⟩ := hR
    cases hb
  · obtain ⟨b, hb, -⟩ := hR
    cases hb

/-- A result that is looked at as a value, and what follows. -/
theorem attempt_bind {m : Prog σ ω ε' α} {f : Except ε' α → Prog σ ω ε β}
    {R : Outcome ε' α → σ → List κ → Prop} {Q : Outcome ε β → σ → List κ → Prop}
    (h : Sees read m R s)
    (hok : ∀ a s' t, R (.ok a) s' t →
      Sees read (f (.ok a)) (fun o s'' t' => Q o s'' (t ++ t')) s')
    (herr : ∀ e s' t, R (.err e) s' t →
      Sees read (f (.error e)) (fun o s'' t' => Q o s'' (t ++ t')) s')
    (hpanic : ∀ s' t, R .panic s' t → Q .panic s' t) :
    Sees read (Prog.attempt m >>= f) Q s := by
  unfold Sees at h ⊢
  rw [wp_bind, wp_attempt]
  refine wp_mono h fun o s' w hR => ?_
  cases o with
  | ok a =>
      refine wp_mono (hok a s' _ hR) fun o s'' w' hq => ?_
      rwa [digest_append]
  | err e =>
      refine wp_mono (herr e s' _ hR) fun o s'' w' hq => ?_
      rwa [digest_append]
  | panic => exact hpanic s' _ hR

/-- A program with other errors, on the same state. -/
theorem recast {m : Prog σ ω ε' α} {err : ε' → ε}
    (h : Sees read m (fun o s' t => Q (o.mapErr err) s' t) s) :
    Sees read (within id (fun s _ => s) err m) Q s := h

theorem hosted {m : Prog τ ω' ε α} {part : σ → τ} {put : τ → σ → σ} {event : ω' → ω}
    (h : wp m (fun o t w => Q o (put t s) (digest (read ∘ event) w)) (part s)) :
    Sees read (hosted part put event m) Q s := by
  unfold Sees
  rw [wp_hosted]
  refine wp_mono h fun o t w hq => ?_
  rwa [digest_map]

end Sees

/-! ## Programs that show nothing -/

/-- The program does not panic, keeps `I` and shows nothing; a value that it
returns satisfies `P`. -/
def Silent (read : ω → List κ) (I : σ → σ → Prop) (m : Prog σ ω ε α) (P : α → Prop) : Prop :=
  ∀ s, Sees read m (fun o s' t => o ≠ .panic ∧ (∀ a, o = .ok a → P a) ∧ I s s' ∧ t = []) s

namespace Silent

variable {read : ω → List κ} {I : σ → σ → Prop} {P : α → Prop} {R : β → Prop}

theorem pure (hrefl : ∀ s, I s s) {a : α} (h : P a) :
    Silent read I (pure a : Prog σ ω ε α) P :=
  fun s => ⟨Outcome.ok_ne_panic a, fun _ heq => Outcome.ok.inj heq ▸ h, hrefl s, rfl⟩

theorem throw (hrefl : ∀ s, I s s) (e : ε) : Silent read I (Prog.throw e : Prog σ ω ε α) P :=
  fun s => ⟨Outcome.err_ne_panic e, fun _ heq => (by cases heq), hrefl s, rfl⟩

theorem lift (hrefl : ∀ s, I s s) {x : Outcome ε α} (h : x ≠ .panic) :
    Silent read I (Prog.lift x : Prog σ ω ε α) fun a => x = .ok a :=
  fun s => ⟨h, fun _ heq => heq, hrefl s, rfl⟩

theorem mono {P' : α → Prop} (h : Silent read I m P) (hP : ∀ a, P a → P' a) :
    Silent read I m P' :=
  fun s => (h s).mono fun _ _ _ hq => ⟨hq.1, fun a ha => hP a (hq.2.1 a ha), hq.2.2⟩

/-- What follows a silent part sees nothing of it. -/
theorem then_sees {Q : Outcome ε β → σ → List κ → Prop}
    {s : σ} (h : Silent read I m P) (hf : ∀ a s', P a → I s s' → Sees read (f a) Q s')
    (herr : ∀ e s', I s s' → Q (.err e) s' []) : Sees read (m >>= f) Q s := by
  refine (h s).bind (fun a s' t hq => ?_) (fun e s' t hq => ?_) fun s' t hq => absurd rfl hq.1
  · obtain ⟨-, hP, hI, rfl⟩ := hq
    exact hf a s' (hP a rfl) hI
  · obtain ⟨-, -, hI, rfl⟩ := hq
    exact herr e s' hI

theorem bind (htrans : ∀ {s s' s''}, I s s' → I s' s'' → I s s'') (h : Silent read I m P)
    (hf : ∀ a, P a → Silent read I (f a) R) :
    Silent read I (m >>= f) R := by
  intro s
  refine h.then_sees (fun a s' ha hI => (hf a ha s').mono fun o s'' t hq => ?_) fun e s' hI => ?_
  · exact ⟨hq.1, hq.2.1, htrans hI hq.2.2.1, hq.2.2.2⟩
  · exact ⟨Outcome.err_ne_panic e, fun _ heq => (by cases heq), hI, rfl⟩

end Silent

end Wyrmroot.Prog
