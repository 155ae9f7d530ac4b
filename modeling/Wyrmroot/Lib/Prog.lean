import Mathlib.Data.List.Basic

/-!
# Fallible stateful programs

The target of the shallow embeddings. A method that takes `&mut self` and
returns a `Result` is a `Prog`: a function from the state before the call
to how the call ended, the state after it, and the events it produced.

Two points decide the shape:

- the state survives an error. A Rust method that has already written a
  field when it returns `Err` leaves that write behind, so `err` carries
  a state like `ok` does, and "the call had no effect" is a theorem about
  the method and not a property of the monad.
- a panic is an outcome of its own, distinct from every error, so "this
  `unwrap` is never reached" can be stated.

Events are whatever the program shows to its environment: calls on a
transport, or the accept/complete points of a transaction. They come out
in program order.

`Prog.wp` is the weakest-precondition reading, with one rule per
combinator; all postconditions see outcome, state and events together.
-/

namespace Wyrmroot

/-- How a Rust call ends: with a value, with an error value, or by
panicking. -/
inductive Outcome (ε α : Type) where
  | ok (a : α)
  | err (e : ε)
  | panic
deriving DecidableEq

namespace Outcome

variable {ε ε' α β : Type}

def isOk : Outcome ε α → Bool
  | .ok _ => true
  | _ => false

def map (f : α → β) : Outcome ε α → Outcome ε β
  | .ok a => .ok (f a)
  | .err e => .err e
  | .panic => .panic

def mapErr (f : ε → ε') : Outcome ε α → Outcome ε' α
  | .ok a => .ok a
  | .err e => .err (f e)
  | .panic => .panic

def ofExcept : Except ε α → Outcome ε α
  | .ok a => .ok a
  | .error e => .err e

@[simp] theorem map_ok (f : α → β) (a : α) : (ok a : Outcome ε α).map f = ok (f a) := rfl

@[simp] theorem map_err (f : α → β) (e : ε) : (err e : Outcome ε α).map f = err e := rfl

@[simp] theorem map_panic (f : α → β) : (panic : Outcome ε α).map f = panic := rfl

@[simp] theorem isOk_ok (a : α) : (ok a : Outcome ε α).isOk = true := rfl

@[simp] theorem isOk_err (e : ε) : (err e : Outcome ε α).isOk = false := rfl

@[simp] theorem isOk_panic : (panic : Outcome ε α).isOk = false := rfl

theorem ok_ne_panic (a : α) : (ok a : Outcome ε α) ≠ panic := by rintro ⟨⟩

theorem err_ne_panic (e : ε) : (err e : Outcome ε α) ≠ panic := by rintro ⟨⟩

theorem ok_ne_err (a : α) (e : ε) : (ok a : Outcome ε α) ≠ err e := by rintro ⟨⟩

@[simp] theorem isOk_map (f : α → β) (x : Outcome ε α) : (x.map f).isOk = x.isOk := by
  cases x <;> rfl

@[simp] theorem isOk_mapErr (f : ε → ε') (x : Outcome ε α) : (x.mapErr f).isOk = x.isOk := by
  cases x <;> rfl

theorem mapErr_ne_panic {x : Outcome ε α} {f : ε → ε'} (h : x ≠ .panic) : x.mapErr f ≠ .panic := by
  cases x with
  | ok a => exact ok_ne_panic a
  | err e => exact err_ne_panic _
  | panic => exact absurd rfl h

theorem mapErr_eq_ok {x : Outcome ε α} {f : ε → ε'} {a : α} : x.mapErr f = .ok a ↔ x = .ok a := by
  cases x <;> simp [mapErr]

theorem mapErr_eq_err {x : Outcome ε α} {f : ε → ε'} {e' : ε'} :
    x.mapErr f = .err e' ↔ ∃ e, x = .err e ∧ f e = e' := by
  cases x <;> simp [mapErr]

theorem exists_of_isOk : ∀ {x : Outcome ε α}, x.isOk = true → ∃ a, x = .ok a
  | .ok a, _ => ⟨a, rfl⟩

/-- Sequencing of pure fallible code (`?`). -/
def bind : Outcome ε α → (α → Outcome ε β) → Outcome ε β
  | .ok a, f => f a
  | .err e, _ => .err e
  | .panic, _ => .panic

instance : Monad (Outcome ε) where
  pure := ok
  bind := bind

@[simp] theorem pure_eq (a : α) : (pure a : Outcome ε α) = ok a := rfl

@[simp] theorem ok_bind (a : α) (f : α → Outcome ε β) : (ok a >>= f) = f a := rfl

@[simp] theorem err_bind (e : ε) (f : α → Outcome ε β) : (err e >>= f) = err e := rfl

@[simp] theorem panic_bind (f : α → Outcome ε β) : ((panic : Outcome ε α) >>= f) = panic := rfl

theorem bind_eq_ok {x : Outcome ε α} {f : α → Outcome ε β} {b : β} :
    (x >>= f) = ok b ↔ ∃ a, x = ok a ∧ f a = ok b := by
  cases x <;> simp

theorem pure_ne_panic (a : α) : (pure a : Outcome ε α) ≠ .panic := by
  simp

theorem bind_ne_panic {x : Outcome ε α} {f : α → Outcome ε β} (hx : x ≠ .panic)
    (hf : ∀ a, x = ok a → f a ≠ .panic) : (x >>= f) ≠ .panic := by
  cases x with
  | ok a => exact hf a rfl
  | err e => exact nofun
  | panic => exact absurd rfl hx

/-- `if c { return Err(e) }`. -/
def rejectIf (c : Bool) (e : ε) : Outcome ε Unit := if c then .err e else .ok ()

/-- `ok_or(e)?`. -/
def okOr : Option α → ε → Outcome ε α
  | some a, _ => .ok a
  | none, e => .err e

/-- `unwrap()` on an optional value. -/
def unwrap : Option α → Outcome ε α
  | some a => .ok a
  | none => .panic

@[simp] theorem rejectIf_true (e : ε) : rejectIf true e = .err e := rfl

@[simp] theorem rejectIf_false (e : ε) : rejectIf false e = .ok () := rfl

theorem rejectIf_eq_ok {c : Bool} {e : ε} {u : Unit} : rejectIf c e = .ok u ↔ c = false := by
  cases c <;> simp

theorem rejectIf_ne_panic (c : Bool) (e : ε) : rejectIf c e ≠ .panic := by
  cases c <;> simp

@[simp] theorem okOr_some (a : α) (e : ε) : okOr (some a) e = .ok a := rfl

@[simp] theorem okOr_none (e : ε) : (okOr none e : Outcome ε α) = .err e := rfl

theorem okOr_eq_ok {x : Option α} {e : ε} {a : α} : okOr x e = .ok a ↔ x = some a := by
  cases x <;> simp

theorem unwrap_eq_ok {x : Option α} {a : α} : (unwrap x : Outcome ε α) = .ok a ↔ x = some a := by
  cases x <;> simp [unwrap]

theorem okOr_ne_panic (x : Option α) (e : ε) : okOr x e ≠ .panic := by
  cases x <;> simp

/-- `for i in index..index + count { state = body(i, state)? }`. -/
def forRange (body : Nat → α → Outcome ε α) (index : Nat) : Nat → α → Outcome ε α
  | 0, state => .ok state
  | count + 1, state => do
      let state ← body index state
      forRange body (index + 1) count state

/-- A loop whose every turn succeeds and keeps an invariant. -/
theorem forRange_ok {body : Nat → α → Outcome ε α} {I : Nat → α → Prop} {count : Nat} :
    ∀ {index : Nat} {state : α}, (∀ i a, index ≤ i → i < index + count → I i a →
      ∃ a', body i a = .ok a' ∧ I (i + 1) a') → I index state →
        ∃ a', forRange body index count state = .ok a' ∧ I (index + count) a' := by
  induction count with
  | zero => exact fun _ h => ⟨_, rfl, h⟩
  | succ count ih =>
      intro index state hstep h
      obtain ⟨a, ha, hnext⟩ := hstep index state (Nat.le_refl index) (by omega) h
      obtain ⟨a', ha', hlast⟩ := ih (fun i b hi hlt => hstep i b (by omega) (by omega)) hnext
      refine ⟨a', ?_, ?_⟩
      · rw [forRange, ha]
        exact ha'
      · rwa [show index + (count + 1) = index + 1 + count by omega]

/-- A loop that only checks passes exactly when every turn does. -/
theorem forRange_unit {body : Nat → Unit → Outcome ε Unit} {count : Nat} :
    ∀ {index : Nat}, forRange body index count () = .ok () ↔
      ∀ i, index ≤ i → i < index + count → body i () = .ok () := by
  induction count with
  | zero => exact fun {index} => ⟨fun _ i _ _ => by omega, fun _ => rfl⟩
  | succ count ih =>
      intro index
      rw [forRange, bind_eq_ok]
      constructor
      · rintro ⟨u, hfirst, hrest⟩ i hle hlt
        by_cases hi : i = index
        · rw [hi]
          exact hfirst
        · exact ih.mp hrest i (by omega) (by omega)
      · intro h
        exact ⟨(), h index (Nat.le_refl index) (by omega),
          ih.mpr fun i hle hlt => h i (by omega) (by omega)⟩

end Outcome

/-- A program over state `σ` with events `ω` and errors `ε`. -/
def Prog (σ ω ε α : Type) : Type := σ → Outcome ε α × σ × List ω

namespace Prog

variable {σ ω ε ε' α β : Type}

instance : Monad (Prog σ ω ε) where
  pure a := fun s => (.ok a, s, [])
  bind m f := fun s =>
    match m s with
    | (.ok a, s', w) => ((f a s').1, (f a s').2.1, w ++ (f a s').2.2)
    | (.err e, s', w) => (.err e, s', w)
    | (.panic, s', w) => (.panic, s', w)

def get : Prog σ ω ε σ := fun s => (.ok s, s, [])

def set (s' : σ) : Prog σ ω ε Unit := fun _ => (.ok (), s', [])

def modify (f : σ → σ) : Prog σ ω ε Unit := fun s => (.ok (), f s, [])

def throw (e : ε) : Prog σ ω ε α := fun s => (.err e, s, [])

def panic : Prog σ ω ε α := fun s => (.panic, s, [])

def emit (w : ω) : Prog σ ω ε Unit := fun s => (.ok (), s, [w])

/-- `?` on a pure result. -/
def lift (x : Outcome ε α) : Prog σ ω ε α := fun s => (x, s, [])

/-- `ok_or(e)?` on an optional value. -/
def okOr (x : Option α) (e : ε) : Prog σ ω ε α :=
  match x with
  | some a => pure a
  | none => throw e

/-- `unwrap()` / `expect(..)` on an optional value. -/
def unwrap (x : Option α) : Prog σ ω ε α :=
  match x with
  | some a => pure a
  | none => panic

/-- `match call { Ok(a) => .., Err(e) => .. }`: the error becomes a value,
the state change and the events stay. -/
def attempt (m : Prog σ ω ε α) : Prog σ ω ε' (Except ε α) := fun s =>
  match m s with
  | (.ok a, s', w) => (.ok (.ok a), s', w)
  | (.err e, s', w) => (.ok (.error e), s', w)
  | (.panic, s', w) => (.panic, s', w)

/-- A loop that gathers what its turns produce, in order. -/
def collect (xs : List α) (body : α → Prog σ ω ε (List β)) : Prog σ ω ε (List β) :=
  match xs with
  | [] => pure []
  | x :: rest => do
      let first ← body x
      let others ← collect rest body
      pure (first ++ others)

/-! ## What each combinator returns -/

@[simp] theorem pure_run (a : α) (s : σ) :
    (pure a : Prog σ ω ε α) s = (.ok a, s, []) := rfl

@[simp] theorem get_run (s : σ) : (get : Prog σ ω ε σ) s = (.ok s, s, []) := rfl

@[simp] theorem set_run (s s' : σ) :
    (set s' : Prog σ ω ε Unit) s = (.ok (), s', []) := rfl

@[simp] theorem modify_run (f : σ → σ) (s : σ) :
    (modify f : Prog σ ω ε Unit) s = (.ok (), f s, []) := rfl

@[simp] theorem throw_run (e : ε) (s : σ) :
    (throw e : Prog σ ω ε α) s = (.err e, s, []) := rfl

@[simp] theorem panic_run (s : σ) :
    (panic : Prog σ ω ε α) s = (.panic, s, []) := rfl

@[simp] theorem emit_run (w : ω) (s : σ) :
    (emit w : Prog σ ω ε Unit) s = (.ok (), s, [w]) := rfl

@[simp] theorem lift_run (x : Outcome ε α) (s : σ) :
    (lift x : Prog σ ω ε α) s = (x, s, []) := rfl

@[simp] theorem okOr_some (a : α) (e : ε) :
    (okOr (some a) e : Prog σ ω ε α) = pure a := rfl

@[simp] theorem okOr_none (e : ε) :
    (okOr (none : Option α) e : Prog σ ω ε α) = throw e := rfl

@[simp] theorem unwrap_some (a : α) :
    (unwrap (some a) : Prog σ ω ε α) = pure a := rfl

@[simp] theorem unwrap_none :
    (unwrap (none : Option α) : Prog σ ω ε α) = panic := rfl

theorem bind_run (m : Prog σ ω ε α) (f : α → Prog σ ω ε β) (s : σ) :
    (m >>= f) s =
      match m s with
      | (.ok a, s', w) => ((f a s').1, (f a s').2.1, w ++ (f a s').2.2)
      | (.err e, s', w) => (.err e, s', w)
      | (.panic, s', w) => (.panic, s', w) := rfl

instance : LawfulMonad (Prog σ ω ε) := LawfulMonad.mk' _
  (fun m => by
    funext s
    show (m >>= fun a => pure a) s = m s
    rw [bind_run]
    rcases m s with ⟨_ | _ | _, s', w⟩ <;> simp)
  (fun a f => by
    funext s
    simp [bind_run])
  (fun m f g => by
    funext s
    simp only [bind_run]
    rcases m s with ⟨a | _ | _, s', w⟩
    · simp only
      rcases f a s' with ⟨_ | _ | _, s'', w'⟩ <;> simp
    · rfl
    · rfl)

theorem map_run (f : α → β) (m : Prog σ ω ε α) (s : σ) :
    (f <$> m) s = ((m s).1.map f, (m s).2.1, (m s).2.2) := by
  rw [map_eq_pure_bind, bind_run]
  rcases m s with ⟨_ | _ | _, s', w⟩ <;> simp

/-- A bind whose first part returned a value continues from there. -/
theorem bind_run_ok {m : Prog σ ω ε α} {f : α → Prog σ ω ε β} {s s' : σ}
    {a : α} {w : List ω} (h : m s = (.ok a, s', w)) :
    (m >>= f) s = ((f a s').1, (f a s').2.1, w ++ (f a s').2.2) := by
  rw [bind_run, h]

theorem bind_run_err {m : Prog σ ω ε α} {f : α → Prog σ ω ε β} {s s' : σ}
    {e : ε} {w : List ω} (h : m s = (.err e, s', w)) :
    (m >>= f) s = (.err e, s', w) := by
  rw [bind_run, h]

/-- A check that passes leaves no trace. -/
theorem lift_ok_bind (a : α) (f : α → Prog σ ω ε β) : (lift (.ok a) >>= f) = f a := rfl

/-- A sequence that returned a value, taken apart. -/
theorem bind_run_eq_ok {m : Prog σ ω ε α} {f : α → Prog σ ω ε β} {s s' : σ} {b : β} {w : List ω}
    (h : (m >>= f) s = (.ok b, s', w)) :
    ∃ a s₁ w₁ w₂, m s = (.ok a, s₁, w₁) ∧ f a s₁ = (.ok b, s', w₂) ∧ w = w₁ ++ w₂ := by
  rcases hm : m s with ⟨a | e | _, s₁, w₁⟩
  · rw [bind_run_ok hm] at h
    obtain ⟨h₁, h₂⟩ := Prod.mk.inj h
    obtain ⟨h₂, h₃⟩ := Prod.mk.inj h₂
    exact ⟨a, s₁, w₁, (f a s₁).2.2, rfl, by rw [← h₁, ← h₂], h₃.symm⟩
  · rw [bind_run_err hm] at h
    cases h
  · rw [bind_run, hm] at h
    cases h

theorem get_bind_run (f : σ → Prog σ ω ε α) (s : σ) : (get >>= f) s = f s s := rfl

/-- A check in front of a sequence that returned a value has passed. -/
theorem lift_bind_eq_ok {x : Outcome ε α} {f : α → Prog σ ω ε β} {s s' : σ} {b : β} {w : List ω}
    (h : (lift x >>= f) s = (.ok b, s', w)) : ∃ a, x = .ok a ∧ f a s = (.ok b, s', w) := by
  cases x with
  | ok a => exact ⟨a, rfl, h⟩
  | err e | panic => cases h

/-! ## Weakest preconditions -/

/-- `wp m Q s`: from `s`, the program ends in an outcome, state and event
list that satisfy `Q`. -/
def wp (m : Prog σ ω ε α) (Q : Outcome ε α → σ → List ω → Prop) (s : σ) : Prop :=
  Q (m s).1 (m s).2.1 (m s).2.2

@[simp] theorem wp_pure (a : α) (Q : Outcome ε α → σ → List ω → Prop) (s : σ) :
    wp (pure a) Q s ↔ Q (.ok a) s [] := Iff.rfl

@[simp] theorem wp_get (Q : Outcome ε σ → σ → List ω → Prop) (s : σ) :
    wp get Q s ↔ Q (.ok s) s [] := Iff.rfl

@[simp] theorem wp_set (s' : σ) (Q : Outcome ε Unit → σ → List ω → Prop) (s : σ) :
    wp (set s') Q s ↔ Q (.ok ()) s' [] := Iff.rfl

@[simp] theorem wp_modify (f : σ → σ) (Q : Outcome ε Unit → σ → List ω → Prop)
    (s : σ) : wp (modify f) Q s ↔ Q (.ok ()) (f s) [] := Iff.rfl

@[simp] theorem wp_throw (e : ε) (Q : Outcome ε α → σ → List ω → Prop) (s : σ) :
    wp (throw e) Q s ↔ Q (.err e) s [] := Iff.rfl

@[simp] theorem wp_panic (Q : Outcome ε α → σ → List ω → Prop) (s : σ) :
    wp panic Q s ↔ Q .panic s [] := Iff.rfl

@[simp] theorem wp_emit (w : ω) (Q : Outcome ε Unit → σ → List ω → Prop) (s : σ) :
    wp (emit w) Q s ↔ Q (.ok ()) s [w] := Iff.rfl

@[simp] theorem wp_lift (x : Outcome ε α) (Q : Outcome ε α → σ → List ω → Prop)
    (s : σ) : wp (lift x) Q s ↔ Q x s [] := Iff.rfl

/-- The rule for sequencing: an `ok` continues with the events so far in
front, an error or a panic ends the program where it is. -/
theorem wp_bind (m : Prog σ ω ε α) (f : α → Prog σ ω ε β)
    (Q : Outcome ε β → σ → List ω → Prop) (s : σ) :
    wp (m >>= f) Q s ↔
      wp m (fun o s' w => match o with
        | .ok a => wp (f a) (fun o' s'' w' => Q o' s'' (w ++ w')) s'
        | .err e => Q (.err e) s' w
        | .panic => Q .panic s' w) s := by
  unfold wp
  rw [bind_run]
  rcases m s with ⟨_ | _ | _, s', w⟩ <;> rfl

/-- Behind a call whose result is known. -/
theorem wp_bind_ok {m : Prog σ ω ε α} {s s' : σ} {a : α} {w : List ω} (h : m s = (.ok a, s', w))
    (f : α → Prog σ ω ε β) (Q : Outcome ε β → σ → List ω → Prop) :
    wp (m >>= f) Q s ↔ wp (f a) (fun o s'' w' => Q o s'' (w ++ w')) s' := by
  unfold wp
  rw [bind_run_ok h]

/-- A pure check in front: an error leaves state and events alone. -/
theorem wp_lift_bind (x : Outcome ε α) (f : α → Prog σ ω ε β)
    (Q : Outcome ε β → σ → List ω → Prop) (s : σ) :
    wp (lift x >>= f) Q s ↔
      match x with
      | .ok a => wp (f a) Q s
      | .err e => Q (.err e) s []
      | .panic => Q .panic s [] := by
  rw [wp_bind, wp_lift]
  cases x <;> simp [wp]

/-- `if c { return Err(e) }` in front. -/
theorem wp_rejectIf_bind (c : Bool) (e : ε) (f : Unit → Prog σ ω ε β)
    (Q : Outcome ε β → σ → List ω → Prop) (s : σ) :
    wp (lift (Outcome.rejectIf c e) >>= f) Q s ↔
      (c = true → Q (.err e) s []) ∧ (c = false → wp (f ()) Q s) := by
  rw [wp_lift_bind]
  cases c <;> simp

theorem wp_get_bind (f : σ → Prog σ ω ε β) (Q : Outcome ε β → σ → List ω → Prop)
    (s : σ) : wp (get >>= f) Q s ↔ wp (f s) Q s := by
  rw [wp_bind]
  simp [wp]

theorem wp_modify_bind (f : σ → σ) (g : Unit → Prog σ ω ε β) (Q : Outcome ε β → σ → List ω → Prop)
    (s : σ) : wp (modify f >>= g) Q s ↔ wp (g ()) Q (f s) := by
  rw [wp_bind]
  simp [wp]

/-- Tagging a result. -/
theorem wp_bind_pure (m : Prog σ ω ε α) (f : α → β)
    (Q : Outcome ε β → σ → List ω → Prop) (s : σ) :
    wp (m >>= fun a => pure (f a)) Q s ↔ wp m (fun o s' w => Q (o.map f) s' w) s := by
  unfold wp
  rw [bind_run]
  rcases m s with ⟨_ | _ | _, s', w⟩ <;> simp

theorem wp_map (f : α → β) (m : Prog σ ω ε α) (Q : Outcome ε β → σ → List ω → Prop) (s : σ) :
    wp (f <$> m) Q s ↔ wp m (fun o s' w => Q (o.map f) s' w) s := by
  rw [map_eq_pure_bind, wp_bind_pure]

theorem wp_attempt (m : Prog σ ω ε α)
    (Q : Outcome ε' (Except ε α) → σ → List ω → Prop) (s : σ) :
    wp (attempt m) Q s ↔
      wp m (fun o s' w => match o with
        | .ok a => Q (.ok (.ok a)) s' w
        | .err e => Q (.ok (.error e)) s' w
        | .panic => Q .panic s' w) s := by
  unfold wp attempt
  rcases m s with ⟨_ | _ | _, s', w⟩ <;> rfl

theorem wp_mono {m : Prog σ ω ε α} {Q R : Outcome ε α → σ → List ω → Prop} {s : σ}
    (h : wp m Q s) (hQR : ∀ o s' w, Q o s' w → R o s' w) : wp m R s :=
  hQR _ _ _ h

end Prog

end Wyrmroot
