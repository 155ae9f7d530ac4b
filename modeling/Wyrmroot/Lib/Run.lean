import Wyrmroot.Lib.Prog

/-!
# Runs of a machine

A machine is a family of programs over one state, indexed by the calls its
interface offers. A run is a history of calls from an initial state, each
taken from the state the previous one left; errors are recorded like
successes, and a panicking call ends the run (there is no state after it).

History-dependent properties are stated over the recorded calls. `Run.mem`
and `Run.split` give back, for a call inside a history, the run that led
to it, so a fact about one call from a reachable state is a fact about
every call of every history.
-/

namespace Wyrmroot

variable {τ : Type} {l l₁ l₂ : List τ} {x : τ}

/-- Where an element sits in a list with one more element at its end. -/
theorem snoc_eq_append_cons {y : τ} (h : l ++ [x] = l₁ ++ y :: l₂) :
    (l = l₁ ∧ x = y ∧ l₂ = []) ∨ ∃ t, l₂ = t ++ [x] ∧ l = l₁ ++ y :: t := by
  rcases List.eq_nil_or_concat l₂ with rfl | ⟨t, z, rfl⟩
  · obtain ⟨hl, hx⟩ := List.append_inj' h rfl
    exact Or.inl ⟨hl, (List.cons.inj hx).1, rfl⟩
  · have h' : l ++ [x] = (l₁ ++ y :: t) ++ [z] := by simpa using h
    obtain ⟨hl, hx⟩ := List.append_inj' h' rfl
    obtain rfl := (List.cons.inj hx).1
    exact Or.inr ⟨t, by simp, hl⟩

/-- A suffix of such a list is empty or ends in that element. -/
theorem snoc_eq_append (h : l ++ [x] = l₁ ++ l₂) :
    l₂ = [] ∨ ∃ t, l₂ = t ++ [x] ∧ l = l₁ ++ t := by
  rcases List.eq_nil_or_concat l₂ with rfl | ⟨t, z, rfl⟩
  · exact Or.inl rfl
  · have h' : l ++ [x] = (l₁ ++ t) ++ [z] := by simpa using h
    obtain ⟨hl, hx⟩ := List.append_inj' h' rfl
    obtain rfl := (List.cons.inj hx).1
    exact Or.inr ⟨t, by simp, hl⟩

/-- One recorded call of a machine. -/
structure Call (ι σ ω ε α : Type) where
  before : σ
  op : ι
  outcome : Outcome ε α
  after : σ
  events : List ω

variable {ι σ ω ε α : Type}

/-- The record of calling `op` in state `s`. -/
def callOf (exec : ι → Prog σ ω ε α) (op : ι) (s : σ) : Call ι σ ω ε α :=
  ⟨s, op, (exec op s).1, (exec op s).2.1, (exec op s).2.2⟩

/-- `Run exec init h s`: the history `h` leads from a state satisfying
`init` to `s`, no call panicking. -/
inductive Run (exec : ι → Prog σ ω ε α) (init : σ → Prop) :
    List (Call ι σ ω ε α) → σ → Prop
  | start {s : σ} : init s → Run exec init [] s
  | call {h : List (Call ι σ ω ε α)} {s : σ} (op : ι) : Run exec init h s →
      (exec op s).1 ≠ .panic →
      Run exec init (h ++ [callOf exec op s]) (exec op s).2.1

variable {I : σ → Prop}

namespace Run

variable {exec : ι → Prog σ ω ε α} {init : σ → Prop}
  {h h₁ h₂ : List (Call ι σ ω ε α)} {s : σ} {c : Call ι σ ω ε α}

/-- A state predicate kept by every call holds in every reachable state. -/
theorem invariant (hinit : ∀ s, init s → I s)
    (hstep : ∀ op s, I s → (exec op s).1 ≠ .panic → I (exec op s).2.1)
    (hrun : Run exec init h s) : I s := by
  induction hrun with
  | start hs => exact hinit _ hs
  | call op _ hp ih => exact hstep op _ ih hp

/-- The history up to some point is itself a run, and the next recorded
call starts where it ends. -/
theorem split (hrun : Run exec init (h₁ ++ c :: h₂) s) :
    Run exec init h₁ c.before ∧ c = callOf exec c.op c.before
      ∧ c.outcome ≠ .panic := by
  generalize hh : h₁ ++ c :: h₂ = h at hrun
  induction hrun generalizing h₂ with
  | start _ => simp at hh
  | call op hr hp ih =>
      rcases snoc_eq_append_cons hh.symm with ⟨rfl, rfl, -⟩ | ⟨t, -, rfl⟩
      · exact ⟨hr, rfl, hp⟩
      · exact ih rfl

/-- A run ends where its last call left it. -/
theorem last (hrun : Run exec init (h ++ [c]) s) : Run exec init h c.before ∧ s = c.after := by
  generalize hh : h ++ [c] = whole at hrun
  cases hrun with
  | start _ => exact absurd hh (List.append_ne_nil_of_right_ne_nil _ (List.cons_ne_nil _ _))
  | call op hr _ =>
      obtain ⟨rfl, hc⟩ := List.append_inj' hh rfl
      obtain rfl := (List.cons.inj hc).1
      exact ⟨hr, rfl⟩

/-- Every recorded call was made from a reachable state. -/
theorem mem (hrun : Run exec init h s) (hc : c ∈ h) :
    (∃ h', h' <+: h ∧ Run exec init h' c.before) ∧ c = callOf exec c.op c.before
      ∧ c.outcome ≠ .panic := by
  obtain ⟨h₁, h₂, rfl⟩ := List.append_of_mem hc
  obtain ⟨hr, heq, hp⟩ := hrun.split
  exact ⟨⟨h₁, List.prefix_append _ _, hr⟩, heq, hp⟩

end Run

/-! ## Replaying a list of calls -/

/-- Make the calls in order from `s`, recording each. -/
def replay (exec : ι → Prog σ ω ε α) : List ι → σ → List (Call ι σ ω ε α) × σ
  | [], s => ([], s)
  | op :: ops, s =>
      (callOf exec op s :: (replay exec ops (exec op s).2.1).1,
        (replay exec ops (exec op s).2.1).2)

/-- The record of one of the calls, between those before it and those behind it. -/
theorem replay_split (exec : ι → Prog σ ω ε α) (op : ι) (later : List ι) :
    ∀ (earlier : List ι) (s : σ), (replay exec (earlier ++ op :: later) s).1 =
      (replay exec earlier s).1 ++ callOf exec op (replay exec earlier s).2 ::
        (replay exec later (exec op (replay exec earlier s).2).2.1).1
  | [], _ => rfl
  | first :: earlier, s => by
      rw [List.cons_append, replay, replay_split exec op later earlier]
      rfl

/-- The calls behind others start where those end. -/
theorem replay_append (exec : ι → Prog σ ω ε α) (later : List ι) : ∀ (earlier : List ι) (s : σ),
    replay exec (earlier ++ later) s =
      ((replay exec earlier s).1 ++ (replay exec later (replay exec earlier s).2).1,
        (replay exec later (replay exec earlier s).2).2)
  | [], _ => rfl
  | op :: earlier, s => by
      rw [List.cons_append, replay, replay_append exec later earlier]
      rfl

/-- What every call keeps of the history and the state, a replay keeps. -/
theorem replay_keeps {exec : ι → Prog σ ω ε α} {P : List (Call ι σ ω ε α) → σ → Prop}
    (hcall : ∀ h s op, P h s → P (h ++ [callOf exec op s]) (exec op s).2.1) :
    ∀ (ops : List ι) {h : List (Call ι σ ω ε α)} {s : σ}, P h s →
      P (h ++ (replay exec ops s).1) (replay exec ops s).2
  | [], h, s, hP => by simpa [replay] using hP
  | op :: ops, h, s, hP => by
      have htail := replay_keeps hcall ops (hcall h s op hP)
      simpa [replay] using htail

/-- What every call keeps of the state, holds before each of them. -/
theorem replay_mem {exec : ι → Prog σ ω ε α}
    (hstep : ∀ op s, I s → I (exec op s).2.1) {c : Call ι σ ω ε α} :
    ∀ (ops : List ι) {s : σ}, I s → c ∈ (replay exec ops s).1 →
      I c.before ∧ c = callOf exec c.op c.before
  | op :: ops, s, hs, hc => by
      rcases List.mem_cons.mp hc with rfl | hc
      · exact ⟨hs, rfl⟩
      · exact replay_mem hstep ops (hstep op s hs) hc

/-- A replay without a panic extends a run. -/
theorem Run.replay {exec : ι → Prog σ ω ε α} {init : σ → Prop} :
    ∀ (ops : List ι) {h : List (Call ι σ ω ε α)} {s : σ}, Run exec init h s →
      (∀ c ∈ (Wyrmroot.replay exec ops s).1, c.outcome ≠ .panic) →
      Run exec init (h ++ (Wyrmroot.replay exec ops s).1) (Wyrmroot.replay exec ops s).2
  | [], h, s, hrun, _ => by simpa [Wyrmroot.replay] using hrun
  | op :: ops, h, s, hrun, hp => by
      have hhead : (exec op s).1 ≠ .panic := hp _ (List.mem_cons_self ..)
      have htail := Run.replay ops (hrun.call op hhead)
        fun c hc => hp c (List.mem_cons_of_mem _ hc)
      simpa [Wyrmroot.replay] using htail

/-- Where no call from a good state panics and goodness is kept, every
sequence of calls is a run. -/
theorem replay_run {exec : ι → Prog σ ω ε α} {init I : σ → Prop} (hinit : ∀ s, init s → I s)
    (hstep : ∀ op s, I s → (exec op s).1 ≠ .panic ∧ I (exec op s).2.1) {s : σ} (hs : init s)
    (ops : List ι) : Run exec init (replay exec ops s).1 (replay exec ops s).2 := by
  have hcalls : ∀ (ops : List ι) (s : σ), I s → ∀ c ∈ (replay exec ops s).1,
      c.outcome ≠ .panic := by
    intro ops
    induction ops with
    | nil => exact fun s _ c hc => absurd hc List.not_mem_nil
    | cons op rest ih =>
        intro s hI c hc
        rw [replay] at hc
        rcases List.mem_cons.mp hc with rfl | hc
        · exact (hstep op s hI).1
        · exact ih _ (hstep op s hI).2 c hc
  exact Run.replay ops (.start hs) (hcalls ops s (hinit s hs))

end Wyrmroot
