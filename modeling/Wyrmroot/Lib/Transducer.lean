import Mathlib.Data.List.Basic

/-!
# What a bounded queue keeps

Elements arrive at a queue of a given capacity and leave it at the front. An
element that arrives at a full queue is lost. Only how many are held decides
this, so what is kept can be said without the queue: `kept` is everything that
found room, in order, and the queue is what of it has not left.
-/

namespace Wyrmroot

inductive Traffic (α : Type) where
  | arrive (a : α)
  | leave (count : Nat)
deriving DecidableEq

structure Intake (α : Type) where
  kept : List α
  gone : Nat
  lost : Nat
deriving DecidableEq

namespace Intake

variable {α : Type} {cap : Nat}

def empty : Intake α := ⟨[], 0, 0⟩

def queue (i : Intake α) : List α := i.kept.drop i.gone

def step (cap : Nat) (i : Intake α) : Traffic α → Intake α
  | .arrive a =>
      if i.kept.length - i.gone < cap then { i with kept := i.kept ++ [a] }
      else { i with lost := i.lost + 1 }
  | .leave count => { i with gone := i.gone + count }

theorem step_room {i : Intake α} {a : α} (h : i.kept.length - i.gone < cap) :
    step cap i (.arrive a) = { i with kept := i.kept ++ [a] } := if_pos h

theorem step_full {i : Intake α} {a : α} (h : ¬ i.kept.length - i.gone < cap) :
    step cap i (.arrive a) = { i with lost := i.lost + 1 } := if_neg h

def run (cap : Nat) (i : Intake α) (traffic : List (Traffic α)) : Intake α :=
  traffic.foldl (step cap) i

@[simp] theorem run_nil (i : Intake α) : run cap i [] = i := rfl

@[simp] theorem run_append (i : Intake α) (t t' : List (Traffic α)) :
    run cap i (t ++ t') = run cap (run cap i t) t' := List.foldl_append

def arrivals : List (Traffic α) → List α
  | [] => []
  | .arrive a :: rest => a :: arrivals rest
  | .leave _ :: rest => arrivals rest

/-- Every arrival is kept or lost. -/
theorem run_count (cap : Nat) (traffic : List (Traffic α)) : ∀ i : Intake α,
    (run cap i traffic).kept.length + (run cap i traffic).lost =
      i.kept.length + i.lost + (arrivals traffic).length := by
  induction traffic with
  | nil => exact fun _ => rfl
  | cons event rest ih =>
      intro i
      rw [run, List.foldl_cons, ← run, ih]
      cases event with
      | leave count => rfl
      | arrive a =>
          rw [step, arrivals, List.length_cons]
          split_ifs
          all_goals simp only [List.length_append, List.length_singleton]
          all_goals omega

/-- What is kept has kept its order. -/
theorem run_sublist (cap : Nat) (traffic : List (Traffic α)) : ∀ i : Intake α,
    ∃ more, (run cap i traffic).kept = i.kept ++ more ∧ more.Sublist (arrivals traffic) := by
  induction traffic with
  | nil => exact fun i => ⟨[], (List.append_nil _).symm, List.Sublist.refl _⟩
  | cons event rest ih =>
      intro i
      obtain ⟨more, hmore, hsub⟩ := ih (step cap i event)
      rw [run, List.foldl_cons, ← run, hmore]
      cases event with
      | leave count => exact ⟨more, rfl, hsub⟩
      | arrive a =>
          by_cases hroom : i.kept.length - i.gone < cap
          · refine ⟨a :: more, ?_, hsub.cons_cons a⟩
            rw [step_room hroom, List.append_assoc, List.singleton_append]
          · refine ⟨more, ?_, hsub.cons a⟩
            rw [step_full hroom]

end Intake

/-!
## Transducers

A machine that reads letters and writes words. What it writes for a stream does
not depend on where the stream is cut, so a machine behind a buffer can be fed
and drained in any order: `Conveys` is the law between what went in, what came
out and what is still held.
-/

structure Transducer (σ α β : Type) where
  next : σ → α → σ
  emit : σ → α → List β

namespace Transducer

variable {σ α β : Type} {t : Transducer σ α β} {s s' : σ}

/-- The state behind some letters. -/
def after (t : Transducer σ α β) (s : σ) (letters : List α) : σ := letters.foldl t.next s

/-- What is written for some letters. -/
def output (t : Transducer σ α β) : σ → List α → List β
  | _, [] => []
  | s, letter :: rest => t.emit s letter ++ t.output (t.next s letter) rest

theorem after_append (xs ys : List α) : t.after s (xs ++ ys) = t.after (t.after s xs) ys :=
  List.foldl_append

theorem output_append (xs ys : List α) :
    t.output s (xs ++ ys) = t.output s xs ++ t.output (t.after s xs) ys := by
  induction xs generalizing s with
  | nil => rfl
  | cons x xs ih =>
      rw [List.cons_append, output, ih, output, List.append_assoc]
      rfl

/-- Fed from `s`, the machine is in `s'`; of its output some was sent and the rest is held. -/
structure Conveys (t : Transducer σ α β) (s : σ) (fed : List α) (s' : σ) (sent held : List β) :
    Prop where
  state : s' = t.after s fed
  balance : sent ++ held = t.output s fed

namespace Conveys

variable {fed : List α} {sent held : List β}

theorem start (t : Transducer σ α β) (s : σ) : t.Conveys s [] s [] [] := ⟨rfl, rfl⟩

theorem feed (h : t.Conveys s fed s' sent held) (letters : List α) :
    t.Conveys s (fed ++ letters) (t.after s' letters) sent (held ++ t.output s' letters) where
  state := by rw [h.state, after_append]
  balance := by rw [output_append, ← h.balance, ← h.state, List.append_assoc]

/-- Some of what is held is sent. -/
theorem send (h : t.Conveys s fed s' sent held) (count : Nat) :
    t.Conveys s fed s' (sent ++ held.take count) (held.drop count) where
  state := h.state
  balance := by rw [List.append_assoc, List.take_append_drop, h.balance]

/-- Nothing was sent that was not written. -/
theorem isPrefix (h : t.Conveys s fed s' sent held) : sent <+: t.output s fed := ⟨held, h.balance⟩

end Conveys

end Transducer

end Wyrmroot
