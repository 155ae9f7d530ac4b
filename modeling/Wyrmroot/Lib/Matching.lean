import Mathlib.Data.List.Infix

/-!
# Matching a pattern one symbol at a time

A matcher that keeps one number, how much of the pattern the text ends in,
and on a mismatch starts again at the symbol it just saw. That is enough
when the pattern's first symbol does not come back in the pattern: then no
proper part of a match can be the start of another one.
-/

namespace Wyrmroot

variable {α : Type} [DecidableEq α]

/-- The next count, after `m` symbols of `pattern` and then `x`. -/
def advance (pattern : List α) (m : Nat) (x : α) : Nat :=
  if pattern[m]? = some x then m + 1 else if pattern.head? = some x then 1 else 0

variable {pattern : List α} {m : Nat}

theorem advance_le (x : α) (hm : m < pattern.length) :
    advance pattern m x ≤ pattern.length := by
  unfold advance
  split_ifs <;> omega

theorem advance_of_getElem? {x : α} (h : pattern[m]? = some x) :
    advance pattern m x = m + 1 := if_pos h

/-- The text ends in what has been matched. -/
theorem take_advance_suffix {text : List α} (h : pattern.take m <:+ text)
    (x : α) : pattern.take (advance pattern m x) <:+ text ++ [x] := by
  unfold advance
  split_ifs with hnext hfirst
  · obtain ⟨before, rfl⟩ := h
    refine ⟨before, ?_⟩
    rw [List.take_add_one, hnext, Option.toList_some, List.append_assoc]
  · obtain ⟨rest, rfl⟩ := List.head?_eq_some_iff.mp hfirst
    exact List.suffix_append text [x]
  · exact List.nil_suffix

/-- A text without the pattern never completes a match. -/
theorem advance_lt {text : List α} {x : α} (hm : m < pattern.length)
    (h : pattern.take m <:+ text) (hnot : ¬ pattern <:+: text ++ [x]) :
    advance pattern m x < pattern.length := by
  refine Nat.lt_of_le_of_ne (advance_le x hm) fun hfull => hnot ?_
  have hsuffix := take_advance_suffix h x
  rw [hfull, List.take_length] at hsuffix
  exact hsuffix.isInfix

/-- The pattern's first symbol starts a match, whatever came before it. -/
theorem advance_first {a : α} {rest : List α} (ha : a ∉ rest) (m : Nat) :
    advance (a :: rest) m a = 1 := by
  unfold advance
  split_ifs with hnext hfirst
  · cases m with
    | zero => rfl
    | succ m =>
        rw [List.getElem?_cons_succ] at hnext
        exact absurd (List.mem_of_getElem? hnext) ha
  · rfl
  · exact absurd rfl hfirst

/-- A symbol that is not in the pattern starts over. -/
theorem advance_of_notMem {x : α} (hx : x ∉ pattern) (m : Nat) :
    advance pattern m x = 0 := by
  unfold advance
  split_ifs with hnext hfirst
  · exact absurd (List.mem_of_getElem? hnext) hx
  · exact absurd (List.mem_of_head? hfirst) hx
  · rfl

end Wyrmroot
