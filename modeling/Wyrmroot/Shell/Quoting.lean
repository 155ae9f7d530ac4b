import Wyrmroot.Shell.Meaning

/-!
# Quoting

The ways to write a word so that it is read back: runs of characters in single or
double quotes, characters behind a backslash, and bare ones, in any order. Words
written in any of these ways and joined by spaces are the arguments of the line.
-/

namespace Wyrmroot.Shell

namespace Grammar

/-- How a word may be written between double quotes. -/
inductive Escaped : List Char → List Char → Prop
  | nil : Escaped [] []
  | plain {c word text} (hquot : c ≠ quotation) (hback : c ≠ backslash)
      (rest : Escaped word text) : Escaped (c :: word) (c :: text)
  | escape {c d word text} (h : escape d = .ok c) (rest : Escaped word text) :
      Escaped (c :: word) (backslash :: d :: text)

/-- How part of a word may be written. -/
inductive Part : List Char → List Char → Prop
  | single {word} (h : apostrophe ∉ word) : Part word (apostrophe :: (word ++ [apostrophe]))
  | double {word text} (h : Escaped word text) : Part word (quotation :: (text ++ [quotation]))
  | escaped (c) : Part [c] [backslash, c]
  | bare {c} (h : PlainChar .none c) : Part [c] [c]

/-- How a word may be written. -/
inductive Spells : List Char → List Char → Prop
  | one {word text} (part : Part word text) : Spells word text
  | more {word text word' text'} (part : Part word text) (rest : Spells word' text') :
      Spells (word ++ word') (text ++ text')

variable {word text left : List Char} {c d : Char}

/-! ## The two usual ways -/

def singleQuoted (word : List Char) : List Char := apostrophe :: (word ++ [apostrophe])

/-- Backslashes where they are needed. -/
def escapeChar (c : Char) : List Char :=
  if c = quotation ∨ c = backslash then [backslash, c] else [c]

def doubleQuoted (word : List Char) : List Char :=
  quotation :: (word.flatMap escapeChar ++ [quotation])

theorem spells_single (h : apostrophe ∉ word) : Spells word (singleQuoted word) := .one (.single h)

theorem escaped_flatMap (word : List Char) : Escaped word (word.flatMap escapeChar) := by
  induction word with
  | nil => exact .nil
  | cons c word ih =>
      rw [List.flatMap_cons, escapeChar]
      split_ifs with hmark
      · exact .escape (if_pos hmark.symm) ih
      · obtain ⟨hquot, hback⟩ := not_or.mp hmark
        exact .plain hquot hback ih

theorem spells_double (word : List Char) : Spells word (doubleQuoted word) :=
  .one (.double (escaped_flatMap word))

/-! ## What is read of a spelling -/

/-- The characters that stand before what is left to read. -/
def prependAll (word : List Char) (reading : Reading Word) : Reading Word :=
  reading.map fun w => (word ++ w.1, w.2)

theorem prependAll_nil (reading : Reading Word) : prependAll [] reading = reading := by
  cases reading <;> rfl

theorem prepend_all (reading : Reading Word) :
    prepend c (prependAll word reading) = prependAll (c :: word) reading := by
  cases reading <;> rfl

theorem single_read (h : apostrophe ∉ word) (left : List Char) :
    single (word ++ apostrophe :: left) = prependAll word (bare left) := by
  induction word with
  | nil => rw [List.nil_append, single, if_pos rfl, prependAll_nil]
  | cons c word ih =>
      obtain ⟨hne, hword⟩ := not_or.mp (mt List.mem_cons.mpr h)
      rw [List.cons_append, single, if_neg (Ne.symm hne), ih hword, prepend_all]

theorem double_read (h : Escaped word text) (left : List Char) :
    double (text ++ quotation :: left) = prependAll word (bare left) := by
  induction h with
  | nil =>
      rw [List.nil_append, double.eq_def]
      dsimp only
      rw [if_pos rfl, prependAll_nil]
  | @plain c word text hquot hback rest ih =>
      rw [List.cons_append, double.eq_def]
      dsimp only
      rw [if_neg hquot, if_neg hback, ih, prepend_all]
  | @escape c d word text h rest ih =>
      have hne : backslash ≠ quotation := by decide
      rw [List.cons_append, List.cons_append, double.eq_def]
      dsimp only
      rw [if_neg hne, if_pos rfl, ih, h, ← prepend_all]
      rfl

theorem part_read (h : Part word text) (left : List Char) :
    bare (text ++ left) = prependAll word (bare left) := by
  cases h with
  | single h =>
      rw [List.cons_append, List.append_assoc, List.singleton_append, bare.eq_def]
      exact single_read h left
  | double h =>
      rw [List.cons_append, List.append_assoc, List.singleton_append, bare.eq_def]
      exact double_read h left
  | escaped c =>
      rw [List.cons_append, List.cons_append, List.nil_append, bare.eq_def]
      rfl
  | @bare c h =>
      obtain ⟨hblank, happ, hquot, hback⟩ := h
      rw [List.singleton_append, bare.eq_def]
      dsimp only
      rw [hblank rfl, if_neg (happ (by decide)), if_neg (hquot (by decide)),
        if_neg (hback (by decide))]
      rfl

theorem ends_read (hends : ∀ c ∈ left.head?, blank c = true) : bare left = .ok ([], left) := by
  cases left with
  | nil => rfl
  | cons c left =>
      rw [bare.eq_def]
      exact if_pos (hends c rfl)

theorem spells_read (h : Spells word text) (hends : ∀ c ∈ left.head?, blank c = true) :
    bare (text ++ left) = .ok (word, left) := by
  induction h with
  | one part =>
      rw [part_read part, ends_read hends]
      exact congrArg (fun w => Except.ok (w, left)) (List.append_nil _)
  | more part rest ih =>
      rw [List.append_assoc, part_read part, ih]
      rfl

theorem spells_head (h : Spells word text) :
    ∃ c rest, text = c :: rest ∧ blank c = false := by
  have hpart : ∀ {word text}, Part word text → ∃ c rest, text = c :: rest ∧ blank c = false := by
    intro word text part
    cases part with
    | single h | double h | escaped c => exact ⟨_, _, rfl, rfl⟩
    | bare h => exact ⟨_, _, rfl, h.1 rfl⟩
  cases h with
  | one part => exact hpart part
  | more part rest =>
      obtain ⟨c, rest, rfl, hblank⟩ := hpart part
      exact ⟨c, _, List.cons_append, hblank⟩

def space : Char := Char.ofNat 32

theorem words_space (room : Nat) (cs : List Char) : words room (space :: cs) = words room cs := by
  have hdrop : (space :: cs).dropWhile blank = cs.dropWhile blank := List.dropWhile_cons_of_pos rfl
  cases room with
  | zero | succ room => rw [words, words, hdrop]

theorem words_spelled (room : Nat) (h : Spells word text)
    (hends : ∀ c ∈ left.head?, blank c = true) :
    words (room + 1) (text ++ left) = (words room left).map (word :: ·) := by
  have hread := spells_read h hends
  obtain ⟨c, rest, rfl, hblank⟩ := spells_head h
  have hdrop : (c :: rest ++ left).dropWhile blank = c :: (rest ++ left) :=
    List.dropWhile_cons_of_neg (by rw [hblank]; decide)
  rw [List.cons_append] at hread
  rw [words, hdrop]
  dsimp only
  rw [hread]
  change (words room left >>= fun more => Except.ok (word :: more)) = _
  cases words room left <;> rfl

theorem words_joined {spelled texts : List (List Char)} (h : List.Forall₂ Spells spelled texts)
    {room : Nat} (hroom : spelled.length ≤ room) :
    words room ([space].intercalate texts) = .ok spelled := by
  induction h generalizing room with
  | nil => cases room <;> rfl
  | @cons word text spelled texts hword hrest ih =>
      obtain ⟨room, rfl⟩ : ∃ n, room = n + 1 := ⟨room - 1, by rw [List.length_cons] at hroom; omega⟩
      have hread := ih (Nat.le_of_succ_le_succ hroom)
      cases texts with
      | nil =>
          have hnone : words (room + 1) (text ++ []) = (words room []).map (word :: ·) :=
            words_spelled room hword (by rintro c ⟨⟩)
          rw [List.append_nil] at hnone
          rw [List.intercalate_singleton, hnone]
          rw [List.intercalate_nil] at hread
          rw [hread]
          rfl
      | cons text' texts =>
          rw [List.intercalate_cons_cons, List.append_assoc, List.singleton_append]
          rw [words_spelled room hword (by rintro c ⟨⟩; rfl), words_space, hread]
          rfl

/-! ## Spellings without a 0 -/

theorem escape_nul (h : escape d = .ok c) : Char.ofNat 0 ≠ d := by
  rintro rfl
  cases h

theorem escaped_nul (h : Escaped word text) (hword : Char.ofNat 0 ∉ word) :
    Char.ofNat 0 ∉ text := by
  induction h with
  | nil => exact hword
  | plain hquot hback rest ih =>
      obtain ⟨hc, hrest⟩ := not_or.mp (mt List.mem_cons.mpr hword)
      exact mt List.mem_cons.mp (not_or.mpr ⟨hc, ih hrest⟩)
  | escape h rest ih =>
      obtain ⟨-, hrest⟩ := not_or.mp (mt List.mem_cons.mpr hword)
      refine mt List.mem_cons.mp (not_or.mpr ⟨by decide, ?_⟩)
      exact mt List.mem_cons.mp (not_or.mpr ⟨escape_nul h, ih hrest⟩)

theorem part_nul (h : Part word text) (hword : Char.ofNat 0 ∉ word) : Char.ofNat 0 ∉ text := by
  -- between two marks, which are not 0
  have hquoted : ∀ {mark : Char} {inner : List Char}, Char.ofNat 0 ≠ mark →
      Char.ofNat 0 ∉ inner → Char.ofNat 0 ∉ mark :: (inner ++ [mark]) := by
    intro mark inner hmark hinner hmem
    rw [List.mem_cons, List.mem_append, List.mem_singleton] at hmem
    rcases hmem with hmem | hmem | hmem
    · exact hmark hmem
    · exact hinner hmem
    · exact hmark hmem
  cases h with
  | single h => exact hquoted (by decide) hword
  | double h => exact hquoted (by decide) (escaped_nul h hword)
  | escaped c => exact mt List.mem_cons.mp (not_or.mpr ⟨by decide, hword⟩)
  | bare h => exact hword

theorem spells_nul (h : Spells word text) (hword : Char.ofNat 0 ∉ word) : Char.ofNat 0 ∉ text := by
  induction h with
  | one part => exact part_nul part hword
  | more part rest ih =>
      obtain ⟨hfirst, hrest⟩ := not_or.mp (mt List.mem_append.mpr hword)
      exact mt List.mem_append.mp (not_or.mpr ⟨part_nul part hfirst, ih hrest⟩)

theorem joined_nul {spelled texts : List (List Char)} (h : List.Forall₂ Spells spelled texts)
    (hwords : ∀ word ∈ spelled, Char.ofNat 0 ∉ word) :
    Char.ofNat 0 ∉ [space].intercalate texts := by
  induction h with
  | nil => exact List.not_mem_nil
  | @cons word text spelled texts hword hrest ih =>
      have hfirst := spells_nul hword (hwords word List.mem_cons_self)
      have hothers := ih fun word hmem => hwords word (List.mem_cons_of_mem _ hmem)
      cases texts with
      | nil =>
          rw [List.intercalate_singleton]
          exact hfirst
      | cons text' texts =>
          intro hmem
          rw [List.intercalate_cons_cons, List.mem_append, List.mem_append,
            List.mem_singleton] at hmem
          rcases hmem with (hmem | hmem) | hmem
          · exact hfirst hmem
          · cases hmem
          · exact hothers hmem

end Grammar

/-! ## The line -/

section Line

variable {words texts : List String}

theorem reference_spelled (hcount : words.length ≤ maxArguments)
    (hnul : ∀ word ∈ words, Char.ofNat 0 ∉ word.toList)
    (hspells : List.Forall₂ (fun word text => Grammar.Spells word.toList text.toList) words texts)
    (hline : (utf8 (" ".intercalate texts)).length ≤ maxLineBytes) :
    reference (utf8 (" ".intercalate texts)) = .ok words := by
  have hchars : (" ".intercalate texts).toList = [Grammar.space].intercalate (texts.map String.toList) :=
    String.toList_intercalate
  have hforall : List.Forall₂ Grammar.Spells (words.map String.toList) (texts.map String.toList) :=
    List.forall₂_map_left_iff.mpr (List.forall₂_map_right_iff.mpr hspells)
  have hroom : (words.map String.toList).length ≤ maxArguments := by
    rw [List.length_map]
    exact hcount
  have hread := Grammar.words_joined hforall hroom
  have hzero := Grammar.joined_nul hforall (by
    intro word hword
    obtain ⟨w, hw, rfl⟩ := List.mem_map.mp hword
    exact hnul w hw)
  unfold reference
  rw [if_neg (Nat.not_lt.mpr hline), fromUtf8_utf8]
  dsimp only
  rw [hchars, if_neg (mt List.contains_iff_mem.mp hzero), hread]
  refine congrArg Except.ok ?_
  dsimp only
  rw [List.map_map]
  exact (List.map_congr_left fun word _ => String.ofList_toList).trans (List.map_id words)

/-- Words that are written in any of the ways the grammar has are read back. -/
theorem parse_spelled (storage : Parser) (hcount : words.length ≤ maxArguments)
    (hnul : ∀ word ∈ words, Char.ofNat 0 ∉ word.toList)
    (hspells : List.Forall₂ (fun word text => Grammar.Spells word.toList text.toList) words texts)
    (hline : (utf8 (" ".intercalate texts)).length ≤ maxLineBytes) :
    ∃ args, (Parser.parse (utf8 (" ".intercalate texts)) storage).1 = .ok args ∧
      args.AreTyped words := by
  have hagrees := parse_agrees (utf8 (" ".intercalate texts))
  rw [reference_spelled hcount hnul hspells hline] at hagrees
  obtain ⟨args, hargs, htyped, -⟩ := hagrees
  exact ⟨args, by rw [Parser.parse_run, hargs], htyped⟩

theorem parse_spelled_both :
    ∃ args, (Parser.parse (utf8 (" ".intercalate ["\"it's \\\"a\"", "''"])) Parser.new).1 = .ok args ∧
      args.AreTyped ["it's \"a", ""] := by
  have hdouble : "\"it's \\\"a\"".toList = Grammar.doubleQuoted "it's \"a".toList := by
    decide +kernel
  have hsingle : "''".toList = Grammar.singleQuoted "".toList := by
    decide +kernel
  refine parse_spelled Parser.new (by decide) (by decide +kernel) (.cons ?_ (.cons ?_ .nil))
    (by decide +kernel)
  · rw [hdouble]
    exact Grammar.spells_double _
  · rw [hsingle]
    exact Grammar.spells_single (by decide +kernel)

end Line

end Wyrmroot.Shell
