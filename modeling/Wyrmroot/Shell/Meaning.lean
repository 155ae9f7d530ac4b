import Wyrmroot.Shell.Storage

/-!
# What a line means

`Parser::parse` returns the words that the grammar reads from a line, or the error
it finds first. The words are ranges of the scratch, one behind the other, and the
scratch has room for them and is a text: the checks behind the scan never fail.
-/

namespace Wyrmroot.Shell

open Outcome

/-! ## The ranges -/

/-- The ranges lead from one place of the text to the other, without a gap. -/
def Tiles (start stop : Nat) : List ArgRange → Prop
  | [] => start = stop
  | range :: rest => range.start = start ∧ range.start ≤ range.stop ∧ Tiles range.stop stop rest

theorem Tiles.le {stop : Nat} : ∀ {ranges : List ArgRange} {start : Nat}, Tiles start stop ranges →
    start ≤ stop ∧ ∀ range ∈ ranges, start ≤ range.start
  | [], _, h => ⟨Nat.le_of_eq h, List.forall_mem_nil _⟩
  | range :: rest, start, ⟨hfirst, hle, hrest⟩ => by
      obtain ⟨hstop, hbehind⟩ := hrest.le
      refine ⟨by omega, fun r hr => ?_⟩
      rcases List.mem_cons.mp hr with rfl | hr
      · exact Nat.le_of_eq hfirst.symm
      · have := hbehind r hr
        omega

theorem Tiles.apart {stop : Nat} : ∀ {ranges : List ArgRange} {start : Nat},
    Tiles start stop ranges → ranges.Pairwise fun r r' => r.stop ≤ r'.start
  | [], _, _ => .nil
  | _ :: _, _, ⟨_, _, hrest⟩ => .cons hrest.le.2 hrest.apart

/-- The arguments are the whole text, cut between characters. -/
structure Arguments.Partition (args : Arguments) : Prop where
  contiguous : Tiles 0 (utf8 args.text).length args.ranges
  apart : args.ranges.Pairwise fun r r' => r.stop ≤ r'.start
  boundaries : ∀ range ∈ args.ranges,
    isCharBoundary args.text range.start = true ∧ isCharBoundary args.text range.stop = true

section Ranges

variable {front behind : List Char} {words : List (List Char)} {text : String}

theorem tiles_cut (words : List (List Char)) (start : Nat) :
    Tiles start (start + (encoded words.flatten).length) (Scan.cut start words) := by
  induction words generalizing start with
  | nil => rfl
  | cons word more ih =>
      refine ⟨rfl, Nat.le_add_right _ _, ?_⟩
      rw [List.flatten_cons, encoded_append, List.length_append, ← Nat.add_assoc]
      exact ih _

theorem getRange_cut (h : text.toList = front ++ (words.flatten ++ behind)) :
    (Scan.cut (encoded front).length words).map (getRange text) =
      (words.map String.ofList).map some := by
  induction words generalizing front with
  | nil => rfl
  | cons word more ih =>
      rw [List.flatten_cons, List.append_assoc] at h
      have hnext : (encoded front).length + (encoded word).length =
          (encoded (front ++ word)).length := by
        rw [encoded_append, List.length_append]
      rw [Scan.cut, List.map_cons, List.map_cons, List.map_cons, hnext, getRange_parts h,
        ih (by rw [h, List.append_assoc])]

theorem getRange_boundaries {range : ArgRange} {argument : String}
    (h : getRange text range = some argument) :
    isCharBoundary text range.start = true ∧ isCharBoundary text range.stop = true := by
  unfold getRange at h
  split_ifs at h with hrange
  rw [Bool.and_eq_true, Bool.and_eq_true] at hrange
  exact ⟨hrange.1.2, hrange.2⟩

/-- The arguments that the words of a line make. -/
def joined (words : List (List Char)) : Arguments :=
  ⟨String.ofList words.flatten, Scan.cut 0 words⟩

theorem joined_areTyped (words : List (List Char)) :
    (joined words).AreTyped (words.map String.ofList) := by
  have htext : (joined words).text.toList = [] ++ (words.flatten ++ []) := by
    rw [joined, String.toList_ofList, List.nil_append, List.append_nil]
  exact getRange_cut htext

theorem joined_isSome (words : List (List Char)) :
    ∀ range ∈ (joined words).ranges, ∃ argument, getRange (joined words).text range = some argument := by
  intro range hrange
  have hmem : getRange (joined words).text range ∈ (words.map String.ofList).map some := by
    rw [← joined_areTyped words]
    exact List.mem_map_of_mem hrange
  obtain ⟨argument, -, heq⟩ := List.mem_map.mp hmem
  exact ⟨argument, heq.symm⟩

theorem joined_partition (words : List (List Char)) : (joined words).Partition := by
  have htiles := tiles_cut words 0
  rw [Nat.zero_add] at htiles
  refine ⟨?_, htiles.apart, fun range hrange => ?_⟩
  · rw [joined, utf8_ofList]
    exact htiles
  · obtain ⟨argument, hargument⟩ := joined_isSome words range hrange
    exact getRange_boundaries hargument

end Ranges

/-! ## The errors -/

/-- The errors that are found in the words of a line. -/
def ParseError.inWords : ParseError → Bool
  | .tooManyArguments => true
  | .trailingBackslash => true
  | .unsupportedEscape _ => true
  | .unterminatedSingleQuote => true
  | .unterminatedDoubleQuote => true
  | _ => false

namespace Grammar

variable {c : Char} {cs left : List Char} {e : ParseError} {reading : Reading Word}

/-- An error of this reading is one of a word. -/
def ErrsInWords {α : Type} (reading : Reading α) : Prop :=
  ∀ e, reading = .error e → e.inWords = true

theorem errsInWords_ok {α : Type} (a : α) : ErrsInWords (.ok a : Reading α) := by
  rintro e ⟨⟩

theorem errsInWords_error {α : Type} (h : e.inWords = true) :
    ErrsInWords (.error e : Reading α) := by
  rintro _ ⟨⟩
  exact h

theorem ErrsInWords.prepend (h : ErrsInWords reading) : ErrsInWords (prepend c reading) := by
  cases reading with
  | error e => exact h
  | ok word => exact errsInWords_ok _

theorem ErrsInWords.bind {α β : Type} {reading : Reading α} {f : α → Reading β}
    (h : ErrsInWords reading) (hf : ∀ a, ErrsInWords (f a)) : ErrsInWords (reading >>= f) := by
  cases reading with
  | error e =>
      intro e' he'
      change Except.error e = .error e' at he'
      exact h e' (by rw [Except.error.inj he'])
  | ok a => exact hf a

theorem escape_errs (c : Char) : ErrsInWords (escape c) := by
  unfold escape
  split_ifs
  all_goals first | exact errsInWords_ok _ | exact errsInWords_error rfl

theorem production_errs (cs : List Char) :
    ∀ quote, ErrsInWords (Scan.production quote cs) := by
  induction hn : cs.length using Nat.strongRecOn generalizing cs with
  | ind n ih =>
      cases cs with
      | nil =>
          intro quote
          cases quote with
          | none => exact errsInWords_ok _
          | single | double => exact errsInWords_error rfl
      | cons c left =>
          have hshorter : ∀ cs : List Char, cs.length ≤ left.length → ∀ quote,
              ErrsInWords (Scan.production quote cs) := by
            intro cs hle
            rw [List.length_cons] at hn
            exact ih cs.length (by omega) cs rfl
          have hleft := hshorter left (Nat.le_refl _)
          intro quote
          cases quote with
          | none =>
              change ErrsInWords (bare (c :: left))
              rw [bare.eq_def]
              dsimp only
              split_ifs
              · exact errsInWords_ok _
              · exact hleft .single
              · exact hleft .double
              · cases left with
                | nil => exact errsInWords_error rfl
                | cons c left => exact (hshorter left (Nat.le_succ _) .none).prepend
              · exact (hleft .none).prepend
          | single =>
              change ErrsInWords (single (c :: left))
              rw [single]
              split_ifs
              · exact hleft .none
              · exact (hleft .single).prepend
          | double =>
              change ErrsInWords (double (c :: left))
              rw [double.eq_def]
              dsimp only
              split_ifs
              · exact hleft .none
              · cases left with
                | nil => exact errsInWords_error rfl
                | cons c left =>
                    refine (escape_errs c).bind fun d => ?_
                    exact (hshorter left (Nat.le_succ _) .double).prepend
              · exact (hleft .double).prepend

theorem words_errs (room : Nat) (cs : List Char) : ErrsInWords (words room cs) := by
  induction room generalizing cs with
  | zero =>
      rw [words]
      cases cs.dropWhile blank with
      | nil => exact errsInWords_ok _
      | cons c left => exact errsInWords_error rfl
  | succ room ih =>
      rw [words]
      cases cs.dropWhile blank with
      | nil => exact errsInWords_ok _
      | cons c left =>
          refine (production_errs (c :: left) .none).bind fun word => ?_
          exact (ih word.2).bind fun more => errsInWords_ok _

theorem mem_nul {c : Char} : 0 ∈ String.utf8EncodeChar c ↔ Char.ofNat 0 = c := by
  rcases Nat.lt_or_ge 0x7f c.toNat with hhigh | hlow
  · obtain ⟨lead, tail, heq, hlead, -, -, htail⟩ := utf8EncodeChar_multibyte hhigh
    constructor
    · intro hmem
      rw [heq, List.mem_cons] at hmem
      rcases hmem with rfl | hmem
      · exact absurd hlead (by decide)
      · exact absurd (htail 0 hmem).1 (by decide)
    · rintro rfl
      exact absurd hhigh (by decide)
  · rw [utf8EncodeChar_ascii hlow, List.mem_singleton, eq_comm, eq_comm (a := Char.ofNat 0)]
    exact ascii_byte hlow (by decide)

theorem contains_nul (cs : List Char) : (encoded cs).contains 0 = cs.contains (Char.ofNat 0) := by
  rw [Bool.eq_iff_iff, List.contains_iff_mem, List.contains_iff_mem, encoded, List.mem_flatMap]
  constructor
  · rintro ⟨c, hc, hmem⟩
    obtain rfl := mem_nul.mp hmem
    exact hc
  · intro hmem
    exact ⟨_, hmem, mem_nul.mpr rfl⟩

end Grammar

/-! ## The line -/

/-- The checks of the scratch and the ranges. -/
def view (scan : Scan) : Scanning Arguments := do
  let text ← okOr (fromUtf8 scan.scratch) .invalidUtf8
  rejectIf (scan.ranges.any fun range => (getRange text range).isNone) .invalidUtf8
  pure ⟨text, scan.ranges⟩

theorem parse_scan {line : List UInt8} {text : String} (hlen : line.length ≤ maxLineBytes)
    (htext : fromUtf8 line = some text) (hnul : line.contains 0 = false) :
    parse line = Scan.complete ⟨[], [], none, .none⟩ line >>= view := by
  unfold parse Scan.complete Scan.close
  rw [decide_eq_false (Nat.not_lt.mpr hlen), rejectIf_false, ok_bind, htext, okOr_some, ok_bind, hnul,
    rejectIf_false, ok_bind]
  generalize Scan.run _ line = x
  cases x with
  | err e | panic => rfl
  | ok scan =>
      rw [ok_bind, ok_bind]
      cases checkQuote scan.quote with
      | err e | panic | ok u => rfl

theorem view_joined (words : List (List Char)) :
    view (Scan.collected ⟨[], [], none, .none⟩ words) = .ok (joined words) := by
  have htext : fromUtf8 (encoded words.flatten) = some (String.ofList words.flatten) :=
    fromUtf8_eq_some.mpr (utf8_ofList _)
  have hall : ((Scan.cut 0 words).any fun range =>
      (getRange (String.ofList words.flatten) range).isNone) = false := by
    rw [List.any_eq_false]
    intro range hrange
    obtain ⟨argument, hargument⟩ := joined_isSome words range hrange
    rw [joined] at hargument
    rw [hargument, Option.isNone_some]
    decide
  unfold view Scan.collected
  rw [List.nil_append, List.nil_append, htext, okOr_some, ok_bind]
  dsimp only [List.length_nil]
  rw [hall]
  rfl

/-- What the parser returns is what the line means. -/
def Agrees : Reading (List String) → Scanning Arguments → Prop
  | .ok words, x => ∃ args, x = .ok args ∧ args.AreTyped words ∧ args.Partition
  | .error e, x => x = .err e

theorem parse_agrees (line : List UInt8) : Agrees (reference line) (parse line) := by
  unfold reference
  split_ifs with hlen
  · unfold parse
    rw [decide_eq_true hlen]
    rfl
  · cases htext : fromUtf8 line with
    | none =>
        unfold parse
        rw [decide_eq_false hlen, rejectIf_false, ok_bind, htext]
        rfl
    | some text =>
        have hline : line = encoded text.toList := by
          rw [← utf8_eq_encoded, fromUtf8_eq_some.mp htext]
        have hzero : line.contains 0 = text.toList.contains (Char.ofNat 0) := by
          rw [hline, Grammar.contains_nul]
        dsimp only
        rw [← hzero]
        split_ifs with hnul
        · unfold parse
          rw [decide_eq_false hlen, rejectIf_false, ok_bind, htext, okOr_some, ok_bind, hnul]
          rfl
        · have hparse := parse_scan (Nat.le_of_not_lt hlen) htext (Bool.eq_false_iff.mpr hnul)
          have hcollects := Scan.collects (s := ⟨[], [], none, .none⟩) maxArguments text.toList
            ⟨rfl, rfl⟩ (Nat.zero_add _) (by
              rw [← hline]
              exact Nat.le_trans (Nat.le_of_eq (Nat.zero_add _)) (Nat.le_of_not_lt hlen))
          cases hwords : Grammar.words maxArguments text.toList with
          | error e =>
              rw [hwords, Scan.Collects, ← hline] at hcollects
              rw [hcollects] at hparse
              exact hparse
          | ok words =>
              rw [hwords, Scan.Collects, ← hline] at hcollects
              rw [hcollects] at hparse
              exact ⟨joined words, hparse.trans (view_joined words), joined_areTyped words,
                joined_partition words⟩

theorem reference_errs {line : List UInt8} {e : ParseError} (h : reference line = .error e) :
    e = .lineTooLong ∨ (e = .invalidUtf8 ∧ fromUtf8 line = none) ∨ e = .nul ∨ e.inWords = true := by
  unfold reference at h
  split_ifs at h with hlen
  · exact Or.inl (Except.error.inj h).symm
  · cases htext : fromUtf8 line with
    | none =>
        rw [htext] at h
        exact Or.inr (Or.inl ⟨(Except.error.inj h).symm, rfl⟩)
    | some text =>
        rw [htext] at h
        dsimp only at h
        split_ifs at h with hnul
        · exact Or.inr (Or.inr (Or.inl (Except.error.inj h).symm))
        · cases hwords : Grammar.words maxArguments text.toList with
          | error e' =>
              rw [hwords] at h
              obtain rfl : e' = e := Except.error.inj h
              exact Or.inr (Or.inr (Or.inr (Grammar.words_errs _ _ _ hwords)))
          | ok words =>
              rw [hwords] at h
              cases h

theorem Agrees.error {meaning : Reading (List String)} {e : ParseError}
    (h : Agrees meaning (.err e)) : meaning = .error e := by
  cases meaning with
  | error e' => rw [err.inj h]
  | ok words =>
      obtain ⟨args, hargs, -, -⟩ := h
      cases hargs

/-- Whatever the parser held, it returns the words of the line as a partition of the scratch, or
the line's error; of the checks behind the first ones, those of the scratch never fail. -/
theorem parse_meaning (storage : Parser) (line : List UInt8) :
    Agrees (reference line) (Parser.parse line storage).1 ∧
      (Parser.parse line storage).1 ≠ .err .outputTooLong ∧
        ((Parser.parse line storage).1 = .err .invalidUtf8 → fromUtf8 line = none) := by
  rw [Parser.parse_run]
  have hagrees := parse_agrees line
  refine ⟨hagrees, ?_, ?_⟩
  · intro hlong
    rw [hlong] at hagrees
    rcases reference_errs hagrees.error with h | ⟨h, -⟩ | h | h
    all_goals cases h
  · intro hinvalid
    rw [hinvalid] at hagrees
    rcases reference_errs hagrees.error with h | ⟨-, hnone⟩ | h | h
    · cases h
    · exact hnone
    · cases h
    · cases h

end Wyrmroot.Shell
