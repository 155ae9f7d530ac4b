import Wyrmroot.Shell.Boundaries

/-!
# The words of a line

What a line means, in characters: words stand between blanks, and a word is read
by three productions, one for each quotation it may be within. The end of the line
ends a word that is not within one. The limits and the errors are those of
`Parser::parse`, and so is the order in which they are found.
-/

namespace Wyrmroot.Shell

abbrev Reading (α : Type) := Except ParseError α

namespace Grammar

def apostrophe : Char := Char.ofNat 39
def quotation : Char := Char.ofNat 34
def backslash : Char := Char.ofNat 92
def newline : Char := Char.ofNat 10
def carriageReturn : Char := Char.ofNat 13
def tab : Char := Char.ofNat 9

def blank (c : Char) : Bool := [32, 9, 10, 13, 11, 12].contains c.toNat

/-- The byte that an error names of a character. -/
def leadByte (c : Char) : UInt8 := (String.utf8EncodeChar c).headD 0

/-- What a character behind a backslash stands for within double quotes. -/
def escape (c : Char) : Reading Char :=
  if c = backslash ∨ c = quotation then .ok c
  else if c = Char.ofNat 110 then .ok newline
  else if c = Char.ofNat 114 then .ok carriageReturn
  else if c = Char.ofNat 116 then .ok tab
  else .error (.unsupportedEscape (leadByte c))

/-- What is left to read of a word: the characters it stands for, and what follows it. -/
abbrev Word := List Char × List Char

def prepend (c : Char) (word : Reading Word) : Reading Word :=
  word.map fun word => (c :: word.1, word.2)

mutual

def bare : List Char → Reading Word
  | [] => .ok ([], [])
  | c :: rest =>
      if blank c then .ok ([], c :: rest)
      else if c = apostrophe then single rest
      else if c = quotation then double rest
      else if c = backslash then
        match rest with
        | [] => .error .trailingBackslash
        | c :: rest => prepend c (bare rest)
      else prepend c (bare rest)

def single : List Char → Reading Word
  | [] => .error .unterminatedSingleQuote
  | c :: rest => if c = apostrophe then bare rest else prepend c (single rest)

def double : List Char → Reading Word
  | [] => .error .unterminatedDoubleQuote
  | c :: rest =>
      if c = quotation then bare rest
      else if c = backslash then
        match rest with
        | [] => .error .trailingBackslash
        | c :: rest => do
            let c ← escape c
            prepend c (double rest)
      else prepend c (double rest)

end

/-- The words of a line, of which there is room for so many. -/
def words : Nat → List Char → Reading (List (List Char))
  | 0, cs =>
      match cs.dropWhile blank with
      | [] => .ok []
      | _ :: _ => .error .tooManyArguments
  | room + 1, cs =>
      match cs.dropWhile blank with
      | [] => .ok []
      | c :: rest => do
          let word ← bare (c :: rest)
          let more ← words room word.2
          pure (word.1 :: more)

end Grammar

/-- What a line means. -/
def reference (line : List UInt8) : Reading (List String) :=
  if maxLineBytes < line.length then .error .lineTooLong
  else
    match fromUtf8 line with
    | none => .error .invalidUtf8
    | some text =>
        if text.toList.contains (Char.ofNat 0) then .error .nul
        else (Grammar.words maxArguments text.toList).map fun words => words.map String.ofList

/-- Quotations join what stands beside them, and may be empty. -/
example : reference (utf8 "ab\"c d\"'e' ''") = .ok ["abc de", ""] := by decide +kernel

/-! ## Characters and their bytes -/

namespace Grammar

/-- The byte is an ordinary one within this quotation. -/
def Plain (quote : Quote) (byte : UInt8) : Prop :=
  ¬ (quote = .none ∧ asciiWhitespace byte = true) ∧ Scan.toggles quote byte = none ∧
    ¬ (quote ≠ .single ∧ byte = 92)

/-- The character is an ordinary one within this quotation. -/
def PlainChar (quote : Quote) (c : Char) : Prop :=
  (quote = .none → blank c = false) ∧ (quote ≠ .double → c ≠ apostrophe) ∧
    (quote ≠ .single → c ≠ quotation) ∧ (quote ≠ .single → c ≠ backslash)

theorem plain_of_high {byte : UInt8} (h : 0x80 ≤ byte) (quote : Quote) : Plain quote byte := by
  have hne : ∀ low : UInt8, low < 0x80 → byte ≠ low := by
    rintro low hlow rfl
    exact absurd h (UInt8.not_le.mpr hlow)
  have hwhite : asciiWhitespace byte = false := by
    simp [asciiWhitespace, hne 32 (by decide), hne 9 (by decide), hne 10 (by decide),
      hne 13 (by decide), hne 11 (by decide), hne 12 (by decide)]
  have hsingle := hne 39 (by decide)
  have hdouble := hne 34 (by decide)
  refine ⟨by simp [hwhite], ?_, fun hback => hne 92 (by decide) hback.2⟩
  cases quote with
  | none => rw [Scan.toggles, if_neg hsingle, if_neg hdouble]
  | single => rw [Scan.toggles, if_neg hsingle]
  | double => rw [Scan.toggles, if_neg hdouble]

variable {c : Char}

theorem ascii_byte (h : c.toNat ≤ 0x7f) {n : Nat} (hn : n < 128) :
    UInt8.ofNat c.toNat = UInt8.ofNat n ↔ c = Char.ofNat n := by
  constructor
  · intro heq
    have hnat := congrArg UInt8.toNat heq
    rw [UInt8.toNat_ofNat_of_lt' (Nat.lt_of_le_of_lt h (by decide)),
      UInt8.toNat_ofNat_of_lt' (Nat.lt_trans hn (by decide))] at hnat
    rw [← hnat, Char.ofNat_toNat]
  · rintro rfl
    have hvalid : n.isValidChar := Or.inl (Nat.lt_trans hn (by decide))
    rw [Char.ofNat, dif_pos hvalid]
    rfl

theorem blank_byte (h : c.toNat ≤ 0x7f) :
    asciiWhitespace (UInt8.ofNat c.toNat) = blank c := by
  have hall : ∀ n < 128, asciiWhitespace (UInt8.ofNat n) = [32, 9, 10, 13, 11, 12].contains n := by
    decide
  exact hall _ (Nat.lt_succ_of_le h)

theorem blank_ascii (h : blank c = true) : c.toNat ≤ 0x7f := by
  have hall : ∀ n ∈ [32, 9, 10, 13, 11, 12], n ≤ 0x7f := by decide
  exact hall _ (List.contains_iff_mem.mp h)

theorem PlainChar.bytes {quote : Quote} (h : PlainChar quote c) :
    ∀ byte ∈ String.utf8EncodeChar c, Plain quote byte := by
  obtain ⟨hblank, happ, hquot, hback⟩ := h
  rcases Nat.lt_or_ge 0x7f c.toNat with hhigh | hlow
  · obtain ⟨lead, tail, heq, hlead, -, -, htail⟩ := utf8EncodeChar_multibyte hhigh
    intro byte hbyte
    rw [heq] at hbyte
    rcases List.mem_cons.mp hbyte with rfl | hbyte
    · exact plain_of_high (UInt8.le_trans (by decide) hlead) quote
    · exact plain_of_high (htail byte hbyte).1 quote
  · intro byte hbyte
    rw [utf8EncodeChar_ascii hlow, List.mem_singleton] at hbyte
    subst hbyte
    have hsingle : UInt8.ofNat c.toNat = 39 ↔ c = apostrophe := ascii_byte hlow (by decide)
    have hdouble : UInt8.ofNat c.toNat = 34 ↔ c = quotation := ascii_byte hlow (by decide)
    have hslash : UInt8.ofNat c.toNat = 92 ↔ c = backslash := ascii_byte hlow (by decide)
    refine ⟨?_, ?_, ?_⟩
    · rintro ⟨hnone, hwhite⟩
      rw [blank_byte hlow, hblank hnone] at hwhite
      cases hwhite
    · cases quote with
      | none =>
          rw [Scan.toggles, if_neg (mt hsingle.mp (happ (by decide))),
            if_neg (mt hdouble.mp (hquot (by decide)))]
      | single => rw [Scan.toggles, if_neg (mt hsingle.mp (happ (by decide)))]
      | double => rw [Scan.toggles, if_neg (mt hdouble.mp (hquot (by decide)))]
    · rintro ⟨hnot, hbyte⟩
      exact hback hnot (hslash.mp hbyte)

end Grammar

end Wyrmroot.Shell
