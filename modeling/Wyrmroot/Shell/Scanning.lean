import Wyrmroot.Shell.Grammar

/-!
# The scan follows the grammar

The loop of `Parser::parse` is at some character of the line, within a quotation.
What it does with the rest is what the production of that quotation reads: the
error is the same, or the scan goes on behind the word with the word's characters
in the scratch. Behind a word it goes on with the next one.
-/

namespace Wyrmroot.Shell

open Outcome

namespace Scan

variable {s : Scan} {first : Nat} {byte next : UInt8} {bytes rest : List UInt8}

/-- What `parse` does behind its loop. -/
def close (s : Scan) : Scanning Scan := checkQuote s.quote >>= fun _ => s.finish

/-- What is left of the scan. -/
def complete (s : Scan) (line : List UInt8) : Scanning Scan := s.run line >>= close

def wrote (s : Scan) (bytes : List UInt8) : Scan := { s with scratch := s.scratch ++ bytes }

/-- Behind a word that stands for these characters. -/
def after (s : Scan) (text : List Char) : Scan :=
  { s with scratch := s.scratch ++ encoded text, quote := .none }

theorem wrote_after (s : Scan) (c : Char) (text : List Char) :
    (s.wrote (String.utf8EncodeChar c)).after text = s.after (c :: text) := by
  unfold wrote after
  rw [encoded_cons, List.append_assoc]

theorem after_nil (h : s.quote = .none) : s.after [] = s := by
  unfold after
  rw [encoded_nil, List.append_nil, ← h]

/-! ## One character -/

theorem in_word (h : asciiWhitespace byte = false) :
    ¬ (s.quote = .none ∧ asciiWhitespace byte = true) := by
  rintro ⟨-, hwhite⟩
  rw [h] at hwhite
  cases hwhite

theorem begin_open (hopen : s.start = some first) : s.begin = .ok s := by
  unfold begin
  rw [hopen]

theorem put_room (h : s.scratch.length < maxLineBytes) (byte : UInt8) :
    s.put byte = .ok (s.wrote [byte]) := if_pos h

theorem run_toggle {quote : Quote} (hopen : s.start = some first)
    (hword : ¬ (s.quote = .none ∧ asciiWhitespace byte = true))
    (h : toggles s.quote byte = some quote) (rest : List UInt8) :
    s.run (byte :: rest) = ({ s with quote } : Scan).run rest := by
  rw [run, if_neg hword, begin_open hopen, ok_bind, h]

theorem run_byte (hopen : s.start = some first) (h : Grammar.Plain s.quote byte)
    (hroom : s.scratch.length < maxLineBytes) (rest : List UInt8) :
    s.run (byte :: rest) = (s.wrote [byte]).run rest := by
  obtain ⟨hword, htoggle, hback⟩ := h
  rw [run, if_neg hword, begin_open hopen, ok_bind, htoggle]
  dsimp only
  rw [if_neg hback, put_room hroom, ok_bind]

theorem run_plain (hopen : s.start = some first) (h : ∀ byte ∈ bytes, Grammar.Plain s.quote byte)
    (hroom : s.scratch.length + bytes.length ≤ maxLineBytes) (rest : List UInt8) :
    s.run (bytes ++ rest) = (s.wrote bytes).run rest := by
  induction bytes generalizing s with
  | nil =>
      unfold wrote
      rw [List.nil_append, List.append_nil]
  | cons byte bytes ih =>
      rw [List.length_cons] at hroom
      have hnext : (s.wrote [byte]).scratch.length = s.scratch.length + 1 := List.length_append
      rw [List.cons_append, run_byte hopen (h byte List.mem_cons_self) (by omega)]
      rw [ih (s := s.wrote [byte]) hopen (fun b hb => h b (List.mem_cons_of_mem _ hb)) (by omega)]
      unfold wrote
      dsimp only
      rw [List.append_assoc, List.singleton_append]

theorem run_escape (hopen : s.start = some first) (hquote : s.quote ≠ .single)
    (next : UInt8) (rest : List UInt8) :
    s.run (92 :: next :: rest) =
      decode s.quote next >>= fun decoded => s.put decoded >>= fun s => s.run rest := by
  have htoggle : toggles s.quote 92 = none := by
    cases s.quote <;> rfl
  rw [run, if_neg (in_word rfl), begin_open hopen, ok_bind, htoggle]
  dsimp only
  rw [if_pos ⟨hquote, rfl⟩]

theorem run_trailing (hopen : s.start = some first) (hquote : s.quote ≠ .single) :
    s.run [92] = .err .trailingBackslash := by
  have htoggle : toggles s.quote 92 = none := by
    cases s.quote <;> rfl
  rw [run, if_neg (in_word rfl), begin_open hopen, ok_bind, htoggle]
  dsimp only
  rw [if_pos ⟨hquote, rfl⟩]

/-- Reading a word from `cs` on does the same to the scan. -/
def Follows (s : Scan) (cs : List Char) : Reading Grammar.Word → Prop
  | .error e => s.complete (encoded cs) = .err e
  | .ok word =>
      s.complete (encoded cs) = (s.after word.1).complete (encoded word.2) ∧
        (∀ c ∈ word.2.head?, Grammar.blank c = true) ∧
          (encoded word.1).length + (encoded word.2).length ≤ (encoded cs).length

section Follows

variable {cs left : List Char} {c : Char} {reading : Reading Grammar.Word}

theorem Follows.toggled {quote : Quote}
    (hrun : s.run (encoded (c :: left)) = ({ s with quote } : Scan).run (encoded left))
    (h : Follows { s with quote } left reading) : Follows s (c :: left) reading := by
  have hsame : s.complete (encoded (c :: left)) =
      ({ s with quote } : Scan).complete (encoded left) := by
    unfold complete
    rw [hrun]
  cases reading with
  | error e => exact hsame.trans h
  | ok word =>
      obtain ⟨hgoes, hends, hlen⟩ := h
      refine ⟨hsame.trans hgoes, hends, ?_⟩
      rw [encoded_cons, List.length_append]
      exact Nat.le_add_left_of_le hlen

theorem Follows.prepended
    (hrun : s.run (encoded cs) = (s.wrote (String.utf8EncodeChar c)).run (encoded left))
    (hroom : (String.utf8EncodeChar c).length + (encoded left).length ≤ (encoded cs).length)
    (h : Follows (s.wrote (String.utf8EncodeChar c)) left reading) :
    Follows s cs (Grammar.prepend c reading) := by
  have hsame : s.complete (encoded cs) =
      (s.wrote (String.utf8EncodeChar c)).complete (encoded left) := by
    unfold complete
    rw [hrun]
  cases reading with
  | error e => exact hsame.trans h
  | ok word =>
      obtain ⟨hgoes, hends, hlen⟩ := h
      rw [wrote_after] at hgoes
      refine ⟨hsame.trans hgoes, hends, ?_⟩
      dsimp only
      rw [encoded_cons, List.length_append]
      omega

/-- The production of a quotation. -/
def production : Quote → List Char → Reading Grammar.Word
  | .none => Grammar.bare
  | .single => Grammar.single
  | .double => Grammar.double

/-- The scan follows the grammar in what is left of a word. -/
def Reads (cs : List Char) : Prop :=
  ∀ (s : Scan) (first : Nat), s.start = some first →
    s.scratch.length + (encoded cs).length ≤ maxLineBytes → Follows s cs (production s.quote cs)

theorem reads_nil : Reads [] := by
  intro s first hopen hroom
  cases hquote : s.quote with
  | none =>
      refine ⟨?_, by simp, Nat.le_refl _⟩
      dsimp only
      rw [after_nil hquote]
  | single | double =>
      change checkQuote s.quote >>= _ = _
      rw [hquote]
      rfl

theorem follows_plain {quote : Quote} (hquote : s.quote = quote) (hopen : s.start = some first)
    (hroom : s.scratch.length + (encoded (c :: left)).length ≤ maxLineBytes)
    (h : Grammar.PlainChar quote c) (ih : Reads left) :
    Follows s (c :: left) (Grammar.prepend c (production quote left)) := by
  subst hquote
  rw [encoded_cons, List.length_append] at hroom
  have hrest : (s.wrote (String.utf8EncodeChar c)).scratch.length + (encoded left).length ≤
      maxLineBytes := by
    unfold wrote
    rw [List.length_append]
    omega
  refine .prepended (run_plain hopen h.bytes (by omega) _) ?_ (ih _ first hopen hrest)
  rw [encoded_cons, List.length_append]

/-- A character behind a backslash outside of quotations: its first byte is put as it is,
and the others are ordinary. -/
theorem follows_escaped (hquote : s.quote = .none) (hopen : s.start = some first)
    (hroom : s.scratch.length + (encoded (Grammar.backslash :: c :: left)).length ≤ maxLineBytes)
    (ih : Reads left) :
    Follows s (Grammar.backslash :: c :: left) (Grammar.prepend c (Grammar.bare left)) := by
  obtain ⟨lead, tail, heq, -, htail⟩ := utf8EncodeChar_lead c
  have hbytes : encoded (Grammar.backslash :: c :: left) = 92 :: lead :: (tail ++ encoded left) := by
    rw [encoded_cons, encoded_cons, heq]
    rfl
  have hcount := congrArg List.length hbytes
  rw [List.length_cons, List.length_cons, List.length_append] at hcount
  have hplain : ∀ byte ∈ tail, Grammar.Plain (s.wrote [lead]).quote byte := by
    intro byte hbyte
    have hhigh := htail byte hbyte
    rw [continues, Bool.and_eq_true, decide_eq_true_eq] at hhigh
    exact Grammar.plain_of_high hhigh.1 _
  have hlen : (s.wrote [lead]).scratch.length = s.scratch.length + 1 := List.length_append
  have hwrote : (s.wrote [lead]).wrote tail = s.wrote (String.utf8EncodeChar c) := by
    unfold wrote
    dsimp only
    rw [List.append_assoc, List.singleton_append, heq]
  have hdecode : decode s.quote lead = .ok lead := by
    rw [hquote]
    rfl
  have hrun : s.run (encoded (Grammar.backslash :: c :: left)) =
      (s.wrote (String.utf8EncodeChar c)).run (encoded left) := by
    rw [hbytes, run_escape hopen (by rw [hquote]; decide), hdecode, ok_bind,
      put_room (by omega), ok_bind, run_plain (s := s.wrote [lead]) hopen hplain (by omega), hwrote]
  have hfits : (s.wrote (String.utf8EncodeChar c)).scratch.length + (encoded left).length ≤
      maxLineBytes := by
    rw [← hwrote]
    unfold wrote at hlen ⊢
    rw [List.length_append]
    omega
  have hrest := ih (s.wrote (String.utf8EncodeChar c)) first hopen hfits
  have hprod : production (s.wrote (String.utf8EncodeChar c)).quote = Grammar.bare := by
    unfold wrote
    rw [hquote]
    rfl
  rw [hprod] at hrest
  refine .prepended hrun ?_ hrest
  rw [hcount, heq, List.length_cons]
  omega

theorem decode_escape {d : Char} (h : Grammar.escape c = .ok d) :
    ∃ lead low, String.utf8EncodeChar c = [lead] ∧ String.utf8EncodeChar d = [low] ∧
      decode .double lead = .ok low := by
  unfold Grammar.escape at h
  split_ifs at h with hself hn hr ht
  · obtain rfl := Except.ok.inj h
    rcases hself with rfl | rfl
    · exact ⟨92, 92, rfl, rfl, rfl⟩
    · exact ⟨34, 34, rfl, rfl, rfl⟩
  · obtain rfl := Except.ok.inj h
    subst hn
    exact ⟨110, 10, rfl, rfl, rfl⟩
  · obtain rfl := Except.ok.inj h
    subst hr
    exact ⟨114, 13, rfl, rfl, rfl⟩
  · obtain rfl := Except.ok.inj h
    subst ht
    exact ⟨116, 9, rfl, rfl, rfl⟩

theorem lead_ne {n : Nat} (hn : n < 128) (h : c ≠ Char.ofNat n) :
    Grammar.leadByte c ≠ UInt8.ofNat n := by
  unfold Grammar.leadByte
  rcases Nat.lt_or_ge 0x7f c.toNat with hhigh | hlow
  · obtain ⟨lead, tail, heq, hlead, -⟩ := utf8EncodeChar_multibyte hhigh
    rw [heq, List.headD_cons]
    rintro rfl
    rw [UInt8.le_iff_toNat_le, UInt8.toNat_ofNat_of_lt' (Nat.lt_trans hn (by decide))] at hlead
    exact absurd hn (Nat.not_lt.mpr (Nat.le_trans (by decide) hlead))
  · rw [utf8EncodeChar_ascii hlow, List.headD_cons]
    exact mt (Grammar.ascii_byte hlow hn).mp h

theorem decode_refused {e : ParseError} (h : Grammar.escape c = .error e) :
    decode .double (Grammar.leadByte c) = .err e := by
  unfold Grammar.escape at h
  split_ifs at h with hself hn hr ht
  obtain ⟨hback, hquot⟩ := not_or.mp hself
  have hslash : Grammar.leadByte c ≠ 92 := lead_ne (by decide) hback
  have hdouble : Grammar.leadByte c ≠ 34 := lead_ne (by decide) hquot
  have hletter : Grammar.leadByte c ≠ 110 := lead_ne (by decide) hn
  have hreturn : Grammar.leadByte c ≠ 114 := lead_ne (by decide) hr
  have htab : Grammar.leadByte c ≠ 116 := lead_ne (by decide) ht
  obtain rfl := Except.error.inj h
  rw [decode, if_pos rfl, if_neg (not_or.mpr ⟨hslash, hdouble⟩), if_neg hletter, if_neg hreturn,
    if_neg htab]

theorem follows_escape (hquote : s.quote = .double) (hopen : s.start = some first)
    (hroom : s.scratch.length + (encoded (Grammar.backslash :: c :: left)).length ≤ maxLineBytes)
    (ih : Reads left) :
    Follows s (Grammar.backslash :: c :: left)
      (Grammar.escape c >>= fun d => Grammar.prepend d (Grammar.double left)) := by
  have hnot : s.quote ≠ .single := by
    rw [hquote]
    decide
  have hbytes : encoded (Grammar.backslash :: c :: left) =
      92 :: (String.utf8EncodeChar c ++ encoded left) := rfl
  cases hescape : Grammar.escape c with
  | error e =>
      obtain ⟨lead, tail, heq, -, -⟩ := utf8EncodeChar_lead c
      have hrefused := decode_refused hescape
      rw [Grammar.leadByte, heq, List.headD_cons] at hrefused
      change s.complete (encoded (Grammar.backslash :: c :: left)) = .err e
      rw [complete, hbytes, heq, List.cons_append, run_escape hopen hnot, hquote, hrefused]
      rfl
  | ok d =>
      obtain ⟨lead, low, hlead, hlow, hdecode⟩ := decode_escape hescape
      rw [hlead, List.singleton_append] at hbytes
      have hcount := congrArg List.length hbytes
      rw [List.length_cons, List.length_cons] at hcount
      have hrun : s.run (encoded (Grammar.backslash :: c :: left)) =
          (s.wrote (String.utf8EncodeChar d)).run (encoded left) := by
        rw [hbytes, run_escape hopen hnot, hquote, hdecode, ok_bind, put_room (by omega), ok_bind,
          hlow]
      have hfits : (s.wrote (String.utf8EncodeChar d)).scratch.length + (encoded left).length ≤
          maxLineBytes := by
        unfold wrote
        rw [hlow, List.length_append, List.length_singleton]
        omega
      have hrest := ih (s.wrote (String.utf8EncodeChar d)) first hopen hfits
      have hprod : production (s.wrote (String.utf8EncodeChar d)).quote = Grammar.double := by
        unfold wrote
        rw [hquote]
        rfl
      rw [hprod] at hrest
      refine .prepended hrun ?_ hrest
      rw [hcount, hlow, List.length_singleton]
      omega

theorem complete_trailing (hopen : s.start = some first) (hquote : s.quote ≠ .single) :
    s.complete (encoded [Grammar.backslash]) = .err .trailingBackslash := by
  have hbytes : encoded [Grammar.backslash] = [92] := rfl
  rw [complete, hbytes, run_trailing hopen hquote]
  rfl

theorem room_left {n : Nat} (h : n + (encoded (c :: left)).length ≤ maxLineBytes) :
    n + (encoded left).length ≤ maxLineBytes := by
  rw [encoded_cons, List.length_append] at h
  omega

theorem follows_mark {old quote : Quote} (hquote : s.quote = old) (hopen : s.start = some first)
    (hroom : s.scratch.length + (encoded (c :: left)).length ≤ maxLineBytes)
    (hbytes : encoded (c :: left) = byte :: encoded left) (hword : asciiWhitespace byte = false)
    (htoggle : toggles old byte = some quote) (ih : Reads left) :
    Follows s (c :: left) (production quote left) := by
  subst hquote
  refine .toggled ?_ (ih { s with quote } first hopen (room_left hroom))
  rw [hbytes]
  exact run_toggle hopen (in_word hword) htoggle _

/-! ## The productions -/

theorem follows_bare (hquote : s.quote = .none) (hopen : s.start = some first)
    (hroom : s.scratch.length + (encoded (c :: left)).length ≤ maxLineBytes)
    (ih : ∀ cs : List Char, cs.length ≤ left.length → Reads cs) :
    Follows s (c :: left) (Grammar.bare (c :: left)) := by
  rw [Grammar.bare.eq_def]
  dsimp only
  split_ifs with hblank happ hquot hback
  · refine ⟨?_, ?_, Nat.le_of_eq (Nat.zero_add _)⟩
    · dsimp only
      rw [after_nil hquote]
    · rintro _ ⟨⟩
      exact hblank
  · subst happ
    exact follows_mark hquote hopen hroom rfl rfl rfl (ih left (Nat.le_refl _))
  · subst hquot
    exact follows_mark hquote hopen hroom rfl rfl rfl (ih left (Nat.le_refl _))
  · subst hback
    cases left with
    | nil => exact complete_trailing hopen (by rw [hquote]; decide)
    | cons c left => exact follows_escaped hquote hopen hroom (ih left (Nat.le_succ _))
  · have hplain : Grammar.PlainChar .none c :=
      ⟨fun _ => Bool.eq_false_iff.mpr hblank, fun _ => happ, fun _ => hquot, fun _ => hback⟩
    exact follows_plain hquote hopen hroom hplain (ih left (Nat.le_refl _))

theorem follows_single (hquote : s.quote = .single) (hopen : s.start = some first)
    (hroom : s.scratch.length + (encoded (c :: left)).length ≤ maxLineBytes)
    (ih : Reads left) : Follows s (c :: left) (Grammar.single (c :: left)) := by
  rw [Grammar.single]
  split_ifs with happ
  · subst happ
    exact follows_mark hquote hopen hroom rfl rfl rfl ih
  · have hplain : Grammar.PlainChar .single c :=
      ⟨fun h => (by cases h), fun _ => happ, fun h => absurd rfl h, fun h => absurd rfl h⟩
    exact follows_plain hquote hopen hroom hplain ih

theorem follows_double (hquote : s.quote = .double) (hopen : s.start = some first)
    (hroom : s.scratch.length + (encoded (c :: left)).length ≤ maxLineBytes)
    (ih : ∀ cs : List Char, cs.length ≤ left.length → Reads cs) :
    Follows s (c :: left) (Grammar.double (c :: left)) := by
  rw [Grammar.double.eq_def]
  dsimp only
  split_ifs with hquot hback
  · subst hquot
    exact follows_mark hquote hopen hroom rfl rfl rfl (ih left (Nat.le_refl _))
  · subst hback
    cases left with
    | nil => exact complete_trailing hopen (by rw [hquote]; decide)
    | cons c left => exact follows_escape hquote hopen hroom (ih left (Nat.le_succ _))
  · have hplain : Grammar.PlainChar .double c :=
      ⟨fun h => (by cases h), fun h => absurd rfl h, fun _ => hquot, fun _ => hback⟩
    exact follows_plain hquote hopen hroom hplain (ih left (Nat.le_refl _))

theorem reads (cs : List Char) : Reads cs := by
  induction hn : cs.length using Nat.strongRecOn generalizing cs with
  | ind n ih =>
      cases cs with
      | nil => exact reads_nil
      | cons c left =>
          have hshorter : ∀ cs : List Char, cs.length ≤ left.length → Reads cs := by
            intro cs hle
            rw [List.length_cons] at hn
            exact ih cs.length (by omega) cs rfl
          intro s first hopen hroom
          cases hquote : s.quote with
          | none => exact follows_bare hquote hopen hroom hshorter
          | single => exact follows_single hquote hopen hroom (hshorter left (Nat.le_refl _))
          | double => exact follows_double hquote hopen hroom hshorter

end Follows

/-! ## The words -/

/-- The ranges of words that stand one behind the other, the first one here. -/
def cut : Nat → List (List Char) → List ArgRange
  | _, [] => []
  | start, word :: more =>
      ⟨start, start + (encoded word).length⟩ :: cut (start + (encoded word).length) more

/-- Behind these words. -/
def collected (s : Scan) (words : List (List Char)) : Scan :=
  { s with
    scratch := s.scratch ++ encoded words.flatten
    ranges := s.ranges ++ cut s.scratch.length words }

/-- Reading the words from `cs` on yields the same. -/
def Collects (s : Scan) (cs : List Char) : Reading (List (List Char)) → Prop
  | .error e => s.complete (encoded cs) = .err e
  | .ok words => s.complete (encoded cs) = .ok (s.collected words)

/-- No word is open. -/
structure Between (s : Scan) : Prop where
  start : s.start = none
  quote : s.quote = .none

section Words

variable {cs left : List Char} {c : Char}

theorem lead_blank (c : Char) : ∃ lead tail, String.utf8EncodeChar c = lead :: tail ∧
    asciiWhitespace lead = Grammar.blank c ∧ (Grammar.blank c = true → tail = []) := by
  rcases Nat.lt_or_ge 0x7f c.toNat with hhigh | hlow
  · obtain ⟨lead, tail, heq, hlead, -⟩ := utf8EncodeChar_multibyte hhigh
    have hblank : Grammar.blank c = false := by
      rw [Bool.eq_false_iff]
      exact fun h => absurd (Grammar.blank_ascii h) (Nat.not_le.mpr hhigh)
    have hplain := Grammar.plain_of_high (UInt8.le_trans (by decide) hlead) .none
    rw [hblank]
    refine ⟨lead, tail, heq, ?_, fun h => by cases h⟩
    exact Bool.eq_false_iff.mpr fun h => hplain.1 ⟨rfl, h⟩
  · exact ⟨_, [], utf8EncodeChar_ascii hlow, Grammar.blank_byte hlow, fun _ => rfl⟩

theorem Between.run_blank (h : s.Between) (hwhite : asciiWhitespace byte = true)
    (rest : List UInt8) : s.run (byte :: rest) = s.run rest := by
  have hfinish : s.finish = .ok s := by
    unfold finish
    rw [h.start]
  rw [run, if_pos ⟨h.quote, hwhite⟩, hfinish, ok_bind]

theorem Between.skips (h : s.Between) (cs : List Char) :
    s.complete (encoded cs) = s.complete (encoded (cs.dropWhile Grammar.blank)) := by
  induction cs with
  | nil => rfl
  | cons c cs ih =>
      cases hblank : Grammar.blank c with
      | false => rw [List.dropWhile_cons_of_neg (by rw [hblank]; decide)]
      | true =>
          obtain ⟨lead, tail, heq, hwhite, htail⟩ := lead_blank c
          rw [hblank] at hwhite
          obtain rfl := htail hblank
          rw [List.dropWhile_cons_of_pos hblank, ← ih, encoded_cons, heq, List.singleton_append]
          unfold complete
          rw [h.run_blank hwhite]

theorem Between.opens (h : s.Between) (hblank : Grammar.blank c = false)
    (hroom : s.ranges.length < maxArguments) (left : List Char) :
    s.complete (encoded (c :: left)) =
      ({ s with start := some s.scratch.length } : Scan).complete (encoded (c :: left)) := by
  obtain ⟨lead, tail, heq, hwhite, -⟩ := lead_blank c
  rw [hblank] at hwhite
  have hbegin : s.begin = .ok { s with start := some s.scratch.length } := by
    unfold begin
    rw [h.start]
    exact if_neg (Nat.ne_of_lt hroom)
  rw [encoded_cons, heq, List.cons_append]
  unfold complete
  rw [run, run, if_neg (in_word hwhite), if_neg (in_word hwhite), hbegin]
  rfl

theorem Between.full (h : s.Between) (hblank : Grammar.blank c = false)
    (hfull : s.ranges.length = maxArguments) (left : List Char) :
    s.complete (encoded (c :: left)) = .err .tooManyArguments := by
  obtain ⟨lead, tail, heq, hwhite, -⟩ := lead_blank c
  rw [hblank] at hwhite
  have hbegin : s.begin = .err .tooManyArguments := by
    unfold begin
    rw [h.start]
    exact if_pos hfull
  rw [encoded_cons, heq, List.cons_append]
  unfold complete
  rw [run, if_neg (in_word hwhite), hbegin]
  rfl

theorem ends_word (hopen : s.start = some first) (hquote : s.quote = .none)
    (hroom : s.ranges.length < maxArguments) (hends : ∀ c ∈ left.head?, Grammar.blank c = true) :
    s.complete (encoded left) =
      ({ s with ranges := s.ranges ++ [⟨first, s.scratch.length⟩], start := none } : Scan).complete
        (encoded left) := by
  have hfinish : s.finish =
      .ok { s with ranges := s.ranges ++ [⟨first, s.scratch.length⟩], start := none } := by
    unfold finish
    rw [hopen]
    exact if_pos hroom
  cases left with
  | nil =>
      rw [encoded_nil, complete, complete, run, run, ok_bind, ok_bind, close, close, hfinish]
      dsimp only
      rw [hquote]
      rfl
  | cons c left =>
      have hblank := hends c rfl
      obtain ⟨lead, tail, heq, hwhite, htail⟩ := lead_blank c
      rw [hblank] at hwhite
      obtain rfl := htail hblank
      rw [encoded_cons, heq, List.singleton_append]
      unfold complete
      have hskip := Between.run_blank (s := { s with
          ranges := s.ranges ++ [⟨first, s.scratch.length⟩], start := none })
        ⟨rfl, hquote⟩ hwhite (encoded left)
      rw [run, if_pos ⟨hquote, hwhite⟩, hfinish, ok_bind, hskip]

/-- Behind one word. -/
def ended (s : Scan) (word : List Char) : Scan :=
  { s with
    scratch := s.scratch ++ encoded word
    ranges := s.ranges ++ [⟨s.scratch.length, (s.scratch ++ encoded word).length⟩] }

theorem Between.ended (h : s.Between) (word : List Char) : (s.ended word).Between :=
  ⟨h.start, h.quote⟩

theorem Between.ends (h : s.Between) (hroom : s.ranges.length < maxArguments)
    (hends : ∀ c ∈ left.head?, Grammar.blank c = true) (word : List Char) :
    (({ s with start := some s.scratch.length } : Scan).after word).complete (encoded left) =
      (s.ended word).complete (encoded left) := by
  refine (ends_word (s := ({ s with start := some s.scratch.length } : Scan).after word)
    rfl rfl hroom hends).trans ?_
  obtain ⟨scratch, ranges, start, quote⟩ := s
  obtain rfl : start = none := h.start
  obtain rfl : quote = .none := h.quote
  rfl

theorem collected_ended (s : Scan) (word : List Char) (more : List (List Char)) :
    (s.ended word).collected more = s.collected (word :: more) := by
  unfold collected Scan.ended
  dsimp only
  rw [cut, List.flatten_cons, encoded_append, List.append_assoc, List.append_assoc,
    List.singleton_append, List.length_append]

theorem collected_nil (s : Scan) : s.collected [] = s := by
  unfold collected
  rw [cut, List.flatten_nil, encoded_nil, List.append_nil, List.append_nil]

theorem Between.exhausted (h : s.Between) : s.complete [] = .ok s := by
  have hfinish : s.finish = .ok s := by
    unfold finish
    rw [h.start]
  rw [complete, run, ok_bind, close, h.quote]
  exact hfinish

theorem not_blank_dropWhile (hdrop : cs.dropWhile Grammar.blank = c :: left) :
    Grammar.blank c = false := by
  have hhead := List.head?_dropWhile_not Grammar.blank cs
  rw [hdrop] at hhead
  simpa using hhead

theorem encoded_dropWhile (cs : List Char) :
    (encoded (cs.dropWhile Grammar.blank)).length ≤ (encoded cs).length := by
  have hsplit := congrArg encoded (List.takeWhile_append_dropWhile (p := Grammar.blank) (l := cs))
  rw [encoded_append] at hsplit
  rw [← hsplit, List.length_append]
  exact Nat.le_add_left _ _

theorem collects (room : Nat) (cs : List Char) (h : s.Between)
    (hroom : s.ranges.length + room = maxArguments)
    (hfits : s.scratch.length + (encoded cs).length ≤ maxLineBytes) :
    s.Collects cs (Grammar.words room cs) := by
  induction room generalizing s cs with
  | zero =>
      have hskips := h.skips cs
      rw [Grammar.words]
      cases hdrop : cs.dropWhile Grammar.blank with
      | nil =>
          rw [hdrop, encoded_nil, h.exhausted] at hskips
          dsimp only
          rw [Collects, hskips, collected_nil]
      | cons c left =>
          rw [hdrop, h.full (not_blank_dropWhile hdrop) hroom left] at hskips
          exact hskips
  | succ room ih =>
      have hskips := h.skips cs
      have hdropped := encoded_dropWhile cs
      rw [Grammar.words]
      cases hdrop : cs.dropWhile Grammar.blank with
      | nil =>
          rw [hdrop, encoded_nil, h.exhausted] at hskips
          dsimp only
          rw [Collects, hskips, collected_nil]
      | cons c left =>
          have hless : s.ranges.length < maxArguments := by omega
          rw [hdrop, h.opens (not_blank_dropWhile hdrop) hless left] at hskips
          rw [hdrop] at hdropped
          -- the open scan reads one word
          have hword := reads (c :: left) { s with start := some s.scratch.length } _ rfl
            (Nat.le_trans (Nat.add_le_add_left hdropped _) hfits)
          have hprod : production ({ s with start := some s.scratch.length } : Scan).quote =
              Grammar.bare := by
            dsimp only
            rw [h.quote]
            rfl
          rw [hprod] at hword
          dsimp only
          cases hbare : Grammar.bare (c :: left) with
          | error e =>
              rw [hbare] at hword
              exact hskips.trans hword
          | ok word =>
              rw [hbare] at hword
              obtain ⟨hgoes, hends, hlen⟩ := hword
              rw [h.ends hless hends] at hgoes
              have hmore := ih (s := s.ended word.1) word.2 (h.ended word.1) (by
                  unfold Scan.ended
                  rw [List.length_append, List.length_singleton]
                  omega) (by
                  unfold Scan.ended
                  rw [List.length_append]
                  omega)
              have hsame := hskips.trans hgoes
              change s.Collects cs (Grammar.words room word.2 >>= fun more => pure (word.1 :: more))
              cases hwords : Grammar.words room word.2 with
              | error e =>
                  rw [hwords] at hmore
                  exact hsame.trans hmore
              | ok more =>
                  rw [hwords] at hmore
                  change s.complete (encoded cs) = .ok (s.collected (word.1 :: more))
                  rw [← collected_ended]
                  exact hsame.trans hmore

end Words

end Scan

end Wyrmroot.Shell
