import Wyrmroot.Lib.Layout
import Wyrmroot.Loader.Image

/-!
# The startup block from loader to child

The loader's plan and the runtime's parser are compared through the text of
a block: the words of the vectors, the strings one behind the other with
their NULs, and zeros. `write_text` says that an accepted plan writes this
text; `parse_text` that the parser accepts it and reads the same strings
back.

The parser wants the whole block to lie below `2 ^ 64`, the plan only its
used part. So an address in the last 20 KiB of the address space passes the
plan and fails the parser (`highAddress_rejected`); a mapped block never has
such an address.
-/

namespace Wyrmroot.Startup

open Outcome
open Loader (checkedAdd checkedAdd_eq_some stringArea stringArea_cons stringArea_append
  StartupBlockV2Plan startupV2BlockBytes writeStrings)

/-! ## The text -/

/-- The pointers to strings that lie one behind the other from `offset` on. -/
def pointers (address : Nat) : Nat → List String → List Nat
  | _, [] => []
  | offset, value :: rest =>
      (address + offset) :: pointers address (offset + (utf8 value).length + 1) rest

def wordsText (words : List Nat) : List UInt8 := words.flatMap (leBytes 8)

@[simp] theorem wordsText_length (words : List Nat) :
    (wordsText words).length = 8 * words.length := by
  simp [wordsText, List.length_flatMap, Nat.mul_comm]

theorem wordsText_append (words rest : List Nat) :
    wordsText (words ++ rest) = wordsText words ++ wordsText rest :=
  List.flatMap_append

@[simp] theorem pointers_length (address : Nat) (values : List String) :
    ∀ offset, (pointers address offset values).length = values.length := by
  induction values with
  | nil => exact fun _ => rfl
  | cons value rest ih => exact fun offset => congrArg (· + 1) (ih _)

/-- The strings of a plan, arguments first. -/
def strings (self : StartupBlockV2Plan) : List String := self.argv ++ self.environment

/-- The words of the three vectors. -/
def blockWords (self : StartupBlockV2Plan) : List Nat :=
  self.argv.length :: (pointers self.blockAddress self.stringStart self.argv ++
    0 :: (pointers self.blockAddress (self.stringStart + (stringArea self.argv).length)
      self.environment ++ [0, 0, 0]))

/-- How many zeros follow the strings. -/
def spare (self : StartupBlockV2Plan) : Nat :=
  startupV2BlockBytes - (self.stringStart + (stringArea (strings self)).length)

def blockText (self : StartupBlockV2Plan) : List UInt8 :=
  wordsText (blockWords self) ++ (stringArea (strings self) ++ List.replicate (spare self) 0)

/-! ## Writing it -/

variable {self : StartupBlockV2Plan}

theorem writeStrings_turns (address : Nat) (values : List String) :
    ∀ (wordOffset stringOffset : Nat) (between : List UInt8),
      stringOffset = wordOffset + 8 * values.length + between.length →
      address + stringOffset + (stringArea values).length < 2 ^ 64 →
      Turns (writeStrings address wordOffset stringOffset values)
        (wordOffset + 8 * values.length, stringOffset + (stringArea values).length) wordOffset
        (List.replicate (8 * values.length) 0 ++
          (between ++ List.replicate (stringArea values).length 0))
        (wordsText (pointers address stringOffset values) ++ (between ++ stringArea values)) := by
  induction values with
  | nil =>
      intro wordOffset stringOffset between _ _
      exact .pure _
  | cons value rest ih =>
      intro wordOffset stringOffset between hat hlt
      have harea : (stringArea (value :: rest)).length =
          (utf8 value).length + 1 + (stringArea rest).length := by
        rw [stringArea_cons, List.length_append, List.length_append]
        rfl
      rw [harea] at hlt ⊢
      rw [List.length_cons] at hat ⊢
      rw [writeStrings, if_pos (by omega)]
      have hold : List.replicate (8 * (rest.length + 1)) (0 : UInt8) ++
          (between ++ List.replicate ((utf8 value).length + 1 + (stringArea rest).length) 0) =
          List.replicate 8 0 ++ (List.replicate (8 * rest.length) 0 ++ (between ++
            (List.replicate (utf8 value).length 0 ++
              ([0] ++ List.replicate (stringArea rest).length 0)))) := by
        rw [show 8 * (rest.length + 1) = 8 + 8 * rest.length by omega, List.replicate_add,
          List.replicate_add, List.replicate_add, List.append_assoc, List.append_assoc]
        rfl
      have hnew : wordsText (pointers address stringOffset (value :: rest)) ++
          (between ++ stringArea (value :: rest)) =
          leBytes 8 (address + stringOffset) ++
            (wordsText (pointers address (stringOffset + (utf8 value).length + 1) rest) ++
              ((between ++ (utf8 value ++ [0])) ++ stringArea rest)) := by
        rw [stringArea_cons]
        simp [pointers, wordsText]
      rw [hold, hnew]
      refine .bind (a := ()) (.before (.store (by simp))) ?_
      -- the string goes behind the other words and what lies between
      have hstring : Turns (storeBytes stringOffset (utf8 value) : Loader.Block Unit) ()
          (wordOffset + (leBytes 8 (address + stringOffset)).length)
          (List.replicate (8 * rest.length) 0 ++ (between ++
            (List.replicate (utf8 value).length 0 ++
              ([0] ++ List.replicate (stringArea rest).length 0))))
          (List.replicate (8 * rest.length) 0 ++ ((between ++ (utf8 value ++ [0])) ++
            List.replicate (stringArea rest).length 0)) := by
        have hoffset : stringOffset = wordOffset + (leBytes 8 (address + stringOffset)).length +
            (List.replicate (8 * rest.length) (0 : UInt8)).length + between.length := by
          simp only [length_leBytes, List.length_replicate]
          omega
        simp only [List.append_assoc]
        refine .behind (.behind (.before ?_))
        rw [← hoffset]
        exact .store (by simp)
      refine .bind (.behind hstring) (.behind ?_)
      have hrest := ih (wordOffset + 8) (stringOffset + (utf8 value).length + 1)
        (between ++ (utf8 value ++ [0])) (by simp; omega) (by omega)
      rw [length_leBytes, show wordOffset + 8 * (rest.length + 1) =
        wordOffset + 8 + 8 * rest.length by omega,
        show stringOffset + ((utf8 value).length + 1 + (stringArea rest).length) =
          stringOffset + (utf8 value).length + 1 + (stringArea rest).length by omega]
      exact hrest

theorem stringArea_strings (self : StartupBlockV2Plan) : (stringArea (strings self)).length =
    (stringArea self.argv).length + (stringArea self.environment).length := by
  rw [strings, stringArea_append, List.length_append]

theorem cleared_eq (h : self.Sound) : List.replicate startupV2BlockBytes (0 : UInt8) =
    List.replicate 8 0 ++ ((List.replicate (8 * self.argv.length) 0 ++
      ((List.replicate 8 0 ++ (List.replicate (8 * self.environment.length) 0 ++
          List.replicate 24 0)) ++ List.replicate (stringArea self.argv).length 0)) ++
        (List.replicate (stringArea self.environment).length 0 ++
          List.replicate (spare self) 0)) := by
  have hfits := h.fits
  have hstart := h.stringStart_eq
  have hspare : spare self =
    startupV2BlockBytes - (self.stringStart + (stringArea (strings self)).length) := rfl
  rw [← strings, stringArea_strings] at hfits
  rw [stringArea_strings] at hspare
  simp only [List.replicate_append_replicate]
  congr 1
  omega

theorem write_text (h : self.Sound) {block : List UInt8}
    (hblock : block.length = startupV2BlockBytes) :
    self.write block = (.ok (), blockText self, []) := by
  have hpointers := h.pointers
  have hstart := h.stringStart_eq
  rw [← strings, stringArea_strings] at hpointers
  have hcleared : block.length = (List.replicate startupV2BlockBytes (0 : UInt8)).length := by
    simp [hblock]
  have htext : blockText self = leBytes 8 self.argv.length ++
      ((wordsText (pointers self.blockAddress self.stringStart self.argv) ++
        ((List.replicate 8 0 ++
          (wordsText (pointers self.blockAddress
              (self.stringStart + (stringArea self.argv).length) self.environment) ++
            List.replicate 24 0)) ++ stringArea self.argv)) ++
        (stringArea self.environment ++ List.replicate (spare self) 0)) := by
    simp [blockText, blockWords, strings, wordsText, stringArea_append]
  have harguments := writeStrings_turns self.blockAddress self.argv 8 self.stringStart
    (List.replicate 8 0 ++ (List.replicate (8 * self.environment.length) 0 ++
      List.replicate 24 0)) (by simp; omega) (by omega)
  have henvironment := writeStrings_turns self.blockAddress self.environment
    (8 + 8 * self.argv.length + 8) (self.stringStart + (stringArea self.argv).length)
    (List.replicate 24 0 ++ stringArea self.argv) (by simp; omega) (by omega)
  have hwhole : ∀ m : Loader.Block Unit, Turns m () 0 block (blockText self) →
      ((m block).1, (m block).2.1, [] ++ (m block).2.2) = (.ok (), blockText self, []) := by
    intro m hm
    have hrun := hm.run []
    rw [List.append_nil, List.append_nil] at hrun
    rw [hrun]
    rfl
  unfold StartupBlockV2Plan.write
  rw [Prog.bind_run_ok (Prog.get_run _), if_neg (by simp [hblock]), hblock]
  refine hwhole _ (.bind (.store hcleared) ?_)
  rw [cleared_eq h, htext]
  refine .append (.store (by simp)) ?_
  rw [length_leBytes]
  refine .bind (.before harguments) (.bind (a := (8 + 8 * self.argv.length + 8 +
    8 * self.environment.length, self.stringStart + (stringArea self.argv).length +
      (stringArea self.environment).length)) ?_ (.pure ()))
  simp only [List.append_assoc] at henvironment ⊢
  refine .behind (.behind ?_)
  have hat : 0 + 8 + (wordsText (pointers self.blockAddress self.stringStart self.argv)).length +
      (List.replicate 8 (0 : UInt8)).length = 8 + 8 * self.argv.length + 8 := by simp
  rw [hat]
  simpa only [List.append_assoc] using henvironment.before

/-! ## Reading words -/

variable {i w : Nat}

theorem readWord_words {words : List Nat} {tail : List UInt8}
    (hw : words[i]? = some w) (hlt : w < 2 ^ 64) (hfit : 8 * i + 8 < 2 ^ 64) :
    readWord (wordsText words ++ tail) (8 * i) = some w := by
  obtain ⟨hi, rfl⟩ := List.getElem?_eq_some_iff.mp hw
  have hsplit : wordsText words ++ tail = wordsText (words.take i) ++
      (leBytes 8 words[i] ++ (wordsText (words.drop (i + 1)) ++ tail)) := by
    have hwords : words = words.take i ++ words[i] :: words.drop (i + 1) := by
      rw [← List.drop_eq_getElem_cons hi, List.take_append_drop]
    have htext := congrArg wordsText hwords
    rw [wordsText_append] at htext
    rw [htext, List.append_assoc]
    exact congrArg (wordsText (words.take i) ++ ·) (List.append_assoc _ _ _)
  have hlen : (wordsText (words.take i)).length = 8 * i := by
    rw [wordsText_length, List.length_take, Nat.min_eq_left hi.le]
  have hslice : slice (wordsText words ++ tail) (8 * i) 8 = some (leBytes 8 words[i]) := by
    rw [hsplit, slice_append_right hlen.le, hlen, Nat.sub_self,
      slice_append_left (length_leBytes _ _)]
  have hadd : checkedAdd (8 * i) wordSize = some (8 * i + wordSize) :=
    checkedAdd_eq_some.mpr ⟨hfit, rfl⟩
  rw [readWord, hadd, Option.bind_some]
  show (slice (wordsText words ++ tail) (8 * i) 8).map leNat = some words[i]
  rw [hslice, Option.map_some, leNat_leBytes_of_lt hlt]

theorem advanceWords_eq {k index : Nat} (h : 8 * (k + index) < 2 ^ 64) :
    advanceWords (8 * k) index = some (8 * (k + index)) := by
  have hmul : checkedMul index wordSize = some (index * wordSize) :=
    if_pos (by simp only [wordSize]; omega)
  rw [advanceWords, hmul, Option.bind_some, checkedAdd_eq_some]
  simp only [wordSize]
  omega

theorem wordAt_words {words : List Nat} {tail : List UInt8} {k index : Nat}
    (hw : words[k + index]? = some w) (hlt : w < 2 ^ 64) (hfit : 8 * (k + index) + 8 < 2 ^ 64) :
    wordAt (wordsText words ++ tail) (8 * k) index = .ok w := by
  rw [wordAt, advanceWords_eq (by omega), okOr_some, ok_bind, readWord_words hw hlt hfit]
  rfl

theorem scanNullTerminatedVector_words {words : List Nat} (tail : List UInt8)
    (hlt : ∀ w ∈ words, w < 2 ^ 64) (hfit : 8 * words.length < 2 ^ 64) (entries : List Nat) :
    ∀ (front rest : List Nat) (turns count : Nat), words = front ++ (entries ++ 0 :: rest) →
      (∀ w ∈ entries, w ≠ 0) → entries.length < turns →
      count + entries.length ≤ words.length →
      scanNullTerminatedVector (wordsText words ++ tail) turns count (8 * front.length) =
        .ok (count + entries.length, 8 * (front.length + entries.length + 1)) := by
  induction entries with
  | nil =>
      intro front rest turns count hwords _ hturns hcount
      obtain ⟨turns, rfl⟩ : ∃ n, turns = n + 1 := ⟨turns - 1, by simp at hturns; omega⟩
      have hlen : words.length = front.length + (rest.length + 1) := by simp [hwords]
      have hread : readWord (wordsText words ++ tail) (8 * front.length) = some 0 :=
        readWord_words (by simp [hwords]) (by decide) (by omega)
      have hadd : checkedAdd (8 * front.length) wordSize = some (8 * front.length + wordSize) :=
        checkedAdd_eq_some.mpr ⟨by simp only [wordSize]; omega, rfl⟩
      rw [scanNullTerminatedVector, hread, okOr_some, ok_bind, if_pos rfl, hadd, okOr_some, ok_bind]
      rfl
  | cons entry entries ih =>
      intro front rest turns count hwords hne hturns hcount
      rw [List.length_cons] at hturns hcount
      obtain ⟨turns, rfl⟩ : ∃ n, turns = n + 1 := ⟨turns - 1, by omega⟩
      have hlen : words.length = front.length + (entries.length + (rest.length + 1) + 1) := by
        simp [hwords]
      have hread : readWord (wordsText words ++ tail) (8 * front.length) = some entry :=
        readWord_words (by simp [hwords]) (hlt entry (by simp [hwords])) (by omega)
      have hcounted : checkedAdd count 1 = some (count + 1) :=
        checkedAdd_eq_some.mpr ⟨by omega, rfl⟩
      have hadd : checkedAdd (8 * front.length) wordSize =
          some (8 * (front ++ [entry]).length) := by
        rw [checkedAdd_eq_some, List.length_append, List.length_singleton]
        simp only [wordSize]
        omega
      have hrest := ih (front ++ [entry]) rest turns (count + 1) (by simp [hwords])
        (fun w hw => hne w (.tail _ hw)) (by omega) (by omega)
      rw [scanNullTerminatedVector, hread, okOr_some, ok_bind, if_neg (hne entry (.head _)),
        hcounted, okOr_some, ok_bind, hadd, okOr_some, ok_bind, hrest]
      simp only [List.length_append, List.length_cons, List.length_nil]
      congr 2 <;> omega

theorem scanAuxiliaryVector_words (front : List Nat) (tail : List UInt8) (turns : Nat)
    (hfit : 8 * front.length + 16 < 2 ^ 64) :
    scanAuxiliaryVector (wordsText (front ++ [0, 0]) ++ tail) (turns + 1) 0 (8 * front.length) =
        .ok 0 ∧
      scanAuxiliaryVectorEnd (wordsText (front ++ [0, 0]) ++ tail) (turns + 1)
        (8 * front.length) = .ok (8 * (front.length + 2)) := by
  have hkind : readWord (wordsText (front ++ [0, 0]) ++ tail) (8 * front.length) = some 0 :=
    readWord_words (by simp) (by decide) (by omega)
  have hvalue : readWord (wordsText (front ++ [0, 0]) ++ tail) (8 * (front.length + 1)) = some 0 :=
    readWord_words (by simp) (by decide) (by omega)
  have hadd : checkedAdd (8 * front.length) wordSize = some (8 * (front.length + 1)) := by
    rw [checkedAdd_eq_some]
    simp only [wordSize]
    omega
  have hend : checkedAdd (8 * front.length) (2 * wordSize) = some (8 * (front.length + 2)) := by
    rw [checkedAdd_eq_some]
    simp only [wordSize]
    omega
  constructor
  · rw [scanAuxiliaryVector, hkind, okOr_some, ok_bind, hadd, okOr_some, ok_bind, hvalue]
    rfl
  · rw [scanAuxiliaryVectorEnd, hkind, okOr_some, ok_bind,
      show 8 * front.length + wordSize = 8 * (front.length + 1) from rfl, hvalue, okOr_some,
      ok_bind, hend]
    rfl

/-! ## Reading strings -/

theorem nulPosition_text {text rest : List UInt8} (h : (0 : UInt8) ∉ text) :
    nulPosition (text ++ 0 :: rest) = some text.length := by
  have hnone : text.findIdx? (· == 0) = none := by
    rw [List.findIdx?_eq_none_iff]
    intro b hb
    exact beq_eq_false_iff_ne.mpr fun hzero => h (hzero ▸ hb)
  rw [nulPosition, List.findIdx?_append, hnone, List.findIdx?_cons, if_pos (beq_self_eq_true 0)]
  simp

variable {value : String}

theorem textBefore_text {rest : List UInt8} (h : (0 : UInt8) ∉ utf8 value) :
    textBefore (utf8 value ++ 0 :: rest) = .ok (utf8 value).length := by
  rw [textBefore, nulPosition_text h, okOr_some, ok_bind, List.take_left, fromUtf8_utf8]
  rfl

/-- Where string `i` of a plan begins. -/
def offsetOf (self : StartupBlockV2Plan) (i : Nat) : Nat :=
  self.stringStart + (stringArea ((strings self).take i)).length

variable {address : Nat}

theorem pointers_getElem? (values : List String) :
    ∀ (offset : Nat) {i : Nat}, i < values.length →
      (pointers address offset values)[i]? =
        some (address + (offset + (stringArea (values.take i)).length)) := by
  induction values with
  | nil => exact fun _ _ hi => absurd hi (Nat.not_lt_zero _)
  | cons value rest ih =>
      intro offset i hi
      cases i with
      | zero => rfl
      | succ i =>
          rw [pointers, List.getElem?_cons_succ, ih _ (Nat.lt_of_succ_lt_succ hi),
            List.take_succ_cons, stringArea_cons]
          simp only [List.length_append, List.length_singleton]
          congr 2
          omega

theorem blockWords_argv (hi : i < self.argv.length) :
    (blockWords self)[1 + i]? = some (self.blockAddress + offsetOf self i) := by
  have htake : (strings self).take i = self.argv.take i :=
    List.take_append_of_le_length hi.le
  rw [blockWords, Nat.add_comm 1 i, List.getElem?_cons_succ,
    List.getElem?_append_left (by simpa using hi), pointers_getElem? _ _ hi, offsetOf, htake]

theorem blockWords_environment (hi : i < self.environment.length) :
    (blockWords self)[self.argv.length + 2 + i]? =
      some (self.blockAddress + offsetOf self (self.argv.length + i)) := by
  have htake : (strings self).take (self.argv.length + i) =
      self.argv ++ self.environment.take i := List.take_length_add_append i
  rw [blockWords, show self.argv.length + 2 + i = self.argv.length + (i + 1) + 1 by omega,
    List.getElem?_cons_succ, List.getElem?_append_right (by simp)]
  rw [pointers_length, Nat.add_sub_cancel_left, List.getElem?_cons_succ,
    List.getElem?_append_left (by simpa using hi), pointers_getElem? _ _ hi, offsetOf, htake,
    stringArea_append, List.length_append]
  congr 2
  omega

theorem blockWords_length (self : StartupBlockV2Plan) :
    (blockWords self).length = 1 + self.argv.length + 1 + self.environment.length + 3 := by
  simp [blockWords]
  omega

theorem offsetOf_le (self : StartupBlockV2Plan) (i : Nat) :
    offsetOf self i ≤ self.stringStart + (stringArea (strings self)).length := by
  have hsplit := congrArg (fun s => (stringArea s).length) (List.take_append_drop i (strings self))
  simp only [stringArea_append, List.length_append] at hsplit
  rw [offsetOf]
  omega

theorem pointers_le (values : List String) :
    ∀ (offset : Nat), w ∈ pointers address offset values →
      w ≤ address + offset + (stringArea values).length := by
  induction values with
  | nil => exact fun _ hw => nomatch hw
  | cons value rest ih =>
      intro offset hw
      rcases List.mem_cons.mp hw with rfl | hw
      · omega
      · have hle := ih _ hw
        rw [stringArea_cons, List.length_append, List.length_append, List.length_singleton]
        omega

theorem blockWords_lt (h : self.Sound) : ∀ w ∈ blockWords self, w < 2 ^ 64 := by
  have hpointers : self.blockAddress + self.stringStart + (stringArea (strings self)).length <
    2 ^ 64 := h.pointers
  rw [stringArea_strings] at hpointers
  have hargv := h.argv_le
  simp only [Loader.maxArgv] at hargv
  intro w hw
  simp only [blockWords, List.mem_cons, List.mem_append, List.not_mem_nil, or_false, or_self] at hw
  rcases hw with rfl | hw | rfl | hw | rfl
  · omega
  · have hle := pointers_le _ _ hw
    omega
  · decide
  · have hle := pointers_le _ _ hw
    omega
  · decide

/-! ## The block of a plan -/

theorem blockText_length (h : self.Sound) : (blockText self).length = startupV2BlockBytes := by
  have hfits : self.stringStart + (stringArea (strings self)).length ≤ startupV2BlockBytes :=
    h.fits
  have hstart := h.stringStart_eq
  have hspare : spare self =
    startupV2BlockBytes - (self.stringStart + (stringArea (strings self)).length) := rfl
  simp only [blockText, List.length_append, wordsText_length, blockWords_length,
    List.length_replicate]
  omega

theorem blockText_drop (h : self.Sound) (hi : (strings self)[i]? = some value) :
    ∃ rest, (blockText self).drop (offsetOf self i) = utf8 value ++ 0 :: rest := by
  obtain ⟨hlt, rfl⟩ := List.getElem?_eq_some_iff.mp hi
  have hstart := h.stringStart_eq
  have hsplit : strings self =
      (strings self).take i ++ (strings self)[i] :: (strings self).drop (i + 1) := by
    rw [← List.drop_eq_getElem_cons hlt, List.take_append_drop]
  have harea := congrArg stringArea hsplit
  rw [stringArea_append, stringArea_cons] at harea
  refine ⟨stringArea ((strings self).drop (i + 1)) ++ List.replicate (spare self) 0, ?_⟩
  have htext : blockText self = (wordsText (blockWords self) ++
      stringArea ((strings self).take i)) ++ (utf8 (strings self)[i] ++ 0 ::
        (stringArea ((strings self).drop (i + 1)) ++ List.replicate (spare self) 0)) := by
    rw [blockText, harea]
    simp
  have hlen : offsetOf self i = (wordsText (blockWords self) ++
      stringArea ((strings self).take i)).length := by
    rw [offsetOf, List.length_append, wordsText_length, blockWords_length]
    omega
  rw [htext, hlen, List.drop_left]

theorem offsetOf_succ (hi : (strings self)[i]? = some value) :
    offsetOf self (i + 1) = offsetOf self i + (utf8 value).length + 1 := by
  rw [offsetOf, offsetOf, List.take_add_one, hi, Option.toList_some, stringArea_append,
    List.length_append]
  simp only [stringArea, List.flatMap_cons, List.flatMap_nil, List.append_nil, List.length_append,
    List.length_singleton]
  omega

/-- What a plan's block gives at each pointer. -/
structure Placed (plan : StartupBlockV2Plan) (i : Nat) (value : String) : Prop where
  noNul : (0 : UInt8) ∉ utf8 value
  text : ∃ rest, (blockText plan).drop (offsetOf plan i) = utf8 value ++ 0 :: rest
  next : offsetOf plan (i + 1) = offsetOf plan i + (utf8 value).length + 1
  inside : offsetOf plan (i + 1) ≤ startupV2BlockBytes
  pointer : plan.blockAddress + offsetOf plan (i + 1) < 2 ^ 64

theorem placed (h : self.Sound) (hi : (strings self)[i]? = some value) : Placed self i value := by
  have hfits : self.stringStart + (stringArea (strings self)).length ≤ startupV2BlockBytes :=
    h.fits
  have hpointers : self.blockAddress + self.stringStart + (stringArea (strings self)).length <
    2 ^ 64 := h.pointers
  have hle := offsetOf_le self (i + 1)
  exact ⟨h.no_nul value (List.mem_of_getElem? hi), blockText_drop h hi, offsetOf_succ hi,
    by omega, by omega⟩

theorem Placed.validateString (h : Placed self i value) (hself : self.Sound) {blockEnd : Nat}
    (hend : blockEnd = self.blockAddress + startupV2BlockBytes) :
    validateString (blockText self) self.blockAddress blockEnd
      (self.blockAddress + offsetOf self i) = .ok () := by
  obtain ⟨rest, htext⟩ := h.text
  have hnext := h.next
  have hinside := h.inside
  have hlen := blockText_length hself
  have hrange : (decide (self.blockAddress + offsetOf self i < self.blockAddress) ||
      decide (blockEnd ≤ self.blockAddress + offsetOf self i)) = false := by
    simp only [Bool.or_eq_false_iff, decide_eq_false_iff_not]
    omega
  rw [Startup.validateString, hrange, rejectIf_false, ok_bind, Nat.add_sub_cancel_left, sliceFrom,
    if_pos (by omega), ok_bind, htext, textBefore_text h.noNul]
  rfl

theorem Placed.getFrom (h : Placed self i value) (hself : self.Sound) :
    ∃ rest, getFrom (blockText self) (offsetOf self i) = some (utf8 value ++ 0 :: rest) := by
  obtain ⟨rest, htext⟩ := h.text
  have hnext := h.next
  have hinside := h.inside
  have hlen := blockText_length hself
  refine ⟨rest, ?_⟩
  rw [Startup.getFrom, if_pos (by omega), htext]

theorem Placed.stringSlice (h : Placed self i value) (hself : self.Sound) :
    stringSlice (blockText self) self.blockAddress (self.blockAddress + offsetOf self i) =
      .ok (utf8 value) := by
  obtain ⟨rest, hfrom⟩ := h.getFrom hself
  have hrange : decide (self.blockAddress + offsetOf self i < self.blockAddress) = false := by
    simp
  rw [Startup.stringSlice, hrange, rejectIf_false, ok_bind, Nat.add_sub_cancel_left, hfrom,
    okOr_some, ok_bind, nulPosition_text h.noNul, okOr_some, ok_bind, List.take_left]
  rfl

variable {vectorOffset : Nat}

theorem Placed.validateCanonical {index total : Nat} (h : Placed self i value) (hself : self.Sound)
    (hword : wordAt (blockText self) vectorOffset index =
      .ok (self.blockAddress + offsetOf self i))
    (htotal : total ≤ startupV2BlockBytes) :
    validateCanonicalV2String (blockText self) self.blockAddress vectorOffset index
      (offsetOf self i, total) = .ok (offsetOf self (i + 1), total + (utf8 value).length) := by
  obtain ⟨rest, hfrom⟩ := h.getFrom hself
  have hnext := h.next
  have hinside := h.inside
  have hpointer := h.pointer
  simp only [startupV2BlockBytes, Loader.pageSize] at hinside htotal
  have hexpected : checkedAdd self.blockAddress (offsetOf self i) =
      some (self.blockAddress + offsetOf self i) := checkedAdd_eq_some.mpr ⟨by omega, rfl⟩
  have hconsumed : checkedAdd (utf8 value).length 1 = some ((utf8 value).length + 1) :=
    checkedAdd_eq_some.mpr ⟨by omega, rfl⟩
  have hsum : checkedAdd total (utf8 value).length = some (total + (utf8 value).length) :=
    checkedAdd_eq_some.mpr ⟨by omega, rfl⟩
  have hcursor : checkedAdd (offsetOf self i) ((utf8 value).length + 1) =
      some (offsetOf self (i + 1)) := checkedAdd_eq_some.mpr ⟨by omega, by omega⟩
  simp only [validateCanonicalV2String, hword, ok_bind, hexpected, okOr_some, ne_eq,
    not_true_eq_false, decide_false, rejectIf_false, hfrom, textBefore_text h.noNul, hconsumed, hsum, hcursor]
  rfl

theorem counts_le (h : self.Sound) : self.argv.length ≤ 64 ∧ self.environment.length ≤ 64 :=
  ⟨h.argv_le, h.environment_le⟩

theorem wordAt_argv (h : self.Sound) (hi : i < self.argv.length) :
    wordAt (blockText self) wordSize i = .ok (self.blockAddress + offsetOf self i) := by
  have hword := blockWords_argv hi
  have hcounts := counts_le h
  exact wordAt_words hword (blockWords_lt h _ (List.mem_of_getElem? hword)) (by omega)

theorem wordAt_environment (h : self.Sound) (hi : i < self.environment.length) :
    wordAt (blockText self) (8 * (self.argv.length + 2)) i =
      .ok (self.blockAddress + offsetOf self (self.argv.length + i)) := by
  have hword := blockWords_environment hi
  have hcounts := counts_le h
  exact wordAt_words hword (blockWords_lt h _ (List.mem_of_getElem? hword)) (by omega)

theorem strings_argv (hi : i < self.argv.length) :
    (strings self)[i]? = some (self.argv.get ⟨i, hi⟩) := by
  rw [strings, List.getElem?_append_left hi]
  exact List.getElem?_eq_getElem hi

theorem strings_environment (hi : i < self.environment.length) :
    (strings self)[self.argv.length + i]? = some (self.environment.get ⟨i, hi⟩) := by
  rw [strings, List.getElem?_append_right (Nat.le_add_right _ _), Nat.add_sub_cancel_left]
  exact List.getElem?_eq_getElem hi

/-! ## The parser's loops -/

theorem validateStrings_ok {count blockEnd : Nat} (base : Nat) (h : self.Sound)
    (hend : blockEnd = self.blockAddress + startupV2BlockBytes)
    (hword : ∀ i < count, wordAt (blockText self) vectorOffset i =
      .ok (self.blockAddress + offsetOf self (base + i)))
    (hvalue : ∀ i < count, ∃ value, (strings self)[base + i]? = some value) :
    forRange (fun index (_ : Unit) => do
      let pointer ← wordAt (blockText self) vectorOffset index
      validateString (blockText self) self.blockAddress blockEnd pointer) 0 count () = .ok () := by
  have hstep : ∀ i (_ : Unit), 0 ≤ i → i < 0 + count → True → ∃ u : Unit,
      (do
        let pointer ← wordAt (blockText self) vectorOffset i
        validateString (blockText self) self.blockAddress blockEnd pointer) = .ok u ∧ True := by
    intro i _ _ hi _
    rw [Nat.zero_add] at hi
    obtain ⟨value, hvalue⟩ := hvalue i hi
    refine ⟨(), ?_, trivial⟩
    rw [hword i hi, ok_bind]
    exact (placed h hvalue).validateString h hend
  obtain ⟨u, hu, -⟩ := forRange_ok (I := fun _ _ => True) hstep trivial
  exact hu

/-- The cursor runs over the strings, the total counts their bytes. -/
def AtString (self : StartupBlockV2Plan) (i : Nat) (state : Nat × Nat) : Prop :=
  state.1 = offsetOf self i ∧ state.2 + i = (stringArea ((strings self).take i)).length

theorem validateCanonical_ok {count : Nat} {state : Nat × Nat} (base : Nat) (h : self.Sound)
    (hword : ∀ i < count, wordAt (blockText self) vectorOffset i =
      .ok (self.blockAddress + offsetOf self (base + i)))
    (hvalue : ∀ i < count, ∃ value, (strings self)[base + i]? = some value)
    (hstate : AtString self base state) :
    ∃ state', forRange (validateCanonicalV2String (blockText self) self.blockAddress vectorOffset)
        0 count state = .ok state' ∧ AtString self (base + count) state' := by
  have hstep : ∀ i state, 0 ≤ i → i < 0 + count → AtString self (base + i) state →
      ∃ state', validateCanonicalV2String (blockText self) self.blockAddress vectorOffset i state =
        .ok state' ∧ AtString self (base + (i + 1)) state' := by
    intro i state _ hi hat
    rw [Nat.zero_add] at hi
    obtain ⟨value, hvalue⟩ := hvalue i hi
    have hplaced := placed h hvalue
    have hnext := hplaced.next
    have hinside := hplaced.inside
    obtain ⟨cursor, total⟩ := state
    obtain ⟨hcursor, htotal⟩ : cursor = offsetOf self (base + i) ∧
      total + (base + i) = (stringArea ((strings self).take (base + i))).length := hat
    have hoffset : offsetOf self (base + i) =
      self.stringStart + (stringArea ((strings self).take (base + i))).length := rfl
    have hoffset' : offsetOf self (base + i + 1) =
      self.stringStart + (stringArea ((strings self).take (base + i + 1))).length := rfl
    refine ⟨_, hcursor ▸ hplaced.validateCanonical h (hword i hi) (by omega), rfl, ?_⟩
    show total + (utf8 value).length + (base + i + 1) =
      (stringArea ((strings self).take (base + i + 1))).length
    omega
  obtain ⟨state', hrun, hat⟩ := forRange_ok (I := fun i => AtString self (base + i)) hstep hstate
  exact ⟨state', hrun, by rwa [Nat.zero_add] at hat⟩

theorem checkEnvironment_names {values : List String} :
    ∀ {seen : List String}, Loader.checkEnvironment seen values = .ok () →
      ∀ {i : Nat} {value : String}, values[i]? = some value →
        ∃ name, environmentName StartupError.invalidEnvironment (utf8 value) = .ok name ∧
          ∀ other ∈ seen ++ values.take i,
            environmentName StartupError.invalidEnvironment (utf8 other) ≠ .ok name := by
  induction values with
  | nil => exact fun _ _ _ hi => nomatch hi
  | cons first rest ih =>
      intro seen h i value hi
      obtain ⟨name, hname, h⟩ := bind_eq_ok.mp h
      obtain ⟨_, hfresh, h⟩ := bind_eq_ok.mp h
      cases i with
      | zero =>
          obtain rfl := Option.some.inj hi
          refine ⟨name, environmentName_congr hname, fun other hother hsame => ?_⟩
          rw [List.take_zero, List.append_nil] at hother
          have hnot := List.any_eq_false.mp (rejectIf_eq_ok.mp hfresh) other hother
          exact hnot (decide_eq_true (environmentName_congr hsame))
      | succ i =>
          obtain ⟨name, hname, hother⟩ := ih h hi
          refine ⟨name, hname, fun other hmem => hother other ?_⟩
          rw [List.append_assoc]
          exact hmem

theorem nameAt_environment (h : self.Sound) (hi : i < self.environment.length) :
    nameAt (blockText self) self.blockAddress (8 * (self.argv.length + 2)) i =
      environmentName .invalidEnvironment (utf8 (self.environment.get ⟨i, hi⟩)) := by
  rw [nameAt, wordAt_environment h hi, ok_bind,
    (placed h (strings_environment hi)).stringSlice h, ok_bind]

theorem checkName_ok (h : self.Sound) (hi : i < self.environment.length) :
    checkName (blockText self) self.blockAddress (8 * (self.argv.length + 2)) i () = .ok () := by
  obtain ⟨name, hname, hother⟩ := checkEnvironment_names h.environment_ok
    (List.getElem?_eq_getElem hi)
  have hstep : ∀ previous (_ : Unit), 0 ≤ previous → previous < 0 + i → True → ∃ u : Unit,
      (do
        let other ← nameAt (blockText self) self.blockAddress (8 * (self.argv.length + 2)) previous
        rejectIf (other = name) .duplicateEnvironment) = .ok u ∧ True := by
    intro previous _ _ hlt _
    rw [Nat.zero_add] at hlt
    have hprevious : previous < self.environment.length := hlt.trans hi
    obtain ⟨name', hname', -⟩ := checkEnvironment_names h.environment_ok
      (List.getElem?_eq_getElem hprevious)
    refine ⟨(), ?_, trivial⟩
    have hne : name' ≠ name := by
      rintro rfl
      refine hother _ ?_ hname'
      rw [List.nil_append, List.mem_take_iff_getElem]
      exact ⟨previous, by omega, rfl⟩
    rw [nameAt_environment h hprevious]
    show (environmentName StartupError.invalidEnvironment (utf8 self.environment[previous]) >>= _) =
      _
    rw [hname', ok_bind, decide_eq_false hne]
    rfl
  obtain ⟨u, hu, -⟩ := forRange_ok (I := fun _ _ => True) hstep trivial
  rw [checkName, nameAt_environment h hi]
  show (environmentName StartupError.invalidEnvironment (utf8 self.environment[i]) >>= _) = _
  rw [hname, ok_bind]
  exact hu

theorem checkNames_ok (h : self.Sound) :
    forRange (checkName (blockText self) self.blockAddress (8 * (self.argv.length + 2))) 0
      self.environment.length () = .ok () := by
  have hstep : ∀ i (u : Unit), 0 ≤ i → i < 0 + self.environment.length → True → ∃ u' : Unit,
      checkName (blockText self) self.blockAddress (8 * (self.argv.length + 2)) i u = .ok u' ∧
        True :=
    fun i _ _ hi _ => ⟨(), checkName_ok h (by omega), trivial⟩
  obtain ⟨u, hu, -⟩ := forRange_ok (I := fun _ _ => True) hstep trivial
  exact hu

/-! ## The parser on the text -/

/-- The view of a plan's block that the child ends up with. -/
def view (self : StartupBlockV2Plan) (channel : Nat) : StartupBlock where
  bytes := blockText self
  address := self.blockAddress
  version := startupAbiV2
  bootstrapChannel := channel
  argvOffset := wordSize
  argc := self.argv.length
  envpOffset := 8 * (self.argv.length + 2)
  envc := self.environment.length
  auxvOffset := 8 * (self.argv.length + self.environment.length + 3)
  auxc := 0

theorem blockWords_aux (self : StartupBlockV2Plan) : ∃ front, blockWords self = front ++ [0, 0] ∧
    front.length = self.argv.length + self.environment.length + 3 := by
  refine ⟨self.argv.length :: (pointers self.blockAddress self.stringStart self.argv ++
    0 :: (pointers self.blockAddress (self.stringStart + (stringArea self.argv).length)
      self.environment ++ [0])), ?_, ?_⟩
  · simp [blockWords]
  · simp
    omega

theorem scanAux_text (h : self.Sound) :
    scanAuxiliaryVector (blockText self) ((blockText self).length + 1) 0
        (8 * (self.argv.length + self.environment.length + 3)) = .ok 0 ∧
      scanAuxiliaryVectorEnd (blockText self) ((blockText self).length + 1)
        (8 * (self.argv.length + self.environment.length + 3)) = .ok self.stringStart := by
  obtain ⟨front, hwords, hlen⟩ := blockWords_aux self
  have hcounts := counts_le h
  have hstart := h.stringStart_eq
  have hscan := scanAuxiliaryVector_words front
    (stringArea (strings self) ++ List.replicate (spare self) 0) (blockText self).length (by omega)
  rw [← hwords, hlen, show 8 * (self.argv.length + self.environment.length + 3 + 2) =
    self.stringStart by omega] at hscan
  exact hscan

theorem le_pointers (values : List String) :
    ∀ (offset : Nat), w ∈ pointers address offset values → address + offset ≤ w := by
  induction values with
  | nil => exact fun _ hw => nomatch hw
  | cons value rest ih =>
      intro offset hw
      rcases List.mem_cons.mp hw with rfl | hw
      · exact le_rfl
      · have hle := ih _ hw
        omega

theorem scanEnvironment_text (h : self.Sound) :
    scanNullTerminatedVector (blockText self) ((blockText self).length + 1) 0
        (8 * (self.argv.length + 2)) =
      .ok (self.environment.length, 8 * (self.argv.length + self.environment.length + 3)) := by
  have hcounts := counts_le h
  have hlength := blockText_length h
  have hstart := h.stringStart_eq
  have hblock : startupV2BlockBytes = 20480 := rfl
  have hfront : (self.argv.length :: (pointers self.blockAddress self.stringStart self.argv ++
      [0])).length = self.argv.length + 2 := by simp
  have hscan := scanNullTerminatedVector_words
    (stringArea (strings self) ++ List.replicate (spare self) 0) (blockWords_lt h)
    (by rw [blockWords_length]; omega)
    (pointers self.blockAddress (self.stringStart + (stringArea self.argv).length)
      self.environment)
    (self.argv.length :: (pointers self.blockAddress self.stringStart self.argv ++ [0]))
    [0, 0] ((blockText self).length + 1) 0
    (by simp [blockWords]) (fun w hw => ?_) (by rw [pointers_length]; omega)
    (by rw [pointers_length, blockWords_length]; omega)
  · rw [hfront, pointers_length, Nat.zero_add,
      show self.argv.length + 2 + self.environment.length + 1 =
        self.argv.length + self.environment.length + 3 by omega] at hscan
    exact hscan
  · have hle := le_pointers _ _ hw
    omega

theorem strings_argv_some (i : Nat) (hi : i < self.argv.length) :
    ∃ value, (strings self)[0 + i]? = some value :=
  ⟨_, by rw [Nat.zero_add]; exact strings_argv hi⟩

theorem wordAt_argv_base (h : self.Sound) (i : Nat) (hi : i < self.argv.length) :
    wordAt (blockText self) wordSize i = .ok (self.blockAddress + offsetOf self (0 + i)) := by
  rw [Nat.zero_add]
  exact wordAt_argv h hi

theorem validateV2Layout_ok (h : self.Sound) :
    validateV2Layout (blockText self) self.blockAddress self.argv.length wordSize
      self.environment.length (8 * (self.argv.length + 2))
      (8 * (self.argv.length + self.environment.length + 3)) = .ok () := by
  have hcounts := counts_le h
  have hpos : 0 < self.argv.length := List.length_pos_iff.mpr h.argv_pos
  have hargc : (decide (self.argv.length < 1) || decide (64 < self.argv.length)) = false := by
    simp only [Bool.or_eq_false_iff, decide_eq_false_iff_not]
    omega
  have henvc : decide (64 < self.environment.length) = false :=
    decide_eq_false (by omega)
  have hbegin : AtString self 0 (self.stringStart, 0) := by
    simp [AtString, offsetOf, stringArea]
  obtain ⟨state₁, hrun₁, hat₁⟩ := validateCanonical_ok 0 h (wordAt_argv_base h)
    strings_argv_some hbegin
  rw [Nat.zero_add] at hat₁
  obtain ⟨state₂, hrun₂, hat₂⟩ := validateCanonical_ok self.argv.length h
    (fun i hi => wordAt_environment h hi) (fun i hi => ⟨_, strings_environment hi⟩) hat₁
  have hall : (strings self).take (self.argv.length + self.environment.length) = strings self := by
    rw [strings, ← List.length_append, List.take_length]
  have htotal : decide (16 * 1024 < state₂.2) = false := by
    have hle : (stringArea (strings self)).length ≤ 16 * 1024 + (strings self).length := h.total_le
    have hsum := hat₂.2
    rw [hall] at hsum
    rw [strings, List.length_append] at hle
    rw [strings] at hsum
    exact decide_eq_false (by omega)
  rw [validateV2Layout, hargc, rejectIf_false, ok_bind, henvc, rejectIf_false, ok_bind,
    (scanAux_text h).2, ok_bind, hrun₁, ok_bind, hrun₂, ok_bind, htotal, rejectIf_false, ok_bind]
  exact checkNames_ok h

variable {channel : Nat}

/-- The parser takes the text of an accepted plan, if the whole block has an
address. -/
theorem parse_text (h : self.Sound) (haligned : self.blockAddress % 16 = 0)
    (hfit : self.blockAddress + startupBlockV2Size < 2 ^ 64)
    (hchannel : channel ≠ 0) :
    StartupBlock.parse ⟨channel, startupAbiV2⟩ self.blockAddress (blockText self) =
      .ok (view self channel) := by
  have hcounts := counts_le h
  have hlength : (blockText self).length = startupBlockV2Size := blockText_length h
  have hend : checkedAdd self.blockAddress startupBlockV2Size =
      some (self.blockAddress + startupBlockV2Size) := checkedAdd_eq_some.mpr ⟨hfit, rfl⟩
  have hargc : readWord (blockText self) 0 = some self.argv.length :=
    readWord_words (i := 0) rfl (by omega) (by decide)
  have hafter : advanceWords wordSize self.argv.length = some (8 * (self.argv.length + 1)) := by
    rw [Nat.add_comm]
    exact advanceWords_eq (k := 1) (by omega)
  have hterminator : readWord (blockText self) (8 * (self.argv.length + 1)) = some 0 :=
    readWord_words (by simp [blockWords]) (by decide) (by omega)
  have henvp : checkedAdd (8 * (self.argv.length + 1)) wordSize =
      some (8 * (self.argv.length + 2)) := by
    rw [checkedAdd_eq_some]
    simp only [wordSize]
    omega
  have hsize : blockSizeOf startupAbiV2 = .ok startupBlockV2Size := rfl
  have hargv := validateStrings_ok 0 h rfl (wordAt_argv_base h) strings_argv_some
  have henv := validateStrings_ok self.argv.length h rfl
    (fun i hi => wordAt_environment h hi) (fun i hi => ⟨_, strings_environment hi⟩)
  have hblock : startupV2BlockBytes = startupBlockV2Size := rfl
  rw [hblock] at hargv henv
  have hscan := scanEnvironment_text h
  have hauxv := (scanAux_text h).1
  have hnonzero : (rejectIf (channel = 0) .invalidBootstrapChannelHandle : Parse Unit) = .ok () :=
    rejectIf_eq_ok.mpr (decide_eq_false hchannel)
  have halign : (rejectIf (self.blockAddress % 16 ≠ 0) .misalignedStack : Parse Unit) = .ok () :=
    rejectIf_eq_ok.mpr (decide_eq_false (not_not.mpr haligned))
  have hwhole : (rejectIf ((blockText self).length ≠ startupBlockV2Size) .wrongBlockSize :
      Parse Unit) = .ok () := rejectIf_eq_ok.mpr (decide_eq_false (not_not.mpr hlength))
  have hnul : requireWord (blockText self) (8 * (self.argv.length + 1)) 0 .missingVectorTerminator =
      .ok () := by
    rw [requireWord, hterminator, if_pos rfl]
  rw [StartupBlock.parse, hsize, ok_bind, hnonzero, ok_bind, halign, ok_bind, hwhole, ok_bind, hend,
    okOr_some, ok_bind, hargc, okOr_some, ok_bind]
  dsimp only
  rw [hafter, okOr_some, ok_bind, hnul, ok_bind, henvp, okOr_some, ok_bind, hscan, ok_bind]
  dsimp only
  rw [hauxv, ok_bind, hargv, ok_bind, henv, ok_bind, if_pos rfl, validateV2Layout_ok h]
  rfl

/-! ## The child's arguments -/

theorem Placed.stringAt (h : Placed self i value) (hself : self.Sound) :
    (view self channel).stringAt (self.blockAddress + offsetOf self i) = .ok (utf8 value) := by
  obtain ⟨rest, htext⟩ := h.text
  have hnext := h.next
  have hinside := h.inside
  have hlen := blockText_length hself
  have hnot : ¬ self.blockAddress + offsetOf self i < (view self channel).address := by
    simp [view]
  rw [StartupBlock.stringAt, if_neg hnot]
  show ((sliceFrom (blockText self) (self.blockAddress + offsetOf self i - self.blockAddress) :
    Parse _) >>= _) = _
  rw [Nat.add_sub_cancel_left, sliceFrom, if_pos (by omega), ok_bind, htext,
    nulPosition_text h.noNul]
  show Outcome.ok ((utf8 value ++ 0 :: rest).take (utf8 value).length) = _
  rw [List.take_left]

theorem view_entry (h : self.Sound) (base : Nat) {index : Nat} {values : List String}
    (hword : ∀ i < values.length, wordAt (blockText self) vectorOffset i =
      .ok (self.blockAddress + offsetOf self (base + i)))
    (hvalue : ∀ i (hi : i < values.length),
      (strings self)[base + i]? = some (values.get ⟨i, hi⟩)) :
    (view self channel).entry vectorOffset values.length index =
      .ok (values[index]?.map utf8) := by
  unfold StartupBlock.entry
  by_cases hi : index < values.length
  · rw [if_neg (by omega)]
    have hat : wordAt (view self channel).bytes vectorOffset index = _ := hword index hi
    rw [hat, List.getElem?_eq_getElem hi]
    show ((view self channel).stringAt _).map some = _
    rw [(placed h (hvalue index hi)).stringAt h]
    rfl
  · rw [if_pos (by omega), List.getElem?_eq_none (by omega)]
    rfl

theorem view_arg (h : self.Sound) (channel index : Nat) :
    (view self channel).arg index = .ok (self.argv[index]?.map utf8) :=
  view_entry h 0 (wordAt_argv_base h) fun i hi => by
    rw [Nat.zero_add]
    exact strings_argv hi

theorem view_env (h : self.Sound) (channel index : Nat) :
    (view self channel).env index = .ok (self.environment[index]?.map utf8) :=
  view_entry h _ (fun _ hi => wordAt_environment h hi) fun _ hi => strings_environment hi

/-- What the loader wrote for a plan it accepted is in range, and the child
that is started on it sees the same arguments and environment, entry by
entry, if the whole block lies below the end of the address space. -/
theorem startupBlock_roundTrip {address : Nat} {path : String} {argv environment : List String}
    {blockLen : Nat} {block : List UInt8}
    (hplan : StartupBlockV2Plan.new blockLen address path argv environment = .ok self)
    (haligned : address % 16 = 0) (hblock : block.length = blockLen) :
    self.write block = (.ok (), blockText self, []) ∧
      (blockText self).length = startupBlockV2Size ∧ (∀ w ∈ blockWords self, w < 2 ^ 64) ∧
      ∀ channel ≠ 0, address + startupBlockV2Size < 2 ^ 64 →
        ∃ parsed, StartupBlock.parse ⟨channel, startupAbiV2⟩ address (blockText self) = .ok parsed ∧
          parsed.argc = argv.length ∧ parsed.envc = environment.length ∧
          (∀ index, parsed.arg index = .ok (argv[index]?.map utf8)) ∧
          ∀ index, parsed.env index = .ok (environment[index]?.map utf8) := by
  obtain ⟨hsound, rfl, rfl, rfl⟩ := StartupBlockV2Plan.new_sound hplan
  obtain rfl : blockLen = startupV2BlockBytes := by
    obtain ⟨_, hlen, _⟩ := bind_eq_ok.mp hplan
    simpa [rejectIf_eq_ok] using hlen
  refine ⟨write_text hsound hblock, blockText_length hsound, blockWords_lt hsound, ?_⟩
  intro channel hchannel hfit
  exact ⟨view self channel, parse_text hsound haligned hfit hchannel, rfl, rfl,
    view_arg hsound channel, view_env hsound channel⟩

/-- The plan of two arguments and two entries of the environment. -/
def pairsPlan : StartupBlockV2Plan := ⟨4096, ["größe", "€ 5"], ["NAME=größe", "PRICE=€ 5"], 72⟩

theorem pairsPlan_new : StartupBlockV2Plan.new 20480 4096 "größe" pairsPlan.argv pairsPlan.environment =
    .ok pairsPlan := by
  decide +kernel

theorem pairsPlan_roundTrip : ∃ parsed,
    StartupBlock.parse ⟨1, startupAbiV2⟩ 4096 (blockText pairsPlan) = .ok parsed ∧
      parsed.argc = 2 ∧ parsed.envc = 2 ∧
      (List.range 3).map parsed.arg = [.ok (some (utf8 "größe")), .ok (some (utf8 "€ 5")), .ok none] ∧
      (List.range 3).map parsed.env =
        [.ok (some (utf8 "NAME=größe")), .ok (some (utf8 "PRICE=€ 5")), .ok none] := by
  obtain ⟨-, -, -, hparse⟩ := startupBlock_roundTrip pairsPlan_new (by decide)
    (List.length_replicate (n := 20480) (a := 0))
  obtain ⟨parsed, hparsed, hargc, henvc, harg, henv⟩ := hparse 1 (by decide) (by decide)
  refine ⟨parsed, hparsed, hargc, henvc, ?_, ?_⟩
  · rw [List.map_congr_left fun index _ => harg index]
    rfl
  · rw [List.map_congr_left fun index _ => henv index]
    rfl

/-- The plan of one argument in the last page of the address space. -/
def onePlan : StartupBlockV2Plan := ⟨2 ^ 64 - 4096, ["a"], [], 48⟩

theorem onePlan_new : StartupBlockV2Plan.new 20480 (2 ^ 64 - 4096) "a" ["a"] [] = .ok onePlan := by
  decide +kernel

/-- A block that would run past the end of the address space passes the plan
and fails the parser. -/
theorem highAddress_rejected :
    StartupBlockV2Plan.new 20480 (2 ^ 64 - 4096) "a" ["a"] [] = .ok onePlan ∧
      onePlan.write (List.replicate 20480 0) =
        (.ok (), blockText onePlan, []) ∧
      StartupBlock.parse ⟨1, startupAbiV2⟩ (2 ^ 64 - 4096) (blockText onePlan) =
        .err .addressOverflow := by
  obtain ⟨hsound, -⟩ := StartupBlockV2Plan.new_sound onePlan_new
  refine ⟨onePlan_new, write_text hsound (List.length_replicate), ?_⟩
  have hlength : (blockText onePlan).length = startupBlockV2Size :=
    blockText_length hsound
  have hsize : blockSizeOf startupAbiV2 = .ok startupBlockV2Size := rfl
  have hend : checkedAdd (2 ^ 64 - 4096) startupBlockV2Size = none := by decide
  rw [StartupBlock.parse, hsize, ok_bind, hlength, hend]
  decide +kernel

end Wyrmroot.Startup
