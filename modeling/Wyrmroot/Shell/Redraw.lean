import Mathlib.Algebra.BigOperators.Group.List.Basic
import Wyrmroot.Lib.Decimal
import Wyrmroot.Lib.Unchecked
import Wyrmroot.Shell.Grammar

/-!
# Redrawing the line

`wyrmroot-wyrmsh-core/src/redraw.rs`: a frame shows a window of the line, chosen by
scalars and cut out by bytes, and is read in pieces. A line that is split at the
cursor and at the ends of its window is a frame of known parts (`new_run`), and
whatever pieces are read are the front of that frame (`reads_run`).
-/

namespace Wyrmroot.Shell

open Outcome

/-- `b"\r\x1b[2Kwyrmsh> "`: to the first column, erase the line, prompt. -/
def promptAndErase : List UInt8 := [13, 27, 91, 50, 75, 119, 121, 114, 109, 115, 104, 62, 32]

def visibleScalars : Nat := 71

structure Redraw where
  line : List UInt8
  visibleStart : Nat
  visibleEnd : Nat
  cursorBack : List UInt8
  cursorBackLen : Nat
  emitted : Nat
deriving DecidableEq

variable {ε : Type}

/-- `char_indices`, from an offset. -/
def charIndices : Nat → List Char → List (Nat × Char)
  | _, [] => []
  | index, c :: cs => (index, c) :: charIndices (index + (String.utf8EncodeChar c).length) cs

def byteAtScalar (text : String) (scalar : Nat) : Nat :=
  match (charIndices 0 text.toList)[scalar]? with
  | some found => found.1
  | none => (utf8 text).length

def byteAtScalarFrom (text : String) (start count : Nat) : Outcome ε Nat := do
  let rest ← unwrap (getRange text ⟨start, (utf8 text).length⟩)
  match (charIndices 0 rest.toList)[count]? with
  | some found => pure (start + found.1)
  | none => pure (utf8 text).length

/-- `b'0' + digit as u8`. -/
def decimalDigit (digit : Nat) : Outcome ε UInt8 :=
  if 48 + digit % 256 < 256 then .ok (UInt8.ofNat (48 + digit % 256)) else .panic

/-- An array of five bytes, and how many of them count. -/
def cursorBackSequence (columns : Nat) : Outcome ε (List UInt8 × Nat) :=
  if columns = 0 then .ok (List.replicate 5 0, 0)
  else if 10 ≤ columns then do
    let tens ← decimalDigit (columns / 10)
    let ones ← decimalDigit (columns % 10)
    .ok ([27, 91, tens, ones, 68], 5)
  else do
    let ones ← decimalDigit columns
    .ok ([27, 91, ones, 68, 0], 4)

namespace Redraw

def new (line : String) (cursor : Nat) : Outcome ε Redraw := do
  let front ← unwrap (getRange line ⟨0, cursor⟩)
  let cursorScalars := front.toList.length
  let totalScalars := line.toList.length
  let visibleStartScalar := min (cursorScalars - visibleScalars / 2) (totalScalars - visibleScalars)
  let visibleStart := byteAtScalar line visibleStartScalar
  let visibleEnd ← byteAtScalarFrom line visibleStart visibleScalars
  let visible ← unwrap (getRange line ⟨visibleStart, visibleEnd⟩)
  let cursorInWindow ← Unchecked.sub cursorScalars visibleStartScalar
  let back ← Unchecked.sub visible.toList.length cursorInWindow
  let cursorBack ← cursorBackSequence back
  pure { line := utf8 line, visibleStart, visibleEnd, cursorBack := cursorBack.1,
         cursorBackLen := cursorBack.2, emitted := 0 }

/-- The loop of `read`: what is still to be skipped, and what has been written. -/
def emit (room : Nat) : List (List UInt8) → Nat → List UInt8 → List UInt8
  | [], _, written => written
  | segment :: segments, skipped, written =>
      if segment.length ≤ skipped then emit room segments (skipped - segment.length) written
      else
        let source := segment.drop skipped
        let count := min source.length (room - written.length)
        let written := written ++ source.take count
        if written.length = room then written else emit room segments 0 written

/-- The bytes written to an output of `room` bytes. -/
def read (self : Redraw) (room : Nat) : Outcome ε (List UInt8 × Redraw) :=
  if room = 0 then .ok ([], self)
  else if self.visibleEnd < self.visibleStart then .panic
  else do
    let visible ← sliceAt self.line self.visibleStart (self.visibleEnd - self.visibleStart)
    let back ← sliceAt self.cursorBack 0 self.cursorBackLen
    let written := emit room [promptAndErase, visible, back] self.emitted []
    .ok (written, { self with emitted := self.emitted + written.length })

/-- One read for each output. -/
def reads (self : Redraw) : List Nat → Outcome ε (List UInt8 × Redraw)
  | [] => .ok ([], self)
  | room :: rooms => do
      let first ← self.read room
      let rest ← reads first.2 rooms
      .ok (first.1 ++ rest.1, rest.2)

end Redraw

/-! ## Scalars and offsets -/

theorem charIndices_getElem (index scalar : Nat) (cs : List Char) :
    (charIndices index cs)[scalar]? =
      cs[scalar]?.map fun c => (index + (encoded (cs.take scalar)).length, c) := by
  induction cs generalizing index scalar with
  | nil => rfl
  | cons c cs ih =>
      cases scalar with
      | zero => rfl
      | succ scalar =>
          rw [charIndices, List.getElem?_cons_succ, ih, List.getElem?_cons_succ, List.take_succ_cons,
            encoded_cons, List.length_append, Nat.add_assoc]

theorem byteAtScalar_eq (text : String) (scalar : Nat) :
    byteAtScalar text scalar = (encoded (text.toList.take scalar)).length := by
  unfold byteAtScalar
  rw [charIndices_getElem]
  rcases Nat.lt_or_ge scalar text.toList.length with h | h
  · rw [List.getElem?_eq_getElem h]
    exact Nat.zero_add _
  · rw [List.getElem?_eq_none h, List.take_of_length_le h, utf8_eq_encoded]
    rfl

theorem byteAtScalarFrom_run {text : String} {front behind : List Char}
    (h : text.toList = front ++ behind) (count : Nat) :
    (byteAtScalarFrom text (encoded front).length count : Outcome ε Nat) =
      .ok (encoded (front ++ behind.take count)).length := by
  have hrest : getRange text ⟨(encoded front).length, (utf8 text).length⟩ =
      some (String.ofList behind) := by
    have hparts := @getRange_parts front behind [] text
      (by rw [h, List.append_nil])
    rwa [← h, ← utf8_eq_encoded] at hparts
  unfold byteAtScalarFrom
  rw [hrest]
  show (match (charIndices 0 (String.ofList behind).toList)[count]? with
    | some found => pure ((encoded front).length + found.1)
    | none => pure (utf8 text).length : Outcome ε Nat) = _
  rw [String.toList_ofList, charIndices_getElem]
  rcases Nat.lt_or_ge count behind.length with hlt | hge
  · rw [List.getElem?_eq_getElem hlt, encoded_append, List.length_append, Option.map_some]
    dsimp only
    rw [Nat.zero_add]
    rfl
  · rw [List.getElem?_eq_none hge, List.take_of_length_le hge, utf8_eq_encoded, h]
    rfl

/-! ## The cursor -/

/-- The sequence that takes the cursor back. -/
def cursorBackText (columns : Nat) : List UInt8 :=
  if columns = 0 then [] else [27, 91] ++ decimal columns ++ [68]

theorem decimalDigit_run {digit : Nat} (h : digit < 10) :
    (decimalDigit digit : Outcome ε UInt8) = .ok (UInt8.ofNat (48 + digit)) := by
  have hmod : digit % 256 = digit := Nat.mod_eq_of_lt (by omega)
  rw [decimalDigit, hmod, if_pos (by omega)]

theorem cursorBackSequence_run {columns : Nat} (h : columns < 100) : ∃ sequence len,
    (cursorBackSequence columns : Outcome ε _) = .ok (sequence, len) ∧
      len ≤ sequence.length ∧ len ≤ 5 ∧ sequence.take len = cursorBackText columns := by
  unfold cursorBackSequence cursorBackText
  split_ifs with hzero htens
  · exact ⟨_, _, rfl, Nat.zero_le _, Nat.zero_le _, rfl⟩
  · have hhigh : columns / 10 < 10 := by omega
    rw [decimalDigit_run hhigh, ok_bind, decimalDigit_run (Nat.mod_lt _ (by decide)), ok_bind,
      decimal_snoc htens, decimal_digit hhigh]
    exact ⟨_, _, rfl, Nat.le_refl _, Nat.le_refl _, rfl⟩
  · have hones : columns < 10 := Nat.not_le.mp htens
    rw [decimalDigit_run hones, ok_bind, decimal_digit hones]
    exact ⟨_, _, rfl, Nat.le_succ 4, Nat.le_succ 4, rfl⟩

theorem length_cursorBackText {columns : Nat} (h : columns < 100) :
    (cursorBackText columns).length ≤ 5 := by
  obtain ⟨sequence, len, -, -, hlen, heq⟩ := cursorBackSequence_run (ε := Unit) h
  rw [← heq, List.length_take]
  exact Nat.le_trans (Nat.min_le_left _ _) hlen

/-! ## The window -/

namespace Redraw

/-- A line, split at its cursor and at the ends of what is shown of it. -/
structure Window (line : String) (cursor : Nat) where
  before : List Char
  left : List Char
  right : List Char
  after : List Char
  line_eq : line.toList = before ++ (left ++ (right ++ after))
  cursor_eq : (encoded (before ++ left)).length = cursor
  narrow : (left ++ right).length ≤ visibleScalars

variable {line : String} {cursor : Nat}

/-- The whole frame. -/
def Window.frame (w : Window line cursor) : List UInt8 :=
  promptAndErase ++ (encoded (w.left ++ w.right) ++ cursorBackText w.right.length)

/-- A redraw of this window, of which so much has been emitted. -/
structure Shows (w : Window line cursor) (redraw : Redraw) (emitted : Nat) : Prop where
  line : redraw.line = utf8 line
  visibleStart : redraw.visibleStart = (encoded w.before).length
  visibleEnd : redraw.visibleEnd = (encoded (w.before ++ (w.left ++ w.right))).length
  back : redraw.cursorBack.take redraw.cursorBackLen = cursorBackText w.right.length
  backLen : redraw.cursorBackLen ≤ redraw.cursorBack.length
  emitted : redraw.emitted = emitted

theorem new_run (h : isCharBoundary line cursor = true) :
    ∃ (w : Window line cursor) (redraw : Redraw), (new line cursor : Outcome ε Redraw) = .ok redraw ∧
      Shows w redraw 0 := by
  obtain ⟨front, behind, hline, rfl⟩ := isCharBoundary_iff.mp h
  have hfront : getRange line ⟨0, (encoded front).length⟩ = some (String.ofList front) :=
    @getRange_parts [] front behind line hline
  obtain ⟨start, hstart⟩ : ∃ start, min (front.length - visibleScalars / 2)
      (line.toList.length - visibleScalars) = start := ⟨_, rfl⟩
  have hlength : line.toList.length = front.length + behind.length := by
    rw [hline, List.length_append]
  have hle : start ≤ front.length := by omega
  have hreach : front.length ≤ start + visibleScalars := by
    rw [visibleScalars] at hstart ⊢
    omega
  have hparts : front.take start ++ front.drop start = front := List.take_append_drop ..
  have hleft : (front.drop start).length = front.length - start := List.length_drop
  have hright := List.take_append_drop (visibleScalars - (front.drop start).length) behind
  have hshown : (front.drop start ++ behind).take visibleScalars =
      front.drop start ++ behind.take (visibleScalars - (front.drop start).length) := by
    rw [List.take_append, List.take_of_length_le (by omega)]
  generalize front.drop start = left at hparts hleft hright hshown
  generalize behind.take (visibleScalars - left.length) = right at hright hshown
  generalize behind.drop (visibleScalars - left.length) = after at hright
  have hbefore : (front.take start).length = start := List.length_take_of_le hle
  have hnarrow : (left ++ right).length ≤ visibleScalars := hshown ▸ List.length_take_le _ _
  have hsplit : line.toList = front.take start ++ ((left ++ right) ++ after) := by
    rw [hline, List.append_assoc, hright, ← List.append_assoc, hparts]
  have hplace : byteAtScalar line start = (encoded (front.take start)).length := by
    rw [byteAtScalar_eq, hline, List.take_append_of_le_length hle]
  have hend : (byteAtScalarFrom line (encoded (front.take start)).length visibleScalars : Outcome ε Nat)
      = .ok (encoded (front.take start ++ (left ++ right))).length := by
    have hrest : line.toList = front.take start ++ (left ++ behind) := by
      rw [hline, ← List.append_assoc, hparts]
    rw [byteAtScalarFrom_run hrest, hshown]
  have hwide : right.length < 100 := by
    rw [List.length_append, visibleScalars] at hnarrow
    omega
  obtain ⟨sequence, len, hback, hlen, -, htext⟩ := cursorBackSequence_run (ε := ε) hwide
  have hsub : (Unchecked.sub front.length start : Outcome ε Nat) = .ok left.length := by
    rw [Unchecked.sub_ok hle, hleft]
  have hcount : (Unchecked.sub (left ++ right).length left.length : Outcome ε Nat) = .ok right.length := by
    rw [List.length_append, Unchecked.sub_ok (Nat.le_add_right _ _), Nat.add_sub_cancel_left]
  refine ⟨⟨front.take start, left, right, after, by rw [hsplit, List.append_assoc], by rw [hparts],
    hnarrow⟩, ⟨utf8 line, _, _, sequence, len, 0⟩, ?_, ⟨rfl, rfl, rfl, htext, hlen, rfl⟩⟩
  unfold new
  have hwindow : (unwrap (getRange line ⟨(encoded (front.take start)).length,
      (encoded (front.take start ++ (left ++ right))).length⟩) : Outcome ε String) =
        .ok (String.ofList (left ++ right)) := by
    rw [getRange_parts hsplit]
    rfl
  have hunwrap : (unwrap (some (String.ofList front)) : Outcome ε String) = .ok (String.ofList front) :=
    rfl
  rw [hfront, hunwrap, ok_bind]
  dsimp only
  rw [String.toList_ofList, hstart, hplace, hend, ok_bind, hwindow, ok_bind, hsub, ok_bind,
    String.toList_ofList, hcount, ok_bind, hback, ok_bind]
  rfl

/-! ## Reading -/

theorem emit_eq {room : Nat} : ∀ {segments : List (List UInt8)} {skipped : Nat}
    {written : List UInt8},
    written.length < room → emit room segments skipped written =
      written ++ (segments.flatten.drop skipped).take (room - written.length)
  | [], skipped, written, _ => by
      rw [emit, List.flatten_nil, List.drop_nil, List.take_nil, List.append_nil]
  | segment :: segments, skipped, written, hroom => by
      rw [emit, List.flatten_cons, List.drop_append]
      split_ifs with hskip
      · rw [emit_eq hroom, List.drop_eq_nil_of_le hskip, List.nil_append]
      · have hrest : skipped - segment.length = 0 := by omega
        dsimp only
        rw [hrest, List.drop_zero, List.take_append]
        generalize segment.drop skipped = source
        have hsource : source.take (min source.length (room - written.length)) =
            source.take (room - written.length) := by
          rw [Nat.min_comm, ← List.take_take, List.take_length]
        rw [hsource]
        have hlength : (written ++ source.take (room - written.length)).length =
            written.length + min (room - written.length) source.length := by
          rw [List.length_append, List.length_take]
        split_ifs with hfull
        · have hnone : room - written.length - source.length = 0 := by omega
          rw [hnone, List.take_zero, List.append_nil]
        · have hwhole : source.length < room - written.length := by omega
          have hleft : room - (written ++ source.take (room - written.length)).length =
              room - written.length - source.length := by omega
          rw [emit_eq (by omega), hleft, List.drop_zero, List.append_assoc]

variable {w : Window line cursor} {redraw : Redraw} {emitted : Nat}

theorem read_run (h : Shows w redraw emitted) (room : Nat) : ∃ redraw',
    (redraw.read room : Outcome ε _) = .ok ((w.frame.drop emitted).take room, redraw') ∧
      Shows w redraw' (emitted + ((w.frame.drop emitted).take room).length) := by
  unfold read
  split_ifs with hroom hpanic
  · subst hroom
    exact ⟨redraw, rfl, h⟩
  · rw [h.visibleEnd, h.visibleStart, encoded_append, List.length_append] at hpanic
    omega
  · have hsize : redraw.visibleEnd - redraw.visibleStart = (encoded (w.left ++ w.right)).length := by
      rw [h.visibleEnd, h.visibleStart, encoded_append w.before, List.length_append,
        Nat.add_sub_cancel_left]
    have hline : redraw.line = encoded w.before ++ (encoded (w.left ++ w.right) ++ encoded w.after) := by
      rw [h.line, utf8_eq_encoded, w.line_eq, ← List.append_assoc w.left, encoded_append, encoded_append]
    have hvisible : (sliceAt redraw.line redraw.visibleStart (redraw.visibleEnd - redraw.visibleStart) :
        Outcome ε _) = .ok (encoded (w.left ++ w.right)) := by
      rw [hsize, h.visibleStart, hline, sliceAt_ok, List.drop_left, List.take_left]
      rw [List.length_append, List.length_append]
      omega
    have hback : (sliceAt redraw.cursorBack 0 redraw.cursorBackLen : Outcome ε _) =
        .ok (cursorBackText w.right.length) := by
      rw [sliceAt_ok (by rw [Nat.zero_add]; exact h.backLen), List.drop_zero, h.back]
    have hflatten : [promptAndErase, encoded (w.left ++ w.right), cursorBackText w.right.length].flatten =
        w.frame := by
      rw [List.flatten_cons, List.flatten_cons, List.flatten_singleton]
      rfl
    have hemit := @emit_eq room [promptAndErase, encoded (w.left ++ w.right), cursorBackText w.right.length]
      emitted [] (Nat.pos_of_ne_zero hroom)
    rw [hflatten, List.nil_append, List.length_nil, Nat.sub_zero] at hemit
    rw [hvisible, ok_bind, hback, ok_bind, h.emitted, hemit]
    exact ⟨_, rfl, h.line, h.visibleStart, h.visibleEnd, h.back, h.backLen, rfl⟩

theorem drop_length_take {α : Type} (l : List α) (n : Nat) : l.drop
    (l.take n).length = l.drop n := by
  rw [List.length_take]
  rcases Nat.le_total n l.length with h | h
  · rw [Nat.min_eq_left h]
  · rw [Nat.min_eq_right h, List.drop_length, List.drop_eq_nil_of_le h]

theorem reads_run : ∀ {rooms : List Nat} {redraw : Redraw} {emitted : Nat}, Shows w redraw emitted →
    ∃ redraw', (redraw.reads rooms : Outcome ε _) = .ok ((w.frame.drop emitted).take rooms.sum, redraw') ∧
      Shows w redraw' (emitted + ((w.frame.drop emitted).take rooms.sum).length)
  | [], redraw, emitted, h => ⟨redraw, rfl, h⟩
  | room :: rooms, redraw, emitted, h => by
      obtain ⟨redraw', hread, hshows⟩ := read_run (ε := ε) h room
      obtain ⟨redraw'', hreads, hlast⟩ := @reads_run rooms _ _ hshows
      have hrest : w.frame.drop (emitted + ((w.frame.drop emitted).take room).length) =
          (w.frame.drop emitted).drop room := by
        rw [← List.drop_drop, drop_length_take]
      have hwhole : (w.frame.drop emitted).take room ++ ((w.frame.drop emitted).drop room).take rooms.sum =
          (w.frame.drop emitted).take (room :: rooms).sum := by
        rw [List.sum_cons, List.take_add]
      rw [hrest] at hreads hlast
      refine ⟨redraw'', ?_, ?_⟩
      · rw [reads, hread, ok_bind, hreads, ok_bind, hwhole]
      · rwa [Nat.add_assoc, ← List.length_append, hwhole] at hlast

theorem length_encoded_le (cs : List Char) : (encoded cs).length ≤ 4 * cs.length := by
  induction cs with
  | nil => exact Nat.le_refl 0
  | cons c cs ih =>
      have hc : (String.utf8EncodeChar c).length ≤ 4 := by
        rcases Nat.lt_or_ge 0x7f c.toNat with h | h
        · obtain ⟨lead, tail, heq, -, -, hlen, -⟩ := utf8EncodeChar_multibyte h
          rw [heq, List.length_cons]
          omega
        · rw [utf8EncodeChar_ascii h]
          exact Nat.succ_le_succ (Nat.zero_le 3)
      rw [encoded_cons, List.length_append, List.length_cons]
      omega

theorem length_frame_le (w : Window line cursor) : w.frame.length ≤ 302 := by
  have hshown := length_encoded_le (w.left ++ w.right)
  have hnarrow := w.narrow
  have hback : (cursorBackText w.right.length).length ≤ 5 := by
    refine length_cursorBackText ?_
    rw [List.length_append, visibleScalars] at hnarrow
    omega
  have hprompt : promptAndErase.length = 13 := rfl
  unfold Window.frame
  rw [visibleScalars] at hnarrow
  rw [List.length_append, List.length_append, hprompt]
  omega

/-- For every line and cursor on a boundary there is a window with the cursor in it, and whatever the
buffers, what is read is the front of its frame, up to its end. -/
theorem redraw_exact (line : String) (cursor : Nat) (h : isCharBoundary line cursor = true) :
    ∃ (w : Window line cursor) (redraw : Redraw), (new line cursor : Outcome ε Redraw) = .ok redraw ∧
      w.frame.length ≤ 302 ∧
      ∀ rooms, ∃ redraw', (redraw.reads rooms : Outcome ε _) = .ok (w.frame.take rooms.sum, redraw') ∧
        ∀ room, room ≠ 0 →
          ((∃ redraw'', (redraw'.read room : Outcome ε _) = .ok ([], redraw'')) ↔ w.frame.length ≤ rooms.sum) := by
  obtain ⟨w, redraw, hnew, hshows⟩ := new_run (ε := ε) h
  refine ⟨w, redraw, hnew, length_frame_le w, fun rooms => ?_⟩
  obtain ⟨redraw', hreads, hshows'⟩ := @reads_run ε _ _ w rooms _ _ hshows
  rw [List.drop_zero] at hreads
  refine ⟨redraw', hreads, fun room hroom => ?_⟩
  obtain ⟨redraw'', hread, -⟩ := read_run (ε := ε) hshows' room
  have hlength : 0 + ((w.frame.drop 0).take rooms.sum).length = min rooms.sum w.frame.length := by
    rw [Nat.zero_add, List.drop_zero, List.length_take]
  rw [hlength] at hread
  have hnone : (w.frame.drop (min rooms.sum w.frame.length)).take room = [] ↔
      w.frame.length ≤ rooms.sum := by
    rw [List.take_eq_nil_iff, or_iff_right hroom, List.drop_eq_nil_iff]
    omega
  rw [hread, ← hnone]
  constructor
  · rintro ⟨_, heq⟩
    exact (Prod.mk.inj (Outcome.ok.inj heq)).1
  · intro heq
    rw [heq]
    exact ⟨_, rfl⟩

/-- A line of eighty scalars of one, two and three bytes. -/
def wideLine : String := String.ofList (List.replicate 36 'a' ++ List.replicate 4 'é' ++
  List.replicate 4 '€' ++ List.replicate 36 'b')

/-- Its window at the fortieth scalar: nine are cut off, thirty-six stand behind the cursor. -/
theorem redraw_exact_wide :
    ((new wideLine 44 : Outcome Unit Redraw).map
      fun r => (r.visibleStart, r.visibleEnd, r.cursorBack)) = .ok (5, 88, [27, 91, 51, 54, 68]) ∧
    ∃ (w : Window wideLine 44) (redraw : Redraw),
      (new wideLine 44 : Outcome Unit Redraw) = .ok redraw ∧ w.frame.length ≤ 302 ∧
        ∀ rooms, ∃ redraw',
          (redraw.reads rooms : Outcome Unit _) = .ok (w.frame.take rooms.sum, redraw') ∧
            ∀ room, room ≠ 0 → ((∃ redraw'', (redraw'.read room : Outcome Unit _) =
              .ok ([], redraw'')) ↔ w.frame.length ≤ rooms.sum) :=
  ⟨by decide +kernel, redraw_exact wideLine 44 (by decide +kernel)⟩

/-- Nothing is cleared behind the window: the line is erased in front of the prompt. -/
theorem redraw_clears_first : ¬ ∃ (w : Window "" 0) (redraw redraw' : Redraw) (clear : List UInt8),
    clear ≠ [] ∧ (new "" 0 : Outcome Unit Redraw) = .ok redraw ∧
      (redraw.reads [302] : Outcome Unit _) = .ok (promptAndErase ++
        (encoded (w.left ++ w.right) ++ (clear ++ cursorBackText w.right.length)), redraw') := by
  rintro ⟨w, redraw, redraw', clear, hclear, hnew, hreads⟩
  have hrun : (new "" 0 : Outcome Unit Redraw) = .ok ⟨[], 0, 0, List.replicate 5 0, 0, 0⟩ := by decide
  obtain rfl := Outcome.ok.inj (hrun.symm.trans hnew)
  have hframe : (reads ⟨[], 0, 0, List.replicate 5 0, 0, 0⟩ [302] : Outcome Unit _) =
      .ok (promptAndErase, ⟨[], 0, 0, List.replicate 5 0, 0, 13⟩) := by decide
  have hbytes := (Prod.mk.inj (Outcome.ok.inj (hframe.symm.trans hreads))).1
  have hlength := congrArg List.length hbytes
  have hpos := List.length_pos_of_ne_nil hclear
  rw [List.length_append, List.length_append, List.length_append] at hlength
  omega

end Redraw

end Wyrmroot.Shell
