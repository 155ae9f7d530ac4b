import Wyrmroot.Shell.History
import Wyrmroot.Shell.Input
import Wyrmroot.Shell.Redraw

/-!
# The line editor

`wyrmroot-wyrmsh-core/src/editor.rs`: the line and the draft that is put aside while
the history is looked at are arrays of bytes, each with a length and a cursor that
count bytes. What an index or a range of the source does not fit, and a cursor within
a character, is a panic here.

`ReferenceEditor` is the editor that `tests/e2_properties.rs` compares it with: lines
are lists of characters, and the cursor counts these.
-/

namespace Wyrmroot.Shell

open Outcome

variable {ε : Type}

inductive EditError where
  | input (error : InputError)
  | lineTooLong
  | unsupportedCharacter
deriving DecidableEq

inductive EditOutcome where
  | unchanged
  | changed
  | submitted
  | cancelled
  | eof
  | rejected (error : EditError)
  | busy
deriving DecidableEq

/-- `array.copy_within(first..last, dest)`. -/
def copyWithin (array : List UInt8) (first last dest : Nat) : Outcome ε (List UInt8) :=
  if first ≤ last ∧ last ≤ array.length ∧ dest + (last - first) ≤ array.length then
    .ok (splice array dest ((array.take last).drop first))
  else .panic

/-- `array[offset..offset + bytes.len()].copy_from_slice(bytes)`. -/
def copyInto (array : List UInt8) (offset : Nat) (bytes : List UInt8) : Outcome ε (List UInt8) :=
  if offset + bytes.length ≤ array.length then .ok (splice array offset bytes) else .panic

structure Editor where
  line : List UInt8
  len : Nat
  cursor : Nat
  history : History
  draft : List UInt8
  draftLen : Nat
  draftCursor : Nat
  browsing : Option Nat
  submissionPending : Bool

namespace Editor

/-- What is made of an event. -/
abbrev Edited := EditOutcome × Editor

def new : Editor where
  line := .replicate maxLineBytes 0
  len := 0
  cursor := 0
  history := .new
  draft := .replicate maxLineBytes 0
  draftLen := 0
  draftCursor := 0
  browsing := none
  submissionPending := false

/-- `line()`. -/
def lineText (self : Editor) : Outcome ε String := do
  let bytes ← sliceAt self.line 0 self.len
  pure ((fromUtf8 bytes).getD "")

def redraw (self : Editor) : Outcome ε Redraw := do
  let line ← self.lineText
  Redraw.new line self.cursor

def insert (self : Editor) (ch : Char) : Outcome ε Edited :=
  if !isPrintableScalar ch then .ok (.rejected .unsupportedCharacter, self)
  else do
    let bytes := String.utf8EncodeChar ch
    let room ← Unchecked.sub maxLineBytes self.len
    if room < bytes.length then pure (.rejected .lineTooLong, self)
    else do
      let line ← copyWithin self.line self.cursor self.len (self.cursor + bytes.length)
      let line ← copyInto line self.cursor bytes
      pure (.changed, { self with
        line, len := self.len + bytes.length, cursor := self.cursor + bytes.length })

/-- `line().get(..cursor).expect(..).chars().next_back()`. -/
def charBefore (self : Editor) : Outcome ε (Option Char) := do
  let line ← self.lineText
  let front ← unwrap (getRange line ⟨0, self.cursor⟩)
  pure front.toList.getLast?

/-- `line().get(cursor..).expect(..).chars().next()`. -/
def charAfter (self : Editor) : Outcome ε (Option Char) := do
  let line ← self.lineText
  let behind ← unwrap (getRange line ⟨self.cursor, (utf8 line).length⟩)
  pure behind.toList.head?

def left (self : Editor) : Outcome ε Edited := do
  match ← self.charBefore with
  | none => pure (.unchanged, self)
  | some ch => do
      let cursor ← Unchecked.sub self.cursor (String.utf8EncodeChar ch).length
      pure (.changed, { self with cursor })

def right (self : Editor) : Outcome ε Edited := do
  match ← self.charAfter with
  | none => pure (.unchanged, self)
  | some ch =>
      pure (.changed, { self with cursor := self.cursor + (String.utf8EncodeChar ch).length })

def setCursor (self : Editor) (cursor : Nat) : Outcome ε Edited :=
  if self.cursor = cursor then .ok (.unchanged, self) else .ok (.changed, { self with cursor })

def delete (self : Editor) : Outcome ε Edited := do
  match ← self.charAfter with
  | none => pure (.unchanged, self)
  | some ch => do
      let stop := self.cursor + (String.utf8EncodeChar ch).length
      let line ← copyWithin self.line stop self.len self.cursor
      let len ← Unchecked.sub self.len (String.utf8EncodeChar ch).length
      pure (.changed, { self with line, len })

def backspace (self : Editor) : Outcome ε Edited := do
  match ← self.charBefore with
  | none => pure (.unchanged, self)
  | some ch => do
      let start ← Unchecked.sub self.cursor (String.utf8EncodeChar ch).length
      let line ← copyWithin self.line self.cursor self.len start
      let len ← Unchecked.sub self.len (String.utf8EncodeChar ch).length
      pure (.changed, { self with line, len, cursor := start })

/-- The entry of this age becomes the line. -/
def browse (self : Editor) (age : Nat) : Outcome ε Edited := do
  let newest ← Unchecked.sub self.history.len 1
  let index ← Unchecked.sub newest age
  let copied ← self.history.copyEntry index self.line
  pure (.changed, { self with
    browsing := some age, line := copied.2, len := copied.1, cursor := copied.1 })

def saveDraft (self : Editor) : Outcome ε Editor := do
  let bytes ← sliceAt self.line 0 self.len
  let draft ← copyInto self.draft 0 bytes
  pure { self with draft, draftLen := self.len, draftCursor := self.cursor }

def restoreDraft (self : Editor) : Outcome ε Edited := do
  let bytes ← sliceAt self.draft 0 self.draftLen
  let line ← copyInto self.line 0 bytes
  pure (.changed, { self with
    line, len := self.draftLen, cursor := self.draftCursor, browsing := none })

def up (self : Editor) : Outcome ε Edited :=
  if self.history.len = 0 then .ok (.unchanged, self)
  else
    match self.browsing with
    | none => do
        let saved ← self.saveDraft
        saved.browse 0
    | some age =>
        if age + 1 < self.history.len then self.browse (age + 1) else .ok (.unchanged, self)

def down (self : Editor) : Outcome ε Edited :=
  match self.browsing with
  | none => .ok (.unchanged, self)
  | some age => if age ≠ 0 then self.browse (age - 1) else self.restoreDraft

def clearDraft (self : Editor) : Editor :=
  { self with len := 0, cursor := 0, draftLen := 0, draftCursor := 0, browsing := none }

def apply (self : Editor) (event : InputEvent) : Outcome ε Edited :=
  if self.submissionPending then .ok (.busy, self)
  else
    match event with
    | .none => .ok (.unchanged, self)
    | .insert ch => self.insert ch
    | .left => self.left
    | .right => self.right
    | .home => self.setCursor 0
    | .end => self.setCursor self.len
    | .delete => self.delete
    | .backspace => self.backspace
    | .up => self.up
    | .down => self.down
    | .submit => .ok (.submitted, { self with submissionPending := true })
    | .cancel => .ok (.cancelled, self.clearDraft)
    | .eof => .ok (if self.len = 0 then .eof else .unchanged, self)
    | .rejected error => .ok (.rejected (.input error), self)

def acceptSubmission (self : Editor) : Outcome ε Editor :=
  if !self.submissionPending then .ok self
  else do
    let line ← sliceAt self.line 0 self.len
    let history ← self.history.push line
    pure { self with history, submissionPending := false }.clearDraft

end Editor

/-! ## The reference -/

structure ReferenceEditor where
  line : List Char
  cursor : Nat
  history : List (List Char)
  draft : List Char
  draftCursor : Nat
  browsing : Option Nat
  submissionPending : Bool
deriving DecidableEq

namespace ReferenceEditor

abbrev Edited := EditOutcome × ReferenceEditor

def new : ReferenceEditor := ⟨[], 0, [], [], 0, none, false⟩

def insert (self : ReferenceEditor) (ch : Char) : Edited :=
  if !isPrintableScalar ch then (.rejected .unsupportedCharacter, self)
  else if maxLineBytes < (encoded (ch :: self.line)).length then (.rejected .lineTooLong, self)
  else (.changed, { self with
    line := self.line.insertIdx self.cursor ch, cursor := self.cursor + 1 })

def moveTo (self : ReferenceEditor) (cursor : Nat) : Edited :=
  if self.cursor = cursor then (.unchanged, self) else (.changed, { self with cursor })

def delete (self : ReferenceEditor) : Edited :=
  if self.cursor = self.line.length then (.unchanged, self)
  else (.changed, { self with line := self.line.eraseIdx self.cursor })

def backspace (self : ReferenceEditor) : Edited :=
  if self.cursor = 0 then (.unchanged, self)
  else (.changed, { self with
    line := self.line.eraseIdx (self.cursor - 1), cursor := self.cursor - 1 })

/-- The line of this age, counted from the newest. -/
def browse (self : ReferenceEditor) (age : Nat) : Edited :=
  let line := self.history.reverse.getD age []
  (.changed, { self with browsing := some age, line, cursor := line.length })

def up (self : ReferenceEditor) : Edited :=
  if self.history = [] then (.unchanged, self)
  else
    match self.browsing with
    | none => { self with draft := self.line, draftCursor := self.cursor }.browse 0
    | some age =>
        if age + 1 < self.history.length then self.browse (age + 1) else (.unchanged, self)

def down (self : ReferenceEditor) : Edited :=
  match self.browsing with
  | none => (.unchanged, self)
  | some age =>
      if age ≠ 0 then self.browse (age - 1)
      else (.changed, { self with line := self.draft, cursor := self.draftCursor, browsing := none })

def clearDraft (self : ReferenceEditor) : ReferenceEditor :=
  { self with line := [], cursor := 0, draft := [], draftCursor := 0, browsing := none }

def apply (self : ReferenceEditor) (event : InputEvent) : Edited :=
  if self.submissionPending then (.busy, self)
  else
    match event with
    | .none => (.unchanged, self)
    | .insert ch => self.insert ch
    | .left => self.moveTo (self.cursor - 1)
    | .right => self.moveTo (min (self.cursor + 1) self.line.length)
    | .home => self.moveTo 0
    | .end => self.moveTo self.line.length
    | .delete => self.delete
    | .backspace => self.backspace
    | .up => self.up
    | .down => self.down
    | .submit => (.submitted, { self with submissionPending := true })
    | .cancel => (.cancelled, self.clearDraft)
    | .eof => (if self.line = [] then .eof else .unchanged, self)
    | .rejected error => (.rejected (.input error), self)

/-- The oldest lines go until the rest is within the bounds of the history. -/
def forget : List (List Char) → List (List Char)
  | [] => []
  | oldest :: lines =>
      if (oldest :: lines).length ≤ maxHistoryEntries ∧
          (encoded (oldest :: lines).flatten).length ≤ historyArenaBytes then oldest :: lines
      else forget lines

/-- An empty line is not kept, nor one that repeats the last. -/
def keep (history : List (List Char)) (line : List Char) : List (List Char) :=
  if line = [] ∨ history.getLast? = some line then history else forget (history ++ [line])

def acceptSubmission (self : ReferenceEditor) : ReferenceEditor :=
  if !self.submissionPending then self
  else { self with
    history := keep self.history self.line, submissionPending := false }.clearDraft

end ReferenceEditor

/-! ## Sessions -/

inductive Action where
  | event (event : InputEvent)
  | acceptSubmission
deriving DecidableEq

/-- The outcomes of the events, and the editor behind the last action. -/
def Editor.run (self : Editor) : List Action → Outcome ε (List EditOutcome × Editor)
  | [] => .ok ([], self)
  | .event event :: actions => do
      let applied ← self.apply event
      let rest ← run applied.2 actions
      pure (applied.1 :: rest.1, rest.2)
  | .acceptSubmission :: actions => do
      let accepted ← self.acceptSubmission
      run accepted actions

def ReferenceEditor.run (self : ReferenceEditor) : List Action → List EditOutcome × ReferenceEditor
  | [] => ([], self)
  | .event event :: actions =>
      let rest := run (self.apply event).2 actions
      ((self.apply event).1 :: rest.1, rest.2)
  | .acceptSubmission :: actions => run self.acceptSubmission actions

end Wyrmroot.Shell
