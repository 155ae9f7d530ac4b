import Wyrmroot.Lib.Text

/-!
# Terminal input

`input.rs` of `wyrmroot-wyrmsh-core`: the decoder takes one byte at a time
and answers with at most one event. It assembles UTF-8 and escape sequences
in two small arrays; an index past their end, which the source would panic
on, is a panic here.
-/

namespace Wyrmroot.Shell

/-- `is_format_or_line_separator`, on the scalar's value: general categories
Cf, Zl and Zp. -/
def isFormatOrLineSeparator (ch : Char) : Bool :=
  [(0xad, 0xad), (0x600, 0x605), (0x61c, 0x61c), (0x6dd, 0x6dd), (0x70f, 0x70f), (0x890, 0x891),
    (0x8e2, 0x8e2), (0x180e, 0x180e), (0x200b, 0x200f), (0x202a, 0x202e), (0x2060, 0x2064),
    (0x2066, 0x206f), (0xfeff, 0xfeff), (0xfff9, 0xfffb), (0x110bd, 0x110bd), (0x110cd, 0x110cd),
    (0x13430, 0x1343f), (0x1bca0, 0x1bca3), (0x1d173, 0x1d17a), (0xe0001, 0xe0001),
    (0xe0020, 0xe007f), (0x2028, 0x2028), (0x2029, 0x2029)].any fun (first, last) =>
      first ≤ ch.toNat && ch.toNat ≤ last

/-- `char::is_control`: general category Cc. -/
def isControl (ch : Char) : Bool := ch.toNat < 0x20 || 0x7f ≤ ch.toNat && ch.toNat ≤ 0x9f

def isPrintableScalar (ch : Char) : Bool := !isControl ch && !isFormatOrLineSeparator ch

inductive InputError where
  | invalidUtf8
  | incompleteUtf8
  | incompleteEscape
  | unsupportedControl
  | unsupportedEscape
  | escapeTooLong
deriving DecidableEq

inductive InputEvent where
  | none
  | insert (ch : Char)
  | left
  | right
  | home
  | end
  | delete
  | backspace
  | up
  | down
  | submit
  | cancel
  | eof
  | rejected (error : InputError)
deriving DecidableEq

inductive Escape where
  | none
  | start
  | intermediate
  | csi
  | discardStart
  | discardIntermediate
  | discardCsi
  | discardNestedCsi (pasteMatched : UInt8)
  | discardSs3
  | string (osc escaped : Bool)
  | paste (matched : Nat)
deriving DecidableEq

structure InputDecoder where
  utf8 : Vector UInt8 4
  utf8Len : Nat
  utf8Need : Nat
  escapeBytes : Vector UInt8 12
  escapeLen : Nat
  escape : Escape
  suppressLf : Bool
deriving DecidableEq

/-- How a byte is taken: no error is returned, and a panic is not excluded. -/
abbrev Step := Outcome Empty (InputEvent × InputDecoder)

/-- `(first..=last).contains(&byte)`. -/
def within (first last byte : UInt8) : Bool := first ≤ byte && byte ≤ last

/-- `array[index] = byte`. -/
def storeByte {n : Nat} (array : Vector UInt8 n) (index : Nat) (byte : UInt8) :
    Outcome Empty (Vector UInt8 n) :=
  if h : index < n then .ok (array.set index byte h) else .panic

/-- `&array[first..last]`. -/
def sliceOf {n : Nat} (array : Vector UInt8 n) (first last : Nat) : Outcome Empty (List UInt8) :=
  if first ≤ last ∧ last ≤ n then .ok ((array.toList.take last).drop first) else .panic

/-- `b"\\x1b[201~"`. -/
def pasteEnd : List UInt8 := [27, 91, 50, 48, 49, 126]

/-- `b"200~"`. -/
def pasteStart : List UInt8 := [50, 48, 48, 126]

namespace InputDecoder

def new : InputDecoder :=
  { utf8 := Vector.replicate 4 0, utf8Len := 0, utf8Need := 0,
    escapeBytes := Vector.replicate 12 0, escapeLen := 0, escape := .none, suppressLf := false }

def isPending (self : InputDecoder) : Bool := self.utf8Len != 0 || self.escape != .none

def reset (self : InputDecoder) : InputDecoder :=
  { self with utf8Len := 0, utf8Need := 0, escapeLen := 0, escape := .none, suppressLf := false }

/-- `finish`. -/
def finish (self : InputDecoder) : InputEvent × InputDecoder :=
  if self.utf8Len ≠ 0 then (.rejected .incompleteUtf8, self.reset)
  else if self.escape ≠ .none then (.rejected .incompleteEscape, self.reset)
  else (.none, self.reset)

def beginEscape (self : InputDecoder) : InputDecoder :=
  { self with escape := .start, escapeBytes := self.escapeBytes.set 0 27, escapeLen := 1 }

def endEscape (self : InputDecoder) : InputDecoder :=
  { self with escape := .none, escapeLen := 0 }

/-- `b']' | b'P' | b'X' | b'^' | b'_'`: what opens a control string. -/
def opensString (byte : UInt8) : Bool :=
  byte == 93 || byte == 80 || byte == 88 || byte == 94 || byte == 95

/-! ## Escapes that are discarded -/

def discardStart (self : InputDecoder) (byte : UInt8) : InputDecoder :=
  if byte = 27 then self
  else if byte = 91 then { self with escape := .discardNestedCsi 0 }
  else if byte = 79 then { self with escape := .discardSs3 }
  else if opensString byte then { self with escape := .string (byte == 93) false }
  else if within 0x20 0x2f byte then { self with escape := .discardIntermediate }
  else if within 0x30 0x7e byte then self.endEscape
  else self

def discardNestedCsi (self : InputDecoder) (pasteMatched byte : UInt8) : InputDecoder :=
  if byte = 27 then { self with escape := .discardStart }
  else
    let next : UInt8 :=
      if pasteStart[pasteMatched.toNat]? = some byte then pasteMatched + 1 else 255
    if within 0x40 0x7e byte then
      if next.toNat = pasteStart.length then { self.endEscape with escape := .paste 0 }
      else self.endEscape
    else { self with escape := .discardNestedCsi next }

def discardIntermediate (self : InputDecoder) (byte : UInt8) : InputDecoder :=
  if byte = 27 then { self with escape := .discardStart }
  else if within 0x30 0x7e byte then self.endEscape
  else self

/-- After a CSI or an SS3. -/
def discardFinal (self : InputDecoder) (byte : UInt8) : InputDecoder :=
  if byte = 27 then { self with escape := .discardStart }
  else if within 0x40 0x7e byte then self.endEscape
  else self

/-! ## Escapes that are collected -/

/-- No room for another byte. -/
def escapeTooLong (self : InputDecoder) (byte : UInt8) : InputEvent × InputDecoder :=
  if self.escape = .intermediate then
    if within 0x30 0x7e byte then
      (.rejected .escapeTooLong, { self with escape := .discardIntermediate }.endEscape)
    else (.rejected .escapeTooLong, { self with escape := .discardIntermediate, escapeLen := 0 })
  else if within 0x40 0x7e byte then
    (.rejected .escapeTooLong, { self with escape := .discardCsi }.endEscape)
  else (.rejected .escapeTooLong, { self with escape := .discardCsi, escapeLen := 0 })

def startByte (self : InputDecoder) (byte : UInt8) : InputEvent × InputDecoder :=
  if byte = 91 then (.none, { self with escape := .csi })
  else if byte = 79 then
    (.rejected .unsupportedEscape, { self with escape := .discardSs3, escapeLen := 0 })
  else if opensString byte then
    (.rejected .unsupportedEscape,
      { self with escape := .string (byte == 93) false, escapeLen := 0 })
  else if within 0x20 0x2f byte then (.none, { self with escape := .intermediate })
  else (.rejected .unsupportedEscape, self.endEscape)

def intermediateByte (self : InputDecoder) (byte : UInt8) : InputEvent × InputDecoder :=
  if within 0x20 0x2f byte then (.none, self)
  else if within 0x30 0x7e byte then (.rejected .unsupportedEscape, self.endEscape)
  else
    (.rejected .unsupportedEscape, { self with escape := .discardIntermediate, escapeLen := 0 })

/-- The events of the CSI sequences that are supported. -/
def csiEvent (sequence : List UInt8) : InputEvent :=
  if sequence = [65] then .up
  else if sequence = [66] then .down
  else if sequence = [67] then .right
  else if sequence = [68] then .left
  else if sequence = [72] ∨ sequence = [49, 126] then .home
  else if sequence = [70] ∨ sequence = [52, 126] then .end
  else if sequence = [51, 126] then .delete
  else .rejected .unsupportedEscape

def csiByte (self : InputDecoder) (byte : UInt8) : Step :=
  if within 0x40 0x7e byte then do
    let sequence ← sliceOf self.escapeBytes 2 self.escapeLen
    if sequence = pasteStart then pure (csiEvent sequence, { self.endEscape with escape := .paste 0 })
    else pure (csiEvent sequence, self.endEscape)
  else if within 0x20 0x3f byte then pure (.none, self)
  else pure (.rejected .unsupportedEscape, { self with escape := .discardCsi, escapeLen := 0 })

/-- The escapes whose bytes are kept. -/
def collectByte (self : InputDecoder) (byte : UInt8) : Step :=
  if byte = 27 then .ok (.rejected .incompleteEscape, self.beginEscape)
  else if self.escapeLen = 12 then .ok (self.escapeTooLong byte)
  else do
    let escapeBytes ← storeByte self.escapeBytes self.escapeLen byte
    let self := { self with escapeBytes, escapeLen := self.escapeLen + 1 }
    match self.escape with
    | .start => pure (self.startByte byte)
    | .intermediate => pure (self.intermediateByte byte)
    | .csi => self.csiByte byte
    | _ => pure (.none, self)

def escapeByte (self : InputDecoder) (byte : UInt8) : Step :=
  match self.escape with
  | .discardStart => .ok (.none, self.discardStart byte)
  | .discardNestedCsi pasteMatched => .ok (.none, self.discardNestedCsi pasteMatched byte)
  | .discardIntermediate => .ok (.none, self.discardIntermediate byte)
  | .discardCsi => .ok (.none, self.discardFinal byte)
  | .discardSs3 => .ok (.none, self.discardFinal byte)
  | _ => self.collectByte byte

/-! ## Text -/

def stringByte (self : InputDecoder) (osc escaped : Bool) (byte : UInt8) : InputDecoder :=
  if osc && byte == 7 || escaped && byte == 92 then self.endEscape
  else { self with escape := .string osc (byte == 27) }

def pasteByte (self : InputDecoder) (matched : Nat) (byte : UInt8) : Step :=
  match pasteEnd[matched]? with
  | none => .panic
  | some expected =>
      let next := if byte = expected then matched + 1 else if byte = 27 then 1 else 0
      if next = pasteEnd.length then .ok (.none, self.endEscape)
      else .ok (.none, { self with escape := .paste next })

/-- `from_utf8(..).ok().and_then(|text| text.chars().next())`. -/
def firstScalar (bytes : List UInt8) : Option Char := (fromUtf8 bytes).bind (·.toList.head?)

/-- A byte while a UTF-8 sequence is pending. -/
def continuationByte (self : InputDecoder) (byte : UInt8) : Step :=
  if within 0x80 0xbf byte then do
    let utf8 ← storeByte self.utf8 self.utf8Len byte
    let self := { self with utf8, utf8Len := self.utf8Len + 1 }
    if self.utf8Len ≠ self.utf8Need then pure (.none, self)
    else do
      let bytes ← sliceOf self.utf8 0 self.utf8Len
      let self := { self with utf8Len := 0, utf8Need := 0 }
      match firstScalar bytes with
      | some ch =>
          if isPrintableScalar ch then pure (.insert ch, self)
          else pure (.rejected .unsupportedControl, self)
      | none => pure (.rejected .invalidUtf8, self)
  else if byte = 27 then
    .ok (.rejected .invalidUtf8, { self with utf8Len := 0, utf8Need := 0 }.beginEscape)
  else .ok (.rejected .invalidUtf8, { self with utf8Len := 0, utf8Need := 0 })

def utf8NeedOf (byte : UInt8) : Nat := if byte < 0xe0 then 2 else if byte < 0xf0 then 3 else 4

/-- A byte while nothing is pending. -/
def groundByte (self : InputDecoder) (byte : UInt8) : InputEvent × InputDecoder :=
  if byte = 27 then (.none, self.beginEscape)
  else if byte = 8 ∨ byte = 127 then (.backspace, self)
  else if byte = 4 then (.eof, self)
  else if byte = 13 ∨ byte = 10 then (.submit, self)
  else if byte = 9 then (.insert ' ', self)
  else if within 0x20 0x7e byte then (.insert (Char.ofNat byte.toNat), self)
  else if within 0xc2 0xf4 byte then
    (.none, { self with utf8 := self.utf8.set 0 byte, utf8Len := 1, utf8Need := utf8NeedOf byte })
  else if within 0 0x1f byte then (.rejected .unsupportedControl, self)
  else (.rejected .invalidUtf8, self)

def feed (self : InputDecoder) (byte : UInt8) : Step :=
  if byte = 3 then .ok (.cancel, self.reset)
  else if self.suppressLf && byte == 10 then .ok (.none, { self with suppressLf := false })
  else
    let self := { self with suppressLf := byte == 13 }
    match self.escape with
    | .string osc escaped => .ok (.none, self.stringByte osc escaped byte)
    | .paste matched => self.pasteByte matched byte
    | _ =>
        if (byte = 13 ∨ byte = 10) ∧ self.isPending = true then
          .ok (.rejected (if self.utf8Len ≠ 0 then .incompleteUtf8 else .incompleteEscape),
            { self with utf8Len := 0, utf8Need := 0 }.endEscape)
        else if self.escape ≠ .none then self.escapeByte byte
        else if self.utf8Len ≠ 0 then self.continuationByte byte
        else .ok (self.groundByte byte)

/-- The bytes of one fragment. -/
def feedAll (self : InputDecoder) : List UInt8 → Outcome Empty (List InputEvent × InputDecoder)
  | [] => .ok ([], self)
  | byte :: rest => do
      let (event, next) ← self.feed byte
      let (events, last) ← next.feedAll rest
      pure (event :: events, last)

end InputDecoder

end Wyrmroot.Shell
