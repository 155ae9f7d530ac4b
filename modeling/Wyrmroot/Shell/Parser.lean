import Mathlib.Algebra.Order.Ring.Nat
import Wyrmroot.Lib.Yields
import Wyrmroot.Bootfs.Archive
import Wyrmroot.Wrlj.Proto

/-!
# Paths the shell admits

`validate_path` of `wyrmroot-wyrmsh-core`. The shell, the launch protocol
and the boot archive each scan a path in their own way. All three amount to
a list of plain components with some bounds, and the shell's bounds are the
other two's together (`validatePath_agrees`).
-/

namespace Wyrmroot.Shell

open Outcome
open Loader (checkedAdd)
open Startup (checkedMul)
open Bootfs (ArchivePath Plain slash dot backslash)

def maxPathBytes : Nat := 256

inductive CommandName where
  | help
  | echo
  | clear
  | exit
  | shutdown
  | services
  | tasks
  | status
  | run
  | spawn
  | wait
  | terminate
deriving DecidableEq

inductive JobIdError where
  | noncanonical
  | overflow
deriving DecidableEq

inductive UsageError where
  | unknownCommand
  | argumentCount (command : CommandName) (actual : Nat)
  | invalidPath
  | invalidJobId (error : JobIdError)
deriving DecidableEq

/-- The components are cut from the bytes, as `/` is ASCII. -/
def validatePath (path : String) : Outcome UsageError Unit :=
  let bytes := utf8 path
  rejectIf (bytes.isEmpty || maxPathBytes < bytes.length || !(bytes.all fun b => b.toNat < 128)
    || bytes.contains 0 || bytes.contains backslash || path == "TRAILER!!!"
    || (bytes.splitOn slash).any fun part =>
      part.isEmpty || part == [dot] || part == [dot, dot]) .invalidPath

theorem plain_iff {part : List UInt8} :
    (part.isEmpty || part == [dot] || part == [dot, dot]) = false ↔ Plain part := by
  simp [Plain, and_assoc]

theorem trailer_iff {path : String} :
    utf8 path = Bootfs.trailerName ↔ path = "TRAILER!!!" := by
  have htrailer : utf8 "TRAILER!!!" = Bootfs.trailerName := by decide +kernel
  rw [← htrailer]
  exact ⟨utf8_inj, congrArg utf8⟩

theorem plain_any_iff {bytes : List UInt8} :
    ((bytes.splitOn slash).any fun part =>
      part.isEmpty || part == [dot] || part == [dot, dot]) = false ↔
      ∀ part ∈ bytes.splitOn slash, Plain part := by
  rw [List.any_eq_false]
  refine forall₂_congr fun part _ => ?_
  rw [Bool.not_eq_true]
  exact plain_iff

theorem ascii_iff {bytes : List UInt8} :
    (!(bytes.all fun b => b.toNat < 128)) = false ↔ ∀ b ∈ bytes, b.toNat < 128 := by
  rw [Bool.not_eq_false', List.all_eq_true]
  exact forall₂_congr fun b _ => decide_eq_true_iff

theorem contains_iff {bytes : List UInt8} {b : UInt8} : bytes.contains b = false ↔ b ∉ bytes := by
  rw [← Bool.not_eq_true, List.contains_iff_mem]

theorem validatePath_eq_ok {path : String} : validatePath path = .ok () ↔
    (utf8 path).length ≤ maxPathBytes ∧ (∀ b ∈ utf8 path, b.toNat < 128) ∧ 0 ∉ utf8 path ∧
      backslash ∉ utf8 path ∧ utf8 path ≠ Bootfs.trailerName ∧
        ∀ part ∈ (utf8 path).splitOn slash, Plain part := by
  have htrailer : (path == "TRAILER!!!") = false ↔ utf8 path ≠ Bootfs.trailerName := by
    rw [beq_eq_false_iff_ne, ne_eq, ne_eq, trailer_iff]
  rw [validatePath, rejectIf_eq_ok]
  simp only [Bool.or_eq_false_iff, plain_any_iff, ascii_iff, contains_iff, htrailer,
    decide_eq_false_iff_not, Nat.not_lt]
  constructor
  · rintro ⟨⟨⟨⟨⟨⟨-, hlen⟩, hascii⟩, h0⟩, h1⟩, hname⟩, hparts⟩
    exact ⟨hlen, hascii, h0, h1, hname, hparts⟩
  · rintro ⟨hlen, hascii, h0, h1, hname, hparts⟩
    exact ⟨⟨⟨⟨⟨⟨(Bootfs.relative_of_plain hparts).1, hlen⟩, hascii⟩, h0⟩, h1⟩, hname⟩, hparts⟩

theorem wrlj_validatePath_eq_ok {path : String} : Wrlj.validatePath path = .ok () ↔
    (utf8 path).length ≤ maxPathBytes ∧ (∀ b ∈ utf8 path, b.toNat < 128) ∧ 0 ∉ utf8 path ∧
      ∀ part ∈ (utf8 path).splitOn slash, Plain part := by
  rw [Wrlj.validatePath, bind_eq_ok]
  simp only [rejectIf_eq_ok, Bool.or_eq_false_iff, ascii_iff, contains_iff, beq_eq_false_iff_ne,
    decide_eq_false_iff_not, Nat.not_lt, exists_const]
  rw [show Wrlj.slash = slash from rfl, show Wrlj.dot = dot from rfl]
  constructor
  · rintro ⟨⟨⟨⟨⟨-, hlen⟩, hascii⟩, -⟩, h0⟩, hparts⟩
    exact ⟨hlen, hascii, h0, plain_any_iff.mp hparts⟩
  · rintro ⟨hlen, hascii, h0, hparts⟩
    obtain ⟨hempty, hrelative⟩ := Bootfs.relative_of_plain hparts
    exact ⟨⟨⟨⟨⟨hempty, hlen⟩, hascii⟩, hrelative⟩, h0⟩, plain_any_iff.mpr hparts⟩

/-- The shell admits exactly the paths that a launch can carry and that can
name an archive entry. -/
theorem validatePath_agrees (path : String) : validatePath path = .ok () ↔
    Wrlj.validatePath path = .ok () ∧ ∃ entry, ArchivePath.new (utf8 path) = .ok entry := by
  have hentry : (∃ entry, ArchivePath.new (utf8 path) = .ok entry) ↔
      Bootfs.validateArchivePath (utf8 path) = .ok () := by
    constructor
    · rintro ⟨entry, h⟩
      rw [← ArchivePath.new_eq_ok.mp h]
      exact entry.valid
    · intro h
      exact ⟨⟨utf8 path, h⟩, ArchivePath.new_eq_ok.mpr rfl⟩
  rw [hentry, validatePath_eq_ok, wrlj_validatePath_eq_ok, Bootfs.validateArchivePath_eq_ok]
  constructor
  · rintro ⟨hlen, hascii, h0, h1, hname, hparts⟩
    exact ⟨⟨hlen, hascii, h0, hparts⟩, Nat.lt_of_le_of_lt hlen (by decide), hname, h0, h1, hparts⟩
  · rintro ⟨⟨hlen, hascii, h0, hparts⟩, -, hname, -, h1, -⟩
    exact ⟨hlen, hascii, h0, h1, hname, hparts⟩

/-!
## Lines and commands

`Parser::parse` of `wyrmroot-wyrmsh-core` cuts a line into arguments, which are
ranges of one scratch string, and `Arguments::command` classifies them. The
parser's storage is fixed, so a range or a byte too many is refused.
-/

def maxLineBytes : Nat := 4096
def maxArguments : Nat := 64

inductive ParseError where
  | lineTooLong
  | invalidUtf8
  | nul
  | tooManyArguments
  | outputTooLong
  | trailingBackslash
  | unsupportedEscape (byte : UInt8)
  | unterminatedSingleQuote
  | unterminatedDoubleQuote
deriving DecidableEq

/-- The source's `end` is `stop` here. -/
structure ArgRange where
  start : Nat
  stop : Nat
deriving DecidableEq

structure Arguments where
  text : String
  ranges : List ArgRange
deriving DecidableEq

/-! ## Arguments -/

/-- `text.is_char_boundary(index)`. -/
def isCharBoundary (text : String) (index : Nat) : Bool :=
  match (utf8 text)[index]? with
  | none => index == (utf8 text).length
  | some byte => index == 0 || !(0x80 ≤ byte && byte < 0xc0)

/-- `text.get(start..stop)`. -/
def getRange (text : String) (range : ArgRange) : Option String :=
  if range.start ≤ range.stop && isCharBoundary text range.start && isCharBoundary text range.stop then
    (slice (utf8 text) range.start (range.stop - range.start)).bind fromUtf8
  else none

namespace Arguments

def len (self : Arguments) : Nat := self.ranges.length

def get (self : Arguments) (index : Nat) : Option String :=
  self.ranges[index]?.bind (getRange self.text)

def tail (self : Arguments) : Arguments := { self with ranges := self.ranges.tail }

end Arguments

/-! ## The parser -/

inductive Quote where
  | none
  | single
  | double
deriving DecidableEq

/-- The variables of the loop; `scratch` is what is written of the scratch bytes,
and `ranges` of the descriptors. -/
structure Scan where
  scratch : List UInt8
  ranges : List ArgRange
  start : Option Nat
  quote : Quote
deriving DecidableEq

abbrev Scanning (α : Type) := Outcome ParseError α

def asciiWhitespace (byte : UInt8) : Bool :=
  byte == 32 || byte == 9 || byte == 10 || byte == 13 || byte == 11 || byte == 12

namespace Scan

def put (self : Scan) (byte : UInt8) : Scanning Scan :=
  if self.scratch.length < maxLineBytes then
    .ok { self with scratch := self.scratch ++ [byte] }
  else .err .outputTooLong

/-- The end of an argument, if one is open. -/
def finish (self : Scan) : Scanning Scan :=
  match self.start with
  | none => .ok self
  | some first =>
      if self.ranges.length < maxArguments then
        .ok { self with
          ranges := self.ranges ++ [⟨first, self.scratch.length⟩], start := none }
      else .panic

/-- The start of an argument, if none is open. -/
def begin (self : Scan) : Scanning Scan :=
  match self.start with
  | some _ => .ok self
  | none =>
      if self.ranges.length = maxArguments then .err .tooManyArguments
      else .ok { self with start := some self.scratch.length }

/-- The byte opens or closes a quotation. -/
def toggles (quote : Quote) (byte : UInt8) : Option Quote :=
  match quote with
  | .none => if byte = 39 then some .single else if byte = 34 then some .double else none
  | .single => if byte = 39 then some .none else none
  | .double => if byte = 34 then some .none else none

/-- What stands behind a backslash. -/
def decode (quote : Quote) (next : UInt8) : Scanning UInt8 :=
  if quote = .double then
    if next = 92 ∨ next = 34 then .ok next
    else if next = 110 then .ok 10
    else if next = 114 then .ok 13
    else if next = 116 then .ok 9
    else .err (.unsupportedEscape next)
  else .ok next

/-- The loop over what is left of the line. -/
def run (self : Scan) : List UInt8 → Scanning Scan
  | [] => .ok self
  | byte :: rest =>
      if self.quote = .none ∧ asciiWhitespace byte = true then
        self.finish >>= fun s => s.run rest
      else self.begin >>= fun s =>
        match toggles s.quote byte with
        | some quote => ({ s with quote } : Scan).run rest
        | none =>
            if s.quote ≠ .single ∧ byte = 92 then
              match rest with
              | [] => .err .trailingBackslash
              | next :: rest =>
                  decode s.quote next >>= fun decoded => s.put decoded >>= fun s => s.run rest
            else s.put byte >>= fun s => s.run rest

end Scan

def checkQuote : Quote → Scanning Unit
  | .single => .err .unterminatedSingleQuote
  | .double => .err .unterminatedDoubleQuote
  | .none => .ok ()

/-- `Parser::parse`. -/
def parse (line : List UInt8) : Scanning Arguments := do
  rejectIf (maxLineBytes < line.length) .lineTooLong
  let _ ← okOr (fromUtf8 line) .invalidUtf8
  rejectIf (line.contains 0) .nul
  let scan ← Scan.run ⟨[], [], none, .none⟩ line
  checkQuote scan.quote
  let scan ← scan.finish
  let text ← okOr (fromUtf8 scan.scratch) .invalidUtf8
  rejectIf (scan.ranges.any fun range => (getRange text range).isNone) .invalidUtf8
  pure ⟨text, scan.ranges⟩

/-! ## Commands -/

inductive Arity where
  | exact (n : Nat)
  | atLeast (n : Nat)
deriving DecidableEq

structure CommandSpec where
  name : CommandName
  spelling : String
  arity : Arity
deriving DecidableEq

def commands : List CommandSpec := [
  ⟨.help, "help", .exact 0⟩, ⟨.echo, "echo", .atLeast 0⟩, ⟨.clear, "clear", .exact 0⟩,
  ⟨.exit, "exit", .exact 0⟩, ⟨.shutdown, "shutdown", .exact 0⟩, ⟨.services, "services", .exact 0⟩,
  ⟨.tasks, "tasks", .exact 0⟩, ⟨.status, "status", .exact 0⟩, ⟨.run, "run", .atLeast 1⟩,
  ⟨.spawn, "spawn", .atLeast 1⟩, ⟨.wait, "wait", .exact 1⟩, ⟨.terminate, "terminate", .exact 1⟩]

/-- A job's identity is a `NonZeroU64`. -/
inductive Command where
  | empty
  | help
  | echo (operands : Arguments)
  | clear
  | exit
  | shutdown
  | services
  | tasks
  | status
  | run (path : String) (argv : Arguments)
  | spawn (path : String) (argv : Arguments)
  | wait (id : Nat)
  | terminate (id : Nat)
deriving DecidableEq

abbrev Usage (α : Type) := Outcome UsageError α

def isAsciiDigit (byte : UInt8) : Bool := 48 ≤ byte && byte ≤ 57

def parseJobId (value : String) : Outcome JobIdError Nat := do
  let bytes := utf8 value
  rejectIf (!(bytes.head?.any fun byte => 49 ≤ byte && byte ≤ 57) || !bytes.all isAsciiDigit)
    .noncanonical
  let id ← bytes.foldlM (fun id byte =>
    okOr ((checkedMul id 10).bind (checkedAdd · (byte - 48).toNat)) .overflow) 0
  rejectIf (id = 0) .noncanonical
  pure id

def Arity.admits : Arity → Nat → Bool
  | .exact n, operands => operands == n
  | .atLeast n, operands => n ≤ operands

/-- The path that is to be launched. -/
def launchPath (operands : Arguments) : Usage String := do
  let path ← okOr (operands.get 0) .invalidPath
  validatePath path
  pure path

def operandJobId (operands : Arguments) : Usage Nat := do
  let value ← okOr (operands.get 0) (.invalidJobId .noncanonical)
  (parseJobId value).mapErr .invalidJobId

def Arguments.command (self : Arguments) : Usage Command :=
  match self.get 0 with
  | none => .ok .empty
  | some name => do
      let spec ← okOr (commands.find? fun spec => spec.spelling == name) .unknownCommand
      let operands := self.tail
      rejectIf (!spec.arity.admits operands.len) (.argumentCount spec.name operands.len)
      match spec.name with
      | .help => pure .help
      | .echo => pure (.echo operands)
      | .clear => pure .clear
      | .exit => pure .exit
      | .shutdown => pure .shutdown
      | .services => pure .services
      | .tasks => pure .tasks
      | .status => pure .status
      | .run => launchPath operands >>= fun path => pure (.run path operands)
      | .spawn => launchPath operands >>= fun path => pure (.spawn path operands)
      | .wait => operandJobId operands >>= fun id => pure (.wait id)
      | .terminate => operandJobId operands >>= fun id => pure (.terminate id)

/-! ## What a line yields -/

namespace Scan

def written (ranges : List ArgRange) : Nat := (ranges.map fun range => range.stop - range.start).sum

/-- The finished arguments do not share a byte, and stand before the open one. -/
structure Sound (s : Scan) : Prop where
  scratch : s.scratch.length ≤ maxLineBytes
  ranges : s.ranges.length ≤ maxArguments
  room : s.start.isSome → s.ranges.length < maxArguments
  start : ∀ first ∈ s.start, first ≤ s.scratch.length
  written : written s.ranges ≤ s.start.getD s.scratch.length

variable {s : Scan}

theorem put_yields (h : s.Sound) (byte : UInt8) :
    Yields (s.put byte) fun s' => s'.Sound := by
  unfold put
  refine .ite (fun hroom => .ok ⟨?_, h.ranges, h.room, fun first hfirst => ?_, ?_⟩) fun _ => .err _
  · rw [List.length_append]
    exact hroom
  · rw [List.length_append]
    exact Nat.le_add_right_of_le (h.start first hfirst)
  · have hwritten := h.written
    dsimp only
    cases hstart : s.start with
    | none =>
        rw [hstart] at hwritten
        rw [Option.getD_none, List.length_append]
        exact Nat.le_add_right_of_le hwritten
    | some first =>
        rw [hstart] at hwritten
        exact hwritten

theorem finish_yields (h : s.Sound) :
    Yields s.finish fun s' => s'.Sound ∧ s'.quote = s.quote ∧ s'.start = none := by
  unfold finish
  cases hstart : s.start with
  | none => exact .ok ⟨h, rfl, hstart⟩
  | some first =>
      have hroom := h.room (by rw [hstart]; rfl)
      have hfirst := h.start first hstart
      have hwritten := h.written
      rw [hstart, Option.getD_some] at hwritten
      dsimp only
      rw [if_pos hroom]
      refine .ok ⟨⟨h.scratch, ?_, by simp, by simp, ?_⟩, rfl, rfl⟩
      · rw [List.length_append, List.length_singleton]
        exact hroom
      · unfold Scan.written at hwritten ⊢
        rw [List.map_append, List.sum_append, List.map_singleton, List.sum_singleton,
          Option.getD_none]
        dsimp only
        omega

theorem begin_yields (h : s.Sound) :
    Yields s.begin fun s' => s'.Sound ∧ s'.quote = s.quote := by
  unfold begin
  cases hstart : s.start with
  | some first => exact .ok ⟨h, rfl⟩
  | none =>
      dsimp only
      refine .ite (fun _ => .err _) fun hroom => .ok ⟨⟨h.scratch, h.ranges, fun _ => ?_, ?_, ?_⟩, rfl⟩
      · exact Nat.lt_of_le_of_ne h.ranges hroom
      · rintro _ ⟨⟩
        exact Nat.le_refl _
      · have hwritten := h.written
        rw [hstart] at hwritten
        exact hwritten

theorem decode_ne_panic (quote : Quote) (next : UInt8) : decode quote next ≠ .panic := by
  unfold decode
  split_ifs
  all_goals first | exact ok_ne_panic _ | exact err_ne_panic _

theorem quoted (h : s.Sound) (quote : Quote) : ({ s with quote } : Scan).Sound :=
  ⟨h.scratch, h.ranges, h.room, h.start, h.written⟩

theorem run_yields : ∀ {line : List UInt8} {s : Scan}, s.Sound →
    Yields (s.run line) fun s' => s'.Sound
  | [], _, h => .ok h
  | byte :: rest, s, h => by
      rw [run]
      refine .ite (fun _ => (finish_yields h).bind fun s' hs' => run_yields hs'.1) fun _ => ?_
      refine (begin_yields h).bind fun s' hs' => ?_
      cases toggles s'.quote byte with
      | some quote => exact run_yields (quoted hs'.1 quote)
      | none =>
          dsimp only
          refine .ite (fun _ => ?_) fun _ => ?_
          · cases rest with
            | nil => exact .err _
            | cons next rest =>
                refine (Yields.self (decode_ne_panic _ _)).bind fun decoded _ => ?_
                exact (put_yields hs'.1 decoded).bind fun s'' hs'' => run_yields hs''
          · exact (put_yields hs'.1 byte).bind fun s'' hs'' => run_yields hs''

end Scan

/-- The arguments are there, and have room in the parser's storage. -/
structure Arguments.Sound (args : Arguments) : Prop where
  count : args.ranges.length ≤ maxArguments
  bytes : Scan.written args.ranges ≤ maxLineBytes
  ranges : ∀ range ∈ args.ranges, (getRange args.text range).isSome

theorem parse_yields (line : List UInt8) : Yields (parse line) Arguments.Sound := by
  have hstart : Scan.Sound ⟨[], [], none, .none⟩ :=
    ⟨Nat.zero_le _, Nat.zero_le _, by simp, by simp, Nat.le_refl _⟩
  refine (Yields.rejectIf _ _).bind fun _ _ => (Yields.okOr _ _).bind fun _ _ => ?_
  refine (Yields.rejectIf _ _).bind fun _ _ => (Scan.run_yields hstart).bind fun scan hscan => ?_
  have hquote : checkQuote scan.quote ≠ .panic := by
    cases scan.quote
    · exact ok_ne_panic _
    · exact err_ne_panic _
    · exact err_ne_panic _
  refine (Yields.self hquote).bind fun _ _ => (Scan.finish_yields hscan).bind fun scan' hscan' => ?_
  obtain ⟨hsound, -, hnone⟩ := hscan'
  refine (Yields.okOr _ _).bind fun text _ => (Yields.rejectIf _ _).bind fun _ hall => .ok ?_
  have hwritten := hsound.written
  rw [hnone, Option.getD_none] at hwritten
  refine ⟨hsound.ranges, Nat.le_trans hwritten hsound.scratch, fun range hrange => ?_⟩
  have hsome := List.any_eq_false.mp hall range hrange
  rwa [Option.isNone_iff_eq_none, ← ne_eq, Option.ne_none_iff_isSome] at hsome

end Wyrmroot.Shell
