import Wyrmroot.Lib.Shadow
import Wyrmroot.Shell.Launch
import Wyrmroot.Shell.Scanning

/-!
# The parser's storage

A `Parser` is kept from one line to the next: its scratch bytes and descriptors
still hold what an earlier line left there. Each line writes them from the front,
and reads only what it has written, so what a line means does not depend on them.
-/

namespace Wyrmroot.Shell

/-- Fixed storage: 4096 scratch bytes and 64 argument descriptors. -/
structure Parser where
  scratch : List UInt8
  ranges : List ArgRange
  scratch_length : scratch.length = maxLineBytes
  ranges_length : ranges.length = maxArguments

namespace Parser

def new : Parser where
  scratch := List.replicate maxLineBytes 0
  ranges := List.replicate maxArguments ⟨0, 0⟩
  scratch_length := List.length_replicate
  ranges_length := List.length_replicate

/-- `self.scratch[index] = byte`. -/
def storeByte (self : Parser) (index : Nat) (byte : UInt8) : Parser :=
  { self with
    scratch := self.scratch.set index byte
    scratch_length := by rw [List.length_set, self.scratch_length] }

/-- `self.ranges[index] = range`. -/
def storeRange (self : Parser) (index : Nat) (range : ArgRange) : Parser :=
  { self with
    ranges := self.ranges.set index range
    ranges_length := by rw [List.length_set, self.ranges_length] }

abbrev Using (α : Type) := Prog Parser Empty ParseError α

/-- The variables of `parse`; the cursor is what is left of the line. -/
structure Locals where
  used : Nat
  count : Nat
  start : Option Nat
  quote : Quote

def put (byte : UInt8) (locals : Locals) : Using Locals := do
  let self ← Prog.get
  if locals.used < self.scratch.length then do
    Prog.set (self.storeByte locals.used byte)
    pure { locals with used := locals.used + 1 }
  else Prog.throw .outputTooLong

/-- The end of an argument, if one is open. -/
def finish (locals : Locals) : Using Locals :=
  match locals.start with
  | none => pure locals
  | some first => do
      let self ← Prog.get
      if locals.count < self.ranges.length then do
        Prog.set (self.storeRange locals.count ⟨first, locals.used⟩)
        pure { locals with count := locals.count + 1, start := none }
      else Prog.panic

/-- The start of an argument, if none is open. -/
def begin (locals : Locals) : Using Locals :=
  match locals.start with
  | some _ => pure locals
  | none =>
      if locals.count = maxArguments then Prog.throw .tooManyArguments
      else pure { locals with start := some locals.used }

/-- The loop over what is left of the line. -/
def scan (locals : Locals) : List UInt8 → Using Locals
  | [] => pure locals
  | byte :: rest =>
      if locals.quote = .none ∧ asciiWhitespace byte = true then
        finish locals >>= fun locals => scan locals rest
      else begin locals >>= fun locals =>
        match Scan.toggles locals.quote byte with
        | some quote => scan { locals with quote } rest
        | none =>
            if locals.quote ≠ .single ∧ byte = 92 then
              match rest with
              | [] => Prog.throw .trailingBackslash
              | next :: rest =>
                  Prog.lift (Scan.decode locals.quote next) >>= fun decoded =>
                    put decoded locals >>= fun locals => scan locals rest
            else put byte locals >>= fun locals => scan locals rest

/-- `Parser::parse`, over the storage it is given. -/
def parse (line : List UInt8) : Using Arguments := do
  Prog.lift (Outcome.rejectIf (maxLineBytes < line.length) .lineTooLong)
  let _ ← Prog.lift (Outcome.okOr (fromUtf8 line) .invalidUtf8)
  Prog.lift (Outcome.rejectIf (line.contains 0) .nul)
  let locals ← scan ⟨0, 0, none, .none⟩ line
  Prog.lift (checkQuote locals.quote)
  let locals ← finish locals
  let self ← Prog.get
  let text ← Prog.lift (Outcome.okOr (fromUtf8 (self.scratch.take locals.used)) .invalidUtf8)
  Prog.lift (Outcome.rejectIf
    ((self.ranges.take locals.count).any fun range => (getRange text range).isNone) .invalidUtf8)
  pure ⟨text, self.ranges.take locals.count⟩

/-! ## What has been written -/

/-- The front of the storage is what the scan has written. -/
structure Holds (locals : Locals) (storage : Parser) (s : Scan) : Prop where
  scratch : s.scratch = storage.scratch.take locals.used
  ranges : s.ranges = storage.ranges.take locals.count
  used : locals.used ≤ maxLineBytes
  count : locals.count ≤ maxArguments
  start : s.start = locals.start
  quote : s.quote = locals.quote

variable {locals : Locals} {storage : Parser} {s : Scan}

theorem Holds.length_scratch (h : Holds locals storage s) : s.scratch.length = locals.used := by
  rw [h.scratch, List.length_take, storage.scratch_length]
  exact Nat.min_eq_left h.used

theorem Holds.length_ranges (h : Holds locals storage s) : s.ranges.length = locals.count := by
  rw [h.ranges, List.length_take, storage.ranges_length]
  exact Nat.min_eq_left h.count

theorem take_stored {α : Type} {l : List α} {n : Nat} (h : n < l.length) (a : α) :
    (l.set n a).take (n + 1) = l.take n ++ [a] := by
  rw [List.take_add_one, List.take_set_of_le (Nat.le_refl n), List.getElem?_set_self h]
  rfl

theorem put_holds (h : Holds locals storage s) (byte : UInt8) :
    Prog.Shadows Holds (put byte locals) storage (s.put byte) := by
  refine .get ?_
  unfold Scan.put
  rw [h.length_scratch, storage.scratch_length]
  refine .ite (fun hroom => ?_) fun _ => .throw _
  refine ⟨_, _, _, rfl, ⟨?_, h.ranges, hroom, h.count, h.start, h.quote⟩⟩
  rw [h.scratch]
  exact (take_stored (by rw [storage.scratch_length]; exact hroom) byte).symm

theorem finish_holds (h : Holds locals storage s) :
    Prog.Shadows Holds (finish locals) storage s.finish := by
  unfold finish Scan.finish
  rw [h.start]
  cases locals.start with
  | none => exact .pure h
  | some first =>
      refine .get ?_
      rw [h.length_ranges, storage.ranges_length, h.length_scratch]
      refine .ite (fun hroom => ?_) fun _ => .panic
      refine ⟨_, _, _, rfl, ⟨h.scratch, ?_, h.used, hroom, rfl, h.quote⟩⟩
      rw [h.ranges]
      exact (take_stored (by rw [storage.ranges_length]; exact hroom) _).symm

theorem begin_holds (h : Holds locals storage s) :
    Prog.Shadows Holds (begin locals) storage s.begin := by
  unfold begin Scan.begin
  rw [h.start]
  cases locals.start with
  | some first => exact .pure h
  | none =>
      rw [h.length_ranges, h.length_scratch]
      refine .ite (fun _ => .throw _) fun _ => .pure ?_
      exact ⟨h.scratch, h.ranges, h.used, h.count, rfl, h.quote⟩

theorem scan_holds : ∀ (line : List UInt8) {locals : Locals} {storage : Parser} {s : Scan},
    Holds locals storage s → Prog.Shadows Holds (scan locals line) storage (s.run line)
  | [], _, _, _, h => .pure h
  | byte :: rest, locals, storage, s, h => by
      rw [scan, Scan.run, h.quote]
      refine .ite (fun _ => (finish_holds h).bind fun _ _ _ h => scan_holds rest h) fun _ => ?_
      refine (begin_holds h).bind fun locals storage s h => ?_
      rw [h.quote]
      cases Scan.toggles locals.quote byte with
      | some quote =>
          exact scan_holds rest ⟨h.scratch, h.ranges, h.used, h.count, h.start, rfl⟩
      | none =>
          refine .ite (fun _ => ?_) fun _ => ?_
          · cases rest with
            | nil => exact .throw _
            | cons next rest =>
                refine .check fun decoded _ => (put_holds h decoded).bind fun _ _ _ h => ?_
                exact scan_holds rest h
          · exact (put_holds h byte).bind fun _ _ _ h => scan_holds rest h

theorem parse_shadows (line : List UInt8) (storage : Parser) :
    Prog.Shadows (fun args _ args' => args = args') (parse line) storage (Shell.parse line) := by
  have hstart : Holds ⟨0, 0, none, .none⟩ storage ⟨[], [], none, .none⟩ :=
    ⟨rfl, rfl, Nat.zero_le _, Nat.zero_le _, rfl, rfl⟩
  refine .check fun _ _ => .check fun _ _ => .check fun _ _ => ?_
  refine (scan_holds line hstart).bind fun locals storage s h => ?_
  rw [← h.quote]
  refine .check fun _ _ => (finish_holds h).bind fun locals storage s h => .get ?_
  rw [← h.scratch, ← h.ranges]
  exact .check fun _ _ => .check fun _ _ => .pure rfl

theorem parse_run (line : List UInt8) (storage : Parser) :
    (parse line storage).1 = Shell.parse line :=
  (parse_shadows line storage).outcome fun _ _ _ h => h

end Parser

end Wyrmroot.Shell
