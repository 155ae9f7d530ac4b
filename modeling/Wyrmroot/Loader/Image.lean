import Wyrmroot.Startup.Block

/-!
# Materialization plans and startup blocks

What the child finds in memory: each segment's object, the initial stack,
and on top of the stack the startup block. `writeStartupBlock` is the
one-argument page of ABI 1; `StartupBlockV2Plan` checks an argument and
environment list once (`new`) and then writes it (`write`) into the block it
was checked against.
-/

namespace Wyrmroot.Loader

open Outcome

def startupAbiVersion : Nat := 1
def startupAbiV2 : Nat := 2
def startupPageAddress : Nat := stackTop - pageSize
def initialStackPointer : Nat := startupPageAddress
def startupV2BlockBytes : Nat := 5 * pageSize
def startupV2BlockAddress : Nat := stackTop - startupV2BlockBytes

structure MaterializationPlan where
  objectSize : Nat
  sourceOffset : Nat
  sourceSize : Nat
  destinationOffset : Nat
  childAddress : Nat
  protection : SegmentProtection
deriving DecidableEq

def MaterializationPlan.ofSegment (segment : LoadSegment) : MaterializationPlan where
  objectSize := segment.mappingSize
  sourceOffset := segment.fileOffset
  sourceSize := segment.fileSize
  destinationOffset := segment.leadingBytes
  childAddress := segment.mappingStart
  protection := segment.protection

structure StackPlan where
  objectSize : Nat
  childAddress : Nat
  startupPageOffset : Nat
  stackPointer : Nat
deriving DecidableEq

def initialStack : StackPlan where
  objectSize := stackBytes
  childAddress := stackTop - stackBytes
  startupPageOffset := stackBytes - pageSize
  stackPointer := initialStackPointer

inductive StartupBlockError where
  | pageSize
  | emptyDisplayPath
  | displayPathContainsNul
  | displayPathTooLong
  | pointerOverflow
  | tooManyArguments
  | tooManyEnvironmentEntries
  | stringBytesExceeded
  | invalidEnvironment
  | duplicateEnvironment
  | argv0Mismatch
  | stringContainsNul
deriving DecidableEq

/-- Writing a startup block. -/
abbrev Block (α : Type) := Fill StartupBlockError α

/-- A check of what a startup block is to hold. -/
abbrev BlockCheck (α : Type) := Outcome StartupBlockError α

def putWord (offset value : Nat) : Block Unit := storeBytes offset (leBytes 8 value)

def writeStartupBlock (pageAddress : Nat) (displayPath : String) : Block Unit := do
  let path := utf8 displayPath
  let page ← Prog.get
  Prog.lift (rejectIf (page.length ≠ pageSize) .pageSize)
  Prog.lift (rejectIf path.isEmpty .emptyDisplayPath)
  Prog.lift (rejectIf (path.contains 0) .displayPathContainsNul)
  let stringEnd ← Prog.lift (okOr ((checkedAdd 48 path.length).bind (checkedAdd · 1))
    .displayPathTooLong)
  Prog.lift (rejectIf (page.length < stringEnd) .displayPathTooLong)
  let argv0 ← Prog.lift (okOr (checkedAdd pageAddress 48) .pointerOverflow)
  storeBytes 0 (List.replicate page.length 0)
  putWord 0 1
  putWord 8 argv0
  storeBytes 48 path

structure StartupBlockV2Plan where
  blockAddress : Nat
  argv : List String
  environment : List String
  stringStart : Nat
deriving DecidableEq

def maxArgv : Nat := 64
def maxEnvironment : Nat := 64
def maxStringBytes : Nat := 16 * 1024

/-- `try_fold(0, checked_add)` over the strings' lengths. -/
def totalBytes (values : List String) : Option Nat :=
  values.foldlM (fun sum value => checkedAdd sum (utf8 value).length) 0

/-- Every entry has a name, and none has the name of an earlier one. -/
def checkEnvironment (seen : List String) : List String → BlockCheck Unit
  | [] => .ok ()
  | value :: rest => do
      let name ← Startup.environmentName .invalidEnvironment (utf8 value)
      rejectIf (seen.any fun other =>
        Startup.environmentName StartupBlockError.invalidEnvironment (utf8 other) = .ok name)
        .duplicateEnvironment
      checkEnvironment (seen ++ [value]) rest

/-- The vector sizes are sums of counts that have just been bounded by 64, so
their `checked_add`s cannot fail. -/
def StartupBlockV2Plan.new (blockLen blockAddress : Nat) (path : String)
    (argv environment : List String) : BlockCheck StartupBlockV2Plan := do
  rejectIf (blockLen ≠ startupV2BlockBytes) .pageSize
  rejectIf (argv.isEmpty || maxArgv < argv.length) .tooManyArguments
  rejectIf (maxEnvironment < environment.length) .tooManyEnvironmentEntries
  rejectIf (argv.head? ≠ some path) .argv0Mismatch
  rejectIf (utf8 path).isEmpty .emptyDisplayPath
  rejectIf ((utf8 path).contains 0) .displayPathContainsNul
  rejectIf ((argv.drop 1 ++ environment).any fun value => (utf8 value).contains 0)
    .stringContainsNul
  let aggregate ← okOr (totalBytes (argv ++ environment)) .stringBytesExceeded
  rejectIf (maxStringBytes < aggregate) .stringBytesExceeded
  let encoded ← okOr ((checkedAdd aggregate argv.length).bind (checkedAdd · environment.length))
    .stringBytesExceeded
  checkEnvironment [] environment
  let vectorWords := 1 + argv.length + 1 + environment.length + (1 + 2)
  let stringStart := vectorWords * 8
  rejectIf (blockLen < stringStart + encoded) .stringBytesExceeded
  let _ ← okOr (checkedAdd blockAddress (stringStart + encoded)) .pointerOverflow
  pure { blockAddress, argv, environment, stringStart }

/-- One turn per string: its pointer into the vector, its bytes into the
string area. An overflowing pointer is a panic. -/
def writeStrings (blockAddress wordOffset stringOffset : Nat) : List String → Block (Nat × Nat)
  | [] => pure (wordOffset, stringOffset)
  | value :: rest => do
      if blockAddress + stringOffset < 2 ^ 64 then putWord wordOffset (blockAddress + stringOffset)
      else Prog.panic
      storeBytes stringOffset (utf8 value)
      writeStrings blockAddress (wordOffset + 8) (stringOffset + (utf8 value).length + 1) rest

def StartupBlockV2Plan.write (self : StartupBlockV2Plan) : Block Unit := do
  let block ← Prog.get
  if block.length ≠ startupV2BlockBytes then Prog.panic
  else do
    storeBytes 0 (List.replicate block.length 0)
    putWord 0 self.argv.length
    let (wordOffset, stringOffset) ← writeStrings self.blockAddress 8 self.stringStart self.argv
    let _ ← writeStrings self.blockAddress (wordOffset + 8) stringOffset self.environment
    pure ()

/-! ## The page of ABI 1 -/

theorem writeStartupBlock_page {page : List UInt8} (hpage : page.length = pageSize)
    (address : Nat) (path : String) :
    (writeStartupBlock address path page).1 ≠ .panic
      ∧ ((writeStartupBlock address path page).1 = .ok () →
        (writeStartupBlock address path page).2.1.length = pageSize) := by
  show Prog.wp (writeStartupBlock address path)
    (fun o page' _ => o ≠ .panic ∧ (o = .ok () → page'.length = pageSize)) page
  unfold writeStartupBlock
  simp only [Prog.wp_get_bind, Prog.wp_lift_bind, hpage]
  by_cases hempty : (utf8 path).isEmpty
  · simp [hempty]
  by_cases hnul : (utf8 path).contains 0
  · simp only [hempty, hnul, rejectIf_true]
    simp
  simp only [hempty, hnul, decide_false, ne_eq, not_true_eq_false, rejectIf_false]
  cases hend : (checkedAdd 48 (utf8 path).length).bind (checkedAdd · 1) with
  | none => simp
  | some stringEnd =>
      simp only [okOr_some]
      obtain ⟨middle, hmiddle, hlast⟩ := Option.bind_eq_some_iff.mp hend
      obtain ⟨-, rfl⟩ := checkedAdd_eq_some.mp hmiddle
      obtain ⟨-, rfl⟩ := checkedAdd_eq_some.mp hlast
      by_cases hfit : pageSize < 48 + (utf8 path).length + 1
      · simp [hfit]
      simp only [hfit, decide_false, rejectIf_false]
      cases checkedAdd address 48 with
      | none => simp
      | some argv0 =>
          simp only [okOr_some]
          have hroom : 48 + (utf8 path).length ≤ pageSize := by omega
          have hfills : Fills pageSize (do
              storeBytes 0 (List.replicate pageSize 0)
              putWord 0 1
              putWord 8 argv0
              storeBytes 48 (utf8 path) : Block Unit) () :=
            .bind (.store (by simp)) (.bind (.store (by simp [pageSize]))
              (.bind (.store (by simp [pageSize])) (.store hroom)))
          obtain ⟨hok, hlength⟩ := hfills page hpage
          exact ⟨by rw [hok]; exact nofun, fun _ => hlength⟩

/-! ## The block of ABI 2 -/

/-- The string area: every string and its terminal NUL. -/
def stringArea (values : List String) : List UInt8 :=
  values.flatMap fun value => utf8 value ++ [0]

theorem stringArea_cons (value : String) (rest : List String) :
    stringArea (value :: rest) = (utf8 value ++ [0]) ++ stringArea rest := rfl

theorem stringArea_append (values rest : List String) :
    stringArea (values ++ rest) = stringArea values ++ stringArea rest :=
  List.flatMap_append

theorem totalBytes_eq_some {values : List String} {total : Nat}
    (h : totalBytes values = some total) :
    (stringArea values).length = total + values.length := by
  have hsum : ∀ (values : List String) (start total : Nat),
      values.foldlM (fun sum value => checkedAdd sum (utf8 value).length) start = some total →
        start + (stringArea values).length = total + values.length := by
    intro values
    induction values with
    | nil =>
        intro start total h
        obtain rfl := Option.some.inj h
        rfl
    | cons value rest ih =>
        intro start total h
        rw [List.foldlM_cons] at h
        obtain ⟨next, hnext, h⟩ := Option.bind_eq_some_iff.mp h
        obtain ⟨-, rfl⟩ := checkedAdd_eq_some.mp hnext
        have hrest := ih _ _ h
        rw [stringArea_cons, List.length_append, List.length_append, List.length_singleton,
          List.length_cons]
        omega
  simpa using hsum values 0 total h

/-- What an accepted plan guarantees. -/
structure StartupBlockV2Plan.Sound (block : StartupBlockV2Plan) : Prop where
  argv_pos : block.argv ≠ []
  argv_le : block.argv.length ≤ maxArgv
  environment_le : block.environment.length ≤ maxEnvironment
  no_nul : ∀ value ∈ block.argv ++ block.environment, (0 : UInt8) ∉ utf8 value
  total_le : (stringArea (block.argv ++ block.environment)).length
    ≤ maxStringBytes + (block.argv ++ block.environment).length
  environment_ok : checkEnvironment [] block.environment = .ok ()
  stringStart_eq : block.stringStart = (1 + block.argv.length + 1 + block.environment.length + 3) * 8
  fits : block.stringStart + (stringArea (block.argv ++ block.environment)).length
    ≤ startupV2BlockBytes
  pointers : block.blockAddress + block.stringStart
    + (stringArea (block.argv ++ block.environment)).length < 2 ^ 64

theorem checkEnvironment_ne_panic (seen values : List String) :
    checkEnvironment seen values ≠ .panic := by
  induction values generalizing seen with
  | nil => exact nofun
  | cons value rest ih =>
      rw [checkEnvironment]
      refine bind_ne_panic (Startup.environmentName_ne_panic _ _) fun name _ => ?_
      exact bind_ne_panic (rejectIf_ne_panic _ _) fun _ _ => ih _

theorem StartupBlockV2Plan.new_ne_panic (blockLen blockAddress : Nat) (path : String)
    (argv environment : List String) : new blockLen blockAddress path argv environment ≠ .panic := by
  unfold new
  iterate 10 first
    | refine bind_ne_panic (rejectIf_ne_panic _ _) fun _ _ => ?_
    | refine bind_ne_panic (okOr_ne_panic _ _) fun _ _ => ?_
  refine bind_ne_panic (checkEnvironment_ne_panic _ _) fun _ _ => ?_
  refine bind_ne_panic (rejectIf_ne_panic _ _) fun _ _ => ?_
  refine bind_ne_panic (okOr_ne_panic _ _) fun _ _ => ?_
  exact pure_ne_panic _

theorem StartupBlockV2Plan.new_sound {blockLen blockAddress : Nat} {path : String}
    {argv environment : List String} {self : StartupBlockV2Plan}
    (h : new blockLen blockAddress path argv environment = .ok self) :
    self.Sound ∧ self.blockAddress = blockAddress ∧ self.argv = argv
      ∧ self.environment = environment := by
  simp only [new, bind_eq_ok, rejectIf_eq_ok, okOr_eq_ok, exists_const] at h
  obtain ⟨hlen, hargv, henv, hhead, -, hnul, hnuls, aggregate, htotal, hbound, encoded,
    hencoded, ⟨⟩, hnames, hfits, finish, hpointers, heq⟩ := h
  obtain rfl := Outcome.ok.inj heq
  simp only [Bool.or_eq_false_iff, decide_eq_false_iff_not, Nat.not_lt, ne_eq, not_not]
    at hlen hargv henv hhead hbound hfits
  have hsum := totalBytes_eq_some htotal
  obtain ⟨middle, hmiddle, hlast⟩ := Option.bind_eq_some_iff.mp hencoded
  obtain ⟨-, rfl⟩ := checkedAdd_eq_some.mp hmiddle
  obtain ⟨-, rfl⟩ := checkedAdd_eq_some.mp hlast
  obtain ⟨hlast, -⟩ := checkedAdd_eq_some.mp hpointers
  rw [List.length_append] at hsum
  refine ⟨⟨?_, hargv.2, henv, ?_, ?_, hnames, rfl, ?_, ?_⟩, rfl, rfl, rfl⟩
  · rintro rfl
    simp at hargv
  · show ∀ value ∈ argv ++ environment, (0 : UInt8) ∉ utf8 value
    cases argv with
    | nil => simp at hhead
    | cons first rest =>
        obtain rfl : first = path := by simpa using hhead
        intro value hvalue
        rcases List.mem_cons.mp hvalue with rfl | hrest
        · simpa using hnul
        · have hfree := List.any_eq_false.mp hnuls value hrest
          simpa using hfree
  · show (stringArea (argv ++ environment)).length ≤ maxStringBytes + (argv ++ environment).length
    rw [hsum, List.length_append]
    omega
  · show (1 + argv.length + 1 + environment.length + (1 + 2)) * 8
      + (stringArea (argv ++ environment)).length ≤ startupV2BlockBytes
    rw [hsum]
    omega
  · show blockAddress + (1 + argv.length + 1 + environment.length + (1 + 2)) * 8
      + (stringArea (argv ++ environment)).length < 2 ^ 64
    rw [hsum]
    omega

theorem writeStrings_fills {n blockAddress wordOffset stringOffset : Nat} {values : List String}
    (hwords : wordOffset + 8 * values.length ≤ n)
    (hstrings : stringOffset + (stringArea values).length ≤ n)
    (hpointers : blockAddress + stringOffset + (stringArea values).length < 2 ^ 64) :
    Fills n (writeStrings blockAddress wordOffset stringOffset values)
      (wordOffset + 8 * values.length, stringOffset + (stringArea values).length) := by
  induction values generalizing wordOffset stringOffset with
  | nil => exact .pure _
  | cons value rest ih =>
      rw [stringArea_cons, List.length_append, List.length_append, List.length_singleton] at *
      rw [List.length_cons] at *
      rw [writeStrings, if_pos (by omega)]
      have hword : wordOffset + (leBytes 8 (blockAddress + stringOffset)).length ≤ n := by
        rw [length_leBytes]
        omega
      refine .bind (.store hword) (.bind (.store (by omega)) ?_)
      have hrest := @ih (wordOffset + 8) (stringOffset + (utf8 value).length + 1) (by omega)
        (by omega) (by omega)
      have hwordEnd : wordOffset + 8 + 8 * rest.length = wordOffset + 8 * (rest.length + 1) := by
        omega
      have hstringEnd : stringOffset + (utf8 value).length + 1 + (stringArea rest).length
          = stringOffset + ((utf8 value).length + 1 + (stringArea rest).length) := by omega
      rw [hwordEnd, hstringEnd] at hrest
      exact hrest

theorem StartupBlockV2Plan.Sound.write_fills {self : StartupBlockV2Plan} (h : self.Sound) :
    Fills startupV2BlockBytes self.write () := by
  have hfits := h.fits
  have hpointers := h.pointers
  have hstart := h.stringStart_eq
  rw [stringArea_append, List.length_append] at hfits hpointers
  unfold write
  refine .get_bind fun block hblock => ?_
  rw [if_neg (not_not.mpr hblock), hblock]
  refine .bind (.store (by simp)) (.bind (.store ?_) ?_)
  · rw [length_leBytes]
    decide
  refine .bind (writeStrings_fills (by omega) (by omega) (by omega)) ?_
  exact .bind (writeStrings_fills (by omega) (by omega) (by omega)) (.pure _)

end Wyrmroot.Loader
