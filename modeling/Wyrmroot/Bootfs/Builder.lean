import Wyrmroot.Bootfs.Reading

/-!
# Building a boot archive

`builder.rs`: the builder collects entries, sorts them by path and writes
one record each, then the trailer. The only error left out is a failed
allocation of the host.
-/

namespace Wyrmroot.Bootfs

open Outcome
open Loader (checkedAdd checkedAdd_eq_some)

inductive BuildError where
  | invalidPath
  | nameTooLong
  | recordLimit
  | duplicatePath
  | archiveTooLarge
deriving DecidableEq

abbrev BuildCheck := Outcome BuildError

inductive FileMode where
  | readOnly
  | executable
deriving DecidableEq

def FileMode.newcMode : FileMode → Nat
  | .readOnly => readOnlyMode
  | .executable => executableMode

structure BuilderEntry where
  path : ArchivePath
  data : List UInt8
  mode : FileMode

structure Builder where
  entries : List BuilderEntry

/-! ## Records -/

/-- `u32::try_from(value)`. -/
def checkedU32 (value : Nat) : BuildCheck Nat :=
  if value < 2 ^ 32 then .ok value else .err .archiveTooLarge

/-- `b"0123456789abcdef"`. -/
def hexAlphabet : List UInt8 := [48, 49, 50, 51, 52, 53, 54, 55, 56, 57, 97, 98, 99, 100, 101, 102]

/-- The eight digits of a 32-bit number. -/
def writeHex (value : Nat) : List UInt8 :=
  (List.range 8).map fun index => hexAlphabet.getD (value >>> (4 * (7 - index)) &&& 0x0f) 0

def pad4 (output : List UInt8) : List UInt8 :=
  output ++ List.replicate ((4 - (output.length &&& 3)) &&& 3) 0

/-- `align4`, with the builder's error. -/
def alignSize (value : Nat) : BuildCheck Nat := okOr (align4 value) .archiveTooLarge

def recordSize (name data : List UInt8) : BuildCheck Nat := do
  let encoded ← okOr (checkedAdd name.length 1) .archiveTooLarge
  let _ ← checkedU32 encoded
  let _ ← checkedU32 data.length
  let nameEnd ← okOr ((checkedAdd headerSize name.length).bind (checkedAdd · 1)) .archiveTooLarge
  let dataStart ← alignSize nameEnd
  let dataEnd ← okOr (checkedAdd dataStart data.length) .archiveTooLarge
  alignSize dataEnd

/-- The header of a record. -/
def newcHeader (inode mode nlink filesize namesize : Nat) : List UInt8 :=
  newcMagic ++ writeHex inode ++ writeHex mode ++ writeHex 0 ++ writeHex 0 ++ writeHex nlink ++
    writeHex 0 ++ writeHex filesize ++ writeHex 0 ++ writeHex 0 ++ writeHex 0 ++ writeHex 0 ++
    writeHex namesize ++ writeHex 0

def writeRecord (output name data : List UInt8) (mode inode nlink : Nat) :
    BuildCheck (List UInt8) := do
  let encoded ← okOr (checkedAdd name.length 1) .archiveTooLarge
  let namesize ← checkedU32 encoded
  let filesize ← checkedU32 data.length
  let output := output ++ newcHeader inode mode nlink filesize namesize ++ name ++ [0]
  pure (pad4 (pad4 output ++ data))

/-! ## The builder -/

namespace Builder

def new : Builder := ⟨[]⟩

def add (self : Builder) (path data : List UInt8) (mode : FileMode) : BuildCheck Builder := do
  rejectIf (self.entries.length = maxRecords) .recordLimit
  let encodedNameSize ← okOr (checkedAdd path.length 1) .nameTooLong
  rejectIf (maxEncodedNameBytes < encodedNameSize) .nameTooLong
  let path ← (ArchivePath.new path).mapErr fun _ => BuildError.invalidPath
  pure ⟨self.entries ++ [⟨path, data, mode⟩]⟩

/-- The first loop of `build`: duplicates and the total size. -/
def entriesSize (total : Nat) (previous : Option (List UInt8)) :
    List BuilderEntry → BuildCheck Nat
  | [] => .ok total
  | entry :: rest => do
      rejectIf (previous = some entry.path.bytes) .duplicatePath
      let size ← recordSize entry.path.bytes entry.data
      let total ← okOr (checkedAdd total size) .archiveTooLarge
      rejectIf (maxArchiveBytes < total) .archiveTooLarge
      entriesSize total (some entry.path.bytes) rest

/-- The second loop of `build`. -/
def writeEntries (output : List UInt8) : List BuilderEntry → BuildCheck (List UInt8)
  | [] => .ok output
  | entry :: rest => do
      let output ← writeRecord output entry.path.bytes entry.data entry.mode.newcMode 0 1
      writeEntries output rest

/-- Bytewise order of the paths. Equal paths are an error afterwards, so it
does not matter that the source's sort is not stable. -/
def pathOrder (left right : BuilderEntry) : Bool := decide (left.path.bytes ≤ right.path.bytes)

def build (self : Builder) : BuildCheck (List UInt8) := do
  let entries := self.entries.mergeSort pathOrder
  let trailer ← recordSize trailerName []
  let _total ← entriesSize trailer none entries
  let output ← writeEntries [] entries
  writeRecord output trailerName [] 0 0 0

end Builder

/-! ## Digits -/

theorem hexDigit_hexAlphabet :
    ∀ digit, digit < 16 → hexDigit (hexAlphabet.getD digit 0) = some digit := by
  decide

theorem hexDigits_hexAlphabet {offset : Nat} (digits : List Nat) (h : ∀ d ∈ digits, d < 16) :
    ∀ value, value < 16 ^ (16 - digits.length) → digits.length ≤ 16 →
      hexDigits offset value (digits.map fun d => hexAlphabet.getD d 0) =
        .ok (digits.foldl (fun acc d => acc * 16 + d) value) := by
  induction digits with
  | nil => exact fun value _ _ => rfl
  | cons digit rest ih =>
      intro value hvalue hlen
      have hdigit := h digit List.mem_cons_self
      rw [List.length_cons] at hvalue hlen
      have hpow : 16 ^ (16 - rest.length) = 16 ^ (16 - (rest.length + 1)) * 16 := by
        rw [← Nat.pow_succ]
        congr 1
        omega
      have hmax : 16 ^ (16 - rest.length) ≤ 2 ^ 64 :=
        Nat.le_trans (Nat.pow_le_pow_right (by decide) (Nat.sub_le 16 _)) (by decide)
      have hnext : value * 16 + digit < 16 ^ (16 - rest.length) := by
        rw [hpow]
        omega
      have hadd : checkedAdd (value * 16) digit = some (value * 16 + digit) :=
        checkedAdd_eq_some.mpr ⟨by omega, rfl⟩
      have hroom : value * 16 < 2 ^ 64 := by omega
      rw [List.map_cons, hexDigits, hexDigit_hexAlphabet digit hdigit, okOr_some, ok_bind,
        if_pos hroom, hadd, okOr_some, ok_bind, List.foldl_cons]
      exact ih (fun d hd => h d (List.mem_cons_of_mem _ hd)) _ hnext (by omega)

@[simp] theorem length_writeHex (value : Nat) : (writeHex value).length = 8 := by
  simp [writeHex]

/-- The `count` low hexadecimal digits behind the higher ones are the number. -/
theorem foldl_hexDigits (value : Nat) : ∀ count : Nat,
    ((List.range count).map fun index => value >>> (4 * (count - 1 - index)) % 16).foldl
      (fun acc d => acc * 16 + d) (value >>> (4 * count)) = value
  | 0 => rfl
  | count + 1 => by
      have hhead : value >>> (4 * (count + 1)) * 16 + value >>> (4 * count) % 16 =
          value >>> (4 * count) := by
        have hdeep : value >>> (4 * (count + 1)) = value >>> (4 * count) / 16 := by
          rw [show 4 * (count + 1) = 4 * count + 4 by omega, Nat.shiftRight_add,
            Nat.shiftRight_eq_div_pow _ 4]
        rw [hdeep]
        exact Nat.div_add_mod' _ _
      have hrest : ∀ index, count + 1 - 1 - (index + 1) = count - 1 - index := by
        intro index
        omega
      rw [List.range_succ_eq_map, List.map_cons, List.foldl_cons, List.map_map]
      simp only [Function.comp_def, Nat.succ_eq_add_one, hrest]
      rw [Nat.add_sub_cancel, Nat.sub_zero, hhead]
      exact foldl_hexDigits value count

/-- What `write_hex` writes, `hex_field` reads. -/
theorem hexField_writeHex {value offset : Nat} (h : value < 2 ^ 32) :
    hexField (writeHex value) offset = .ok value := by
  have hmask : ∀ n : Nat, n &&& 0x0f = n % 16 := fun n => Nat.and_two_pow_sub_one_eq_mod n 4
  have hmap : writeHex value = ((List.range 8).map fun index =>
      value >>> (4 * (7 - index)) &&& 0x0f).map fun d => hexAlphabet.getD d 0 := by
    rw [List.map_map]
    rfl
  have hsmall : ∀ d ∈ (List.range 8).map fun index => value >>> (4 * (7 - index)) &&& 0x0f,
      d < 16 := by
    intro d hd
    obtain ⟨index, -, rfl⟩ := List.mem_map.mp hd
    rw [hmask]
    exact Nat.mod_lt _ (by decide)
  rw [hexField, hmap, hexDigits_hexAlphabet _ hsmall 0 (by simp) (by simp)]
  have hzero : value >>> (4 * 8) = 0 := by
    rw [Nat.shiftRight_eq_div_pow]
    exact Nat.div_eq_of_lt h
  have hfold := foldl_hexDigits value 8
  rw [hzero] at hfold
  simp only [hmask]
  rw [hfold]

/-! ## Sizes -/

theorem checkedU32_eq_ok {value result : Nat} :
    checkedU32 value = .ok result ↔ value < 2 ^ 32 ∧ result = value := by
  unfold checkedU32
  split_ifs with h
  · simp only [Outcome.ok.injEq, h, true_and, eq_comm]
  · simp only [h, false_and]

@[simp] theorem length_newcHeader (inode mode nlink filesize namesize : Nat) :
    (newcHeader inode mode nlink filesize namesize).length = headerSize := by
  simp [newcHeader, newcMagic, headerSize]

theorem pad4_eq (output : List UInt8) : pad4 output = output ++ padding output.length := by
  have hmask : ∀ n : Nat, n &&& 3 = n % 4 := fun n => Nat.and_two_pow_sub_one_eq_mod n 2
  rw [pad4, padding, hmask, hmask]
  congr 2
  unfold alignUp
  omega

/-- A record at `start`, as the builder writes it. -/
def recordText (start : Nat) (name data : List UInt8) (mode nlink : Nat) : List UInt8 :=
  newcHeader 0 mode nlink data.length (name.length + 1) ++ extentText start name data

theorem length_recordText (start : Nat) (name data : List UInt8) (mode nlink : Nat) :
    start + (recordText start name data mode nlink).length =
      alignUp (alignUp (start + headerSize + (name.length + 1)) + data.length) := by
  rw [recordText, List.length_append, length_newcHeader, ← Nat.add_assoc, length_extentText]

/-- Both numbers of a record fit in its header. -/
def Encodable (name data : List UInt8) : Prop := name.length + 1 < 2 ^ 32 ∧ data.length < 2 ^ 32

theorem writeRecord_eq_ok {output name data output' : List UInt8} {mode nlink : Nat} :
    writeRecord output name data mode 0 nlink = .ok output' ↔
      Encodable name data ∧ output' = output ++ recordText output.length name data mode nlink := by
  simp only [writeRecord, bind_eq_ok, okOr_eq_ok, checkedAdd_eq_some, checkedU32_eq_ok,
    Outcome.pure_eq, Outcome.ok.injEq, Encodable]
  have htext : pad4 (pad4 (output ++ newcHeader 0 mode nlink data.length (name.length + 1) ++ name ++
      [0]) ++ data) = output ++ recordText output.length name data mode nlink := by
    rw [pad4_eq, pad4_eq]
    have hlen : (output ++ newcHeader 0 mode nlink data.length (name.length + 1) ++ name ++
        [0]).length = output.length + headerSize + (name.length + 1) := by
      simp only [List.length_append, length_newcHeader, List.length_singleton, Nat.add_assoc]
    rw [hlen]
    have hpadded : (output ++ newcHeader 0 mode nlink data.length (name.length + 1) ++ name ++ [0] ++
        padding (output.length + headerSize + (name.length + 1)) ++ data).length =
          alignUp (output.length + headerSize + (name.length + 1)) + data.length := by
      rw [List.length_append, List.length_append, hlen, length_padding, add_padding]
    rw [hpadded]
    simp only [recordText, extentText, List.append_assoc]
  constructor
  · rintro ⟨_, ⟨-, rfl⟩, _, ⟨hname, rfl⟩, _, ⟨hdata, rfl⟩, rfl⟩
    exact ⟨⟨hname, hdata⟩, htext⟩
  · rintro ⟨⟨hname, hdata⟩, rfl⟩
    exact ⟨_, ⟨by omega, rfl⟩, _, ⟨hname, rfl⟩, _, ⟨hdata, rfl⟩, htext⟩

theorem recordSize_eq_ok {name data : List UInt8} {size : Nat} :
    recordSize name data = .ok size ↔
      Encodable name data ∧ size = (recordText 0 name data 0 0).length := by
  have hlen := length_recordText 0 name data 0 0
  rw [Nat.zero_add, Nat.zero_add] at hlen
  simp only [recordSize, alignSize, bind_eq_ok, okOr_eq_ok, Option.bind_eq_some_iff,
    checkedAdd_eq_some, checkedU32_eq_ok, align4_eq_some, Encodable, hlen, alignUp, headerSize]
  constructor
  · rintro ⟨_, ⟨-, rfl⟩, _, ⟨hname, rfl⟩, _, ⟨hdata, rfl⟩, _, ⟨_, ⟨-, rfl⟩, -, rfl⟩, _, ⟨-, rfl⟩, _,
      ⟨-, rfl⟩, -, rfl⟩
    exact ⟨⟨hname, hdata⟩, rfl⟩
  · rintro ⟨⟨hname, hdata⟩, rfl⟩
    exact ⟨_, ⟨by omega, rfl⟩, _, ⟨hname, rfl⟩, _, ⟨hdata, rfl⟩, _, ⟨_, ⟨by omega, rfl⟩, by omega, rfl⟩,
      _, ⟨by omega, rfl⟩, _, ⟨by omega, rfl⟩, by omega, rfl⟩

/-! ## Headers are read back -/

variable {bytes header : List UInt8} {start column : Nat}

theorem headerField_eq_ok {value : Nat} (h : Has header column (writeHex value))
    (hvalue : value < 2 ^ 32) (hroom : start + column < 2 ^ 64) :
    headerField header start column = .ok value := by
  have hslice : (sliceAt header column 8 : ParseCheck _) = .ok (writeHex value) :=
    sliceAt_eq_ok.mpr ⟨h, length_writeHex value⟩
  rw [headerField, hslice, ok_bind, plus, if_pos hroom, ok_bind, hexField_writeHex hvalue]

/-- The fields of a record that the builder writes. -/
def builtFields (mode nlink filesize namesize : Nat) : Fields :=
  { ino := 0, mode, uid := 0, gid := 0, nlink, mtime := 0, filesize, devmajor := 0, devminor := 0,
    rdevmajor := 0, rdevminor := 0, namesize, check := 0 }

theorem parseFields_columns {mode nlink filesize namesize : Nat} (hstart : start ≤ bytes.length)
    (hbytes : bytes.length < 2 ^ 63) (hdrop : bytes.drop start = header)
    (hlong : headerSize ≤ header.length) (hmagic : Has header 0 newcMagic)
    (h6 : Has header 6 (writeHex 0)) (h14 : Has header 14 (writeHex mode))
    (h22 : Has header 22 (writeHex 0)) (h30 : Has header 30 (writeHex 0))
    (h38 : Has header 38 (writeHex nlink)) (h46 : Has header 46 (writeHex 0))
    (h54 : Has header 54 (writeHex filesize)) (h62 : Has header 62 (writeHex 0))
    (h70 : Has header 70 (writeHex 0)) (h78 : Has header 78 (writeHex 0))
    (h86 : Has header 86 (writeHex 0)) (h94 : Has header 94 (writeHex namesize))
    (h102 : Has header 102 (writeHex 0)) (hmode : mode < 2 ^ 32) (hnlink : nlink < 2 ^ 32)
    (hfilesize : filesize < 2 ^ 32) (hnamesize : namesize < 2 ^ 32) :
    parseFields bytes start = .ok (builtFields mode nlink filesize namesize) := by
  have hzero : (0 : Nat) < 2 ^ 32 := by decide
  have hfield : ∀ {column value}, Has header column (writeHex value) → value < 2 ^ 32 →
      column < 110 → headerField header start column = .ok value :=
    fun h hvalue hcolumn => headerField_eq_ok h hvalue (by omega)
  have hslice : (sliceAt header 0 6 : ParseCheck _) = .ok newcMagic :=
    sliceAt_eq_ok.mpr ⟨hmagic, rfl⟩
  have hshort : decide (header.length < headerSize) = false :=
    decide_eq_false (Nat.not_lt.mpr hlong)
  have hsame : decide (newcMagic ≠ newcMagic) = false := by decide
  rw [parseFields, if_pos hstart, okOr_some, ok_bind, hdrop, hshort, rejectIf_false, ok_bind, hslice,
    ok_bind, hsame, rejectIf_false, ok_bind, hfield h6 hzero (by decide), ok_bind,
    hfield h14 hmode (by decide), ok_bind, hfield h22 hzero (by decide), ok_bind,
    hfield h30 hzero (by decide), ok_bind, hfield h38 hnlink (by decide), ok_bind,
    hfield h46 hzero (by decide), ok_bind, hfield h54 hfilesize (by decide), ok_bind,
    hfield h62 hzero (by decide), ok_bind, hfield h70 hzero (by decide), ok_bind,
    hfield h78 hzero (by decide), ok_bind, hfield h86 hzero (by decide), ok_bind,
    hfield h94 hnamesize (by decide), ok_bind, hfield h102 hzero (by decide), ok_bind]
  rfl

theorem parseFields_newcHeader {mode nlink filesize namesize : Nat} (hbytes : bytes.length < 2 ^ 63)
    (h : Has bytes start (newcHeader 0 mode nlink filesize namesize)) (hmode : mode < 2 ^ 32)
    (hnlink : nlink < 2 ^ 32) (hfilesize : filesize < 2 ^ 32) (hnamesize : namesize < 2 ^ 32) :
    parseFields bytes start = .ok (builtFields mode nlink filesize namesize) := by
  obtain ⟨before, after, hall, hbefore⟩ := has_iff.mp h
  have hdrop : bytes.drop start = newcHeader 0 mode nlink filesize namesize ++ after := by
    rw [hall, ← hbefore, List.drop_left]
  have hfits := has_length h
  have hlong : headerSize ≤ (newcHeader 0 mode nlink filesize namesize ++ after).length := by
    rw [List.length_append, length_newcHeader]
    omega
  have hheader : Has (newcHeader 0 mode nlink filesize namesize ++ after) 0
      (newcHeader 0 mode nlink filesize namesize) := has_iff.mpr ⟨[], after, rfl, rfl⟩
  have hmagic : newcMagic.length = 6 := rfl
  generalize newcHeader 0 mode nlink filesize namesize ++ after = header at *
  simp only [newcHeader, has_append, List.length_append, length_writeHex, hmagic, Nat.zero_add,
    Nat.reduceAdd] at hheader
  obtain ⟨⟨⟨⟨⟨⟨⟨⟨⟨⟨⟨⟨⟨h0, h6⟩, h14⟩, h22⟩, h30⟩, h38⟩, h46⟩, h54⟩, h62⟩, h70⟩, h78⟩, h86⟩, h94⟩, h102⟩ :=
    hheader
  exact parseFields_columns (by omega) hbytes hdrop hlong h0 h6 h14 h22 h30 h38 h46 h54 h62 h70 h78
    h86 h94 h102 hmode hnlink hfilesize hnamesize

theorem parseRecord_entry {path : ArchivePath} {data : List UInt8} {mode : FileMode}
    (hbytes : bytes.length < 2 ^ 63) (hencodable : Encodable path.bytes data)
    (h : Has bytes start (recordText start path.bytes data mode.newcMode 1)) :
    parseRecord bytes start = .ok ⟨start,
      start + (recordText start path.bytes data mode.newcMode 1).length, path.bytes, data, some path,
      mode == .executable, false⟩ := by
  obtain ⟨hlen, htrailer, hnul, -, -⟩ := validateArchivePath_eq_ok.mp path.valid
  rw [recordText, has_append, length_newcHeader] at h
  have hmode : mode.newcMode < 2 ^ 32 := by cases mode <;> decide
  have hfields := parseFields_newcHeader hbytes h.1 hmode (by decide) hencodable.2 hencodable.1
  have hextent := parseExtent_complete hbytes h.2 hlen hnul
  have hpath : ((ArchivePath.new path.bytes).mapErr fun _ => ParseError.invalidPath start) =
      .ok path := by
    rw [ArchivePath.new_eq_ok.mpr rfl]
    rfl
  have hnext : start + (recordText start path.bytes data mode.newcMode 1).length =
      start + headerSize + (extentText start path.bytes data).length := by
    rw [recordText, List.length_append, length_newcHeader, Nat.add_assoc]
  rw [hnext, parseRecord, hfields, ok_bind]
  show (do
    let extent ← parseExtent bytes start (path.bytes.length + 1) data.length
    _) = _
  have hregular : mode.newcMode &&& 0xf000 = 0x8000 := by cases mode <;> rfl
  have hexecutable : isExecutable mode.newcMode start = .ok (mode == .executable) := by
    cases mode <;> rfl
  rw [hextent, ok_bind, if_neg htrailer, hpath]
  simp [builtFields, hregular, hexecutable]

theorem parseRecord_trailer (hbytes : bytes.length < 2 ^ 63)
    (h : Has bytes start (recordText start trailerName [] 0 0)) :
    parseRecord bytes start = .ok ⟨start, start + (recordText start trailerName [] 0 0).length,
      trailerName, [], none, false, true⟩ := by
  rw [recordText, has_append, length_newcHeader] at h
  have hfields := parseFields_newcHeader hbytes h.1 (by decide) (by decide) (by decide) (by decide)
  have hextent := parseExtent_complete hbytes h.2 (by decide) (by decide)
  have hnext : start + (recordText start trailerName [] 0 0).length =
      start + headerSize + (extentText start trailerName []).length := by
    rw [recordText, List.length_append, length_newcHeader, Nat.add_assoc]
  rw [hnext, parseRecord, hfields, ok_bind]
  show (do
    let extent ← parseExtent bytes start (trailerName.length + 1) ([] : List UInt8).length
    _) = _
  rw [hextent, ok_bind, if_pos rfl]
  rfl

end Wyrmroot.Bootfs
