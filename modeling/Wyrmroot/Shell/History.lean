import Wyrmroot.Lib.RingBuffer
import Wyrmroot.Lib.Unchecked
import Wyrmroot.Shell.Parser

/-!
# The history of the shell

`wyrmroot-wyrmsh-core/src/history.rs`: lines in a circular arena, and where each
begins in a ring of entries. Both are rings (`Laid`): the bytes of the arena are
the lines one behind the other, and the entries are the places where these begin
and end. A history is then the list of its lines, whatever way round the arena
they lie, and `push_laid` is what a push does to that list.

The sums of the source stay below 2^16 and are written on numbers; the
subtractions and the indices it does not reduce are checked.
-/

namespace Wyrmroot.Shell

open Outcome

def maxHistoryEntries : Nat := 32
def historyArenaBytes : Nat := 16 * 1024

structure Entry where
  start : UInt16
  len : UInt16
deriving DecidableEq

structure History where
  arena : Vector UInt8 historyArenaBytes
  entries : Vector Entry maxHistoryEntries
  head : Nat
  len : Nat
  bytes : Nat
  write : Nat

namespace History

variable {ε : Type}

def new : History where
  arena := .replicate historyArenaBytes 0
  entries := .replicate maxHistoryEntries ⟨0, 0⟩
  head := 0
  len := 0
  bytes := 0
  write := 0

/-- `arena[index % HISTORY_ARENA_BYTES]`. -/
def byteAt (self : History) (index : Nat) : UInt8 :=
  getElem self.arena (index % historyArenaBytes) (Nat.mod_lt _ (Nat.succ_pos _))

/-- `entries[(head + index) % MAX_HISTORY_ENTRIES]`. -/
def entryAt (self : History) (index : Nat) : Entry :=
  getElem self.entries ((self.head + index) % maxHistoryEntries) (Nat.mod_lt _ (Nat.succ_pos _))

/-- The line is copied to the front of the output. -/
def copyEntry (self : History) (index : Nat) (output : List UInt8) :
    Outcome ε (Nat × List UInt8) :=
  let entry := self.entryAt index
  if output.length < entry.len.toNat then .panic
  else .ok (entry.len.toNat,
    (List.range entry.len.toNat).map (fun offset => self.byteAt (entry.start.toNat + offset)) ++
      output.drop entry.len.toNat)

def entryEquals (self : History) (index : Nat) (line : List UInt8) : Bool :=
  let entry := self.entryAt index
  entry.len.toNat = line.length &&
    line.zipIdx.all fun byte => self.byteAt (entry.start.toNat + byte.2) = byte.1

def evictOldest (self : History) : Outcome ε History :=
  if h : self.head < maxHistoryEntries then do
    let entry := getElem self.entries self.head h
    let bytes ← Unchecked.sub self.bytes entry.len.toNat
    let len ← Unchecked.sub self.len 1
    .ok { self with bytes, head := (self.head + 1) % maxHistoryEntries, len }
  else .panic

/-- The loop of `push`. A turn takes an entry away, so that behind as many turns as there are
entries `evict_oldest` underflows. -/
def makeRoom (size : Nat) : Nat → History → Outcome ε History
  | 0, _ => .panic
  | turns + 1, self =>
      if self.len = maxHistoryEntries || historyArenaBytes < self.bytes + size then do
        let self ← self.evictOldest
        makeRoom size turns self
      else .ok self

def storeByte (self : History) (byte : UInt8) : Outcome ε History :=
  if h : self.write < historyArenaBytes then
    .ok { self with
      arena := self.arena.set self.write byte h
      write := (self.write + 1) % historyArenaBytes }
  else .panic

/-- Behind the bytes of a line, its entry. -/
def addEntry (self : History) (start size : Nat) : History :=
  { self with
    entries := self.entries.set ((self.head + self.len) % maxHistoryEntries)
      ⟨UInt16.ofNat start, UInt16.ofNat size⟩ (Nat.mod_lt _ (Nat.succ_pos _))
    len := self.len + 1
    bytes := self.bytes + size }

def push (self : History) (line : List UInt8) : Outcome ε History :=
  if line.isEmpty || historyArenaBytes < line.length then .ok self
  else if self.len ≠ 0 && self.entryEquals (self.len - 1) line then .ok self
  else do
    let self ← makeRoom line.length (self.len + 1) self
    let stored ← line.foldlM storeByte self
    .ok (stored.addEntry self.write line.length)

end History

/-! ## A bounded list of lines -/

/-- The oldest lines are dropped until the rest is within the bounds. -/
def dropOldest : List (List UInt8) → List (List UInt8)
  | [] => []
  | oldest :: lines =>
      if (oldest :: lines).length ≤ maxHistoryEntries ∧
          (oldest :: lines).flatten.length ≤ historyArenaBytes then oldest :: lines
      else dropOldest lines

/-- An empty line is not remembered, nor one that repeats the last. -/
def remember (lines : List (List UInt8)) (line : List UInt8) : List (List UInt8) :=
  if line = [] ∨ lines.getLast? = some line then lines else dropOldest (lines ++ [line])

/-! ## Both rings -/

/-- The entries of lines whose bytes begin at a place of the arena. -/
def placed : Nat → List (List UInt8) → List Entry
  | _, [] => []
  | start, line :: lines =>
      ⟨UInt16.ofNat (start % historyArenaBytes), UInt16.ofNat line.length⟩ ::
        placed (start + line.length) lines

/-- A history with these cells and this ring of entries holds these lines. -/
structure Laid (cells : RingBuffer UInt8 historyArenaBytes) (ring : RingBuffer Entry maxHistoryEntries)
    (history : History) (lines : List (List UInt8)) : Prop where
  arena : history.arena = cells.bytes
  write : history.write = cells.tail
  bytes : history.bytes = cells.len
  entries : history.entries = ring.bytes
  head : history.head = ring.head
  len : history.len = ring.len
  contents : cells.toList = lines.flatten
  places : ring.toList = placed cells.head lines
  short : ∀ line ∈ lines, line.length ≤ historyArenaBytes

def Holds (history : History) (lines : List (List UInt8)) : Prop := ∃ cells ring, Laid cells ring history lines

theorem placed_mod : ∀ (start : Nat) (lines : List (List UInt8)),
    placed (start % historyArenaBytes) lines = placed start lines
  | _, [] => rfl
  | start, line :: lines => by
      unfold placed
      rw [Nat.mod_mod, ← placed_mod (start % historyArenaBytes + line.length), Nat.mod_add_mod,
        placed_mod]

theorem placed_append : ∀ (start : Nat) (lines lines' : List (List UInt8)),
    placed start (lines ++ lines') = placed start lines ++ placed (start + lines.flatten.length) lines'
  | _, [], _ => rfl
  | start, line :: lines, lines' => by
      rw [List.cons_append, placed, placed, placed_append, List.cons_append, List.flatten_cons,
        List.length_append, Nat.add_assoc]

theorem length_placed : ∀ (start : Nat) (lines : List (List UInt8)),
    (placed start lines).length = lines.length
  | _, [] => rfl
  | start, line :: lines => congrArg (· + 1) (length_placed (start + line.length) lines)

variable {i : Nat}

theorem getElem_placed {lines : List (List UInt8)} (hi : i < lines.length) (start : Nat) :
    (placed start lines)[i]? = some ⟨UInt16.ofNat
      ((start + (lines.take i).flatten.length) % historyArenaBytes), UInt16.ofNat lines[i].length⟩ := by
  induction lines generalizing i start with
  | nil => exact absurd hi (Nat.not_lt_zero _)
  | cons line lines ih =>
      cases i with
      | zero => rfl
      | succ i =>
          rw [placed, List.getElem?_cons_succ, ih (Nat.lt_of_succ_lt_succ hi), List.take_succ_cons,
            List.flatten_cons, List.length_append, Nat.add_assoc]
          rfl

theorem map_range_eq {α : Type} {f : Nat → α} {l : List α} :
    (List.range l.length).map f = l ↔ ∀ x ∈ l.zipIdx, f x.2 = x.1 := by
  constructor
  · intro h x hx
    have hfound := List.mem_zipIdx_iff_getElem?.mp hx
    have hlt := (List.getElem?_eq_some_iff.mp hfound).1
    rw [← h, List.getElem?_map, List.getElem?_range hlt] at hfound
    exact Option.some.inj hfound
  · intro h
    refine List.ext_getElem (by rw [List.length_map, List.length_range]) fun i _ hi => ?_
    rw [List.getElem_map, List.getElem_range]
    exact h (l[i], i) (List.mem_zipIdx_iff_getElem?.mpr (List.getElem?_eq_getElem hi))

theorem toNat_entry {n : Nat} (h : n ≤ historyArenaBytes) : (UInt16.ofNat n).toNat = n :=
  UInt16.toNat_ofNat_of_lt (Nat.lt_of_le_of_lt h (by decide))

namespace Laid

variable {cells : RingBuffer UInt8 historyArenaBytes} {ring : RingBuffer Entry maxHistoryEntries}
  {history : History} {lines : List (List UInt8)} {line oldest : List UInt8}

theorem len_eq (h : Laid cells ring history lines) : history.len = lines.length := by
  rw [h.len, ← ring.length_toList, h.places, length_placed]

theorem bytes_eq (h : Laid cells ring history lines) : history.bytes = lines.flatten.length := by
  rw [h.bytes, ← cells.length_toList, h.contents]

theorem len_le (h : Laid cells ring history lines) : lines.length ≤ maxHistoryEntries := by
  rw [← h.len_eq, h.len]
  exact ring.len_le

theorem entryAt_eq (h : Laid cells ring history lines) (hi : i < lines.length) :
    history.entryAt i = ⟨UInt16.ofNat
      ((cells.head + (lines.take i).flatten.length) % historyArenaBytes), UInt16.ofNat lines[i].length⟩ := by
  have hcell : ring.toList[i]? = some (history.entryAt i) := by
    have hlen : i < ring.len := by rwa [← h.len, h.len_eq]
    rw [RingBuffer.toList, List.getElem?_map, List.getElem?_range hlen]
    simp only [History.entryAt, RingBuffer.cell, h.entries, h.head, Option.map_some]
  rw [h.places, getElem_placed hi] at hcell
  exact (Option.some.inj hcell).symm

theorem byteAt_eq (h : Laid cells ring history lines) (hi : i < lines.length) :
    (List.range lines[i].length).map (fun offset => history.byteAt
      ((cells.head + (lines.take i).flatten.length) % historyArenaBytes + offset)) = lines[i] := by
  have hsplit : lines.flatten =
      (lines.take i).flatten ++ (lines[i] ++ (lines.drop (i + 1)).flatten) := by
    rw [← List.flatten_cons, ← List.drop_eq_getElem_cons hi, ← List.flatten_append,
      List.take_append_drop]
  have hcopy : cells.copyFrom (lines.take i).flatten.length lines[i].length = lines[i] := by
    rw [RingBuffer.copyFrom_eq, h.contents, hsplit, List.drop_left, List.take_left]
  unfold RingBuffer.copyFrom at hcopy
  split_ifs at hcopy with hnone
  · rw [← hcopy]
    rfl
  · have hall : min (cells.len - (lines.take i).flatten.length) lines[i].length = lines[i].length := by
      have hlen := congrArg List.length hcopy
      rwa [List.length_map, List.length_range] at hlen
    rw [hall] at hcopy
    refine Eq.trans (List.map_congr_left fun offset _ => ?_) hcopy
    simp only [History.byteAt, RingBuffer.cell, h.arena, Nat.mod_add_mod, Nat.add_assoc]

theorem copyEntry_run {ε : Type} (h : Laid cells ring history lines) (hi : i < lines.length)
    {output : List UInt8} (hroom : lines[i].length ≤ output.length) :
    (history.copyEntry i output : Outcome ε _) =
      .ok (lines[i].length, lines[i] ++ output.drop lines[i].length) := by
  have hlen := toNat_entry (h.short lines[i] (List.getElem_mem hi))
  have hstart := toNat_entry (Nat.le_of_lt (Nat.mod_lt (cells.head + (lines.take i).flatten.length)
    (Nat.succ_pos _ : 0 < historyArenaBytes)))
  unfold History.copyEntry
  dsimp only
  rw [h.entryAt_eq hi]
  dsimp only
  rw [hlen, hstart, if_neg (Nat.not_lt.mpr hroom), h.byteAt_eq hi]

theorem entryEquals_iff (h : Laid cells ring history lines) (hi : i < lines.length) :
    history.entryEquals i line = true ↔ lines[i] = line := by
  have hlen := toNat_entry (h.short lines[i] (List.getElem_mem hi))
  have hstart := toNat_entry (Nat.le_of_lt (Nat.mod_lt (cells.head + (lines.take i).flatten.length)
    (Nat.succ_pos _ : 0 < historyArenaBytes)))
  have hbytes := h.byteAt_eq hi
  unfold History.entryEquals
  dsimp only
  rw [h.entryAt_eq hi]
  dsimp only
  rw [hlen, hstart, Bool.and_eq_true, decide_eq_true_iff, List.all_eq_true]
  have hall : (∀ x ∈ line.zipIdx, decide (history.byteAt
      ((cells.head + (lines.take i).flatten.length) % historyArenaBytes + x.2) = x.1) = true) ↔
        (List.range line.length).map (fun offset => history.byteAt
          ((cells.head + (lines.take i).flatten.length) % historyArenaBytes + offset)) = line := by
    simp only [decide_eq_true_iff]
    exact (map_range_eq (f := fun offset => history.byteAt
      ((cells.head + (lines.take i).flatten.length) % historyArenaBytes + offset))).symm
  rw [hall]
  constructor
  · rintro ⟨hsize, hline⟩
    rw [← hline, ← hsize, hbytes]
  · rintro rfl
    exact ⟨rfl, hbytes⟩

/-! ### One push -/

theorem evictOldest_run {ε : Type} (h : Laid cells ring history (oldest :: lines)) :
    ∃ history', (history.evictOldest : Outcome ε History) = .ok history' ∧ Holds history' lines := by
  have hlen : history.len = lines.length + 1 := h.len_eq
  have hbytes : history.bytes = oldest.length + lines.flatten.length := by
    rw [h.bytes_eq, List.flatten_cons, List.length_append]
  have hhead : history.head < maxHistoryEntries := by
    rw [h.head]
    exact ring.head_lt
  have hentry : getElem history.entries history.head hhead =
      ⟨UInt16.ofNat (cells.head % historyArenaBytes), UInt16.ofNat oldest.length⟩ := by
    have hfirst := h.entryAt_eq (i := 0) (Nat.succ_pos _)
    simpa only [History.entryAt, Nat.add_zero, Nat.mod_eq_of_lt hhead, List.take_zero,
      List.flatten_nil, List.length_nil, List.getElem_cons_zero] using hfirst
  have hsize := toNat_entry (h.short oldest List.mem_cons_self)
  refine ⟨{ history with
    bytes := history.bytes - oldest.length
    head := (history.head + 1) % maxHistoryEntries
    len := history.len - 1 }, ?_, ?_⟩
  · unfold History.evictOldest
    rw [dif_pos hhead, hentry]
    dsimp only
    rw [hsize, Unchecked.sub_ok (by omega), ok_bind, Unchecked.sub_ok (by omega), ok_bind]
  · have hfits : oldest.length ≤ cells.len := by rw [← h.bytes, hbytes]; omega
    have hone : 1 ≤ ring.len := by rw [← h.len, hlen]; omega
    refine ⟨cells.skip oldest.length hfits, ring.skip 1 hone, h.arena, h.write, ?_, h.entries, ?_, ?_,
      ?_, ?_, fun line hline => h.short line (List.mem_cons_of_mem _ hline)⟩
    · exact congrArg (· - oldest.length) h.bytes
    · exact congrArg (fun head => (head + 1) % maxHistoryEntries) h.head
    · exact congrArg (· - 1) h.len
    · rw [RingBuffer.toList_skip, h.contents, List.flatten_cons, List.drop_left]
    · rw [RingBuffer.toList_skip, h.places]
      exact (placed_mod _ _).symm

end Laid

/-- What is left of the lines once there is room for one more. -/
def room (size : Nat) : List (List UInt8) → List (List UInt8)
  | [] => []
  | oldest :: lines =>
      if (oldest :: lines).length = maxHistoryEntries ∨
          historyArenaBytes < (oldest :: lines).flatten.length + size then room size lines
      else oldest :: lines

theorem makeRoom_run {ε : Type} {size : Nat} (hsize : size ≤ historyArenaBytes) :
    ∀ {lines : List (List UInt8)} {turns : Nat} {history : History}, Holds history lines →
      lines.length < turns →
      ∃ history', (History.makeRoom size turns history : Outcome ε History) = .ok history' ∧
        Holds history' (room size lines)
  | _, 0, _, _, hturns => absurd hturns (Nat.not_lt_zero _)
  | [], turns + 1, history, h, _ => by
      obtain ⟨cells, ring, hlaid⟩ := h
      have hlen : history.len = 0 := hlaid.len_eq
      have hbytes : history.bytes = 0 := hlaid.bytes_eq
      refine ⟨history, ?_, cells, ring, hlaid⟩
      rw [History.makeRoom, hlen, hbytes, Nat.zero_add, decide_eq_false (Nat.not_lt.mpr hsize)]
      rfl
  | oldest :: lines, turns + 1, history, h, hturns => by
      obtain ⟨cells, ring, hlaid⟩ := h
      have hfull : (history.len = maxHistoryEntries || historyArenaBytes < history.bytes + size) = true ↔
          (oldest :: lines).length = maxHistoryEntries ∨
            historyArenaBytes < (oldest :: lines).flatten.length + size := by
        rw [Bool.or_eq_true, decide_eq_true_iff, decide_eq_true_iff, hlaid.len_eq, hlaid.bytes_eq]
      unfold room History.makeRoom
      simp only [hfull]
      split_ifs
      · obtain ⟨evicted, hevict, hrest⟩ := hlaid.evictOldest_run (ε := ε)
        rw [hevict, ok_bind]
        exact makeRoom_run hsize hrest (Nat.lt_of_succ_lt_succ hturns)
      · exact ⟨history, rfl, cells, ring, hlaid⟩

theorem room_fits {size : Nat} (hsize : size ≤ historyArenaBytes) : ∀ {lines : List (List UInt8)},
    lines.length ≤ maxHistoryEntries → (room size lines).length < maxHistoryEntries ∧
      (room size lines).flatten.length + size ≤ historyArenaBytes
  | [], _ => ⟨Nat.succ_pos _, by rwa [room, List.flatten_nil, List.length_nil, Nat.zero_add]⟩
  | oldest :: lines, hlen => by
      unfold room
      split_ifs with hfull
      · exact room_fits hsize (Nat.le_of_succ_le hlen)
      · obtain ⟨hentries, hbytes⟩ := not_or.mp hfull
        exact ⟨Nat.lt_of_le_of_ne hlen hentries, Nat.not_lt.mp hbytes⟩

theorem dropOldest_snoc {line : List UInt8} (hsize : line.length ≤ historyArenaBytes) :
    ∀ {lines : List (List UInt8)}, lines.length ≤ maxHistoryEntries →
      dropOldest (lines ++ [line]) = room line.length lines ++ [line]
  | [], _ => by
      rw [List.nil_append, dropOldest, if_pos ⟨Nat.succ_pos _, by simpa using hsize⟩]
      rfl
  | oldest :: lines, hlen => by
      have hfull : ((oldest :: (lines ++ [line])).length ≤ maxHistoryEntries ∧
          (oldest :: (lines ++ [line])).flatten.length ≤ historyArenaBytes) ↔
            ¬ ((oldest :: lines).length = maxHistoryEntries ∨
              historyArenaBytes < (oldest :: lines).flatten.length + line.length) := by
        rw [← List.cons_append, List.length_append, List.length_singleton, List.flatten_append,
          List.length_append, List.flatten_singleton]
        omega
      rw [List.cons_append, dropOldest, room]
      simp only [hfull]
      split_ifs
      · exact dropOldest_snoc hsize (Nat.le_of_succ_le hlen)
      · rfl

theorem store_run {ε : Type} :
    ∀ {line : List UInt8} {cells : RingBuffer UInt8 historyArenaBytes} {history : History},
      history.arena = cells.bytes → history.write = cells.tail →
      cells.len + line.length ≤ historyArenaBytes →
      ∃ cells' : RingBuffer UInt8 historyArenaBytes,
        (line.foldlM History.storeByte history : Outcome ε History) =
          .ok { history with arena := cells'.bytes, write := cells'.tail } ∧
        cells'.head = cells.head ∧ cells'.toList = cells.toList ++ line
  | [], cells, history, harena, hwrite, _ =>
      ⟨cells, by rw [← harena, ← hwrite]; rfl, rfl, (List.append_nil _).symm⟩
  | byte :: line, cells, ⟨arena, entries, head, len, bytes, write⟩, harena, hwrite, hroom => by
      dsimp only at harena hwrite
      subst harena hwrite
      rw [List.length_cons] at hroom
      have hlt : cells.toList.length < historyArenaBytes := by rw [cells.length_toList]; omega
      obtain ⟨hbytes, hhead, htail, hlen⟩ := cells.push_cells (a := byte) hlt
      obtain ⟨cells', hstore, hhead', hlist⟩ := @store_run ε line (cells.push byte).2
        ⟨_, entries, head, len, bytes, _⟩ hbytes.symm htail.symm (by omega)
      refine ⟨cells', ?_, hhead'.trans hhead, ?_⟩
      · rw [List.foldlM_cons, History.storeByte, dif_pos cells.tail_lt, ok_bind]
        exact hstore
      · rw [hlist, (RingBuffer.push_room hlt).2, List.append_assoc]
        rfl

theorem addEntry_run {cells : RingBuffer UInt8 historyArenaBytes}
    {ring : RingBuffer Entry maxHistoryEntries} {history : History} {lines : List (List UInt8)}
    {line : List UInt8} {cells' : RingBuffer UInt8 historyArenaBytes}
    (h : Laid cells ring history lines) (hlen : lines.length < maxHistoryEntries)
    (hsize : line.length ≤ historyArenaBytes)
    (hhead : cells'.head = cells.head) (hlist : cells'.toList = cells.toList ++ line) :
    Holds ({ history with arena := cells'.bytes, write := cells'.tail }.addEntry history.write
      line.length) (lines ++ [line]) := by
  have hroom : ring.toList.length < maxHistoryEntries := by rwa [ring.length_toList, ← h.len, h.len_eq]
  obtain ⟨hbytes, hrhead, -, hrlen⟩ := ring.push_cells
    (a := ⟨UInt16.ofNat history.write, UInt16.ofNat line.length⟩) hroom
  have hplace : history.write = (cells.head + lines.flatten.length) % historyArenaBytes := by
    rw [h.write, cells.tail_eq, ← h.bytes_eq, h.bytes]
  refine ⟨cells', (ring.push ⟨UInt16.ofNat history.write, UInt16.ofNat line.length⟩).2, rfl, rfl, ?_,
    ?_, ?_, ?_, ?_, ?_, ?_⟩
  · show history.bytes + line.length = _
    rw [h.bytes, ← cells.length_toList, ← cells'.length_toList, hlist, List.length_append]
  · rw [hbytes]
    show Vector.set history.entries ((history.head + history.len) % maxHistoryEntries) _
      (Nat.mod_lt _ (Nat.succ_pos _)) = _
    congr 1
    · exact h.entries
    · rw [h.head, h.len, ring.tail_eq]
  · exact h.head.trans hrhead.symm
  · exact (congrArg (· + 1) h.len).trans hrlen.symm
  · rw [hlist, h.contents, List.flatten_append, List.flatten_singleton]
  · rw [(RingBuffer.push_room hroom).2, h.places, placed_append, hhead, hplace]
    rfl
  · intro other hother
    rcases List.mem_append.mp hother with hother | hother
    · exact h.short other hother
    · rwa [List.mem_singleton.mp hother]

theorem push_run {ε : Type} {history : History} {lines : List (List UInt8)} {line : List UInt8}
    (h : Holds history lines) (hsize : line.length ≤ historyArenaBytes) :
    ∃ history', (history.push line : Outcome ε History) = .ok history' ∧
      Holds history' (remember lines line) := by
  obtain ⟨cells, ring, hlaid⟩ := h
  have hempty : (line.isEmpty || historyArenaBytes < line.length) = true ↔ line = [] := by
    rw [Bool.or_eq_true, List.isEmpty_iff, decide_eq_true_iff]
    exact or_iff_left (Nat.not_lt.mpr hsize)
  have hrepeats : (history.len ≠ 0 && history.entryEquals (history.len - 1) line) = true ↔
      lines.getLast? = some line := by
    rw [hlaid.len_eq, Bool.and_eq_true, decide_eq_true_iff]
    rcases List.eq_nil_or_concat' lines with rfl | ⟨front, last, rfl⟩
    · exact iff_of_false (fun h => h.1 rfl) (by rintro ⟨⟩)
    · rw [hlaid.entryEquals_iff (by simp), List.getLast?_concat]
      simp
  unfold remember History.push
  by_cases hnone : line = []
  · rw [if_pos (hempty.mpr hnone), if_pos (.inl hnone)]
    exact ⟨history, rfl, cells, ring, hlaid⟩
  by_cases hlast : lines.getLast? = some line
  · rw [if_neg (mt hempty.mp hnone), if_pos (hrepeats.mpr hlast), if_pos (.inr hlast)]
    exact ⟨history, rfl, cells, ring, hlaid⟩
  rw [if_neg (mt hempty.mp hnone), if_neg (mt hrepeats.mp hlast), if_neg (by simp [hnone, hlast])]
  obtain ⟨roomy, hmake, cells', ring', hroomy⟩ := makeRoom_run (ε := ε) hsize ⟨cells, ring, hlaid⟩
    (hlaid.len_eq ▸ Nat.lt_succ_self _ : lines.length < history.len + 1)
  obtain ⟨hentries, hbytes⟩ := room_fits hsize hlaid.len_le
  obtain ⟨stored, hstore, hhead, hlist⟩ := store_run (ε := ε) hroomy.arena hroomy.write
    (by rwa [← hroomy.bytes, hroomy.bytes_eq])
  rw [hmake, ok_bind, hstore, ok_bind, dropOldest_snoc hsize hlaid.len_le]
  exact ⟨_, rfl, addEntry_run hroomy hentries hsize hhead hlist⟩

/-! ## Whole histories -/

theorem new_holds : Holds History.new [] :=
  ⟨RingBuffer.new 0 (Nat.succ_pos _), RingBuffer.new ⟨0, 0⟩ (Nat.succ_pos _), rfl, rfl, rfl, rfl, rfl, rfl,
    rfl, rfl, List.forall_mem_nil _⟩

theorem pushes_run {ε : Type} : ∀ {pushed lines : List (List UInt8)} {history : History},
    Holds history lines → (∀ line ∈ pushed, line.length ≤ historyArenaBytes) →
      ∃ history', (pushed.foldlM History.push history : Outcome ε History) = .ok history' ∧
        Holds history' (pushed.foldl remember lines)
  | [], _, history, h, _ => ⟨history, rfl, h⟩
  | line :: pushed, lines, history, h, hshort => by
      obtain ⟨hline, hpushed⟩ := List.forall_mem_cons.mp hshort
      obtain ⟨history', hpush, hnext⟩ := push_run (ε := ε) h hline
      rw [List.foldlM_cons, hpush, ok_bind]
      exact pushes_run hnext hpushed

theorem dropOldest_suffix : ∀ lines, dropOldest lines <:+ lines
  | [] => List.suffix_rfl
  | oldest :: lines => by
      unfold dropOldest
      split_ifs
      · exact List.suffix_rfl
      · exact (dropOldest_suffix lines).trans (List.suffix_cons oldest lines)

theorem mem_remember {lines : List (List UInt8)} {line other : List UInt8}
    (h : other ∈ remember lines line) : other ∈ lines ∨ other = line := by
  unfold remember at h
  split_ifs at h
  · exact .inl h
  · simpa using (dropOldest_suffix _).subset h

theorem mem_remembered : ∀ {pushed lines : List (List UInt8)} {other : List UInt8},
    other ∈ pushed.foldl remember lines → other ∈ lines ∨ other ∈ pushed
  | [], _, _, h => .inl h
  | line :: pushed, lines, other, h => by
      rcases @mem_remembered pushed (remember lines line) _ h with h | h
      · rcases mem_remember h with h | rfl
        · exact .inl h
        · exact .inr List.mem_cons_self
      · exact .inr (List.mem_cons_of_mem _ h)

/-- Whatever lines are pushed, the history is the list of the lines it remembers: so many entries and
bytes, and copies of the entries that are these lines. -/
theorem history_exact {ε : Type} (pushed : List (List UInt8))
    (hpushed : ∀ line ∈ pushed, line.length ≤ maxLineBytes) :
    ∃ history, (pushed.foldlM History.push History.new : Outcome ε History) = .ok history ∧
      history.len = (pushed.foldl remember []).length ∧
      history.bytes = (pushed.foldl remember []).flatten.length ∧
      ∀ i line, (pushed.foldl remember [])[i]? = some line →
        ∀ output : List UInt8, output.length = maxLineBytes →
          (history.copyEntry i output : Outcome ε _) =
            .ok (line.length, line ++ output.drop line.length) := by
  obtain ⟨history, hrun, cells, ring, hlaid⟩ := pushes_run (ε := ε) new_holds
    fun line hline => Nat.le_trans (hpushed line hline) (by decide)
  refine ⟨history, hrun, hlaid.len_eq, hlaid.bytes_eq, fun i line hi output houtput => ?_⟩
  obtain ⟨hlt, rfl⟩ := List.getElem?_eq_some_iff.mp hi
  refine hlaid.copyEntry_run hlt ?_
  rw [houtput]
  rcases mem_remembered (List.mem_of_getElem? hi) with hnone | hline
  · cases hnone
  · exact hpushed _ hline

theorem history_exact_letters : ∃ history,
    ([[97], [98], [98]].foldlM History.push History.new : Outcome Unit History) = .ok history ∧
      history.len = ([[97], [98], [98]].foldl remember []).length ∧
      history.bytes = ([[97], [98], [98]].foldl remember []).flatten.length ∧
      ∀ i line, ([[97], [98], [98]].foldl remember [])[i]? = some line →
        ∀ output : List UInt8, output.length = maxLineBytes →
          (history.copyEntry i output : Outcome Unit _) =
            .ok (line.length, line ++ output.drop line.length) :=
  history_exact [[97], [98], [98]] (by decide)

end Wyrmroot.Shell
