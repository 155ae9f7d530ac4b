import Wyrmroot.Uefi.Publication

/-!
# The firmware memory map

`loader/src/memory_map.rs`: the descriptors that the firmware leaves behind, in
order of their addresses, become the records of the handoff. Neighbours of one
kind with one set of attributes are merged as they are read, into the last
record that was written.
-/

namespace Wyrmroot.Uefi

open Outcome
open Loader (checkedAdd checkedAdd_eq_some)
open Startup (checkedMul checkedMul_eq_some)

inductive UefiMemoryKind where
  | conventional
  | bootServices
  | loader
  | reserved
  | acpiReclaim
  | acpiNvs
  | mmio
  | runtimeServices
  | unusable
deriving DecidableEq

structure FirmwareMemoryDescriptor where
  kind : Option UefiMemoryKind
  physicalStart : Nat
  pageCount : Nat
  firmwareAttributes : Nat
deriving DecidableEq

inductive MemoryMapError where
  | unknownMemoryKind
  | emptyRange
  | physicalAddressUnaligned
  | rangeOverflow
  | unsortedInput
  | overlappingInput
  | outputExhausted
deriving DecidableEq

abbrev MapCheck (α : Type) := Outcome MemoryMapError α

namespace MemoryMap

section Code

variable (abi : DeepwyrmAbi)

def normalizeKind : UefiMemoryKind → UInt32
  | .conventional | .bootServices => abi.memoryKindUsable
  | .loader | .reserved => abi.memoryKindReserved
  | .acpiReclaim => abi.memoryKindAcpiReclaim
  | .acpiNvs => abi.memoryKindAcpiNvs
  | .mmio => abi.memoryKindMmio
  | .runtimeServices => abi.memoryKindRuntimeServices
  | .unusable => abi.memoryKindUnusable

def pageRangeEnd (physicalStart pageCount : Nat) : MapCheck Nat := do
  let byteLen ← okOr (checkedMul pageCount abi.basePageSize.toNat) .rangeOverflow
  okOr (checkedAdd physicalStart byteLen) .rangeOverflow

def checkedEnd (physicalStart pageCount : Nat) : MapCheck Nat := do
  rejectIf (pageCount = 0) .emptyRange
  rejectIf (!isMultipleOf physicalStart abi.basePageSize.toNat) .physicalAddressUnaligned
  pageRangeEnd abi physicalStart pageCount

/-- The variables of the loop; `output` is what is written of the buffer, and
`previousInput` the start and the end of the last descriptor. -/
structure Coalescing where
  output : List DwBootMemoryRangeV1
  previousInput : Option (Nat × Nat)
deriving DecidableEq

def checkPreviousInput (previousInput : Option (Nat × Nat)) (physicalStart : Nat) :
    MapCheck Unit :=
  match previousInput with
  | none => .ok ()
  | some (previousStart, previousEnd) => do
      rejectIf (physicalStart < previousStart) .unsortedInput
      rejectIf (physicalStart < previousEnd) .overlappingInput

/-- `can_merge`. -/
def canMerge (output : List DwBootMemoryRangeV1) (kind : UInt32)
    (descriptor : FirmwareMemoryDescriptor) : MapCheck Bool :=
  match output.getLast? with
  | none => .ok false
  | some previous =>
      if previous.kind = kind ∧ previous.firmwareAttributes = descriptor.firmwareAttributes then do
        let previousEnd ← pageRangeEnd abi previous.physicalStart previous.pageCount
        pure (previousEnd = descriptor.physicalStart)
      else .ok false

def mergeLast (output : List DwBootMemoryRangeV1) (descriptor : FirmwareMemoryDescriptor) :
    MapCheck (List DwBootMemoryRangeV1) :=
  match output.getLast? with
  | none => .panic
  | some previous => do
      let pageCount ← okOr (checkedAdd previous.pageCount descriptor.pageCount) .rangeOverflow
      pure (output.dropLast ++ [{ previous with pageCount }])

def appendSlot (capacity : Nat) (output : List DwBootMemoryRangeV1) (kind : UInt32)
    (descriptor : FirmwareMemoryDescriptor) : MapCheck (List DwBootMemoryRangeV1) := do
  rejectIf (capacity ≤ output.length) .outputExhausted
  let _ ← okOr (checkedAdd output.length 1) .outputExhausted
  pure (output ++ [{
    size := abi.memoryRangeV1Size, version := abi.memoryRangeV1Version, kind, reserved0 := 0
    physicalStart := descriptor.physicalStart, pageCount := descriptor.pageCount
    firmwareAttributes := descriptor.firmwareAttributes, reserved := [0, 0, 0] }])

/-- The second half of the body: the record of a descriptor that is admitted. -/
def place (capacity : Nat) (output : List DwBootMemoryRangeV1) (kind : UInt32)
    (descriptor : FirmwareMemoryDescriptor) : MapCheck (List DwBootMemoryRangeV1) := do
  let merge ← canMerge abi output kind descriptor
  if merge then mergeLast output descriptor else appendSlot abi capacity output kind descriptor

/-- The body of the loop, over a buffer of `capacity` records. -/
def coalesceDescriptor (capacity : Nat) (state : Coalescing)
    (descriptor : FirmwareMemoryDescriptor) : MapCheck Coalescing := do
  let kind ← okOr (descriptor.kind.map (normalizeKind abi)) .unknownMemoryKind
  let stop ← checkedEnd abi descriptor.physicalStart descriptor.pageCount
  checkPreviousInput state.previousInput descriptor.physicalStart
  let output ← place abi capacity state.output kind descriptor
  pure ⟨output, some (descriptor.physicalStart, stop)⟩

def normalizeAndCoalesce (input : List FirmwareMemoryDescriptor) (capacity : Nat) :
    MapCheck (List DwBootMemoryRangeV1) := do
  let state ← input.foldlM (coalesceDescriptor abi capacity) ⟨[], none⟩
  pure state.output

end Code

end MemoryMap

/-! ## What is written -/

section Records

variable (abi : DeepwyrmAbi)

/-- A label is a kind with the attributes. -/
def DwBootMemoryRangeV1.run (entry : DwBootMemoryRangeV1) : Stretch (UInt32 × Nat) :=
  ⟨entry.region abi, entry.kind, entry.firmwareAttributes⟩

/-- What the descriptor assigns to its pages. -/
def FirmwareMemoryDescriptor.run (descriptor : FirmwareMemoryDescriptor) :
    Option (Stretch (UInt32 × Nat)) :=
  descriptor.kind.map fun kind =>
    ⟨⟨descriptor.physicalStart, descriptor.pageCount * abi.basePageSize.toNat⟩,
      MemoryMap.normalizeKind abi kind, descriptor.firmwareAttributes⟩

def runsOf (input : List FirmwareMemoryDescriptor) : List (Stretch (UInt32 × Nat)) :=
  input.filterMap (FirmwareMemoryDescriptor.run abi)

/-- A record as the loop writes it. -/
structure DwBootMemoryRangeV1.Written (entry : DwBootMemoryRangeV1) : Prop where
  header : entry.size = abi.memoryRangeV1Size ∧ entry.version = abi.memoryRangeV1Version
  reserved : entry.reserved0 = 0 ∧ entry.reserved = [0, 0, 0]
  kind : isKnownMemoryKind abi entry.kind = true
  count : 0 < entry.pageCount
  aligned : isMultipleOf entry.physicalStart abi.basePageSize.toNat = true
  stop_lt : (entry.region abi).stop < 2 ^ 64

end Records

namespace MemoryMap

variable {abi : DeepwyrmAbi} {capacity : Nat} {descriptor : FirmwareMemoryDescriptor}
  {output output' : List DwBootMemoryRangeV1} {entry last : DwBootMemoryRangeV1} {kind : UInt32}

theorem isKnown_normalizeKind (kind : UefiMemoryKind) :
    isKnownMemoryKind abi (normalizeKind abi kind) = true := by
  cases kind <;> simp [isKnownMemoryKind, normalizeKind]

theorem pageRangeEnd_eq_ok {start count stop : Nat} : pageRangeEnd abi start count = .ok stop ↔
    start + count * abi.basePageSize.toNat < 2 ^ 64
      ∧ start + count * abi.basePageSize.toNat = stop := by
  simp only [pageRangeEnd, bind_eq_ok, okOr_eq_ok, checkedMul_eq_some, checkedAdd_eq_some]
  constructor
  · rintro ⟨_, ⟨-, rfl⟩, hstop⟩
    exact hstop
  · intro hstop
    exact ⟨_, ⟨by omega, rfl⟩, hstop⟩

theorem checkedEnd_eq_ok {start count stop : Nat} : checkedEnd abi start count = .ok stop ↔
    0 < count ∧ isMultipleOf start abi.basePageSize.toNat = true
      ∧ start + count * abi.basePageSize.toNat < 2 ^ 64
      ∧ start + count * abi.basePageSize.toNat = stop := by
  simp only [checkedEnd, bind_eq_ok, rejectIf_eq_ok, exists_const, decide_eq_false_iff_not,
    Bool.not_eq_false', pageRangeEnd_eq_ok, Nat.pos_iff_ne_zero]

theorem canMerge_nil : canMerge abi [] kind descriptor = .ok false := rfl

variable {r : Stretch (UInt32 × Nat)}

theorem canMerge_snoc (h : last.Written abi)
    (hr : r.region.start = descriptor.physicalStart ∧ r.label = (kind, descriptor.firmwareAttributes)) :
    canMerge abi (output ++ [last]) kind descriptor = .ok (decide ((last.run abi).Joins r)) := by
  have hlast : (output ++ [last]).getLast? = some last := by simp
  have hend : pageRangeEnd abi last.physicalStart last.pageCount = .ok (last.region abi).stop :=
    pageRangeEnd_eq_ok.mpr ⟨h.stop_lt, rfl⟩
  have hlabel : (last.run abi).label = r.label ↔
      last.kind = kind ∧ last.firmwareAttributes = descriptor.firmwareAttributes := by
    rw [hr.2]
    exact Prod.mk.injEq .. ▸ Iff.rfl
  rw [canMerge, hlast]
  dsimp only
  rw [hend, ok_bind]
  split_ifs with hkind
  · refine congrArg Outcome.ok ?_
    rw [decide_eq_decide, ← hr.1]
    exact ⟨fun hstop => ⟨hlabel.mpr hkind, hstop⟩, fun hjoin => hjoin.2⟩
  · refine congrArg Outcome.ok ?_
    exact (decide_eq_false fun hjoin => hkind (hlabel.mp hjoin.1)).symm

/-- The descriptor is one that passed its checks, and `r` what it assigns. -/
structure Admits (abi : DeepwyrmAbi) (descriptor : FirmwareMemoryDescriptor) (kind : UInt32)
    (r : Stretch (UInt32 × Nat)) : Prop where
  run : r = ⟨⟨descriptor.physicalStart, descriptor.pageCount * abi.basePageSize.toNat⟩, kind,
    descriptor.firmwareAttributes⟩
  kind : isKnownMemoryKind abi kind = true
  count : 0 < descriptor.pageCount
  aligned : isMultipleOf descriptor.physicalStart abi.basePageSize.toNat = true
  stop_lt : r.region.stop < 2 ^ 64

theorem appendSlot_ok (hr : Admits abi descriptor kind r) (hwritten : ∀ e ∈ output, e.Written abi)
    (h : appendSlot abi capacity output kind descriptor = .ok output') :
    output'.map (·.run abi) = output.map (·.run abi) ++ [r] ∧ ∀ e ∈ output', e.Written abi := by
  simp only [appendSlot, bind_eq_ok] at h
  obtain ⟨_, -, _, -, heq⟩ := h
  obtain rfl := Outcome.ok.inj heq
  have hstop := hr.stop_lt
  rw [hr.run] at hstop ⊢
  refine ⟨List.map_append, fun e he => ?_⟩
  rcases List.mem_append.mp he with he | he
  · exact hwritten e he
  · rw [List.mem_singleton.mp he]
    exact ⟨⟨rfl, rfl⟩, ⟨rfl, rfl⟩, hr.kind, hr.count, hr.aligned, hstop⟩

theorem appendSlot_exhausted (hcapacity : capacity < 2 ^ 64)
    (h : appendSlot abi capacity output kind descriptor = .err .outputExhausted) :
    capacity ≤ output.length := by
  by_contra hlt
  have hsum : checkedAdd output.length 1 = some (output.length + 1) :=
    checkedAdd_eq_some.mpr ⟨by omega, rfl⟩
  rw [appendSlot, decide_eq_false hlt, hsum] at h
  cases h

theorem mergeLast_ok (hpage : 0 < abi.basePageSize.toNat)
    (hr : Admits abi descriptor kind r) (hwritten : ∀ e ∈ output ++ [last], e.Written abi)
    (hjoin : (last.run abi).Joins r) : ∃ output',
      mergeLast (output ++ [last]) descriptor = .ok output'
        ∧ output'.map (·.run abi) = output.map (·.run abi) ++ [(last.run abi).extend r]
        ∧ ∀ e ∈ output', e.Written abi := by
  have hgetLast : (output ++ [last]).getLast? = some last := by simp
  have hlast := hwritten last (by simp)
  have hstop := (Stretch.extend_stop hjoin).trans_lt hr.stop_lt
  rw [hr.run] at hstop ⊢
  have hmul : (last.pageCount + descriptor.pageCount) * abi.basePageSize.toNat
      = last.pageCount * abi.basePageSize.toNat
        + descriptor.pageCount * abi.basePageSize.toNat := Nat.add_mul ..
  have hsum : checkedAdd last.pageCount descriptor.pageCount
      = some (last.pageCount + descriptor.pageCount) := by
    refine checkedAdd_eq_some.mpr ⟨?_, rfl⟩
    have hle := Nat.le_mul_of_pos_right (last.pageCount + descriptor.pageCount) hpage
    unfold Stretch.extend DwBootMemoryRangeV1.run DwBootMemoryRangeV1.region Region.stop at hstop
    dsimp only at hstop
    omega
  refine ⟨_, by rw [mergeLast, hgetLast]; dsimp only; rw [hsum]; rfl, ?_, fun e he => ?_⟩
  · rw [List.dropLast_concat, List.map_append, List.map_singleton]
    simp only [DwBootMemoryRangeV1.run, DwBootMemoryRangeV1.region, Stretch.extend, hmul]
  · rw [List.dropLast_concat] at he
    rcases List.mem_append.mp he with he | he
    · exact hwritten e (List.mem_append_left _ he)
    · rw [List.mem_singleton.mp he]
      refine ⟨hlast.header, hlast.reserved, hlast.kind, Nat.add_pos_left hlast.count _,
        hlast.aligned, ?_⟩
      simp only [DwBootMemoryRangeV1.run, DwBootMemoryRangeV1.region, Stretch.extend, ← hmul] at hstop
      exact hstop

theorem place_ends (hpage : 0 < abi.basePageSize.toNat)
    (hcapacity : capacity < 2 ^ 64) (hr : Admits abi descriptor kind r)
    (hwritten : ∀ e ∈ output, e.Written abi) :
    (∀ output', place abi capacity output kind descriptor = .ok output' →
      output'.map (·.run abi) = Stretch.push (output.map (·.run abi)) r ∧ ∀ e ∈ output', e.Written abi)
    ∧ (place abi capacity output kind descriptor = .err .outputExhausted →
      capacity < (Stretch.push (output.map (·.run abi)) r).length) := by
  unfold place
  rcases List.eq_nil_or_concat output with rfl | ⟨out, last, rfl⟩
  · rw [canMerge_nil, ok_bind, if_neg Bool.false_ne_true]
    refine ⟨fun output' h => appendSlot_ok hr hwritten h, fun h => ?_⟩
    exact Nat.lt_succ_of_le (appendSlot_exhausted hcapacity h)
  rw [List.concat_eq_append] at hwritten ⊢
  have hstart : r.region.start = descriptor.physicalStart
      ∧ r.label = (kind, descriptor.firmwareAttributes) := by
    rw [hr.run]
    exact ⟨rfl, rfl⟩
  rw [canMerge_snoc (hwritten last (by simp)) hstart, ok_bind, List.map_append, List.map_singleton,
    Stretch.push_snoc]
  by_cases hjoin : (last.run abi).Joins r
  · obtain ⟨merged, hmerged, hruns, hall⟩ := mergeLast_ok hpage hr hwritten hjoin
    rw [decide_eq_true hjoin, if_pos rfl, if_pos hjoin, hmerged]
    refine ⟨fun output' h => ?_, fun h => by cases h⟩
    obtain rfl := Outcome.ok.inj h
    exact ⟨hruns, hall⟩
  · rw [decide_eq_false hjoin, if_neg Bool.false_ne_true, if_neg hjoin]
    refine ⟨fun output' h => ?_, fun h => ?_⟩
    · have hruns := appendSlot_ok hr hwritten h
      rwa [List.map_append, List.map_singleton] at hruns
    · have hfull := appendSlot_exhausted hcapacity h
      simp only [List.length_append, List.length_map, List.length_singleton] at hfull ⊢
      omega

/-! ## The loop -/

/-- What the loop has made of the runs so far. -/
structure Holds (abi : DeepwyrmAbi) (runs : List (Stretch (UInt32 × Nat))) (state : Coalescing) :
    Prop where
  output : state.output.map (·.run abi) = Stretch.pushAll runs
  written : ∀ e ∈ state.output, e.Written abi
  ordered : Stretch.Ordered runs
  previous : ∀ r ∈ runs, ∃ p ∈ state.previousInput, r.region.stop ≤ p.2

theorem checkPreviousInput_eq_ok {previousInput : Option (Nat × Nat)} {start : Nat} {u : Unit}
    (h : checkPreviousInput previousInput start = .ok u) : ∀ p ∈ previousInput, p.2 ≤ start := by
  rintro ⟨previousStart, previousEnd⟩ rfl
  simp only [checkPreviousInput, bind_eq_ok, rejectIf_eq_ok, exists_const,
    decide_eq_false_iff_not, Nat.not_lt] at h
  exact h.2

variable {state : Coalescing}

theorem ordered_snoc {runs : List (Stretch (UInt32 × Nat))} (hstate : Holds abi runs state)
    (hlen : 0 < r.region.len)
    (hprevious : ∀ p ∈ state.previousInput, p.2 ≤ r.region.start) : Stretch.Ordered
    (runs ++ [r]) := by
  refine ⟨fun s hs => ?_, List.pairwise_append.mpr ⟨hstate.ordered.sorted,
    List.pairwise_singleton _ _, fun s hs t ht => ?_⟩⟩
  · rcases List.mem_append.mp hs with hs | hs
    · exact hstate.ordered.nonempty s hs
    · rw [List.mem_singleton.mp hs]
      exact hlen
  · rw [List.mem_singleton.mp ht]
    obtain ⟨p, hp, hle⟩ := hstate.previous s hs
    exact Nat.le_trans hle (hprevious p hp)

theorem admitted {runs : List (Stretch (UInt32 × Nat))} {stop : Nat} {u : Unit}
    (hpage : 0 < abi.basePageSize.toNat) (hstate : Holds abi runs state)
    (hkind : descriptor.kind.map (normalizeKind abi) = some kind)
    (hstop : checkedEnd abi descriptor.physicalStart descriptor.pageCount = .ok stop)
    (hprevious : checkPreviousInput state.previousInput descriptor.physicalStart = .ok u) :
    ∃ r, descriptor.run abi = some r ∧ Admits abi descriptor kind r ∧ Stretch.Ordered (runs ++ [r])
      ∧ r.region.stop = stop := by
  obtain ⟨hcount, haligned, hlt, rfl⟩ := checkedEnd_eq_ok.mp hstop
  obtain ⟨found, hfound, rfl⟩ := Option.map_eq_some_iff.mp hkind
  refine ⟨_, by rw [FirmwareMemoryDescriptor.run, hfound]; rfl,
    ⟨rfl, isKnown_normalizeKind found, hcount, haligned, hlt⟩, ?_, rfl⟩
  exact ordered_snoc hstate (Nat.mul_pos hcount hpage) (checkPreviousInput_eq_ok hprevious)

theorem coalesceDescriptor_ok {runs : List (Stretch (UInt32 × Nat))} {state' : Coalescing}
    (hpage : 0 < abi.basePageSize.toNat) (hcapacity : capacity < 2 ^ 64)
    (hstate : Holds abi runs state)
    (h : coalesceDescriptor abi capacity state descriptor = .ok state') :
    ∃ r, descriptor.run abi = some r ∧ Holds abi (runs ++ [r]) state' := by
  simp only [coalesceDescriptor, bind_eq_ok, okOr_eq_ok] at h
  obtain ⟨kind, hkind, stop, hstop, _, hprevious, output, houtput, heq⟩ := h
  obtain rfl := Outcome.ok.inj heq
  obtain ⟨r, hrun, hadmits, hordered, hend⟩ := admitted hpage hstate hkind hstop hprevious
  obtain ⟨hruns, hwritten⟩ := (place_ends hpage hcapacity hadmits hstate.written).1 output houtput
  refine ⟨r, hrun, by rw [hruns, hstate.output, Stretch.pushAll_snoc], hwritten, hordered, ?_⟩
  intro s hs
  refine ⟨_, rfl, ?_⟩
  rw [← hend]
  rcases List.mem_append.mp hs with hs | hs
  · have hbefore := (List.pairwise_append.mp hordered.sorted).2.2 s hs r (List.mem_singleton_self _)
    exact Nat.le_trans hbefore r.region.start_le_stop
  · rw [List.mem_singleton.mp hs]

theorem coalesceDescriptor_exhausted {runs : List (Stretch (UInt32 × Nat))}
    (hpage : 0 < abi.basePageSize.toNat) (hcapacity : capacity < 2 ^ 64)
    (hstate : Holds abi runs state)
    (h : coalesceDescriptor abi capacity state descriptor = .err .outputExhausted) :
    ∃ r, descriptor.run abi = some r ∧ Stretch.Ordered (runs ++ [r])
      ∧ capacity < (Stretch.pushAll (runs ++ [r])).length := by
  have hrefuses : Refuses (coalesceDescriptor abi capacity state descriptor) fun e =>
      e = .outputExhausted → ∃ r, descriptor.run abi = some r ∧ Stretch.Ordered (runs ++ [r])
        ∧ capacity < (Stretch.pushAll (runs ++ [r])).length := by
    have hstops : Refuses (checkedEnd abi descriptor.physicalStart descriptor.pageCount)
        (· ≠ .outputExhausted) :=
      (Refuses.rejectIf _ (by simp)).bind fun _ _ => (Refuses.rejectIf _ (by simp)).bind
        fun _ _ => (Refuses.okOr _ (by simp)).bind fun _ _ => Refuses.okOr _ (by simp)
    have hchecks : Refuses (checkPreviousInput state.previousInput descriptor.physicalStart)
        (· ≠ .outputExhausted) := by
      cases state.previousInput with
      | none => exact .ok ()
      | some p => exact (Refuses.rejectIf _ (by simp)).bind fun _ _ => .rejectIf _ (by simp)
    refine (Refuses.okOr _ (by simp)).bind fun kind hkind => ?_
    refine Refuses.bind (fun e he heq => absurd heq (hstops e he)) fun stop hstop => ?_
    refine Refuses.bind (fun e he heq => absurd heq (hchecks e he)) fun _ hprevious => ?_
    refine Refuses.bind (fun e he heq => ?_) fun output _ => .ok _
    obtain ⟨r, hrun, hadmits, hordered, -⟩ :=
      admitted hpage hstate (okOr_eq_ok.mp hkind) hstop hprevious
    refine ⟨r, hrun, hordered, ?_⟩
    rw [Stretch.pushAll_snoc, ← hstate.output]
    exact (place_ends hpage hcapacity hadmits hstate.written).2 (heq ▸ he)
  exact hrefuses _ h rfl

theorem coalesce_loop (hpage : 0 < abi.basePageSize.toNat) (hcapacity : capacity < 2 ^ 64)
    {after : List FirmwareMemoryDescriptor} : ∀ {before : List FirmwareMemoryDescriptor} {state},
      Holds abi (runsOf abi before) state →
        (∀ state', after.foldlM (coalesceDescriptor abi capacity) state = .ok state' →
          Holds abi (runsOf abi (before ++ after)) state'
            ∧ ∀ d ∈ after, (d.run abi).isSome)
        ∧ (after.foldlM (coalesceDescriptor abi capacity) state = .err .outputExhausted →
          ∃ read, read <+: before ++ after ∧ Stretch.Ordered (runsOf abi read)
            ∧ capacity < (Stretch.pushAll (runsOf abi read)).length) := by
  induction after with
  | nil =>
      intro before state hstate
      refine ⟨fun state' h => ?_, fun h => ?_⟩
      · obtain rfl := Outcome.ok.inj h
        rw [List.append_nil]
        exact ⟨hstate, List.forall_mem_nil _⟩
      · cases h
  | cons d after ih =>
      intro before state hstate
      have hsnoc : ∀ {r}, d.run abi = some r →
          runsOf abi (before ++ [d]) = runsOf abi before ++ [r] := by
        intro r hr
        rw [runsOf, List.filterMap_append, List.filterMap_cons_some hr]
        rfl
      have hassoc : before ++ d :: after = before ++ [d] ++ after := by simp
      rw [List.foldlM_cons, hassoc]
      cases hturn : coalesceDescriptor abi capacity state d with
      | panic => exact ⟨fun _ h => (by cases h), fun h => by cases h⟩
      | err e =>
          refine ⟨fun _ h => (by cases h), fun h => ?_⟩
          obtain rfl := Outcome.err.inj h
          obtain ⟨r, hr, hordered, hlt⟩ := coalesceDescriptor_exhausted hpage hcapacity hstate hturn
          rw [← hsnoc hr] at hordered hlt
          exact ⟨before ++ [d], List.prefix_append _ _, hordered, hlt⟩
      | ok next =>
          obtain ⟨r, hr, hnext⟩ := coalesceDescriptor_ok hpage hcapacity hstate hturn
          rw [← hsnoc hr] at hnext
          obtain ⟨hok, hexhausted⟩ := ih hnext
          refine ⟨fun state' h => ?_, hexhausted⟩
          obtain ⟨hholds, hall⟩ := hok state' h
          refine ⟨hholds, List.forall_mem_cons.mpr ⟨?_, hall⟩⟩
          rw [hr]
          rfl

/-! ## The result -/

theorem scanMemoryMap_written : ∀ {output : List DwBootMemoryRangeV1} {previousEnd : Option Nat},
    (∀ e ∈ output, e.Written abi) →
    (output.Pairwise fun a b => (a.region abi).Before (b.region abi)) →
    (∀ stop ∈ previousEnd, ∀ e ∈ output, stop ≤ e.physicalStart) →
      scanMemoryMap abi previousEnd output = .ok ()
  | [], _, _, _, _ => rfl
  | entry :: rest, previousEnd, hwritten, hsorted, hprevious => by
      have hentry := hwritten entry List.mem_cons_self
      obtain ⟨hbefore, hsorted⟩ := List.pairwise_cons.mp hsorted
      have hrest := @scanMemoryMap_written rest (some (entry.region abi).stop)
        (fun e he => hwritten e (List.mem_cons_of_mem _ he)) hsorted
        (by rintro _ ⟨⟩ e he; exact hbefore e he)
      have hmul : entry.pageCount * abi.basePageSize.toNat < 2 ^ 64 := by
        have hlt := hentry.stop_lt
        unfold DwBootMemoryRangeV1.region Region.stop at hlt
        dsimp only at hlt
        omega
      have hend : Uefi.pageRangeEnd abi entry.physicalStart entry.pageCount
          = .ok (entry.region abi).stop := by
        rw [Uefi.pageRangeEnd, checkedMul_eq_some.mpr ⟨hmul, rfl⟩, okOr_some, ok_bind]
        exact okOr_eq_ok.mpr (checkedAdd_eq_some.mpr ⟨hentry.stop_lt, rfl⟩)
      have horder : (previousEnd.any fun previous => entry.physicalStart < previous) = false := by
        cases previousEnd with
        | none => rfl
        | some stop =>
            exact decide_eq_false (Nat.not_lt.mpr (hprevious stop rfl entry List.mem_cons_self))
      simp [scanMemoryMap, validatePageRange, hentry.header, hentry.reserved, hentry.kind,
        Nat.ne_of_gt hentry.count, hentry.aligned, hend, horder, hrest]

end MemoryMap

/-- A table of runs without neighbours to merge, for what the descriptors assign. -/
def Represents (abi : DeepwyrmAbi) (runs : List (Stretch (UInt32 × Nat)))
    (input : List FirmwareMemoryDescriptor) : Prop :=
  Stretch.Maximal runs ∧ ∀ a k, Stretch.Labels runs a k ↔ Stretch.Labels (runsOf abi input) a k

section Result

variable {abi : DeepwyrmAbi} {capacity : Nat} {input : List FirmwareMemoryDescriptor}

theorem represents_unique (h : Stretch.Ordered (runsOf abi input))
    {runs : List (Stretch (UInt32 × Nat))}
    (hruns : Represents abi runs input) : runs = Stretch.pushAll (runsOf abi input) := by
  refine hruns.1.unique (Stretch.maximal_pushAll h) fun a k => ?_
  rw [hruns.2, Stretch.labels_pushAll]

open MemoryMap in
/-- What is accepted is represented exactly, by records that the handoff takes. A
buffer is exhausted only where what has been read does not fit in it. -/
theorem normalizeAndCoalesce_exact (hpage : abi.basePageSize ≠ 0) (hcapacity : capacity < 2 ^ 64) :
    (∀ output, normalizeAndCoalesce abi input capacity = .ok output →
      (∀ d ∈ input, d.kind.isSome)
        ∧ Represents abi (output.map (·.run abi)) input
        ∧ (output.Pairwise fun a b => (a.region abi).Before (b.region abi))
        ∧ validateMemoryMap abi output = .ok ())
    ∧ (normalizeAndCoalesce abi input capacity = .err .outputExhausted →
      (∃ read, read <+: input ∧ ∀ runs, Represents abi runs read → capacity < runs.length)
        ∧ (Stretch.Ordered (runsOf abi input) →
            ∀ runs, Represents abi runs input → capacity < runs.length)) := by
  have hpos : 0 < abi.basePageSize.toNat := by
    refine Nat.pos_of_ne_zero fun hzero => hpage ?_
    exact UInt32.toNat_inj.mp hzero
  have hstart : Holds abi (runsOf abi []) ⟨[], none⟩ :=
    ⟨rfl, List.forall_mem_nil _, ⟨List.forall_mem_nil _, .nil⟩, List.forall_mem_nil _⟩
  obtain ⟨hok, hexhausted⟩ := @coalesce_loop abi capacity hpos hcapacity input _ _ hstart
  rw [List.nil_append] at hok hexhausted
  refine ⟨fun output h => ?_, fun h => ?_⟩
  · obtain ⟨state, hrun, heq⟩ := bind_eq_ok.mp h
    obtain rfl := Outcome.ok.inj heq
    obtain ⟨hholds, hall⟩ := hok state hrun
    have hmaximal := Stretch.maximal_pushAll hholds.ordered
    have hsorted : state.output.Pairwise fun a b => (a.region abi).Before (b.region abi) := by
      have hpairwise := hmaximal.sorted
      rw [← hholds.output, List.pairwise_map] at hpairwise
      exact hpairwise
    refine ⟨fun d hd => ?_, ⟨?_, fun a k => ?_⟩, hsorted, ?_⟩
    · have hsome := hall d hd
      rwa [FirmwareMemoryDescriptor.run, Option.isSome_map] at hsome
    · rw [hholds.output]
      exact hmaximal
    · rw [hholds.output, Stretch.labels_pushAll]
    · exact scanMemoryMap_written hholds.written hsorted (by simp)
  · have hfull : input.foldlM (coalesceDescriptor abi capacity) ⟨[], none⟩
        = .err .outputExhausted := by
      unfold normalizeAndCoalesce at h
      cases hrun : input.foldlM (coalesceDescriptor abi capacity) ⟨[], none⟩ with
      | ok state | panic => rw [hrun] at h; cases h
      | err e => rw [hrun] at h; cases h; rfl
    obtain ⟨read, hprefix, hordered, hlt⟩ := hexhausted hfull
    refine ⟨⟨read, hprefix, fun runs hruns => ?_⟩, fun hinput runs hruns => ?_⟩
    · rw [represents_unique hordered hruns]
      exact hlt
    · obtain ⟨rest, rfl⟩ := hprefix
      have hle := Stretch.length_pushAll_le (runsOf abi read) (runsOf abi rest)
      rw [represents_unique hinput hruns, runsOf, List.filterMap_append]
      exact Nat.lt_of_lt_of_le hlt hle

end Result

def usablePage (page : Nat) : FirmwareMemoryDescriptor := ⟨some .conventional, page * 4096, 1, 0⟩

/-- Two neighbours are one record. -/
theorem normalizeAndCoalesce_two_pages :
    validateMemoryMap sampleAbi [⟨64, 1, 1, 0, 0, 2, 0, [0, 0, 0]⟩] = .ok ()
      ∧ Represents sampleAbi [⟨⟨0, 8192⟩, 1, 0⟩] [usablePage 0, usablePage 1] := by
  have hexact := @normalizeAndCoalesce_exact sampleAbi 1 [usablePage 0, usablePage 1] (by decide)
    (by decide)
  obtain ⟨-, hrepresents, -, hvalid⟩ :=
    hexact.1 [⟨64, 1, 1, 0, 0, 2, 0, [0, 0, 0]⟩] (by decide)
  exact ⟨hvalid, hrepresents⟩

/-- A descriptor that comes too late could have filled the gap that exhausts the
buffer: the buffer holds the only table there is for all three, but not what has
been read when the second one is refused. -/
theorem normalizeAndCoalesce_unread :
    MemoryMap.normalizeAndCoalesce sampleAbi [usablePage 0, usablePage 2, usablePage 1] 1
        = .err .outputExhausted
      ∧ ∃ runs, Represents sampleAbi runs [usablePage 0, usablePage 2, usablePage 1]
        ∧ runs.length ≤ 1 := by
  refine ⟨by decide, [⟨⟨0, 3 * 4096⟩, 1, 0⟩], ⟨⟨by simp, by simp, by simp⟩, fun a k => ?_⟩, by simp⟩
  have hruns : runsOf sampleAbi [usablePage 0, usablePage 2, usablePage 1]
      = [⟨⟨0, 4096⟩, 1, 0⟩, ⟨⟨8192, 4096⟩, 1, 0⟩, ⟨⟨4096, 4096⟩, 1, 0⟩] := by decide
  rw [hruns, Stretch.labels_singleton]
  simp only [Stretch.Labels, Region.mem_bytes, Region.stop, List.mem_cons, List.not_mem_nil, or_false,
    exists_eq_or_imp, exists_eq_left]
  constructor
  · rintro ⟨hmem, hlabel⟩
    by_cases hfirst : a < 4096
    · exact .inl ⟨by omega, hlabel⟩
    by_cases hlast : 8192 ≤ a
    · exact .inr (.inl ⟨by omega, hlabel⟩)
    · exact .inr (.inr ⟨by omega, hlabel⟩)
  · rintro (⟨hmem, hlabel⟩ | ⟨hmem, hlabel⟩ | ⟨hmem, hlabel⟩)
    · exact ⟨by omega, hlabel⟩
    · exact ⟨by omega, hlabel⟩
    · exact ⟨by omega, hlabel⟩

/-! ## One map for one assignment -/

section Canonical

variable {abi : DeepwyrmAbi} {capacity capacity' : Nat} {input input' : List FirmwareMemoryDescriptor}
  {output output' : List DwBootMemoryRangeV1}

theorem DwBootMemoryRangeV1.Written.eq_of_run {e e' : DwBootMemoryRangeV1} (h : e.Written abi)
    (h' : e'.Written abi) (hpage : 0 < abi.basePageSize.toNat) (hrun : e.run abi = e'.run abi) :
    e = e' := by
  rcases e with ⟨size, version, kind, reserved0, start, count, attributes, reserved⟩
  rcases e' with ⟨size', version', kind', reserved0', start', count', attributes', reserved'⟩
  obtain ⟨hregion, hlabel⟩ := Stretch.mk.inj hrun
  obtain ⟨rfl, hcount⟩ := Region.mk.inj hregion
  obtain ⟨rfl, rfl⟩ := Prod.mk.inj hlabel
  obtain rfl := Nat.eq_of_mul_eq_mul_right hpage hcount
  obtain ⟨rfl, rfl⟩ := h.header
  obtain ⟨rfl, rfl⟩ := h.reserved
  obtain ⟨rfl, rfl⟩ := h'.header
  obtain ⟨rfl, rfl⟩ := h'.reserved
  rfl

theorem written_inj (hpage : 0 < abi.basePageSize.toNat) : ∀
    {output output' : List DwBootMemoryRangeV1},
    (∀ e ∈ output, e.Written abi) → (∀ e ∈ output', e.Written abi) →
      output.map (·.run abi) = output'.map (·.run abi) → output = output'
  | [], output', _, _, hruns => (List.map_eq_nil_iff.mp hruns.symm).symm
  | e :: output, [], _, _, hruns => absurd hruns (List.cons_ne_nil _ _)
  | e :: output, e' :: output', h, h', hruns => by
      obtain ⟨hrun, hrest⟩ := List.cons.inj hruns
      obtain ⟨he, h⟩ := List.forall_mem_cons.mp h
      obtain ⟨he', h'⟩ := List.forall_mem_cons.mp h'
      rw [he.eq_of_run he' hpage hrun, written_inj hpage h h' hrest]

open MemoryMap in
theorem normalizeAndCoalesce_holds (hpage : 0 < abi.basePageSize.toNat)
    (hcapacity : capacity < 2 ^ 64)
    (h : normalizeAndCoalesce abi input capacity = .ok output) :
    ∃ state, state.output = output ∧ Holds abi (runsOf abi input) state := by
  have hstart : Holds abi (runsOf abi []) ⟨[], none⟩ :=
    ⟨rfl, List.forall_mem_nil _, ⟨List.forall_mem_nil _, .nil⟩, List.forall_mem_nil _⟩
  obtain ⟨state, hrun, heq⟩ := bind_eq_ok.mp h
  obtain ⟨hholds, -⟩ := (@coalesce_loop abi capacity hpage hcapacity input _ _ hstart).1 state hrun
  exact ⟨state, Outcome.ok.inj heq, hholds⟩

/-- The map of the handoff depends on what the firmware says of each address, and not on how its
descriptors cut it up. -/
theorem normalizeAndCoalesce_canonical (hpage : 0 < abi.basePageSize.toNat)
    (hcapacity : capacity < 2 ^ 64) (hcapacity' : capacity' < 2 ^ 64)
    (h : MemoryMap.normalizeAndCoalesce abi input capacity = .ok output)
    (h' : MemoryMap.normalizeAndCoalesce abi input' capacity' = .ok output')
    (hsame : ∀ a k, Stretch.Labels (runsOf abi input) a k ↔ Stretch.Labels (runsOf abi input') a k) :
    output = output' := by
  obtain ⟨state, rfl, hholds⟩ := normalizeAndCoalesce_holds hpage hcapacity h
  obtain ⟨state', rfl, hholds'⟩ := normalizeAndCoalesce_holds hpage hcapacity' h'
  refine written_inj hpage hholds.written hholds'.written ?_
  rw [hholds.output, hholds'.output]
  refine (Stretch.maximal_pushAll hholds.ordered).unique (Stretch.maximal_pushAll hholds'.ordered) ?_
  intro a k
  rw [Stretch.labels_pushAll, Stretch.labels_pushAll, hsame]

end Canonical

/-- Two pages in one descriptor or in two. -/
theorem normalizeAndCoalesce_canonical_cuts : ∃ output output',
    MemoryMap.normalizeAndCoalesce sampleAbi [usablePage 0, usablePage 1] 2 = .ok output ∧
      MemoryMap.normalizeAndCoalesce sampleAbi [⟨some .conventional, 0, 2, 0⟩] 1 = .ok output' ∧
        output = output' := by
  refine ⟨_, _, rfl, rfl, @normalizeAndCoalesce_canonical sampleAbi 2 1 [usablePage 0, usablePage 1]
    [⟨some .conventional, 0, 2, 0⟩] _ _ (by decide) (by decide) (by decide) rfl rfl fun a k => ?_⟩
  have hpages : runsOf sampleAbi [usablePage 0, usablePage 1] =
      [⟨⟨0, 4096⟩, 1, 0⟩, ⟨⟨4096, 4096⟩, 1, 0⟩] := by decide
  have hwhole : runsOf sampleAbi [⟨some .conventional, 0, 2, 0⟩] = [⟨⟨0, 8192⟩, 1, 0⟩] := by decide
  rw [hpages, hwhole, Stretch.labels_singleton]
  simp only [Stretch.Labels, Region.mem_bytes, Region.stop, List.mem_cons, List.not_mem_nil, or_false,
    exists_eq_or_imp, exists_eq_left, ← or_and_right]
  refine and_congr_left fun _ => ?_
  omega

end Wyrmroot.Uefi
