import Wyrmroot.Transition.KernelElf

/-!
# What the kernel ELF planner accepts

`KernelLoadPlan.Sound` is what holds of a plan of a hostile image under an
accepted policy, and `planKernelElf_yields` that the planner neither faults nor
leaves the range of its words on the way. The transition planner rounds the same
addresses in another way, and agrees (`KernelLoadSegment.Sound.validates`).
-/

namespace Wyrmroot.Transition

open Outcome
open Loader (checkedAdd isPowerOfTwo isPowerOfTwo_pos alignDown alignUp checkedAdd_eq_some
  le_alignUp)
open Startup (checkedMul checkedMul_eq_some)

/-! ## Rounding -/

section Rounding

variable {value granule result : Nat}

theorem alignUp_eq_some : alignUp value granule = some result ↔
    value + (granule - 1) < 2 ^ 64 ∧ alignDown (value + (granule - 1)) granule = result := by
  simp only [alignUp, Option.map_eq_some_iff, checkedAdd_eq_some]
  constructor
  · rintro ⟨_, ⟨hlt, rfl⟩, rfl⟩
    exact ⟨hlt, rfl⟩
  · rintro ⟨hlt, rfl⟩
    exact ⟨_, ⟨hlt, rfl⟩, rfl⟩

theorem alignUp_offset (hpos : 0 < granule) {start offset len : Nat}
    (h : alignUp (alignDown start granule + offset) granule
      = some (alignDown start granule + len)) : alignUp offset granule = some len := by
  obtain ⟨hlt, heq⟩ := alignUp_eq_some.mp h
  refine alignUp_eq_some.mpr ⟨by omega, ?_⟩
  have hdiv : (start / granule * granule + offset + (granule - 1)) / granule
      = start / granule + (offset + (granule - 1)) / granule := by
    rw [Nat.add_assoc, Nat.add_comm, Nat.add_mul_div_right _ _ hpos, Nat.add_comm]
  have hsum : alignDown start granule + alignDown (offset + (granule - 1)) granule
      = alignDown start granule + len := by
    rw [← heq, alignDown, alignDown, alignDown, hdiv, Nat.add_mul]
  exact Nat.add_left_cancel hsum

end Rounding

/-! ## Headers -/

structure KernelElfPolicy.Accepted (policy : KernelElfPolicy) : Prop where
  start : policy.virtualAddresses.start = policy.linkBase
  stop : policy.virtualAddresses.stop = 2 ^ 64 - 1
  granule : isPowerOfTwo policy.mappingGranule = true
  base : isMultipleOf policy.linkBase policy.mappingGranule = true

theorem validateElfPolicy_eq_ok {policy : KernelElfPolicy} {u : Unit} :
    validateElfPolicy policy = .ok u ↔ policy.Accepted := by
  simp only [validateElfPolicy, rejectIf_eq_ok, Bool.or_eq_false_iff, decide_eq_false_iff_not,
    not_not, Bool.not_eq_false', and_assoc]
  exact ⟨fun h => ⟨h.1, h.2.1, h.2.2.1, h.2.2.2⟩, fun h => ⟨h.1, h.2, h.3, h.4⟩⟩

theorem getLE_yields {ε : Type} {n offset : Nat} {bytes : List UInt8}
    (h : offset + n ≤ bytes.length) :
    Yields (getLE n bytes offset : Outcome ε Nat) fun v =>
      getLE n bytes offset = (.ok v : Outcome ε Nat) ∧ v < 256 ^ n := by
  rw [getLE_ok h]
  refine .ok ⟨rfl, ?_⟩
  have hlt := leNat_lt ((bytes.drop offset).take n)
  rwa [List.length_take, List.length_drop, Nat.min_eq_left (by omega)] at hlt

theorem requireByte_yields {header : List UInt8} {offset expected : Nat} {e : Nat → KernelElfError}
    (h : offset < header.length) : Yields (requireByte header offset expected e) fun _ => True := by
  unfold requireByte byteAt
  rw [List.getElem?_eq_getElem h]
  exact (Yields.rejectIf _ _).mono fun _ _ => trivial

theorem requireField_yields {n offset expected : Nat} {header : List UInt8}
    {e : Nat → KernelElfError} (h : offset + n ≤ header.length) :
    Yields (requireField n header offset expected e) fun _ => True :=
  (getLE_yields h).bind fun _ _ => (Yields.rejectIf _ _).mono fun _ _ => trivial

/-- What the checks of the header leave. -/
structure KernelHeader.Sound (header : KernelHeader) : Prop where
  size : header.programHeaderSize = Transition.programHeaderSize
  offset : elfHeaderSize ≤ header.programHeaderOffset
  count : 0 < header.programHeaderCount ∧ header.programHeaderCount < 0xffff

theorem slice_yields {image : List UInt8} {offset n : Nat} (e : KernelElfError) :
    Yields (okOr (slice image offset n) e) fun bytes =>
      slice image offset n = some bytes ∧ bytes.length = n :=
  (Yields.okOr _ _).mono fun _ h => ⟨h, slice_length h⟩

theorem parseHeader_yields (image : List UInt8) :
    Yields (parseHeader image) fun header => header.Sound := by
  refine (slice_yields _).bind fun header hheader => ?_
  have hlen : header.length = 64 := hheader.2
  refine (Yields.self (sliceAt_ne_panic (by omega))).bind fun magic _ => ?_
  refine (Yields.rejectIf _ _).bind fun _ _ => ?_
  iterate 5 refine (requireByte_yields (by omega)).bind fun _ _ => ?_
  iterate 5 refine (requireField_yields (by omega)).bind fun _ _ => ?_
  refine (getLE_yields (by omega)).bind fun size _ => ?_
  refine (Yields.rejectIf _ _).bind fun _ hsize => ?_
  refine (getLE_yields (by omega)).bind fun count hcount => ?_
  refine (Yields.rejectIf _ _).bind fun _ hzero => (Yields.rejectIf _ _).bind fun _ hmax => ?_
  refine (getLE_yields (by omega)).bind fun offset _ => ?_
  refine (Yields.rejectIf _ _).bind fun _ hoffset => (Yields.rejectIf _ _).bind fun _ _ => ?_
  refine (getLE_yields (by omega)).bind fun entry _ => .ok ?_
  simp only [decide_eq_false_iff_not, not_not, Nat.not_lt] at hsize hzero hmax hoffset
  have hlt : count < 0xffff := by
    have hbound := hcount.2
    omega
  exact ⟨hsize, hoffset, Nat.pos_of_ne_zero hzero, hlt⟩

theorem programHeaderBytes_yields (image : List UInt8) (header : KernelHeader) (index : Nat) :
    Yields (programHeaderBytes image header index) fun bytes =>
      bytes.length = programHeaderSize := by
  refine (Yields.okOr _ _).bind fun relativeOffset _ => (Yields.okOr _ _).bind fun offset _ => ?_
  refine (Yields.okOr _ _).mono fun bytes h => ?_
  simp only [byteRange, Option.bind_eq_some_iff] at h
  obtain ⟨-, -, h⟩ := h
  exact slice_length h

/-! ## One segment -/

def KernelLoadSegment.mapping (s : KernelLoadSegment) : Region :=
  ⟨s.mappingVirtualAddress, s.mappingByteLen⟩

def KernelLoadSegment.memory (s : KernelLoadSegment) : Region := ⟨s.virtualAddress, s.memorySize⟩

namespace KernelLoadSegment

/-- The segment is what program header `ph` says. -/
structure ReadFrom (s : KernelLoadSegment) (ph : List UInt8) : Prop where
  load : getLE 4 ph 0 = (.ok programTypeLoad : KernelElf Nat)
  permissions : ∃ flags, getLE 4 ph 4 = (.ok flags : KernelElf Nat)
    ∧ s.permissions = ⟨flags &&& flagRead ≠ 0, flags &&& flagWrite ≠ 0, flags &&& flagExecute ≠ 0⟩
  fileOffset : getLE 8 ph 8 = (.ok s.fileOffset : KernelElf Nat)
  virtualAddress : getLE 8 ph 16 = (.ok s.virtualAddress : KernelElf Nat)
  fileSize : getLE 8 ph 32 = (.ok s.fileSize : KernelElf Nat)
  memorySize : getLE 8 ph 40 = (.ok s.memorySize : KernelElf Nat)
  alignment : getLE 8 ph 48 = (.ok s.alignment : KernelElf Nat)

/-- What the checks of one segment leave. -/
structure Sound (s : KernelLoadSegment) (image : List UInt8) (policy : KernelElfPolicy) : Prop where
  fileIn : s.fileOffset + s.fileSize ≤ image.length
  fileEnd_lt : s.fileOffset + s.fileSize < 2 ^ 64
  fileSize_le : s.fileSize ≤ s.memorySize
  memory_pos : 0 < s.memorySize
  memory_lt : s.memory.stop < 2 ^ 64
  alignment : isPowerOfTwo s.alignment = true ∧ policy.mappingGranule ≤ s.alignment
  rounded : s.mappingVirtualAddress = alignDown s.virtualAddress policy.mappingGranule
    ∧ alignUp s.memory.stop policy.mappingGranule = some s.mapping.stop
  offset : s.mappingVirtualAddress + s.segmentPageOffset = s.virtualAddress
  inside : policy.linkBase ≤ s.mappingVirtualAddress
    ∧ s.mapping.stop ≤ policy.virtualAddresses.stop
  guarded : ¬ (s.permissions.write = true ∧ s.permissions.execute = true)

theorem Sound.validates {s : KernelLoadSegment} {image : List UInt8} {policy : KernelElfPolicy}
    (h : s.Sound image policy) (hpos : 0 < policy.mappingGranule) {transition : TransitionPolicy}
    (hgranule : transition.mappingGranule = policy.mappingGranule) {pages : RetainedPhysicalRange}
    (hlen : pages.byteLen = s.mappingByteLen)
    (hlifetime : pages.lifetime = .retainedUntilKernelPageTableReplacement)
    (haligned : isMultipleOf pages.physicalStart policy.mappingGranule = true)
    (hend : pages.physicalStart + pages.byteLen < 2 ^ 64) :
    validateKernelSegment ⟨s, pages⟩ transition image.length = .ok () := by
  have hoffset := h.offset
  have hmemory := h.memory_pos
  have hround := h.rounded.2
  have hcover : s.memory.stop ≤ s.mapping.stop := le_alignUp hpos hround
  have hbytes : pages.byteLen ≠ 0 := by
    unfold memory mapping Region.stop at hcover
    dsimp only at hcover
    omega
  have hlt := h.memory_lt
  unfold memory Region.stop at hlt
  have hcovered : s.segmentPageOffset + s.memorySize < 2 ^ 64 := by
    dsimp only at hlt
    omega
  have hsub : minus s.virtualAddress (alignDown s.virtualAddress policy.mappingGranule)
      = .ok s.segmentPageOffset := by
    rw [← h.rounded.1, minus, if_pos (by omega)]
    exact congrArg Outcome.ok (by omega)
  have hrequired : alignUp (s.segmentPageOffset + s.memorySize) policy.mappingGranule
      = some s.mappingByteLen := by
    refine @alignUp_offset _ hpos s.virtualAddress _ _ ?_
    rw [← h.rounded.1, ← Nat.add_assoc, hoffset]
    exact hround
  have hpermissions : (s.permissions.write && s.permissions.execute) = false := by
    rw [Bool.eq_false_iff, ne_eq, Bool.and_eq_true]
    exact h.guarded
  have hretained : validateRetained pages (.kernelSegment s.programHeaderIndex) = .ok () := by
    simp [validateRetained, checkedEnd, hbytes, hlifetime, checkedAdd_eq_some.mpr ⟨hend, rfl⟩]
  simp [validateKernelSegment, Nat.ne_of_gt hmemory, Nat.not_lt.mpr h.fileSize_le, h.alignment.1,
    hgranule, Nat.not_lt.mpr h.alignment.2, checkedAdd_eq_some.mpr ⟨h.fileEnd_lt, rfl⟩,
    Nat.not_lt.mpr h.fileIn, hretained, haligned, hsub, checkedAdd_eq_some.mpr ⟨hcovered, rfl⟩,
    hrequired, h.rounded.1, hlen, hpermissions]

end KernelLoadSegment

theorem parseSegment_yields {image bytes : List UInt8} {index : Nat} {policy : KernelElfPolicy}
    (hpolicy : policy.Accepted) (hlen : bytes.length = programHeaderSize) :
    Yields (parseSegment image bytes index policy) fun s =>
      s.Sound image policy ∧ s.ReadFrom bytes ∧ s.programHeaderIndex = UInt16.ofNat index := by
  rw [programHeaderSize] at hlen
  have hpos := isPowerOfTwo_pos hpolicy.granule
  refine (getLE_yields (by omega)).bind fun programType htype => ?_
  refine (Yields.rejectIf _ _).bind fun _ hload => ?_
  refine (getLE_yields (by omega)).bind fun flags hflags => (Yields.rejectIf _ _).bind fun _ _ => ?_
  refine (Yields.rejectIf _ _).bind fun _ hguarded => ?_
  refine (getLE_yields (by omega)).bind fun fileOffset hreadOffset => ?_
  refine (getLE_yields (by omega)).bind fun virtualAddress hreadAddress => ?_
  refine (getLE_yields (by omega)).bind fun fileSize hreadSize => ?_
  refine (getLE_yields (by omega)).bind fun memorySize hreadMemory => ?_
  refine (getLE_yields (by omega)).bind fun alignment hreadAlignment => ?_
  refine (Yields.rejectIf _ _).bind fun _ hempty => (Yields.rejectIf _ _).bind fun _ hsize => ?_
  refine (Yields.okOr _ _).bind fun fileEnd hfileEnd => (Yields.rejectIf _ _).bind fun _ hfile => ?_
  refine (Yields.okOr _ _).bind fun virtualEnd hvirtualEnd => ?_
  dsimp only
  refine (Yields.okOr _ _).bind fun mappingEnd hmappingEnd => ?_
  refine (Yields.rejectIf _ _).bind fun _ hpower => (Yields.rejectIf _ _).bind fun _ hbelow => ?_
  refine (Yields.rejectIf _ _).bind fun _ _ => (Yields.rejectIf _ _).bind fun _ hcontains => ?_
  simp only [decide_eq_false_iff_not, not_not] at hload
  simp only [decide_eq_false_iff_not, Nat.not_lt, checkedAdd_eq_some] at hempty hsize hfileEnd
  simp only [decide_eq_false_iff_not, Nat.not_lt, checkedAdd_eq_some] at hfile hvirtualEnd hbelow
  simp only [Bool.not_eq_false', AddressRange.contains, Bool.and_eq_true, decide_eq_true_eq]
    at hpower hcontains
  obtain ⟨hfileLt, rfl⟩ := hfileEnd
  obtain ⟨hvirtualLt, rfl⟩ := hvirtualEnd
  obtain ⟨⟨hstart, hnonempty⟩, hstop⟩ := hcontains
  have hdown : alignDown virtualAddress policy.mappingGranule ≤ virtualAddress :=
    Nat.div_mul_le_self ..
  have hcancel := Nat.add_sub_cancel' (Nat.le_of_lt hnonempty)
  refine (Unchecked.sub_yields (Nat.le_of_lt hnonempty)).bind fun mappingByteLen hlen' => ?_
  refine (Unchecked.sub_yields hdown).bind fun segmentPageOffset hoffset => .ok ⟨?_, ?_, rfl⟩
  · subst hlen' hoffset
    have hmapping : alignDown virtualAddress policy.mappingGranule
        + (mappingEnd - alignDown virtualAddress policy.mappingGranule) = mappingEnd := hcancel
    refine ⟨hfile, hfileLt, hsize, Nat.pos_of_ne_zero hempty, hvirtualLt, ⟨hpower, hbelow⟩,
      ⟨rfl, ?_⟩, Nat.add_sub_cancel' hdown, ⟨hpolicy.start ▸ hstart, ?_⟩, ?_⟩
    · exact hmappingEnd.trans (congrArg some hmapping.symm)
    · exact Nat.le_trans (Nat.le_of_eq hmapping) hstop
    · intro hboth
      simp only [decide_eq_true_eq] at hboth
      simp [hboth.1, hboth.2] at hguarded
  · exact ⟨hload ▸ htype.1, ⟨flags, hflags.1, rfl⟩, hreadOffset.1, hreadAddress.1, hreadSize.1,
      hreadMemory.1, hreadAlignment.1⟩

/-! ## The table of program headers -/

section Table

variable {image bytes : List UInt8} {header : KernelHeader} {policy : KernelElfPolicy}
  {index available : Nat}

/-- The table of program headers lies in the image. -/
structure KernelHeader.TableIn (header : KernelHeader) (image : List UInt8) : Prop where
  sound : header.Sound
  fits : header.programHeaderOffset + header.programHeaderCount * 56 < 2 ^ 64
  within : header.programHeaderOffset + header.programHeaderCount * 56 ≤ image.length

theorem programHeaderBytes_eq_ok (htable : header.TableIn image)
    (hindex : index < header.programHeaderCount) :
    programHeaderBytes image header index = .ok bytes ↔
      slice image (header.programHeaderOffset + index * 56) 56 = some bytes := by
  have hfits := htable.fits
  have hmul : checkedMul index header.programHeaderSize = some (index * 56) := by
    rw [htable.sound.size]
    exact checkedMul_eq_some.mpr ⟨by simp only [programHeaderSize]; omega, rfl⟩
  have hadd : checkedAdd header.programHeaderOffset (index * 56)
      = some (header.programHeaderOffset + index * 56) :=
    checkedAdd_eq_some.mpr ⟨by omega, rfl⟩
  have hend : checkedAdd (header.programHeaderOffset + index * 56) 56
      = some (header.programHeaderOffset + index * 56 + 56) :=
    checkedAdd_eq_some.mpr ⟨by omega, rfl⟩
  simp [programHeaderBytes, byteRange, programHeaderSize, hmul, hadd, hend, okOr_eq_ok]

theorem checkProgramType_yields : Yields (checkProgramType image header index) fun _ => True := by
  refine (programHeaderBytes_yields image header index).bind fun bytes hlen => ?_
  rw [programHeaderSize] at hlen
  refine (getLE_yields (by omega)).bind fun _ _ => ?_
  exact (Yields.rejectIf _ _).mono fun _ _ => trivial

theorem validatedHeaderAndCapacity_yields (image : List UInt8) (policy : KernelElfPolicy) :
    Yields (validatedHeaderAndCapacity image policy) fun found =>
      policy.Accepted ∧ parseHeader image = .ok found.1 ∧ found.1.TableIn image
        ∧ found.2 = found.1.programHeaderCount
        ∧ ∀ i < found.1.programHeaderCount, checkProgramType image found.1 i = .ok () := by
  have hpolicy : Yields (validateElfPolicy policy) fun _ => policy.Accepted :=
    ⟨rejectIf_ne_panic _ _, fun _ h => validateElfPolicy_eq_ok.mp h⟩
  refine hpolicy.bind fun _ haccepted => (parseHeader_yields image).keep.bind fun header hheader => ?_
  refine (Yields.okOr _ _).bind fun tableSize hsize => (Yields.okOr _ _).bind fun tableEnd hend => ?_
  refine (Yields.rejectIf _ _).bind fun _ hwithin => ?_
  rw [hheader.2.size, checkedMul_eq_some] at hsize
  obtain ⟨-, rfl⟩ := hsize
  obtain ⟨hfits, rfl⟩ := checkedAdd_eq_some.mp hend
  have htypes : (List.range header.programHeaderCount).forM (checkProgramType image header)
      ≠ .panic := forM_ne_panic fun _ _ => checkProgramType_yields.1
  refine (Yields.self htypes).bind fun _ hchecked => .ok ⟨haccepted, hheader.1,
    ⟨hheader.2, hfits, Nat.not_lt.mp (of_decide_eq_false hwithin)⟩, rfl, fun i hi => ?_⟩
  exact forM_eq_ok.mp hchecked i (List.mem_range.mpr hi)

/-- Segment `index` of the output. -/
def KernelLoadSegment.Planned (s : KernelLoadSegment) (image : List UInt8) (header : KernelHeader)
    (policy : KernelElfPolicy) (index : Nat) : Prop :=
  s.Sound image policy ∧ s.programHeaderIndex.toNat = index
    ∧ ∃ ph, programHeaderBytes image header index = .ok ph ∧ s.ReadFrom ph

theorem planSegment_yields (hpolicy : policy.Accepted) (htable : header.TableIn image)
    (hindex : index < header.programHeaderCount) (hroom : index < available) :
    Yields (planSegment image header policy available index) fun s =>
      s.Planned image header policy index := by
  refine (programHeaderBytes_yields image header index).keep.bind fun bytes hbytes => ?_
  refine (parseSegment_yields hpolicy hbytes.2).bind fun segment hsegment => ?_
  rw [if_pos hroom]
  refine .ok ⟨hsegment.1, ?_, bytes, hbytes.1, hsegment.2.1⟩
  rw [hsegment.2.2, UInt16.toNat_ofNat']
  have hcount := htable.sound.count.2
  exact Nat.mod_eq_of_lt (by omega)

end Table

/-! ## The loops over the sorted segments -/

section Sorted

variable {segments : List KernelLoadSegment} {image : List UInt8} {policy : KernelElfPolicy}

theorem validateApart_spec : ∀ {segments : List KernelLoadSegment},
    (∀ s ∈ segments, s.memory.stop < 2 ^ 64) → validateApart segments ≠ .panic
      ∧ (validateApart segments = .ok () ↔ segments.IsChain fun a b => a.memory.Before b.memory)
  | [], _ => ⟨ok_ne_panic _, by simp [validateApart]⟩
  | [_], _ => ⟨ok_ne_panic _, by simp [validateApart]⟩
  | left :: right :: rest, h => by
      obtain ⟨hpanic, hok⟩ := @validateApart_spec (right :: rest)
        fun s hs => h s (List.mem_cons_of_mem _ hs)
      have hadd : (Unchecked.add left.virtualAddress left.memorySize : KernelElf Nat)
          = .ok left.memory.stop := Unchecked.add_ok (h left List.mem_cons_self)
      have hbefore : decide (right.virtualAddress < left.memory.stop) = false
          ↔ left.memory.Before right.memory := by
        rw [decide_eq_false_iff_not, Nat.not_lt]
        rfl
      rw [validateApart, hadd, ok_bind]
      refine ⟨bind_ne_panic (rejectIf_ne_panic _ _) fun _ _ => hpanic, ?_⟩
      rw [List.isChain_cons_cons, ← hok, ← hbefore]
      simp only [bind_eq_ok, rejectIf_eq_ok, exists_const]

theorem validateMappingsApart_spec : ∀ {segments : List KernelLoadSegment},
    (∀ s ∈ segments, s.Sound image policy) →
      validateMappingsApart policy.mappingGranule segments ≠ .panic
      ∧ (validateMappingsApart policy.mappingGranule segments = .ok () ↔
          segments.IsChain fun a b => a.mapping.Before b.mapping)
  | [], _ => ⟨ok_ne_panic _, by simp [validateMappingsApart]⟩
  | [_], _ => ⟨ok_ne_panic _, by simp [validateMappingsApart]⟩
  | left :: right :: rest, h => by
      obtain ⟨hpanic, hok⟩ := @validateMappingsApart_spec (right :: rest)
        fun s hs => h s (List.mem_cons_of_mem _ hs)
      have hleft := h left List.mem_cons_self
      have hright := h right (List.mem_cons_of_mem _ List.mem_cons_self)
      have hadd : (Unchecked.add left.virtualAddress left.memorySize : KernelElf Nat)
          = .ok left.memory.stop := Unchecked.add_ok hleft.memory_lt
      have hbefore : decide (right.mappingVirtualAddress < left.mapping.stop) = false
          ↔ left.mapping.Before right.mapping := by
        rw [decide_eq_false_iff_not, Nat.not_lt]
        rfl
      rw [validateMappingsApart, hadd, ok_bind, hleft.rounded.2, okOr_some, ok_bind]
      dsimp only
      rw [← hright.rounded.1]
      refine ⟨bind_ne_panic (rejectIf_ne_panic _ _) fun _ _ => hpanic, ?_⟩
      rw [List.isChain_cons_cons, ← hok, ← hbefore]
      simp only [bind_eq_ok, rejectIf_eq_ok, exists_const]

theorem validateNonOverlapping_spec (h : ∀ s ∈ segments, s.Sound image policy) :
    validateNonOverlapping segments policy.mappingGranule ≠ .panic
      ∧ (validateNonOverlapping segments policy.mappingGranule = .ok () ↔
          segments.IsChain (fun a b => a.memory.Before b.memory)
            ∧ segments.IsChain fun a b => a.mapping.Before b.mapping) := by
  obtain ⟨hpanic, hok⟩ := validateApart_spec fun s hs => (h s hs).memory_lt
  obtain ⟨hpanic', hok'⟩ := validateMappingsApart_spec h
  refine ⟨bind_ne_panic hpanic fun _ _ => hpanic', ?_⟩
  rw [← hok, ← hok', validateNonOverlapping, bind_eq_ok]
  constructor
  · intro ⟨_, hapart⟩
    exact hapart
  · exact fun hapart => ⟨(), hapart⟩

theorem extendSpan_greatest {first : KernelLoadSegment} {rest : List KernelLoadSegment}
    (h : ∀ s ∈ rest, s.memory.stop < 2 ^ 64) :
    ∃ stop, rest.foldlM extendSpan first.memory.stop = .ok stop
      ∧ IsGreatest {e | ∃ s ∈ first :: rest, s.memory.stop = e} stop := by
  refine foldlM_ok (I := fun before stop =>
    IsGreatest {e | ∃ s ∈ first :: before, s.memory.stop = e} stop) ?_ ?_
  · intro before s after stop hrest ⟨⟨last, hlast, hstop⟩, hgreatest⟩
    have hs : s ∈ rest := by simp [hrest]
    refine ⟨max stop s.memory.stop, ?_, ?_, ?_⟩
    · have hadd : (Unchecked.add s.virtualAddress s.memorySize : KernelElf Nat)
          = .ok s.memory.stop := Unchecked.add_ok (h s hs)
      rw [extendSpan, hadd, ok_bind]
      rfl
    · rcases le_total last.memory.stop s.memory.stop with hle | hle
      · exact ⟨s, by simp, by rw [← hstop]; exact (Nat.max_eq_right hle).symm⟩
      · refine ⟨last, ?_, by rw [← hstop]; exact (Nat.max_eq_left hle).symm⟩
        rw [← List.cons_append]
        exact List.mem_append_left _ hlast
    · rintro _ ⟨t, ht, rfl⟩
      rw [← List.cons_append, List.mem_append, List.mem_singleton] at ht
      rcases ht with ht | rfl
      · exact Nat.le_trans (hgreatest ⟨t, ht, rfl⟩) (Nat.le_max_left _ _)
      · exact Nat.le_max_right _ _
  · refine ⟨⟨first, List.mem_singleton_self _, rfl⟩, ?_⟩
    rintro _ ⟨s, hs, rfl⟩
    rw [List.mem_singleton.mp hs]

end Sorted

/-! ## A plan -/

/-- What an accepted plan is. Its segments are those of the program headers, and
each two are in order. -/
structure KernelLoadPlan.Sound (p : KernelLoadPlan) (image : List UInt8) (policy : KernelElfPolicy)
    (header : KernelHeader) : Prop where
  headers : ∃ output, p.segments.Perm output ∧ List.Forall₂
    (fun i s => s.Planned image header policy i) (List.range header.programHeaderCount) output
  segments : ∀ s ∈ p.segments, s.Sound image policy
  memory : p.segments.Pairwise fun a b => a.memory.Before b.memory
  mappings : p.segments.Pairwise fun a b => a.mapping.Before b.mapping
  base : p.segments.head?.map KernelLoadSegment.mappingVirtualAddress = some policy.linkBase
  entry : p.entryPoint = header.entryPoint ∧ p.entryPoint ≠ 0
  backed : ∃ s ∈ p.segments, s.permissions.execute = true ∧ s.virtualAddress ≤ p.entryPoint
    ∧ p.entryPoint < s.virtualAddress + s.fileSize
  span : IsLeast {a | ∃ s ∈ p.segments, s.memory.start = a} p.virtualSpan.start
    ∧ IsGreatest {a | ∃ s ∈ p.segments, s.memory.stop = a} p.virtualSpan.stop

theorem collect_planSegment {image : List UInt8} {policy : KernelElfPolicy} {header : KernelHeader}
    {available : Nat} (hpolicy : policy.Accepted) (htable : header.TableIn image)
    (hroom : header.programHeaderCount ≤ available) :
    Yields ((List.range header.programHeaderCount).foldlM
      (collect (planSegment image header policy available)) []) fun output => List.Forall₂
        (fun i s => s.Planned image header policy i) (List.range header.programHeaderCount) output := by
  have hyields : ∀ i ∈ List.range header.programHeaderCount,
      Yields (planSegment image header policy available i) fun s =>
        s.Planned image header policy i := by
    intro i hi
    have hlt := List.mem_range.mp hi
    exact planSegment_yields hpolicy htable hlt (Nat.lt_of_lt_of_le hlt hroom)
  refine ⟨collect_ne_panic (fun i hi => (hyields i hi).1) [], fun output houtput => ?_⟩
  obtain ⟨new, hnew, rfl⟩ := collect_eq_ok.mp houtput
  refine (List.forall₂_iff_get.mpr ⟨hnew.length_eq, fun i hi hi' => ?_⟩)
  exact (hyields _ (List.getElem_mem _)).2 _ (hnew.get hi hi')

theorem planKernelElf_yields (image : List UInt8) (policy : KernelElfPolicy) (available : Nat) :
    Yields (planKernelElf image policy available) fun p =>
      policy.Accepted ∧ ∃ header, parseHeader image = .ok header ∧ p.Sound image policy header := by
  refine (validatedHeaderAndCapacity_yields image policy).bind fun found hfound => ?_
  obtain ⟨hpolicy, hheader, htable, hcapacity, -⟩ := hfound
  refine (Yields.rejectIf _ _).bind fun _ hroom => ?_
  rw [decide_eq_false_iff_not, Nat.not_lt, hcapacity] at hroom
  refine (collect_planSegment hpolicy htable hroom).bind fun output houtput => ?_
  dsimp only
  have hperm := List.perm_insertionSort KernelLoadSegment.Precedes output
  have hsound : ∀ s ∈ output.insertionSort KernelLoadSegment.Precedes, s.Sound image policy := by
    intro s hs
    obtain ⟨i, hi, rfl⟩ := List.mem_iff_getElem.mp (hperm.mem_iff.mp hs)
    exact (houtput.get (houtput.length_eq ▸ hi) hi).1
  generalize output.insertionSort KernelLoadSegment.Precedes = segments at hperm hsound
  refine (Yields.self (validateNonOverlapping_spec hsound).1).bind fun _ happart => ?_
  obtain ⟨hmemory, hmappings⟩ := (validateNonOverlapping_spec hsound).2.mp happart
  refine (Yields.rejectIf _ _).bind fun _ hzero => (Yields.rejectIf _ _).bind fun _ hentry => ?_
  have hmemory := Region.pairwise_before hmemory
  cases segments with
  | nil => exact .err _
  | cons first rest =>
      refine (Yields.rejectIf _ _).bind fun _ hbase => ?_
      have hfirst := hsound first List.mem_cons_self
      refine (Unchecked.add_yields hfirst.memory_lt).bind fun firstEnd hend => ?_
      subst hend
      obtain ⟨stop, hstop, hgreatest⟩ := @extendSpan_greatest first rest fun s hs =>
        (hsound s (List.mem_cons_of_mem _ hs)).memory_lt
      have hfold : rest.foldlM extendSpan (first.memory.start + first.memory.len) = .ok stop := hstop
      rw [hfold, ok_bind]
      refine .ok ⟨hpolicy, found.1, hheader, ⟨output, hperm, houtput⟩, hsound, hmemory,
        Region.pairwise_before hmappings, ?_, ⟨rfl, ?_⟩, ?_, ⟨⟨first, List.mem_cons_self, rfl⟩, ?_⟩,
        hgreatest⟩
      · simpa using hbase
      · simpa using hzero
      · simp only [Bool.not_eq_false', List.any_eq_true] at hentry
        obtain ⟨s, hs, hbacks⟩ := hentry
        simp only [KernelLoadSegment.backsEntry, Bool.and_eq_true, decide_eq_true_eq] at hbacks
        obtain ⟨⟨⟨hexecute, -⟩, hle⟩, hlt⟩ := hbacks
        exact ⟨s, hs, hexecute, hle, (Nat.sub_lt_iff_lt_add' hle).mp hlt⟩
      · rintro _ ⟨s, hs, rfl⟩
        rcases List.mem_cons.mp hs with rfl | hs
        · exact Nat.le_refl _
        · have hbefore := (List.pairwise_cons.mp hmemory).1 s hs
          exact Nat.le_trans (Region.start_le_stop first.memory) hbefore

end Wyrmroot.Transition
