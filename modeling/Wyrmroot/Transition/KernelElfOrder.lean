import Mathlib.Data.Multiset.AddSub
import Wyrmroot.Lib.Orderless
import Wyrmroot.Transition.KernelElfSoundness

/-!
# The order of the kernel's program headers

The kernel ELF planner sorts what it reads, so the order of the program headers
is seen in nothing but the index that each segment carries.
-/

namespace Wyrmroot.Transition

open Outcome
open Loader (isPowerOfTwo_pos)

/-- The image with its program headers in another order. -/
def Reheaded (image image' : List UInt8) : Prop :=
  ∃ header, parseHeader image = .ok header
    ∧ Reordered header.programHeaderOffset 56 header.programHeaderCount image image'

def KernelLoadSegment.unindexed (s : KernelLoadSegment) : KernelLoadSegment :=
  { s with programHeaderIndex := 0 }

def KernelLoadPlan.unindexed (p : KernelLoadPlan) : KernelLoadPlan :=
  { p with segments := p.segments.map KernelLoadSegment.unindexed }

section Headers

variable {image image' ph : List UInt8} {header : KernelHeader} {policy : KernelElfPolicy}

theorem parseHeader_congr (hslice : slice image 0 elfHeaderSize = slice image' 0 elfHeaderSize) :
    parseHeader image = parseHeader image' := by
  unfold parseHeader
  rw [hslice]

theorem Reheaded.parseHeader_eq (h : Reordered header.programHeaderOffset 56
    header.programHeaderCount image image') (hheader : parseHeader image = .ok header) :
    parseHeader image' = .ok header := by
  have hsound := (parseHeader_yields image).2 header hheader
  rw [← hheader]
  refine (parseHeader_congr (h.slice_eq ?_)).symm
  rw [Nat.zero_add]
  exact hsound.offset

theorem Reheaded.symm (h : Reheaded image image') : Reheaded image' image := by
  obtain ⟨header, hheader, hreordered⟩ := h
  exact ⟨header, Reheaded.parseHeader_eq hreordered hheader, hreordered.symm⟩

/-- The entries of a table, as the planner reads them. -/
def EntriesAre (image : List UInt8) (header : KernelHeader) (entries : List (List UInt8)) : Prop :=
  List.Forall₂ (fun i ph => programHeaderBytes image header i = .ok ph)
    (List.range header.programHeaderCount) entries

theorem entriesAre_of_slices (htable : header.TableIn image) {entries : List (List UInt8)}
    (hcount : entries.length = header.programHeaderCount)
    (h : ∀ i < header.programHeaderCount,
      slice image (header.programHeaderOffset + i * 56) 56 = entries[i]?) :
    EntriesAre image header entries := by
  refine List.forall₂_iff_get.mpr ⟨by simp [hcount], fun i hi hi' => ?_⟩
  have hlt : i < header.programHeaderCount := by simpa using hi
  simp only [List.get_eq_getElem, List.getElem_range]
  refine (programHeaderBytes_eq_ok htable hlt).mpr ?_
  rw [h i hlt, List.getElem?_eq_getElem]

theorem EntriesAre.mem {entries : List (List UInt8)} (h : EntriesAre image header entries)
    (hph : ph ∈ entries) :
    ∃ i < header.programHeaderCount, programHeaderBytes image header i = .ok ph := by
  obtain ⟨i, hi, rfl⟩ := List.mem_iff_getElem.mp hph
  have hlt : i < (List.range header.programHeaderCount).length := h.length_eq ▸ hi
  have hread := h.get hlt hi
  simp only [List.get_eq_getElem, List.getElem_range] at hread
  exact ⟨i, by simpa using hlt, hread⟩

theorem EntriesAre.read {entries : List (List UInt8)} (h : EntriesAre image header entries)
    {i : Nat} (hi : i < header.programHeaderCount) :
    ∃ ph ∈ entries, programHeaderBytes image header i = .ok ph := by
  have hlt : i < (List.range header.programHeaderCount).length := by simpa using hi
  have hread := h.get hlt (h.length_eq ▸ hlt)
  simp only [List.get_eq_getElem, List.getElem_range] at hread
  exact ⟨_, List.getElem_mem _, hread⟩

theorem checkProgramType_eq_ok {i : Nat} (h : programHeaderBytes image header i = .ok ph) :
    checkProgramType image header i = .ok () ↔
      getLE 4 ph 0 = (.ok programTypeLoad : KernelElf Nat) := by
  rw [checkProgramType, h, ok_bind]
  simp only [bind_eq_ok, rejectIf_eq_ok, decide_eq_false_iff_not, not_not]
  constructor
  · rintro ⟨_, hread, rfl⟩
    exact hread
  · exact fun hread => ⟨_, hread, rfl⟩

theorem Reheaded.validated (h : Reheaded image image') {capacity : Nat}
    (hvalid : validatedHeaderAndCapacity image policy = .ok (header, capacity)) :
    validatedHeaderAndCapacity image' policy = .ok (header, capacity)
      ∧ image.length = image'.length ∧ ∃ entries entries', entries.Perm entries'
        ∧ EntriesAre image header entries ∧ EntriesAre image' header entries' := by
  obtain ⟨hpolicy, hheader, htable, hcapacity, htypes⟩ :=
    (validatedHeaderAndCapacity_yields image policy).2 _ hvalid
  dsimp only at hheader htable hcapacity htypes
  obtain ⟨header₀, hheader₀, hreordered⟩ := h
  obtain rfl := Outcome.ok.inj (hheader₀.symm.trans hheader)
  have hheader' := Reheaded.parseHeader_eq hreordered hheader
  have hlen := hreordered.length_eq
  have htable' : header₀.TableIn image' := ⟨htable.sound, htable.fits, hlen ▸ htable.within⟩
  obtain ⟨entries, entries', hperm, hcount, hread, hread'⟩ := hreordered.reads
  have hentries := entriesAre_of_slices htable hcount hread
  have hentries' := entriesAre_of_slices htable' (hperm.length_eq ▸ hcount) hread'
  refine ⟨?_, hlen, entries, entries', hperm, hentries, hentries'⟩
  have htypes' : (List.range header₀.programHeaderCount).forM (checkProgramType image' header₀)
      = .ok () := by
    refine forM_eq_ok.mpr fun i hi => ?_
    obtain ⟨ph, hph, hbytes'⟩ := hentries'.read (List.mem_range.mp hi)
    obtain ⟨j, hj, hbytes⟩ := hentries.mem (hperm.mem_iff.mpr hph)
    exact (checkProgramType_eq_ok hbytes').mpr ((checkProgramType_eq_ok hbytes).mp (htypes j hj))
  unfold validatedHeaderAndCapacity at hvalid ⊢
  rw [hheader, ok_bind] at hvalid
  rw [hheader', ok_bind, ← hlen, htypes']
  simp only [bind_eq_ok] at hvalid ⊢
  obtain ⟨_, hvalidated, size, hsize, tableEnd, hend, _, hwithin, _, -, heq⟩ := hvalid
  exact ⟨_, hvalidated, size, hsize, tableEnd, hend, _, hwithin, (), trivial, heq⟩

end Headers

section Gather

variable {image image' ph : List UInt8} {header : KernelHeader} {policy : KernelElfPolicy}
  {available index : Nat}

theorem parseSegment_alike (hlen : image.length = image'.length) (index' : Nat) :
    Alike (fun s s' => s.unindexed = s'.unindexed) (parseSegment image ph index policy)
      (parseSegment image' ph index' policy) := by
  unfold parseSegment
  rw [hlen]
  refine .after _ fun programType => (Alike.rejectIf _ _ _).bind fun _ _ _ => ?_
  refine .after _ fun flags => (Alike.rejectIf _ _ _).bind fun _ _ _ => ?_
  refine (Alike.rejectIf _ _ _).bind fun _ _ _ => ?_
  refine .after _ fun fileOffset => .after _ fun virtualAddress => .after _ fun fileSize => ?_
  refine .after _ fun memorySize => .after _ fun alignment => ?_
  refine (Alike.rejectIf _ _ _).bind fun _ _ _ => (Alike.rejectIf _ _ _).bind fun _ _ _ => ?_
  refine (Alike.okOr _ _ _).bind fun fileEnd _ heq => ?_
  subst heq
  refine (Alike.rejectIf _ _ _).bind fun _ _ _ => (Alike.okOr _ _ _).bind fun virtualEnd _ heq => ?_
  subst heq
  dsimp only
  refine (Alike.okOr _ _ _).bind fun mappingEnd _ heq => ?_
  subst heq
  iterate 2 refine (Alike.rejectIf _ _ _).bind fun _ _ _ => (Alike.rejectIf _ _ _).bind fun _ _ _ => ?_
  refine .after _ fun mappingByteLen => .after _ fun segmentPageOffset => ?_
  show KernelLoadSegment.unindexed _ = KernelLoadSegment.unindexed _
  simp only [KernelLoadSegment.unindexed]

/-- The segment of a program header. -/
def headerSegment (image : List UInt8) (policy : KernelElfPolicy) (ph : List UInt8) :
    Option KernelLoadSegment :=
  (parseSegment image ph 0 policy).success.map KernelLoadSegment.unindexed

theorem planSegment_alike (hroom : index < available)
    (hph : programHeaderBytes image header index = .ok ph) :
    (planSegment image header policy available index).success.map KernelLoadSegment.unindexed
      = headerSegment image policy ph := by
  have halike : Alike (fun s s' => s.unindexed = s'.unindexed) (parseSegment image ph index policy)
      (parseSegment image ph 0 policy) := parseSegment_alike rfl 0
  rw [headerSegment, ← halike.success_eq, planSegment, hph, ok_bind]
  cases parseSegment image ph index policy with
  | ok segment =>
      rw [ok_bind, if_pos hroom]
      rfl
  | err e | panic => rfl

/-- The output so far, in no order. -/
def Gathered (output : List KernelLoadSegment) (planned : Multiset KernelLoadSegment) : Prop :=
  Multiset.ofList (output.map KernelLoadSegment.unindexed) = planned

def gather (image : List UInt8) (policy : KernelElfPolicy) (planned : Multiset KernelLoadSegment)
    (ph : List UInt8) : Option (Multiset KernelLoadSegment) :=
  (headerSegment image policy ph).map (· ::ₘ planned)

theorem gather_mirrors {output : List KernelLoadSegment} {planned : Multiset KernelLoadSegment}
    (hplanned : Gathered output planned) (hroom : index < available)
    (hph : programHeaderBytes image header index = .ok ph) :
    Mirrors Gathered (collect (planSegment image header policy available) output index)
      (gather image policy planned ph) := by
  rw [gather, ← planSegment_alike hroom hph, collect]
  cases planSegment image header policy available index with
  | err e | panic => exact fun s hs => by cases hs
  | ok segment =>
      refine ⟨_, rfl, ?_⟩
      rw [Gathered, List.map_append, List.map_singleton, ← Multiset.coe_add, Multiset.add_comm,
        hplanned]
      rfl

theorem gather_commutes (image : List UInt8) (policy : KernelElfPolicy) :
    StepsCommute (gather image policy) := by
  intro planned a b
  unfold gather
  generalize headerSegment image policy a = s, headerSegment image policy b = s'
  cases s with
  | none => cases s' <;> rfl
  | some s =>
      cases s' with
      | none => rfl
      | some s' => exact congrArg some (Multiset.cons_swap s' s planned)

theorem collect_reheaded (hlen : image.length = image'.length)
    {entries entries' : List (List UInt8)}
    (hperm : entries.Perm entries') (hentries : EntriesAre image header entries)
    (hentries' : EntriesAre image' header entries') (hroom : header.programHeaderCount ≤ available)
    {output : List KernelLoadSegment} (h : (List.range header.programHeaderCount).foldlM
      (collect (planSegment image header policy available)) [] = .ok output) :
    ∃ output', (List.range header.programHeaderCount).foldlM
        (collect (planSegment image' header policy available)) [] = .ok output'
      ∧ (output.map KernelLoadSegment.unindexed).Perm (output'.map KernelLoadSegment.unindexed) := by
  have hmirrors : ∀ {image entries}, EntriesAre image header entries → Mirrors Gathered
      ((List.range header.programHeaderCount).foldlM
        (collect (planSegment image header policy available)) [])
      (entries.foldlM (gather image policy) 0) := by
    intro image entries hentries
    have hin : List.Forall₂ (fun i ph => i < available ∧ programHeaderBytes image header i = .ok ph)
        (List.range header.programHeaderCount) entries := by
      refine List.forall₂_iff_get.mpr ⟨hentries.length_eq, fun i hi hi' => ⟨?_, hentries.get hi hi'⟩⟩
      simp only [List.get_eq_getElem, List.getElem_range]
      simp only [List.length_range] at hi
      omega
    exact Mirrors.foldlM (fun _ _ _ _ hst hph => gather_mirrors hst hph.1 hph.2) hin rfl
  have hgather : gather image policy = gather image' policy := by
    have hsegment : headerSegment image policy = headerSegment image' policy :=
      funext fun ph => (parseSegment_alike hlen 0).success_eq
    unfold gather
    rw [hsegment]
  obtain ⟨planned, hplanned, hgathered⟩ := (hmirrors hentries).of_ok h
  rw [(gather_commutes image policy).foldlM_perm hperm, hgather] at hplanned
  obtain ⟨output', houtput', hgathered'⟩ := (hmirrors hentries').of_some hplanned
  exact ⟨output', houtput', Multiset.coe_eq_coe.mp (hgathered.trans hgathered'.symm)⟩

end Gather

/-! ## Plans -/

section Plans

variable {image image' : List UInt8} {header : KernelHeader} {policy : KernelElfPolicy}
  {available : Nat} {p : KernelLoadPlan}

/-- What the planner does once the segments are sorted. -/
def finishPlan (header : KernelHeader) (policy : KernelElfPolicy)
    (segments : List KernelLoadSegment) : KernelElf KernelLoadPlan := do
  validateNonOverlapping segments policy.mappingGranule
  rejectIf (header.entryPoint = 0) .zeroEntryPoint
  rejectIf (!segments.any (KernelLoadSegment.backsEntry header.entryPoint))
    .entryPointNotInExecutableFileData
  match segments with
  | [] => .err .missingProgramHeaders
  | first :: rest => do
      rejectIf (first.mappingVirtualAddress ≠ policy.linkBase)
        (.kernelLinkBaseMismatch policy.linkBase first.mappingVirtualAddress)
      let firstEnd ← Unchecked.add first.virtualAddress first.memorySize
      let virtualEnd ← rest.foldlM extendSpan firstEnd
      pure ⟨header.entryPoint, segments, ⟨first.virtualAddress, virtualEnd⟩⟩

theorem planKernelElf_eq_ok : planKernelElf image policy available = .ok p ↔
    ∃ found, validatedHeaderAndCapacity image policy = .ok found ∧ found.2 ≤ available
      ∧ ∃ output, (List.range found.1.programHeaderCount).foldlM
          (collect (planSegment image found.1 policy available)) [] = .ok output
        ∧ finishPlan found.1 policy (output.insertionSort KernelLoadSegment.Precedes) = .ok p := by
  have heq : planKernelElf image policy available = (do
      let found ← validatedHeaderAndCapacity image policy
      rejectIf (available < found.2) (.outputTooSmall found.2 available)
      let output ← (List.range found.1.programHeaderCount).foldlM
        (collect (planSegment image found.1 policy available)) []
      finishPlan found.1 policy (output.insertionSort KernelLoadSegment.Precedes)) := rfl
  rw [heq]
  simp only [bind_eq_ok, rejectIf_eq_ok, exists_const, decide_eq_false_iff_not, Nat.not_lt]

theorem validateApart_unindexed : ∀ segments : List KernelLoadSegment,
    Alike (· = ·) (validateApart segments)
      (validateApart (segments.map KernelLoadSegment.unindexed))
  | [] => rfl
  | [_] => rfl
  | _ :: right :: rest => .after _ fun _ => (Alike.rejectIf _ _ _).bind fun _ _ _ =>
      validateApart_unindexed (right :: rest)

theorem validateMappingsApart_unindexed (granule : Nat) : ∀ segments : List KernelLoadSegment,
    Alike (· = ·) (validateMappingsApart granule segments)
      (validateMappingsApart granule (segments.map KernelLoadSegment.unindexed))
  | [] => rfl
  | [_] => rfl
  | _ :: right :: rest => .after _ fun _ => (Alike.okOr _ _ _).bind fun _ _ heq => by
      subst heq
      exact (Alike.rejectIf _ _ _).bind fun _ _ _ =>
        validateMappingsApart_unindexed granule (right :: rest)

theorem finishPlan_unindexed (header : KernelHeader) (policy : KernelElfPolicy)
    (segments : List KernelLoadSegment) : Alike (fun p p' => p.unindexed = p')
      (finishPlan header policy segments)
      (finishPlan header policy (segments.map KernelLoadSegment.unindexed)) := by
  have hvalidated : Alike (· = ·) (validateNonOverlapping segments policy.mappingGranule)
      (validateNonOverlapping (segments.map KernelLoadSegment.unindexed) policy.mappingGranule) :=
    (validateApart_unindexed segments).bind fun _ _ _ => validateMappingsApart_unindexed _ segments
  refine hvalidated.bind fun _ _ _ => (Alike.rejectIf _ _ _).bind fun _ _ _ => ?_
  rw [List.any_map]
  refine (Alike.rejectIf _ _ _).bind fun _ _ _ => ?_
  cases segments with
  | nil => exact trivial
  | cons first rest =>
      refine (Alike.rejectIf _ _ _).bind fun _ _ _ => .after _ fun firstEnd => ?_
      rw [List.foldlM_map]
      exact .after _ fun virtualEnd => rfl

theorem finishPlan_perm {segments segments' : List KernelLoadSegment}
    (hsame : segments.map KernelLoadSegment.unindexed = segments'.map KernelLoadSegment.unindexed)
    (h : finishPlan header policy segments = .ok p) :
    ∃ p', finishPlan header policy segments' = .ok p' ∧ p'.unindexed = p.unindexed := by
  obtain ⟨_, hunindexed, rfl⟩ := (finishPlan_unindexed header policy segments).of_ok h
  rw [hsame] at hunindexed
  exact (finishPlan_unindexed header policy segments').symm.of_ok hunindexed

theorem pairwise_precedes (output : List KernelLoadSegment) :
    (output.insertionSort KernelLoadSegment.Precedes).Pairwise
      fun a b => a.memory.start ≤ b.memory.start := by
  have htotal : Std.Total KernelLoadSegment.Precedes := by
    refine ⟨fun a b => ?_⟩
    unfold KernelLoadSegment.Precedes
    omega
  have htrans : IsTrans KernelLoadSegment KernelLoadSegment.Precedes := by
    refine ⟨fun a b c => ?_⟩
    unfold KernelLoadSegment.Precedes
    omega
  refine (List.pairwise_insertionSort KernelLoadSegment.Precedes output).imp fun hbefore => ?_
  rcases hbefore with hlt | ⟨heq, -⟩
  · exact Nat.le_of_lt hlt
  · exact Nat.le_of_eq heq

theorem planKernelElf_reheaded (h : Reheaded image image')
    (hp : planKernelElf image policy available = .ok p) :
    ∃ p', planKernelElf image' policy available = .ok p' ∧ p'.unindexed = p.unindexed := by
  obtain ⟨-, header, -, hsound⟩ := (planKernelElf_yields image policy available).2 p hp
  obtain ⟨⟨header, capacity⟩, hvalid, hroom, output, houtput, hfinish⟩ := planKernelElf_eq_ok.mp hp
  obtain ⟨hvalid', hlen, entries, entries', hperm, hentries, hentries'⟩ := h.validated hvalid
  obtain ⟨-, -, -, hcapacity, -⟩ := (validatedHeaderAndCapacity_yields image policy).2 _ hvalid
  obtain ⟨output', houtput', hsegments⟩ := collect_reheaded hlen hperm hentries hentries'
    (hcapacity ▸ hroom) houtput
  have hsorted := List.perm_insertionSort KernelLoadSegment.Precedes output
  have hsorted' := List.perm_insertionSort KernelLoadSegment.Precedes output'
  have hplan : p.segments = output.insertionSort KernelLoadSegment.Precedes := by
    simp only [finishPlan, bind_eq_ok] at hfinish
    obtain ⟨_, -, _, -, _, -, hfinish⟩ := hfinish
    cases hsegments : output.insertionSort KernelLoadSegment.Precedes with
    | nil => rw [hsegments] at hfinish; cases hfinish
    | cons first rest =>
        rw [hsegments] at hfinish
        simp only [bind_eq_ok] at hfinish
        obtain ⟨_, -, firstEnd, -, virtualEnd, -, heq⟩ := hfinish
        rw [← Outcome.ok.inj heq]
  have hsame : (output.insertionSort KernelLoadSegment.Precedes).map KernelLoadSegment.unindexed
      = (output'.insertionSort KernelLoadSegment.Precedes).map KernelLoadSegment.unindexed := by
    refine Region.eq_of_perm_sorted (f := KernelLoadSegment.memory) ?_ ?_ ?_ ?_
    · exact (hsorted.map _).trans (hsegments.trans (hsorted'.map _).symm)
    · exact List.pairwise_map.mpr (hplan ▸ hsound.memory)
    · intro a ha
      obtain ⟨s, hs, rfl⟩ := List.mem_map.mp ha
      exact (hsound.segments s (hplan ▸ hs)).memory_pos
    · exact List.pairwise_map.mpr (pairwise_precedes output')
  obtain ⟨p', hfinish', hunindexed⟩ := finishPlan_perm hsame hfinish
  exact ⟨p', planKernelElf_eq_ok.mpr ⟨_, hvalid', hroom, output', houtput', hfinish'⟩, hunindexed⟩

/-- No image makes the kernel planner fault or overflow. What it accepts is a sound
plan, whose segments the transition planner accepts with pages of their length, and
which the order of the program headers does not change but for their indices. -/
theorem planKernelElf_hostile (image : List UInt8) (policy : KernelElfPolicy) (available : Nat) :
    planKernelElf image policy available ≠ .panic
      ∧ (∀ p, planKernelElf image policy available = .ok p → policy.Accepted
          ∧ (∃ header, parseHeader image = .ok header ∧ p.Sound image policy header)
          ∧ ∀ s ∈ p.segments, ∀ transition pages,
              transition.mappingGranule = policy.mappingGranule →
              pages.byteLen = s.mappingByteLen →
              pages.lifetime = .retainedUntilKernelPageTableReplacement →
              isMultipleOf pages.physicalStart policy.mappingGranule = true →
              pages.physicalStart + pages.byteLen < 2 ^ 64 →
              validateKernelSegment ⟨s, pages⟩ transition image.length = .ok ())
      ∧ ∀ image', Reheaded image image' →
          (planKernelElf image' policy available).isOk = (planKernelElf image policy available).isOk
          ∧ ∀ p p', planKernelElf image policy available = .ok p →
              planKernelElf image' policy available = .ok p' → p'.unindexed = p.unindexed := by
  obtain ⟨hpanic, hyields⟩ := planKernelElf_yields image policy available
  refine ⟨hpanic, fun p hp => ?_, fun image' h => ⟨?_, fun p p' hp hp' => ?_⟩⟩
  · obtain ⟨haccepted, header, hheader, hsound⟩ := hyields p hp
    refine ⟨haccepted, ⟨header, hheader, hsound⟩, ?_⟩
    intro s hs transition pages hgranule hlen hlifetime haligned hend
    exact (hsound.segments s hs).validates (isPowerOfTwo_pos haccepted.granule) hgranule hlen
      hlifetime haligned hend
  · rw [Bool.eq_iff_iff]
    constructor
    · intro hok
      obtain ⟨p', hp'⟩ := exists_of_isOk hok
      obtain ⟨p, hp, -⟩ := planKernelElf_reheaded h.symm hp'
      rw [hp, isOk_ok]
    · intro hok
      obtain ⟨p, hp⟩ := exists_of_isOk hok
      obtain ⟨p', hp', -⟩ := planKernelElf_reheaded h hp
      rw [hp', isOk_ok]
  · obtain ⟨p'', hp'', hsame⟩ := planKernelElf_reheaded h hp
    obtain rfl := Outcome.ok.inj (hp''.symm.trans hp')
    exact hsame

end Plans

def sampleKernelPolicy : KernelElfPolicy :=
  ⟨⟨0xffffffff80000000, 2 ^ 64 - 1⟩, 0xffffffff80000000, 4096⟩

/-- A kernel of these program headers. -/
def kernelImage (headers : List (List UInt8)) : List UInt8 :=
  Loader.elfImage 0xffffffff80000000 headers

def textHeader : List UInt8 := Loader.loadHeader 5 0 0xffffffff80000000 176 176

def dataHeader : List UInt8 := Loader.loadHeader 6 0 0xffffffff80001000 176 5000

/-- Text and data, in either order. -/
theorem planKernelElf_hostile_swapped : ∃ p p',
    planKernelElf (kernelImage [textHeader, dataHeader]) sampleKernelPolicy 2 = .ok p ∧
      planKernelElf (kernelImage [dataHeader, textHeader]) sampleKernelPolicy 2 = .ok p' ∧
      p.segments.map (·.programHeaderIndex) = [0, 1] ∧
      p'.segments.map (·.programHeaderIndex) = [1, 0] ∧ p'.unindexed = p.unindexed := by
  obtain ⟨-, hsound, hordered⟩ := planKernelElf_hostile (kernelImage [textHeader, dataHeader])
    sampleKernelPolicy 2
  have hreordered : Reheaded (kernelImage [textHeader, dataHeader])
      (kernelImage [dataHeader, textHeader]) := by
    have hswap := @Reordered.mk 64 56 2 ((kernelImage [textHeader, dataHeader]).take 64) []
      [textHeader, dataHeader] [dataHeader, textHeader] (by decide +kernel) rfl (by decide +kernel)
      (.swap ..)
    have hfront : (kernelImage [textHeader, dataHeader]).take 64 ++
        ([textHeader, dataHeader].flatten ++ []) = kernelImage [textHeader, dataHeader] := by
      decide +kernel
    have hfront' : (kernelImage [textHeader, dataHeader]).take 64 ++
        ([dataHeader, textHeader].flatten ++ []) = kernelImage [dataHeader, textHeader] := by
      decide +kernel
    rw [hfront, hfront'] at hswap
    exact ⟨⟨0xffffffff80000000, 64, 56, 2⟩, by decide +kernel, hswap⟩
  obtain ⟨-, hsame⟩ := hordered _ hreordered
  have hindices : (planKernelElf (kernelImage [textHeader, dataHeader]) sampleKernelPolicy 2).map
      (·.segments.map (·.programHeaderIndex)) = .ok [0, 1] := by decide +kernel
  have hindices' : (planKernelElf (kernelImage [dataHeader, textHeader]) sampleKernelPolicy 2).map
      (·.segments.map (·.programHeaderIndex)) = .ok [1, 0] := by decide +kernel
  obtain ⟨p, hp⟩ := exists_of_isOk ((isOk_map _ _).symm.trans (congrArg isOk hindices))
  obtain ⟨p', hp'⟩ := exists_of_isOk ((isOk_map _ _).symm.trans (congrArg isOk hindices'))
  rw [hp] at hindices
  rw [hp'] at hindices'
  exact ⟨p, p', hp, hp', Outcome.ok.inj hindices, Outcome.ok.inj hindices', hsame p p' hp hp'⟩

end Wyrmroot.Transition
