import Mathlib.Algebra.Order.Ring.Nat
import Wyrmroot.Lib.Region
import Wyrmroot.Loader.Elf

/-!
# What the user ELF planner accepts

`ElfLoadPlan.Sound` is what holds of a plan of a hostile image. Each segment is
checked by itself (`parseLoadSegment_sound`); that no two of them share a page
is read off the sorted table, where only neighbours are compared.
-/

namespace Wyrmroot.Loader

open Outcome

/-! ## Addresses -/

theorem alignUp_eq_some {value result : Nat} (h : alignUp value pageSize = some result) :
    value + (pageSize - 1) < 2 ^ 64 ∧ alignDown (value + (pageSize - 1)) pageSize = result := by
  simp only [alignUp, Option.map_eq_some_iff] at h
  obtain ⟨sum, hsum, rfl⟩ := h
  obtain ⟨hlt, rfl⟩ := checkedAdd_eq_some.mp hsum
  exact ⟨hlt, rfl⟩

/-! ## One segment -/

/-- The `p_flags` of a segment. -/
def SegmentProtection.flags : SegmentProtection → Nat
  | .read => pfR
  | .readWrite => pfRW
  | .readExecute => pfRX

def LoadSegment.mapping (s : LoadSegment) : Region := ⟨s.mappingStart, s.mappingSize⟩

namespace LoadSegment

structure Sound (s : LoadSegment) (image : List UInt8) : Prop where
  fileIn : s.FileIn image
  fileSize_le : s.fileSize ≤ s.memorySize
  memory_pos : 0 < s.memorySize
  lead : s.mappingStart + s.leadingBytes = s.virtualAddress
  covers : s.memoryEnd ≤ s.mappingEnd
  aligned : pageSize ∣ s.mappingStart ∧ pageSize ∣ s.mappingSize
  inUser : pageSize ≤ s.mappingStart ∧ s.mappingEnd ≤ userEndExclusive
  clear : s.mappingEnd ≤ stackGuardStart ∨ stackTop ≤ s.mappingStart

namespace Sound

variable {s : LoadSegment} {image : List UInt8}

theorem mapping_pos (h : s.Sound image) : 0 < s.mapping.len := by
  have hcovers := h.covers
  have hlead := h.lead
  have hmemory := h.memory_pos
  unfold memoryEnd mappingEnd at hcovers
  show 0 < s.mappingSize
  omega

theorem fits (h : s.Sound image) : s.leadingBytes + s.fileSize ≤ s.mappingSize := by
  have hcovers := h.covers
  have hlead := h.lead
  have hfile := h.fileSize_le
  unfold memoryEnd mappingEnd at hcovers
  omega

theorem ends_lt (h : s.Sound image) : s.memoryEnd < 2 ^ 64 ∧ s.mappingEnd < 2 ^ 64 := by
  have hcovers := h.covers
  have hend := h.inUser.2
  rw [userEndExclusive] at hend
  omega

end Sound

end LoadSegment

theorem segmentProtection_ok {index flags : Nat} {protection : SegmentProtection}
    (h : segmentProtection index flags = .ok protection) : flags = protection.flags := by
  unfold segmentProtection at h
  split at h
  · rename_i hflags
    rw [← Outcome.ok.inj h]
    exact hflags
  split at h
  · rename_i hflags
    rw [← Outcome.ok.inj h]
    exact hflags
  split at h
  · rename_i hflags
    rw [← Outcome.ok.inj h]
    exact hflags
  · cases h

theorem SegmentProtection.not_both (protection : SegmentProtection) :
    ¬ (protection.flags &&& pfW ≠ 0 ∧ protection.flags &&& pfX ≠ 0) := by
  cases protection <;> decide

theorem parseLoadSegment_sound {image ph : List UInt8} {index : Nat} {segment : LoadSegment}
    (h : parseLoadSegment image ph index = .ok segment) :
    segment.Sound image ∧ segment.headerIndex = index
      ∧ getLE 4 ph 4 = (.ok segment.protection.flags : Plan Nat) := by
  have hfile := parseLoadSegment_fileIn h
  simp only [parseLoadSegment, bind_eq_ok, rejectIf_eq_ok, okOr_eq_ok, exists_const,
    decide_eq_false_iff_not, Nat.not_lt, Bool.or_eq_false_iff, Bool.and_eq_false_iff] at h
  obtain ⟨flags, hflags, -, -, protection, hprotection, fileOffset, -, virtualAddress, -, fileSize,
    -, memorySize, -, alignment, -, hempty, hsize, fileEnd, -, -, memoryEnd, hmemory, -, -, -,
    mappingEnd, hmapping, hstart, huser, hstack, heq⟩ := h
  obtain rfl := Outcome.ok.inj heq
  obtain rfl := segmentProtection_ok hprotection
  obtain ⟨-, rfl⟩ := checkedAdd_eq_some.mp hmemory
  obtain ⟨-, rfl⟩ := alignUp_eq_some hmapping
  have hdown := alignDown_le virtualAddress pageSize
  have hend : alignDown virtualAddress pageSize
      + (alignDown (virtualAddress + memorySize + (pageSize - 1)) pageSize
        - alignDown virtualAddress pageSize)
      = alignDown (virtualAddress + memorySize + (pageSize - 1)) pageSize := by omega
  refine ⟨⟨hfile, hsize, Nat.pos_of_ne_zero hempty, Nat.add_sub_cancel' hdown, ?_, ?_, ?_, ?_⟩, rfl,
    hflags⟩
  · unfold LoadSegment.memoryEnd LoadSegment.mappingEnd
    dsimp only
    rw [hend, alignDown, pageSize]
    omega
  · exact ⟨Nat.dvd_mul_left .., Nat.dvd_sub (Nat.dvd_mul_left ..) (Nat.dvd_mul_left ..)⟩
  · unfold LoadSegment.mappingEnd
    dsimp only
    rw [hend]
    exact huser
  · unfold LoadSegment.mappingEnd
    dsimp only
    rw [hend]
    rcases hstack with hstack | hstack
    · exact .inr (by omega)
    · exact .inl (by omega)

/-! ## The second pass -/

/-- The segment is the one that this program header asks for. -/
def LoadSegment.Planned (image : List UInt8) (header : ElfHeader) (s : LoadSegment) : Prop :=
  s.headerIndex < header.programCount ∧ ∃ ph, programHeader image header s.headerIndex = .ok ph
    ∧ getLE 4 ph 0 = (.ok ptLoad : Plan Nat)
    ∧ parseLoadSegment image ph s.headerIndex = .ok s

structure Summed (image : List UInt8) (header : ElfHeader) (g : SegmentScan) : Prop where
  planned : ∀ s ∈ g.segments, s.Planned image header
  total : g.mappedBytes = (g.segments.map LoadSegment.mappingSize).sum
  limit : g.mappedBytes ≤ maxMappedImageBytes

theorem gatherSegment_summed {image : List UInt8} {header : ElfHeader} {outputLen index : Nat}
    {g g' : SegmentScan} (hg : Summed image header g) (hindex : index < header.programCount)
    (h : gatherSegment image header outputLen g index = .ok g') : Summed image header g' := by
  simp only [gatherSegment, bind_eq_ok] at h
  obtain ⟨ph, hph, headerType, htype, h⟩ := h
  split at h
  · obtain rfl := Outcome.ok.inj h
    exact hg
  · rename_i hload
    obtain rfl := not_not.mp hload
    simp only [bind_eq_ok, okOr_eq_ok, rejectIf_eq_ok, exists_const, decide_eq_false_iff_not,
      Nat.not_lt] at h
    obtain ⟨segment, hsegment, total, htotal, hlimit, h⟩ := h
    split at h
    · obtain rfl := Outcome.ok.inj h
      obtain ⟨-, rfl⟩ := checkedAdd_eq_some.mp htotal
      have hplanned : segment.Planned image header := by
        have hat := (parseLoadSegment_sound hsegment).2.1
        rw [LoadSegment.Planned, hat]
        exact ⟨hindex, ph, hph, htype, hsegment⟩
      refine ⟨?_, ?_, hlimit⟩
      · intro s hs
        rcases List.mem_append.mp hs with hold | hnew
        · exact hg.planned s hold
        · exact List.mem_singleton.mp hnew ▸ hplanned
      · simp [hg.total]
    · cases h

theorem gatherSegments_summed {image : List UInt8} {header : ElfHeader} {outputLen : Nat}
    {indices : List Nat} {g last : SegmentScan} (hg : Summed image header g)
    (hindices : ∀ i ∈ indices, i < header.programCount)
    (h : indices.foldlM (gatherSegment image header outputLen) g = .ok last) :
    Summed image header last := by
  induction indices generalizing g with
  | nil => exact Outcome.ok.inj h ▸ hg
  | cons index rest ih =>
      rw [List.foldlM_cons, bind_eq_ok] at h
      obtain ⟨g', hstep, hrest⟩ := h
      exact ih (gatherSegment_summed hg (hindices index List.mem_cons_self) hstep)
        (fun i hi => hindices i (List.mem_cons_of_mem _ hi)) hrest

/-! ## Neighbours -/

/-- Neither the bytes nor the pages of the first reach into the second. -/
def LoadSegment.EndsBefore (a b : LoadSegment) : Prop :=
  a.memoryEnd ≤ b.virtualAddress ∧ a.mapping.Before b.mapping

theorem validateNonoverlap_eq_ok {u : Unit} : ∀ {segments : List LoadSegment},
    validateNonoverlap segments = .ok u ↔ segments.IsChain LoadSegment.EndsBefore
  | [] => by simp [validateNonoverlap]
  | [_] => by simp [validateNonoverlap]
  | first :: second :: rest => by
      have ih := @validateNonoverlap_eq_ok u (second :: rest)
      have hmapping : decide (second.mappingStart < first.mappingEnd) = false
          ↔ first.mapping.Before second.mapping := by
        rw [decide_eq_false_iff_not, Nat.not_lt]
        rfl
      simp only [validateNonoverlap, bind_eq_ok, rejectIf_eq_ok, exists_const, hmapping,
        decide_eq_false_iff_not, Nat.not_lt, ih, List.isChain_cons_cons, LoadSegment.EndsBefore,
        and_assoc]

/-! ## A plan -/

/-- What an accepted plan is: its segments are sorted, and no two share a page. -/
structure ElfLoadPlan.Sound (p : ElfLoadPlan) (image : List UInt8) (header : ElfHeader) : Prop where
  planned : ∀ s ∈ p.segments, s.Planned image header
  segments : ∀ s ∈ p.segments, s.Sound image
  fits : ∀ s ∈ p.segments, s.leadingBytes + s.fileSize ≤ s.mappingSize
  guarded : ∀ s ∈ p.segments, ∃ ph flags, programHeader image header s.headerIndex = .ok ph
    ∧ getLE 4 ph 4 = (.ok flags : Plan Nat) ∧ flags = s.protection.flags
    ∧ ¬ (flags &&& pfW ≠ 0 ∧ flags &&& pfX ≠ 0)
  apart : p.segments.Pairwise fun a b => a.mapping.Before b.mapping
  total : p.mappedBytes = (p.segments.map LoadSegment.mappingSize).sum
  limit : p.mappedBytes ≤ maxMappedImageBytes
  entry : p.entry = header.entry
  executable : ∃ s ∈ p.segments, s.protection = .readExecute
    ∧ s.virtualAddress ≤ p.entry ∧ p.entry < s.memoryEnd

theorem plan_sound {image : List UInt8} {outputLen : Nat} {p : ElfLoadPlan}
    (h : plan image outputLen = .ok p) :
    ∃ header, parseElfHeader image = .ok header ∧ p.Sound image header := by
  simp only [plan, bind_eq_ok, rejectIf_eq_ok, exists_const, Bool.not_eq_false'] at h
  obtain ⟨-, -, -, header, hheader, g, hg, _, hchain, -, hentry, heq⟩ := h
  obtain rfl := Outcome.ok.inj heq
  have hsummed := gatherSegments_summed (g := {}) ⟨by simp, rfl, Nat.zero_le _⟩
    (fun i hi => List.mem_range.mp hi) hg
  have hperm := List.perm_insertionSort LoadSegment.Before g.segments
  have hplanned : ∀ s ∈ g.segments.insertionSort LoadSegment.Before, s.Planned image header :=
    fun s hs => hsummed.planned s (hperm.mem_iff.mp hs)
  have hsegments : ∀ s ∈ g.segments.insertionSort LoadSegment.Before, s.Sound image := by
    intro s hs
    obtain ⟨-, ph, -, -, hparse⟩ := hplanned s hs
    exact (parseLoadSegment_sound hparse).1
  refine ⟨header, hheader, hplanned, hsegments, fun s hs => (hsegments s hs).fits, fun s hs => ?_,
    ?_, ?_, hsummed.limit, rfl, ?_⟩
  · obtain ⟨-, ph, hph, -, hparse⟩ := hplanned s hs
    exact ⟨ph, _, hph, (parseLoadSegment_sound hparse).2.2, rfl, s.protection.not_both⟩
  · exact Region.pairwise_before ((validateNonoverlap_eq_ok.mp hchain).imp fun _ _ hab => hab.2)
  · rw [hsummed.total]
    exact (hperm.map _).sum_nat.symm
  · obtain ⟨s, hs, hholds⟩ := List.any_eq_true.mp hentry
    simp only [LoadSegment.holdsEntry, Bool.and_eq_true, decide_eq_true_eq] at hholds
    exact ⟨s, hs, hholds.1.1, hholds.1.2, hholds.2⟩

end Wyrmroot.Loader
