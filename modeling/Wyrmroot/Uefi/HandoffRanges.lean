import Wyrmroot.Lib.Region
import Wyrmroot.Lib.Yields
import Wyrmroot.Uefi.BootInfo

/-!
# The ranges of a handoff

What the comparisons of `boot_info.rs` establish about regions: one lemma for
each loop, in the order of the source. A loop that only checks yields the
property of all of its elements.
-/

namespace Wyrmroot.Uefi

open Outcome
open Loader (checkedAdd checkedAdd_eq_some)
open Startup (checkedMul_eq_some)

/-! ## Arithmetic -/

section Arithmetic

variable {a b : Nat}

theorem plus_yields (h : a + b < 2 ^ 64) : Yields (plus a b) fun c => c = a + b := by
  rw [plus, if_pos h]
  exact .ok rfl

theorem minus_yields (h : b ≤ a) : Yields (minus a b) fun c => c = a - b := by
  rw [minus, if_pos h]
  exact .ok rfl

theorem times_yields (h : a * b < 2 ^ 64) : Yields (times a b) fun c => c = a * b := by
  rw [times, if_pos h]
  exact .ok rfl

theorem divide_yields (h : 0 < b) : Yields (divide a b) fun c => c = a / b := by
  rw [divide, if_neg (Nat.ne_of_gt h)]
  exact .ok rfl

theorem checkedAdd_yields (e : BootInfoError) :
    Yields (okOr (checkedAdd a b) e) fun c => c = a + b ∧ a + b < 2 ^ 64 :=
  (Yields.okOr _ e).mono fun _ h => ⟨(checkedAdd_eq_some.mp h).2.symm, (checkedAdd_eq_some.mp h).1⟩

theorem rejectIf_yields (c : Bool) (e : BootInfoError) : Yields (rejectIf c e) fun _ => True :=
  (Yields.rejectIf c e).mono fun _ _ => trivial

end Arithmetic

/-! ## Regions of the records -/

def HandoffAllocation.region (allocation : HandoffAllocation) : Region :=
  ⟨allocation.physicalStart, allocation.byteLen⟩

section Checks

variable (abi : DeepwyrmAbi)

def DwBootMemoryRangeV1.region (entry : DwBootMemoryRangeV1) : Region :=
  ⟨entry.physicalStart, entry.pageCount * abi.basePageSize.toNat⟩

/-- `byteLen` up to the next multiple of the page size. -/
def pageRounded (byteLen : Nat) : Nat :=
  (byteLen + (abi.basePageSize.toNat - 1)) / abi.basePageSize.toNat * abi.basePageSize.toNat

/-- The whole pages a module takes. -/
def DwBootModuleV1.extent (module : DwBootModuleV1) : Region :=
  ⟨module.physicalStart, pageRounded abi module.byteLen⟩

/-- Inside one entry of a kind. -/
def Backed (memoryMap : List DwBootMemoryRangeV1) (kind : UInt32) (r : Region) : Prop :=
  ∃ entry ∈ memoryMap, entry.kind = kind ∧ r.Inside (entry.region abi)

variable {abi}

theorem moduleAllocationLen_yields (hpage : 0 < abi.basePageSize.toNat) (byteLen : Nat) :
    Yields (moduleAllocationLen abi byteLen) fun len => len = pageRounded abi byteLen := by
  refine (minus_yields hpage).bind fun _ hless => ?_
  subst hless
  refine (checkedAdd_yields _).bind ?_
  rintro _ ⟨rfl, hlt⟩
  refine (divide_yields hpage).bind fun _ hquotient => ?_
  subst hquotient
  exact times_yields (lt_of_le_of_lt (Nat.div_mul_le_self _ _) hlt)

theorem rangesOverlap_yields (r s : Region) :
    Yields (rangesOverlap r.start r.len s.start s.len) fun overlap =>
      overlap = false → r.Apart s := by
  refine (checkedAdd_yields _).bind ?_
  rintro _ ⟨rfl, -⟩
  refine (checkedAdd_yields _).bind ?_
  rintro _ ⟨rfl, -⟩
  refine .ok fun hfalse => Region.apart_of_not_overlap fun h => ?_
  rcases Bool.and_eq_false_iff.mp hfalse with hleft | hright
  · exact decide_eq_false_iff_not.mp hleft h.1
  · exact decide_eq_false_iff_not.mp hright h.2

theorem notOverlap_yields {α : Type} {rest : Unit → BootCheck α} {Q : α → Prop} (r s : Region)
    (e : BootInfoError) (hrest : r.Apart s → Yields (rest ()) Q) :
    Yields (rangesOverlap r.start r.len s.start s.len >>= fun overlap =>
      rejectIf overlap e >>= rest) Q :=
  (rangesOverlap_yields r s).bind fun overlap hapart => (Yields.rejectIf overlap e).bind
    fun _ hfalse => hrest (hapart hfalse)

theorem pageRangeEnd_yields (entry : DwBootMemoryRangeV1) :
    Yields (pageRangeEnd abi entry.physicalStart entry.pageCount) fun stop =>
      stop = (entry.region abi).stop := by
  refine (Yields.okOr _ _).bind fun byteLen hmul => ?_
  obtain ⟨-, rfl⟩ := checkedMul_eq_some.mp hmul
  exact (checkedAdd_yields _).mono fun _ h => h.1

/-! ## The memory map -/

theorem scanKinds_yields (r : Region) (accepts : UInt32 → Bool) :
    ∀ memoryMap, Yields (scanKinds abi r.start r.stop accepts memoryMap) fun found =>
      found = true → ∃ entry ∈ memoryMap, accepts entry.kind = true ∧ r.Inside (entry.region abi)
  | [] => .ok fun h => absurd h Bool.false_ne_true
  | entry :: rest => by
      refine (pageRangeEnd_yields entry).bind fun _ hstop => ?_
      subst hstop
      refine .ite (fun h => .ok fun _ => ?_) fun _ => ?_
      · simp only [Bool.and_eq_true, decide_eq_true_iff] at h
        exact ⟨entry, List.mem_cons_self, h.1.1, h.1.2, h.2⟩
      · refine (scanKinds_yields r accepts rest).mono fun found hrest hfound => ?_
        obtain ⟨entry, hentry, hinside⟩ := hrest hfound
        exact ⟨entry, List.mem_cons_of_mem _ hentry, hinside⟩

theorem rangeHasKind_yields (r : Region) (memoryMap : List DwBootMemoryRangeV1)
    (accepts : UInt32 → Bool) :
    Yields (rangeHasKind abi r.start r.len memoryMap accepts) fun found =>
      found = true → ∃ entry ∈ memoryMap, accepts entry.kind = true ∧ r.Inside (entry.region abi) := by
  refine (checkedAdd_yields _).bind ?_
  rintro _ ⟨rfl, -⟩
  exact scanKinds_yields r accepts memoryMap

theorem validateReservedRange_yields (r : Region) (memoryMap : List DwBootMemoryRangeV1) :
    Yields (validateReservedRange abi r.start r.len memoryMap) fun _ =>
      Backed abi memoryMap abi.memoryKindReserved r := by
  refine (rangeHasKind_yields r memoryMap _).bind fun found hfound => ?_
  refine (Yields.rejectIf _ _).mono fun _ htrue => ?_
  obtain ⟨entry, hentry, hkind, hinside⟩ := hfound (by simpa using htrue)
  exact ⟨entry, hentry, decide_eq_true_iff.mp hkind, hinside⟩

theorem validatePageRange_yields (entry : DwBootMemoryRangeV1) :
    Yields (validatePageRange abi entry.physicalStart entry.pageCount) fun _ => True := by
  refine (rejectIf_yields _ _).bind fun _ _ => ?_
  refine (rejectIf_yields _ _).bind fun _ _ => ?_
  exact (pageRangeEnd_yields entry).bind fun _ _ => .ok trivial

theorem scanMemoryMap_yields : ∀ memoryMap previousEnd,
    Yields (scanMemoryMap abi previousEnd memoryMap) fun _ =>
      (memoryMap.map (DwBootMemoryRangeV1.region abi)).Pairwise Region.Before ∧
        (∀ previous ∈ previousEnd, ∀ entry ∈ memoryMap, previous ≤ (entry.region abi).start) ∧
          ∀ entry ∈ memoryMap, pageRangeEnd abi entry.physicalStart entry.pageCount =
            .ok (entry.region abi).stop
  | [], _ => .ok ⟨.nil, fun _ _ => List.forall_mem_nil _, List.forall_mem_nil _⟩
  | entry :: rest, previousEnd => by
      iterate 3 refine (rejectIf_yields _ _).bind fun _ _ => ?_
      refine (validatePageRange_yields entry).bind fun _ _ => ?_
      refine (pageRangeEnd_yields entry).keep.bind ?_
      rintro _ ⟨hend, rfl⟩
      refine (Yields.rejectIf _ _).bind fun _ hfirst => ?_
      refine (scanMemoryMap_yields rest _).mono ?_
      rintro _ ⟨hsorted, hbehind, hends⟩
      have hrest : ∀ e ∈ rest, (entry.region abi).Before (e.region abi) := hbehind _ rfl
      refine ⟨List.pairwise_cons.mpr ⟨List.forall_mem_map.mpr hrest, hsorted⟩, ?_,
        List.forall_mem_cons.mpr ⟨hend, hends⟩⟩
      rintro previous hprevious
      have hle : previous ≤ (entry.region abi).start := by
        subst hprevious
        exact Nat.not_lt.mp (of_decide_eq_false hfirst)
      refine List.forall_mem_cons.mpr ⟨hle, fun e he => ?_⟩
      exact hle.trans ((entry.region abi).start_le_stop.trans (hrest e he))

theorem scanKinds_eq {r : Region} {accepts : UInt32 → Bool} :
    ∀ {memoryMap : List DwBootMemoryRangeV1},
      (∀ entry ∈ memoryMap, pageRangeEnd abi entry.physicalStart entry.pageCount =
        .ok (entry.region abi).stop) →
      (∃ entry ∈ memoryMap, accepts entry.kind = true ∧ r.Inside (entry.region abi)) →
        scanKinds abi r.start r.stop accepts memoryMap = .ok true
  | [], _, hfound => by
      obtain ⟨_, hmem, _⟩ := hfound
      cases hmem
  | entry :: rest, hends, hfound => by
      rw [scanKinds, hends entry List.mem_cons_self, ok_bind]
      split_ifs with hentry
      · rfl
      · refine scanKinds_eq (fun e he => hends e (List.mem_cons_of_mem _ he)) ?_
        obtain ⟨found, hmem, hkind, hinside⟩ := hfound
        rcases List.mem_cons.mp hmem with rfl | hrest
        · refine absurd ?_ hentry
          exact Bool.and_eq_true_iff.mpr ⟨Bool.and_eq_true_iff.mpr ⟨hkind,
            decide_eq_true hinside.1⟩, decide_eq_true hinside.2⟩
        · exact ⟨found, hrest, hkind, hinside⟩

/-! ## The modules -/

theorem checkPagingHandoffLen_yields (byteLen : Nat) :
    Yields (checkPagingHandoffLen abi byteLen) fun _ => True := by
  have hproduct : abi.pagingHandoffMinTableFrameCount.toNat *
      abi.pagingHandoffTableFrameStride.toNat ≤ (2 ^ 32 - 1) * (2 ^ 32 - 1) :=
    Nat.mul_le_mul (Nat.le_pred_of_lt (UInt32.toNat_lt _)) (Nat.le_pred_of_lt (UInt32.toNat_lt _))
  have hoffset := abi.pagingHandoffTableFramesOffset.toNat_lt
  refine (times_yields (by omega)).bind fun _ hcount => ?_
  subst hcount
  refine (plus_yields (by omega)).bind fun _ hminimum => ?_
  subst hminimum
  refine .ite (fun h => ?_) fun _ => .err _
  exact (minus_yields (Nat.le_trans (Nat.le_add_right _ _) h.1)).bind fun _ _ => rejectIf_yields _ _

theorem seeModule_yields (seen : ModulesSeen) (module : DwBootModuleV1) :
    Yields (seeModule abi seen module) fun _ => True := by
  refine .ite (fun _ => ?_) fun _ => .ite (fun _ => ?_) fun _ => .ite (fun _ => ?_) fun _ =>
    .ite (fun _ => ?_) fun _ => .err _
  · exact (rejectIf_yields _ _).bind fun _ _ => .ok trivial
  · refine (rejectIf_yields _ _).bind fun _ _ => ?_
    exact (rejectIf_yields _ _).bind fun _ _ => .ok trivial
  · refine (rejectIf_yields _ _).bind fun _ _ => ?_
    refine (rejectIf_yields _ _).bind fun _ _ => ?_
    exact (checkPagingHandoffLen_yields _).bind fun _ _ => .ok trivial
  · refine (rejectIf_yields _ _).bind fun _ _ => ?_
    exact (rejectIf_yields _ _).bind fun _ _ => .ok trivial

theorem validateModuleRange_yields (physicalStart byteLen : Nat) :
    Yields (validateModuleRange abi physicalStart byteLen) fun _ => True := by
  refine (rejectIf_yields _ _).bind fun _ _ => ?_
  refine (rejectIf_yields _ _).bind fun _ _ => ?_
  exact (checkedAdd_yields _).bind fun _ _ => .ok trivial

section Paged

variable (hpage : 0 < abi.basePageSize.toNat)
include hpage

theorem checkApart_yields (module : DwBootModuleV1) : ∀ others,
    Yields (checkApart abi module others) fun _ =>
      ∀ other ∈ others, (module.extent abi).Apart (other.extent abi)
  | [] => .ok (List.forall_mem_nil _)
  | other :: rest => by
      refine (moduleAllocationLen_yields hpage _).bind fun _ hlen => ?_
      subst hlen
      refine (moduleAllocationLen_yields hpage _).bind fun _ hlen => ?_
      subst hlen
      refine notOverlap_yields (module.extent abi) (other.extent abi) _ fun hapart => ?_
      exact (checkApart_yields module rest).mono fun _ hrest => List.forall_mem_cons.mpr ⟨hapart, hrest⟩

theorem scanModules_yields : ∀ seen modules,
    Yields (scanModules abi seen modules) fun _ =>
      (modules.map (DwBootModuleV1.extent abi)).Pairwise Region.Apart
  | _, [] => .ok .nil
  | seen, module :: rest => by
      iterate 2 refine (rejectIf_yields _ _).bind fun _ _ => ?_
      refine (validateModuleRange_yields _ _).bind fun _ _ => ?_
      refine (rejectIf_yields _ _).bind fun _ _ => ?_
      refine (seeModule_yields seen module).bind fun seen _ => ?_
      refine (checkApart_yields hpage module rest).bind fun _ hapart => ?_
      exact (scanModules_yields seen rest).mono fun _ hrest =>
        List.pairwise_cons.mpr ⟨List.forall_mem_map.mpr hapart, hrest⟩

theorem validateModules_yields (modules : List DwBootModuleV1) :
    Yields (validateModules abi modules) fun _ =>
      (modules.map (DwBootModuleV1.extent abi)).Pairwise Region.Apart := by
  refine (scanModules_yields hpage _ modules).bind fun _ hapart => ?_
  iterate 3 refine (rejectIf_yields _ _).bind fun _ _ => ?_
  exact (rejectIf_yields _ _).mono fun _ _ => hapart

theorem modulesReserved_yields (memoryMap : List DwBootMemoryRangeV1) : ∀ modules,
    Yields (modulesReserved abi memoryMap modules) fun _ =>
      ∀ module ∈ modules, Backed abi memoryMap abi.memoryKindReserved (module.extent abi)
  | [] => .ok (List.forall_mem_nil _)
  | module :: rest => by
      refine (moduleAllocationLen_yields hpage _).bind fun _ hlen => ?_
      subst hlen
      refine (validateReservedRange_yields (module.extent abi) memoryMap).bind fun _ hbacked => ?_
      exact (modulesReserved_yields memoryMap rest).mono fun _ hrest =>
        List.forall_mem_cons.mpr ⟨hbacked, hrest⟩

/-! ## Distinct ranges -/

theorem apartFromModules_yields (left : HandoffAllocation) : ∀ modules,
    Yields (apartFromModules abi left modules) fun _ =>
      ∀ module ∈ modules, left.region.Apart (module.extent abi)
  | [] => .ok (List.forall_mem_nil _)
  | module :: rest => by
      refine (moduleAllocationLen_yields hpage _).bind fun _ hlen => ?_
      subst hlen
      refine notOverlap_yields left.region (module.extent abi) _ fun hapart => ?_
      exact (apartFromModules_yields left rest).mono fun _ hrest => List.forall_mem_cons.mpr ⟨hapart, hrest⟩

end Paged

end Checks

theorem apartFrom_yields (left : HandoffAllocation) : ∀ allocations,
    Yields (apartFrom left allocations) fun _ =>
      ∀ right ∈ allocations, left.region.Apart right.region
  | [] => .ok (List.forall_mem_nil _)
  | right :: rest => by
      refine notOverlap_yields left.region right.region _ fun hapart => ?_
      exact (apartFrom_yields left rest).mono fun _ hrest => List.forall_mem_cons.mpr ⟨hapart, hrest⟩

theorem fixedBefore_yields (allocation : HandoffAllocation) : ∀ fixed,
    Yields (additionalApart.fixedBefore allocation fixed) fun _ =>
      ∀ left ∈ fixed, left.region.Apart allocation.region
  | [] => .ok (List.forall_mem_nil _)
  | left :: rest => by
      refine notOverlap_yields left.region allocation.region _ fun hapart => ?_
      exact (fixedBefore_yields allocation rest).mono fun _ hrest => List.forall_mem_cons.mpr ⟨hapart, hrest⟩

end Wyrmroot.Uefi
