import Mathlib.Data.List.ReduceOption
import Wyrmroot.Uefi.HandoffRanges

/-!
# What `build` publishes

The ranges of a described handoff are apart and backed by reserved memory; a
description that was accepted is one that the validation behind the first
write accepts, so a refused build has written nothing.
-/

namespace Wyrmroot.Uefi

open Outcome
open Loader (checkedAdd_eq_some)

section Checks

variable (abi : DeepwyrmAbi)

/-- The allocations that a handoff may be without. -/
def BootInfoInput.optional (input : BootInfoInput) : List HandoffAllocation :=
  (input.commandLine.map CommandLineInput.storage).toList
    ++ (input.entropy.map EntropyInput.storage).toList
    ++ (input.acpiRsdp.map AcpiRsdpInput.storage).toList

/-- Everything that the kernel is handed by address. -/
def BootInfoInput.handoff (input : BootInfoInput) : List Region :=
  (([input.bootInfoStorage, input.memoryMapStorage, input.moduleTableStorage]
    ++ input.optional).map HandoffAllocation.region)
    ++ input.modules.map (DwBootModuleV1.extent abi)

/-- Ranges that may be handed over. -/
structure SoundHandoff (input : BootInfoInput) : Prop where
  apart : (input.handoff abi).Pairwise Region.Apart
  reserved : ∀ r ∈ input.handoff abi, Backed abi input.memoryMap abi.memoryKindReserved r
  sorted : (input.memoryMap.map (DwBootMemoryRangeV1.region abi)).Pairwise Region.Before

/-- What stands in the output behind a build. -/
structure Published (input : BootInfoInput) (output : BootInfoOutput) : Prop
    extends SoundHandoff abi input where
  modules : output.modules = input.modules
  bootInfo : validateBootInfo abi output.bootInfo = .ok ()
  tables : validateTables abi output.bootInfo input.memoryMap output.modules = .ok ()

variable {abi}

/-! ## Distinct ranges -/

section Paged

variable (hpage : 0 < abi.basePageSize.toNat)
include hpage

theorem fixedApart_yields (modules : List DwBootModuleV1) : ∀ fixed,
    Yields (fixedApart abi modules fixed) fun _ =>
      (fixed.map HandoffAllocation.region).Pairwise Region.Apart ∧
        ∀ left ∈ fixed, ∀ module ∈ modules, left.region.Apart (module.extent abi)
  | [] => .ok ⟨.nil, List.forall_mem_nil _⟩
  | left :: rest => by
      refine (apartFrom_yields left rest).bind fun _ hrest => ?_
      refine (apartFromModules_yields hpage left modules).bind fun _ hmodules => ?_
      refine (fixedApart_yields modules rest).mono ?_
      rintro _ ⟨hpairs, hothers⟩
      exact ⟨List.pairwise_cons.mpr ⟨List.forall_mem_map.mpr hrest, hpairs⟩,
        List.forall_mem_cons.mpr ⟨hmodules, hothers⟩⟩

/-- What the loop over the additional allocations says of those behind `prior`. -/
theorem additionalApart_yields (fixed : List HandoffAllocation) (modules : List DwBootModuleV1) :
    ∀ additional prior, Yields (additionalApart abi fixed modules prior additional) fun _ =>
      (additional.reduceOption.map HandoffAllocation.region).Pairwise Region.Apart ∧
        ∀ allocation ∈ additional.reduceOption,
          (∀ left ∈ fixed ++ prior, left.region.Apart allocation.region) ∧
            ∀ module ∈ modules, allocation.region.Apart (module.extent abi)
  | [], _ => .ok ⟨.nil, List.forall_mem_nil _⟩
  | none :: rest, prior => additionalApart_yields fixed modules rest prior
  | some allocation :: rest, prior => by
      refine (fixedBefore_yields allocation fixed).bind fun _ hfixed => ?_
      refine (apartFromModules_yields hpage allocation modules).bind fun _ hmodules => ?_
      refine (apartFrom_yields allocation prior).bind fun _ hprior => ?_
      refine (additionalApart_yields fixed modules rest _).mono ?_
      rintro _ ⟨hpairs, hothers⟩
      rw [List.reduceOption_cons_of_some]
      have hbefore : ∀ other ∈ rest.reduceOption, ∀ left ∈ fixed ++ (prior ++ [allocation]),
          left.region.Apart other.region := fun other hother => (hothers other hother).1
      refine ⟨List.pairwise_cons.mpr ⟨List.forall_mem_map.mpr fun other hother => ?_, hpairs⟩, ?_⟩
      · exact hbefore other hother allocation (by simp)
      · refine List.forall_mem_cons.mpr ⟨⟨?_, hmodules⟩, fun other hother => ⟨?_, (hothers other hother).2⟩⟩
        · refine List.forall_mem_append.mpr ⟨hfixed, fun left hleft => (hprior left hleft).symm⟩
        · rintro left hleft
          refine hbefore other hother left ?_
          rw [← List.append_assoc]
          exact List.mem_append_left _ hleft

theorem validateDistinctHandoffRanges_yields (input : BootInfoInput)
    {commandLine : CommandLineInput}
    (hcommand : (if commandLine.byteLen ≠ 0 then some commandLine.storage else none) =
      input.commandLine.map CommandLineInput.storage) :
    Yields (validateDistinctHandoffRanges abi input commandLine) fun _ =>
      (input.modules.map (DwBootModuleV1.extent abi)).Pairwise Region.Apart →
        (input.handoff abi).Pairwise Region.Apart := by
  refine (fixedApart_yields hpage _ _).bind ?_
  rintro _ ⟨hfixed, hfixedModules⟩
  refine (additionalApart_yields hpage _ _ _ _).mono ?_
  rintro _ ⟨hadditional, hothers⟩ hmodules
  rw [hcommand] at hadditional hothers
  have hoptional : [input.commandLine.map CommandLineInput.storage,
      input.entropy.map EntropyInput.storage,
      input.acpiRsdp.map AcpiRsdpInput.storage].reduceOption = input.optional := by
    unfold BootInfoInput.optional
    cases input.commandLine <;> cases input.entropy <;> cases input.acpiRsdp <;> rfl
  rw [hoptional] at hadditional hothers
  refine List.pairwise_append.mpr ⟨?_, hmodules, List.forall_mem_map.mpr fun allocation hmem =>
    List.forall_mem_map.mpr fun module hmodule => ?_⟩
  · rw [List.map_append]
    refine List.pairwise_append.mpr ⟨hfixed, hadditional, List.forall_mem_map.mpr fun left hleft =>
      List.forall_mem_map.mpr fun right hright => ?_⟩
    exact (hothers right hright).1 left (List.mem_append_left _ hleft)
  · rcases List.mem_append.mp hmem with hleft | hright
    · exact hfixedModules allocation hleft module hmodule
    · exact (hothers allocation hright).2 module hmodule

end Paged

/-! ## Optional descriptors -/

theorem validateRetained_yields (allocation : HandoffAllocation) (minimumLen : Nat) :
    Yields (validateRetained abi allocation minimumLen) fun _ =>
      allocation.region.stop < 2 ^ 64 := by
  unfold validateRetained
  cases allocation.lifetime with
  | allocationFailed | releasedBeforeDeepwyrmPageTableReplacement => exact .err _
  | retainedUntilDeepwyrmPageTableReplacement =>
      iterate 2 refine (rejectIf_yields _ _).bind fun _ _ => ?_
      refine (Yields.rejectIf _ _).mono fun _ hsum => ?_
      obtain ⟨stop, hstop⟩ := Option.isSome_iff_exists.mp (Option.isNone_eq_false_iff.mp hsum)
      exact (checkedAdd_eq_some.mp hstop).1

theorem validateReservedStorage_yields (allocation : HandoffAllocation)
    (memoryMap : List DwBootMemoryRangeV1) :
    Yields (validateReservedStorage abi allocation memoryMap) fun _ =>
      Backed abi memoryMap abi.memoryKindReserved allocation.region :=
  validateReservedRange_yields allocation.region memoryMap

theorem validateTableStorage_yields (allocation : HandoffAllocation)
    (entryCount entrySize alignment : Nat) :
    Yields (validateTableStorage abi allocation entryCount entrySize alignment) fun _ => True := by
  refine (Yields.okOr _ _).bind fun _ _ => ?_
  refine (Yields.okOr _ _).bind fun _ _ => ?_
  exact (validateRetained_yields _ _).bind fun _ _ => rejectIf_yields _ _

theorem buildCommandLine_yields (commandLine : Option CommandLineInput)
    (memoryMap : List DwBootMemoryRangeV1) :
    Yields (buildCommandLine abi commandLine memoryMap) fun described =>
      (if described.byteLen ≠ 0 then some described.storage else none) =
          commandLine.map CommandLineInput.storage ∧
        ∀ input ∈ commandLine, Backed abi memoryMap abi.memoryKindReserved input.storage.region := by
  cases commandLine with
  | none => exact .ok ⟨rfl, by rintro _ ⟨⟩⟩
  | some commandLine =>
      refine (validateRetained_yields _ _).bind fun _ _ => ?_
      refine (rejectIf_yields _ _).bind fun _ _ => ?_
      refine (Yields.rejectIf _ _).bind fun _ hlen => ?_
      refine (validateReservedStorage_yields _ memoryMap).bind fun _ hbacked => ?_
      refine .ok ⟨if_pos (of_decide_eq_false hlen), ?_⟩
      rintro _ ⟨⟩
      exact hbacked

theorem buildEntropy_yields (entropy : Option EntropyInput)
    (memoryMap : List DwBootMemoryRangeV1) :
    Yields (buildEntropy abi entropy memoryMap) fun _ =>
      ∀ input ∈ entropy, Backed abi memoryMap abi.memoryKindReserved input.storage.region := by
  cases entropy with
  | none => exact .ok (by rintro _ ⟨⟩)
  | some entropy =>
      refine (rejectIf_yields _ _).bind fun _ _ => ?_
      refine (validateRetained_yields _ _).bind fun _ _ => ?_
      refine (validateReservedStorage_yields _ memoryMap).bind fun _ hbacked => ?_
      refine .ok ?_
      rintro _ ⟨⟩
      exact hbacked

theorem buildAcpiRsdp_yields (rsdp : Option AcpiRsdpInput)
    (memoryMap : List DwBootMemoryRangeV1) :
    Yields (buildAcpiRsdp abi rsdp memoryMap) fun physicalStart =>
      (∀ input ∈ rsdp, Backed abi memoryMap abi.memoryKindReserved input.storage.region) ∧
        (physicalStart ≠ 0 → ∃ r : Region, r.start = physicalStart ∧ acpiRsdpMinimumBytes ≤ r.len ∧
          r.stop < 2 ^ 64 ∧ Backed abi memoryMap abi.memoryKindReserved r) := by
  cases rsdp with
  | none => exact .ok ⟨by rintro _ ⟨⟩, fun h => absurd rfl h⟩
  | some rsdp =>
      refine (Yields.rejectIf _ _).bind fun _ hlen => ?_
      simp only [Bool.or_eq_false_iff, decide_eq_false_iff_not, Nat.not_lt] at hlen
      refine (validateRetained_yields _ _).bind fun _ hstop => ?_
      refine (validateReservedStorage_yields _ memoryMap).bind fun _ hbacked => ?_
      refine .ok ⟨?_, fun _ => ⟨rsdp.storage.region, rfl, hlen.1.2.trans hlen.2, hstop, hbacked⟩⟩
      rintro _ ⟨⟩
      exact hbacked

theorem pixelFormatFields_yields (format : FramebufferPixelFormat) :
    Yields (pixelFormatFields abi format) fun _ => True := by
  cases format with
  | rgbx8 | bgrx8 => exact .ok trivial
  | bitmask redMask greenMask blueMask reservedMask =>
      exact (rejectIf_yields _ _).bind fun _ _ => .ok trivial

theorem framebufferDescriptor_yields (framebuffer : FramebufferInput) :
    Yields (framebufferDescriptor abi framebuffer) fun _ => True := by
  refine (rejectIf_yields _ _).bind fun _ _ => ?_
  refine (Yields.okOr _ _).bind fun _ _ => ?_
  refine (Yields.okOr _ _).bind fun _ _ => ?_
  refine (rejectIf_yields _ _).bind fun _ _ => ?_
  exact (pixelFormatFields_yields _).bind fun _ _ => .ok trivial

theorem buildFramebuffer_yields (framebuffer : Option FramebufferInput)
    (memoryMap : List DwBootMemoryRangeV1) :
    Yields (buildFramebuffer abi framebuffer memoryMap) fun _ => True := by
  cases framebuffer with
  | none => exact .ok trivial
  | some framebuffer =>
      refine (framebufferDescriptor_yields framebuffer).bind fun descriptor _ => ?_
      refine (rangeHasKind_yields ⟨descriptor.physicalStart, descriptor.byteLen⟩ memoryMap _).bind
        fun _ _ => ?_
      exact (rejectIf_yields _ _).bind fun _ _ => .ok trivial

/-! ## The validators -/

theorem validateTableReference_yields (physicalStart count : Nat) (entrySize expectedSize : UInt32)
    (alignment : Nat) :
    Yields (validateTableReference physicalStart count entrySize expectedSize alignment)
      fun _ => True := by
  refine (rejectIf_yields _ _).bind fun _ _ => ?_
  refine (Yields.okOr _ _).bind fun _ _ => ?_
  exact (Yields.okOr _ _).bind fun _ _ => .ok trivial

theorem validateByteReference_yields (physicalStart byteLen maximumLen : Nat) :
    Yields (validateByteReference physicalStart byteLen maximumLen) fun _ => True :=
  (rejectIf_yields _ _).bind fun _ _ => rejectIf_yields _ _

theorem framebufferFormat_yields (framebuffer : DwBootFramebufferV1) :
    Yields (framebufferFormat abi framebuffer) fun _ => True :=
  .ite (fun _ => .ok trivial) fun _ => .ite (fun _ => .ok trivial) fun _ =>
    .ite (fun _ => .ok trivial) fun _ => .err _

theorem validateFramebuffer_yields (framebuffer : DwBootFramebufferV1) :
    Yields (validateFramebuffer abi framebuffer) fun _ => True := by
  refine (rejectIf_yields _ _).bind fun _ _ => ?_
  refine (framebufferFormat_yields framebuffer).bind fun _ _ => ?_
  refine (rejectIf_yields _ _).bind fun _ _ => ?_
  exact (framebufferDescriptor_yields _).bind fun _ _ => .ok trivial

theorem validateEntropy_yields (entropy : DwBootEntropyV1) :
    Yields (validateEntropy abi entropy) fun _ => True :=
  (rejectIf_yields _ _).bind fun _ _ => rejectIf_yields _ _

theorem validateBootInfo_yields (info : DwBootInfoV1) :
    Yields (validateBootInfo abi info) fun _ => True := by
  iterate 4 refine (rejectIf_yields _ _).bind fun _ _ => ?_
  refine (validateTableReference_yields _ _ _ _ _).bind fun _ _ => ?_
  refine (validateTableReference_yields _ _ _ _ _).bind fun _ _ => ?_
  refine (rejectIf_yields _ _).bind fun _ _ => ?_
  refine (validateByteReference_yields _ _ _).bind fun _ _ => ?_
  have hentropy : Yields (if info.entropy ≠ abi.entropyDefault then validateEntropy abi info.entropy
      else pure ()) fun _ => True :=
    .ite (fun _ => validateEntropy_yields _) fun _ => .ok trivial
  exact .ite (fun _ => (validateFramebuffer_yields _).bind fun _ _ => hentropy)
    fun _ => (rejectIf_yields _ _).bind fun _ _ => hentropy

/-! ## A described handoff -/

/-- What `describe` has found out by its return. -/
structure Described (abi : DeepwyrmAbi) (input : BootInfoInput) (info : DwBootInfoV1) : Prop
    extends SoundHandoff abi input where
  bootInfo : validateBootInfo abi info = .ok ()
  memoryMapCount : u64TryFrom input.memoryMap.length = .ok info.memoryMapEntryCount
  moduleCount : u64TryFrom input.modules.length = .ok info.moduleCount
  memoryMap : validateMemoryMap abi input.memoryMap = .ok ()
  modules : validateModules abi input.modules = .ok ()
  acpiRsdp : info.acpiRsdpPhysicalAddress ≠ 0 → ∃ r : Region,
    r.start = info.acpiRsdpPhysicalAddress ∧ acpiRsdpMinimumBytes ≤ r.len ∧ r.stop < 2 ^ 64 ∧
      Backed abi input.memoryMap abi.memoryKindReserved r

theorem checkLimits_yields (input : BootInfoInput) (limits : Option BootInfoLimits) :
    Yields (checkLimits input limits) fun _ => True := by
  cases limits with
  | none => exact .ok trivial
  | some limits => exact (rejectIf_yields _ _).bind fun _ _ => rejectIf_yields _ _

theorem describe_yields (hpage : 0 < abi.basePageSize.toNat) (input : BootInfoInput)
    (outputModules : Nat) (limits : Option BootInfoLimits) :
    Yields (describe abi input outputModules limits) fun info =>
      input.modules.length = outputModules ∧ Described abi input info := by
  refine (rejectIf_yields _ _).bind fun _ _ => ?_
  refine (rejectIf_yields _ _).bind fun _ _ => ?_
  refine (Yields.rejectIf _ _).bind fun _ hlen => ?_
  refine (checkLimits_yields input limits).bind fun _ _ => ?_
  refine (Yields.okOr _ _).keep.bind fun _ hmapCount => ?_
  refine (Yields.okOr _ _).keep.bind fun _ hmoduleCount => ?_
  refine (validateRetained_yields _ _).bind fun _ _ => ?_
  refine (validateTableStorage_yields _ _ _ _).bind fun _ _ => ?_
  refine (validateTableStorage_yields _ _ _ _).bind fun _ _ => ?_
  refine (scanMemoryMap_yields input.memoryMap none).keep.bind fun _ hmap => ?_
  refine (validateReservedStorage_yields _ _).bind fun _ hinfo => ?_
  refine (validateReservedStorage_yields _ _).bind fun _ hmapStorage => ?_
  refine (validateReservedStorage_yields _ _).bind fun _ htable => ?_
  refine (validateModules_yields hpage input.modules).keep.bind fun _ hmodules => ?_
  refine (modulesReserved_yields hpage _ _).bind fun _ hmodulesBacked => ?_
  refine (buildCommandLine_yields _ _).bind fun commandLine hcommand => ?_
  refine (buildEntropy_yields _ _).bind fun entropy hentropy => ?_
  refine (buildFramebuffer_yields _ _).bind fun framebuffer _ => ?_
  refine (buildAcpiRsdp_yields _ _).bind fun acpiRsdp hrsdp => ?_
  refine (validateDistinctHandoffRanges_yields hpage input hcommand.1).bind fun _ hapart => ?_
  refine (validateBootInfo_yields _).keep.bind fun _ hvalid => ?_
  have hoptional : ∀ allocation ∈ input.optional,
      Backed abi input.memoryMap abi.memoryKindReserved allocation.region := by
    unfold BootInfoInput.optional
    refine List.forall_mem_append.mpr ⟨List.forall_mem_append.mpr ⟨?_, ?_⟩, ?_⟩
    · simpa using hcommand.2
    · simpa using hentropy
    · simpa using hrsdp.1
  have hbacked : ∀ r ∈ input.handoff abi, Backed abi input.memoryMap abi.memoryKindReserved r := by
    refine List.forall_mem_append.mpr ⟨List.forall_mem_map.mpr ?_, List.forall_mem_map.mpr hmodulesBacked⟩
    refine List.forall_mem_append.mpr ⟨?_, hoptional⟩
    exact List.forall_mem_cons.mpr ⟨hinfo, List.forall_mem_cons.mpr ⟨hmapStorage,
      List.forall_mem_singleton.mpr htable⟩⟩
  exact .ok ⟨by simpa using hlen, ⟨hapart hmodules.2, hbacked, hmap.2.1⟩, hvalid.1, hmapCount.1,
    hmoduleCount.1, hmap.1, hmodules.1, hrsdp.2⟩

theorem validateTables_of_described {input : BootInfoInput} {info : DwBootInfoV1}
    (h : Described abi input info) :
    validateTables abi info input.memoryMap input.modules = .ok () := by
  have hacpi : info.acpiRsdpPhysicalAddress ≠ 0 →
      rangeHasKind abi info.acpiRsdpPhysicalAddress acpiRsdpMinimumBytes input.memoryMap
        (fun kind => kind = abi.memoryKindAcpiReclaim || kind = abi.memoryKindAcpiNvs
          || kind = abi.memoryKindReserved) = .ok true := by
    intro hne
    obtain ⟨r, hstart, hlen, hstop, entry, hentry, hkind, hinside⟩ := h.acpiRsdp hne
    have hends := ((scanMemoryMap_yields input.memoryMap none).2 () h.memoryMap).2.2
    have hle : info.acpiRsdpPhysicalAddress + acpiRsdpMinimumBytes ≤ r.stop := by
      rw [← hstart]
      exact Nat.add_le_add_left hlen _
    rw [rangeHasKind, checkedAdd_eq_some.mpr ⟨lt_of_le_of_lt hle hstop, rfl⟩, okOr_some, ok_bind]
    refine scanKinds_eq (r := ⟨info.acpiRsdpPhysicalAddress, acpiRsdpMinimumBytes⟩) hends ?_
    refine ⟨entry, hentry, by simp [hkind], ?_, hle.trans hinside.2⟩
    exact hstart ▸ hinside.1
  rw [validateTables, h.memoryMapCount, ok_bind, h.moduleCount, ok_bind]
  have hcounts : rejectIf (info.memoryMapEntryCount ≠ info.memoryMapEntryCount
      || info.moduleCount ≠ info.moduleCount) BootInfoError.invalidTableReference = .ok () :=
    rejectIf_eq_ok.mpr (by simp)
  rw [hcounts, ok_bind, h.memoryMap, ok_bind]
  split_ifs with hne
  · rw [hacpi hne]
    exact h.modules
  · exact h.modules

/-! ## Building -/

theorem copyModules_run {modules : List DwBootModuleV1} {output : BootInfoOutput}
    (h : modules.length = output.modules.length) :
    copyModules modules output = (.ok (), { output with modules }, []) :=
  if_pos h

theorem buildInner_run (hpage : 0 < abi.basePageSize.toNat) (input : BootInfoInput)
    (limits : Option BootInfoLimits) (output : BootInfoOutput) :
    (∃ info, Described abi input info ∧
      buildInner abi input limits output = (.ok (), ⟨info, input.modules⟩, [])) ∨
    ∃ e, buildInner abi input limits output = (.err e, output, []) := by
  have hyields := describe_yields hpage input output.modules.length limits
  rcases hrun : describe abi input output.modules.length limits with info | e | _
  · obtain ⟨hlen, hdescribed⟩ := hyields.2 info hrun
    refine .inl ⟨info, hdescribed, ?_⟩
    rw [buildInner, Prog.get_bind_run, hrun, Prog.lift_ok_bind,
      Prog.bind_run_ok (copyModules_run hlen), Prog.get_bind_run, validateTables_of_described hdescribed]
    rfl
  · refine .inr ⟨e, ?_⟩
    rw [buildInner, Prog.get_bind_run, hrun]
    rfl
  · exact absurd hrun hyields.1

/-- `build` and `build_with_limits`: nothing overflows, what is returned is
sound, and a refused build has changed nothing. -/
theorem build_sound (hpage : 0 < abi.basePageSize.toNat) (input : BootInfoInput)
    (builder : Builder Unit)
    (hbuilder : builder = build abi input ∨ ∃ limits, builder = buildWithLimits abi input limits)
    (output : BootInfoOutput) :
    (builder output).1 ≠ .panic ∧
      ((builder output).1 = .ok () → Published abi input (builder output).2.1) ∧
        ∀ e, (builder output).1 = .err e → (builder output).2.1 = output := by
  obtain ⟨limits, rfl⟩ : ∃ limits, builder = buildInner abi input limits := by
    rcases hbuilder with rfl | ⟨limits, rfl⟩
    · exact ⟨none, rfl⟩
    · exact ⟨some limits, rfl⟩
  rcases buildInner_run hpage input limits output with ⟨info, h, hrun⟩ | ⟨e, hrun⟩
  · rw [hrun]
    refine ⟨ok_ne_panic _, fun _ => ?_, fun e he => absurd he (ok_ne_err _ e)⟩
    exact ⟨h.toSoundHandoff, rfl, h.bootInfo, validateTables_of_described h⟩
  · rw [hrun]
    exact ⟨err_ne_panic _, fun h => absurd h.symm (ok_ne_err _ e), fun _ _ => rfl⟩

end Checks

/-! ## A handoff that is published -/

def sampleAbi : DeepwyrmAbi where
  basePageSize := 4096
  entropyFlagConditioned := 1
  entropySourceFirmwarePlatform := 2
  entropySourceMixedFirmware := 3
  entropySourceUefiRngProtocol := 1
  entropyV1Size := 64
  entropyV1Version := 1
  framebufferFlagLinear := 1
  framebufferV1Size := 96
  framebufferV1Version := 1
  infoFlagFramebufferPresent := 1
  infoV1Size := 352
  infoV1Version := 1
  memoryKindAcpiNvs := 4
  memoryKindAcpiReclaim := 3
  memoryKindMmio := 5
  memoryKindReserved := 2
  memoryKindRuntimeServices := 6
  memoryKindUnusable := 7
  memoryKindUsable := 1
  memoryRangeV1Size := 64
  memoryRangeV1Version := 1
  memoryRangeV1Align := 8
  moduleFlagReadOnly := 1
  moduleKindBootDeviceTableV1 := 4
  moduleKindPagingHandoffV1 := 3
  moduleKindWyrmrootBootfs := 2
  moduleKindWyrmrootBootstrap := 1
  moduleV1Size := 64
  moduleV1Version := 1
  moduleV1Align := 8
  pixelFormatBgrx8 := 2
  pixelFormatBitmask := 3
  pixelFormatRgbx8 := 1
  pagingHandoffMaxByteLen := 65536
  pagingHandoffMinTableFrameCount := 4
  pagingHandoffTableFrameStride := 8
  pagingHandoffTableFramesOffset := 64
  framebufferDefault := ⟨0, 0, 0, 0, 0, 0, 0, 0, 0, 0, 0, 0, 0, 0, [0, 0, 0, 0]⟩
  entropyDefault := ⟨0, 0, 0, 0, 0, 0, [0, 0, 0, 0]⟩

def sampleAllocation (page : Nat) : HandoffAllocation :=
  ⟨page * 4096, 4096, .retainedUntilDeepwyrmPageTableReplacement⟩

def sampleModule (kind : UInt32) (page byteLen : Nat) : DwBootModuleV1 :=
  ⟨64, 1, kind, 1, page * 4096, byteLen, [0, 0, 0, 0]⟩

/-- Sixteen reserved pages with a handoff in them, an RSDP included. -/
def sampleInput : BootInfoInput where
  phase := .afterExitBootServices
  bootInfoStorage := sampleAllocation 1
  memoryMapStorage := sampleAllocation 2
  moduleTableStorage := sampleAllocation 3
  memoryMap := [⟨64, 1, 2, 0, 0, 16, 0, [0, 0, 0, 0]⟩, ⟨64, 1, 1, 0, 16 * 4096, 16, 0, [0, 0, 0, 0]⟩]
  modules := [sampleModule 1 4 5000, sampleModule 2 6 4096, sampleModule 3 7 96]
  acpiRsdp := some ⟨sampleAllocation 8, 36⟩
  framebuffer := none
  commandLine := some ⟨sampleAllocation 9, 11⟩
  entropy := some ⟨sampleAllocation 10, 32, .uefiRngProtocol, true⟩

def sampleOutput : BootInfoOutput where
  bootInfo := ⟨0, 0, 0, 0, 0, 0, 0, 0, 0, 0, 0, 0, sampleAbi.framebufferDefault, 0, 0,
    sampleAbi.entropyDefault, []⟩
  modules := List.replicate 3 (sampleModule 0 0 0)

theorem sample_published :
    Published sampleAbi sampleInput (build sampleAbi sampleInput sampleOutput).2.1 :=
  (build_sound (by decide) sampleInput _ (.inl rfl) sampleOutput).2.1 (by decide +kernel)

end Wyrmroot.Uefi
