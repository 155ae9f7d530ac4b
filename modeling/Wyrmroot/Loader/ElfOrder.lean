import Mathlib.Data.Multiset.AddSub
import Wyrmroot.Lib.Layout
import Wyrmroot.Lib.Orderless
import Wyrmroot.Loader.ElfSoundness

/-!
# The order of program headers

The user ELF planner reads the program headers in the order of the table. Both
of its passes are loops of commuting steps, so an image with the same headers in
another order is accepted as well, and its plan is the same but for the indices
of the headers, which each segment carries.
-/

namespace Wyrmroot.Loader

open Outcome

/-- The image with its program headers in another order. -/
def Reheaded (image image' : List UInt8) : Prop :=
  ∃ header, parseElfHeader image = .ok header
    ∧ Reordered header.programOffset programHeaderBytes header.programCount image image'

def LoadSegment.unindexed (s : LoadSegment) : LoadSegment := { s with headerIndex := 0 }

/-! ## Headers -/

section Headers

variable {image image' ph : List UInt8} {header : ElfHeader} {index : Nat}

theorem parseElfHeader_congr (hlen : image.length = image'.length)
    (hslice : slice image 0 elfHeaderBytes = slice image' 0 elfHeaderBytes) :
    parseElfHeader image = parseElfHeader image' := by
  have hempty : image.isEmpty = image'.isEmpty := by
    rw [Bool.eq_iff_iff, List.isEmpty_iff_length_eq_zero, List.isEmpty_iff_length_eq_zero, hlen]
  unfold parseElfHeader
  rw [hlen, hslice, hempty]

theorem parseElfHeader_offset (h : parseElfHeader image = .ok header) :
    elfHeaderBytes ≤ header.programOffset := by
  simp only [parseElfHeader, bind_eq_ok, rejectIf_eq_ok, okOr_eq_ok, exists_const,
    Bool.or_eq_false_iff, decide_eq_false_iff_not, Nat.not_lt] at h
  obtain ⟨-, bytes, -, magic, -, -, -, -, -, -, -, -, -, -, -, -, -, -, -, -, -, -, -, -,
    -, -, -, -, count, -, -, -, offset, -, hoffset, -, tableEnd, -, -, entry, -, heq⟩ := h
  obtain rfl := Outcome.ok.inj heq
  exact hoffset

theorem programHeader_eq_ok (htable : header.TableIn image) (hindex : index < header.programCount) :
    programHeader image header index = .ok ph ↔
      slice image (header.programOffset + index * programHeaderBytes) programHeaderBytes = some ph := by
  obtain ⟨htable, hsize⟩ := htable
  have hfits : header.programOffset + index * programHeaderBytes + programHeaderBytes < 2 ^ 64 := by
    simp only [programHeaderBytes, maxElfBytes] at *
    omega
  have hstart : checkedAdd header.programOffset (index * programHeaderBytes)
      = some (header.programOffset + index * programHeaderBytes) :=
    checkedAdd_eq_some.mpr ⟨by omega, rfl⟩
  rw [programHeader, hstart, okOr_some, ok_bind, if_pos hfits, okOr_eq_ok]

theorem Reheaded.symm (h : Reheaded image image') : Reheaded image' image := by
  obtain ⟨header, hheader, hreordered⟩ := h
  refine ⟨header, ?_, hreordered.symm⟩
  rw [← hheader]
  refine (parseElfHeader_congr hreordered.length_eq (hreordered.slice_eq ?_)).symm
  rw [Nat.zero_add]
  exact parseElfHeader_offset hheader

theorem Reheaded.headers (h : Reheaded image image') : ∃ header entries entries',
    parseElfHeader image = .ok header ∧ parseElfHeader image' = .ok header
      ∧ image.length = image'.length ∧ entries.Perm entries'
      ∧ List.Forall₂ (fun i ph => i < header.programCount ∧ programHeader image header i = .ok ph)
          (List.range header.programCount) entries
      ∧ List.Forall₂ (fun i ph => i < header.programCount ∧ programHeader image' header i = .ok ph)
          (List.range header.programCount) entries' := by
  obtain ⟨header, hheader, hreordered⟩ := h
  obtain ⟨entries, entries', hperm, hcount, hread, hread'⟩ := hreordered.reads
  have hheader' : parseElfHeader image' = .ok header := by
    rw [← hheader]
    refine (parseElfHeader_congr hreordered.length_eq (hreordered.slice_eq ?_)).symm
    rw [Nat.zero_add]
    exact parseElfHeader_offset hheader
  refine ⟨header, entries, entries', hheader, hheader', hreordered.length_eq, hperm, ?_, ?_⟩
  · refine List.forall₂_iff_get.mpr ⟨by simp [hcount], fun i hi hi' => ?_⟩
    have hlt : i < header.programCount := by simpa using hi
    simp only [List.get_eq_getElem, List.getElem_range]
    refine ⟨hlt, (programHeader_eq_ok (parseElfHeader_ok hheader) hlt).mpr ?_⟩
    rw [hread i hlt, List.getElem?_eq_getElem]
  · have hcount' : entries'.length = header.programCount := hperm.length_eq ▸ hcount
    refine List.forall₂_iff_get.mpr ⟨by simp [hcount'], fun i hi hi' => ?_⟩
    have hlt : i < header.programCount := by simpa using hi
    simp only [List.get_eq_getElem, List.getElem_range]
    refine ⟨hlt, (programHeader_eq_ok (parseElfHeader_ok hheader') hlt).mpr ?_⟩
    rw [hread' i hlt, List.getElem?_eq_getElem]

end Headers

/-! ## The first pass -/

/-- What a program header is to the first pass. -/
inductive HeaderKind where
  | load
  | phdr
  | stack
deriving DecidableEq

def headerKind (header : ElfHeader) (imageLen : Nat) (ph : List UInt8) : Option HeaderKind :=
  match (getLE 4 ph 0 : Plan Nat) with
  | .ok headerType =>
      if headerType = ptLoad then some .load
      else if headerType = ptPhdr then
        if (validatePhdrHeader ph header 0 imageLen).isOk then some .phdr else none
      else if headerType = ptGnuStack then
        if (validateStackHeader ph 0).isOk then some .stack else none
      else none
  | _ => none

def HeaderScan.admitted (scan : HeaderScan) : HeaderKind → Option HeaderScan
  | .load =>
      if scan.count < maxLoadSegments then some { scan with count := scan.count + 1 } else none
  | .phdr => if scan.sawPhdr then none else some { scan with sawPhdr := true }
  | .stack => if scan.sawStack then none else some { scan with sawStack := true }

section Scan

variable {image ph : List UInt8} {header : ElfHeader} {index : Nat}

theorem validatePhdrHeader_alike (imageLen index' : Nat) :
    Alike (· = ·) (validatePhdrHeader ph header index imageLen)
      (validatePhdrHeader ph header index' imageLen) := by
  refine (Alike.okOr _ _ _).bind fun fileEnd _ heq => ?_
  subst heq
  refine .after _ fun flags => .after _ fun offset => .after _ fun fileSize => ?_
  exact .after _ fun memorySize => .rejectIf _ _ _

theorem validateStackHeader_alike (index' : Nat) :
    Alike (· = ·) (validateStackHeader ph index) (validateStackHeader ph index') := by
  refine .after _ fun flags => .after _ fun offset => .after _ fun address => ?_
  refine .after _ fun physical => .after _ fun fileSize => .after _ fun memorySize => ?_
  exact .rejectIf _ _ _

theorem mirrors_check {σ ε : Type} {check : Outcome ε Unit} {a : σ} {y : Option σ}
    (h : y = if check.isOk then some a else none) :
    Mirrors (· = ·) (check >>= fun _ => Pure.pure a) y := by
  subst h
  cases check with
  | ok u => exact ⟨a, rfl, rfl⟩
  | err e | panic => exact fun s hs => by cases hs

theorem scanHeader_mirrors {scan : HeaderScan} (hph : programHeader image header index = .ok ph) :
    Mirrors (· = ·) (scanHeader image header scan index)
      ((headerKind header image.length ph).bind scan.admitted) := by
  rw [scanHeader, hph, ok_bind]
  unfold headerKind
  cases htype : (getLE 4 ph 0 : Plan Nat) with
  | err e | panic => exact fun s hs => by cases hs
  | ok headerType =>
      simp only [ok_bind]
      by_cases hload : headerType = ptLoad
      · rw [if_pos hload, if_pos hload]
        refine mirrors_check ?_
        by_cases hroom : scan.count < maxLoadSegments
        · simp [HeaderScan.admitted, hroom, Nat.not_lt.mpr hroom]
        · simp [HeaderScan.admitted, hroom, Nat.lt_succ_of_le (Nat.not_lt.mp hroom)]
      rw [if_neg hload, if_neg hload]
      by_cases hphdr : headerType = ptPhdr
      · rw [if_pos hphdr, if_pos hphdr]
        cases hsaw : scan.sawPhdr with
        | true =>
            rw [rejectIf_true, err_bind]
            have hnone : ∀ o : Option HeaderKind, (o = some .phdr ∨ o = none) →
                o.bind scan.admitted = none := by
              rintro _ (rfl | rfl)
              · simp [HeaderScan.admitted, hsaw]
              · rfl
            rw [hnone _ (by split <;> simp)]
            exact fun s hs => by cases hs
        | false =>
            rw [rejectIf_false, ok_bind]
            have halike : Alike (· = ·) (validatePhdrHeader ph header index image.length)
                (validatePhdrHeader ph header 0 image.length) := validatePhdrHeader_alike _ _
            refine mirrors_check ?_
            rw [halike.isOk_eq]
            split_ifs <;> simp [HeaderScan.admitted, hsaw]
      rw [if_neg hphdr, if_neg hphdr]
      by_cases hstack : headerType = ptGnuStack
      · rw [if_pos hstack, if_pos hstack]
        cases hsaw : scan.sawStack with
        | true =>
            rw [rejectIf_true, err_bind]
            have hnone : ∀ o : Option HeaderKind, (o = some .stack ∨ o = none) →
                o.bind scan.admitted = none := by
              rintro _ (rfl | rfl)
              · simp [HeaderScan.admitted, hsaw]
              · rfl
            rw [hnone _ (by split <;> simp)]
            exact fun s hs => by cases hs
        | false =>
            rw [rejectIf_false, ok_bind]
            have halike : Alike (· = ·) (validateStackHeader ph index) (validateStackHeader ph 0) :=
              validateStackHeader_alike _
            refine mirrors_check ?_
            rw [halike.isOk_eq]
            split_ifs <;> simp [HeaderScan.admitted, hsaw]
      · rw [if_neg hstack, if_neg hstack]
        exact fun s hs => by cases hs

theorem scanHeaders_mirrors {indices : List Nat} {entries : List (List UInt8)}
    (h : List.Forall₂ (fun i ph => i < header.programCount ∧ programHeader image header i = .ok ph)
      indices entries) :
    Mirrors (· = ·) (indices.foldlM (scanHeader image header) {}) (entries.foldlM (fun scan ph =>
      (headerKind header image.length ph).bind (HeaderScan.admitted scan)) {}) := by
  refine Mirrors.foldlM (fun s t i ph hst hph => ?_) h rfl
  subst hst
  exact scanHeader_mirrors hph.2

theorem admit_commutes (header : ElfHeader) (imageLen : Nat) :
    StepsCommute fun scan ph => (headerKind header imageLen ph).bind (HeaderScan.admitted scan) := by
  intro scan a b
  dsimp only
  generalize headerKind header imageLen a = kind, headerKind header imageLen b = kind'
  cases kind with
  | none => cases kind'.bind scan.admitted <;> rfl
  | some kind =>
      cases kind' with
      | none => simp
      | some kind' =>
          simp only [Option.bind_some]
          cases kind <;> cases kind' <;> simp only [HeaderScan.admitted] <;> split_ifs <;>
            simp_all

end Scan

/-! ## The second pass -/

section Gather

variable {image image' ph : List UInt8} {header : ElfHeader} {index : Nat}

theorem parseLoadSegment_alike (hlen : image.length = image'.length) (index' : Nat) :
    Alike (fun s s' => s.unindexed = s'.unindexed) (parseLoadSegment image ph index)
      (parseLoadSegment image' ph index') := by
  unfold parseLoadSegment
  rw [hlen]
  refine .after _ fun flags => ?_
  refine (Alike.rejectIf _ _ _).bind fun _ _ _ => (Alike.rejectIf _ _ _).bind fun _ _ _ => ?_
  have hprotection : Alike (· = ·) (segmentProtection index flags)
      (segmentProtection index' flags) := by
    unfold segmentProtection
    split_ifs
    · exact rfl
    · exact rfl
    · exact rfl
    · exact trivial
  refine hprotection.bind fun protection _ heq => ?_
  subst heq
  refine .after _ fun fileOffset => .after _ fun virtualAddress => .after _ fun fileSize => ?_
  refine .after _ fun memorySize => .after _ fun alignment => ?_
  refine (Alike.rejectIf _ _ _).bind fun _ _ _ => (Alike.rejectIf _ _ _).bind fun _ _ _ => ?_
  refine (Alike.okOr _ _ _).bind fun fileEnd _ heq => ?_
  subst heq
  refine (Alike.rejectIf _ _ _).bind fun _ _ _ => (Alike.okOr _ _ _).bind fun memoryEnd _ heq => ?_
  subst heq
  refine (Alike.rejectIf _ _ _).bind fun _ _ _ => (Alike.rejectIf _ _ _).bind fun _ _ _ => ?_
  refine (Alike.rejectIf _ _ _).bind fun _ _ _ => ?_
  generalize alignUp memoryEnd pageSize = rounded, alignDown virtualAddress pageSize = mappingStart
  refine (Alike.okOr rounded _ _).bind fun mappingEnd _ heq => ?_
  subst heq
  refine (Alike.rejectIf _ _ _).bind fun _ _ _ => (Alike.rejectIf _ _ _).bind fun _ _ _ => ?_
  refine (Alike.rejectIf _ _ _).bind fun _ _ _ => ?_
  show LoadSegment.unindexed _ = LoadSegment.unindexed _
  simp only [LoadSegment.unindexed]

/-- The segment of a program header, if there is one to load. -/
def headerSegment (image ph : List UInt8) : Option (Option LoadSegment) :=
  match (getLE 4 ph 0 : Plan Nat) with
  | .ok headerType =>
      if headerType ≠ ptLoad then some none
      else ((parseLoadSegment image ph 0).success.map LoadSegment.unindexed).map some
  | _ => none

theorem headerSegment_congr (hlen : image.length = image'.length) :
    headerSegment image ph = headerSegment image' ph := by
  unfold headerSegment
  rw [(parseLoadSegment_alike hlen 0).success_eq]

/-- What a segment adds to those that are planned, in no order. -/
def admitSegment (outputLen : Nat) (planned : Multiset LoadSegment × Nat) :
    Option LoadSegment → Option (Multiset LoadSegment × Nat)
  | none => some planned
  | some s =>
      if planned.2 + s.mappingSize ≤ maxMappedImageBytes ∧ planned.1.card < outputLen then
        some (s ::ₘ planned.1, planned.2 + s.mappingSize)
      else none

/-- The segments gathered so far, without their indices and their order. -/
def SegmentScan.Holds (g : SegmentScan) (planned : Multiset LoadSegment × Nat) : Prop :=
  Multiset.ofList (g.segments.map LoadSegment.unindexed) = planned.1 ∧ g.mappedBytes = planned.2

theorem gatherSegment_mirrors {outputLen : Nat} {g : SegmentScan}
    {planned : Multiset LoadSegment × Nat} (hg : g.Holds planned)
    (hph : programHeader image header index = .ok ph) :
    Mirrors SegmentScan.Holds (gatherSegment image header outputLen g index)
      ((headerSegment image ph).bind (admitSegment outputLen planned)) := by
  rw [gatherSegment, hph, ok_bind]
  unfold headerSegment
  cases htype : (getLE 4 ph 0 : Plan Nat) with
  | err e | panic => exact fun s hs => by cases hs
  | ok headerType =>
      simp only [ok_bind]
      by_cases hload : headerType ≠ ptLoad
      · rw [if_pos hload, if_pos hload]
        exact ⟨g, rfl, hg⟩
      rw [if_neg hload, if_neg hload]
      have hsuccess : (parseLoadSegment image ph index).success.map LoadSegment.unindexed
          = (parseLoadSegment image ph 0).success.map LoadSegment.unindexed :=
        (parseLoadSegment_alike rfl 0).success_eq
      rw [← hsuccess]
      cases parseLoadSegment image ph index with
      | err e | panic => exact fun s hs => by cases hs
      | ok segment =>
          rw [ok_bind]
          obtain ⟨hsegments, hbytes⟩ := hg
          have hcard : g.segments.length = planned.1.card := by rw [← hsegments]; simp
          have hsize : segment.unindexed.mappingSize = segment.mappingSize := rfl
          show Mirrors _ _ (admitSegment outputLen planned (some segment.unindexed))
          simp only [admitSegment, hsize, ← hbytes, ← hcard]
          by_cases hlimit : g.mappedBytes + segment.mappingSize ≤ maxMappedImageBytes
          · have hadd : checkedAdd g.mappedBytes segment.mappingSize
                = some (g.mappedBytes + segment.mappingSize) := by
              refine checkedAdd_eq_some.mpr ⟨?_, rfl⟩
              rw [maxMappedImageBytes] at hlimit
              omega
            rw [hadd, okOr_some, ok_bind, decide_eq_false (Nat.not_lt.mpr hlimit), rejectIf_false,
              ok_bind]
            by_cases hroom : g.segments.length < outputLen
            · rw [if_pos hroom, if_pos ⟨hlimit, hroom⟩]
              refine ⟨_, rfl, ?_, rfl⟩
              dsimp only
              rw [← hsegments, List.map_append, List.map_singleton, ← Multiset.coe_add,
                Multiset.add_comm]
              rfl
            · rw [if_neg hroom, if_neg fun h => hroom h.2]
              exact fun s hs => by cases hs
          · rw [if_neg fun h => hlimit h.1]
            intro s hs
            simp only [bind_eq_ok, okOr_eq_ok, rejectIf_eq_ok, exists_const,
              decide_eq_false_iff_not, Nat.not_lt] at hs
            obtain ⟨total, htotal, hle, -⟩ := hs
            obtain ⟨-, rfl⟩ := checkedAdd_eq_some.mp htotal
            exact hlimit hle

theorem gatherSegments_mirrors (outputLen : Nat) {indices : List Nat} {entries : List (List UInt8)}
    (h : List.Forall₂ (fun i ph => i < header.programCount ∧ programHeader image header i = .ok ph)
      indices entries) :
    Mirrors SegmentScan.Holds (indices.foldlM (gatherSegment image header outputLen) {})
      (entries.foldlM (fun planned ph =>
        (headerSegment image ph).bind (admitSegment outputLen planned)) (0, 0)) :=
  Mirrors.foldlM (fun _ _ _ _ hst hph => gatherSegment_mirrors hst hph.2) h ⟨rfl, rfl⟩

theorem admitSegment_commutes (image : List UInt8) (outputLen : Nat) :
    StepsCommute fun planned ph => (headerSegment image ph).bind (admitSegment outputLen planned) := by
  intro planned a b
  dsimp only
  generalize headerSegment image a = segment, headerSegment image b = segment'
  cases segment with
  | none => cases segment'.bind (admitSegment outputLen planned) <;> rfl
  | some segment =>
      cases segment' with
      | none => simp
      | some segment' =>
          simp only [Option.bind_some]
          cases segment with
          | none =>
              have hnone : admitSegment outputLen planned none = some planned := rfl
              rw [hnone, Option.bind_some]
              cases admitSegment outputLen planned segment' <;> rfl
          | some s =>
              cases segment' with
              | none =>
                  simp only [admitSegment, Option.bind_some]
                  split_ifs <;> rfl
              | some s' =>
                  simp only [admitSegment]
                  have hswap := Multiset.cons_swap s s' planned.1
                  have hsum := Nat.add_right_comm planned.2 s.mappingSize s'.mappingSize
                  split_ifs <;> simp_all <;> omega

end Gather

/-! ## Plans -/

section Plans

variable {image image' : List UInt8} {outputLen : Nat} {p : ElfLoadPlan}

theorem requiredSegmentCount_reheaded (h : Reheaded image image') {required : Nat}
    (hrequired : requiredSegmentCount image = .ok required) :
    requiredSegmentCount image' = .ok required := by
  obtain ⟨header, entries, entries', hheader, hheader', hlen, hperm, hread, hread'⟩ := h.headers
  unfold requiredSegmentCount at hrequired ⊢
  rw [hheader, ok_bind] at hrequired
  rw [hheader', ok_bind]
  obtain ⟨scan, hscan, hrest⟩ := bind_eq_ok.mp hrequired
  have hmirror := scanHeaders_mirrors hread
  have hmirror' := scanHeaders_mirrors hread'
  obtain ⟨t, ht, rfl⟩ := hmirror.of_ok hscan
  rw [(admit_commutes header image.length).foldlM_perm hperm, hlen] at ht
  obtain ⟨scan', hscan', rfl⟩ := hmirror'.of_some ht
  rw [hscan']
  exact hrest

theorem gather_reheaded (h : Reheaded image image') {header : ElfHeader}
    (hheader : parseElfHeader image = .ok header) {g : SegmentScan}
    (hg : (List.range header.programCount).foldlM (gatherSegment image header outputLen) {} = .ok g) :
    parseElfHeader image' = .ok header ∧ ∃ g',
      (List.range header.programCount).foldlM (gatherSegment image' header outputLen) {} = .ok g'
      ∧ (g.segments.map LoadSegment.unindexed).Perm (g'.segments.map LoadSegment.unindexed)
      ∧ g'.mappedBytes = g.mappedBytes := by
  obtain ⟨header, entries, entries', hheader₀, hheader', hlen, hperm, hread, hread'⟩ := h.headers
  obtain rfl := Outcome.ok.inj (hheader₀.symm.trans hheader)
  have hmirror := gatherSegments_mirrors outputLen hread
  have hmirror' := gatherSegments_mirrors outputLen hread'
  obtain ⟨t, ht, hholds⟩ := hmirror.of_ok hg
  rw [(admitSegment_commutes image outputLen).foldlM_perm hperm] at ht
  simp only [headerSegment_congr hlen] at ht
  obtain ⟨g', hg', hholds'⟩ := hmirror'.of_some ht
  refine ⟨hheader', g', hg', ?_, hholds'.2.trans hholds.2.symm⟩
  exact Multiset.coe_eq_coe.mp (hholds.1.trans hholds'.1.symm)

theorem pairwise_insertionSort (segments : List LoadSegment) :
    (segments.insertionSort LoadSegment.Before).Pairwise
      fun a b => a.mapping.start ≤ b.mapping.start := by
  have htotal : Std.Total LoadSegment.Before := by
    refine ⟨fun a b => ?_⟩
    unfold LoadSegment.Before
    omega
  have htrans : IsTrans LoadSegment LoadSegment.Before := by
    refine ⟨fun a b c => ?_⟩
    unfold LoadSegment.Before
    omega
  refine (List.pairwise_insertionSort LoadSegment.Before segments).imp fun hbefore => ?_
  rcases hbefore with hlt | ⟨heq, -⟩
  · exact Nat.le_of_lt hlt
  · exact Nat.le_of_eq heq

theorem plan_reheaded (h : Reheaded image image') (hp : plan image outputLen = .ok p) :
    ∃ p', plan image' outputLen = .ok p' ∧ p'.entry = p.entry ∧ p'.mappedBytes = p.mappedBytes
      ∧ p'.segments.map LoadSegment.unindexed = p.segments.map LoadSegment.unindexed := by
  obtain ⟨header, hheader, hsound⟩ := plan_sound hp
  have hp' := hp
  simp only [plan, bind_eq_ok, rejectIf_eq_ok, exists_const, Bool.not_eq_false'] at hp'
  obtain ⟨required, hrequired, hroom, header₀, hheader₀, g, hg, _, hchain, hzero, hentry, heq⟩ := hp'
  obtain rfl := Outcome.ok.inj (hheader₀.symm.trans hheader)
  obtain rfl := Outcome.ok.inj heq
  obtain ⟨hheader', g', hg', hperm, hbytes⟩ := gather_reheaded h hheader hg
  have hsorted := List.perm_insertionSort LoadSegment.Before g.segments
  have hsorted' := List.perm_insertionSort LoadSegment.Before g'.segments
  -- the sorted segments agree: each mapping starts where no other one does
  have hsame : (g.segments.insertionSort LoadSegment.Before).map LoadSegment.unindexed
      = (g'.segments.insertionSort LoadSegment.Before).map LoadSegment.unindexed := by
    refine Region.eq_of_perm_sorted (f := LoadSegment.mapping) ?_ ?_ ?_ ?_
    · exact (hsorted.map _).trans (hperm.trans (hsorted'.map _).symm)
    · exact List.pairwise_map.mpr hsound.apart
    · intro a ha
      obtain ⟨s, hs, rfl⟩ := List.mem_map.mp ha
      exact (hsound.segments s hs).mapping_pos
    · exact List.pairwise_map.mpr (pairwise_insertionSort g'.segments)
  have hchain' : validateNonoverlap (g'.segments.insertionSort LoadSegment.Before) = .ok () := by
    have hmapped : ((g.segments.insertionSort LoadSegment.Before).map
        LoadSegment.unindexed).IsChain LoadSegment.EndsBefore :=
      (List.isChain_map _).mpr (validateNonoverlap_eq_ok.mp hchain)
    rw [hsame] at hmapped
    exact validateNonoverlap_eq_ok.mpr ((List.isChain_map LoadSegment.unindexed).mp hmapped)
  have hentry' : (g'.segments.insertionSort LoadSegment.Before).any
      (LoadSegment.holdsEntry header₀.entry) = true := by
    have hmapped : ((g.segments.insertionSort LoadSegment.Before).map
        LoadSegment.unindexed).any (LoadSegment.holdsEntry header₀.entry) = true := by
      rw [List.any_map]
      exact hentry
    rw [hsame, List.any_map] at hmapped
    exact hmapped
  refine ⟨⟨header₀.entry, g'.segments.insertionSort LoadSegment.Before, g'.mappedBytes⟩, ?_, rfl,
    hbytes, hsame.symm⟩
  simp only [plan, requiredSegmentCount_reheaded h hrequired, ok_bind, hroom, rejectIf_false,
    hheader', hg', hchain', hzero, hentry', Bool.not_true, pure_eq]

/-- No image makes the planner fault or overflow, and what it accepts is a sound
plan, which the order of the program headers does not change. -/
theorem plan_hostile (image : List UInt8) (outputLen : Nat) :
    plan image outputLen ≠ .panic
      ∧ (∀ ph index s, parseLoadSegment image ph index = .ok s →
          s.mappingStart ≤ s.virtualAddress ∧ s.memoryEnd < 2 ^ 64 ∧ s.mappingEnd < 2 ^ 64)
      ∧ (∀ p, plan image outputLen = .ok p →
          ∃ header, parseElfHeader image = .ok header ∧ p.Sound image header)
      ∧ ∀ image', Reheaded image image' →
          (plan image' outputLen).isOk = (plan image outputLen).isOk
          ∧ ∀ p p', plan image outputLen = .ok p → plan image' outputLen = .ok p' →
              p'.entry = p.entry ∧ p'.mappedBytes = p.mappedBytes
              ∧ p'.segments.map LoadSegment.unindexed = p.segments.map LoadSegment.unindexed := by
  refine ⟨(plan_spec image outputLen).1, fun ph index s hs => ?_, fun p hp => plan_sound hp,
    fun image' h => ⟨?_, fun p p' hp hp' => ?_⟩⟩
  · have hsound := (parseLoadSegment_sound hs).1
    have hlead := hsound.lead
    exact ⟨by omega, hsound.ends_lt⟩
  · rw [Bool.eq_iff_iff]
    constructor
    · intro hok
      obtain ⟨p', hp'⟩ := exists_of_isOk hok
      obtain ⟨p, hp, -⟩ := plan_reheaded h.symm hp'
      rw [hp, isOk_ok]
    · intro hok
      obtain ⟨p, hp⟩ := exists_of_isOk hok
      obtain ⟨p', hp', -⟩ := plan_reheaded h hp
      rw [hp', isOk_ok]
  · obtain ⟨p'', hp'', hsame⟩ := plan_reheaded h hp
    obtain rfl := Outcome.ok.inj (hp''.symm.trans hp')
    exact hsame

/-- A header for two program headers, and the entry point `0x1000`. -/
def twoHeaders : List UInt8 :=
  [0x7f, 0x45, 0x4c, 0x46, 2, 1, 1, 0, 0, 0, 0, 0, 0, 0, 0, 0] ++ leBytes 2 etExec
    ++ leBytes 2 emX8664 ++ leBytes 4 evCurrent ++ leBytes 8 0x1000 ++ leBytes 8 64 ++ leBytes 8 0
    ++ leBytes 4 0 ++ leBytes 2 elfHeaderBytes ++ leBytes 2 programHeaderBytes ++ leBytes 2 2
    ++ leBytes 6 0

/-- An executable page of zeros. -/
def zeroPage (address : Nat) : List UInt8 :=
  leBytes 4 ptLoad ++ leBytes 4 pfRX ++ leBytes 8 0 ++ leBytes 8 address ++ leBytes 8 0
    ++ leBytes 8 0 ++ leBytes 8 pageSize ++ leBytes 8 pageSize

/-- The plan itself is not the same: its segments carry the indices of their headers. -/
theorem plan_keeps_header_indices : ∃ image image' p, Reheaded image image'
    ∧ plan image 2 = .ok p ∧ plan image' 2 ≠ .ok p := by
  refine ⟨twoHeaders ++ ([zeroPage 0x1000, zeroPage 0x2000].flatten ++ []),
    twoHeaders ++ ([zeroPage 0x2000, zeroPage 0x1000].flatten ++ []),
    ⟨0x1000, [⟨0, 0, 0, 0x1000, 0x1000, 0x1000, 0x1000, 0, .readExecute⟩,
      ⟨1, 0, 0, 0x1000, 0x2000, 0x2000, 0x1000, 0, .readExecute⟩], 0x2000⟩,
    ⟨⟨0x1000, 64, 2⟩, by decide +kernel, .mk (by decide +kernel) rfl ?_ (.swap ..)⟩,
    by decide +kernel, by decide +kernel⟩
  decide +kernel

end Plans

end Wyrmroot.Loader
