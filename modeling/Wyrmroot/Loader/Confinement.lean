import Wyrmroot.Loader.Mappings

/-!
# No object is written through two mappings

What the forms of a `Trail` say, position by position. The parent has no
mapping of its own left wherever an object goes into the child or a thread
starts, and never again one of an object that the child was given; every
mapping of the child has an object of its own, in the root of the one process
that the load created; the mappings are those of the plan, in order, and none
that may be executed may be written; and a thread is started after the last of
them, and ends the trace.

A handle may come back once it is closed, so an object is not its handle: it
is known by how many were created before it.
-/

namespace Wyrmroot.Loader

open Outcome

inductive MemoryProtection where
  | read
  | write
  | execute
deriving DecidableEq

/-- `native_protection`, as the set of the protections that it joins. -/
def nativeProtection : SegmentProtection → Finset MemoryProtection
  | .read => {.read}
  | .readWrite => {.read, .write}
  | .readExecute => {.read, .execute}

theorem nativeProtection_exclusive (protection : SegmentProtection) :
    ¬(MemoryProtection.write ∈ nativeProtection protection ∧
      MemoryProtection.execute ∈ nativeProtection protection) := by
  cases protection <;> decide

/-- The object that a handle names, of those created under `handles`, the
newest first: the last one that was created under it. -/
def objectOf : List Nat → Nat → Option Nat
  | [], _ => none
  | handle :: older, memory => if handle = memory then some older.length else objectOf older memory

/-- A mapping of the parent, with the object it shows. -/
structure Alias where
  parentRoot : Nat
  mapping : ParentMapping
  object : Option Nat
deriving DecidableEq

/-- What the steps of a load amount to. -/
structure Observed where
  roots : List Nat := []
  handles : List Nat := []
  aliases : List Alias := []
  given : List (Option Nat) := []
deriving DecidableEq

def MappingStep.observe (s : Observed) : MappingStep → Observed
  | .born childRoot => { s with roots := childRoot :: s.roots }
  | .created memory => { s with handles := memory :: s.handles }
  | .aliased parentRoot memory mapping =>
      { s with aliases := ⟨parentRoot, mapping, objectOf s.handles memory⟩ :: s.aliases }
  | .unaliased parentRoot mapping =>
      { s with aliases := s.aliases.eraseP fun held =>
          decide (held.parentRoot = parentRoot ∧ held.mapping = mapping) }
  | .mapped _ memory _ _ => { s with given := objectOf s.handles memory :: s.given }
  | .started _ => s

def observed (t : List MappingStep) : Observed := t.foldl MappingStep.observe {}

/-- The child gets a mapping or runs. -/
def MappingStep.exposes : MappingStep → Bool
  | .mapped .. | .started _ => true
  | _ => false

/-- The mapping that a step asks for. -/
def MappingStep.asked : MappingStep → Option ChildMapping
  | .mapped _ _ mapping _ => some mapping
  | _ => none

/-- The mapping that a step makes. -/
def MappingStep.made : MappingStep → Option ChildMapping
  | .mapped _ _ mapping true => some mapping
  | _ => none

def asked (t : List MappingStep) : List ChildMapping := t.filterMap MappingStep.asked

def made (t : List MappingStep) : List ChildMapping := t.filterMap MappingStep.made

/-- What a load of `plan` keeps to, at every position of its trace. -/
structure Confined (plan : List ChildMapping) (t : List MappingStep) : Prop where
  unaliased : ∀ before e after, t = before ++ e :: after → e.exposes = true →
    (observed before).aliases = []
  withdrawn : ∀ before, before <+: t → ∀ held ∈ (observed before).aliases,
    held.object ∉ (observed before).given
  ownObject : none ∉ (observed t).given ∧ (observed t).given.Nodup
  oneChild : ∀ before childRoot memory mapping ok after,
    t = before ++ .mapped childRoot memory mapping ok :: after →
      (observed before).roots = [childRoot]
  planned : asked t <+: plan
  inOrder : made t <+: plan
  exclusive : ∀ mapping ∈ asked t,
    ¬(MemoryProtection.write ∈ nativeProtection mapping.protection ∧
      MemoryProtection.execute ∈ nativeProtection mapping.protection)
  started : ∀ before ok after, t = before ++ .started ok :: after →
    made before = plan ∧ after = []

/-! ## Positions -/

section Throughout

variable {σ κ : Type}

/-- `I` holds at every position of a list, of the state there and what comes
after it. -/
def Throughout (step : σ → κ → σ) (I : σ → List κ → Prop) : σ → List κ → Prop
  | s, [] => I s []
  | s, e :: t => I s (e :: t) ∧ Throughout step I (step s e) t

theorem Throughout.at_position {step : σ → κ → σ} {I : σ → List κ → Prop}
    {before after : List κ} :
    ∀ {s : σ}, Throughout step I s (before ++ after) → I (before.foldl step s) after := by
  induction before with
  | nil =>
      intro s h
      cases after with
      | nil => exact h
      | cons e after => exact h.1
  | cons d before ih => exact fun h => ih h.2

end Throughout

/-- What is kept at every position: no object is in the child twice or there and
in the parent, and the next step is held to what has been observed. -/
structure Kept (s : Observed) (rest : List MappingStep) : Prop where
  withdrawn : ∀ held ∈ s.aliases, held.object ∉ s.given
  named : none ∉ s.given
  nodup : s.given.Nodup
  unaliased : ∀ e after, rest = e :: after → e.exposes = true → s.aliases = []
  root : ∀ childRoot memory mapping ok after,
    rest = .mapped childRoot memory mapping ok :: after → s.roots = [childRoot]

/-- Between two objects: nothing of the child's is mapped in the parent, and what
it was given are objects that exist. -/
structure Settled (childRoot : Nat) (s : Observed) : Prop where
  roots : s.roots = [childRoot]
  aliases : s.aliases = []
  given : ∀ object ∈ s.given, ∃ k < s.handles.length, object = some k
  nodup : s.given.Nodup

/-- A start is the last step, after the mappings of `plan`. -/
def StartsLast (plan : List ChildMapping) : List ChildMapping → List MappingStep → Prop :=
  Throughout (fun done e => done ++ e.made.toList) fun done rest =>
    ∀ ok after, rest = .started ok :: after → done = plan ∧ after = []

theorem foldl_made (t : List MappingStep) :
    ∀ done, t.foldl (fun done e => done ++ e.made.toList) done = done ++ made t := by
  induction t with
  | nil => exact fun done => (List.append_nil done).symm
  | cons e t ih =>
      intro done
      rw [List.foldl_cons, ih, List.append_assoc]
      cases hmade : e.made <;> simp [made, hmade]

namespace Settled

variable {childRoot parentRoot memory : Nat} {mapping : ParentMapping} {next : ChildMapping}
  {ok : Bool} {s : Observed} {rest : List MappingStep}

theorem named (h : Settled childRoot s) : none ∉ s.given := by
  intro hnone
  obtain ⟨k, -, hk⟩ := h.given none hnone
  cases hk

theorem kept (h : Settled childRoot s)
    (hroot : ∀ root memory mapping ok after, rest = .mapped root memory mapping ok :: after →
      root = childRoot) : Kept s rest where
  withdrawn := by simp [h.aliases]
  named := h.named
  nodup := h.nodup
  unaliased := fun _ _ _ _ => h.aliases
  root := fun root memory mapping ok after hrest => by
    rw [h.roots, hroot root memory mapping ok after hrest]

theorem created (h : Settled childRoot s) (memory : Nat) :
    Settled childRoot (MappingStep.observe s (.created memory)) where
  roots := h.roots
  aliases := h.aliases
  given := fun object hobject => by
    obtain ⟨k, hk, rfl⟩ := h.given object hobject
    exact ⟨k, Nat.lt_succ_of_lt hk, rfl⟩
  nodup := h.nodup

/-- While the parent fills an object, it is one that the child was not given. -/
theorem filled (h : Settled childRoot s)
    (hrest : ∀ e after, rest = e :: after → e.exposes = false) :
    Kept (MappingStep.observe (MappingStep.observe s (.created memory))
      (.aliased parentRoot memory mapping)) rest where
  withdrawn := by
    intro held hheld hgiven
    obtain ⟨k, hk, hobject⟩ := h.given _ hgiven
    simp only [MappingStep.observe, h.aliases, objectOf, if_true, List.mem_singleton] at hheld
    rw [hheld] at hobject
    obtain rfl := Option.some.inj hobject
    exact Nat.lt_irrefl _ hk
  named := h.named
  nodup := h.nodup
  unaliased := by
    intro e after he hexposes
    exact absurd ((hrest e after he).symm.trans hexposes) Bool.false_ne_true
  root := by
    intro root memory' mapping' ok after he
    cases hrest _ after he

theorem released (h : Settled childRoot s) :
    MappingStep.observe (MappingStep.observe (MappingStep.observe s (.created memory))
      (.aliased parentRoot memory mapping)) (.unaliased parentRoot mapping) =
      MappingStep.observe s (.created memory) := by
  simp [MappingStep.observe, h.aliases]

theorem placed (h : Settled childRoot s) :
    Settled childRoot (MappingStep.observe (MappingStep.observe s (.created memory))
      (.mapped childRoot memory next ok)) where
  roots := h.roots
  aliases := h.aliases
  given := by
    intro object hobject
    rcases List.mem_cons.mp hobject with rfl | hobject
    · exact ⟨s.handles.length, Nat.lt_succ_self _, if_pos rfl⟩
    · exact (h.created memory).given object hobject
  nodup := by
    refine List.nodup_cons.mpr ⟨fun hmem => ?_, h.nodup⟩
    obtain ⟨k, hk, hobject⟩ := h.given _ hmem
    rw [MappingStep.observe, objectOf, if_pos rfl] at hobject
    obtain rfl := Option.some.inj hobject
    exact Nat.lt_irrefl _ hk

end Settled

namespace Trail

variable {parentRoot childRoot : Nat} {plan : List ChildMapping} {t : List MappingStep}

theorem kept (h : Trail parentRoot childRoot plan t) :
    ∀ {s : Observed}, Settled childRoot s → Throughout MappingStep.observe Kept s t := by
  induction h with
  | stopped plan => exact fun hs => hs.kept (by simp)
  | started ok => exact fun hs => ⟨hs.kept (by simp), hs.kept (by simp)⟩
  | created next plan memory =>
      exact fun hs => ⟨hs.kept (by simp), (hs.created memory).kept (by simp)⟩
  | filled next plan memory mapping =>
      exact fun hs => ⟨hs.kept (by simp), (hs.created memory).kept (by simp), hs.filled (by simp)⟩
  | released next plan memory mapping =>
      intro s hs
      refine ⟨hs.kept (by simp), (hs.created memory).kept (by simp),
        hs.filled (by simp [MappingStep.exposes]), ?_⟩
      rw [hs.released]
      exact (hs.created memory).kept (by simp)
  | refused next plan memory mapping =>
      intro s hs
      refine ⟨hs.kept (by simp), (hs.created memory).kept (by simp),
        hs.filled (by simp [MappingStep.exposes]), ?_⟩
      rw [hs.released]
      refine ⟨(hs.created memory).kept ?_, hs.placed.kept (by simp)⟩
      rintro _ _ _ _ _ ⟨⟩
      rfl
  | placed memory mapping h ih =>
      intro s hs
      refine ⟨hs.kept (by simp), (hs.created memory).kept (by simp),
        hs.filled (by simp [MappingStep.exposes]), ?_⟩
      rw [hs.released]
      refine ⟨(hs.created memory).kept ?_, ih hs.placed⟩
      rintro _ _ _ _ _ ⟨⟩
      rfl

theorem asked_prefix (h : Trail parentRoot childRoot plan t) : asked t <+: plan := by
  induction h with
  | placed memory mapping h ih => exact List.prefix_cons_inj _ |>.mpr ih
  | refused next plan memory mapping => exact List.prefix_append [next] plan
  | _ => exact List.nil_prefix

theorem made_prefix (h : Trail parentRoot childRoot plan t) : made t <+: plan := by
  induction h with
  | placed memory mapping h ih => exact List.prefix_cons_inj _ |>.mpr ih
  | _ => exact List.nil_prefix

theorem startsLast (h : Trail parentRoot childRoot plan t) :
    ∀ done, StartsLast (done ++ plan) done t := by
  induction h with
  | placed memory mapping h ih =>
      rename_i next plan t
      intro done
      refine ⟨by simp, by simp, by simp, by simp, ?_⟩
      have hrest := ih (done ++ [next])
      rw [List.append_assoc] at hrest
      have hdone : (((done ++ []) ++ []) ++ []) ++ [next] = done ++ [next] := by simp
      show StartsLast _ ((((done ++ []) ++ []) ++ []) ++ [next]) t
      rw [hdone]
      exact hrest
  | started ok =>
      intro done
      refine ⟨?_, by simp [Throughout]⟩
      rintro _ after ⟨⟩
      exact ⟨(List.append_nil done).symm, rfl⟩
  | _ => simp [StartsLast, Throughout]

theorem confined (h : Trail parentRoot childRoot plan t) :
    Confined plan (.born childRoot :: t) := by
  have hborn : Settled childRoot (MappingStep.observe {} (.born childRoot)) :=
    ⟨rfl, rfl, by simp [MappingStep.observe], List.nodup_nil⟩
  have hstart : Kept {} (.born childRoot :: t) :=
    ⟨by simp, by simp, List.nodup_nil, fun _ _ _ _ => rfl, by simp⟩
  have hkept : ∀ before after, .born childRoot :: t = before ++ after →
      Kept (observed before) after := by
    intro before after ht
    have hall : Throughout MappingStep.observe Kept {} (.born childRoot :: t) :=
      ⟨hstart, h.kept hborn⟩
    rw [ht] at hall
    exact hall.at_position
  refine ⟨?_, ?_, ?_, ?_, h.asked_prefix, h.made_prefix,
    fun mapping _ => nativeProtection_exclusive mapping.protection, ?_⟩
  · exact fun before e after ht => (hkept _ _ ht).unaliased e after rfl
  · rintro before ⟨after, ht⟩
    exact (hkept before after ht.symm).withdrawn
  · have hend := hkept _ [] (List.append_nil _).symm
    exact ⟨hend.named, hend.nodup⟩
  · exact fun before childRoot memory mapping ok after ht =>
      (hkept _ _ ht).root childRoot memory mapping ok after rfl
  · intro before ok after ht
    have hall : StartsLast plan [] (.born childRoot :: t) := ⟨by simp, h.startsLast []⟩
    rw [ht] at hall
    have hlast := hall.at_position ok after rfl
    rwa [foldl_made, List.nil_append] at hlast

end Trail

theorem Confined.nil (plan : List ChildMapping) : Confined plan [] := by
  refine ⟨by simp, ?_, by simp [observed], by simp, List.nil_prefix, List.nil_prefix,
    by simp [asked], by simp⟩
  intro before hbefore
  rw [List.prefix_nil.mp hbefore]
  exact fun held hheld => absurd hheld (List.not_mem_nil)

variable {τ ε : Type}

/-- Whatever fails: a load shows nothing, or keeps to the plan of its image and
has started its thread if it succeeds. -/
theorem loadProcessInternal_confined (tr : LoaderPlatform τ ε) (authority : LoadAuthority)
    (request : InternalLoadRequest) (fault : LoadFault) (s : LoadState τ) :
    let r := loadProcessInternal tr authority request fault s;
    (mappingSteps r.2.2 = [] ∧ ∀ loaded, r.1 ≠ .ok loaded) ∨
      ∃ elf, plan request.image maxLoadSegments = .ok elf ∧
        Confined (plannedMappings elf) (mappingSteps r.2.2) ∧
        ((∃ loaded, r.1 = .ok loaded) → .started true ∈ mappingSteps r.2.2) := by
  intro r
  have hsees : Prog.Sees Event.mappingSteps (loadProcessInternal tr authority request fault) _ s :=
    loadProcessInternal_sees request fault s
  rcases hsees with h | h
  · obtain ⟨hstops, hnone⟩ := h
    exact .inl ⟨hnone, hstops⟩
  · obtain ⟨elf, hplan, hnone | ⟨childRoot, t, ht, htrail⟩, hstarted⟩ := h
    · refine .inr ⟨elf, hplan, ?_, hstarted⟩
      show Confined _ (Prog.digest Event.mappingSteps r.2.2)
      rw [hnone]
      exact .nil _
    · refine .inr ⟨elf, hplan, ?_, hstarted⟩
      show Confined _ (Prog.digest Event.mappingSteps r.2.2)
      rw [ht]
      exact htrail.confined

/-- A segment to run and one to write. -/
def twoSegmentElf : List UInt8 :=
  elfImage 0x400000 [loadHeader 5 0 0x400000 176 176, loadHeader 6 0 0x500000 176 5000]

/-- A whole load of it: two segments and the stack, each in an object of its own. -/
theorem loadProcessInternal_confined_twoSegments :
    let r := loadProcessInternal (countingPlatform 10) ⟨1, 2, 3⟩
      { image := twoSegmentElf, profile := .init0, transactionId := 1, startup := .legacy "a" }
      .none ⟨0, false⟩;
    made (mappingSteps r.2.2) =
        [⟨0x400000, 4096, .readExecute⟩, ⟨0x500000, 8192, .readWrite⟩, stackMapping] ∧
      (observed (mappingSteps r.2.2)).given = [some 2, some 1, some 0] ∧
      ∃ elf, plan twoSegmentElf maxLoadSegments = .ok elf ∧
        Confined (plannedMappings elf) (mappingSteps r.2.2) ∧
        .started true ∈ mappingSteps r.2.2 := by
  intro r
  refine ⟨by decide +kernel, by decide +kernel, ?_⟩
  rcases loadProcessInternal_confined (countingPlatform 10) ⟨1, 2, 3⟩
      { image := twoSegmentElf, profile := .init0, transactionId := 1, startup := .legacy "a" }
      .none ⟨0, false⟩ with h | h
  · exact absurd h.1 (by decide +kernel)
  · obtain ⟨elf, hplan, hconfined, -⟩ := h
    exact ⟨elf, hplan, hconfined, by decide +kernel⟩

end Wyrmroot.Loader
