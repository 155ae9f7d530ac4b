import Wyrmroot.Launching.Transactions

/-!
# The life of one launch transaction

What a transaction is for, with no arena around it: it is opened once, moves
along the diagram of stages, holds at most one set of resources at a time, keeps
the first code that was recorded, and ends when it is complete and holds nothing.
`lifeAfter` reads that off the marks the transaction has left (`Mark`), and every
law of a transaction is a fact about a list of marks with a life (`Law.of_life`).
-/

namespace Wyrmroot.Launching

inductive Mark where
  | opened
  | advanced (next : LaunchStage)
  | attached (resources : LaunchResources)
  | taken (resources : LaunchResources)
  | failed (failure : LaunchFailure)
  | closed
deriving DecidableEq

namespace Mark

def stage? : Mark → Option LaunchStage
  | .opened => some .reserved
  | .advanced next => some next
  | _ => none

def attached? : Mark → Option LaunchResources
  | .attached resources => some resources
  | _ => none

def taken? : Mark → Option LaunchResources
  | .taken resources => some resources
  | _ => none

def failure? : Mark → Option LaunchFailure
  | .failed failure => some failure
  | _ => none

end Mark

/-- The stages a transaction has been in, in order. -/
def stages (marks : List Mark) : List LaunchStage := marks.filterMap Mark.stage?

def attached (marks : List Mark) : List LaunchResources := marks.filterMap Mark.attached?

def taken (marks : List Mark) : List LaunchResources := marks.filterMap Mark.taken?

/-- The code of the first failure. -/
def firstCode (marks : List Mark) : Option Nat :=
  ((marks.filterMap Mark.failure?).head?).map (·.code)

theorem filterMap_snoc {α β : Type} (f : α → Option β) (l : List α) (a : α) :
    (l ++ [a]).filterMap f = l.filterMap f ++ (f a).toList := by
  rw [List.filterMap_append]
  cases h : f a <;> simp [h]

theorem stages_snoc (marks : List Mark) (m : Mark) :
    stages (marks ++ [m]) = stages marks ++ m.stage?.toList := filterMap_snoc _ _ _

theorem attached_snoc (marks : List Mark) (m : Mark) :
    attached (marks ++ [m]) = attached marks ++ m.attached?.toList := filterMap_snoc _ _ _

theorem taken_snoc (marks : List Mark) (m : Mark) :
    taken (marks ++ [m]) = taken marks ++ m.taken?.toList := filterMap_snoc _ _ _

theorem firstCode_snoc {m : Mark} (marks : List Mark) (h : m.failure? = none) :
    firstCode (marks ++ [m]) = firstCode marks := by
  rw [firstCode, filterMap_snoc, h, Option.toList_none, List.append_nil]
  rfl

/-- An open transaction. -/
structure Live where
  stage : LaunchStage
  held : Option LaunchResources
  failure : Option LaunchFailure

inductive Life where
  | fresh
  | live (live : Live)
  | closed

namespace Life

def held : Life → Option LaunchResources
  | .live l => l.held
  | _ => none

def next : Life → Mark → Option Life
  | .fresh, .opened => some (.live ⟨.reserved, none, none⟩)
  | .live l, .advanced stage =>
      if l.stage.mayAdvanceTo stage then some (.live { l with stage }) else none
  | .live l, .attached resources =>
      if l.held = none then some (.live { l with held := some resources }) else none
  | .live l, .taken resources =>
      if l.held = some resources then some (.live { l with held := none }) else none
  | .live l, .failed failure =>
      some (.live { l with failure := some (LaunchTransactions.merged l.failure failure) })
  | .live l, .closed => if l.stage = .complete ∧ l.held = none then some .closed else none
  | _, _ => none

end Life

def lifeAfter (marks : List Mark) : Option Life := marks.foldlM Life.next .fresh

theorem lifeAfter_append (marks later : List Mark) :
    lifeAfter (marks ++ later) = lifeAfter marks >>= fun life => later.foldlM Life.next life := by
  rw [lifeAfter, List.foldlM_append]
  rfl

theorem lifeAfter_snoc (marks : List Mark) (m : Mark) :
    lifeAfter (marks ++ [m]) = lifeAfter marks >>= fun life => life.next m := by
  rw [lifeAfter_append]
  simp

theorem lifeAfter_closed {marks later : List Mark} {life : Life}
    (hclosed : lifeAfter marks = some .closed) (h : lifeAfter (marks ++ later) = some life) :
    later = [] ∧ life = .closed := by
  rw [lifeAfter_append, hclosed] at h
  cases later with
  | nil => exact ⟨rfl, (Option.some.inj h).symm⟩
  | cons m later => cases h

/-! ## The diagram -/

/-- The edges of the diagram, and the one it does not draw: a reservation is
refused before anything is constructed. -/
inductive Edge : LaunchStage → LaunchStage → Prop
  | construct : Edge .reserved .constructed
  | await : Edge .constructed .awaitingReady
  | publish : Edge .awaitingReady .published
  | refuse : Edge .reserved .failing
  | unsent : Edge .constructed .failing
  | unready : Edge .awaitingReady .failing
  | retire : Edge .published .cleanup
  | unwind : Edge .failing .cleanup
  | finish : Edge .cleanup .complete

theorem mayAdvanceTo_iff {a b : LaunchStage} : a.mayAdvanceTo b = true ↔ Edge a b := by
  constructor
  · intro h
    cases a <;> cases b <;> first | constructor | cases h
  · rintro ⟨⟩ <;> rfl

/-- A path of the diagram from its start. -/
def Path (path : List LaunchStage) : Prop :=
  (∀ first ∈ path.head?, first = .reserved) ∧ path.IsChain Edge

theorem Path.snoc {path : List LaunchStage} {last next : LaunchStage} (h : Path path)
    (hlast : path.getLast? = some last) (hnext : last.mayAdvanceTo next = true) :
    Path (path ++ [next]) := by
  obtain ⟨hfirst, hchain⟩ := h
  have hne : path ≠ [] := by
    intro hnil
    rw [hnil] at hlast
    cases hlast
  constructor
  · intro first hmem
    rw [List.head?_append_of_ne_nil _ hne] at hmem
    exact hfirst first hmem
  · refine List.isChain_append.mpr ⟨hchain, List.isChain_singleton _, ?_⟩
    intro a ha b hb
    rw [hlast] at ha
    obtain rfl := Option.some.inj ha
    obtain rfl := Option.some.inj hb
    exact mayAdvanceTo_iff.mp hnext

/-- The stages behind a branch of the diagram. -/
def Behind (branch stage : LaunchStage) : Prop :=
  stage = branch ∨ stage = .cleanup ∨ stage = .complete

theorem Behind.advance {branch stage next : LaunchStage} (h : Behind branch stage)
    (hbranch : branch = .published ∨ branch = .failing) (hnext : stage.mayAdvanceTo next = true) :
    Behind branch next := by
  rcases hbranch with rfl | rfl <;> rcases h with rfl | rfl | rfl <;> cases next <;>
    first | cases hnext; done | exact .inr (.inl rfl) | exact .inr (.inr rfl)

/-! ## What a life says of its marks -/

structure Law (marks : List Mark) (life : Life) : Prop where
  fresh : life = .fresh → marks = []
  custody : attached marks = taken marks ++ life.held.toList
  path : Path (stages marks)
  stage : ∀ l, life = .live l → (stages marks).getLast? = some l.stage
  code : ∀ l, life = .live l → l.failure.map (·.code) = firstCode marks
  branch : ∀ l, life = .live l → ∀ branch, branch = .published ∨ branch = .failing →
    branch ∈ stages marks → Behind branch l.stage
  apart : .published ∈ stages marks → .failing ∉ stages marks

namespace Law

variable {marks : List Mark} {l : Live}

theorem merged_code (existing : Option LaunchFailure) (failure : LaunchFailure) :
    (LaunchTransactions.merged existing failure).code =
      (existing.map (·.code)).getD failure.code := by
  cases existing <;> rfl

theorem firstCode_failed (failure : LaunchFailure) :
    firstCode (marks ++ [.failed failure]) = some ((firstCode marks).getD failure.code) := by
  unfold firstCode
  rw [List.filterMap_append]
  cases marks.filterMap Mark.failure? <;> rfl

theorem of_held (h : Law marks (.live l)) {m : Mark} {held : Option LaunchResources}
    (hstage : m.stage? = none) (hfailure : m.failure? = none)
    (hcustody : attached (marks ++ [m]) = taken (marks ++ [m]) ++ held.toList) :
    Law (marks ++ [m]) (.live { l with held }) := by
  have hstages : stages (marks ++ [m]) = stages marks := by
    rw [stages_snoc, hstage, Option.toList_none, List.append_nil]
  refine ⟨fun hfresh => (by cases hfresh), hcustody, hstages ▸ h.path, ?_, ?_, ?_, hstages ▸ h.apart⟩
  · intro l' hl
    cases hl
    exact hstages ▸ h.stage l rfl
  · intro l' hl
    cases hl
    exact (h.code l rfl).trans (firstCode_snoc marks hfailure).symm
  · intro l' hl
    cases hl
    exact hstages ▸ h.branch l rfl

theorem advanced (h : Law marks (.live l)) {next : LaunchStage}
    (hnext : l.stage.mayAdvanceTo next = true) :
    Law (marks ++ [.advanced next]) (.live { l with stage := next }) := by
  have hstages : stages (marks ++ [.advanced next]) = stages marks ++ [next] := stages_snoc _ _
  have hbranch : ∀ branch, branch = .published ∨ branch = .failing →
      branch ∈ stages marks → Behind branch next := fun branch hb hmem =>
    (h.branch l rfl branch hb hmem).advance hb hnext
  refine ⟨fun hfresh => (by cases hfresh), ?_, ?_, ?_, ?_, ?_, ?_⟩
  · simpa [attached_snoc, taken_snoc, Mark.attached?, Mark.taken?, Life.held] using h.custody
  · rw [hstages]
    exact h.path.snoc (h.stage l rfl) hnext
  · intro l' hl
    cases hl
    rw [hstages, List.getLast?_concat]
  · intro l' hl
    cases hl
    exact (h.code l rfl).trans (firstCode_snoc marks rfl).symm
  · intro l' hl branch hb hmem
    cases hl
    rw [hstages] at hmem
    rcases List.mem_append.mp hmem with hmem | hmem
    · exact hbranch branch hb hmem
    · exact .inl (List.mem_singleton.mp hmem).symm
  · rw [hstages]
    intro hpublished hfailing
    rcases List.mem_append.mp hpublished with hp | hp <;>
      rcases List.mem_append.mp hfailing with hf | hf
    · exact h.apart hp hf
    · obtain rfl := List.mem_singleton.mp hf
      rcases hbranch .published (.inl rfl) hp with h | h | h <;> cases h
    · obtain rfl := List.mem_singleton.mp hp
      rcases hbranch .failing (.inr rfl) hf with h | h | h <;> cases h
    · obtain rfl := List.mem_singleton.mp hp
      cases List.mem_singleton.mp hf

theorem failed (h : Law marks (.live l)) (failure : LaunchFailure) :
    Law (marks ++ [.failed failure])
      (.live { l with failure := some (LaunchTransactions.merged l.failure failure) }) := by
  have hstages : stages (marks ++ [.failed failure]) = stages marks := by
    simp [stages_snoc, Mark.stage?]
  refine ⟨fun hfresh => (by cases hfresh), ?_, hstages ▸ h.path, ?_, ?_, ?_, hstages ▸ h.apart⟩
  · simpa [attached_snoc, taken_snoc, Mark.attached?, Mark.taken?, Life.held] using h.custody
  · intro l' hl
    cases hl
    exact hstages ▸ h.stage l rfl
  · intro l' hl
    cases hl
    rw [firstCode_failed, ← h.code l rfl, Option.map_some, merged_code]
  · intro l' hl
    cases hl
    exact hstages ▸ h.branch l rfl

theorem closed (h : Law marks (.live l)) (hheld : l.held = none) :
    Law (marks ++ [.closed]) .closed := by
  have hstages : stages (marks ++ [.closed]) = stages marks := by
    simp [stages_snoc, Mark.stage?]
  refine ⟨fun hfresh => (by cases hfresh), ?_, hstages ▸ h.path, ?_, ?_, ?_, hstages ▸ h.apart⟩
  · have hcustody := h.custody
    rw [Life.held, hheld] at hcustody
    simpa [attached_snoc, taken_snoc, Mark.attached?, Mark.taken?, Life.held] using hcustody
  · intro l' hl
    cases hl
  · intro l' hl
    cases hl
  · intro l' hl
    cases hl

theorem opened : Law [.opened] (.live ⟨.reserved, none, none⟩) := by
  refine ⟨fun hfresh => (by cases hfresh), rfl, ?_, ?_, ?_, ?_, ?_⟩
  · exact ⟨fun first hfirst => (Option.some.inj hfirst).symm, List.isChain_singleton _⟩
  · intro l' hl
    cases hl
    rfl
  · intro l' hl
    cases hl
    rfl
  · intro l' hl branch hb hmem
    cases hl
    exact .inl (List.mem_singleton.mp hmem).symm
  · intro hpublished
    cases List.mem_singleton.mp hpublished

theorem next {life life' : Life} (h : Law marks life) {m : Mark}
    (hnext : life.next m = some life') :
    Law (marks ++ [m]) life' := by
  cases life with
  | fresh =>
      obtain rfl := h.fresh rfl
      cases m with
      | opened =>
          obtain rfl := Option.some.inj hnext
          exact opened
      | _ => cases hnext
  | closed => cases m <;> cases hnext
  | live l =>
      have hcustody := h.custody
      cases m with
      | opened => cases hnext
      | advanced stage =>
          simp only [Life.next, Option.ite_none_right_eq_some] at hnext
          obtain ⟨hstage, hlife⟩ := hnext
          obtain rfl := Option.some.inj hlife
          exact h.advanced hstage
      | attached resources | taken resources =>
          simp only [Life.next, Option.ite_none_right_eq_some] at hnext
          obtain ⟨hheld, hlife⟩ := hnext
          obtain rfl := Option.some.inj hlife
          rw [Life.held, hheld] at hcustody
          refine h.of_held rfl rfl ?_
          simpa [attached_snoc, taken_snoc, Mark.attached?, Mark.taken?] using hcustody
      | failed failure =>
          obtain rfl := Option.some.inj hnext
          exact h.failed failure
      | closed =>
          simp only [Life.next, Option.ite_none_right_eq_some] at hnext
          obtain ⟨⟨-, hheld⟩, hlife⟩ := hnext
          obtain rfl := Option.some.inj hlife
          exact h.closed hheld

theorem of_life : ∀ {marks : List Mark} {life : Life}, lifeAfter marks = some life →
    Law marks life := by
  intro marks
  induction marks using List.reverseRecOn with
  | nil =>
      intro life h
      obtain rfl := Option.some.inj h
      refine ⟨fun _ => rfl, rfl, ⟨?_, List.isChain_nil⟩, ?_, ?_, ?_, ?_⟩
      · intro first hfirst
        cases hfirst
      · intro l hl
        cases hl
      · intro l hl
        cases hl
      · intro l hl
        cases hl
      · intro hpublished
        cases hpublished
  | append_singleton marks m ih =>
      intro life h
      rw [lifeAfter_snoc] at h
      obtain ⟨before, hbefore, hnext⟩ := Option.bind_eq_some_iff.mp h
      exact (ih hbefore).next hnext

end Law

end Wyrmroot.Launching
