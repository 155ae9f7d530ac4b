import Mathlib.Data.List.Pairwise
import Wyrmroot.Rrc.Parsing
import Wyrmroot.Rrc.Product

/-!
# The closure of a product

What a product that was validated may start, and from which bytes: the observed
paths are the expected ones, these are the ones the manifest and the declared
dependencies of init name, and every path has one identity (`Closed`).
-/

namespace Wyrmroot.Rrc

open Outcome Std

/-! ## Loops and accessors -/

variable {α : Type}

theorem accessed_eq_ok {x : ManifestCheck α} {a : α} :
    accessed x = .ok a ↔ x = .ok a := by
  cases x <;> simp [accessed]

variable {l : List α}

theorem anyOf_eq_true {p : α → ProductCheck Bool} (h : anyOf p l = .ok true) :
    ∃ a ∈ l, p a = .ok true := by
  induction l with
  | nil => cases Outcome.ok.inj h
  | cons a rest ih =>
      obtain ⟨found, hfound, hrest⟩ := bind_eq_ok.mp h
      cases found with
      | true => exact ⟨a, List.mem_cons_self, hfound⟩
      | false =>
          obtain ⟨b, hb, hfound⟩ := ih hrest
          exact ⟨b, List.mem_cons_of_mem a hb, hfound⟩

theorem checkEach_eq_ok {check : α → ProductCheck Unit}
    (h : checkEach check l = .ok ()) : ∀ a ∈ l, check a = .ok () := by
  induction l with
  | nil => exact List.forall_mem_nil _
  | cons a rest ih =>
      obtain ⟨_, hfirst, hrest⟩ := bind_eq_ok.mp h
      exact List.forall_mem_cons.mpr ⟨hfirst, ih hrest⟩

theorem findRole_mem {id : RoleId} {role : Role} {roles : List Role}
    (h : Manifest.findRole id roles = .ok (some role)) : role ∈ roles := by
  induction roles with
  | nil => cases Outcome.ok.inj h
  | cons first rest ih =>
      obtain ⟨found, -, hrest⟩ := bind_eq_ok.mp h
      split_ifs at hrest
      · obtain rfl := Option.some.inj (Outcome.ok.inj hrest)
        exact List.mem_cons_self
      · exact List.mem_cons_of_mem _ (ih hrest)

/-! ## The expected closure -/

namespace Manifest

variable {m : Manifest} {edge : DependencyEdge}

theorem edgeDeclares_eq_true {owner : RoleId} {kind : ImmutableDependencyKind} {path : String}
    (h : edgeDeclares owner kind path edge = .ok true) :
    edge.targetPath = .ok (some path) := by
  obtain ⟨edgeOwner, -, h⟩ := bind_eq_ok.mp h
  split_ifs at h with howner
  · cases Outcome.ok.inj h
  · obtain ⟨target, htarget, h⟩ := bind_eq_ok.mp h
    split_ifs at h with hpath
    · cases Outcome.ok.inj h
    · obtain rfl := not_not.mp hpath
      exact accessed_eq_ok.mp htarget

/-- What an entry that passed is there for. -/
def Declared (m : Manifest) (entry : ExpectedClosureEntry) : Prop :=
  match entry.usage with
  | .systemInit => entry.path = initPath
  | .initDependency _ => True
  | .roleExecutable id => ∃ role ∈ m.roles, m.role id = .ok (some role) ∧ role.path = .ok entry.path ∧
      role.executableIdentity = .ok entry.identity.toList
  | .roleDependency _ _ => ∃ edge ∈ m.edges, edge.targetPath = .ok (some entry.path)

theorem checkUsage_eq_ok {entry : ExpectedClosureEntry} {count count' : Nat}
    (h : m.checkUsage entry count = .ok count') : m.Declared entry ∧
      (entry.usage ≠ .systemInit → count' = count) := by
  unfold checkUsage at h
  unfold Declared
  cases husage : entry.usage with
  | systemInit =>
      rw [husage] at h
      obtain ⟨_, hpath, -⟩ := bind_eq_ok.mp h
      exact ⟨not_not.mp (of_decide_eq_false (rejectIf_eq_ok.mp hpath)), fun h => absurd rfl h⟩
  | initDependency kind =>
      rw [husage] at h
      obtain ⟨_, -, hcount⟩ := bind_eq_ok.mp h
      exact ⟨trivial, fun _ => (Outcome.ok.inj hcount).symm⟩
  | roleExecutable id =>
      rw [husage] at h
      simp only [bind_eq_ok, accessed_eq_ok, okOr_eq_ok, rejectIf_eq_ok, decide_eq_false_iff_not,
        not_not, ne_eq, exists_const, Outcome.pure_eq, Outcome.ok.injEq] at h
      obtain ⟨_, hrole, role, rfl, path, hpath, rfl, identity, hidentity, rfl, hcount⟩ := h
      exact ⟨⟨role, findRole_mem hrole, hrole, hpath, hidentity⟩, fun _ => hcount.symm⟩
  | roleDependency owner kind =>
      rw [husage] at h
      simp only [bind_eq_ok, rejectIf_eq_ok, Bool.not_eq_false', exists_const, Outcome.pure_eq,
        Outcome.ok.injEq] at h
      obtain ⟨_, hany, rfl, hcount⟩ := h
      obtain ⟨edge, hedge, hdeclares⟩ := anyOf_eq_true hany
      exact ⟨⟨edge, hedge, edgeDeclares_eq_true hdeclares⟩, fun _ => hcount.symm⟩

theorem checkAllExpected_eq_ok {expected : List ExpectedClosureEntry} {scan scan' : ClosureScan}
    (h : m.checkAllExpected scan expected = .ok scan') :
    (∀ entry ∈ expected, m.Declared entry ∧ isZeroIdentity entry.identity.toList = false) ∧
      ((∀ entry ∈ expected, entry.usage ≠ .systemInit) → scan'.initCount = scan.initCount) := by
  induction expected generalizing scan with
  | nil =>
      obtain rfl := Outcome.ok.inj h
      exact ⟨List.forall_mem_nil _, fun _ => rfl⟩
  | cons entry rest ih =>
      obtain ⟨next, hturn, hrest⟩ := bind_eq_ok.mp h
      simp only [checkExpected, bind_eq_ok, rejectIf_eq_ok, exists_const, Outcome.pure_eq,
        Outcome.ok.injEq] at hturn
      obtain ⟨_, -, hzero, _, -, count, husage, rfl⟩ := hturn
      obtain ⟨hdeclared, hkept⟩ := checkUsage_eq_ok husage
      obtain ⟨hall, hcount⟩ := ih hrest
      refine ⟨List.forall_mem_cons.mpr ⟨⟨hdeclared, hzero⟩, hall⟩, fun hnone => ?_⟩
      obtain ⟨hfirst, hothers⟩ := List.forall_mem_cons.mp hnone
      exact (hcount hothers).trans (hkept hfirst)

/-- The path is one the manifest names, the one of init, or one that init is declared to need. -/
def Names (m : Manifest) (expected : List ExpectedClosureEntry) (path : String) : Prop :=
  path = initPath ∨ (∃ role ∈ m.roles, role.path = .ok path) ∨
    (∃ edge ∈ m.edges, edge.targetPath = .ok (some path)) ∨
      ∃ entry ∈ expected, ∃ kind, entry.usage = .initDependency kind ∧ entry.path = path

theorem names_of_declared {expected : List ExpectedClosureEntry} {entry : ExpectedClosureEntry}
    (hentry : entry ∈ expected) (h : m.Declared entry) : m.Names expected entry.path := by
  unfold Declared at h
  cases husage : entry.usage with
  | systemInit =>
      rw [husage] at h
      exact .inl h
  | initDependency kind => exact .inr (.inr (.inr ⟨entry, hentry, kind, husage, rfl⟩))
  | roleExecutable id =>
      rw [husage] at h
      obtain ⟨role, hrole, -, hpath, -⟩ := h
      exact .inr (.inl ⟨role, hrole, hpath⟩)
  | roleDependency owner kind =>
      rw [husage] at h
      exact .inr (.inr (.inl h))

theorem checkDependencyMaterial_eq_ok {expected : List ExpectedClosureEntry}
    {path : String} (htarget : edge.targetPath = .ok (some path))
    (h : checkDependencyMaterial expected edge = .ok ()) : ∃ entry ∈ expected, entry.path = path := by
  have hrun : checkDependencyMaterial expected edge = (do
      let kind ← okOr (ImmutableDependencyKind.fromManifest (← accessed edge.kind))
        .wrongClosureRoleDependency
      let owner ← accessed edge.owner
      rejectIf (!expected.any fun entry => entry.path = path && entry.usage = .roleDependency owner kind)
        .missingRoleDependencyMaterial) := by
    rw [checkDependencyMaterial, htarget]
    rfl
  rw [hrun] at h
  simp only [bind_eq_ok, rejectIf_eq_ok, Bool.not_eq_false', List.any_eq_true, Bool.and_eq_true,
    decide_eq_true_eq] at h
  obtain ⟨_, -, _, -, _, -, entry, hentry, heq, -⟩ := h
  exact ⟨entry, hentry, heq⟩

/-- What is found of an accepted expectation. -/
structure Expects (m : Manifest) (expected : List ExpectedClosureEntry) : Prop where
  paths : ∀ path, (∃ entry ∈ expected, entry.path = path) ↔ m.Names expected path
  nonzero : ∀ entry ∈ expected, isZeroIdentity entry.identity.toList = false
  executables : ∀ role ∈ m.roles, ∀ path, role.path = .ok path → ∃ id entry role', role.id = .ok id ∧
    entry ∈ expected ∧ entry.path = path ∧ m.role id = .ok (some role') ∧
      role'.executableIdentity = .ok entry.identity.toList

theorem validateExpectedClosure_eq_ok {expected : List ExpectedClosureEntry}
    (h : m.validateExpectedClosure expected = .ok ()) : m.Expects expected := by
  obtain ⟨scan, hscan, h⟩ := bind_eq_ok.mp h
  obtain ⟨_, hcount, h⟩ := bind_eq_ok.mp h
  obtain ⟨_, hroles, hedges⟩ := bind_eq_ok.mp h
  have hcount : scan.initCount = 1 := not_not.mp (of_decide_eq_false (rejectIf_eq_ok.mp hcount))
  obtain ⟨hall, hnone⟩ := checkAllExpected_eq_ok hscan
  have hmaterial : ∀ role ∈ m.roles, ∃ path id, role.path = .ok path ∧ role.id = .ok id ∧
      ∃ entry ∈ expected, entry.path = path ∧ entry.usage = .roleExecutable id := by
    intro role hrole
    have hcheck := checkEach_eq_ok hroles role hrole
    simp only [checkRoleMaterial, bind_eq_ok, accessed_eq_ok, rejectIf_eq_ok, Bool.not_eq_false',
      List.any_eq_true, Bool.and_eq_true, decide_eq_true_eq] at hcheck
    obtain ⟨path, hpath, id, hid, hexists⟩ := hcheck
    exact ⟨path, id, hpath, hid, hexists⟩
  refine ⟨fun path => ⟨?_, ?_⟩, fun entry hentry => (hall entry hentry).2, ?_⟩
  · rintro ⟨entry, hentry, rfl⟩
    exact names_of_declared hentry (hall entry hentry).1
  · rintro (rfl | ⟨role, hrole, hpath⟩ | ⟨edge, hedge, htarget⟩ | ⟨entry, hentry, -, -, hpath⟩)
    · -- the count of inits is one, so there is one
      by_contra habsent
      have hzero := hnone fun entry hentry husage => habsent ⟨entry, hentry, by
        have hdeclared := (hall entry hentry).1
        unfold Declared at hdeclared
        rwa [husage] at hdeclared⟩
      exact absurd (hcount.symm.trans hzero) (by decide)
    · obtain ⟨path', id, hpath', -, entry, hentry, heq, -⟩ := hmaterial role hrole
      exact ⟨entry, hentry, heq.trans (Outcome.ok.inj (hpath'.symm.trans hpath))⟩
    · have hcheck := checkEach_eq_ok hedges edge hedge
      obtain ⟨entry, hentry, heq⟩ := checkDependencyMaterial_eq_ok htarget hcheck
      exact ⟨entry, hentry, heq⟩
    · exact ⟨entry, hentry, hpath⟩
  · intro role hrole path hpath
    obtain ⟨path', id, hpath', hid, entry, hentry, heq, husage⟩ := hmaterial role hrole
    have hdeclared := (hall entry hentry).1
    unfold Declared at hdeclared
    rw [husage] at hdeclared
    obtain ⟨role', -, hfind, -, hidentity⟩ := hdeclared
    exact ⟨id, entry, role', hid, hentry, heq.trans (Outcome.ok.inj (hpath'.symm.trans hpath)), hfind,
      hidentity⟩

end Manifest

/-! ## The observed materials -/

/-- What is found of an accepted inventory. -/
structure Observes (expected : List ExpectedClosureEntry)
    (observed : List ObservedRetainedMaterial) : Prop where
  distinct : observed.Pairwise fun left right => left.path ≠ right.path
  retained : ∀ material ∈ observed, material.residence = .retainedBootfs
  nonzero : ∀ material ∈ observed, isZeroIdentity material.identity.toList = false
  declared : ∀ material ∈ observed, ∃ entry ∈ expected, entry.path = material.path

theorem checkObserved_eq_ok {expected : List ExpectedClosureEntry}
    {observed : List ObservedRetainedMaterial} {previous : Option (List UInt8)}
    (h : checkObserved expected previous observed = .ok ()) :
    Observes expected observed ∧ ∀ path, previous = some path → ∀ material ∈ observed,
      compare path (utf8 material.path) = .lt := by
  induction observed generalizing previous with
  | nil =>
      exact ⟨⟨.nil, List.forall_mem_nil _, List.forall_mem_nil _, List.forall_mem_nil _⟩,
        fun _ _ => List.forall_mem_nil _⟩
  | cons material rest ih =>
      simp only [checkObserved, bind_eq_ok, rejectIf_eq_ok, exists_const, Bool.not_eq_false',
        List.any_eq_true, decide_eq_true_eq, decide_eq_false_iff_not, not_not, ne_eq] at h
      obtain ⟨_, -, horder, hretained, hzero, hexpected, hrest⟩ := h
      obtain ⟨hobserves, hlater⟩ := ih hrest
      have hbehind := hlater _ rfl
      refine ⟨⟨List.pairwise_cons.mpr ⟨fun other hother heq => ?_, hobserves.distinct⟩,
        List.forall_mem_cons.mpr ⟨hretained, hobserves.retained⟩,
        List.forall_mem_cons.mpr ⟨hzero, hobserves.nonzero⟩,
        List.forall_mem_cons.mpr ⟨hexpected, hobserves.declared⟩⟩, ?_⟩
      · have hlt := hbehind other hother
        rw [heq, ReflOrd.compare_self] at hlt
        exact absurd hlt (by decide)
      · rintro path rfl
        have hfirst : compare path (utf8 material.path) = .lt := by
          rw [OrientedOrd.eq_swap, Ordering.swap_eq_lt]
          simpa [Ordering.isLE_eq_false] using horder
        exact List.forall_mem_cons.mpr
          ⟨hfirst, fun other hother => TransCmp.lt_trans hfirst (hbehind other hother)⟩

theorem Observes.unique {expected : List ExpectedClosureEntry}
    {observed : List ObservedRetainedMaterial} (h : Observes expected observed)
    {left right : ObservedRetainedMaterial} (hleft : left ∈ observed) (hright : right ∈ observed)
    (heq : left.path = right.path) : left = right := by
  by_contra hne
  have hsymm : Symm fun left right : ObservedRetainedMaterial => left.path ≠ right.path :=
    ⟨fun _ _ => Ne.symm⟩
  exact h.distinct.forall hleft hright hne heq

theorem checkMaterial_eq_ok {observed : List ObservedRetainedMaterial}
    {entry : ExpectedClosureEntry}
    (h : checkMaterial observed entry = .ok ()) :
    ∃ material ∈ observed, material.path = entry.path ∧ material.identity = entry.identity := by
  simp only [checkMaterial, bind_eq_ok, okOr_eq_ok, rejectIf_eq_ok, decide_eq_false_iff_not, not_not,
    ne_eq] at h
  obtain ⟨material, hfind, hidentity⟩ := h
  have hpath := List.find?_some hfind
  exact ⟨material, List.mem_of_find?_eq_some hfind, of_decide_eq_true hpath, hidentity⟩

/-! ## The product -/

/-- A role needs the path. -/
def Role.DependsOn (role : Role) (path : String) : Prop :=
  ∃ edges, role.edges = .ok edges ∧ ∃ edge ∈ edges, edge.targetPath = .ok (some path)

/-- What may be started is what was declared, from the bytes that were declared. -/
structure Closed (m : Manifest) (expected : List ExpectedClosureEntry)
    (observed : List ObservedRetainedMaterial) : Prop where
  observed_eq : ∀ path, path ∈ observed.map ObservedRetainedMaterial.path ↔
    path ∈ expected.map ExpectedClosureEntry.path
  expected_eq : ∀ path, path ∈ expected.map ExpectedClosureEntry.path ↔
    path = initPath ∨ (∃ role ∈ m.roles, role.path = .ok path) ∨
      (∃ role ∈ m.roles, role.DependsOn path) ∨
        ∃ entry ∈ expected, ∃ kind, entry.usage = .initDependency kind ∧ entry.path = path
  identity : ∀ material ∈ observed, isZeroIdentity material.identity.toList = false ∧
    (∀ entry ∈ expected, entry.path = material.path → entry.identity = material.identity) ∧
      ∀ role ∈ m.roles, role.path = .ok material.path →
        role.executableIdentity = .ok material.identity.toList
  retained : ∀ material ∈ observed, material.residence = .retainedBootfs

section Tables

variable {m : Manifest} {id : Nat → RoleId} {first : Nat → Nat}

theorem RoleTable.dependsOn_iff (ht : RoleTable m id first) (path : String) :
    (∃ role ∈ m.roles, role.DependsOn path) ↔
      ∃ edge ∈ m.edges, edge.targetPath = .ok (some path) := by
  constructor
  · rintro ⟨role, hrole, edges, hedges, edge, hedge, hpath⟩
    obtain ⟨i, hi, rfl⟩ := List.mem_map.mp hrole
    rw [List.mem_range] at hi
    obtain rfl := Outcome.ok.inj (hedges.symm.trans (ht.edges_eq hi))
    obtain ⟨k, hk, rfl⟩ := List.mem_map.mp hedge
    rw [List.mem_range'_1] at hk
    have hlast := ht.first_mono (i + 1) m.roleCount hi (Nat.le_refl _)
    rw [ht.first_last] at hlast
    refine ⟨m.edgeAt k, List.mem_map.mpr ⟨k, List.mem_range'_1.mpr ?_, rfl⟩, hpath⟩
    omega
  · rintro ⟨edge, hedge, hpath⟩
    obtain ⟨k, hk, rfl⟩ := List.mem_map.mp hedge
    rw [List.mem_range'_1] at hk
    obtain ⟨i, hi, hin⟩ := ht.exists_owner (by omega : k < m.edgeCount)
    refine ⟨m.roleAt i, List.mem_map.mpr ⟨i, List.mem_range.mpr hi, rfl⟩, _, ht.edges_eq hi, m.edgeAt k,
      List.mem_map.mpr ⟨k, List.mem_range'_1.mpr ?_, rfl⟩, hpath⟩
    omega

theorem RoleTable.role_self (ht : RoleTable m id first) {role role' : Role} {roleId : RoleId}
    (hrole : role ∈ m.roles) (hid : role.id = .ok roleId)
    (hfind : m.role roleId = .ok (some role')) :
    role' = role := by
  obtain ⟨i, hi, rfl⟩ := List.mem_map.mp hrole
  rw [List.mem_range] at hi
  obtain rfl := Outcome.ok.inj ((ht.ids i hi).symm.trans hid)
  rcases ht.role_eq (id i) with ⟨j, hj, hsame, hfind'⟩ | ⟨hnone, -⟩
  · obtain rfl := Option.some.inj (Outcome.ok.inj (hfind.symm.trans hfind'))
    rw [ht.id_inj hj hi hsame]
  · exact absurd rfl (hnone i hi)

theorem closed_of_checks (ht : RoleTable m id first) {expected : List ExpectedClosureEntry}
    {observed : List ObservedRetainedMaterial}
    (hexpected : m.validateExpectedClosure expected = .ok ())
    (hobserved : validateObservedMaterials expected observed = .ok ()) :
    Closed m expected observed := by
  have hexpects := Manifest.validateExpectedClosure_eq_ok hexpected
  obtain ⟨_, hinventory, hmaterials⟩ := bind_eq_ok.mp hobserved
  have hobserves := (checkObserved_eq_ok hinventory).1
  have hmaterial : ∀ entry ∈ expected, ∃ material ∈ observed, material.path = entry.path ∧
      material.identity = entry.identity :=
    fun entry hentry => checkMaterial_eq_ok (checkEach_eq_ok hmaterials entry hentry)
  have hidentity : ∀ material ∈ observed, ∀ entry ∈ expected, entry.path = material.path →
      entry.identity = material.identity := by
    intro material hobs entry hentry heq
    obtain ⟨other, hother, hpath, hsame⟩ := hmaterial entry hentry
    rw [← hsame, hobserves.unique hother hobs (hpath.trans heq)]
  refine ⟨fun path => ?_, fun path => ?_, fun material hobs =>
    ⟨hobserves.nonzero material hobs, hidentity material hobs, fun role hrole hpath => ?_⟩,
    hobserves.retained⟩
  · rw [List.mem_map, List.mem_map]
    constructor
    · rintro ⟨material, hobs, rfl⟩
      exact hobserves.declared material hobs
    · rintro ⟨entry, hentry, rfl⟩
      obtain ⟨material, hobs, hpath, -⟩ := hmaterial entry hentry
      exact ⟨material, hobs, hpath⟩
  · rw [List.mem_map, ht.dependsOn_iff]
    exact hexpects.paths path
  · obtain ⟨roleId, entry, role', hid, hentry, heq, hfind, hexecutable⟩ :=
      hexpects.executables role hrole _ hpath
    rw [ht.role_self hrole hid hfind, hidentity material hobs entry hentry heq] at hexecutable
    exact hexecutable

end Tables

/-- One of the products accepts the manifest with this closure and this inventory. -/
def Manifest.IsProduct (m : Manifest) (expected : List ExpectedClosureEntry)
    (observed : List ObservedRetainedMaterial) : Prop :=
  ∃ receipts, m.validateWyr1aProduct ⟨receipts, expected, observed⟩ = .ok () ∨
    m.validateWyr1bProduct ⟨receipts, expected, observed⟩ = .ok () ∨
      m.validateWyr1cProduct ⟨receipts, expected, observed⟩ = .ok () ∨
        m.validateR1Product ⟨receipts, expected, observed⟩ = .ok () ∨
          ∃ identity, m.validateWyr1eProduct ⟨⟨receipts, expected, observed⟩, identity⟩ = .ok ()

theorem Manifest.IsProduct.checks {m : Manifest} {expected : List ExpectedClosureEntry}
    {observed : List ObservedRetainedMaterial} (h : m.IsProduct expected observed) :
    m.validateExpectedClosure expected = .ok () ∧
      validateObservedMaterials expected observed = .ok () := by
  have hretained : ∀ {registryProfile devmgrProfile : StartupProfile} {receipts},
      m.validateRetainedProduct registryProfile devmgrProfile ⟨receipts, expected, observed⟩ = .ok () →
        m.validateExpectedClosure expected = .ok () ∧
          validateObservedMaterials expected observed = .ok () := by
    intro _ _ _ h
    obtain ⟨_, -, h⟩ := bind_eq_ok.mp h
    obtain ⟨_, -, h⟩ := bind_eq_ok.mp h
    obtain ⟨_, -, h⟩ := bind_eq_ok.mp h
    obtain ⟨_, hexpected, hobserved⟩ := bind_eq_ok.mp h
    exact ⟨hexpected, hobserved⟩
  obtain ⟨receipts, h | h | h | h | ⟨identity, h⟩⟩ := h
  · exact hretained h
  · exact hretained h
  · exact hretained h
  · exact hretained h
  · simp only [validateWyr1eProduct, bind_eq_ok] at h
    obtain ⟨_, -, _, -, _, -, _, -, _, -, _, -, _, -, _, -, _, hexpected, hobserved⟩ := h
    exact ⟨hexpected, hobserved⟩

/-- What parses, and is accepted as one of the five products, is closed. -/
theorem product_closed {bytes : List UInt8} {boot : Vector UInt8 32} {m : Manifest}
    {expected : List ExpectedClosureEntry} {observed : List ObservedRetainedMaterial}
    (hparse : Manifest.parseStructural bytes boot = .ok m) (h : m.IsProduct expected observed) :
    Closed m expected observed := by
  obtain ⟨_, -, -, -, hvalid⟩ := parseStructural_validated hparse
  obtain ⟨id, first, ht, -⟩ := hvalid.tables
  exact closed_of_checks ht h.checks.1 h.checks.2

/-! ## A product -/

namespace Sample

theorem parsed : Manifest.parseStructural manifest.bytes identity = .ok manifest := by
  rcases parseStructural_wellFormed wellFormed with ⟨hparse, -⟩ | ⟨-, a, hcycle⟩
  · exact hparse
  · exact absurd hcycle (acyclic a)

def expected : List ExpectedClosureEntry :=
  [⟨"a", identity, .roleExecutable .registryd⟩, ⟨"b", identity, .roleExecutable .devmgr⟩,
    ⟨"c", identity, .roleExecutable .uart16550d⟩, ⟨"cfg", identity, .initDependency .config⟩,
    ⟨"cfg", identity, .roleDependency .devmgr .config⟩, ⟨"d", identity, .roleExecutable .consoled⟩,
    ⟨"e", identity, .roleExecutable .wyrmsh⟩, ⟨initPath, identity, .systemInit⟩]

def observed : List ObservedRetainedMaterial :=
  (expected.map (·.path)).dedup.map fun path => ⟨path, identity, .retainedBootfs⟩

theorem isProduct : manifest.IsProduct expected observed :=
  ⟨⟨⟨identity, identity⟩, ⟨identity, identity⟩⟩, .inr (.inr (.inl (by decide +kernel)))⟩

end Sample

theorem sample_closed : Closed Sample.manifest Sample.expected Sample.observed :=
  product_closed Sample.parsed Sample.isProduct

end Wyrmroot.Rrc
