import Wyrmroot.Rrc.Records

/-!
# A validated manifest

The turns of both loops put together. `RoleTable` and `EdgeTable` say what the
accessors find in a manifest that `check_records` has accepted: each in terms
of one function of the index, so that what validation itself looks up again
(`role`, `owner_for_edge`, the paths) is a search in a table.
-/

namespace Wyrmroot.Rrc

open Outcome
open Loader (checkedAdd_eq_some)

/-- The ids of the roles, and where the edges of each begin. -/
structure RoleTable (m : Manifest) (id : Nat → RoleId) (first : Nat → Nat) : Prop where
  ids : ∀ i < m.roleCount, (m.roleAt i).id = .ok (id i)
  increasing : ∀ i j, i < j → j < m.roleCount → (id i).toNat < (id j).toNat
  ranges : ∀ i < m.roleCount, (m.roleAt i).edgeRange = .ok (first i, first (i + 1))
  first_zero : first 0 = 0
  first_le : ∀ i < m.roleCount, first i ≤ first (i + 1)
  first_last : first m.roleCount = m.edgeCount
  total : ∀ i < m.roleCount, (m.roleAt i).Total

theorem increasing_of_step {f : Nat → Nat} {count : Nat}
    (h : ∀ i, i + 1 < count → f i < f (i + 1)) : ∀ i j, i < j → j < count → f i < f j := by
  intro i j hij hj
  induction j with
  | zero => omega
  | succ j ih =>
      by_cases hlast : i = j
      · exact hlast ▸ h j hj
      · exact (ih (by omega) (by omega)).trans (h j hj)

theorem RoleTable.of_turns {m : Manifest} {states : Nat → Manifest.RoleScan}
    (hstart : states 0 = ⟨0, 0, none⟩)
    (hturns : ∀ i < m.roleCount, RoleTurn m i (states i) (states (i + 1)))
    (hlast : (states m.roleCount).expectedFirstEdge = m.edgeCount) :
    RoleTable m (fun i => (states (i + 1)).previousRoleId.getD .registryd)
      (fun i => (states i).expectedFirstEdge) := by
  have hids : ∀ i < m.roleCount,
      (states (i + 1)).previousRoleId = some ((states (i + 1)).previousRoleId.getD .registryd) ∧
        (m.roleAt i).id = .ok ((states (i + 1)).previousRoleId.getD .registryd) := by
    intro i hi
    obtain ⟨id, hid, hprevious, -⟩ := (hturns i hi).id
    rw [hprevious]
    exact ⟨rfl, hid⟩
  refine ⟨fun i hi => (hids i hi).2, increasing_of_step fun i hi => ?_, fun i hi => (hturns i hi).range,
    by rw [hstart], fun i hi => (hturns i hi).ordered, hlast, fun i hi => (hturns i hi).total⟩
  obtain ⟨id, -, hprevious, hlt⟩ := (hturns (i + 1) hi).id
  rw [hprevious]
  exact hlt _ (hids i (by omega)).1

namespace RoleTable

variable {m : Manifest} {id : Nat → RoleId} {first : Nat → Nat}

theorem first_mono (h : RoleTable m id first) : ∀ i j, i ≤ j → j ≤ m.roleCount →
    first i ≤ first j := by
  intro i j hij hj
  induction j with
  | zero => exact (Nat.le_zero.mp hij) ▸ Nat.le_refl _
  | succ j ih =>
      by_cases hlast : i = j + 1
      · exact hlast ▸ Nat.le_refl _
      · exact (ih (by omega) (by omega)).trans (h.first_le j hj)

variable {edge : Nat}

theorem exists_owner (h : RoleTable m id first) (hedge : edge < m.edgeCount) :
    ∃ i < m.roleCount, first i ≤ edge ∧ edge < first (i + 1) := by
  have hfind : ∀ count ≤ m.roleCount, edge < first count →
      ∃ i < count, first i ≤ edge ∧ edge < first (i + 1) := by
    intro count
    induction count with
    | zero =>
        intro _ hlt
        rw [h.first_zero] at hlt
        omega
    | succ count ih =>
        intro hcount hlt
        by_cases hle : first count ≤ edge
        · exact ⟨count, Nat.lt_succ_self _, hle, hlt⟩
        · obtain ⟨i, hi, howner⟩ := ih (by omega) (Nat.not_le.mp hle)
          exact ⟨i, by omega, howner⟩
  exact hfind m.roleCount (Nat.le_refl _) (h.first_last.symm ▸ hedge)

variable {i : Nat}

theorem owner_unique (h : RoleTable m id first) {j : Nat} (hi : i < m.roleCount)
    (hj : j < m.roleCount) (hin : first i ≤ edge ∧ edge < first (i + 1))
    (hin' : first j ≤ edge ∧ edge < first (j + 1)) : i = j := by
  by_contra hne
  rcases Nat.lt_or_gt_of_ne hne with hlt | hlt
  · have hle := h.first_mono (i + 1) j hlt (Nat.le_of_lt hj)
    omega
  · have hle := h.first_mono (j + 1) i hlt (Nat.le_of_lt hi)
    omega

theorem id_inj (h : RoleTable m id first) {j : Nat} (hi : i < m.roleCount) (hj : j < m.roleCount)
    (heq : id i = id j) : i = j := by
  by_contra hne
  rcases Nat.lt_or_gt_of_ne hne with hlt | hlt
  · have hids := h.increasing i j hlt hj
    rw [heq] at hids
    omega
  · have hids := h.increasing j i hlt hi
    rw [heq] at hids
    omega

theorem findRole_range (h : RoleTable m id first) {role : RoleId} : ∀ count start,
    start + count = m.roleCount →
      ((∃ i, start ≤ i ∧ i < m.roleCount ∧ id i = role ∧
          Manifest.findRole role ((List.range' start count).map m.roleAt) = .ok (some (m.roleAt i))) ∨
        (∀ i, start ≤ i → i < m.roleCount → id i ≠ role) ∧
          Manifest.findRole role ((List.range' start count).map m.roleAt) = .ok none) := by
  intro count
  induction count with
  | zero => exact fun start hcount => .inr ⟨fun i hle hlt => by omega, rfl⟩
  | succ count ih =>
      intro start hcount
      have hhead := h.ids start (by omega)
      rw [List.range'_succ, List.map_cons, Manifest.findRole, hhead, ok_bind]
      by_cases hrole : id start = role
      · rw [if_pos hrole]
        exact .inl ⟨start, Nat.le_refl _, by omega, hrole, rfl⟩
      · rw [if_neg hrole]
        rcases ih (start + 1) (by omega) with ⟨i, hle, hlt, hid, hfind⟩ | ⟨hnone, hfind⟩
        · exact .inl ⟨i, by omega, hlt, hid, hfind⟩
        · refine .inr ⟨fun i hle hlt => ?_, hfind⟩
          by_cases hi : i = start
          · exact hi ▸ hrole
          · exact hnone i (by omega) hlt

theorem role_eq (h : RoleTable m id first) (role : RoleId) :
    (∃ i < m.roleCount, id i = role ∧ m.role role = .ok (some (m.roleAt i))) ∨
      (∀ i < m.roleCount, id i ≠ role) ∧ m.role role = .ok none := by
  rw [Manifest.role, Manifest.roles, List.range_eq_range']
  rcases h.findRole_range m.roleCount 0 (Nat.zero_add _) with ⟨i, -, hi, hid, hfind⟩ | ⟨hnone, hfind⟩
  · exact .inl ⟨i, hi, hid, hfind⟩
  · exact .inr ⟨fun i hi => hnone i (Nat.zero_le _) hi, hfind⟩

theorem findOwner_range (h : RoleTable m id first) (hi : i < m.roleCount)
    (hin : first i ≤ edge ∧ edge < first (i + 1)) : ∀ count start, start + count = m.roleCount →
      start ≤ i → Manifest.findOwner edge ((List.range' start count).map m.roleAt) = .ok (id i) := by
  intro count
  induction count with
  | zero => exact fun start hcount hle => by omega
  | succ count ih =>
      intro start hcount hle
      have hstart : start < m.roleCount := by omega
      rw [List.range'_succ, List.map_cons, Manifest.findOwner, h.ranges start hstart, ok_bind]
      show (if first start ≤ edge ∧ edge < first (start + 1) then (m.roleAt start).id else _) = _
      by_cases hhere : first start ≤ edge ∧ edge < first (start + 1)
      · rw [if_pos hhere, h.owner_unique hstart hi hhere hin]
        exact h.ids i hi
      · rw [if_neg hhere]
        refine ih (start + 1) (by omega) ?_
        by_contra hlt
        obtain rfl : start = i := by omega
        exact hhere hin

theorem ownerForEdge_eq (h : RoleTable m id first) (hi : i < m.roleCount)
    (hin : first i ≤ edge ∧ edge < first (i + 1)) : m.ownerForEdge edge = .ok (id i) := by
  rw [Manifest.ownerForEdge, Manifest.roles, List.range_eq_range']
  exact h.findOwner_range hi hin m.roleCount 0 (Nat.zero_add _) (Nat.zero_le _)

theorem edges_eq (h : RoleTable m id first) (hi : i < m.roleCount) :
    (m.roleAt i).edges = .ok (m.edgesBetween (first i) (first (i + 1))) := by
  rw [Role.edges, h.ranges i hi]
  rfl

theorem checkPaths_yields (h : RoleTable m id first) :
    Yields m.checkPaths fun _ => ∀ left right path path', left < right → right < m.roleCount →
      (m.roleAt left).path = .ok path → (m.roleAt right).path = .ok path' → path ≠ path' := by
  have hpair : ∀ left right, left < m.roleCount → right < m.roleCount →
      Yields (m.checkPathPair left right) fun _ => ∀ path path',
        (m.roleAt left).path = .ok path → (m.roleAt right).path = .ok path' → path ≠ path' := by
    intro left right hleft hright
    obtain ⟨p, hp⟩ := (h.total left hleft).path
    obtain ⟨q, hq⟩ := (h.total right hright).path
    rw [Manifest.checkPathPair, hp, ok_bind, hq, ok_bind]
    refine (Yields.rejectIf _ _).mono fun _ hdiffer path path' hpath hpath' heq => ?_
    obtain rfl := Outcome.ok.inj hpath
    obtain rfl := Outcome.ok.inj hpath'
    exact of_decide_eq_false hdiffer (congrArg utf8 heq)
  refine Yields.mono (Yields.forRange (T := fun left _ _ => ∀ right path path', left < right →
    right < m.roleCount → (m.roleAt left).path = .ok path → (m.roleAt right).path = .ok path' →
      path ≠ path') fun left _ _ hleft => ?_) ?_
  · rw [Nat.zero_add] at hleft
    refine Yields.mono (Yields.forRange (T := fun right _ _ => ∀ path path',
      (m.roleAt left).path = .ok path → (m.roleAt right).path = .ok path' → path ≠ path')
        fun right _ _ hright => ?_) ?_
    · exact hpair left right hleft (by omega)
    · rintro _ ⟨_, -, -, hturns⟩ right path path' hlt hright
      exact hturns right hlt (by omega) path path'
  · rintro _ ⟨_, -, -, hturns⟩ left right path path' hlt hright
    exact hturns left (Nat.zero_le _) (by omega) right path path' hlt hright

end RoleTable

/-! ## The edges -/

/-- What a turn of the loop over the edges has seen. -/
structure EdgeTurn (m : Manifest) (id : Nat → RoleId) (first : Nat → Nat) (index : Nat)
    (scan scan' : Manifest.EdgeScan) : Prop where
  owner : ∃ i < m.roleCount, (first i ≤ index ∧ index < first (i + 1)) ∧
    (m.edgeAt index).owner = .ok (id i)
  target : ∃ kind target, (m.edgeAt index).kind = .ok kind ∧
    (m.edgeAt index).targetRole = .ok target ∧ (kind = .roleReady ↔ target.isSome = true) ∧
      ∀ role, target = some role → ∃ i < m.roleCount, id i = role
  path : ∃ path, (m.edgeAt index).targetPath = .ok path
  spans : ∃ spans, (m.edgeAt index).spans = .ok spans ∧
    Tiles scan.stringCursor spans scan'.stringCursor

namespace Manifest

variable {m : Manifest} {id : Nat → RoleId} {first : Nat → Nat} {stringBytes : Nat}

theorem checkTarget_yields (hm : Sized m stringBytes) (ht : RoleTable m id first)
    (cursor : Nat) (kind : DependencyKind) (raw : UInt32) (offset len : Nat) :
    Yields (m.checkTarget stringBytes cursor kind raw offset len) fun found =>
      if kind = .roleReady then raw ≠ 0 ∧ len = 0 ∧ found.2.2 = cursor ∧
        ∃ role, RoleId.fromWire raw = .ok role ∧ ∃ i < m.roleCount, id i = role
      else raw = 0 ∧ 0 < len ∧ found.2.2 = cursor + len ∧
        ∃ path, m.text offset len = .ok path := by
  unfold checkTarget
  refine .ite (fun hkind => ?_) fun hkind => ?_
  · simp only [if_pos hkind]
    refine (Yields.rejectIf _ _).bind fun _ hshape => ?_
    obtain ⟨hraw, hlen⟩ := Bool.or_eq_false_iff.mp hshape
    refine (Yields.self (RoleId.fromWire_ne_panic raw)).bind fun role hrole => ?_
    rcases ht.role_eq role with ⟨i, hi, hid, hfind⟩ | ⟨-, hfind⟩
    · rw [hfind]
      exact .ok ⟨of_decide_eq_false hraw, not_not.mp (of_decide_eq_false hlen), rfl, role, hrole, i,
        hi, hid⟩
    · rw [hfind]
      exact .err _
  · simp only [if_neg hkind]
    refine (Yields.rejectIf _ _).bind fun _ hshape => ?_
    obtain ⟨hraw, hlen⟩ := Bool.or_eq_false_iff.mp hshape
    rw [Bool.not_eq_false', Bool.and_eq_true, decide_eq_true_eq] at hlen
    refine (string_yields hm offset len).bind fun part hpart => ?_
    refine (Yields.okOr _ _).bind fun path hpath => (archivePath_yields _).bind fun _ _ => ?_
    refine (Yields.okOr _ _).bind fun cursor' hcursor => .ok ?_
    obtain ⟨-, rfl⟩ := checkedAdd_eq_some.mp hcursor
    exact ⟨not_not.mp (of_decide_eq_false hraw), hlen.1, rfl, path, text_ok hpart hpath⟩

theorem checkEdge_yields (hm : Sized m stringBytes) (ht : RoleTable m id first) {index : Nat}
    (hindex : index < m.edgeCount) (scan : EdgeScan) :
    Yields (m.checkEdge stringBytes index scan) (EdgeTurn m id first index scan) := by
  unfold checkEdge
  obtain ⟨i, hi, hin⟩ := ht.exists_owner hindex
  refine (edgeBytes_yields hm hindex).bind fun record hrecord => ?_
  obtain ⟨hrecord, hlen⟩ := hrecord
  have hbytes : (m.edgeAt index).bytes = .ok record := hrecord
  refine (sliceAt_yields (by omega)).bind fun _ _ => (Yields.rejectIf _ _).bind fun _ _ => ?_
  refine (get32_yields (by omega)).bind fun w0 h0 => ?_
  refine (Yields.self (RoleId.fromWire_ne_panic w0)).bind fun owner howner => ?_
  rw [ht.ownerForEdge_eq hi hin, ok_bind]
  refine (Yields.rejectIf _ _).bind fun _ hsame => ?_
  obtain rfl : owner = id i := not_not.mp (of_decide_eq_false hsame)
  refine (get16_yields (by omega)).bind fun w4 h4 => ?_
  refine (Yields.self (DependencyKind.fromWire_ne_panic w4)).bind fun kind hkind => ?_
  refine (get16_yields (by omega)).bind fun _ _ => (Yields.rejectIf _ _).bind fun _ _ => ?_
  refine (get32_yields (by omega)).bind fun w8 h8 => ?_
  refine (get32_yields (by omega)).bind fun w12 h12 => (toUsize_yields _).bind ?_
  rintro _ rfl
  refine (get16_yields (by omega)).bind fun w16 h16 => (Yields.rejectIf _ _).bind fun _ hat => ?_
  have hat : w12.toNat = scan.stringCursor := not_not.mp (of_decide_eq_false hat)
  refine (checkTarget_yields hm ht _ kind w8 _ _).bind ?_
  rintro ⟨targetRole, targetPath, cursor⟩ hfound
  refine (Yields.rejectIf _ _).bind fun _ _ => .ok ?_
  have hkind' : (m.edgeAt index).kind = .ok kind := by
    rw [DependencyEdge.kind, hbytes, ok_bind, h4, ok_bind, hkind]
    rfl
  have howner' : (m.edgeAt index).owner = .ok (id i) := by
    rw [DependencyEdge.owner, hbytes, ok_bind, h0, ok_bind, howner]
    rfl
  have htarget : (m.edgeAt index).targetRole =
      if w8 = 0 then pure none else some <$> expect (RoleId.fromWire w8) := by
    rw [DependencyEdge.targetRole, hbytes, ok_bind, h8]
    rfl
  have hpath : (m.edgeAt index).targetPath =
      if w16.toNat = 0 then pure none else some <$> m.text w12.toNat w16.toNat := by
    rw [DependencyEdge.targetPath, hbytes, ok_bind, h16, ok_bind, h12]
    rfl
  have hspans : (m.edgeAt index).spans =
      if w16.toNat = 0 then pure [] else pure [(w12.toNat, w16.toNat)] := by
    rw [DependencyEdge.spans, hbytes, ok_bind, h16, ok_bind, h12]
    rfl
  by_cases hready : kind = .roleReady
  · rw [if_pos hready] at hfound
    obtain ⟨hraw, hzero, hcursor, role, hrole, hexists⟩ := hfound
    rw [if_neg hraw, hrole] at htarget
    rw [if_pos hzero] at hpath hspans
    refine ⟨⟨i, hi, hin, howner'⟩, ⟨kind, some role, hkind', htarget, iff_of_true hready rfl, ?_⟩,
      ⟨none, hpath⟩, ⟨[], hspans, hcursor.symm⟩⟩
    rintro _ ⟨⟩
    exact hexists
  · rw [if_neg hready] at hfound
    obtain ⟨hraw, hpositive, hcursor, path, htext⟩ := hfound
    rw [if_pos hraw] at htarget
    rw [if_neg hpositive.ne', htext] at hpath
    rw [if_neg hpositive.ne'] at hspans
    refine ⟨⟨i, hi, hin, howner'⟩, ⟨kind, none, hkind', htarget, ?_, ?_⟩, ⟨some path, hpath⟩,
      ⟨_, hspans, hat, hpositive, hcursor.symm⟩⟩
    · exact iff_of_false hready Bool.false_ne_true
    · rintro _ ⟨⟩

end Manifest

/-- What the accessors of the edges find. -/
structure EdgeTable (m : Manifest) (id : Nat → RoleId) (first : Nat → Nat) : Prop where
  owners : ∀ edge < m.edgeCount, ∃ i < m.roleCount, (first i ≤ edge ∧ edge < first (i + 1)) ∧
    (m.edgeAt edge).owner = .ok (id i)
  targets : ∀ edge < m.edgeCount, ∃ kind target, (m.edgeAt edge).kind = .ok kind ∧
    (m.edgeAt edge).targetRole = .ok target ∧ (kind = .roleReady ↔ target.isSome = true) ∧
      ∀ role, target = some role → ∃ i < m.roleCount, id i = role
  paths : ∀ edge < m.edgeCount, ∃ path, (m.edgeAt edge).targetPath = .ok path

/-- What all of them produce, in order. -/
def gather {α β : Type} (f : α → ManifestCheck (List β)) : List α → ManifestCheck (List β)
  | [] => pure []
  | a :: rest => do
      let here ← f a
      let others ← gather f rest
      pure (here ++ others)

theorem gather_tiles {α : Type} {f : α → ManifestCheck (List (Nat × Nat))} {g : Nat → α}
    {cursor : Nat → Nat} : ∀ count start, (∀ i, start ≤ i → i < start + count →
      ∃ spans, f (g i) = .ok spans ∧ Tiles (cursor i) spans (cursor (i + 1))) →
        ∃ spans, gather f ((List.range' start count).map g) = .ok spans ∧
          Tiles (cursor start) spans (cursor (start + count)) := by
  intro count
  induction count with
  | zero => exact fun start _ => ⟨[], rfl, rfl⟩
  | succ count ih =>
      intro start h
      obtain ⟨here, hhere, htiles⟩ := h start (Nat.le_refl _) (by omega)
      obtain ⟨others, hothers, htiles'⟩ := ih (start + 1) fun i hle hlt => h i (by omega) (by omega)
      have hstop : start + 1 + count = start + (count + 1) := by omega
      refine ⟨here ++ others, ?_, htiles.append (hstop ▸ htiles')⟩
      rw [List.range'_succ, List.map_cons, gather, hhere, ok_bind, hothers]
      rfl

namespace Manifest

/-- All strings the records refer to, in the order of the records. -/
def spans (self : Manifest) : ManifestCheck (List (Nat × Nat)) := do
  let roleSpans ← gather Role.spans self.roles
  let edgeSpans ← gather DependencyEdge.spans self.edges
  pure (roleSpans ++ edgeSpans)

end Manifest

/-- A manifest whose records are as they have to be, cycles apart. -/
structure Validated (m : Manifest) (stringBytes : Nat) : Prop where
  tables : ∃ id first, RoleTable m id first ∧ EdgeTable m id first
  paths : ∀ left right path path', left < right → right < m.roleCount →
    (m.roleAt left).path = .ok path → (m.roleAt right).path = .ok path' → path ≠ path'
  strings : ∃ spans, m.spans = .ok spans ∧ Tiles 0 spans stringBytes

namespace Manifest

theorem checkRecords_yields {m : Manifest} {stringBytes : Nat} (hm : Sized m stringBytes) :
    Yields (m.checkRecords stringBytes) fun _ => Validated m stringBytes := by
  unfold checkRecords
  refine (Yields.forRange fun i scan _ hi =>
    checkRole_yields hm (by rwa [Nat.zero_add] at hi) scan).bind ?_
  rintro _ ⟨states, hstart, rfl, hturns⟩
  rw [Nat.zero_add] at hturns
  refine (Yields.rejectIf _ _).bind fun _ hlast => ?_
  rw [Nat.zero_add] at hlast
  have hlast : (states m.roleCount).expectedFirstEdge = m.edgeCount :=
    not_not.mp (of_decide_eq_false hlast)
  have htable := RoleTable.of_turns hstart (fun i hi => hturns i (Nat.zero_le _) hi) hlast
  refine htable.checkPaths_yields.bind fun _ hpaths => ?_
  refine (Yields.forRange fun edge scan _ hedge =>
    checkEdge_yields hm htable (by rwa [Nat.zero_add] at hedge) scan).bind ?_
  rintro _ ⟨scans, hfrom, rfl, hedges⟩
  rw [Nat.zero_add] at hedges
  refine (Yields.rejectIf _ _).mono fun _ hcursor => ?_
  rw [Nat.zero_add] at hcursor
  have hcursor : (scans m.edgeCount).stringCursor = stringBytes :=
    not_not.mp (of_decide_eq_false hcursor)
  refine ⟨⟨_, _, htable, fun e he => (hedges e (Nat.zero_le _) he).owner,
    fun e he => (hedges e (Nat.zero_le _) he).target, fun e he => (hedges e (Nat.zero_le _) he).path⟩,
    hpaths, ?_⟩
  obtain ⟨roleSpans, hroleSpans, htiles⟩ := gather_tiles (f := Role.spans) (g := m.roleAt)
    m.roleCount 0 fun i _ hi => (hturns i (Nat.zero_le _) (by omega)).spans
  obtain ⟨edgeSpans, hedgeSpans, htiles'⟩ := gather_tiles (f := DependencyEdge.spans)
    (g := m.edgeAt) m.edgeCount 0 fun i _ hi => (hedges i (Nat.zero_le _) (by omega)).spans
  rw [Nat.zero_add] at htiles htiles'
  refine ⟨roleSpans ++ edgeSpans, ?_, ?_⟩
  · rw [spans, roles, List.range_eq_range', hroleSpans, ok_bind, edges, edgesBetween, Nat.sub_zero,
      hedgeSpans]
    rfl
  · have hmiddle : (scans 0).stringCursor = (states m.roleCount).stringCursor := by
      rw [hfrom, Nat.zero_add]
    have hzero : (states 0).stringCursor = 0 := by rw [hstart]
    refine Tiles.append (hzero ▸ htiles) ?_
    rw [← hmiddle, ← hcursor]
    exact htiles'

end Manifest

end Wyrmroot.Rrc
