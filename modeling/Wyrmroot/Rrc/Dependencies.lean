import Wyrmroot.Lib.CycleSearch
import Wyrmroot.Rrc.Validation

/-!
# Cycles among the roles

`Ready m a b`: `a` waits for `b` to be ready. The search from each role works
on sets of roles in a word of 32 bits; over a validated manifest it is the
search of `Lib.Explore`, so it fails with `DependencyCycle` exactly when the
relation has a cycle (`validateAcyclicRoleDependencies_eq`).
-/

namespace Wyrmroot.Rrc

open Outcome Relation

/-- The graph of the role dependencies. -/
def Ready (m : Manifest) (a b : RoleId) : Prop :=
  ∃ edge < m.edgeCount, (m.edgeAt edge).owner = .ok a ∧ (m.edgeAt edge).kind = .ok .roleReady ∧
    (m.edgeAt edge).targetRole = .ok (some b)

/-- One of the edges has the target. -/
def Points (edges : List DependencyEdge) (b : RoleId) : Prop :=
  ∃ edge ∈ edges, edge.targetRole = .ok (some b)

/-! ## Roles as bits -/

theorem RoleId.toNat_pred_lt (role : RoleId) : role.toNat - 1 < 5 := by
  cases role <;> decide

variable {a b : RoleId}

theorem RoleId.toNat_pred_inj (h : a.toNat - 1 = b.toNat - 1) : a = b := by
  cases a <;> cases b <;> first | rfl | cases h

theorem RoleId.of_bit {j : Nat} (h : j < 5) :
    ∃ role, fromWire (UInt32.ofNat (j + 1)) = .ok role ∧ role.toNat - 1 = j := by
  obtain rfl | rfl | rfl | rfl | rfl : j = 0 ∨ j = 1 ∨ j = 2 ∨ j = 3 ∨ j = 4 := by omega
  · exact ⟨.registryd, rfl, rfl⟩
  · exact ⟨.devmgr, rfl, rfl⟩
  · exact ⟨.uart16550d, rfl, rfl⟩
  · exact ⟨.consoled, rfl, rfl⟩
  · exact ⟨.wyrmsh, rfl, rfl⟩

namespace Manifest

theorem getLsbD_roleBit {role : RoleId} {j : Nat} :
    (roleBit role).getLsbD j = true ↔ role.toNat - 1 = j := by
  have hlt := role.toNat_pred_lt
  rw [roleBit, Mask.getLsbD_bit, decide_eq_true_iff]
  constructor
  · exact fun h => h.2.symm
  · rintro rfl
    exact ⟨by omega, rfl⟩

theorem roleBit_inj : roleBit a = roleBit b ↔ a = b := by
  constructor
  · intro h
    refine RoleId.toNat_pred_inj ?_
    have hlt := a.toNat_pred_lt
    exact (Mask.bit_inj (by omega)).mp h
  · rintro rfl
    rfl

variable {x : BitVec 32}

theorem and_roleBit_eq_zero {role : RoleId} :
    x &&& roleBit role = 0 ↔ x.getLsbD (role.toNat - 1) = false := by
  have hlt := role.toNat_pred_lt
  exact Mask.and_bit_eq_zero (by omega)

/-- The roles of a word. -/
def members (x : BitVec 32) : Set RoleId := {role | x.getLsbD (role.toNat - 1) = true}

theorem mem_members {role : RoleId} :
    role ∈ members x ↔ x.getLsbD (role.toNat - 1) = true := Iff.rfl

theorem mem_members_clear {v w : RoleId} {bit : Nat} (h : v.toNat - 1 = bit) :
    w ∈ members (Mask.clear x bit) ↔ w ∈ members x ∧ w ≠ v := by
  subst h
  rw [mem_members, Mask.getLsbD_clear, Bool.and_eq_true, decide_eq_true_iff]
  exact and_congr_right fun _ => not_congr ⟨RoleId.toNat_pred_inj, fun heq => heq ▸ rfl⟩

theorem mem_members_or {v w : RoleId} :
    w ∈ members (x ||| roleBit v) ↔ w ∈ members x ∨ w = v := by
  rw [mem_members, BitVec.getLsbD_or, Bool.or_eq_true, getLsbD_roleBit]
  exact or_congr_right ⟨fun h => (RoleId.toNat_pred_inj h).symm, fun heq => heq ▸ rfl⟩

/-! ## The loops over the edges -/

variable {edges : List DependencyEdge}

theorem points_cons {edge : DependencyEdge} {rest : List DependencyEdge} :
    Points (edge :: rest) b ↔ edge.targetRole = .ok (some b) ∨ Points rest b := by
  constructor
  · rintro ⟨e, he, htarget⟩
    rcases List.mem_cons.mp he with rfl | he
    · exact .inl htarget
    · exact .inr ⟨e, he, htarget⟩
  · rintro (htarget | ⟨e, he, htarget⟩)
    · exact ⟨edge, List.mem_cons_self .., htarget⟩
    · exact ⟨e, List.mem_cons_of_mem _ he, htarget⟩

theorem targetBits_eq : ∀ frontier : BitVec 32, (∀ edge ∈ edges, ∃ t, edge.targetRole = .ok t) →
    ∃ frontier', targetBits frontier edges = .ok frontier' ∧ ∀ j, frontier'.getLsbD j = true ↔
      frontier.getLsbD j = true ∨ ∃ b, Points edges b ∧ b.toNat - 1 = j := by
  induction edges with
  | nil =>
      intro frontier _
      refine ⟨frontier, rfl, fun j => ⟨.inl, ?_⟩⟩
      rintro (hj | ⟨b, ⟨e, he, -⟩, -⟩)
      · exact hj
      · exact absurd he List.not_mem_nil
  | cons edge rest ih =>
      intro frontier htargets
      obtain ⟨t, ht⟩ := htargets edge (List.mem_cons_self ..)
      have hrest := fun e he => htargets e (List.mem_cons_of_mem _ he)
      rw [targetBits, ht, ok_bind]
      cases t with
      | none =>
          obtain ⟨frontier', hrun, hbits⟩ := ih frontier hrest
          refine ⟨frontier', hrun, fun j => ?_⟩
          simp only [hbits, points_cons, ht, Outcome.ok.injEq, reduceCtorEq, false_or]
      | some target =>
          obtain ⟨frontier', hrun, hbits⟩ := ih (frontier ||| roleBit target) hrest
          refine ⟨frontier', hrun, fun j => ?_⟩
          rw [hbits, BitVec.getLsbD_or, Bool.or_eq_true, getLsbD_roleBit]
          simp only [points_cons, ht, Outcome.ok.injEq, Option.some.injEq]
          constructor
          · rintro ((hj | hj) | ⟨b, hb, hj⟩)
            · exact .inl hj
            · exact .inr ⟨target, .inl rfl, hj⟩
            · exact .inr ⟨b, .inr hb, hj⟩
          · rintro (hj | ⟨b, rfl | hb, hj⟩)
            · exact .inl (.inl hj)
            · exact .inl (.inr hj)
            · exact .inr ⟨b, hb, hj⟩

/-- A way back to the start is a cycle; else the unseen targets are added. -/
theorem expand_eq (start : RoleId) (visited : BitVec 32) : ∀ frontier : BitVec 32,
    (∀ edge ∈ edges, ∃ t, edge.targetRole = .ok t) →
      Points edges start ∧
          expand (roleBit start) visited frontier edges = .err .dependencyCycle ∨
        ¬ Points edges start ∧ ∃ frontier',
          expand (roleBit start) visited frontier edges = .ok frontier' ∧
            ∀ j, frontier'.getLsbD j = true ↔ frontier.getLsbD j = true ∨
              ∃ b, Points edges b ∧ b.toNat - 1 = j ∧ visited.getLsbD j = false := by
  induction edges with
  | nil =>
      intro frontier _
      refine .inr ⟨?_, frontier, rfl, fun j => ⟨.inl, ?_⟩⟩
      · rintro ⟨e, he, -⟩
        exact absurd he List.not_mem_nil
      · rintro (hj | ⟨b, ⟨e, he, -⟩, -⟩)
        · exact hj
        · exact absurd he List.not_mem_nil
  | cons edge rest ih =>
      intro frontier htargets
      obtain ⟨t, ht⟩ := htargets edge (List.mem_cons_self ..)
      have hrest := fun e he => htargets e (List.mem_cons_of_mem _ he)
      rw [expand, ht, ok_bind]
      cases t with
      | none =>
          simp only [points_cons, ht, Outcome.ok.injEq, reduceCtorEq, false_or]
          exact ih frontier hrest
      | some target =>
          simp only [points_cons, ht, Outcome.ok.injEq, Option.some.injEq, roleBit_inj,
            and_roleBit_eq_zero]
          by_cases hback : target = start
          · rw [if_pos hback]
            exact .inl ⟨.inl hback, rfl⟩
          rw [if_neg hback]
          by_cases hseen : visited.getLsbD (target.toNat - 1) = false
          · rw [if_pos hseen]
            rcases ih (frontier ||| roleBit target) hrest with
              ⟨hpoints, hrun⟩ | ⟨hpoints, frontier', hrun, hbits⟩
            · exact .inl ⟨.inr hpoints, hrun⟩
            · refine .inr ⟨not_or.mpr ⟨hback, hpoints⟩, frontier', hrun, fun j => ?_⟩
              rw [hbits, BitVec.getLsbD_or, Bool.or_eq_true, getLsbD_roleBit]
              constructor
              · rintro ((hj | rfl) | ⟨b, hb, hj⟩)
                · exact .inl hj
                · exact .inr ⟨target, .inl rfl, rfl, hseen⟩
                · exact .inr ⟨b, .inr hb, hj⟩
              · rintro (hj | ⟨b, rfl | hb, hj, hnew⟩)
                · exact .inl (.inl hj)
                · exact .inl (.inr hj)
                · exact .inr ⟨b, hb, hj, hnew⟩
          · rw [if_neg hseen]
            rcases ih frontier hrest with
              ⟨hpoints, hrun⟩ | ⟨hpoints, frontier', hrun, hbits⟩
            · exact .inl ⟨.inr hpoints, hrun⟩
            · refine .inr ⟨not_or.mpr ⟨hback, hpoints⟩, frontier', hrun, fun j => ?_⟩
              rw [hbits]
              constructor
              · rintro (hj | ⟨b, hb, hj⟩)
                · exact .inl hj
                · exact .inr ⟨b, .inr hb, hj⟩
              · rintro (hj | ⟨b, rfl | hb, rfl, hnew⟩)
                · exact .inl hj
                · exact absurd hnew hseen
                · exact .inr ⟨b, hb, rfl, hnew⟩

theorem mem_edgesBetween {m : Manifest} {start stop : Nat} {edge : DependencyEdge} :
    edge ∈ m.edgesBetween start stop ↔ ∃ e, start ≤ e ∧ e < stop ∧ m.edgeAt e = edge := by
  rw [edgesBetween, List.mem_map]
  constructor
  · rintro ⟨e, he, rfl⟩
    obtain ⟨hle, hlt⟩ := List.mem_range'_1.mp he
    exact ⟨e, hle, by omega, rfl⟩
  · rintro ⟨e, hle, hlt, rfl⟩
    exact ⟨e, List.mem_range'_1.mpr ⟨hle, by omega⟩, rfl⟩

/-! ## The search -/

section Search

variable {m : Manifest} {id : Nat → RoleId} {first : Nat → Nat} {i : Nat}

theorem inside (ht : RoleTable m id first) {e : Nat} (hi : i < m.roleCount)
    (hlt : e < first (i + 1)) : e < m.edgeCount :=
  Nat.lt_of_lt_of_le hlt (ht.first_last ▸ ht.first_mono (i + 1) m.roleCount hi (Nat.le_refl _))

theorem targets_of_role (ht : RoleTable m id first) (he : EdgeTable m id first)
    (hi : i < m.roleCount) :
    ∀ edge ∈ m.edgesBetween (first i) (first (i + 1)), ∃ t, edge.targetRole = .ok t := by
  intro edge hedge
  obtain ⟨e, -, hlt, rfl⟩ := mem_edgesBetween.mp hedge
  obtain ⟨-, target, -, htarget, -⟩ := he.targets e (inside ht hi hlt)
  exact ⟨target, htarget⟩

theorem ready_iff (ht : RoleTable m id first) (he : EdgeTable m id first) (hi : i < m.roleCount) :
    Ready m (id i) b ↔ Points (m.edgesBetween (first i) (first (i + 1))) b := by
  constructor
  · rintro ⟨e, hlt, howner, -, htarget⟩
    obtain ⟨k, hk, hin, howner'⟩ := he.owners e hlt
    rw [howner] at howner'
    obtain rfl := ht.id_inj hi hk (Outcome.ok.inj howner')
    exact ⟨m.edgeAt e, mem_edgesBetween.mpr ⟨e, hin.1, hin.2, rfl⟩, htarget⟩
  · rintro ⟨edge, hedge, htarget⟩
    obtain ⟨e, hle, hlt, rfl⟩ := mem_edgesBetween.mp hedge
    have hcount := inside ht hi hlt
    obtain ⟨k, hk, hin, howner⟩ := he.owners e hcount
    obtain rfl := ht.owner_unique hi hk ⟨hle, hlt⟩ hin
    obtain ⟨kind, target, hkind, htarget', hready, -⟩ := he.targets e hcount
    rw [htarget] at htarget'
    have hsome : target.isSome = true := by rw [← Outcome.ok.inj htarget']; rfl
    exact ⟨e, hcount, howner, hready.mpr hsome ▸ hkind, htarget⟩

theorem known_of_ready (he : EdgeTable m id first) (h : Ready m a b) :
    ∃ i < m.roleCount, id i = b := by
  obtain ⟨e, hlt, -, -, htarget⟩ := h
  obtain ⟨-, target, -, htarget', -, hknown⟩ := he.targets e hlt
  rw [htarget] at htarget'
  exact hknown b (Outcome.ok.inj htarget').symm

/-- A word whose bits are roles of the manifest. -/
def Known (m : Manifest) (id : Nat → RoleId) (x : BitVec 32) : Prop :=
  ∀ j, x.getLsbD j = true → ∃ i < m.roleCount, (id i).toNat - 1 = j

/-- The search ends, and fails just when the start is on a cycle. -/
theorem search_eq (ht : RoleTable m id first) (he : EdgeTable m id first) {start : RoleId}
    (visited frontier : BitVec 32) : Known m id frontier →
      Explored (Ready m) start (members visited) (members frontier) →
        search m (roleBit start) visited frontier = .ok () ∧ ¬ TransGen (Ready m) start start ∨
          search m (roleBit start) visited frontier = .err .dependencyCycle ∧
            TransGen (Ready m) start start := by
  induction visited, frontier using search.induct (roleBit start) with
  | case1 visited =>
      intro _ hexplored
      refine .inl ⟨by rw [search, dif_pos rfl], hexplored.no_cycle fun role hrole => ?_⟩
      cases (BitVec.getLsbD_zero.symm.trans hrole : false = true)
  | case2 visited frontier hne bit hback =>
      intro hknown hexplored
      have hbit := Mask.getLsbD_trailingZeros hne
      refine .inr ⟨by rw [search, dif_neg hne]; exact if_pos hback, hexplored.frontier_reached _ ?_⟩
      have hlt := Mask.lt_of_getLsbD hbit
      have hstart : Mask.trailingZeros frontier = start.toNat - 1 := (Mask.bit_inj hlt).mp hback
      exact (congrArg frontier.getLsbD hstart).symm.trans hbit
  | case3 visited frontier hne bit hback hseen ih =>
      intro hknown hexplored
      obtain ⟨i, -, hi⟩ := hknown _ (Mask.getLsbD_trailingZeros hne)
      have hrun : search m (roleBit start) visited frontier =
          search m (roleBit start) visited (Mask.clear frontier bit) := by
        rw [search, dif_neg hne]
        exact (if_neg hback).trans (dif_pos hseen)
      rw [hrun]
      have hbit : Mask.bit 32 bit = roleBit (id i) := congrArg (Mask.bit 32) hi.symm
      have hmember : id i ∈ members visited := by
        rw [hbit, ne_eq, and_roleBit_eq_zero, Bool.not_eq_false] at hseen
        exact hseen
      refine ih (fun j hj => ?_) (hexplored.skip hmember (fun heq => hback ?_) fun w => ?_)
      · rw [Mask.getLsbD_clear, Bool.and_eq_true] at hj
        exact hknown j hj.1
      · rw [hbit, heq]
      · exact mem_members_clear hi
  | case4 visited frontier hne bit hback hnew ih =>
      intro hknown hexplored
      have hset := Mask.getLsbD_trailingZeros hne
      obtain ⟨i, hcount, hi⟩ := hknown _ hset
      have hbit : Mask.bit 32 bit = roleBit (id i) := congrArg (Mask.bit 32) hi.symm
      have hother : id i ≠ start := fun heq => hback (by rw [hbit, heq])
      have hrole : RoleId.fromWire (UInt32.ofNat (bit + 1)) = .ok (id i) := by
        obtain ⟨role, hwire, hrole⟩ := RoleId.of_bit (lt_of_eq_of_lt hi.symm (id i).toNat_pred_lt)
        rw [hwire, RoleId.toNat_pred_inj (hrole.trans hi.symm)]
      have hlookup : m.role (id i) = .ok (some (m.roleAt i)) := by
        rcases ht.role_eq (id i) with ⟨k, hk, hid, hfind⟩ | ⟨hnone, -⟩
        · rw [hfind, ht.id_inj hk hcount hid]
        · exact absurd rfl (hnone i hcount)
      have hrun : search m (roleBit start) visited frontier = (do
          let frontier ← expand (roleBit start) (visited ||| roleBit (id i))
            (Mask.clear frontier bit) (m.edgesBetween (first i) (first (i + 1)))
          search m (roleBit start) (visited ||| roleBit (id i)) frontier) := by
        rw [search, dif_neg hne]
        refine (if_neg hback).trans ((dif_neg hnew).trans ?_)
        rw [hrole, ok_bind, hlookup, ok_bind, okOr_some, ok_bind, ht.edges_eq hcount, ok_bind,
          ← hbit]
      rw [hrun]
      have hmember : id i ∈ members frontier := (congrArg frontier.getLsbD hi).trans hset
      rcases expand_eq start (visited ||| roleBit (id i)) (Mask.clear frontier bit)
        (targets_of_role ht he hcount) with
          ⟨hpoints, hexpand⟩ | ⟨hpoints, frontier', hexpand, hbits⟩
      · rw [hexpand]
        exact .inr ⟨rfl, hexplored.cycle hmember ((ready_iff ht he hcount).mpr hpoints)⟩
      · rw [hexpand, ok_bind, ← hbit]
        rw [← ready_iff ht he hcount] at hpoints
        refine ih frontier' (fun j hj => ?_) (hexplored.expand hmember hother hpoints (fun w => ?_)
          fun w => ?_)
        · rcases (hbits j).mp hj with hold | ⟨b, hb, rfl, -⟩
          · rw [Mask.getLsbD_clear, Bool.and_eq_true] at hold
            exact hknown j hold.1
          · obtain ⟨k, hk, rfl⟩ := known_of_ready he ((ready_iff ht he hcount).mpr hb)
            exact ⟨k, hk, rfl⟩
        · rw [hbit]
          exact mem_members_or
        · rw [mem_members, hbits, ← mem_members, mem_members_clear hi, ready_iff ht he hcount, hbit]
          refine or_congr_right ⟨?_, fun h => ⟨w, h.1, rfl, Bool.eq_false_iff.mpr h.2⟩⟩
          rintro ⟨b, hb, hsame, hunseen⟩
          obtain rfl := RoleId.toNat_pred_inj hsame
          exact ⟨hb, Bool.eq_false_iff.mp hunseen⟩

theorem searchFrom_cons (ht : RoleTable m id first) (he : EdgeTable m id first)
    (hi : i < m.roleCount) (rest : List Role) :
    m.searchFrom (m.roleAt i :: rest) = m.searchFrom rest ∧ ¬ TransGen (Ready m) (id i) (id i) ∨
      m.searchFrom (m.roleAt i :: rest) = .err .dependencyCycle ∧
        TransGen (Ready m) (id i) (id i) := by
  obtain ⟨frontier, htargets, hbits⟩ := targetBits_eq 0 (targets_of_role ht he hi)
  have hzero : ∀ j, (0 : BitVec 32).getLsbD j ≠ true := fun j h => by
    cases BitVec.getLsbD_zero.symm.trans h
  have hfrontier : ∀ w, w ∈ members frontier ↔ Ready m (id i) w := by
    intro w
    rw [mem_members, hbits, ready_iff ht he hi, or_iff_right (hzero _)]
    refine ⟨?_, fun h => ⟨w, h, rfl⟩⟩
    rintro ⟨b, hb, hsame⟩
    exact RoleId.toNat_pred_inj hsame ▸ hb
  have hvisited : members (roleBit (id i)) = {id i} := by
    ext w
    rw [mem_members, getLsbD_roleBit]
    exact ⟨fun h => (RoleId.toNat_pred_inj h).symm, fun h => by rw [Set.mem_singleton_iff.mp h]⟩
  have hknown : Known m id frontier := by
    intro j hj
    obtain ⟨b, hb, rfl⟩ := ((hbits j).mp hj).resolve_left (hzero j)
    obtain ⟨k, hk, rfl⟩ := known_of_ready he ((ready_iff ht he hi).mpr hb)
    exact ⟨k, hk, rfl⟩
  have hrun : m.searchFrom (m.roleAt i :: rest) = (do
      search m (roleBit (id i)) (roleBit (id i)) frontier
      m.searchFrom rest) := by
    rw [searchFrom, ht.ids i hi, ok_bind, ht.edges_eq hi, ok_bind, htargets, ok_bind]
  have hinit : Explored (Ready m) (id i) (members (roleBit (id i))) (members frontier) := by
    rw [hvisited]
    exact .init hfrontier
  rw [hrun]
  rcases search_eq ht he _ frontier hknown hinit with
    ⟨hsearch, hcycle⟩ | ⟨hsearch, hcycle⟩
  · rw [hsearch]
    exact .inl ⟨rfl, hcycle⟩
  · rw [hsearch]
    exact .inr ⟨rfl, hcycle⟩

theorem searchFrom_eq (ht : RoleTable m id first) (he : EdgeTable m id first) :
    ∀ count start, start + count = m.roleCount →
      m.searchFrom ((List.range' start count).map m.roleAt) = .ok () ∧
          (∀ i, start ≤ i → i < m.roleCount → ¬ TransGen (Ready m) (id i) (id i)) ∨
        m.searchFrom ((List.range' start count).map m.roleAt) = .err .dependencyCycle ∧
          ∃ i < m.roleCount, TransGen (Ready m) (id i) (id i) := by
  intro count
  induction count with
  | zero => exact fun start hcount => .inl ⟨rfl, fun i hle hlt => by omega⟩
  | succ count ih =>
      intro start hcount
      rw [List.range'_succ, List.map_cons]
      rcases searchFrom_cons ht he (i := start) (by omega) _ with
        ⟨hrun, hclear⟩ | ⟨hrun, hcycle⟩
      · rw [hrun]
        rcases ih (start + 1) (by omega) with ⟨hrest, hothers⟩ | hfound
        · refine .inl ⟨hrest, fun i hle hlt => ?_⟩
          by_cases hi : i = start
          · exact hi ▸ hclear
          · exact hothers i (by omega) hlt
        · exact .inr hfound
      · exact .inr ⟨hrun, start, by omega, hcycle⟩

end Search

theorem exists_of_transGen {m : Manifest} {id : Nat → RoleId} {first : Nat → Nat}
    (he : EdgeTable m id first) (h : TransGen (Ready m) a b) :
    ∃ i < m.roleCount, id i = a := by
  obtain ⟨c, ⟨e, hlt, howner, -⟩, -⟩ := TransGen.head'_iff.mp h
  obtain ⟨i, hi, -, howner'⟩ := he.owners e hlt
  rw [howner] at howner'
  exact ⟨i, hi, (Outcome.ok.inj howner').symm⟩

theorem validateAcyclicRoleDependencies_eq {m : Manifest} {stringBytes : Nat}
    (h : Validated m stringBytes) :
    m.validateAcyclicRoleDependencies = .ok () ∧ (∀ a, ¬ TransGen (Ready m) a a) ∨
      m.validateAcyclicRoleDependencies = .err .dependencyCycle ∧ ∃ a, TransGen (Ready m) a a := by
  obtain ⟨id, first, ht, he⟩ := h.tables
  rw [validateAcyclicRoleDependencies, roles, List.range_eq_range']
  rcases searchFrom_eq ht he m.roleCount 0 (Nat.zero_add _) with ⟨hrun, hclear⟩ | ⟨hrun, i, -, hcycle⟩
  · refine .inl ⟨hrun, fun a ha => ?_⟩
    obtain ⟨i, hi, rfl⟩ := exists_of_transGen he ha
    exact hclear i (Nat.zero_le _) hi ha
  · exact .inr ⟨hrun, id i, hcycle⟩

end Manifest

end Wyrmroot.Rrc
