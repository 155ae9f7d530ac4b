import Mathlib.Data.List.ReduceOption
import Wyrmroot.Lib.Layout
import Wyrmroot.Lib.Region
import Wyrmroot.Device.Manifest

/-!
# The text of a manifest

A manifest is one text: the header with the number of records, and the records.
`parse` accepts the texts of good records and reads these back (`parse_eq_ok`),
so a manifest has one text, and `encodeCom2Manifest` writes that of the one role
that `matchCom2` admits.
-/

namespace Wyrmroot.Device

open Outcome
open Loader (checkedAdd_eq_some)
open Startup (checkedMul_eq_some)

variable {bytes : List UInt8} {offset : Nat}

/-! ## Words -/

variable {n v : Nat}

theorem getLE_eq_ok : (getLE n bytes offset : ManifestParse Nat) = .ok v ↔
    Has bytes offset (leBytes n v) ∧ v < 256 ^ n := by
  rw [← readsLE_iff, getLE]
  cases slice bytes offset n with
  | none | some part => simp

theorem anyNonzero_eq_false {part : List UInt8} :
    anyNonzero part = false ↔ part = List.replicate part.length 0 := by
  rw [anyNonzero, List.any_eq_false, List.eq_replicate_iff]
  simp

theorem contentAt_eq_ok {content : ContentIdentity} :
    contentAt bytes offset = .ok content ↔ Has bytes offset content.toList := by
  rw [contentAt, bind_eq_ok]
  constructor
  · rintro ⟨part, hpart, hcontent⟩
    rw [sliceAt_eq_ok] at hpart
    rw [dif_pos hpart.2] at hcontent
    obtain rfl := Outcome.ok.inj hcontent
    exact hpart.1
  · intro h
    have hlen : content.toList.length = 32 := Vector.length_toList
    refine ⟨content.toList, sliceAt_eq_ok.mpr ⟨h, hlen⟩, ?_⟩
    rw [dif_pos hlen]
    exact congrArg Outcome.ok (Vector.toList_inj.mp rfl)

def Hardware.code : Hardware → Nat
  | .com1 => 1
  | .com2 => 2

def ResourceKind.code : ResourceKind → Nat
  | .pioInterrupt => 1

theorem Hardware.fromWire_eq_some {hardware : Hardware} :
    Hardware.fromWire v = some hardware ↔ hardware.code = v := by
  constructor
  · unfold Hardware.fromWire
    split
    · rintro ⟨⟩
      rfl
    · rintro ⟨⟩
      rfl
    · rintro ⟨⟩
  · rintro rfl
    cases hardware <;> rfl

theorem ResourceKind.fromWire_eq_some {kind : ResourceKind} :
    ResourceKind.fromWire v = some kind ↔ kind.code = v := by
  constructor
  · unfold ResourceKind.fromWire
    split
    · rintro ⟨⟩
      rfl
    · rintro ⟨⟩
  · rintro rfl
    cases kind
    rfl

/-! ## Records -/

/-- The port range in the space of ports. -/
def PioRange.region (self : PioRange) : Region := ⟨self.base, self.length⟩

/-- What a record needs to be in a manifest. -/
structure DeviceRole.Admissible (role : DeviceRole) : Prop where
  roleId : role.roleId ≠ 0 ∧ role.roleId < 256 ^ 8
  pio : 0 < role.pio.length ∧ role.pio.length < 256 ^ 2
  ports : role.pio.region.stop ≤ 0x10000
  irq : role.irq ≠ 0 ∧ role.irq < 256 ^ 4
  path : 0 < role.driverPath.length ∧ role.driverPath.length ≤ 64
  content : anyNonzero role.contentIdentity.toList = true
  metadataPolicy : role.metadataPolicy ≠ 0 ∧ role.metadataPolicy < 256 ^ 4

/-- Two records that a manifest may have both. -/
structure DeviceRole.Compatible (role other : DeviceRole) : Prop where
  roleId : role.roleId ≠ other.roleId
  irq : role.irq ≠ other.irq
  pio : role.pio.region.Apart other.pio.region

/-- A path and its padding. -/
def pathText (path : List UInt8) : List UInt8 := path ++ List.replicate (64 - path.length) 0

theorem length_pathText {path : List UInt8} (h : path.length ≤ 64) :
    (pathText path).length = 64 := by
  rw [pathText, List.length_append, List.length_replicate]
  omega

def recordText (role : DeviceRole) : List UInt8 :=
  leBytes 8 role.roleId ++ (leBytes 4 role.hardware.code ++ (leBytes 4 role.resourceKind.code ++
    (leBytes 2 role.pio.base ++ (leBytes 2 role.pio.length ++ (leBytes 4 role.irq ++
      (leBytes 2 role.driverPath.length ++ (leBytes 2 0 ++ (role.contentIdentity.toList ++
        (leBytes 4 role.metadataPolicy ++ (List.replicate 8 0 ++ (pathText role.driverPath ++
          List.replicate 8 0)))))))))))

theorem length_recordText {role : DeviceRole} (h : role.Admissible) :
    (recordText role).length = 144 := by
  simp [recordText, length_pathText h.path.2]

theorem path_iff {path : List UInt8} (hn : n ≤ 64) :
    (∃ field, slice bytes offset 64 = some field
      ∧ (∃ padding, (sliceFrom field n : ManifestParse _) = .ok padding ∧ anyNonzero padding = false)
      ∧ (sliceAt field 0 n : ManifestParse _) = .ok path)
    ↔ Has bytes offset (pathText path) ∧ path.length = n := by
  simp only [slice_eq_some_iff_has, sliceFrom_eq_ok, sliceAt_eq_ok, anyNonzero_eq_false]
  constructor
  · rintro ⟨field, ⟨hfield, hlen⟩, ⟨padding, ⟨hpadding, hend⟩, hzero⟩, hpath, hpathLen⟩
    have htext : field = pathText path := by
      refine has_whole.mp ⟨?_, ?_⟩
      · rw [pathText, has_append, hpathLen, Nat.zero_add]
        have hrest : 64 - n = padding.length := by omega
        rw [hrest, ← hzero]
        exact ⟨hpath, hpadding⟩
      · rw [length_pathText (hpathLen ▸ hn), hlen]
    exact ⟨htext ▸ hfield, hpathLen⟩
  · rintro ⟨h, rfl⟩
    have hinner := (@has_whole (pathText path) _).mpr rfl
    rw [pathText, has_append, Nat.zero_add] at hinner
    obtain ⟨⟨hpath, hpadding⟩, -⟩ := hinner
    refine ⟨pathText path, ⟨h, length_pathText hn⟩, ⟨_, ⟨hpadding, ?_⟩, ?_⟩, hpath, rfl⟩
    · rw [length_pathText hn, List.length_replicate]
      omega
    · rw [List.length_replicate]

theorem zeros_iff : (∃ part, (sliceAt bytes offset n : ManifestParse _) = .ok part
    ∧ anyNonzero part = false) ↔ Has bytes offset (List.replicate n 0) := by
  simp only [sliceAt_eq_ok, anyNonzero_eq_false]
  constructor
  · rintro ⟨part, ⟨hpart, rfl⟩, hzero⟩
    exact hzero ▸ hpart
  · intro h
    exact ⟨_, ⟨h, List.length_replicate⟩, by rw [List.length_replicate]⟩

theorem parseRecord_eq_ok {role : DeviceRole} : parseRecord bytes offset = .ok role ↔
    Has bytes offset (recordText role) ∧ role.Admissible := by
  simp only [parseRecord, maxDriverPathBytes, bind_eq_ok, getLE_eq_ok, rejectIf_eq_ok, okOr_eq_ok,
    contentAt_eq_ok, Hardware.fromWire_eq_some, ResourceKind.fromWire_eq_some, pure_eq,
    Outcome.ok.injEq, exists_const, decide_eq_false_iff_not, not_not, ne_eq, Nat.not_lt,
    Bool.not_eq_false']
  constructor
  · rintro ⟨roleId, ⟨h0, hid⟩, hidNe, _, ⟨h8, -⟩, hardware, rfl, _, ⟨h12, -⟩, kind, rfl, base,
      ⟨h16, -⟩, length, ⟨h18, hlengthLt⟩, hlength, hports, irq, ⟨h20, hirq⟩, hirqNe, pathLen,
      ⟨h24, -⟩, hpathNe, hpathLe, _, ⟨h26, -⟩, rfl, zeros, hzeros, hzero, zeros', hzeros', hzero',
      content, hcontent, hcontentNe, policy, ⟨h60, hpolicy⟩, hpolicyNe, field, hfield, padding,
      hpadding, hpad, path, hpath, rfl⟩
    have hn : pathLen ≤ 64 := Nat.not_lt.mp (of_decide_eq_false hpathLe)
    obtain ⟨h72, rfl⟩ := (path_iff hn).mp ⟨field, hfield, ⟨padding, hpadding, hpad⟩, hpath⟩
    have h64 := zeros_iff.mp ⟨zeros, hzeros, hzero⟩
    have h136 := zeros_iff.mp ⟨zeros', hzeros', hzero'⟩
    refine ⟨?_, ⟨hidNe, hid⟩, ⟨Nat.pos_of_ne_zero hlength, hlengthLt⟩, hports, ⟨hirqNe, hirq⟩,
      ⟨Nat.pos_of_ne_zero hpathNe, hn⟩, hcontentNe, ⟨hpolicyNe, hpolicy⟩⟩
    simp only [recordText, has_append, length_leBytes, Vector.length_toList,
      List.length_replicate, length_pathText hn, Nat.add_assoc, Nat.reduceAdd]
    exact ⟨h0, h8, h12, h16, h18, h20, h24, h26, hcontent, h60, h64, h72, h136⟩
  · intro ⟨htext, h⟩
    simp only [recordText, has_append, length_leBytes, Vector.length_toList,
      List.length_replicate, length_pathText h.path.2, Nat.add_assoc, Nat.reduceAdd] at htext
    obtain ⟨h0, h8, h12, h16, h18, h20, h24, h26, hcontent, h60, h64, h72, h136⟩ := htext
    obtain ⟨zeros, hzeros, hzero⟩ := zeros_iff.mpr h64
    obtain ⟨zeros', hzeros', hzero'⟩ := zeros_iff.mpr h136
    obtain ⟨field, hfield, ⟨padding, hpadding, hpad⟩, hpath⟩ := (path_iff h.path.2).mpr ⟨h72, rfl⟩
    have hbase : role.pio.base < 256 ^ 2 := by
      have hports := h.ports
      have hpos := h.pio.1
      unfold PioRange.region Region.stop at hports
      dsimp only at hports
      omega
    have hpathLen := h.path.2
    refine ⟨_, ⟨h0, h.roleId.2⟩, h.roleId.1, _, ⟨h8, ?_⟩, _, rfl, _, ⟨h12, ?_⟩, _, rfl, _,
      ⟨h16, hbase⟩, _, ⟨h18, h.pio.2⟩, Nat.ne_of_gt h.pio.1, h.ports, _, ⟨h20, h.irq.2⟩, h.irq.1, _,
      ⟨h24, by omega⟩, Nat.ne_of_gt h.path.1, decide_eq_false (by omega), _, ⟨h26, by decide⟩, rfl,
      zeros, hzeros, hzero, zeros', hzeros', hzero', _, hcontent, h.content, _,
      ⟨h60, h.metadataPolicy.2⟩, h.metadataPolicy.1, field, hfield, padding, hpadding, hpad, _, hpath,
      rfl⟩
    · cases role.hardware <;> decide
    · cases role.resourceKind
      decide

/-! ## The records of a manifest -/

/-- The first slots of the array, in order. -/
def slots (roles : List DeviceRole) : Records := Vector.ofFn fun i => roles[i.val]?

theorem slots_nil : slots [] = Vector.replicate maxRecords none := rfl

theorem reduceOption_slots {roles : List DeviceRole} (h : roles.length ≤ maxRecords) :
    (slots roles).toList.reduceOption = roles := by
  have hfour : (slots roles).toList = [roles[0]?, roles[1]?, roles[2]?, roles[3]?] := rfl
  rw [hfour]
  match roles, h with
  | [], _ => rfl
  | [_], _ => rfl
  | [_, _], _ => rfl
  | [_, _, _], _ => rfl
  | [_, _, _, _], _ => rfl

theorem slots_snoc {roles : List DeviceRole} (role : DeviceRole) (h : roles.length < maxRecords) :
    (slots roles).set roles.length (some role) h = slots (roles ++ [role]) := by
  refine Vector.ext fun i hi => ?_
  simp only [slots, Vector.getElem_set, Vector.getElem_ofFn]
  split_ifs with heq
  · subst heq
    simp
  · rcases Nat.lt_or_ge i roles.length with hlt | hge
    · rw [List.getElem?_append_left hlt]
    · rw [List.getElem?_eq_none hge, List.getElem?_eq_none]
      rw [List.length_append, List.length_singleton]
      omega

theorem meets_eq_false {pio other : PioRange} :
    pio.meets other = false ↔ pio.region.Apart other.region := by
  unfold PioRange.meets Region.Apart
  rw [List.any_eq_false, Set.disjoint_left]
  simp only [List.mem_range'_1, Bool.and_eq_true, decide_eq_true_eq, Region.mem_bytes]
  rfl

theorem checkPrevious_eq_ok {record previous : DeviceRole} {u : Unit} :
    checkPrevious record previous = .ok u ↔ previous.Compatible record := by
  simp only [checkPrevious, bind_eq_ok, rejectIf_eq_ok, exists_const, decide_eq_false_iff_not,
    meets_eq_false]
  exact ⟨fun h => ⟨h.1, h.2.1, h.2.2⟩, fun h => ⟨h.1, h.2, h.3⟩⟩

theorem admitRecord_eq_ok {roles : List DeviceRole} {records : Records}
    (h : roles.length < maxRecords) :
    admitRecord bytes (slots roles) roles.length = .ok records ↔
      ∃ role, Has bytes (32 + roles.length * 144) (recordText role) ∧ role.Admissible
        ∧ (∀ previous ∈ roles, previous.Compatible role) ∧ records = slots (roles ++ [role]) := by
  simp only [admitRecord, manifestHeaderBytes, manifestRecordBytes, bind_eq_ok, parseRecord_eq_ok,
    reduceOption_slots (Nat.le_of_lt h), dif_pos h, slots_snoc _ h, Outcome.ok.injEq]
  constructor
  · rintro ⟨role, ⟨htext, hrole⟩, _, hcompatible, rfl⟩
    refine ⟨role, htext, hrole, fun previous hprevious => ?_, rfl⟩
    exact checkPrevious_eq_ok.mp (forM_eq_ok.mp hcompatible previous hprevious)
  · rintro ⟨role, htext, hrole, hcompatible, rfl⟩
    refine ⟨role, ⟨htext, hrole⟩, (), forM_eq_ok.mpr fun previous hprevious => ?_, rfl⟩
    exact checkPrevious_eq_ok.mpr (hcompatible previous hprevious)

def recordsText (roles : List DeviceRole) : List UInt8 := (roles.map recordText).flatten

theorem length_recordsText {roles : List DeviceRole} (h : ∀ r ∈ roles, r.Admissible) :
    (recordsText roles).length = roles.length * 144 := by
  induction roles with
  | nil => rfl
  | cons role rest ih =>
      have hrest := ih fun r hr => h r (List.mem_cons_of_mem _ hr)
      have hrole := length_recordText (h role List.mem_cons_self)
      rw [recordsText] at hrest ⊢
      rw [List.map_cons, List.flatten_cons, List.length_append, hrole, hrest, List.length_cons]
      omega

/-- What is left of the loop, with `roles` in the first slots. -/
theorem admitRecords_eq_ok {records : Records} : ∀ {n : Nat} {roles : List DeviceRole},
    roles.length + n ≤ maxRecords → 32 + roles.length * 144 ≤ bytes.length →
    roles.Pairwise DeviceRole.Compatible →
      ((List.range' roles.length n).foldlM (admitRecord bytes) (slots roles) = .ok records ↔
        ∃ new, new.length = n ∧ Has bytes (32 + roles.length * 144) (recordsText new)
          ∧ (∀ r ∈ new, r.Admissible) ∧ (roles ++ new).Pairwise DeviceRole.Compatible
          ∧ records = slots (roles ++ new))
  | 0, roles, _, hfit, hpairwise => by
      have hnil : Has bytes (32 + roles.length * 144) (recordsText []) := slice_eq_some.mpr ⟨hfit, rfl⟩
      constructor
      · intro h
        obtain rfl := Outcome.ok.inj h
        exact ⟨[], rfl, hnil, List.forall_mem_nil _, by rwa [List.append_nil],
          by rw [List.append_nil]⟩
      · rintro ⟨new, hlen, -, -, -, rfl⟩
        obtain rfl := List.length_eq_zero_iff.mp hlen
        rw [List.append_nil]
        rfl
  | n + 1, roles, hroom, _, hpairwise => by
      rw [List.range'_succ, List.foldlM_cons, bind_eq_ok]
      simp only [admitRecord_eq_ok (show roles.length < maxRecords by omega)]
      have hsucc : ∀ role, (roles ++ [role]).length = roles.length + 1 := by simp
      have hoffset : 32 + (roles.length + 1) * 144 = 32 + roles.length * 144 + 144 := by omega
      constructor
      · rintro ⟨_, ⟨role, htext, hrole, hcompatible, rfl⟩, hrest⟩
        have hend := has_length htext
        rw [length_recordText hrole] at hend
        have hnext : (roles ++ [role]).Pairwise DeviceRole.Compatible := by
          refine List.pairwise_append.mpr ⟨hpairwise, List.pairwise_singleton _ _, ?_⟩
          intro previous hprevious r hr
          rw [List.mem_singleton.mp hr]
          exact hcompatible previous hprevious
        have ih := @admitRecords_eq_ok records n (roles ++ [role]) (by rw [hsucc]; omega)
          (by rw [hsucc]; omega) hnext
        rw [hsucc] at ih
        obtain ⟨new, rfl, hnew, hall, hpairs, rfl⟩ := ih.mp hrest
        rw [List.append_assoc, List.singleton_append] at hpairs ⊢
        refine ⟨role :: new, rfl, ?_, List.forall_mem_cons.mpr ⟨hrole, hall⟩, hpairs, rfl⟩
        rw [recordsText, List.map_cons, List.flatten_cons, has_append, length_recordText hrole]
        exact ⟨htext, hoffset ▸ hnew⟩
      · rintro ⟨new, hlen, htext, hall, hpairs, rfl⟩
        cases new with
        | nil => cases hlen
        | cons role new =>
            have hrole := hall role List.mem_cons_self
            rw [recordsText, List.map_cons, List.flatten_cons, has_append,
              length_recordText hrole] at htext
            have hend := has_length htext.1
            rw [length_recordText hrole] at hend
            have hassoc : roles ++ role :: new = roles ++ [role] ++ new := by simp
            rw [hassoc] at hpairs ⊢
            have hnext := (List.pairwise_append.mp hpairs).1
            have ih := @admitRecords_eq_ok (slots (roles ++ [role] ++ new)) n (roles ++ [role])
              (by rw [hsucc]; omega) (by rw [hsucc]; omega) hnext
            rw [hsucc] at ih
            refine ⟨_, ⟨role, htext.1, hrole, fun previous hprevious => ?_, rfl⟩, ih.mpr ⟨new,
              Nat.succ.inj hlen, hoffset ▸ htext.2, fun r hr => hall r (List.mem_cons_of_mem _ hr),
              hpairs, rfl⟩⟩
            exact (List.pairwise_append.mp hnext).2.2 previous hprevious role
              (List.mem_singleton_self _)

/-! ## The whole -/

/-- The roles of an accepted manifest. -/
structure Admitted (roles : List DeviceRole) : Prop where
  count : 0 < roles.length ∧ roles.length ≤ maxRecords
  admissible : ∀ r ∈ roles, r.Admissible
  compatible : roles.Pairwise DeviceRole.Compatible

def manifestText (roles : List DeviceRole) : List UInt8 :=
  manifestMagic ++ (leBytes 2 manifestMajor ++ (leBytes 2 manifestMinor ++
    (leBytes 4 (32 + roles.length * 144) ++ (leBytes 2 roles.length ++ (leBytes 2 0 ++
      (leBytes 4 profileQ35 ++ (leBytes 4 profileQ35Version ++ (leBytes 8 0 ++
        recordsText roles))))))))

theorem length_manifestText {roles : List DeviceRole} (h : Admitted roles) :
    (manifestText roles).length = 32 + roles.length * 144 := by
  have hmagic : manifestMagic.length = 4 := rfl
  simp only [manifestText, List.length_append, length_leBytes, hmagic,
    length_recordsText h.admissible]
  omega

def manifestOf (roles : List DeviceRole) : Manifest :=
  ⟨profileQ35, profileQ35Version, slots roles, roles.length⟩

theorem checkFront_eq_ok {u : Unit} : Manifest.checkFront bytes = .ok u ↔
    32 ≤ bytes.length ∧ Has bytes 0 manifestMagic ∧ Has bytes 4 (leBytes 2 manifestMajor)
      ∧ Has bytes 6 (leBytes 2 manifestMinor) := by
  simp only [Manifest.checkFront, bind_eq_ok, rejectIf_eq_ok, exists_const, getLE_eq_ok,
    sliceAt_eq_ok, decide_eq_false_iff_not, not_not, ne_eq, Nat.not_lt]
  constructor
  · rintro ⟨hlen, _, ⟨hmagic, -⟩, rfl, _, ⟨hmajor, -⟩, rfl, _, ⟨hminor, -⟩, rfl⟩
    exact ⟨hlen, hmagic, hmajor, hminor⟩
  · intro ⟨hlen, hmagic, hmajor, hminor⟩
    exact ⟨hlen, _, ⟨hmagic, rfl⟩, rfl, _, ⟨hmajor, by decide⟩, rfl, _, ⟨hminor, by decide⟩, rfl⟩

theorem parse_eq_ok {m : Manifest} : Manifest.parse bytes = .ok m ↔
    ∃ roles, Admitted roles ∧ bytes = manifestText roles ∧ m = manifestOf roles := by
  simp only [Manifest.parse, manifestHeaderBytes, manifestRecordBytes, bind_eq_ok, getLE_eq_ok,
    rejectIf_eq_ok, okOr_eq_ok, checkedMul_eq_some, checkedAdd_eq_some, checkFront_eq_ok,
    exists_const, Bool.or_eq_false_iff, decide_eq_false_iff_not, not_not, ne_eq, Nat.not_lt, pure_eq,
    Outcome.ok.injEq, List.range_eq_range', ← slots_nil]
  have hmagic : manifestMagic.length = 4 := rfl
  constructor
  · rintro ⟨⟨hlen, h0, h4, h6⟩, total, ⟨h8, -⟩, count, ⟨h12, -⟩, ⟨⟨rfl, hcount⟩, hmax⟩, _, ⟨h14, -⟩, rfl,
      _, ⟨h24, -⟩, rfl, _, ⟨h16, -⟩, _, ⟨h20, -⟩, ⟨rfl, rfl⟩, _, ⟨-, rfl⟩, _, ⟨-, rfl⟩, hsize, records,
      hrecords, rfl⟩
    obtain ⟨roles, rfl, htext, hall, hpairs, rfl⟩ :=
      (@admitRecords_eq_ok _ _ _ [] (by simpa using hmax) hlen .nil).mp hrecords
    have hadmitted : Admitted roles := ⟨⟨Nat.pos_of_ne_zero hcount, hmax⟩, hall, hpairs⟩
    refine ⟨roles, hadmitted, ?_, rfl⟩
    refine has_whole.mp ⟨?_, by rw [length_manifestText hadmitted, hsize]⟩
    rw [← hsize] at h8
    simp only [manifestText, has_append, length_leBytes, hmagic, Nat.zero_add, Nat.reduceAdd]
    exact ⟨h0, h4, h6, h8, h12, h14, h16, h20, h24, htext⟩
  · rintro ⟨roles, hadmitted, hbytes, rfl⟩
    have hlen := length_manifestText hadmitted
    have hmax := hadmitted.count.2
    have hparts := (has_whole.mpr hbytes).1
    rw [← hbytes] at hlen
    rw [maxRecords] at hmax
    simp only [manifestText, has_append, length_leBytes, hmagic, Nat.zero_add, Nat.reduceAdd]
      at hparts
    obtain ⟨h0, h4, h6, h8, h12, h14, h16, h20, h24, htext⟩ := hparts
    have hrecords := (@admitRecords_eq_ok _ (slots roles) _ []
      (by simpa using hadmitted.count.2) (by rw [List.length_nil]; omega) .nil).mpr
        ⟨roles, rfl, htext, hadmitted.admissible, hadmitted.compatible, rfl⟩
    refine ⟨⟨by omega, h0, h4, h6⟩, bytes.length, ⟨hlen ▸ h8, by omega⟩, roles.length,
      ⟨h12, by omega⟩, ⟨⟨rfl, Nat.ne_of_gt hadmitted.count.1⟩, hmax⟩, 0, ⟨h14, by decide⟩, rfl, 0,
      ⟨h24, by decide⟩, rfl, _, ⟨h16, by decide⟩, _, ⟨h20, by decide⟩, ⟨rfl, rfl⟩, _, ⟨by omega, rfl⟩, _,
      ⟨by omega, rfl⟩, hlen.symm, slots roles, hrecords, rfl⟩

theorem parsePadded_eq_ok {m : Manifest} : Manifest.parsePadded bytes = .ok m ↔
    ∃ text n, bytes = text ++ List.replicate n 0 ∧ Manifest.parse text = .ok m := by
  simp only [Manifest.parsePadded, bind_eq_ok, getLE_eq_ok, rejectIf_eq_ok,
    checkFront_eq_ok, sliceAt_eq_ok, sliceFrom_eq_ok, exists_const, Bool.or_eq_false_iff,
    decide_eq_false_iff_not, Nat.not_lt]
  constructor
  · rintro ⟨-, total, -, -, rest, ⟨hrest, hend⟩, hzero, text, ⟨htext, rfl⟩, hparse⟩
    refine ⟨text, rest.length, ?_, hparse⟩
    rw [← anyNonzero_eq_false.mp hzero]
    refine has_whole.mp ⟨has_append.mpr ⟨htext, ?_⟩, by rw [hend, List.length_append]⟩
    rw [Nat.zero_add]
    exact hrest
  · rintro ⟨text, n, rfl, hparse⟩
    obtain ⟨roles, hadmitted, htext, rfl⟩ := parse_eq_ok.mp hparse
    have hlen := htext ▸ length_manifestText hadmitted
    have hmax := hadmitted.count.2
    rw [maxRecords] at hmax
    have hfront := has_between [] text (List.replicate n 0)
    rw [List.nil_append, List.length_nil] at hfront
    have hparts := (has_whole.mpr htext).1
    simp only [manifestText, has_append, length_leBytes, Nat.zero_add] at hparts
    obtain ⟨h0, h4, h6, h8, -⟩ := hparts
    have hinside : ∀ {offset part}, Has text offset part →
        Has (text ++ List.replicate n 0) offset part := by
      intro offset part h
      have hpart := has_trans hfront h
      rwa [Nat.zero_add] at hpart
    have hback := has_between text (List.replicate n 0) []
    rw [List.append_nil] at hback
    refine ⟨⟨?_, hinside h0, hinside h4, hinside h6⟩, text.length, ⟨hinside (hlen ▸ h8), by omega⟩,
      ⟨?_, ?_⟩, _, ⟨hback, List.length_append⟩, ?_, text, ⟨hfront, rfl⟩, hparse⟩
    · rw [List.length_append]
      omega
    · rw [manifestHeaderBytes]
      omega
    · rw [List.length_append]
      omega
    · exact anyNonzero_eq_false.mpr (by rw [List.length_replicate])

/-! ## No panics -/

theorem anyNonzero_check_ne_panic {α : Type} {e : ManifestError}
    {rest : Unit → ManifestParse α} (h : offset + n ≤ bytes.length) (hrest : ∀ u, rest u ≠ .panic) :
    (sliceAt bytes offset n >>= fun part => rejectIf (anyNonzero part) e >>= rest) ≠ .panic :=
  bind_ne_panic (sliceAt_ne_panic h) fun _ _ => bind_ne_panic (rejectIf_ne_panic _ _)
    fun u _ => hrest u

theorem contentAt_ne_panic (h : offset + 32 ≤ bytes.length) : contentAt bytes offset ≠ .panic := by
  refine bind_ne_panic (sliceAt_ne_panic h) fun part hpart => ?_
  rw [dif_pos (sliceAt_eq_ok.mp hpart).2]
  exact ok_ne_panic _

theorem parseRecord_ne_panic (h : offset + 144 ≤ bytes.length) :
    parseRecord bytes offset ≠ .panic := by
  iterate 12 first
    | refine bind_ne_panic (getLE_ne_panic (by omega)) fun _ _ => ?_
    | refine bind_ne_panic (rejectIf_ne_panic _ _) fun _ _ => ?_
    | refine bind_ne_panic (okOr_ne_panic _ _) fun _ _ => ?_
  refine bind_ne_panic (getLE_ne_panic (by omega)) fun pathLen _ => ?_
  refine bind_ne_panic (rejectIf_ne_panic _ _) fun _ _ => ?_
  refine bind_ne_panic (rejectIf_ne_panic _ _) fun _ hmax => ?_
  have hpathLen : pathLen ≤ 64 := Nat.not_lt.mp (of_decide_eq_false (rejectIf_eq_ok.mp hmax))
  refine bind_ne_panic (getLE_ne_panic (by omega)) fun _ _ => ?_
  refine bind_ne_panic (rejectIf_ne_panic _ _) fun _ _ => ?_
  refine anyNonzero_check_ne_panic (by omega) fun _ => ?_
  refine anyNonzero_check_ne_panic (by omega) fun _ => ?_
  refine bind_ne_panic (contentAt_ne_panic (by omega)) fun _ _ => ?_
  refine bind_ne_panic (rejectIf_ne_panic _ _) fun _ _ => ?_
  refine bind_ne_panic (getLE_ne_panic (by omega)) fun _ _ => ?_
  refine bind_ne_panic (rejectIf_ne_panic _ _) fun _ _ => ?_
  refine bind_ne_panic (okOr_ne_panic _ _) fun path hpath => ?_
  have hlen : path.length = 64 := slice_length (okOr_eq_ok.mp hpath)
  refine bind_ne_panic ?_ fun _ _ => bind_ne_panic (rejectIf_ne_panic _ _) fun _ _ => ?_
  · rw [sliceFrom, if_pos (by omega)]
    exact ok_ne_panic _
  · exact bind_ne_panic (sliceAt_ne_panic (by omega)) fun _ _ => pure_ne_panic _

theorem admitRecord_ne_panic {records : Records} {index : Nat} (hindex : index < maxRecords)
    (h : 32 + index * 144 + 144 ≤ bytes.length) : admitRecord bytes records index ≠ .panic := by
  refine bind_ne_panic (parseRecord_ne_panic h) fun record _ => ?_
  have hchecks : records.toList.reduceOption.forM (checkPrevious record) ≠ .panic := by
    refine forM_ne_panic fun previous _ => ?_
    refine bind_ne_panic (rejectIf_ne_panic _ _) fun _ _ => ?_
    exact bind_ne_panic (rejectIf_ne_panic _ _) fun _ _ => rejectIf_ne_panic _ _
  refine bind_ne_panic hchecks fun _ _ => ?_
  rw [dif_pos hindex]
  exact ok_ne_panic _

theorem checkFront_ne_panic (bytes : List UInt8) : Manifest.checkFront bytes ≠ .panic := by
  refine bind_ne_panic (rejectIf_ne_panic _ _) fun _ hlen => ?_
  have hlen : 32 ≤ bytes.length := Nat.not_lt.mp (of_decide_eq_false (rejectIf_eq_ok.mp hlen))
  refine bind_ne_panic (sliceAt_ne_panic (by omega)) fun _ _ => ?_
  refine bind_ne_panic (rejectIf_ne_panic _ _) fun _ _ => ?_
  refine bind_ne_panic (getLE_ne_panic (by omega)) fun _ _ => ?_
  refine bind_ne_panic (rejectIf_ne_panic _ _) fun _ _ => ?_
  exact bind_ne_panic (getLE_ne_panic (by omega)) fun _ _ => rejectIf_ne_panic _ _

theorem parse_ne_panic (bytes : List UInt8) : Manifest.parse bytes ≠ .panic := by
  refine bind_ne_panic (checkFront_ne_panic bytes) fun _ hfront => ?_
  have hlen := (checkFront_eq_ok.mp hfront).1
  refine bind_ne_panic (getLE_ne_panic (by omega)) fun _ _ => ?_
  refine bind_ne_panic (getLE_ne_panic (by omega)) fun count _ => ?_
  refine bind_ne_panic (rejectIf_ne_panic _ _) fun _ hcount => ?_
  have hcount : count ≤ maxRecords := by
    have hfalse := (Bool.or_eq_false_iff.mp (rejectIf_eq_ok.mp hcount)).2
    exact Nat.not_lt.mp (of_decide_eq_false hfalse)
  iterate 7 first
    | refine bind_ne_panic (getLE_ne_panic (by omega)) fun _ _ => ?_
    | refine bind_ne_panic (rejectIf_ne_panic _ _) fun _ _ => ?_
  refine bind_ne_panic (okOr_ne_panic _ _) fun size hsize => ?_
  refine bind_ne_panic (okOr_ne_panic _ _) fun expected hexpected => ?_
  refine bind_ne_panic (rejectIf_ne_panic _ _) fun _ hwhole => ?_
  obtain ⟨-, rfl⟩ := checkedMul_eq_some.mp (okOr_eq_ok.mp hsize)
  obtain ⟨-, rfl⟩ := checkedAdd_eq_some.mp (okOr_eq_ok.mp hexpected)
  have hwhole : 32 + count * 144 = bytes.length :=
    of_not_not (of_decide_eq_false (rejectIf_eq_ok.mp hwhole))
  refine bind_ne_panic (foldlM_ne_panic (fun index hindex records => ?_) _) fun _ _ => pure_ne_panic _
  have hlt := List.mem_range.mp hindex
  exact admitRecord_ne_panic (by omega) (by omega)

theorem parsePadded_ne_panic (bytes : List UInt8) : Manifest.parsePadded bytes ≠ .panic := by
  refine bind_ne_panic (checkFront_ne_panic bytes) fun _ hfront => ?_
  have hlen := (checkFront_eq_ok.mp hfront).1
  refine bind_ne_panic (getLE_ne_panic (by omega)) fun total _ => ?_
  refine bind_ne_panic (rejectIf_ne_panic _ _) fun _ htotal => ?_
  have htotal : total ≤ bytes.length := by
    have hfalse := (Bool.or_eq_false_iff.mp (rejectIf_eq_ok.mp htotal)).2
    exact Nat.not_lt.mp (of_decide_eq_false hfalse)
  refine bind_ne_panic ?_ fun _ _ => bind_ne_panic (rejectIf_ne_panic _ _) fun _ _ => ?_
  · rw [sliceFrom, if_pos htotal]
    exact ok_ne_panic _
  · exact bind_ne_panic (sliceAt_ne_panic (by omega)) fun text _ => parse_ne_panic text

/-! ## The one role -/

def com2Entry (contentIdentity : ContentIdentity) : DeviceRole where
  roleId := com2Policy.roleId
  hardware := .com2
  resourceKind := .pioInterrupt
  pio := com2Policy.pio
  irq := com2Policy.irq
  driverPath := com2Policy.driverPath
  contentIdentity
  metadataPolicy := com2Policy.metadataPolicy

theorem com2Entry_admitted {content : ContentIdentity} (h : anyNonzero content.toList = true) :
    Admitted [com2Entry content] := by
  have hadmissible : (com2Entry content).Admissible := by
    refine ⟨?_, ?_, ?_, ?_, ?_, h, ?_⟩
    all_goals simp [com2Entry, com2Policy, PioRange.region, Region.stop, uart16550dPath]
  exact ⟨⟨Nat.one_pos, Nat.le_of_ble_eq_true rfl⟩, List.forall_mem_singleton.mpr hadmissible,
    List.pairwise_singleton _ _⟩

theorem storeCom2Manifest_turns (content : ContentIdentity) :
    Turns (storeCom2Manifest content) com2ManifestBytes 0 (List.replicate com2ManifestBytes 0)
      (manifestText [com2Entry content]) := by
  have hzeros : List.replicate com2ManifestBytes (0 : UInt8) = List.replicate 4 0 ++
      (List.replicate 2 0 ++ (List.replicate 2 0 ++ (List.replicate 4 0 ++ (List.replicate 2 0 ++
      (leBytes 2 0 ++ (List.replicate 4 0 ++ (List.replicate 4 0 ++ (leBytes 8 0 ++
      (List.replicate 8 0 ++ (List.replicate 4 0 ++ (List.replicate 4 0 ++ (List.replicate 2 0 ++
      (List.replicate 2 0 ++ (List.replicate 4 0 ++ (List.replicate 2 0 ++ (leBytes 2 0 ++
      (List.replicate 32 0 ++ (List.replicate 4 0 ++ (List.replicate 8 0 ++ (List.replicate 17 0 ++
      (List.replicate 47 0 ++ List.replicate 8 0))))))))))))))))))))) := by
    simp only [leBytes_zero, List.replicate_append_replicate, com2ManifestBytes, manifestHeaderBytes,
      manifestRecordBytes, Nat.reduceAdd]
  have htext : manifestText [com2Entry content] = manifestMagic ++ (leBytes 2 manifestMajor ++
      (leBytes 2 manifestMinor ++ (leBytes 4 com2ManifestBytes ++ (leBytes 2 1 ++ (leBytes 2 0 ++
      (leBytes 4 com2Policy.profile ++ (leBytes 4 com2Policy.profileVersion ++ (leBytes 8 0 ++
      (leBytes 8 com2Policy.roleId ++ (leBytes 4 2 ++ (leBytes 4 1 ++ (leBytes 2 com2Policy.pio.base ++
      (leBytes 2 com2Policy.pio.length ++ (leBytes 4 com2Policy.irq ++
      (leBytes 2 com2Policy.driverPath.length ++ (leBytes 2 0 ++ (content.toList ++
      (leBytes 4 com2Policy.metadataPolicy ++ (List.replicate 8 0 ++ (com2Policy.driverPath ++
      (List.replicate 47 0 ++ List.replicate 8 0))))))))))))))))))))) := by
    rw [manifestText, recordsText, List.map_singleton, List.flatten_singleton, recordText, pathText,
      List.append_assoc]
    rfl
  rw [hzeros, htext]
  have hcontent : content.toList.length = 32 := Vector.length_toList
  refine .append (.store rfl) <| .append (.store rfl) <| .append (.store rfl) <|
    .append (.store rfl) <| .append (.store rfl) <| .behind ?_
  refine .append (.store rfl) <| .append (.store rfl) <| .behind ?_
  refine .append (.store rfl) <| .append (.store rfl) <| .append (.store rfl) <|
    .append (.store rfl) <| .append (.store rfl) <| .append (.store rfl) <|
    .append (.store rfl) <| .behind ?_
  refine .append (.storeAt rfl hcontent.symm) <| .append (.storeAt ?_ rfl) <| .behind ?_
  · rw [hcontent]
    rfl
  refine .bind (.before (.storeAt ?_ rfl)) (.pure _)
  rw [hcontent]
  rfl

theorem encodeCom2Manifest_run {content : ContentIdentity} {out : List UInt8}
    (h : anyNonzero content.toList = true) (hroom : com2ManifestBytes ≤ out.length) :
    encodeCom2Manifest content out
      = (.ok com2ManifestBytes, manifestText [com2Entry content] ++ out.drop com2ManifestBytes, []) := by
  have hclear : (storeBytes 0 (List.replicate com2ManifestBytes 0) : Fill ManifestError Unit) out
      = (.ok (), List.replicate com2ManifestBytes 0 ++ out.drop com2ManifestBytes, []) := by
    rw [storeBytes, if_pos (by simpa using hroom)]
    simp [splice]
  have hfits : (rejectIf (out.length < com2ManifestBytes) .wrongSize : ManifestParse Unit) = .ok () := by
    rw [decide_eq_false (Nat.not_lt.mpr hroom), rejectIf_false]
  rw [encodeCom2Manifest, Prog.bind_run_ok (Prog.get_run out), hfits, Prog.lift_ok_bind, h,
    Bool.not_true, rejectIf_false, Prog.lift_ok_bind, Prog.bind_run_ok hclear,
    (storeCom2Manifest_turns content).run]
  rfl

theorem encodeCom2Manifest_nonzero {content : ContentIdentity} {out out' : List UInt8}
    {w : List Empty} (h : encodeCom2Manifest content out = (.ok n, out', w)) :
    anyNonzero content.toList = true := by
  rw [encodeCom2Manifest, Prog.bind_run_ok (Prog.get_run out)] at h
  obtain ⟨_, -, h⟩ := Prog.lift_bind_eq_ok h
  obtain ⟨_, hcheck, -⟩ := Prog.lift_bind_eq_ok h
  rw [rejectIf_eq_ok, Bool.not_eq_false'] at hcheck
  exact hcheck

theorem matchCom2_iff {roles : List DeviceRole} {content : ContentIdentity} :
    ((manifestOf roles).matchCom2 content).isOk = true ↔ roles = [com2Entry content] := by
  constructor
  · intro h
    obtain ⟨role, hrole⟩ := exists_of_isOk h
    obtain rfl := Manifest.matchCom2_eq_ok hrole
    simp only [Manifest.matchCom2, bind_eq_ok, rejectIf_eq_ok, okOr_eq_ok, exists_const,
      decide_eq_false_iff_not, not_not, ne_eq] at hrole
    obtain ⟨hcount, found, hfound, -, -, -, -, -, -, heq⟩ := hrole
    obtain rfl := Outcome.ok.inj heq
    obtain ⟨role, rfl⟩ := List.length_eq_one_iff.mp hcount
    exact congrArg ([·]) (Option.some.inj hfound)
  · rintro rfl
    have hfirst : (manifestOf [com2Entry content]).records.get ⟨0, by decide⟩
        = some (com2Entry content) := rfl
    have hcount : (manifestOf [com2Entry content]).count = 1 := rfl
    rw [Manifest.matchCom2, hfirst, hcount]
    simp [com2Entry, com2Policy]

/-- Admission is exact. A padded manifest is a manifest before zeros, an accepted one
has roles that keep out of each other's way and no other text, and the one role is
matched in the bytes that the encoder writes for it and in no others. -/
theorem manifest_admission (bytes : List UInt8) :
    Manifest.parse bytes ≠ .panic ∧ Manifest.parsePadded bytes ≠ .panic
      ∧ (∀ m, Manifest.parsePadded bytes = .ok m ↔
          ∃ text n, bytes = text ++ List.replicate n 0 ∧ Manifest.parse text = .ok m)
      ∧ ∀ m, Manifest.parse bytes = .ok m →
          (∃ roles, m.records.toList.reduceOption = roles ∧ m.count = roles.length ∧ Admitted roles)
          ∧ (∀ bytes', Manifest.parse bytes' = .ok m → bytes' = bytes)
          ∧ ∀ content out, com2ManifestBytes ≤ out.length →
              ((m.matchCom2 content).isOk = true ↔ encodeCom2Manifest content out
                = (.ok com2ManifestBytes, bytes ++ out.drop com2ManifestBytes, [])) := by
  refine ⟨parse_ne_panic bytes, parsePadded_ne_panic bytes, fun m => parsePadded_eq_ok, fun m h => ?_⟩
  obtain ⟨roles, hadmitted, rfl, rfl⟩ := parse_eq_ok.mp h
  have hroles : (manifestOf roles).records.toList.reduceOption = roles :=
    reduceOption_slots hadmitted.count.2
  refine ⟨⟨roles, hroles, rfl, hadmitted⟩, fun bytes' h' => ?_, fun content out hroom => ?_⟩
  · obtain ⟨roles', hadmitted', rfl, hsame⟩ := parse_eq_ok.mp h'
    have hroles' : (manifestOf roles').records.toList.reduceOption = roles' :=
      reduceOption_slots hadmitted'.count.2
    rw [← hroles, ← hroles', hsame]
  · rw [matchCom2_iff]
    constructor
    · rintro rfl
      exact encodeCom2Manifest_run (hadmitted.admissible _ List.mem_cons_self).content hroom
    · intro hencode
      have hnonzero := encodeCom2Manifest_nonzero hencode
      have hbytes := congrArg (fun r => r.2.1) ((encodeCom2Manifest_run hnonzero hroom).symm.trans hencode)
      have htext : manifestText [com2Entry content] = manifestText roles := List.append_cancel_right hbytes
      have hparse := parse_eq_ok.mpr ⟨_, com2Entry_admitted hnonzero, rfl, rfl⟩
      rw [htext, h] at hparse
      have hslots := congrArg (fun m => m.records.toList.reduceOption) (Outcome.ok.inj hparse)
      have hone : (manifestOf [com2Entry content]).records.toList.reduceOption
          = [com2Entry content] := reduceOption_slots (by simp [maxRecords])
      exact hroles.symm.trans (hslots.trans hone)

end Wyrmroot.Device
