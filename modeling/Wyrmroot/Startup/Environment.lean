import Wyrmroot.Loader.Elf

/-!
# Environment names

The loader, the runtime and the launch protocol each carry a copy of one
rule for `NAME=VALUE` entries; the copies differ in the error they answer.
-/

namespace Wyrmroot.Startup

open Outcome

def isAsciiUppercase (b : UInt8) : Bool := 65 ≤ b.toNat && b.toNat ≤ 90

def isAsciiDigit (b : UInt8) : Bool := 48 ≤ b.toNat && b.toNat ≤ 57

/-- `b'='`. -/
def equalsSign : UInt8 := 61

/-- `b'_'`. -/
def underscore : UInt8 := 95

/-- At most 64 capitals, digits and underscores, not starting with a digit. -/
def validName : List UInt8 → Bool
  | [] => false
  | first :: rest =>
      (first :: rest).length ≤ 64 && (isAsciiUppercase first || first == underscore)
        && rest.all fun b => isAsciiUppercase b || isAsciiDigit b || b == underscore

/-- The name of an entry: what stands before the first `=`. -/
def environmentName {ε : Type} (e : ε) (value : List UInt8) : Outcome ε (List UInt8) :=
  let name := value.takeWhile (· ≠ equalsSign)
  if value.contains equalsSign && validName name then .ok name else .err e

variable {value name : List UInt8}

theorem environmentName_eq_ok {ε : Type} {e : ε} :
    environmentName e value = .ok name ↔
      (value.contains equalsSign && validName (value.takeWhile (· ≠ equalsSign))) = true
        ∧ value.takeWhile (· ≠ equalsSign) = name := by
  unfold environmentName
  dsimp only
  split
  · rename_i h
    rw [Outcome.ok.injEq, and_iff_right h]
  · rename_i h
    exact ⟨nofun, fun hname => absurd hname.1 h⟩

theorem environmentName_ne_panic {ε : Type} (e : ε) (value : List UInt8) :
    environmentName e value ≠ .panic := by
  unfold environmentName
  dsimp only
  split <;> exact nofun

theorem environmentName_congr {ε ε' : Type} {e : ε} {e' : ε'}
    (h : environmentName e value = .ok name) : environmentName e' value = .ok name :=
  environmentName_eq_ok.mpr (environmentName_eq_ok.mp h)

/-! ## Lists of entries -/

/-- What stands before the first `=`. -/
def entryName (value : List UInt8) : List UInt8 := value.takeWhile (· ≠ equalsSign)

def isEntry (value : List UInt8) : Bool := value.contains equalsSign && validName (entryName value)

theorem environmentName_iff {ε : Type} {e : ε} :
    environmentName e value = .ok name ↔ isEntry value = true ∧ entryName value = name :=
  environmentName_eq_ok

/-- Every value is an entry, and no two have one name. -/
structure NamesOk (values : List (List UInt8)) : Prop where
  entries : ∀ value ∈ values, isEntry value = true
  distinct : (values.map entryName).Nodup

/-- `environment_name(other).ok() == Some(name)`. -/
def hasName {ε : Type} (invalid : ε) (name other : List UInt8) : Bool :=
  match environmentName invalid other with
  | .ok found => found == name
  | _ => false

/-- Every value has a name, and none has the name of an earlier one. -/
def checkNames {ε : Type} (invalid duplicate : ε) (seen : List (List UInt8)) :
    List (List UInt8) → Outcome ε Unit
  | [] => .ok ()
  | value :: rest => do
      let name ← environmentName invalid value
      rejectIf (seen.any (hasName invalid name)) duplicate
      checkNames invalid duplicate (seen ++ [value]) rest

section CheckNames

variable {ε : Type} {invalid duplicate : ε}

theorem seen_any {seen : List (List UInt8)} (hseen : ∀ value ∈ seen, isEntry value = true) :
    seen.any (hasName invalid name) = false ↔ name ∉ seen.map entryName := by
  rw [List.any_eq_false, List.mem_map, not_exists]
  refine forall_congr' fun other => ?_
  rw [not_and]
  refine imp_congr_right fun hmem => ?_
  rw [hasName, environmentName_iff.mpr ⟨hseen other hmem, rfl⟩]
  exact not_congr beq_iff_eq

theorem checkNames_eq_ok {values : List (List UInt8)} :
    ∀ {seen : List (List UInt8)}, NamesOk seen →
      (checkNames invalid duplicate seen values = .ok () ↔ NamesOk (seen ++ values)) := by
  induction values with
  | nil =>
      intro seen hseen
      rw [List.append_nil]
      exact iff_of_true rfl hseen
  | cons value rest ih =>
      intro seen hseen
      rw [checkNames, bind_eq_ok]
      constructor
      · rintro ⟨name, hname, h⟩
        obtain ⟨_, hfresh, hrest⟩ := bind_eq_ok.mp h
        obtain ⟨hentry, rfl⟩ := environmentName_iff.mp hname
        rw [rejectIf_eq_ok, seen_any hseen.entries] at hfresh
        have hnext : NamesOk (seen ++ [value]) := by
          refine ⟨?_, ?_⟩
          · intro v hv
            rcases List.mem_append.mp hv with hv | hv
            · exact hseen.entries v hv
            · obtain rfl := List.mem_singleton.mp hv
              exact hentry
          · rw [List.map_append]
            refine List.nodup_append.mpr ⟨hseen.distinct, List.pairwise_singleton _ _, ?_⟩
            rintro name hname _ hlast rfl
            exact hfresh (List.mem_singleton.mp hlast ▸ hname)
        simpa using (ih hnext).mp hrest
      · intro h
        have hentry := h.entries value (by simp)
        have hsplit : seen ++ value :: rest = (seen ++ [value]) ++ rest := by simp
        rw [hsplit] at h
        have hdistinct := h.distinct
        rw [List.map_append] at hdistinct
        have hnext : NamesOk (seen ++ [value]) :=
          ⟨fun v hv => h.entries v (List.mem_append_left _ hv), (List.nodup_append.mp hdistinct).1⟩
        have hfresh : entryName value ∉ seen.map entryName := by
          have hnames := hnext.distinct
          rw [List.map_append] at hnames
          exact fun hmem => (List.nodup_append.mp hnames).2.2 _ hmem _ (List.mem_singleton_self _) rfl
        refine ⟨_, environmentName_iff.mpr ⟨hentry, rfl⟩, bind_eq_ok.mpr ⟨(), ?_, (ih hnext).mpr h⟩⟩
        rw [rejectIf_eq_ok, seen_any hseen.entries]
        exact hfresh

theorem checkNames_nil {values : List (List UInt8)} :
    checkNames invalid duplicate [] values = .ok () ↔ NamesOk values :=
  checkNames_eq_ok ⟨nofun, List.nodup_nil⟩

end CheckNames

end Wyrmroot.Startup
