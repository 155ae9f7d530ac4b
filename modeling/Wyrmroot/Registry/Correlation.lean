import Wyrmroot.Lib.Decimal
import Wyrmroot.Startup.Block

/-!
# The correlation environment

A service learns its registry generation and its endpoint from three strings of its
environment, each a name and a decimal. `CorrelationEnvironment::new` writes them into
buffers of 64 bytes, and `parse_correlation_environment` accepts these strings and no
others: a number has one spelling, and the parser checks all of it.
-/

namespace Wyrmroot.Registry

open Outcome
open Loader (checkedAdd checkedAdd_eq_some)
open Startup (checkedMul checkedMul_eq_some)

def correlationEnvironmentCount : Nat := 3
def maxCorrelationEnvironmentBytes : Nat := 64
def registryGenerationEnv : String := "WYR_REGISTRY_GENERATION="
def endpointIdEnv : String := "WYR_REGISTRY_ENDPOINT_ID="
def endpointGenerationEnv : String := "WYR_REGISTRY_ENDPOINT_GENERATION="

/-- The one error of these functions. -/
inductive CorrelationError where
  | invalidCorrelationEnvironment
deriving DecidableEq

structure Correlation where
  registryGeneration : UInt64
  endpointId : UInt64
  endpointGeneration : UInt64
deriving DecidableEq

structure CorrelationEnvironment where
  bytes : List (List UInt8)
  lengths : List UInt8
deriving DecidableEq

abbrev Correlating (α : Type) := Outcome CorrelationError α

/-- The digits of a number from its last to its first, in an array of 20 bytes of which so many are
free. -/
def reverseDigits : Nat → Nat → List UInt8 → Correlating (List UInt8)
  | 0, value, reversed => if value = 0 then .ok reversed else .panic
  | free + 1, value, reversed =>
      if value = 0 then .ok reversed
      else reverseDigits free (value / 10) (reversed ++ [UInt8.ofNat (48 + value % 10)])

/-- `decimal`: how many bytes it writes to the front of the output, and the output. -/
def writeDecimal (value : UInt64) (output : List UInt8) : Correlating (Nat × List UInt8) := do
  rejectIf (value = 0) .invalidCorrelationEnvironment
  let reversed ← reverseDigits 20 value.toNat []
  rejectIf (output.length < reversed.length) .invalidCorrelationEnvironment
  pure (reversed.length, reversed.reverse ++ output.drop reversed.length)

/-- `try_fold` over the digits. -/
def readDigit (current : Nat) (digit : UInt8) : Correlating Nat :=
  okOr ((checkedMul current 10).bind (checkedAdd · (digit - 48).toNat)) .invalidCorrelationEnvironment

def parseDecimal (value : String) : Correlating UInt64 := do
  let digits := utf8 value
  rejectIf (digits.isEmpty || digits.head? = some 48 || !digits.all isDigit)
    .invalidCorrelationEnvironment
  let number ← digits.foldlM readDigit 0
  pure (UInt64.ofNat number)

/-- `text.strip_prefix(name)`. -/
def stripPrefix (text name : String) : Option String :=
  if name.toList <+: text.toList then some (String.ofList (text.toList.drop name.toList.length)) else none

namespace CorrelationEnvironment

def write (self : CorrelationEnvironment) (index : Nat) (name : String) (number : UInt64) :
    Correlating CorrelationEnvironment := do
  let output ← okOr self.bytes[index]? .invalidCorrelationEnvironment
  if output.length < (utf8 name).length then .panic
  else do
    let digits ← writeDecimal number (output.drop (utf8 name).length)
    let length := (utf8 name).length + digits.1
    rejectIf (256 ≤ length) .invalidCorrelationEnvironment
    if self.lengths.length ≤ index then .panic
    else pure ⟨self.bytes.set index (utf8 name ++ digits.2), self.lengths.set index (UInt8.ofNat length)⟩

def new (correlation : Correlation) : Correlating CorrelationEnvironment := do
  rejectIf (correlation.registryGeneration = 0 || correlation.endpointId = 0
    || correlation.endpointGeneration = 0) .invalidCorrelationEnvironment
  let value : CorrelationEnvironment :=
    ⟨List.replicate correlationEnvironmentCount (List.replicate maxCorrelationEnvironmentBytes 0),
      List.replicate correlationEnvironmentCount 0⟩
  let value ← value.write 0 registryGenerationEnv correlation.registryGeneration
  let value ← value.write 1 endpointIdEnv correlation.endpointId
  value.write 2 endpointGenerationEnv correlation.endpointGeneration

def entry (self : CorrelationEnvironment) (index : Nat) : Option String := do
  let length ← self.lengths[index]?
  let bytes ← self.bytes[index]?
  let text ← slice bytes 0 length.toNat
  fromUtf8 text

end CorrelationEnvironment

def parseCorrelationEnvironment (entries : List String) : Correlating Correlation :=
  match entries with
  | [generation, id, endpoint] => do
      let registryGeneration ← okOr (stripPrefix generation registryGenerationEnv)
        .invalidCorrelationEnvironment >>= parseDecimal
      let endpointId ← okOr (stripPrefix id endpointIdEnv) .invalidCorrelationEnvironment >>= parseDecimal
      let endpointGeneration ← okOr (stripPrefix endpoint endpointGenerationEnv)
        .invalidCorrelationEnvironment >>= parseDecimal
      pure { registryGeneration, endpointId, endpointGeneration }
  | _ => .err .invalidCorrelationEnvironment

/-! ## One number -/

/-- The spelling of a number. -/
def digitsText (n : Nat) : String := String.ofList (Nat.toDigits 10 n)

theorem utf8_digitsText (n : Nat) : utf8 (digitsText n) = decimal n := by
  have hdigit : ∀ d, d < 10 → String.utf8EncodeChar (Nat.digitChar d) = [UInt8.ofNat (48 + d)] := by
    intro d hd
    have hchar := Nat.toNat_digitChar_of_lt_ten hd
    rw [utf8EncodeChar_ascii (by omega), hchar]
  rw [utf8_eq_flatMap, digitsText, String.toList_ofList]
  induction n using Nat.strongRecOn with
  | ind n ih =>
    rcases Nat.lt_or_ge n 10 with h | h
    · rw [Nat.toDigits_of_lt_base h, decimal_digit h, List.flatMap_singleton, hdigit n h]
    · rw [Nat.toDigits_of_base_le (by decide) h, decimal_snoc h, List.flatMap_append, ih _ (by omega),
        List.flatMap_singleton, hdigit _ (Nat.mod_lt _ (by decide))]

theorem reverseDigits_run {free value : Nat} (h : value < 10 ^ free) (reversed : List UInt8) :
    reverseDigits free value reversed =
      .ok (reversed ++ if value = 0 then [] else (decimal value).reverse) := by
  induction free generalizing value reversed with
  | zero =>
      obtain rfl : value = 0 := Nat.lt_one_iff.mp h
      rw [reverseDigits, if_pos rfl, if_pos rfl, List.append_nil]
  | succ free ih =>
      rw [reverseDigits]
      split_ifs with hzero
      · rw [List.append_nil]
      · have hdiv : value / 10 < 10 ^ free := by
          rw [Nat.pow_succ] at h
          exact Nat.div_lt_of_lt_mul (by rwa [Nat.mul_comm])
        rw [ih hdiv]
        rcases Nat.lt_or_ge value 10 with hlt | hge
        · rw [if_pos (Nat.div_eq_of_lt hlt), List.append_nil, decimal_digit hlt, Nat.mod_eq_of_lt hlt]
          rfl
        · rw [if_neg (by omega), decimal_snoc hge, List.reverse_append, List.append_assoc]
          rfl

theorem writeDecimal_run {value : UInt64} (h : value ≠ 0) {output : List UInt8}
    (hroom : (decimal value.toNat).length ≤ output.length) : writeDecimal value output =
      .ok ((decimal value.toNat).length,
        decimal value.toNat ++ output.drop (decimal value.toNat).length) := by
  have hpos : value.toNat ≠ 0 := fun hzero => h (UInt64.toNat_inj.mp hzero)
  have hrun := @reverseDigits_run 20 value.toNat (Nat.lt_trans value.toNat_lt (by decide)) []
  rw [if_neg hpos, List.nil_append] at hrun
  rw [writeDecimal, decide_eq_false h, rejectIf_false, ok_bind, hrun, ok_bind, List.length_reverse,
    decide_eq_false (Nat.not_lt.mpr hroom), rejectIf_false, ok_bind, List.reverse_reverse]
  rfl

theorem le_foldl (bytes : List UInt8) (n : Nat) :
    n ≤ bytes.foldl (fun n byte => 10 * n + (byte - 48).toNat) n := by
  induction bytes generalizing n with
  | nil => exact Nat.le_refl n
  | cons byte bytes ih =>
      refine Nat.le_trans ?_ (ih _)
      dsimp only
      omega

/-- The checked fold is the number, where that is a `u64`. -/
theorem readDigits_eq_ok {bytes : List UInt8} : ∀ {current n : Nat}, current < 2 ^ 64 →
    (bytes.foldlM readDigit current = .ok n ↔
      bytes.foldl (fun n byte => 10 * n + (byte - 48).toNat) current = n ∧ n < 2 ^ 64) := by
  induction bytes with
  | nil =>
      intro current n h
      constructor
      · intro heq
        obtain rfl := Outcome.ok.inj heq
        exact ⟨rfl, h⟩
      · rintro ⟨rfl, -⟩
        rfl
  | cons byte bytes ih =>
      intro current n h
      rw [List.foldlM_cons, List.foldl_cons, bind_eq_ok]
      have hle := le_foldl bytes (10 * current + (byte - 48).toNat)
      constructor
      · rintro ⟨next, hread, hrest⟩
        obtain ⟨product, hproduct, hsum⟩ := Option.bind_eq_some_iff.mp (okOr_eq_ok.mp hread)
        obtain ⟨-, rfl⟩ := checkedMul_eq_some.mp hproduct
        obtain ⟨hlt, rfl⟩ := checkedAdd_eq_some.mp hsum
        rw [Nat.mul_comm 10]
        exact (ih hlt).mp hrest
      · rintro ⟨hfold, hn⟩
        refine ⟨10 * current + (byte - 48).toNat, okOr_eq_ok.mpr (Option.bind_eq_some_iff.mpr
          ⟨current * 10, checkedMul_eq_some.mpr ⟨by omega, rfl⟩, checkedAdd_eq_some.mpr ⟨by omega, ?_⟩⟩),
          (ih (by omega)).mpr ⟨hfold, hn⟩⟩
        rw [Nat.mul_comm]

theorem parseDecimal_eq_ok {value : String} {number : UInt64} :
    parseDecimal value = .ok number ↔ number ≠ 0 ∧ value = digitsText number.toNat := by
  simp only [parseDecimal, bind_eq_ok, rejectIf_eq_ok, Bool.or_eq_false_iff, exists_const]
  constructor
  · rintro ⟨⟨⟨hempty, hzero⟩, hall⟩, n, hfold, hnumber⟩
    obtain ⟨hworth, hn⟩ := (readDigits_eq_ok (by decide)).mp hfold
    obtain rfl := Outcome.ok.inj hnumber
    have hne : utf8 value ≠ [] := fun hnil => by
      rw [hnil] at hempty
      cases hempty
    rw [Bool.not_eq_false'] at hall
    have hdigits : ∀ byte ∈ utf8 value, isDigit byte = true := List.all_eq_true.mp hall
    have hhead : (utf8 value).head? ≠ some 48 := of_decide_eq_false hzero
    have hpos := worth_pos hne hdigits hhead
    have hdecimal := decimal_worth hne hdigits hhead
    have hvalue : (UInt64.ofNat n).toNat = n := UInt64.toNat_ofNat_of_lt' hn
    rw [show worth (utf8 value) = n from hworth] at hpos hdecimal
    refine ⟨fun hzero => ?_, ?_⟩
    · rw [hzero] at hvalue
      exact absurd hvalue (Nat.ne_of_lt hpos)
    · rw [hvalue]
      exact utf8_inj (hdecimal.symm.trans (utf8_digitsText n).symm)
  · rintro ⟨hne, rfl⟩
    have hpos : 0 < number.toNat :=
      Nat.pos_of_ne_zero fun hzero => hne (UInt64.toNat_inj.mp hzero)
    rw [utf8_digitsText]
    refine ⟨⟨⟨?_, decide_eq_false (head_decimal hpos)⟩, ?_⟩, number.toNat,
      (readDigits_eq_ok (by decide)).mpr ⟨worth_decimal _, number.toNat_lt⟩, ?_⟩
    · exact List.isEmpty_eq_false_iff.mpr (decimal_ne_nil _)
    · rw [Bool.not_eq_false', List.all_eq_true]
      exact fun byte hbyte => isDigit_of_mem_decimal hbyte
    · rw [UInt64.ofNat_toNat]
      rfl

theorem stripPrefix_eq_some {text name value : String} :
    stripPrefix text name = some value ↔ text = name ++ value := by
  unfold stripPrefix
  split_ifs with h
  · obtain ⟨rest, hrest⟩ := h
    rw [← hrest, List.drop_left, Option.some.injEq, ← String.toList_inj, ← String.toList_inj,
      String.toList_ofList, String.toList_append, ← hrest, List.append_cancel_left_eq]
  · refine iff_of_false (by rintro ⟨⟩) ?_
    rintro rfl
    exact h ⟨value.toList, (String.toList_append).symm⟩

/-! ## The three strings -/

namespace CorrelationEnvironment

theorem write_run {self : CorrelationEnvironment} {index : Nat} {name : String} {number : UInt64}
    (hbytes : self.bytes[index]? = some (List.replicate maxCorrelationEnvironmentBytes 0))
    (hindex : index < self.lengths.length) (hname : (utf8 name).length ≤ 44)
    (hnumber : number ≠ 0) :
    ∃ self', self.write index name number = .ok self' ∧
      self'.lengths.length = self.lengths.length ∧
      self'.entry index = some (name ++ digitsText number.toNat) ∧
      ∀ other, other ≠ index → self'.bytes[other]? = self.bytes[other]? ∧
        self'.entry other = self.entry other := by
  have hdigits : (decimal number.toNat).length ≤ 20 :=
    length_decimal_le (by decide) (Nat.lt_trans number.toNat_lt (by decide))
  have hroom : (decimal number.toNat).length ≤
      ((List.replicate maxCorrelationEnvironmentBytes (0 : UInt8)).drop (utf8 name).length).length := by
    rw [List.length_drop, List.length_replicate, maxCorrelationEnvironmentBytes]
    omega
  have hfits : ¬ (List.replicate maxCorrelationEnvironmentBytes (0 : UInt8)).length <
      (utf8 name).length := by
    rw [List.length_replicate, maxCorrelationEnvironmentBytes]
    omega
  unfold write
  rw [hbytes, okOr_some, ok_bind, if_neg hfits, writeDecimal_run hnumber hroom, ok_bind]
  dsimp only
  rw [decide_eq_false (by omega), rejectIf_false, ok_bind, if_neg (Nat.not_le.mpr hindex)]
  have hbound : index < self.bytes.length := (List.getElem?_eq_some_iff.mp hbytes).1
  refine ⟨_, rfl, List.length_set, ?_, fun other hother => ⟨List.getElem?_set_ne (Ne.symm hother), ?_⟩⟩
  · have hlength : (UInt8.ofNat ((utf8 name).length + (decimal number.toNat).length)).toNat =
        (utf8 name ++ decimal number.toNat).length := by
      rw [List.length_append]
      exact UInt8.toNat_ofNat_of_lt' (Nat.lt_of_le_of_lt (Nat.add_le_add hname hdigits) (by decide))
    simp only [entry, List.getElem?_set_self hindex, List.getElem?_set_self hbound, Option.bind_eq_bind,
      Option.bind_some]
    rw [hlength, ← List.append_assoc, slice_isSome]
    · rw [List.drop_zero, List.take_left, Option.bind_some]
      refine fromUtf8_eq_some.mpr ?_
      rw [utf8_eq_flatMap, String.toList_append, List.flatMap_append, ← utf8_eq_flatMap,
        ← utf8_eq_flatMap, utf8_digitsText]
    · simp only [List.length_append, Nat.zero_add]
      omega
  · simp only [entry, List.getElem?_set_ne (Ne.symm hother)]

theorem new_run {c : Correlation} (hgeneration : c.registryGeneration ≠ 0) (hid : c.endpointId ≠ 0)
    (hendpoint : c.endpointGeneration ≠ 0) : ∃ environment, new c = .ok environment ∧
      environment.entry 0 = some (registryGenerationEnv ++ digitsText c.registryGeneration.toNat) ∧
      environment.entry 1 = some (endpointIdEnv ++ digitsText c.endpointId.toNat) ∧
      environment.entry 2 = some (endpointGenerationEnv ++ digitsText c.endpointGeneration.toNat) := by
  obtain ⟨first, hfirst, hlengths, hentry₀, hothers₀⟩ := @write_run
    ⟨List.replicate 3 (List.replicate 64 0), List.replicate 3 0⟩ 0 registryGenerationEnv _ rfl (by decide)
    (by decide) hgeneration
  obtain ⟨second, hsecond, hlengths', hentry₁, hothers₁⟩ := @write_run first 1 endpointIdEnv _
    (hothers₀ 1 (by decide)).1 (by rw [hlengths]; decide) (by decide) hid
  obtain ⟨third, hthird, -, hentry₂, hothers₂⟩ := @write_run second 2 endpointGenerationEnv _
    ((hothers₁ 2 (by decide)).1.trans (hothers₀ 2 (by decide)).1)
    (by rw [hlengths', hlengths]; decide)
    (by decide) hendpoint
  refine ⟨third, ?_, ?_, ?_, hentry₂⟩
  · unfold new
    rw [decide_eq_false hgeneration, decide_eq_false hid, decide_eq_false hendpoint]
    show (write _ 0 registryGenerationEnv c.registryGeneration >>= _) = _
    rw [correlationEnvironmentCount, maxCorrelationEnvironmentBytes, hfirst, ok_bind, hsecond, ok_bind,
      hthird]
  · rw [(hothers₂ 0 (by decide)).2, (hothers₁ 0 (by decide)).2, hentry₀]
  · rw [(hothers₂ 1 (by decide)).2, hentry₁]

end CorrelationEnvironment

theorem parseCorrelationEnvironment_eq_ok {entries : List String} {c : Correlation} :
    parseCorrelationEnvironment entries = .ok c ↔
      c.registryGeneration ≠ 0 ∧ c.endpointId ≠ 0 ∧ c.endpointGeneration ≠ 0 ∧
        entries = [registryGenerationEnv ++ digitsText c.registryGeneration.toNat,
          endpointIdEnv ++ digitsText c.endpointId.toNat,
          endpointGenerationEnv ++ digitsText c.endpointGeneration.toNat] := by
  have hread : ∀ {text name : String} {number : UInt64},
      (okOr (stripPrefix text name) .invalidCorrelationEnvironment >>= parseDecimal :
        Correlating UInt64) = .ok number ↔ number ≠ 0 ∧ text = name ++ digitsText number.toNat := by
    intro text name number
    simp only [bind_eq_ok, okOr_eq_ok, stripPrefix_eq_some, parseDecimal_eq_ok]
    constructor
    · rintro ⟨value, rfl, hne, rfl⟩
      exact ⟨hne, rfl⟩
    · rintro ⟨hne, rfl⟩
      exact ⟨_, rfl, hne, rfl⟩
  unfold parseCorrelationEnvironment
  split
  · rename_i generation id endpoint
    simp only [bind_eq_ok, hread, pure_eq, Outcome.ok.injEq]
    constructor
    · rintro ⟨a, ⟨ha, rfl⟩, b, ⟨hb, rfl⟩, d, ⟨hd, rfl⟩, rfl⟩
      exact ⟨ha, hb, hd, rfl⟩
    · rintro ⟨ha, hb, hd, hentries⟩
      simp only [List.cons.injEq] at hentries
      exact ⟨_, ⟨ha, hentries.1⟩, _, ⟨hb, hentries.2.1⟩, _, ⟨hd, hentries.2.2.1⟩, rfl⟩
  · rename_i hshape
    refine iff_of_false (by rintro ⟨⟩) ?_
    rintro ⟨-, -, -, rfl⟩
    exact hshape _ _ _ rfl

/-- Every triple of numbers that are not zero comes back, and nothing is accepted but the three strings
of such a triple. -/
theorem correlation_round_trip :
    (∀ c : Correlation, c.registryGeneration ≠ 0 → c.endpointId ≠ 0 → c.endpointGeneration ≠ 0 →
      ∃ environment entries, CorrelationEnvironment.new c = .ok environment ∧
        entries.map some = [environment.entry 0, environment.entry 1, environment.entry 2] ∧
        parseCorrelationEnvironment entries = .ok c) ∧
    ∀ entries : List String, (parseCorrelationEnvironment entries).isOk = true ↔
      ∃ (c : Correlation) (environment : CorrelationEnvironment), c.registryGeneration ≠ 0 ∧
        c.endpointId ≠ 0 ∧ c.endpointGeneration ≠ 0 ∧ CorrelationEnvironment.new c = .ok environment ∧
        entries.map some = [environment.entry 0, environment.entry 1, environment.entry 2] := by
  constructor
  · intro c hgeneration hid hendpoint
    obtain ⟨environment, hnew, h₀, h₁, h₂⟩ := CorrelationEnvironment.new_run hgeneration hid hendpoint
    refine ⟨environment, _, hnew, ?_, parseCorrelationEnvironment_eq_ok.mpr
      ⟨hgeneration, hid, hendpoint, rfl⟩⟩
    rw [h₀, h₁, h₂]
    rfl
  · intro entries
    constructor
    · intro h
      obtain ⟨c, hc⟩ := exists_of_isOk h
      obtain ⟨hgeneration, hid, hendpoint, rfl⟩ := parseCorrelationEnvironment_eq_ok.mp hc
      obtain ⟨environment, hnew, h₀, h₁, h₂⟩ := CorrelationEnvironment.new_run hgeneration hid hendpoint
      refine ⟨c, environment, hgeneration, hid, hendpoint, hnew, ?_⟩
      rw [h₀, h₁, h₂]
      rfl
    · rintro ⟨c, environment, hgeneration, hid, hendpoint, hnew, hentries⟩
      obtain ⟨environment', hnew', h₀, h₁, h₂⟩ :=
        CorrelationEnvironment.new_run hgeneration hid hendpoint
      obtain rfl := Outcome.ok.inj (hnew.symm.trans hnew')
      rw [h₀, h₁, h₂] at hentries
      have hlist := List.map_injective_iff.mpr (Option.some_injective String)
        (hentries.trans (rfl : _ = List.map some [_, _, _]))
      rw [parseCorrelationEnvironment_eq_ok.mpr ⟨hgeneration, hid, hendpoint, hlist⟩]
      rfl

end Wyrmroot.Registry
