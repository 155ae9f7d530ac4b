import Mathlib.Data.List.Perm.Basic
import Wyrmroot.Lib.Bytes

/-!
# Byte layouts

How a message is laid out, from both ends. A writer turns one stretch of a
buffer into another and leaves what is before and after it alone (`Turns`);
such steps compose by concatenation, whatever the order of the stores. A
reader of a concatenation finds each part where the parts before it end
(`slice_append_left`, `slice_append_right`), and a byte string is the
concatenation of the slices that tile it (`eq_slice_append`).
-/

namespace Wyrmroot

/-! ## Little-endian round trips -/

@[simp] theorem leNat_leBytes (n v : Nat) : leNat (leBytes n v) = v % 256 ^ n := by
  induction n generalizing v with
  | zero => simp [leBytes, leNat, Nat.mod_one]
  | succ n ih =>
      rw [leBytes, leNat, ih, UInt8.toNat_ofNat_of_lt' (Nat.mod_lt _ (by decide)), Nat.pow_succ',
        Nat.mod_mul]

theorem leNat_leBytes_of_lt {n v : Nat} (h : v < 256 ^ n) : leNat (leBytes n v) = v := by
  rw [leNat_leBytes, Nat.mod_eq_of_lt h]

theorem leBytes_leNat (bytes : List UInt8) : leBytes bytes.length (leNat bytes) = bytes := by
  induction bytes with
  | nil => rfl
  | cons b bytes ih =>
      have hb : b.toNat < 256 := b.toNat_lt
      have hlow : (b.toNat + 256 * leNat bytes) % 256 = b.toNat := by omega
      have hhigh : (b.toNat + 256 * leNat bytes) / 256 = leNat bytes := by omega
      rw [List.length_cons, leNat, leBytes, hlow, hhigh, ih, UInt8.ofNat_toNat]

theorem leBytes_leNat_of_length {bytes : List UInt8} {n : Nat} (h : bytes.length = n) :
    leBytes n (leNat bytes) = bytes := by
  rw [← h, leBytes_leNat]

@[simp] theorem leBytes_zero (n : Nat) : leBytes n 0 = List.replicate n 0 := by
  induction n with
  | zero => rfl
  | succ n ih =>
      rw [leBytes, Nat.zero_mod, Nat.zero_div, ih]
      rfl

/-! ## Reading a concatenation -/

variable {part rest : List UInt8}

/-- The part at the front. -/
theorem slice_append_left {n : Nat} (h : part.length = n) :
    slice (part ++ rest) 0 n = some part := by
  rw [slice_eq_some]
  refine ⟨by simp [h], ?_⟩
  rw [List.drop_zero, List.take_append_of_le_length (by omega), List.take_of_length_le (by omega)]

/-- A part further on. -/
theorem slice_append_right {offset n : Nat} (h : part.length ≤ offset) :
    slice (part ++ rest) offset n = slice rest (offset - part.length) n := by
  unfold slice
  rw [List.length_append, List.drop_append, List.drop_of_length_le h, List.nil_append]
  by_cases hfit : offset + n ≤ part.length + rest.length
  · rw [if_pos hfit, if_pos (by omega)]
  · rw [if_neg hfit, if_neg (by omega)]

theorem sliceAt_append_left {ε : Type} {n : Nat} (h : part.length = n) :
    (sliceAt (part ++ rest) 0 n : Outcome ε _) = .ok part := by
  rw [sliceAt, slice_append_left h]

theorem getLE_append_left {ε : Type} {n : Nat} (h : part.length = n) :
    (getLE n (part ++ rest) 0 : Outcome ε _) = .ok (leNat part) := by
  rw [getLE, slice_append_left h]

theorem getLE_append_right {ε : Type} {offset n : Nat} (h : part.length ≤ offset) :
    (getLE n (part ++ rest) offset : Outcome ε _) = getLE n rest (offset - part.length) := by
  rw [getLE, getLE, slice_append_right h]

theorem getLE_leBytes {ε : Type} {n v : Nat} (h : v < 256 ^ n) :
    (getLE n (leBytes n v ++ rest) 0 : Outcome ε _) = .ok v := by
  rw [getLE_append_left (length_leBytes n v), leNat_leBytes_of_lt h]

/-- A byte string continues with the slice there and what follows it. -/
theorem eq_slice_append {bytes : List UInt8} {offset n : Nat}
    (h : slice bytes offset n = some part) :
    bytes.drop offset = part ++ bytes.drop (offset + n) := by
  obtain ⟨-, rfl⟩ := slice_eq_some.mp h
  rw [← List.drop_drop, List.take_append_drop]

/-! ## Parts at offsets

A reader that accepts says of each stretch of the message what it is; put
together, they are the message. `Has` is one such stretch, and its rules
turn the tests of a parser into one equation, in both directions. -/

/-- `part` stands at `offset`. -/
def Has (bytes : List UInt8) (offset : Nat) (part : List UInt8) : Prop :=
  slice bytes offset part.length = some part

theorem Has.split {bytes : List UInt8} {offset : Nat} (h : Has bytes offset part) :
    ∃ before after, bytes = before ++ (part ++ after) ∧ before.length = offset := by
  have hdrop := eq_slice_append h
  have hfit : offset + part.length ≤ bytes.length := by
    unfold Has at h
    rw [slice_eq_some] at h
    exact h.1
  refine ⟨bytes.take offset, bytes.drop (offset + part.length), ?_, ?_⟩
  · rw [← hdrop, List.take_append_drop]
  · rw [List.length_take]
    omega

theorem has_between (before part after : List UInt8) :
    Has (before ++ (part ++ after)) before.length part := by
  unfold Has
  rw [slice_append_right (Nat.le_refl _), Nat.sub_self, slice_append_left rfl]

theorem has_iff {bytes : List UInt8} {offset : Nat} : Has bytes offset part ↔
    ∃ before after, bytes = before ++ (part ++ after) ∧ before.length = offset := by
  refine ⟨Has.split, fun h => ?_⟩
  obtain ⟨before, after, rfl, rfl⟩ := h
  exact has_between before part after

theorem has_append {bytes p q : List UInt8} {offset : Nat} :
    Has bytes offset (p ++ q) ↔ Has bytes offset p ∧ Has bytes (offset + p.length) q := by
  constructor
  · intro h
    obtain ⟨before, after, rfl, rfl⟩ := h.split
    have hsecond := has_between (before ++ p) q after
    rw [List.append_assoc] at hsecond ⊢
    rw [List.length_append] at hsecond
    exact ⟨has_between before p (q ++ after), hsecond⟩
  · intro h
    obtain ⟨before, after, rfl, rfl⟩ := h.1.split
    have hrest := eq_slice_append h.2
    rw [← List.append_assoc, ← List.length_append, List.drop_left] at hrest
    rw [hrest, ← List.append_assoc p]
    exact has_between before (p ++ q) _

/-- What stands at an offset is determined by its length. -/
theorem has_unique {bytes p q : List UInt8} {offset : Nat} (hp : Has bytes offset p)
    (hq : Has bytes offset q) (hlen : p.length = q.length) : p = q := by
  unfold Has at hp hq
  rw [hlen, hq] at hp
  exact (Option.some.inj hp).symm

/-- A part of a part. -/
theorem has_trans {bytes whole : List UInt8} {offset inner : Nat}
    (hwhole : Has bytes offset whole) (hpart : Has whole inner part) :
    Has bytes (offset + inner) part := by
  obtain ⟨left, right, rfl, rfl⟩ := hpart.split
  rw [has_append, has_append] at hwhole
  exact hwhole.2.1

/-- A message is what stands at its start, if it is no longer. -/
theorem has_whole {bytes text : List UInt8} :
    Has bytes 0 text ∧ bytes.length = text.length ↔ bytes = text := by
  constructor
  · intro h
    obtain ⟨before, after, rfl, hbefore⟩ := h.1.split
    obtain rfl := List.length_eq_zero_iff.mp hbefore
    have hafter : after.length = 0 := by
      have hlen := h.2
      simp only [List.length_append, List.length_nil] at hlen
      omega
    rw [List.length_eq_zero_iff.mp hafter, List.append_nil, List.nil_append]
  · rintro rfl
    have hall := has_between [] bytes []
    rw [List.nil_append, List.append_nil] at hall
    exact ⟨hall, rfl⟩

/-- A slice is a part of that length. -/
theorem slice_eq_some_iff_has {bytes : List UInt8} {offset n : Nat} :
    slice bytes offset n = some part ↔ Has bytes offset part ∧ part.length = n := by
  constructor
  · intro h
    have hlen := slice_length h
    exact ⟨by rw [Has, hlen, h], hlen⟩
  · rintro ⟨h, rfl⟩
    exact h

theorem has_length {bytes : List UInt8} {offset : Nat} (h : Has bytes offset part) :
    offset + part.length ≤ bytes.length := (slice_eq_some.mp h).1

theorem sliceAt_eq_ok {ε : Type} {bytes : List UInt8} {offset n : Nat} :
    (sliceAt bytes offset n : Outcome ε _) = .ok part ↔ Has bytes offset part ∧ part.length = n := by
  rw [← slice_eq_some_iff_has, sliceAt]
  cases slice bytes offset n <;> simp

/-- The rest of a message is a part that ends it. -/
theorem sliceFrom_eq_ok {ε : Type} {bytes : List UInt8} {offset : Nat} :
    (sliceFrom bytes offset : Outcome ε _) = .ok part ↔
      Has bytes offset part ∧ bytes.length = offset + part.length := by
  unfold sliceFrom
  constructor
  · intro h
    by_cases hle : offset ≤ bytes.length
    · rw [if_pos hle] at h
      obtain rfl := Outcome.ok.inj h
      have hlen : bytes.length = offset + (bytes.drop offset).length := by
        rw [List.length_drop]
        omega
      refine ⟨slice_eq_some.mpr ⟨by omega, ?_⟩, hlen⟩
      rw [List.take_length]
    · rw [if_neg hle] at h
      cases h
  · rintro ⟨h, hlen⟩
    rw [if_pos (by omega)]
    have hdrop := eq_slice_append h
    rw [List.drop_of_length_le (Nat.le_of_eq hlen), List.append_nil] at hdrop
    rw [hdrop]

/-- Reading an integer finds its bytes. -/
theorem readsLE_iff {bytes : List UInt8} {offset n v : Nat} :
    (slice bytes offset n).map leNat = some v ↔ Has bytes offset (leBytes n v) ∧ v < 256 ^ n := by
  rw [Option.map_eq_some_iff]
  constructor
  · rintro ⟨part, hpart, rfl⟩
    have hlen := slice_length hpart
    rw [leBytes_leNat_of_length hlen]
    exact ⟨(slice_eq_some_iff_has.mp hpart).1, hlen ▸ leNat_lt part⟩
  · rintro ⟨h, hv⟩
    exact ⟨leBytes n v, slice_eq_some_iff_has.mpr ⟨h, length_leBytes n v⟩,
      leNat_leBytes_of_lt hv⟩

/-! ## Writing in place -/

/-- On a buffer that has `old` at `offset`, the code returns `a` and leaves
`new` there, the rest untouched. -/
def Turns {ε α : Type} (m : Fill ε α) (a : α) (offset : Nat) (old new : List UInt8) : Prop :=
  ∀ before after, before.length = offset →
    m (before ++ (old ++ after)) = (.ok a, before ++ (new ++ after), [])

namespace Turns

variable {ε α β : Type} {offset : Nat} {old new : List UInt8}

theorem pure (a : α) : Turns (Pure.pure a : Fill ε α) a offset old old := fun _ _ _ => rfl

variable {a : α}

theorem lift {x : Outcome ε α} (h : x = .ok a) :
    Turns (Prog.lift x) a offset old old := fun _ _ _ => by rw [h]; rfl

/-- The same stretch twice. -/
theorem bind {m : Fill ε α} {f : α → Fill ε β} {b : β} {mid : List UInt8}
    (hm : Turns m a offset old mid) (hf : Turns (f a) b offset mid new) :
    Turns (m >>= f) b offset old new := by
  intro before after hlen
  rw [Prog.bind_run_ok (hm before after hlen), hf before after hlen]
  rfl

/-- A shorter stretch, with what surrounds it kept. -/
theorem frame {m : Fill ε α} (left right : List UInt8)
    (h : Turns m a (offset + left.length) old new) :
    Turns m a offset (left ++ (old ++ right)) (left ++ (new ++ right)) := by
  intro before after hlen
  have hframed := h (before ++ left) (right ++ after) (by simp [hlen])
  simpa only [List.append_assoc] using hframed

/-- A stretch behind one that is kept. -/
theorem behind {m : Fill ε α} {left : List UInt8} (h : Turns m a (offset + left.length) old new) :
    Turns m a offset (left ++ old) (left ++ new) := by
  simpa only [List.append_nil] using frame left [] h

/-- A stretch in front of one that is kept. -/
theorem before {m : Fill ε α} {right : List UInt8} (h : Turns m a offset old new) :
    Turns m a offset (old ++ right) (new ++ right) :=
  frame [] right h

/-- Code that looks at the whole buffer first. -/
theorem get_bind {f : List UInt8 → Fill ε α}
    (h : ∀ out : List UInt8, offset + old.length ≤ out.length → Turns (f out) a offset old new) :
    Turns (Prog.get >>= f) a offset old new := by
  intro before after hlen
  rw [Prog.bind_run_ok (Prog.get_run _), h _ (by simp [hlen]) before after hlen]
  rfl

/-- Two stretches, one after the other. -/
theorem append {m : Fill ε α} {f : α → Fill ε β} {b : β} {old' new' : List UInt8}
    (hm : Turns m a offset old new)
    (hf : Turns (f a) b (offset + new.length) old' new') :
    Turns (m >>= f) b offset (old ++ old') (new ++ new') := by
  intro before after hbefore
  have hfirst := hm before (old' ++ after) hbefore
  have hsecond := hf (before ++ new) after (by simp [hbefore])
  simp only [List.append_assoc] at hfirst hsecond ⊢
  rw [Prog.bind_run_ok hfirst, hsecond]
  rfl

theorem splice_middle {before after : List UInt8} (hlen : old.length = new.length) :
    splice (before ++ (old ++ after)) before.length new = before ++ (new ++ after) := by
  have hdrop : before.length + new.length = (before ++ old).length := by simp [hlen]
  rw [splice, List.take_left, hdrop, ← List.append_assoc before old after, List.drop_left,
    List.append_assoc]

theorem store (hlen : old.length = new.length) :
    Turns (storeBytes offset new : Fill ε Unit) () offset old new := by
  intro before after hbefore
  subst hbefore
  have hfit : before.length + new.length ≤ (before ++ (old ++ after)).length := by
    simp only [List.length_append]
    omega
  rw [storeBytes, if_pos hfit, splice_middle hlen]

theorem storeAt {position : Nat} (hat : position = offset) (hlen : old.length = new.length) :
    Turns (storeBytes position new : Fill ε Unit) () offset old new := hat ▸ store hlen

theorem put {e : ε} (hlen : old.length = new.length) :
    Turns (putBytes e offset new) () offset old new := by
  intro before after hbefore
  subst hbefore
  have hfit : before.length + new.length ≤ (before ++ (old ++ after)).length := by
    simp only [List.length_append]
    omega
  rw [putBytes, if_pos hfit, splice_middle hlen]

/-- Seen from the start of the buffer. -/
theorem run {m : Fill ε α} (h : Turns m a 0 old new) (after : List UInt8) :
    m (old ++ after) = (.ok a, new ++ after, []) := h [] after rfl

end Turns

/-!
## Tables of entries

A byte string that holds a table of entries of one size at some offset: what is
read there, and the same byte string with its entries in another order.
-/

variable {offset n count : Nat} {bytes bytes' before after : List UInt8}
  {entries : List (List UInt8)}

theorem slice_flatten (h : ∀ e ∈ entries, e.length = n) (after : List UInt8) :
    ∀ i, i < entries.length →
      slice (entries.flatten ++ after) (i * n) n = entries[i]? := by
  induction entries with
  | nil => exact fun i hi => absurd hi (Nat.not_lt_zero i)
  | cons e rest ih =>
      intro i hi
      have he : e.length = n := h e List.mem_cons_self
      rw [List.flatten_cons, List.append_assoc]
      cases i with
      | zero =>
          rw [Nat.zero_mul, slice_append_left he]
          rfl
      | succ i =>
          rw [slice_append_right (by rw [he, Nat.succ_mul]; omega), he, Nat.succ_mul,
            Nat.add_sub_cancel, List.getElem?_cons_succ]
          exact ih (fun e he => h e (List.mem_cons_of_mem _ he)) i (by simpa using hi)

/-- The entry of a table is found at its multiple of the size. -/
theorem slice_entry (hbefore : before.length = offset) (h : ∀ e ∈ entries, e.length = n) {i : Nat}
    (hi : i < entries.length) :
    slice (before ++ (entries.flatten ++ after)) (offset + i * n) n = entries[i]? := by
  rw [slice_append_right (by omega), hbefore, Nat.add_sub_cancel_left]
  exact slice_flatten h after i hi

/-- What ends before the table does not depend on it. -/
theorem slice_before {o k : Nat} (hbefore : before.length = offset)
    (h : o + k ≤ offset) : slice (before ++ rest) o k = slice before o k := by
  have hfit : o + k ≤ before.length := by omega
  rw [slice_isSome hfit, slice_isSome (by rw [List.length_append]; omega),
    List.drop_append_of_le_length (by omega), List.take_append_of_le_length]
  rw [List.length_drop]
  omega

/-- The same bytes, but for the order of `count` entries of `n` bytes at `offset`. -/
inductive Reordered (offset n count : Nat) : List UInt8 → List UInt8 → Prop
  | mk {before after : List UInt8} {entries entries' : List (List UInt8)}
      (hbefore : before.length = offset) (hcount : entries.length = count)
      (hsize : ∀ e ∈ entries, e.length = n) (hperm : entries.Perm entries') :
      Reordered offset n count (before ++ (entries.flatten ++ after))
        (before ++ (entries'.flatten ++ after))

namespace Reordered

theorem symm (h : Reordered offset n count bytes bytes') : Reordered offset n count bytes' bytes := by
  cases h with
  | mk hbefore hcount hsize hperm =>
      exact .mk hbefore (hperm.length_eq ▸ hcount) (fun e he => hsize e (hperm.mem_iff.mpr he))
        hperm.symm

theorem length_eq (h : Reordered offset n count bytes bytes') : bytes.length = bytes'.length := by
  cases h with
  | mk hbefore hcount hsize hperm =>
      simp [hperm.flatten.length_eq]

theorem slice_eq (h : Reordered offset n count bytes bytes') {o k : Nat} (hok : o + k ≤ offset) :
    slice bytes o k = slice bytes' o k := by
  cases h with
  | mk hbefore hcount hsize hperm =>
      rw [slice_before hbefore hok, slice_before hbefore hok]

/-- The entries of both, as they are read. -/
theorem reads (h : Reordered offset n count bytes bytes') :
    ∃ entries entries' : List (List UInt8), entries.Perm entries' ∧ entries.length = count
      ∧ (∀ i < count, slice bytes (offset + i * n) n = entries[i]?)
      ∧ ∀ i < count, slice bytes' (offset + i * n) n = entries'[i]? := by
  cases h with
  | @mk before after entries entries' hbefore hcount hsize hperm =>
      refine ⟨entries, entries', hperm, hcount, ?_, ?_⟩
      · exact fun i hi => slice_entry hbefore hsize (by omega)
      · refine fun i hi => slice_entry hbefore (fun e he => hsize e (hperm.mem_iff.mpr he)) ?_
        rw [← hperm.length_eq]
        omega

end Reordered

end Wyrmroot
