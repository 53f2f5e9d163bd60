import Mathlib.Algebra.Group.Nat.Defs
import Mathlib.Data.List.GetD
import Mathlib.Tactic.Common

/-!
# Byte strings and little-endian words

Byte-string literals, the two conversions between a 32-bit word and its four
bytes, and the slice of an addressed memory.
-/

namespace NrfUnifying.Lib.Bytes

/-- The bytes of an ASCII literal. -/
def ascii (text : String) : List UInt8 := text.toList.map fun char => char.toNat.toUInt8

/-- What follows `start` at the beginning of a line. -/
def stripPrefix (start line : List UInt8) : Option (List UInt8) :=
  if start.isPrefixOf line then some (line.drop start.length) else none

/-- The decimal numeral of a number. -/
def decimal (value : Nat) : List UInt8 := (Nat.toDigits 10 value).map fun char => char.toNat.toUInt8

/-- Little-endian bytes of a word. -/
def le32 (word : UInt32) : List UInt8 :=
  [.ofNat word.toNat, .ofNat (word.toNat / 256), .ofNat (word.toNat / 65536),
    .ofNat (word.toNat / 16777216)]

/-- The word whose little-endian bytes come first in `bytes`. -/
def ofLe32 (bytes : List UInt8) : UInt32 :=
  .ofNat ((bytes.getD 0 0).toNat + (bytes.getD 1 0).toNat * 256 +
    (bytes.getD 2 0).toNat * 65536 + (bytes.getD 3 0).toNat * 16777216)

theorem stripPrefix_append (start rest : List UInt8) :
    stripPrefix start (start ++ rest) = some rest := by
  rw [stripPrefix, if_pos (List.isPrefixOf_iff_prefix.mpr (List.prefix_append start rest)),
    List.drop_left]

theorem stripPrefix_eq_some {start line rest : List UInt8}
    (found : stripPrefix start line = some rest) : line = start ++ rest := by
  unfold stripPrefix at found
  split at found
  next starts =>
    obtain ⟨tail, rfl⟩ := List.isPrefixOf_iff_prefix.mp starts
    rw [List.drop_left] at found
    rw [Option.some.inj found]
  · cases found

theorem stripPrefix_isPrefixOf {start line rest : List UInt8}
    (found : stripPrefix start line = some rest) : start.isPrefixOf line = true := by
  rw [stripPrefix_eq_some found]
  exact List.isPrefixOf_iff_prefix.mpr (List.prefix_append start rest)

theorem starts_of_strip {start line rest : List UInt8}
    (found : stripPrefix start line = some rest) : start.isPrefixOf line = true := by
  rw [stripPrefix_eq_some found]
  exact List.isPrefixOf_iff_prefix.mpr (List.prefix_append start rest)

/-- Of two different starts a line has only one. -/
theorem not_starts {start line other : List UInt8} (starts : start.isPrefixOf line = true)
    (apart : start.isPrefixOf other = false ∧ other.isPrefixOf start = false) :
    other.isPrefixOf line = false := by
  rw [Bool.eq_false_iff]
  intro both
  rcases List.prefix_or_prefix_of_prefix (List.isPrefixOf_iff_prefix.mp starts)
    (List.isPrefixOf_iff_prefix.mp both) with first | second
  · rw [List.isPrefixOf_iff_prefix.mpr first] at apart
    cases apart.1
  · rw [List.isPrefixOf_iff_prefix.mpr second] at apart
    cases apart.2

theorem stripPrefix_apart {start other : List UInt8} (rest : List UInt8)
    (apart : start.isPrefixOf other = false ∧ other.isPrefixOf start = false) :
    stripPrefix other (start ++ rest) = none := by
  have starts : start.isPrefixOf (start ++ rest) = true :=
    List.isPrefixOf_iff_prefix.mpr (List.prefix_append start rest)
  rw [stripPrefix, not_starts starts apart]
  rfl

theorem ne_of_starts {start line other : List UInt8} (starts : start.isPrefixOf line = true)
    (differs : start.isPrefixOf other = false) : line ≠ other := by
  rintro rfl
  rw [starts] at differs
  cases differs

@[simp]
theorem le32_length (word : UInt32) : (le32 word).length = 4 := rfl

@[simp]
theorem ofLe32_le32_append (word : UInt32) (rest : List UInt8) :
    ofLe32 (le32 word ++ rest) = word := by
  apply UInt32.toNat_inj.mp
  have bound := word.toNat_lt
  simp [ofLe32, le32]
  omega

@[simp]
theorem ofLe32_le32 (word : UInt32) : ofLe32 (le32 word) = word := by
  simpa using ofLe32_le32_append word []

/-- A word is all ones exactly when its four bytes are. -/
theorem ofLe32_eq_max_iff {bytes : List UInt8} (length : bytes.length = 4) :
    ofLe32 bytes = 0xFFFFFFFF ↔ ∀ byte ∈ bytes, byte = 0xFF := by
  obtain ⟨a, b, c, d, rfl⟩ : ∃ a b c d, bytes = [a, b, c, d] := by
    match bytes, length with
    | [a, b, c, d], _ => exact ⟨a, b, c, d, rfl⟩
  have ha := a.toNat_lt
  have hb := b.toNat_lt
  have hc := c.toNat_lt
  have hd := d.toNat_lt
  rw [List.forall_mem_cons, List.forall_mem_cons, List.forall_mem_cons, List.forall_mem_singleton]
  simp only [← UInt32.toNat_inj, ← UInt8.toNat_inj]
  simp [ofLe32]
  omega

theorem ofLe32_congr {first second : List UInt8}
    (same : ∀ i < 4, first.getD i 0 = second.getD i 0) : ofLe32 first = ofLe32 second := by
  simp only [ofLe32, same 0 (by decide), same 1 (by decide), same 2 (by decide),
    same 3 (by decide)]

/-- A fixed-width field is read back from behind the bytes before it. -/
theorem ofFn_getD_append {n : Nat} (before after : List UInt8) (field : Vector UInt8 n) {k : Nat}
    (length : before.length = k) :
    (Vector.ofFn fun i : Fin n => (before ++ (field.toList ++ after)).getD (k + i) 0) = field := by
  subst length
  refine Vector.ext fun i inside => ?_
  rw [Vector.getElem_ofFn, List.getD_append_right _ _ _ _ (by omega), Nat.add_sub_cancel_left,
    List.getD_append _ _ _ _ (by simpa using inside)]
  simp [List.getD_eq_getElem?_getD, inside]

/-- The `count` bytes of a memory from `offset` on. -/
def slice (cells : Nat → UInt8) (offset count : Nat) : List UInt8 :=
  (List.range count).map fun i => cells (offset + i)

@[simp]
theorem slice_length (cells : Nat → UInt8) (offset count : Nat) :
    (slice cells offset count).length = count := by
  simp [slice]

@[simp]
theorem slice_getElem (cells : Nat → UInt8) (offset count i : Nat)
    (inside : i < (slice cells offset count).length) :
    (slice cells offset count)[i] = cells (offset + i) := by
  simp [slice]

theorem slice_add (cells : Nat → UInt8) (offset first second : Nat) :
    slice cells offset (first + second) =
      slice cells offset first ++ slice cells (offset + first) second := by
  simp [slice, List.range_add, Nat.add_assoc]

theorem slice_congr {first second : Nat → UInt8} {offset count : Nat}
    (same : ∀ i < count, first (offset + i) = second (offset + i)) :
    slice first offset count = slice second offset count :=
  List.map_congr_left fun i member => same i (List.mem_range.mp member)

theorem slice_inj {first second : Nat → UInt8} {offset count : Nat} :
    (∀ i < count, first (offset + i) = second (offset + i)) ↔
      slice first offset count = slice second offset count := by
  constructor
  · exact slice_congr
  · intro same i inside
    have here := congrArg (·[i]?) same
    simpa [slice, inside] using here

theorem slice_eq_iff {cells : Nat → UInt8} {offset : Nat} {bytes : List UInt8} :
    slice cells offset bytes.length = bytes ↔
      ∀ i (inside : i < bytes.length), cells (offset + i) = bytes[i] := by
  constructor
  · intro same i inside
    have entry := congrArg (·[i]?) same
    simpa [slice, inside] using entry
  · intro same
    refine List.ext_getElem (by simp) fun i _ inside => ?_
    rw [slice_getElem, same i inside]

end NrfUnifying.Lib.Bytes
