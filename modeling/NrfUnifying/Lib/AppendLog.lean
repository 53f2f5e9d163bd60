import NrfUnifying.Lib.Flash

/-!
# Append-only logs in a flash page

A page holds fixed-size entries. The latest valid entry before the first
invalid one is the value of the log; a new value goes into the first entry when
that is blank, and a full or spoiled page is erased first.
-/

namespace NrfUnifying.Lib.AppendLog

open Lib.Bytes Lib.Flash

variable {α : Type}

/-- Entries of `size` bytes, `count` to a page; `free` recognises a blank one. -/
structure Format (α : Type) where
  size : Nat
  count : Nat
  page : Nat
  encode : α → List UInt8
  decode : List UInt8 → Option α
  free : List UInt8 → Bool

/-- What the two scans of a log rely on; `storable` values can be written. -/
structure Format.Lawful (format : Format α) (storable : α → Prop) : Prop where
  page_eq : format.page = format.count * format.size
  page_pos : 0 < format.page
  encode_length : ∀ value, (format.encode value).length = format.size
  decode_encode : ∀ value, storable value → format.decode (format.encode value) = some value
  free_iff : ∀ bytes : List UInt8, bytes.length = format.size →
    (format.free bytes = true ↔ ∀ byte ∈ bytes, byte = 0xFF)
  decode_free : ∀ bytes : List UInt8, bytes.length = format.size →
    format.free bytes = true → format.decode bytes = none

section Scans

variable {F : Type} [NorFlash F]

/-- Read on while entries are valid, from entry `i` with `fuel` entries left. -/
def latest (format : Format α) (base : Nat) :
    (fuel i : Nat) → Option α → F → Option α × F
  | 0, _, last, flash => (last, flash)
  | fuel + 1, i, last, flash =>
      match NorFlash.read flash (base + i * format.size) format.size with
      | (none, flash) => (last, flash)
      | (some entry, flash) =>
          match format.decode entry with
          | some value => latest format base fuel (i + 1) (some value) flash
          | none => (last, flash)

/-- The first blank entry, or `format.count` when the page has to be erased; `none` is a
read error. -/
def findFree (format : Format α) (base : Nat) : (fuel i : Nat) → F → Option Nat × F
  | 0, _, flash => (some format.count, flash)
  | fuel + 1, i, flash =>
      match NorFlash.read flash (base + i * format.size) format.size with
      | (none, flash) => (none, flash)
      | (some entry, flash) =>
          match format.decode entry with
          | none => (some (if format.free entry then i else format.count), flash)
          | some _ => findFree format base fuel (i + 1) flash

def append (format : Format α) (base : Nat) (value : α) (flash : F) : F :=
  match findFree format base format.count 0 flash with
  | (none, flash) => flash
  | (some next, flash) =>
      if format.count ≤ next then
        match NorFlash.erase flash base (base + format.page) with
        | (false, flash) => flash
        | (true, flash) => (NorFlash.write flash base (format.encode value)).2
      else (NorFlash.write flash (base + next * format.size) (format.encode value)).2

end Scans

/-! ## The entries of a page -/

def Format.entryAt (format : Format α) (cells : Cells) (base i : Nat) : List UInt8 :=
  slice cells (base + i * format.size) format.size

/-- The bytes of the page from entry `n` on are blank. -/
def Format.BlankFrom (format : Format α) (cells : Cells) (base n : Nat) : Prop :=
  ∀ i, base + n * format.size ≤ i → i < base + format.page → cells i = 0xFF

/--
The page holds `entries`, oldest first. What follows them is invalid; if it is
blank, so is the rest of the page.
-/
structure Holds (format : Format α) (cells : Cells) (base : Nat) (entries : List α) : Prop where
  fits : entries.length ≤ format.count
  valid : ∀ i (inside : i < entries.length),
    format.decode (format.entryAt cells base i) = some entries[i]
  stop : entries.length < format.count →
    format.decode (format.entryAt cells base entries.length) = none ∧
    (format.free (format.entryAt cells base entries.length) = true →
      format.BlankFrom cells base entries.length)

/-- The entries from `i` on, up to the first invalid one. -/
def Format.validFrom (format : Format α) (cells : Cells) (base : Nat) : (fuel i : Nat) → List α
  | 0, _ => []
  | fuel + 1, i =>
      match format.decode (format.entryAt cells base i) with
      | some value => value :: format.validFrom cells base fuel (i + 1)
      | none => []

/-- The valid prefix of a page, whatever else the page holds. -/
def Format.validPrefix (format : Format α) (cells : Cells) (base : Nat) : List α :=
  format.validFrom cells base format.count 0

section Lawful

variable {format : Format α} {storable : α → Prop} {base : Nat} {cells : Cells} {entries : List α}

@[simp]
theorem Format.entryAt_length (format : Format α) (cells : Cells) (base i : Nat) :
    (format.entryAt cells base i).length = format.size := slice_length _ _ _

theorem Format.entryAt_getElem (format : Format α) (cells : Cells) (base i k : Nat)
    (inside : k < (format.entryAt cells base i).length) :
    (format.entryAt cells base i)[k] = cells (base + i * format.size + k) :=
  slice_getElem _ _ _ _ _

theorem Format.entry_end_le {i : Nat} (lawful : format.Lawful storable)
    (inside : i < format.count) : i * format.size + format.size ≤ format.page := by
  rw [lawful.page_eq, ← Nat.succ_mul]
  exact Nat.mul_le_mul_right _ inside

theorem Format.entryAt_congr {i : Nat} {other : Cells} (lawful : format.Lawful storable)
    (inside : i < format.count)
    (same : ∀ k, base ≤ k → k < base + format.page → cells k = other k) :
    format.entryAt cells base i = format.entryAt other base i := by
  have bound := Format.entry_end_le lawful inside
  exact slice_congr fun k _ => same _ (by omega) (by omega)

theorem Holds.congr {other : Cells} (lawful : format.Lawful storable)
    (same : ∀ k, base ≤ k → k < base + format.page → cells k = other k)
    (holds : Holds format cells base entries) : Holds format other base entries where
  fits := holds.fits
  valid i inside := by
    rw [← Format.entryAt_congr lawful (by have := holds.fits; omega) same]
    exact holds.valid i inside
  stop room := by
    rw [← Format.entryAt_congr lawful room same]
    refine ⟨(holds.stop room).1, fun free i low high => ?_⟩
    rw [← same i (by omega) high]
    exact (holds.stop room).2 free i low high

theorem Format.free_of_blank {n : Nat} (lawful : format.Lawful storable) (room : n < format.count)
    (blank : format.BlankFrom cells base n) : format.free (format.entryAt cells base n) = true := by
  have bound := Format.entry_end_le lawful room
  rw [lawful.free_iff _ (by simp)]
  intro byte member
  obtain ⟨i, inside, rfl⟩ := List.mem_iff_getElem.mp member
  rw [Format.entryAt_getElem]
  rw [Format.entryAt_length] at inside
  exact blank _ (by omega) (by omega)

/-- A blank tail stops both scans. -/
theorem Holds.of_blank (lawful : format.Lawful storable) (fits : entries.length ≤ format.count)
    (valid : ∀ i (inside : i < entries.length),
      format.decode (format.entryAt cells base i) = some entries[i])
    (blank : format.BlankFrom cells base entries.length) : Holds format cells base entries :=
  ⟨fits, valid, fun room =>
    ⟨lawful.decode_free _ (by simp) (Format.free_of_blank lawful room blank), fun _ => blank⟩⟩

theorem Holds.nil (lawful : format.Lawful storable) (blank : format.BlankFrom cells base 0) :
    Holds format cells base [] :=
  .of_blank lawful (Nat.zero_le _) (fun _ inside => absurd inside (Nat.not_lt_zero _)) blank

/-! ## The valid prefix -/

theorem Format.validFrom_length_le (format : Format α) (cells : Cells) (base fuel i : Nat) :
    (format.validFrom cells base fuel i).length ≤ fuel := by
  induction fuel generalizing i with
  | zero => exact Nat.le_refl 0
  | succ fuel ih =>
      unfold validFrom
      split
      · exact Nat.succ_le_succ (ih (i + 1))
      · exact Nat.zero_le _

theorem Format.decode_validFrom (format : Format α) (cells : Cells) (base fuel i k : Nat)
    {value : α} (entry : (format.validFrom cells base fuel i)[k]? = some value) :
    format.decode (format.entryAt cells base (i + k)) = some value := by
  induction fuel generalizing i k with
  | zero => cases entry
  | succ fuel ih =>
      unfold validFrom at entry
      cases decoded : format.decode (format.entryAt cells base i) with
      | none =>
          rw [decoded] at entry
          cases entry
      | some first =>
          rw [decoded] at entry
          cases k with
          | zero => exact decoded.trans entry
          | succ k =>
              have here := ih (i + 1) k entry
              rw [Nat.add_right_comm] at here
              exact here

/-- The scan depends on the entries it can reach only. -/
theorem Format.validFrom_congr (format : Format α) {first second : Cells} {base : Nat}
    {fuel i : Nat}
    (same : ∀ k, i ≤ k → k < i + fuel →
      format.entryAt first base k = format.entryAt second base k) :
    format.validFrom first base fuel i = format.validFrom second base fuel i := by
  induction fuel generalizing i with
  | zero => rfl
  | succ fuel ih =>
      unfold validFrom
      rw [same i (Nat.le_refl i) (by omega), ih fun k low high => same k (by omega) (by omega)]

/-- Behind a valid entry that follows the valid entries, the scan goes on. -/
theorem Format.validFrom_extend (format : Format α) {before after : Cells} {base : Nat} {value : α}
    (fuel i n : Nat) (stop : n = i + (format.validFrom before base fuel i).length)
    (room : n < i + fuel)
    (same : ∀ k, k ≠ n → format.entryAt after base k = format.entryAt before base k)
    (decoded : format.decode (format.entryAt after base n) = some value) :
    format.validFrom after base fuel i = format.validFrom before base fuel i ++
      value :: format.validFrom before base (i + fuel - (n + 1)) (n + 1) := by
  induction fuel generalizing i with
  | zero => omega
  | succ fuel ih =>
      rw [validFrom.eq_2 format before] at stop ⊢
      cases entry : format.decode (format.entryAt before base i) with
      | some found =>
          rw [entry] at stop
          have stop : n = i + 1 + (format.validFrom before base fuel (i + 1)).length := by
            rw [stop, List.length_cons]
            omega
          have rest := ih (i + 1) stop (by omega)
          rw [validFrom, same i (by omega), entry]
          dsimp only
          rw [rest, Nat.add_right_comm]
          rfl
      | none =>
          rw [entry] at stop
          obtain rfl : n = i := stop
          have left : n + (fuel + 1) - (n + 1) = fuel := by omega
          have behind : format.validFrom after base fuel (n + 1) =
              format.validFrom before base fuel (n + 1) :=
            format.validFrom_congr fun k low _ => same k (by omega)
          rw [validFrom, decoded, left]
          dsimp only
          rw [behind]
          rfl

theorem Holds.validFrom (holds : Holds format cells base entries) (fuel i : Nat)
    (total : fuel + i = format.count) (reached : i ≤ entries.length) :
    format.validFrom cells base fuel i = entries.drop i := by
  induction fuel generalizing i with
  | zero =>
      have full := holds.fits
      rw [List.drop_eq_nil_of_le (by omega)]
      rfl
  | succ fuel ih =>
      unfold Format.validFrom
      rcases Nat.lt_or_eq_of_le reached with inside | atEnd
      · rw [holds.valid i inside]
        dsimp only
        rw [ih (i + 1) (by omega) inside, List.drop_eq_getElem_cons inside]
      · subst atEnd
        rw [(holds.stop (by omega)).1, List.drop_length]

/-- A log is the valid prefix of its page. -/
theorem Holds.validPrefix (holds : Holds format cells base entries) :
    format.validPrefix cells base = entries :=
  holds.validFrom _ _ rfl (Nat.zero_le _)

/-! ## The two scans -/

variable {page : Nat}

/-- Reading a log changes nothing, and finds its latest valid entry. -/
theorem latest_validFrom (format : Format α) (base fuel i : Nat) (last : Option α)
    (chip : Chip page) :
    latest format base fuel i last chip =
      ((format.validFrom chip.cells base fuel i).getLast?.or last, chip) := by
  induction fuel generalizing i last with
  | zero => rfl
  | succ fuel ih =>
      rw [latest, Chip.read_eq, Format.validFrom]
      change (match format.decode (format.entryAt chip.cells base i) with
        | some value => latest format base fuel (i + 1) (some value) chip
        | none => (last, chip)) = _
      cases format.decode (format.entryAt chip.cells base i) with
      | none => rfl
      | some value =>
          dsimp only
          rw [ih (i + 1) (some value)]
          cases format.validFrom chip.cells base fuel (i + 1) <;> simp [List.getLast?_cons]

theorem latest_chip (format : Format α) (base fuel i : Nat) (last : Option α) (chip : Chip page) :
    (latest format base fuel i last chip).2 = chip := by
  rw [latest_validFrom]

theorem latest_validPrefix (format : Format α) (base : Nat) (chip : Chip page) :
    latest format base format.count 0 none chip =
      ((format.validPrefix chip.cells base).getLast?, chip) := by
  rw [latest_validFrom, Option.or_none]
  rfl

/-- The search for a blank entry stops where the valid ones do. -/
theorem findFree_validFrom (format : Format α) (base : Nat) (chip : Chip page) (fuel i n : Nat)
    (total : fuel + i = format.count)
    (stop : n = i + (format.validFrom chip.cells base fuel i).length) :
    findFree format base fuel i chip =
      (some (if n < format.count ∧ format.free (format.entryAt chip.cells base n) = true
        then n else format.count), chip) := by
  induction fuel generalizing i with
  | zero =>
      obtain rfl : n = i := stop
      rw [if_neg (by omega)]
      rfl
  | succ fuel ih =>
      rw [Format.validFrom] at stop
      rw [findFree, Chip.read_eq]
      change (match format.decode (format.entryAt chip.cells base i) with
        | none => (some (if format.free (format.entryAt chip.cells base i) then i
            else format.count), chip)
        | some _ => findFree format base fuel (i + 1) chip) = _
      cases decoded : format.decode (format.entryAt chip.cells base i) with
      | none =>
          rw [decoded] at stop
          obtain rfl : n = i := stop
          have room : n < format.count := by omega
          simp [room]
      | some value =>
          rw [decoded] at stop
          apply ih (i + 1) (by omega)
          rw [stop, List.length_cons]
          omega

/-- The value of a log is its latest entry. -/
theorem latest_eq (chip : Chip page) (holds : Holds format chip.cells base entries) :
    latest format base format.count 0 none chip = (entries.getLast?, chip) := by
  rw [latest_validPrefix, holds.validPrefix]

/-! ## Appending -/

/-- An entry of which only the bytes `written` have been programmed. -/
def Format.torn (format : Format α) (written : List UInt8) : List UInt8 :=
  written ++ List.replicate (format.size - written.length) 0xFF

theorem Format.torn_of_length (format : Format α) {written : List UInt8}
    (length : written.length = format.size) : format.torn written = written := by
  simp [torn, length]

/-- Programming a blank entry leaves the written bytes, then ones. -/
theorem Format.entryAt_program {n : Nat} {written : List UInt8} (lawful : format.Lawful storable)
    (room : n < format.count) (blank : format.BlankFrom cells base n)
    (short : written.length ≤ format.size) :
    format.entryAt (cells.program (base + n * format.size) written) base n =
      format.torn written := by
  have bound := Format.entry_end_le lawful room
  have split : format.size = written.length + (format.size - written.length) := by omega
  rw [Format.entryAt, Format.torn, split, slice_add, Nat.add_sub_cancel_left, ← split]
  congr 1
  · exact Cells.slice_program fun k small => blank _ (by omega) (by omega)
  · refine List.eq_replicate_iff.mpr ⟨slice_length _ _ _, fun byte member => ?_⟩
    obtain ⟨k, inside, rfl⟩ := List.mem_iff_getElem.mp member
    rw [slice_length] at inside
    rw [slice_getElem, Cells.program_outside _ (.inr (by omega))]
    exact blank _ (by omega) (by omega)

/-- Earlier entries are not touched by programming entry `n`. -/
theorem Format.entryAt_program_before {i n : Nat} (format : Format α) (cells : Cells)
    (base : Nat) (written : List UInt8) (before : i < n) :
    format.entryAt (cells.program (base + n * format.size) written) base i =
      format.entryAt cells base i := by
  refine slice_congr fun k small => Cells.program_outside _ (.inl ?_)
  have below := Nat.mul_le_mul_right format.size before
  rw [Nat.succ_mul] at below
  omega

section Written

variable {written : List UInt8} (lawful : format.Lawful storable)
  (room : entries.length < format.count)
  (valid : ∀ i (inside : i < entries.length),
    format.decode (format.entryAt cells base i) = some entries[i])
  (blank : format.BlankFrom cells base entries.length)
  (short : written.length ≤ format.size)

include lawful room valid blank short

/-- Bytes that read as a valid entry extend the log, whether or not they are complete. -/
theorem Holds.push {value : α} (decoded : format.decode (format.torn written) = some value) :
    Holds format (cells.program (base + entries.length * format.size) written) base
      (entries ++ [value]) := by
  have bound := Format.entry_end_le lawful room
  apply Holds.of_blank lawful
  · simp
    omega
  · intro i inside
    rcases Nat.lt_or_ge i entries.length with old | new
    · rw [List.getElem_append_left old, Format.entryAt_program_before _ _ _ _ old]
      exact valid i old
    · obtain rfl : i = entries.length := by
        simp at inside
        omega
      rw [List.getElem_append_right (Nat.le_refl _), Format.entryAt_program lawful room blank short]
      simpa using decoded
  · intro i low high
    rw [List.length_append, List.length_singleton, Nat.succ_mul] at low
    rw [Cells.program_outside _ (.inr (by omega))]
    exact blank i (by omega) high

/-- Bytes that do not read as a valid entry leave the log as it was. -/
theorem Holds.spoil (decoded : format.decode (format.torn written) = none) :
    Holds format (cells.program (base + entries.length * format.size) written) base entries where
  fits := Nat.le_of_lt room
  valid i inside := by
    rw [Format.entryAt_program_before _ _ _ _ inside]
    exact valid i inside
  stop _ := by
    rw [Format.entryAt_program lawful room blank short]
    refine ⟨decoded, fun free i low high => ?_⟩
    have ones := (lawful.free_iff _ (by simp [Format.torn, short])).mp free
    rcases Nat.lt_or_ge i (base + entries.length * format.size + written.length) with near | far
    · obtain ⟨k, rfl⟩ := Nat.exists_eq_add_of_le low
      have inside : k < written.length := by omega
      rw [Cells.program_inside _ inside, blank _ (by omega) high, erased_and]
      exact ones _ (List.mem_append_left _ (List.getElem_mem inside))
    · rw [Cells.program_outside _ (.inr far)]
      exact blank i low high

/-- What a scan finds once an entry is partly programmed. -/
theorem latest_program (chip : Chip page)
    (programmed : chip.cells = cells.program (base + entries.length * format.size) written) :
    latest format base format.count 0 none chip =
      ((format.decode (format.torn written)).or entries.getLast?, chip) := by
  cases decoded : format.decode (format.torn written) with
  | some value =>
      have holds := Holds.push lawful room valid blank short decoded
      rw [latest_eq chip (programmed ▸ holds)]
      simp
  | none =>
      have holds := Holds.spoil lawful room valid blank short decoded
      rw [latest_eq chip (programmed ▸ holds)]
      rfl

end Written

/-- The blank entry an append goes into; `none` when it erases the page first. -/
def Format.place (format : Format α) (cells : Cells) (base : Nat) (entries : List α) : Option Nat :=
  if entries.length < format.count ∧
      format.free (format.entryAt cells base entries.length) = true
  then some entries.length else none

/-- The flash steps of an append. -/
def Format.appendSteps (format : Format α) (base : Nat) (value : α) : Option Nat → List FlashStep
  | some n => wordSteps (base + n * format.size) (format.encode value)
  | none => .erase base (base + format.page) :: wordSteps base (format.encode value)

/-- The entries of the page after an append. -/
def appended (entries : List α) (value : α) : Option Nat → List α
  | some _ => entries ++ [value]
  | none => [value]

@[simp]
theorem appended_getLast? (entries : List α) (value : α) (place : Option Nat) :
    (appended entries value place).getLast? = some value := by
  cases place <;> simp [appended]

/-- Words and pages are aligned for the driver. -/
structure Format.Aligned (format : Format α) (page base : Nat) : Prop where
  page_eq : format.page = page
  base_page : base % page = 0
  base_word : base % 4 = 0
  size_word : format.size % 4 = 0

/-- The steps of an append to any page. -/
theorem append_validPrefix (lawful : format.Lawful storable) (aligned : format.Aligned page base)
    (chip : Chip page) (value : α) :
    append format base value chip =
      chip.perform (format.appendSteps base value
        (format.place chip.cells base (format.validPrefix chip.cells base))) := by
  have encoded : (format.encode value).length % 4 = 0 := by
    rw [lawful.encode_length, aligned.size_word]
  have positive : 0 < page := aligned.page_eq ▸ lawful.page_pos
  have found := findFree_validFrom format base chip format.count 0
    (format.validPrefix chip.cells base).length rfl (Nat.zero_add _).symm
  rw [append, found, Format.place]
  dsimp only
  split
  case isTrue room =>
    rw [if_neg (by omega)]
    have word : (base + (format.validPrefix chip.cells base).length * format.size) % 4 = 0 := by
      simp [Nat.add_mod, Nat.mul_mod, aligned.base_word, aligned.size_word]
    rw [Chip.write_eq chip word encoded]
    rfl
  case isFalse full =>
    have erased := Chip.erase_eq chip base 1 positive aligned.base_page
    rw [Nat.one_mul] at erased
    rw [if_pos (Nat.le_refl _), aligned.page_eq, erased]
    dsimp only
    rw [Chip.write_eq _ aligned.base_word encoded]
    simp only [Chip.perform, Format.appendSteps, pageSteps, aligned.page_eq, List.append_assoc,
      List.singleton_append]
    rfl

theorem append_eq (lawful : format.Lawful storable) (aligned : format.Aligned page base)
    (chip : Chip page) (holds : Holds format chip.cells base entries) (value : α) :
    append format base value chip =
      chip.perform (format.appendSteps base value (format.place chip.cells base entries)) := by
  rw [append_validPrefix lawful aligned, holds.validPrefix]

theorem encode_words (lawful : format.Lawful storable) (aligned : format.Aligned page base)
    (value : α) : (format.encode value).length = 4 * (format.size / 4) := by
  have whole := aligned.size_word
  rw [lawful.encode_length]
  omega

theorem Format.place_some {n : Nat} (found : format.place cells base entries = some n) :
    n = entries.length ∧ n < format.count ∧
      format.free (format.entryAt cells base n) = true := by
  unfold Format.place at found
  split at found
  case isTrue room =>
    cases found
    exact ⟨rfl, room⟩
  case isFalse => cases found

theorem Format.count_pos (lawful : format.Lawful storable) : 0 < format.count := by
  have positive := lawful.page_pos
  rw [lawful.page_eq] at positive
  exact Nat.pos_of_mul_pos_right positive

theorem BlankFrom.erased (format : Format α) (cells : Cells) (base : Nat) :
    format.BlankFrom (cells.erase base (base + format.page)) base 0 :=
  fun _ low high => Cells.erase_inside _ (by omega) high

/-! ## Appending to any page -/

/-- An entry of which every byte is written is read back, if it was blank. -/
theorem Format.entryAt_program_free {n : Nat} {written : List UInt8}
    (lawful : format.Lawful storable) (free : format.free (format.entryAt cells base n) = true)
    (length : written.length = format.size) :
    format.entryAt (cells.program (base + n * format.size) written) base n = written := by
  have ones := (lawful.free_iff _ (by simp)).mp free
  unfold Format.entryAt
  rw [← length]
  apply Cells.slice_program
  intro k inside
  have small : k < (format.entryAt cells base n).length := by simpa [← length] using inside
  rw [length, ← Format.entryAt_getElem format cells base n k small]
  exact ones _ (List.getElem_mem small)

theorem Format.entryAt_program_ne {k n : Nat} {written : List UInt8} (format : Format α)
    (cells : Cells) (base : Nat) (short : written.length ≤ format.size) (apart : k ≠ n) :
    format.entryAt (cells.program (base + n * format.size) written) base k =
      format.entryAt cells base k := by
  rcases Nat.lt_or_gt_of_ne apart with before | behind
  · exact format.entryAt_program_before cells base written before
  · have above := Nat.mul_le_mul_right format.size behind
    rw [Nat.succ_mul] at above
    exact slice_congr fun i _ => Cells.program_outside _ (.inr (by omega))

/-- The valid entries that directly follow the blank one an append goes into. -/
def Format.behind (format : Format α) (cells : Cells) (base : Nat) : List α :=
  match format.place cells base (format.validPrefix cells base) with
  | some n => format.validFrom cells base (format.count - (n + 1)) (n + 1)
  | none => []

theorem append_validPrefix_none (lawful : format.Lawful storable)
    (aligned : format.Aligned page base) (chip : Chip page) {value : α} (storing : storable value)
    (found : format.place chip.cells base (format.validPrefix chip.cells base) = none) :
    Holds format (append format base value chip).cells base [value] := by
  have words := encode_words lawful aligned value
  have length := lawful.encode_length value
  have decoded : format.decode (format.torn (format.encode value)) = some value := by
    rw [Format.torn_of_length _ length, lawful.decode_encode value storing]
  have room : ([] : List α).length < format.count := Format.count_pos lawful
  have pushed := Holds.push lawful room (fun _ inside => absurd inside (Nat.not_lt_zero _))
    (BlankFrom.erased format chip.cells base) (Nat.le_of_eq length) decoded
  rw [List.length_nil, Nat.zero_mul, Nat.add_zero, ← applySteps_wordSteps _ _ _ _ words] at pushed
  rw [append_validPrefix lawful aligned, found]
  exact pushed

theorem append_validPrefix_some (lawful : format.Lawful storable)
    (aligned : format.Aligned page base) (chip : Chip page) {value : α} (storing : storable value)
    {n : Nat} (found : format.place chip.cells base (format.validPrefix chip.cells base) = some n) :
    format.validPrefix (append format base value chip).cells base =
      format.validPrefix chip.cells base ++ value :: format.behind chip.cells base := by
  have words := encode_words lawful aligned value
  have length := lawful.encode_length value
  obtain ⟨stop, room, free⟩ := Format.place_some found
  have cells_eq : (append format base value chip).cells =
      chip.cells.program (base + n * format.size) (format.encode value) := by
    rw [append_validPrefix lawful aligned, found]
    exact applySteps_wordSteps _ _ _ _ words
  have stored : format.decode (format.entryAt (append format base value chip).cells base n) =
      some value := by
    rw [cells_eq, Format.entryAt_program_free lawful free length,
      lawful.decode_encode value storing]
  have extended := format.validFrom_extend format.count 0 n (stop.trans (Nat.zero_add _).symm)
    (by omega) (fun k apart => by
      rw [cells_eq]
      exact format.entryAt_program_ne _ base (Nat.le_of_eq length) apart) stored
  rw [Nat.zero_add] at extended
  unfold Format.behind
  rw [found]
  exact extended

/-- What is found after an append to any page. -/
theorem append_latest (lawful : format.Lawful storable) (aligned : format.Aligned page base)
    (chip : Chip page) {value : α} (storing : storable value) :
    (latest format base format.count 0 none (append format base value chip)).1 =
      (format.behind chip.cells base).getLast?.or (some value) := by
  rw [latest_validPrefix]
  cases found : format.place chip.cells base (format.validPrefix chip.cells base) with
  | none =>
      rw [(append_validPrefix_none lawful aligned chip storing found).validPrefix, Format.behind,
        found]
      rfl
  | some n =>
      rw [append_validPrefix_some lawful aligned chip storing found]
      cases format.behind chip.cells base <;> simp [List.getLast?_cons]

/-- An appended value is found unless other valid entries hide it. -/
theorem append_latest_iff (lawful : format.Lawful storable) (aligned : format.Aligned page base)
    (chip : Chip page) {value : α} (storing : storable value) :
    (latest format base format.count 0 none (append format base value chip)).1 = some value ↔
      ∀ last ∈ (format.behind chip.cells base).getLast?, last = value := by
  rw [append_latest lawful aligned chip storing]
  cases (format.behind chip.cells base).getLast? <;> simp

/-! ## Appending to a log -/

/-- A page that holds `entries` holds the appended value after them, or alone. -/
theorem append_holds (lawful : format.Lawful storable) (aligned : format.Aligned page base)
    (chip : Chip page) (holds : Holds format chip.cells base entries) {value : α}
    (storing : storable value) :
    Holds format (append format base value chip).cells base
      (appended entries value (format.place chip.cells base entries)) := by
  have found_eq : format.place chip.cells base (format.validPrefix chip.cells base) =
      format.place chip.cells base entries := by
    rw [holds.validPrefix]
  cases found : format.place chip.cells base entries with
  | some n =>
      have words := encode_words lawful aligned value
      have length := lawful.encode_length value
      have decoded : format.decode (format.torn (format.encode value)) = some value := by
        rw [Format.torn_of_length _ length, lawful.decode_encode value storing]
      obtain ⟨rfl, room, free⟩ := Format.place_some found
      have pushed := Holds.push lawful room holds.valid ((holds.stop room).2 free)
        (Nat.le_of_eq length) decoded
      rw [← applySteps_wordSteps _ _ _ _ words] at pushed
      rw [append_eq lawful aligned chip holds, found]
      exact pushed
  | none => exact append_validPrefix_none lawful aligned chip storing (found_eq.trans found)

/-! ## Power loss during an append -/

theorem wordSteps_take (offset : Nat) (bytes : List UInt8) (done count : Nat)
    (length : bytes.length = 4 * count) :
    (wordSteps offset bytes).take done = wordSteps offset (bytes.take (4 * done)) := by
  rcases Nat.le_total count done with all | some
  · rw [List.take_of_length_le (by rw [wordSteps_length _ _ _ length]; exact all),
      List.take_of_length_le (by omega)]
  · have head : (bytes.take (4 * done)).length = 4 * done := by simp; omega
    conv_lhs => rw [← List.take_append_drop (4 * done) bytes]
    rw [wordSteps_append _ _ _ _ head, List.take_append_of_le_length, List.take_of_length_le]
    · exact Nat.le_of_eq (wordSteps_length _ _ _ head)
    · exact Nat.le_of_eq (wordSteps_length _ _ _ head).symm

theorem applySteps_take_wordSteps (cells : Cells) (offset : Nat) (bytes : List UInt8)
    (done count : Nat) (length : bytes.length = 4 * count) :
    applySteps cells ((wordSteps offset bytes).take done) =
      cells.program offset (bytes.take (4 * done)) := by
  rw [wordSteps_take _ _ _ _ length]
  exact applySteps_wordSteps _ _ _ (min done count) (by simp; omega)

/--
What is left of a log when an append is cut off after `done` steps. Into a blank
entry every step programs one word; on a page that has to be erased first, the
old value is gone with the first step.
-/
def Format.cutValue (format : Format α) (entries : List α) (value : α) :
    Option Nat → Nat → Option α
  | some _, done =>
      (format.decode (format.torn ((format.encode value).take (4 * done)))).or entries.getLast?
  | none, 0 => entries.getLast?
  | none, done + 1 => format.decode (format.torn ((format.encode value).take (4 * done)))

theorem latest_cut (lawful : format.Lawful storable) (aligned : format.Aligned page base)
    (chip cut : Chip page) (holds : Holds format chip.cells base entries) (value : α) (done : Nat)
    (cells_eq : cut.cells = applySteps chip.cells
      ((format.appendSteps base value (format.place chip.cells base entries)).take done)) :
    (latest format base format.count 0 none cut).1 =
      format.cutValue entries value (format.place chip.cells base entries) done := by
  have words := encode_words lawful aligned value
  have length := lawful.encode_length value
  have short (k : Nat) : ((format.encode value).take k).length ≤ format.size := by simp; omega
  cases found : format.place chip.cells base entries with
  | some n =>
      obtain ⟨rfl, room, free⟩ := Format.place_some found
      rw [found, Format.appendSteps, applySteps_take_wordSteps _ _ _ _ _ words] at cells_eq
      rw [latest_program lawful room holds.valid ((holds.stop room).2 free) (short _) cut cells_eq]
      rfl
  | none =>
      rw [found, Format.appendSteps] at cells_eq
      cases done with
      | zero =>
          change cut.cells = chip.cells at cells_eq
          rw [latest_eq cut (cells_eq ▸ holds)]
          rfl
      | succ done =>
          rw [List.take_succ_cons] at cells_eq
          change cut.cells = applySteps (chip.cells.erase base (base + format.page)) _ at cells_eq
          rw [applySteps_take_wordSteps _ _ _ _ _ words] at cells_eq
          have room : ([] : List α).length < format.count := Format.count_pos lawful
          rw [latest_program lawful room (fun _ inside => absurd inside (Nat.not_lt_zero _))
            (BlankFrom.erased format chip.cells base) (short _) cut (by simpa using cells_eq)]
          exact Option.or_none

/-- Nothing outside its page changes during an append. -/
theorem append_outside (lawful : format.Lawful storable) (aligned : format.Aligned page base)
    (chip : Chip page) (holds : Holds format chip.cells base entries) (value : α) {i : Nat}
    (outside : i < base ∨ base + format.page ≤ i) :
    (append format base value chip).cells i = chip.cells i := by
  rw [append_eq lawful aligned chip holds]
  have words := encode_words lawful aligned value
  have length := lawful.encode_length value
  change applySteps chip.cells _ i = _
  cases found : format.place chip.cells base entries with
  | some n =>
      have bound := Format.entry_end_le lawful (Format.place_some found).2.1
      rw [Format.appendSteps, applySteps_wordSteps _ _ _ _ words]
      exact Cells.program_outside _ (by omega)
  | none =>
      have bound := Format.entry_end_le lawful (Format.count_pos lawful)
      change applySteps (chip.cells.erase base (base + format.page)) _ i = _
      rw [applySteps_wordSteps _ _ _ _ words, Cells.program_outside _ (by omega)]
      exact Cells.erase_outside _ outside

end Lawful

end NrfUnifying.Lib.AppendLog
