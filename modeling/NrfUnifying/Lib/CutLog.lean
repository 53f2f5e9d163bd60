import NrfUnifying.Lib.AppendLog

/-!
# Append-only logs through power losses

Power may go between two flash steps of an append. When every started entry of a
format reads as some value, the page stays a log with blank bytes behind it,
whatever was cut off, and its entries are known exactly.
-/

namespace NrfUnifying.Lib.CutLog

open Lib.Bytes Lib.Flash Lib.AppendLog

variable {α : Type}

/-- The page holds these entries, oldest first, and is blank behind them. -/
structure Clean (format : Format α) (cells : Cells) (base : Nat) (entries : List α) : Prop where
  fits : entries.length ≤ format.count
  valid : ∀ i (inside : i < entries.length),
    format.decode (format.entryAt cells base i) = some entries[i]
  blank : format.BlankFrom cells base entries.length

/-- What an entry reads as when only its first words were programmed. -/
def started (format : Format α) (value : α) (words : Nat) : Option α :=
  format.decode (format.torn ((format.encode value).take (4 * words)))

/-- An entry reads as a value from its first word on. -/
def Tearable (format : Format α) (storable : α → Prop) : Prop :=
  ∀ value words, storable value → 0 < words → (started format value words).isSome = true

/-- The entries after a complete append. -/
def push (format : Format α) (entries : List α) (value : α) : List α :=
  if entries.length < format.count then entries ++ [value] else [value]

/-- The entries after the first `done` flash steps of an append; a full page is erased first. -/
def pushCut (format : Format α) (entries : List α) (value : α) (done : Nat) : List α :=
  if entries.length < format.count then entries ++ (started format value done).toList
  else
    match done with
    | 0 => entries
    | done + 1 => (started format value done).toList

/-- What an append leaves last. -/
theorem push_getLast? (format : Format α) (entries : List α) (value : α) :
    (push format entries value).getLast? = some value := by
  unfold push
  split
  · exact List.getLast?_concat
  · rfl

theorem pushCut_getLast? (format : Format α) (entries : List α) (value : α)
    (done : Nat) :
    (pushCut format entries value done).getLast? = entries.getLast? ∨
      (pushCut format entries value done).getLast? = none ∨
      ∃ words, (pushCut format entries value done).getLast? = started format value words ∧
        (started format value words).isSome = true := by
  have reading (words : Nat) (front : List α) :
      (front ++ (started format value words).toList).getLast? = front.getLast? ∨
        (front ++ (started format value words).toList).getLast? = started format value words ∧
          (started format value words).isSome = true := by
    cases reads : started format value words with
    | none =>
        rw [Option.toList_none, List.append_nil]
        exact .inl rfl
    | some torn =>
        rw [Option.toList_some, List.getLast?_concat]
        exact .inr ⟨rfl, rfl⟩
  unfold pushCut
  split
  · rcases reading done entries with old | new
    · exact .inl old
    · exact .inr (.inr ⟨done, new⟩)
  · split
    · exact .inl rfl
    next done =>
      rcases reading done [] with old | new
      · exact .inr (.inl old)
      · exact .inr (.inr ⟨done, new⟩)

section Lawful

variable {format : Format α} {storable : α → Prop} {base : Nat} {cells : Cells}
  {entries : List α} {value : α}

theorem Clean.holds (lawful : format.Lawful storable) (clean : Clean format cells base entries) :
    Holds format cells base entries :=
  .of_blank lawful clean.fits clean.valid clean.blank

theorem Clean.nil (blank : format.BlankFrom cells base 0) : Clean format cells base [] :=
  ⟨Nat.zero_le _, fun _ inside => absurd inside (Nat.not_lt_zero _), blank⟩

theorem Clean.congr {other : Cells} (lawful : format.Lawful storable)
    (same : ∀ i, base ≤ i → i < base + format.page → other i = cells i)
    (clean : Clean format cells base entries) : Clean format other base entries where
  fits := clean.fits
  valid i inside := by
    have unchanged : format.entryAt cells base i = format.entryAt other base i :=
      Format.entryAt_congr lawful (Nat.lt_of_lt_of_le inside clean.fits)
        fun k low high => (same k low high).symm
    rw [← unchanged]
    exact clean.valid i inside
  blank i low high := by
    rw [same i (by omega) high]
    exact clean.blank i low high

/-- A page with room has its first blank entry behind the others. -/
theorem Clean.place (lawful : format.Lawful storable) (clean : Clean format cells base entries) :
    format.place cells base entries =
      if entries.length < format.count then some entries.length else none := by
  rw [Format.place]
  by_cases room : entries.length < format.count
  · rw [if_pos room, if_pos ⟨room, Format.free_of_blank lawful room clean.blank⟩]
  · rw [if_neg room, if_neg fun both => room both.1]

/-- An entry whose first word is missing is blank. -/
theorem started_zero (lawful : format.Lawful storable) (value : α) :
    started format value 0 = none := by
  have free := lawful.free_iff (format.torn []) (by simp [Format.torn])
  unfold started
  rw [Nat.mul_zero, List.take_zero]
  refine lawful.decode_free _ (by simp [Format.torn]) (free.mpr fun byte member => ?_)
  exact List.eq_of_mem_replicate member

/-- The first words of one more entry. -/
theorem Clean.program (lawful : format.Lawful storable) (tearable : Tearable format storable)
    (storing : storable value) (room : entries.length < format.count)
    (clean : Clean format cells base entries) (words : Nat) :
    Clean format (cells.program (base + entries.length * format.size)
      ((format.encode value).take (4 * words))) base
        (entries ++ (started format value words).toList) := by
  have bound := Format.entry_end_le lawful room
  have short : ((format.encode value).take (4 * words)).length ≤ format.size := by
    rw [List.length_take, lawful.encode_length]
    exact Nat.min_le_right _ _
  cases words with
  | zero =>
      rw [started_zero lawful, Nat.mul_zero, List.take_zero, Cells.program_nil]
      exact (List.append_nil entries).symm ▸ clean
  | succ words =>
      obtain ⟨torn, reads⟩ :=
        Option.isSome_iff_exists.mp (tearable value (words + 1) storing (Nat.succ_pos _))
      have pushed := Holds.push lawful room clean.valid clean.blank short reads
      rw [reads]
      refine ⟨pushed.fits, pushed.valid, fun i low high => ?_⟩
      rw [Option.toList_some, List.length_append, List.length_singleton, Nat.succ_mul] at low
      rw [Cells.program_outside _ (.inr (by omega))]
      exact clean.blank i (by omega) high

variable {page : Nat}

/-- Power goes after some steps of an append. -/
theorem Clean.cut (lawful : format.Lawful storable) (tearable : Tearable format storable)
    (aligned : format.Aligned page base) (storing : storable value) {chip : Chip page}
    (clean : Clean format chip.cells base entries) (done : Nat) :
    Clean format (applySteps chip.cells ((format.appendSteps base value
      (format.place chip.cells base entries)).take done)) base
        (pushCut format entries value done) := by
  have words := encode_words lawful aligned value
  rw [clean.place lawful]
  unfold pushCut
  by_cases room : entries.length < format.count
  · rw [if_pos room, if_pos room, Format.appendSteps, applySteps_take_wordSteps _ _ _ _ _ words]
    exact clean.program lawful tearable storing room done
  · rw [if_neg room, if_neg room]
    cases done with
    | zero => exact clean
    | succ done =>
        have empty : ([] : List α).length < format.count := Format.count_pos lawful
        have erased := (Clean.nil (BlankFrom.erased format chip.cells base)).program lawful tearable
          storing empty done
        rw [List.length_nil, Nat.zero_mul, Nat.add_zero, List.nil_append,
          ← applySteps_take_wordSteps _ _ _ _ _ words] at erased
        exact erased

/-- All steps of an append. -/
theorem Clean.append (lawful : format.Lawful storable) (aligned : format.Aligned page base)
    (storing : storable value) {chip : Chip page} (clean : Clean format chip.cells base entries) :
    Clean format (append format base value chip).cells base (push format entries value) := by
  have words := encode_words lawful aligned value
  have holds := append_holds lawful aligned chip (clean.holds lawful) storing
  have places := clean.place lawful
  rw [append_eq lawful aligned chip (clean.holds lawful)] at holds ⊢
  rw [places] at holds ⊢
  have length := lawful.encode_length value
  unfold push
  by_cases room : entries.length < format.count
  · rw [if_pos room] at holds ⊢
    rw [if_pos room]
    refine ⟨holds.fits, holds.valid, fun i low high => ?_⟩
    change base + (entries ++ [value]).length * format.size ≤ i at low
    rw [List.length_append, List.length_singleton, Nat.succ_mul] at low
    change applySteps chip.cells (wordSteps _ (format.encode value)) i = _
    rw [applySteps_wordSteps _ _ _ _ words, Cells.program_outside _ (.inr (by omega))]
    exact clean.blank i (by omega) high
  · rw [if_neg room] at holds ⊢
    rw [if_neg room]
    refine ⟨holds.fits, holds.valid, fun i low high => ?_⟩
    rw [List.length_singleton, Nat.one_mul] at low
    change applySteps (chip.cells.erase base (base + format.page)) (wordSteps base _) i = _
    rw [applySteps_wordSteps _ _ _ _ words, Cells.program_outside _ (.inr (by omega))]
    exact Cells.erase_inside _ (by omega) high

/-- Nothing outside the page changes while an append goes on. -/
theorem Clean.cut_outside (lawful : format.Lawful storable) (aligned : format.Aligned page base)
    {chip : Chip page} (clean : Clean format chip.cells base entries) (value : α) (done : Nat)
    {i : Nat} (outside : i < base ∨ base + format.page ≤ i) :
    applySteps chip.cells ((format.appendSteps base value
      (format.place chip.cells base entries)).take done) i = chip.cells i := by
  have words := encode_words lawful aligned value
  have short (count : Nat) : ((format.encode value).take count).length ≤ format.size := by
    rw [List.length_take, lawful.encode_length]
    exact Nat.min_le_right _ _
  rw [clean.place lawful]
  by_cases room : entries.length < format.count
  · have bound := Format.entry_end_le lawful room
    have most := short (4 * done)
    rw [if_pos room, Format.appendSteps, applySteps_take_wordSteps _ _ _ _ _ words]
    exact Cells.program_outside _ (by omega)
  · rw [if_neg room]
    cases done with
    | zero => rfl
    | succ done =>
        have bound := Format.entry_end_le lawful (Format.count_pos lawful)
        have most := short (4 * done)
        change applySteps (chip.cells.erase base (base + format.page))
          ((wordSteps base (format.encode value)).take done) i = _
        rw [applySteps_take_wordSteps _ _ _ _ _ words, Cells.program_outside _ (by omega)]
        exact Cells.erase_outside _ outside

end Lawful

end NrfUnifying.Lib.CutLog
