import NrfUnifying.Storage.Refinement

/-!
# Power loss during a profile save

`save` programs the eight words of a record in ascending order, on a full page
after erasing it. A cut leaves a record whose missing words are all ones, and
the magic word that makes it valid is the first one written.
-/

namespace NrfUnifying.Storage

open Lib.Bytes Lib.Flash Lib.AppendLog

/-- A slot page that is a valid log: the records, then erased bytes. -/
structure ValidLog (flash : Nvmc) (slot : UInt8) (records : List Profile) : Prop where
  fits : records.length ≤ slotsPerPage
  valid : ∀ i (inside : i < records.length),
    decode (profileFormat.entryAt flash.cells (pageBase slot) i) = some records[i]
  blank : profileFormat.BlankFrom flash.cells (pageBase slot) records.length

/-- The flash when power is lost after `done` flash steps of a save. -/
def cutSave (flash : Nvmc) (slot : UInt8) (profile : Profile) (done : Nat) : Nvmc :=
  { cells := applySteps flash.cells
      ((save ({ cells := flash.cells } : Nvmc) slot profile).steps.take done) }

/-- The profile with ones in every field byte behind the first `words` words of its record. -/
def Profile.cut (profile : Profile) (words : Nat) : Profile where
  address := .ofFn fun i => if 4 + i < 4 * words then profile.address[i] else 0xFF
  aesKey := .ofFn fun i => if 12 + i < 4 * words then profile.aesKey[i] else 0xFF
  aesCounter := if 28 < 4 * words then profile.aesCounter else 0xFFFFFFFF
  channel := if 9 < 4 * words then profile.channel else 0xFF

theorem torn_getD {bytes : List UInt8} (length : bytes.length = 32) (n i : Nat) (inside : i < 32) :
    (profileFormat.torn (bytes.take n)).getD i 0 = if i < n then bytes.getD i 0 else 0xFF := by
  rw [Format.torn]
  split
  next below =>
    rw [List.getD_append _ _ _ _ (by simp; omega)]
    simp [List.getD_eq_getElem?_getD, below]
  next above =>
    rw [List.getD_append_right _ _ _ _ (by simp; omega)]
    rw [List.getD_replicate _ (by simp [profileFormat, recordSize]; omega)]

/-- A cut record is valid as soon as its magic word is there. -/
theorem decode_torn (profile : Profile) {words : Nat} (started : 0 < words) :
    decode (profileFormat.torn ((encode profile).take (4 * words))) = some (profile.cut words) := by
  have byte := torn_getD (encode_length profile) (4 * words)
  have word : ofLe32 (profileFormat.torn ((encode profile).take (4 * words))) = magic := by
    rw [← encode_magic profile]
    refine ofLe32_congr fun i inside => ?_
    rw [byte i (by omega), if_pos (by omega)]
  rw [decode, if_neg (by simp [word]), byte 9 (by omega), encode_channel]
  refine congrArg some ?_
  rw [Profile.cut, Profile.mk.injEq]
  refine ⟨?_, ?_, ?_, rfl⟩
  · refine Vector.ext fun i inside => ?_
    have field := congrArg (·[i]) (encode_address profile)
    simp only [Vector.getElem_ofFn] at field ⊢
    rw [byte _ (by omega), field]
    rfl
  · refine Vector.ext fun i inside => ?_
    have field := congrArg (·[i]) (encode_aesKey profile)
    simp only [Vector.getElem_ofFn] at field ⊢
    rw [byte _ (by omega), field]
    rfl
  · have tail (i : Nat) (inside : i < 4) :
        ((profileFormat.torn ((encode profile).take (4 * words))).drop 28).getD i 0 =
          if 28 < 4 * words then ((encode profile).drop 28).getD i 0 else 0xFF := by
      rw [List.getD_eq_getElem?_getD, List.getElem?_drop, ← List.getD_eq_getElem?_getD,
        byte _ (by omega), List.getD_eq_getElem?_getD (l := List.drop _ _), List.getElem?_drop,
        ← List.getD_eq_getElem?_getD]
      congr 1
      rw [eq_iff_iff]
      omega
    split
    next whole =>
      rw [← encode_aesCounter profile]
      exact ofLe32_congr fun i inside => by rw [tail i inside, if_pos whole]
    next part =>
      rw [show (0xFFFFFFFF : UInt32) = ofLe32 (List.replicate 4 0xFF) by decide]
      refine ofLe32_congr fun i inside => ?_
      rw [tail i inside, if_neg part, List.getD_replicate _ inside]

theorem Profile.cut_all (profile : Profile) {words : Nat} (all : 8 ≤ words) :
    profile.cut words = profile := by
  obtain ⟨address, aesKey, aesCounter, channel⟩ := profile
  rw [Profile.cut, Profile.mk.injEq]
  refine ⟨Vector.ext fun i inside => ?_, Vector.ext fun i inside => ?_, if_pos (by omega),
    if_pos (by omega)⟩
  · rw [Vector.getElem_ofFn]
    exact if_pos (by omega)
  · rw [Vector.getElem_ofFn]
    exact if_pos (by omega)

section Cut

variable {flash : Nvmc} {slot : UInt8} {records : List Profile}

theorem ValidLog.holds (log : ValidLog flash slot records) :
    Holds profileFormat flash.cells (pageBase slot) records :=
  .of_blank profileFormat_lawful log.fits log.valid log.blank

theorem ValidLog.load (log : ValidLog flash slot records) (inside : slot < maxProfiles) :
    (Storage.load flash slot).1 = records.getLast? := by
  rw [Storage.load, if_neg (UInt8.not_le.mpr inside)]
  exact congrArg Prod.fst (latest_eq flash log.holds)

theorem ValidLog.place (log : ValidLog flash slot records) :
    profileFormat.place flash.cells (pageBase slot) records =
      if records.length < slotsPerPage then some records.length else none := by
  rw [Format.place]
  by_cases room : records.length < slotsPerPage
  · rw [if_pos room, if_pos ⟨room, Format.free_of_blank profileFormat_lawful room log.blank⟩]
  · rw [if_neg room, if_neg fun both => room both.1]

/-- The record words that have been programmed after `done` flash steps of a save. -/
def programmed (records : List Profile) (done : Nat) : Nat :=
  if records.length < slotsPerPage then done else done - 1

/-- After the first word of the record, the slot holds the cut record. -/
theorem ValidLog.load_cutSave (log : ValidLog flash slot records) (inside : slot < maxProfiles)
    (profile : Profile) (done : Nat) :
    (Storage.load (cutSave flash slot profile done) slot).1 =
      if done = 0 then records.getLast?
      else if programmed records done = 0 then none
      else some (profile.cut (programmed records done)) := by
  have steps : (save ({ cells := flash.cells } : Nvmc) slot profile).steps =
      profileFormat.appendSteps (pageBase slot) profile
        (profileFormat.place flash.cells (pageBase slot) records) := by
    rw [save, if_neg (UInt8.not_le.mpr inside), append_eq profileFormat_lawful
      profileFormat_aligned ({ cells := flash.cells } : Nvmc) log.holds]
    rfl
  have found := latest_cut profileFormat_lawful profileFormat_aligned flash
    (cutSave flash slot profile done) log.holds profile done (by rw [cutSave, steps])
  rw [Storage.load, if_neg (UInt8.not_le.mpr inside)]
  refine found.trans ?_
  have blank : decode (profileFormat.torn []) = none := by decide
  rw [log.place]
  by_cases room : records.length < slotsPerPage
  · rw [if_pos room, programmed, if_pos room]
    change (decode (profileFormat.torn ((encode profile).take (4 * done)))).or _ = _
    rcases Nat.eq_zero_or_pos done with rfl | started
    · rw [Nat.mul_zero, List.take_zero, blank]
      rfl
    · rw [if_neg (by omega), if_neg (by omega), decode_torn profile started]
      rfl
  · rw [if_neg room, programmed, if_neg room]
    cases done with
    | zero => rfl
    | succ done =>
        rw [if_neg (by omega), Nat.add_sub_cancel]
        change decode (profileFormat.torn ((encode profile).take (4 * done))) = _
        rcases Nat.eq_zero_or_pos done with rfl | started
        · rw [Nat.mul_zero, List.take_zero, blank]
          rfl
        · rw [if_neg (by omega), decode_torn profile started]

/-- A full page has an old value to lose. -/
theorem ValidLog.ne_nil (full : ¬ records.length < slotsPerPage) : records.getLast? ≠ none := by
  intro empty
  rw [List.getLast?_eq_none_iff] at empty
  subst empty
  exact full (by decide)

/--
A cut save leaves the old or the new value exactly when it was cut before its
first step, or once the magic word is there and the words still missing are all
ones in the new record or make it the old one.
-/
theorem save_atomic_iff (log : ValidLog flash slot records) (inside : slot < maxProfiles)
    (profile : Profile) (done : Nat) :
    ((Storage.load (cutSave flash slot profile done) slot).1 = (Storage.load flash slot).1 ∨
      (Storage.load (cutSave flash slot profile done) slot).1 = some profile) ↔
    done = 0 ∨ 0 < programmed records done ∧
      (profile.cut (programmed records done) = profile ∨
        records.getLast? = some (profile.cut (programmed records done))) := by
  rw [log.load_cutSave inside, log.load inside]
  rcases Nat.eq_zero_or_pos done with rfl | started
  · simp
  · rw [if_neg (by omega)]
    rcases Nat.eq_zero_or_pos (programmed records done) with erased | written
    · have full : ¬ records.length < slotsPerPage := by
        intro room
        rw [programmed, if_pos room] at erased
        omega
      have old := ValidLog.ne_nil full
      simp only [erased, if_true, Nat.lt_irrefl, false_and, or_false]
      constructor
      · rintro (lost | lost)
        · exact absurd lost.symm old
        · cases lost
      · intro none
        omega
    · rw [if_neg (by omega), Option.some_inj]
      constructor
      · rintro (same | same)
        · exact .inr ⟨written, .inr same.symm⟩
        · exact .inr ⟨written, .inl same⟩
      · rintro (none | ⟨_, same | same⟩)
        · omega
        · exact .inr same
        · exact .inl same.symm

theorem save_atomic_iff_erasedChip :
    ¬ ((Storage.load (cutSave erasedChip 2 ⟨.replicate 5 7, .replicate 16 8, 9, 5⟩ 3) 2).1 =
        (Storage.load erasedChip 2).1 ∨
      (Storage.load (cutSave erasedChip 2 ⟨.replicate 5 7, .replicate 16 8, 9, 5⟩ 3) 2).1 =
        some ⟨.replicate 5 7, .replicate 16 8, 9, 5⟩) := by
  have log : ValidLog erasedChip 2 [] :=
    ⟨by decide, fun _ inside => absurd inside (by simp), fun _ _ _ => rfl⟩
  rw [save_atomic_iff log (by decide)]
  decide

/-- Cut after the magic word, a first save leaves a pairing made of ones. -/
theorem save_not_atomic : ¬ ∀ (flash : Nvmc) (slot : UInt8) (records : List Profile)
    (profile : Profile) (done : Nat), slot < maxProfiles → ValidLog flash slot records →
      (Storage.load (cutSave flash slot profile done) slot).1 = (Storage.load flash slot).1 ∨
      (Storage.load (cutSave flash slot profile done) slot).1 = some profile := by
  intro atomic
  have torn := atomic erasedChip 0 [] ⟨.replicate 5 7, .replicate 16 8, 9, 5⟩ 1 (by decide)
    ⟨by decide, fun _ inside => absurd inside (by simp), fun _ _ _ => rfl⟩
  revert torn
  decide

end Cut

end NrfUnifying.Storage
