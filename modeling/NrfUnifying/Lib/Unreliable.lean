import NrfUnifying.Lib.AppendLog

/-!
# Logs on a flash that fails

`Unreliable` is a flash of which any operation can fail, and which records each
erasure and write it was asked for. A failed one can leave anything behind. The
results are about appends to any page: which bytes they program, when they
erase the page, and how often.
-/

namespace NrfUnifying.Lib.Flash

open Lib.Bytes

inductive Request where
  | erase (first last : Nat)
  | write (offset : Nat) (bytes : List UInt8)
  deriving DecidableEq, Repr

def Request.carryOut (cells : Cells) : Request → Cells
  | .erase first last => cells.erase first last
  | .write offset bytes => cells.program offset bytes

/-- A request with the contents it was made on and those it left. -/
structure Issued where
  request : Request
  succeeded : Bool
  before : Cells
  after : Cells

structure Unreliable where
  cells : Cells
  /-- What each operation from here on does instead, if it fails. -/
  faults : Nat → Option (Cells → Cells)
  /-- What the flash was asked to change, oldest request first. -/
  issued : List Issued := []

namespace Unreliable

/-- The flash once one operation is over that changed nothing. -/
def next (flash : Unreliable) : Unreliable :=
  { flash with faults := fun n => flash.faults (n + 1) }

def ask (flash : Unreliable) (request : Request) : Bool × Unreliable :=
  let after := match flash.faults 0 with
    | none => request.carryOut flash.cells
    | some damage => damage flash.cells
  ((flash.faults 0).isNone,
    { cells := after
      faults := fun n => flash.faults (n + 1)
      issued := flash.issued ++ [⟨request, (flash.faults 0).isNone, flash.cells, after⟩] })

instance : NorFlash Unreliable where
  read flash offset count :=
    (match flash.faults 0 with
      | none => some (slice flash.cells offset count)
      | some _ => none,
    flash.next)
  erase flash first last := flash.ask (.erase first last)
  write flash offset bytes := flash.ask (.write offset bytes)

theorem read_eq (flash : Unreliable) (offset count : Nat) :
    NorFlash.read flash offset count = (some (slice flash.cells offset count), flash.next) ∨
    NorFlash.read flash offset count = (none, flash.next) := by
  change (match flash.faults 0 with | none => _ | some _ => _, flash.next) = _ ∨
    (match flash.faults 0 with | none => _ | some _ => _, flash.next) = _
  cases flash.faults 0 with
  | none => exact .inl rfl
  | some damage => exact .inr rfl

theorem erase_eq (flash : Unreliable) (first last : Nat) :
    NorFlash.erase flash first last = flash.ask (.erase first last) := rfl

/-- What a request that was just made records. -/
theorem ask_spec (flash : Unreliable) (request : Request) :
    ∃ after, (flash.ask request).2.cells = after ∧
      (flash.ask request).2.issued =
        flash.issued ++ [⟨request, (flash.ask request).1, flash.cells, after⟩] ∧
      ((flash.ask request).1 = true → after = request.carryOut flash.cells) := by
  refine ⟨_, rfl, rfl, ?_⟩
  unfold ask
  cases flash.faults 0 with
  | none => exact fun _ => rfl
  | some damage => exact fun succeeded => absurd succeeded Bool.false_ne_true

end Unreliable

end NrfUnifying.Lib.Flash

namespace NrfUnifying.Lib.AppendLog

open Lib.Bytes Lib.Flash

variable {α : Type} {format : Format α} {storable : α → Prop} {base : Nat}

/-- The search for a blank entry asks for no change, and finds it unless a read fails. -/
theorem findFree_unreliable (format : Format α) (base : Nat) (flash : Unreliable) (fuel i n : Nat)
    (total : fuel + i = format.count)
    (stop : n = i + (format.validFrom flash.cells base fuel i).length) :
    (findFree format base fuel i flash).2.cells = flash.cells ∧
    (findFree format base fuel i flash).2.issued = flash.issued ∧
    ((findFree format base fuel i flash).1 = none ∨
      (findFree format base fuel i flash).1 =
        some (if n < format.count ∧ format.free (format.entryAt flash.cells base n) = true
          then n else format.count)) := by
  induction fuel generalizing flash i with
  | zero =>
      obtain rfl : n = i := stop
      refine ⟨rfl, rfl, .inr ?_⟩
      rw [if_neg (by omega)]
      rfl
  | succ fuel ih =>
      unfold Format.validFrom at stop
      unfold findFree
      rcases flash.read_eq (base + i * format.size) format.size with read | failed
      · rw [read]
        dsimp only
        cases decoded : format.decode (format.entryAt flash.cells base i) with
        | none =>
            rw [decoded] at stop
            obtain rfl : n = i := stop
            have room : n < format.count := by omega
            unfold Format.entryAt at decoded
            rw [decoded]
            exact ⟨rfl, rfl, .inr (by simp [room, Format.entryAt])⟩
        | some value =>
            rw [decoded, List.length_cons] at stop
            unfold Format.entryAt at decoded
            rw [decoded]
            have stop : n = i + 1 + (format.validFrom flash.cells base fuel (i + 1)).length := by
              omega
            exact ih flash.next (i + 1) (by omega) stop
      · rw [failed]
        exact ⟨rfl, rfl, .inl rfl⟩

/-- What an append asks of the flash, from the contents it starts on to those it leaves. -/
inductive Appends (format : Format α) (base : Nat) (value : α) :
    Cells → List Issued → Cells → Prop where
  /-- A read fails first. -/
  | unread {cells : Cells} : Appends format base value cells [] cells
  | write {cells after : Cells} {n : Nat} {succeeded : Bool}
      (place : format.place cells base (format.validPrefix cells base) = some n)
      (done : succeeded = true →
        after = cells.program (base + n * format.size) (format.encode value)) :
      Appends format base value cells
        [⟨.write (base + n * format.size) (format.encode value), succeeded, cells, after⟩] after
  | unerased {cells after : Cells}
      (place : format.place cells base (format.validPrefix cells base) = none) :
      Appends format base value cells
        [⟨.erase base (base + format.page), false, cells, after⟩] after
  | rewrite {cells after : Cells} {succeeded : Bool}
      (place : format.place cells base (format.validPrefix cells base) = none)
      (done : succeeded = true → after =
        (cells.erase base (base + format.page)).program base (format.encode value)) :
      Appends format base value cells
        [⟨.erase base (base + format.page), true, cells, cells.erase base (base + format.page)⟩,
          ⟨.write base (format.encode value), succeeded, cells.erase base (base + format.page),
            after⟩] after

theorem append_appends (format : Format α) (base : Nat) (value : α) (flash : Unreliable) :
    ∃ new, (append format base value flash).issued = flash.issued ++ new ∧
      Appends format base value flash.cells new (append format base value flash).cells := by
  obtain ⟨cells_eq, issued_eq, found⟩ := findFree_unreliable format base flash format.count 0
    (format.validPrefix flash.cells base).length rfl (Nat.zero_add _).symm
  unfold append
  generalize findFree format base format.count 0 flash = search at *
  obtain ⟨next, searched⟩ := search
  dsimp only at cells_eq issued_eq found
  rcases found with rfl | rfl
  · refine ⟨[], by simpa using issued_eq, ?_⟩
    dsimp only
    rw [cells_eq]
    exact .unread
  dsimp only
  by_cases room : (format.validPrefix flash.cells base).length < format.count ∧
      format.free (format.entryAt flash.cells base
        (format.validPrefix flash.cells base).length) = true
  · have place : format.place flash.cells base (format.validPrefix flash.cells base) =
        some (format.validPrefix flash.cells base).length := if_pos room
    rw [if_pos room, if_neg (by omega)]
    obtain ⟨after, rfl, issued, done⟩ := searched.ask_spec (.write _ (format.encode value))
    rw [issued_eq, cells_eq] at issued
    rw [cells_eq] at done
    exact ⟨_, issued, .write place done⟩
  · have place : format.place flash.cells base (format.validPrefix flash.cells base) = none :=
      if_neg room
    rw [if_neg room, if_pos (Nat.le_refl _)]
    obtain ⟨erased, erased_eq, issued, done⟩ :=
      searched.ask_spec (.erase base (base + format.page))
    rw [Unreliable.erase_eq]
    generalize searched.ask (.erase base (base + format.page)) = asked at *
    obtain ⟨succeeded, wiped⟩ := asked
    dsimp only at erased_eq issued done
    rw [issued_eq, cells_eq] at issued
    rw [cells_eq] at done
    subst erased_eq
    cases succeeded with
    | false => exact ⟨_, issued, .unerased place⟩
    | true =>
        have wiped_eq : wiped.cells = flash.cells.erase base (base + format.page) := done rfl
        obtain ⟨after, rfl, issued', done'⟩ := wiped.ask_spec (.write base (format.encode value))
        rw [issued, wiped_eq, List.append_assoc] at issued'
        rw [wiped_eq] at done'
        exact ⟨_, issued', .rewrite place done'⟩

/-! ## What an append may ask -/

/--
The rules for a request of an append to the page at `base`. A write stores the
encoded value in blank bytes of the page; the page is erased only when its valid
prefix fills it, or something that is not blank follows.
-/
def Format.Disciplined (format : Format α) (base : Nat) (value : α) (issued : Issued) : Prop :=
  match issued.request with
  | .write offset bytes =>
      bytes = format.encode value ∧ base ≤ offset ∧ offset + bytes.length ≤ base + format.page ∧
      (∀ i < bytes.length, issued.before (offset + i) = 0xFF) ∧
      (issued.succeeded = true → slice issued.after offset bytes.length = bytes)
  | .erase first last =>
      first = base ∧ last = base + format.page ∧
      ((format.validPrefix issued.before base).length = format.count ∨
        ∃ byte ∈ format.entryAt issued.before base (format.validPrefix issued.before base).length,
          byte ≠ 0xFF)

theorem Format.blank_of_free {cells : Cells} {n : Nat} (lawful : format.Lawful storable)
    (free : format.free (format.entryAt cells base n) = true) {i : Nat} (inside : i < format.size) :
    cells (base + n * format.size + i) = 0xFF := by
  have small : i < (format.entryAt cells base n).length := by simpa using inside
  rw [← format.entryAt_getElem cells base n i small]
  exact (lawful.free_iff _ (by simp)).mp free _ (List.getElem_mem small)

theorem Format.place_none {cells : Cells} (lawful : format.Lawful storable)
    (place : format.place cells base (format.validPrefix cells base) = none) :
    (format.validPrefix cells base).length = format.count ∨
      ∃ byte ∈ format.entryAt cells base (format.validPrefix cells base).length, byte ≠ 0xFF := by
  unfold Format.place at place
  split at place
  · cases place
  next full =>
    have fits := format.validFrom_length_le cells base format.count 0
    rcases Nat.lt_or_eq_of_le fits with room | atEnd
    · apply Or.inr
      by_contra none
      push Not at none
      exact full ⟨room, (lawful.free_iff _ (by simp)).mpr none⟩
    · exact .inl atEnd

/-- A write into blank bytes of the page keeps the rules. -/
theorem Format.disciplined_write (base n : Nat) (lawful : format.Lawful storable) {value : α}
    {cells after : Cells} {succeeded : Bool} (room : n < format.count)
    (blank : ∀ i < format.size, cells (base + n * format.size + i) = 0xFF)
    (done : succeeded = true →
      after = cells.program (base + n * format.size) (format.encode value)) :
    format.Disciplined base value
      ⟨.write (base + n * format.size) (format.encode value), succeeded, cells, after⟩ := by
  have length := lawful.encode_length value
  have bound := Format.entry_end_le lawful room
  refine ⟨rfl, Nat.le_add_right _ _, by omega, by rwa [length], ?_⟩
  intro ok
  change slice after _ _ = _
  rw [done ok]
  exact Cells.slice_program (by rwa [length])

theorem Appends.disciplined (lawful : format.Lawful storable) {value : α} {cells after : Cells}
    {new : List Issued} (appends : Appends format base value cells new after) :
    ∀ issued ∈ new, format.Disciplined base value issued := by
  intro issued member
  cases appends with
  | unread => cases member
  | write place done =>
      obtain rfl := List.mem_singleton.mp member
      obtain ⟨-, room, free⟩ := Format.place_some place
      exact Format.disciplined_write base _ lawful room
        (fun i => Format.blank_of_free lawful free) done
  | unerased place =>
      obtain rfl := List.mem_singleton.mp member
      exact ⟨rfl, rfl, Format.place_none lawful place⟩
  | rewrite place done =>
      rcases List.mem_cons.mp member with rfl | member
      · exact ⟨rfl, rfl, Format.place_none lawful place⟩
      · obtain rfl := List.mem_singleton.mp member
        have room := Format.count_pos lawful
        have bound := Format.entry_end_le lawful room
        have start : base = base + 0 * format.size := by omega
        have written := Format.disciplined_write base 0 lawful room
          (fun i inside => BlankFrom.erased format cells base _ (by omega) (by omega))
          (by simpa using done)
        rwa [← start] at written

/-! ## How often an append erases -/

/-- The times the page at `base` has been erased. -/
def erasures (page base : Nat) (issued : List Issued) : Nat :=
  issued.countP fun one => one.succeeded && one.request == .erase base (base + page)

/-- The failed requests that changed the page at `base` all the same. -/
def damages (page base : Nat) (issued : List Issued) : Nat :=
  issued.countP fun one =>
    !one.succeeded && slice one.before base page != slice one.after base page

/-- Behind its valid prefix the page is blank. -/
def Format.Clean (format : Format α) (cells : Cells) (base : Nat) : Prop :=
  format.BlankFrom cells base (format.validPrefix cells base).length

open Classical in
/-- The entries used up before the page has to be erased; any that is not clean counts as full. -/
noncomputable def Format.level (format : Format α) (cells : Cells) (base : Nat) : Nat :=
  if format.Clean cells base then (format.validPrefix cells base).length else format.count

section Level

variable {cells after : Cells}

theorem Format.level_le (format : Format α) (cells : Cells) (base : Nat) :
    format.level cells base ≤ format.count := by
  unfold level
  split
  · exact format.validFrom_length_le cells base format.count 0
  · exact Nat.le_refl _

theorem Format.validPrefix_congr (lawful : format.Lawful storable)
    (same : slice cells base format.page = slice after base format.page) :
    format.validPrefix cells base = format.validPrefix after base := by
  have bytes := slice_inj.mpr same
  apply format.validFrom_congr
  intro k _ inside
  apply Format.entryAt_congr lawful (by omega)
  intro i low high
  obtain ⟨j, rfl⟩ := Nat.exists_eq_add_of_le low
  exact bytes j (by omega)

theorem Format.level_congr (lawful : format.Lawful storable)
    (same : slice cells base format.page = slice after base format.page) :
    format.level cells base = format.level after base := by
  have bytes := slice_inj.mpr same
  have clean : format.Clean cells base ↔ format.Clean after base := by
    unfold Format.Clean Format.BlankFrom
    rw [Format.validPrefix_congr lawful same]
    constructor
    all_goals
      intro blank i low high
      obtain ⟨j, rfl⟩ := Nat.exists_eq_add_of_le (show base ≤ i by omega)
      have here := bytes j (by omega)
      have blank := blank _ low high
      rw [here] at *
      exact blank
  unfold Format.level
  by_cases here : format.Clean cells base
  · rw [if_pos here, if_pos (clean.mp here), Format.validPrefix_congr lawful same]
  · rw [if_neg here, if_neg fun there => here (clean.mpr there)]

theorem Format.level_of_place_none (lawful : format.Lawful storable)
    (place : format.place cells base (format.validPrefix cells base) = none) :
    format.level cells base = format.count := by
  unfold Format.level
  split
  next clean =>
    have fits := format.validFrom_length_le cells base format.count 0
    rcases Nat.lt_or_eq_of_le fits with room | atEnd
    · have free := Format.free_of_blank lawful room clean
      exact absurd (place.symm.trans (if_pos ⟨room, free⟩)) (by simp)
    · exact atEnd
  next => rfl

theorem Format.level_of_blank (lawful : format.Lawful storable)
    (blank : format.BlankFrom cells base 0) : format.level cells base = 0 := by
  have empty : format.validPrefix cells base = [] := (Holds.nil lawful blank).validPrefix
  unfold Format.level
  rw [if_pos (by unfold Format.Clean; rwa [empty]), empty]
  rfl

theorem Format.place_of_blank (lawful : format.Lawful storable)
    (blank : format.BlankFrom cells base 0) :
    format.place cells base (format.validPrefix cells base) = some 0 := by
  rw [(Holds.nil lawful blank).validPrefix]
  exact if_pos ⟨Format.count_pos lawful,
    Format.free_of_blank lawful (Format.count_pos lawful) blank⟩

/-- A value in the first blank entry uses up that entry. -/
theorem Format.level_program (lawful : format.Lawful storable) {value : α}
    (storing : storable value) {n : Nat}
    (place : format.place cells base (format.validPrefix cells base) = some n) :
    format.level (cells.program (base + n * format.size) (format.encode value)) base ≤
      format.level cells base + 1 := by
  have length := lawful.encode_length value
  obtain ⟨stop, room, free⟩ := Format.place_some place
  by_cases clean : format.Clean cells base
  · have decoded : format.decode (format.torn (format.encode value)) = some value := by
      rw [Format.torn_of_length _ length, lawful.decode_encode value storing]
    have pushed := Holds.push lawful (stop ▸ room)
      (fun i inside => by
        have valid := format.decode_validFrom cells base format.count 0 i
          (List.getElem?_eq_getElem inside)
        rwa [Nat.zero_add] at valid)
      clean (Nat.le_of_eq length) decoded
    rw [← stop] at pushed
    have blank : format.Clean
        (cells.program (base + n * format.size) (format.encode value)) base := by
      unfold Format.Clean
      rw [pushed.validPrefix, List.length_append, ← stop]
      intro i low high
      rw [List.length_singleton, Nat.succ_mul] at low
      rw [Cells.program_outside _ (.inr (by omega))]
      exact clean i (by rw [← stop]; omega) high
    have before : format.level cells base = (format.validPrefix cells base).length :=
      if_pos clean
    unfold Format.level at before ⊢
    rw [before, if_pos blank, pushed.validPrefix]
    simp
  · have full : format.level cells base = format.count := if_neg clean
    have bound := format.level_le
      (cells.program (base + n * format.size) (format.encode value)) base
    omega

theorem erasures_append (page base : Nat) (first second : List Issued) :
    erasures page base (first ++ second) = erasures page base first + erasures page base second :=
  List.countP_append

theorem damages_append (page base : Nat) (first second : List Issued) :
    damages page base (first ++ second) = damages page base first + damages page base second :=
  List.countP_append

theorem erasures_cons (page base : Nat) (one : Issued) (rest : List Issued) :
    erasures page base (one :: rest) = erasures page base [one] + erasures page base rest :=
  erasures_append page base [one] rest

theorem damages_cons (page base : Nat) (one : Issued) (rest : List Issued) :
    damages page base (one :: rest) = damages page base [one] + damages page base rest :=
  damages_append page base [one] rest

theorem erasures_failed (page base : Nat) (request : Request) (before after : Cells) :
    erasures page base [⟨request, false, before, after⟩] = 0 := rfl

theorem erasures_write (page base offset : Nat) (bytes : List UInt8) (succeeded : Bool)
    (before after : Cells) :
    erasures page base [⟨.write offset bytes, succeeded, before, after⟩] = 0 := by
  cases succeeded <;> rfl

theorem damages_succeeded (page base : Nat) (request : Request) (before after : Cells) :
    damages page base [⟨request, true, before, after⟩] = 0 := rfl

/-- What a failed request can do to the level counts as damage. -/
theorem Format.level_failed (lawful : format.Lawful storable) (base : Nat) (request : Request)
    (before after : Cells) :
    format.level after base ≤ format.level before base +
      format.count * damages format.page base [⟨request, false, before, after⟩] := by
  by_cases same : slice before base format.page = slice after base format.page
  · rw [Format.level_congr lawful same]
    exact Nat.le_add_right _ _
  · have damaged : damages format.page base [⟨request, false, before, after⟩] = 1 := by
      simp [damages, same]
    rw [damaged, Nat.mul_one]
    exact Nat.le_trans (format.level_le after base) (Nat.le_add_left _ _)

/--
After `saves` saves to a page that started at level `start`: each erasure but
the first has had `count` of them to itself, or a failed request changed the page.
-/
structure Paced (format : Format α) (base start saves : Nat) (cells : Cells)
    (issued : List Issued) : Prop where
  level : format.count * erasures format.page base issued + format.level cells base ≤
    start + saves + format.count * damages format.page base issued
  spaced : 0 < erasures format.page base issued →
    format.count * erasures format.page base issued <
      start + saves + format.count * damages format.page base issued

/-- An append to the page itself. -/
theorem Paced.own {start saves : Nat} {issued new : List Issued} {value : α}
    (lawful : format.Lawful storable) (storing : storable value)
    (paced : Paced format base start saves cells issued)
    (appends : Appends format base value cells new after) :
    Paced format base start (saves + 1) after (issued ++ new) := by
  obtain ⟨level, spaced⟩ := paced
  cases appends with
  | unread =>
      rw [List.append_nil]
      exact ⟨by omega, fun some => by have := spaced some; omega⟩
  | @write _ n succeeded place done =>
      have written : format.level after base ≤ format.level cells base + 1 +
          format.count * damages format.page base
            [⟨.write (base + n * format.size) (format.encode value), succeeded, cells, after⟩] := by
        cases succeeded with
        | true =>
            rw [done rfl]
            exact Nat.le_trans (Format.level_program lawful storing place) (Nat.le_add_right _ _)
        | false =>
            have failed := Format.level_failed lawful base
              (.write (base + n * format.size) (format.encode value)) cells after
            omega
      constructor
      all_goals
        rw [erasures_append, damages_append, erasures_write, Nat.mul_add, Nat.mul_add]
        omega
  | unerased place =>
      have failed := Format.level_failed lawful base
        (.erase base (base + format.page)) cells after
      constructor
      all_goals
        rw [erasures_append, damages_append, erasures_failed, Nat.mul_add, Nat.mul_add]
        omega
  | @rewrite _ succeeded place done =>
      have full := Format.level_of_place_none lawful place
      have blank := BlankFrom.erased format cells base
      have wiped := Format.level_of_blank lawful blank
      have written : format.level after base ≤ 1 +
          format.count * damages format.page base [⟨.write base (format.encode value), succeeded,
            cells.erase base (base + format.page), after⟩] := by
        cases succeeded with
        | true =>
            have free := Format.place_of_blank lawful blank
            have stored := Format.level_program lawful storing free
            rw [Nat.zero_mul, Nat.add_zero, wiped, ← done rfl] at stored
            exact Nat.le_trans stored (Nat.le_add_right _ _)
        | false =>
            have failed := Format.level_failed lawful base (.write base (format.encode value))
              (cells.erase base (base + format.page)) after
            omega
      have erased : erasures format.page base [⟨.erase base (base + format.page), true, cells,
          cells.erase base (base + format.page)⟩] = 1 := by
        simp [erasures]
      constructor
      all_goals
        rw [erasures_append, damages_append, erasures_cons, damages_cons, erased, erasures_write,
          damages_succeeded, Nat.zero_add, Nat.add_zero]
        simp only [Nat.mul_add, Nat.mul_one]
        omega

/-- A request that stays off the page. -/
theorem Paced.elsewhere {start saves : Nat} {issued : List Issued} (one : Issued)
    (lawful : format.Lawful storable)
    (paced : Paced format base start saves one.before issued)
    (apart : one.succeeded = true →
      slice one.before base format.page = slice one.after base format.page)
    (other : one.request ≠ .erase base (base + format.page)) :
    Paced format base start saves one.after (issued ++ [one]) := by
  have level : format.level one.after base ≤ format.level one.before base +
      format.count * damages format.page base [one] := by
    obtain ⟨request, succeeded, before, after⟩ := one
    cases succeeded with
    | true =>
        rw [Format.level_congr lawful (apart rfl)]
        exact Nat.le_add_right _ _
    | false => exact Format.level_failed lawful base request before after
  have kept : erasures format.page base [one] = 0 := by
    simp [erasures, other]
  have before := paced.level
  have spaced := paced.spaced
  constructor
  all_goals
    simp only [erasures_append, damages_append, kept, Nat.mul_add, Nat.add_zero]
    omega

/-- Pages apart from each other. -/
def Apart (first firstPage second secondPage : Nat) : Prop :=
  first + firstPage ≤ second ∨ second + secondPage ≤ first

theorem slice_program_apart {offset count : Nat} {bytes : List UInt8} {page : Nat}
    (cells : Cells) (low : base ≤ offset) (high : offset + bytes.length ≤ base + count)
    {other : Nat} (apart : Apart base count other page) :
    slice cells other page = slice (cells.program offset bytes) other page :=
  slice_congr fun i small =>
    (Cells.program_outside _ (by rcases apart with _ | _ <;> omega)).symm

theorem slice_erase_apart {count page : Nat} (cells : Cells) {other : Nat}
    (apart : Apart base count other page) :
    slice cells other page = slice (cells.erase base (base + count)) other page :=
  slice_congr fun i small =>
    (Cells.erase_outside _ (by rcases apart with _ | _ <;> omega)).symm

/-- An append to another page. -/
theorem Paced.other {β : Type} {second : Format β} {fits : β → Prop} {there start saves : Nat}
    {issued new : List Issued} {value : β} (lawful : format.Lawful storable)
    (lawful' : second.Lawful fits) (apart : Apart there second.page base format.page)
    (paced : Paced format base start saves cells issued)
    (appends : Appends second there value cells new after) :
    Paced format base start saves after (issued ++ new) := by
  have length := lawful'.encode_length value
  have positive := lawful'.page_pos
  have distinct : Request.erase there (there + second.page) ≠ .erase base (base + format.page) := by
    intro same
    injection same with same
    have := lawful.page_pos
    rcases apart with _ | _ <;> omega
  cases appends with
  | unread => rwa [List.append_nil]
  | @write _ n succeeded place done =>
      have bound := Format.entry_end_le lawful' (Format.place_some place).2.1
      apply Paced.elsewhere ⟨.write _ (second.encode value), succeeded, cells, after⟩ lawful paced
      · intro ok
        change slice cells base _ = slice after base _
        rw [done ok]
        exact slice_program_apart cells (Nat.le_add_right _ _) (by omega) apart
      · simp
  | unerased place =>
      exact Paced.elsewhere ⟨.erase there (there + second.page), false, cells, after⟩ lawful paced
        (fun ok => absurd ok Bool.false_ne_true) distinct
  | @rewrite _ succeeded place done =>
      have bound := Format.entry_end_le lawful' (Format.count_pos lawful')
      have wiped := Paced.elsewhere ⟨.erase there (there + second.page), true, cells,
        cells.erase there (there + second.page)⟩ lawful paced
        (fun _ => slice_erase_apart cells apart) distinct
      have written := Paced.elsewhere ⟨.write there (second.encode value), succeeded,
        cells.erase there (there + second.page), after⟩ lawful wiped
        (fun ok => by
          dsimp only
          rw [done ok]
          exact slice_program_apart _ (Nat.le_refl _) (by omega) apart)
        (by simp)
      rwa [List.append_assoc] at written

theorem Paced.start (format : Format α) (cells : Cells) (base : Nat) :
    Paced format base (format.level cells base) 0 cells [] where
  level := by simp [erasures, damages]
  spaced some := absurd some (Nat.lt_irrefl 0)

/-- One erasure for each `count` entries used up, besides those that damage calls for. -/
theorem Paced.erasures_le {start saves : Nat} {issued : List Issued} (positive : 0 < format.count)
    (paced : Paced format base start saves cells issued) :
    erasures format.page base issued ≤
      (start + saves - 1) / format.count + damages format.page base issued := by
  have spaced := paced.spaced
  have whole := Nat.lt_mul_div_succ (start + saves - 1) positive
  generalize (start + saves - 1) / format.count = quotient at *
  generalize erasures format.page base issued = erased at *
  generalize damages format.page base issued = damaged at *
  by_contra more
  have above : quotient + damaged + 1 ≤ erased := by omega
  have scaled := Nat.mul_le_mul_left format.count above
  simp only [Nat.mul_add, Nat.mul_one] at scaled whole
  omega

end Level

end NrfUnifying.Lib.AppendLog
