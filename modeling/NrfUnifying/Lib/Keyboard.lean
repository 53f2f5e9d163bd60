import Mathlib.Data.List.Basic
import Mathlib.Tactic.Common

/-!
# Keyboards that report what they hold

A report names the keys that are held. Whoever reads the reports takes a key as
struck when a report holds it and the one before did not, so a report that is
heard again strikes nothing. A sender repeats a report until it is acknowledged;
any sending may be heard several times or not at all.
-/

namespace NrfUnifying.Lib.Keyboard

structure Report (Key Mods : Type) where
  keys : List Key
  modifiers : Mods
  deriving DecidableEq, Repr

/-- One transmission of a report: how often it was heard, and whether the sender saw an answer. -/
structure Sending (Key Mods : Type) where
  report : Report Key Mods
  copies : Nat
  acked : Bool
  deriving DecidableEq, Repr

variable {Key Mods : Type}

/-- Only what was heard is acknowledged. -/
def Honest (sendings : List (Sending Key Mods)) : Prop :=
  ∀ sending ∈ sendings, sending.acked = true → 0 < sending.copies

/-- The reports as they were heard. -/
def received (sendings : List (Sending Key Mods)) : List (Report Key Mods) :=
  sendings.flatMap fun sending => List.replicate sending.copies sending.report

/-- What is held after some reports. -/
def heldAfter (held : List Key) : List (Report Key Mods) → List Key
  | [] => held
  | report :: rest => heldAfter report.keys rest

section Read

variable [DecidableEq Key]

/-- The keys that a report strikes, with its modifiers. -/
def strokes (held : List Key) (report : Report Key Mods) : List (Key × Mods) :=
  (report.keys.filter (· ∉ held)).map (·, report.modifiers)

/-- The strokes of a stream of reports. -/
def read (held : List Key) : List (Report Key Mods) → List (Key × Mods)
  | [] => []
  | report :: rest => strokes held report ++ read report.keys rest

theorem strokes_again (report : Report Key Mods) : strokes report.keys report = [] := by
  rw [strokes, List.filter_eq_nil_iff.mpr fun key member => by simpa using member]
  rfl

theorem strokes_released (report : Report Key Mods) :
    strokes [] report = report.keys.map (·, report.modifiers) := by
  rw [strokes, List.filter_eq_self.mpr fun key _ => by simp]

omit [DecidableEq Key] in
theorem heldAfter_append (held : List Key) (first second : List (Report Key Mods)) :
    heldAfter held (first ++ second) = heldAfter (heldAfter held first) second := by
  induction first generalizing held with
  | nil => rfl
  | cons report rest ih => exact ih report.keys

omit [DecidableEq Key] in
/-- The keys that are held are those of a report, if there was one. -/
theorem heldAfter_cases (held : List Key) (reports : List (Report Key Mods)) :
    heldAfter held reports = held ∨ ∃ report ∈ reports, heldAfter held reports = report.keys := by
  induction reports generalizing held with
  | nil => exact .inl rfl
  | cons report rest ih =>
      rcases ih report.keys with same | ⟨other, member, keys⟩
      · exact .inr ⟨report, List.mem_cons_self, same⟩
      · exact .inr ⟨other, List.mem_cons_of_mem _ member, keys⟩

theorem read_append (held : List Key) (first second : List (Report Key Mods)) :
    read held (first ++ second) = read held first ++ read (heldAfter held first) second := by
  induction first generalizing held with
  | nil => rfl
  | cons report rest ih =>
      rw [List.cons_append, read, read, ih, List.append_assoc]
      rfl

omit [DecidableEq Key] in
theorem heldAfter_replicate (held : List Key) (count : Nat) (report : Report Key Mods) :
    heldAfter held (List.replicate (count + 1) report) = report.keys := by
  induction count generalizing held with
  | zero => rfl
  | succ count ih => exact ih report.keys

/-- Further copies of a report are no strokes. -/
theorem read_replicate (held : List Key) (count : Nat) (report : Report Key Mods) :
    read held (List.replicate (count + 1) report) = strokes held report := by
  induction count generalizing held with
  | zero => exact List.append_nil _
  | succ count ih =>
      rw [List.replicate_succ, read, ih, strokes_again, List.append_nil]

end Read

section Sendings

variable {sendings more : List (Sending Key Mods)}

theorem Honest.nil : Honest ([] : List (Sending Key Mods)) :=
  fun _ member => absurd member List.not_mem_nil

theorem Honest.append (first : Honest sendings) (second : Honest more) :
    Honest (sendings ++ more) := by
  intro sending member
  rcases List.mem_append.mp member with front | back
  · exact first sending front
  · exact second sending back

theorem received_append : received (sendings ++ more) = received sendings ++ received more :=
  List.flatMap_append

theorem mem_received {report : Report Key Mods} (member : report ∈ received sendings) :
    ∃ sending ∈ sendings, sending.report = report := by
  obtain ⟨sending, inside, copy⟩ := List.mem_flatMap.mp member
  exact ⟨sending, inside, (List.eq_of_mem_replicate copy).symm⟩

end Sendings

/-! ## Bursts -/

/-- Attempts at one report, the last of them acknowledged if any is. -/
inductive Burst (report : Report Key Mods) : (acked : Bool) → List (Sending Key Mods) → Prop where
  | silent : Burst report false []
  | answered (copies : Nat) : Burst report true [⟨report, copies, true⟩]
  | again (copies : Nat) {acked : Bool} {rest : List (Sending Key Mods)}
      (burst : Burst report acked rest) :
      Burst report acked (⟨report, copies, false⟩ :: rest)

section Burst

variable {report : Report Key Mods} {acked : Bool} {sendings : List (Sending Key Mods)}

theorem Burst.report_eq (burst : Burst report acked sendings) :
    ∀ sending ∈ sendings, sending.report = report := by
  induction burst with
  | silent => exact fun _ member => absurd member List.not_mem_nil
  | answered copies =>
      intro sending member
      rw [List.mem_singleton.mp member]
  | again copies burst ih =>
      intro sending member
      rcases List.mem_cons.mp member with rfl | later
      · rfl
      · exact ih sending later

/-- All copies of a burst together are copies of one report. -/
theorem Burst.received_eq (burst : Burst report acked sendings) (honest : Honest sendings) :
    ∃ copies, received sendings = List.replicate copies report ∧ (acked = true → 0 < copies) := by
  induction burst with
  | silent => exact ⟨0, rfl, Bool.noConfusion⟩
  | answered copies =>
      refine ⟨copies, List.append_nil _, fun _ => ?_⟩
      exact honest _ List.mem_cons_self rfl
  | again copies burst ih =>
      obtain ⟨more, same, positive⟩ :=
        ih fun other member => honest other (List.mem_cons_of_mem _ member)
      refine ⟨copies + more, ?_, fun acked => ?_⟩
      · rw [received, List.flatMap_cons, List.replicate_add]
        exact congrArg (List.replicate copies report ++ ·) same
      · exact Nat.lt_of_lt_of_le (positive acked) (Nat.le_add_left more copies)

variable [DecidableEq Key]

/-- A burst is read as one report, or not at all; the latter only when it was not acknowledged. -/
theorem Burst.read_cases (burst : Burst report acked sendings) (honest : Honest sendings)
    (held : List Key) :
    read held (received sendings) = strokes held report ∧
        heldAfter held (received sendings) = report.keys ∨
      acked = false ∧ received sendings = [] := by
  obtain ⟨copies, same, positive⟩ := burst.received_eq honest
  rw [same]
  cases copies with
  | zero =>
      refine .inr ⟨?_, rfl⟩
      cases acked with
      | false => rfl
      | true => exact absurd (positive rfl) (Nat.lt_irrefl 0)
  | succ copies => exact .inl ⟨read_replicate held copies report, heldAfter_replicate _ _ _⟩

end Burst

end NrfUnifying.Lib.Keyboard
