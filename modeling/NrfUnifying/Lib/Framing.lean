import Mathlib.Data.List.Basic
import Mathlib.Tactic.Common

/-!
# Marked frames on a stream that may lose their ends

A frame is a marker, a body and a terminator; neither of the two occurs in the
body. A sender may stop in the middle of a frame and go on with the next one.
A reader cuts the stream at the terminators and keeps what is marked at its
start and nowhere else, so it never takes the rest of a broken frame and a whole
one together for a frame.
-/

namespace NrfUnifying.Lib.Framing

variable {α : Type}

/-- One frame on the stream, up to where it was cut. -/
structure Piece (α : Type) where
  body : List α
  sent : Nat
  deriving DecidableEq, Repr

def frame (marker terminator : α) (body : List α) : List α := marker :: (body ++ [terminator])

def Piece.stream (marker terminator : α) (piece : Piece α) : List α :=
  (frame marker terminator piece.body).take piece.sent

/-- All of the frame is on the stream. -/
def Piece.whole (piece : Piece α) : Bool := piece.body.length + 2 ≤ piece.sent

/-- Neither marker nor terminator occurs in the body. -/
structure Piece.Plain (marker terminator : α) (piece : Piece α) : Prop where
  marker : marker ∉ piece.body
  terminator : terminator ∉ piece.body

/-- What a reader makes of the symbols between two terminators. -/
def readFrame [DecidableEq α] (marker : α) : List α → Option (List α)
  | [] => none
  | first :: rest => if first = marker ∧ marker ∉ rest then some rest else none

/-- The bodies of a stream, behind the symbols that were read since the last terminator. -/
def readStream [DecidableEq α] (marker terminator : α) : (line : List α) → List α → List (List α)
  | _, [] => []
  | line, symbol :: rest =>
      if symbol = terminator then
        (readFrame marker line).toList ++ readStream marker terminator [] rest
      else readStream marker terminator (line ++ [symbol]) rest

/-- The whole frames that no symbol of a broken one precedes. -/
def survivors : (clean : Bool) → List (Piece α) → List (Piece α)
  | _, [] => []
  | clean, piece :: rest =>
      if piece.whole then (if clean then [piece] else []) ++ survivors true rest
      else survivors (clean && piece.sent == 0) rest

/-- How many frames were cut. -/
def cuts (pieces : List (Piece α)) : Nat := pieces.countP fun piece => !piece.whole

/-- What is left of broken frames, if it is anything, starts with a marker. -/
def Broken (marker : α) (line : List α) : Prop := line = [] ∨ ∃ rest, line = marker :: rest

section Stream

variable {marker terminator : α} {line : List α}

theorem Piece.stream_whole {piece : Piece α} (whole : piece.whole = true) :
    piece.stream marker terminator = (marker :: piece.body) ++ [terminator] := by
  refine List.take_of_length_le ?_
  have long : piece.body.length + 2 ≤ piece.sent := of_decide_eq_true whole
  rw [frame, List.length_cons, List.length_append]
  exact long

/-- What is on the stream of a frame that was cut. -/
theorem Piece.stream_cut {piece : Piece α} (cut : piece.whole = false) :
    piece.stream marker terminator = (marker :: piece.body).take piece.sent := by
  have short : ¬piece.body.length + 2 ≤ piece.sent := of_decide_eq_false cut
  rw [Piece.stream, frame, ← List.cons_append, List.take_append_of_le_length]
  rw [List.length_cons]
  omega

/-- More of a frame is on the stream. -/
theorem Piece.stream_grow {body chunk : List α} {sent count : Nat}
    (more : ((frame marker terminator body).drop sent).take count = chunk) :
    (⟨body, sent + chunk.length⟩ : Piece α).stream marker terminator =
      (⟨body, sent⟩ : Piece α).stream marker terminator ++ chunk := by
  have ahead : ((frame marker terminator body).drop sent).take chunk.length = chunk := by
    subst more
    exact (List.prefix_iff_eq_take.mp (List.take_prefix _ _)).symm
  change (frame marker terminator body).take (sent + chunk.length) = _
  rw [List.take_add, ahead]
  rfl

theorem Broken.append_cut (piece : Piece α) (broken : Broken marker line) :
    Broken marker (line ++ (marker :: piece.body).take piece.sent) ∧
      ((line ++ (marker :: piece.body).take piece.sent = []) ↔ line = [] ∧ piece.sent = 0) := by
  cases sent : piece.sent with
  | zero => simpa using broken
  | succ sent =>
      rw [List.take_succ_cons]
      rcases broken with rfl | ⟨rest, rfl⟩
      · exact ⟨.inr ⟨_, rfl⟩, by simp⟩
      · exact ⟨.inr ⟨_, rfl⟩, by simp⟩

variable [DecidableEq α]

/-- The symbols in front of a terminator are collected. -/
theorem readStream_collect {symbols : List α} (inside : terminator ∉ symbols) (line rest : List α) :
    readStream marker terminator line (symbols ++ rest) =
      readStream marker terminator (line ++ symbols) rest := by
  induction symbols generalizing line with
  | nil => rw [List.nil_append, List.append_nil]
  | cons symbol symbols ih =>
      rw [List.mem_cons, not_or] at inside
      rw [List.cons_append, readStream, if_neg (Ne.symm inside.1), ih inside.2, List.append_assoc]
      rfl

/-- A frame is read if nothing of a broken one precedes it. -/
theorem readFrame_frame {body : List α} (plain : marker ∉ body) (broken : Broken marker line) :
    readFrame marker (line ++ marker :: body) = if line = [] then some body else none := by
  rcases broken with rfl | ⟨rest, rfl⟩
  · rw [List.nil_append, readFrame, if_pos ⟨rfl, plain⟩, if_pos rfl]
  · have twice : marker ∈ rest ++ marker :: body := by simp
    rw [List.cons_append, readFrame, if_neg (fun once => once.2 twice), if_neg (by simp)]

/-- The reader gets exactly the surviving frames. -/
theorem readStream_pieces (apart : marker ≠ terminator) (broken : Broken marker line)
    {pieces : List (Piece α)} (plain : ∀ piece ∈ pieces, piece.Plain marker terminator) :
    readStream marker terminator line (pieces.flatMap (Piece.stream marker terminator)) =
      (survivors (decide (line = [])) pieces).map Piece.body := by
  induction pieces generalizing line with
  | nil => rfl
  | cons piece rest ih =>
      obtain ⟨first, others⟩ := List.forall_mem_cons.mp plain
      have inside : terminator ∉ marker :: piece.body := by
        rw [List.mem_cons, not_or]
        exact ⟨Ne.symm apart, first.terminator⟩
      rw [List.flatMap_cons, survivors]
      cases whole : piece.whole with
      | true =>
          rw [Piece.stream_whole whole, List.append_assoc, readStream_collect inside,
            List.singleton_append, readStream, if_pos rfl, if_pos rfl,
            readFrame_frame first.marker broken, ih (.inl rfl) others, List.map_append]
          by_cases clean : line = []
          · rw [if_pos clean, decide_eq_true clean]
            rfl
          · rw [if_neg clean, decide_eq_false clean]
            rfl
      | false =>
          obtain ⟨still, empty⟩ := broken.append_cut piece
          rw [Piece.stream_cut whole,
            readStream_collect fun member => inside (List.mem_of_mem_take member),
            ih still others, if_neg Bool.false_ne_true]
          congr 2
          rw [Bool.eq_iff_iff, decide_eq_true_iff, empty, Bool.and_eq_true, decide_eq_true_iff,
            beq_iff_eq]

end Stream

/-! ## Which frames survive -/

theorem survivors_sublist (clean : Bool) (pieces : List (Piece α)) :
    (survivors clean pieces).Sublist pieces := by
  induction pieces generalizing clean with
  | nil => exact .slnil
  | cons piece rest ih =>
      rw [survivors]
      split
      · cases clean with
        | true => exact (ih true).cons_cons piece
        | false => exact (ih true).cons piece
      · exact (ih _).cons piece

theorem cuts_append (front back : List (Piece α)) :
    cuts (front ++ back) = cuts front + cuts back := List.countP_append

theorem cuts_singleton_le (piece : Piece α) : cuts [piece] ≤ 1 := List.countP_le_length

/-- A frame that is still being written is not among them. -/
theorem survivors_append_cut (clean : Bool) (front : List (Piece α)) {piece : Piece α}
    (cut : piece.whole = false) : survivors clean (front ++ [piece]) = survivors clean front := by
  induction front generalizing clean with
  | nil =>
      change (if piece.whole then _ else []) = []
      rw [cut, if_neg Bool.false_ne_true]
  | cons first front ih => rw [List.cons_append, survivors, survivors, ih, ih]

/-- More frames take none away. -/
theorem survivors_le_append (clean : Bool) (front back : List (Piece α)) :
    (survivors clean front).length ≤ (survivors clean (front ++ back)).length := by
  induction front generalizing clean with
  | nil => exact Nat.zero_le _
  | cons piece front ih =>
      rw [List.cons_append, survivors, survivors]
      split
      · rw [List.length_append, List.length_append]
        exact Nat.add_le_add_left (ih true) _
      · exact ih _

/-- A cut loses its own frame, and one that follows. -/
theorem length_le_survivors (clean : Bool) (pieces : List (Piece α)) :
    pieces.length ≤
      (survivors clean pieces).length + 2 * cuts pieces + if clean then 0 else 1 := by
  induction pieces generalizing clean with
  | nil => exact Nat.zero_le _
  | cons piece rest ih =>
      rw [survivors, cuts, List.countP_cons]
      cases whole : piece.whole with
      | true =>
          have more := ih true
          rw [if_pos rfl] at more
          cases clean with
          | true =>
              simp [cuts] at more ⊢
              omega
          | false =>
              simp [cuts] at more ⊢
              omega
      | false =>
          have more := ih (clean && piece.sent == 0)
          have once : (if (clean && piece.sent == 0) = true then 0 else 1) ≤ 1 := by
            split <;> decide
          simp only [Bool.false_eq_true, if_false, Bool.not_false, if_true, List.length_cons]
          change rest.length ≤ _ + 2 * rest.countP _ + _ at more
          omega

end NrfUnifying.Lib.Framing
