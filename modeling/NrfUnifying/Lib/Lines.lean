import NrfUnifying.Lib.Bytes

/-!
# Lines of a stream

A stream that comes byte by byte is cut at its line feeds; carriage returns do
not count. Each byte ends a line or makes the unfinished one longer.
-/

namespace NrfUnifying.Lib.Lines

/-- A stream without its carriage returns, split at the line feeds; the last piece is unfinished. -/
def linePieces (stream : List UInt8) : List (List UInt8) :=
  (stream.filter (· != 0x0D)).splitOn 0x0A

/-- The lines that a line feed has ended. -/
def completeLines (stream : List UInt8) : List (List UInt8) := (linePieces stream).dropLast

def unfinishedLine (stream : List UInt8) : List UInt8 := (linePieces stream).getLastD []

theorem linePieces_eq (stream : List UInt8) :
    linePieces stream = completeLines stream ++ [unfinishedLine stream] := by
  have nonempty : linePieces stream ≠ [] := List.splitOn_ne_nil _ _
  rw [completeLines, unfinishedLine, List.getLastD_eq_getLast?,
    List.getLast?_eq_some_getLast nonempty]
  exact (List.dropLast_concat_getLast nonempty).symm

theorem splitOn_append_of_not_mem {separator : UInt8} (front : List UInt8) {back : List UInt8}
    (plain : separator ∉ back) : ∃ pieces last, front.splitOn separator = pieces ++ [last] ∧
      (front ++ back).splitOn separator = pieces ++ [last ++ back] := by
  induction front with
  | nil => exact ⟨[], [], by simp, by simpa using List.splitOn_eq_singleton plain⟩
  | cons byte rest ih =>
      obtain ⟨pieces, last, whole, longer⟩ := ih
      rw [List.cons_append, List.splitOn_cons_eq_if_modifyHead, List.splitOn_cons_eq_if_modifyHead,
        whole, longer]
      split
      · exact ⟨[] :: pieces, last, rfl, rfl⟩
      · cases pieces with
        | nil => exact ⟨[], byte :: last, rfl, rfl⟩
        | cons head tail => exact ⟨(byte :: head) :: tail, last, rfl, rfl⟩

theorem lines_snoc_lf (stream : List UInt8) :
    completeLines (stream ++ [0x0A]) = completeLines stream ++ [unfinishedLine stream] ∧
      unfinishedLine (stream ++ [0x0A]) = [] := by
  have pieces : linePieces (stream ++ [0x0A]) = linePieces stream ++ [[]] := by
    unfold linePieces
    rw [List.filter_append]
    exact List.splitOn_append_cons_self _ []
  constructor
  · rw [completeLines, pieces, List.dropLast_concat, linePieces_eq]
  · rw [unfinishedLine, pieces, List.getLastD_concat]

theorem lines_snoc {byte : UInt8} (stream : List UInt8) (other : byte ≠ 0x0A) :
    completeLines (stream ++ [byte]) = completeLines stream ∧
      unfinishedLine (stream ++ [byte]) =
        unfinishedLine stream ++ if byte = 0x0D then [] else [byte] := by
  have plain : (0x0A : UInt8) ∉ (if byte = 0x0D then [] else [byte] : List UInt8) := by
    split
    · exact List.not_mem_nil
    · exact fun member => other (List.mem_singleton.mp member).symm
  obtain ⟨pieces, last, whole, longer⟩ :=
    splitOn_append_of_not_mem (stream.filter (· != 0x0D)) plain
  have filtered : (stream ++ [byte]).filter (· != 0x0D) =
      stream.filter (· != 0x0D) ++ if byte = 0x0D then [] else [byte] := by
    rw [List.filter_append]
    by_cases cr : byte = 0x0D
    · rw [if_pos cr, cr]
      rfl
    · rw [if_neg cr, List.filter_cons_of_pos (by simpa using cr), List.filter_nil]
  unfold completeLines unfinishedLine linePieces
  rw [filtered, whole, longer, List.dropLast_concat, List.dropLast_concat, List.getLastD_concat,
    List.getLastD_concat]
  exact ⟨rfl, rfl⟩

end NrfUnifying.Lib.Lines
