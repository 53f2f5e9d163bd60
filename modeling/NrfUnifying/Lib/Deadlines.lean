import Mathlib.Algebra.Order.Ring.Nat

/-!
# Periodic deadlines

A loop does some work whenever its deadline has passed, and then moves the
deadline on by whole intervals until it is ahead again. The deadlines stay on a
grid, so late work is not made up for, and in any time the work is done at most
once for each interval.
-/

namespace NrfUnifying.Lib.Deadlines

/-- Move the deadline on until it is ahead. -/
def catchUp {interval : Nat} (positive : 0 < interval) (deadline now : Nat) : Nat :=
  if deadline ≤ now then catchUp positive (deadline + interval) now else deadline
termination_by now + 1 - deadline

section CatchUp

variable {interval : Nat} (positive : 0 < interval) (deadline now : Nat)

theorem lt_catchUp : now < catchUp positive deadline now := by
  fun_induction catchUp positive deadline now with
  | case1 deadline due ih => exact ih
  | case2 deadline ahead => exact Nat.not_le.mp ahead

theorem catchUp_grid : ∃ steps, catchUp positive deadline now = deadline + steps * interval := by
  fun_induction catchUp positive deadline now with
  | case1 deadline due ih =>
      obtain ⟨steps, same⟩ := ih
      refine ⟨steps + 1, ?_⟩
      rw [same, Nat.succ_mul]
      omega
  | case2 deadline ahead => exact ⟨0, by rw [Nat.zero_mul, Nat.add_zero]⟩

theorem catchUp_le : catchUp positive deadline now ≤ max deadline (now + interval) := by
  fun_induction catchUp positive deadline now with
  | case1 deadline due ih => omega
  | case2 deadline ahead => exact Nat.le_max_left _ _

variable {deadline now}

/-- A deadline that has passed moves on by one interval at least. -/
theorem catchUp_steps (due : deadline ≤ now) :
    ∃ steps, catchUp positive deadline now = deadline + (steps + 1) * interval := by
  obtain ⟨steps, same⟩ := catchUp_grid positive (deadline + interval) now
  refine ⟨steps, ?_⟩
  rw [catchUp, if_pos due, same, Nat.succ_mul]
  omega

end CatchUp

/-- The work was done so many times since `start`, and the next deadline is this one. -/
structure OnGrid (start interval runs deadline now : Nat) : Prop where
  grid : ∃ steps, runs ≤ steps ∧ deadline = start + (steps + 1) * interval
  near : deadline ≤ now + interval

section OnGrid

variable {start interval runs deadline now later : Nat}

theorem OnGrid.first (first interval : Nat) : OnGrid first interval 0 (first + interval) first :=
  ⟨⟨0, Nat.le_refl 0, by rw [Nat.zero_add, Nat.one_mul]⟩, Nat.le_refl _⟩

theorem OnGrid.wait (onGrid : OnGrid start interval runs deadline now) (passes : now ≤ later) :
    OnGrid start interval runs deadline later :=
  ⟨onGrid.grid, Nat.le_trans onGrid.near (Nat.add_le_add_right passes interval)⟩

/-- The work is done at `now`, and it is `later` when the deadline is moved on. -/
theorem OnGrid.run (onGrid : OnGrid start interval runs deadline now) (positive : 0 < interval)
    (due : deadline ≤ later) :
    OnGrid start interval (runs + 1) (catchUp positive deadline later) later := by
  obtain ⟨steps, enough, same⟩ := onGrid.grid
  obtain ⟨more, moved⟩ := catchUp_steps positive due
  have bound := catchUp_le positive deadline later
  constructor
  · refine ⟨steps + (more + 1), ?_, ?_⟩
    · omega
    · rw [moved, same, Nat.add_assoc, ← Nat.add_mul]
      congr 2
      omega
  · omega

/-- The work is done at most once for each interval. -/
theorem OnGrid.runs_le (onGrid : OnGrid start interval runs deadline now) :
    start + runs * interval ≤ now := by
  obtain ⟨steps, enough, rfl⟩ := onGrid.grid
  have most := Nat.mul_le_mul_right interval enough
  have near := onGrid.near
  rw [Nat.succ_mul] at near
  omega

end OnGrid

end NrfUnifying.Lib.Deadlines
