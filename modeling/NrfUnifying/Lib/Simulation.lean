import Mathlib.Data.List.Basic

/-!
# Runs at two grains

A fine system shows a coarse one: each of its steps is nothing or one step of
the coarse system. Conversely it covers the coarse system when it can realize
each coarse step and come to rest. Then both have the same reachable states.
-/

namespace NrfUnifying.Lib.Simulation

variable {Fine Coarse Act CoarseAct : Type}

/-- Every fine step shows as nothing or as one coarse step. -/
def Shows (view : Fine → Coarse) (fine : Fine → Act → Fine)
    (coarse : Coarse → CoarseAct → Coarse) : Prop :=
  ∀ state action, view (fine state action) = view state ∨
    ∃ seen, view (fine state action) = coarse (view state) seen

/-- From rest, every coarse step is realized by fine steps that end at rest. -/
def Covers (view : Fine → Coarse) (rest : Fine → Prop) (fine : Fine → Act → Fine)
    (coarse : Coarse → CoarseAct → Coarse) : Prop :=
  ∀ state action, rest state → ∃ actions : List Act,
    rest (actions.foldl fine state) ∧ view (actions.foldl fine state) = coarse (view state) action

section Runs

variable {view : Fine → Coarse} {rest : Fine → Prop} {fine : Fine → Act → Fine}
  {coarse : Coarse → CoarseAct → Coarse}

/-- A fine run shows as a coarse run. -/
theorem Shows.run (shows' : Shows view fine coarse) (start : Fine) (actions : List Act) :
    ∃ seen : List CoarseAct, view (actions.foldl fine start) = seen.foldl coarse (view start) := by
  induction actions generalizing start with
  | nil => exact ⟨[], rfl⟩
  | cons action others ih =>
      obtain ⟨seen, run⟩ := ih (fine start action)
      rw [List.foldl_cons, run]
      rcases shows' start action with same | ⟨first, step⟩
      · exact ⟨seen, by rw [same]⟩
      · exact ⟨first :: seen, by rw [step, List.foldl_cons]⟩

/-- A coarse run is realized by a fine run. -/
theorem Covers.run (covers : Covers view rest fine coarse) {start : Fine} (resting : rest start)
    (actions : List CoarseAct) :
    ∃ run : List Act, rest (run.foldl fine start) ∧
      view (run.foldl fine start) = actions.foldl coarse (view start) := by
  induction actions generalizing start with
  | nil => exact ⟨[], resting, rfl⟩
  | cons action others ih =>
      obtain ⟨first, rested, step⟩ := covers start action resting
      obtain ⟨later, rested', run⟩ := ih rested
      refine ⟨first ++ later, ?_, ?_⟩
      · rwa [List.foldl_append]
      · rw [List.foldl_append, run, step, List.foldl_cons]

/-- Both systems have the same reachable states. -/
theorem reachable_iff (shows' : Shows view fine coarse) (covers : Covers view rest fine coarse)
    {start : Fine} (resting : rest start) (state : Coarse) :
    (∃ actions : List Act, view (actions.foldl fine start) = state) ↔
      ∃ actions : List CoarseAct, actions.foldl coarse (view start) = state := by
  constructor
  · rintro ⟨actions, rfl⟩
    obtain ⟨seen, run⟩ := shows'.run start actions
    exact ⟨seen, run.symm⟩
  · rintro ⟨actions, rfl⟩
    obtain ⟨run, -, same⟩ := covers.run resting actions
    exact ⟨run, same⟩

end Runs

end NrfUnifying.Lib.Simulation
