import Mathlib.Logic.Relation

/-!
# Runs of a step function

A run feeds inputs to a step function. `Always` speaks of the states a run
passes through, `EveryStep` of the steps it takes.
-/

namespace NrfUnifying.Lib.Runs

variable {State Input : Type} (step : State → Input → State)

/-- Every state of the run, the first and the last included. -/
def Always (holds : State → Prop) (start : State) (inputs : List Input) : Prop :=
  ∀ before after, inputs = before ++ after → holds (before.foldl step start)

/-- Every step of the run, with the state it is taken from. -/
def EveryStep (holds : State → Input → Prop) (start : State) (inputs : List Input) : Prop :=
  ∀ before input after, inputs = before ++ input :: after → holds (before.foldl step start) input

variable {step} {holds : State → Prop} {condition : State → Input → Prop} {start : State}
  {input : Input} {inputs : List Input}

theorem always_nil : Always step holds start [] ↔ holds start := by
  constructor
  · exact fun always => always [] [] rfl
  · rintro first before after same
    obtain ⟨rfl, rfl⟩ := List.append_eq_nil_iff.mp same.symm
    exact first

theorem always_cons :
    Always step holds start (input :: inputs) ↔
      holds start ∧ Always step holds (step start input) inputs := by
  constructor
  · intro always
    exact ⟨always [] _ rfl,
      fun before after same => always (input :: before) after (by rw [same]; rfl)⟩
  · rintro ⟨first, always⟩ before after same
    cases before with
    | nil => exact first
    | cons head before =>
        obtain ⟨rfl, tail⟩ := List.cons.inj same
        exact always before after tail

theorem everyStep_nil : EveryStep step condition start [] := by
  intro before input after same
  cases before <;> cases same

theorem everyStep_cons :
    EveryStep step condition start (input :: inputs) ↔
      condition start input ∧ EveryStep step condition (step start input) inputs := by
  constructor
  · intro every
    exact ⟨every [] _ _ rfl,
      fun before next after same => every (input :: before) next after (by rw [same]; rfl)⟩
  · rintro ⟨first, every⟩ before next after same
    cases before with
    | nil =>
        obtain ⟨rfl, -⟩ := List.cons.inj same
        exact first
    | cons head before =>
        obtain ⟨rfl, tail⟩ := List.cons.inj same
        exact every before next after tail

theorem EveryStep.and {other : State → Input → Prop}
    (first : EveryStep step condition start inputs) (second : EveryStep step other start inputs) :
    EveryStep step (fun state input => condition state input ∧ other state input) start inputs :=
  fun before input after same => ⟨first before input after same, second before input after same⟩

/-- Every step of a run is taken from one of its states. -/
theorem Always.everyStep (always : Always step holds start inputs) :
    EveryStep step (fun state _ => holds state) start inputs :=
  fun before input after same => always before (input :: after) same

/-- Every step of a run leads to one of its states. -/
theorem Always.everyStep_next (always : Always step holds start inputs) :
    EveryStep step (fun state input => holds (step state input)) start inputs := by
  intro before input after same
  have next := always (before ++ [input]) after (by rw [same, List.append_assoc]; rfl)
  rw [List.foldl_append] at next
  exact next

/-- What fails at the end of a run does not hold always. -/
theorem not_always_of_last (inputs : List Input) (wrong : ¬holds (inputs.foldl step start)) :
    ¬Always step holds start inputs :=
  fun always => wrong (always inputs [] (List.append_nil inputs).symm)

/-- What every step preserves holds in every state. -/
theorem Always.of_step (keeps : ∀ state input, holds state → holds (step state input))
    (first : holds start) (inputs : List Input) : Always step holds start inputs := by
  induction inputs generalizing start with
  | nil => exact always_nil.mpr first
  | cons input inputs ih => exact always_cons.mpr ⟨first, ih (keeps start input first)⟩

/-- What every step under a condition preserves holds in every state of a run under it. -/
theorem Always.of_everyStep
    (keeps : ∀ state input, holds state → condition state input → holds (step state input))
    (first : holds start) (every : EveryStep step condition start inputs) :
    Always step holds start inputs := by
  induction inputs generalizing start with
  | nil => exact always_nil.mpr first
  | cons input inputs ih =>
      obtain ⟨condition, rest⟩ := everyStep_cons.mp every
      exact always_cons.mpr ⟨first, ih (keeps start input first condition) rest⟩

/-- When a condition on each step is what it takes to preserve a property, the property holds in
every state exactly when the condition holds at every step; this in runs that stay in the
`allowed` states. -/
theorem always_iff_everyStep_of_allowed {allowed : State → Prop} (invariant : State → Prop)
    (keeps : ∀ state input, invariant state → allowed (step state input) →
      invariant (step state input))
    (exact_step : ∀ state input, invariant state → allowed (step state input) → holds state →
      (holds (step state input) ↔ condition state input))
    (valid : invariant start) (first : holds start) (stays : Always step allowed start inputs) :
    Always step holds start inputs ↔ EveryStep step condition start inputs := by
  induction inputs generalizing start with
  | nil => exact ⟨fun _ => everyStep_nil, fun _ => always_nil.mpr first⟩
  | cons input inputs ih =>
      obtain ⟨-, stays⟩ := always_cons.mp stays
      have inside : allowed (step start input) := stays [] inputs rfl
      have valid' := keeps _ _ valid inside
      rw [always_cons, everyStep_cons]
      constructor
      · rintro ⟨-, always⟩
        have next : holds (step start input) := always [] inputs rfl
        exact ⟨(exact_step _ _ valid inside first).mp next, (ih valid' next stays).mp always⟩
      · rintro ⟨condition, every⟩
        have next := (exact_step _ _ valid inside first).mpr condition
        exact ⟨first, (ih valid' next stays).mpr every⟩

theorem always_iff_everyStep (invariant : State → Prop)
    (keeps : ∀ state input, invariant state → invariant (step state input))
    (exact_step : ∀ state input, invariant state → holds state →
      (holds (step state input) ↔ condition state input))
    (valid : invariant start) (first : holds start) :
    Always step holds start inputs ↔ EveryStep step condition start inputs :=
  always_iff_everyStep_of_allowed invariant (fun _ _ valid _ => keeps _ _ valid)
    (fun _ _ valid _ => exact_step _ _ valid) valid first
    (@Always.of_step _ _ step (fun _ => True) start (fun _ _ _ => trivial) trivial inputs)

/-! ## Chains of steps of a relation -/

open Relation in
/-- What every step keeps, a chain of steps keeps. -/
@[elab_as_elim]
theorem chain_keeps {related : State → State → Prop} {first last : State} {motive : State → Prop}
    (chain : ReflTransGen related first last) (start : motive first)
    (keeps : ∀ {before after : State}, related before after → motive before → motive after) :
    motive last := by
  induction chain with
  | refl => exact start
  | tail _ step ih => exact keeps step ih

end NrfUnifying.Lib.Runs
