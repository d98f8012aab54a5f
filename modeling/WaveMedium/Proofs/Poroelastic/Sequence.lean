/-
Module: WaveMedium.Proofs.Poroelastic.Sequence
Purpose: Which lists of derivation steps the check accepts, and what it reports of the others.
Main exports:
  FirstToFail, DerivationStep.Ready, DerivationStep.Refused, ReadyAfter, checkAfter_answer,
  checkPipeline_verdict
-/
import WaveMedium.Proofs.Poroelastic.Derivation

namespace WaveMedium

/-! ### The first that fails -/

/-- Of the elements of a list that do not have a property, `x` is the first. -/
def FirstToFail {α : Type} (holds : α → Prop) (xs : List α) (x : α) : Prop :=
  ∃ before after, xs = before ++ x :: after ∧ (∀ y ∈ before, holds y) ∧ ¬ holds x

/-- A search for a failed test finds the first element that fails. -/
theorem find?_not_eq_some_iff {α : Type} {test : α → Bool} {holds : α → Prop} {xs : List α} {x : α}
    (decides : ∀ y, test y = true ↔ holds y) :
    xs.find? (fun y => !test y) = some x ↔ FirstToFail holds xs x := by
  simp only [List.find?_eq_some_iff_append, FirstToFail, ← decides, Bool.not_eq_true', Bool.not_not,
    Bool.not_eq_true]
  constructor
  · rintro ⟨failed, before, after, split, passed⟩
    exact ⟨before, after, split, passed, failed⟩
  · rintro ⟨before, after, split, passed, failed⟩
    exact ⟨failed, before, after, split, passed⟩

/-! ### One step -/

namespace DerivationStep

variable {isSupplied : RockProperty → Bool} {before : List DerivationStep} {step : DerivationStep}

/-- A step has what it reads: its supplied properties were supplied, and its derived ones are outputs of
the steps before it. -/
structure Ready (isSupplied : RockProperty → Bool) (before : List DerivationStep)
    (step : DerivationStep) : Prop where
  supplied : ∀ property ∈ step.supplied, isSupplied property = true
  derived : ∀ property ∈ step.derived, ∃ earlier ∈ before, earlier.output = property

/-- What is reported of a step that does not have what it reads.  A supplied property comes before any
derived one, and of either kind the first in the order in which they are declared. -/
inductive Refused (isSupplied : RockProperty → Bool) (before : List DerivationStep)
    (step : DerivationStep) : ModelError Float → Prop where
  | missing {property : RockProperty}
      (first : FirstToFail (fun property => isSupplied property = true) step.supplied property) :
      Refused isSupplied before step (.missing property step.output.description)
  | tooEarly {property : DerivedProperty}
      (supplied : ∀ property ∈ step.supplied, isSupplied property = true)
      (first : FirstToFail (fun property => ∃ earlier ∈ before, earlier.output = property)
        step.derived property) :
      Refused isSupplied before step (.derivedTooEarly step.output property)

theorem contains_outputs_iff (before : List DerivationStep) (property : DerivedProperty) :
    (before.map (·.output)).contains property = true ↔
      ∃ earlier ∈ before, earlier.output = property := by
  rw [List.contains_iff_mem, List.mem_map]

theorem obstacle?_eq_none_iff :
    step.obstacle? isSupplied (before.map (·.output)) = none ↔ step.Ready isSupplied before := by
  simp only [obstacle?_eq_none, List.mem_map]
  exact ⟨fun inputs => ⟨inputs.1, inputs.2⟩, fun ready => ⟨ready.supplied, ready.derived⟩⟩

theorem obstacle?_eq_some_iff {error : ModelError Float} :
    step.obstacle? isSupplied (before.map (·.output)) = some error ↔
      step.Refused isSupplied before error := by
  unfold obstacle?
  cases absent : step.supplied.find? fun property => !isSupplied property with
  | some property =>
      have first := (find?_not_eq_some_iff fun _ => Iff.rfl).mp absent
      constructor
      · rintro ⟨⟩
        exact .missing first
      · rintro (again | ⟨present, _⟩)
        · rw [← find?_not_eq_some_iff fun _ => Iff.rfl, absent] at again
          cases again
          rfl
        · obtain ⟨_, _, split, _, lacking⟩ := first
          exact absurd (present property (by simp [split])) lacking
  | none =>
      have present : ∀ property ∈ step.supplied, isSupplied property = true := by
        simpa using absent
      rw [Option.map_eq_some_iff]
      constructor
      · rintro ⟨property, early, rfl⟩
        exact .tooEarly present ((find?_not_eq_some_iff (contains_outputs_iff before)).mp early)
      · rintro (first | ⟨_, first⟩)
        · rw [← find?_not_eq_some_iff fun _ => Iff.rfl, absent] at first
          cases first
        · exact ⟨_, (find?_not_eq_some_iff (contains_outputs_iff before)).mpr first, rfl⟩

end DerivationStep

/-! ### A list of steps -/

section Steps

variable {isSupplied : RockProperty → Bool} {before steps : List DerivationStep} {step : DerivationStep}

/-- After the steps `before`, each of the steps has what it reads when its turn comes. -/
def ReadyAfter (isSupplied : RockProperty → Bool) (before steps : List DerivationStep) : Prop :=
  ∀ between step rest, steps = between ++ step :: rest → step.Ready isSupplied (before ++ between)

theorem readyAfter_nil : ReadyAfter isSupplied before [] := by
  intro between step rest split
  simp at split

theorem readyAfter_cons :
    ReadyAfter isSupplied before (step :: steps) ↔
      step.Ready isSupplied before ∧ ReadyAfter isSupplied (before ++ [step]) steps := by
  constructor
  · intro ready
    refine ⟨by simpa using ready [] step steps rfl, fun between later rest split => ?_⟩
    simpa using ready (step :: between) later rest (by rw [split]; rfl)
  · rintro ⟨first, others⟩ between later rest split
    rcases List.cons_eq_append_iff.mp split with ⟨rfl, same⟩ | ⟨between, rfl, same⟩
    · cases same
      simpa using first
    · simpa using others between later rest same

/-- The first step that does not have what it reads, and what is reported of it. -/
def StopsAfter (isSupplied : RockProperty → Bool) (before steps : List DerivationStep)
    (error : ModelError Float) : Prop :=
  ∃ between step rest, steps = between ++ step :: rest ∧ ReadyAfter isSupplied before between ∧
    step.Refused isSupplied (before ++ between) error

/-- A step either stops the check or lets the steps after it decide. -/
theorem stopsAfter_cons {error : ModelError Float} :
    StopsAfter isSupplied before (step :: steps) error ↔
      step.Refused isSupplied before error ∨
        step.Ready isSupplied before ∧ StopsAfter isSupplied (before ++ [step]) steps error := by
  constructor
  · rintro ⟨between, later, rest, split, ready, refused⟩
    rcases List.cons_eq_append_iff.mp split with ⟨rfl, same⟩ | ⟨between, rfl, same⟩
    · cases same
      exact .inl (by simpa using refused)
    · obtain ⟨first, others⟩ := readyAfter_cons.mp ready
      exact .inr ⟨first, between, later, rest, same, others, by simpa using refused⟩
  · rintro (refused | ⟨first, between, later, rest, rfl, others, refused⟩)
    · exact ⟨[], step, steps, rfl, readyAfter_nil, by simpa using refused⟩
    · exact ⟨step :: between, later, rest, rfl, readyAfter_cons.mpr ⟨first, others⟩,
        by simpa using refused⟩

/-- After steps whose outputs are there, the others pass the check exactly if each has what it reads when
its turn comes, and otherwise the first that has not decides. -/
theorem checkAfter_answer (steps : List DerivationStep) :
    (checkAfter isSupplied (before.map (·.output)) steps = .ok () ↔
        ReadyAfter isSupplied before steps) ∧
      ∀ failure, checkAfter isSupplied (before.map (·.output)) steps = .error failure ↔
        ∃ error, StopsAfter isSupplied before steps error ∧ failure = .rejected error := by
  induction steps generalizing before with
  | nil => simp [checkAfter, readyAfter_nil, StopsAfter]
  | cons step steps ih =>
      simp only [readyAfter_cons, stopsAfter_cons, checkAfter]
      cases objection : step.obstacle? isSupplied (before.map (·.output)) with
      | none =>
          have ready := DerivationStep.obstacle?_eq_none_iff.mp objection
          have free : ∀ error, ¬ step.Refused isSupplied before error := by
            intro error refused
            rw [← DerivationStep.obstacle?_eq_some_iff, objection] at refused
            cases refused
          -- The outputs of the steps so far are those of the steps before and of this one.
          simpa [ready, free] using @ih (before ++ [step])
      | some error =>
          have refused := DerivationStep.obstacle?_eq_some_iff.mp objection
          have lacking : ¬ step.Ready isSupplied before := by
            intro ready
            rw [← DerivationStep.obstacle?_eq_none_iff, objection] at ready
            cases ready
          have only : ∀ other, step.Refused isSupplied before other ↔ other = error := by
            intro other
            rw [← DerivationStep.obstacle?_eq_some_iff, objection, Option.some.injEq, eq_comm]
          simp [lacking, only, eq_comm]

end Steps

/-- A list of steps is accepted exactly if every step has what it reads: all its supplied properties were
supplied, and each of its derived ones is the output of a step further ahead in the list.  Otherwise the
error is that of the first step for which this fails.  It names the first property of the step that was
not supplied, and if there is none the first that is not an output of a step ahead. -/
theorem checkPipeline_verdict (steps : List DerivationStep) (isSupplied : RockProperty → Bool) :
    (checkPipeline steps isSupplied = .ok () ↔
        ∀ before step after, steps = before ++ step :: after → step.Ready isSupplied before) ∧
      ∀ failure, checkPipeline steps isSupplied = .error failure ↔
        ∃ before step after error, steps = before ++ step :: after ∧
          (∀ ahead earlier rest, before = ahead ++ earlier :: rest → earlier.Ready isSupplied ahead) ∧
          step.Refused isSupplied before error ∧ failure = .rejected error := by
  obtain ⟨accepted, rejected⟩ := @checkAfter_answer isSupplied [] steps
  refine ⟨accepted, fun failure => (rejected failure).trans ?_⟩
  constructor
  · rintro ⟨error, ⟨before, step, after, split, ready, refused⟩, rfl⟩
    exact ⟨before, step, after, error, split, ready, refused, rfl⟩
  · rintro ⟨before, step, after, error, split, ready, refused, rfl⟩
    exact ⟨error, ⟨before, step, after, split, ready, refused⟩, rfl⟩

/-- Each of two steps that read each other's output is too early, whichever comes first. -/
example : checkPipeline
      [⟨.bulkDensity, [.porosity], [.shearVelocity]⟩, ⟨.shearVelocity, [], [.bulkDensity]⟩]
      (fun _ => true) = .error (.rejected (.derivedTooEarly .bulkDensity .shearVelocity)) := rfl

end WaveMedium
