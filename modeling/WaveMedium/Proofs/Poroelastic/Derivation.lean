/-
Module: WaveMedium.Proofs.Poroelastic.Derivation
Purpose: A derivation computes in every cell the formulas of Biot's theory, and a derived property varies
  exactly if something varies from which it follows.
Main exports:
  RockTable.value, DerivedProperty.DependsOn, Operand.Agrees, Computes, computes_derive,
  exists_runPipeline, exists_fixedPipeline
-/
import WaveMedium.Poroelastic.Derivation

namespace WaveMedium

/-! ### The formulas -/

namespace RockTable

variable (rock : RockTable Float)

def biotCoefficient : Float := 1.0 - rock.drainedBulkModulus / rock.solidBulkModulus

def biotModulus : Float :=
  (rock.biotCoefficient - rock.porosity) / rock.solidBulkModulus +
    rock.porosity / rock.fluidBulkModulus

def undrainedBulkModulus : Float :=
  rock.drainedBulkModulus + rock.biotCoefficient * rock.biotCoefficient * rock.biotModulus

def bulkDensity : Float :=
  rock.solidDensity * (1.0 - rock.porosity) + rock.fluidDensity * rock.porosity

def compressionalVelocity : Float :=
  ((rock.undrainedBulkModulus + 4.0 * rock.shearModulus / 3.0) / rock.bulkDensity).sqrt

def shearVelocity : Float := (rock.shearModulus / rock.bulkDensity).sqrt

def undrainedLame : Float := rock.undrainedBulkModulus - 2.0 * rock.shearModulus / 3.0

/-- The value of a derived property at a point whose supplied properties have the given values.  No value
is rounded on the way. -/
def value : DerivedProperty → Float
  | .biotCoefficient => rock.biotCoefficient
  | .biotModulus => rock.biotModulus
  | .undrainedBulkModulus => rock.undrainedBulkModulus
  | .bulkDensity => rock.bulkDensity
  | .compressionalVelocity => rock.compressionalVelocity
  | .shearVelocity => rock.shearVelocity
  | .undrainedLame => rock.undrainedLame

end RockTable

/-! ### What follows from what -/

/-- A derived property follows from a supplied one, directly or through other derived properties. -/
inductive DerivedProperty.DependsOn : DerivedProperty → RockProperty → Prop
  | supplied {output : DerivedProperty} {property : RockProperty}
      (read : property ∈ (DerivationStep.standard output).supplied) : DependsOn output property
  | derived {output earlier : DerivedProperty} {property : RockProperty}
      (read : earlier ∈ (DerivationStep.standard output).derived)
      (before : DependsOn earlier property) : DependsOn output property

/-- Whether a derived property follows from one that varies. -/
def DerivedProperty.Varies (varies : RockProperty → Prop) (output : DerivedProperty) : Prop :=
  ∃ property, output.DependsOn property ∧ varies property

theorem DerivedProperty.varies_iff {varies : RockProperty → Prop} {output : DerivedProperty} :
    output.Varies varies ↔
      (∃ property ∈ (DerivationStep.standard output).supplied, varies property) ∨
        ∃ earlier ∈ (DerivationStep.standard output).derived, earlier.Varies varies := by
  constructor
  · rintro ⟨property, depends, varying⟩
    cases depends with
    | supplied read => exact .inl ⟨property, read, varying⟩
    | derived read before => exact .inr ⟨_, read, property, before, varying⟩
  · rintro (⟨property, read, varying⟩ | ⟨earlier, read, property, before, varying⟩)
    · exact ⟨property, .supplied read, varying⟩
    · exact ⟨property, .derived read before, varying⟩

/-! ### Operands -/

/-- An operand has a given value in every cell of a box, and values per cell exactly if it varies. -/
def Operand.Agrees (shape : List Nat) (varies : Prop) (value : List Nat → Float) : Operand → Prop
  | .uniform held => ¬ varies ∧ ∀ index, InBox shape index → value index = held
  | .varying held =>
      varies ∧ held.shape = shape ∧ ∀ index, InBox shape index → held.get? index = some (value index)

theorem Operand.Agrees.congr {shape : List Nat} {varies changes : Prop} {value : List Nat → Float}
    {operand : Operand} (agrees : operand.Agrees shape varies value) (same : changes ↔ varies) :
    operand.Agrees shape changes value := by
  cases operand with
  | uniform held => exact ⟨fun change => agrees.1 (same.mp change), agrees.2⟩
  | varying held => exact ⟨same.mpr agrees.1, agrees.2⟩

theorem Operand.Agrees.cell {shape : List Nat} {varies : Prop} {value : List Nat → Float}
    {operand : Operand} (agrees : operand.Agrees shape varies value) {index : List Nat}
    (inside : InBox shape index) : operand.cell? index = some (value index) := by
  cases operand with
  | uniform held => exact congrArg some (agrees.2 index inside).symm
  | varying held => exact agrees.2.2 index inside

/-- An operand of the right shape has its own values. -/
theorem Operand.agrees_self {operand : Operand} {shape : List Nat}
    (stored : ∀ values, operand = .varying values → values.shape = shape) :
    operand.Agrees shape (∃ values, operand = .varying values)
      fun index => (operand.cell? index).getD 0.0 := by
  cases operand with
  | uniform held => exact ⟨by simp, fun _ _ => rfl⟩
  | varying held =>
      refine ⟨⟨held, rfl⟩, stored held rfl, fun index inside => ?_⟩
      exact Tensor.get?_eq_getD ((stored held rfl).symm ▸ inside) 0.0

/-- A computation succeeds with an operand that has a given value in every cell of a box. -/
def Computes (shape : List Nat) (varies : Prop) (value : List Nat → Float)
    (computation : Outcome Operand) : Prop :=
  ∃ operand, computation = .ok operand ∧ operand.Agrees shape varies value

theorem Computes.congr {shape : List Nat} {varies changes : Prop} {value : List Nat → Float}
    {computation : Outcome Operand} (computes : Computes shape varies value computation)
    (same : changes ↔ varies) : Computes shape changes value computation := by
  obtain ⟨operand, done, agrees⟩ := computes
  exact ⟨operand, done, agrees.congr same⟩

theorem Computes.bind {shape : List Nat} {p q : Prop} {u w : List Nat → Float}
    {first : Outcome Operand} {next : Operand → Outcome Operand} (computes : Computes shape p u first)
    (rest : ∀ operand, operand.Agrees shape p u → Computes shape q w (next operand)) :
    Computes shape q w (first >>= next) := by
  obtain ⟨operand, rfl, agrees⟩ := computes
  exact rest operand agrees

/-- Two operands that agree with values on one box can be combined.  The result varies exactly if one of
them does. -/
theorem Operand.Agrees.zipWith {shape : List Nat} {p q : Prop} {u w : List Nat → Float}
    {a b : Operand} (left : a.Agrees shape p u) (right : b.Agrees shape q w)
    (f : Float → Float → Float) :
    Computes shape (p ∨ q) (fun index => f (u index) (w index)) (a.zipWith f b) := by
  cases a with
  | uniform x =>
      cases b with
      | uniform y =>
          refine ⟨_, rfl, by simp [left.1, right.1], ?_⟩
          intro index inside
          simp only [left.2 index inside, right.2 index inside]
      | varying ys =>
          refine ⟨_, rfl, .inr right.1, right.2.1, ?_⟩
          intro index inside
          rw [Tensor.get?_map, right.2.2 index inside, ← left.2 index inside]
          rfl
  | varying xs =>
      cases b with
      | uniform y =>
          refine ⟨_, rfl, .inl left.1, left.2.1, ?_⟩
          intro index inside
          rw [Tensor.get?_map, left.2.2 index inside, ← right.2 index inside]
          rfl
      | varying ys =>
          obtain ⟨zs, zipped, lengths, cells⟩ :=
            Tensor.exists_zipWith? f (right.2.1.trans left.2.1.symm)
          refine ⟨.varying zs, by simp only [Operand.zipWith, zipped], .inl left.1,
            lengths.trans left.2.1, ?_⟩
          intro index inside
          exact cells index _ _ (left.2.2 index inside) (right.2.2 index inside)

/-! ### One step -/

section Steps

variable {shape : List Nat} {varies : RockProperty → Prop} {rock : List Nat → RockTable Float}

/-- A supplied property is there and has the values of a rock. -/
def Supplied.Agrees (supplied : Supplied) (shape : List Nat) (varies : RockProperty → Prop)
    (rock : List Nat → RockTable Float) (property : RockProperty) : Prop :=
  ∃ operand, supplied.get property = some operand ∧
    operand.Agrees shape (varies property) fun index => (rock index).get property

/-- A derived property is there and has the values that follow for a rock. -/
def Derived.Agrees (derived : Derived) (shape : List Nat) (varies : RockProperty → Prop)
    (rock : List Nat → RockTable Float) (output : DerivedProperty) : Prop :=
  ∃ operand, derived.get output = some operand ∧
    operand.Agrees shape (output.Varies varies) fun index => (rock index).value output

theorem Supplied.computes_read {supplied : Supplied} {property : RockProperty}
    (agrees : Supplied.Agrees supplied shape varies rock property) (output : DerivedProperty) :
    Computes shape (varies property) (fun index => (rock index).get property)
      (supplied.read output property) := by
  obtain ⟨operand, found, holds⟩ := agrees
  exact ⟨operand, by simp only [Supplied.read, found], holds⟩

theorem Derived.computes_read {derived : Derived} {earlier : DerivedProperty}
    (agrees : Derived.Agrees derived shape varies rock earlier) (output : DerivedProperty) :
    Computes shape (earlier.Varies varies) (fun index => (rock index).value earlier)
      (derived.read output earlier) := by
  obtain ⟨operand, found, holds⟩ := agrees
  exact ⟨operand, by simp only [Derived.read, found], holds⟩

/-- A step whose inputs are there computes its formula in every cell. -/
theorem computes_derive {supplied : Supplied} {derived : Derived} {output : DerivedProperty}
    (rocks : ∀ property ∈ (DerivationStep.standard output).supplied,
      Supplied.Agrees supplied shape varies rock property)
    (before : ∀ earlier ∈ (DerivationStep.standard output).derived,
      Derived.Agrees derived shape varies rock earlier) :
    Computes shape (output.Varies varies) (fun index => (rock index).value output)
      (derive supplied derived output) := by
  have read : ∀ property ∈ (DerivationStep.standard output).supplied, _ :=
    fun property member => Supplied.computes_read (rocks property member) output
  have reuse : ∀ earlier ∈ (DerivationStep.standard output).derived, _ :=
    fun earlier member => Derived.computes_read (before earlier member) output
  rw [DerivedProperty.varies_iff]
  -- One case per formula.  Its inputs are taken in the order in which the step reads them, and what is
  -- left at the end is that it reads exactly what is declared beside it.
  cases output with
  | biotCoefficient =>
      apply (read .drainedBulkModulus (by decide)).bind
      intro _ drained
      apply (read .solidBulkModulus (by decide)).bind
      intro _ solid
      apply (drained.zipWith solid _).congr
      simp [DerivationStep.standard]
  | biotModulus =>
      apply (reuse .biotCoefficient (by decide)).bind
      intro _ coefficient
      apply (read .porosity (by decide)).bind
      intro _ porosity
      apply (coefficient.zipWith porosity _).bind
      intro _ excess
      apply (read .solidBulkModulus (by decide)).bind
      intro _ modulus
      apply (excess.zipWith modulus _).bind
      intro _ solid
      apply (read .porosity (by decide)).bind
      intro _ porosity
      apply (read .fluidBulkModulus (by decide)).bind
      intro _ modulus
      apply (porosity.zipWith modulus _).bind
      intro _ fluid
      apply (solid.zipWith fluid _).congr
      grind [DerivationStep.standard]
  | undrainedBulkModulus =>
      apply (reuse .biotCoefficient (by decide)).bind
      intro _ coefficient
      apply (reuse .biotModulus (by decide)).bind
      intro _ modulus
      apply (coefficient.zipWith modulus _).bind
      intro _ coupling
      apply (read .drainedBulkModulus (by decide)).bind
      intro _ drained
      apply (drained.zipWith coupling _).congr
      simp [DerivationStep.standard]
  | bulkDensity =>
      apply (read .solidDensity (by decide)).bind
      intro _ density
      apply (read .porosity (by decide)).bind
      intro _ porosity
      apply (density.zipWith porosity _).bind
      intro _ solid
      apply (read .fluidDensity (by decide)).bind
      intro _ density
      apply (read .porosity (by decide)).bind
      intro _ porosity
      apply (density.zipWith porosity _).bind
      intro _ fluid
      apply (solid.zipWith fluid _).congr
      grind [DerivationStep.standard]
  | compressionalVelocity =>
      apply (reuse .undrainedBulkModulus (by decide)).bind
      intro _ bulk
      apply (read .shearModulus (by decide)).bind
      intro _ shear
      apply (bulk.zipWith shear _).bind
      intro _ stiffness
      apply (reuse .bulkDensity (by decide)).bind
      intro _ density
      apply (stiffness.zipWith density _).congr
      grind [DerivationStep.standard]
  | shearVelocity =>
      apply (read .shearModulus (by decide)).bind
      intro _ shear
      apply (reuse .bulkDensity (by decide)).bind
      intro _ density
      apply (shear.zipWith density _).congr
      simp [DerivationStep.standard]
  | undrainedLame =>
      apply (reuse .undrainedBulkModulus (by decide)).bind
      intro _ bulk
      apply (read .shearModulus (by decide)).bind
      intro _ shear
      apply (bulk.zipWith shear _).congr
      grind [DerivationStep.standard]

/-! ### A whole run -/

/-- The check lets a step through exactly if it has its inputs. -/
theorem DerivationStep.obstacle?_eq_none {step : DerivationStep}
    {isSupplied : RockProperty → Bool} {outputs : List DerivedProperty} :
    step.obstacle? isSupplied outputs = none ↔
      (∀ property ∈ step.supplied, isSupplied property = true) ∧
        ∀ earlier ∈ step.derived, earlier ∈ outputs := by
  unfold DerivationStep.obstacle?
  split
  · rename_i property absent
    have refused := List.find?_some absent
    have member := List.mem_of_find?_eq_some absent
    constructor
    · intro impossible
      cases impossible
    · intro inputs
      rw [inputs.1 property member] at refused
      cases refused
  · rename_i present
    rw [List.find?_eq_none] at present
    rw [Option.map_eq_none_iff, List.find?_eq_none]
    constructor
    · intro free
      exact ⟨by simpa using present, by simpa using free⟩
    · intro inputs
      simpa using inputs.2

/-- Setting one output keeps what the others hold. -/
theorem Derived.Agrees.set {derived : Derived} {output : DerivedProperty} {operand : Operand}
    (holds : operand.Agrees shape (output.Varies varies) fun index => (rock index).value output)
    {other : DerivedProperty}
    (before : other ≠ output → Derived.Agrees derived shape varies rock other) :
    Derived.Agrees (derived.set output (some operand)) shape varies rock other := by
  by_cases same : other = output
  · subst same
    exact ⟨operand, derived.get_set_self other _, holds⟩
  · obtain ⟨held, found, agrees⟩ := before same
    exact ⟨held, (derived.get_set_of_ne _ same).trans found, agrees⟩

/-- Steps that pass the check run to the end, and then every output of theirs and every output that was
there before them has its formula's value in every cell. -/
theorem exists_runPipeline {supplied : Supplied} {isSupplied : RockProperty → Bool}
    (rocks : ∀ property, isSupplied property = true →
      Supplied.Agrees supplied shape varies rock property)
    {steps : List DerivationStep}
    (standard : ∀ step ∈ steps, step = DerivationStep.standard step.output)
    {outputs : List DerivedProperty} {derived : Derived}
    (before : ∀ output ∈ outputs, Derived.Agrees derived shape varies rock output)
    (checked : checkAfter isSupplied outputs steps = .ok ()) :
    ∃ final, runPipeline supplied derived steps = .ok final ∧
      ∀ output ∈ outputs ++ steps.map (·.output), Derived.Agrees final shape varies rock output := by
  induction steps generalizing outputs derived with
  | nil => exact ⟨derived, rfl, by simpa using before⟩
  | cons step steps ih =>
      unfold checkAfter at checked
      split at checked
      · cases checked
      · rename_i free
        obtain ⟨present, earlier⟩ := DerivationStep.obstacle?_eq_none.mp free
        rw [standard step (List.mem_cons_self ..)] at present earlier
        obtain ⟨operand, done, holds⟩ := computes_derive
          (fun property read => rocks property (present property read))
          (fun output read => before output (earlier output read))
        have after : ∀ output ∈ outputs ++ [step.output],
            Derived.Agrees (derived.set step.output (some operand)) shape varies rock output := by
          intro output member
          apply Derived.Agrees.set holds
          intro apart
          exact before output (by simpa [apart] using member)
        -- The rest of the steps was checked with this output among those that are there.
        obtain ⟨final, finished, agrees⟩ := ih
          (fun other member => standard other (List.mem_cons_of_mem step member)) after checked
        refine ⟨final, ?_, by simpa using agrees⟩
        simp only [runPipeline, done, bind_ok, finished]

/-- The fixed order has a step for every derived property. -/
theorem exists_fixedPipeline {supplied : Supplied} {isSupplied : RockProperty → Bool}
    (rocks : ∀ property, isSupplied property = true →
      Supplied.Agrees supplied shape varies rock property)
    (checked : checkPipeline pipeline isSupplied = .ok ()) :
    ∃ final, runPipeline supplied Derived.none pipeline = .ok final ∧
      ∀ output, Derived.Agrees final shape varies rock output := by
  have standard : ∀ step ∈ pipeline, step = DerivationStep.standard step.output := by decide
  obtain ⟨final, finished, agrees⟩ := exists_runPipeline rocks standard
    (fun output member => absurd member List.not_mem_nil) checked
  exact ⟨final, finished, fun output => agrees output (by cases output <;> decide)⟩

end Steps

end WaveMedium
