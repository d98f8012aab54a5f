/-
Module: WaveMedium.Proofs.Poroelastic.Order
Purpose: Steps of a derivation may run in any order that the check accepts, and as often as one likes:
  every output has the value that the fixed order gives it.
Main exports:
  Settled, Settled.runPipeline, Settled.agree, runPipeline_agree, of_checkAfter, checkAfter_filter,
  runPipeline_fixed_order
-/
import WaveMedium.Proofs.Poroelastic.Derivation

namespace WaveMedium

/-! ### What a step reads -/

theorem Derived.get_of_read {derived : Derived} {output earlier : DerivedProperty} {held : Operand}
    (read : derived.read output earlier = .ok held) : derived.get earlier = some held := by
  unfold Derived.read at read
  split at read
  · rename_i found
    cases read
    exact found
  · cases read

/-- A step computes the same from outputs that agree on what is declared beside it. -/
theorem derive_congr {supplied : Supplied} {a b : Derived} {output : DerivedProperty}
    (same : ∀ earlier ∈ (DerivationStep.standard output).derived, a.get earlier = b.get earlier) :
    derive supplied a output = derive supplied b output := by
  have reads : ∀ earlier ∈ (DerivationStep.standard output).derived,
      a.read output earlier = b.read output earlier := by
    intro earlier member
    simp only [Derived.read, same earlier member]
  cases output with
  | biotCoefficient => rfl
  | biotModulus => simp only [derive, reads .biotCoefficient (by decide)]
  | undrainedBulkModulus =>
      simp only [derive, reads .biotCoefficient (by decide), reads .biotModulus (by decide)]
  | bulkDensity => rfl
  | compressionalVelocity =>
      simp only [derive, reads .undrainedBulkModulus (by decide), reads .bulkDensity (by decide)]
  | shearVelocity => simp only [derive, reads .bulkDensity (by decide)]
  | undrainedLame => simp only [derive, reads .undrainedBulkModulus (by decide)]

/-- A step that succeeds found everything that is declared beside it. -/
theorem exists_of_derive {supplied : Supplied} {derived : Derived} {output : DerivedProperty}
    {operand : Operand} (done : derive supplied derived output = .ok operand) :
    ∀ earlier ∈ (DerivationStep.standard output).derived,
      ∃ held, derived.get earlier = some held := by
  have found : ∀ {earlier held}, derived.read output earlier = .ok held →
      ∃ held, derived.get earlier = some held := fun read => ⟨_, Derived.get_of_read read⟩
  cases output with
  | biotCoefficient => intro _ member; cases member
  | bulkDensity => intro _ member; cases member
  | biotModulus =>
      obtain ⟨_, coefficient, _⟩ := exists_of_bind_eq_ok done
      simpa [DerivationStep.standard] using found coefficient
  | undrainedBulkModulus =>
      obtain ⟨_, coefficient, done⟩ := exists_of_bind_eq_ok done
      obtain ⟨_, modulus, _⟩ := exists_of_bind_eq_ok done
      simpa [DerivationStep.standard] using ⟨found coefficient, found modulus⟩
  | compressionalVelocity =>
      obtain ⟨_, bulk, done⟩ := exists_of_bind_eq_ok done
      obtain ⟨_, _, done⟩ := exists_of_bind_eq_ok done
      obtain ⟨_, _, done⟩ := exists_of_bind_eq_ok done
      obtain ⟨_, density, _⟩ := exists_of_bind_eq_ok done
      simpa [DerivationStep.standard] using ⟨found bulk, found density⟩
  | shearVelocity =>
      obtain ⟨_, _, done⟩ := exists_of_bind_eq_ok done
      obtain ⟨_, density, _⟩ := exists_of_bind_eq_ok done
      simpa [DerivationStep.standard] using found density
  | undrainedLame =>
      obtain ⟨_, bulk, _⟩ := exists_of_bind_eq_ok done
      simpa [DerivationStep.standard] using found bulk

/-! ### Outputs that no step changes any more -/

/-- Whatever output is there is what its step computes from the outputs that are there. -/
def Settled (supplied : Supplied) (derived : Derived) : Prop :=
  ∀ output operand, derived.get output = some operand → derive supplied derived output = .ok operand

theorem settled_none (supplied : Supplied) : Settled supplied Derived.none := by
  intro output operand found
  rw [Derived.none, DerivedTable.get_ofFn] at found
  cases found

/-- A step run once more changes nothing, and one run for the first time changes no input of an output
that is there. -/
theorem Settled.set {supplied : Supplied} {derived : Derived} {output : DerivedProperty}
    {operand : Operand} (settled : Settled supplied derived)
    (done : derive supplied derived output = .ok operand) :
    Settled supplied (derived.set output (some operand)) := by
  have keeps : ∀ other, (∃ held, derived.get other = some held) →
      (derived.set output (some operand)).get other = derived.get other := by
    rintro other ⟨held, found⟩
    by_cases same : other = output
    · subst same
      have again := settled other held found
      rw [done] at again
      cases again
      rw [derived.get_set_self, found]
    · exact derived.get_set_of_ne _ same
  have recompute : ∀ other held, derive supplied derived other = .ok held →
      derive supplied (derived.set output (some operand)) other = .ok held := by
    intro other held computed
    rw [← computed]
    exact derive_congr fun earlier member => keeps earlier (exists_of_derive computed earlier member)
  intro other held found
  by_cases same : other = output
  · subst same
    rw [derived.get_set_self] at found
    cases found
    exact recompute other operand done
  · rw [derived.get_set_of_ne _ same] at found
    exact recompute other held (settled other held found)

theorem Settled.runPipeline {supplied : Supplied} {steps : List DerivationStep}
    {derived final : Derived} (settled : Settled supplied derived)
    (done : runPipeline supplied derived steps = .ok final) : Settled supplied final := by
  induction steps generalizing derived with
  | nil =>
      cases done
      exact settled
  | cons step steps ih =>
      obtain ⟨operand, computed, rest⟩ := exists_of_bind_eq_ok done
      exact ih (settled.set computed) rest

/-- What holds of a property whenever it holds of the properties that its step reads holds of all. -/
theorem DerivedProperty.induction_inputs {motive : DerivedProperty → Prop}
    (step : ∀ output, (∀ earlier ∈ (DerivationStep.standard output).derived, motive earlier) →
      motive output) (output : DerivedProperty) : motive output := by
  have coefficient := step .biotCoefficient (by simp [DerivationStep.standard])
  have modulus := step .biotModulus (by simpa [DerivationStep.standard] using coefficient)
  have bulk := step .undrainedBulkModulus
    (by simpa [DerivationStep.standard] using ⟨coefficient, modulus⟩)
  have density := step .bulkDensity (by simp [DerivationStep.standard])
  have compressional := step .compressionalVelocity
    (by simpa [DerivationStep.standard] using ⟨bulk, density⟩)
  have shear := step .shearVelocity (by simpa [DerivationStep.standard] using density)
  have lame := step .undrainedLame (by simpa [DerivationStep.standard] using bulk)
  cases output <;> assumption

/-- Two settled tables agree wherever both have an output. -/
theorem Settled.agree {supplied : Supplied} {a b : Derived} (left : Settled supplied a)
    (right : Settled supplied b) (output : DerivedProperty) :
    ∀ x y, a.get output = some x → b.get output = some y → x = y := by
  induction output using DerivedProperty.induction_inputs with
  | step output ih =>
      intro x y first second
      have computed := left output x first
      have again := right output y second
      have same : ∀ earlier ∈ (DerivationStep.standard output).derived,
          a.get earlier = b.get earlier := by
        intro earlier member
        obtain ⟨u, here⟩ := exists_of_derive computed earlier member
        obtain ⟨w, there⟩ := exists_of_derive again earlier member
        rw [here, there, ih earlier member u w here there]
      rw [derive_congr same, again] at computed
      cases computed
      rfl


/-- A run computes the output of each of its steps and loses none that was there. -/
theorem isSome_get_of_runPipeline {supplied : Supplied} {steps : List DerivationStep}
    {derived final : Derived} (done : runPipeline supplied derived steps = .ok final)
    {output : DerivedProperty}
    (reached : (derived.get output).isSome = true ∨ ∃ step ∈ steps, step.output = output) :
    (final.get output).isSome = true := by
  induction steps generalizing derived with
  | nil =>
      cases done
      simpa using reached
  | cons step steps ih =>
      obtain ⟨operand, _, rest⟩ := exists_of_bind_eq_ok done
      refine ih rest ?_
      by_cases same : output = step.output
      · subst same
        exact .inl (by rw [derived.get_set_self]; rfl)
      · rw [derived.get_set_of_ne _ same]
        rcases reached with before | ⟨other, member, rfl⟩
        · exact .inl before
        · rcases List.mem_cons.mp member with rfl | member
          · exact absurd rfl same
          · exact .inr ⟨other, member, rfl⟩

theorem isSome_of_runPipeline {supplied : Supplied} {steps : List DerivationStep}
    {derived final : Derived} (done : runPipeline supplied derived steps = .ok final)
    {step : DerivationStep} (member : step ∈ steps) : (final.get step.output).isSome = true :=
  isSome_get_of_runPipeline done (.inr ⟨step, member, rfl⟩)

/-- Two runs that start from nothing compute the same output of a step that both have. -/
theorem runPipeline_agree {supplied : Supplied} {left right : List DerivationStep} {a b : Derived}
    (first : runPipeline supplied Derived.none left = .ok a)
    (second : runPipeline supplied Derived.none right = .ok b) {step : DerivationStep}
    (here : step ∈ left) (there : step ∈ right) : a.get step.output = b.get step.output := by
  obtain ⟨x, found⟩ := Option.isSome_iff_exists.mp (isSome_of_runPipeline first here)
  obtain ⟨y, other⟩ := Option.isSome_iff_exists.mp (isSome_of_runPipeline second there)
  have settled := settled_none supplied
  rw [found, other,
    (settled.runPipeline first).agree (settled.runPipeline second) step.output x y found other]

/-! ### Orders that the check accepts -/

/-- Steps that pass the check have their supplied inputs, and each of their derived inputs is there
before them or among their outputs. -/
theorem of_checkAfter {isSupplied : RockProperty → Bool} {outputs : List DerivedProperty}
    {steps : List DerivationStep} (checked : checkAfter isSupplied outputs steps = .ok ()) :
    ∀ step ∈ steps, (∀ property ∈ step.supplied, isSupplied property = true) ∧
      ∀ earlier ∈ step.derived, earlier ∈ outputs ++ steps.map (·.output) := by
  induction steps generalizing outputs with
  | nil => intro _ member; cases member
  | cons first steps ih =>
      unfold checkAfter at checked
      split at checked
      · cases checked
      · rename_i free
        obtain ⟨present, before⟩ := DerivationStep.obstacle?_eq_none.mp free
        intro step member
        rcases List.mem_cons.mp member with rfl | member
        · exact ⟨present, fun earlier read => List.mem_append_left _ (before earlier read)⟩
        · simpa using ih checked step member

/-- Steps may be left out of an order that passes the check, if nothing that is kept reads what they
compute. -/
theorem checkAfter_filter {isSupplied present : RockProperty → Bool} {keep : DerivationStep → Bool}
    {needed : DerivedProperty → Prop} {order : List DerivationStep}
    (supplied : ∀ step ∈ order, keep step = true →
      ∀ property ∈ step.supplied, present property = true)
    (closed : ∀ step ∈ order, keep step = true → ∀ earlier ∈ step.derived, needed earlier)
    (kept : ∀ step ∈ order, needed step.output → keep step = true)
    {all part : List DerivedProperty} (reached : ∀ output ∈ all, needed output → output ∈ part)
    (checked : checkAfter isSupplied all order = .ok ()) :
    checkAfter present part (order.filter keep) = .ok () := by
  induction order generalizing all part with
  | nil => rfl
  | cons step order ih =>
      unfold checkAfter at checked
      split at checked
      · cases checked
      · rename_i free
        obtain ⟨_, before⟩ := DerivationStep.obstacle?_eq_none.mp free
        have rest := @ih (fun other member => supplied other (List.mem_cons_of_mem step member))
          (fun other member => closed other (List.mem_cons_of_mem step member))
          (fun other member => kept other (List.mem_cons_of_mem step member))
        have head := List.mem_cons_self (a := step) (l := order)
        cases chosen : keep step with
        | true =>
            have inputs := DerivationStep.obstacle?_eq_none.mpr ⟨supplied step head chosen,
              fun earlier read =>
                reached earlier (before earlier read) (closed step head chosen earlier read)⟩
            rw [List.filter_cons_of_pos chosen, checkAfter, inputs]
            refine rest ?_ checked
            simp only [List.mem_append, List.mem_singleton]
            rintro output (member | rfl) wanted
            · exact .inl (reached output member wanted)
            · exact .inr rfl
        | false =>
            rw [List.filter_cons_of_neg (by simp [chosen])]
            refine rest ?_ checked
            simp only [List.mem_append, List.mem_singleton]
            rintro output (member | rfl) wanted
            · exact reached output member wanted
            · rw [kept step head wanted] at chosen
              cases chosen

/-- A step of the fixed order is known by its output. -/
theorem eq_standard_of_mem_pipeline {step : DerivationStep} (entry : step ∈ pipeline) :
    step = DerivationStep.standard step.output := by
  obtain ⟨output, _, rfl⟩ := List.mem_map.mp entry
  cases output <;> rfl

/-- The fixed order, less the steps that an accepted order does not have, is accepted as well. -/
theorem checkPipeline_filter_pipeline {isSupplied : RockProperty → Bool}
    {steps : List DerivationStep} (entries : ∀ step ∈ steps, step ∈ pipeline)
    (accepted : checkPipeline steps isSupplied = .ok ()) :
    checkPipeline (pipeline.filter (· ∈ steps)) isSupplied = .ok () := by
  have inputs := of_checkAfter accepted
  have whole : checkAfter (fun _ => true) [] pipeline = .ok () := rfl
  have supplied : ∀ step ∈ pipeline, decide (step ∈ steps) = true →
      ∀ property ∈ step.supplied, isSupplied property = true := by
    intro step _ chosen
    exact (inputs step (of_decide_eq_true chosen)).1
  have closed : ∀ step ∈ pipeline, decide (step ∈ steps) = true →
      ∀ earlier ∈ step.derived, earlier ∈ steps.map (·.output) := by
    intro step _ chosen
    exact (inputs step (of_decide_eq_true chosen)).2
  have kept : ∀ step ∈ pipeline, step.output ∈ steps.map (·.output) →
      decide (step ∈ steps) = true := by
    intro step entry wanted
    obtain ⟨other, member, same⟩ := List.mem_map.mp wanted
    rw [eq_standard_of_mem_pipeline entry, ← same,
      ← eq_standard_of_mem_pipeline (entries other member)]
    exact decide_eq_true member
  exact checkAfter_filter supplied closed kept (fun _ member _ => member) whole

/-! ### Any accepted order -/

/-- The values that supplied operands have in a cell. -/
def Supplied.rockAt (supplied : Supplied) (index : List Nat) : RockTable Float :=
  supplied.map fun operand? => (operand?.bind (·.cell? index)).getD 0.0

/-- Operands of one shape have their own values. -/
theorem Supplied.agrees_rockAt {supplied : Supplied} {shape : List Nat}
    (shapes : ∀ property values, supplied.get property = some (.varying values) →
      values.shape = shape)
    {property : RockProperty} (present : (supplied.get property).isSome = true) :
    Supplied.Agrees supplied shape
      (fun property => ∃ values, supplied.get property = some (.varying values))
      supplied.rockAt property := by
  obtain ⟨operand, found⟩ := Option.isSome_iff_exists.mp present
  have stored : ∀ values, operand = .varying values → values.shape = shape :=
    fun values varying => shapes property values (found.trans (congrArg some varying))
  have agrees := Operand.agrees_self stored
  exact ⟨operand, found, by simpa [Supplied.rockAt, found] using agrees⟩

/-- An accepted order of steps on operands of one shape runs to the end. -/
theorem exists_runPipeline_of_checkPipeline {supplied : Supplied} {shape : List Nat}
    {steps : List DerivationStep} (entries : ∀ step ∈ steps, step ∈ pipeline)
    (shapes : ∀ property values, supplied.get property = some (.varying values) →
      values.shape = shape)
    (accepted : checkPipeline steps (fun property => (supplied.get property).isSome) = .ok ()) :
    ∃ final, runPipeline supplied Derived.none steps = .ok final := by
  obtain ⟨final, done, _⟩ := exists_runPipeline
    (fun property => Supplied.agrees_rockAt shapes)
    (fun step member => eq_standard_of_mem_pipeline (entries step member))
    (fun output impossible => absurd impossible List.not_mem_nil) accepted
  exact ⟨final, done⟩

/-- Take any steps of the fixed order, in any order and as often as one likes, that the check accepts for
operands of one shape.  They run to the end.  So do the same steps in the fixed order, and every output is
the same; it is also the same in a run of the whole fixed order, if that has all of its inputs. -/
theorem runPipeline_fixed_order {supplied : Supplied} {shape : List Nat}
    {steps : List DerivationStep} (entries : ∀ step ∈ steps, step ∈ pipeline)
    (shapes : ∀ property values, supplied.get property = some (.varying values) →
      values.shape = shape)
    (accepted : checkPipeline steps (fun property => (supplied.get property).isSome) = .ok ()) :
    ∃ final fixed,
      runPipeline supplied Derived.none steps = .ok final ∧
      runPipeline supplied Derived.none (pipeline.filter (· ∈ steps)) = .ok fixed ∧
      (∀ step ∈ steps, (final.get step.output).isSome = true ∧
        final.get step.output = fixed.get step.output) ∧
      ∀ whole, runPipeline supplied Derived.none pipeline = .ok whole →
        ∀ step ∈ steps, final.get step.output = whole.get step.output := by
  obtain ⟨final, done⟩ := exists_runPipeline_of_checkPipeline entries shapes accepted
  obtain ⟨fixed, again⟩ := exists_runPipeline_of_checkPipeline
    (fun step member => (List.mem_filter.mp member).1) shapes
    (checkPipeline_filter_pipeline entries accepted)
  refine ⟨final, fixed, done, again, ?_, ?_⟩
  · intro step member
    have chosen : step ∈ pipeline.filter (· ∈ steps) :=
      List.mem_filter.mpr ⟨entries step member, decide_eq_true member⟩
    exact ⟨isSome_of_runPipeline done member, runPipeline_agree done again member chosen⟩
  · intro whole finished step member
    exact runPipeline_agree done finished member (entries step member)

/-- A rock of three points whose porosity varies and whose pores are filled by a fluid of unknown bulk
modulus. -/
def threePoints : Supplied :=
  ((RockTable.ofFn fun _ => some (.uniform 2.0)).set .porosity
    (some (.varying ⟨[3], #v[0.2, 0.3, 0.25]⟩))).set .fluidBulkModulus none

/-- Densities and what follows from them first, and the bulk density once more at the end. -/
def densityFirst : List DerivationStep :=
  [.standard .bulkDensity, .standard .shearVelocity, .standard .biotCoefficient,
   .standard .bulkDensity]

theorem runPipeline_fixed_order_density_first :
    ∃ final fixed,
      runPipeline threePoints Derived.none densityFirst = .ok final ∧
      runPipeline threePoints Derived.none (pipeline.filter (· ∈ densityFirst)) = .ok fixed ∧
      (∀ step ∈ densityFirst, (final.get step.output).isSome = true ∧
        final.get step.output = fixed.get step.output) ∧
      ∀ whole, runPipeline threePoints Derived.none pipeline = .ok whole →
        ∀ step ∈ densityFirst, final.get step.output = whole.get step.output := by
  have entries : ∀ step ∈ densityFirst, step ∈ pipeline := by decide
  have shapes : ∀ property values, threePoints.get property = some (.varying values) →
      values.shape = [3] := by
    intro property values found
    cases property <;> cases found
    rfl
  have accepted :
      checkPipeline densityFirst (fun property => (threePoints.get property).isSome) = .ok () := rfl
  exact runPipeline_fixed_order entries shapes accepted

end WaveMedium
