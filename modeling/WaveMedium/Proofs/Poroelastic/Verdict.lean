/-
Module: WaveMedium.Proofs.Poroelastic.Verdict
Purpose: When a poroelastic medium can be built, and with which error it is rejected.
Main exports:
  answers_checkAfter, PoroelasticMedium.Inputs.missing?, PoroelasticMedium.Inputs.objections,
  PoroelasticMedium.answers_build, PoroelasticMedium.Judged, PoroelasticMedium.build_answer
-/
import WaveMedium.Proofs.Verdict

namespace WaveMedium

/-! ### What is missing -/

/-- A property is missing that was not supplied. -/
def lacks? (isSupplied : RockProperty → Bool) (neededBy : String) (property : RockProperty) :
    Option (ModelError Float) :=
  if isSupplied property then none else some (.missing property neededBy)

section Steps

variable {isSupplied : RockProperty → Bool}

theorem lacks?_eq_none_iff {neededBy : String} {property : RockProperty} :
    lacks? isSupplied neededBy property = none ↔ isSupplied property = true := by
  simp [lacks?]

/-- The error for a missing property names one that was not supplied. -/
theorem of_lacks?_eq_some {neededBy : String} {property : RockProperty} {error : ModelError Float}
    (lacking : lacks? isSupplied neededBy property = some error) :
    isSupplied property = false ∧ error = .missing property neededBy := by
  unfold lacks? at lacking
  split at lacking
  · cases lacking
  · rename_i absent
    exact ⟨by simpa using absent, (Option.some.inj lacking).symm⟩

/-- Among many, what is reported as missing is one that was not supplied. -/
theorem of_findSome?_lacks? {neededBy : String} {properties : List RockProperty}
    {error : ModelError Float} (found : properties.findSome? (lacks? isSupplied neededBy) = some error) :
    ∃ property, isSupplied property = false ∧ error = .missing property neededBy := by
  obtain ⟨property, _, lacking⟩ := List.exists_of_findSome?_eq_some found
  exact ⟨property, of_lacks?_eq_some lacking⟩

theorem map_find?_eq_findSome? (neededBy : String) (properties : List RockProperty) :
    (properties.find? fun property => !isSupplied property).map (ModelError.missing · neededBy) =
      properties.findSome? (lacks? isSupplied neededBy) := by
  induction properties with
  | nil => rfl
  | cons property properties ih =>
      rw [findSome?_cons_eq_or, ← ih, List.find?_cons, lacks?]
      cases isSupplied property <;> rfl

/-- Nothing keeps a step from running after the steps that it reads but a supplied property that is
missing. -/
theorem DerivationStep.obstacle?_eq {step : DerivationStep} {outputs : List DerivedProperty}
    (earlier : ∀ output ∈ step.derived, output ∈ outputs) :
    step.obstacle? isSupplied outputs =
      step.supplied.findSome? (lacks? isSupplied step.output.description) := by
  have inPlace : step.derived.find? (fun output => !outputs.contains output) = none := by
    simpa using earlier
  rw [← map_find?_eq_findSome?, DerivationStep.obstacle?, inPlace]
  cases step.supplied.find? fun property => !isSupplied property <;> rfl

/-- In an order in which each step comes after those that it reads, nothing can be missing but a supplied
property.  The first step decides that reads one which is not there. -/
theorem answers_checkAfter {outputs : List DerivedProperty} {steps : List DerivationStep}
    (ordered : checkAfter (fun _ => true) outputs steps = .ok ()) :
    Answers (checkAfter isSupplied outputs steps)
      (steps.findSome? fun step => step.supplied.findSome? (lacks? isSupplied step.output.description)) := by
  induction steps generalizing outputs with
  | nil => exact .ok ()
  | cons step steps ih =>
      unfold checkAfter at ordered ⊢
      split at ordered
      · cases ordered
      · rename_i free
        have earlier := (DerivationStep.obstacle?_eq_none.mp free).2
        rw [findSome?_cons_eq_or, ← DerivationStep.obstacle?_eq earlier]
        cases step.obstacle? isSupplied outputs with
        | some error => rfl
        | none => exact ih ordered

end Steps

namespace PoroelasticMedium

/-! ### Objections -/

/-- Which properties were supplied. -/
def Inputs.isSupplied (inputs : Inputs) (property : RockProperty) : Bool :=
  (inputs.values.get property).isSome

/-- What is missing.  The steps of the derivation ask for what they read, one step after the other, and
then the medium asks for every property. -/
def Inputs.missing? (inputs : Inputs) : Option (ModelError Float) :=
  (pipeline.findSome? fun step =>
      step.supplied.findSome? (lacks? inputs.isSupplied step.output.description)).or
    (RockProperty.all.findSome? (lacks? inputs.isSupplied description))

/-- The first property, in their order, that was supplied per point and does not cover the physical
region. -/
def Inputs.misfit? (inputs : Inputs) : Option (ModelError Float) :=
  RockProperty.all.findSome? fun property =>
    (inputs.values.get property).bind (·.misfit? property.symbol inputs.layout.shape)

/-- What keeps a medium from being built, in the order in which it is noticed. -/
def Inputs.objections (inputs : Inputs) : List (Option (ModelError Float)) :=
  [inputs.layout.defect?.map .layout, (inputs.grid.bind inputs.layout.difference?).map .mismatch,
    inputs.missing?, inputs.misfit?]

variable {inputs : Inputs}

theorem Inputs.missing?_eq_none_iff :
    inputs.missing? = none ↔ ∀ property, inputs.values.get property ≠ none := by
  simp only [missing?, Option.or_eq_none_iff, List.findSome?_eq_none_iff, lacks?_eq_none_iff, isSupplied,
    Option.isSome_iff_ne_none]
  constructor
  · rintro ⟨_, every⟩ property
    exact every property property.mem_all
  · intro every
    exact ⟨fun _ _ property _ => every property, fun property _ => every property⟩

/-- What is reported as missing was not supplied. -/
theorem Inputs.of_missing?_eq_some {error : ModelError Float} (lacking : inputs.missing? = some error) :
    ∃ property neededBy, inputs.values.get property = none ∧ error = .missing property neededBy := by
  have absent : ∀ {property : RockProperty}, inputs.isSupplied property = false →
      inputs.values.get property = none := by
    intro property absent
    simpa [isSupplied] using absent
  rcases Option.or_eq_some_iff.mp lacking with found | ⟨_, found⟩
  · obtain ⟨step, _, found⟩ := List.exists_of_findSome?_eq_some found
    obtain ⟨property, notThere, named⟩ := of_findSome?_lacks? found
    exact ⟨property, _, absent notThere, named⟩
  · obtain ⟨property, notThere, named⟩ := of_findSome?_lacks? found
    exact ⟨property, _, absent notThere, named⟩

/-! ### Answers -/

theorem answers_checkPipeline :
    Answers (checkPipeline pipeline inputs.isSupplied)
      (pipeline.findSome? fun step =>
        step.supplied.findSome? (lacks? inputs.isSupplied step.output.description)) :=
  answers_checkAfter rfl

theorem answers_completeInputs :
    Answers (completeInputs inputs.values)
      (RockProperty.all.findSome? (lacks? inputs.isSupplied description)) := by
  refine RockTable.answers_ofFnM fun property => ?_
  cases found : inputs.values.get property with
  | none => simp [Answers, lacks?, Inputs.isSupplied, found]
  | some quantity => simp [Answers, lacks?, Inputs.isSupplied, found]

theorem answers_supplied {geometry : Geometry Float} (fits : geometry.Fits inputs.layout)
    (fit : SizesFit (inputs.layout.storageShape inputs.spaceOrder)) {values : RockTable Quantity}
    (completed : completeInputs inputs.values = .ok values) :
    Answers (RockTable.ofFnM fun property =>
        geometry.field property.symbol (values.get property) inputs.spaceOrder) inputs.misfit? := by
  refine RockTable.answers_ofFnM fun property => ?_
  rw [of_completeInputs completed property]
  exact fits.answers_field fit property.symbol (values.get property)

/-- A medium is rejected for the first objection, or built. -/
theorem answers_build (fit : SizesFit (inputs.layout.storageShape inputs.spaceOrder)) :
    Answers (build inputs) (inputs.objections.findSome? id) := by
  simp only [Inputs.objections, findSome?_cons_eq_or, id]
  rw [Inputs.missing?, Option.or_assoc, ← Option.or_assoc]
  refine (Geometry.answers_new (Layout.sizesFit_padded fit) inputs.grid).bind fun geometry grid => ?_
  have fits := Geometry.fits_of_new grid
  refine answers_checkPipeline.bind fun _ _ => ?_
  refine answers_completeInputs.bind fun values completed => ?_
  refine (answers_supplied fits fit completed).bind fun supplied made => ?_
  -- The steps that are left cannot fail any more.
  obtain ⟨outputs, derived, finished, stored⟩ := exists_derived fits fit
    fun property => ⟨_, RockTable.get_of_ofFnM made property⟩
  obtain ⟨absorption, layer, _⟩ :=
    fits.exists_absorption (Geometry.length_spacing_of_new grid) .mask
  simp only [finished, stored, layer, bind_ok]
  exact .ok _

/-! ### The verdict -/

/-- Every property was supplied, and what was supplied per point covers the physical region. -/
def Inputs.Complete (inputs : Inputs) : Prop :=
  ∀ property, ∃ quantity, inputs.values.get property = some quantity ∧
    quantity.Fills inputs.layout.shape

section Accepted

variable {geometry : Geometry Float}

/-- On a padded grid only the supplied properties can be objected to. -/
theorem objections_of_new (grid : Geometry.new inputs.layout inputs.grid = .ok geometry)
    (fit : SizesFit (inputs.layout.storageShape inputs.spaceOrder)) :
    inputs.objections.findSome? id = inputs.missing?.or inputs.misfit? := by
  have answers := Geometry.answers_new (Layout.sizesFit_padded fit) inputs.grid
  rw [grid] at answers
  have unobjected := answers.eq_none_of_ok
  simp only [Inputs.objections, findSome?_cons_eq_or, id]
  rw [← Option.or_assoc, unobjected, List.findSome?_nil, Option.or_none, Option.none_or]

/-- A missing property is reported whatever the shapes of the others are. -/
theorem build_eq_missing (grid : Geometry.new inputs.layout inputs.grid = .ok geometry)
    (fit : SizesFit (inputs.layout.storageShape inputs.spaceOrder)) {absent : RockProperty}
    (lacking : inputs.values.get absent = none) :
    ∃ property neededBy, inputs.values.get property = none ∧
      build inputs = .error (.rejected (.missing property neededBy)) := by
  cases found : inputs.missing? with
  | none => exact absurd lacking (Inputs.missing?_eq_none_iff.mp found absent)
  | some error =>
      obtain ⟨property, neededBy, notThere, rfl⟩ := Inputs.of_missing?_eq_some found
      refine ⟨property, neededBy, notThere, ((answers_build fit).eq_error_iff _).mpr ⟨_, ?_, rfl⟩⟩
      rw [objections_of_new grid fit, found]
      rfl

/-- Of the properties that do not cover the physical region the first in their order is reported. -/
theorem build_eq_misfit (grid : Geometry.new inputs.layout inputs.grid = .ok geometry)
    (fit : SizesFit (inputs.layout.storageShape inputs.spaceOrder))
    (every : ∀ property, inputs.values.get property ≠ none) {before after : List RockProperty}
    {property : RockProperty} (order : RockProperty.all = before ++ property :: after)
    (fills : ∀ earlier ∈ before, ∀ quantity, inputs.values.get earlier = some quantity →
      quantity.Fills inputs.layout.shape)
    {values : Tensor Float} (supplied : inputs.values.get property = some (.varying values))
    (apart : values.shape ≠ inputs.layout.shape) :
    build inputs =
      .error (.rejected (.shape property.symbol inputs.layout.shape values.shape)) := by
  have misfit : inputs.misfit? = some (.shape property.symbol inputs.layout.shape values.shape) := by
    have noneBefore : before.findSome? (fun property =>
        (inputs.values.get property).bind (·.misfit? property.symbol inputs.layout.shape)) = none := by
      rw [List.findSome?_eq_none_iff]
      intro earlier member
      cases found : inputs.values.get earlier with
      | none => rfl
      | some quantity =>
          have covered := fills earlier member quantity found
          cases quantity with
          | uniform value => rfl
          | varying cells => exact if_pos covered
    rw [Inputs.misfit?, order, List.findSome?_append, noneBefore, Option.none_or,
      findSome?_cons_eq_or, supplied]
    simp only [Option.bind_some, Quantity.misfit?, if_neg apart, Option.some_or]
  refine ((answers_build fit).eq_error_iff _).mpr ⟨_, ?_, rfl⟩
  rw [objections_of_new grid fit, Inputs.missing?_eq_none_iff.mpr every, Option.none_or, misfit]

end Accepted

/-- On a padded grid the supplied properties decide.  Where one is missing, no shape is looked at.  Where
none is missing, the first that does not cover the physical region is reported.  Nothing that follows the
supplied fields can fail. -/
structure Judged (inputs : Inputs) (geometry : Geometry Float) : Prop where
  missing : ∀ absent, inputs.values.get absent = none →
    ∃ property neededBy, inputs.values.get property = none ∧
      build inputs = .error (.rejected (.missing property neededBy))
  misfit : (∀ property, inputs.values.get property ≠ none) →
    ∀ before property after, RockProperty.all = before ++ property :: after →
      (∀ earlier ∈ before, ∀ quantity, inputs.values.get earlier = some quantity →
        quantity.Fills inputs.layout.shape) →
      ∀ values, inputs.values.get property = some (.varying values) →
        values.shape ≠ inputs.layout.shape →
        build inputs =
          .error (.rejected (.shape property.symbol inputs.layout.shape values.shape))
  rest : ∀ supplied : RockTable Field,
    (∀ property, ∃ quantity, geometry.field property.symbol quantity inputs.spaceOrder =
      .ok (supplied.get property)) →
    ∃ outputs derived absorption,
      runPipeline (supplied.map fun field => some field.operand) Derived.none pipeline =
          .ok outputs ∧
        storeDerived geometry
            (List.replicate geometry.rank (Margin.even inputs.spaceOrder)) outputs = .ok derived ∧
        geometry.absorption .mask = .ok absorption

theorem judged_of_new {geometry : Geometry Float}
    (grid : Geometry.new inputs.layout inputs.grid = .ok geometry)
    (fit : SizesFit (inputs.layout.storageShape inputs.spaceOrder)) : Judged inputs geometry := by
  have fits := Geometry.fits_of_new grid
  refine
    { missing := fun _ => build_eq_missing grid fit
      misfit := fun every _ _ _ order fills _ => build_eq_misfit grid fit every order fills
      rest := fun supplied made => ?_ }
  obtain ⟨outputs, derived, finished, stored⟩ := exists_derived fits fit made
  obtain ⟨absorption, layer, _⟩ :=
    fits.exists_absorption (Geometry.length_spacing_of_new grid) .mask
  exact ⟨outputs, derived, absorption, finished, stored, layer⟩

/-- A medium can be built exactly if its layout is a physical grid, a supplied grid is accepted, every
property was supplied, and what was supplied per point covers the physical region.  Otherwise it is
rejected with the first of its objections, and never for another reason.  Once there is a padded grid the
supplied properties decide.  Memory for its fields is taken to be there, as `Storable` has it for every box
with cells. -/
theorem build_answer (inputs : Inputs)
    (fit : SizesFit (inputs.layout.storageShape inputs.spaceOrder)) :
    ((∃ medium, build inputs = .ok medium) ↔
      inputs.layout.validate = .ok () ∧
        (∀ grid, inputs.grid = some grid →
          ∃ geometry, Geometry.new inputs.layout (some grid) = .ok geometry) ∧
        inputs.Complete) ∧
      (∀ failure, build inputs = .error failure ↔
        ∃ error, inputs.objections.findSome? id = some error ∧ failure = .rejected error) ∧
      ∀ geometry, Geometry.new inputs.layout inputs.grid = .ok geometry →
        Judged inputs geometry := by
  refine ⟨?_, (answers_build fit).eq_error_iff, fun _ grid => judged_of_new grid fit⟩
  constructor
  · rintro ⟨medium, built⟩
    have grid := (assembled_of_build built).geometry
    have accepted : ∀ supplied, inputs.grid = some supplied →
        ∃ geometry, Geometry.new inputs.layout (some supplied) = .ok geometry := by
      intro supplied given
      exact ⟨medium.geometry, given ▸ grid⟩
    exact ⟨Geometry.valid_of_new grid, accepted, (exists_build_iff grid fit).mp ⟨medium, built⟩⟩
  · rintro ⟨valid, accepted, complete⟩
    cases given : inputs.grid with
    | none => exact (exists_build_iff_of_no_grid given fit).mpr ⟨valid, complete⟩
    | some supplied =>
        obtain ⟨geometry, grid⟩ := accepted supplied given
        exact (exists_build_iff (given ▸ grid) fit).mpr complete

/-- The sandstone without its tortuosity, and with a porosity that does not cover it. -/
def incompleteSandstone : Inputs :=
  { sandstone with
    values :=
      { sandstone.values with
        porosity := some (.varying ⟨[3], #v[0.2, 0.25, 0.3]⟩)
        tortuosity := none } }

/-- The missing tortuosity is named, not the porosity.  The medium asks for it itself, since no step of the
derivation reads it. -/
theorem build_answer_incompleteSandstone :
    build incompleteSandstone = .error (.rejected (.missing .tortuosity "poroelastic model")) ∧
      ∃ medium, build sandstone = .ok medium := by
  have complete : sandstone.Complete := by
    intro property
    cases property <;> exact ⟨_, rfl, by first | rfl | trivial⟩
  obtain ⟨_, rejected, _⟩ := build_answer incompleteSandstone (by decide)
  obtain ⟨succeeds, _⟩ := build_answer sandstone (by decide)
  exact ⟨(rejected _).mpr ⟨_, by decide, rfl⟩,
    succeeds.mpr ⟨Layout.validate_eq_ok_iff.mpr (by decide), by rintro _ ⟨⟩, complete⟩⟩

/-- The sandstone without its tortuosity, on points that stand on each other. -/
def flatSandstone : Inputs :=
  { sandstone with
    layout := { sandstone.layout with spacing := [0.0] }
    values := { sandstone.values with tortuosity := none } }

/-- A missing property is not reported where the points are not those of a physical grid. -/
theorem not_missing_flatSandstone :
    ¬ ∀ inputs : Inputs, SizesFit (inputs.layout.storageShape inputs.spaceOrder) →
      (∃ absent, inputs.values.get absent = none) →
      ∃ property neededBy, build inputs = .error (.rejected (.missing property neededBy)) := by
  intro always
  obtain ⟨property, neededBy, missing⟩ := always flatSandstone (by decide) ⟨.tortuosity, rfl⟩
  have stuck : flatSandstone.layout.defect? = some (.spacing [0.0]) := by decide
  have rejected : build flatSandstone = .error (.rejected (.layout (.spacing [0.0]))) := by
    rw [build, Geometry.new_of_defect stuck]
    rfl
  rw [rejected] at missing
  cases missing

end PoroelasticMedium

end WaveMedium
