/-
Module: WaveMedium.Proofs.Scenario
Purpose: When the medium of a scenario can be built, and with which error it is rejected.
Main exports:
  exists_layered_iff, mem_of_layered, Scenario.answers_build, buildNamed_verdict
-/
import WaveMedium.Proofs.Acoustic.Verdict
import WaveMedium.Proofs.Poroelastic.Verdict
import WaveMedium.Proofs.Settings

namespace WaveMedium

/-! ### Layers -/

theorem layerOf_lt {depth count k : Nat} (positive : 0 < count) : layerOf depth count k < count := by
  have clamped : layerOf depth count k ≤ count - 1 := Nat.min_le_right _ _
  omega

theorem layered_nil (values : List Float) : layered [] values = .error (.fault .sizeUnderflow) := rfl

theorem layered_of_not_storable {shape : List Nat} (vast : ¬ Storable shape) (values : List Float) :
    layered shape values = .error (.fault .sizeOverflow) := by
  rw [layered, checkStorable_of_not_storable vast]
  rfl

/-- A box without cells can still be too large. -/
example : layered [0, Nat.pow 2 32, Nat.pow 2 32] [1.5, 3.5] = .error (.fault .sizeOverflow) :=
  layered_of_not_storable (by decide) _

section Storable

variable {shape : List Nat} (storable : Storable shape)
include storable

theorem layered_of_getLast? {depth : Nat} (deepest : shape.getLast? = some depth) (values : List Float) :
    layered shape values = .ok (Tensor.ofFn shape fun index =>
      values.getD (layerOf (max depth 1) (max values.length 1) (index.getLastD 0)) 0.0) := by
  rw [layered, checkStorable_of_storable storable, deepest]
  rfl

theorem exists_layered (axes : shape ≠ []) (values : List Float) :
    ∃ cells, layered shape values = .ok cells :=
  ⟨_, layered_of_getLast? storable (List.getLast?_eq_some_getLast axes) values⟩

end Storable

/-- Layers can be made of a box exactly if it has a depth and can be stored. -/
theorem exists_layered_iff {shape : List Nat} {values : List Float} :
    (∃ cells, layered shape values = .ok cells) ↔ shape ≠ [] ∧ Storable shape := by
  constructor
  · rintro ⟨cells, made⟩
    constructor
    · rintro rfl
      cases made
    · by_contra vast
      rw [layered_of_not_storable vast] at made
      cases made
  · rintro ⟨axes, storable⟩
    exact exists_layered storable axes values

section Made

variable {shape : List Nat} {values : List Float} {cells : Tensor Float}

/-- What layers are made of. -/
theorem eq_of_layered (made : layered shape values = .ok cells) :
    ∃ depth, shape.getLast? = some depth ∧ cells = Tensor.ofFn shape fun index =>
      values.getD (layerOf (max depth 1) (max values.length 1) (index.getLastD 0)) 0.0 := by
  obtain ⟨axes, storable⟩ := exists_layered_iff.mp ⟨cells, made⟩
  have deepest := List.getLast?_eq_some_getLast axes
  rw [layered_of_getLast? storable deepest] at made
  exact ⟨_, deepest, (Except.ok.inj made).symm⟩

theorem shape_of_layered (made : layered shape values = .ok cells) : cells.shape = shape := by
  obtain ⟨_, _, rfl⟩ := eq_of_layered made
  rfl

/-- Every cell holds one of the values. -/
theorem mem_of_layered (made : layered shape values = .ok cells) (given : values ≠ [])
    {index : List Nat} {value : Float} (found : cells.get? index = some value) : value ∈ values := by
  have inside : InBox shape index := shape_of_layered made ▸ Tensor.inBox_of_get? found
  have positive : 0 < values.length := List.length_pos_iff.mpr given
  obtain ⟨depth, _, rfl⟩ := eq_of_layered made
  rw [Tensor.get?_ofFn _ inside, max_eq_left (show 1 ≤ values.length from positive)] at found
  cases found
  rw [List.getD_eq_getElem _ _ (layerOf_lt positive)]
  exact List.getElem_mem _

/-- Layers of velocities are a velocity wherever there are points. -/
theorem isVelocity_of_layered (made : layered shape values = .ok cells)
    (occupied : ∀ n ∈ shape, 0 < n) (given : values ≠ [])
    (fast : ∀ value ∈ values, AcousticMedium.isVelocity value = true) :
    (Quantity.varying cells).allValues AcousticMedium.isVelocity = true := by
  apply AcousticMedium.allValues_isVelocity_iff.mpr
  constructor
  · rw [shape_of_layered made, exists_inBox_iff]
    exact occupied
  · intro index value found
    exact AcousticMedium.isVelocity_eq_true_iff.mp (fast value (mem_of_layered made given found))

end Made

/-! ### Objections that are those to the layout -/

theorem Layout.pos_of_defect?_eq_none {layout : Layout Float} (sound : layout.defect? = none) :
    ∀ n ∈ layout.shape, 0 < n := by
  have valid : layout.validate = .ok () := by rw [validate, sound]
  exact (validate_eq_ok_iff.mp valid).2.2.1

theorem Quantity.bind_misfit?_of_fills {name : String} {shape : List Nat} {quantity : Option Quantity}
    (fills : ∀ supplied, quantity = some supplied → supplied.Fills shape) :
    quantity.bind (·.misfit? name shape) = none := by
  cases quantity with
  | none => rfl
  | some supplied => exact misfit?_eq_none_iff.mpr (fills supplied rfl)

/-- Where the other inputs suit every physical grid, an acoustic medium is rejected only for its layout. -/
theorem AcousticMedium.answers_build_of_fill {inputs : Inputs}
    (fit : SizesFit (inputs.layout.storageShape inputs.spaceOrder)) (fresh : inputs.grid = none)
    (fast : inputs.layout.defect? = none → inputs.velocity.allValues isVelocity = true)
    (fill : inputs.Fill) : Answers (build inputs) (inputs.layout.defect?.map .layout) := by
  have first : inputs.objections.findSome? id = inputs.layout.defect?.map .layout := by
    simp only [Inputs.objections, findSome?_cons_eq_or, id, List.findSome?_nil, fresh,
      Option.bind_none, Option.map_none, Option.none_or, Option.or_none,
      Quantity.misfit?_eq_none_iff.mpr fill.velocity, Quantity.bind_misfit?_of_fills fill.epsilon,
      Quantity.bind_misfit?_of_fills fill.delta, Quantity.bind_misfit?_of_fills fill.tilt]
    have azimuth : (if inputs.layout.shape.length = 3 then
        inputs.azimuth.bind (·.misfit? azimuthName inputs.layout.shape) else none) = none := by
      split
      · rename_i solid
        exact Quantity.bind_misfit?_of_fills (fill.azimuth solid)
      · rfl
    rw [azimuth, Option.or_none]
    cases sound : inputs.layout.defect? with
    | some defect => rfl
    | none => rw [if_pos (fast sound)]; rfl
  exact first ▸ answers_build fit

/-- Where every property was supplied and covers the physical region, a poroelastic medium is rejected
only for its layout. -/
theorem PoroelasticMedium.answers_build_of_complete {inputs : Inputs}
    (fit : SizesFit (inputs.layout.storageShape inputs.spaceOrder)) (fresh : inputs.grid = none)
    (complete : inputs.Complete) : Answers (build inputs) (inputs.layout.defect?.map .layout) := by
  have every : inputs.missing? = none := by
    apply Inputs.missing?_eq_none_iff.mpr
    intro property
    obtain ⟨quantity, supplied, _⟩ := complete property
    simp [supplied]
  have covered : inputs.misfit? = none := by
    apply List.findSome?_eq_none_iff.mpr
    intro property _
    apply Quantity.bind_misfit?_of_fills
    intro supplied given
    obtain ⟨quantity, same, fills⟩ := complete property
    cases same.symm.trans given
    exact fills
  have first : inputs.objections.findSome? id = inputs.layout.defect?.map .layout := by
    simp [Inputs.objections, findSome?_cons_eq_or, fresh, every, covered]
  exact first ▸ answers_build fit

/-! ### Scenarios -/

theorem Answers.map {β γ : Type} {outcome : Outcome β} {objection : Option (ModelError Float)}
    (answers : Answers outcome objection) (f : β → γ) : Answers (f <$> outcome) objection := by
  cases objection with
  | some error =>
      have rejected : outcome = .error (.rejected error) := answers
      rw [rejected]
      rfl
  | none =>
      obtain ⟨value, rfl⟩ := answers
      exact .ok (f value)

namespace Scenario

/-- Whether a scenario has a layer of other values below. -/
def isLayered : Scenario → Bool
  | .constantIsotropic | .constantPoroelastic => false
  | .layersIsotropic | .layersTilted | .layersTiltedNoAzimuth | .layersPoroelastic => true

/-- The order of the stencils of a scenario's medium. -/
def spaceOrder (scenario : Scenario) (order : Option Nat) : Nat :=
  match scenario with
  | .constantPoroelastic | .layersPoroelastic => order.getD PoroelasticMedium.defaultSpaceOrder
  | _ => order.getD AcousticMedium.defaultSpaceOrder

variable {layout : Layout Float} {order : Option Nat}

theorem fill_isotropicInputs {velocity : Quantity} (fills : velocity.Fills layout.shape) :
    (isotropicInputs layout velocity order).Fill where
  velocity := fills
  epsilon := fun _ given => nomatch given
  delta := fun _ given => nomatch given
  tilt := fun _ given => nomatch given
  azimuth := fun _ _ given => nomatch given

theorem fill_tiltedInputs {velocity : Quantity} {withAzimuth : Bool}
    (fills : velocity.Fills layout.shape) :
    (tiltedInputs layout velocity withAzimuth order).Fill := by
  have mapped : ∀ factor supplied, some (velocity.map (anisotropy factor)) = some supplied →
      supplied.Fills layout.shape := by
    rintro factor supplied ⟨⟩
    exact (Quantity.fills_map _).mpr fills
  refine ⟨fills, mapped 0.3, mapped 0.2, mapped 0.5, fun _ supplied given => ?_⟩
  simp only [tiltedInputs] at given
  split at given
  · exact mapped 0.35 supplied given
  · cases given

theorem complete_porousInputs {values : RockTable Quantity}
    (fills : ∀ property, (values.get property).Fills layout.shape) :
    (porousInputs layout values order).Complete := by
  intro property
  exact ⟨values.get property, by simp [porousInputs], fills property⟩

/-- An acoustic medium of layers is rejected only for its layout if one with any velocity is that suits every
physical grid. -/
theorem answers_layers {velocities : List Float} {inputs : Quantity → AcousticMedium.Inputs}
    (deep : layout.shape ≠ [] ∧ Storable layout.shape) (given : velocities ≠ [])
    (fast : ∀ velocity ∈ velocities, AcousticMedium.isVelocity velocity = true)
    (answers : ∀ velocity : Quantity, velocity.Fills layout.shape →
      (layout.defect? = none → velocity.allValues AcousticMedium.isVelocity = true) →
      Answers (AcousticMedium.build (inputs velocity)) (layout.defect?.map .layout)) :
    Answers (do
      let velocity ← (.varying <$> layered layout.shape velocities : Outcome Quantity)
      .acoustic <$> AcousticMedium.build (inputs velocity) : Outcome Medium)
      (layout.defect?.map .layout) := by
  obtain ⟨cells, made⟩ := exists_layered_iff.mpr deep
  have covers : (Quantity.varying cells).Fills layout.shape := shape_of_layered made
  have valid : layout.defect? = none →
      (Quantity.varying cells).allValues AcousticMedium.isVelocity = true :=
    fun sound => isVelocity_of_layered made (Layout.pos_of_defect?_eq_none sound) given fast
  rw [made]
  exact (answers _ covers valid).map _

/-- Every property of the layered rock covers a region of which layers can be made. -/
theorem exists_layeredRock {shape : List Nat} (deep : shape ≠ [] ∧ Storable shape) :
    ∃ values : RockTable Quantity,
      (RockTable.ofFnM fun property =>
        (.varying <$> layered shape [(porousValues property).1, (porousValues property).2] :
          Outcome Quantity)) = .ok values ∧
      ∀ property, (values.get property).Fills shape := by
  have layers : ∀ property, ∃ quantity : Quantity,
      (.varying <$> layered shape [(porousValues property).1, (porousValues property).2] :
        Outcome Quantity) = .ok quantity ∧ quantity.Fills shape := by
    intro property
    obtain ⟨cells, made⟩ := exists_layered_iff.mpr deep
    rw [made]
    exact ⟨_, rfl, shape_of_layered made⟩
  obtain ⟨values, made⟩ := RockTable.exists_ofFnM fun property =>
    (layers property).imp fun _ both => both.1
  refine ⟨values, made, fun property => ?_⟩
  obtain ⟨quantity, same, fills⟩ := layers property
  cases same.symm.trans (RockTable.get_of_ofFnM made property)
  exact fills

/-- A scenario of which layers can be made is rejected only for its layout. -/
theorem answers_build (scenario : Scenario)
    (fit : SizesFit (layout.storageShape (scenario.spaceOrder order)))
    (deep : scenario.isLayered = true → layout.shape ≠ [] ∧ Storable layout.shape) :
    Answers (scenario.build layout order) (layout.defect?.map .layout) := by
  cases scenario with
  | constantIsotropic =>
      apply Answers.map
      exact AcousticMedium.answers_build_of_fill fit rfl
        (fun _ => AcousticMedium.isVelocity_eq_true_iff.mpr (by decide))
        (fill_isotropicInputs trivial)
  | layersIsotropic =>
      apply answers_layers (deep rfl) (by decide : isotropicVelocities ≠ []) (by decide)
      intro velocity fills fast
      exact AcousticMedium.answers_build_of_fill fit rfl fast (fill_isotropicInputs fills)
  | layersTilted =>
      apply answers_layers (deep rfl) (by decide : tiltedVelocities ≠ []) (by decide)
      intro velocity fills fast
      exact AcousticMedium.answers_build_of_fill fit rfl fast (fill_tiltedInputs fills)
  | layersTiltedNoAzimuth =>
      apply answers_layers (deep rfl) (by decide : tiltedVelocities ≠ []) (by decide)
      intro velocity fills fast
      exact AcousticMedium.answers_build_of_fill fit rfl fast (fill_tiltedInputs fills)
  | constantPoroelastic =>
      apply Answers.map
      apply PoroelasticMedium.answers_build_of_complete fit rfl
      apply complete_porousInputs
      intro property
      rw [RockTable.get_ofFn]
      trivial
  | layersPoroelastic =>
      obtain ⟨values, made, fills⟩ := exists_layeredRock (deep rfl)
      rw [build, made]
      apply Answers.map
      exact PoroelasticMedium.answers_build_of_complete fit rfl (complete_porousInputs fills)

/-- Where no layers can be made, there is no layered medium either. -/
theorem build_of_not_layered {scenario : Scenario} {failure : Failure Float}
    (layers : scenario.isLayered = true)
    (stuck : ∀ values, layered layout.shape values = .error failure) :
    scenario.build layout order = .error failure := by
  cases scenario with
  | constantIsotropic => cases layers
  | constantPoroelastic => cases layers
  | layersIsotropic | layersTilted | layersTiltedNoAzimuth | layersPoroelastic =>
      simp only [build, stuck]
      rfl

/-- A scenario is rejected only for its layout, or has a fault because no layers can be made. -/
theorem build_cases (scenario : Scenario)
    (fit : SizesFit (layout.storageShape (scenario.spaceOrder order))) :
    (scenario.isLayered = true → layout.shape ≠ [] ∧ Storable layout.shape) ∧
        Answers (scenario.build layout order) (layout.defect?.map .layout) ∨
      scenario.isLayered = true ∧
        (layout.shape = [] ∧ scenario.build layout order = .error (.fault .sizeUnderflow) ∨
          ¬ Storable layout.shape ∧
            scenario.build layout order = .error (.fault .sizeOverflow)) := by
  by_cases deep : scenario.isLayered = true → layout.shape ≠ [] ∧ Storable layout.shape
  · exact .inl ⟨deep, scenario.answers_build fit deep⟩
  · obtain ⟨layers, stuck⟩ := Classical.not_imp.mp deep
    refine .inr ⟨layers, ?_⟩
    by_cases axes : layout.shape = []
    · exact .inl ⟨axes, build_of_not_layered layers (axes ▸ layered_nil)⟩
    · have vast : ¬ Storable layout.shape := fun storable => stuck ⟨axes, storable⟩
      exact .inr ⟨vast, build_of_not_layered layers (layered_of_not_storable vast)⟩

end Scenario

/-! ### Names -/

section Named

variable {name : String} {layout : Layout Float} {order : Option Nat} {scenario : Scenario}

theorem Scenario.exists_ofName?_iff :
    (∃ scenario, Scenario.ofName? name = some scenario) ↔ name ∈ Scenario.all.map Scenario.name := by
  rw [← not_iff_not, ← Scenario.ofName?_eq_none_iff, Option.eq_none_iff_forall_ne_some]
  simp only [not_exists, ne_eq]

theorem buildNamed_of_ofName? (named : Scenario.ofName? name = some scenario) :
    buildNamed name layout order = scenario.build layout order := by
  rw [buildNamed, named]

theorem buildNamed_of_unknown (unknown : Scenario.ofName? name = none) :
    buildNamed name layout order = .error (.rejected (.unknownScenario name)) := by
  rw [buildNamed, unknown]

theorem Layout.validate_eq_error_iff {failure : Failure Float} :
    layout.validate = .error failure ↔
      ∃ error, layout.defect?.map ModelError.layout = some error ∧ failure = .rejected error := by
  unfold validate
  cases layout.defect? with
  | none => simp
  | some defect => simp [eq_comm]

variable (fit : SizesFit (layout.storageShape (scenario.spaceOrder order)))
include fit

/-- A known scenario is never taken for an unknown one. -/
theorem Scenario.build_ne_unknownScenario :
    scenario.build layout order ≠ .error (.rejected (.unknownScenario name)) := by
  intro unknown
  rcases scenario.build_cases fit with ⟨_, answers⟩ | ⟨_, ⟨_, stuck⟩ | ⟨_, stuck⟩⟩
  · rcases (answers.eq_error_iff _).mp unknown with ⟨error, objection, same⟩
    cases same
    simp at objection
  · cases stuck.symm.trans unknown
  · cases stuck.symm.trans unknown

/-- A scenario has a fault only where its layers cannot be made: there is no depth to divide, or the box
cannot be stored. -/
theorem Scenario.build_eq_fault_iff {fault : Fault} :
    scenario.build layout order = .error (.fault fault) ↔
      scenario.isLayered = true ∧
        (layout.shape = [] ∧ fault = .sizeUnderflow ∨
          ¬ Storable layout.shape ∧ fault = .sizeOverflow) := by
  constructor
  · intro failed
    rcases scenario.build_cases fit with ⟨_, answers⟩ | ⟨layers, ⟨axes, stuck⟩ | ⟨vast, stuck⟩⟩
    · rcases (answers.eq_error_iff _).mp failed with ⟨_, _, same⟩
      cases same
    · cases stuck.symm.trans failed
      exact ⟨layers, .inl ⟨axes, rfl⟩⟩
    · cases stuck.symm.trans failed
      exact ⟨layers, .inr ⟨vast, rfl⟩⟩
  · rintro ⟨layers, ⟨axes, rfl⟩ | ⟨vast, rfl⟩⟩
    · exact build_of_not_layered layers (axes ▸ layered_nil)
    · exact build_of_not_layered layers (layered_of_not_storable vast)

/-- Elsewhere the layout decides. -/
theorem Scenario.build_eq_validate
    (deep : scenario.isLayered = true → layout.shape ≠ [] ∧ Storable layout.shape) :
    ((∃ medium, scenario.build layout order = .ok medium) ↔ layout.validate = .ok ()) ∧
      ∀ failure, scenario.build layout order = .error failure ↔ layout.validate = .error failure := by
  have answers := scenario.answers_build fit deep
  constructor
  · unfold Layout.validate
    cases sound : layout.defect? with
    | none =>
        rw [sound] at answers
        exact ⟨fun _ => rfl, fun _ => answers⟩
    | some defect =>
        rw [sound] at answers
        have rejected : scenario.build layout order = .error (.rejected (.layout defect)) := answers
        simp [rejected]
  · intro failure
    rw [answers.eq_error_iff, Layout.validate_eq_error_iff]

end Named

/-- A name that is not that of a scenario is rejected as such.  The medium of a scenario can be built exactly
if its layout is a physical grid, and is otherwise rejected with the defect of the layout.  The exceptions
are layered scenarios.  Their layers are made before the layout is checked, which is a fault on a layout
without axes, where there is no depth to divide, and on one without cells that is too large to be stored. -/
theorem buildNamed_verdict (name : String) (layout : Layout Float) (order : Option Nat)
    (fit : ∀ scenario, Scenario.ofName? name = some scenario →
      SizesFit (layout.storageShape (scenario.spaceOrder order))) :
    (buildNamed name layout order = .error (.rejected (.unknownScenario name)) ↔
        name ∉ Scenario.all.map Scenario.name) ∧
      (∀ fault, buildNamed name layout order = .error (.fault fault) ↔
        (∃ scenario, Scenario.ofName? name = some scenario ∧ scenario.isLayered = true) ∧
          (layout.shape = [] ∧ fault = .sizeUnderflow ∨
            ¬ Storable layout.shape ∧ fault = .sizeOverflow)) ∧
      ∀ scenario, Scenario.ofName? name = some scenario →
        (scenario.isLayered = true → layout.shape ≠ [] ∧ Storable layout.shape) →
          ((∃ medium, buildNamed name layout order = .ok medium) ↔ layout.validate = .ok ()) ∧
            ∀ failure, buildNamed name layout order = .error failure ↔
              layout.validate = .error failure := by
  cases named : Scenario.ofName? name with
  | none =>
      have unknown : name ∉ Scenario.all.map Scenario.name := Scenario.ofName?_eq_none_iff.mp named
      rw [buildNamed_of_unknown named]
      simp [unknown]
  | some scenario =>
      have fits := fit scenario named
      have known : name ∈ Scenario.all.map Scenario.name :=
        Scenario.exists_ofName?_iff.mp ⟨scenario, named⟩
      rw [buildNamed_of_ofName? named]
      refine ⟨?_, fun fault => ?_, ?_⟩
      · simp [known, Scenario.build_ne_unknownScenario fits]
      · rw [Scenario.build_eq_fault_iff fits]
        simp
      · rintro _ ⟨⟩ deep
        exact Scenario.build_eq_validate fits deep

/-- A small section, and the same one with a line of points that stand on each other. -/
def smallSection : Layout Float :=
  { origin := [0.0, 0.0], spacing := [10.0, 10.0], shape := [3, 2], layer := 1, precision := .double }

def collapsedSection : Layout Float := { smallSection with spacing := [10.0, 0.0] }

theorem buildNamed_verdict_section :
    (∃ medium, buildNamed "layers-poroelastic" smallSection none = .ok medium) ∧
      buildNamed "layers-tti" collapsedSection (some 2) =
        .error (.rejected (.layout (.spacing [10.0, 0.0]))) ∧
      buildNamed "layers-elastic" smallSection none =
        .error (.rejected (.unknownScenario "layers-elastic")) := by
  obtain ⟨_, _, layers⟩ := buildNamed_verdict "layers-poroelastic" smallSection none (by decide)
  obtain ⟨_, _, tilted⟩ := buildNamed_verdict "layers-tti" collapsedSection (some 2) (by decide)
  obtain ⟨unknown, _, _⟩ := buildNamed_verdict "layers-elastic" smallSection none (by decide)
  refine ⟨?_, ?_, unknown.mpr (by decide)⟩
  · apply (layers .layersPoroelastic rfl (by decide)).1.mpr
    exact Layout.validate_eq_ok_iff.mpr (by decide)
  · apply ((tilted .layersTilted rfl (by decide)).2 _).mpr
    exact Layout.validate_eq_error_iff.mpr ⟨_, by decide, rfl⟩

/-- A layout without axes. -/
def noAxes : Layout Float :=
  { origin := [], spacing := [], shape := [], layer := 4, precision := .double }

/-- The layered scenario does not come to the check of the layout there. -/
theorem not_validate_noAxes :
    ¬ ∀ (name : String) (layout : Layout Float) (order : Option Nat),
      (∀ scenario, Scenario.ofName? name = some scenario →
        SizesFit (layout.storageShape (scenario.spaceOrder order))) →
      name ∈ Scenario.all.map Scenario.name →
      ∀ failure, buildNamed name layout order = .error failure ↔ layout.validate = .error failure := by
  intro total
  have agree := total "layers-isotropic" noAxes none (by decide) (by decide) (.rejected (.layout (.rank 0)))
  have rejected : noAxes.validate = .error (.rejected (.layout (.rank 0))) := rfl
  have stuck : buildNamed "layers-isotropic" noAxes none = .error (.fault .sizeUnderflow) := rfl
  have failed := agree.mpr rejected
  rw [stuck] at failed
  cases failed

end WaveMedium
