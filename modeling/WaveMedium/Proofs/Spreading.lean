/-
Module: WaveMedium.Proofs.Spreading
Purpose: A medium reads the same whether one value is supplied as such or as that value at every point.
Main exports:
  Quantity.Spreads, Field.SameReadings, Geometry.Fits.sameReadings_field,
  AcousticMedium.sameReadings_of_build, PoroelasticMedium.sameReadings_of_build, build_spread
-/
import WaveMedium.Proofs.Acoustic.Verdict
import WaveMedium.Proofs.Poroelastic.Covering

namespace WaveMedium

open Number

/-! ### Quantities -/

/-- The second quantity is the first one, or has its one value at every point of the physical region. -/
inductive Quantity.Spreads (shape : List Nat) : Quantity → Quantity → Prop where
  | kept (quantity : Quantity) : Spreads shape quantity quantity
  | spread (value : Float) : Spreads shape (.uniform value) (.varying (Tensor.full shape value))

theorem Tensor.map_full {α β : Type} (f : α → β) (shape : List Nat) (value : α) :
    (full shape value).map f = full shape (f value) := by
  refine ext_get? rfl fun index inside => ?_
  have within : InBox shape index := inside
  rw [get?_map, get?_full value within, get?_full (f value) within]
  rfl

theorem Tensor.eq_of_get?_full {α : Type} {shape index : List Nat} {value found : α}
    (cell : (full shape value).get? index = some found) : found = value := by
  have inside : InBox shape index := inBox_of_get? cell
  rw [get?_full value inside] at cell
  exact (Option.some.inj cell).symm

namespace Quantity.Spreads

variable {shape : List Nat} {a b : Quantity}

theorem map (f : Float → Float) (spreads : Spreads shape a b) :
    Spreads shape (a.map f) (b.map f) := by
  cases spreads with
  | kept quantity => exact .kept _
  | spread value =>
      rw [Quantity.map, Quantity.map, Tensor.map_full]
      exact .spread (f value)

theorem fills_iff (spreads : Spreads shape a b) : a.Fills shape ↔ b.Fills shape := by
  cases spreads with
  | kept quantity => exact Iff.rfl
  | spread value => exact ⟨fun _ => rfl, fun _ => trivial⟩

theorem valueAt_eq (spreads : Spreads shape a b) {point : List Nat} (inside : InBox shape point) :
    a.valueAt point = b.valueAt point := by
  cases spreads with
  | kept quantity => rfl
  | spread value => exact (Tensor.getD_eq (Tensor.get?_full value inside) 0.0).symm

theorem isVelocity_iff (spreads : Spreads shape a b) (positive : ∀ n ∈ shape, 0 < n) :
    a.IsVelocity ↔ b.IsVelocity := by
  cases spreads with
  | kept quantity => exact Iff.rfl
  | spread value =>
      have point := inBox_zeros positive
      constructor
      · intro velocity
        refine ⟨⟨_, point⟩, fun index found cell => ?_⟩
        rw [Tensor.eq_of_get?_full cell]
        exact velocity
      · rintro ⟨_, every⟩
        exact every _ value (Tensor.get?_full value point)

/-- A velocity that is spread is as large as it was. -/
theorem largest_eq (spreads : Spreads shape a b) (positive : ∀ n ∈ shape, 0 < n)
    (velocity : a.IsVelocity) : a.largest = b.largest := by
  cases spreads with
  | kept quantity => rfl
  | spread value =>
      have present := Tensor.get?_full value (inBox_zeros positive)
      have same : SameNumber (Tensor.full shape value).largest value :=
        Tensor.sameNumber_largest_of_const (isNaN_eq_false_of_lt velocity.1).2 ⟨_, present⟩
          fun _ _ => Tensor.eq_of_get?_full
      exact same.symm.eq_of_not_isZero fun zero => zero.not_positive velocity.1

theorem getD {a b : Option Quantity} (spreads : Option.Rel (Spreads shape) a b)
    (absent : Quantity) : Spreads shape (a.getD absent) (b.getD absent) := by
  cases spreads with
  | none => exact .kept absent
  | some spreads => exact spreads

theorem forall_fills_iff {a b : Option Quantity} (spreads : Option.Rel (Spreads shape) a b) :
    (∀ quantity, a = some quantity → quantity.Fills shape) ↔
      ∀ quantity, b = some quantity → quantity.Fills shape := by
  cases spreads with
  | none => exact ⟨fun _ _ => by rintro ⟨⟩, fun _ _ => by rintro ⟨⟩⟩
  | some spreads =>
      constructor
      · rintro fills _ ⟨⟩
        exact spreads.fills_iff.mp (fills _ rfl)
      · rintro fills _ ⟨⟩
        exact spreads.fills_iff.mpr (fills _ rfl)

theorem exists_fills_iff {a b : Option Quantity} (spreads : Option.Rel (Spreads shape) a b) :
    (∃ quantity, a = some quantity ∧ quantity.Fills shape) ↔
      ∃ quantity, b = some quantity ∧ quantity.Fills shape := by
  cases spreads with
  | none => exact Iff.rfl
  | some spreads => simp [spreads.fills_iff]

theorem elim_valueAt_eq {a b : Option Quantity} (spreads : Option.Rel (Spreads shape) a b)
    (precision : Precision) {point : List Nat} (inside : InBox shape point) :
    (a.elim 0.0 fun quantity => precision.cast (quantity.valueAt point)) =
      b.elim 0.0 fun quantity => precision.cast (quantity.valueAt point) := by
  cases spreads with
  | none => rfl
  | some spreads => exact congrArg precision.cast (spreads.valueAt_eq inside)

theorem map_option {a b : Option Quantity} (spreads : Option.Rel (Spreads shape) a b)
    (f : Float → Float) : Option.Rel (Spreads shape) (a.map (·.map f)) (b.map (·.map f)) := by
  cases spreads with
  | none => exact .none
  | some spreads => exact .some (spreads.map f)

end Quantity.Spreads

/-! ### Fields -/

/-- No value of the field is undefined. -/
def Field.Defined (field : Field) : Prop :=
  ∀ index value, field.operand.cell? index = some value → value.isNaN = false

theorem Field.defined_varying_iff {field : StoredField} :
    (Field.varying field).Defined ↔ (field.storage.all fun value => !value.isNaN) = true := by
  simp only [Tensor.all_eq_true_iff, Bool.not_eq_true']
  exact Iff.rfl

/-- Two fields read the same: they have the same values on the padded grid and, where these are defined,
the same extremes up to the sign of a zero. -/
structure Field.SameReadings (a b : Field) (shape : List Nat) : Prop where
  values : ∀ index, InBox shape index → a.valueAt? index = b.valueAt? index
  smallest : a.Defined → SameNumber a.smallest b.smallest
  largest : a.Defined → SameNumber a.largest b.largest

theorem Field.SameReadings.refl (field : Field) (shape : List Nat) : field.SameReadings field shape :=
  ⟨fun _ _ => rfl, fun _ => .inl rfl, fun _ => .inl rfl⟩

namespace Field.Covers

variable {layout : Layout Float} {order : Nat} {varies : Prop} {value : List Nat → Float}

/-- What a field repeats is decided by the values inside the physical region. -/
theorem congr {field : Field} (covers : field.Covers layout order varies value)
    (positive : ∀ n ∈ layout.shape, 0 < n) {other : List Nat → Float}
    (same : ∀ point, InBox layout.shape point → value point = other point) :
    field.Covers layout order varies other where
  representation := covers.representation
  cells := by
    intro index inside
    rw [covers.cells index inside]
    exact congrArg some (same _ (inBox_nearest positive inside))
  frame := covers.frame

/-- A point of the padded grid shows the cell of the storage that stands over it. -/
theorem valueAt?_eq {field : Field} (covers : field.Covers layout order varies value)
    {index : List Nat} (inside : InBox (layout.shape.map (· + 2 * layout.layer)) index) :
    field.valueAt? index = field.operand.cell? (index.map (order + ·)) := by
  cases field with
  | uniform field => rfl
  | varying field =>
      have halo := (covers.frame field rfl).2
      have ranks := length_eq_of_inBox inside
      rw [List.length_map] at ranks
      change field.data.get? index = field.storage.get? (index.map (order + ·))
      rw [field.get?_data (covers.shape_eq ▸ inside), halo, ← ranks, shift_even]

/-- The extremes of a varying field that repeats one value are that value. -/
theorem sameNumber_extremes {uniform : UniformField} {varying : StoredField} {q : Prop}
    (positive : ∀ n ∈ layout.shape, 0 < n)
    (first : (Field.uniform uniform).Covers layout order varies value)
    (second : (Field.varying varying).Covers layout order q value)
    (number : uniform.value.isNaN = false) :
    SameNumber varying.storage.smallest uniform.value ∧
      SameNumber varying.storage.largest uniform.value := by
  have point := inBox_zeros positive
  have present : ∃ index, varying.storage.get? index = some uniform.value :=
    (second.stored_iff positive _).mpr ⟨_, point, (first.uniform_value point).symm⟩
  have every : ∀ index x, varying.storage.get? index = some x → x = uniform.value := by
    intro index x found
    obtain ⟨point, inside, rfl⟩ := (second.stored_iff positive x).mp ⟨index, found⟩
    exact (first.uniform_value inside).symm
  exact ⟨Tensor.sameNumber_smallest_of_const number present every,
    Tensor.sameNumber_largest_of_const number present every⟩

/-- Fields that repeat the same values read the same, whether they have one value or one per cell. -/
theorem sameReadings {a b : Field} {p q : Prop} (positive : ∀ n ∈ layout.shape, 0 < n)
    (first : a.Covers layout order p value) (second : b.Covers layout order q value) :
    a.SameReadings b (layout.shape.map (· + 2 * layout.layer)) := by
  have values : ∀ index, InBox (layout.shape.map (· + 2 * layout.layer)) index →
      a.valueAt? index = b.valueAt? index := by
    intro index inside
    have stored : InBox (layout.storageShape order) (index.map (order + ·)) := by
      have behind := StoredField.inBox_layer order inside
      rwa [List.map_map] at behind
    rw [first.valueAt?_eq inside, second.valueAt?_eq inside, first.cells _ stored,
      second.cells _ stored]
  cases a with
  | uniform a =>
      cases b with
      | uniform b =>
          have point := inBox_zeros positive
          have equal : a.value = b.value :=
            (first.uniform_value point).trans (second.uniform_value point).symm
          exact ⟨values, fun _ => .inl equal, fun _ => .inl equal⟩
      | varying b =>
          have extremes : (Field.uniform a).Defined → _ := fun defined =>
            sameNumber_extremes positive first second (defined [] a.value rfl)
          exact ⟨values, fun defined => (extremes defined).1.symm,
            fun defined => (extremes defined).2.symm⟩
  | varying a =>
      cases b with
      | uniform b =>
          have number : (Field.varying a).Defined → b.value.isNaN = false := by
            intro defined
            have point := inBox_zeros positive
            rw [second.uniform_value point]
            exact defined _ _ (first.cell_over point)
          have extremes : (Field.varying a).Defined → _ := fun defined =>
            sameNumber_extremes positive second first (number defined)
          exact ⟨values, fun defined => (extremes defined).1, fun defined => (extremes defined).2⟩
      | varying b =>
          have together : ∀ x, (∃ index, a.storage.get? index = some x) ↔
              ∃ index, b.storage.get? index = some x := by
            intro x
            rw [first.stored_iff positive, second.stored_iff positive]
          exact ⟨values, fun _ => Tensor.sameNumber_smallest together,
            fun _ => Tensor.sameNumber_largest together⟩

end Field.Covers

namespace Geometry

variable {geometry : Geometry Float} {layout : Layout Float} {name : String} {order : Nat}
  {x y : Field}

theorem Fits.sameReadings_of_covers (fits : geometry.Fits layout) {p q : Prop}
    {value other : List Nat → Float} (first : x.Covers layout order p value)
    (second : y.Covers layout order q other)
    (same : ∀ point, InBox layout.shape point → value point = other point) :
    x.SameReadings y geometry.grid.shape := by
  rw [fits.padded]
  exact (first.congr fits.positive same).sameReadings fits.positive second

/-- The fields of a quantity and of its spread read the same. -/
theorem Fits.sameReadings_field (fits : geometry.Fits layout) {a b : Quantity}
    (spreads : a.Spreads layout.shape b) (first : geometry.field name a order = .ok x)
    (second : geometry.field name b order = .ok y) : x.SameReadings y geometry.grid.shape :=
  fits.sameReadings_of_covers (fits.covers_field first) (fits.covers_field second)
    fun _ inside => congrArg geometry.grid.precision.cast (spreads.valueAt_eq inside)

theorem Fits.sameReadings_optionalField (fits : geometry.Fits layout) {a b : Option Quantity}
    {absent : Float} (spreads : Option.Rel (Quantity.Spreads layout.shape) a b)
    (first : AcousticMedium.optionalField geometry name a absent order = .ok x)
    (second : AcousticMedium.optionalField geometry name b absent order = .ok y) :
    x.SameReadings y geometry.grid.shape := by
  rw [AcousticMedium.optionalField_eq] at first second
  exact fits.sameReadings_field (Quantity.Spreads.getD spreads _) first second

end Geometry

/-! ### Acoustic media -/

namespace AcousticMedium

/-- In the second inputs some of the values are spread over the points.  Thomsen's epsilon is not, since the
scale depends on how it is supplied. -/
structure Inputs.Spreads (a b : Inputs) : Prop where
  layout : b.layout = a.layout
  grid : b.grid = a.grid
  spaceOrder : b.spaceOrder = a.spaceOrder
  epsilon : b.epsilon = a.epsilon
  velocity : a.velocity.Spreads a.layout.shape b.velocity
  delta : Option.Rel (Quantity.Spreads a.layout.shape) a.delta b.delta
  tilt : Option.Rel (Quantity.Spreads a.layout.shape) a.tilt b.tilt
  azimuth : Option.Rel (Quantity.Spreads a.layout.shape) a.azimuth b.azimuth

/-- Two media of one geometry read the same. -/
structure SameReadings (a b : AcousticMedium) : Prop where
  geometry : a.geometry = b.geometry
  absorption : a.absorption = b.absorption
  scale : a.scale = b.scale
  squaredSlowness : a.squaredSlowness.SameReadings b.squaredSlowness a.geometry.grid.shape
  epsilon : a.epsilon.SameReadings b.epsilon a.geometry.grid.shape
  delta : a.delta.SameReadings b.delta a.geometry.grid.shape
  tilt : a.tilt.SameReadings b.tilt a.geometry.grid.shape
  azimuth : a.azimuth.SameReadings b.azimuth a.geometry.grid.shape
  criticalStep : a.criticalStep = b.criticalStep

variable {a b : Inputs}

theorem Inputs.Spreads.fill_iff (spreads : a.Spreads b) : a.Fill ↔ b.Fill := by
  cases b
  obtain ⟨rfl, rfl, rfl, rfl, velocity, delta, tilt, azimuth⟩ := spreads
  have slow := velocity.fills_iff
  have second := Quantity.Spreads.forall_fills_iff delta
  have third := Quantity.Spreads.forall_fills_iff tilt
  have fourth := Quantity.Spreads.forall_fills_iff azimuth
  constructor
  · intro fill
    exact ⟨slow.mp fill.velocity, fill.epsilon, second.mp fill.delta, third.mp fill.tilt,
      fun solid => fourth.mp (fill.azimuth solid)⟩
  · intro fill
    exact ⟨slow.mpr fill.velocity, fill.epsilon, second.mpr fill.delta, third.mpr fill.tilt,
      fun solid => fourth.mpr (fill.azimuth solid)⟩

theorem exists_build_spread_iff (spreads : a.Spreads b)
    (fit : SizesFit (a.layout.storageShape a.spaceOrder)) :
    (∃ medium, build a = .ok medium) ↔ ∃ medium, build b = .ok medium := by
  have again : Geometry.new b.layout b.grid = Geometry.new a.layout a.grid := by
    rw [spreads.layout, spreads.grid]
  have fitAgain : SizesFit (b.layout.storageShape b.spaceOrder) := by
    rw [spreads.layout, spreads.spaceOrder]
    exact fit
  cases grid : Geometry.new a.layout a.grid with
  | error failure =>
      simp only [build, again, grid]
      exact Iff.rfl
  | ok geometry =>
      have positive := (Geometry.fits_of_new grid).positive
      rw [exists_build_iff grid fit, exists_build_iff (again.trans grid) fitAgain,
        checkVelocity_eq_ok_iff, checkVelocity_eq_ok_iff, spreads.velocity.isVelocity_iff positive,
        spreads.fill_iff]

theorem sameReadings_of_build (spreads : a.Spreads b) {x y : AcousticMedium}
    (here : build a = .ok x) (there : build b = .ok y) : x.SameReadings y := by
  have first := assembled_of_build here
  have second := assembled_of_build there
  have fits := first.fits
  cases b
  obtain ⟨rfl, rfl, rfl, rfl, velocity, delta, tilt, azimuth⟩ := spreads
  have geometry : x.geometry = y.geometry := Except.ok.inj (first.geometry.symm.trans second.geometry)
  have layer := second.absorption
  have slowness := second.slowness
  have epsilonAgain := second.epsilon
  have deltaAgain := second.delta
  have tiltAgain := second.tilt
  have azimuthAgain := second.azimuth
  rw [← geometry] at layer slowness epsilonAgain deltaAgain tiltAgain azimuthAgain
  have epsilon : x.epsilon = y.epsilon := Except.ok.inj (first.epsilon.symm.trans epsilonAgain)
  have scale : x.scale = y.scale := by rw [first.scale, second.scale, epsilon]
  have usedAzimuth := first.azimuth
  rw [usedAzimuth_fst] at usedAzimuth azimuthAgain
  have fastest : x.velocity.largest = y.velocity.largest := by
    rw [first.velocity, second.velocity]
    exact velocity.largest_eq fits.positive (checkVelocity_eq_ok_iff.mp first.valid)
  refine
    { geometry := geometry
      absorption := Except.ok.inj (first.absorption.symm.trans layer)
      scale := scale
      squaredSlowness := fits.sameReadings_field (velocity.map slownessSquared) first.slowness slowness
      epsilon := epsilon ▸ .refl x.epsilon _
      delta := fits.sameReadings_optionalField (Quantity.Spreads.map_option delta deltaFactor)
        first.delta deltaAgain
      tilt := fits.sameReadings_optionalField tilt first.tilt tiltAgain
      azimuth := ?_
      criticalStep := by
        rw [criticalStep, criticalStep, stableStep, stableStep, geometry, scale, fastest] }
  refine fits.sameReadings_optionalField ?_ usedAzimuth azimuthAgain
  split
  · exact azimuth
  · exact .none

end AcousticMedium

/-! ### Poroelastic media -/

namespace PoroelasticMedium

/-- In the second inputs some of the values are spread over the points. -/
structure Inputs.Spreads (a b : Inputs) : Prop where
  layout : b.layout = a.layout
  grid : b.grid = a.grid
  spaceOrder : b.spaceOrder = a.spaceOrder
  values : ∀ property, Option.Rel (Quantity.Spreads a.layout.shape) (a.values.get property)
    (b.values.get property)

/-- Two media of one geometry read the same.  Where the fastest wave is undefined somewhere or stands still,
their critical steps may differ. -/
structure SameReadings (a b : PoroelasticMedium) : Prop where
  geometry : a.geometry = b.geometry
  absorption : a.absorption = b.absorption
  supplied : ∀ property,
    (a.supplied.get property).SameReadings (b.supplied.get property) a.geometry.grid.shape
  derived : ∀ output,
    (a.derived.get output).SameReadings (b.derived.get output) a.geometry.grid.shape
  criticalStep : a.derived.compressionalVelocity.Defined →
    ¬ IsZero a.derived.compressionalVelocity.largest → a.criticalStep = b.criticalStep

variable {a b : Inputs}

theorem exists_build_spread_iff (spreads : a.Spreads b)
    (fit : SizesFit (a.layout.storageShape a.spaceOrder)) :
    (∃ medium, build a = .ok medium) ↔ ∃ medium, build b = .ok medium := by
  have again : Geometry.new b.layout b.grid = Geometry.new a.layout a.grid := by
    rw [spreads.layout, spreads.grid]
  have fitAgain : SizesFit (b.layout.storageShape b.spaceOrder) := by
    rw [spreads.layout, spreads.spaceOrder]
    exact fit
  cases grid : Geometry.new a.layout a.grid with
  | error failure =>
      simp only [build, again, grid]
      exact Iff.rfl
  | ok geometry =>
      rw [exists_build_iff grid fit, exists_build_iff (again.trans grid) fitAgain, spreads.layout]
      exact forall_congr' fun property => Quantity.Spreads.exists_fills_iff (spreads.values property)

/-- The rock at a point of the physical region does not depend on how its values were supplied. -/
theorem Inputs.Spreads.rockOn_eq (spreads : a.Spreads b) (precision : Precision) {point : List Nat}
    (inside : InBox a.layout.shape point) : a.rockOn precision point = b.rockOn precision point := by
  unfold rockOn RockTable.map
  congr 1
  funext property
  exact Quantity.Spreads.elim_valueAt_eq (spreads.values property) precision inside

theorem sameReadings_of_build (spreads : a.Spreads b) {x y : PoroelasticMedium}
    (here : build a = .ok x) (there : build b = .ok y) : x.SameReadings y := by
  have first := assembled_of_build here
  have second := assembled_of_build there
  have fits := first.fits
  have grid := second.geometry
  rw [spreads.layout, spreads.grid] at grid
  have geometry : x.geometry = y.geometry := Except.ok.inj (first.geometry.symm.trans grid)
  have layer := second.absorption
  rw [← geometry] at layer
  have supplied : ∀ property, (x.supplied.get property).SameReadings (y.supplied.get property)
      x.geometry.grid.shape := by
    intro property
    obtain ⟨quantity, found, one⟩ := first.supplied property
    obtain ⟨other, again, two⟩ := second.supplied property
    have spread := spreads.values property
    rw [found, again] at spread
    rw [← geometry, spreads.spaceOrder] at two
    cases spread with
    | some spread => exact fits.sameReadings_field spread one two
  have derived : ∀ output, (x.derived.get output).SameReadings (y.derived.get output)
      x.geometry.grid.shape := by
    intro output
    have covers := second.covers_derived output
    rw [← geometry, spreads.layout, spreads.spaceOrder] at covers
    refine fits.sameReadings_of_covers (first.covers_derived output) covers fun point inside => ?_
    rw [spreads.rockOn_eq _ inside]
  refine
    { geometry := geometry
      absorption := Except.ok.inj (first.absorption.symm.trans layer)
      supplied := supplied
      derived := derived
      criticalStep := fun defined moves => ?_ }
  have largest := ((derived .compressionalVelocity).largest defined).eq_of_not_isZero moves
  change x.derived.compressionalVelocity.largest = y.derived.compressionalVelocity.largest at largest
  rw [criticalStep, criticalStep, geometry, largest]

end PoroelasticMedium

/-! ### Both media -/

/-- Inputs, and the same inputs with some of their single values spread over the points, can both be built or
can both not be built.  The media then have the same geometry and the same absorbing layer, and every field
reads the same: it has the same values bit for bit on the padded grid and, if none of them is undefined, the
same extremes up to the sign of a zero.  Scale and critical step of an acoustic medium are the same, and so
is the critical step of a poroelastic one unless its fastest wave is undefined somewhere or stands still. -/
theorem build_spread :
    (∀ a b : AcousticMedium.Inputs, a.Spreads b → SizesFit (a.layout.storageShape a.spaceOrder) →
      ((∃ medium, AcousticMedium.build a = .ok medium) ↔
        ∃ medium, AcousticMedium.build b = .ok medium) ∧
      ∀ x y, AcousticMedium.build a = .ok x → AcousticMedium.build b = .ok y → x.SameReadings y) ∧
    ∀ a b : PoroelasticMedium.Inputs, a.Spreads b →
      SizesFit (a.layout.storageShape a.spaceOrder) →
      ((∃ medium, PoroelasticMedium.build a = .ok medium) ↔
        ∃ medium, PoroelasticMedium.build b = .ok medium) ∧
      ∀ x y, PoroelasticMedium.build a = .ok x → PoroelasticMedium.build b = .ok y →
        x.SameReadings y := by
  constructor
  · intro a b spreads fit
    exact ⟨AcousticMedium.exists_build_spread_iff spreads fit,
      fun _ _ here there => AcousticMedium.sameReadings_of_build spreads here there⟩
  · intro a b spreads fit
    exact ⟨PoroelasticMedium.exists_build_spread_iff spreads fit,
      fun _ _ here there => PoroelasticMedium.sameReadings_of_build spreads here there⟩

/-- The plane with its delta spread over the points, and its azimuth, which it does not use. -/
def AcousticMedium.spreadPlane : AcousticMedium.Inputs :=
  { AcousticMedium.planeInputs with
    delta := some (.varying (Tensor.full [2, 3] 0.1))
    azimuth := some (.varying (Tensor.full [2, 3] 0.5)) }

/-- The sandstone with both densities spread over the points. -/
def PoroelasticMedium.spreadSandstone : PoroelasticMedium.Inputs :=
  { PoroelasticMedium.sandstone with
    values :=
      { PoroelasticMedium.sandstone.values with
        solidDensity := some (.varying (Tensor.full [2] 2.5))
        fluidDensity := some (.varying (Tensor.full [2] 1.0)) } }

theorem build_spread_plane_sandstone :
    (∃ x y, AcousticMedium.build AcousticMedium.planeInputs = .ok x ∧
      AcousticMedium.build AcousticMedium.spreadPlane = .ok y ∧ x.SameReadings y) ∧
    ∃ x y, PoroelasticMedium.build PoroelasticMedium.sandstone = .ok x ∧
      PoroelasticMedium.build PoroelasticMedium.spreadSandstone = .ok y ∧ x.SameReadings y ∧
      x.criticalStep = y.criticalStep := by
  constructor
  · have spreads : AcousticMedium.planeInputs.Spreads AcousticMedium.spreadPlane :=
      { layout := rfl
        grid := rfl
        spaceOrder := rfl
        epsilon := rfl
        velocity := .kept _
        delta := .some (.spread 0.1)
        tilt := .none
        azimuth := .some (.spread 0.5) }
    obtain ⟨x, here⟩ := AcousticMedium.exists_build_planeInputs
    obtain ⟨together, same⟩ := build_spread.1 _ _ spreads (by decide)
    obtain ⟨y, there⟩ := together.mp ⟨x, here⟩
    exact ⟨x, y, here, there, same x y here there⟩
  · have spreads : PoroelasticMedium.sandstone.Spreads PoroelasticMedium.spreadSandstone := by
      refine ⟨rfl, rfl, rfl, fun property => ?_⟩
      cases property
      case solidDensity => exact .some (.spread 2.5)
      case fluidDensity => exact .some (.spread 1.0)
      all_goals exact .some (.kept _)
    obtain ⟨x, field, here, varying, number, moves⟩ := PoroelasticMedium.fastest_sandstone
    obtain ⟨together, same⟩ := build_spread.2 _ _ spreads (by decide)
    obtain ⟨y, there⟩ := together.mp ⟨x, here⟩
    have readings := same x y here there
    refine ⟨x, y, here, there, readings, readings.criticalStep ?_ ?_⟩
    · rw [varying]
      exact Field.defined_varying_iff.mpr number
    · rw [varying]
      exact moves

end WaveMedium
