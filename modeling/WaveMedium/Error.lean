/-
Module: WaveMedium.Error
Purpose: What can go wrong while a medium is built, and how it is worded.
Main exports:
  Fault, ModelError, ModelError.Kind, ModelError.message, Failure, Outcome, SizesFit, checkSizes,
  Storable, checkStorable
-/
import WaveMedium.Message
import WaveMedium.Poroelastic.Property
import WaveMedium.Region.Basic
import WaveMedium.Tensor.Index

namespace WaveMedium

/-! ### Causes -/

/-- A computation that has no result: it is not a reply to bad input but the end of the run. -/
inductive Fault where
  /-- A size is not below two to the sixty-fourth. -/
  | sizeOverflow
  /-- A smaller size less a larger one. -/
  | sizeUnderflow
  /-- An index outside an axis, or an axis that is not there. -/
  | outOfRange
  /-- A value is wanted from an axis without cells. -/
  | emptyAxis
  /-- Not as many margins or spacings as axes. -/
  | rankMismatch
deriving DecidableEq, Repr, Inhabited

/-- Whether a quantity has one value or one per cell. -/
inductive Representation where
  | uniform
  | varying
deriving DecidableEq, Repr, Inhabited

/-- What is wrong with the description of a physical grid. -/
inductive LayoutDefect (α : Type) where
  | lengths (origin spacing shape : Nat)
  | rank (axes : Nat)
  | emptyAxis (shape : List Nat)
  | spacing (spacing : List α)
deriving DecidableEq, Repr

/-- What is wrong with the parts of a padded grid. -/
inductive GridDefect where
  | lengths (extent shape origin interior : Nat)
  | emptyAxis (shape : List Nat)
  | outside (span : Span) (size : Nat)
deriving DecidableEq, Repr

/-- How a supplied grid differs from the one that the description asks for. -/
inductive GridMismatch (α : Type) where
  | shape (found expected : List Nat)
  | extent (found expected : List α)
  | interior (found expected : Region)
  | origin (found expected : List α)
deriving DecidableEq, Repr

/-- Why a medium cannot be built or changed.  Lengths are numbers of the type `α`. -/
inductive ModelError (α : Type) where
  | layout (defect : LayoutDefect α)
  | grid (defect : GridDefect)
  | mismatch (difference : GridMismatch α)
  /-- A velocity is not a positive finite number. -/
  | velocity
  /-- A derivation reads another before that one has run. -/
  | derivedTooEarly (output input : DerivedProperty)
  /-- The cells supplied for a field do not fill it. -/
  | shape (field : String) (expected actual : List Nat)
  /-- A supplied property is missing that a derivation or the medium needs. -/
  | missing (property : RockProperty) (neededBy : String)
  /-- A derived property is missing that the medium needs. -/
  | underived (property : DerivedProperty)
  | representation (field : String) (existing requested : Representation)
  | unknownScenario (name : String)
deriving DecidableEq, Repr

/-- The classes of errors that a caller tells apart. -/
inductive ModelError.Kind where
  | configuration
  | gridMismatch
  | shapeMismatch
  | missingParameter
  | representationMismatch
  | unknownScenario
deriving DecidableEq, Repr

/-- The class of an error. -/
def ModelError.kind {α : Type} : ModelError α → ModelError.Kind
  | .layout _ | .grid _ | .velocity | .derivedTooEarly _ _ => .configuration
  | .mismatch _ => .gridMismatch
  | .shape _ _ _ => .shapeMismatch
  | .missing _ _ | .underived _ => .missingParameter
  | .representation _ _ _ => .representationMismatch
  | .unknownScenario _ => .unknownScenario

/-- Why there is no result: bad input, or a fault. -/
inductive Failure (α : Type) where
  | rejected (error : ModelError α)
  | fault (fault : Fault)
deriving DecidableEq, Repr

/-- The result of a computation that may fail. -/
abbrev Outcome (β : Type) := Except (Failure Float) β

theorem bind_ok {ε β γ : Type} (value : β) (next : β → Except ε γ) :
    (Except.ok value >>= next) = next value := rfl

/-- A computation in steps succeeds only if each step does. -/
theorem exists_of_bind_eq_ok {ε β γ : Type} {first : Except ε β} {next : β → Except ε γ}
    {value : γ} (done : (first >>= next) = .ok value) :
    ∃ between, first = .ok between ∧ next between = .ok value := by
  cases first with
  | error failure => cases done
  | ok between => exact ⟨between, rfl, done⟩

theorem exists_eq_ok_of_toBool {ε β : Type} {computation : Except ε β}
    (succeeds : computation.toBool = true) : ∃ value, computation = .ok value := by
  cases computation with
  | error failure => cases succeeds
  | ok value => exact ⟨value, rfl⟩

theorem exists_of_map_toOption {ε β γ : Type} {computation : Except ε β} {f : β → γ} {seen : γ}
    (shown : computation.toOption.map f = some seen) :
    ∃ value, computation = .ok value ∧ f value = seen := by
  cases computation with
  | error failure => cases shown
  | ok value => exact ⟨value, rfl, Option.some.inj shown⟩

/-! ### Wording -/

namespace Message

/-- A span in a message. -/
def span (s : Span) : String := s!"{s.start}..{s.stop}"

/-- A region in a message. -/
def region (r : Region) : String := bracketed (r.spans.map span)

end Message

/-- A representation in words. -/
def Representation.description : Representation → String
  | .uniform => "uniform"
  | .varying => "spatially-varying"

/-- The wording of a defect in the description of a grid. -/
def LayoutDefect.message : LayoutDefect Float → String
  | .lengths origin steps shape =>
      "origin, spacing and shape must have the same length " ++
        s!"(origin={origin}, spacing={steps}, shape={shape})"
  | .rank axes => s!"models are 1, 2 or 3 dimensional, got {axes} axes"
  | .emptyAxis shape => "grid shape must be positive, got " ++ Message.counts shape
  | .spacing steps => "grid spacing must be positive, got " ++ Message.numbers steps

/-- The wording of a defect in the parts of a grid. -/
def GridDefect.message : GridDefect → String
  | .lengths extent shape origin interior =>
      "grid dimensions disagree " ++
        s!"(extent={extent}, shape={shape}, origin={origin}, domain={interior})"
  | .emptyAxis shape => "grid shape must be positive, got " ++ Message.counts shape
  | .outside span size => "physical domain " ++ Message.span span ++ s!" exceeds grid size {size}"

/-- The wording of a difference between grids. -/
def GridMismatch.message : GridMismatch Float → String
  | .shape found expected =>
      "grid shape " ++ Message.counts found ++
        " differs from padded model shape " ++ Message.counts expected
  | .extent found expected =>
      "grid extent " ++ Message.numbers found ++
        " differs from padded model extent " ++ Message.numbers expected
  | .interior found expected =>
      "grid interior " ++ Message.region found ++
        " differs from model interior " ++ Message.region expected
  | .origin found expected =>
      "grid origin " ++ Message.numbers found ++
        " differs from padded model origin " ++ Message.numbers expected

/-- The wording of an error. -/
def ModelError.message : ModelError Float → String
  | .layout defect => "invalid configuration: " ++ defect.message
  | .grid defect => "invalid configuration: " ++ defect.message
  | .velocity => "invalid configuration: velocity must be positive and finite everywhere"
  | .derivedTooEarly output input =>
      s!"invalid configuration: {output.description} needs {input.description} before it is derived"
  | .mismatch difference => "grid mismatch: " ++ difference.message
  | .shape field expected actual =>
      "shape mismatch for '" ++ field ++ "': expected " ++ Message.counts expected ++
        ", got " ++ Message.counts actual
  | .missing property neededBy =>
      "missing parameter '" ++ property.symbol ++ "' required by " ++ neededBy
  | .underived property =>
      "missing parameter '" ++ property.symbol ++ "' required by poroelastic model"
  | .representation field existing requested =>
      "field '" ++ field ++ "' is " ++ existing.description ++
        " and cannot be reassigned a " ++ requested.description ++ " value"
  | .unknownScenario name => "unknown preset '" ++ name ++ "'"

/-! ### Sizes -/

/-- Sizes and indices are counted in sixty-four bits. -/
def sizeLimit : Nat := Nat.pow 2 64

/-- All sizes can be counted.  Whether there is memory for a box of these sizes is left open: `Storable` says
what is assumed about it. -/
def SizesFit (sizes : List Nat) : Prop := ∀ n ∈ sizes, n < sizeLimit

instance (sizes : List Nat) : Decidable (SizesFit sizes) :=
  inferInstanceAs (Decidable (∀ n ∈ sizes, n < sizeLimit))

/-- Sizes that cannot be counted are a fault. -/
def checkSizes {α : Type} (sizes : List Nat) : Except (Failure α) Unit :=
  if SizesFit sizes then .ok () else .error (.fault .sizeOverflow)

theorem checkSizes_of_fit {α : Type} {sizes : List Nat} (fit : SizesFit sizes) :
    checkSizes (α := α) sizes = .ok () := if_pos fit

theorem checkSizes_of_not_fit {α : Type} {sizes : List Nat} (wide : ¬ SizesFit sizes) :
    checkSizes (α := α) sizes = .error (.fault .sizeOverflow) := if_neg wide

theorem sizesFit_of_checkSizes {α : Type} {sizes : List Nat}
    (checked : checkSizes (α := α) sizes = .ok ()) : SizesFit sizes := by
  unfold checkSizes at checked
  split at checked
  · assumption
  · cases checked

/-- The lengths of a box without cells, the empty ones apart, have to multiply to less than this. -/
def storageLimit : Nat := Nat.pow 2 63

/-- A box of the shape can be stored.  That memory never runs out is an idealization: a box with cells always
can be stored here, whatever their number.  A box without cells takes no memory, and still there is a limit for
its other lengths. -/
def Storable (shape : List Nat) : Prop :=
  0 ∈ shape → cellCount (shape.filter (0 < ·)) < storageLimit

instance (shape : List Nat) : Decidable (Storable shape) :=
  inferInstanceAs (Decidable (0 ∈ shape → _))

/-- A box that cannot be stored is a fault. -/
def checkStorable {α : Type} (shape : List Nat) : Except (Failure α) Unit :=
  if Storable shape then .ok () else .error (.fault .sizeOverflow)

theorem checkStorable_of_storable {α : Type} {shape : List Nat} (storable : Storable shape) :
    checkStorable (α := α) shape = .ok () := if_pos storable

theorem checkStorable_of_not_storable {α : Type} {shape : List Nat} (vast : ¬ Storable shape) :
    checkStorable (α := α) shape = .error (.fault .sizeOverflow) := if_neg vast

theorem storable_of_not_mem {shape : List Nat} (occupied : 0 ∉ shape) : Storable shape :=
  fun empty => absurd empty occupied

theorem storable_of_pos {shape : List Nat} (positive : ∀ n ∈ shape, 0 < n) : Storable shape :=
  storable_of_not_mem fun empty => Nat.lt_irrefl 0 (positive 0 empty)

end WaveMedium
