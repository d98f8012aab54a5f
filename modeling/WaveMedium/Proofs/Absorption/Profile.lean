/-
Module: WaveMedium.Proofs.Absorption.Profile
Purpose: The value of every cell of the absorption profile, as one sum over the rows of the layer on
  which the cell lies.
Main exports:
  faceDistances, layerRows, mem_layerRows, Absorption.accumulate, Absorption.profile_eq_ok,
  Absorption.profile_closed_form
-/
import WaveMedium.Absorption
import WaveMedium.Proofs.Padding

namespace WaveMedium

/-! ### Folds of writes -/

namespace Tensor

variable {α β : Type}

theorem shape_foldl {write : Tensor α → β → Tensor α} (keeps : ∀ t step, (write t step).shape = t.shape)
    (steps : List β) (t : Tensor α) : (steps.foldl write t).shape = t.shape := by
  induction steps generalizing t with
  | nil => rfl
  | cons step steps ih => rw [List.foldl_cons, ih, keeps]

/-- Where every write changes a cell by itself, a cell after many writes was changed by one after the
other. -/
theorem get?_foldl {write : Tensor α → β → Tensor α} {change : α → β → α} {shape index : List Nat}
    {steps : List β} (keeps : ∀ t step, (write t step).shape = t.shape)
    (cell : ∀ t, t.shape = shape → ∀ step ∈ steps,
      (write t step).get? index = (t.get? index).map (change · step))
    {t : Tensor α} (lengths : t.shape = shape) :
    (steps.foldl write t).get? index = (t.get? index).map (steps.foldl change) := by
  induction steps generalizing t with
  | nil => simp
  | cons step steps ih =>
      have rest := ih (fun t same other member => cell t same other (List.mem_cons_of_mem _ member))
        ((keeps t step).trans lengths)
      rw [List.foldl_cons, rest, cell t lengths step (List.mem_cons_self ..), Option.map_map]
      rfl

end Tensor

namespace Absorption

/-! ### Rows of the layer -/

/-- How far a cell stands from the nearer end of each axis. -/
def faceDistances (shape index : List Nat) : List Nat :=
  List.zipWith (fun n i => min i (n - 1 - i)) shape index

/-- A row is given by its distance from the nearer end of an axis and by the axis.  Rows are ordered by
the distance, and rows at one distance by the axis. -/
def rowAtMost (first second : Nat × Nat) : Bool :=
  decide (first.1 < second.1 ∨ first.1 = second.1 ∧ first.2 ≤ second.2)

/-- The rows of a layer on which a cell lies, one for each axis on which the cell stands in the layer,
in their order. -/
def layerRows (shape : List Nat) (width : Nat) (index : List Nat) : List (Nat × Nat) :=
  ((faceDistances shape index).zipIdx.filter fun row => row.1 < width).mergeSort rowAtMost

theorem mem_layerRows {shape index : List Nat} {width distance axis : Nat} :
    (distance, axis) ∈ layerRows shape width index ↔
      (faceDistances shape index)[axis]? = some distance ∧ distance < width := by
  simp [layerRows, List.mem_mergeSort, List.mem_zipIdx_iff_getElem?]

/-- A cell lies on at most one row of each axis. -/
theorem nodup_axes_layerRows (shape : List Nat) (width : Nat) (index : List Nat) :
    ((layerRows shape width index).map (·.2)).Nodup := by
  have same := (List.mergeSort_perm
    ((faceDistances shape index).zipIdx.filter fun row => row.1 < width) rowAtMost).map (·.2)
  have axes : ((faceDistances shape index).zipIdx.map (·.2)).Nodup := by
    rw [List.zipIdx_map_snd]
    exact List.nodup_range'
  exact same.nodup_iff.mpr (axes.sublist (List.filter_sublist.map _))

theorem nodup_layerRows (shape : List Nat) (width : Nat) (index : List Nat) :
    (layerRows shape width index).Nodup :=
  List.Pairwise.of_map (·.2) (fun _ _ apart same => apart (same ▸ rfl))
    (nodup_axes_layerRows shape width index)

theorem pairwise_layerRows (shape : List Nat) (width : Nat) (index : List Nat) :
    (layerRows shape width index).Pairwise fun first second => rowAtMost first second = true := by
  apply List.pairwise_mergeSort
  · intro a b c
    simp only [rowAtMost, decide_eq_true_eq]
    omega
  · intro a b
    simp only [rowAtMost, Bool.or_eq_true, decide_eq_true_eq]
    omega

/-- The order and the members say which list the rows of a cell are. -/
theorem eq_layerRows {shape index : List Nat} {width : Nat} {rows : List (Nat × Nat)}
    (ordered : rows.Pairwise fun first second =>
      first.1 < second.1 ∨ first.1 = second.1 ∧ first.2 < second.2)
    (members : ∀ distance axis, (distance, axis) ∈ rows ↔
      (faceDistances shape index)[axis]? = some distance ∧ distance < width) :
    rows = layerRows shape width index := by
  have distinct : rows.Nodup := by
    refine ordered.imp fun before same => ?_
    rw [same] at before
    omega
  have perm : rows.Perm (layerRows shape width index) := by
    refine (List.perm_ext_iff_of_nodup distinct (nodup_layerRows ..)).mpr ?_
    rintro ⟨distance, axis⟩
    rw [members, mem_layerRows]
  have sorted : rows.Pairwise fun first second => rowAtMost first second = true := by
    refine ordered.imp fun before => ?_
    simp only [rowAtMost, decide_eq_true_eq]
    omega
  refine perm.eq_of_pairwise ?_ sorted (pairwise_layerRows ..)
  rintro ⟨d, a⟩ ⟨e, b⟩ _ _
  simp only [rowAtMost, decide_eq_true_eq, Prod.mk.injEq]
  omega

/-! ### One cell under one write -/

theorem exists_coordinate {shape index : List Nat} (inside : InBox shape index) {axis n : Nat}
    (length : shape[axis]? = some n) : ∃ i, index[axis]? = some i ∧ i < n := by
  induction shape generalizing index axis with
  | nil => simp at length
  | cons k shape ih =>
      cases index with
      | nil => exact absurd inside id
      | cons i index =>
          cases axis with
          | zero =>
              simp only [List.getElem?_cons_zero, Option.some.injEq] at length
              exact ⟨i, rfl, length ▸ inside.1⟩
          | succ axis => exact ih inside.2 (by simpa using length)

theorem getElem?_faceDistances {shape index : List Nat} {axis n i : Nat}
    (length : shape[axis]? = some n) (coordinate : index[axis]? = some i) :
    (faceDistances shape index)[axis]? = some (min i (n - 1 - i)) := by
  simp [faceDistances, List.getElem?_zipWith, length, coordinate]

theorem shape_addRows (share : Float) (distance axis : Nat) (values : Tensor Float) :
    (addRows share distance axis values).shape = values.shape := rfl

/-- Two rows that do not meet are one row twice: a cell on either of them gets the share once. -/
theorem get?_addRows {share : Float} {distance axis n : Nat} {values : Tensor Float}
    {index : List Nat} (inside : InBox values.shape index)
    (length : values.shape[axis]? = some n) (apart : 2 * distance + 1 < n) :
    (addRows share distance axis values).get? index =
      (values.get? index).map fun value =>
        if (faceDistances values.shape index)[axis]? = some distance then value + share
        else value := by
  obtain ⟨i, coordinate, small⟩ := exists_coordinate inside length
  have lengths : values.shape.getD axis 0 = n := by simp [length]
  rw [addRows, lengths, Tensor.get?_mapRow, Tensor.get?_mapRow, Option.map_map,
    getElem?_faceDistances length coordinate]
  congr 1
  funext value
  simp only [Function.comp_apply, coordinate, Option.some.injEq]
  by_cases near : i = distance
  · have far : i ≠ n - 1 - distance := by omega
    have nearer : min i (n - 1 - i) = distance := by omega
    rw [if_pos near, if_neg far, if_pos nearer]
  · by_cases far : i = n - 1 - distance
    · have nearer : min i (n - 1 - i) = distance := by omega
      rw [if_neg near, if_pos far, if_pos nearer]
    · have between : min i (n - 1 - i) ≠ distance := by omega
      rw [if_neg near, if_neg far, if_neg between]

theorem zipIdx_eq_map_range (spacing : List Float) :
    spacing.zipIdx = (List.range spacing.length).map fun axis => (spacing.getD axis 0.0, axis) := by
  refine List.ext_getElem (by simp) fun axis small _ => ?_
  rw [List.length_zipIdx] at small
  simp [small]

/-- The share that a row adds to the cells on it. -/
def share (role : Role) (width : Nat) (spacing : List Float) (row : Nat × Nat) : Float :=
  role.signed (ramp row.1 width) / spacing.getD row.2 0.0

theorem addDistance_eq (role : Role) (width : Nat) (spacing : List Float) (values : Tensor Float)
    (distance : Nat) :
    addDistance role width spacing values distance =
      (List.range spacing.length).foldl
        (fun values axis => addRows (share role width spacing (distance, axis)) distance axis values)
        values := by
  rw [addDistance, zipIdx_eq_map_range, List.foldl_map]
  rfl

theorem shape_addDistance (role : Role) (width : Nat) (spacing : List Float)
    (values : Tensor Float) (distance : Nat) :
    (addDistance role width spacing values distance).shape = values.shape := by
  rw [addDistance_eq]
  exact Tensor.shape_foldl (fun values axis => shape_addRows _ distance axis values) _ _

theorem get?_addDistance {role : Role} {width distance : Nat} {spacing : List Float}
    {values : Tensor Float} {index : List Nat} (inside : InBox values.shape index)
    (axes : spacing.length = values.shape.length)
    (apart : ∀ n ∈ values.shape, 2 * distance + 1 < n) :
    (addDistance role width spacing values distance).get? index =
      (values.get? index).map
        ((((List.range spacing.length).filter fun axis =>
            (faceDistances values.shape index)[axis]? = some distance).map
          fun axis => (distance, axis)).foldl fun sum row => sum + share role width spacing row) := by
  have cell : ∀ t : Tensor Float, t.shape = values.shape → ∀ axis ∈ List.range spacing.length,
      (addRows (share role width spacing (distance, axis)) distance axis t).get? index =
        (t.get? index).map fun value =>
          if (faceDistances values.shape index)[axis]? = some distance then
            value + share role width spacing (distance, axis)
          else value := by
    intro t same axis member
    rw [List.mem_range, axes] at member
    rw [← same] at inside member apart ⊢
    exact get?_addRows inside (List.getElem?_eq_getElem member)
      (apart _ (List.getElem_mem member))
  rw [addDistance_eq,
    Tensor.get?_foldl (fun values axis => shape_addRows _ distance axis values) cell rfl]
  congr 1
  funext value
  rw [List.foldl_map, List.foldl_filter]
  simp only [decide_eq_true_eq]

/-! ### All writes -/

/-- The base value with the shares of some rows added in their order. -/
def accumulate (role : Role) (width : Nat) (spacing : List Float) (rows : List (Nat × Nat)) : Float :=
  rows.foldl (fun sum row => sum + share role width spacing row) role.base

/-- The rows of a cell in the order in which the profile is written: all axes at one distance, then all
axes at the next. -/
theorem flatMap_rows_eq_layerRows {shape index : List Nat} (width : Nat)
    (ranks : index.length = shape.length) :
    ((List.range width).flatMap fun distance =>
        ((List.range shape.length).filter fun axis =>
          (faceDistances shape index)[axis]? = some distance).map fun axis => (distance, axis)) =
      layerRows shape width index := by
  apply eq_layerRows
  · rw [List.pairwise_flatMap]
    constructor
    · intro distance _
      refine List.Pairwise.map _ (fun a b before => Or.inr ⟨rfl, before⟩) ?_
      exact List.pairwise_lt_range.sublist List.filter_sublist
    · refine List.pairwise_lt_range.imp fun before first member second other => Or.inl ?_
      obtain ⟨_, _, rfl⟩ := List.mem_map.mp member
      obtain ⟨_, _, rfl⟩ := List.mem_map.mp other
      exact before
  · intro distance axis
    have ranked : (faceDistances shape index)[axis]? = some distance → axis < shape.length := by
      intro found
      obtain ⟨small, _⟩ := List.getElem?_eq_some_iff.mp found
      simp only [faceDistances, List.length_zipWith] at small
      omega
    simp only [List.mem_flatMap, List.mem_range, List.mem_map, List.mem_filter, decide_eq_true_eq,
      Prod.mk.injEq]
    constructor
    · rintro ⟨_, small, _, ⟨_, found⟩, rfl, rfl⟩
      exact ⟨found, small⟩
    · rintro ⟨found, small⟩
      exact ⟨distance, small, axis, ⟨ranked found, found⟩, rfl, rfl⟩

theorem get?_foldl_addDistance {role : Role} {width : Nat} {spacing : List Float}
    {values : Tensor Float} {index : List Nat} (inside : InBox values.shape index)
    (axes : spacing.length = values.shape.length) (wide : ∀ n ∈ values.shape, 2 * width < n) :
    ((List.range width).foldl (addDistance role width spacing) values).get? index =
      (values.get? index).map
        ((layerRows values.shape width index).foldl fun sum row =>
          sum + share role width spacing row) := by
  have cell : ∀ t : Tensor Float, t.shape = values.shape → ∀ distance ∈ List.range width,
      (addDistance role width spacing t distance).get? index =
        (t.get? index).map
          ((((List.range values.shape.length).filter fun axis =>
              (faceDistances values.shape index)[axis]? = some distance).map
            fun axis => (distance, axis)).foldl fun sum row => sum + share role width spacing row) := by
    intro t same distance member
    rw [List.mem_range] at member
    rw [← axes, ← same]
    rw [← same] at inside axes wide
    refine get?_addDistance inside axes fun n axis => ?_
    have := wide n axis
    omega
  rw [← flatMap_rows_eq_layerRows width (length_eq_of_inBox inside)]
  rw [Tensor.get?_foldl (shape_addDistance role width spacing) cell rfl]
  congr 1
  funext value
  rw [List.foldl_flatMap]

/-! ### The profile -/

theorem accumulate_nil (role : Role) (width : Nat) (spacing : List Float) :
    accumulate role width spacing [] = role.base := rfl

/-- A cell that stands behind the layer on every axis lies on no row. -/
theorem layerRows_eq_nil {shape index : List Nat} {width : Nat}
    (behind : ∀ distance ∈ faceDistances shape index, width ≤ distance) :
    layerRows shape width index = [] := by
  refine List.eq_nil_iff_forall_not_mem.mpr ?_
  rintro ⟨distance, axis⟩ member
  obtain ⟨found, near⟩ := mem_layerRows.mp member
  have far := behind distance (List.mem_of_getElem? found)
  omega

theorem paddedValue_full {interior index : List Nat} {margins : List Margin} (base : Float)
    (positive : ∀ n ∈ interior, 0 < n) (ranks : margins.length = interior.length)
    (inside : InBox (enlarge interior margins) index) :
    (Tensor.full interior base).paddedValue margins .edge index = base := by
  have nearby := inBox_nearestCell ranks positive inside
  exact Tensor.getD_eq (Tensor.get?_full base nearby) 0.0

section Base

variable {interior : List Nat} {spacing : List Float} (axes : spacing.length = interior.length)
include axes

/-- With one spacing per axis the profile is there if its base can be stored and padded. -/
theorem profile_of_axes (storable : Storable interior) (width : Nat) (role : Role) :
    profile interior width spacing role =
      ((Tensor.full interior role.base).pad
        (List.replicate interior.length (Margin.even width)) .edge).map fun base =>
          (List.range width).foldl (addDistance role width spacing) base := by
  simp only [profile, axes, ne_eq, not_true_eq_false, if_false, checkStorable_of_storable storable]
  rfl

theorem profile_of_not_storable (vast : ¬ Storable interior) (width : Nat) (role : Role) :
    profile interior width spacing role = .error (.fault .sizeOverflow) := by
  simp only [profile, axes, ne_eq, not_true_eq_false, if_false, checkStorable_of_not_storable vast]
  rfl

theorem profile_of_not_fit (storable : Storable interior) {width : Nat}
    (wide : ¬ SizesFit (interior.map (· + 2 * width))) (role : Role) :
    profile interior width spacing role = .error (.fault .sizeOverflow) := by
  have large : ¬ SizesFit (enlarge (Tensor.full interior role.base).shape
      (List.replicate interior.length (Margin.even width))) := by
    rwa [Tensor.shape_full, enlarge_even]
  have stopped := Tensor.pad_of_not_fit .edge
    (show (List.replicate interior.length (Margin.even width)).length =
      (Tensor.full interior role.base).shape.length from List.length_replicate) large
  rw [profile_of_axes axes storable, stopped]
  rfl

end Base

/-- Every cell of the profile holds the base value with the shares of its rows. -/
theorem profile_eq_ok {interior : List Nat} {width : Nat} {spacing : List Float} {role : Role}
    (axes : spacing.length = interior.length) (positive : ∀ n ∈ interior, 0 < n)
    (fit : SizesFit (interior.map (· + 2 * width))) :
    profile interior width spacing role =
      .ok (Tensor.ofFn (interior.map (· + 2 * width)) fun index =>
        accumulate role width spacing (layerRows (interior.map (· + 2 * width)) width index)) := by
  have ranks : (List.replicate interior.length (Margin.even width)).length = interior.length :=
    List.length_replicate
  have even := enlarge_even interior width
  have padded := Tensor.pad_eq_ok (t := Tensor.full interior role.base) .edge positive ranks
    (by rwa [Tensor.shape_full, even])
  rw [Tensor.shape_full, even] at padded
  rw [profile_of_axes axes (storable_of_pos positive), padded]
  change Except.ok _ = _
  congr 1
  -- What is folded over is a box with the base value in every cell.
  refine Tensor.ext_get? (Tensor.shape_foldl (shape_addDistance role width spacing) _ _) ?_
  intro index inside
  rw [Tensor.shape_foldl (shape_addDistance role width spacing), Tensor.shape_ofFn] at inside
  have wide : ∀ n ∈ interior.map (· + 2 * width), 2 * width < n := by
    intro n member
    obtain ⟨k, axis, rfl⟩ := List.mem_map.mp member
    have := positive k axis
    omega
  have blank := paddedValue_full role.base positive ranks (even.symm ▸ inside)
  rw [get?_foldl_addDistance inside (by simpa using axes) wide, Tensor.get?_ofFn _ inside,
    Tensor.get?_ofFn _ inside, blank]
  rfl

/-- The profile around a region has the layer on both faces of every axis.  A cell of it holds the base
value, to which the shares of the rows are added on which the cell lies: one share for each axis on
which it stands in the layer, by increasing distance and then by axis.  A cell behind the layer on every
axis keeps the base value.  Only a size that cannot be counted is a fault. -/
theorem profile_closed_form (interior : List Nat) (width : Nat) (spacing : List Float) (role : Role)
    (axes : spacing.length = interior.length) (positive : ∀ n ∈ interior, 0 < n) :
    (SizesFit (interior.map (· + 2 * width)) →
      ∃ values, profile interior width spacing role = .ok values ∧
        values.shape = interior.map (· + 2 * width) ∧
        ∀ index, InBox values.shape index →
          values.get? index =
              some (accumulate role width spacing (layerRows values.shape width index)) ∧
            ((layerRows values.shape width index).map (·.2)).Nodup ∧
            ((∀ distance ∈ faceDistances values.shape index, width ≤ distance) →
              values.get? index = some role.base)) ∧
      (¬ SizesFit (interior.map (· + 2 * width)) →
        profile interior width spacing role = .error (.fault .sizeOverflow)) := by
  constructor
  · intro fit
    refine ⟨_, profile_eq_ok axes positive fit, rfl, fun index inside => ?_⟩
    rw [Tensor.shape_ofFn] at inside ⊢
    have cell := Tensor.get?_ofFn (fun index => accumulate role width spacing
      (layerRows (interior.map (· + 2 * width)) width index)) inside
    refine ⟨cell, nodup_axes_layerRows _ _ _, fun behind => ?_⟩
    rw [cell, layerRows_eq_nil behind, accumulate_nil]
  · exact fun wide => profile_of_not_fit axes (storable_of_pos positive) wide role

/-- In a layer of two rows around three by three points, the second cell of the first column lies on the
outer row of the second axis and on the inner row of the first.  The cell in the middle lies on none. -/
theorem profile_closed_form_square :
    ([1.0, 4.0].length = [3, 3].length ∧ (∀ n ∈ [3, 3], 0 < n) ∧ SizesFit ([3, 3].map (· + 2 * 2))) ∧
      ∃ values, profile [3, 3] 2 [1.0, 4.0] .damping = .ok values ∧
        values.get? [1, 0] = some (0.0 + ramp 0 2 / 4.0 + ramp 1 2 / 1.0) ∧
        values.get? [3, 3] = some 0.0 := by
  have positive : ∀ n ∈ [3, 3], 0 < n := by decide
  have fit : SizesFit ([3, 3].map (· + 2 * 2)) := by decide
  obtain ⟨values, made, lengths, cells⟩ :=
    (profile_closed_form [3, 3] 2 [1.0, 4.0] .damping rfl positive).1 fit
  have lengths : values.shape = [7, 7] := lengths
  have distances : faceDistances [7, 7] [1, 0] = [1, 0] := rfl
  have rows : layerRows [7, 7] 2 [1, 0] = [(0, 1), (1, 0)] := by
    refine (eq_layerRows (by decide) fun distance axis => ?_).symm
    rw [distances]
    rcases axis with _ | _ | axis <;> simp <;> omega
  obtain ⟨corner, _, _⟩ := cells [1, 0] (by rw [lengths]; decide)
  obtain ⟨_, _, middle⟩ := cells [3, 3] (by rw [lengths]; decide)
  rw [lengths, rows] at corner
  exact ⟨⟨rfl, positive, fit⟩, values, made, corner, middle (by rw [lengths]; decide)⟩

/-- Around a single point there is no layer of two to the sixty-third rows. -/
theorem not_profile_closed_form_widest :
    [10.0].length = [1].length ∧ (∀ n ∈ [1], 0 < n) ∧
      profile [1] (Nat.pow 2 63) [10.0] .damping = .error (.fault .sizeOverflow) ∧
      ¬ ∃ values, profile [1] (Nat.pow 2 63) [10.0] .damping = .ok values := by
  have stopped : profile [1] (Nat.pow 2 63) [10.0] .damping = .error (.fault .sizeOverflow) :=
    profile_of_not_fit rfl (by decide) (by decide) .damping
  refine ⟨rfl, by decide, stopped, ?_⟩
  rintro ⟨values, made⟩
  cases stopped.symm.trans made

end Absorption

end WaveMedium
