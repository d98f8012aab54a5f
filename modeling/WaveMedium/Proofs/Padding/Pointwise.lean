/-
Module: WaveMedium.Proofs.Padding.Pointwise
Purpose: What padding writes into each cell, and which boxes with an empty axis it cannot pad.
Main exports:
  Margin.behind, heldOnAxis, OnAxes, Tensor.Pads, Tensor.pad_pads, Tensor.exists_fault_of_pad,
  Tensor.pads_of_empty, Tensor.pad_pointwise
-/
import Mathlib.Data.List.Forall2
import WaveMedium.Proofs.Padding

namespace WaveMedium

/-! ### Padding, axis by axis -/

/-- How far each coordinate of a padded box stands behind the margin that comes before its axis.  In that
margin the number is negative. -/
def Margin.behind (margins : List Margin) (index : List Nat) : List Int :=
  List.zipWith (fun (margin : Margin) (i : Nat) => (i : Int) - margin.before) margins index

/-- The coordinate on an axis of length `n` at which a number is held that runs past one of its ends. -/
def heldOnAxis (n : Nat) (k : Int) : Nat := (max 0 (min k (n - 1))).toNat

/-- Each number is a coordinate of its axis. -/
def OnAxes (shape : List Nat) (numbers : List Int) : Prop :=
  List.Forall₂ (fun (n : Nat) (k : Int) => 0 ≤ k ∧ k < n) shape numbers

/-- One box is another one with a margin around it.  Every cell repeats the nearest supplied cell, or, where
a constant is filled in, the cell beneath it and the constant if there is none. -/
structure Tensor.Pads (t : Tensor Float) (margins : List Margin) (filling : Filling)
    (padded : Tensor Float) : Prop where
  shape : padded.shape = enlarge t.shape margins
  edge : filling = .edge → ∀ index, InBox padded.shape index →
    padded.get? index = t.get? (List.zipWith heldOnAxis t.shape (Margin.behind margins index))
  within : ∀ value, filling = .constant value → ∀ index, InBox padded.shape index →
    OnAxes t.shape (Margin.behind margins index) →
      padded.get? index = t.get? ((Margin.behind margins index).map Int.toNat)
  beyond : ∀ value, filling = .constant value → ∀ index, InBox padded.shape index →
    ¬ OnAxes t.shape (Margin.behind margins index) → padded.get? index = some value

theorem heldOnAxis_sub (margin : Margin) (n i : Nat) :
    heldOnAxis n ((i : Int) - margin.before) = margin.nearest n i := by
  unfold heldOnAxis Margin.nearest
  omega

theorem zipWith_heldOnAxis (margins : List Margin) (shape index : List Nat) :
    List.zipWith heldOnAxis shape (Margin.behind margins index) =
      nearestCell margins shape index := by
  induction shape generalizing margins index with
  | nil => cases margins <;> rfl
  | cons n shape ih =>
      cases margins with
      | nil => rfl
      | cons margin margins =>
          cases index with
          | nil => rfl
          | cons i index =>
              have rest := ih margins index
              unfold Margin.behind at rest ⊢
              rw [List.zipWith_cons_cons, List.zipWith_cons_cons, rest, heldOnAxis_sub]
              rfl

theorem Margin.covers_iff (margin : Margin) (n i : Nat) :
    margin.covers n i = true ↔ margin.before ≤ i ∧ i < margin.before + n := decide_eq_true_iff

/-- An index lies over the box if it is a coordinate of every axis, counted behind the margins. -/
theorem coversIndex_iff {margins : List Margin} {shape index : List Nat}
    (ranks : margins.length = shape.length) (inside : InBox (enlarge shape margins) index) :
    coversIndex margins shape index = true ↔ OnAxes shape (Margin.behind margins index) := by
  induction shape generalizing margins index with
  | nil =>
      obtain rfl : margins = [] := List.length_eq_zero_iff.mp ranks
      exact iff_of_true rfl .nil
  | cons n shape ih =>
      cases margins with
      | nil => simp at ranks
      | cons margin margins =>
          cases index with
          | nil => exact absurd inside id
          | cons i index =>
              have rest := ih (by simpa using ranks) inside.2
              have axis : margin.covers n i = true ↔
                  0 ≤ (i : Int) - margin.before ∧ (i : Int) - margin.before < n := by
                rw [margin.covers_iff]
                omega
              unfold OnAxes Margin.behind at rest ⊢
              rw [coversIndex, Bool.and_eq_true, rest, axis, List.zipWith_cons_cons,
                List.forall₂_cons]

/-- Over the box nothing has to be held. -/
theorem zipWith_heldOnAxis_of_onAxes {shape : List Nat} {numbers : List Int}
    (onAxes : OnAxes shape numbers) :
    List.zipWith heldOnAxis shape numbers = numbers.map Int.toNat := by
  induction onAxes with
  | nil => rfl
  | cons axis _ ih =>
      rw [List.zipWith_cons_cons, List.map_cons, ih]
      congr 1
      unfold heldOnAxis
      omega

/-! ### Boxes without empty axes -/

namespace Tensor

/-- The box of padded values is the box with the margins around it. -/
theorem pads_ofFn {t : Tensor Float} {margins : List Margin} (filling : Filling)
    (positive : ∀ n ∈ t.shape, 0 < n) (ranks : margins.length = t.shape.length) :
    t.Pads margins filling (ofFn (enlarge t.shape margins) (t.paddedValue margins filling)) := by
  -- Where the padded value is read from the box, it is read from the nearest cell.
  have repeated : ∀ index, InBox (enlarge t.shape margins) index →
      some (t.getD (nearestCell margins t.shape index) 0.0) =
        t.get? (List.zipWith heldOnAxis t.shape (Margin.behind margins index)) := by
    intro index inside
    rw [zipWith_heldOnAxis]
    exact (get?_eq_getD (inBox_nearestCell ranks positive inside) 0.0).symm
  constructor
  case shape => rfl
  case edge =>
    rintro rfl index inside
    rw [shape_ofFn] at inside
    rw [get?_ofFn _ inside, paddedValue_edge, repeated index inside]
  case within =>
    rintro value rfl index inside onAxes
    rw [shape_ofFn] at inside
    have covered := (coversIndex_iff ranks inside).mpr onAxes
    rw [get?_ofFn _ inside, ← zipWith_heldOnAxis_of_onAxes onAxes, ← repeated index inside,
      paddedValue_constant, if_pos covered]
  case beyond =>
    rintro value rfl index inside offAxes
    rw [shape_ofFn] at inside
    rw [get?_ofFn _ inside, paddedValue_constant,
      if_neg (mt (coversIndex_iff ranks inside).mp offAxes)]

theorem pad_pads {t : Tensor Float} {margins : List Margin} (filling : Filling)
    (positive : ∀ n ∈ t.shape, 0 < n) (ranks : margins.length = t.shape.length)
    (fit : SizesFit (enlarge t.shape margins)) :
    ∃ padded, t.pad margins filling = .ok padded ∧ t.Pads margins filling padded :=
  ⟨_, pad_eq_ok filling positive ranks fit, pads_ofFn filling positive ranks⟩

end Tensor

/-! ### Boxes computed cell by cell -/

/-- Computing the parts of a vector one after the other gives a vector if each part has a value, and
otherwise the failure of some part. -/
theorem ofFnM_cases {ε α : Type} {n : Nat} (part : Fin n → Except ε α) :
    ((∃ whole, Vector.ofFnM part = .ok whole) ∧ ∀ i, ∃ value, part i = .ok value) ∨
      ∃ i failure, part i = .error failure ∧ Vector.ofFnM part = .error failure := by
  induction n with
  | zero =>
      left
      rw [Vector.ofFnM_zero]
      exact ⟨⟨_, rfl⟩, fun i => i.elim0⟩
  | succ n ih =>
      rw [Vector.ofFnM_succ]
      rcases ih fun i => part i.castSucc with ⟨⟨whole, computed⟩, parts⟩ | ⟨i, failure, stuck, stopped⟩
      · rw [computed]
        cases last : part (Fin.last n) with
        | ok value =>
            refine .inl ⟨⟨_, rfl⟩, fun i => ?_⟩
            cases i using Fin.lastCases with
            | last => exact ⟨value, last⟩
            | cast i => exact parts i
        | error failure => exact .inr ⟨_, failure, last, rfl⟩
      · rw [stopped]
        exact .inr ⟨_, failure, stuck, rfl⟩

namespace Tensor

/-- A box is computed if each of its cells has a value, and otherwise fails as some cell does. -/
theorem ofFnM_cases {ε α : Type} {shape : List Nat} (cell : List Nat → Except ε α) :
    ((∃ t, ofFnM shape cell = .ok t) ∧ ∀ index, InBox shape index → ∃ value, cell index = .ok value) ∨
      ∃ index failure, InBox shape index ∧ cell index = .error failure ∧
        ofFnM shape cell = .error failure := by
  unfold ofFnM
  rcases WaveMedium.ofFnM_cases fun place : Fin (cellCount shape) => cell (unravel shape place) with
    ⟨⟨whole, computed⟩, cells⟩ | ⟨place, failure, stuck, stopped⟩
  · left
    rw [computed]
    refine ⟨⟨_, rfl⟩, fun index inside => ?_⟩
    obtain ⟨value, here⟩ := cells ⟨offset shape index, offset_lt inside⟩
    rw [unravel_offset inside] at here
    exact ⟨value, here⟩
  · right
    rw [stopped]
    exact ⟨_, failure, inBox_unravel place.isLt, stuck, rfl⟩

end Tensor

/-! ### Boxes with an empty axis -/

/-- The last index of a box that has cells. -/
def lastIndex (shape : List Nat) : List Nat := shape.map (· - 1)

theorem inBox_lastIndex {shape : List Nat} (positive : ∀ n ∈ shape, 0 < n) :
    InBox shape (lastIndex shape) := by
  induction shape with
  | nil => trivial
  | cons n shape ih =>
      have axis : 0 < n := positive n (List.mem_cons_self ..)
      exact ⟨Nat.sub_one_lt_of_lt axis, ih fun k member => positive k (List.mem_cons_of_mem n member)⟩

theorem Margin.locate_zero (margin : Margin) (i : Nat) :
    margin.locate 0 i =
      if i < margin.before then .ok (0, true) else .error (.fault .emptyAxis) := by
  simp [Margin.locate]

/-- Looking for the nearest cell of an axis can only fail because there is none. -/
theorem Margin.locate_cases (margin : Margin) (n i : Nat) :
    (∃ cell outside, margin.locate n i = .ok (cell, outside)) ∨
      margin.locate n i = .error (.fault .emptyAxis) := by
  rcases Nat.eq_zero_or_pos n with rfl | positive
  · rw [margin.locate_zero]
    split
    · exact .inl ⟨_, _, rfl⟩
    · exact .inr rfl
  · exact .inl ⟨_, _, margin.locate_eq_ok positive i⟩

theorem locate_cases (margins : List Margin) (shape index : List Nat) :
    (∃ cell outside, locate margins shape index = .ok (cell, outside)) ∨
      locate margins shape index = .error (.fault .emptyAxis) := by
  induction shape generalizing margins index with
  | nil => cases margins <;> exact .inl ⟨_, _, rfl⟩
  | cons n shape ih =>
      cases margins with
      | nil => exact .inl ⟨_, _, rfl⟩
      | cons margin margins =>
          cases index with
          | nil => exact .inl ⟨_, _, rfl⟩
          | cons i index =>
              rcases margin.locate_cases n i with ⟨cell, outside, here⟩ | stuck
              · rcases ih margins index with ⟨cells, someOutside, there⟩ | stuck
                · left
                  simp only [locate, here, there]
                  exact ⟨_, _, rfl⟩
                · right
                  simp only [locate, here, stuck]
                  rfl
              · right
                simp only [locate, stuck]
                rfl

/-- Where empty axes have no margin behind them, every index finds a cell, and lies outside if an axis is
empty. -/
theorem locate_of_narrow {margins : List Margin} {shape index : List Nat}
    (ranks : margins.length = shape.length) (inside : InBox (enlarge shape margins) index)
    (narrow : ∀ axis ∈ shape.zip margins, axis.1 = 0 → axis.2.after = 0) :
    ∃ cell outside, locate margins shape index = .ok (cell, outside) ∧
      (0 ∈ shape → outside = true) := by
  induction shape generalizing margins index with
  | nil => cases margins <;> exact ⟨_, _, rfl, fun empty => absurd empty List.not_mem_nil⟩
  | cons n shape ih =>
      cases margins with
      | nil => simp at ranks
      | cons margin margins =>
          cases index with
          | nil => exact absurd inside id
          | cons i index =>
              rw [List.zip_cons_cons, List.forall_mem_cons] at narrow
              obtain ⟨cells, someOutside, there, empty⟩ := ih (by simpa using ranks) inside.2 narrow.2
              rcases Nat.eq_zero_or_pos n with rfl | positive
              · have flat : margin.after = 0 := narrow.1 rfl
                have small : i < 0 + margin.before + margin.after := inside.1
                have before : i < margin.before := by omega
                have here : margin.locate 0 i = .ok (0, true) := by
                  rw [margin.locate_zero, if_pos before]
                refine ⟨0 :: cells, true, ?_, fun _ => rfl⟩
                simp only [locate, here, there]
                rfl
              · have here := margin.locate_eq_ok positive i
                refine ⟨margin.nearest n i :: cells, !margin.covers n i || someOutside, ?_, ?_⟩
                · simp only [locate, here, there]
                  rfl
                · intro member
                  have rest : 0 ∈ shape := by
                    rcases List.mem_cons.mp member with zero | rest
                    · omega
                    · exact rest
                  rw [empty rest, Bool.or_true]

/-- The last cell of the padded box stands behind every axis with a margin after it. -/
theorem locate_lastIndex {margins : List Margin} {shape : List Nat}
    (past : ∃ axis ∈ shape.zip margins, axis.1 = 0 ∧ 0 < axis.2.after) :
    locate margins shape (lastIndex (enlarge shape margins)) = .error (.fault .emptyAxis) := by
  induction shape generalizing margins with
  | nil => simp at past
  | cons n shape ih =>
      cases margins with
      | nil => simp at past
      | cons margin margins =>
          rw [List.zip_cons_cons, List.exists_mem_cons_iff] at past
          change locate (margin :: margins) (n :: shape)
            ((n + margin.before + margin.after - 1) :: lastIndex (enlarge shape margins)) = _
          rcases past with ⟨zero, wide⟩ | rest
          · dsimp only at zero wide
            subst zero
            have behind : ¬ 0 + margin.before + margin.after - 1 < margin.before := by omega
            simp only [locate, margin.locate_zero, if_neg behind]
            rfl
          · rcases margin.locate_cases n (n + margin.before + margin.after - 1) with
              ⟨cell, outside, here⟩ | stuck
            · simp only [locate, here, ih rest]
              rfl
            · simp only [locate, stuck]
              rfl

namespace Tensor

variable {t : Tensor Float} {margins : List Margin} {filling : Filling}

/-- There is nothing to read in a box with an empty axis. -/
theorem read_of_empty (empty : 0 ∈ t.shape) (cell : List Nat) :
    t.read cell = .error (.fault .outOfRange) := by
  rw [read, get?_eq_none (not_inBox_of_empty empty cell)]

section Located

variable {index cell : List Nat} {outside : Bool}

theorem paddedCell_edge (found : locate margins t.shape index = .ok (cell, outside)) :
    t.paddedCell margins .edge index = t.read cell := by
  rw [paddedCell, found]
  rfl

theorem paddedCell_inside (found : locate margins t.shape index = .ok (cell, false)) :
    t.paddedCell margins filling index = t.read cell := by
  rw [paddedCell, found]
  cases filling with
  | edge => rfl
  | constant value => rfl

theorem paddedCell_outside {value : Float} (found : locate margins t.shape index = .ok (cell, true)) :
    t.paddedCell margins (.constant value) index = .ok value := by
  rw [paddedCell, found]
  rfl

end Located

/-- A cell of a padded box that has no value is a fault. -/
theorem exists_fault_of_paddedCell {index : List Nat} {failure : Failure Float}
    (stuck : t.paddedCell margins filling index = .error failure) :
    ∃ fault, failure = .fault fault := by
  have reading : ∀ cell, t.read cell = .error failure → ∃ fault, failure = .fault fault := by
    intro cell unread
    unfold read at unread
    split at unread
    · cases unread
    · cases unread
      exact ⟨_, rfl⟩
  rcases locate_cases margins t.shape index with ⟨cell, outside, found⟩ | missing
  · cases outside with
    | false =>
        rw [paddedCell_inside found] at stuck
        exact reading cell stuck
    | true =>
        cases filling with
        | edge =>
            rw [paddedCell_edge found] at stuck
            exact reading cell stuck
        | constant value =>
            rw [paddedCell_outside found] at stuck
            cases stuck
  · rw [paddedCell, missing] at stuck
    cases stuck
    exact ⟨_, rfl⟩

/-- A box with an empty axis gives no cell of a padded box a value to repeat. -/
theorem exists_failure_of_edge (empty : 0 ∈ t.shape) (index : List Nat) :
    ∃ failure, t.paddedCell margins .edge index = .error failure := by
  rcases locate_cases margins t.shape index with ⟨cell, outside, found⟩ | missing
  · exact ⟨_, (paddedCell_edge found).trans (read_of_empty empty cell)⟩
  · refine ⟨.fault .emptyAxis, ?_⟩
    rw [paddedCell, missing]
    rfl

theorem exists_failure_of_past {value : Float}
    (past : ∃ axis ∈ t.shape.zip margins, axis.1 = 0 ∧ 0 < axis.2.after) :
    ∃ failure, t.paddedCell margins (.constant value) (lastIndex (enlarge t.shape margins)) =
      .error failure := by
  refine ⟨.fault .emptyAxis, ?_⟩
  rw [paddedCell, locate_lastIndex past]
  rfl

/-- If the padded box has cells, a fault ends the padding where values are to be repeated or where an empty
axis has a margin behind it. -/
theorem exists_fault_of_pad (empty : 0 ∈ t.shape) (ranks : margins.length = t.shape.length)
    (fit : SizesFit (enlarge t.shape margins)) (occupied : 0 < cellCount (enlarge t.shape margins))
    (wanted : filling = .edge ∨ ∃ axis ∈ t.shape.zip margins, axis.1 = 0 ∧ 0 < axis.2.after) :
    ∃ fault, t.pad margins filling = .error (.fault fault) := by
  have last := inBox_lastIndex ((cellCount_pos_iff _).mp occupied)
  have stuck : ∃ failure, t.paddedCell margins filling (lastIndex (enlarge t.shape margins)) =
      .error failure := by
    cases filling with
    | edge => exact exists_failure_of_edge empty _
    | constant value => exact exists_failure_of_past (wanted.resolve_left nofun)
  obtain ⟨failure, stuck⟩ := stuck
  rw [pad_eq_ofFnM filling ranks fit (storable_of_pos ((cellCount_pos_iff _).mp occupied))]
  rcases ofFnM_cases (t.paddedCell margins filling) with ⟨_, cells⟩ | ⟨index, other, _, here, stopped⟩
  · obtain ⟨value, computed⟩ := cells _ last
    rw [stuck] at computed
    cases computed
  · obtain ⟨fault, rfl⟩ := exists_fault_of_paddedCell here
    exact ⟨fault, stopped⟩

/-- A padded box without cells asks for no value. -/
theorem pads_of_no_cells {padded : Tensor Float} (filling : Filling)
    (shape : padded.shape = enlarge t.shape margins)
    (unoccupied : cellCount (enlarge t.shape margins) = 0) : t.Pads margins filling padded := by
  have nowhere : ∀ index, ¬ InBox padded.shape index := by
    intro index inside
    rw [shape] at inside
    have low := offset_lt inside
    omega
  exact
    { shape := shape
      edge := fun _ index inside => absurd inside (nowhere index)
      within := fun _ _ index inside => absurd inside (nowhere index)
      beyond := fun _ _ index inside => absurd inside (nowhere index) }

theorem not_onAxes_of_empty {shape : List Nat} {numbers : List Int} (empty : 0 ∈ shape) :
    ¬ OnAxes shape numbers := by
  intro onAxes
  induction onAxes with
  | nil => exact absurd empty List.not_mem_nil
  | cons axis _ ih =>
      rcases List.mem_cons.mp empty with rfl | rest
      · omega
      · exact ih rest

/-- A box with an empty axis is padded where no cell of the padded box asks for one of its values. -/
theorem pads_of_empty (empty : 0 ∈ t.shape) (ranks : margins.length = t.shape.length)
    (fit : SizesFit (enlarge t.shape margins)) (storable : Storable (enlarge t.shape margins))
    (unwanted : ¬ (0 < cellCount (enlarge t.shape margins) ∧
      (filling = .edge ∨ ∃ axis ∈ t.shape.zip margins, axis.1 = 0 ∧ 0 < axis.2.after))) :
    ∃ padded, t.pad margins filling = .ok padded ∧ t.Pads margins filling padded := by
  rw [pad_eq_ofFnM filling ranks fit storable]
  by_cases occupied : 0 < cellCount (enlarge t.shape margins)
  · have free := not_or.mp fun wanted => unwanted ⟨occupied, wanted⟩
    cases filling with
    | edge => exact absurd rfl free.1
    | constant value =>
        have narrow : ∀ axis ∈ t.shape.zip margins, axis.1 = 0 → axis.2.after = 0 :=
          fun axis member zero => Nat.eq_zero_of_not_pos fun wide =>
            free.2 ⟨axis, member, zero, wide⟩
        have filled : ∀ index, InBox (enlarge t.shape margins) index →
            t.paddedCell margins (.constant value) index = .ok value := by
          intro index inside
          obtain ⟨cell, outside, found, beyond⟩ := locate_of_narrow ranks inside narrow
          rw [beyond empty] at found
          exact paddedCell_outside found
        refine ⟨_, ofFnM_eq_ok filled, rfl, nofun, ?_, ?_⟩
        · intro _ _ _ _ onAxes
          exact absurd onAxes (not_onAxes_of_empty empty)
        · intro other same index inside _
          cases same
          exact get?_ofFn _ inside
  · have unoccupied := Nat.eq_zero_of_not_pos occupied
    have uncalled : ∀ index, InBox (enlarge t.shape margins) index →
        t.paddedCell margins filling index = .ok 0.0 := by
      intro index inside
      have low := offset_lt inside
      omega
    exact ⟨_, ofFnM_eq_ok uncalled, pads_of_no_cells filling rfl unoccupied⟩

/-- With one margin per axis and lengths that can be counted, a box without empty axes is padded: in each cell
stands the value of the nearest supplied cell, or, where a constant is filled in, of the cell beneath it and
the constant outside.  A box with an empty axis ends in a fault exactly if the padded box has cells and either
values are to be repeated or an empty axis has a margin behind it, and is padded otherwise.  That is so unless
the padded box has no cells and its other lengths are too large for it to be stored, which is the fault of an
overflow. -/
theorem pad_pointwise (t : Tensor Float) (margins : List Margin) (filling : Filling)
    (ranks : margins.length = t.shape.length) (fit : SizesFit (enlarge t.shape margins)) :
    ((∀ n ∈ t.shape, 0 < n) →
      ∃ padded, t.pad margins filling = .ok padded ∧ t.Pads margins filling padded) ∧
    (Storable (enlarge t.shape margins) → 0 ∈ t.shape →
      ((∃ fault, t.pad margins filling = .error (.fault fault)) ↔
        0 < cellCount (enlarge t.shape margins) ∧
          (filling = .edge ∨ ∃ axis ∈ t.shape.zip margins, axis.1 = 0 ∧ 0 < axis.2.after)) ∧
      ((∃ fault, t.pad margins filling = .error (.fault fault)) ∨
        ∃ padded, t.pad margins filling = .ok padded ∧ t.Pads margins filling padded)) ∧
    (¬ Storable (enlarge t.shape margins) →
      t.pad margins filling = .error (.fault .sizeOverflow)) := by
  refine ⟨fun positive => pad_pads filling positive ranks fit, fun storable empty => ?_,
    fun vast => pad_of_not_storable filling ranks fit vast⟩
  by_cases wanted : 0 < cellCount (enlarge t.shape margins) ∧
      (filling = .edge ∨ ∃ axis ∈ t.shape.zip margins, axis.1 = 0 ∧ 0 < axis.2.after)
  · have stopped := exists_fault_of_pad empty ranks fit wanted.1 wanted.2
    exact ⟨iff_of_true stopped wanted, .inl stopped⟩
  · obtain ⟨padded, done, pads⟩ := pads_of_empty empty ranks fit storable wanted
    have runs : ¬ ∃ fault, t.pad margins filling = .error (.fault fault) := by
      rintro ⟨fault, stopped⟩
      rw [done] at stopped
      cases stopped
    exact ⟨iff_of_false runs wanted, .inr ⟨padded, done, pads⟩⟩

/-- Two rows of two values. -/
def twoRows : Tensor Float := ⟨[2, 2], #v[1.0, 2.0, 3.0, 4.0]⟩

/-- Two columns before two rows repeat the first of each row.  Before an empty axis there is room for a
constant, behind it there is none.  Margins of two to the thirty-second points beside an empty axis are too
large. -/
theorem pad_pointwise_twoRows :
    (([⟨1, 1⟩, ⟨2, 0⟩] : List Margin).length = twoRows.shape.length ∧
      SizesFit (enlarge twoRows.shape [⟨1, 1⟩, ⟨2, 0⟩])) ∧
    (∃ padded, twoRows.pad [⟨1, 1⟩, ⟨2, 0⟩] .edge = .ok padded ∧ padded.shape = [4, 4] ∧
      padded.get? [0, 3] = some 2.0 ∧ padded.get? [3, 0] = some 3.0) ∧
    (∃ padded, (full [0] 1.0).pad [⟨2, 0⟩] (.constant 5.0) = .ok padded ∧
      padded.get? [1] = some 5.0) ∧
    (∃ fault, (full [0] 1.0).pad [⟨2, 1⟩] (.constant 5.0) = .error (.fault fault)) ∧
    (full [0, 1, 1] 1.0).pad [⟨0, 0⟩, ⟨Nat.pow 2 32, 0⟩, ⟨Nat.pow 2 32, 0⟩] .edge =
      .error (.fault .sizeOverflow) := by
  have ranks : ([⟨1, 1⟩, ⟨2, 0⟩] : List Margin).length = twoRows.shape.length := rfl
  have fit : SizesFit (enlarge twoRows.shape [⟨1, 1⟩, ⟨2, 0⟩]) := by decide
  have rows := (pad_pointwise twoRows [⟨1, 1⟩, ⟨2, 0⟩] .edge ranks fit).1 (by decide)
  have before := (pad_pointwise (full [0] 1.0) [⟨2, 0⟩] (.constant 5.0) rfl (by decide)).2.1
    (by decide) (by decide)
  have behind := (pad_pointwise (full [0] 1.0) [⟨2, 1⟩] (.constant 5.0) rfl (by decide)).2.1
    (by decide) (by decide)
  have beside := (pad_pointwise (full [0, 1, 1] 1.0) [⟨0, 0⟩, ⟨Nat.pow 2 32, 0⟩, ⟨Nat.pow 2 32, 0⟩] .edge rfl
    (by decide)).2.2 (by decide)
  refine ⟨⟨ranks, fit⟩, ?_, ?_, behind.1.mpr (by decide), beside⟩
  · obtain ⟨padded, done, pads⟩ := rows
    have corner := pads.edge rfl [0, 3] (by rw [pads.shape]; decide)
    have other := pads.edge rfl [3, 0] (by rw [pads.shape]; decide)
    exact ⟨padded, done, pads.shape, corner.trans (by decide), other.trans (by decide)⟩
  · obtain ⟨padded, done, pads⟩ := before.2.resolve_left (mt before.1.mp (by decide))
    exact ⟨padded, done, pads.beyond 5.0 rfl [1] (by rw [pads.shape]; decide)
      (not_onAxes_of_empty (by decide))⟩

end Tensor

end WaveMedium
