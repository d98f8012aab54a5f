/-
Module: WaveMedium.Proofs.Writing
Purpose: After any writes a cell of a field has the value that the last of them put there which succeeded.
Main exports:
  Region.contains, cover_windows, Write, Write.perform_change, writeAll, lastPut?, last_write_decides
-/
import WaveMedium.Proofs.Geometry

namespace WaveMedium

open Change

/-! ### Regions -/

/-- Whether an index lies in the spans of a region.  Spans beyond its last coordinate do not count. -/
def Region.contains (region : Region) (index : List Nat) : Bool :=
  (List.zipWith (fun span i => decide (span.start ≤ i ∧ i < span.stop)) region.spans index).all id

/-- No bound of the span counts back from the end of an axis. -/
def Span.Nonnegative (span : Span) : Prop := 2 * span.start < sizeLimit ∧ 2 * span.stop < sizeLimit

instance (span : Span) : Decidable span.Nonnegative := inferInstanceAs (Decidable (_ ∧ _))

theorem Span.bound_eq_ok {length value place : Nat} (nonnegative : 2 * value < sizeLimit)
    (bound : Span.bound length value = .ok place) : place = value := by
  unfold Span.bound at bound
  split at bound
  · exact (Except.ok.inj bound).symm
  · split at bound
    · rename_i negative
      exact absurd nonnegative (Nat.not_lt.mpr negative.1)
    · cases bound

theorem Span.window_eq_ok {span : Span} {length : Nat} {window : Window}
    (nonnegative : span.Nonnegative) (chosen : span.window length = .ok window) :
    window = ⟨span.start, span.stop - span.start⟩ := by
  obtain ⟨start, first, chosen⟩ := exists_of_bind_eq_ok chosen
  obtain ⟨stop, second, chosen⟩ := exists_of_bind_eq_ok chosen
  cases chosen
  rw [bound_eq_ok nonnegative.1 first, bound_eq_ok nonnegative.2 second]

/-- The windows of a region cover what lies in its spans. -/
theorem cover_windows {spans : List Span} {shape index : List Nat} {chosen : List Window}
    (selected : windows spans shape = .ok chosen)
    (nonnegative : ∀ span ∈ spans.take shape.length, span.Nonnegative)
    (inside : InBox shape index) : Window.cover chosen index = Region.contains ⟨spans⟩ index := by
  induction shape generalizing spans index chosen with
  | nil =>
      cases index with
      | nil => simp [Window.cover, Region.contains]
      | cons i index => exact absurd inside id
  | cons n shape ih =>
      cases index with
      | nil => exact absurd inside id
      | cons i index =>
          cases spans with
          | nil => cases selected
          | cons span spans =>
              obtain ⟨window, first, selected⟩ := exists_of_bind_eq_ok selected
              obtain ⟨others, rest, selected⟩ := exists_of_bind_eq_ok selected
              cases selected
              rw [List.length_cons, List.take_succ_cons, List.forall_mem_cons] at nonnegative
              have axis : (span.start ≤ i ∧ i < span.start + (span.stop - span.start)) ↔
                  (span.start ≤ i ∧ i < span.stop) := by omega
              have others := ih rest nonnegative.2 inside.2
              unfold Window.cover Region.contains at others ⊢
              rw [List.zipWith_cons_cons, List.zipWith_cons_cons, List.all_cons, List.all_cons,
                others, Span.window_eq_ok nonnegative.1 first]
              simp only [axis]

/-! ### One write -/

/-- Replace the state by another one, unless there is none. -/
def Change.replace {σ : Type} (next : σ → Outcome σ) : Change σ Unit := do
  let state ← get
  set (← next state)

theorem Change.perform_replace {σ : Type} (next : σ → Outcome σ) (state : σ) :
    (∃ after, (replace next).perform state = (.ok (), after) ∧ next state = .ok after) ∨
      ∃ failure, (replace next).perform state = (.error failure, state) := by
  cases found : next state with
  | ok after =>
      refine .inl ⟨after, ?_, rfl⟩
      simp only [replace, perform_bind, perform_get, perform_lift, found, perform_set]
  | error failure =>
      refine .inr ⟨failure, ?_⟩
      simp only [replace, perform_bind, perform_get, perform_lift, found]

/-- A write into the storage of a field. -/
inductive Write where
  /-- Fill all cells from values of the physical region. -/
  | extend (values : Tensor Float) (layer : Nat) (filling : Filling)
  /-- Overwrite one cell. -/
  | cell (index : List Nat) (value : Float)
  /-- Overwrite the cells of a region. -/
  | box (region : Region) (value : Float)

namespace Write

/-- Carry out a write. -/
def change : Write → Change StoredField Unit
  | .extend values layer filling => StoredField.extend values layer filling
  | .cell index value => Change.replace fun field => field.set index value
  | .box region value => Change.replace fun field => field.fill region value

/-- The value that a write puts into a cell of a field, if it succeeds and covers the cell. -/
def puts? (field : StoredField) (index : List Nat) : Write → Option Float
  | .extend values layer filling =>
      some (field.precision.cast (values.paddedValue (field.margins layer) filling index))
  | .cell target value => if index = target then some value else none
  | .box region value => if region.contains index then some value else none

/-- No bound of a region that is written counts back from the end of an axis. -/
def Nonnegative (rank : Nat) : Write → Prop
  | .extend .. => True
  | .cell .. => True
  | .box region _ => ∀ span ∈ region.spans.take rank, span.Nonnegative

instance (rank : Nat) : (write : Write) → Decidable (write.Nonnegative rank)
  | .extend .. => isTrue trivial
  | .cell .. => isTrue trivial
  | .box region _ => inferInstanceAs (Decidable (∀ span ∈ region.spans.take rank, span.Nonnegative))

/-- What a write puts into a cell depends on the frame of the field alone. -/
theorem puts?_congr {a b : StoredField} (frame : a.SameFrame b) (index : List Nat) (write : Write) :
    write.puts? a index = write.puts? b index := by
  cases write with
  | extend values layer filling => simp only [puts?, StoredField.margins, frame.halo, frame.precision]
  | cell target value => rfl
  | box region value => rfl

/-- A write has taken place: the frame is as it was, the cells that the write covers have what it puts
there, and the others have what they had. -/
structure Done (write : Write) (before after : StoredField) : Prop where
  frame : after.SameFrame before
  cells : write.Nonnegative before.storage.shape.length → ∀ index, InBox before.storage.shape index →
    after.storage.get? index = (write.puts? before index).or (before.storage.get? index)

theorem done_extend (field : StoredField) (values : Tensor Float) (layer : Nat) (filling : Filling) :
    Done (.extend values layer filling) field (field.extended values layer filling) where
  frame := field.sameFrame_extended values layer filling
  cells := by
    intro _ index inside
    rw [puts?, Option.some_or]
    change (field.extendedStorage values layer filling).get? index = _
    rw [StoredField.extendedStorage, Tensor.get?_map, Tensor.get?_ofFn _ inside]
    rfl

theorem done_cell {field after : StoredField} {target : List Nat} {value : Float}
    (written : field.set target value = .ok after) : Done (.cell target value) field after := by
  unfold StoredField.set at written
  split at written
  · rename_i within
    cases written
    refine ⟨⟨rfl, rfl, rfl, rfl, Tensor.shape_set ..⟩, fun _ index inside => ?_⟩
    rw [StoredField.storage_withStorage, Tensor.get?_set within value inside, puts?]
    split <;> rfl
  · cases written

theorem done_box {field after : StoredField} {region : Region} {value : Float}
    (written : field.fill region value = .ok after) : Done (.box region value) field after := by
  obtain ⟨chosen, selected, written⟩ := exists_of_bind_eq_ok written
  cases written
  refine ⟨⟨rfl, rfl, rfl, rfl, Tensor.shape_fill ..⟩, fun nonnegative index inside => ?_⟩
  rw [StoredField.storage_withStorage, Tensor.fill, Tensor.get?_mapIdx,
    cover_windows selected nonnegative inside, puts?, Tensor.get?_eq_getD inside 0.0]
  split <;> rfl

/-- A write takes place or fails, and if it fails it leaves the field as it was. -/
theorem perform_change {field : StoredField}
    (halos : field.halo.length = field.storage.shape.length) (write : Write) :
    (∃ after, write.change.perform field = (.ok (), after) ∧ write.Done field after) ∨
      ∃ failure, write.change.perform field = (.error failure, field) := by
  cases write with
  | extend values layer filling =>
      rcases StoredField.perform_extend_cases values layer filling halos with written | refused
      · exact .inl ⟨_, written, done_extend field values layer filling⟩
      · exact .inr refused
  | cell index value =>
      rcases Change.perform_replace (fun field => field.set index value) field with
        ⟨after, done, written⟩ | refused
      · exact .inl ⟨after, done, done_cell written⟩
      · exact .inr refused
  | box region value =>
      rcases Change.perform_replace (fun field => field.fill region value) field with
        ⟨after, done, written⟩ | refused
      · exact .inl ⟨after, done, done_box written⟩
      · exact .inr refused

end Write

/-! ### Many writes -/

/-- Carry out one write after the other.  Each goes on from the field that the one before it left, whether
that one succeeded or not. -/
def writeAll : List Write → StoredField → List (Outcome Unit) × StoredField
  | [], field => ([], field)
  | write :: writes, field =>
      let (answer, after) := write.change.perform field
      let (answers, final) := writeAll writes after
      (answer :: answers, final)

/-- What the last write put into a cell that succeeded and covers it. -/
def lastPut? (field : StoredField) (index : List Nat) (writes : List Write)
    (answers : List (Outcome Unit)) : Option Float :=
  ((writes.zip answers).filterMap fun (write, answer) =>
    if answer.toBool then write.puts? field index else none).getLast?

section Cells

variable {field : StoredField} {index : List Nat} {writes : List Write} {answers : List (Outcome Unit)}

theorem lastPut?_cons_ok (write : Write) :
    lastPut? field index (write :: writes) (.ok () :: answers) =
      (lastPut? field index writes answers).or (write.puts? field index) := by
  unfold lastPut?
  rw [List.zip_cons_cons, List.filterMap_cons]
  cases put : write.puts? field index with
  | none => simp [put, Except.toBool]
  | some value =>
      simp only [Except.toBool, if_true, put, List.getLast?_cons]
      cases (List.filterMap _ (writes.zip answers)).getLast? <;> rfl

theorem lastPut?_cons_error (write : Write) (failure : Failure Float) :
    lastPut? field index (write :: writes) (.error failure :: answers) =
      lastPut? field index writes answers := by
  simp [lastPut?, Except.toBool]

theorem lastPut?_congr {other : StoredField} (frame : field.SameFrame other) :
    lastPut? field index writes answers = lastPut? other index writes answers := by
  simp only [lastPut?, Write.puts?_congr frame]

end Cells

theorem StoredField.SameFrame.length_halo {a b : StoredField} (frame : a.SameFrame b)
    (halos : b.halo.length = b.storage.shape.length) : a.halo.length = a.storage.shape.length := by
  rw [frame.halo, frame.stored, halos]

theorem sameFrame_writeAll {field : StoredField}
    (halos : field.halo.length = field.storage.shape.length) (writes : List Write) :
    (writeAll writes field).2.SameFrame field := by
  induction writes generalizing field with
  | nil => exact ⟨rfl, rfl, rfl, rfl, rfl⟩
  | cons write writes ih =>
      rcases write.perform_change halos with ⟨after, written, done⟩ | ⟨failure, refused⟩
      · simp only [writeAll, written]
        exact (ih (done.frame.length_halo halos)).trans done.frame
      · simp only [writeAll, refused]
        exact ih halos

/-- Where no successful write covers a cell, it has what it had at first. -/
theorem get?_writeAll {field : StoredField}
    (halos : field.halo.length = field.storage.shape.length) {writes : List Write}
    (nonnegative : ∀ write ∈ writes, write.Nonnegative field.storage.shape.length)
    {index : List Nat} (inside : InBox field.storage.shape index) :
    (writeAll writes field).2.storage.get? index =
      (lastPut? field index writes (writeAll writes field).1).or (field.storage.get? index) := by
  induction writes generalizing field with
  | nil => rfl
  | cons write writes ih =>
      rw [List.forall_mem_cons] at nonnegative
      rcases write.perform_change halos with ⟨after, written, done⟩ | ⟨failure, refused⟩
      · simp only [writeAll, written]
        -- The writes that are left go on from a field of the same frame.
        have later := ih (done.frame.length_halo halos) (done.frame.stored ▸ nonnegative.2)
          (done.frame.stored ▸ inside)
        rw [later, done.cells nonnegative.1 index inside, lastPut?_congr done.frame,
          lastPut?_cons_ok, Option.or_assoc]
      · simp only [writeAll, refused]
        rw [ih halos nonnegative.2 inside, lastPut?_cons_error]

/-! ### New fields -/

/-- A field that has just been made, with a halo for every axis of its grid. -/
def StoredField.IsNew (field : StoredField) : Prop :=
  ∃ name grid, (∃ order, ofOrder name grid order = .ok field) ∨
    ∃ halo, halo.length = grid.rank ∧ zeros name grid halo = .ok field

namespace StoredField

theorem storage_of_zeros {name : String} {grid : Grid Float} {halo : List Margin} {field : StoredField}
    (zeroed : zeros name grid halo = .ok field) :
    field.storage = Tensor.full (enlarge grid.shape halo) 0.0 := by
  unfold zeros at zeroed
  split at zeroed
  · cases zeroed
    rfl
  · cases zeroed

/-- With a halo for every axis of the grid there is one for every axis of the storage, whose cells are all
zero. -/
theorem blank_of_zeros {name : String} {grid : Grid Float} {halo : List Margin} {field : StoredField}
    (ranks : halo.length = grid.rank) (zeroed : zeros name grid halo = .ok field) :
    field.halo.length = field.storage.shape.length ∧
      ∀ index, InBox field.storage.shape index → field.storage.get? index = some 0.0 := by
  obtain ⟨_, halos, _, stored⟩ := of_zeros zeroed
  have storage := storage_of_zeros zeroed
  refine ⟨?_, fun index inside => ?_⟩
  · simp only [halos, stored, enlarge, List.length_zipWith, ranks, Grid.rank, Nat.min_self]
  · rw [storage] at inside ⊢
    exact Tensor.get?_full 0.0 inside

theorem IsNew.blank {field : StoredField} (fresh : field.IsNew) :
    field.halo.length = field.storage.shape.length ∧
      ∀ index, InBox field.storage.shape index → field.storage.get? index = some 0.0 := by
  obtain ⟨name, grid, ⟨order, made⟩ | ⟨halo, ranks, zeroed⟩⟩ := fresh
  · obtain ⟨blank, zeroed, made⟩ := exists_of_bind_eq_ok made
    cases made
    have ranks : (evenHalo grid order).length = grid.rank := List.length_replicate
    -- The order that is set afterwards changes neither the halo nor the storage.
    exact (blank_of_zeros ranks zeroed :)
  · exact blank_of_zeros ranks zeroed

end StoredField

/-- Whatever is written into a new field, its frame stays, and a cell has what the last write put there
that succeeded and covers it, or zero if there is none.  A write that fails leaves the field as it was.  No
bound of a region may count back from the end of an axis. -/
theorem last_write_decides {field : StoredField} (fresh : field.IsNew) (writes : List Write)
    (nonnegative : ∀ write ∈ writes, write.Nonnegative field.storage.shape.length) :
    (writeAll writes field).2.SameFrame field ∧
      (∀ index, InBox field.storage.shape index →
        (writeAll writes field).2.storage.get? index =
          some ((lastPut? field index writes (writeAll writes field).1).getD 0.0)) ∧
      ∀ (write : Write) failure after,
        write.change.perform (writeAll writes field).2 = (.error failure, after) →
          after = (writeAll writes field).2 := by
  obtain ⟨halos, zero⟩ := fresh.blank
  have frame := sameFrame_writeAll halos writes
  refine ⟨frame, fun index inside => ?_, fun write failure after failed => ?_⟩
  · rw [get?_writeAll halos nonnegative inside, zero index inside]
    cases lastPut? field index writes (writeAll writes field).1 <;> rfl
  · rcases write.perform_change (frame.length_halo halos) with ⟨_, written, _⟩ | ⟨_, refused⟩
    · rw [written] at failed
      cases failed
    · rw [refused] at failed
      cases failed
      rfl

/-- The padded grid of the lopsided field. -/
def lopsidedGrid : Grid Float where
  shape := [4, 3]
  extent := [3.0, 2.0]
  origin := [0.0, 0.0]
  spacing := [1.0, 1.0]
  precision := .single
  interior := ⟨[⟨1, 3⟩, ⟨1, 2⟩]⟩

/-- Writes that overlap.  The third lies outside the storage, the fifth asks for rows that are not there,
and the last has too many values. -/
def overlappingWrites : List Write :=
  [.extend (Tensor.full [2, 1] 0.5) 1 (.constant 9.0), .box ⟨[⟨1, 4⟩, ⟨0, 2⟩, ⟨8, 9⟩]⟩ 5.0,
    .cell [7, 0] 3.0, .cell [2, 1] 7.0, .box ⟨[⟨0, 8⟩, ⟨0, 1⟩]⟩ 3.0,
    .extend (Tensor.full [3, 1] 0.5) 1 .edge]

theorem last_write_decides_overlapping :
    StoredField.lopsidedField.IsNew ∧
      (writeAll overlappingWrites StoredField.lopsidedField).1.map Except.toBool =
        [true, true, false, true, false, false] ∧
      (writeAll overlappingWrites StoredField.lopsidedField).2.storage.get? [2, 1] = some 7.0 ∧
      (writeAll overlappingWrites StoredField.lopsidedField).2.storage.get? [1, 0] = some 5.0 ∧
      (writeAll overlappingWrites StoredField.lopsidedField).2.storage.get? [6, 5] = some 9.0 := by
  have fresh : StoredField.lopsidedField.IsNew :=
    ⟨"vp", lopsidedGrid, .inr ⟨[⟨1, 2⟩, ⟨0, 3⟩], rfl, rfl⟩⟩
  have nonnegative : ∀ write ∈ overlappingWrites,
      write.Nonnegative StoredField.lopsidedField.storage.shape.length := by decide
  obtain ⟨_, cells, _⟩ := last_write_decides fresh overlappingWrites nonnegative
  refine ⟨fresh, by decide +kernel, ?_, ?_, ?_⟩
  · rw [cells [2, 1] (by decide)]
    decide +kernel
  · rw [cells [1, 0] (by decide)]
    decide +kernel
  · rw [cells [6, 5] (by decide)]
    decide +kernel

/-- A field of five zeros on a line. -/
def stripField : StoredField where
  name := "f"
  halo := [⟨0, 0⟩]
  spaceOrder := 0
  precision := .double
  storage := Tensor.full (enlarge [5] [⟨0, 0⟩]) 0.0
  haloFits := marginsFit_enlarge _ _
  sizesFit := by decide

/-- The padded grid of the strip. -/
def stripGrid : Grid Float where
  shape := [5]
  extent := [40.0]
  origin := [0.0]
  spacing := [10.0]
  precision := .double
  interior := ⟨[⟨1, 4⟩]⟩

/-- A write from the largest size, which is the number minus one, to the end of the strip. -/
def backwardFill : Write := .box ⟨[⟨18446744073709551615, 5⟩]⟩ 1.0

/-- No cell of the strip lies in such a span, but the last one is overwritten. -/
theorem not_last_write_decides_backwards :
    ¬ ∀ (field : StoredField), field.IsNew → ∀ (writes : List Write) (index : List Nat),
      InBox field.storage.shape index →
        (writeAll writes field).2.storage.get? index =
          some ((lastPut? field index writes (writeAll writes field).1).getD 0.0) := by
  intro always
  have fresh : stripField.IsNew := ⟨"f", stripGrid, .inl ⟨0, rfl⟩⟩
  have decided := always stripField fresh [backwardFill] [4] (by decide)
  have written : (writeAll [backwardFill] stripField).2.storage.get? [4] = some 1.0 := by
    decide
  have uncovered : lastPut? stripField [4] [backwardFill] (writeAll [backwardFill] stripField).1 =
      none := by decide
  rw [written, uncovered] at decided
  exact absurd decided (by decide)

end WaveMedium
