/-
Module: WaveMedium.Change
Purpose: Computations that change a state in place and may fail on the way.
Main exports:
  Change, Change.perform, Change.result
-/
import WaveMedium.Error

namespace WaveMedium

/-- A computation that changes a state in place.  What it has changed before it fails stays
changed. -/
abbrev Change (σ β : Type) := ExceptT (Failure Float) (StateM σ) β

namespace Change

variable {σ β γ : Type}

/-- What a change answers, and the state that it leaves. -/
def perform (change : Change σ β) (state : σ) : Outcome β × σ := Id.run (change.run.run state)

/-- The state after a change that succeeds. -/
def result (change : Change σ β) (state : σ) : Outcome σ :=
  match change.perform state with
  | (.ok _, after) => .ok after
  | (.error failure, _) => .error failure

/-! ### One step at a time -/

@[simp] theorem perform_pure (value : β) (state : σ) :
    (pure value : Change σ β).perform state = (.ok value, state) := rfl

@[simp] theorem perform_throw (failure : Failure Float) (state : σ) :
    (throw failure : Change σ β).perform state = (.error failure, state) := rfl

@[simp] theorem perform_get (state : σ) : (get : Change σ σ).perform state = (.ok state, state) := rfl

@[simp] theorem perform_set (new state : σ) :
    (set new : Change σ PUnit).perform state = (.ok ⟨⟩, new) := rfl

@[simp] theorem perform_modify (f : σ → σ) (state : σ) :
    (modify f : Change σ PUnit).perform state = (.ok ⟨⟩, f state) := rfl

/-- A computation without a state leaves the state as it is. -/
@[simp] theorem perform_lift (outcome : Outcome β) (state : σ) :
    (liftM outcome : Change σ β).perform state = (outcome, state) := rfl

/-- A change after a change that succeeds goes on from the state which that one leaves.  After one that
fails nothing is changed any more. -/
theorem perform_bind (first : Change σ β) (next : β → Change σ γ) (state : σ) :
    (first >>= next).perform state =
      match first.perform state with
      | (.ok value, after) => (next value).perform after
      | (.error failure, after) => (.error failure, after) := by
  unfold perform
  rw [ExceptT.run_bind, StateT.run_bind, Id.run_bind]
  rcases (first.run.run state).run with ⟨answer, after⟩
  cases answer with
  | ok value => rfl
  | error failure => rfl

theorem result_eq_ok {change : Change σ β} {state after : σ} {value : β}
    (done : change.perform state = (.ok value, after)) : change.result state = .ok after := by
  simp [result, done]

theorem result_eq_error {change : Change σ β} {state after : σ} {failure : Failure Float}
    (failed : change.perform state = (.error failure, after)) :
    change.result state = .error failure := by
  simp [result, failed]

end Change

end WaveMedium
