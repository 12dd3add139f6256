import Testbed.Error

/-!
# Actions

This file supplies actions, which change a state of the surroundings and give a
result or a failure.  A failure does not undo the changes made before it.
-/

namespace Testbed

/-- An operation on surroundings of type `σ` that can fail. -/
abbrev Action (σ α : Type) :=
  ExceptT Error (StateM σ) α

namespace Action

/-- Perform an action: its result, and the surroundings after it. -/
def perform {σ α : Type} (action : Action σ α) (state : σ) : Result α × σ :=
  action.run state

/-- The action of a function on the surroundings. -/
def ofFunction {σ α : Type} (act : σ → Result α × σ) : Action σ α :=
  ExceptT.mk act

/-- Change the surroundings. -/
def change {σ : Type} (act : σ → σ) : Action σ Unit :=
  ofFunction fun state => (.ok (), act state)

/-- Look at the surroundings. -/
def observe {σ α : Type} (look : σ → α) : Action σ α :=
  ofFunction fun state => (.ok (look state), state)

/-- Perform an action and give its result, even if it is a failure. -/
def attempt {σ α : Type} (action : Action σ α) : Action σ (Result α) :=
  ofFunction fun state =>
    let (result, state) := action.perform state
    (.ok result, state)

/-- The action that gives a result and changes nothing. -/
def give {σ α : Type} (result : Result α) : Action σ α :=
  ofFunction fun state => (result, state)

/-- Replace the failures of an action. -/
def mapFailure {σ α : Type} (replace : Error → Error) (action : Action σ α) :
    Action σ α :=
  ofFunction fun state =>
    let (result, state) := action.perform state
    (result.mapError replace, state)

@[simp]
theorem perform_ofFunction {σ α : Type} (act : σ → Result α × σ) (state : σ) :
    (ofFunction act).perform state = act state :=
  rfl

theorem perform_give {σ α : Type} (result : Result α) (state : σ) :
    (give result).perform state = (result, state) :=
  rfl

/-- What follows an action is performed where the action has left the surroundings, unless
the action fails. -/
theorem perform_bind {σ α β : Type} (action : Action σ α) (next : α → Action σ β) (state : σ) :
    (action >>= next).perform state =
      match action.perform state with
      | (.ok value, state) => (next value).perform state
      | (.error error, state) => (.error error, state) := by
  change (match action.run state with
    | (result, state) => ExceptT.bindCont next result state) = _
  rw [perform]
  rcases action.run state with ⟨_ | _, _⟩ <;> rfl

end Action

/-- Surroundings in which time passes. -/
class Timed (σ : Type) where
  now : σ → Span
  /-- Let at least a span of time pass. -/
  pause : Span → σ → σ

end Testbed
