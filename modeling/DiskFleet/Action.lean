import DiskFleet.Failure

/-!
# Steps that can fail half-way

An operation on the engine changes its state step by step and can be refused at any of them. What
earlier steps did then stays done: the nodes have been called, volumes exist. An `Action` therefore
leaves a state behind whether it answers or fails, and an operation that has to undo its first steps
says so with `attempt`, which hands the failure over as a value.

## Main results

* `run_bind`: a sequence stops at the first failure, with the state reached there;
* the laws of a monad, so that nested sequences can be regrouped.
-/

namespace DiskFleet

/-- A step on states `σ`: it answers with a value or a failure and leaves a state behind. -/
def Action (σ α : Type) : Type := σ → Except Failure α × σ

namespace Action

variable {σ τ α β : Type}

/-- What a step does to a state. -/
def run (action : Action σ α) (state : σ) : Except Failure α × σ := action state

/-- The value, without a change. -/
protected def pure (value : α) : Action σ α := fun state => (.ok value, state)

/-- One step after another; a failure ends the sequence. -/
protected def bind (action : Action σ α) (next : α → Action σ β) : Action σ β := fun state =>
  match action state with
  | (.ok value, after) => next value after
  | (.error failure, after) => (.error failure, after)

instance : Monad (Action σ) where
  pure := Action.pure
  bind := Action.bind

/-- The failure, without a change. -/
def fail (failure : Failure) : Action σ α := fun state => (.error failure, state)

/-- A value or failure that was computed without the state. -/
def ofExcept (result : Except Failure α) : Action σ α := fun state => (result, state)

instance : MonadLift (Except Failure) (Action σ) := ⟨ofExcept⟩

/-- The state. -/
def get : Action σ σ := fun state => (.ok state, state)

/-- A part of the state. -/
def gets (f : σ → α) : Action σ α := fun state => (.ok (f state), state)

/-- Replaces the state by a function of it. -/
def modify (f : σ → σ) : Action σ Unit := fun state => (.ok (), f state)

/-- Runs a step and answers with its value or failure; the sequence goes on in the state it left. -/
def attempt (action : Action σ α) : Action σ (Except Failure α) := fun state =>
  match action state with
  | (result, after) => (.ok result, after)

/-- Runs a step on a part of the state, which is then put back. -/
def within (part : σ → τ) (putBack : τ → σ → σ) (action : Action τ α) : Action σ α := fun state =>
  match action (part state) with
  | (result, after) => (result, putBack after state)

/-- Runs a step that takes notes, and answers with its value or failure and with the notes. -/
def noting {ν : Type} (action : Action (σ × List ν) α) : Action σ (Except Failure α × List ν) :=
  fun state =>
    match action (state, []) with
    | (result, (after, notes)) => (.ok (result, notes), after)

/-- Adds a note. -/
def note {ν : Type} (item : ν) : Action (σ × List ν) Unit :=
  modify fun (state, notes) => (state, notes ++ [item])

/-- A step that takes no notes. -/
def silently {ν : Type} (action : Action σ α) : Action (σ × List ν) α :=
  within (·.1) (fun state noted => (state, noted.2)) action

/-- Runs a step for each item in turn, up to the first failure. -/
def forEach (action : α → Action σ Unit) : List α → Action σ Unit
  | [] => pure ()
  | item :: rest => do
    action item
    forEach action rest

/-! ## What each step does to a state -/

@[simp] theorem run_pure (value : α) (state : σ) :
    (pure value : Action σ α).run state = (.ok value, state) := rfl

/-- **A sequence stops at the first failure**, and the state reached there stays. -/
theorem run_bind (action : Action σ α) (next : α → Action σ β) (state : σ) :
    (action >>= next).run state =
      match action.run state with
      | (.ok value, after) => (next value).run after
      | (.error failure, after) => (.error failure, after) := rfl

@[simp] theorem run_fail (failure : Failure) (state : σ) :
    (fail failure : Action σ α).run state = (.error failure, state) := rfl

@[simp] theorem run_liftM (result : Except Failure α) (state : σ) :
    (liftM result : Action σ α).run state = (result, state) := rfl

@[simp] theorem run_get (state : σ) : (get : Action σ σ).run state = (.ok state, state) := rfl

@[simp] theorem run_gets (f : σ → α) (state : σ) :
    (gets f : Action σ α).run state = (.ok (f state), state) := rfl

@[simp] theorem run_modify (f : σ → σ) (state : σ) :
    (modify f).run state = (.ok (), f state) := rfl

@[simp] theorem run_attempt (action : Action σ α) (state : σ) :
    (attempt action).run state = (.ok (action.run state).1, (action.run state).2) := rfl

@[simp] theorem run_within (part : σ → τ) (putBack : τ → σ → σ) (action : Action τ α) (state : σ) :
    (within part putBack action).run state =
      ((action.run (part state)).1, putBack (action.run (part state)).2 state) := rfl

@[simp] theorem run_silently {ν : Type} (action : Action σ α) (state : σ) (notes : List ν) :
    (silently action).run (state, notes) =
      ((action.run state).1, ((action.run state).2, notes)) := rfl

@[simp] theorem run_note {ν : Type} (item : ν) (state : σ) (notes : List ν) :
    (note item).run (state, notes) = (.ok (), (state, notes ++ [item])) := rfl

@[simp] theorem run_noting {ν : Type} (action : Action (σ × List ν) α) (state : σ) :
    (noting action).run state =
      (.ok ((action.run (state, [])).1, (action.run (state, [])).2.2),
        (action.run (state, [])).2.1) := rfl

/-- A sequence that begins with a success goes on from there. -/
theorem run_bind_ok {action : Action σ α} {next : α → Action σ β} {state after : σ} {value : α}
    (h : action.run state = (.ok value, after)) :
    (action >>= next).run state = (next value).run after := by
  rw [run_bind, h]

/-- A sequence that begins with a failure ends there. -/
theorem run_bind_error {action : Action σ α} {next : α → Action σ β} {state after : σ}
    {failure : Failure} (h : action.run state = (.error failure, after)) :
    (action >>= next).run state = (.error failure, after) := by
  rw [run_bind, h]

/-- A failure at the end leaves the state to what came before it. -/
theorem snd_run_bind_fail (action : Action σ α) (failure : Failure) (state : σ) :
    ((action >>= fun _ => (fail failure : Action σ β)).run state).2 = (action.run state).2 := by
  rw [run_bind]
  rcases action.run state with ⟨_ | _, _⟩ <;> rfl

/-- A sequence that answers has gone through both of its parts. -/
theorem run_bind_eq_ok_iff {action : Action σ α} {next : α → Action σ β} {state after : σ}
    {value : β} :
    (action >>= next).run state = (.ok value, after) ↔
      ∃ middle between, action.run state = (.ok middle, between) ∧
        (next middle).run between = (.ok value, after) := by
  rw [run_bind]
  rcases action.run state with ⟨failure | middle, between⟩
  · simp
  · constructor
    · intro h
      exact ⟨middle, between, rfl, h⟩
    · rintro ⟨_, _, heq, h⟩
      cases heq
      exact h

/-- A sequence that fails has failed in one of its parts. -/
theorem run_bind_eq_error_iff {action : Action σ α} {next : α → Action σ β} {state after : σ}
    {failure : Failure} :
    (action >>= next).run state = (.error failure, after) ↔
      action.run state = (.error failure, after) ∨
        ∃ middle between, action.run state = (.ok middle, between) ∧
          (next middle).run between = (.error failure, after) := by
  rw [run_bind]
  rcases action.run state with ⟨refusal | middle, between⟩
  · simp
  · constructor
    · intro h
      exact .inr ⟨middle, between, rfl, h⟩
    · rintro (h | ⟨_, _, heq, h⟩)
      · cases h
      · cases heq
        exact h

/-- A computed value comes through a sequence of two computations. -/
theorem bind_eq_ok_iff {first : Except Failure α} {next : α → Except Failure β} {value : β} :
    (first >>= next) = .ok value ↔ ∃ middle, first = .ok middle ∧ next middle = .ok value := by
  cases first with
  | error failure => simp [Bind.bind, Except.bind]
  | ok middle => simp [Bind.bind, Except.bind]

theorem map_eq_ok_iff {first : Except Failure α} {f : α → β} {value : β} :
    first.map f = .ok value ↔ ∃ middle, first = .ok middle ∧ f middle = value := by
  cases first <;> simp [Except.map]

/-- Two steps that do the same to every state are the same. -/
theorem ext_run {first second : Action σ α} (h : ∀ state, first.run state = second.run state) :
    first = second :=
  funext h

instance : LawfulMonad (Action σ) :=
  LawfulMonad.mk' (Action σ)
    (fun action => ext_run fun state => by
      show (match action.run state with
        | (.ok value, after) => (.ok value, after)
        | (.error failure, after) => (.error failure, after)) = action.run state
      rcases action.run state with ⟨_ | _, _⟩ <;> rfl)
    (fun _ _ => rfl)
    (fun action next last => ext_run fun state => by
      simp only [run_bind]
      rcases action.run state with ⟨_ | _, _⟩ <;> rfl)

/-- The items of two lists in turn. -/
theorem forEach_append (action : α → Action σ Unit) (first second : List α) :
    forEach action (first ++ second) = forEach action first >>= fun _ => forEach action second := by
  induction first with
  | nil => rfl
  | cons item rest ih => simp only [List.cons_append, forEach, ih, bind_assoc]

end Action

end DiskFleet
