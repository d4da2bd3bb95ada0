import DiskFleet.Action
import Mathlib.Order.Defs.Unbundled

/-!
# Where an action can lead

A statement about every run of an action has the form "the state before and the state after are
related", whatever the action answered. `Along R action` says so. For a relation that is reflexive
and transitive it follows from the same statement about the steps that an action is made of: this
module has one lemma for each way of making one.

A step often matters only for what was found out before it. `rel_run_bind` and `along_bind_of`
therefore hand the answer of the first action on together with the run that gave it.

`Keeping P` is the relation for an invariant: `Along (Keeping P) action` says that `action` keeps
`P`, also when it fails.
-/

namespace DiskFleet

/-- The states that an invariant leads to from one it holds in. -/
def Keeping {σ : Type} (P : σ → Prop) (before after : σ) : Prop := P before → P after

instance {σ : Type} (P : σ → Prop) : IsPreorder σ (Keeping P) where
  refl _ h := h
  trans _ _ _ first second h := second (first h)

namespace Action

variable {σ τ ν α β : Type} {R : σ → σ → Prop}

/-- Every run of the action leads from a state to one that is related to it. -/
def Along (R : σ → σ → Prop) (action : Action σ α) : Prop :=
  ∀ state, R state (action.run state).2

section preorder

variable [IsPreorder σ R]

/-! ## Steps that change nothing -/

theorem along_pure (value : α) : Along R (pure value : Action σ α) := by
  intro state
  exact refl state

theorem along_fail (failure : Failure) : Along R (fail failure : Action σ α) := by
  intro state
  exact refl state

theorem along_liftM (result : Except Failure α) : Along R (liftM result : Action σ α) := by
  intro state
  exact refl state

theorem along_gets (f : σ → α) : Along R (gets f) := by
  intro state
  exact refl state

/-! ## Sequences -/

/-- A sequence from one state; the second action is judged in the run that the first one ended
in. -/
theorem rel_run_bind {first : Action σ α} {next : α → Action σ β} {state : σ}
    (hFirst : R state (first.run state).2)
    (hNext : ∀ value after, first.run state = (.ok value, after) →
      R after ((next value).run after).2) : R state ((first >>= next).run state).2 := by
  rcases hRun : first.run state with ⟨failure | value, after⟩
  · rw [run_bind_error hRun]
    rwa [hRun] at hFirst
  · rw [run_bind_ok hRun]
    rw [hRun] at hFirst
    exact IsTrans.trans _ _ _ hFirst (hNext value after hRun)

theorem along_bind_of {first : Action σ α} {next : α → Action σ β} (hFirst : Along R first)
    (hNext : ∀ state value after, first.run state = (.ok value, after) →
      R after ((next value).run after).2) : Along R (first >>= next) :=
  fun state => rel_run_bind (hFirst state) (hNext state)

theorem along_bind {first : Action σ α} {next : α → Action σ β} (hFirst : Along R first)
    (hNext : ∀ value, Along R (next value)) : Along R (first >>= next) :=
  along_bind_of hFirst fun _ value after _ => hNext value after

/-- Items in turn, also when one of them fails and ends the sequence. -/
theorem along_forEach {action : α → Action σ Unit} :
    ∀ {items : List α}, (∀ item ∈ items, Along R (action item)) → Along R (forEach action items)
  | [], _ => along_pure ()
  | _ :: _, h =>
    along_bind (h _ List.mem_cons_self) fun _ =>
      along_forEach fun _ hItem => h _ (List.mem_cons_of_mem _ hItem)

end preorder

/-- A sequence that begins with a part of the state. -/
theorem along_gets_bind {f : σ → α} {next : α → Action σ β}
    (hNext : ∀ state, R state ((next (f state)).run state).2) : Along R (gets f >>= next) :=
  fun state => hNext state

theorem along_attempt {action : Action σ α} (h : Along R action) : Along R (attempt action) :=
  fun state => h state

/-! ## Parts of a state -/

theorem along_within {S : τ → τ → Prop} {part : σ → τ} {putBack : τ → σ → σ} {action : Action τ α}
    (h : Along S action)
    (hPart : ∀ state after, S (part state) after → R state (putBack after state)) :
    Along R (within part putBack action) :=
  fun state => hPart state _ (h (part state))

/-- Notes are not part of what `R` is about. -/
theorem along_noting {action : Action (σ × List ν) α}
    (h : Along (fun before after => R before.1 after.1) action) : Along R (noting action) :=
  fun state => h (state, [])

theorem along_silently {action : Action σ α} (h : Along R action) :
    Along (fun before after => R before.1 after.1)
      (silently action : Action (σ × List ν) α) :=
  along_within h fun _ _ hState => hState

theorem along_note [IsPreorder σ R] (item : ν) :
    Along (fun before after => R before.1 after.1) (note item : Action (σ × List ν) Unit) :=
  fun state => refl state.1

/-- The same of a run that is known. -/
theorem Along.of_run {action : Action σ α} {state after : σ} {result : Except Failure α}
    (h : Along R action) (hRun : action.run state = (result, after)) : R state after := by
  have hAfter : R state (action.run state).2 := h state
  rwa [hRun] at hAfter

/-- A weaker relation is led along too. -/
theorem Along.mono {S : σ → σ → Prop} {action : Action σ α} (h : Along R action)
    (hWeaker : ∀ before after, R before after → S before after) : Along S action :=
  fun state => hWeaker _ _ (h state)

end Action

end DiskFleet
