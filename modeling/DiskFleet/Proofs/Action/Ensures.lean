import DiskFleet.Proofs.Action.Along

/-!
# What an action leads to and answers

`Along` relates the state before an action to the state after it. Where a later step depends on what
an earlier one answered, that is not enough: the answer has to be known to be good for something,
and often it is so only because of a condition on the state that it was found in. `Ensures` says all
of this at once, and there is one rule for each way of making an action.

Nothing is said about the failures. The state that a failed action leaves has to meet the condition
just as that after an answer, since the sequence may go on from there.
-/

namespace DiskFleet

namespace Action

variable {σ τ ν α β ι : Type} {inv : σ → Prop} {R : σ → σ → Prop}

/-- From every state with the condition the action leads to a related one that has it too, and what
it answers is good. -/
def Ensures (inv : σ → Prop) (R : σ → σ → Prop) (action : Action σ α) (good : α → Prop) : Prop :=
  ∀ state, inv state → inv (action.run state).2 ∧ R state (action.run state).2 ∧
    ∀ value, (action.run state).1 = .ok value → good value

section preorder

variable [IsPreorder σ R]

/-! ## Steps that change nothing -/

/-- A step that only looks at the state. -/
theorem ensures_of_unchanged {action : Action σ α} {good : α → Prop}
    (hSame : ∀ state, (action.run state).2 = state)
    (hGood : ∀ state, inv state → ∀ value, (action.run state).1 = .ok value → good value) :
    Ensures inv R action good := by
  intro state hState
  rw [hSame]
  exact ⟨hState, refl state, hGood state hState⟩

theorem ensures_pure {value : α} {good : α → Prop} (h : good value) :
    Ensures inv R (pure value : Action σ α) good := by
  refine ensures_of_unchanged (fun _ => rfl) fun state _ other hOther => ?_
  obtain rfl := Except.ok.inj hOther
  exact h

theorem ensures_fail (failure : Failure) {good : α → Prop} :
    Ensures inv R (fail failure : Action σ α) good :=
  ensures_of_unchanged (fun _ => rfl) fun _ _ _ hValue => by cases hValue

theorem ensures_liftM_good {result : Except Failure α} {good : α → Prop}
    (h : ∀ value, result = .ok value → good value) :
    Ensures inv R (liftM result : Action σ α) good :=
  ensures_of_unchanged (fun _ => rfl) fun _ _ => h

theorem ensures_liftM (result : Except Failure α) :
    Ensures inv R (liftM result : Action σ α) fun _ => True :=
  ensures_liftM_good fun _ _ => trivial

theorem ensures_gets_good {f : σ → α} {good : α → Prop} (h : ∀ state, inv state → good (f state)) :
    Ensures inv R (gets f) good := by
  refine ensures_of_unchanged (fun _ => rfl) fun state hState value hValue => ?_
  obtain rfl := Except.ok.inj hValue
  exact h state hState

theorem ensures_gets (f : σ → α) : Ensures inv R (gets f) fun _ => True :=
  ensures_gets_good fun _ _ => trivial

/-! ## Sequences -/

/-- **A sequence**: what comes second may rely on the answer of what comes first. -/
theorem Ensures.bind {first : Action σ α} {next : α → Action σ β} {middle : α → Prop}
    {good : β → Prop} (hFirst : Ensures inv R first middle)
    (hNext : ∀ value, middle value → Ensures inv R (next value) good) :
    Ensures inv R (first >>= next) good := by
  intro state hState
  obtain ⟨hBetween, hLeads, hMiddle⟩ := hFirst state hState
  rcases hRun : first.run state with ⟨failure | value, between⟩
  -- after a failure the sequence ends where that left it
  · rw [hRun] at hBetween hLeads
    rw [run_bind_error hRun]
    exact ⟨hBetween, hLeads, nofun⟩
  · rw [hRun] at hBetween hLeads hMiddle
    obtain ⟨hAfter, hOn, hGood⟩ := hNext value (hMiddle value rfl) between hBetween
    rw [run_bind_ok hRun]
    exact ⟨hAfter, IsTrans.trans _ _ _ hLeads hOn, hGood⟩

/-- Items in turn, also when one of them fails and ends the sequence. -/
theorem ensures_forEach {action : ι → Action σ Unit} :
    ∀ {items : List ι}, (∀ item ∈ items, Ensures inv R (action item) fun _ => True) →
      Ensures inv R (forEach action items) fun _ => True
  | [], _ => ensures_pure trivial
  | _ :: _, h =>
    (h _ List.mem_cons_self).bind fun _ _ =>
      ensures_forEach fun _ hItem => h _ (List.mem_cons_of_mem _ hItem)

end preorder

/-- An attempt answers with a failure, of which nothing is known, or with a good value. -/
theorem Ensures.attempt {action : Action σ α} {good : α → Prop} (h : Ensures inv R action good) :
    Ensures inv R (attempt action) fun result => ∀ value, result = .ok value → good value := by
  intro state hState
  obtain ⟨hAfter, hRelated, hGood⟩ := h state hState
  refine ⟨hAfter, hRelated, fun result hResult => ?_⟩
  obtain rfl := Except.ok.inj hResult
  exact hGood

/-! ## Parts of a state -/

theorem Ensures.within {kept : τ → Prop} {S : τ → τ → Prop} {part : σ → τ} {putBack : τ → σ → σ}
    {action : Action τ α} {good : α → Prop} (h : Ensures kept S action good)
    (hPart : ∀ state, inv state → kept (part state))
    (hBack : ∀ state after, inv state → kept after → S (part state) after →
      inv (putBack after state) ∧ R state (putBack after state)) :
    Ensures inv R (Action.within part putBack action) good := by
  intro state hState
  obtain ⟨hKept, hRelated, hGood⟩ := h (part state) (hPart state hState)
  obtain ⟨hAfter, hLeads⟩ := hBack state _ hState hKept hRelated
  exact ⟨hAfter, hLeads, hGood⟩

/-- The states beside the notes are related. -/
def BesideNotes (R : σ → σ → Prop) (before after : σ × List ν) : Prop := R before.1 after.1

instance [IsPreorder σ R] : IsPreorder (σ × List ν) (BesideNotes R) where
  refl noted := refl (r := R) noted.1
  trans _ _ _ first second := IsTrans.trans (r := R) _ _ _ first second

theorem Ensures.silently {action : Action σ α} {good : α → Prop} (h : Ensures inv R action good) :
    Ensures (fun noted => inv noted.1) (BesideNotes R)
      (silently action : Action (σ × List ν) α) good :=
  fun noted hState => h noted.1 hState

theorem ensures_note [IsPreorder σ R] (item : ν) :
    Ensures (fun noted => inv noted.1) (BesideNotes R)
      (note item : Action (σ × List ν) Unit) fun _ => True :=
  fun noted hState => ⟨hState, refl (r := R) noted.1, fun _ _ => trivial⟩

theorem Ensures.noting {action : Action (σ × List ν) α} {good : α → Prop}
    (h : Ensures (fun noted => inv noted.1) (BesideNotes R) action good) :
    Ensures inv R (noting action) fun _ => True := by
  intro state hState
  obtain ⟨hAfter, hRelated, -⟩ := h (state, []) hState
  exact ⟨hAfter, hRelated, fun _ _ => trivial⟩

end Action

end DiskFleet
