import DiskFleet.Proofs.Resource.Bindings

/-!
# Making storage and giving it back

What a failed operation has allocated it releases again. That works as long as the resource is
`Anchored` and the agents accept the release, whatever else they refuse: `Agent.Frees`. This module
says what `allocate` and `release` then answer and leave behind.

## Main results

* `run_release_of_held`: storage is released through the first bound node;
* `run_release_of_anchored`: an anchored resource can be released;
* `run_allocate_cases`: an allocation that fails leaves the resource as it was, and one that
  succeeds leaves it allocated;
* `of_run_allocate`: the call that an allocation makes.
-/

namespace DiskFleet

variable {σ : Type} {agent : Agent σ}

/-- The agents accept every call that releases a resource. Any other call they may refuse. -/
def Agent.Frees (agent : Agent σ) : Prop :=
  ∀ memory call, call.service = Call.resourceService → call.method = "release" →
    ∃ reply, (agent memory call).1 = .ok reply ∧ reply.status = 0

/-- The release of a resource is such a call. -/
theorem Agent.Frees.accepted (h : agent.Frees) (resource : Resource) (pool : PoolDocument)
    (node : String) (args : Arguments) (link : Link σ) :
    (link.exchange agent (resource.callOf pool node "release" args)).accepted = true := by
  obtain ⟨reply, hReply, hStatus⟩ :=
    h link.memory (resource.callOf pool node "release" args) rfl rfl
  simp only [Link.exchange, Exchange.accepted, hReply, hStatus, decide_true]

/-- What an agent accepts is answered with what it reports. -/
theorem Link.fst_run_invoke_of_accepted {call : Call} {link : Link σ}
    (h : (link.exchange agent call).accepted = true) :
    ((invoke agent call).run link).1 = .ok (link.exchange agent call).out := by
  rcases hRun : (invoke agent call).run link with ⟨failure | out, after⟩
  · rw [not_accepted_of_run_invoke hRun] at h
    cases h
  · rw [(accepted_of_run_invoke hRun).2]

namespace Resource

variable {pool : PoolDocument} {resource : Resource} {args : Arguments} {link : Link σ}
  {node : String} {rest : List String}

/-! ## The first bound node -/

theorem firstBound_of_bound (hBound : resource.document.bound = node :: rest) (action : String) :
    resource.firstBound action = .ok node := by
  rw [firstBound, hBound]

/-- A bound resource asks its first node. -/
theorem run_askNode_of_bound (agent : Agent σ) (pool : PoolDocument) (method action : String)
    (args : Arguments) (link : Link σ) (hBound : resource.document.bound = node :: rest) :
    (askNode agent pool method action args).run ⟨resource, link⟩ =
      (((Link.invoke agent (resource.callOf pool node method args)).run link).1,
        ⟨resource, link.calling agent (resource.callOf pool node method args)⟩) := by
  simp only [askNode, Action.run_bind, Action.run_gets, Action.run_liftM,
    firstBound_of_bound hBound, Linked.onLink, Action.run_within, Link.run_invoke_snd]

/-! ## Release -/

/-- Nothing is left to do where there is no storage. -/
theorem run_release_of_free (hFree : resource.document.allocated = false) :
    (handle agent pool (.release args)).run ⟨resource, link⟩ = (.ok .null, ⟨resource, link⟩) := by
  show (release agent pool args).run ⟨resource, link⟩ = _
  simp only [release, Action.run_bind, Action.run_gets, hFree]
  rfl

/-- **Storage is given back through the first bound node**, if its agent accepts that. -/
theorem run_release_of_held (agent : Agent σ) (pool : PoolDocument) (args : Arguments)
    (link : Link σ) (hHeld : resource.document.allocated = true)
    (hBound : resource.document.bound = node :: rest) :
    ((handle agent pool (.release args)).run ⟨resource, link⟩).2.link =
        link.calling agent (resource.callOf pool node "release" args) ∧
      ((link.exchange agent (resource.callOf pool node "release" args)).accepted = true →
        (handle agent pool (.release args)).run ⟨resource, link⟩ =
          (.ok .null, ⟨resource.released,
            link.calling agent (resource.callOf pool node "release" args)⟩)) := by
  have hUnfold : (handle agent pool (.release args)).run ⟨resource, link⟩ =
      match ((Link.invoke agent (resource.callOf pool node "release" args)).run link).1 with
      | .error failure => (.error failure,
          ⟨resource, link.calling agent (resource.callOf pool node "release" args)⟩)
      | .ok _ => (.ok .null, ⟨resource.released,
          link.calling agent (resource.callOf pool node "release" args)⟩) := by
    show (release agent pool args).run ⟨resource, link⟩ = _
    simp only [release, Action.run_bind, Action.run_gets, hHeld, if_true,
      run_askNode_of_bound agent pool "release" "released" args link hBound]
    cases ((Link.invoke agent (resource.callOf pool node "release" args)).run link).1 <;> rfl
  rw [hUnfold]
  constructor
  · split <;> rfl
  · intro hAccepted
    rw [Link.fst_run_invoke_of_accepted hAccepted]

/-- **An anchored resource can be released**, if only the agents accept releases. -/
theorem run_release_of_anchored (hFrees : agent.Frees) (pool : PoolDocument) (args : Arguments)
    (link : Link σ) (h : resource.Anchored) :
    ∃ after, (handle agent pool (.release args)).run ⟨resource, link⟩ = (.ok .null, after) ∧
      after.object.document.allocated = false := by
  by_cases hHeld : resource.document.allocated = true
  · obtain ⟨node, rest, hBound⟩ := List.exists_cons_of_ne_nil (h hHeld)
    have hAccepted := hFrees.accepted resource pool node args link
    exact ⟨_, (run_release_of_held agent pool args link hHeld hBound).2 hAccepted, rfl⟩
  · have hFree : resource.document.allocated = false := Bool.eq_false_iff.2 hHeld
    exact ⟨_, run_release_of_free hFree, hFree⟩

/-- A release that succeeds leaves no storage. -/
theorem free_of_run_release {out : Json} {after : Linked σ Resource}
    (hRun : (handle agent pool (.release args)).run ⟨resource, link⟩ = (.ok out, after)) :
    after.object.document.allocated = false := by
  by_cases hHeld : resource.document.allocated = true
  · have hUnfold : (release agent pool args).run ⟨resource, link⟩ = (.ok out, after) := hRun
    simp only [release, Action.run_bind, Action.run_gets, hHeld, if_true] at hUnfold
    obtain ⟨_, asked, -, hRest⟩ := Action.run_bind_eq_ok_iff.1 hUnfold
    cases hRest
    rfl
  · have hFree : resource.document.allocated = false := Bool.eq_false_iff.2 hHeld
    rw [run_release_of_free hFree] at hRun
    cases hRun
    exact hFree

/-! ## Allocation -/

/-- An allocation that fails leaves the resource as it was. One that succeeds leaves it
allocated. -/
theorem run_allocate_cases (agent : Agent σ) (pool : PoolDocument) (args : Arguments)
    (resource : Resource) (link : Link σ) :
    (∃ failure after, (handle agent pool (.allocate args)).run ⟨resource, link⟩ =
        (.error failure, ⟨resource, after⟩)) ∨
      ∃ out after, (handle agent pool (.allocate args)).run ⟨resource, link⟩ = (.ok out, after) ∧
        after.object.document.allocated = true := by
  show (∃ failure after, (allocate agent pool args).run ⟨resource, link⟩ = _) ∨
    ∃ out after, (allocate agent pool args).run ⟨resource, link⟩ = _ ∧ _
  by_cases hHeld : resource.document.allocated = true
  · right
    simp only [allocate, Action.run_bind, Action.run_gets, hHeld, if_true]
    exact ⟨_, _, rfl, hHeld⟩
  · simp only [allocate, Action.run_bind, Action.run_gets, hHeld, Bool.false_eq_true, if_false]
    rcases askNode_cases agent pool "allocate" "allocated" args resource link with
      ⟨failure, hRun⟩ | ⟨node, -, ⟨failure, hRun, -⟩ | ⟨hRun, -⟩⟩
    · rw [hRun]
      exact .inl ⟨_, _, rfl⟩
    · rw [hRun]
      exact .inl ⟨_, _, rfl⟩
    · rw [hRun]
      exact .inr ⟨_, _, rfl, rfl⟩

/-- **An allocation that makes storage is one call** to the first bound node, whose report is taken
over. -/
theorem of_run_allocate {out : Json} {after : Linked σ Resource}
    (hFree : resource.document.allocated = false)
    (hRun : (handle agent pool (.allocate args)).run ⟨resource, link⟩ = (.ok out, after)) :
    ∃ node rest, resource.document.bound = node :: rest ∧
      after = ⟨resource.allocatedAs
          (link.exchange agent (resource.callOf pool node "allocate" args)).out,
        link.calling agent (resource.callOf pool node "allocate" args)⟩ := by
  have hUnfold : (allocate agent pool args).run ⟨resource, link⟩ = (.ok out, after) := hRun
  simp only [allocate, Action.run_bind, Action.run_gets, hFree, Bool.false_eq_true, if_false]
    at hUnfold
  rcases askNode_cases agent pool "allocate" "allocated" args resource link with
    ⟨failure, hAsk⟩ | ⟨node, hNode, ⟨failure, hAsk, -⟩ | ⟨hAsk, -⟩⟩
  · rw [hAsk] at hUnfold
    cases hUnfold
  · rw [hAsk] at hUnfold
    cases hUnfold
  · rw [hAsk] at hUnfold
    cases hUnfold
    obtain ⟨rest, hBound⟩ := bound_of_firstBound hNode
    exact ⟨node, rest, hBound, rfl⟩

/-- It is one call also if it fails. -/
theorem link_run_allocate_of_free (hFree : resource.document.allocated = false)
    (hBound : resource.document.bound = node :: rest) :
    ((handle agent pool (.allocate args)).run ⟨resource, link⟩).2.link =
      link.calling agent (resource.callOf pool node "allocate" args) := by
  show ((allocate agent pool args).run ⟨resource, link⟩).2.link = _
  simp only [allocate, Action.run_bind, Action.run_gets, hFree, Bool.false_eq_true, if_false,
    run_askNode_of_bound agent pool "allocate" "allocated" args link hBound]
  cases ((Link.invoke agent (resource.callOf pool node "allocate" args)).run link).1 <;> rfl

end Resource

end DiskFleet
