import DiskFleet.Proofs.Resource.Release

/-!
# Commands that a resource refuses

A command for a resource fails in one of two ways. Either a rule of its life bars it: the failure is
found out without the agents, and nothing happens at all. Or the rules let it through and the one
call that it then makes fails: that failure is handed on, and only the history of calls is longer.

`Barred` lists the rules with the failures that they give. They are stated on the document of the
resource, not by running the command, and they are complete: there is no third way to fail, and a
rule always comes before the call.

## Main results

* `run_handle_of_barred`: a command that a rule bars makes no call;
* `refused_of_run_handle`: a command that fails is barred, or its one call failed in the same way.
-/

namespace DiskFleet

/-- The failure that a call ends in, if the agent did not accept it. -/
def Exchange.failure? (exchange : Exchange) : Option Failure :=
  match exchange.outcome with
  | .error failure => some failure
  | .ok reply =>
    if reply.status = 0 then none
    else some (.remote exchange.call.node reply.status.toInt reply.diagnostic)

variable {σ : Type} {agent : Agent σ}

/-- An invocation that fails hands on the failure of its call. -/
theorem Link.failure?_of_run_invoke {call : Call} {link after : Link σ} {failure : Failure}
    (h : (invoke agent call).run link = (.error failure, after)) :
    (link.exchange agent call).failure? = some failure := by
  have hFst := congrArg Prod.fst h
  simp only [Action.run, invoke, deliver] at hFst
  simp only [exchange, Exchange.failure?]
  cases hOutcome : (agent link.memory call).1 with
  | error refusal =>
      simp only [hOutcome] at hFst
      rw [Except.error.inj hFst]
  | ok reply =>
      simp only [hOutcome, Reply.answer] at hFst
      split at hFst
      · cases hFst
      · next hStatus =>
        simp only [if_neg hStatus]
        rw [Except.error.inj hFst]

namespace Resource

variable {pool : PoolDocument} {resource : Resource} {command : ResourceCommand}
  {link : Link σ} {failure : Failure} {after : Linked σ Resource}

/-! ## The rules -/

/-- What a command has the node do: the method, its past participle and the arguments. Nothing, if
the storage is as the command wants it, or is no concern of it. -/
def asks (resource : Resource) : ResourceCommand → Option (String × String × Arguments)
  | .bind _ | .unbind _ => none
  | .allocate args =>
    if resource.document.allocated then none else some ("allocate", "allocated", args)
  | .release args =>
    if resource.document.allocated then some ("release", "released", args) else none
  | .sync args => some ("sync", "synced", args)
  | .resize size =>
    match size.toBytes, resource.document.spec with
    | .ok requested, .volume spec =>
      if spec.size < requested ∧ resource.document.allocated then
        some ("resize", "resized", sizeArguments requested)
      else none
    | _, _ => none

/-- A rule bars the command, with the failure that says which. -/
inductive Barred (pool : PoolDocument) (resource : Resource) : ResourceCommand → Failure → Prop
  /-- The resource does not know the command. -/
  | unsupported {command : ResourceCommand} :
      resource.supports command = false →
      Barred pool resource command
        (.unsupportedCommand command.name ("resource " ++ resource.idText))
  /-- There is no backing on one of the nodes. -/
  | unbacked {nodes : List String} {failure : Failure} :
      resource.bound pool nodes = .error failure → Barred pool resource (.bind nodes) failure
  /-- The storage would be out of reach. -/
  | lastBinding {nodes : List String} :
      resource.document.allocated = true →
      (resource.unbindTargets nodes).length = resource.document.bound.length →
      resource.document.bound ≠ [] →
      Barred pool resource (.unbind nodes) (.illegalTransition (.unbindLastNode resource.idText))
  | unreadableSize {size : SizeArgument} {failure : Failure} :
      resource.supports (.resize size) = true → size.toBytes = .error failure →
      Barred pool resource (.resize size) failure
  | noVolume {size : SizeArgument} {requested : UInt64} {failure : Failure} :
      resource.supports (.resize size) = true → size.toBytes = .ok requested →
      resource.volumeSpec = .error failure → Barred pool resource (.resize size) failure
  | shrink {size : SizeArgument} {requested : UInt64} {spec : VolumeSpec} :
      resource.supports (.resize size) = true → size.toBytes = .ok requested →
      resource.document.spec = .volume spec → requested < spec.size →
      Barred pool resource (.resize size)
        (.illegalTransition (.shrink resource.idText spec.size.toNat requested.toNat))
  /-- There is work for a node, but no node is bound. -/
  | unplaced {command : ResourceCommand} {method action : String} {args : Arguments} :
      resource.supports command = true → resource.asks command = some (method, action, args) →
      resource.document.bound = [] →
      Barred pool resource command (.illegalTransition (.notBound resource.idText action))

/-- Exactly one call was made, to the first bound node on behalf of the resource, and it failed with
this failure. -/
def Declined (agent : Agent σ) (pool : PoolDocument) (resource : Resource) (link : Link σ)
    (failure : Failure) (after : Linked σ Resource) : Prop :=
  ∃ node rest method args, resource.document.bound = node :: rest ∧
    after = ⟨resource, link.calling agent (resource.callOf pool node method args)⟩ ∧
    (link.exchange agent (resource.callOf pool node method args)).failure? = some failure

/-- A rule bars the command and nothing happened, or its one call failed. -/
def Refused (agent : Agent σ) (pool : PoolDocument) (command : ResourceCommand)
    (resource : Resource) (link : Link σ) (failure : Failure) (after : Linked σ Resource) : Prop :=
  (resource.Barred pool command failure ∧ after = ⟨resource, link⟩) ∨
    Declined agent pool resource link failure after

/-! ## Asking a node -/

/-- Without a binding there is no node to ask. -/
theorem run_askNode_of_unbound (agent : Agent σ) (pool : PoolDocument) (method action : String)
    (args : Arguments) (link : Link σ) (hUnbound : resource.document.bound = []) :
    (askNode agent pool method action args).run ⟨resource, link⟩ =
      (.error (.illegalTransition (.notBound resource.idText action)), ⟨resource, link⟩) := by
  have hNowhere : resource.firstBound action =
      .error (.illegalTransition (.notBound resource.idText action)) := by
    rw [firstBound, hUnbound]
  simp only [askNode, Action.run_bind, Action.run_gets, Action.run_liftM, hNowhere]

/-- Asking a node fails for want of a node, or by the call. -/
theorem run_askNode_error {method action : String} {args : Arguments}
    (hRun : (askNode agent pool method action args).run ⟨resource, link⟩ = (.error failure, after)) :
    (resource.document.bound = [] ∧ failure = .illegalTransition (.notBound resource.idText action) ∧
        after = ⟨resource, link⟩) ∨
      Declined agent pool resource link failure after := by
  cases hBound : resource.document.bound with
  | nil =>
      rw [run_askNode_of_unbound agent pool method action args link hBound] at hRun
      cases hRun
      exact .inl ⟨rfl, rfl, rfl⟩
  | cons node rest =>
      rw [run_askNode_of_bound agent pool method action args link hBound] at hRun
      rcases hInvoke : (Link.invoke agent (resource.callOf pool node method args)).run link with
        ⟨refusal | out, called⟩
      · rw [hInvoke] at hRun
        cases hRun
        exact .inr ⟨node, rest, method, args, hBound, rfl, Link.failure?_of_run_invoke hInvoke⟩
      · rw [hInvoke] at hRun
        cases hRun

/-- A command that asks a node, and then cannot fail any more, fails for want of a node or by the
call. -/
theorem refused_of_run_askNode_bind {α : Type} {method action : String} {args : Arguments}
    {next : Json → Action (Linked σ Resource) α}
    (hSupports : resource.supports command = true)
    (hAsks : resource.asks command = some (method, action, args))
    (hNext : ∀ out before, ∃ value last, (next out).run before = (.ok value, last))
    (hRun : (askNode agent pool method action args >>= next).run ⟨resource, link⟩ =
      (.error failure, after)) :
    Refused agent pool command resource link failure after := by
  rcases hAsked : (askNode agent pool method action args).run ⟨resource, link⟩ with
    ⟨refusal | out, asked⟩
  · rw [Action.run_bind_error hAsked] at hRun
    cases hRun
    rcases run_askNode_error hAsked with ⟨hUnbound, rfl, rfl⟩ | hDeclined
    · exact .inl ⟨.unplaced hSupports hAsks hUnbound, rfl⟩
    · exact .inr hDeclined
  · obtain ⟨value, last, hDone⟩ := hNext out asked
    rw [Action.run_bind_ok hAsked, hDone] at hRun
    cases hRun

/-! ## Commands -/

/-- Only a file volume can be resized. -/
theorem behaviour_of_supports_resize {size : SizeArgument}
    (h : resource.supports (.resize size) = true) : resource.behaviour ≠ .port := by
  simp only [supports, Bool.decide_and, Bool.and_eq_true, decide_eq_true_eq] at h
  rw [h.1]
  rintro ⟨⟩

theorem spec_of_volumeSpec {spec : VolumeSpec} (h : resource.volumeSpec = .ok spec) :
    resource.document.spec = .volume spec := by
  unfold volumeSpec at h
  cases hSpec : resource.document.spec with
  | volume stored =>
      rw [hSpec] at h
      rw [Except.ok.inj h]
  | port stored =>
      rw [hSpec] at h
      cases h

/-- **A command that a rule bars is refused before any call**, and nothing changes. -/
theorem run_handle_of_barred (agent : Agent σ) (link : Link σ)
    (h : resource.Barred pool command failure) :
    (handle agent pool command).run ⟨resource, link⟩ = (.error failure, ⟨resource, link⟩) := by
  cases h with
  | unsupported hSupports =>
      simp only [handle, Action.run_bind, Action.run_gets, hSupports]
      rfl
  | unbacked hBound =>
      simp only [handle, supports, if_true, bind, Action.run_bind, Action.run_gets,
        Action.run_liftM, hBound]
  | lastBinding hHeld hAll hSome =>
      have hUnbound : ∀ nodes, (resource.unbindTargets nodes).length =
          resource.document.bound.length → resource.unbound nodes =
            .error (.illegalTransition (.unbindLastNode resource.idText)) := by
        intro nodes hAll
        exact if_pos ⟨hHeld, hAll, hSome⟩
      simp only [handle, supports, if_true, unbind, Action.run_bind, Action.run_gets,
        Action.run_liftM, hUnbound _ hAll]
  | unreadableSize hSupports hSize =>
      have hVolume := behaviour_of_supports_resize hSupports
      simp only [handle, hSupports, if_true, resize, if_neg hVolume, Action.run_bind,
        Action.run_gets, Action.run_liftM, hSize]
  | noVolume hSupports hSize hSpec =>
      have hVolume := behaviour_of_supports_resize hSupports
      simp only [handle, hSupports, if_true, resize, if_neg hVolume, Action.run_bind,
        Action.run_gets, Action.run_liftM, hSize, hSpec]
  | shrink hSupports hSize hSpec hLess =>
      have hVolume := behaviour_of_supports_resize hSupports
      simp only [handle, hSupports, if_true, resize, if_neg hVolume, Action.run_bind,
        Action.run_gets, Action.run_liftM, hSize, volumeSpec, hSpec, ResourceSpec.volume?,
        if_pos hLess, Action.run_fail]
  | unplaced hSupports hAsks hUnbound =>
      have hNowhere : ∀ method action args,
          (askNode agent pool method action args).run ⟨resource, link⟩ =
            (.error (.illegalTransition (.notBound resource.idText action)), ⟨resource, link⟩) :=
        fun method action args => run_askNode_of_unbound agent pool method action args link hUnbound
      cases command with
      | bind nodes => cases hAsks
      | unbind nodes => cases hAsks
      | allocate args =>
          simp only [asks] at hAsks
          split at hAsks
          · cases hAsks
          · next hFree =>
            cases hAsks
            simp only [handle, supports, if_true, allocate, if_neg hFree, Action.run_bind,
              Action.run_gets, hNowhere]
      | release args =>
          simp only [asks] at hAsks
          split at hAsks
          · next hHeld =>
            cases hAsks
            simp only [handle, supports, if_true, release, if_pos hHeld, Action.run_bind,
              Action.run_gets, hNowhere]
          · cases hAsks
      | sync args =>
          cases hAsks
          simp only [handle, supports, if_true, sync, Action.run_bind, Action.run_gets, hNowhere]
      | resize size =>
          have hVolume := behaviour_of_supports_resize hSupports
          simp only [asks] at hAsks
          split at hAsks
          · next requested spec hSize hSpec =>
            split at hAsks
            · next hGrows =>
              cases hAsks
              have hNotLess : ¬requested < spec.size :=
                UInt64.not_lt.2 (UInt64.le_of_lt hGrows.1)
              simp only [handle, hSupports, if_true, resize, if_neg hVolume, Action.run_bind,
                Action.run_gets, Action.run_liftM, hSize, volumeSpec, hSpec, ResourceSpec.volume?,
                if_neg hNotLess, if_pos hGrows, hNowhere]
            · cases hAsks
          · cases hAsks

theorem refused_of_run_bind {nodes : List String}
    (hRun : (bind pool nodes).run ⟨resource, link⟩ = (.error failure, after)) :
    Refused agent pool (.bind nodes) resource link failure after := by
  simp only [bind, Action.run_bind, Action.run_gets, Action.run_liftM] at hRun
  cases hBound : resource.bound pool nodes with
  | error refusal =>
      rw [hBound] at hRun
      cases hRun
      exact .inl ⟨.unbacked hBound, rfl⟩
  | ok bound =>
      rw [hBound] at hRun
      cases hRun

theorem refused_of_run_unbind {nodes : List String}
    (hRun : (unbind nodes).run ⟨resource, link⟩ = (.error failure, after)) :
    Refused agent pool (.unbind nodes) resource link failure after := by
  simp only [unbind, Action.run_bind, Action.run_gets, Action.run_liftM] at hRun
  cases hUnbound : resource.unbound nodes with
  | error refusal =>
      rw [hUnbound] at hRun
      cases hRun
      unfold unbound at hUnbound
      dsimp only at hUnbound
      split at hUnbound
      · next hGuard =>
        cases hUnbound
        exact .inl ⟨.lastBinding hGuard.1 hGuard.2.1 hGuard.2.2, rfl⟩
      · cases hUnbound
  | ok unbound =>
      rw [hUnbound] at hRun
      cases hRun

theorem refused_of_run_allocate {args : Arguments}
    (hRun : (allocate agent pool args).run ⟨resource, link⟩ = (.error failure, after)) :
    Refused agent pool (.allocate args) resource link failure after := by
  rw [allocate, Action.run_bind, Action.run_gets] at hRun
  dsimp only at hRun
  split at hRun
  · cases hRun
  · next hFree =>
    exact refused_of_run_askNode_bind rfl (if_neg hFree) (fun _ _ => ⟨_, _, rfl⟩) hRun

theorem refused_of_run_release {args : Arguments}
    (hRun : (release agent pool args).run ⟨resource, link⟩ = (.error failure, after)) :
    Refused agent pool (.release args) resource link failure after := by
  rw [release, Action.run_bind, Action.run_gets] at hRun
  dsimp only at hRun
  split at hRun
  · next hHeld =>
    exact refused_of_run_askNode_bind rfl (if_pos hHeld) (fun _ _ => ⟨_, _, rfl⟩) hRun
  · cases hRun

theorem refused_of_run_resize {size : SizeArgument}
    (hSupports : resource.supports (.resize size) = true)
    (hRun : (resize agent pool size).run ⟨resource, link⟩ = (.error failure, after)) :
    Refused agent pool (.resize size) resource link failure after := by
  have hVolume := behaviour_of_supports_resize hSupports
  rw [resize, Action.run_bind, Action.run_gets] at hRun
  dsimp only at hRun
  rw [if_neg hVolume, Action.run_bind, Action.run_liftM] at hRun
  cases hSize : size.toBytes with
  | error refusal =>
      rw [hSize] at hRun
      cases hRun
      exact .inl ⟨.unreadableSize hSupports hSize, rfl⟩
  | ok requested =>
      rw [hSize] at hRun
      dsimp only at hRun
      rw [Action.run_bind, Action.run_liftM] at hRun
      cases hSpec : resource.volumeSpec with
      | error refusal =>
          rw [hSpec] at hRun
          cases hRun
          exact .inl ⟨.noVolume hSupports hSize hSpec, rfl⟩
      | ok spec =>
          have hStored : resource.document.spec = .volume spec := spec_of_volumeSpec hSpec
          rw [hSpec] at hRun
          dsimp only at hRun
          split at hRun
          · next hLess =>
            cases hRun
            exact .inl ⟨.shrink hSupports hSize hStored hLess, rfl⟩
          · split at hRun
            · next hGrows =>
              have hAsks : resource.asks (.resize size) =
                  some ("resize", "resized", sizeArguments requested) := by
                simp only [asks, hSize, hStored]
                exact if_pos hGrows
              exact refused_of_run_askNode_bind hSupports hAsks (fun _ _ => ⟨_, _, rfl⟩) hRun
            · cases hRun

/-- **A command that fails is barred by a rule, or its one call failed in the same way.** In either
case the resource is as it was. -/
theorem refused_of_run_handle
    (hRun : (handle agent pool command).run ⟨resource, link⟩ = (.error failure, after)) :
    Refused agent pool command resource link failure after := by
  simp only [handle, Action.run_bind, Action.run_gets] at hRun
  split at hRun
  · next hSupports =>
    cases command with
    | bind nodes => exact refused_of_run_bind hRun
    | unbind nodes => exact refused_of_run_unbind hRun
    | allocate args => exact refused_of_run_allocate hRun
    | release args => exact refused_of_run_release hRun
    | sync args =>
        exact refused_of_run_askNode_bind rfl rfl (fun _ _ => ⟨_, _, rfl⟩) hRun
    | resize size => exact refused_of_run_resize hSupports hRun
  · next hSupports =>
    cases hRun
    exact .inl ⟨.unsupported (Bool.eq_false_iff.2 hSupports), rfl⟩

end Resource

end DiskFleet
