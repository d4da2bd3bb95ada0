import DiskFleet.Proofs.Action.Along
import DiskFleet.Resource.Basic

/-!
# What a command can do to a resource

A command changes the document of one resource and asks at most one node for one thing. `Step` lists
every outcome with its guards, and `handle_step` shows that no command does anything else. An
invariant of resources is then proved by one look at each outcome, without opening the commands
again.

Nothing changes in the document unless the agent accepted the call: a call that was refused or did
not arrive ends in `declined`, which leaves the resource as it was and only lengthens the history.
-/

namespace DiskFleet

namespace Exchange

/-- Whether the agent answered, with status zero. -/
def accepted (exchange : Exchange) : Bool :=
  match exchange.outcome with
  | .ok reply => decide (reply.status = 0)
  | .error _ => false

/-- The output of the reply, `null` if there was none. -/
def out (exchange : Exchange) : Json :=
  match exchange.outcome with
  | .ok reply => reply.out
  | .error _ => .null

end Exchange

namespace Link

variable {σ : Type} {agent : Agent σ} {call : Call} {link after : Link σ} {out : Json}
  {failure : Failure}

/-- A call and what comes of it in the present state of the agents. -/
def exchange (agent : Agent σ) (call : Call) (link : Link σ) : Exchange :=
  ⟨call, (agent link.memory call).1⟩

/-- The link once a call has been made. -/
def calling (agent : Agent σ) (call : Call) (link : Link σ) : Link σ :=
  (deliver agent call link).2

@[simp] theorem history_calling (agent : Agent σ) (call : Call) (link : Link σ) :
    (calling agent call link).history = link.history ++ [exchange agent call link] := rfl

/-- An invocation is one call, whatever it answers. -/
theorem run_invoke_snd (agent : Agent σ) (call : Call) (link : Link σ) :
    ((invoke agent call).run link).2 = calling agent call link := by
  simp only [Action.run, invoke, calling]
  split <;> simp_all

/-- An invocation answers only if the agent accepted the call. -/
theorem accepted_of_run_invoke (h : (invoke agent call).run link = (.ok out, after)) :
    (exchange agent call link).accepted = true ∧ (exchange agent call link).out = out := by
  have hFst := congrArg Prod.fst h
  simp only [Action.run, invoke, deliver] at hFst
  simp only [exchange, Exchange.accepted, Exchange.out]
  cases hOutcome : (agent link.memory call).1 with
  | error failure => simp [hOutcome] at hFst
  | ok reply =>
      simp only [hOutcome, Reply.answer] at hFst
      split at hFst
      · next hStatus => exact ⟨decide_eq_true hStatus, Except.ok.inj hFst⟩
      · cases hFst

/-- An invocation that fails was not accepted. -/
theorem not_accepted_of_run_invoke (h : (invoke agent call).run link = (.error failure, after)) :
    (exchange agent call link).accepted = false := by
  have hFst := congrArg Prod.fst h
  simp only [Action.run, invoke, deliver] at hFst
  simp only [exchange, Exchange.accepted]
  cases hOutcome : (agent link.memory call).1 with
  | error failure => rfl
  | ok reply =>
      simp only [hOutcome, Reply.answer] at hFst
      split at hFst
      · cases hFst
      · next hStatus => exact decide_eq_false hStatus

end Link

namespace Resource

/-! ## The resource after each accepted call -/

/-- The resource once its storage exists, with what the node reported. -/
def allocatedAs (resource : Resource) (out : Json) : Resource :=
  { resource with document.spec := resource.specAllocated out, document.allocated := true }

/-- The resource once its storage is gone. -/
def released (resource : Resource) : Resource :=
  { resource with document.spec := resource.specReleased, document.allocated := false }

/-- The resource with the state that the node reported. -/
def syncedAs (resource : Resource) (out : Json) : Resource :=
  { resource with document.spec := resource.specSynced out }

/-- The volume with another size. -/
def sized (resource : Resource) (size : UInt64) : Resource :=
  { resource with
    document.spec := resource.document.spec.mapVolume fun spec => { spec with size } }

/-- What `resize` sends. -/
def sizeArguments (size : UInt64) : Arguments := .ofList [("size", .ofWord64 size)]

variable {σ : Type}

/-- What handling a command can do to a resource of a pool and to the link. -/
inductive Step (agent : Agent σ) (pool : PoolDocument) :
    Linked σ Resource → Linked σ Resource → Prop
  /-- The command was refused before any call, or there was nothing left to do. -/
  | stayed (linked : Linked σ Resource) : Step agent pool linked linked
  | bound {resource after : Resource} {link : Link σ} {nodes : List String} :
      resource.bound pool nodes = .ok after → Step agent pool ⟨resource, link⟩ ⟨after, link⟩
  | unbound {resource after : Resource} {link : Link σ} {nodes : List String} :
      resource.unbound nodes = .ok after → Step agent pool ⟨resource, link⟩ ⟨after, link⟩
  /-- A volume was resized without a call, because it holds no storage or keeps its size. -/
  | sized {resource : Resource} {link : Link σ} {spec : VolumeSpec} {size : UInt64} :
      resource.document.spec = .volume spec →
      resource.document.allocated = false ∨ size = spec.size →
      Step agent pool ⟨resource, link⟩ ⟨resource.sized size, link⟩
  /-- The agent did not accept the call. -/
  | declined {resource : Resource} {link : Link σ} {node action method : String}
      {args : Arguments} :
      resource.firstBound action = .ok node →
      (link.exchange agent (resource.callOf pool node method args)).accepted = false →
      Step agent pool ⟨resource, link⟩
        ⟨resource, link.calling agent (resource.callOf pool node method args)⟩
  | allocated {resource : Resource} {link : Link σ} {node action : String} {args : Arguments} :
      resource.document.allocated = false → resource.firstBound action = .ok node →
      (link.exchange agent (resource.callOf pool node "allocate" args)).accepted = true →
      Step agent pool ⟨resource, link⟩
        ⟨resource.allocatedAs (link.exchange agent (resource.callOf pool node "allocate" args)).out,
          link.calling agent (resource.callOf pool node "allocate" args)⟩
  | released {resource : Resource} {link : Link σ} {node action : String} {args : Arguments} :
      resource.document.allocated = true → resource.firstBound action = .ok node →
      (link.exchange agent (resource.callOf pool node "release" args)).accepted = true →
      Step agent pool ⟨resource, link⟩
        ⟨resource.released, link.calling agent (resource.callOf pool node "release" args)⟩
  | synced {resource : Resource} {link : Link σ} {node action : String} {args : Arguments} :
      resource.firstBound action = .ok node →
      (link.exchange agent (resource.callOf pool node "sync" args)).accepted = true →
      Step agent pool ⟨resource, link⟩
        ⟨resource.syncedAs (link.exchange agent (resource.callOf pool node "sync" args)).out,
          link.calling agent (resource.callOf pool node "sync" args)⟩
  /-- The storage of a volume was grown. -/
  | grown {resource : Resource} {link : Link σ} {node action : String} {spec : VolumeSpec}
      {size : UInt64} :
      resource.document.spec = .volume spec → spec.size < size →
      resource.document.allocated = true → resource.firstBound action = .ok node →
      (link.exchange agent (resource.callOf pool node "resize" (sizeArguments size))).accepted =
        true →
      Step agent pool ⟨resource, link⟩
        ⟨resource.sized size,
          link.calling agent (resource.callOf pool node "resize" (sizeArguments size))⟩

/-- What a resource is known by: its id, name and type, its pool, and what it is made of. -/
structure Identity where
  id : Option String
  name : String
  type : ResourceType
  pool : Option String
  volumeKind : Option VolumeKind
deriving DecidableEq, Repr

def identity (resource : Resource) : Identity :=
  { id := resource.document.id, name := resource.document.name, type := resource.document.type
    pool := resource.document.pool, volumeKind := resource.document.volumeKind }

/-- **No step changes what a resource is known by**, nor the rules that it follows. -/
theorem Step.kept {agent : Agent σ} {pool : PoolDocument} {before after : Linked σ Resource}
    (h : Step agent pool before after) :
    after.object.identity = before.object.identity ∧
      after.object.behaviour = before.object.behaviour := by
  cases h with
  | stayed => exact ⟨rfl, rfl⟩
  | bound hBound =>
      obtain ⟨bindings, -, hAfter⟩ := Action.bind_eq_ok_iff.1 hBound
      obtain rfl := Except.ok.inj hAfter
      exact ⟨rfl, rfl⟩
  | unbound hUnbound =>
      unfold Resource.unbound at hUnbound
      dsimp only at hUnbound
      split at hUnbound
      · cases hUnbound
      · obtain rfl := Except.ok.inj hUnbound
        exact ⟨rfl, rfl⟩
  | sized => exact ⟨rfl, rfl⟩
  | declined => exact ⟨rfl, rfl⟩
  | allocated => exact ⟨rfl, rfl⟩
  | released => exact ⟨rfl, rfl⟩
  | synced => exact ⟨rfl, rfl⟩
  | grown => exact ⟨rfl, rfl⟩

theorem bound_of_firstBound {resource : Resource} {node action : String}
    (h : resource.firstBound action = .ok node) :
    ∃ rest, resource.document.bound = node :: rest := by
  unfold firstBound at h
  split at h
  · next first rest hBound =>
    obtain rfl := Except.ok.inj h
    exact ⟨rest, hBound⟩
  · cases h

/-- **A step makes at most one call**, to the first bound node and on behalf of its resource. -/
theorem Step.link_cases {agent : Agent σ} {pool : PoolDocument} {resource : Resource}
    {link : Link σ} {after : Linked σ Resource} (h : Step agent pool ⟨resource, link⟩ after) :
    after.link = link ∨ ∃ node method args,
      (∃ rest, resource.document.bound = node :: rest) ∧
        after.link = link.calling agent (resource.callOf pool node method args) := by
  cases h with
  | stayed => exact .inl rfl
  | bound => exact .inl rfl
  | unbound => exact .inl rfl
  | sized => exact .inl rfl
  | declined hNode => exact .inr ⟨_, _, _, bound_of_firstBound hNode, rfl⟩
  | allocated _ hNode => exact .inr ⟨_, _, _, bound_of_firstBound hNode, rfl⟩
  | released _ hNode => exact .inr ⟨_, _, _, bound_of_firstBound hNode, rfl⟩
  | synced hNode => exact .inr ⟨_, _, _, bound_of_firstBound hNode, rfl⟩
  | grown _ _ _ hNode => exact .inr ⟨_, _, _, bound_of_firstBound hNode, rfl⟩

section steps

variable {agent : Agent σ} {pool : PoolDocument} {resource : Resource} {link : Link σ}

/-- Asking a node: refused without a binding, else one call to the first bound node. -/
theorem askNode_cases (agent : Agent σ) (pool : PoolDocument) (method action : String)
    (args : Arguments) (resource : Resource) (link : Link σ) :
    (∃ failure, (askNode agent pool method action args).run ⟨resource, link⟩ =
        (.error failure, ⟨resource, link⟩)) ∨
      ∃ node, resource.firstBound action = .ok node ∧
        ((∃ failure, (askNode agent pool method action args).run ⟨resource, link⟩ =
            (.error failure, ⟨resource, link.calling agent (resource.callOf pool node method args)⟩) ∧
            (link.exchange agent (resource.callOf pool node method args)).accepted = false) ∨
          (askNode agent pool method action args).run ⟨resource, link⟩ =
            (.ok (link.exchange agent (resource.callOf pool node method args)).out,
              ⟨resource, link.calling agent (resource.callOf pool node method args)⟩) ∧
            (link.exchange agent (resource.callOf pool node method args)).accepted = true) := by
  have hUnfold : (askNode agent pool method action args).run ⟨resource, link⟩ =
      match resource.firstBound action with
      | .error failure => (.error failure, ⟨resource, link⟩)
      | .ok node =>
        (Linked.onLink (Link.invoke agent (resource.callOf pool node method args))).run
          ⟨resource, link⟩ := by
    simp only [askNode, Action.run_bind, Action.run_gets, Action.run_liftM]
    cases resource.firstBound action <;> rfl
  rw [hUnfold]
  cases hNode : resource.firstBound action with
  | error failure => exact .inl ⟨failure, rfl⟩
  | ok node =>
      refine .inr ⟨node, rfl, ?_⟩
      have hSnd := Link.run_invoke_snd agent (resource.callOf pool node method args) link
      simp only [Linked.onLink, Action.run_within]
      rcases hRun : (Link.invoke agent (resource.callOf pool node method args)).run link with
        ⟨failure | out, after⟩
      · rw [hRun] at hSnd
        subst hSnd
        exact .inl ⟨failure, rfl, Link.not_accepted_of_run_invoke hRun⟩
      · rw [hRun] at hSnd
        subst hSnd
        obtain ⟨hAccepted, hOut⟩ := Link.accepted_of_run_invoke hRun
        exact .inr ⟨by rw [hOut], hAccepted⟩

/-! ## Each command takes one step -/

theorem bind_step (nodes : List String) :
    Step agent pool ⟨resource, link⟩ ((bind pool nodes).run ⟨resource, link⟩).2 := by
  have hUnfold : ((bind pool nodes).run ⟨resource, link⟩).2 =
      match resource.bound pool nodes with
      | .error _ => ⟨resource, link⟩
      | .ok after => ⟨after, link⟩ := by
    simp only [bind, Action.run_bind, Action.run_gets, Action.run_liftM]
    cases resource.bound pool nodes <;> rfl
  rw [hUnfold]
  cases hBound : resource.bound pool nodes with
  | error failure => exact .stayed _
  | ok after => exact .bound hBound

theorem unbind_step (nodes : List String) :
    Step agent pool ⟨resource, link⟩ ((unbind nodes).run ⟨resource, link⟩).2 := by
  have hUnfold : ((unbind nodes).run ⟨resource, link⟩).2 =
      match resource.unbound nodes with
      | .error _ => ⟨resource, link⟩
      | .ok after => ⟨after, link⟩ := by
    simp only [unbind, Action.run_bind, Action.run_gets, Action.run_liftM]
    cases resource.unbound nodes <;> rfl
  rw [hUnfold]
  cases hUnbound : resource.unbound nodes with
  | error failure => exact .stayed _
  | ok after => exact .unbound hUnbound

/-- A command that asks a node and then changes the resource: what is left to show is the step of an
accepted call. -/
theorem askNode_bind_step {α : Type} {method action : String} {args : Arguments}
    {next : Json → Action (Linked σ Resource) α} (change : Json → Resource)
    (hNext : ∀ out after, ((next out).run ⟨resource, after⟩).2 = ⟨change out, after⟩)
    (hAccepted : ∀ node, resource.firstBound action = .ok node →
      (link.exchange agent (resource.callOf pool node method args)).accepted = true →
      Step agent pool ⟨resource, link⟩
        ⟨change (link.exchange agent (resource.callOf pool node method args)).out,
          link.calling agent (resource.callOf pool node method args)⟩) :
    Step agent pool ⟨resource, link⟩
      ((askNode agent pool method action args >>= next).run ⟨resource, link⟩).2 := by
  rcases askNode_cases agent pool method action args resource link with
    ⟨failure, hRun⟩ | ⟨node, hNode, ⟨failure, hRun, hDeclined⟩ | ⟨hRun, hTaken⟩⟩
  · rw [Action.run_bind_error hRun]
    exact .stayed _
  · rw [Action.run_bind_error hRun]
    exact .declined hNode hDeclined
  · rw [Action.run_bind_ok hRun, hNext]
    exact hAccepted node hNode hTaken

theorem allocate_step (args : Arguments) :
    Step agent pool ⟨resource, link⟩ ((allocate agent pool args).run ⟨resource, link⟩).2 := by
  simp only [allocate, Action.run_bind, Action.run_gets]
  split
  · exact .stayed _
  · next hFree =>
    refine askNode_bind_step resource.allocatedAs (fun _ _ => rfl) ?_
    intro node hNode hTaken
    exact .allocated (Bool.eq_false_iff.2 hFree) hNode hTaken

theorem release_step (args : Arguments) :
    Step agent pool ⟨resource, link⟩ ((release agent pool args).run ⟨resource, link⟩).2 := by
  simp only [release, Action.run_bind, Action.run_gets]
  split
  · next hHeld =>
    refine askNode_bind_step (fun _ => resource.released) (fun _ _ => rfl) ?_
    intro node hNode hTaken
    exact .released hHeld hNode hTaken
  · exact .stayed _

theorem sync_step (args : Arguments) :
    Step agent pool ⟨resource, link⟩ ((sync agent pool args).run ⟨resource, link⟩).2 := by
  refine askNode_bind_step resource.syncedAs (fun _ _ => rfl) ?_
  intro node hNode hTaken
  exact .synced hNode hTaken

theorem resize_step (size : SizeArgument) :
    Step agent pool ⟨resource, link⟩ ((resize agent pool size).run ⟨resource, link⟩).2 := by
  simp only [resize, Action.run_bind, Action.run_gets]
  split
  · exact .stayed _
  · simp only [Action.run_bind, Action.run_liftM]
    cases hSize : size.toBytes with
    | error failure => exact .stayed _
    | ok requested =>
        simp only [volumeSpec]
        cases hSpec : resource.document.spec with
        | port spec => exact .stayed _
        | volume spec =>
            simp only [ResourceSpec.volume?]
            split
            · exact .stayed _
            · next hGrown =>
              split
              · next hHeld =>
                refine askNode_bind_step (fun _ => resource.sized requested) (fun _ _ => rfl) ?_
                intro node hNode hTaken
                exact .grown hSpec hHeld.1 hHeld.2 hNode hTaken
              · next hQuiet =>
                refine .sized hSpec ?_
                by_cases hHeld : resource.document.allocated = true
                · right
                  have hNotLess : ¬spec.size < requested := fun hLess => hQuiet ⟨hLess, hHeld⟩
                  exact UInt64.le_antisymm (UInt64.not_lt.1 hNotLess) (UInt64.not_lt.1 hGrown)
                · exact .inl (Bool.eq_false_iff.2 hHeld)

/-- **Every command takes one of the steps**, whatever it answers. -/
theorem handle_step (command : ResourceCommand) :
    Step agent pool ⟨resource, link⟩ ((handle agent pool command).run ⟨resource, link⟩).2 := by
  simp only [handle, Action.run_bind, Action.run_gets]
  split
  · cases command with
    | bind nodes => exact bind_step nodes
    | unbind nodes => exact unbind_step nodes
    | allocate args => exact allocate_step args
    | release args => exact release_step args
    | sync args => exact sync_step args
    | resize size => exact resize_step size
  · exact .stayed _

end steps

end Resource

end DiskFleet
