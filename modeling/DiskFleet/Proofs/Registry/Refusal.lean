import DiskFleet.Proofs.Registry.Copy
import DiskFleet.Proofs.Resource.Refusal

/-!
# Requests that the registry refuses

An operation on the registry, a clone apart, goes through as a whole or leaves every pool and every
resource as it was. Work on storage is where this is not plain to see, since an agent may have been
called by then. Such an operation fails in one of two ways (`World.FailsBy`): for a reason that is
found out beforehand, and then it calls nobody, or by the one call that it makes, and then it hands
on what became of the call.

The reasons are listed in the order in which they are looked for: the request cannot be read, a tag
means no node, the resource is not registered, a node may not reach the pool, a rule of the life of
the resource bars the command.

## Main results

* `World.perform_spares`: an operation that fails leaves the registry as it was;
* `World.updateResource_failsBy`, `World.requestResource_failsBy`: how work on a resource fails.
-/

namespace DiskFleet

namespace Registry

/-- Why a command for a resource is refused before any call. -/
inductive Refuses (registry : Registry) (id : String) (command : ResourceCommand) : Failure → Prop
  | unregistered :
      registry.owners.get? id = none → Refuses registry id command (.resourceNotFound id)
  | poolGone {poolId : String} :
      registry.owners.get? id = some poolId → registry.pools.get? poolId = none →
      Refuses registry id command (.poolNotFound poolId)
  | notStored {poolId : String} {pool : Pool} :
      registry.owners.get? id = some poolId → registry.pools.get? poolId = some pool →
      pool.resources.get? id = none → Refuses registry id command (.resourceNotFound id)
  /-- Nodes that may not reach the pool. -/
  | outside {poolId : String} {pool : Pool} {resource : Resource} :
      registry.owners.get? id = some poolId → registry.pools.get? poolId = some pool →
      pool.resources.get? id = some resource → pool.outside command ≠ [] →
      Refuses registry id command
        (.policyViolation (.nodesOutsidePool (pool.outside command) pool.idText))
  /-- A rule of the life of the resource. -/
  | barred {poolId : String} {pool : Pool} {resource : Resource} {failure : Failure} :
      registry.owners.get? id = some poolId → registry.pools.get? poolId = some pool →
      pool.resources.get? id = some resource → pool.outside command = [] →
      resource.Barred pool.document command failure → Refuses registry id command failure

/-- Why a request for a resource is refused before any call. -/
inductive RefusesRequest (registry : Registry) (id : String) (request : Json) : Failure → Prop
  | unreadable {failure : Failure} :
      ResourceCommand.ofRequest request = .error failure →
      RefusesRequest registry id request failure
  /-- A tag that means no node. -/
  | unresolved {command : ResourceCommand} {failure : Failure} :
      ResourceCommand.ofRequest request = .ok command →
      command.resolve registry.cluster = .error failure →
      RefusesRequest registry id request failure
  | refused {command resolved : ResourceCommand} {failure : Failure} :
      ResourceCommand.ofRequest request = .ok command →
      command.resolve registry.cluster = .ok resolved → registry.Refuses id resolved failure →
      RefusesRequest registry id request failure

/-- What can be asked of the registry, apart from a clone. -/
inductive Request
  | definePool (name : String) (kind : PoolKind) (params : Params)
  | createPool (document : PoolDocument)
  | destroyPool (id : String)
  | poolInfo (id : String) (path : Option String)
  | customizedPool (id node : String)
  | poolNamed (name : String)
  | poolIds
  | poolFor (type : ResourceType) (params : Params)
  | defineResource (name : String) (type : ResourceType) (params : Params)
  | createResource (definition : ResourceDocument)
  | copyResource (resource destination : String)
  | copyResourceAs (resource destination suffix : String)
  | destroyResource (id : String)
  | updateResource (id : String) (command : ResourceCommand)
  | requestResource (id : String) (request : Json)
  | resourceDocument (id : String)
  | resourceInfo (id : String) (path : Option String) (verbose : Bool)
  | resourceIds (pool : Option String)

end Registry

namespace World

variable {σ α : Type} {agent : Agent σ} {world after : World σ} {id : String}
  {command : ResourceCommand} {failure : Failure}

/-- Does what is asked, whatever the answer is. -/
def perform (agent : Agent σ) : Registry.Request → Action (World σ) Unit
  | .definePool name kind params => do let _ ← ask (·.definePool name kind params)
  | .createPool document => do let _ ← createPool document
  | .destroyPool id => destroyPool id
  | .poolInfo id path => do let _ ← ask (·.poolInfo id path)
  | .customizedPool id node => do let _ ← ask (·.customizedPool id node)
  | .poolNamed name => do let _ ← Action.gets (·.registry.poolNamed? name)
  | .poolIds => do let _ ← Action.gets (·.registry.poolIds)
  | .poolFor type params => do let _ ← Action.gets (·.registry.poolFor? type params)
  | .defineResource name type params => do let _ ← ask (·.defineResource name type params)
  | .createResource definition => do let _ ← createResource definition
  | .copyResource resource destination => do let _ ← copyResource resource destination
  | .copyResourceAs resource destination suffix => do
    let _ ← copyResourceAs resource destination suffix
  | .destroyResource id => destroyResource id
  | .updateResource id command => do let _ ← updateResource agent id command
  | .requestResource id request => do let _ ← requestResource agent id request
  | .resourceDocument id => do let _ ← ask (·.resourceDocument id)
  | .resourceInfo id path verbose => do let _ ← ask (·.resourceInfo id path verbose)
  | .resourceIds pool => do let _ ← ask (·.resourceIds pool)

/-! ## Work on one resource -/

/-- How an operation fails: for one of the reasons, and nothing has happened, or by its only call,
whose failure it hands on. The reasons come first. -/
structure FailsBy (agent : Agent σ) (reason : Failure → Prop) (action : Action (World σ) α)
    (world : World σ) : Prop where
  early : ∀ {failure}, reason failure → action.run world = (.error failure, world)
  cases : ∀ {failure after}, action.run world = (.error failure, after) →
    (reason failure ∧ after = world) ∨
      ∃ call, after = world.calling agent call ∧
        (world.link.exchange agent call).failure? = some failure

/-- A resource that is put back as it was leaves the registry as it was. -/
theorem working_of_same {poolId : String} {pool : Pool} {resource : Resource}
    (hPool : world.registry.pools.get? poolId = some pool)
    (hResource : pool.resources.get? id = some resource) (link : Link σ) :
    world.working poolId pool id ⟨resource, link⟩ = { world with link } := by
  simp only [working, Table.insert_of_get? hResource, Registry.putPool_of_get? hPool]

/-- What the registry refuses calls nobody. -/
theorem run_updateResource_of_refuses (agent : Agent σ)
    (h : world.registry.Refuses id command failure) :
    (updateResource agent id command).run world = (.error failure, world) := by
  cases h with
  | unregistered hOwner =>
      simp only [updateResource, Action.run_bind, run_ask, Registry.owner, hOwner]
  | poolGone hOwner hPool =>
      simp only [updateResource, Action.run_bind, run_ask, Registry.owner_eq_ok_iff.2 hOwner,
        Registry.pool, hPool]
  | @notStored poolId pool hOwner hPool hStored =>
      have hUpdate : (Pool.update agent id command).run ⟨pool, world.link⟩ =
          (.error (.resourceNotFound id), ⟨pool, world.link⟩) :=
        Pool.run_update_of_not_contains agent command hStored
      simp only [updateResource, Action.run_bind, run_ask, Registry.owner_eq_ok_iff.2 hOwner,
        Registry.pool_eq_ok_iff.2 hPool, onPool, Action.run_within, hUpdate,
        Registry.putPool_of_get? hPool]
  | @outside poolId pool resource hOwner hPool hStored hOutside =>
      have hUpdate : (Pool.update agent id command).run ⟨pool, world.link⟩ =
          (.error (.policyViolation (.nodesOutsidePool (pool.outside command) pool.idText)),
            ⟨pool, world.link⟩) :=
        Pool.run_update_of_outside agent hStored hOutside
      simp only [updateResource, Action.run_bind, run_ask, Registry.owner_eq_ok_iff.2 hOwner,
        Registry.pool_eq_ok_iff.2 hPool, onPool, Action.run_within, hUpdate,
        Registry.putPool_of_get? hPool]
  | barred hOwner hPool hStored hInside hBarred =>
      rw [run_updateResource_of_inside hOwner hPool hStored hInside,
        Resource.run_handle_of_barred agent world.link hBarred, working_of_same hPool hStored]

/-- **A command for a resource fails because the registry refuses it, or by its only call.** -/
theorem updateResource_failsBy (agent : Agent σ) (id : String) (command : ResourceCommand)
    (world : World σ) :
    FailsBy agent (world.registry.Refuses id command) (updateResource agent id command) world := by
  refine ⟨run_updateResource_of_refuses agent, fun {failure after} hRun => ?_⟩
  -- what the registry refuses can fail in no other way
  have hRefused : ∀ {refusal}, world.registry.Refuses id command refusal →
      (world.registry.Refuses id command failure ∧ after = world) ∨
        ∃ call, after = world.calling agent call ∧
          (world.link.exchange agent call).failure? = some failure := by
    intro refusal hRefuses
    rw [run_updateResource_of_refuses agent hRefuses] at hRun
    cases hRun
    exact .inl ⟨hRefuses, rfl⟩
  cases hOwner : world.registry.owners.get? id with
  | none => exact hRefused (.unregistered hOwner)
  | some poolId =>
      cases hPool : world.registry.pools.get? poolId with
      | none => exact hRefused (.poolGone hOwner hPool)
      | some pool =>
          cases hStored : pool.resources.get? id with
          | none => exact hRefused (.notStored hOwner hPool hStored)
          | some resource =>
              by_cases hInside : pool.outside command = []
              · rw [run_updateResource_of_inside hOwner hPool hStored hInside] at hRun
                rcases hHandle : (Resource.handle agent pool.document command).run
                    ⟨resource, world.link⟩ with ⟨refusal | out, handled⟩
                · rw [hHandle] at hRun
                  cases hRun
                  rcases Resource.refused_of_run_handle hHandle with
                    ⟨hBarred, rfl⟩ | ⟨node, rest, method, args, -, rfl, hFailure⟩
                  · exact hRefused (.barred hOwner hPool hStored hInside hBarred)
                  · refine .inr ⟨_, ?_, hFailure⟩
                    exact working_of_same hPool hStored _
                · rw [hHandle] at hRun
                  cases hRun
              · exact hRefused (.outside hOwner hPool hStored hInside)

/-- **So does a request.** -/
theorem requestResource_failsBy (agent : Agent σ) (id : String) (request : Json)
    (world : World σ) :
    FailsBy agent (world.registry.RefusesRequest id request) (requestResource agent id request)
      world := by
  constructor
  case early =>
    intro failure h
    cases h with
    | unreadable hRead =>
        simp only [requestResource, Action.run_bind, Action.run_liftM, hRead]
    | unresolved hRead hResolve =>
        simp only [requestResource, Action.run_bind, Action.run_liftM, run_ask, hRead, hResolve]
    | refused hRead hResolve hRefuses =>
        simp only [requestResource, Action.run_bind, Action.run_liftM, run_ask, hRead, hResolve,
          run_updateResource_of_refuses agent hRefuses]
  case cases =>
    intro failure after hRun
    simp only [requestResource, Action.run_bind, Action.run_liftM, run_ask] at hRun
    cases hRead : ResourceCommand.ofRequest request with
    | error refusal =>
        rw [hRead] at hRun
        cases hRun
        exact .inl ⟨.unreadable hRead, rfl⟩
    | ok command =>
        rw [hRead] at hRun
        dsimp only at hRun
        cases hResolve : command.resolve world.registry.cluster with
        | error refusal =>
            rw [hResolve] at hRun
            cases hRun
            exact .inl ⟨.unresolved hRead hResolve, rfl⟩
        | ok resolved =>
            rw [hResolve] at hRun
            rcases (updateResource_failsBy agent id resolved world).cases hRun with
              ⟨hRefuses, hSame⟩ | hCalled
            · exact .inl ⟨.refused hRead hResolve hRefuses, hSame⟩
            · exact .inr hCalled

/-! ## All operations -/

/-- When the operation fails, the registry is as it was. -/
def Spares (action : Action (World σ) α) : Prop :=
  ∀ ⦃world after failure⦄, action.run world = (.error failure, after) →
    after.registry = world.registry

/-- What fails for a reason or by its call spares the registry. -/
theorem spares_of_failsBy {reason : World σ → Failure → Prop} {action : Action (World σ) α}
    (h : ∀ world, FailsBy agent (reason world) action world) : Spares action := by
  intro world after failure hRun
  rcases (h world).cases hRun with ⟨-, rfl⟩ | ⟨call, rfl, -⟩
  · rfl
  · rfl

/-- The answer of an operation does not matter. -/
theorem Spares.ignoring {action : Action (World σ) α} (h : Spares action) :
    Spares (do let _ ← action) := by
  intro world after failure hRun
  rcases hAction : action.run world with ⟨refusal | value, next⟩
  · rw [Action.run_bind_error hAction] at hRun
    cases hRun
    exact h hAction
  · rw [Action.run_bind_ok hAction] at hRun
    cases hRun

theorem ask_spares (f : Registry → Except Failure α) : Spares (ask f : Action (World σ) α) := by
  intro world after failure hRun
  obtain rfl : world = after := congrArg Prod.snd hRun
  rfl

/-- A part of the state is always there. -/
theorem gets_spares (f : World σ → α) : Spares (Action.gets f) := by
  intro world after failure hRun
  cases hRun

theorem createPool_spares (document : PoolDocument) :
    Spares (createPool document : Action (World σ) String) := by
  intro world after failure hRun
  cases hRun

theorem destroyPool_spares (id : String) : Spares (destroyPool id : Action (World σ) Unit) := by
  intro world after failure hRun
  simp only [destroyPool, Action.run_bind, run_ask] at hRun
  cases hPool : world.registry.pool id with
  | error refusal =>
      rw [hPool] at hRun
      cases hRun
      rfl
  | ok pool =>
      rw [hPool] at hRun
      dsimp only at hRun
      split at hRun
      · cases hRun
        rfl
      · cases hRun

/-- A copy draws its suffix first, which is no part of the registry. -/
theorem copyResource_spares (resource destination : String) :
    Spares (copyResource resource destination : Action (World σ) String) := by
  intro world after failure hRun
  have hCopy : (copyResourceAs resource destination
      (world.supply.nextSuffix world.registry.suffixLength)).run world.drawingSuffix =
        (.error failure, after) := hRun
  have hSame : after.registry = world.drawingSuffix.registry := registry_copyResourceAs_error hCopy
  exact hSame

theorem destroyResource_spares (id : String) :
    Spares (destroyResource id : Action (World σ) Unit) := by
  intro world after failure hRun
  rcases destroyResource_cases id world with ⟨refusal, hCase⟩ | ⟨_, _, _, _, _, _, hCase⟩
  · rw [hCase] at hRun
    cases hRun
    rfl
  · rw [hCase] at hRun
    cases hRun

/-- **An operation that fails leaves the registry as it was.** -/
theorem perform_spares (agent : Agent σ) (request : Registry.Request) :
    Spares (perform agent request) := by
  cases request with
  | definePool name kind params => exact (ask_spares _).ignoring
  | createPool document => exact (createPool_spares document).ignoring
  | destroyPool id => exact destroyPool_spares id
  | poolInfo id path => exact (ask_spares _).ignoring
  | customizedPool id node => exact (ask_spares _).ignoring
  | poolNamed name => exact (gets_spares _).ignoring
  | poolIds => exact (gets_spares _).ignoring
  | poolFor type params => exact (gets_spares _).ignoring
  | defineResource name type params => exact (ask_spares _).ignoring
  | createResource definition =>
      exact Spares.ignoring fun _ _ _ hRun => registry_createResource_error hRun
  | copyResource resource destination => exact (copyResource_spares resource destination).ignoring
  | copyResourceAs resource destination suffix =>
      exact Spares.ignoring fun _ _ _ hRun => registry_copyResourceAs_error hRun
  | destroyResource id => exact destroyResource_spares id
  | updateResource id command =>
      exact (spares_of_failsBy fun world => updateResource_failsBy agent id command world).ignoring
  | requestResource id request =>
      exact
        (spares_of_failsBy fun world => requestResource_failsBy agent id request world).ignoring
  | resourceDocument id => exact (ask_spares _).ignoring
  | resourceInfo id path verbose => exact (ask_spares _).ignoring
  | resourceIds pool => exact (ask_spares _).ignoring

/-! ## Operations that make no call -/

/-- No call is made. -/
def Quiet (before after : World σ) : Prop := after.link = before.link

instance : IsPreorder (World σ) Quiet where
  refl _ := rfl
  trans _ _ _ first second := second.trans first

theorem createResource_quiet (definition : ResourceDocument) :
    (createResource definition : Action (World σ) String).Along Quiet := by
  intro world
  rcases createResource_cases definition world with
    ⟨_, hRun⟩ | ⟨_, hRun⟩ | ⟨_, _, _, _, _, _, hRun⟩
  all_goals
    rw [hRun]
    rfl

theorem destroyResource_quiet (id : String) :
    (destroyResource id : Action (World σ) Unit).Along Quiet := by
  intro world
  rcases destroyResource_cases id world with ⟨_, hRun⟩ | ⟨_, _, _, _, _, _, hRun⟩
  all_goals
    rw [hRun]
    rfl

/-- To bind a resource is no concern of the nodes. -/
theorem bind_quiet (agent : Agent σ) (id : String) (nodes : List String) :
    (updateResource agent id (.bind nodes)).Along Quiet := by
  intro world
  rcases updateResource_cases agent id (.bind nodes) world with
    ⟨_, hRun⟩ | ⟨poolId, pool, resource, -, -, -, -, hRun⟩
  · rw [hRun]
    rfl
  · have hLink : ((Resource.handle agent pool.document (.bind nodes)).run
        ⟨resource, world.link⟩).2.link = world.link := by
      simp only [Resource.handle, Resource.supports, if_true, Resource.bind, Action.run_bind,
        Action.run_gets, Action.run_liftM]
      cases resource.bound pool.document nodes <;> rfl
    rw [hRun]
    exact hLink

end World

end DiskFleet
