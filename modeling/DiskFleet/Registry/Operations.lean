import DiskFleet.Registry.Basic

/-!
# Operations on the registry

Making and removing pools and resources, and commands for a resource by its id. An operation other
than `cloneResource` is refused before it changes anything or goes through as a whole. A clone is a
copy that is bound and allocated; when that fails half-way, the recovery setting says whether the
copy is kept or discarded.

A resource object is first made in its pool and then entered in the registry, and struck after it
was removed from its pool.
-/

namespace DiskFleet

namespace World

variable {σ α : Type}

/-- Replaces the registry by a function of it. -/
def modifyRegistry (f : Registry → Registry) : Action (World σ) Unit :=
  Action.modify fun world => { world with registry := f world.registry }

/-- A value or failure that is computed from the registry. -/
def ask (f : Registry → Except Failure α) : Action (World σ) α := do
  let registry ← Action.gets (·.registry)
  f registry

/-- Draws a fresh id. -/
def freshId : Action (World σ) String := fun world =>
  (.ok (world.supply.idText world.supply.ids),
    { world with supply := { world.supply with ids := world.supply.ids + 1 } })

/-- Draws a name suffix of a length. -/
def freshSuffix (length : Nat) : Action (World σ) String := fun world =>
  (.ok (world.supply.suffixText length world.supply.suffixes),
    { world with supply := { world.supply with suffixes := world.supply.suffixes + 1 } })

/-- Runs a step on one pool, which is then put back under its id. -/
def onPool (id : String) (pool : Pool) (action : Action (Linked σ Pool) α) :
    Action (World σ) α :=
  Action.within (fun world => ⟨pool, world.link⟩)
    (fun after world =>
      { world with registry := world.registry.putPool id after.object, link := after.link })
    action

/-! ## Pools -/

/-- Makes the pool object of a document; answers with its id. -/
def createPool (document : PoolDocument) : Action (World σ) String := do
  let id ← freshId
  let cluster ← Action.gets (·.registry.cluster)
  modifyRegistry fun registry =>
    registry.putPool id (Pool.build document.kind document id cluster)
  return id

/-- Removes a pool that owns no resources. -/
def destroyPool (id : String) : Action (World σ) Unit := do
  let pool ← ask (·.pool id)
  if pool.hasResources then Action.fail (.illegalTransition (.poolOwnsResources id))
  else modifyRegistry (·.removePool id)

/-! ## Resources -/

/-- Makes the resource object of a definition in the pool that it names; answers with its id. -/
def createResource (definition : ResourceDocument) : Action (World σ) String := do
  match definition.pool with
  | none => Action.fail (.invalidRequest (.poolUnnamed definition.name))
  | some poolId =>
    let pool ← ask (·.pool poolId)
    let id ← freshId
    let pool ← pool.addResource id definition
    modifyRegistry fun registry => (registry.putPool poolId pool).enter id poolId
    return id

/-- Makes a copy of a resource in a pool, named with a suffix, unbound and not allocated; answers
with its id. -/
def copyResourceAs (resource destination suffix : String) : Action (World σ) String := do
  let source ← ask (·.poolOf resource)
  let definition ← source.copyOf resource destination suffix
  let pool ← ask (·.pool destination)
  let id ← freshId
  let pool ← pool.addCopy id definition
  modifyRegistry fun registry => (registry.putPool destination pool).enter id destination
  return id

/-- The same under a fresh suffix. -/
def copyResource (resource destination : String) : Action (World σ) String := do
  let length ← Action.gets (·.registry.suffixLength)
  let suffix ← freshSuffix length
  copyResourceAs resource destination suffix

/-- Removes a resource object whose storage is gone. -/
def destroyResource (id : String) : Action (World σ) Unit := do
  let poolId ← ask (·.owner id)
  let pool ← ask (·.pool poolId)
  let pool ← pool.dropResource id
  modifyRegistry fun registry => (registry.putPool poolId pool).strike id

variable (agent : Agent σ)

/-- Carries out a command whose nodes are named as they are. -/
def updateResource (id : String) (command : ResourceCommand) : Action (World σ) Json := do
  let poolId ← ask (·.owner id)
  let pool ← ask (·.pool poolId)
  onPool poolId pool (Pool.update agent id command)

/-- Carries out a request, whose nodes are given by tags. -/
def requestResource (id : String) (request : Json) : Action (World σ) Json := do
  let command ← ResourceCommand.ofRequest request
  let command ← ask fun registry => command.resolve registry.cluster
  updateResource agent id command

/-- Releases a resource and destroys it, as far as that goes. -/
def discard (id : String) : Action (World σ) Unit := do
  match ← Action.attempt (updateResource agent id (.release ∅)) with
  | .error _ => return ()
  | .ok _ =>
    let _ ← Action.attempt (destroyResource id)

/-- Binds a new copy to nodes and allocates it. -/
def prepare (id : String) (nodes : List String) : Action (World σ) Unit := do
  let _ ← updateResource agent id (.bind nodes)
  let _ ← updateResource agent id (.allocate ∅)

/-- Makes a copy of a resource in its own pool, bound to the same nodes and allocated; answers with
its id. -/
def cloneResource (resource : String) : Action (World σ) String := do
  let source ← ask (·.resourceDocument resource)
  let id ← copyResource resource (source.pool.getD "")
  match ← Action.attempt (prepare agent id source.bound) with
  | .ok _ => return id
  | .error failure =>
    let recovery ← Action.gets (·.registry.recovery)
    if recovery = .rollback then discard agent id
    Action.fail failure

end World

end DiskFleet
