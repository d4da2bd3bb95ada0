import DiskFleet.Image.Session
import DiskFleet.Proofs.Resource.Step
import DiskFleet.Registry.Operations
import Mathlib.Logic.Relation

/-!
# What an operation can do to the world

An operation on the registry goes through the world in steps, and fails between any two of them.
`World.Move` lists the steps: an id or a suffix is drawn, a pool is made or removed, a resource is
entered, dropped or worked on, an image call is made. Every operation, successful or not, is a
sequence of moves, so that an invariant of the world is proved by one look at each move.

The moves are kept in three directions. `admits` says which definitions may be entered, `mayDrop`
which resources may be dropped and `mayOpen` which pools may be made; an operation whose effect on
them is known is led along moves with narrow bounds. Making a pool is an operation of its own: all
others are led along `Moves`, which make none.

Beside the moves, each operation that the image commands are made of has one lemma that lists its
outcomes: `createResource_cases`, `copyResourceAs_cases`, `destroyResource_cases` and
`updateResource_cases`.
-/

namespace DiskFleet

namespace Supply

/-- The id that is drawn next. -/
def nextId (supply : Supply) : String := supply.idText supply.ids

/-- The suffix of a length that is drawn next. -/
def nextSuffix (supply : Supply) (length : Nat) : String :=
  supply.suffixText length supply.suffixes

end Supply

/-- A pool that is put back as it was leaves the registry as it was. -/
theorem Registry.putPool_of_get? {registry : Registry} {poolId : String} {pool : Pool}
    (h : registry.pools.get? poolId = some pool) : registry.putPool poolId pool = registry := by
  simp [Registry.putPool, Table.insert_of_get? h]

/-- A command that is let through is handled by the resource. -/
theorem Pool.run_update_of_inside {σ : Type} {agent : Agent σ} {id : String}
    {command : ResourceCommand} {pool : Pool} {resource : Resource} {link : Link σ}
    (hResource : pool.resources.get? id = some resource) (hInside : pool.outside command = []) :
    (Pool.update agent id command).run ⟨pool, link⟩ =
      (((Resource.handle agent pool.document command).run ⟨resource, link⟩).1,
        ⟨{ pool with
            resources := pool.resources.insert id
              ((Resource.handle agent pool.document command).run ⟨resource, link⟩).2.object },
          ((Resource.handle agent pool.document command).run ⟨resource, link⟩).2.link⟩) := by
  simp only [Pool.update, Action.run_bind, Action.run_gets, Action.run_liftM,
    Pool.resource_eq_ok_iff.2 hResource, hInside]
  rfl

/-- A call for an image is one to the image service. -/
theorem Image.service_of_callFor {image : Image} {registry : Registry} {command : String}
    {args : Json} {call : Call} (h : image.callFor registry command args = .ok call) :
    call.service = Call.imageService := by
  obtain ⟨node, -, hNode⟩ := Action.bind_eq_ok_iff.1 h
  obtain ⟨document, -, hCall⟩ := Action.bind_eq_ok_iff.1 hNode
  obtain rfl := Except.ok.inj hCall
  rfl

namespace World

variable {σ α : Type}

/-! ## The world after each move -/

/-- The world once an id has been drawn. -/
def drawingId (world : World σ) : World σ :=
  { world with supply := { world.supply with ids := world.supply.ids + 1 } }

/-- The world once a suffix has been drawn. -/
def drawingSuffix (world : World σ) : World σ :=
  { world with supply := { world.supply with suffixes := world.supply.suffixes + 1 } }

/-- The world with a new pool, under the id that is drawn for it. -/
def openingPool (world : World σ) (document : PoolDocument) : World σ :=
  { world.drawingId with
    registry := world.registry.putPool world.supply.nextId
      (Pool.build document.kind document world.supply.nextId world.registry.cluster) }

/-- The world without a pool. -/
def closingPool (world : World σ) (id : String) : World σ :=
  { world with registry := world.registry.removePool id }

/-- The world with a new resource, under the id that is drawn for it, in a pool that has taken it
in. -/
def entering (world : World σ) (poolId : String) (pool : Pool) : World σ :=
  { world.drawingId with
    registry := (world.registry.putPool poolId pool).enter world.supply.nextId poolId }

/-- The world without a resource, which its pool has given up. -/
def dropping (world : World σ) (poolId : String) (pool : Pool) (id : String) : World σ :=
  { world with registry := (world.registry.putPool poolId pool).strike id }

/-- The world after work on one resource of a pool. -/
def working (world : World σ) (poolId : String) (pool : Pool) (id : String)
    (after : Linked σ Resource) : World σ :=
  { world with
    registry := world.registry.putPool poolId
      { pool with resources := pool.resources.insert id after.object }
    link := after.link }

/-- The world once a call has been made. -/
def calling (agent : Agent σ) (call : Call) (world : World σ) : World σ :=
  { world with link := world.link.calling agent call }

/-- Admits the definitions that the engine makes by itself: copies, and what the classes define. -/
structure Admission (admits : ResourceDocument → Prop) : Prop where
  copied : ∀ (resource : Resource) (destination suffix poolId : String),
    admits { resource.copied destination suffix with pool := some poolId }
  defined : ∀ {cls : ResourceClass} {name : String} {params : Params}
    {definition : ResourceDocument} (poolId : String),
    cls.define name params = .ok definition → admits { definition with pool := some poolId }

/-- Every definition is admitted. -/
theorem Admission.of_all : Admission fun _ => True :=
  ⟨fun _ _ _ _ => trivial, fun _ _ => trivial⟩

/-- One step that an operation can take, with its guards. -/
inductive Move (agent : Agent σ) (admits : ResourceDocument → Prop) (mayDrop : String → Prop)
    (mayOpen : PoolDocument → Prop) : World σ → World σ → Prop
  | drawId (world : World σ) : Move agent admits mayDrop mayOpen world world.drawingId
  | drawSuffix (world : World σ) : Move agent admits mayDrop mayOpen world world.drawingSuffix
  | openPool (world : World σ) {document : PoolDocument} :
      mayOpen document → Move agent admits mayDrop mayOpen world (world.openingPool document)
  | closePool {world : World σ} {id : String} {pool : Pool} :
      world.registry.pools.get? id = some pool → pool.hasResources = false →
      Move agent admits mayDrop mayOpen world (world.closingPool id)
  | enter {world : World σ} {poolId : String} {pool after : Pool} {definition : ResourceDocument} :
      admits definition → world.registry.pools.get? poolId = some pool →
      pool.addResource world.supply.nextId definition = .ok after →
      Move agent admits mayDrop mayOpen world (world.entering poolId after)
  | drop {world : World σ} {id poolId : String} {pool after : Pool} :
      mayDrop id → world.registry.owners.get? id = some poolId →
      world.registry.pools.get? poolId = some pool → pool.dropResource id = .ok after →
      Move agent admits mayDrop mayOpen world (world.dropping poolId after id)
  /-- A command that names no node outside the pool was handled. -/
  | work {world : World σ} {id poolId : String} {pool : Pool} {resource : Resource}
      {command : ResourceCommand} :
      world.registry.owners.get? id = some poolId →
      world.registry.pools.get? poolId = some pool →
      pool.resources.get? id = some resource → pool.outside command = [] →
      Move agent admits mayDrop mayOpen world
        (world.working poolId pool id
          ((Resource.handle agent pool.document command).run ⟨resource, world.link⟩).2)
  /-- Work for an image was asked for, on its primary node. -/
  | callImage {world : World σ} {image : Image} {command : String} {args : Json} {call : Call} :
      image.callFor world.registry command args = .ok call →
      Move agent admits mayDrop mayOpen world (world.calling agent call)

/-- Any number of moves, which may make pools. -/
abbrev Course (agent : Agent σ) (admits : ResourceDocument → Prop) (mayDrop : String → Prop)
    (mayOpen : PoolDocument → Prop) : World σ → World σ → Prop :=
  Relation.ReflTransGen (Move agent admits mayDrop mayOpen)

/-- Any number of moves that make no pool. -/
abbrev Moves (agent : Agent σ) (admits : ResourceDocument → Prop) (mayDrop : String → Prop) :
    World σ → World σ → Prop :=
  Course agent admits mayDrop fun _ => False

/-- Bounds that allow more allow the same moves. -/
theorem Course.mono {agent : Agent σ} {admits admits' : ResourceDocument → Prop}
    {mayDrop mayDrop' : String → Prop} {mayOpen mayOpen' : PoolDocument → Prop}
    {before after : World σ} (hAdmits : ∀ definition, admits definition → admits' definition)
    (hMayDrop : ∀ id, mayDrop id → mayDrop' id)
    (hMayOpen : ∀ document, mayOpen document → mayOpen' document)
    (h : Course agent admits mayDrop mayOpen before after) :
    Course agent admits' mayDrop' mayOpen' before after := by
  refine Relation.ReflTransGen.mono ?_ _ _ h
  intro world next hMove
  cases hMove with
  | drawId => exact .drawId _
  | drawSuffix => exact .drawSuffix _
  | openPool hDocument => exact .openPool _ (hMayOpen _ hDocument)
  | closePool hPool hEmpty => exact .closePool hPool hEmpty
  | enter hDefinition hPool hAdd => exact .enter (hAdmits _ hDefinition) hPool hAdd
  | drop hId hOwner hPool hDrop => exact .drop (hMayDrop _ hId) hOwner hPool hDrop
  | work hOwner hPool hResource hInside => exact .work hOwner hPool hResource hInside
  | callImage hCall => exact .callImage hCall

/-- The same without pools that are made. -/
theorem Moves.mono {agent : Agent σ} {admits admits' : ResourceDocument → Prop}
    {mayDrop mayDrop' : String → Prop} {before after : World σ}
    (hAdmits : ∀ definition, admits definition → admits' definition)
    (hMayDrop : ∀ id, mayDrop id → mayDrop' id) (h : Moves agent admits mayDrop before after) :
    Moves agent admits' mayDrop' before after :=
  Course.mono hAdmits hMayDrop (fun _ h => h) h

/-! ## The outcomes of each operation -/

@[simp] theorem run_freshId (world : World σ) :
    (freshId : Action (World σ) String).run world = (.ok world.supply.nextId, world.drawingId) :=
  rfl

@[simp] theorem run_freshSuffix (length : Nat) (world : World σ) :
    (freshSuffix length : Action (World σ) String).run world =
      (.ok (world.supply.nextSuffix length), world.drawingSuffix) :=
  rfl

@[simp] theorem run_ask (f : Registry → Except Failure α) (world : World σ) :
    (ask f : Action (World σ) α).run world = (f world.registry, world) := rfl

/-- Making a resource: refused before or after the draw of its id, or entered. -/
theorem createResource_cases (definition : ResourceDocument) (world : World σ) :
    (∃ failure, (createResource definition).run world = (.error failure, world)) ∨
    (∃ failure, (createResource definition).run world = (.error failure, world.drawingId)) ∨
      ∃ poolId pool after, definition.pool = some poolId ∧
        world.registry.pools.get? poolId = some pool ∧
        pool.addResource world.supply.nextId definition = .ok after ∧
        (createResource definition).run world =
          (.ok world.supply.nextId, world.entering poolId after) := by
  unfold createResource
  cases hNamed : definition.pool with
  | none => exact .inl ⟨_, rfl⟩
  | some poolId =>
      simp only [Action.run_bind, run_ask, Registry.pool]
      cases hPool : world.registry.pools.get? poolId with
      | none => exact .inl ⟨_, rfl⟩
      | some pool =>
          simp only [run_freshId, Action.run_liftM]
          cases hAdd : pool.addResource world.supply.nextId definition with
          | error failure => exact .inr (.inl ⟨failure, rfl⟩)
          | ok after => exact .inr (.inr ⟨poolId, pool, after, rfl, hPool, hAdd, rfl⟩)

/-- Copying a resource: refused before or after the draw of the copy's id, or entered. -/
theorem copyResourceAs_cases (resource destination suffix : String) (world : World σ) :
    (∃ failure, (copyResourceAs resource destination suffix).run world = (.error failure, world)) ∨
    (∃ failure, (copyResourceAs resource destination suffix).run world =
      (.error failure, world.drawingId)) ∨
      ∃ sourcePoolId sourcePool source pool after,
        world.registry.owners.get? resource = some sourcePoolId ∧
        world.registry.pools.get? sourcePoolId = some sourcePool ∧
        sourcePool.resources.get? resource = some source ∧
        world.registry.pools.get? destination = some pool ∧
        pool.addCopy world.supply.nextId (source.copied destination suffix) = .ok after ∧
        (copyResourceAs resource destination suffix).run world =
          (.ok world.supply.nextId, world.entering destination after) := by
  unfold copyResourceAs
  simp only [Action.run_bind, run_ask, Action.run_liftM, run_freshId]
  cases hSource : world.registry.poolOf resource with
  | error failure => exact .inl ⟨failure, rfl⟩
  | ok sourcePool =>
      obtain ⟨sourcePoolId, hOwner, hSourcePool⟩ := Registry.poolOf_eq_ok_iff.1 hSource
      dsimp only
      cases hCopy : sourcePool.copyOf resource destination suffix with
      | error failure => exact .inl ⟨failure, rfl⟩
      | ok copy =>
          obtain ⟨source, hResource, rfl⟩ := Pool.copyOf_eq_ok_iff.1 hCopy
          dsimp only
          cases hPool : world.registry.pool destination with
          | error failure => exact .inl ⟨failure, rfl⟩
          | ok pool =>
              dsimp only
              cases hAdd : pool.addCopy world.supply.nextId (source.copied destination suffix) with
              | error failure => exact .inr (.inl ⟨failure, rfl⟩)
              | ok after =>
                  exact .inr (.inr ⟨sourcePoolId, sourcePool, source, pool, after, hOwner,
                    hSourcePool, hResource, Registry.pool_eq_ok_iff.1 hPool, hAdd, rfl⟩)

/-- Removing a resource: refused, or dropped by its pool. -/
theorem destroyResource_cases (id : String) (world : World σ) :
    (∃ failure, (destroyResource id).run world = (.error failure, world)) ∨
      ∃ poolId pool after, world.registry.owners.get? id = some poolId ∧
        world.registry.pools.get? poolId = some pool ∧ pool.dropResource id = .ok after ∧
        (destroyResource id).run world = (.ok (), world.dropping poolId after id) := by
  unfold destroyResource
  simp only [Action.run_bind, run_ask, Action.run_liftM]
  cases hOwner : world.registry.owner id with
  | error failure => exact .inl ⟨failure, rfl⟩
  | ok poolId =>
      dsimp only
      cases hPool : world.registry.pool poolId with
      | error failure => exact .inl ⟨failure, rfl⟩
      | ok pool =>
          dsimp only
          cases hDrop : pool.dropResource id with
          | error failure => exact .inl ⟨failure, rfl⟩
          | ok after =>
              exact .inr ⟨poolId, pool, after, Registry.owner_eq_ok_iff.1 hOwner,
                Registry.pool_eq_ok_iff.1 hPool, hDrop, rfl⟩

/-- A command that names no node outside the pool is handled in its pool. -/
theorem run_updateResource_of_inside {agent : Agent σ} {id poolId : String}
    {command : ResourceCommand} {world : World σ} {pool : Pool} {resource : Resource}
    (hOwner : world.registry.owners.get? id = some poolId)
    (hPool : world.registry.pools.get? poolId = some pool)
    (hResource : pool.resources.get? id = some resource) (hInside : pool.outside command = []) :
    (updateResource agent id command).run world =
      (((Resource.handle agent pool.document command).run ⟨resource, world.link⟩).1,
        world.working poolId pool id
          ((Resource.handle agent pool.document command).run ⟨resource, world.link⟩).2) := by
  simp only [updateResource, Action.run_bind, run_ask, Registry.owner_eq_ok_iff.2 hOwner,
    Registry.pool_eq_ok_iff.2 hPool, onPool, Action.run_within,
    Pool.run_update_of_inside hResource hInside]
  rfl

/-- A command for a resource: refused before it is handled, or handled in its pool. -/
theorem updateResource_cases (agent : Agent σ) (id : String) (command : ResourceCommand)
    (world : World σ) :
    (∃ failure, (updateResource agent id command).run world = (.error failure, world)) ∨
      ∃ poolId pool resource, world.registry.owners.get? id = some poolId ∧
        world.registry.pools.get? poolId = some pool ∧
        pool.resources.get? id = some resource ∧ pool.outside command = [] ∧
        (updateResource agent id command).run world =
          (((Resource.handle agent pool.document command).run ⟨resource, world.link⟩).1,
            world.working poolId pool id
              ((Resource.handle agent pool.document command).run ⟨resource, world.link⟩).2) := by
  unfold updateResource
  simp only [Action.run_bind, run_ask]
  cases hOwner : world.registry.owner id with
  | error failure => exact .inl ⟨failure, rfl⟩
  | ok poolId =>
      dsimp only
      cases hPool : world.registry.pool poolId with
      | error failure => exact .inl ⟨failure, rfl⟩
      | ok pool =>
          have hStored := Registry.pool_eq_ok_iff.1 hPool
          -- a refused command puts the pool back as it was
          have hBack : { world with registry := world.registry.putPool poolId pool } = world := by
            rw [Registry.putPool_of_get? hStored]
          simp only [onPool, Action.run_within]
          cases hResource : pool.resources.get? id with
          | none =>
              rw [Pool.run_update_of_not_contains agent command hResource]
              exact .inl ⟨_, congrArg (Prod.mk _) hBack⟩
          | some resource =>
              by_cases hOutside : pool.outside command = []
              · rw [Pool.run_update_of_inside hResource hOutside]
                exact .inr ⟨poolId, pool, resource, Registry.owner_eq_ok_iff.1 hOwner, hStored,
                  hResource, hOutside, rfl⟩
              · rw [Pool.run_update_of_outside agent hResource hOutside]
                exact .inl ⟨_, congrArg (Prod.mk _) hBack⟩

/-! ## Operations as moves -/

section moves

variable {agent : Agent σ} {admits : ResourceDocument → Prop} {mayDrop : String → Prop}

theorem ask_moves {f : Registry → Except Failure α} :
    (ask f : Action (World σ) α).Along (Moves agent admits mayDrop) :=
  fun _ => .refl

theorem freshId_moves : (freshId : Action (World σ) String).Along (Moves agent admits mayDrop) :=
  fun world => .single (.drawId world)

theorem freshSuffix_moves (length : Nat) :
    (freshSuffix length : Action (World σ) String).Along (Moves agent admits mayDrop) :=
  fun world => .single (.drawSuffix world)

/-- Making a pool is the one move that makes one. -/
theorem createPool_course {mayOpen : PoolDocument → Prop} {document : PoolDocument}
    (hMayOpen : mayOpen document) :
    (createPool document : Action (World σ) String).Along
      (Course agent admits mayDrop mayOpen) := by
  intro world
  exact .single (.openPool world hMayOpen)

theorem destroyPool_moves (id : String) :
    (destroyPool id : Action (World σ) Unit).Along (Moves agent admits mayDrop) := by
  intro world
  simp only [destroyPool, Action.run_bind, run_ask]
  cases hPool : world.registry.pool id with
  | error failure => exact .refl
  | ok pool =>
      dsimp only
      split
      · exact .refl
      · next hEmpty =>
        exact .single (.closePool (Registry.pool_eq_ok_iff.1 hPool) (Bool.eq_false_iff.2 hEmpty))

theorem createResource_moves {definition : ResourceDocument} (hAdmits : admits definition) :
    (createResource definition : Action (World σ) String).Along (Moves agent admits mayDrop) := by
  intro world
  rcases createResource_cases definition world with
    ⟨failure, hRun⟩ | ⟨failure, hRun⟩ | ⟨poolId, pool, after, -, hPool, hAdd, hRun⟩
  · rw [hRun]
  · rw [hRun]
    exact .single (.drawId world)
  · rw [hRun]
    exact .single (.enter hAdmits hPool hAdd)

theorem destroyResource_moves {id : String} (hMayDrop : mayDrop id) :
    (destroyResource id : Action (World σ) Unit).Along (Moves agent admits mayDrop) := by
  intro world
  rcases destroyResource_cases id world with
    ⟨failure, hRun⟩ | ⟨poolId, pool, after, hOwner, hPool, hDrop, hRun⟩
  · rw [hRun]
  · rw [hRun]
    exact .single (.drop hMayDrop hOwner hPool hDrop)

theorem updateResource_moves (id : String) (command : ResourceCommand) :
    (updateResource agent id command).Along (Moves agent admits mayDrop) := by
  intro world
  rcases updateResource_cases agent id command world with
    ⟨failure, hRun⟩ | ⟨poolId, pool, resource, hOwner, hPool, hResource, hInside, hRun⟩
  · rw [hRun]
  · rw [hRun]
    exact .single (.work hOwner hPool hResource hInside)

theorem requestResource_moves (id : String) (request : Json) :
    (requestResource agent id request).Along (Moves agent admits mayDrop) := by
  refine Action.along_bind (Action.along_liftM _) fun command => ?_
  exact Action.along_bind ask_moves fun resolved => updateResource_moves id resolved

theorem copyResourceAs_moves (hAdmission : Admission admits)
    (resource destination suffix : String) :
    (copyResourceAs resource destination suffix : Action (World σ) String).Along
      (Moves agent admits mayDrop) := by
  intro world
  rcases copyResourceAs_cases resource destination suffix world with
    ⟨failure, hRun⟩ | ⟨failure, hRun⟩ |
      ⟨sourcePoolId, sourcePool, source, pool, after, -, -, -, hPool, hAdd, hRun⟩
  · rw [hRun]
  · rw [hRun]
    exact .single (.drawId world)
  · rw [hRun]
    exact .single (.enter (hAdmission.copied source destination suffix pool.idText) hPool
      (Pool.addResource_of_addCopy hAdd))

theorem copyResource_moves (hAdmission : Admission admits) (resource destination : String) :
    (copyResource resource destination : Action (World σ) String).Along
      (Moves agent admits mayDrop) := by
  apply Action.along_gets_bind
  intro world
  have hCopy : Moves agent admits mayDrop world.drawingSuffix _ :=
    copyResourceAs_moves hAdmission resource destination
      (world.supply.nextSuffix world.registry.suffixLength) world.drawingSuffix
  exact (Relation.ReflTransGen.single (.drawSuffix world)).trans hCopy

theorem prepare_moves (id : String) (nodes : List String) :
    (prepare agent id nodes).Along (Moves agent admits mayDrop) :=
  Action.along_bind (updateResource_moves id _) fun _ =>
    Action.along_bind (updateResource_moves id _) fun _ => Action.along_pure _

theorem discard_moves {id : String} (hMayDrop : mayDrop id) :
    (discard agent id).Along (Moves agent admits mayDrop) := by
  apply Action.along_bind (Action.along_attempt (updateResource_moves id _))
  intro result
  cases result with
  | error failure => exact Action.along_pure _
  | ok out =>
      exact Action.along_bind (Action.along_attempt (destroyResource_moves hMayDrop))
        fun _ => Action.along_pure _

/-- A new resource gets the next id. -/
theorem eq_nextId_of_run_createResource {definition : ResourceDocument} {id : String}
    {world after : World σ} (h : (createResource definition).run world = (.ok id, after)) :
    id = world.supply.nextId := by
  rcases createResource_cases definition world with
    ⟨failure, hRun⟩ | ⟨failure, hRun⟩ | ⟨_, _, _, _, _, _, hRun⟩ <;>
  · rw [hRun] at h
    cases h
    try rfl

/-- So does a copy. -/
theorem eq_nextId_of_run_copyResourceAs {resource destination suffix id : String}
    {world after : World σ}
    (h : (copyResourceAs resource destination suffix).run world = (.ok id, after)) :
    id = world.supply.nextId := by
  rcases copyResourceAs_cases resource destination suffix world with
    ⟨failure, hRun⟩ | ⟨failure, hRun⟩ | ⟨_, _, _, _, _, _, _, _, _, _, hRun⟩ <;>
  · rw [hRun] at h
    cases h
    try rfl

theorem eq_nextId_of_run_copyResource {resource destination id : String} {world after : World σ}
    (h : (copyResource resource destination).run world = (.ok id, after)) :
    id = world.supply.nextId := by
  have hCopy : (copyResourceAs resource destination
      (world.supply.nextSuffix world.registry.suffixLength)).run world.drawingSuffix =
        (.ok id, after) := h
  -- drawing a suffix leaves the ids alone
  have hId : id = world.drawingSuffix.supply.nextId := eq_nextId_of_run_copyResourceAs hCopy
  exact hId

/-- A clone can drop nothing but its own copy. -/
theorem cloneResource_moves (hAdmission : Admission admits) (resource : String)
    (world : World σ) :
    Moves agent admits (· = world.supply.nextId) world
      ((cloneResource agent resource).run world).2 := by
  refine Action.rel_run_bind .refl fun source after hAsk => ?_
  obtain rfl : world = after := congrArg Prod.snd hAsk
  apply Action.rel_run_bind (copyResource_moves hAdmission _ _ world)
  intro id after hCopy
  have hId : id = world.supply.nextId := eq_nextId_of_run_copyResource hCopy
  refine Action.along_bind (Action.along_attempt (prepare_moves id _)) (fun result => ?_) after
  cases result with
  | ok out => exact Action.along_pure _
  | error failure =>
      refine Action.along_bind (Action.along_gets _) fun recovery => ?_
      dsimp only
      split
      · exact Action.along_bind (discard_moves hId) fun _ => Action.along_fail _
      · exact Action.along_fail _

end moves

end World

end DiskFleet
