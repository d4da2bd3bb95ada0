import DiskFleet.Proofs.Engine.Access
import DiskFleet.Proofs.Engine.Registry
import DiskFleet.Proofs.Registry.Furnished
import DiskFleet.Proofs.Resource.Release

/-!
# From a request for a volume to its storage

A client that wants storage defines a volume from parameters, makes its object, binds it to the
nodes of its pool and allocates it. Each of these steps checks what the step before it produced: the
pool is selected by one rule and holds volumes by another, the object is built for the class of the
pool, a backing is derived for every node of the access list, and the allocation goes to the first
bound node. In an engine whose pools were defined there, a request can fail at its definition only,
for two reasons, and once it is defined nothing is in the way until an agent is asked.

## Main results

* `Engine.volume_pipeline`: when a volume is defined, and what can be done with it then.
-/

namespace DiskFleet

/-! ## Pools that meet a request for a volume -/

theorem PoolDocument.access_ne_nil_of_reachable {pool : PoolDocument} {cluster : Cluster}
    {params : Params} (h : pool.reachable cluster params = true) : pool.access ≠ [] := by
  intro hNone
  unfold reachable at h
  split at h
  · split at h
    · simp [admits, hNone] at h
    · cases h
  · simp [hNone] at h

/-- A pool that meets such a request holds volumes of one kind, on some node. -/
theorem Pool.of_meets_volume {pool : Pool} {cluster : Cluster} {params : Params}
    (h : pool.meets cluster .volume params = true) :
    (∃ kind, pool.kind.classFor? .volume = some (.volume kind)) ∧ pool.document.access ≠ [] := by
  unfold meets PoolKind.meets at h
  cases hKind : pool.kind with
  | linuxBridge =>
      rw [hKind] at h
      cases h
  | _ =>
      rw [hKind] at h
      simp only [Bool.and_eq_true] at h
      exact ⟨⟨_, rfl⟩, PoolDocument.access_ne_nil_of_reachable h.2⟩

/-! ## The definition -/

/-- A size that is refused is an invalid request. -/
theorem Size.invalid_of_parse {text : String} {failure : Failure}
    (h : Size.parse text = .error failure) : ∃ cause, failure = .invalidRequest cause := by
  unfold Size.parse at h
  dsimp only at h
  split at h
  · exact ⟨_, (Except.error.inj h).symm⟩
  · split at h
    · exact ⟨_, (Except.error.inj h).symm⟩
    · cases h

/-- A volume as a pool of its kind defines it: nothing is there yet, and a file has a name or a
location. -/
structure ResourceDocument.Planned (definition : ResourceDocument) (kind : VolumeKind) : Prop where
  type : definition.type = .volume
  free : definition.allocated = false
  unbound : definition.bindings = ∅
  ofKind : definition.volumeKind = some kind
  spec : ∃ spec, definition.spec = .volume spec ∧
    (kind = .file → spec.uri.isSome = true ∨ spec.filename.isSome = true)

/-- A file has a location of its own or a name. -/
theorem ResourceClass.fileLocation_isSome (name : String) (params : Params) :
    (fileLocation name params).1.isSome = true ∨ (fileLocation name params).2.isSome = true := by
  unfold fileLocation
  dsimp only
  split
  · exact .inl rfl
  · exact .inr rfl

/-- A volume is defined if its size can be read. -/
theorem ResourceClass.defineVolume_cases (kind : VolumeKind) (name : String) (params : Params) :
    (∃ cause, Size.parse (params.getD "image_size" defaultVolumeSize) =
        .error (.invalidRequest cause) ∧
      defineVolume kind name params = .error (.invalidRequest cause)) ∨
    ∃ size definition, Size.parse (params.getD "image_size" defaultVolumeSize) = .ok size ∧
      defineVolume kind name params = .ok definition ∧ definition.Planned kind := by
  cases hSize : Size.parse (params.getD "image_size" defaultVolumeSize) with
  | error failure =>
      obtain ⟨cause, rfl⟩ := Size.invalid_of_parse hSize
      exact .inl ⟨cause, rfl, by simp only [defineVolume, hSize]; rfl⟩
  | ok size =>
      refine .inr ⟨size, _, rfl, by simp only [defineVolume, hSize]; rfl, rfl, rfl, rfl, rfl,
        _, rfl, fun hFile => ?_⟩
      subst hFile
      exact fileLocation_isSome name params

namespace Registry

variable {registry : Registry} {type : ResourceType} {params : Params} {poolId : String}

theorem poolFor?_eq_none_iff :
    registry.poolFor? type params = none ↔ ∀ poolId pool, registry.pools.get? poolId = some pool →
      pool.meets registry.cluster type params = false := by
  simp only [poolFor?, Option.map_eq_none_iff, List.find?_eq_none, Table.values, List.mem_map]
  constructor
  · intro h poolId pool hPool
    exact Bool.eq_false_iff.2 (h pool ⟨(poolId, pool), Table.mem_entries_iff.2 hPool, rfl⟩)
  · rintro h _ ⟨⟨poolId, stored⟩, hEntry, rfl⟩
    exact Bool.eq_false_iff.1 (h poolId stored (Table.mem_entries_iff.1 hEntry))

/-- The selected pool meets the request, and is found under the id that it is selected by. -/
theorem of_poolFor? (hSound : registry.Sound) (h : registry.poolFor? type params = some poolId) :
    ∃ pool, registry.pools.get? poolId = some pool ∧
      pool.meets registry.cluster type params = true := by
  obtain ⟨pool, hFound, rfl⟩ := Option.map_eq_some_iff.1 h
  have hMeets : pool.meets registry.cluster type params = true := by
    simpa using List.find?_some hFound
  obtain ⟨entry, hEntry, rfl⟩ := List.mem_map.1 (List.mem_of_find?_eq_some hFound)
  have hStored : registry.pools.get? entry.1 = some entry.2 := Table.mem_entries_iff.1 hEntry
  rw [hSound.idText_pool hStored]
  exact ⟨entry.2, hStored, hMeets⟩

/-- **How a volume is defined**: there is no pool for it, its size cannot be read, or it is planned
for the selected pool. -/
theorem defineResource_volume_cases (hSound : registry.Sound) (name : String) (params : Params) :
    (registry.poolFor? .volume params = none ∧
      ∃ cause, registry.defineResource name .volume params = .error (.policyViolation cause)) ∨
    (registry.poolFor? .volume params ≠ none ∧
      ∃ cause, Size.parse (params.getD "image_size" defaultVolumeSize) =
          .error (.invalidRequest cause) ∧
        registry.defineResource name .volume params = .error (.invalidRequest cause)) ∨
    ∃ poolId pool kind size definition, registry.poolFor? .volume params = some poolId ∧
      registry.pools.get? poolId = some pool ∧
      pool.meets registry.cluster .volume params = true ∧
      pool.kind.classFor? .volume = some (.volume kind) ∧
      Size.parse (params.getD "image_size" defaultVolumeSize) = .ok size ∧
      registry.defineResource name .volume params = .ok definition ∧
      definition.pool = some poolId ∧ definition.Planned kind := by
  cases hFor : registry.poolFor? .volume params with
  | none =>
      refine .inl ⟨rfl, .noPoolMeets ResourceType.volume.word name, ?_⟩
      simp only [defineResource, hFor]
  | some poolId =>
      obtain ⟨pool, hPool, hMeets⟩ := of_poolFor? hSound hFor
      obtain ⟨⟨kind, hClass⟩, -⟩ := Pool.of_meets_volume hMeets
      have hDefine : registry.defineResource name .volume params =
          (ResourceClass.defineVolume kind name params).map fun defined =>
            { defined with pool := some poolId } := by
        simp only [defineResource, hFor, pool_eq_ok_iff.2 hPool, Pool.defineResource,
          Pool.classFor_eq_ok_iff.2 hClass, hSound.idText_pool hPool, ResourceClass.define, bind,
          Except.bind]
        cases ResourceClass.defineVolume kind name params <;> rfl
      rcases ResourceClass.defineVolume_cases kind name params with
        ⟨cause, hSize, hRefused⟩ | ⟨size, definition, hSize, hDefined, hPlanned⟩
      · refine .inr (.inl ⟨nofun, cause, hSize, ?_⟩)
        rw [hDefine, hRefused]
        rfl
      · refine .inr (.inr ⟨poolId, pool, kind, size, _, rfl, hPool, hMeets, hClass, hSize,
          by rw [hDefine, hDefined]; rfl, rfl, ?_⟩)
        exact ⟨hPlanned.type, hPlanned.free, hPlanned.unbound, hPlanned.ofKind, hPlanned.spec⟩

/-- A volume is refused by a policy exactly if no pool is selected. -/
theorem defineResource_volume_violates_iff (hSound : registry.Sound) (name : String)
    (params : Params) :
    (∃ cause, registry.defineResource name .volume params = .error (.policyViolation cause)) ↔
      registry.poolFor? .volume params = none := by
  rcases defineResource_volume_cases hSound name params with
    ⟨hNone, cause, hDefine⟩ | ⟨hSome, cause, -, hDefine⟩ |
      ⟨poolId, -, -, -, definition, hFor, -, -, -, -, hDefine, -, -⟩
  · exact iff_of_true ⟨cause, hDefine⟩ hNone
  · refine iff_of_false ?_ hSome
    rintro ⟨violated, hFailed⟩
    cases hDefine.symm.trans hFailed
  · refine iff_of_false ?_ (by rw [hFor]; exact Option.some_ne_none poolId)
    rintro ⟨violated, hFailed⟩
    cases hDefine.symm.trans hFailed

/-- A volume is refused as invalid exactly if a pool is selected and the size cannot be read. -/
theorem defineResource_volume_invalid_iff (hSound : registry.Sound) (name : String)
    (params : Params) :
    (∃ cause, registry.defineResource name .volume params = .error (.invalidRequest cause)) ↔
      registry.poolFor? .volume params ≠ none ∧
        ∃ failure, Size.parse (params.getD "image_size" defaultVolumeSize) = .error failure := by
  rcases defineResource_volume_cases hSound name params with
    ⟨hNone, cause, hDefine⟩ | ⟨hSome, cause, hSize, hDefine⟩ |
      ⟨-, -, -, size, definition, -, -, -, -, hSize, hDefine, -, -⟩
  · refine iff_of_false ?_ fun h => h.1 hNone
    rintro ⟨invalid, hFailed⟩
    cases hDefine.symm.trans hFailed
  · exact iff_of_true ⟨cause, hDefine⟩ ⟨hSome, _, hSize⟩
  · refine iff_of_false ?_ ?_
    · rintro ⟨invalid, hFailed⟩
      cases hDefine.symm.trans hFailed
    · rintro ⟨-, failure, hUnread⟩
      cases hSize.symm.trans hUnread

/-- There is no other reason to refuse a volume. -/
theorem failure_of_defineResource_volume (hSound : registry.Sound) {name : String}
    {params : Params} {failure : Failure}
    (h : registry.defineResource name .volume params = .error failure) :
    (∃ cause, failure = .policyViolation cause) ∨ ∃ cause, failure = .invalidRequest cause := by
  rcases defineResource_volume_cases hSound name params with
    ⟨-, cause, hDefine⟩ | ⟨-, cause, -, hDefine⟩ |
      ⟨-, -, -, -, definition, -, -, -, -, -, hDefine, -, -⟩
  · exact .inl ⟨cause, (Except.error.inj (hDefine.symm.trans h)).symm⟩
  · exact .inr ⟨cause, (Except.error.inj (hDefine.symm.trans h)).symm⟩
  · cases hDefine.symm.trans h

/-- A pool stores a resource that it owns. -/
structure Stores (registry : Registry) (poolId : String) (pool : Pool) (id : String)
    (resource : Resource) : Prop where
  owner : registry.owners.get? id = some poolId
  opened : registry.pools.get? poolId = some pool
  stored : pool.resources.get? id = some resource

theorem Stores.found {pool : Pool} {id : String} {resource : Resource}
    (h : registry.Stores poolId pool id resource) : registry.resource? id = some resource :=
  (resource?_eq h.owner h.opened).trans h.stored

end Registry

/-! ## The object, its bindings and its storage -/

namespace World

variable {σ : Type} {agent : Agent σ} {world : World σ} {poolId id : String} {pool : Pool}
  {resource : Resource}

/-- A command that names no node outside the pool is handled, and the pool stores the outcome. -/
theorem run_updateResource_of_stores (agent : Agent σ) (command : ResourceCommand)
    (h : world.registry.Stores poolId pool id resource)
    (hInside : command.nodes ⊆ pool.document.access) {out : Except Failure Json}
    {after : Linked σ Resource}
    (hHandled : (Resource.handle agent pool.document command).run ⟨resource, world.link⟩ =
      (out, after)) :
    (updateResource agent id command).run world = (out, world.working poolId pool id after) ∧
      (world.working poolId pool id after).registry.Stores poolId
        { pool with resources := pool.resources.insert id after.object } id after.object := by
  have hNone : pool.outside command = [] := by
    refine List.filter_eq_nil_iff.2 fun node hNode => ?_
    simpa [PoolDocument.admits] using hInside hNode
  refine ⟨?_, ?_, ?_, ?_⟩
  · rw [run_updateResource_of_inside h.owner h.opened h.stored hNone, hHandled]
  · exact h.owner
  · exact (Table.get?_insert _ _ _ _).trans (if_pos rfl)
  · exact (Table.get?_insert _ _ _ _).trans (if_pos rfl)

/-- **A planned volume is made** in the pool that it names, as it was planned. -/
theorem run_createResource_of_planned {definition : ResourceDocument} {kind : VolumeKind}
    (hPool : world.registry.pools.get? poolId = some pool) (hId : pool.idText = poolId)
    (hClass : pool.kind.classFor? .volume = some (.volume kind))
    (hNamed : definition.pool = some poolId) (hPlanned : definition.Planned kind) :
    ∃ created, (createResource definition).run world = (.ok world.supply.nextId, created) ∧
      created.link = world.link ∧
      created.registry.Stores poolId
        { pool with
          resources := pool.resources.insert world.supply.nextId
            ((ResourceClass.volume kind).build world.supply.nextId definition) }
        world.supply.nextId ((ResourceClass.volume kind).build world.supply.nextId definition) := by
  have hBuild : pool.buildResource world.supply.nextId definition =
      .ok ((ResourceClass.volume kind).build world.supply.nextId definition) := by
    have hSameKind : ¬(definition.type = .volume ∧
        definition.volumeKind ≠ (ResourceClass.volume kind).volumeKind?) := by
      simp [hPlanned.ofKind, ResourceClass.volumeKind?]
    have hOwn : ¬definition.pool ≠ some pool.idText := by simp [hNamed, hId]
    have hClassOf : pool.classFor definition.type = .ok (.volume kind) := by
      rw [hPlanned.type]
      exact Pool.classFor_eq_ok_iff.2 hClass
    rw [Pool.buildResource, if_neg hOwn, hClassOf]
    exact congrArg (fun taken => Except.ok ((ResourceClass.volume kind).build _ taken))
      (if_neg hSameKind)
  refine ⟨world.entering poolId { pool with
    resources := pool.resources.insert world.supply.nextId
      ((ResourceClass.volume kind).build world.supply.nextId definition) }, ?_, rfl, ?_, ?_, ?_⟩
  · simp only [createResource, hNamed, Action.run_bind, run_ask, Registry.pool_eq_ok_iff.2 hPool,
      run_freshId, Action.run_liftM, Pool.addResource, hBuild]
    rfl
  · simp [entering, Registry.enter, Registry.putPool]
  · simp [entering, Registry.enter, Registry.putPool]
  · simp

/-- **A planned volume can be put to use** in a furnished pool: its object is made and bound to the
nodes of the pool, without a call, and its storage is then asked for with one call to the least of
these nodes, which carries the documents of the volume and of its pool. -/
structure Serves (world : World σ) (pool : Pool) (definition : ResourceDocument) : Prop where
  reached : pool.document.access ≠ []
  made : ∃ id created, (createResource definition).run world = (.ok id, created) ∧
    ∀ agent : Agent σ, ∃ out bound resource least,
      (updateResource agent id (.bind [])).run created = (.ok out, bound) ∧
      bound.link = world.link ∧ bound.registry.resource? id = some resource ∧
      (∀ node, node ∈ resource.document.bound ↔ node ∈ pool.document.access) ∧
      least ∈ pool.document.access ∧ (∀ node ∈ pool.document.access, least ≤ node) ∧
      ∀ args : Arguments, args.nodes ⊆ pool.document.access →
        ((updateResource agent id (.allocate args)).run bound).2.link =
          bound.link.calling agent
            { node := least, service := Call.resourceService, method := "allocate"
              args := .obj [("arguments", args.toJson), ("pool", pool.document.toJson),
                ("resource", resource.document.toJson)] }

theorem serves_of_planned {definition : ResourceDocument} {kind : VolumeKind}
    (hSpecifies : pool.kind.Specifies pool.document.spec) (hReached : pool.document.access ≠ [])
    (hPool : world.registry.pools.get? poolId = some pool) (hId : pool.idText = poolId)
    (hClass : pool.kind.classFor? .volume = some (.volume kind))
    (hNamed : definition.pool = some poolId) (hPlanned : definition.Planned kind) :
    world.Serves pool definition := by
  obtain ⟨created, hCreate, hQuiet, hStores⟩ :=
    run_createResource_of_planned hPool hId hClass hNamed hPlanned
  refine ⟨hReached, world.supply.nextId, created, hCreate, fun agent => ?_⟩
  let made := (ResourceClass.volume kind).build world.supply.nextId definition
  -- the pool has a place for the volume on each of its nodes
  obtain ⟨spec, hSpec, hFile⟩ := hPlanned.spec
  have hMadeKind : made.volumeKind = kind := by
    show definition.volumeKind.getD .file = kind
    rw [hPlanned.ofKind]
    rfl
  obtain ⟨place, hPlace⟩ : ∃ place, made.volumeBacking pool.document = .ok place :=
    Resource.exists_volumeBacking hSpecifies (hMadeKind ▸ hClass) hSpec (hMadeKind ▸ hFile)
  have hReach : ∀ node, ∃ backing, made.backingFor pool.document node = .ok backing :=
    fun _ => ⟨place, hPlace⟩
  obtain ⟨bound, hBound⟩ := Resource.exists_bound [] hReach
  obtain ⟨hBind, hStill⟩ := run_updateResource_of_stores agent (.bind []) hStores
    (List.nil_subset _) (Resource.run_bind_of_bound created.link hBound)
  have hNodes : ∀ node, node ∈ bound.document.bound ↔ node ∈ pool.document.access := by
    intro node
    have hUnbound : made.document.bound = [] := congrArg SortedMap.keys hPlanned.unbound
    rw [Resource.mem_bound_of_bound hBound, hUnbound]
    simp
  have hFree : bound.document.allocated = false :=
    (Resource.allocated_of_bound hBound).trans hPlanned.free
  obtain ⟨least, rest, hKeys⟩ := List.exists_cons_of_ne_nil fun hNone : bound.document.bound = [] =>
    hReached (List.eq_nil_iff_forall_not_mem.2 fun node hNode => by
      have hMem := (hNodes node).2 hNode
      rw [hNone] at hMem
      cases hMem)
  refine ⟨_, _, bound, least, hBind, hQuiet, hStill.found, hNodes, ?_, fun node hNode => ?_,
    fun args hArgs => ?_⟩
  · rw [← hNodes, hKeys]
    exact List.mem_cons_self
  · exact SortedMap.le_of_keys_eq_cons hKeys ((hNodes node).2 hNode)
  · rw [(run_updateResource_of_stores agent (.allocate args) hStill hArgs rfl).1]
    exact Resource.link_run_allocate_of_free hFree hKeys

/-- What a furnished registry defines is served by the pool that it selects. -/
theorem serves_of_defined (hSound : world.registry.Sound) (hFurnished : world.registry.Furnished)
    {name : String} {params : Params} {definition : ResourceDocument}
    (h : world.registry.defineResource name .volume params = .ok definition) :
    ∃ poolId pool, world.registry.poolFor? .volume params = some poolId ∧
      world.registry.pools.get? poolId = some pool ∧ world.Serves pool definition := by
  rcases Registry.defineResource_volume_cases hSound name params with
    ⟨-, cause, hDefine⟩ | ⟨-, cause, -, hDefine⟩ |
      ⟨poolId, pool, kind, -, planned, hFor, hPool, hMeets, hClass, -, hDefine, hNamed, hPlanned⟩
  · cases hDefine.symm.trans h
  · cases hDefine.symm.trans h
  · obtain rfl : planned = definition := Except.ok.inj (hDefine.symm.trans h)
    exact ⟨poolId, pool, hFor, hPool, serves_of_planned (hFurnished hPool)
      (Pool.of_meets_volume hMeets).2 hPool (hSound.idText_pool hPool) hClass hNamed hPlanned⟩

end World

namespace Engine

variable {σ : Type} {agent : Agent σ}

/-- **From the request to the storage.** Of an engine whose pools are defined in it, a volume is
refused at its definition by a policy exactly if no pool meets the request, and as invalid exactly
if some pool does and the size cannot be read; there is no other failure. What is defined is for the
pool that is selected, and can be put to use there. -/
theorem volume_pipeline {start engine : Engine σ} (hVacant : start.Vacant)
    (hDistinct : start.world.supply.Distinct)
    (hRun : Run agent (fun engine operation => operation.Opens engine.Defines) start engine)
    (name : String) (params : Params) :
    ((∃ cause, engine.world.registry.defineResource name .volume params =
        .error (.policyViolation cause)) ↔
      ∀ poolId pool, engine.world.registry.pools.get? poolId = some pool →
        pool.meets engine.world.registry.cluster .volume params = false) ∧
    ((∃ cause, engine.world.registry.defineResource name .volume params =
        .error (.invalidRequest cause)) ↔
      (∃ poolId pool, engine.world.registry.pools.get? poolId = some pool ∧
        pool.meets engine.world.registry.cluster .volume params = true) ∧
      ∃ failure, Size.parse (params.getD "image_size" defaultVolumeSize) = .error failure) ∧
    (∀ failure, engine.world.registry.defineResource name .volume params = .error failure →
      (∃ cause, failure = .policyViolation cause) ∨ ∃ cause, failure = .invalidRequest cause) ∧
    ∀ definition, engine.world.registry.defineResource name .volume params = .ok definition →
      ∃ poolId pool, engine.world.registry.poolFor? .volume params = some poolId ∧
        engine.world.registry.pools.get? poolId = some pool ∧
        engine.world.Serves pool definition := by
  have hCourse : World.Course agent (fun _ => True) (fun _ => True)
      (fun document => document.kind.Specifies document.spec) start.world engine.world := by
    refine hRun.course .of_all fun reached operation _ hOpens => ⟨operation.admitted_of_all, ?_⟩
    cases operation with
    | createPool document =>
        obtain ⟨poolName, kind, poolParams, hDefined⟩ := hOpens
        exact PoolKind.specifies_of_definePool hDefined
    | _ => trivial
  have hSound : engine.world.registry.Sound := ((hVacant.sound hDistinct).moves hCourse).registry
  have hFurnished : engine.world.registry.Furnished := by
    refine World.furnished_course (fun {poolId pool} hPool => ?_) (fun _ h => h) hCourse
    rw [hVacant.pools] at hPool
    cases hPool
  -- some pool meets the request exactly if one is selected
  have hMet : engine.world.registry.poolFor? .volume params ≠ none ↔
      ∃ poolId pool, engine.world.registry.pools.get? poolId = some pool ∧
        pool.meets engine.world.registry.cluster .volume params = true := by
    rw [ne_eq, Registry.poolFor?_eq_none_iff]
    push Not
    simp
  refine ⟨?_, ?_, fun failure => Registry.failure_of_defineResource_volume hSound,
    fun definition => World.serves_of_defined hSound hFurnished⟩
  · rw [← Registry.poolFor?_eq_none_iff]
    exact Registry.defineResource_volume_violates_iff hSound name params
  · rw [← hMet]
    exact Registry.defineResource_volume_invalid_iff hSound name params

/-- The two nodes with a pool of files for both. -/
def shared : Engine Unit := paired.after .willing (.createPool sharedPool)

/-- There is no volume group, `big` is no size, and ten bytes are served by the pool of both
nodes. -/
theorem volume_pipeline_shared :
    Run .willing (fun engine operation => operation.Opens engine.Defines) paired shared ∧
    (∃ cause, shared.world.registry.defineResource "disk" .volume
      (.ofList [("storage_type", "lvm")]) = .error (.policyViolation cause)) ∧
    (∃ cause, shared.world.registry.defineResource "disk" .volume
      (.ofList [("image_size", "big")]) = .error (.invalidRequest cause)) ∧
    ∃ definition pool, shared.world.registry.defineResource "disk" .volume
        (.ofList [("image_size", "10")]) = .ok definition ∧
      pool.document.access = ["n", "m"] ∧ shared.world.Serves pool definition := by
  have hRun : Run .willing (fun engine operation => operation.Opens engine.Defines) paired shared :=
    Run.start.step ⟨_, _, _, definePool_shared⟩
  have hPipeline := volume_pipeline (vacant_vacant _ _ _ _) Supply.strokes_distinct hRun "disk"
  refine ⟨hRun, (hPipeline _).1.2 fun poolId pool hPool => ?_,
    (hPipeline _).2.1.2 ⟨?_, .invalidRequest (.size "big"), by decide +kernel⟩, ?_⟩
  · have hNone : ∀ entry ∈ shared.world.registry.pools.entries, entry.2.meets
        shared.world.registry.cluster .volume (.ofList [("storage_type", "lvm")]) = false := by
      decide +kernel
    exact hNone (poolId, pool) (Table.mem_entries_iff.2 hPool)
  · have hSome : ∃ entry ∈ shared.world.registry.pools.entries, entry.2.meets
        shared.world.registry.cluster .volume (.ofList [("image_size", "big")]) = true := by
      decide +kernel
    obtain ⟨⟨poolId, pool⟩, hEntry, hMeets⟩ := hSome
    exact ⟨poolId, pool, Table.mem_entries_iff.1 hEntry, hMeets⟩
  · have hAccess : ∀ entry ∈ shared.world.registry.pools.entries,
        entry.2.document.access = ["n", "m"] := by decide +kernel
    have hOk : (shared.world.registry.defineResource "disk" .volume
        (.ofList [("image_size", "10")])).toOption.isSome = true := by decide +kernel
    cases hDefine : shared.world.registry.defineResource "disk" .volume
        (.ofList [("image_size", "10")]) with
    | error failure =>
        rw [hDefine] at hOk
        cases hOk
    | ok definition =>
        obtain ⟨poolId, pool, -, hPool, hServes⟩ := (hPipeline _).2.2.2 definition hDefine
        exact ⟨definition, pool, rfl, hAccess (poolId, pool) (Table.mem_entries_iff.2 hPool),
          hServes⟩

end Engine

end DiskFleet
