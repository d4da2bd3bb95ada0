import DiskFleet.Proofs.Registry.Sound

/-!
# Moves seen from the resources

A statement about one resource does not care which pool stores it. `Registry.resource?` finds a
resource by its id, and `World.Change` says what a move of a sound world does to what is found: all
stays as it is, one resource appears under a new id, one that holds no storage disappears, or one
takes a step. `Move.change` is the only place where the tables are looked into.

## Main results

* `World.Move.change`: every move is one of these changes;
* `World.Sound.remembers`: a resource keeps what it is known by for as long as it is registered;
* `World.Sound.keeps_volume`: a volume that may not be dropped stays.
-/

namespace DiskFleet

namespace Registry

/-- The resource object with an id. -/
def resource? (registry : Registry) (id : String) : Option Resource := do
  let poolId ← registry.owners.get? id
  let pool ← registry.pools.get? poolId
  pool.resources.get? id

/-- The resource that is found is the one its pool stores. -/
theorem resource?_eq {registry : Registry} {id poolId : String} {pool : Pool}
    (hOwner : registry.owners.get? id = some poolId)
    (hPool : registry.pools.get? poolId = some pool) :
    registry.resource? id = pool.resources.get? id := by
  simp [resource?, hOwner, hPool]

theorem resource?_of_not_owned {registry : Registry} {id : String}
    (hOwner : registry.owners.get? id = none) : registry.resource? id = none := by
  simp [resource?, hOwner]

theorem resource?_eq_some_iff {registry : Registry} {id : String} {resource : Resource} :
    registry.resource? id = some resource ↔
      ∃ poolId pool, registry.owners.get? id = some poolId ∧
        registry.pools.get? poolId = some pool ∧ pool.resources.get? id = some resource := by
  simp only [resource?, Option.bind_eq_bind, Option.bind_eq_some_iff]
  constructor
  · rintro ⟨poolId, hOwner, pool, hPool, hResource⟩
    exact ⟨poolId, pool, hOwner, hPool, hResource⟩
  · rintro ⟨poolId, pool, hOwner, hPool, hResource⟩
    exact ⟨poolId, hOwner, pool, hPool, hResource⟩

/-- The document of a resource is that of the resource that is found. -/
theorem resourceDocument_eq_ok_iff {registry : Registry} {id : String}
    {document : ResourceDocument} :
    registry.resourceDocument id = .ok document ↔
      ∃ resource, registry.resource? id = some resource ∧ resource.document = document := by
  simp only [resourceDocument, Action.bind_eq_ok_iff, poolOf_eq_ok_iff, Pool.resourceDocument,
    Pool.resource_eq_ok_iff, resource?_eq_some_iff, pure, Except.pure, Except.ok.injEq]
  constructor
  · rintro ⟨pool, ⟨poolId, hOwner, hPool⟩, resource, hResource, hDocument⟩
    exact ⟨resource, ⟨poolId, pool, hOwner, hPool, hResource⟩, hDocument⟩
  · rintro ⟨resource, ⟨poolId, pool, hOwner, hPool, hResource⟩, hDocument⟩
    exact ⟨pool, ⟨poolId, hOwner, hPool⟩, resource, hResource, hDocument⟩

end Registry

namespace World

variable {σ : Type} {agent : Agent σ} {admits : ResourceDocument → Prop}
  {mayDrop : String → Prop} {mayOpen : PoolDocument → Prop} {world next : World σ}

/-- What a move does to the resources that are found, and to the link. -/
inductive Change (agent : Agent σ) (admits : ResourceDocument → Prop) (mayDrop : String → Prop)
    (world next : World σ) : Prop
  /-- No resource and no agent is concerned. -/
  | quiet :
      (∀ id, next.registry.resource? id = world.registry.resource? id) →
      next.link = world.link → Change agent admits mayDrop world next
  | called {call : Call} :
      call.service = Call.imageService →
      (∀ id, next.registry.resource? id = world.registry.resource? id) →
      next.link = world.link.calling agent call → Change agent admits mayDrop world next
  | entered {definition : ResourceDocument} {resource : Resource} :
      admits definition → resource.document.id = some world.supply.nextId →
      resource.document.type = definition.type →
      resource.document.allocated = definition.allocated →
      resource.document.bindings = definition.bindings →
      world.registry.resource? world.supply.nextId = none →
      (∀ id, next.registry.resource? id =
        if id = world.supply.nextId then some resource else world.registry.resource? id) →
      next.link = world.link → Change agent admits mayDrop world next
  | dropped {id : String} {resource : Resource} :
      mayDrop id → world.registry.resource? id = some resource →
      resource.document.allocated = false →
      (∀ other, next.registry.resource? other =
        if other = id then none else world.registry.resource? other) →
      next.link = world.link → Change agent admits mayDrop world next
  | worked {id : String} {document : PoolDocument} {resource : Resource}
      {after : Linked σ Resource} :
      world.registry.resource? id = some resource → resource.document.id = some id →
      Resource.Step agent document ⟨resource, world.link⟩ after →
      (∀ other, next.registry.resource? other =
        if other = id then some after.object else world.registry.resource? other) →
      next.link = after.link → Change agent admits mayDrop world next

section views

variable {poolId id : String} {pool : Pool}

/-- A new pool leaves every resource where it is. -/
theorem Sound.resource?_openingPool (h : world.Sound) (document : PoolDocument) (id : String) :
    (world.openingPool document).registry.resource? id = world.registry.resource? id := by
  cases hOwner : world.registry.owners.get? id with
  | none =>
      rw [Registry.resource?_of_not_owned hOwner]
      exact Registry.resource?_of_not_owned hOwner
  | some poolId =>
      obtain ⟨pool, resource, hPool, -⟩ := h.registry.owned.1 hOwner
      rw [Registry.resource?_eq hOwner hPool]
      refine Registry.resource?_eq hOwner ?_
      have hNe : poolId ≠ world.supply.nextId := by
        rintro rfl
        rw [h.pools_nextId] at hPool
        cases hPool
      simp only [World.openingPool, Registry.putPool, Table.get?_insert, if_neg hNe]
      exact hPool

/-- So does the end of a pool that owns none. -/
theorem Sound.resource?_closingPool (h : world.Sound)
    (hPool : world.registry.pools.get? poolId = some pool) (hEmpty : pool.hasResources = false)
    (id : String) :
    (world.closingPool poolId).registry.resource? id = world.registry.resource? id := by
  cases hOwner : world.registry.owners.get? id with
  | none =>
      rw [Registry.resource?_of_not_owned hOwner]
      exact Registry.resource?_of_not_owned hOwner
  | some other =>
      obtain ⟨stored, resource, hStored, hResource⟩ := h.registry.owned.1 hOwner
      rw [Registry.resource?_eq hOwner hStored]
      refine Registry.resource?_eq hOwner ?_
      have hNe : other ≠ poolId := by
        rintro rfl
        obtain rfl := Option.some.inj (hPool.symm.trans hStored)
        rw [Pool.hasResources_eq_false_iff.1 hEmpty] at hResource
        cases hResource
      simp only [World.closingPool, Registry.removePool, Table.get?_erase, if_neg hNe]
      exact hStored

/-- What is found under an id depends on its owner and on what each pool stores under it. -/
theorem resource?_congr {registry other : Registry}
    (hOwner : other.owners.get? id = registry.owners.get? id)
    (hPools : ∀ poolId, registry.owners.get? id = some poolId →
      (other.pools.get? poolId).bind (·.resources.get? id) =
        (registry.pools.get? poolId).bind (·.resources.get? id)) :
    other.resource? id = registry.resource? id := by
  simp only [Registry.resource?, hOwner]
  cases hOwned : registry.owners.get? id with
  | none => rfl
  | some poolId => exact hPools poolId hOwned

/-- A pool in which only `id` is stored otherwise leaves every other resource as it is. -/
theorem stored_insert_of_ne (hPool : world.registry.pools.get? poolId = some pool)
    {resources : Table Resource} {other : String}
    (hSame : resources.get? other = pool.resources.get? other) (otherPool : String) :
    ((world.registry.pools.insert poolId { pool with resources }).get? otherPool).bind
        (·.resources.get? other) =
      (world.registry.pools.get? otherPool).bind (·.resources.get? other) := by
  rw [Table.get?_insert]
  by_cases hEq : otherPool = poolId
  · rw [if_pos hEq, hEq, hPool]
    exact hSame
  · rw [if_neg hEq]

/-- A resource that is entered is found under the next id, and every other one is as before. -/
theorem resource?_entering (hPool : world.registry.pools.get? poolId = some pool)
    (resource : Resource) (id : String) :
    (world.entering poolId { pool with
        resources := pool.resources.insert world.supply.nextId resource }).registry.resource? id =
      if id = world.supply.nextId then some resource else world.registry.resource? id := by
  by_cases hId : id = world.supply.nextId
  · rw [if_pos hId]
    subst hId
    simp [Registry.resource?, entering, Registry.enter, Registry.putPool]
  · rw [if_neg hId]
    refine resource?_congr ?_ fun other _ => ?_
    · simp [entering, Registry.enter, Registry.putPool, hId]
    · exact stored_insert_of_ne hPool (by rw [Table.get?_insert, if_neg hId]) other

/-- A resource that is worked on is found as the work left it, and every other one is as before. -/
theorem resource?_working (hOwner : world.registry.owners.get? id = some poolId)
    (hPool : world.registry.pools.get? poolId = some pool) (after : Linked σ Resource)
    (other : String) :
    (world.working poolId pool id after).registry.resource? other =
      if other = id then some after.object else world.registry.resource? other := by
  by_cases hId : other = id
  · rw [if_pos hId, hId]
    simp [Registry.resource?, working, Registry.putPool, hOwner]
  · rw [if_neg hId]
    refine resource?_congr rfl fun otherPool _ => ?_
    exact stored_insert_of_ne hPool (by rw [Table.get?_insert, if_neg hId]) otherPool

/-- A resource that is dropped is found no longer, and every other one is as before. -/
theorem resource?_dropping {after : Pool} (hPool : world.registry.pools.get? poolId = some pool)
    (hDrop : pool.dropResource id = .ok after) (other : String) :
    (world.dropping poolId after id).registry.resource? other =
      if other = id then none else world.registry.resource? other := by
  obtain ⟨resource, hResource, hFree, rfl⟩ := Pool.of_dropResource hDrop
  by_cases hId : other = id
  · rw [if_pos hId, hId]
    exact Registry.resource?_of_not_owned (by simp [dropping, Registry.strike])
  · rw [if_neg hId]
    refine resource?_congr ?_ fun otherPool _ => ?_
    · simp [dropping, Registry.strike, Registry.putPool, hId]
    · exact stored_insert_of_ne hPool (by rw [Table.get?_erase, if_neg hId]) otherPool

/-- A resource that holds no storage can be destroyed. -/
theorem run_destroyResource_of_free {resource : Resource}
    (hResource : world.registry.resource? id = some resource)
    (hFree : resource.document.allocated = false) :
    ∃ next, (destroyResource id).run world = (.ok (), next) ∧
      ∀ other, next.registry.resource? other =
        if other = id then none else world.registry.resource? other := by
  obtain ⟨poolId, pool, hOwner, hPool, hStored⟩ := Registry.resource?_eq_some_iff.1 hResource
  have hDrop : pool.dropResource id =
      .ok { pool with resources := pool.resources.erase id } := by
    simp only [Pool.dropResource, Pool.resource_eq_ok_iff.2 hStored, Action.bind_eq_ok_iff]
    exact ⟨resource, rfl, by rw [hFree]; rfl⟩
  rcases destroyResource_cases id world with
    ⟨failure, hRun⟩ | ⟨otherPool, stored, after, -, hStoredPool, hDropped, hRun⟩
  · simp only [destroyResource, Action.run_bind, run_ask, Registry.owner_eq_ok_iff.2 hOwner,
      Registry.pool_eq_ok_iff.2 hPool, hDrop] at hRun
    cases hRun
  · exact ⟨_, hRun, resource?_dropping hStoredPool hDropped⟩

end views

/-- **Every move of a sound world is one of the changes.** -/
theorem Move.change (h : world.Sound) (hMove : Move agent admits mayDrop mayOpen world next) :
    Change agent admits mayDrop world next := by
  cases hMove with
  | drawId => exact .quiet (fun _ => rfl) rfl
  | drawSuffix => exact .quiet (fun _ => rfl) rfl
  | openPool => exact .quiet (h.resource?_openingPool _) rfl
  | closePool hPool hEmpty => exact .quiet (h.resource?_closingPool hPool hEmpty) rfl
  | callImage hCall => exact .called (Image.service_of_callFor hCall) (fun _ => rfl) rfl
  | @enter poolId pool after definition hDefinition hPool hAdd =>
      obtain ⟨resource, rfl, -, hHoused, hType, -, hAllocated, hBindings⟩ :=
        Pool.of_addResource hAdd
      exact .entered hDefinition hHoused.named hType hAllocated hBindings
        (Registry.resource?_of_not_owned h.owners_nextId) (resource?_entering hPool _) rfl
  | @drop id poolId pool after hMayDrop hOwner hPool hDrop =>
      obtain ⟨resource, hResource, hFree, -⟩ := Pool.of_dropResource hDrop
      exact .dropped hMayDrop ((Registry.resource?_eq hOwner hPool).trans hResource) hFree
        (resource?_dropping hPool hDrop) rfl
  | work hOwner hPool hResource hInside =>
      exact .worked ((Registry.resource?_eq hOwner hPool).trans hResource)
        (h.registry.housed hPool hResource).named (Resource.handle_step _)
        (resource?_working hOwner hPool _) rfl

/-! ## What a resource is known by -/

/-- What is registered now under an id that had been drawn then was registered then, and is still
known by the same. -/
structure Remembers (before after : World σ) : Prop where
  drawn : ∀ {id}, before.supply.Drawn id → after.supply.Drawn id
  identity : ∀ {id resource}, after.registry.resource? id = some resource →
    before.supply.Drawn id →
    ∃ earlier, before.registry.resource? id = some earlier ∧
      resource.identity = earlier.identity

theorem Remembers.trans {before between after : World σ} (first : Remembers before between)
    (second : Remembers between after) : Remembers before after := by
  constructor
  · intro id hDrawn
    exact second.drawn (first.drawn hDrawn)
  · intro id resource hResource hDrawn
    obtain ⟨between, hBetween, hSame⟩ := second.identity hResource (first.drawn hDrawn)
    obtain ⟨earlier, hEarlier, hSame'⟩ := first.identity hBetween hDrawn
    exact ⟨earlier, hEarlier, hSame.trans hSame'⟩

/-- No move gives an id back. -/
theorem Move.drawn (hMove : Move agent admits mayDrop mayOpen world next) {id : String}
    (hDrawn : world.supply.Drawn id) : next.supply.Drawn id := by
  cases hMove with
  | drawId => exact drawn_drawingId hDrawn
  | openPool => exact drawn_drawingId hDrawn
  | enter => exact drawn_drawingId hDrawn
  | drawSuffix => exact hDrawn
  | closePool => exact hDrawn
  | drop => exact hDrawn
  | work => exact hDrawn
  | callImage => exact hDrawn

theorem Course.drawn (hMoves : Course agent admits mayDrop mayOpen world next) {id : String}
    (hDrawn : world.supply.Drawn id) : next.supply.Drawn id := by
  induction hMoves with
  | refl => exact hDrawn
  | tail _ hMove ih => exact hMove.drawn ih

theorem Move.remembers (h : world.Sound) (hMove : Move agent admits mayDrop mayOpen world next) :
    Remembers world next := by
  refine ⟨hMove.drawn, fun {id resource} hResource hDrawn => ?_⟩
  cases hMove.change h with
  | quiet hSame hLink =>
      rw [hSame] at hResource
      exact ⟨resource, hResource, rfl⟩
  | called hService hSame hLink =>
      rw [hSame] at hResource
      exact ⟨resource, hResource, rfl⟩
  | entered hAdmits hId hType hAllocated hBindings hNew hSame hLink =>
      have hNe : id ≠ world.supply.nextId := by
        rintro rfl
        exact h.distinct.not_drawn_nextId hDrawn
      rw [hSame, if_neg hNe] at hResource
      exact ⟨resource, hResource, rfl⟩
  | dropped hMayDrop hDropped hFree hSame hLink =>
      rw [hSame] at hResource
      split at hResource
      · cases hResource
      · exact ⟨resource, hResource, rfl⟩
  | worked hBefore hId hStep hSame hLink =>
      rw [hSame] at hResource
      split at hResource
      · next heq =>
        obtain rfl := Option.some.inj hResource
        rw [heq]
        exact ⟨_, hBefore, hStep.kept.1⟩
      · exact ⟨resource, hResource, rfl⟩

/-- **A resource keeps what it is known by** through any number of moves. -/
theorem Sound.remembers (h : world.Sound)
    (hMoves : Course agent admits mayDrop mayOpen world next) : Remembers world next := by
  induction hMoves with
  | refl => exact ⟨id, fun hResource _ => ⟨_, hResource, rfl⟩⟩
  | tail hBefore hMove ih => exact ih.trans (hMove.remembers (h.moves hBefore))

/-! ## New resources -/

/-- A resource of a type is entered under the next id, and from then on nothing is dropped. -/
inductive Makes (agent : Agent σ) (admits : ResourceDocument → Prop) (type : ResourceType)
    (world : World σ) : World σ → Prop
  | intro {poolId : String} {pool after : Pool} {definition : ResourceDocument} {next : World σ} :
      admits definition → definition.type = type →
      world.registry.pools.get? poolId = some pool →
      pool.addResource world.supply.nextId definition = .ok after →
      Moves agent admits (fun _ => False) (world.entering poolId after) next →
      Makes agent admits type world next

theorem Makes.moves {type : ResourceType} (h : Makes agent admits type world next) :
    Moves agent admits mayDrop world next := by
  cases h with
  | intro hAdmits hType hPool hAdd hMoves =>
      exact .head (.enter hAdmits hPool hAdd) (hMoves.mono (fun _ h => h) fun _ => False.elim)

theorem Makes.trans {type : ResourceType} {last : World σ} (h : Makes agent admits type world next)
    (hMoves : Moves agent admits (fun _ => False) next last) :
    Makes agent admits type world last := by
  cases h with
  | intro hAdmits hType hPool hAdd hFirst =>
      exact .intro hAdmits hType hPool hAdd (hFirst.trans hMoves)

theorem makes_of_createResource {definition : ResourceDocument} {id : String}
    (hAdmits : admits definition) (h : (createResource definition).run world = (.ok id, next)) :
    Makes agent admits definition.type world next := by
  rcases createResource_cases definition world with
    ⟨failure, hRun⟩ | ⟨failure, hRun⟩ | ⟨poolId, pool, after, -, hPool, hAdd, hRun⟩
  · rw [hRun] at h
    cases h
  · rw [hRun] at h
    cases h
  · rw [hRun] at h
    cases h
    exact .intro hAdmits rfl hPool hAdd .refl

/-- A copy has the type of its source. -/
theorem makes_of_copyResourceAs (hAdmission : Admission admits)
    {resource destination suffix id : String}
    (h : (copyResourceAs resource destination suffix).run world = (.ok id, next)) :
    ∃ source, world.registry.resource? resource = some source ∧
      Makes agent admits source.document.type world next := by
  rcases copyResourceAs_cases resource destination suffix world with
    ⟨failure, hRun⟩ | ⟨failure, hRun⟩ |
      ⟨sourcePoolId, sourcePool, source, pool, after, hOwner, hSourcePool, hSource, hPool, hAdd,
        hRun⟩
  · rw [hRun] at h
    cases h
  · rw [hRun] at h
    cases h
  · rw [hRun] at h
    cases h
    refine ⟨source, (Registry.resource?_eq hOwner hSourcePool).trans hSource, ?_⟩
    exact .intro (hAdmission.copied source destination suffix pool.idText) rfl hPool
      (Pool.addResource_of_addCopy hAdd) .refl

/-- A volume is registered under the id. -/
def HasVolume (world : World σ) (id : String) : Prop :=
  ∃ resource, world.registry.resource? id = some resource ∧ resource.document.type = .volume

/-- The next id is not that of a volume. -/
theorem Sound.ne_nextId (h : world.Sound) {id : String} (hVolume : world.HasVolume id) :
    id ≠ world.supply.nextId := by
  rintro rfl
  obtain ⟨resource, hResource, -⟩ := hVolume
  rw [Registry.resource?_of_not_owned h.owners_nextId] at hResource
  cases hResource

theorem Move.keeps_volume (h : world.Sound)
    (hMove : Move agent admits mayDrop mayOpen world next) {id : String}
    (hVolume : world.HasVolume id) (hKept : ¬mayDrop id) : next.HasVolume id := by
  have hNew := h.ne_nextId hVolume
  obtain ⟨resource, hResource, hType⟩ := hVolume
  cases hMove.change h with
  | quiet hSame hLink => exact ⟨resource, (hSame id).trans hResource, hType⟩
  | called hService hSame hLink => exact ⟨resource, (hSame id).trans hResource, hType⟩
  | entered hAdmits hId hMadeType hAllocated hBindings hFree hSame hLink =>
      refine ⟨resource, ?_, hType⟩
      rw [hSame, if_neg hNew]
      exact hResource
  | dropped hMayDrop hDropped hFree hSame hLink =>
      refine ⟨resource, ?_, hType⟩
      rw [hSame, if_neg]
      · exact hResource
      · rintro rfl
        exact hKept hMayDrop
  | @worked worked document before after hBefore hId hStep hSame hLink =>
      by_cases hWorked : id = worked
      · subst hWorked
        obtain rfl := Option.some.inj (hResource.symm.trans hBefore)
        refine ⟨after.object, by rw [hSame, if_pos rfl], ?_⟩
        have hIdentity := hStep.kept.1
        simp only [Resource.identity, Resource.Identity.mk.injEq] at hIdentity
        exact hIdentity.2.2.1.trans hType
      · refine ⟨resource, ?_, hType⟩
        rw [hSame, if_neg hWorked]
        exact hResource

/-- **A volume that may not be dropped stays registered.** -/
theorem Sound.keeps_volume (h : world.Sound)
    (hMoves : Course agent admits mayDrop mayOpen world next) {id : String}
    (hVolume : world.HasVolume id) (hKept : ¬mayDrop id) : next.HasVolume id := by
  induction hMoves with
  | refl => exact hVolume
  | tail hBefore hMove ih => exact hMove.keeps_volume (h.moves hBefore) ih hKept

/-- What is made as a volume is one. -/
theorem Makes.hasVolume (h : world.Sound) (hMakes : Makes agent admits .volume world next) :
    next.HasVolume world.supply.nextId := by
  cases hMakes with
  | intro hAdmits hType hPool hAdd hMoves =>
      have hMove : Move agent admits (fun _ => False) (fun _ => False) world _ :=
        .enter hAdmits hPool hAdd
      refine (h.move hMove).keeps_volume hMoves ?_ id
      obtain ⟨resource, rfl, -, -, hMade, -⟩ := Pool.of_addResource hAdd
      refine ⟨resource, ?_, hMade.trans hType⟩
      simp [Registry.resource?, entering, Registry.enter, Registry.putPool]

end World

end DiskFleet
