import DiskFleet.Proofs.Registry.Copy

/-!
# Copies that are made ready

A backup and a clone go about a volume in the same way. They make a copy of it (`copyResourceAs`),
and then bind and allocate the copy (`prepare`). Where both succeed, the copy is known up to what
the node reports: it is `copiedAs` its source, bound, and allocated by one call to its first node.

A copy that stays in the pool of its source is not taken over as a resource of another class, so
that nothing of the source is lost (`Resource.copiedAs`).

## Main results

* `World.stored_of_copyResourceAs`: the copy;
* `World.of_run_prepare`: what becomes of it;
* `World.resource?_beside_copy`: nothing becomes of the other resources.
-/

namespace DiskFleet

/-- The object of a copy in the pool of its source, before it is bound. -/
def Resource.copiedAs (resource : Resource) (poolId suffix id : String) : Resource :=
  ⟨resource.behaviour, { resource.copied poolId suffix with id := some id }⟩

/-- A pool takes a copy of one of its own resources in as it is described. -/
theorem Pool.of_addCopy_housed {pool after : Pool} {poolId sourceId id suffix : String}
    {source : Resource} (hId : pool.idText = poolId)
    (hHoused : source.Housed pool.kind poolId sourceId)
    (h : pool.addCopy id (source.copied poolId suffix) = .ok after) :
    after =
      { pool with resources := pool.resources.insert id (source.copiedAs poolId suffix id) } := by
  obtain ⟨cls, hClass, hBehaviour, hKind⟩ := hHoused.supported
  obtain ⟨resource, hBuild, hAfter⟩ := Action.bind_eq_ok_iff.1 (addResource_of_addCopy h)
  obtain rfl := Except.ok.inj hAfter
  have hPool : { source.copied poolId suffix with pool := some pool.idText } =
      source.copied poolId suffix := by rw [hId]; rfl
  rw [hPool] at hBuild
  unfold buildResource at hBuild
  rw [if_neg (by rw [hId]; exact not_not.2 rfl)] at hBuild
  obtain ⟨other, hOther, hResource⟩ := Action.bind_eq_ok_iff.1 hBuild
  obtain rfl := Except.ok.inj hResource
  -- the class of the copy is that of the source, for the pool and the type are the same
  have hSame : pool.kind.classFor? source.document.type = some other := classFor_eq_ok_iff.1 hOther
  obtain rfl : cls = other := Option.some.inj (hClass.symm.trans hSame)
  have hOwn : ¬((source.copied poolId suffix).type = .volume ∧
      (source.copied poolId suffix).volumeKind ≠ cls.volumeKind?) :=
    fun hForeign => hForeign.2 (hKind hForeign.1)
  have hType : cls.type = source.behaviour :=
    (PoolKind.type_of_classFor? hClass).trans hBehaviour.symm
  rw [if_neg hOwn, ResourceClass.build, hType]
  rfl

namespace World

variable {σ : Type} {agent : Agent σ} {world after copied ready : World σ}
  {id volume poolId destination suffix : String} {pool : Pool} {resource source : Resource}
  {nodes : List String}

/-- A command that was carried out was handled in the pool of its resource. -/
theorem handled_of_run_updateResource {command : ResourceCommand} {out : Json}
    (hOwner : world.registry.owners.get? id = some poolId)
    (hPool : world.registry.pools.get? poolId = some pool)
    (hStored : pool.resources.get? id = some resource)
    (hRun : (updateResource agent id command).run world = (.ok out, after)) :
    ∃ handled, (Resource.handle agent pool.document command).run ⟨resource, world.link⟩ =
      (.ok out, handled) ∧ after = world.working poolId pool id handled := by
  rcases updateResource_cases agent id command world with
    ⟨failure, hCase⟩ | ⟨otherId, other, stored, hOther, hOtherPool, hFound, -, hCase⟩
  · rw [hCase] at hRun
    cases hRun
  · obtain rfl := Option.some.inj (hOwner.symm.trans hOther)
    obtain rfl := Option.some.inj (hPool.symm.trans hOtherPool)
    obtain rfl := Option.some.inj (hStored.symm.trans hFound)
    rw [hCase] at hRun
    rcases hHandled : (Resource.handle agent pool.document command).run
      ⟨resource, world.link⟩ with ⟨result, handled⟩
    rw [hHandled] at hRun
    cases hRun
    exact ⟨handled, rfl, rfl⟩

/-- **A resource that is made ready** is bound, and then allocated by one call to its first node. -/
theorem of_run_prepare (hOwner : world.registry.owners.get? id = some poolId)
    (hPool : world.registry.pools.get? poolId = some pool)
    (hStored : pool.resources.get? id = some resource)
    (hFree : resource.document.allocated = false)
    (hRun : (prepare agent id nodes).run world = (.ok (), ready)) :
    ∃ bound node rest, resource.bound pool.document nodes = .ok bound ∧
      bound.document.bound = node :: rest ∧
      ready.registry.resource? id = some (bound.allocatedAs
        (world.link.exchange agent (bound.callOf pool.document node "allocate" ∅)).out) ∧
      ready.link = world.link.calling agent (bound.callOf pool.document node "allocate" ∅) := by
  obtain ⟨out, between, hBind, hRest⟩ := Action.run_bind_eq_ok_iff.1 hRun
  obtain ⟨spec, reached, hAllocate, hDone⟩ := Action.run_bind_eq_ok_iff.1 hRest
  obtain rfl : reached = ready := congrArg Prod.snd hDone
  obtain ⟨⟨bound, link⟩, hHandled, rfl⟩ :=
    handled_of_run_updateResource hOwner hPool hStored hBind
  obtain ⟨hBound, rfl⟩ : resource.bound pool.document nodes = .ok bound ∧ link = world.link :=
    Resource.bound_of_run_bind hHandled
  have hOwned : (world.working poolId pool id ⟨bound, world.link⟩).registry.owners.get? id =
      some poolId := hOwner
  have hNow : (world.working poolId pool id ⟨bound, world.link⟩).registry.pools.get? poolId =
      some { pool with resources := pool.resources.insert id bound } := by
    simp [working, Registry.putPool]
  have hThere : (pool.resources.insert id bound).get? id = some bound := by simp
  obtain ⟨allocated, hAllocated, rfl⟩ :=
    handled_of_run_updateResource hOwned hNow hThere hAllocate
  have hStill : bound.document.allocated = false :=
    (Resource.allocated_of_bound hBound).trans hFree
  obtain ⟨node, rest, hNode, rfl⟩ := Resource.of_run_allocate hStill hAllocated
  exact ⟨bound, node, rest, hBound, hNode,
    (resource?_working hOwned hNow _ id).trans (if_pos rfl), rfl⟩

/-- **The copy of a resource** holds no storage. In the pool of its source it is `copiedAs` that. -/
theorem stored_of_copyResourceAs (h : world.Sound)
    (hSource : world.registry.resource? volume = some source)
    (hRun : (copyResourceAs volume destination suffix).run world = (.ok id, copied)) :
    ∃ pool copy, world.registry.pools.get? destination = some pool ∧
      copied.registry.owners.get? id = some destination ∧
      copied.registry.pools.get? destination =
        some { pool with resources := pool.resources.insert id copy } ∧
      copy.document.allocated = false ∧ copied.link = world.link ∧
      (source.document.pool = some destination → copy = source.copiedAs destination suffix id) := by
  rcases copyResourceAs_cases volume destination suffix world with
    ⟨_, hCase⟩ | ⟨_, hCase⟩ |
      ⟨ownerId, owner, found, pool, filled, hOwner, hOwnerPool, hFound, hPool, hAdd, hCase⟩
  · rw [hCase] at hRun
    cases hRun
  · rw [hCase] at hRun
    cases hRun
  · rw [hCase] at hRun
    cases hRun
    obtain rfl : found = source :=
      Option.some.inj (((Registry.resource?_eq hOwner hOwnerPool).trans hFound).symm.trans hSource)
    obtain ⟨copy, hFilled, -, -, -, -, hFree, -⟩ :=
      Pool.of_addResource (Pool.addResource_of_addCopy hAdd)
    subst hFilled
    refine ⟨pool, copy, hPool, by simp [entering, Registry.enter],
      by simp [entering, Registry.enter, Registry.putPool], hFree, rfl, fun hSame => ?_⟩
    have hHoused := h.registry.housed hOwnerPool hFound
    obtain rfl : ownerId = destination := Option.some.inj (hHoused.pooled.symm.trans hSame)
    obtain rfl := Option.some.inj (hOwnerPool.symm.trans hPool)
    have hTaken := Pool.of_addCopy_housed (h.registry.idText_pool hPool) hHoused hAdd
    have hCopy := congrArg (fun pool : Pool => pool.resources.get? world.supply.nextId) hTaken
    simpa using hCopy

/-- **A copy that is made ready holds storage.** -/
theorem allocated?_of_prepared (h : world.Sound)
    (hCopy : (copyResourceAs volume destination suffix).run world = (.ok id, copied))
    {next : World σ} (hSame : next.registry = copied.registry)
    (hReady : (prepare agent id nodes).run next = (.ok (), ready)) :
    ready.registry.allocated? id = some true := by
  have hMakes : ∃ source, world.registry.resource? volume = some source ∧
      Makes agent (fun _ => True) source.document.type world copied :=
    makes_of_copyResourceAs .of_all hCopy
  obtain ⟨source, hSource, -⟩ := hMakes
  obtain ⟨pool, copy, -, hOwner, hPool, hFree, -, -⟩ := stored_of_copyResourceAs h hSource hCopy
  rw [← hSame] at hOwner hPool
  obtain ⟨bound, node, rest, -, -, hFound, -⟩ :=
    of_run_prepare hOwner hPool (by simp) hFree hReady
  rw [Registry.allocated?, hFound]
  rfl

/-- **Nothing becomes of the other resources** when a copy is made and then made ready, as far as
that goes. -/
theorem resource?_beside_copy (h : world.Sound) (agent : Agent σ)
    (hCopy : (copyResourceAs volume destination suffix).run world = (.ok id, copied))
    {next : World σ} (hSame : next.registry = copied.registry) (nodes : List String) :
    ∀ other, other ≠ id →
      ((prepare agent id nodes).run next).2.registry.resource? other =
        world.registry.resource? other := by
  intro other hOther
  obtain ⟨-, -, hWithout, -⟩ := of_copyResourceAs h hCopy
  have hWorks := (prepare_worksOn agent id nodes next).others
  rw [Registry.resource?_of_without hWorks hOther, hSame, ← hWithout, Registry.resource?_without,
    if_neg hOther]

end World

end DiskFleet
