import DiskFleet.Proofs.Registry.Release

/-!
# The registry but for one resource

To take back that a resource was made, the engine releases and destroys it, after any number of
commands for it, some of which may have failed. That this leaves nothing behind is a statement about
the whole registry: every table, in its order, has to be what it was.

The way to it is to look away from the resource. `Registry.without` erases it wherever it is stored.
No command for the resource changes what is left of the registry without it; making it changes
nothing but the resource itself; and destroying it is to erase it. So whatever happens between its
making and its end cancels out.

## Main results

* `World.without_updateResource`: commands for a resource change nothing else;
* `World.WorksOn`: work that changes one resource at most and leaves it anchored;
* `World.without_entering`: without the resource that was made the registry is as before;
* `World.run_discard_of_anchored`: to discard a resource is to erase it.
-/

namespace DiskFleet

namespace Registry

/-- The registry without a resource, wherever it is stored. -/
def without (registry : Registry) (id : String) : Registry :=
  { registry with
    pools := registry.pools.mapValues fun pool =>
      { pool with resources := pool.resources.erase id }
    owners := registry.owners.erase id }

variable {registry : Registry} {id poolId : String} {pool : Pool}

/-- A pool that stores only `id` otherwise is the same without it. -/
theorem without_putPool {resources : Table Resource}
    (hPool : registry.pools.get? poolId = some pool)
    (hSame : resources.erase id = pool.resources.erase id) :
    (registry.putPool poolId { pool with resources }).without id = registry.without id := by
  have hStored : (registry.pools.mapValues fun pool =>
      { pool with resources := pool.resources.erase id }).get? poolId =
        some { pool with resources := resources.erase id } := by
    rw [Table.get?_mapValues, hPool, Option.map_some, hSame]
  simp only [without, putPool, Table.mapValues_insert, Table.insert_of_get? hStored]

theorem without_enter (registry : Registry) (id poolId : String) :
    (registry.enter id poolId).without id = registry.without id := by
  simp only [without, enter, Table.erase_insert]

theorem without_strike (registry : Registry) (id : String) :
    (registry.strike id).without id = registry.without id := by
  simp only [without, strike, Table.erase_erase]

/-- A sound registry stores a resource only under its owner. -/
theorem without_of_not_owned (h : registry.Sound) (hOwner : registry.owners.get? id = none) :
    registry.without id = registry := by
  have hOwners : registry.owners.erase id = registry.owners := by
    apply Table.erase_of_not_contains
    rw [Table.contains, hOwner, Option.isSome_none]
  have hPools : registry.pools.mapValues (fun pool =>
      { pool with resources := pool.resources.erase id }) = registry.pools := by
    apply Table.mapValues_eq_self
    intro poolId pool hPool
    have hNone : pool.resources.contains id = false := by
      by_contra hSome
      rw [Bool.not_eq_false] at hSome
      have hOwned := (h.owned_by_iff hPool).2 hSome
      rw [hOwner] at hOwned
      cases hOwned
    rw [Table.erase_of_not_contains hNone]
  simp only [without, hOwners, hPools]

end Registry

namespace World

variable {σ : Type} {agent : Agent σ} {world after : World σ} {id : String}

/-- A world is sound after whatever leads along moves. -/
theorem Sound.run {α : Type} {action : Action (World σ) α} (h : world.Sound) (agent : Agent σ)
    (hMoves : action.Along (Moves agent (fun _ => True) fun _ => True)) :
    (action.run world).2.Sound :=
  h.moves (hMoves world)

/-- **A command for a resource changes nothing else.** -/
theorem without_updateResource (agent : Agent σ) (id : String) (command : ResourceCommand)
    (world : World σ) :
    ((updateResource agent id command).run world).2.registry.without id =
      world.registry.without id := by
  rcases updateResource_cases agent id command world with
    ⟨failure, hRun⟩ | ⟨poolId, pool, resource, -, hPool, -, -, hRun⟩
  · rw [hRun]
  · rw [hRun]
    exact Registry.without_putPool hPool (Table.erase_insert _ _ _)

/-- Only one resource was worked on, and its storage can be reached if it could before. -/
structure WorksOn (id : String) (before after : World σ) : Prop where
  others : after.registry.without id = before.registry.without id
  anchors : before.registry.Anchors id → after.registry.Anchors id

instance : IsPreorder (World σ) (WorksOn id) where
  refl _ := ⟨rfl, fun h => h⟩
  trans _ _ _ first second :=
    ⟨second.others.trans first.others, fun h => second.anchors (first.anchors h)⟩

theorem updateResource_worksOn (agent : Agent σ) (id : String) {command : ResourceCommand}
    (hOnce : command.NamesOnce) : (updateResource agent id command).Along (WorksOn id) :=
  fun world => ⟨without_updateResource agent id command world, anchors_updateResource agent hOnce⟩

/-- A resource that cannot be made leaves nothing behind. -/
theorem registry_createResource_error {definition : ResourceDocument} {failure : Failure}
    (hRun : (createResource definition).run world = (.error failure, after)) :
    after.registry = world.registry := by
  rcases createResource_cases definition world with
    ⟨_, hCase⟩ | ⟨_, hCase⟩ | ⟨_, _, _, _, _, _, hCase⟩
  · rw [hCase] at hRun
    cases hRun
    rfl
  · rw [hCase] at hRun
    cases hRun
    rfl
  · rw [hCase] at hRun
    cases hRun

/-- Without the resource that was entered the registry is as before. -/
theorem without_entering (h : world.Sound) {poolId : String} {pool filled : Pool}
    {definition : ResourceDocument} (hPool : world.registry.pools.get? poolId = some pool)
    (hAdd : pool.addResource world.supply.nextId definition = .ok filled) :
    (world.entering poolId filled).registry.without world.supply.nextId = world.registry := by
  obtain ⟨resource, rfl, -⟩ := Pool.of_addResource hAdd
  have hEntered : (world.registry.putPool poolId { pool with
      resources := pool.resources.insert world.supply.nextId resource }).without
        world.supply.nextId = world.registry.without world.supply.nextId :=
    Registry.without_putPool hPool (Table.erase_insert _ _ _)
  show (Registry.enter _ _ _).without _ = _
  rw [Registry.without_enter, hEntered,
    Registry.without_of_not_owned h.registry h.owners_nextId]

/-- **Without the resource that was made the registry is as before.** -/
theorem without_createResource (h : world.Sound) {definition : ResourceDocument}
    (hRun : (createResource definition).run world = (.ok id, after)) :
    after.registry.without id = world.registry := by
  rcases createResource_cases definition world with
    ⟨_, hCase⟩ | ⟨_, hCase⟩ | ⟨poolId, pool, filled, -, hPool, hAdd, hCase⟩
  · rw [hCase] at hRun
    cases hRun
  · rw [hCase] at hRun
    cases hRun
  · rw [hCase] at hRun
    cases hRun
    exact without_entering h hPool hAdd

/-- A command for a resource that was just made, and is not bound, leaves it without storage, and
changes nothing else. -/
theorem update_created (h : world.Sound) {definition : ResourceDocument}
    {command : ResourceCommand} {created next : World σ} {result : Except Failure Json}
    (hFree : definition.allocated = false) (hUnbound : definition.bindings = ∅)
    (hCreate : (createResource definition).run world = (.ok id, created))
    (hUpdate : (updateResource agent id command).run created = (result, next)) :
    next.Sound ∧ next.registry.without id = world.registry ∧
      ∃ resource, next.registry.resource? id = some resource ∧
        resource.document.allocated = false := by
  have hCreated : created.Sound := by
    have hMoves : (createResource definition).Along (Moves agent (fun _ => True) fun _ => True) :=
      createResource_moves trivial
    have hRun := h.run agent hMoves
    rwa [hCreate] at hRun
  have hSound := hCreated.run agent (updateResource_moves id command)
  have hWithout := without_updateResource agent id command created
  obtain ⟨resource, hFound, hAllocated, hBindings⟩ := resource?_of_createResource hCreate
  have hNowhere : resource.document.bound = [] := by
    show SortedMap.keys _ = []
    rw [hBindings, hUnbound]
    rfl
  have hStill :=
    free_updateResource_of_unbound agent command hFound (hAllocated.trans hFree) hNowhere
  rw [hUpdate] at hSound hWithout hStill
  exact ⟨hSound, hWithout.trans (without_createResource h hCreate), hStill⟩

/-- To destroy a resource is to erase it. -/
theorem registry_destroyResource (h : world.Sound)
    (hRun : (destroyResource id).run world = (.ok (), after)) :
    after.registry = world.registry.without id := by
  rcases destroyResource_cases id world with
    ⟨_, hCase⟩ | ⟨poolId, pool, left, hOwner, hPool, hDrop, hCase⟩
  · rw [hCase] at hRun
    cases hRun
  · rw [hCase] at hRun
    cases hRun
    have hSound : (world.dropping poolId left id).Sound := h.dropping hOwner hPool hDrop
    have hGone : (world.dropping poolId left id).registry.owners.get? id = none := by
      simp [dropping, Registry.strike]
    obtain ⟨resource, -, -, rfl⟩ := Pool.of_dropResource hDrop
    rw [← Registry.without_of_not_owned hSound.registry hGone]
    show (Registry.strike _ _).without _ = _
    rw [Registry.without_strike, Registry.without_putPool hPool (Table.erase_erase _ _)]

/-- **To discard a resource is to erase it**, if it is anchored and the agents accept releases. -/
theorem run_discard_of_anchored (hFrees : agent.Frees) (h : world.Sound)
    (hAnchors : world.registry.Anchors id) :
    ∃ after, (discard agent id).run world = (.ok (), after) ∧
      after.registry = world.registry.without id := by
  obtain ⟨resource, hFound, hAnchored⟩ := hAnchors
  obtain ⟨freed, released, hRelease, hFree, hSame⟩ :=
    run_release_of_anchored hFrees hFound hAnchored
  have hReleased : released.registry.resource? id = some freed := (hSame id).trans (if_pos rfl)
  obtain ⟨after, hDestroy, -⟩ := run_destroyResource_of_free hReleased hFree
  have hSound : released.Sound := by
    have hRun := h.run agent (updateResource_moves id (.release ∅))
    rwa [hRelease] at hRun
  have hWithout : released.registry.without id = world.registry.without id := by
    have hUpdated := without_updateResource agent id (.release ∅) world
    rwa [hRelease] at hUpdated
  refine ⟨after, ?_, (registry_destroyResource hSound hDestroy).trans hWithout⟩
  simp only [discard, Action.run_bind, Action.run_attempt, hRelease, hDestroy, Action.run_pure]

end World

end DiskFleet
