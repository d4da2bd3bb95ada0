import DiskFleet.Proofs.Registry.Change
import DiskFleet.Proofs.Resource.Release

/-!
# Making storage and giving it back in the registry

An allocation or a release by id concerns one resource. This module says what becomes of it, and
that every other resource stays as it is, from what `DiskFleet.Proofs.Resource.Release` says of the
resource alone.

## Main results

* `World.anchors_updateResource`: commands that name their nodes once keep a resource anchored;
* `World.run_release_of_anchored`: an anchored resource is released, if the agents accept releases;
* `World.run_allocate_cases`: an allocation that fails changes no resource.
-/

namespace DiskFleet

/-- Whether a resource holds storage, if it is registered. -/
def Registry.allocated? (registry : Registry) (id : String) : Option Bool :=
  (registry.resource? id).map (·.document.allocated)

/-- A resource is registered, and its storage can be reached. -/
def Registry.Anchors (registry : Registry) (id : String) : Prop :=
  ∃ resource, registry.resource? id = some resource ∧ resource.Anchored

/-- What is found under an id does not change, as far as storage goes. -/
theorem Registry.allocated?_congr {registry other : Registry} {id : String}
    (h : other.resource? id = registry.resource? id) :
    other.allocated? id = registry.allocated? id := by
  rw [allocated?, allocated?, h]

namespace World

variable {σ : Type} {agent : Agent σ} {world : World σ} {id : String}

/-- A release names no nodes. -/
theorem inside_release (pool : Pool) : pool.outside (.release ∅) = [] := rfl

/-- A resource that was made holds storage, and is bound, as its definition says. -/
theorem resource?_of_createResource {definition : ResourceDocument} {after : World σ}
    (hRun : (createResource definition).run world = (.ok id, after)) :
    ∃ resource, after.registry.resource? id = some resource ∧
      resource.document.allocated = definition.allocated ∧
      resource.document.bindings = definition.bindings := by
  rcases createResource_cases definition world with
    ⟨failure, hCase⟩ | ⟨failure, hCase⟩ | ⟨poolId, pool, filled, -, hPool, hAdd, hCase⟩
  · rw [hCase] at hRun
    cases hRun
  · rw [hCase] at hRun
    cases hRun
  · rw [hCase] at hRun
    cases hRun
    obtain ⟨resource, rfl, -, -, -, -, hAllocated, hBindings⟩ := Pool.of_addResource hAdd
    have hFound := resource?_entering hPool resource world.supply.nextId
    rw [if_pos rfl] at hFound
    exact ⟨resource, hFound, hAllocated, hBindings⟩

/-- What a command leaves of its resource: it was refused, or handled. -/
theorem resource?_updateResource (agent : Agent σ) (command : ResourceCommand)
    {resource : Resource} (hFound : world.registry.resource? id = some resource) :
    ∃ after, ((updateResource agent id command).run world).2.registry.resource? id =
        some after ∧
      (after = resource ∨ ∃ pool, after =
        ((Resource.handle agent pool command).run ⟨resource, world.link⟩).2.object) := by
  rcases updateResource_cases agent id command world with
    ⟨failure, hRun⟩ | ⟨poolId, pool, stored, hOwner, hPool, hStored, -, hRun⟩
  · rw [hRun]
    exact ⟨resource, hFound, .inl rfl⟩
  · have hSame : world.registry.resource? id = some stored :=
      (Registry.resource?_eq hOwner hPool).trans hStored
    obtain rfl : resource = stored := Option.some.inj (hFound.symm.trans hSame)
    rw [hRun]
    exact ⟨_, (resource?_working hOwner hPool _ id).trans (if_pos rfl), .inr ⟨_, rfl⟩⟩

/-- A command that names its nodes once keeps a resource anchored. -/
theorem anchors_updateResource (agent : Agent σ) {command : ResourceCommand}
    (hOnce : command.NamesOnce) (h : world.registry.Anchors id) :
    ((updateResource agent id command).run world).2.registry.Anchors id := by
  obtain ⟨resource, hFound, hAnchored⟩ := h
  obtain ⟨after, hAfter, hCases⟩ := resource?_updateResource agent command hFound
  rcases hCases with rfl | ⟨pool, rfl⟩
  · exact ⟨after, hAfter, hAnchored⟩
  · exact ⟨_, hAfter, hAnchored.handle agent pool world.link hOnce⟩

/-- A command cannot make storage for a resource that is not bound. -/
theorem free_updateResource_of_unbound (agent : Agent σ) (command : ResourceCommand)
    {resource : Resource} (hFound : world.registry.resource? id = some resource)
    (hFree : resource.document.allocated = false) (hUnbound : resource.document.bound = []) :
    ∃ after, ((updateResource agent id command).run world).2.registry.resource? id =
        some after ∧ after.document.allocated = false := by
  obtain ⟨after, hAfter, hCases⟩ := resource?_updateResource agent command hFound
  rcases hCases with rfl | ⟨pool, rfl⟩
  · exact ⟨after, hAfter, hFree⟩
  · refine ⟨_, hAfter, ?_⟩
    by_contra hHeld
    rw [Bool.not_eq_false] at hHeld
    rcases Resource.Step.allocated_cases (Resource.handle_step command) hHeld with
      hBefore | hBound
    · rw [hFree] at hBefore
      cases hBefore
    · exact hBound hUnbound

/-- **An anchored resource is released**, and every other one stays as it is. -/
theorem run_release_of_anchored (hFrees : agent.Frees) {resource : Resource}
    (hFound : world.registry.resource? id = some resource) (hAnchored : resource.Anchored) :
    ∃ freed after, (updateResource agent id (.release ∅)).run world = (.ok .null, after) ∧
      freed.document.allocated = false ∧
      ∀ other, after.registry.resource? other =
        if other = id then some freed else world.registry.resource? other := by
  obtain ⟨poolId, pool, hOwner, hPool, hStored⟩ := Registry.resource?_eq_some_iff.1 hFound
  obtain ⟨after, hRun, hFree⟩ :=
    Resource.run_release_of_anchored hFrees pool.document ∅ world.link hAnchored
  refine ⟨after.object, world.working poolId pool id after, ?_, hFree,
    resource?_working hOwner hPool after⟩
  rw [run_updateResource_of_inside hOwner hPool hStored (inside_release pool), hRun]

/-- A release that succeeds leaves the resource without storage, and every other one as it was. -/
theorem free_of_run_release {out : Json} {after : World σ}
    (hRun : (updateResource agent id (.release ∅)).run world = (.ok out, after)) :
    after.registry.allocated? id = some false ∧
      ∀ other, other ≠ id → after.registry.resource? other = world.registry.resource? other := by
  rcases updateResource_cases agent id (.release ∅) world with
    ⟨failure, hCase⟩ | ⟨poolId, pool, resource, hOwner, hPool, -, -, hCase⟩
  · rw [hCase] at hRun
    cases hRun
  · rw [hCase] at hRun
    rcases hHandled : (Resource.handle agent pool.document (.release ∅)).run
      ⟨resource, world.link⟩ with ⟨result, freed⟩
    rw [hHandled] at hRun
    cases hRun
    have hFound := resource?_working hOwner hPool freed
    constructor
    · rw [Registry.allocated?, hFound, if_pos rfl, Option.map_some,
        Resource.free_of_run_release hHandled]
    · exact fun other hNe => (hFound other).trans (if_neg hNe)

/-- An allocation by id: no resource changes, or this one holds storage afterwards. -/
theorem run_allocate_cases (agent : Agent σ) (id : String) (world : World σ) :
    (∃ failure after, (updateResource agent id (.allocate ∅)).run world = (.error failure, after) ∧
      ∀ other, after.registry.resource? other = world.registry.resource? other) ∨
    ∃ before made out after, world.registry.resource? id = some before ∧
      (updateResource agent id (.allocate ∅)).run world = (.ok out, after) ∧
      made.document.allocated = true ∧ (before.Anchored → made.Anchored) ∧
      ∀ other, after.registry.resource? other =
        if other = id then some made else world.registry.resource? other := by
  rcases updateResource_cases agent id (.allocate ∅) world with
    ⟨failure, hRun⟩ | ⟨poolId, pool, before, hOwner, hPool, hStored, -, hRun⟩
  · exact .inl ⟨failure, world, hRun, fun _ => rfl⟩
  · have hFound : world.registry.resource? id = some before :=
      (Registry.resource?_eq hOwner hPool).trans hStored
    rcases Resource.run_allocate_cases agent pool.document ∅ before world.link with
      ⟨failure, link, hHandled⟩ | ⟨out, made, hHandled, hHeld⟩
    · rw [hHandled] at hRun
      refine .inl ⟨failure, _, hRun, fun other => ?_⟩
      rw [resource?_working hOwner hPool]
      split
      · next heq => rw [heq, hFound]
      · rfl
    · have hAnchored : before.Anchored → made.object.Anchored := by
        intro hBefore
        have hOnce : (ResourceCommand.allocate ∅).NamesOnce := trivial
        have hAfter := hBefore.handle agent pool.document world.link hOnce
        rwa [hHandled] at hAfter
      rw [hHandled] at hRun
      exact .inr ⟨before, made.object, out, _, hFound, hRun, hHeld, hAnchored,
        resource?_working hOwner hPool made⟩

end World

end DiskFleet
