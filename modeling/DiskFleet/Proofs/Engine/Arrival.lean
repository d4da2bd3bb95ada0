import DiskFleet.Proofs.Engine.Commands
import DiskFleet.Proofs.Engine.Pipeline

/-!
# A resource from its arrival on

A resource of a class comes into a pool in one of two ways: its class defines it and it is created,
or it is the copy of a resource of the same type. Either way it arrives unbound and without storage,
as an object of the class (`Arrives.hosted`).

From then on it stays where it is. A command for it takes one step of `Resource.Step` in a pool
whose document does not change (`World.hosts_updateResource`), so that what a step preserves holds
after every run of commands.

## Main results

* `World.Arrives.hosted`: what a resource is when it arrives;
* `World.hosts_updateResource`: what a command leaves of it.
-/

namespace DiskFleet

namespace ResourceClass

/-- A definition as a class takes it in: as it is, unless it is of another kind of volume. -/
def taken (cls : ResourceClass) (definition : ResourceDocument) : ResourceDocument :=
  if definition.type = .volume ∧ definition.volumeKind ≠ cls.volumeKind? then cls.adopt definition
  else definition

variable {cls : ResourceClass} {definition : ResourceDocument}

@[simp] theorem taken_tapPort (definition : ResourceDocument) :
    tapPort.taken definition = definition := by
  unfold taken
  split <;> rfl

/-- A volume that is taken in is of the kind of the class. -/
theorem volumeKind_taken (h : definition.type = .volume) (hClass : cls.type = .volume) :
    (cls.taken definition).volumeKind = cls.volumeKind? := by
  unfold taken
  split
  · exact cls.volumeKind_adopt hClass definition
  · next hSame => exact Decidable.not_not.1 fun hOther => hSame ⟨h, hOther⟩

@[simp] theorem type_taken : (cls.taken definition).type = definition.type := by
  unfold taken
  split
  · exact cls.type_adopt definition
  · rfl

@[simp] theorem bindings_taken : (cls.taken definition).bindings = definition.bindings := by
  unfold taken
  split
  · exact cls.bindings_adopt definition
  · rfl

end ResourceClass

/-- A pool makes an object of its class of a definition of the right type. -/
theorem Pool.of_buildResource {pool : Pool} {cls : ResourceClass} {id : String}
    {definition : ResourceDocument} {resource : Resource}
    (hClass : pool.kind.classFor? cls.type = some cls) (hType : definition.type = cls.type)
    (h : pool.buildResource id definition = .ok resource) :
    resource = cls.build id (cls.taken definition) := by
  unfold buildResource at h
  by_cases hForeign : definition.pool ≠ some pool.idText
  · rw [if_pos hForeign] at h
    cases h
  · rw [if_neg hForeign] at h
    have hClassOf : pool.classFor definition.type = .ok cls := by
      rw [hType]
      exact Pool.classFor_eq_ok_iff.2 hClass
    obtain ⟨found, hFound, hResource⟩ := Action.bind_eq_ok_iff.1 h
    obtain rfl := Except.ok.inj (hFound.symm.trans hClassOf)
    exact (Except.ok.inj hResource).symm

namespace World

variable {σ : Type} {world created : World σ} {cls : ResourceClass}
  {poolId id : String} {pool : Pool} {definition : ResourceDocument} {resource : Resource}

/-- A resource is registered in a pool with the given document. -/
def Hosts (world : World σ) (document : PoolDocument) (id : String) (resource : Resource) : Prop :=
  ∃ poolId pool, world.registry.Stores poolId pool id resource ∧ pool.document = document

theorem Hosts.found {document : PoolDocument} (h : world.Hosts document id resource) :
    world.registry.resource? id = some resource := by
  obtain ⟨poolId, pool, hStores, -⟩ := h
  exact hStores.found

/-- **A command for a resource takes one step** in the pool where it is. -/
theorem hosts_updateResource (agent : Agent σ) (command : ResourceCommand)
    {document : PoolDocument} (h : world.Hosts document id resource) :
    ∃ after, ((updateResource agent id command).run world).2.Hosts document id after.object ∧
      ((updateResource agent id command).run world).2.link = after.link ∧
      Resource.Step agent document ⟨resource, world.link⟩ after := by
  rcases updateResource_cases agent id command world with
    ⟨failure, hRun⟩ | ⟨poolId, pool, stored, hOwner, hPool, hStored, hInside, hRun⟩
  · rw [hRun]
    exact ⟨⟨resource, world.link⟩, h, rfl, .stayed _⟩
  · obtain ⟨otherId, other, hStores, rfl⟩ := h
    obtain rfl : otherId = poolId := Option.some.inj (hStores.owner.symm.trans hOwner)
    obtain rfl : other = pool := Option.some.inj (hStores.opened.symm.trans hPool)
    obtain rfl : resource = stored := Option.some.inj (hStores.stored.symm.trans hStored)
    obtain ⟨-, hStill⟩ := run_updateResource_of_stores agent command hStores
      (Pool.nodes_subset_of_inside hInside) rfl
    rw [hRun]
    exact ⟨_, ⟨otherId, _, hStill, rfl⟩, rfl, Resource.handle_step command⟩

/-! ## Arrival -/

/-- A resource of a class came into a pool under the given id, as the definition has it. -/
inductive Arrives (cls : ResourceClass) (poolId : String) (world created : World σ) (id : String) :
    ResourceDocument → Prop
  /-- It was defined by its class and created. -/
  | defined {name : String} {params : Params} {definition : ResourceDocument} :
      cls.define name params = .ok definition →
      (createResource { definition with pool := some poolId }).run world = (.ok id, created) →
      Arrives cls poolId world created id { definition with pool := some poolId }
  /-- It was copied from a resource of the same type. -/
  | copied {source suffix : String} {original : Resource} :
      world.registry.resource? source = some original → original.behaviour = cls.type →
      original.document.type = cls.type →
      (copyResourceAs source poolId suffix).run world = (.ok id, created) →
      Arrives cls poolId world created id (original.copied poolId suffix)

/-- What arrives is of the type of its class, unbound and without storage. -/
theorem Arrives.idle (h : Arrives cls poolId world created id definition) :
    definition.type = cls.type ∧ definition.allocated = false ∧ definition.bindings = ∅ := by
  cases h with
  | defined hDefined =>
      obtain ⟨hType, hFree, hUnbound⟩ := ResourceClass.type_of_define hDefined
      exact ⟨hType, hFree, hUnbound⟩
  | copied _ _ hType => exact ⟨hType, rfl, rfl⟩

/-- A resource that a pool has taken in is where it belongs. -/
theorem hosts_entering {filled : Pool}
    (hAdd : pool.addResource world.supply.nextId definition = .ok filled) :
    ∃ resource, pool.buildResource world.supply.nextId definition = .ok resource ∧
      (world.entering poolId filled).Hosts pool.document world.supply.nextId resource := by
  obtain ⟨resource, hBuild, hPure⟩ := Action.bind_eq_ok_iff.1 hAdd
  obtain rfl := Except.ok.inj hPure
  refine ⟨resource, hBuild, poolId,
    { pool with resources := pool.resources.insert world.supply.nextId resource },
    ⟨?_, ?_, ?_⟩, rfl⟩
  · simp [entering, Registry.enter, Registry.putPool]
  · simp [entering, Registry.enter, Registry.putPool]
  · simp

/-- **A resource arrives as an object of its class**, made of its definition by the pool, and no
call is made for it. -/
theorem Arrives.hosted (hPool : world.registry.pools.get? poolId = some pool)
    (hClass : pool.kind.classFor? cls.type = some cls)
    (h : Arrives cls poolId world created id definition) :
    created.Hosts pool.document id
        (cls.build id (cls.taken { definition with pool := some pool.idText })) ∧
      created.link = world.link := by
  have hType : ({ definition with pool := some pool.idText } : ResourceDocument).type = cls.type :=
    h.idle.1
  cases h with
  | @defined name params definition hDefined hRun =>
      rcases createResource_cases { definition with pool := some poolId } world with
        ⟨failure, hCase⟩ | ⟨failure, hCase⟩ | ⟨_, opened, filled, hNamed, hOpened, hAdd, hCase⟩
      · cases hRun.symm.trans hCase
      · cases hRun.symm.trans hCase
      · obtain rfl := Option.some.inj hNamed
        obtain rfl := Option.some.inj (hPool.symm.trans hOpened)
        cases hRun.symm.trans hCase
        obtain ⟨resource, hBuild, hHosts⟩ := hosts_entering hAdd
        -- the pool that the definition names is the one that took it in
        obtain ⟨-, -, hOwn, -⟩ := Pool.of_addResource hAdd
        have hSame : some poolId = some pool.idText := hOwn
        obtain rfl := Pool.of_buildResource hClass hType (hSame ▸ hBuild)
        exact ⟨hHosts, rfl⟩
  | copied hSource _ _ hRun =>
      rcases copyResourceAs_cases _ poolId _ world with
        ⟨failure, hCase⟩ | ⟨failure, hCase⟩ |
          ⟨sourcePoolId, sourcePool, source, opened, filled, hOwner, hSourcePool, hStored, hOpened,
            hAdd, hCase⟩
      · cases hRun.symm.trans hCase
      · cases hRun.symm.trans hCase
      · obtain rfl := Option.some.inj (hPool.symm.trans hOpened)
        obtain rfl := Option.some.inj
          (hSource.symm.trans ((Registry.resource?_eq hOwner hSourcePool).trans hStored))
        cases hRun.symm.trans hCase
        obtain ⟨resource, hBuild, hHosts⟩ :=
          hosts_entering (Pool.addResource_of_addCopy hAdd)
        obtain rfl := Pool.of_buildResource hClass hType hBuild
        exact ⟨hHosts, rfl⟩

end World

end DiskFleet
