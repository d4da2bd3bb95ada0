import DiskFleet.Proofs.Registry.Move

/-!
# The registry as a whole

The registry holds three views of its resources: the table of owners, the tables of the pools, and
the documents of the resources. Every operation updates them one after another. `Registry.Sound`
says that they agree: each pool is stored under its own id, a resource has an owner exactly when
that pool owns it, and its document tells the truth about where it is.

That a new resource or pool takes nothing over from an older one rests on the supply: ids that are
in use were drawn from it, and no two draws are the same. `World.Sound` adds this, and it is kept by
every move.

## Main results

* `Registry.Sound.parted`: all resources are those of the pools, each listed once;
* `World.Sound.moves`: the agreement survives any number of moves.
-/

namespace DiskFleet

/-- A resource object as a pool of a kind owns it under an id: it knows both ids, its type is one
that the kind supports, and a volume is of the kind that such pools are made for. -/
structure Resource.Housed (kind : PoolKind) (poolId id : String) (resource : Resource) : Prop where
  named : resource.document.id = some id
  pooled : resource.document.pool = some poolId
  supported : ∃ cls, kind.classFor? resource.document.type = some cls ∧
    resource.behaviour = resource.document.type ∧
    (resource.document.type = .volume → resource.document.volumeKind = cls.volumeKind?)

/-- Work on a resource leaves it where it is. -/
theorem Resource.Housed.of_step {σ : Type} {agent : Agent σ} {document : PoolDocument}
    {kind : PoolKind} {poolId id : String} {before after : Linked σ Resource}
    (h : before.object.Housed kind poolId id) (hStep : Step agent document before after) :
    after.object.Housed kind poolId id := by
  obtain ⟨hIdentity, hBehaviour⟩ := hStep.kept
  simp only [identity, Identity.mk.injEq] at hIdentity
  obtain ⟨hId, -, hType, hPool, hKind⟩ := hIdentity
  exact ⟨hId.trans h.named, hPool.trans h.pooled, by
    rw [hType, hKind, hBehaviour]
    exact h.supported⟩

namespace Pool

/-- A resource that is taken in is built for this pool from its definition. -/
theorem of_addResource {pool after : Pool} {id : String} {definition : ResourceDocument}
    (h : pool.addResource id definition = .ok after) :
    ∃ resource, after = { pool with resources := pool.resources.insert id resource } ∧
      definition.pool = some pool.idText ∧ resource.Housed pool.kind pool.idText id ∧
      resource.document.type = definition.type ∧ resource.document.name = definition.name ∧
      resource.document.allocated = definition.allocated ∧
      resource.document.bindings = definition.bindings := by
  obtain ⟨resource, hBuild, hAfter⟩ := Action.bind_eq_ok_iff.1 h
  obtain rfl := Except.ok.inj hAfter
  refine ⟨resource, rfl, ?_⟩
  unfold buildResource at hBuild
  by_cases hForeign : definition.pool ≠ some pool.idText
  · rw [if_pos hForeign] at hBuild
    cases hBuild
  · rw [if_neg hForeign] at hBuild
    have hPool : definition.pool = some pool.idText := Decidable.not_not.1 hForeign
    obtain ⟨cls, hClass, hResource⟩ := Action.bind_eq_ok_iff.1 hBuild
    obtain rfl := Except.ok.inj hResource
    have hSupported := classFor_eq_ok_iff.1 hClass
    have hType := PoolKind.type_of_classFor? hSupported
    by_cases hOther : definition.type = .volume ∧ definition.volumeKind ≠ cls.volumeKind?
    · rw [if_pos hOther]
      have hVolume : cls.type = .volume := hType.trans hOther.1
      exact ⟨hPool, ⟨rfl, by simpa [ResourceClass.build] using hPool, cls,
        by simpa [ResourceClass.build] using hSupported,
        by simpa [ResourceClass.build] using hType,
        fun _ => ResourceClass.volumeKind_adopt hVolume definition⟩,
        cls.type_adopt definition, cls.name_adopt definition, cls.allocated_adopt definition,
        cls.bindings_adopt definition⟩
    · rw [if_neg hOther]
      refine ⟨hPool, ⟨rfl, hPool, cls, hSupported, hType, fun hVolume => ?_⟩, rfl, rfl, rfl, rfl⟩
      exact Decidable.byContradiction fun hKind => hOther ⟨hVolume, hKind⟩

end Pool

namespace Registry

/-- The three views of the resources agree. -/
structure Sound (registry : Registry) : Prop where
  pooled : ∀ {poolId pool}, registry.pools.get? poolId = some pool →
    pool.document.id = some poolId
  owned : ∀ {id poolId}, registry.owners.get? id = some poolId ↔
    ∃ pool resource, registry.pools.get? poolId = some pool ∧
      pool.resources.get? id = some resource
  housed : ∀ {poolId pool id resource}, registry.pools.get? poolId = some pool →
    pool.resources.get? id = some resource → resource.Housed pool.kind poolId id

/-- The list of all resources is the disjoint union of the lists of the pools; none of these lists
names a resource twice. -/
structure Parted (registry : Registry) : Prop where
  all : ∃ all, registry.resourceIds none = .ok all ∧ all.Nodup
  each : ∀ {poolId ids}, registry.resourceIds (some poolId) = .ok ids → ids.Nodup
  union : ∀ {all id}, registry.resourceIds none = .ok all →
    (id ∈ all ↔ ∃ poolId ids, registry.resourceIds (some poolId) = .ok ids ∧ id ∈ ids)
  disjoint : ∀ {poolId other ids otherIds id}, registry.resourceIds (some poolId) = .ok ids →
    registry.resourceIds (some other) = .ok otherIds → id ∈ ids → id ∈ otherIds → poolId = other

/-- A registry without pools. -/
theorem Sound.of_vacant {registry : Registry} (hPools : registry.pools = ∅)
    (hOwners : registry.owners = ∅) : registry.Sound := by
  have hNoPool : ∀ poolId, registry.pools.get? poolId = none := by
    intro poolId
    rw [hPools]
    rfl
  have hNoOwner : ∀ id, registry.owners.get? id = none := by
    intro id
    rw [hOwners]
    rfl
  constructor
  · intro poolId pool hPool
    rw [hNoPool] at hPool
    cases hPool
  · intro id poolId
    rw [hNoOwner]
    constructor
    · intro h
      cases h
    · rintro ⟨pool, resource, hPool, -⟩
      rw [hNoPool] at hPool
      cases hPool
  · intro poolId pool id resource hPool
    rw [hNoPool] at hPool
    cases hPool

namespace Sound

variable {registry : Registry} {poolId : String} {pool : Pool}

/-- A registered pool knows the id it is stored under. -/
theorem idText_pool (h : registry.Sound) (hPool : registry.pools.get? poolId = some pool) :
    pool.idText = poolId := by
  rw [Pool.idText, PoolDocument.idText, h.pooled hPool, Option.getD_some]

/-- A pool owns what is stored in it. -/
theorem owned_by_iff (h : registry.Sound) (hPool : registry.pools.get? poolId = some pool)
    {id : String} :
    registry.owners.get? id = some poolId ↔ (pool.resources.get? id).isSome = true := by
  rw [h.owned, Option.isSome_iff_exists]
  constructor
  · rintro ⟨other, resource, hOther, hResource⟩
    obtain rfl := Option.some.inj (hPool.symm.trans hOther)
    exact ⟨resource, hResource⟩
  · rintro ⟨resource, hResource⟩
    exact ⟨pool, resource, hPool, hResource⟩

/-- A new pool without resources. -/
theorem putPool_new (h : registry.Sound) (hFresh : registry.pools.get? poolId = none)
    (hId : pool.document.id = some poolId) (hEmpty : ∀ id, pool.resources.get? id = none) :
    (registry.putPool poolId pool).Sound := by
  constructor
  · intro other stored hStored
    simp only [putPool, Table.get?_insert] at hStored
    split at hStored
    · next heq =>
      obtain rfl := Option.some.inj hStored
      rw [hId, heq]
    · exact h.pooled hStored
  · intro id other
    simp only [putPool, Table.get?_insert]
    rw [h.owned]
    constructor
    · rintro ⟨stored, resource, hStored, hResource⟩
      have hNe : other ≠ poolId := by
        rintro rfl
        rw [hFresh] at hStored
        cases hStored
      exact ⟨stored, resource, by rw [if_neg hNe]; exact hStored, hResource⟩
    · rintro ⟨stored, resource, hStored, hResource⟩
      split at hStored
      · obtain rfl := Option.some.inj hStored
        rw [hEmpty] at hResource
        cases hResource
      · exact ⟨stored, resource, hStored, hResource⟩
  · intro other stored id resource hStored hResource
    simp only [putPool, Table.get?_insert] at hStored
    split at hStored
    · obtain rfl := Option.some.inj hStored
      rw [hEmpty] at hResource
      cases hResource
    · exact h.housed hStored hResource

/-- A pool without resources is taken off. -/
theorem removePool_empty (h : registry.Sound) (hPool : registry.pools.get? poolId = some pool)
    (hEmpty : ∀ id, pool.resources.get? id = none) : (registry.removePool poolId).Sound := by
  constructor
  · intro other stored hStored
    simp only [removePool, Table.get?_erase] at hStored
    split at hStored
    · cases hStored
    · exact h.pooled hStored
  · intro id other
    simp only [removePool, Table.get?_erase]
    rw [h.owned]
    constructor
    · rintro ⟨stored, resource, hStored, hResource⟩
      have hNe : other ≠ poolId := by
        rintro rfl
        obtain rfl := Option.some.inj (hPool.symm.trans hStored)
        rw [hEmpty] at hResource
        cases hResource
      exact ⟨stored, resource, by rw [if_neg hNe]; exact hStored, hResource⟩
    · rintro ⟨stored, resource, hStored, hResource⟩
      split at hStored
      · cases hStored
      · exact ⟨stored, resource, hStored, hResource⟩
  · intro other stored id resource hStored hResource
    simp only [removePool, Table.get?_erase] at hStored
    split at hStored
    · cases hStored
    · exact h.housed hStored hResource

/-- A registered pool gets other resources, and the owners follow. -/
theorem replaceResources (h : registry.Sound) (hPool : registry.pools.get? poolId = some pool)
    {resources : Table Resource} {owners : Table String}
    (hHoused : ∀ id resource, resources.get? id = some resource →
      resource.Housed pool.kind poolId id)
    (hSame : ∀ id, owners.get? id = some poolId ↔ (resources.get? id).isSome = true)
    (hOther : ∀ id other, other ≠ poolId →
      (owners.get? id = some other ↔ registry.owners.get? id = some other)) :
    Sound { registry with
      pools := registry.pools.insert poolId { pool with resources }, owners } := by
  constructor
  · intro other stored hStored
    simp only [Table.get?_insert] at hStored
    split at hStored
    · next heq =>
      obtain rfl := Option.some.inj hStored
      have hId : pool.document.id = some poolId := h.pooled hPool
      rw [heq]
      exact hId
    · exact h.pooled hStored
  · intro id other
    simp only [Table.get?_insert]
    by_cases heq : other = poolId
    · subst heq
      rw [hSame, Option.isSome_iff_exists]
      constructor
      · rintro ⟨resource, hResource⟩
        exact ⟨_, resource, if_pos rfl, hResource⟩
      · rintro ⟨stored, resource, hStored, hResource⟩
        rw [if_pos rfl] at hStored
        obtain rfl := Option.some.inj hStored
        exact ⟨resource, hResource⟩
    · rw [hOther id other heq, h.owned]
      simp only [if_neg heq]
  · intro other stored id resource hStored hResource
    simp only [Table.get?_insert] at hStored
    split at hStored
    · next heq =>
      obtain rfl := Option.some.inj hStored
      rw [heq]
      exact hHoused id resource hResource
    · exact h.housed hStored hResource

/-- What the registry lists is parted among the pools. -/
theorem parted (h : registry.Sound) : registry.Parted := by
  have hIds : ∀ {poolId ids}, registry.resourceIds (some poolId) = .ok ids ↔
      ∃ pool, registry.pools.get? poolId = some pool ∧ pool.resources.keys = ids := by
    intro poolId ids
    simp only [resourceIds, Action.bind_eq_ok_iff, pool_eq_ok_iff, pure, Except.pure,
      Except.ok.injEq]
  have hOwns : ∀ {poolId ids id}, registry.resourceIds (some poolId) = .ok ids → id ∈ ids →
      registry.owners.get? id = some poolId := by
    intro poolId ids id hList hMem
    obtain ⟨pool, hPool, rfl⟩ := hIds.1 hList
    exact (h.owned_by_iff hPool).2 ((Table.contains_iff_mem_keys _ _).2 hMem)
  constructor
  · exact ⟨registry.owners.keys, rfl, registry.owners.nodup⟩
  · intro poolId ids hList
    obtain ⟨pool, -, rfl⟩ := hIds.1 hList
    exact pool.resources.nodup
  · intro all id hAll
    obtain rfl := Except.ok.inj hAll
    rw [← Table.contains_iff_mem_keys, Table.contains, Option.isSome_iff_exists]
    constructor
    · rintro ⟨poolId, hOwner⟩
      obtain ⟨pool, resource, hPool, hResource⟩ := h.owned.1 hOwner
      refine ⟨poolId, pool.resources.keys, hIds.2 ⟨pool, hPool, rfl⟩, ?_⟩
      rw [← Table.contains_iff_mem_keys, Table.contains, hResource]
      rfl
    · rintro ⟨poolId, ids, hList, hMem⟩
      exact ⟨poolId, hOwns hList hMem⟩
  · intro poolId other ids otherIds id hList hOther hMem hOtherMem
    exact Option.some.inj ((hOwns hList hMem).symm.trans (hOwns hOther hOtherMem))

end Sound

end Registry

namespace Supply

variable {supply : Supply} {id : String}

/-- The ids that have been drawn. -/
def Drawn (supply : Supply) (id : String) : Prop := ∃ i, i < supply.ids ∧ supply.idText i = id

/-- The next id is new. -/
theorem Distinct.not_drawn_nextId (h : supply.Distinct) : ¬supply.Drawn supply.nextId := by
  rintro ⟨i, hLess, hSame⟩
  have hEq : i = supply.ids := h i supply.ids hSame
  omega

end Supply

namespace World

variable {σ : Type} {agent : Agent σ} {admits : ResourceDocument → Prop}
  {mayDrop : String → Prop} {mayOpen : PoolDocument → Prop} {world next : World σ}

/-- The registry is sound, and every id in use was drawn from a supply without repetitions. -/
structure Sound (world : World σ) : Prop where
  distinct : world.supply.Distinct
  registry : world.registry.Sound
  poolDrawn : ∀ {poolId pool}, world.registry.pools.get? poolId = some pool →
    world.supply.Drawn poolId
  ownedDrawn : ∀ {id poolId}, world.registry.owners.get? id = some poolId → world.supply.Drawn id

/-- An id that was drawn stays drawn. -/
theorem drawn_drawingId {id : String} (h : world.supply.Drawn id) :
    world.drawingId.supply.Drawn id := by
  obtain ⟨i, hLess, hSame⟩ := h
  exact ⟨i, Nat.lt_succ_of_lt hLess, hSame⟩

/-- Drawing an id makes that id drawn. -/
theorem drawn_nextId (world : World σ) : world.drawingId.supply.Drawn world.supply.nextId :=
  ⟨world.supply.ids, Nat.lt_succ_self _, rfl⟩

namespace Sound

/-- The next id is in use nowhere. -/
theorem pools_nextId (h : world.Sound) :
    world.registry.pools.get? world.supply.nextId = none := by
  cases hPool : world.registry.pools.get? world.supply.nextId with
  | none => rfl
  | some pool => exact absurd (h.poolDrawn hPool) h.distinct.not_drawn_nextId

theorem owners_nextId (h : world.Sound) :
    world.registry.owners.get? world.supply.nextId = none := by
  cases hOwner : world.registry.owners.get? world.supply.nextId with
  | none => rfl
  | some poolId => exact absurd (h.ownedDrawn hOwner) h.distinct.not_drawn_nextId

/-- A pool that is made is new and empty. -/
theorem openingPool (h : world.Sound) (document : PoolDocument) :
    (world.openingPool document).Sound := by
  constructor
  · exact h.distinct
  · exact h.registry.putPool_new h.pools_nextId rfl fun _ => rfl
  · intro poolId pool hPool
    simp only [World.openingPool, Registry.putPool, Table.get?_insert] at hPool
    split at hPool
    · next heq =>
      rw [heq]
      exact world.drawn_nextId
    · exact drawn_drawingId (h.poolDrawn hPool)
  · intro id poolId hOwner
    exact drawn_drawingId (h.ownedDrawn hOwner)

/-- A resource is entered in the pool that took it in. -/
theorem entering (h : world.Sound) {poolId : String} {pool after : Pool}
    {definition : ResourceDocument} (hPool : world.registry.pools.get? poolId = some pool)
    (hAdd : pool.addResource world.supply.nextId definition = .ok after) :
    (world.entering poolId after).Sound := by
  obtain ⟨resource, rfl, -, hHoused, -⟩ := Pool.of_addResource hAdd
  rw [h.registry.idText_pool hPool] at hHoused
  constructor
  · exact h.distinct
  · refine h.registry.replaceResources hPool ?_ ?_ ?_
    · intro id stored hStored
      simp only [Table.get?_insert] at hStored
      split at hStored
      · next heq =>
        obtain rfl := Option.some.inj hStored
        rw [heq]
        exact hHoused
      · exact h.registry.housed hPool hStored
    · intro id
      simp only [Table.get?_insert]
      split
      · simp
      · exact h.registry.owned_by_iff hPool
    · intro id other hNe
      simp only [Table.get?_insert]
      split
      · next heq =>
        rw [heq, h.owners_nextId]
        simp [Ne.symm hNe]
      · rfl
  · intro other stored hStored
    simp only [World.entering, Registry.putPool, Registry.enter, Table.get?_insert] at hStored
    split at hStored
    · next heq =>
      rw [heq]
      exact drawn_drawingId (h.poolDrawn hPool)
    · exact drawn_drawingId (h.poolDrawn hStored)
  · intro id other hOwner
    simp only [World.entering, Registry.putPool, Registry.enter, Table.get?_insert] at hOwner
    split at hOwner
    · next heq =>
      rw [heq]
      exact world.drawn_nextId
    · exact drawn_drawingId (h.ownedDrawn hOwner)

/-- A resource is dropped from the pool that owns it. -/
theorem dropping (h : world.Sound) {id poolId : String} {pool after : Pool}
    (hOwner : world.registry.owners.get? id = some poolId)
    (hPool : world.registry.pools.get? poolId = some pool)
    (hDrop : pool.dropResource id = .ok after) : (world.dropping poolId after id).Sound := by
  obtain ⟨resource, -, -, rfl⟩ := Pool.of_dropResource hDrop
  constructor
  · exact h.distinct
  · refine h.registry.replaceResources hPool ?_ ?_ ?_
    · intro other stored hStored
      simp only [Table.get?_erase] at hStored
      split at hStored
      · cases hStored
      · exact h.registry.housed hPool hStored
    · intro other
      simp only [Table.get?_erase]
      split
      · simp
      · exact h.registry.owned_by_iff hPool
    · intro other otherPool hNe
      simp only [Table.get?_erase]
      split
      · next heq =>
        rw [heq, hOwner]
        simp [Ne.symm hNe]
      · rfl
  · intro other stored hStored
    simp only [World.dropping, Registry.putPool, Registry.strike, Table.get?_insert] at hStored
    split at hStored
    · next heq =>
      rw [heq]
      exact h.poolDrawn hPool
    · exact h.poolDrawn hStored
  · intro other otherPool hOther
    simp only [World.dropping, Registry.putPool, Registry.strike, Table.get?_erase] at hOther
    split at hOther
    · cases hOther
    · exact h.ownedDrawn hOther

/-- Work on a resource leaves it where it is. -/
theorem working (h : world.Sound) {id poolId : String} {pool : Pool} {resource : Resource}
    {after : Linked σ Resource} (hPool : world.registry.pools.get? poolId = some pool)
    (hResource : pool.resources.get? id = some resource)
    (hStep : Resource.Step agent pool.document ⟨resource, world.link⟩ after) :
    (world.working poolId pool id after).Sound := by
  constructor
  · exact h.distinct
  · refine h.registry.replaceResources hPool ?_ ?_ ?_
    · intro other stored hStored
      simp only [Table.get?_insert] at hStored
      split at hStored
      · next heq =>
        obtain rfl := Option.some.inj hStored
        rw [heq]
        exact (h.registry.housed hPool hResource).of_step hStep
      · exact h.registry.housed hPool hStored
    · intro other
      simp only [Table.get?_insert]
      split
      · next heq =>
        rw [heq, h.registry.owned_by_iff hPool, hResource]
        simp
      · exact h.registry.owned_by_iff hPool
    · intro other otherPool hNe
      rfl
  · intro other stored hStored
    simp only [World.working, Registry.putPool, Table.get?_insert] at hStored
    split at hStored
    · next heq =>
      rw [heq]
      exact h.poolDrawn hPool
    · exact h.poolDrawn hStored
  · intro other otherPool hOwner
    exact h.ownedDrawn hOwner

/-- **Every move keeps the registry sound.** -/
theorem move (h : world.Sound) (hMove : Move agent admits mayDrop mayOpen world next) :
    next.Sound := by
  cases hMove with
  | drawId =>
      exact ⟨h.distinct, h.registry, fun hPool => drawn_drawingId (h.poolDrawn hPool),
        fun hOwner => drawn_drawingId (h.ownedDrawn hOwner)⟩
  | drawSuffix => exact ⟨h.distinct, h.registry, h.poolDrawn, h.ownedDrawn⟩
  | openPool => exact h.openingPool _
  | closePool hPool hEmpty =>
      refine ⟨h.distinct,
        h.registry.removePool_empty hPool (Pool.hasResources_eq_false_iff.1 hEmpty), ?_,
        h.ownedDrawn⟩
      intro poolId pool hStored
      simp only [closingPool, Registry.removePool, Table.get?_erase] at hStored
      split at hStored
      · cases hStored
      · exact h.poolDrawn hStored
  | enter hDefinition hPool hAdd => exact h.entering hPool hAdd
  | drop hId hOwner hPool hDrop => exact h.dropping hOwner hPool hDrop
  | work hOwner hPool hResource hInside =>
      exact h.working hPool hResource (Resource.handle_step _)
  | callImage hCall => exact ⟨h.distinct, h.registry, h.poolDrawn, h.ownedDrawn⟩

/-- **So do any number of moves.** -/
theorem moves (h : world.Sound) (hMoves : Course agent admits mayDrop mayOpen world next) :
    next.Sound := by
  induction hMoves with
  | refl => exact h
  | tail _ hMove ih => exact ih.move hMove

end Sound

end World

end DiskFleet
