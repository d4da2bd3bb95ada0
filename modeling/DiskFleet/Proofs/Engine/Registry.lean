import DiskFleet.Proofs.Engine.Run
import DiskFleet.Proofs.Registry.Change

/-!
# The registry along a run

The agreement of the tables of the registry, proved of moves in `DiskFleet.Proofs.Registry.Sound`,
holds in every state that a run of the engine reaches, whatever the operations, whatever the agents
answer, and however many of the operations fail.

## Main results

* `Engine.registry_sound`: the registry is sound, its lists are parted among the pools, resources
  keep what they are known by, and exactly the pools without resources can be removed.
-/

namespace DiskFleet

variable {σ : Type} {agent : Agent σ}

/-- A pool is removed exactly when it owns no resource, and otherwise nothing changes. -/
structure World.Closes (world : World σ) (poolId : String) : Prop where
  empty : (∀ id, world.registry.owners.get? id ≠ some poolId) →
    (World.destroyPool poolId).run world = (.ok (), world.closingPool poolId)
  kept : ∀ {id}, world.registry.owners.get? id = some poolId →
    (World.destroyPool poolId).run world =
      (.error (.illegalTransition (.poolOwnsResources poolId)), world)

/-- In a sound registry the tables of a pool decide whether it can go. -/
theorem World.Sound.closes {world : World σ} (h : world.Sound) {poolId : String} {pool : Pool}
    (hPool : world.registry.pools.get? poolId = some pool) : world.Closes poolId := by
  have hOwned : ∀ id, world.registry.owners.get? id = some poolId ↔
      (pool.resources.get? id).isSome = true := fun id => h.registry.owned_by_iff hPool
  have hRun : (World.destroyPool poolId).run world =
      (if pool.hasResources then
        Action.fail (.illegalTransition (.poolOwnsResources poolId))
      else World.modifyRegistry (·.removePool poolId)).run world := by
    simp only [World.destroyPool, Action.run_bind, World.run_ask, Registry.pool_eq_ok_iff.2 hPool]
  constructor
  · intro hNone
    have hEmpty : pool.hasResources = false := by
      apply Pool.hasResources_eq_false_iff.2
      intro id
      cases hResource : pool.resources.get? id with
      | none => rfl
      | some resource => exact absurd ((hOwned id).2 (by rw [hResource]; rfl)) (hNone id)
    rw [hRun, hEmpty]
    rfl
  · intro id hOwner
    have hHas : pool.hasResources = true := by
      apply Bool.of_not_eq_false
      intro hEmpty
      have hSome := (hOwned id).1 hOwner
      rw [Pool.hasResources_eq_false_iff.1 hEmpty id] at hSome
      cases hSome
    rw [hRun, hHas]
    rfl

namespace Engine

/-- An engine that was just made is sound. -/
theorem Vacant.sound {engine : Engine σ} (h : engine.Vacant)
    (hDistinct : engine.world.supply.Distinct) : engine.world.Sound := by
  refine ⟨hDistinct, .of_vacant h.pools h.owners, ?_, ?_⟩
  · intro poolId pool hPool
    rw [h.pools] at hPool
    cases hPool
  · intro id poolId hOwner
    rw [h.owners] at hOwner
    cases hOwner

/-- **The registry is sound in every reachable state.** Every operation is permitted at any time,
with any arguments. -/
theorem registry_sound {start engine : Engine σ} (hVacant : start.Vacant)
    (hDistinct : start.world.supply.Distinct)
    (hRun : Run agent (fun _ _ => True) start engine) :
    engine.world.registry.Sound ∧ engine.world.registry.Parted ∧
      (∀ later, Run agent (fun _ _ => True) engine later → ∀ id earlier resource,
        engine.world.registry.resource? id = some earlier →
        later.world.registry.resource? id = some resource →
        resource.identity = earlier.identity) ∧
      ∀ poolId pool, engine.world.registry.pools.get? poolId = some pool →
        engine.world.Closes poolId := by
  have hAdmitted : ∀ (engine : Engine σ) (operation : Operation), True →
      operation.Admitted fun _ => True := by
    intro engine operation _
    cases operation
    case createImage document => exact fun _ _ _ _ _ => trivial
    all_goals trivial
  have hSound : engine.world.Sound :=
    (hVacant.sound hDistinct).moves (hRun.moves .of_all hAdmitted)
  refine ⟨hSound.registry, hSound.registry.parted, ?_, fun poolId pool => hSound.closes⟩
  intro later hLater id earlier resource hEarlier hResource
  -- what is registered has an id that was drawn
  have hDrawn : engine.world.supply.Drawn id := by
    obtain ⟨poolId, pool, hOwner, -⟩ := Registry.resource?_eq_some_iff.1 hEarlier
    exact hSound.ownedDrawn hOwner
  have hRemembers := hSound.remembers (hLater.moves .of_all hAdmitted)
  obtain ⟨before, hBefore, hSame⟩ := hRemembers.identity hResource hDrawn
  obtain rfl := Option.some.inj (hEarlier.symm.trans hBefore)
  exact hSame

/-- The registry of the smallest engine with one volume. -/
theorem registry_sound_volume :
    smallest.Vacant ∧ smallest.world.supply.Distinct ∧
      (makingVolume.foldl (after .willing) smallest).world.registry.owners.keys = ["i"] ∧
      (makingVolume.foldl (after .willing) smallest).world.registry.Sound :=
  ⟨vacant_vacant _ _ _ _, Supply.strokes_distinct, by decide,
    (registry_sound (vacant_vacant _ _ _ _) Supply.strokes_distinct
      (.of_list fun _ _ _ => trivial)).1⟩

end Engine

end DiskFleet
