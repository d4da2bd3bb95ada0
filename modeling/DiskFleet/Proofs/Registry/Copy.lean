import DiskFleet.Proofs.Registry.Without
import Mathlib.Data.List.Perm.Basic

/-!
# Copies that are taken back

A clone, of a resource or of all the volumes of a chain, makes new resources beside those that exist
and works on the new ones only. It keeps a list of what it made. That list is right at every point
(`World.Added`): erase its resources from the registry, and the registry is what it was at the
start. So nothing that existed is disturbed, whatever becomes of the clone, and to discard the list
restores the registry exactly.

Resources are erased in any order with the same result, which is why the list may be discarded from
its oldest resource on, although the pools list it last.

## Main results

* `Registry.keeps_of_withoutAll`: what was there without the new resources is there with them;
* `World.Added.push`, `World.Added.work`: the list stays right when a resource is made, and when one
  of it is worked on;
* `World.Added.run_discards`: to discard the list restores the registry;
* `World.cloneResource_added`: the clone of a resource.
-/

namespace DiskFleet

namespace Registry

variable {registry other : Registry} {id : String} {ids others : List String}

/-- Every resource and every pool is there as it was; others may have joined them. -/
structure Keeps (before after : Registry) : Prop where
  resources : ∀ {id resource}, before.resource? id = some resource →
    after.resource? id = some resource
  pools : ∀ {poolId pool}, before.pools.get? poolId = some pool →
    ∃ now, after.pools.get? poolId = some now ∧ now.kind = pool.kind ∧
      now.document = pool.document

/-- The registry without several resources. -/
def withoutAll (registry : Registry) (ids : List String) : Registry :=
  ids.foldl without registry

/-- The order in which two resources are erased does not matter. -/
theorem without_comm (registry : Registry) (id other : String) :
    (registry.without id).without other = (registry.without other).without id := by
  simp only [without, Table.mapValues_mapValues, Function.comp_def,
    Table.erase_comm _ id other]

instance : RightCommutative without := ⟨without_comm⟩

theorem withoutAll_perm (h : ids.Perm others) :
    registry.withoutAll ids = registry.withoutAll others :=
  h.foldl_eq registry

/-- Two registries that differ in one resource of a list are the same without the list. -/
theorem withoutAll_congr (hMem : id ∈ ids) (hSame : other.without id = registry.without id) :
    other.withoutAll ids = registry.withoutAll ids := by
  have hFirst : ids.Perm (id :: ids.erase id) := List.perm_cons_erase hMem
  rw [withoutAll_perm hFirst, withoutAll_perm hFirst]
  simp only [withoutAll, List.foldl_cons, hSame]

theorem withoutAll_concat (registry : Registry) (ids : List String) (id : String) :
    registry.withoutAll (ids ++ [id]) = (registry.without id).withoutAll ids :=
  withoutAll_perm (List.perm_append_singleton id ids)

/-- Looking away from resources leaves the settings of the registry as they are. -/
theorem recovery_withoutAll (registry : Registry) (ids : List String) :
    (registry.withoutAll ids).recovery = registry.recovery := by
  induction ids generalizing registry with
  | nil => rfl
  | cons id rest ih => exact ih (registry.without id)

/-- One resource is not found any longer, and every other one is as before. -/
theorem resource?_without (registry : Registry) (id other : String) :
    (registry.without id).resource? other =
      if other = id then none else registry.resource? other := by
  by_cases hSame : other = id
  · rw [if_pos hSame, hSame]
    exact resource?_of_not_owned (by simp [without])
  · rw [if_neg hSame]
    refine World.resource?_congr ?_ fun poolId _ => ?_
    · simp [without, hSame]
    · cases hPool : registry.pools.get? poolId <;> simp [without, hPool, hSame]

theorem resource?_of_withoutAll {resource : Resource}
    (h : (registry.withoutAll ids).resource? id = some resource) :
    registry.resource? id = some resource := by
  induction ids generalizing registry with
  | nil => exact h
  | cons first rest ih =>
      have hRest := ih h
      rw [resource?_without] at hRest
      split at hRest
      · cases hRest
      · exact hRest

theorem pool_of_withoutAll {poolId : String} {pool : Pool}
    (h : (registry.withoutAll ids).pools.get? poolId = some pool) :
    ∃ now, registry.pools.get? poolId = some now ∧ now.kind = pool.kind ∧
      now.document = pool.document := by
  induction ids generalizing registry with
  | nil => exact ⟨pool, h, rfl, rfl⟩
  | cons first rest ih =>
      obtain ⟨less, hLess, hKind, hDocument⟩ := ih h
      simp only [without, Table.get?_mapValues, Option.map_eq_some_iff] at hLess
      obtain ⟨now, hNow, rfl⟩ := hLess
      exact ⟨now, hNow, hKind, hDocument⟩

/-- **What was there without some resources is there with them.** -/
theorem keeps_of_withoutAll (h : registry.withoutAll ids = other) : other.Keeps registry := by
  subst h
  exact ⟨resource?_of_withoutAll, pool_of_withoutAll⟩

/-- A resource is anchored if it is found as one that is. -/
theorem Anchors.congr (h : registry.Anchors id)
    (hSame : other.resource? id = registry.resource? id) : other.Anchors id := by
  obtain ⟨resource, hFound, hAnchored⟩ := h
  exact ⟨resource, hSame.trans hFound, hAnchored⟩

/-- Looking away from one resource leaves every other one where it was. -/
theorem resource?_of_without (hSame : other.without id = registry.without id) {elsewhere : String}
    (hNe : elsewhere ≠ id) : other.resource? elsewhere = registry.resource? elsewhere := by
  have hFound := congrArg (fun registry => registry.resource? elsewhere) hSame
  simpa only [resource?_without, if_neg hNe] using hFound

end Registry

namespace World

variable {σ : Type} {agent : Agent σ} {world after next : World σ} {id : String}
  {start : Registry} {made : List String}

/-! ## One copy -/

/-- A copy that cannot be made leaves nothing behind. -/
theorem registry_copyResourceAs_error {resource destination suffix : String} {failure : Failure}
    (hRun : (copyResourceAs resource destination suffix).run world = (.error failure, after)) :
    after.registry = world.registry := by
  rcases copyResourceAs_cases resource destination suffix world with
    ⟨_, hCase⟩ | ⟨_, hCase⟩ | ⟨_, _, _, _, _, _, _, _, _, _, hCase⟩
  · rw [hCase] at hRun
    cases hRun
    rfl
  · rw [hCase] at hRun
    cases hRun
    rfl
  · rw [hCase] at hRun
    cases hRun

/-- **A copy is made beside all that exists**, and holds no storage yet. -/
theorem of_copyResourceAs (h : world.Sound) {resource destination suffix : String}
    (hRun : (copyResourceAs resource destination suffix).run world = (.ok id, after)) :
    id = world.supply.nextId ∧ after.Sound ∧ after.registry.without id = world.registry ∧
      after.registry.Anchors id := by
  rcases copyResourceAs_cases resource destination suffix world with
    ⟨_, hCase⟩ | ⟨_, hCase⟩ |
      ⟨_, _, source, pool, filled, -, -, -, hPool, hAdd, hCase⟩
  · rw [hCase] at hRun
    cases hRun
  · rw [hCase] at hRun
    cases hRun
  · rw [hCase] at hRun
    cases hRun
    have hTaken := Pool.addResource_of_addCopy hAdd
    refine ⟨rfl, h.entering hPool hTaken, without_entering h hPool hTaken, ?_⟩
    obtain ⟨copy, rfl, -, -, -, -, hAllocated, -⟩ := Pool.of_addResource hTaken
    refine ⟨copy, (resource?_entering hPool copy _).trans (if_pos rfl), fun hHeld => ?_⟩
    rw [hAllocated] at hHeld
    cases hHeld

/-- Making a copy ready works on the copy only. -/
theorem prepare_worksOn (agent : Agent σ) (id : String) (nodes : List String) :
    (prepare agent id nodes).Along (WorksOn id) :=
  Action.along_bind (updateResource_worksOn agent id trivial) fun _ =>
    Action.along_bind (updateResource_worksOn agent id trivial) fun _ => Action.along_pure _

/-! ## A list of copies -/

/-- The resources of the list were made since the registry was `start`, and each can be released and
destroyed again. -/
structure Added (start : Registry) (made : List String) (world : World σ) : Prop where
  sound : world.Sound
  nodup : made.Nodup
  anchored : ∀ id ∈ made, world.registry.Anchors id
  others : world.registry.withoutAll made = start

/-- At the start nothing has been made. -/
theorem Sound.added (h : world.Sound) : Added world.registry [] world :=
  ⟨h, List.nodup_nil, by simp, rfl⟩

namespace Added

/-- Only the registry matters. -/
theorem congr (h : Added start made world) (hSound : next.Sound)
    (hSame : next.registry = world.registry) : Added start made next := by
  refine ⟨hSound, h.nodup, fun id hId => ?_, ?_⟩
  · rw [hSame]
    exact h.anchored id hId
  · rw [hSame]
    exact h.others

/-- **A resource that is made joins the list.** -/
theorem push (h : Added start made world) (hSound : next.Sound) (hNew : id = world.supply.nextId)
    (hWithout : next.registry.without id = world.registry) (hAnchors : next.registry.Anchors id) :
    Added start (made ++ [id]) next := by
  have hFree : ∀ earlier ∈ made, earlier ≠ id := by
    intro earlier hMade heq
    obtain ⟨resource, hFound, -⟩ := h.anchored earlier hMade
    rw [heq, hNew, Registry.resource?_of_not_owned h.sound.owners_nextId] at hFound
    cases hFound
  refine ⟨hSound, ?_, fun other hOther => ?_, ?_⟩
  · rw [List.nodup_append]
    exact ⟨h.nodup, by simp, fun earlier hMade _ hLast =>
      List.mem_singleton.1 hLast ▸ hFree earlier hMade⟩
  · rcases List.mem_append.1 hOther with hMade | hLast
    · refine (h.anchored other hMade).congr ?_
      rw [← hWithout, Registry.resource?_without, if_neg (hFree other hMade)]
    · rw [List.mem_singleton.1 hLast]
      exact hAnchors
  · rw [Registry.withoutAll_concat, hWithout]
    exact h.others

/-- **Work on a resource of the list keeps the list right.** -/
theorem work (h : Added start made world) (hSound : next.Sound) (hMem : id ∈ made)
    (hWorks : WorksOn id world next) : Added start made next := by
  refine ⟨hSound, h.nodup, fun other hOther => ?_,
    (Registry.withoutAll_congr hMem hWorks.others).trans h.others⟩
  by_cases hSame : other = id
  · rw [hSame]
    exact hWorks.anchors (h.anchored id hMem)
  · exact (h.anchored other hOther).congr (Registry.resource?_of_without hWorks.others hSame)

end Added

/-! ## What is discarded again -/

/-- The registry is the same without the resources of a list. -/
def SameBeside (ids : List String) (before after : World σ) : Prop :=
  after.registry.withoutAll ids = before.registry.withoutAll ids

instance {ids : List String} : IsPreorder (World σ) (SameBeside ids) where
  refl _ := rfl
  trans _ _ _ first second := second.trans first

/-- To discard a resource of a list changes nothing beside the list, whatever the agents do. -/
theorem discard_sameBeside (agent : Agent σ) {ids : List String} (hMem : id ∈ ids) :
    (discard agent id).Along (SameBeside ids) := by
  have hUpdate : (updateResource agent id (.release ∅)).Along (SameBeside ids) := fun world =>
    Registry.withoutAll_congr hMem (without_updateResource agent id _ world)
  have hDestroy : (destroyResource id : Action (World σ) Unit).Along (SameBeside ids) := by
    intro world
    rcases destroyResource_cases id world with
      ⟨_, hRun⟩ | ⟨poolId, pool, left, -, hPool, hDrop, hRun⟩
    · rw [hRun]
      exact refl world
    · obtain ⟨resource, -, -, rfl⟩ := Pool.of_dropResource hDrop
      rw [hRun]
      refine Registry.withoutAll_congr hMem ?_
      show (Registry.strike _ _).without _ = _
      rw [Registry.without_strike, Registry.without_putPool hPool (Table.erase_erase _ _)]
  refine Action.along_bind (Action.along_attempt hUpdate) fun result => ?_
  cases result with
  | error failure => exact Action.along_pure _
  | ok out =>
      exact Action.along_bind (Action.along_attempt hDestroy) fun _ => Action.along_pure _

/-- Whatever becomes of what was made when it is discarded, nothing else changes. -/
theorem Added.discarded (agent : Agent σ) (h : Added start made world) :
    ((Action.forEach (discard agent) made).run world).2.registry.withoutAll made = start := by
  have hBeside : (Action.forEach (discard agent) made).Along (SameBeside made) :=
    Action.along_forEach fun id hMem => discard_sameBeside agent hMem
  exact (hBeside world).trans h.others

/-- **To discard what was made restores the registry**, if the agents accept releases. -/
theorem Added.run_discards (hFrees : agent.Frees) (h : Added start made world) :
    ∃ after, (Action.forEach (discard agent) made).run world = (.ok (), after) ∧
      after.registry = start := by
  obtain ⟨hSound, hNodup, hAnchored, hOthers⟩ := h
  induction made generalizing world with
  | nil => exact ⟨world, rfl, hOthers⟩
  | cons first rest ih =>
      obtain ⟨hNew, hRest⟩ := List.nodup_cons.1 hNodup
      obtain ⟨next, hDiscard, hErased⟩ :=
        run_discard_of_anchored hFrees hSound (hAnchored first List.mem_cons_self)
      have hNext : next.Sound := by
        have hMoves : (discard agent first).Along
            (Moves agent (fun _ => True) fun _ => True) := discard_moves trivial
        have hRun := hSound.run agent hMoves
        rwa [hDiscard] at hRun
      have hStill : ∀ id ∈ rest, next.registry.Anchors id := by
        intro id hId
        refine (hAnchored id (List.mem_cons_of_mem _ hId)).congr ?_
        rw [hErased, Registry.resource?_without, if_neg]
        rintro rfl
        exact hNew hId
      obtain ⟨after, hDiscards, hRestored⟩ := ih hNext hRest hStill (by rw [hErased]; exact hOthers)
      exact ⟨after, (Action.run_bind_ok hDiscard).trans hDiscards, hRestored⟩

/-! ## The clone of a resource -/

/-- **The clone of a resource disturbs nothing that exists**, whatever it answers. If it answers
with an id, that names a new resource. If it fails, the agents accept releases and the recovery
setting asks for it, nothing is left of it. -/
theorem cloneResource_added (h : world.Sound) {resource : String}
    {result : Except Failure String}
    (hRun : (cloneResource agent resource).run world = (result, after)) :
    (∃ made, after.registry.withoutAll made = world.registry) ∧
      (∀ id, result = .ok id → world.registry.resource? id = none ∧
        (after.registry.resource? id).isSome = true) ∧
      ∀ failure, result = .error failure → agent.Frees → world.registry.recovery = .rollback →
        after.registry = world.registry := by
  simp only [cloneResource, Action.run_bind, run_ask] at hRun
  cases hSource : world.registry.resourceDocument resource with
  | error failure =>
      rw [hSource] at hRun
      cases hRun
      exact ⟨⟨[], rfl⟩, by rintro _ ⟨⟩, fun _ _ _ _ => rfl⟩
  | ok source =>
      simp only [hSource, copyResource, Action.run_bind, Action.run_gets, run_freshSuffix] at hRun
      have hSuffix : world.drawingSuffix.Sound :=
        h.run agent (freshSuffix_moves world.registry.suffixLength)
      have hDrawn : Added world.registry [] world.drawingSuffix := h.added.congr hSuffix rfl
      rcases hCopy : (copyResourceAs resource (source.pool.getD "")
          (world.supply.nextSuffix world.registry.suffixLength)).run world.drawingSuffix with
        ⟨refusal | id, copied⟩
      · rw [hCopy] at hRun
        cases hRun
        have hSame : after.registry = world.drawingSuffix.registry :=
          registry_copyResourceAs_error hCopy
        exact ⟨⟨[], hSame⟩, by rintro _ ⟨⟩, fun _ _ _ _ => hSame⟩
      · obtain ⟨hId, hSound, hWithout, hAnchors⟩ := of_copyResourceAs hDrawn.sound hCopy
        have hCopied : Added world.registry [id] copied :=
          hDrawn.push hSound hId hWithout hAnchors
        have hWorks := prepare_worksOn agent id source.bound copied
        have hReady := hCopied.work (hSound.run agent (prepare_moves id source.bound))
          List.mem_cons_self hWorks
        simp only [hCopy, Action.run_attempt] at hRun
        rcases hPrepare : (prepare agent id source.bound).run copied with ⟨refusal | _, ready⟩
        · rw [hPrepare] at hRun hReady
          have hRecovery : ready.registry.recovery = world.registry.recovery := by
            rw [← hReady.others, Registry.recovery_withoutAll]
          simp only [Action.run_bind, Action.run_gets] at hRun
          by_cases hRollback : ready.registry.recovery = .rollback
          · have hDiscard : discard agent id = Action.forEach (discard agent) [id] :=
              (bind_pure_unit).symm
            rw [if_pos hRollback, hDiscard, Action.run_bind] at hRun
            have hBeside := hReady.discarded agent
            rcases hDropped : (Action.forEach (discard agent) [id]).run ready with
              ⟨failed | _, dropped⟩
            all_goals
              rw [hDropped] at hRun hBeside
              cases hRun
              refine ⟨⟨[id], hBeside⟩, by rintro _ ⟨⟩, fun _ _ hFrees _ => ?_⟩
              obtain ⟨restored, hDiscards, hRestored⟩ := hReady.run_discards hFrees
              rw [hDropped] at hDiscards
              cases hDiscards
            exact hRestored
          · rw [if_neg hRollback] at hRun
            cases hRun
            refine ⟨⟨[id], hReady.others⟩, by rintro _ ⟨⟩, fun _ _ _ hAsked => ?_⟩
            exact absurd (hRecovery.trans hAsked) hRollback
        · rw [hPrepare] at hRun hReady
          cases hRun
          refine ⟨⟨[id], hReady.others⟩, fun _ hOk => ?_, by rintro _ ⟨⟩⟩
          obtain ⟨copy, hCopied, -⟩ := hReady.anchored id List.mem_cons_self
          cases hOk
          rw [hCopied, hId]
          exact ⟨Registry.resource?_of_not_owned h.owners_nextId, rfl⟩

end World

end DiskFleet
