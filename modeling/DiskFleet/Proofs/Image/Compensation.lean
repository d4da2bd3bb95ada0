import DiskFleet.Image.Storage
import DiskFleet.Proofs.Image.Move
import DiskFleet.Proofs.Registry.Release

/-!
# Storage that a failed command gives back

`create` allocates one volume after the other and then asks for work on the image. Wherever it
fails, it releases what it has allocated, and nothing else. The list that it keeps for this is
right: its volumes held no storage before, hold some now that can be released, and all other
resources are as they were. `Owed` says so; allocating layers preserves it, and releasing the list
restores what held storage at the start.

## Main results

* `Session.run_releaseVolumes`: anchored volumes are all released;
* `Session.run_allocateLayers`: layers are allocated, or storage is where it was at the start;
* `Session.run_create_cases`: so it is after a `create` that fails, and one that answers has
  allocated its targets and nothing else.
-/

namespace DiskFleet

namespace Layer

variable {σ : Type} {layer : Layer} {world : World σ} {volume : String}

/-- What a layer does to be allocated, with a volume that is registered. -/
theorem run_allocate_of_found (agent : Agent σ) {resource : Resource}
    (hVolume : layer.volume = some volume)
    (hFound : world.registry.resource? volume = some resource) :
    (layer.allocate agent).run world =
      if resource.document.allocated then (.ok none, world)
      else
        (((World.updateResource agent volume (.allocate ∅)).run world).1.map fun _ => some volume,
          ((World.updateResource agent volume (.allocate ∅)).run world).2) := by
  have hDocument := Registry.resourceDocument_eq_ok_iff.2 ⟨resource, hFound, rfl⟩
  have hFlag : layer.isAllocated world.registry = .ok resource.document.allocated := by
    simp only [isAllocated, hVolume, hDocument]
    rfl
  simp only [allocate, Action.run_bind, Action.run_liftM, volumeOf, hVolume, World.run_ask, hFlag]
  by_cases hHeld : resource.document.allocated = true
  · rw [if_pos hHeld, if_pos hHeld]
    rfl
  · rw [if_neg hHeld, if_neg hHeld, Action.run_bind]
    rcases (World.updateResource agent volume (.allocate ∅)).run world with
      ⟨failure | out, after⟩ <;> rfl

/-- A layer without a volume that is registered cannot be allocated. -/
theorem run_allocate_of_not_found (agent : Agent σ)
    (h : ∀ volume, layer.volume = some volume → world.registry.resource? volume = none) :
    ∃ failure, (layer.allocate agent).run world = (.error failure, world) := by
  cases hVolume : layer.volume with
  | none =>
      simp only [allocate, Action.run_bind, Action.run_liftM, volumeOf, hVolume]
      exact ⟨_, rfl⟩
  | some volume =>
      simp only [allocate, Action.run_bind, Action.run_liftM, volumeOf, hVolume, World.run_ask,
        isAllocated]
      cases hDocument : world.registry.resourceDocument volume with
      | error failure => exact ⟨failure, rfl⟩
      | ok document =>
          obtain ⟨resource, hFound, -⟩ := Registry.resourceDocument_eq_ok_iff.1 hDocument
          rw [h volume hVolume] at hFound
          cases hFound

/-- **Allocating a layer**: no resource changes, because that failed or there was nothing to do, or
its volume held no storage and does so afterwards. -/
theorem run_allocate_cases (agent : Agent σ) (layer : Layer) (world : World σ) :
    (∃ failure after, (layer.allocate agent).run world = (.error failure, after) ∧
      ∀ id, after.registry.resource? id = world.registry.resource? id) ∨
    (∃ volume, layer.volume = some volume ∧ world.registry.allocated? volume = some true ∧
      (layer.allocate agent).run world = (.ok none, world)) ∨
    ∃ volume made after, layer.volume = some volume ∧
      world.registry.allocated? volume = some false ∧
      (layer.allocate agent).run world = (.ok (some volume), after) ∧
      made.document.allocated = true ∧ made.Anchored ∧
      ∀ id, after.registry.resource? id =
        if id = volume then some made else world.registry.resource? id := by
  by_cases hNowhere : ∀ volume, layer.volume = some volume →
      world.registry.resource? volume = none
  · obtain ⟨failure, hRun⟩ := run_allocate_of_not_found agent hNowhere
    exact .inl ⟨failure, world, hRun, fun _ => rfl⟩
  obtain ⟨volume, hNot⟩ := not_forall.1 hNowhere
  obtain ⟨hVolume, hSome⟩ := Classical.not_imp.1 hNot
  obtain ⟨resource, hFound⟩ := Option.ne_none_iff_exists'.1 hSome
  have hFlag : world.registry.allocated? volume = some resource.document.allocated := by
    rw [Registry.allocated?, hFound, Option.map_some]
  have hUnfold := run_allocate_of_found agent hVolume hFound
  by_cases hHeld : resource.document.allocated = true
  · rw [if_pos hHeld] at hUnfold
    exact .inr (.inl ⟨volume, hVolume, hFlag.trans (congrArg some hHeld), hUnfold⟩)
  · have hFree : resource.document.allocated = false := Bool.eq_false_iff.2 hHeld
    rw [if_neg hHeld] at hUnfold
    rcases World.run_allocate_cases agent volume world with
      ⟨failure, after, hRun, hSame⟩ |
        ⟨before, made, out, after, hBefore, hRun, hMade, hKept, hSame⟩
    · rw [hRun] at hUnfold
      exact .inl ⟨failure, after, hUnfold, hSame⟩
    · obtain rfl := Option.some.inj (hFound.symm.trans hBefore)
      have hAnchored : resource.Anchored := fun hAllocated => absurd hAllocated hHeld
      rw [hRun] at hUnfold
      exact .inr (.inr ⟨volume, made, after, hVolume, hFlag.trans (congrArg some hFree), hUnfold,
        hMade, hKept hAnchored, hSame⟩)

end Layer

namespace Session

variable {σ : Type} {agent : Agent σ} {image : Image} {world : World σ} {start : Registry}
  {volumes : List String}

/-- What has been allocated since `start` are the volumes of a list, and they can be released. -/
structure Owed (start now : Registry) (volumes : List String) : Prop where
  fresh : ∀ volume ∈ volumes, start.allocated? volume = some false
  held : ∀ volume ∈ volumes, ∃ resource, now.resource? volume = some resource ∧
    resource.document.allocated = true ∧ resource.Anchored
  others : ∀ id, id ∉ volumes → now.resource? id = start.resource? id

theorem Owed.refl (start : Registry) : Owed start start [] :=
  ⟨by simp, by simp, fun _ _ => rfl⟩

/-- Only what is found matters. -/
theorem Owed.congr {now next : Registry} (h : Owed start now volumes)
    (hSame : ∀ id, next.resource? id = now.resource? id) : Owed start next volumes := by
  constructor
  case fresh => exact h.fresh
  case held =>
    intro volume hVolume
    rw [hSame]
    exact h.held volume hVolume
  case others =>
    intro id hId
    rw [hSame]
    exact h.others id hId

/-- What is not owed and holds storage held it before. -/
theorem Owed.of_allocated {now : Registry} (h : Owed start now volumes) {id : String}
    (hHeld : now.allocated? id = some true) : id ∈ volumes ∨ start.allocated? id = some true := by
  by_cases hOwed : id ∈ volumes
  · exact .inl hOwed
  · rw [Registry.allocated?_congr (h.others id hOwed)] at hHeld
    exact .inr hHeld

/-- What is owed holds storage now, and so does what held it before. -/
theorem Owed.allocated {now : Registry} (h : Owed start now volumes) {id : String}
    (hHeld : id ∈ volumes ∨ start.allocated? id = some true) :
    now.allocated? id = some true := by
  by_cases hOwed : id ∈ volumes
  · obtain ⟨resource, hFound, hAllocated, -⟩ := h.held id hOwed
    rw [Registry.allocated?, hFound, Option.map_some, hAllocated]
  · rw [Registry.allocated?_congr (h.others id hOwed)]
    exact hHeld.resolve_left hOwed

/-- One more volume that held no storage and holds some now is owed too. -/
theorem Owed.push {now next : Registry} {volume : String} {made : Resource}
    (h : Owed start now volumes) (hFree : now.allocated? volume = some false)
    (hMade : made.document.allocated = true) (hAnchored : made.Anchored)
    (hSame : ∀ id, next.resource? id = if id = volume then some made else now.resource? id) :
    Owed start next (volumes ++ [volume]) := by
  -- what is owed holds storage, so that this volume is not owed yet
  have hNew : volume ∉ volumes := by
    intro hOwed
    obtain ⟨resource, hFound, hHeld, -⟩ := h.held volume hOwed
    rw [Registry.allocated?, hFound, Option.map_some, hHeld] at hFree
    cases hFree
  constructor
  case fresh =>
    intro other hOther
    rcases List.mem_append.1 hOther with hBefore | hLast
    · exact h.fresh other hBefore
    · rw [List.mem_singleton.1 hLast, ← Registry.allocated?_congr (h.others volume hNew)]
      exact hFree
  case held =>
    intro other hOther
    by_cases hEq : other = volume
    · exact ⟨made, (hSame other).trans (if_pos hEq), hMade, hAnchored⟩
    · rw [hSame, if_neg hEq]
      have hBefore := (List.mem_append.1 hOther).resolve_right fun hLast =>
        hEq (List.mem_singleton.1 hLast)
      exact h.held other hBefore
  case others =>
    intro id hId
    rw [List.mem_append, List.mem_singleton, not_or] at hId
    rw [hSame, if_neg hId.2]
    exact h.others id hId.1

/-! ## Releasing -/

/-- **Releasing volumes frees them all and nothing else**, if each is anchored. -/
theorem run_releaseVolumes (hFrees : agent.Frees) (image : Image) :
    ∀ {volumes : List String} {world : World σ},
      (∀ volume ∈ volumes, ∃ resource, world.registry.resource? volume = some resource ∧
        resource.Anchored) →
      ∃ after, (releaseVolumes agent volumes).run ⟨image, world⟩ = (.ok (), ⟨image, after⟩) ∧
        (∀ id ∈ volumes, after.registry.allocated? id = some false) ∧
        ∀ id, id ∉ volumes → after.registry.resource? id = world.registry.resource? id
  | [], world, _ => ⟨world, rfl, by simp, fun _ _ => rfl⟩
  | volume :: rest, world, h => by
    obtain ⟨resource, hFound, hAnchored⟩ := h volume List.mem_cons_self
    obtain ⟨freed, between, hRun, hFree, hSame⟩ :=
      World.run_release_of_anchored hFrees hFound hAnchored
    -- a volume that comes again is anchored still, since it holds no storage any more
    have hRest : ∀ other ∈ rest, ∃ resource, between.registry.resource? other = some resource ∧
        resource.Anchored := by
      intro other hOther
      by_cases hEq : other = volume
      · refine ⟨freed, (hSame other).trans (if_pos hEq), fun hHeld => ?_⟩
        rw [hFree] at hHeld
        cases hHeld
      · obtain ⟨stored, hStored, hStill⟩ := h other (List.mem_cons_of_mem _ hOther)
        exact ⟨stored, ((hSame other).trans (if_neg hEq)).trans hStored, hStill⟩
    obtain ⟨after, hLater, hFreed, hOthers⟩ := run_releaseVolumes hFrees image hRest
    refine ⟨after, ?_, ?_, ?_⟩
    · have hFirst : ((do
          let _ ← Action.attempt (onWorld (World.updateResource agent volume (.release ∅))) :
          Action (Session σ) Unit)).run ⟨image, world⟩ = (.ok (), ⟨image, between⟩) := by
        simp only [Action.run_bind, Action.run_attempt, onWorld, Action.run_within, hRun]
        rfl
      exact (Action.run_bind_ok hFirst).trans hLater
    · intro id hId
      by_cases hAgain : id ∈ rest
      · exact hFreed id hAgain
      · obtain rfl := (List.mem_cons.1 hId).resolve_right hAgain
        rw [Registry.allocated?_congr (hOthers id hAgain), Registry.allocated?, hSame, if_pos rfl]
        exact congrArg some hFree
    · intro id hId
      rw [List.mem_cons, not_or] at hId
      rw [hOthers id hId.2, hSame, if_neg hId.1]

/-- What is owed can be given back. -/
theorem Owed.repaid (h : Owed start world.registry volumes) (hFrees : agent.Frees)
    (image : Image) :
    ∃ after, (releaseVolumes agent volumes).run ⟨image, world⟩ = (.ok (), ⟨image, after⟩) ∧
      ∀ id, after.registry.allocated? id = start.allocated? id := by
  have hAnchored : ∀ volume ∈ volumes, ∃ resource,
      world.registry.resource? volume = some resource ∧ resource.Anchored := by
    intro volume hVolume
    obtain ⟨resource, hFound, -, hAnchored⟩ := h.held volume hVolume
    exact ⟨resource, hFound, hAnchored⟩
  obtain ⟨after, hRun, hFreed, hOthers⟩ := run_releaseVolumes hFrees image hAnchored
  refine ⟨after, hRun, fun id => ?_⟩
  by_cases hOwed : id ∈ volumes
  · rw [hFreed id hOwed, h.fresh id hOwed]
  · exact Registry.allocated?_congr ((hOthers id hOwed).trans (h.others id hOwed))

/-! ## Allocating -/

/-- The volume of a layer of the image. -/
def VolumeOf (image : Image) (name volume : String) : Prop :=
  ∃ layer, image.layers.get? name = some layer ∧ layer.volume = some volume

/-- What the loop over layers hands on: the volumes that are owed, which are those it began with and
volumes of its layers, and storage for every layer. -/
structure AllAllocated (image : Image) (start now : Registry) (names before volumes : List String) :
    Prop where
  owed : Owed start now volumes
  more : before ⊆ volumes
  named : ∀ volume ∈ volumes, volume ∈ before ∨ ∃ name ∈ names, VolumeOf image name volume
  every : ∀ name ∈ names, ∃ volume, VolumeOf image name volume ∧
    (volume ∈ volumes ∨ start.allocated? volume = some true)

/-- What a step of the loop hands on to the next. -/
theorem AllAllocated.cons {now : Registry} {name volume : String}
    {rest before between volumes : List String}
    (hVolume : VolumeOf image name volume) (hMore : before ⊆ between)
    (hNamed : ∀ other ∈ between, other ∈ before ∨ other = volume)
    (hHeld : volume ∈ between ∨ start.allocated? volume = some true)
    (h : AllAllocated image start now rest between volumes) :
    AllAllocated image start now (name :: rest) before volumes := by
  constructor
  case owed => exact h.owed
  case more => exact List.Subset.trans hMore h.more
  case named =>
    intro other hOther
    rcases h.named other hOther with hBetween | ⟨later, hLater, hNamedBy⟩
    · rcases hNamed other hBetween with hBefore | rfl
      · exact .inl hBefore
      · exact .inr ⟨name, List.mem_cons_self, hVolume⟩
    · exact .inr ⟨later, List.mem_cons_of_mem _ hLater, hNamedBy⟩
  case every =>
    intro other hOther
    rcases List.mem_cons.1 hOther with rfl | hRest
    · exact ⟨volume, hVolume, hHeld.imp_left fun hBetween => h.more hBetween⟩
    · exact h.every other hRest

/-- The loop over layers looks at one layer first. -/
theorem run_allocateLayers_cons (agent : Agent σ) {name : String} {rest : List String}
    {layer : Layer} (hLayer : image.layers.get? name = some layer) :
    (allocateLayers agent volumes (name :: rest)).run ⟨image, world⟩ =
      match (layer.allocate agent).run world with
      | (.ok none, after) => (allocateLayers agent volumes rest).run ⟨image, after⟩
      | (.ok (some volume), after) =>
        (allocateLayers agent (volumes ++ [volume]) rest).run ⟨image, after⟩
      | (.error failure, after) =>
        (releaseVolumes agent volumes >>= fun _ => Action.fail failure).run ⟨image, after⟩ := by
  simp only [allocateLayers, Action.run_bind, run_askImage, Image.layer_eq_ok_iff.2 hLayer,
    Action.run_attempt, onWorld, Action.run_within]
  rcases (layer.allocate agent).run world with ⟨_ | _ | _, _⟩ <;> rfl

/-- **Allocating layers in turn**: all of them are allocated, or what was allocated is released
again. -/
theorem run_allocateLayers (hFrees : agent.Frees) (image : Image) :
    ∀ {names volumes : List String} {world : World σ}, Owed start world.registry volumes →
      (∀ name ∈ names, ∃ layer, image.layers.get? name = some layer) →
      (∃ failure after, (allocateLayers agent volumes names).run ⟨image, world⟩ =
          (.error failure, ⟨image, after⟩) ∧
        ∀ id, after.registry.allocated? id = start.allocated? id) ∨
      ∃ done after, (allocateLayers agent volumes names).run ⟨image, world⟩ =
          (.ok done, ⟨image, after⟩) ∧
        AllAllocated image start after.registry names volumes done
  | [], volumes, world, hOwed, _ => by
    refine .inr ⟨volumes, world, rfl, hOwed, List.Subset.refl _, fun _ h => .inl h, ?_⟩
    intro name hName
    cases hName
  | name :: rest, volumes, world, hOwed, hStored => by
    obtain ⟨layer, hLayer⟩ := hStored name List.mem_cons_self
    have hRest : ∀ other ∈ rest, ∃ layer, image.layers.get? other = some layer :=
      fun other hOther => hStored other (List.mem_cons_of_mem _ hOther)
    rw [run_allocateLayers_cons agent hLayer]
    rcases Layer.run_allocate_cases agent layer world with
      ⟨failure, between, hRun, hSame⟩ | ⟨volume, hVolume, hHeld, hRun⟩ |
        ⟨volume, made, between, hVolume, hFree, hRun, hMade, hAnchored, hSame⟩
    · obtain ⟨after, hReleased, hRestored⟩ := (hOwed.congr hSame).repaid hFrees image
      rw [hRun]
      exact .inl ⟨failure, after, Action.run_bind_ok hReleased, hRestored⟩
    · rw [hRun]
      rcases run_allocateLayers hFrees image hOwed hRest with hFailed | ⟨done, after, hDone, hAll⟩
      · exact .inl hFailed
      · exact .inr ⟨done, after, hDone, hAll.cons ⟨layer, hLayer, hVolume⟩ (List.Subset.refl _)
          (fun _ hOther => .inl hOther) (hOwed.of_allocated hHeld)⟩
    · have hStill : Owed start between.registry (volumes ++ [volume]) :=
        hOwed.push hFree hMade hAnchored hSame
      rw [hRun]
      rcases run_allocateLayers hFrees image hStill hRest with hFailed | ⟨done, after, hDone, hAll⟩
      · exact .inl hFailed
      · refine .inr ⟨done, after, hDone, hAll.cons ⟨layer, hLayer, hVolume⟩
          (List.subset_append_left _ _) (fun other hOther => ?_)
          (.inl (List.mem_append_right _ List.mem_cons_self))⟩
        exact (List.mem_append.1 hOther).imp_right List.mem_singleton.1

/-! ## `create` -/

/-- A command with an optional target is about that layer, or about every layer of the chain. -/
def Targeted (image : Image) (target : Option String) (name : String) : Prop :=
  match target with
  | none => name ∈ image.topology.names
  | some layer => name = layer

/-- The target that a command names is a layer, and the only one it acts on. -/
theorem of_targets_some {name : String} {names : List String} {every : Bool}
    (h : image.targets (some name) every = .ok names) :
    names = [name] ∧ ∃ layer, image.layers.get? name = some layer := by
  obtain ⟨layer, hLayer, hRest⟩ := Action.bind_eq_ok_iff.1 h
  split at hRest
  · cases hRest
  · exact ⟨(Except.ok.inj hRest).symm, layer, Image.layer_eq_ok_iff.1 hLayer⟩

/-- The targets of a command are stored, if those of the chain are. -/
theorem of_targets {target : Option String} {names : List String}
    (hChain : ∀ name ∈ image.topology.names, ∃ layer, image.layers.get? name = some layer)
    (h : image.targets target false = .ok names) :
    (∀ name ∈ names, ∃ layer, image.layers.get? name = some layer) ∧
      ∀ name, Targeted image target name ↔ name ∈ names := by
  cases target with
  | none =>
      obtain rfl : image.topology.names = names := Except.ok.inj h
      exact ⟨hChain, fun name => Iff.rfl⟩
  | some target =>
      obtain ⟨rfl, hStored⟩ := of_targets_some h
      constructor
      · intro name hName
        rw [List.mem_singleton.1 hName]
        exact hStored
      · exact fun name => List.mem_singleton.symm

/-- Image work changes neither the document nor the registry. -/
theorem registry_run_callNode (agent : Agent σ) (command : String) (args : Json) (image : Image)
    (world : World σ) :
    ∃ result after, (callNode agent command args).run ⟨image, world⟩ = (result, ⟨image, after⟩) ∧
      after.registry = world.registry := by
  rcases hRun : (callNode agent command args).run ⟨image, world⟩ with ⟨result, after⟩
  have hAfter := run_callNode_snd agent command args ⟨image, world⟩
  rw [hRun] at hAfter
  rcases hAfter with rfl | ⟨call, -, rfl⟩
  · exact ⟨result, world, rfl, rfl⟩
  · exact ⟨result, world.calling agent call, rfl, rfl⟩

/-- **Making storage is all or nothing.** A `create` that fails leaves storage exactly where it was
before, and one that answers has made it for its targets and nowhere else. The image stays as it
is. -/
theorem run_create_cases (hFrees : agent.Frees)
    (hChain : ∀ name ∈ image.topology.names, ∃ layer, image.layers.get? name = some layer)
    (target : Option String) (extra : Arguments) (world : World σ) :
    (∃ failure after, (create agent target extra).run ⟨image, world⟩ =
        (.error failure, ⟨image, after⟩) ∧
      ∀ id, after.registry.allocated? id = world.registry.allocated? id) ∨
    ∃ out after, (create agent target extra).run ⟨image, world⟩ = (.ok out, ⟨image, after⟩) ∧
      (∀ name, Targeted image target name →
        ∃ volume, VolumeOf image name volume ∧ after.registry.allocated? volume = some true) ∧
      ∀ id, (∀ name, Targeted image target name → ¬VolumeOf image name id) →
        after.registry.allocated? id = world.registry.allocated? id := by
  simp only [create, Action.run_bind, run_askImage]
  cases hTargets : image.targets target false with
  | error failure => exact .inl ⟨failure, world, rfl, fun _ => rfl⟩
  | ok names =>
      obtain ⟨hStored, hTargeted⟩ := of_targets hChain hTargets
      dsimp only
      rcases run_allocateLayers hFrees image (.refl world.registry) hStored with
        ⟨failure, after, hRun, hSame⟩ | ⟨volumes, between, hRun, hAll⟩
      · rw [hRun]
        exact .inl ⟨failure, after, rfl, hSame⟩
      rw [hRun]
      obtain ⟨result, called, hCall, hRegistry⟩ := registry_run_callNode agent "create"
        (ImageCommand.targetToJson target extra) image between
      simp only [Action.run_attempt, hCall]
      have hOwed : Owed world.registry called.registry volumes := hRegistry ▸ hAll.owed
      cases result with
      | error failure =>
          obtain ⟨after, hReleased, hRestored⟩ := hOwed.repaid hFrees image
          exact .inl ⟨failure, after, Action.run_bind_ok hReleased, hRestored⟩
      | ok out =>
          refine .inr ⟨out, called, rfl, fun name hName => ?_, fun id hNone => ?_⟩
          · obtain ⟨volume, hVolume, hHeld⟩ := hAll.every name ((hTargeted name).1 hName)
            exact ⟨volume, hVolume, hOwed.allocated hHeld⟩
          · have hNotOwed : id ∉ volumes := by
              intro hMem
              rcases hAll.named id hMem with hBefore | ⟨name, hName, hVolume⟩
              · cases hBefore
              · exact hNone name ((hTargeted name).2 hName) hVolume
            exact Registry.allocated?_congr (hOwed.others id hNotOwed)

end Session

end DiskFleet
