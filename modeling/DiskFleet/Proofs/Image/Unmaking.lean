import DiskFleet.Proofs.Image.Lifetime
import DiskFleet.Proofs.Registry.Addressed
import DiskFleet.Proofs.Registry.Copy

/-!
# What unmaking layer objects leaves

To unmake the object of a layer is to erase its volume from the registry, as long as the volume
holds no storage; no agent is asked and nothing is drawn. So the objects of several layers on
volumes of their own, unmade one after another, leave the world without exactly these volumes
(`World.withoutAll`).

`Session.destroyObject` looks for storage first. Where it finds none it goes through all layers, the
chain from the top down and then the rest; that is every layer once, and in which order they come
makes no difference to what is left.

## Main results

* `Session.free_of_run_destroy`: storage that was destroyed for all layers is held by none;
* `Session.run_destroyLayers`: unmaking several layer objects erases their volumes;
* `Session.run_destroyObject_of_held`, `Session.run_destroyObject_of_free`: unmaking the object of
  an image is refused at the first layer that holds storage, or erases all of its volumes.
-/

namespace DiskFleet

variable {σ : Type}

namespace World

variable {world : World σ} {id : String}

/-- The world without several resources, and as it was otherwise. -/
def withoutAll (world : World σ) (ids : List String) : World σ :=
  { world with registry := world.registry.withoutAll ids }

theorem withoutAll_append (world : World σ) (ids others : List String) :
    world.withoutAll (ids ++ others) = (world.withoutAll ids).withoutAll others := by
  simp only [withoutAll, Registry.withoutAll, List.foldl_append]

/-- **To destroy a free resource is to erase it**, and nothing else happens. -/
theorem run_destroyResource_erases (h : world.Sound) {resource : Resource}
    (hFound : world.registry.resource? id = some resource)
    (hFree : resource.document.allocated = false) :
    (destroyResource id).run world = (.ok (), world.withoutAll [id]) ∧
      (world.withoutAll [id]).Sound := by
  obtain ⟨next, hRun, -⟩ := run_destroyResource_of_free hFound hFree
  have hErased := registry_destroyResource h hRun
  rcases destroyResource_cases id world with
    ⟨failure, hCase⟩ | ⟨poolId, pool, left, hOwner, hPool, hDrop, hCase⟩
  · rw [hCase] at hRun
    cases hRun
  · rw [hCase] at hRun
    cases hRun
    have hSame : world.dropping poolId left id = world.withoutAll [id] := by
      show { world with registry := (world.dropping poolId left id).registry } = _
      rw [hErased]
      rfl
    exact ⟨hSame ▸ hCase, hSame ▸ h.dropping hOwner hPool hDrop⟩

end World

/-- **To unmake the object of a layer whose volume is free** is to erase that volume, and to carry its
definition again. -/
theorem Layer.run_destroyObject_of_free {layer : Layer} {world : World σ} {volume : String}
    {resource : Resource} (h : world.Sound) (hVolume : layer.volume = some volume)
    (hFound : world.registry.resource? volume = some resource)
    (hFree : resource.document.allocated = false) :
    layer.destroyObject.run world =
      (.ok (layer.givenBack resource.document), world.withoutAll [volume]) := by
  have hDestroy := (World.run_destroyResource_erases h hFound hFree).1
  have hDocument : world.registry.resourceDocument volume = .ok resource.document :=
    Registry.resourceDocument_eq_ok_iff.2 ⟨resource, hFound, rfl⟩
  simp only [destroyObject, hVolume, Action.run_bind, World.run_ask, hDocument, hDestroy]
  rfl

namespace Registry

variable {registry : Registry}

/-- Without several resources these are not found, and every other one is as before. -/
theorem resource?_withoutAll (registry : Registry) (ids : List String) (id : String) :
    (registry.withoutAll ids).resource? id =
      if id ∈ ids then none else registry.resource? id := by
  induction ids generalizing registry with
  | nil => simp [withoutAll]
  | cons first rest ih =>
      show ((registry.without first).withoutAll rest).resource? id = _
      rw [ih, resource?_without]
      by_cases hRest : id ∈ rest
      · simp [hRest]
      · by_cases hFirst : id = first <;> simp [hRest, hFirst]

/-- The index loses the entries of the resources, and the others stay in order. -/
theorem owners_withoutAll (registry : Registry) (ids : List String) :
    (registry.withoutAll ids).owners.entries =
      registry.owners.entries.filter fun entry => decide (entry.1 ∉ ids) := by
  induction ids generalizing registry with
  | nil => exact (List.filter_eq_self.2 fun _ _ => by simp).symm
  | cons first rest ih =>
      show ((registry.without first).withoutAll rest).owners.entries = _
      rw [ih]
      show (registry.owners.entries.filter fun entry => decide (entry.1 ≠ first)).filter _ = _
      rw [List.filter_filter]
      refine List.filter_congr fun entry _ => ?_
      by_cases hRest : entry.1 ∈ rest <;> simp [hRest]

/-- Every pool stays where it is. -/
theorem poolKeys_withoutAll (registry : Registry) (ids : List String) :
    (registry.withoutAll ids).pools.keys = registry.pools.keys := by
  induction ids generalizing registry with
  | nil => rfl
  | cons first rest ih =>
      refine (ih (registry.without first)).trans ?_
      simp [without, Table.keys, Table.mapValues, Function.comp_def]

end Registry

/-! ## The volumes of layers -/

/-- The layer stands on a volume that holds storage. -/
def Layer.holdsStorage (registry : Registry) (layer : Layer) : Bool :=
  layer.volume.any fun volume => registry.allocated? volume == some true

namespace Image

variable {image : Image} {registry : Registry} {name volume : String}

/-- Some layer stands on a volume that holds storage. -/
def holdsStorage (registry : Registry) (image : Image) : Bool :=
  image.layers.values.any (·.holdsStorage registry)

/-- The volume that the layer of a name stands on. -/
def volume? (image : Image) (name : String) : Option String :=
  (image.layers.get? name).bind (·.volume)

/-- The volumes of the layers of a list. -/
def volumesOf (image : Image) (names : List String) : List String :=
  names.filterMap image.volume?

/-- The volumes of all layers. -/
def volumeIds (image : Image) : List String := image.volumes.map (·.2)

theorem volume?_eq_some_iff :
    image.volume? name = some volume ↔
      ∃ layer, image.layers.get? name = some layer ∧ layer.volume = some volume :=
  Option.bind_eq_some_iff

theorem mem_volumeIds :
    volume ∈ image.volumeIds ↔ ∃ name layer, image.layers.get? name = some layer ∧
      layer.volume = some volume := by
  simp only [volumeIds, List.mem_map, Prod.exists, exists_eq_right, mem_volumes]

theorem volumesOf_keys (image : Image) : image.volumesOf image.layers.keys = image.volumeIds := by
  simp only [volumesOf, volumeIds, volumes, Table.keys, List.filterMap_map, List.map_filterMap]
  refine List.filterMap_congr fun entry hEntry => ?_
  have hStored : image.layers.get? entry.1 = some entry.2 := Table.mem_entries_iff.1 hEntry
  show (image.layers.get? entry.1).bind (·.volume) = _
  rw [hStored]
  cases hVolume : entry.2.volume <;> simp [hVolume]

/-- A layer that is stored makes no difference to the volumes of others. -/
theorem volumesOf_putLayer {names : List String} (h : name ∉ names) (layer : Layer) :
    (image.putLayer name layer).volumesOf names = image.volumesOf names := by
  refine List.filterMap_congr fun other hOther => ?_
  have hNe : other ≠ name := by
    rintro rfl
    exact h hOther
  have hKept : (image.putLayer name layer).layers.get? other = image.layers.get? other :=
    (Table.get?_insert _ _ _ _).trans (if_neg hNe)
  rw [volume?, hKept, volume?]

/-- Storage is held where some volume is allocated. -/
theorem holdsStorage_iff :
    image.holdsStorage registry = true ↔ ∃ name layer volume,
      image.layers.get? name = some layer ∧ layer.volume = some volume ∧
        registry.allocated? volume = some true := by
  simp only [holdsStorage, List.any_eq_true, Table.values, List.mem_map, Layer.holdsStorage,
    Option.any_eq_true, beq_iff_eq]
  constructor
  · rintro ⟨layer, ⟨⟨name, stored⟩, hEntry, rfl⟩, volume, hVolume, hHeld⟩
    exact ⟨name, stored, volume, Table.mem_entries_iff.1 hEntry, hVolume, hHeld⟩
  · rintro ⟨name, layer, volume, hLayer, hVolume, hHeld⟩
    exact ⟨layer, ⟨(name, layer), Table.mem_entries_iff.2 hLayer, rfl⟩, volume, hVolume, hHeld⟩

/-- It depends on the volumes alone. -/
theorem holdsStorage_congr {other : Registry}
    (h : ∀ volume ∈ image.volumeIds, other.allocated? volume = registry.allocated? volume) :
    image.holdsStorage other = image.holdsStorage registry := by
  rw [Bool.eq_iff_iff, holdsStorage_iff, holdsStorage_iff]
  constructor
  · rintro ⟨name, layer, volume, hLayer, hVolume, hHeld⟩
    rw [h volume (mem_volumeIds.2 ⟨name, layer, hLayer, hVolume⟩)] at hHeld
    exact ⟨name, layer, volume, hLayer, hVolume, hHeld⟩
  · rintro ⟨name, layer, volume, hLayer, hVolume, hHeld⟩
    rw [← h volume (mem_volumeIds.2 ⟨name, layer, hLayer, hVolume⟩)] at hHeld
    exact ⟨name, layer, volume, hLayer, hVolume, hHeld⟩

/-- Layers that stand apart have volumes that are all different. -/
theorem nodup_volumesOf {names : List String} (hNodup : names.Nodup)
    (hApart : ∀ {name other volume}, image.volume? name = some volume →
      image.volume? other = some volume → name = other) : (image.volumesOf names).Nodup :=
  hNodup.filterMap fun _ _ _ hVolume hOther => hApart hVolume hOther

/-- Every layer is gone through when the object is unmade. -/
theorem teardownOrder_perm (h : image.WellFormed) :
    image.teardownOrder.Perm image.layers.keys := by
  obtain ⟨hNodup, hStored⟩ := Session.teardownOrder_nodup h
  refine (List.perm_ext_iff_of_nodup hNodup image.layers.nodup).2 fun name => ?_
  constructor
  · intro hName
    obtain ⟨layer, hLayer⟩ := hStored name hName
    refine (Table.contains_iff_mem_keys image.layers name).1 ?_
    rw [Table.contains, hLayer, Option.isSome_some]
  · intro hKey
    by_cases hChain : name ∈ image.topology.names
    · exact List.mem_append_left _ (List.mem_reverse.2 hChain)
    · refine List.mem_append_right _ (List.mem_filter.2 ⟨hKey, ?_⟩)
      simpa [Topology.contains] using hChain

end Image

namespace Session

variable {session : Session σ} {name : String}

/-- The layer of a name is there, and the volume that it stands on, if any, is registered and holds
no storage. -/
def Idle (session : Session σ) (name : String) : Prop :=
  ∃ layer, session.image.layers.get? name = some layer ∧ ∀ volume, layer.volume = some volume →
    ∃ resource, session.world.registry.resource? volume = some resource ∧
      resource.document.allocated = false

/-- **To unmake the object of an idle layer is to erase its volume.** -/
theorem run_destroyLayer_of_idle (h : session.world.Sound) (hIdle : session.Idle name) :
    ∃ stored, (destroyLayer name).run session = (.ok (), ⟨session.image.putLayer name stored,
        session.world.withoutAll (session.image.volumesOf [name])⟩) ∧
      (session.world.withoutAll (session.image.volumesOf [name])).Sound := by
  obtain ⟨layer, hLayer, hFree⟩ := hIdle
  have hVolumes : session.image.volumesOf [name] = layer.volume.toList := by
    cases hVolume : layer.volume <;> simp [Image.volumesOf, Image.volume?, hLayer, hVolume]
  simp only [destroyLayer, Action.run_bind, run_askImage, Image.layer_eq_ok_iff.2 hLayer, onWorld,
    Action.run_within, hVolumes]
  cases hVolume : layer.volume with
  | none =>
      simp only [Layer.destroyObject, hVolume]
      exact ⟨layer, rfl, h⟩
  | some volume =>
      obtain ⟨resource, hFound, hEmpty⟩ := hFree volume hVolume
      have hSound := (World.run_destroyResource_erases h hFound hEmpty).2
      refine ⟨layer.givenBack resource.document, ?_, hSound⟩
      rw [Layer.run_destroyObject_of_free h hVolume hFound hEmpty]
      rfl

/-- **To unmake the objects of idle layers is to erase their volumes**, if each has its own. -/
theorem run_destroyLayers (names : List String) :
    ∀ {session : Session σ}, session.world.Sound → names.Nodup →
      (session.image.volumesOf names).Nodup → (∀ name ∈ names, session.Idle name) →
      ∃ image, (Action.forEach destroyLayer names).run session =
        (.ok (), ⟨image, session.world.withoutAll (session.image.volumesOf names)⟩) := by
  induction names with
  | nil =>
      intro session h hNodup hApart hIdle
      exact ⟨session.image, rfl⟩
  | cons name rest ih =>
      intro session h hNodup hApart hIdle
      obtain ⟨hNew, hRest⟩ := List.nodup_cons.1 hNodup
      have hSplit : session.image.volumesOf (name :: rest) =
          session.image.volumesOf [name] ++ session.image.volumesOf rest :=
        List.filterMap_append (l := [name])
      rw [hSplit, List.nodup_append] at hApart
      obtain ⟨-, hRestApart, hDisjoint⟩ := hApart
      obtain ⟨stored, hRun, hSound⟩ := run_destroyLayer_of_idle h (hIdle name List.mem_cons_self)
      -- the layers that follow are stored as they were
      have hKept : ∀ other ∈ rest,
          (session.image.putLayer name stored).layers.get? other =
            session.image.layers.get? other := by
        intro other hOther
        have hNe : other ≠ name := by
          rintro rfl
          exact hNew hOther
        exact (Table.get?_insert _ _ _ _).trans (if_neg hNe)
      have hVolumes : (session.image.putLayer name stored).volumesOf rest =
          session.image.volumesOf rest := Image.volumesOf_putLayer hNew stored
      have hStill : ∀ other ∈ rest, Idle (⟨session.image.putLayer name stored,
          session.world.withoutAll (session.image.volumesOf [name])⟩ : Session σ) other := by
        intro other hOther
        obtain ⟨layer, hLayer, hFree⟩ := hIdle other (List.mem_cons_of_mem _ hOther)
        refine ⟨layer, (hKept other hOther).trans hLayer, fun volume hVolume => ?_⟩
        obtain ⟨resource, hFound, hEmpty⟩ := hFree volume hVolume
        refine ⟨resource, ?_, hEmpty⟩
        have hMem : volume ∈ session.image.volumesOf rest :=
          List.mem_filterMap.2 ⟨other, hOther,
            Image.volume?_eq_some_iff.2 ⟨layer, hLayer, hVolume⟩⟩
        have hElse : volume ∉ session.image.volumesOf [name] :=
          fun hAlso => hDisjoint volume hAlso volume hMem rfl
        exact (Registry.resource?_withoutAll _ _ _).trans (if_neg hElse) |>.trans hFound
      obtain ⟨image, hRestRun⟩ := ih hSound hRest (hVolumes.symm ▸ hRestApart) hStill
      refine ⟨image, ?_⟩
      rw [Action.forEach, Action.run_bind_ok hRun, hRestRun, hSplit, World.withoutAll_append,
        hVolumes]

/-! ## Storage that is freed first -/

/-- Freeing the storage of one layer: when that succeeds, its volume holds none, and no volume has
come to hold some. -/
theorem free_of_run_freeLayer {agent : Agent σ} {after : Session σ}
    (hRun : (freeLayer agent name).run session = (.ok (), after)) :
    after.image = session.image ∧
      (∀ volume, session.image.volume? name = some volume →
        after.world.registry.allocated? volume = some false) ∧
      ∀ volume, session.world.registry.allocated? volume = some false →
        after.world.registry.allocated? volume = some false := by
  simp only [freeLayer, Action.run_bind, run_askImage] at hRun
  cases hLayer : session.image.layer name with
  | error failure =>
      rw [hLayer] at hRun
      cases hRun
  | ok layer =>
      have hStored : session.image.layers.get? name = some layer := Image.layer_eq_ok_iff.1 hLayer
      simp only [hLayer] at hRun
      cases hVolume : layer.volume with
      | none =>
          simp only [hVolume, Option.isSome_none, Bool.false_eq_true, if_false] at hRun
          cases hRun
          refine ⟨rfl, fun volume hHeld => ?_, fun _ hFree => hFree⟩
          simp [Image.volume?, hStored, hVolume] at hHeld
      | some volume =>
          simp only [hVolume, Option.isSome_some, if_true, onWorld, Action.run_within,
            Layer.release, Layer.volumeOf, Action.run_bind, Action.run_liftM] at hRun
          rcases hRelease : (World.updateResource agent volume (.release ∅)).run session.world with
            ⟨failure | out, next⟩
          · rw [hRelease] at hRun
            cases hRun
          · rw [hRelease] at hRun
            cases hRun
            obtain ⟨hFreed, hOthers⟩ := World.free_of_run_release hRelease
            refine ⟨rfl, fun held hHeld => ?_, fun other hFree => ?_⟩
            · obtain rfl : volume = held := by simpa [Image.volume?, hStored, hVolume] using hHeld
              exact hFreed
            · by_cases hSame : other = volume
              · rw [hSame]
                exact hFreed
              · rw [← hFree]
                exact Registry.allocated?_congr (hOthers other hSame)

/-- **Freeing the storage of several layers**: when that succeeds, their volumes hold none. -/
theorem free_of_run_freeLayers {agent : Agent σ} (names : List String) :
    ∀ {session after : Session σ},
      (Action.forEach (freeLayer agent) names).run session = (.ok (), after) →
      after.image = session.image ∧
        (∀ volume ∈ session.image.volumesOf names,
          after.world.registry.allocated? volume = some false) ∧
        ∀ volume, session.world.registry.allocated? volume = some false →
          after.world.registry.allocated? volume = some false := by
  induction names with
  | nil =>
      intro session after hRun
      cases hRun
      exact ⟨rfl, fun volume hVolume => by simp [Image.volumesOf] at hVolume, fun _ h => h⟩
  | cons name rest ih =>
      intro session after hRun
      rw [Action.forEach] at hRun
      obtain ⟨_, between, hFirst, hRest⟩ := Action.run_bind_eq_ok_iff.1 hRun
      obtain ⟨hImage, hFreed, hStill⟩ := free_of_run_freeLayer hFirst
      obtain ⟨hSame, hOthers, hKept⟩ := ih hRest
      refine ⟨hSame.trans hImage, fun volume hVolume => ?_, fun volume hFree =>
        hKept volume (hStill volume hFree)⟩
      obtain ⟨other, hOther, hHolds⟩ := List.mem_filterMap.1 hVolume
      rcases List.mem_cons.1 hOther with rfl | hOther
      · exact hKept volume (hFreed volume hHolds)
      · rw [← hImage] at hHolds
        exact hOthers volume (List.mem_filterMap.2 ⟨other, hOther, hHolds⟩)

/-- **To destroy the storage of an image without naming a layer frees every layer**, also those
outside the chain, if it succeeds. -/
theorem free_of_run_destroy {agent : Agent σ} {out : Json} {after : Session σ}
    (hRun : (destroy agent none).run session = (.ok out, after)) :
    after.image = session.image ∧
      after.image.holdsStorage after.world.registry = false := by
  obtain ⟨targets, asked, hAsk, hRest⟩ := Action.run_bind_eq_ok_iff.1 hRun
  cases hAsk
  obtain ⟨_, freed, hFree, hDone⟩ := Action.run_bind_eq_ok_iff.1 hRest
  cases hDone
  obtain ⟨hImage, hFreed, -⟩ := free_of_run_freeLayers _ hFree
  refine ⟨hImage, Bool.eq_false_iff.2 fun hHolds => ?_⟩
  obtain ⟨name, layer, volume, hLayer, hVolume, hHeld⟩ := Image.holdsStorage_iff.1 hHolds
  rw [hImage] at hLayer
  have hMem : volume ∈ session.image.volumesOf session.image.layers.keys := by
    rw [Image.volumesOf_keys]
    exact Image.mem_volumeIds.2 ⟨name, layer, hLayer, hVolume⟩
  rw [hFreed volume hMem] at hHeld
  cases hHeld

/-! ## The object of an image -/

/-- Whether a layer on a registered volume is allocated can be told. -/
theorem isAllocated_of_registered {registry : Registry} {layer : Layer}
    (h : ∀ volume, layer.volume = some volume → ∃ resource,
      registry.resource? volume = some resource) :
    layer.isAllocated registry = .ok (layer.holdsStorage registry) := by
  unfold Layer.isAllocated Layer.holdsStorage
  cases hVolume : layer.volume with
  | none => rfl
  | some volume =>
      obtain ⟨resource, hFound⟩ := h volume hVolume
      have hDocument : registry.resourceDocument volume = .ok resource.document :=
        Registry.resourceDocument_eq_ok_iff.2 ⟨resource, hFound, rfl⟩
      simp only [hDocument, Registry.allocated?, hFound, Option.any_some, Option.map_some]
      show Except.ok resource.document.allocated = _
      cases resource.document.allocated <;> simp

/-- The search finds the first layer that holds storage. -/
theorem firstAllocated_of_registered {registry : Registry} {entries : List (String × Layer)}
    (h : ∀ entry ∈ entries, ∀ volume, entry.2.volume = some volume → ∃ resource,
      registry.resource? volume = some resource) :
    Image.firstAllocated registry entries =
      .ok ((entries.find? (·.2.holdsStorage registry)).map (·.1)) := by
  induction entries with
  | nil => rfl
  | cons entry rest ih =>
      have hRest := ih fun other hOther => h other (List.mem_cons_of_mem _ hOther)
      have hFirst := isAllocated_of_registered (h entry List.mem_cons_self)
      rw [Image.firstAllocated, hFirst, List.find?_cons]
      cases entry.2.holdsStorage registry with
      | true => rfl
      | false => exact hRest

theorem firstAllocated_entries {registry : Registry} {image : Image}
    (h : ∀ volume ∈ image.volumeIds, ∃ resource, registry.resource? volume = some resource) :
    Image.firstAllocated registry image.layers.entries =
      .ok ((image.layers.entries.find? (·.2.holdsStorage registry)).map (·.1)) := by
  refine firstAllocated_of_registered fun entry hEntry volume hVolume => h volume ?_
  exact Image.mem_volumeIds.2 ⟨entry.1, entry.2, Table.mem_entries_iff.1 hEntry, hVolume⟩

/-- **The object of an image that holds storage is not unmade**, and nothing is done. -/
theorem run_destroyObject_of_held {image : Image} {world : World σ}
    (hRegistered : ∀ volume ∈ image.volumeIds, ∃ resource,
      world.registry.resource? volume = some resource)
    (hHeld : image.holdsStorage world.registry = true) :
    ∃ name layer, image.layers.get? name = some layer ∧
      layer.holdsStorage world.registry = true ∧
      destroyObject.run ⟨image, world⟩ =
        (.error (.illegalTransition (.imageAllocated name image.idText)), ⟨image, world⟩) := by
  have hSome : (image.layers.entries.find?
      (·.2.holdsStorage world.registry)).isSome = true := by
    simpa [List.find?_isSome, Image.holdsStorage, Table.values] using hHeld
  obtain ⟨⟨name, layer⟩, hFirst⟩ := Option.isSome_iff_exists.1 hSome
  have hLayer : image.layers.get? name = some layer :=
    Table.mem_entries_iff.1 (List.mem_of_find?_eq_some hFirst)
  refine ⟨name, layer, hLayer, by simpa using List.find?_some hFirst, ?_⟩
  simp only [destroyObject, Action.run_bind, Action.run_gets, run_ask,
    firstAllocated_entries hRegistered, hFirst, Option.map_some, Action.run_fail]

/-- **The object of an image without storage is unmade**, which erases its volumes and does nothing
else to the world. -/
theorem run_destroyObject_of_free {image : Image} {world : World σ} (hFormed : image.WellFormed)
    (hSound : world.Sound)
    (hRegistered : ∀ volume ∈ image.volumeIds, ∃ resource,
      world.registry.resource? volume = some resource)
    (hApart : image.volumeIds.Nodup)
    (hFree : image.holdsStorage world.registry = false) :
    ∃ left, destroyObject.run ⟨image, world⟩ =
      (.ok (), ⟨left, world.withoutAll image.volumeIds⟩) := by
  have hNone : image.layers.entries.find? (·.2.holdsStorage world.registry) =
      none := by
    simpa [List.find?_eq_none, Image.holdsStorage, Table.values] using hFree
  obtain ⟨hNodup, hStored⟩ := teardownOrder_nodup hFormed
  have hPerm : (image.volumesOf image.teardownOrder).Perm
      image.volumeIds := by
    rw [← Image.volumesOf_keys]
    exact (Image.teardownOrder_perm hFormed).filterMap _
  have hIdle : ∀ name ∈ image.teardownOrder, Idle (⟨image, world⟩ : Session σ) name := by
    intro name hName
    obtain ⟨layer, hLayer⟩ := hStored name hName
    refine ⟨layer, hLayer, fun volume hVolume => ?_⟩
    obtain ⟨resource, hFound⟩ :=
      hRegistered volume (Image.mem_volumeIds.2 ⟨name, layer, hLayer, hVolume⟩)
    refine ⟨resource, hFound, Bool.eq_false_iff.2 fun hHeld => ?_⟩
    have hAllocated : world.registry.allocated? volume = some true := by
      rw [Registry.allocated?, hFound, Option.map_some, hHeld]
    rw [Image.holdsStorage_iff.2 ⟨name, layer, volume, hLayer, hVolume, hAllocated⟩] at hFree
    cases hFree
  have hUnmade : ∃ left, (Action.forEach destroyLayer image.teardownOrder).run ⟨image, world⟩ =
      (.ok (), ⟨left, world.withoutAll (image.volumesOf image.teardownOrder)⟩) :=
    run_destroyLayers image.teardownOrder hSound hNodup (hPerm.nodup_iff.2 hApart) hIdle
  obtain ⟨left, hRun⟩ := hUnmade
  refine ⟨left, ?_⟩
  simp only [destroyObject, Action.run_bind, Action.run_gets, run_ask,
    firstAllocated_entries hRegistered, hNone, Option.map_none, hRun, World.withoutAll,
    Registry.withoutAll_perm hPerm]

end Session

end DiskFleet
