import DiskFleet.Proofs.Engine.Recovery
import DiskFleet.Proofs.Image.Unmaking

/-!
# Images that are unmade, and the end of an engine

The object of an image is unmade as a whole or not at all, and what decides is whether one of its
volumes holds storage. Taking the engine down is a sequence of such attempts, first for every image
and then for every pool. What one attempt does has no bearing on the images that come later, because
no two images share a volume; it does have a bearing on the pools, which can go only when they have
become empty. So the images that stay are those that hold storage, the resources that stay are those
that no other image was made of, and the pools that stay are those that own one of them.

## Main results

* `Engine.destroyImage_exact`: what becomes of one image, and when;
* `Engine.teardown_exact`: what is left of the whole engine.
-/

namespace DiskFleet

namespace Engine

variable {σ : Type} {agent : Agent σ} {engine : Engine σ} {id : String} {image : Image}

/-! ## One image -/

namespace Owned

/-- The volumes of an image are registered. -/
theorem registered (h : engine.Owned) (hImage : engine.images.get? id = some image) :
    ∀ volume ∈ image.volumeIds, ∃ resource,
      engine.world.registry.resource? volume = some resource := by
  intro volume hVolume
  obtain ⟨name, layer, hLayer, hHeld⟩ := Image.mem_volumeIds.1 hVolume
  obtain ⟨-, ⟨resource, hFound, -⟩, -⟩ := (h.holds hImage).made hLayer hHeld
  exact ⟨resource, hFound⟩

/-- They are all different. -/
theorem nodup_volumeIds (h : engine.Owned) (hImage : engine.images.get? id = some image) :
    image.volumeIds.Nodup := by
  rw [← Image.volumesOf_keys]
  refine Image.nodup_volumesOf image.layers.nodup fun {name other volume} hVolume hOther => ?_
  obtain ⟨layer, hLayer, hHeld⟩ := Image.volume?_eq_some_iff.1 hVolume
  obtain ⟨otherLayer, hOtherLayer, hOtherHeld⟩ := Image.volume?_eq_some_iff.1 hOther
  exact (h.holds hImage).unshared hLayer hOtherLayer hHeld hOtherHeld

/-- No other image has one of them. -/
theorem disjoint_volumeIds (h : engine.Owned) (hImage : engine.images.get? id = some image)
    {other : String} {otherImage : Image} (hOther : engine.images.get? other = some otherImage)
    (hNe : other ≠ id) : ∀ volume ∈ otherImage.volumeIds, volume ∉ image.volumeIds := by
  intro volume hVolume hAlso
  obtain ⟨name, layer, hLayer, hHeld⟩ := Image.mem_volumeIds.1 hAlso
  obtain ⟨otherName, otherLayer, hOtherLayer, hOtherHeld⟩ := Image.mem_volumeIds.1 hVolume
  exact ((h.holds hImage).made hLayer hHeld).2.2
    ⟨other, otherImage, otherName, otherLayer, hNe, hOther, hOtherLayer, hOtherHeld⟩

end Owned

/-- The engine without an image and its volumes, and as it was otherwise. -/
def withoutImage (engine : Engine σ) (id : String) (image : Image) : Engine σ :=
  { engine with
    world := engine.world.withoutAll image.volumeIds, images := engine.images.erase id }

/-- An image that holds storage stays, and nothing happens. -/
theorem run_destroyImage_of_held (h : engine.Owned) (hImage : engine.images.get? id = some image)
    (hHeld : image.holdsStorage engine.world.registry = true) :
    ∃ name layer, image.layers.get? name = some layer ∧
      layer.holdsStorage engine.world.registry = true ∧
      (destroyImage id).run engine =
        (.error (.illegalTransition (.imageAllocated name image.idText)), engine) := by
  have hRefused : ∃ name layer, image.layers.get? name = some layer ∧
      layer.holdsStorage engine.world.registry = true ∧
      Session.destroyObject.run ⟨image, engine.world⟩ =
        (.error (.illegalTransition (.imageAllocated name image.idText)),
          ⟨image, engine.world⟩) :=
    Session.run_destroyObject_of_held (h.registered hImage) hHeld
  obtain ⟨name, layer, hLayer, hStorage, hRun⟩ := hRefused
  refine ⟨name, layer, hLayer, hStorage, ?_⟩
  simp only [destroyImage, ask, image_eq_ok_iff.2 hImage, onImage, Action.run_bind, Action.run_get,
    Action.run_liftM, Action.run_within, hRun, Table.insert_of_get? hImage]

/-- An image without storage goes, with its volumes. -/
theorem run_destroyImage_of_free (h : engine.Owned) (hImage : engine.images.get? id = some image)
    (hFree : image.holdsStorage engine.world.registry = false) :
    (destroyImage id).run engine = (.ok (), engine.withoutImage id image) := by
  have hUnmade : ∃ left, Session.destroyObject.run ⟨image, engine.world⟩ =
      (.ok (), ⟨left, engine.world.withoutAll image.volumeIds⟩) :=
    Session.run_destroyObject_of_free (h.wellFormed hImage) h.sound (h.registered hImage)
      (h.nodup_volumeIds hImage) hFree
  obtain ⟨left, hRun⟩ := hUnmade
  simp only [destroyImage, ask, image_eq_ok_iff.2 hImage, onImage, Action.run_bind, Action.run_get,
    Action.run_liftM, Action.run_within, hRun, Action.run_modify, Table.erase_insert, withoutImage]

/-- Once the storage of all layers was destroyed, also of those outside the chain, the object can be
unmade. -/
theorem destroyImage_of_run_destroy (h : engine.Owned)
    (hImage : engine.images.get? id = some image) {extra : Arguments} {out : Json}
    {after : Engine σ}
    (hRun : (updateImage agent id (.destroy none extra)).run engine = (.ok out, after)) :
    ((destroyImage id).run after).1 = .ok () := by
  have hOwned : ((updateImage agent id (.destroy none extra)).run engine).2.Owned :=
    h.updateImage id _ fun args image hBackup => by cases hBackup
  rcases hDestroy : (Session.destroy agent none).run ⟨image, engine.world⟩ with
    ⟨result, ⟨left, world⟩⟩
  have hUpdate := run_updateImage_of_found agent (.destroy none extra) hImage
  rw [Session.update, hDestroy] at hUpdate
  obtain ⟨rfl, rfl⟩ := Prod.mk.inj (hUpdate.symm.trans hRun)
  obtain ⟨hSame, hNone⟩ := Session.free_of_run_destroy hDestroy
  obtain rfl : left = image := hSame
  rw [hUpdate] at hOwned
  have hStored : (engine.images.insert id left).get? id = some left :=
    (Table.get?_insert _ _ _ _).trans (if_pos rfl)
  rw [run_destroyImage_of_free hOwned hStored hNone]

/-- **The object of an image is unmade exactly if none of its volumes holds storage.** Then exactly
these volumes leave the registry and exactly this image leaves the table; otherwise nothing changes.
No agent is called. Once a `destroy` for all layers has succeeded, also those outside the chain, the
object can be unmade. -/
theorem destroyImage_exact (hOwned : engine.Owned) (hImage : engine.images.get? id = some image) :
    (((destroyImage id).run engine).1 = .ok () ↔
      ∀ name layer volume, image.layers.get? name = some layer → layer.volume = some volume →
        engine.world.registry.allocated? volume ≠ some true) ∧
    (((destroyImage id).run engine).1 = .ok () →
      ((destroyImage id).run engine).2 =
        { engine with
          world := { engine.world with
            registry := engine.world.registry.withoutAll image.volumeIds }
          images := engine.images.erase id }) ∧
    (((destroyImage id).run engine).1 ≠ .ok () → ∃ name layer,
      image.layers.get? name = some layer ∧
      layer.holdsStorage engine.world.registry = true ∧
      (destroyImage id).run engine =
        (.error (.illegalTransition (.imageAllocated name image.idText)), engine)) ∧
    ((destroyImage id).run engine).2.world.link = engine.world.link ∧
    ∀ (agent : Agent σ) extra out after,
      (updateImage agent id (.destroy none extra)).run engine = (.ok out, after) →
      ((destroyImage id).run after).1 = .ok () := by
  cases hHolds : image.holdsStorage engine.world.registry with
  | true =>
      obtain ⟨name, layer, hLayer, hStorage, hRun⟩ :=
        run_destroyImage_of_held hOwned hImage hHolds
      obtain ⟨heldName, heldLayer, volume, hHeldLayer, hVolume, hHeld⟩ :=
        Image.holdsStorage_iff.1 hHolds
      refine ⟨⟨fun hOk => ?_, fun hNone => ?_⟩, fun hOk => ?_, fun _ => ?_, ?_,
        fun _ _ _ _ => destroyImage_of_run_destroy hOwned hImage⟩
      · rw [hRun] at hOk
        cases hOk
      · exact (hNone heldName heldLayer volume hHeldLayer hVolume hHeld).elim
      · rw [hRun] at hOk
        cases hOk
      · exact ⟨name, layer, hLayer, hStorage, hRun⟩
      · rw [hRun]
  | false =>
      have hRun := run_destroyImage_of_free hOwned hImage hHolds
      refine ⟨⟨fun _ => ?_, fun _ => by rw [hRun]⟩, fun _ => by rw [hRun]; rfl, fun hOk => ?_, ?_,
        fun _ _ _ _ => destroyImage_of_run_destroy hOwned hImage⟩
      · intro name layer volume hLayer hVolume hHeld
        rw [Image.holdsStorage_iff.2 ⟨name, layer, volume, hLayer, hVolume, hHeld⟩] at hHolds
        cases hHolds
      · rw [hRun] at hOk
        exact (hOk rfl).elim
      · rw [hRun]
        rfl

/-- A chain that was backed up. -/
def backedUp : Engine Unit := cleanHalfMade.after .willing (.backupImage "i")

/-- The storage of all its layers is destroyed. -/
def drained : Except Failure Json × Engine Unit :=
  (updateImage .willing "i" (.destroy none ∅)).run backedUp

/-- The object is not unmade while the top and the backups, which are outside the chain, hold
storage; then it is, and its four volumes are gone. -/
theorem destroyImage_exact_backedUp :
    backedUp.Owned ∧ ∃ image, backedUp.images.get? "i" = some image ∧
    image.layers.entries.map (fun entry =>
      (entry.1, entry.2.holdsStorage backedUp.world.registry)) =
        [("base", false), ("top", true), ("base_backup_oooooooo", true),
          ("top_backup_oooooooo", true)] ∧
    (∃ name, (destroyImage "i").run backedUp =
      (.error (.illegalTransition (.imageAllocated name image.idText)), backedUp)) ∧
    ∃ out after, drained = (.ok out, after) ∧ after.world.registry.owners.keys.length = 4 ∧
      ((destroyImage "i").run after).1 = .ok () ∧
      ((destroyImage "i").run after).2.world.registry.owners.keys = [] := by
  have hMade : Run .willing Operation.Careful cleaning cleanHalfMade := .of_list careful_makingTop
  have hNew : cleanHalfMade.BackupsNew "i" := by
    unfold BackupsNew Session.BackupsNew
    decide +kernel
  have hOwned : backedUp.Owned :=
    .of_run (vacant_vacant _ _ _ _) Supply.strokes_distinct (hMade.step ⟨trivial, hNew⟩)
  have hStored : (backedUp.images.get? "i").any (fun image =>
      image.layers.entries.map (fun entry =>
        (entry.1, entry.2.holdsStorage backedUp.world.registry)) ==
          [("base", false), ("top", true), ("base_backup_oooooooo", true),
            ("top_backup_oooooooo", true)]) = true := by decide +kernel
  have hRefused : ((destroyImage "i").run backedUp).1.toOption.isNone = true := by decide +kernel
  have hDrained : drained.1.toOption.isSome = true := by decide +kernel
  have hVolumes : drained.2.world.registry.owners.keys.length = 4 := by decide +kernel
  have hGone : ((destroyImage "i").run drained.2).2.world.registry.owners.keys = [] := by
    decide +kernel
  obtain ⟨image, hImage, hLayers⟩ := (Option.any_eq_true _ _).1 hStored
  obtain ⟨-, -, hKept, -, hUnmade⟩ := destroyImage_exact hOwned hImage
  have hNotOk : ((destroyImage "i").run backedUp).1 ≠ .ok () := by
    intro hOk
    rw [hOk] at hRefused
    cases hRefused
  obtain ⟨name, -, -, -, hSame⟩ := hKept hNotOk
  refine ⟨hOwned, image, hImage, eq_of_beq hLayers, ⟨name, hSame⟩, ?_⟩
  rcases hRun : drained with ⟨failure | out, after⟩
  · rw [hRun] at hDrained
    cases hDrained
  · rw [hRun] at hVolumes hGone
    exact ⟨out, after, rfl, hVolumes, hUnmade .willing ∅ out after hRun, hGone⟩

/-! ## All images -/

/-- The volumes of the images that hold no storage. -/
def spent (engine : Engine σ) : List String :=
  (engine.images.values.filter fun image => !image.holdsStorage engine.world.registry).flatMap
    Image.volumeIds

theorem mem_spent {volume : String} :
    volume ∈ engine.spent ↔ ∃ id image, engine.images.get? id = some image ∧
      image.holdsStorage engine.world.registry = false ∧ volume ∈ image.volumeIds := by
  simp only [spent, List.mem_flatMap, List.mem_filter, Table.values, List.mem_map,
    Bool.not_eq_true']
  constructor
  · rintro ⟨image, ⟨⟨⟨id, stored⟩, hEntry, rfl⟩, hFree⟩, hVolume⟩
    exact ⟨id, stored, Table.mem_entries_iff.1 hEntry, hFree, hVolume⟩
  · rintro ⟨id, image, hImage, hFree, hVolume⟩
    exact ⟨image, ⟨⟨(id, image), Table.mem_entries_iff.2 hImage, rfl⟩, hFree⟩, hVolume⟩

section attempts

variable {α : Type} {entries : List (String × α)} {ids : List String} {stays : String × α → Bool}

/-- One id more to be tried changes nothing, if what is there under it stays. -/
theorem filter_of_stays (h : ∀ entry ∈ entries, entry.1 = id → stays entry = true) :
    entries.filter (fun entry => decide (entry.1 ∉ ids) || stays entry) =
      entries.filter fun entry => decide (entry.1 ∉ id :: ids) || stays entry := by
  refine List.filter_congr fun entry hEntry => ?_
  by_cases hKey : entry.1 = id
  · rw [h entry hEntry hKey, Bool.or_true, Bool.or_true]
  · simp [hKey]

/-- What is there under an id can be taken out first, if it does not stay. -/
theorem filter_of_goes (h : ∀ entry ∈ entries, entry.1 = id → stays entry = false) :
    (entries.filter fun entry => decide (entry.1 ≠ id)).filter
        (fun entry => decide (entry.1 ∉ ids) || stays entry) =
      entries.filter fun entry => decide (entry.1 ∉ id :: ids) || stays entry := by
  rw [List.filter_filter]
  refine List.filter_congr fun entry hEntry => ?_
  by_cases hKey : entry.1 = id
  · rw [h entry hEntry hKey]
    simp [hKey]
  · simp [hKey]

end attempts

/-- What is left when every image of a list was tried: those of the list that hold no storage are
gone with their volumes. -/
structure Cleared (ids : List String) (before after : Engine σ) : Prop where
  owned : after.Owned
  images : after.images.entries = before.images.entries.filter fun entry =>
    decide (entry.1 ∉ ids) || entry.2.holdsStorage before.world.registry
  world : ∃ dropped, after.world = before.world.withoutAll dropped ∧
    ∀ volume, volume ∈ dropped ↔ ∃ id ∈ ids, ∃ image, before.images.get? id = some image ∧
      image.holdsStorage before.world.registry = false ∧ volume ∈ image.volumeIds

/-- The entry of a key is what is found under it. -/
theorem entry_of_get? {α : Type} {table : Table α} {key : String} {value : α}
    {entry : String × α} (hFound : table.get? key = some value) (hEntry : entry ∈ table.entries)
    (hKey : entry.1 = key) : entry.2 = value := by
  have hStored : table.get? entry.1 = some entry.2 := Table.mem_entries_iff.1 hEntry
  rw [hKey, hFound] at hStored
  exact (Option.some.inj hStored).symm

/-- An image that is not there, or holds storage, is passed over. -/
theorem Cleared.skip {ids : List String} {after : Engine σ} (h : Cleared ids engine after)
    (hKept : ∀ image, engine.images.get? id = some image →
      image.holdsStorage engine.world.registry = true) : Cleared (id :: ids) engine after := by
  obtain ⟨hOwned, hImages, dropped, hWorld, hDropped⟩ := h
  refine ⟨hOwned, hImages.trans (filter_of_stays ?_), dropped, hWorld, fun volume => ?_⟩
  · rintro entry hEntry rfl
    exact hKept entry.2 (Table.mem_entries_iff.1 hEntry)
  · rw [hDropped]
    constructor
    · rintro ⟨other, hOther, hFound⟩
      exact ⟨other, List.mem_cons_of_mem _ hOther, hFound⟩
    · rintro ⟨other, hOther, stored, hStored, hFree, hVolume⟩
      rcases List.mem_cons.1 hOther with rfl | hOther
      · rw [hKept stored hStored] at hFree
        cases hFree
      · exact ⟨other, hOther, stored, hStored, hFree, hVolume⟩

/-- An image that goes makes no difference to the others. -/
theorem Owned.holdsStorage_withoutImage (h : engine.Owned)
    (hImage : engine.images.get? id = some image) {other : String} {otherImage : Image}
    (hOther : engine.images.get? other = some otherImage) (hNe : other ≠ id) :
    otherImage.holdsStorage (engine.withoutImage id image).world.registry =
      otherImage.holdsStorage engine.world.registry := by
  refine Image.holdsStorage_congr fun volume hVolume => Registry.allocated?_congr ?_
  exact (Registry.resource?_withoutAll _ _ _).trans
    (if_neg (h.disjoint_volumeIds hImage hOther hNe volume hVolume))

/-- An image without storage goes first. -/
theorem Cleared.unmake {ids : List String} {after : Engine σ} (h : engine.Owned)
    (hImage : engine.images.get? id = some image)
    (hFree : image.holdsStorage engine.world.registry = false)
    (hRest : Cleared ids (engine.withoutImage id image) after) :
    Cleared (id :: ids) engine after := by
  obtain ⟨hOwned, hImages, dropped, hWorld, hDropped⟩ := hRest
  have hGet : ∀ {other stored}, (engine.withoutImage id image).images.get? other = some stored ↔
      other ≠ id ∧ engine.images.get? other = some stored := by
    intro other stored
    show (engine.images.erase id).get? other = some stored ↔ _
    rw [Table.get?_erase]
    by_cases hSame : other = id <;> simp [hSame]
  constructor
  case owned => exact hOwned
  case images =>
    have hOthers : ∀ entry ∈ engine.images.entries.filter (fun entry => decide (entry.1 ≠ id)),
        entry.2.holdsStorage (engine.withoutImage id image).world.registry =
          entry.2.holdsStorage engine.world.registry := by
      intro entry hEntry
      obtain ⟨hStored, hNe⟩ := List.mem_filter.1 hEntry
      exact h.holdsStorage_withoutImage hImage (Table.mem_entries_iff.1 hStored)
        (of_decide_eq_true hNe)
    refine hImages.trans ((List.filter_congr fun entry hEntry => ?_).trans (filter_of_goes ?_))
    · exact congrArg _ (hOthers entry hEntry)
    · intro entry hEntry hKey
      rw [entry_of_get? hImage hEntry hKey, hFree]
  case world =>
    refine ⟨image.volumeIds ++ dropped, ?_, fun volume => ?_⟩
    · rw [hWorld, World.withoutAll_append]
      rfl
    · rw [List.mem_append, hDropped]
      constructor
      · rintro (hVolume | ⟨other, hOther, stored, hStored, hStoredFree, hVolume⟩)
        · exact ⟨id, List.mem_cons_self, image, hImage, hFree, hVolume⟩
        · obtain ⟨hNe, hBefore⟩ := hGet.1 hStored
          rw [h.holdsStorage_withoutImage hImage hBefore hNe] at hStoredFree
          exact ⟨other, List.mem_cons_of_mem _ hOther, stored, hBefore, hStoredFree, hVolume⟩
      · rintro ⟨other, hOther, stored, hStored, hStoredFree, hVolume⟩
        by_cases hNe : other = id
        · rw [hNe, hImage] at hStored
          obtain rfl := Option.some.inj hStored
          exact .inl hVolume
        · right
          rcases List.mem_cons.1 hOther with hSame | hOther
          · exact (hNe hSame).elim
          · refine ⟨other, hOther, stored, hGet.2 ⟨hNe, hStored⟩, ?_, hVolume⟩
            rw [h.holdsStorage_withoutImage hImage hStored hNe]
            exact hStoredFree

/-- **Trying to unmake images one after another** clears those that hold no storage. -/
theorem run_destroyImages (ids : List String) :
    ∀ {engine : Engine σ}, engine.Owned →
      ∃ after, (Action.forEach (fun id => do let _ ← Action.attempt (destroyImage id)) ids).run
        engine = (.ok (), after) ∧ Cleared ids engine after := by
  induction ids with
  | nil =>
      intro engine h
      refine ⟨engine, rfl, h, ?_, [], rfl, by simp⟩
      exact (List.filter_eq_self.2 fun _ _ => by simp).symm
  | cons id rest ih =>
      intro engine h
      -- an attempt answers, whatever it leads to
      have hStep : ∀ next after, ((destroyImage id).run engine).2 = next →
          (Action.forEach (fun id => do let _ ← Action.attempt (destroyImage id)) rest).run next =
            (.ok (), after) →
          (Action.forEach (fun id => do let _ ← Action.attempt (destroyImage id))
            (id :: rest)).run engine = (.ok (), after) := by
        rintro next after rfl hRest
        exact hRest
      cases hImage : engine.images.get? id with
      | none =>
          have hSame : ((destroyImage id).run engine).2 = engine := by
            simp only [destroyImage, ask, Engine.image, hImage, Action.run_bind, Action.run_get,
              Action.run_liftM]
          obtain ⟨after, hRun, hCleared⟩ := ih h
          exact ⟨after, hStep _ _ hSame hRun, hCleared.skip fun image hFound => by
            rw [hImage] at hFound
            cases hFound⟩
      | some image =>
          cases hHolds : image.holdsStorage engine.world.registry with
          | true =>
              obtain ⟨_, _, -, -, hRefused⟩ := run_destroyImage_of_held h hImage hHolds
              obtain ⟨after, hRun, hCleared⟩ := ih h
              refine ⟨after, hStep _ _ (congrArg Prod.snd hRefused) hRun, hCleared.skip ?_⟩
              intro stored hStored
              obtain rfl := Option.some.inj (hImage.symm.trans hStored)
              exact hHolds
          | false =>
              have hUnmade := run_destroyImage_of_free h hImage hHolds
              have hOwned : (engine.withoutImage id image).Owned := by
                -- no agent is called, so that it does not matter which one there is
                have hNext := h.destroyImage (fun memory _ => (.ok (.succeeded .null), memory)) id
                rwa [hUnmade] at hNext
              obtain ⟨after, hRun, hCleared⟩ := ih hOwned
              exact ⟨after, hStep _ _ (congrArg Prod.snd hUnmade) hRun,
                Cleared.unmake h hImage hHolds hCleared⟩

/-! ## All pools -/

/-- A pool stays if there is none or it owns something, and goes if it is empty. -/
theorem destroyPool_cases (id : String) (world : World σ) :
    (∃ failure, (World.destroyPool id).run world = (.error failure, world) ∧
        ∀ pool, world.registry.pools.get? id = some pool → pool.hasResources = true) ∨
      ((World.destroyPool id).run world = (.ok (), world.closingPool id) ∧
        ∀ pool, world.registry.pools.get? id = some pool → pool.hasResources = false) := by
  simp only [World.destroyPool, Action.run_bind, World.run_ask, Registry.pool]
  cases hPool : world.registry.pools.get? id with
  | none =>
      refine .inl ⟨.poolNotFound id, rfl, fun pool hSome => ?_⟩
      cases hSome
  | some pool =>
      cases hOwns : pool.hasResources with
      | true =>
          refine .inl ⟨.illegalTransition (.poolOwnsResources id), ?_, ?_⟩
          · simp only [hOwns, if_true, Action.run_fail]
          · rintro _ ⟨⟩
            exact hOwns
      | false =>
          refine .inr ⟨?_, ?_⟩
          · simp only [hOwns, Bool.false_eq_true, if_false]
            rfl
          · rintro _ ⟨⟩
            exact hOwns

/-- Pools that are empty or not: the registry is the same but for the pools of the list that own
nothing. -/
structure Swept (ids : List String) (before after : Engine σ) : Prop where
  images : after.images = before.images
  link : after.world.link = before.world.link
  owners : after.world.registry.owners = before.world.registry.owners
  pools : after.world.registry.pools.entries =
    before.world.registry.pools.entries.filter fun entry =>
      decide (entry.1 ∉ ids) || entry.2.hasResources

/-- **Trying to remove pools one after another** sweeps away those that own nothing. -/
theorem run_destroyPools (ids : List String) :
    ∀ engine : Engine σ, ∃ after,
      (Action.forEach (fun id => do
        let _ ← Action.attempt (onWorld (World.destroyPool id))) ids).run engine = (.ok (), after) ∧
      Swept ids engine after := by
  induction ids with
  | nil =>
      intro engine
      refine ⟨engine, rfl, rfl, rfl, rfl, ?_⟩
      exact (List.filter_eq_self.2 fun _ _ => by simp).symm
  | cons id rest ih =>
      intro engine
      obtain ⟨after, hRun, hImages, hLink, hOwners, hPools⟩ :=
        ih ((onWorld (World.destroyPool id)).run engine).2
      refine ⟨after, hRun, ?_⟩
      have hWorld : ((onWorld (World.destroyPool id)).run engine).2 =
          { engine with world := ((World.destroyPool id).run engine.world).2 } := rfl
      rw [hWorld] at hImages hLink hOwners hPools
      rcases destroyPool_cases id engine.world with
        ⟨failure, hStays, hKept⟩ | ⟨hCloses, hEmpty⟩
      · rw [hStays] at hLink hOwners hPools
        refine ⟨hImages, hLink, hOwners, hPools.trans (filter_of_stays ?_)⟩
        rintro entry hEntry rfl
        exact hKept entry.2 (Table.mem_entries_iff.1 hEntry)
      · rw [hCloses] at hLink hOwners hPools
        refine ⟨hImages, hLink, hOwners, hPools.trans (filter_of_goes ?_)⟩
        rintro entry hEntry rfl
        exact hEmpty entry.2 (Table.mem_entries_iff.1 hEntry)

end Engine

/-- In a sound registry a pool has resources if the index says so. -/
theorem Registry.Sound.hasResources_iff {registry : Registry} (h : registry.Sound)
    {poolId : String} {pool : Pool} (hPool : registry.pools.get? poolId = some pool) :
    pool.hasResources = true ↔ poolId ∈ registry.owners.values := by
  simp only [← Bool.not_eq_false, Pool.hasResources_eq_false_iff, not_forall, Table.values,
    List.mem_map]
  constructor
  · rintro ⟨id, hSome⟩
    have hOwned := (h.owned_by_iff hPool).2 (Option.isSome_iff_ne_none.2 hSome)
    exact ⟨(id, poolId), Table.mem_entries_iff.2 hOwned, rfl⟩
  · rintro ⟨⟨id, owner⟩, hEntry, rfl⟩
    have hOwned := (h.owned_by_iff hPool).1 (Table.mem_entries_iff.1 hEntry)
    exact ⟨id, Option.isSome_iff_ne_none.1 hOwned⟩

namespace Engine

variable {σ : Type} {engine : Engine σ}

/-- To sweep pools away changes no resource. -/
theorem Swept.resource? {ids : List String} {after : Engine σ} (h : Swept ids engine after)
    (hSound : engine.world.registry.Sound) (id : String) :
    after.world.registry.resource? id = engine.world.registry.resource? id := by
  refine World.resource?_congr (by rw [h.owners]) fun poolId hOwner => ?_
  obtain ⟨pool, resource, hPool, hResource⟩ := hSound.owned.1 hOwner
  have hOwns : pool.hasResources = true :=
    (hSound.hasResources_iff hPool).2
      (List.mem_map.2 ⟨(id, poolId), Table.mem_entries_iff.2 hOwner, rfl⟩)
  have hStays : after.world.registry.pools.get? poolId = some pool := by
    rw [← Table.mem_entries_iff, h.pools, List.mem_filter]
    exact ⟨Table.mem_entries_iff.2 hPool, by simp [hOwns]⟩
  rw [hStays, hPool]

/-- If every pool is tried, those that own something stay. -/
theorem Swept.entries {after : Engine σ} (h : Swept engine.world.registry.pools.keys engine after) :
    after.world.registry.pools.entries =
      engine.world.registry.pools.entries.filter (·.2.hasResources) := by
  refine h.pools.trans (List.filter_congr fun entry hEntry => ?_)
  have hMem : entry.1 ∈ engine.world.registry.pools.keys := List.mem_map.2 ⟨entry, hEntry, rfl⟩
  simp [hMem]

/-- They are those that the index names. -/
theorem Swept.keys {after : Engine σ} (h : Swept engine.world.registry.pools.keys engine after)
    (hSound : engine.world.registry.Sound) :
    after.world.registry.pools.keys = engine.world.registry.pools.keys.filter fun poolId =>
      decide (poolId ∈ after.world.registry.owners.values) := by
  rw [Table.keys, h.entries, Table.keys, List.filter_map, h.owners]
  refine congrArg _ (List.filter_congr fun entry hEntry => ?_)
  rw [Bool.eq_iff_iff, hSound.hasResources_iff (Table.mem_entries_iff.1 hEntry)]
  simp

/-- If every image is tried, those that hold storage stay, and the volumes that were dropped are
those of the others. -/
theorem Cleared.all {after : Engine σ} (h : Cleared engine.images.keys engine after) :
    after.images.entries = engine.images.entries.filter (fun entry =>
      entry.2.holdsStorage engine.world.registry) ∧
    ∃ dropped, after.world = engine.world.withoutAll dropped ∧
      ∀ volume, volume ∈ dropped ↔ volume ∈ engine.spent := by
  obtain ⟨dropped, hWorld, hDropped⟩ := h.world
  refine ⟨h.images.trans (List.filter_congr fun entry hEntry => ?_), dropped, hWorld,
    fun volume => ?_⟩
  · have hMem : entry.1 ∈ engine.images.keys := List.mem_map.2 ⟨entry, hEntry, rfl⟩
    simp [hMem]
  · rw [hDropped, mem_spent]
    constructor
    · rintro ⟨id, -, hSpent⟩
      exact ⟨id, hSpent⟩
    · rintro ⟨id, image, hImage, hSpent⟩
      have hMem : id ∈ engine.images.keys :=
        List.mem_map.2 ⟨(id, image), Table.mem_entries_iff.2 hImage, rfl⟩
      exact ⟨id, hMem, image, hImage, hSpent⟩

/-- **What is left of an engine that is taken down.** The images are those that hold storage, as
they were and in the same order. The resources are those that are no volume of an image that went,
as they were. The pools are those that own one of them, in the same order. No agent is called. -/
theorem teardown_exact (hOwned : engine.Owned) :
    ∃ after, teardown.run engine = (.ok (), after) ∧
      after.images.entries = engine.images.entries.filter (fun entry =>
        entry.2.holdsStorage engine.world.registry) ∧
      (∀ id, after.world.registry.resource? id =
        if id ∈ engine.spent then none else engine.world.registry.resource? id) ∧
      after.world.registry.owners.keys =
        engine.world.registry.owners.keys.filter (fun id => decide (id ∉ engine.spent)) ∧
      after.world.registry.pools.keys = engine.world.registry.pools.keys.filter (fun poolId =>
        decide (poolId ∈ after.world.registry.owners.values)) ∧
      (∀ poolId pool, after.world.registry.pools.get? poolId = some pool →
        ∃ before, engine.world.registry.pools.get? poolId = some before ∧
          before.kind = pool.kind ∧ before.document = pool.document) ∧
      after.world.link = engine.world.link := by
  obtain ⟨cleared, hFirst, hCleared⟩ := run_destroyImages engine.images.keys hOwned
  obtain ⟨after, hSecond, hSwept⟩ :=
    run_destroyPools cleared.world.registry.pools.keys cleared
  obtain ⟨hImages, dropped, hWorld, hSpent⟩ := hCleared.all
  have hRegistry : cleared.world.registry = engine.world.registry.withoutAll dropped := by
    rw [hWorld]
    rfl
  have hSound := hCleared.owned.sound.registry
  refine ⟨after, ?_, ?_, fun id => ?_, ?_, ?_, fun poolId pool hPool => ?_, ?_⟩
  · simp only [teardown, Action.run_bind, Action.run_gets, imageIds, Registry.poolIds, hFirst,
      hSecond]
  · rw [hSwept.images, hImages]
  · rw [hSwept.resource? hSound, hRegistry, Registry.resource?_withoutAll]
    simp only [hSpent]
  · rw [hSwept.owners, hRegistry, Table.keys, Registry.owners_withoutAll, Table.keys,
      List.filter_map]
    simp only [hSpent, Function.comp_def]
  · rw [hSwept.keys hSound, hRegistry, Registry.poolKeys_withoutAll]
  · have hStored : (poolId, pool) ∈ cleared.world.registry.pools.entries := by
      rw [← Table.mem_entries_iff, hSwept.entries] at hPool
      exact (List.mem_filter.1 hPool).1
    have hBefore := Table.mem_entries_iff.1 hStored
    rw [hRegistry] at hBefore
    exact Registry.pool_of_withoutAll hBefore
  · rw [hSwept.link, hWorld]
    rfl

/-- Another pool for volume files. -/
def sparePool : PoolDocument := { volumePool with name := "spare" }

/-- The engine with both pools. -/
def spared : Engine Unit := pooled.after .willing (.createPool sparePool)

/-- An image of one layer in the second pool. -/
def spareParams : Params :=
  .ofList [("image_chain", "base"), ("image_size", "10"), ("image_pool_name", "spare")]

/-- Its document. -/
def spareImage : Image :=
  (spared.defineImage "spare" spareParams).toOption.getD
    { id := none, name := "", owner := none, topology := .single [], layers := ∅ }

/-- How two images are made, of which one gets storage, and a volume that no image is made of, each
in a pool of its own. -/
def crowding : List Operation :=
  [.createPool volumePool, .createPool sparePool, .createImage (chainImage "base top"),
    .updateImage "ii" (.create (some "top") ∅), .createImage spareImage,
    .createPool { volumePool with name := "loose" },
    .createResource { volumeDefinition with pool := some "iiiiiiiiii" }]

theorem careful_crowding (engine : Engine Unit) :
    ∀ operation ∈ crowding, operation.Careful engine := by
  intro operation hOperation
  have hDefine : spared.defineImage "spare" spareParams = .ok spareImage := by rfl
  simp only [crowding, List.mem_cons, List.not_mem_nil, or_false] at hOperation
  rcases hOperation with rfl | rfl | rfl | rfl | rfl | rfl | rfl
  · exact ⟨trivial, trivial⟩
  · exact ⟨trivial, trivial⟩
  · exact careful_createImage_chain engine
  · exact ⟨trivial, nofun⟩
  · exact ⟨⟨spared, "spare", spareParams, by decide +kernel, hDefine⟩, trivial⟩
  · exact ⟨trivial, trivial⟩
  · exact ⟨trivial, trivial⟩

/-- The engine with them. -/
def crowded : Engine Unit := crowding.foldl (Engine.after .willing) smallest

/-- The image whose top holds storage stays with both of its volumes, the other one goes with its
volume and then its pool, and the volume that belongs to no image stays. -/
theorem teardown_exact_crowded :
    crowded.Owned ∧ crowded.images.keys = ["ii", "iiiiiii"] ∧
    crowded.world.registry.owners.entries =
      [("iii", ""), ("iiiii", ""), ("iiiiiiii", "i"), ("iiiiiiiiiii", "iiiiiiiiii")] ∧
    crowded.spent = ["iiiiiiii"] ∧
    ∃ after, teardown.run crowded = (.ok (), after) ∧ after.images.keys = ["ii"] ∧
      after.world.registry.owners.keys = ["iii", "iiiii", "iiiiiiiiiii"] ∧
      after.world.registry.pools.keys = ["", "iiiiiiiiii"] ∧
      after.world.link = crowded.world.link := by
  have hOwned : crowded.Owned :=
    .of_run (vacant_vacant _ _ _ _) Supply.strokes_distinct (.of_list careful_crowding)
  have hLeft : (teardown.run crowded).2.images.keys = ["ii"] ∧
      (teardown.run crowded).2.world.registry.pools.keys = ["", "iiiiiiiiii"] := by decide +kernel
  have hOwners : crowded.world.registry.owners.entries =
      [("iii", ""), ("iiiii", ""), ("iiiiiiii", "i"), ("iiiiiiiiiii", "iiiiiiiiii")] := by
    decide +kernel
  have hSpent : crowded.spent = ["iiiiiiii"] := by decide +kernel
  obtain ⟨after, hRun, -, -, hKeys, -, -, hLink⟩ := teardown_exact hOwned
  rw [hRun] at hLeft
  rw [hSpent, Table.keys.eq_def crowded.world.registry.owners, hOwners] at hKeys
  exact ⟨hOwned, by decide +kernel, hOwners, hSpent, after, hRun, hLeft.1, hKeys, hLeft.2, hLink⟩

end Engine

end DiskFleet
