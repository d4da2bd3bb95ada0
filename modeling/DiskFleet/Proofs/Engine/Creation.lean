import DiskFleet.Proofs.Engine.Cloning
import DiskFleet.Proofs.Engine.Teardown
import DiskFleet.Proofs.Image.Making

/-!
# Images that are created

An image object is made of a document that was defined some time ago. What the definitions of its
layers refer to may have changed since, so that making it can fail at any layer; the image is then
not registered, and the registry is as if nothing had been tried.

## Main results

* `Engine.createImage_all_or_nothing`: what the creation of an image does to the engine.
-/

namespace DiskFleet

/-- The image was made of a document: it has the id, and the layers of the document, each with a
volume that was made of its definition. Before there was none of these volumes, and that they are
there is all that has changed in the registry. -/
structure Image.CreatedFrom (document : Image) (id : String) (before after : Registry)
    (image : Image) : Prop where
  beside : image = { document with id := some id, layers := image.layers }
  keys : image.layers.keys = document.layers.keys
  layers : ∀ name planned, document.layers.get? name = some planned → ∃ made,
    image.layers.get? name = some made ∧ planned.Realized after made
  apart : image.volumeIds.Nodup
  fresh : ∀ volume ∈ image.volumeIds, before.resource? volume = none
  others : after.withoutAll image.volumeIds = before

/-- Layers that all have objects are those of an image that was created. -/
theorem Session.Underway.createdFrom {σ : Type} {document : Image} {id : String}
    {start : World σ} {session : Session σ}
    (h : Underway { document with id := some id } start document.layers.keys session) :
    document.CreatedFrom id start.registry session.world.registry session.image := by
  have hVolumes : session.image.volumesOf document.layers.keys = session.image.volumeIds := by
    rw [← Image.volumesOf_keys, h.keys]
  have hAdded := h.added
  rw [hVolumes] at hAdded
  constructor
  case beside => exact h.image
  case keys => exact h.keys
  case layers =>
    intro name planned hPlanned
    have hName : name ∈ document.layers.keys := by
      rw [← Table.contains_iff_mem_keys, Table.contains, hPlanned, Option.isSome_some]
    obtain ⟨stored, made, hStored, hMade, hRealized⟩ := h.made name hName
    obtain rfl : planned = stored := Option.some.inj (hPlanned.symm.trans hStored)
    exact ⟨made, hMade, hRealized⟩
  case apart => exact hAdded.nodup
  case fresh =>
    intro volume hVolume
    rw [← hAdded.others, Registry.resource?_withoutAll, if_pos hVolume]
  case others => exact hAdded.others

namespace Engine

variable {σ : Type} {agent : Agent σ} {engine : Engine σ}

/-- A document that was defined has drafted layers. -/
theorem drafted_of_defineImage {name : String} {params : Params} {document : Image}
    (hDefine : engine.defineImage name params = .ok document) :
    ∀ layerName layer, document.layers.get? layerName = some layer → layer.Drafted := by
  unfold defineImage at hDefine
  dsimp only at hDefine
  split at hDefine
  · exact fun layerName layer hLayer => Image.drafted_of_define hDefine hLayer
  · cases hDefine

/-- The next id is not that of an image. -/
theorem Numbered.images_nextId (h : engine.Numbered) :
    engine.images.get? engine.world.supply.nextId = none := by
  cases hFound : engine.images.get? engine.world.supply.nextId with
  | none => rfl
  | some image => exact absurd (h.drawn hFound) h.sound.distinct.not_drawn_nextId

/-- **The creation of an image is all or nothing**, whenever its document was defined and whatever
has happened since. If it succeeds, the image comes last in the table, each of its layers has a
volume of its own, which was not there before, in the pool that its definition names, bound to
exactly the nodes of that pool and without storage, and nothing else changes in the registry. If it
fails, the table of images and the registry are exactly as before. No agent is called. -/
theorem createImage_all_or_nothing {start earlier : Engine σ} {name : String} {params : Params}
    {document : Image} (hVacant : start.Vacant) (hDistinct : start.world.supply.Distinct)
    (hRun : Run agent (fun _ _ => True) start engine)
    (hDefine : earlier.defineImage name params = .ok document) (creator : Agent σ) :
    ∀ result after, (createImage creator document).run engine = (result, after) →
      after.world.link = engine.world.link ∧
      (∀ failure, result = .error failure →
        after.images = engine.images ∧ after.world.registry = engine.world.registry) ∧
      ∀ id, result = .ok id → ∃ image,
        after.images.entries = engine.images.entries ++ [(id, image)] ∧
        document.CreatedFrom id engine.world.registry after.world.registry image := by
  intro result after hCreate
  have hNumbered : engine.Numbered := .of_run hVacant hDistinct hRun
  have hSound : (engine.draft document).world.Sound :=
    hNumbered.sound.run agent World.freshId_moves
  have hDrafted : ∀ layerName layer, document.layers.get? layerName = some layer → layer.Drafted :=
    drafted_of_defineImage hDefine
  -- the world of the draft is that of the engine but for the id of the image
  have hMade : (∃ failure left, (Session.createObject creator).run (engine.draft document) =
        (.error failure, left) ∧ left.world.registry = engine.world.registry ∧
        left.world.link = engine.world.link) ∨
      ∃ made, (Session.createObject creator).run (engine.draft document) = (.ok (), made) ∧
        Session.Underway (engine.draft document).image (engine.draft document).world
          document.layers.keys made :=
    Session.createObject_underway creator hSound hDrafted
  rcases createImage_cases creator document engine with
    ⟨failure, left, hObject, hCase⟩ | ⟨made, hObject, hCase⟩
  · rw [hCase] at hCreate
    cases hCreate
    rcases hMade with ⟨_, _, hFailed, hRegistry, hLink⟩ | ⟨_, hDone, -⟩
    · obtain ⟨-, rfl⟩ := Prod.mk.inj (hObject.symm.trans hFailed)
      exact ⟨hLink, fun _ _ => ⟨rfl, hRegistry⟩, nofun⟩
    · rw [hObject] at hDone
      cases hDone
  · rw [hCase] at hCreate
    cases hCreate
    rcases hMade with ⟨_, _, hFailed, -, -⟩ | ⟨_, hDone, hUnderway⟩
    · rw [hObject] at hFailed
      cases hFailed
    · obtain ⟨-, rfl⟩ := Prod.mk.inj (hObject.symm.trans hDone)
      have hId : made.image.idText = engine.world.supply.nextId := by
        rw [hUnderway.image]
        rfl
      refine ⟨hUnderway.link, nofun, fun id hOk => ?_⟩
      obtain rfl := Except.ok.inj hOk
      refine ⟨made.image, ?_, ?_⟩
      · apply Table.entries_insert_of_not_contains
        rw [hId, Table.contains, hNumbered.images_nextId, Option.isSome_none]
      · rw [hId]
        exact hUnderway.createdFrom

/-- A chain whose layers are in two pools. -/
def splitParams : Params :=
  .ofList [("image_chain", "base top"), ("image_size", "10"), ("image_pool_name_base", "fs"),
    ("image_pool_name_top", "spare")]

/-- Its document. -/
def splitImage : Image :=
  (spared.defineImage "disk" splitParams).toOption.getD
    { id := none, name := "", owner := none, topology := .single [], layers := ∅ }

/-- The pool of the top is destroyed before the image is created. -/
def thinned : Engine Unit := spared.after .willing (.destroyPool "i")

/-- With both pools, the image is made. -/
def madeSplit : Except Failure String × Engine Unit := (createImage .willing splitImage).run spared

/-- Without the second one, it is not. -/
def failedSplit : Except Failure String × Engine Unit :=
  (createImage .willing splitImage).run thinned

/-- The volumes of the two layers are in the two pools. Where the second pool is gone, an image id,
the volume of the base and the id of its layer were drawn, and the volume is gone again. -/
theorem createImage_all_or_nothing_split :
    smallest.Vacant ∧ smallest.world.supply.Distinct ∧
    spared.defineImage "disk" splitParams = .ok splitImage ∧
    (∃ after image, madeSplit = (.ok "ii", after) ∧ after.images.entries = [("ii", image)] ∧
      image.volumeIds = ["iii", "iiiii"] ∧
      after.world.registry.owners.entries = [("iii", ""), ("iiiii", "i")] ∧
      splitImage.CreatedFrom "ii" spared.world.registry after.world.registry image) ∧
    ∃ failure after, failedSplit = (.error failure, after) ∧
      after.world.supply.ids = thinned.world.supply.ids + 3 ∧
      after.images = thinned.images ∧ after.world.registry = thinned.world.registry ∧
      after.world.link = thinned.world.link := by
  have hVacant : smallest.Vacant := vacant_vacant _ _ _ _
  have hDistinct : smallest.world.supply.Distinct := Supply.strokes_distinct
  have hDefine : spared.defineImage "disk" splitParams = .ok splitImage := by rfl
  have hSpared : Run .willing (fun _ _ => True) smallest spared :=
    (Run.start.step trivial).step trivial
  have hThinned : Run .willing (fun _ _ => True) smallest thinned := hSpared.step trivial
  have hOk : madeSplit.1.toOption = some "ii" := by decide +kernel
  have hNone : spared.images.entries = [] := by decide +kernel
  have hVolumes : madeSplit.2.images.entries.map (fun entry => entry.2.volumeIds) =
      [["iii", "iiiii"]] := by decide +kernel
  have hOwners : madeSplit.2.world.registry.owners.entries = [("iii", ""), ("iiiii", "i")] := by
    decide +kernel
  have hFailed : failedSplit.1.toOption.isNone = true := by decide +kernel
  have hDrawn : failedSplit.2.world.supply.ids = thinned.world.supply.ids + 3 := by decide +kernel
  refine ⟨hVacant, hDistinct, hDefine, ?_, ?_⟩
  · rcases hRun : madeSplit with ⟨failure | id, after⟩
    · rw [hRun] at hOk
      cases hOk
    · rw [hRun] at hOk hVolumes hOwners
      obtain rfl : id = "ii" := Option.some.inj hOk
      obtain ⟨-, -, hMade⟩ :=
        createImage_all_or_nothing hVacant hDistinct hSpared hDefine .willing _ _ hRun
      obtain ⟨image, hImages, hCreated⟩ := hMade "ii" rfl
      rw [hNone, List.nil_append] at hImages
      rw [hImages] at hVolumes
      exact ⟨after, image, rfl, hImages, (List.cons.inj hVolumes).1, hOwners, hCreated⟩
  · rcases hRun : failedSplit with ⟨failure | id, after⟩
    · rw [hRun] at hDrawn
      obtain ⟨hLink, hUndone, -⟩ :=
        createImage_all_or_nothing hVacant hDistinct hThinned hDefine .willing _ _ hRun
      obtain ⟨hImages, hRegistry⟩ := hUndone failure rfl
      exact ⟨failure, after, rfl, hDrawn, hImages, hRegistry, hLink⟩
    · rw [hRun] at hFailed
      cases hFailed

end Engine

end DiskFleet
