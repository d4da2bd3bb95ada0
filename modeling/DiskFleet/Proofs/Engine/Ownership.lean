import DiskFleet.Proofs.Engine.Registry
import DiskFleet.Proofs.Image.Lifetime
import DiskFleet.Proofs.Image.Lineage

/-!
# Who owns the volumes

Images are made of volumes that the registry knows nothing of but their ids, and a volume knows
nothing of the image it is part of. What keeps the two together is that every layer of a registered
image holds a registered volume, and no other layer, of this image or of another one, holds the same
(`Engine.Owned`).

This depends on what the client does. It may hand in only documents that were defined, with distinct
names in the chain, and may not destroy a volume that a layer holds (`Operation.Respectful`). It
also depends on a draw: a backup whose layers take names that the image has already replaces layers
(`Operation.NamesNew`).

## Main results

* `Engine.Owned.after`: every operation keeps the volumes owned;
* `Engine.volumes_owned`: in every reachable state each layer holds a volume of its own;
* `Engine.unowned_of_taken_name`: without new names for backups a layer can lose its volume.
-/

namespace DiskFleet

/-- The id is that of a volume in one pool, and no other pool has a resource of that id. -/
structure Registry.VolumeIn (registry : Registry) (volume poolId : String) : Prop where
  owner : registry.owners.get? volume = some poolId
  stored : ∃ pool resource, registry.pools.get? poolId = some pool ∧
    pool.resources.get? volume = some resource ∧ resource.document.type = .volume
  only : ∀ {other pool resource}, registry.pools.get? other = some pool →
    pool.resources.get? volume = some resource → other = poolId

theorem World.HasVolume.volumeIn {σ : Type} {world : World σ} {volume : String}
    (hVolume : world.HasVolume volume) (h : world.Sound) :
    ∃ poolId, world.registry.VolumeIn volume poolId := by
  obtain ⟨resource, hResource, hType⟩ := hVolume
  obtain ⟨poolId, pool, hOwner, hPool, hStored⟩ := Registry.resource?_eq_some_iff.1 hResource
  refine ⟨poolId, hOwner, ⟨pool, resource, hPool, hStored, hType⟩, ?_⟩
  intro other otherPool found hOther hFound
  have hAlso := h.registry.owned.2 ⟨otherPool, found, hOther, hFound⟩
  exact Option.some.inj (hAlso.symm.trans hOwner)

namespace Engine

variable {σ α : Type} {agent : Agent σ} {engine : Engine σ}

/-! ## Volumes that layers hold -/

/-- Some layer of an image that is registered under one of the chosen ids holds the volume. -/
def HeldBy (engine : Engine σ) (chosen : String → Prop) (volume : String) : Prop :=
  ∃ id image name layer, chosen id ∧ engine.images.get? id = some image ∧
    image.layers.get? name = some layer ∧ layer.volume = some volume

/-- Some layer of a registered image holds the volume. -/
def Held (engine : Engine σ) : String → Prop := engine.HeldBy fun _ => True

/-- So does one of an image under another id. -/
def HeldBeside (engine : Engine σ) (id : String) : String → Prop := engine.HeldBy (· ≠ id)

theorem HeldBy.mono {chosen more : String → Prop} {volume : String}
    (h : engine.HeldBy chosen volume) (hMore : ∀ id, chosen id → more id) :
    engine.HeldBy more volume := by
  obtain ⟨id, image, name, layer, hChosen, hHeld⟩ := h
  exact ⟨id, image, name, layer, hMore id hChosen, hHeld⟩

/-- **Every layer of every registered image holds a volume of its own.** -/
structure Owned (engine : Engine σ) : Prop where
  sound : engine.world.Sound
  wellFormed : ∀ {id image}, engine.images.get? id = some image → image.WellFormed
  made : ∀ {id image}, engine.images.get? id = some image → Layer.AllMade image.layers
  holds : ∀ {id image}, engine.images.get? id = some image →
    engine.world.Holds (engine.HeldBeside id) image.layers

namespace Owned

/-- What is held is registered. -/
theorem hasVolume (h : engine.Owned) {chosen : String → Prop} {volume : String}
    (hHeld : engine.HeldBy chosen volume) : engine.world.HasVolume volume := by
  obtain ⟨id, image, name, layer, -, hImage, hLayer, hVolume⟩ := hHeld
  exact ((h.holds hImage).made hLayer hVolume).2.1

/-- Only the world changed, and what is held is still there. -/
theorem inWorld (h : engine.Owned) {world : World σ} (hSound : world.Sound)
    (hKept : ∀ {volume}, engine.Held volume → world.HasVolume volume) :
    Owned { engine with world } := by
  refine ⟨hSound, h.wellFormed, h.made, fun {id image} hImage => ?_⟩
  refine (h.holds hImage).inWorld hSound (fun {volume} hHeld => ?_)
    fun {name layer volume} hLayer hVolume => ?_
  · exact hKept (hHeld.mono fun _ _ => trivial)
  · exact hKept ⟨id, image, name, layer, trivial, hImage, hLayer, hVolume⟩

/-- Moves that drop nothing that is held. -/
theorem moves (h : engine.Owned) {admits : ResourceDocument → Prop} {mayDrop : String → Prop}
    {mayOpen : PoolDocument → Prop} {world : World σ}
    (hMoves : World.Course agent admits mayDrop mayOpen engine.world world)
    (hKept : ∀ {volume}, engine.Held volume → ¬mayDrop volume) : Owned { engine with world } := by
  apply h.inWorld (h.sound.moves hMoves)
  intro volume hHeld
  exact h.sound.keeps_volume hMoves (h.hasVolume hHeld) (hKept hHeld)

/-- An image is put under an id, and what its layers hold is held nowhere else. -/
theorem put (h : engine.Owned) {world : World σ} {id : String} {image : Image}
    (hImage : image.WellFormed) (hMade : Layer.AllMade image.layers)
    (hHolds : world.Holds (engine.HeldBeside id) image.layers) :
    Owned { engine with world, images := engine.images.insert id image } := by
  constructor
  case sound => exact hHolds.sound
  case wellFormed =>
    intro other stored hStored
    simp only [Table.get?_insert] at hStored
    split at hStored
    · obtain rfl := Option.some.inj hStored
      exact hImage
    · exact h.wellFormed hStored
  case made =>
    intro other stored hStored
    simp only [Table.get?_insert] at hStored
    split at hStored
    · obtain rfl := Option.some.inj hStored
      exact hMade
    · exact h.made hStored
  case holds =>
    intro other stored hStored
    simp only [Table.get?_insert] at hStored
    by_cases hOther : other = id
    · -- beside the image that was put are the same images as before
      rw [if_pos hOther] at hStored
      obtain rfl := Option.some.inj hStored
      apply hHolds.mono
      intro volume hHeld
      obtain ⟨beside, held, name, layer, hNe, hBeside, hLayer, hVolume⟩ := hHeld
      rw [hOther] at hNe
      rw [Table.get?_insert, if_neg hNe] at hBeside
      exact ⟨beside, held, name, layer, hNe, hBeside, hLayer, hVolume⟩
    · rw [if_neg hOther] at hStored
      have hBefore := h.holds hStored
      have hKept : ∀ {name layer volume}, stored.layers.get? name = some layer →
          layer.volume = some volume → engine.HeldBeside id volume :=
        fun {name layer volume} hLayer hVolume =>
          ⟨other, stored, name, layer, hOther, hStored, hLayer, hVolume⟩
      constructor
      case sound => exact hHolds.sound
      case unmade => exact hBefore.unmade
      case unshared => exact hBefore.unshared
      case others =>
        rintro volume ⟨beside, held, name, layer, hNe, hBeside, hLayer, hVolume⟩
        rw [Table.get?_insert] at hBeside
        split at hBeside
        · obtain rfl := Option.some.inj hBeside
          exact (hHolds.made hLayer hVolume).2.1
        · next hBesideNe =>
          exact hHolds.others ⟨beside, held, name, layer, hBesideNe, hBeside, hLayer, hVolume⟩
      case made =>
        intro name layer volume hLayer hVolume
        obtain ⟨hDefinition, -, hFree⟩ := hBefore.made hLayer hVolume
        refine ⟨hDefinition, hHolds.others (hKept hLayer hVolume), ?_⟩
        rintro ⟨beside, held, heldName, heldLayer, hNe, hBeside, hHeldLayer, hHeldVolume⟩
        rw [Table.get?_insert] at hBeside
        split at hBeside
        · obtain rfl := Option.some.inj hBeside
          exact (hHolds.made hHeldLayer hHeldVolume).2.2 (hKept hLayer hVolume)
        · exact hFree ⟨beside, held, heldName, heldLayer, hNe, hBeside, hHeldLayer, hHeldVolume⟩

/-- An image is taken off, and what is held beside it is still there. -/
theorem erase (h : engine.Owned) {world : World σ} (id : String) (hSound : world.Sound)
    (hKept : ∀ {volume}, engine.HeldBeside id volume → world.HasVolume volume) :
    Owned { engine with world, images := engine.images.erase id } := by
  have hGet : ∀ {other stored}, (engine.images.erase id).get? other = some stored →
      other ≠ id ∧ engine.images.get? other = some stored := by
    intro other stored hStored
    rw [Table.get?_erase] at hStored
    split at hStored
    · cases hStored
    · next hNe => exact ⟨hNe, hStored⟩
  constructor
  case sound => exact hSound
  case wellFormed => exact fun hStored => h.wellFormed (hGet hStored).2
  case made => exact fun hStored => h.made (hGet hStored).2
  case holds =>
    intro other stored hStored
    obtain ⟨hNe, hImage⟩ := hGet hStored
    have hFewer : ∀ {volume}, HeldBeside
        { engine with world, images := engine.images.erase id } other volume →
          engine.HeldBy (fun key => key ≠ other ∧ key ≠ id) volume := by
      rintro volume ⟨beside, held, name, layer, hBesideNe, hBeside, hLayer, hVolume⟩
      obtain ⟨hIdNe, hHeld⟩ := hGet hBeside
      exact ⟨beside, held, name, layer, ⟨hBesideNe, hIdNe⟩, hHeld, hLayer, hVolume⟩
    have hBefore := (h.holds hImage).mono fun hHeld =>
      (hFewer hHeld).mono fun _ hBoth => hBoth.1
    refine hBefore.inWorld hSound (fun {volume} hHeld => ?_)
      fun {name layer volume} hLayer hVolume => ?_
    · exact hKept ((hFewer hHeld).mono fun _ hBoth => hBoth.2)
    · exact hKept ⟨other, stored, name, layer, hNe, hImage, hLayer, hVolume⟩

/-! ## Operations -/

/-- Work on the world that drops nothing that is held. -/
theorem onWorld (h : engine.Owned) (agent : Agent σ) {action : Action (World σ) α}
    {mayDrop : String → Prop} {mayOpen : PoolDocument → Prop}
    (hMoves : World.Course agent (fun _ => True) mayDrop mayOpen engine.world
      (action.run engine.world).2)
    (hKept : ∀ {volume}, engine.Held volume → ¬mayDrop volume) :
    ((Engine.onWorld action).run engine).2.Owned :=
  h.moves hMoves hKept

/-- Work on an image begins with looking it up. -/
theorem run_find_bind {id : String} (next : Engine σ → Image → Action (Engine σ) α) :
    (do
      let engine ← Action.get
      let image ← engine.image id
      next engine image : Action (Engine σ) α).run engine =
      match engine.images.get? id with
      | none => (.error (.imageNotFound id), engine)
      | some image => (next engine image).run engine := by
  simp only [Engine.image, Action.run_bind, Action.run_get]
  cases engine.images.get? id <;> rfl

/-- What the engine defines is the definition of an image. -/
theorem define_of_defineImage {earlier : Engine σ} {name : String} {params : Params}
    {document : Image} (h : earlier.defineImage name params = .ok document) :
    Image.define earlier.world.registry earlier.settings name params = .ok document := by
  simp only [defineImage] at h
  split at h
  · exact h
  · cases h

/-- The object of a defined image: every layer gets a new volume, or the image is not made. -/
theorem createImage (h : engine.Owned) {earlier : Engine σ} {name : String} {params : Params}
    {document : Image} (hNodup : (Image.chainNames name params).Nodup)
    (hDefine : earlier.defineImage name params = .ok document) :
    ((Engine.createImage agent document).run engine).2.Owned := by
  have hDefined := define_of_defineImage hDefine
  have hPlanned : ∀ {key layer}, document.layers.get? key = some layer → layer.Planned key :=
    fun hLayer => Image.planned_of_define hNodup hDefined hLayer
  have hDraw : World.Moves agent (fun _ => True) (fun _ => False) engine.world
      (engine.draft document).world := .single (.drawId _)
  have hStart : (engine.draft document).Holds engine.Held := by
    have hNone : ∀ {key layer volume}, document.layers.get? key = some layer →
        layer.volume ≠ some volume := by
      intro key layer volume hLayer hVolume
      rw [(hPlanned hLayer).volume] at hVolume
      cases hVolume
    refine ⟨h.sound.moves hDraw, fun {volume} hHeld => ?_,
      fun hLayer hVolume => (hNone hLayer hVolume).elim,
      fun hLayer _ => (hPlanned hLayer).definition,
      fun hLayer _ hVolume => (hNone hLayer hVolume).elim⟩
    exact h.sound.keeps_volume hDraw (h.hasVolume hHeld) not_false
  obtain ⟨hHolds, hMade⟩ := Session.createObject_holds agent hStart
  have hWellFormed :
      ((Session.createObject agent).run (engine.draft document)).2.image.WellFormed := by
    have hStartFormed : (engine.draft document).image.WellFormed :=
      (Image.wellFormed_of_define hNodup hDefined).congr rfl rfl fun _ => rfl
    exact hStartFormed.of_sameShape (Session.createObject_sameShape agent _)
  rcases createImage_cases agent document engine with
    ⟨failure, after, hRun, hCreate⟩ | ⟨after, hRun, hCreate⟩
  · rw [hRun] at hHolds
    rw [hCreate]
    exact h.inWorld hHolds.sound hHolds.others
  · rw [hRun] at hHolds hMade hWellFormed
    rw [hCreate]
    exact h.put hWellFormed (hMade rfl) (hHolds.mono fun hHeld => hHeld.mono fun _ _ => trivial)

/-- The object of an image is unmade, or stays as it is. -/
theorem destroyImage (h : engine.Owned) (agent : Agent σ) (id : String) :
    ((Engine.destroyImage id).run engine).2.Owned := by
  cases hImage : engine.images.get? id with
  | none =>
      have hEngine : ((Engine.destroyImage id).run engine).2 = engine := by
        simp only [Engine.destroyImage, Engine.ask, Engine.image, hImage, Action.run_bind,
          Action.run_get, Action.run_liftM]
      rw [hEngine]
      exact h
  | some image =>
      have hCases : (∃ failure, Session.destroyObject.run (⟨image, engine.world⟩ : Session σ) =
            (.error failure, ⟨image, engine.world⟩)) ∨
          ∃ after, Session.destroyObject.run (⟨image, engine.world⟩ : Session σ) = (.ok (), after) ∧
            after.Holds (engine.HeldBeside id) :=
        Session.destroyObject_cases agent (h.wellFormed hImage) (h.holds hImage) (h.made hImage)
      simp only [Engine.destroyImage, Engine.ask, Engine.image, hImage, Engine.onImage,
        Action.run_bind, Action.run_get, Action.run_liftM, Action.run_within]
      rcases hCases with ⟨failure, hRun⟩ | ⟨after, hRun, hHolds⟩
      · rw [hRun]
        show Owned { engine with images := engine.images.insert id image }
        rw [Table.insert_of_get? hImage]
        exact h
      · rw [hRun]
        show Owned { engine with
          world := after.world, images := (engine.images.insert id after.image).erase id }
        rw [Table.erase_insert]
        exact h.erase id hHolds.sound hHolds.others

/-- A command on an image. A backup must find new names for its layers. -/
theorem updateImage (h : engine.Owned) (id : String) (command : ImageCommand)
    (hNew : ∀ args image, command = .backup args → engine.images.get? id = some image →
      Session.BackupsNew (engine.world.supply.nextSuffix engine.settings.suffixLength) image) :
    ((Engine.updateImage agent id command).run engine).2.Owned := by
  rw [Engine.updateImage, run_find_bind]
  cases hImage : engine.images.get? id with
  | none => exact h
  | some image =>
      have hEdits : Session.Edits agent (fun _ => True) ⟨image, engine.world⟩
          ((Session.update agent engine.settings command).run ⟨image, engine.world⟩).2 :=
        Session.update_edits World.Admission.of_all (h.wellFormed hImage) engine.settings command
          fun args hBackup => hNew args image hBackup hImage
      obtain ⟨hHolds, hMade⟩ := Session.Edits.holds (h.holds hImage) (h.made hImage) hEdits
      exact h.put (Session.Edits.wellFormed (h.wellFormed hImage) hEdits) hMade hHolds

/-- Nodes are not what makes a command a backup. -/
theorem eq_backup_of_resolve {cluster : Cluster} {command : ImageCommand} {args : Arguments}
    (h : command.resolve cluster = .ok (.backup args)) : command = .backup args := by
  cases command with
  | add added =>
      simp only [ImageCommand.resolve] at h
      cases hNodes : cluster.resolveAll added.nodes with
      | error failure => rw [hNodes] at h; cases h
      | ok nodes => rw [hNodes] at h; cases h
  | rebase put =>
      simp only [ImageCommand.resolve] at h
      cases hNodes : cluster.resolveAll put.nodes with
      | error failure => rw [hNodes] at h; cases h
      | ok nodes => rw [hNodes] at h; cases h
  | _ => exact Except.ok.inj h

theorem requestImage (h : engine.Owned) (id : String) (request : Json)
    (hNew : ∀ args image, ImageCommand.ofRequest request = .ok (.backup args) →
      engine.images.get? id = some image →
      Session.BackupsNew (engine.world.supply.nextSuffix engine.settings.suffixLength) image) :
    ((Engine.requestImage agent id request).run engine).2.Owned := by
  simp only [Engine.requestImage, Engine.ask, Action.run_bind, Action.run_liftM, Action.run_get]
  cases hRequest : ImageCommand.ofRequest request with
  | error failure => exact h
  | ok command =>
      dsimp only
      cases hResolve : command.resolve engine.world.registry.cluster with
      | error failure => exact h
      | ok resolved =>
          apply h.updateImage id resolved
          intro args image hBackup hImage
          subst hBackup
          have hSame := eq_backup_of_resolve hResolve
          exact hNew args image (hSame ▸ hRequest) hImage

/-- A clone gets volumes of its own, and the image that is cloned stays as it is. -/
theorem cloneImage (h : engine.Owned) (id : String) :
    ((Engine.cloneImage agent id).run engine).2.Owned := by
  cases hImage : engine.images.get? id with
  | none =>
      rw [Engine.cloneImage, run_find_bind, hImage]
      exact h
  | some image =>
      rcases hRun : (Session.clone agent engine.settings).run ⟨image, engine.world⟩ with
        ⟨result, ⟨kept, world⟩⟩
      have hOthers : ∀ {volume}, engine.Held volume → engine.world.HasVolume volume := h.hasVolume
      have hGiven : Session.Given engine.Held image := fun name layer volume hLayer hVolume =>
        ⟨id, image, name, layer, trivial, hImage, hLayer, hVolume⟩
      obtain ⟨hSame, hSound, hKept, hClone⟩ := Session.clone_holds h.sound hOthers hGiven hRun
      obtain rfl : kept = image := hSame
      rw [run_cloneImage hImage hRun]
      cases result with
      | error failure => exact h.inWorld hSound hKept
      | ok made =>
          obtain ⟨hHolds, hMade⟩ := hClone made rfl
          have hFormed : made.WellFormed := Image.wellFormed_of_clone (h.wellFormed hImage) hRun
          exact h.put hFormed hMade (hHolds.mono fun hHeld => hHeld.mono fun _ _ => trivial)

end Owned

/-! ## Runs -/

/-- The names that the next backup gives to the layers of the image are new to it. -/
def BackupsNew (engine : Engine σ) (id : String) : Prop :=
  ∀ image ∈ engine.images.get? id,
    Session.BackupsNew (engine.world.supply.nextSuffix engine.settings.suffixLength) image

/-- What an engine can expect of its client: image objects are made of documents that were defined,
with distinct names in the chain, and a volume that a layer holds is not destroyed. -/
def Operation.Respectful (engine : Engine σ) : Operation → Prop
  | .createImage document =>
    ∃ (earlier : Engine σ) (name : String) (params : Params),
      (Image.chainNames name params).Nodup ∧ earlier.defineImage name params = .ok document
  | .destroyResource id => ¬engine.Held id
  | _ => True

/-- Backups find new names. -/
def Operation.NamesNew (engine : Engine σ) : Operation → Prop
  | .updateImage id command => ∀ args, command = .backup args → engine.BackupsNew id
  | .requestImage id request =>
    ∀ args, ImageCommand.ofRequest request = .ok (.backup args) → engine.BackupsNew id
  | .backupImage id => engine.BackupsNew id
  | _ => True

/-- Both. -/
def Operation.Careful (engine : Engine σ) (operation : Operation) : Prop :=
  operation.Respectful engine ∧ operation.NamesNew engine

/-- **Every operation keeps the volumes owned**, whatever it answers. -/
theorem Owned.after (h : engine.Owned) (agent : Agent σ) {operation : Operation}
    (hCareful : operation.Careful engine) : (engine.after agent operation).Owned := by
  obtain ⟨hRespectful, hNew⟩ := hCareful
  have hNothing : ∀ {volume}, engine.Held volume → ¬(fun _ : String => False) volume :=
    fun _ => not_false
  cases operation with
  | createPool document =>
      have hOpened : World.Course agent (fun _ => True) (fun _ => False) (fun _ => True)
          engine.world ((World.createPool document).run engine.world).2 :=
        World.createPool_course trivial engine.world
      exact h.onWorld agent hOpened hNothing
  | destroyPool id =>
      exact h.onWorld agent (World.destroyPool_moves id engine.world) hNothing
  | createResource definition =>
      exact h.onWorld agent (World.createResource_moves trivial engine.world) hNothing
  | copyResource resource destination =>
      exact h.onWorld agent
        (World.copyResource_moves .of_all resource destination engine.world) hNothing
  | copyResourceAs resource destination suffix =>
      exact h.onWorld agent
        (World.copyResourceAs_moves .of_all resource destination suffix engine.world) hNothing
  | cloneResource resource =>
      refine h.onWorld agent (World.cloneResource_moves .of_all resource engine.world) ?_
      intro volume hHeld
      exact h.sound.ne_nextId (h.hasVolume hHeld)
  | destroyResource id =>
      have hMoves : World.Moves agent (fun _ => True) (· = id) engine.world
          ((World.destroyResource id).run engine.world).2 := by
        refine World.destroyResource_moves ?_ engine.world
        rfl
      refine h.onWorld agent hMoves ?_
      rintro volume hHeld rfl
      exact hRespectful hHeld
  | updateResource id command =>
      exact h.onWorld agent (World.updateResource_moves id command engine.world) hNothing
  | requestResource id request =>
      exact h.onWorld agent (World.requestResource_moves id request engine.world) hNothing
  | createImage document =>
      obtain ⟨earlier, name, params, hNodup, hDefine⟩ := hRespectful
      exact h.createImage hNodup hDefine
  | destroyImage id => exact h.destroyImage agent id
  | updateImage id command =>
      exact h.updateImage id command fun args image hBackup hImage =>
        hNew args hBackup image hImage
  | requestImage id request =>
      exact h.requestImage id request fun args image hRequest hImage =>
        hNew args hRequest image hImage
  | cloneImage id => exact h.cloneImage id
  | backupImage id =>
      exact h.updateImage id (.backup ∅) fun args image _ hImage => hNew image hImage
  | restoreImage id =>
      exact h.updateImage id (.restore ∅) fun args image hBackup => by cases hBackup

theorem Vacant.owned (h : engine.Vacant) (hDistinct : engine.world.supply.Distinct) :
    engine.Owned := by
  have hNone : ∀ id, engine.images.get? id = none := by
    intro id
    rw [h.images]
    rfl
  refine ⟨h.sound hDistinct, fun {id image} hImage => ?_, fun {id image} hImage => ?_,
    fun {id image} hImage => ?_⟩
  all_goals
    rw [hNone] at hImage
    cases hImage

/-- **In every reachable state each layer of each image holds a volume of its own.** -/
theorem volumes_owned {start engine : Engine σ} (hVacant : start.Vacant)
    (hDistinct : start.world.supply.Distinct)
    (hRun : Run agent Operation.Careful start engine) :
    (∀ id image name layer, engine.images.get? id = some image →
      image.layers.get? name = some layer →
      layer.definition = none ∧ ∃ volume poolId, layer.volume = some volume ∧
        engine.world.registry.VolumeIn volume poolId) ∧
      ∀ id other image otherImage name otherName layer otherLayer volume,
        engine.images.get? id = some image → engine.images.get? other = some otherImage →
        image.layers.get? name = some layer → otherImage.layers.get? otherName = some otherLayer →
        layer.volume = some volume → otherLayer.volume = some volume →
        id = other ∧ name = otherName := by
  have hOwned : engine.Owned := by
    induction hRun with
    | start => exact hVacant.owned hDistinct
    | step _ hCareful ih => exact ih.after agent hCareful
  constructor
  · intro id image name layer hImage hLayer
    obtain ⟨volume, hVolume⟩ := hOwned.made hImage name layer hLayer
    obtain ⟨hDefinition, hHas, -⟩ := (hOwned.holds hImage).made hLayer hVolume
    obtain ⟨poolId, hIn⟩ := hHas.volumeIn hOwned.sound
    exact ⟨hDefinition, volume, poolId, hVolume, hIn⟩
  · intro id other image otherImage name otherName layer otherLayer volume hImage hOther hLayer
      hOtherLayer hVolume hOtherVolume
    by_cases hSame : other = id
    · subst hSame
      obtain rfl := Option.some.inj (hImage.symm.trans hOther)
      exact ⟨rfl, (hOwned.holds hImage).unshared hLayer hOtherLayer hVolume hOtherVolume⟩
    · -- what another image holds is not held by this one
      obtain ⟨-, -, hFree⟩ := (hOwned.holds hImage).made hLayer hVolume
      exact (hFree ⟨other, otherImage, otherName, otherLayer, hSame, hOther, hOtherLayer,
        hOtherVolume⟩).elim

/-- A chain of two layers that was backed up and cloned. -/
theorem volumes_owned_clone :
    ∃ engine : Engine Unit, Run .willing Operation.Careful smallest engine ∧
      engine.images.values.map (fun image => image.layers.keys) =
        [["base", "top", "base_backup_oooooooo", "top_backup_oooooooo"],
          ["base_ooooooos", "top_ooooooos"]] ∧
      ∀ id image name layer, engine.images.get? id = some image →
        image.layers.get? name = some layer →
        layer.definition = none ∧ ∃ volume poolId, layer.volume = some volume ∧
          engine.world.registry.VolumeIn volume poolId := by
  have hDefine : pooled.defineImage "disk" (chainParams "base top") =
      .ok (chainImage "base top") := by rfl
  have hPooled : Run .willing Operation.Careful smallest pooled :=
    Run.start.step ⟨trivial, trivial⟩
  have hMade : Run .willing Operation.Careful smallest
      (pooled.after .willing (.createImage (chainImage "base top"))) :=
    hPooled.step ⟨⟨pooled, "disk", chainParams "base top", by decide +kernel, hDefine⟩, trivial⟩
  have hNew : BackupsNew (pooled.after .willing (.createImage (chainImage "base top"))) "i" := by
    unfold BackupsNew Session.BackupsNew
    decide +kernel
  have hBackedUp : Run .willing Operation.Careful smallest
      ((pooled.after .willing (.createImage (chainImage "base top"))).after .willing
        (.backupImage "i")) := hMade.step ⟨trivial, hNew⟩
  have hCloned : Run .willing Operation.Careful smallest
      (((pooled.after .willing (.createImage (chainImage "base top"))).after .willing
        (.backupImage "i")).after .willing (.cloneImage "i")) := hBackedUp.step ⟨trivial, trivial⟩
  exact ⟨_, hCloned, by decide +kernel,
    (volumes_owned (vacant_vacant _ _ _ _) Supply.strokes_distinct hCloned).1⟩

/-! ## Names that are taken -/

/-- Agents that refuse backups and accept everything else. -/
def refusing : Agent Unit := fun memory call =>
  (.ok (if call.isOf "backup" then .failed 1 "no space" else .succeeded .null), memory)

/-- The smallest engine, if it drops what a failed operation leaves. -/
def cleaning : Engine Unit :=
  vacant (Cluster.ofNames ["n"]) { ImageSettings.default with recovery := .rollback }
    Supply.strokes ()

/-- A layer of the chain has the name that the backup of another one gets. When the backup fails,
that layer is dropped in the place of the backup, and the image object can be unmade only in part. -/
def losingVolume : List Operation :=
  [.createPool volumePool, .createImage (chainImage "a a_backup_oooooooo top"), .backupImage "i",
    .destroyImage "i"]

/-- Without new names for backups a layer can lose its volume, although every suffix is as long as
the settings say. -/
theorem unowned_of_taken_name :
    cleaning.Vacant ∧ cleaning.world.supply.Distinct ∧ cleaning.world.supply.Sized ∧
      ∃ engine, Run refusing Operation.Respectful cleaning engine ∧
        ∃ image layer, engine.images.get? "i" = some image ∧
          image.layers.get? "top" = some layer ∧ layer.volume = none ∧ layer.definition ≠ none := by
  have hDefine : pooled.defineImage "disk" (chainParams "a a_backup_oooooooo top") =
      .ok (chainImage "a a_backup_oooooooo top") := by rfl
  have hRespectful : ∀ engine : Engine Unit, ∀ operation ∈ losingVolume,
      operation.Respectful engine := by
    intro engine operation hOperation
    simp only [losingVolume, List.mem_cons, List.not_mem_nil, or_false] at hOperation
    rcases hOperation with rfl | rfl | rfl | rfl
    · trivial
    · exact ⟨pooled, "disk", chainParams "a a_backup_oooooooo top", by decide +kernel, hDefine⟩
    · trivial
    · trivial
  have hLost : ((losingVolume.foldl (Engine.after refusing) cleaning).images.get? "i").bind
      (fun image => (image.layers.get? "top").map fun layer =>
        (layer.volume, layer.definition.isSome)) = some (none, true) := by decide +kernel
  obtain ⟨image, hImage, hTop⟩ := Option.bind_eq_some_iff.1 hLost
  obtain ⟨layer, hLayer, hState⟩ := Option.map_eq_some_iff.1 hTop
  obtain ⟨hVolume, hCarried⟩ := Prod.mk.inj hState
  refine ⟨vacant_vacant _ _ _ _, Supply.strokes_distinct, Supply.strokes_sized, _,
    .of_list hRespectful, image, layer, hImage, hLayer, hVolume, ?_⟩
  intro hNone
  rw [hNone] at hCarried
  cases hCarried

end Engine

end DiskFleet
