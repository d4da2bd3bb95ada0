import DiskFleet.Proofs.Engine.Recovery
import DiskFleet.Proofs.Image.BackupStorage

/-!
# Backups that answer

When a backup answers, the node agent has been asked to copy each layer of the chain to its backup.
So each layer has to name a backup layer outside the chain, whose volume holds storage.

This is so for every layer that gets its backup from the command. But the command asks of a layer
only whether it names a backup, and passes over those that do. What a layer was given by a backup
that could not allocate it, and that was kept, is not allocated by the next backup either; nor is a
backup whose storage was freed. `create` looks at the volumes and allocates those that hold no
storage.

## Main results

* `backup_complete`: what a backup that answers has done;
* `backup_without_storage`: a layer whose backup holds no storage.
-/

namespace DiskFleet

namespace Engine

variable {σ : Type} {agent : Agent σ} {engine after : Engine σ} {id : String} {image : Image}

/-- A layer of the chain of an owned image that names a backup is backed up on some volume. -/
theorem Owned.backedUpOn (h : engine.Owned) (hImage : engine.images.get? id = some image)
    {name : String} {layer : Layer} (hLayer : image.layers.get? name = some layer)
    (hBackup : layer.backup ≠ none) :
    ∃ volume held, image.BackedUpOn name volume ∧
      engine.world.registry.allocated? volume = some held := by
  obtain ⟨backup, hPoints⟩ := Option.ne_none_iff_exists'.1 hBackup
  obtain ⟨hOutside, stored, hStored⟩ := (h.wellFormed hImage).pointer hLayer hPoints
  obtain ⟨volume, hVolume⟩ := h.made hImage backup stored hStored
  obtain ⟨-, ⟨resource, hFound, -⟩, -⟩ := (h.holds hImage).made hStored hVolume
  refine ⟨volume, resource.document.allocated,
    ⟨layer, backup, stored, hLayer, hPoints, hOutside, hStored, hVolume⟩, ?_⟩
  rw [Registry.allocated?, hFound, Option.map_some]

/-- **A backup that answers**, in any reachable state and under either recovery setting: every layer
of the chain names a backup layer outside the chain, and the volume of that is allocated, unless the
layer named the same before the command and it was not allocated then. -/
theorem backup_complete {start : Engine σ} {earlier : Agent σ} (hVacant : start.Vacant)
    (hDistinct : start.world.supply.Distinct) (hRun : Run earlier Operation.Careful start engine)
    (hNew : engine.BackupsNew id) (hImage : engine.images.get? id = some image) {args : Arguments}
    {out : Json}
    (hBackup : (updateImage agent id (.backup args)).run engine = (.ok out, after)) :
    ∃ edited, after.images.get? id = some edited ∧ edited.topology = image.topology ∧
      ∀ name ∈ edited.topology.names, ∃ volume, edited.BackedUpOn name volume ∧
        (after.world.registry.allocated? volume = some true ∨
          image.BackedUpOn name volume ∧
            engine.world.registry.allocated? volume = some false) := by
  have hOwned : engine.Owned := .of_run hVacant hDistinct hRun
  have hFormed : image.WellFormed := hOwned.wellFormed hImage
  rcases hUpdate : (Session.backup agent engine.settings args).run ⟨image, engine.world⟩ with
    ⟨result, ⟨edited, world⟩⟩
  rw [run_updateImage_of_found agent _ hImage, Session.update, hUpdate] at hBackup
  cases hBackup
  have hFree : Session.BackupsNew
      (engine.world.supply.nextSuffix engine.settings.suffixLength) image := hNew image hImage
  have hBacksUp := Session.backup_storage hFormed hOwned.sound hUpdate hFree
  have hEdited : (engine.images.insert id edited).get? id = some edited := by
    rw [Table.get?_insert, if_pos rfl]
  refine ⟨edited, hEdited, hBacksUp.topology, fun name hName => ?_⟩
  rw [hBacksUp.topology] at hName
  by_cases hPending : name ∈ image.withoutBackup
  · obtain ⟨volume, hBackedUp, hHeld⟩ := hBacksUp.made name hPending
    exact ⟨volume, hBackedUp, .inl hHeld⟩
  · obtain ⟨layer, hLayer⟩ := hFormed.stored hName
    have hPoints : layer.backup ≠ none := by
      intro hNone
      refine hPending (List.mem_filter.2 ⟨hName, ?_⟩)
      rw [hLayer]
      exact Option.isNone_iff_eq_none.2 hNone
    obtain ⟨volume, held, hBackedUp, hStorage⟩ := hOwned.backedUpOn hImage hLayer hPoints
    refine ⟨volume, hBacksUp.kept hPending hBackedUp, ?_⟩
    cases held with
    | true => exact .inl (hBacksUp.storage hStorage)
    | false => exact .inr ⟨hBackedUp, hStorage⟩

/-! ## A chain that is backed up twice -/

/-- The smallest engine with a chain of two layers that was backed up. -/
def halfMadeBackedUp : Engine Unit := halfMade.after .willing (.backupImage "i")

theorem run_halfMadeBackedUp : Run .willing Operation.Careful smallest halfMadeBackedUp := by
  have hNew : halfMade.BackupsNew "i" := by
    unfold BackupsNew Session.BackupsNew
    decide +kernel
  have hMade : Run .willing Operation.Careful smallest halfMade := .of_list careful_makingTop
  exact hMade.step ⟨trivial, hNew⟩

/-- Another layer is put on it. -/
def grownBackedUp : Engine Unit :=
  halfMadeBackedUp.after .willing
    (.updateImage "i" (.rebase ⟨"new", .ofList [("image_size", "10")], [], ∅⟩))

/-- The storage of all layers is freed. -/
def emptied : Engine Unit := halfMadeBackedUp.after .willing (.updateImage "i" (.destroy none ∅))

/-- The new layer gets a backup, and the two others have theirs. -/
theorem backup_complete_grown :
    Run .willing Operation.Careful smallest grownBackedUp ∧ grownBackedUp.BackupsNew "i" ∧
      ∃ image after out, grownBackedUp.images.get? "i" = some image ∧
        (updateImage .willing "i" (.backup ∅)).run grownBackedUp = (.ok out, after) ∧
        ∃ edited, after.images.get? "i" = some edited ∧
          edited.topology.names = ["base", "top", "new"] ∧
          ∀ name ∈ edited.topology.names, ∃ volume, edited.BackedUpOn name volume ∧
            (after.world.registry.allocated? volume = some true ∨
              image.BackedUpOn name volume ∧
                grownBackedUp.world.registry.allocated? volume = some false) := by
  have hRun : Run .willing Operation.Careful smallest grownBackedUp :=
    run_halfMadeBackedUp.step ⟨trivial, nofun⟩
  have hNew : grownBackedUp.BackupsNew "i" := by
    unfold BackupsNew Session.BackupsNew
    decide +kernel
  have hNames : (grownBackedUp.images.get? "i").map (·.topology.names) =
      some ["base", "top", "new"] := by decide +kernel
  have hDone : ((updateImage .willing "i" (.backup ∅)).run grownBackedUp).1.toOption.isSome =
      true := by decide +kernel
  obtain ⟨image, hImage, hChain⟩ := Option.map_eq_some_iff.1 hNames
  rcases hBackup : (updateImage .willing "i" (.backup ∅)).run grownBackedUp with
    ⟨failure | out, after⟩
  · rw [hBackup] at hDone
    cases hDone
  · obtain ⟨edited, hEdited, hTopology, hLayers⟩ :=
      backup_complete (vacant_vacant _ _ _ _) Supply.strokes_distinct hRun hNew hImage hBackup
    exact ⟨hRun, hNew, image, after, out, hImage, rfl, edited, hEdited, by rw [hTopology, hChain],
      hLayers⟩

/-- **A backup does not allocate what its layer has already**: when the storage of the whole image
was freed, the next backup answers, and the backups hold none. -/
theorem backup_without_storage :
    Run .willing Operation.Careful smallest emptied ∧ emptied.BackupsNew "i" ∧
      ∃ after out edited, (updateImage .willing "i" (.backup ∅)).run emptied = (.ok out, after) ∧
        after.images.get? "i" = some edited ∧ "top" ∈ edited.topology.names ∧
        ¬∃ volume, edited.BackedUpOn "top" volume ∧
          after.world.registry.allocated? volume = some true := by
  have hRun : Run .willing Operation.Careful smallest emptied :=
    run_halfMadeBackedUp.step ⟨trivial, nofun⟩
  have hNew : emptied.BackupsNew "i" := by
    unfold BackupsNew Session.BackupsNew
    decide +kernel
  have hDone : ((updateImage .willing "i" (.backup ∅)).run emptied).1.toOption.isSome = true := by
    decide +kernel
  have hChain : (((updateImage .willing "i" (.backup ∅)).run emptied).2.images.get? "i").map
      (·.topology.names) = some ["base", "top"] := by decide +kernel
  have hStorage : (((updateImage .willing "i" (.backup ∅)).run emptied).2.images.get? "i").bind
      (fun edited => (edited.layers.get? "top").bind fun layer =>
        layer.backup.bind fun backup => (edited.layers.get? backup).bind fun stored =>
          stored.volume.bind fun volume =>
            ((updateImage .willing "i" (.backup ∅)).run emptied).2.world.registry.allocated?
              volume) = some false := by decide +kernel
  rcases hBackup : (updateImage .willing "i" (.backup ∅)).run emptied with ⟨failure | out, after⟩
  · rw [hBackup] at hDone
    cases hDone
  · rw [hBackup] at hChain hStorage
    obtain ⟨edited, hEdited, hNames⟩ := Option.map_eq_some_iff.1 hChain
    refine ⟨hRun, hNew, after, out, edited, rfl, hEdited, by rw [hNames]; decide, ?_⟩
    rintro ⟨volume, ⟨layer, backup, stored, hLayer, hPoints, -, hStored, hVolume⟩, hHeld⟩
    simp only [hEdited, hLayer, hPoints, hStored, hVolume, hHeld, Option.bind_some] at hStorage
    cases hStorage

end Engine

end DiskFleet
