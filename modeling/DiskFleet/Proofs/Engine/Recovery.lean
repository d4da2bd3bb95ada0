import DiskFleet.Proofs.Engine.Ownership
import DiskFleet.Proofs.Image.Backup

/-!
# Commands that fail half-way

A command for an image consists of many calls, and each of them can fail when others have succeeded.
What the engine does then is to take back what the command did so far. As long as the agents accept
releases, and whatever else they refuse, this leaves nothing behind: `create` makes storage for all
of its targets or leaves it where it was, and a `rebase` or a `backup` that fails is undone as a
whole if the recovery setting says so.

## Main results

* `create_all_or_nothing`: storage after `create`;
* `rebase_all_or_nothing`, `backup_all_or_nothing`: the images and the registry after a `rebase` or
  a `backup` that failed.
-/

namespace DiskFleet

/-- Agents that refuse a method or an image command and accept everything else. -/
def Agent.refusingTo (name : String) : Agent Unit := fun memory call =>
  (.ok (if call.isOf name then .failed 1 "no space" else .succeeded .null), memory)

/-- They accept releases, if that is not what they refuse. -/
theorem Agent.frees_refusingTo {name : String} (h : name ≠ "release") :
    (Agent.refusingTo name).Frees := by
  intro memory call hService hMethod
  have hOther : call.isOf name = false := by
    have hNotImage : Call.resourceService ≠ Call.imageService := by decide
    have hNoCommand : call.command? = none := by
      rw [Call.command?, if_neg (hService ▸ hNotImage)]
    rw [Call.isOf, hNoCommand, hMethod]
    simpa using h.symm
  refine ⟨.succeeded .null, ?_, rfl⟩
  simp only [refusingTo, hOther, Bool.false_eq_true, if_false]

namespace Engine

variable {σ : Type} {agent : Agent σ} {engine after : Engine σ} {id : String} {image : Image}

/-- In every reachable state the volumes are owned. -/
theorem Owned.of_run {start : Engine σ} (hVacant : start.Vacant)
    (hDistinct : start.world.supply.Distinct)
    (hRun : Run agent Operation.Careful start engine) : engine.Owned := by
  induction hRun with
  | start => exact hVacant.owned hDistinct
  | step _ hCareful ih => exact ih.after agent hCareful

/-- A command for a registered image works on its document, which is put back. -/
theorem run_updateImage_of_found (agent : Agent σ) (command : ImageCommand)
    (hImage : engine.images.get? id = some image) :
    (updateImage agent id command).run engine =
      (((Session.update agent engine.settings command).run ⟨image, engine.world⟩).1,
        { engine with
          world :=
            ((Session.update agent engine.settings command).run ⟨image, engine.world⟩).2.world
          images := engine.images.insert id
            ((Session.update agent engine.settings command).run
              ⟨image, engine.world⟩).2.image }) := by
  rw [updateImage, Owned.run_find_bind, hImage]
  rfl

/-- A command that leaves the document as it is leaves all images as they are. -/
theorem run_updateImage_of_unchanged {command : ImageCommand} {result : Except Failure Json}
    {world : World σ} (hImage : engine.images.get? id = some image)
    (hRun : (Session.update agent engine.settings command).run ⟨image, engine.world⟩ =
      (result, ⟨image, world⟩)) :
    (updateImage agent id command).run engine = (result, { engine with world }) := by
  rw [run_updateImage_of_found agent command hImage, hRun, Table.insert_of_get? hImage]

/-- What holds of the world before a command and after all work it can do on a document that it
leaves as it is, holds after the command, and all images are as they were. -/
theorem updateImage_leaves {P : World σ → Prop} {command : ImageCommand}
    {result : Except Failure Json}
    (hRun : (updateImage agent id command).run engine = (result, after)) (hStart : P engine.world)
    (hWork : ∀ {image edited world}, engine.images.get? id = some image →
      (Session.update agent engine.settings command).run ⟨image, engine.world⟩ =
        (result, ⟨edited, world⟩) → edited = image ∧ P world) :
    after.images = engine.images ∧ P after.world := by
  cases hImage : engine.images.get? id with
  | none =>
      rw [updateImage, Owned.run_find_bind, hImage] at hRun
      cases hRun
      exact ⟨rfl, hStart⟩
  | some image =>
      rcases hUpdate : (Session.update agent engine.settings command).run ⟨image, engine.world⟩ with
        ⟨ended, ⟨edited, world⟩⟩
      rw [run_updateImage_of_found agent command hImage, hUpdate] at hRun
      cases hRun
      obtain ⟨hSame, hWorld⟩ := hWork hImage hUpdate
      obtain rfl : edited = image := hSame
      exact ⟨Table.insert_of_get? hImage, hWorld⟩

/-! ## A chain of two layers -/

/-- Its image can be made at any time. -/
theorem careful_createImage_chain (engine : Engine Unit) :
    (Operation.createImage (chainImage "base top")).Careful engine := by
  have hDefine : pooled.defineImage "disk" (chainParams "base top") =
      .ok (chainImage "base top") := by rfl
  exact ⟨⟨pooled, "disk", chainParams "base top", by decide +kernel, hDefine⟩, trivial⟩

/-- How it is made, and its top gets storage. -/
def makingTop : List Operation :=
  [.createPool volumePool, .createImage (chainImage "base top"),
    .updateImage "i" (.create (some "top") ∅)]

theorem careful_makingTop (engine : Engine Unit) :
    ∀ operation ∈ makingTop, operation.Careful engine := by
  intro operation hOperation
  simp only [makingTop, List.mem_cons, List.not_mem_nil, or_false] at hOperation
  rcases hOperation with rfl | rfl | rfl
  · exact ⟨trivial, trivial⟩
  · exact careful_createImage_chain engine
  · exact ⟨trivial, nofun⟩

/-- The smallest engine with it. -/
def halfMade : Engine Unit := makingTop.foldl (Engine.after .willing) smallest

/-- An engine with it that takes back what failed. -/
def cleanHalfMade : Engine Unit := makingTop.foldl (Engine.after .willing) cleaning

/-! ## Create -/

/-- **Making the storage of an image is all or nothing.** If `create` fails, every resource holds
storage exactly if it did before. If it answers, the volume of every targeted layer holds storage,
and every other resource holds storage exactly if it did before. The images stay as they are. -/
theorem create_all_or_nothing {target : Option String} {extra : Arguments}
    {result : Except Failure Json} (hFrees : agent.Frees)
    (hImage : engine.images.get? id = some image) (hWellFormed : image.WellFormed)
    (hRun : (updateImage agent id (.create target extra)).run engine = (result, after)) :
    after.images = engine.images ∧
    (∀ failure, result = .error failure → ∀ resource,
      after.world.registry.allocated? resource = engine.world.registry.allocated? resource) ∧
    ∀ out, result = .ok out →
      (∀ name, Session.Targeted image target name → ∃ layer volume,
        image.layers.get? name = some layer ∧ layer.volume = some volume ∧
        after.world.registry.allocated? volume = some true) ∧
      ∀ resource, (∀ name layer, Session.Targeted image target name →
          image.layers.get? name = some layer → layer.volume ≠ some resource) →
        after.world.registry.allocated? resource =
          engine.world.registry.allocated? resource := by
  rcases Session.run_create_cases hFrees (fun _ => hWellFormed.stored) target extra
      engine.world with
    ⟨failure, world, hFailed, hSame⟩ | ⟨out, world, hDone, hHeld, hSame⟩
  · have hRan : (updateImage agent id (.create target extra)).run engine =
        (.error failure, { engine with world }) := run_updateImage_of_unchanged hImage hFailed
    obtain ⟨rfl, rfl⟩ := Prod.mk.inj (hRan.symm.trans hRun)
    exact ⟨rfl, fun _ _ => hSame, nofun⟩
  · have hRan : (updateImage agent id (.create target extra)).run engine =
        (.ok out, { engine with world }) := run_updateImage_of_unchanged hImage hDone
    obtain ⟨rfl, rfl⟩ := Prod.mk.inj (hRan.symm.trans hRun)
    refine ⟨rfl, nofun, fun _ _ => ⟨fun name hTargeted => ?_, fun resource hOther => ?_⟩⟩
    · obtain ⟨volume, ⟨layer, hLayer, hVolume⟩, hAllocated⟩ := hHeld name hTargeted
      exact ⟨layer, volume, hLayer, hVolume, hAllocated⟩
    · refine hSame resource fun name hTargeted hVolume => ?_
      obtain ⟨layer, hLayer, hVolume⟩ := hVolume
      exact hOther name layer hTargeted hLayer hVolume

/-- The other layer gets storage too, but the agents refuse to lay out the image. -/
def refusedCreate : Except Failure Json × Engine Unit :=
  (updateImage (.refusingTo "create") "i" (.create none ∅)).run halfMade

/-- The volume of the base, which was allocated for it, is released, and that of the top stays
allocated. -/
theorem create_all_or_nothing_refused :
    (Agent.refusingTo "create").Frees ∧ halfMade.Owned ∧
    ∃ after failure, refusedCreate = (.error failure, after) ∧
      (after.world.link.history.drop halfMade.world.link.history.length).map (·.call.method) =
        ["allocate", "update_image", "release"] ∧
      halfMade.world.registry.allocated? "ii" = some false ∧
      halfMade.world.registry.allocated? "iiii" = some true ∧
      after.images = halfMade.images ∧
      ∀ resource, after.world.registry.allocated? resource =
        halfMade.world.registry.allocated? resource := by
  have hFrees : (Agent.refusingTo "create").Frees := Agent.frees_refusingTo (by decide)
  have hOwned : halfMade.Owned :=
    .of_run (vacant_vacant _ _ _ _) Supply.strokes_distinct (.of_list careful_makingTop)
  have hStored : (halfMade.images.get? "i").isSome = true := by decide +kernel
  have hFailed : refusedCreate.1.toOption.isNone = true := by decide +kernel
  have hMethods : (refusedCreate.2.world.link.history.drop
      halfMade.world.link.history.length).map (·.call.method) =
        ["allocate", "update_image", "release"] := by decide +kernel
  obtain ⟨image, hImage⟩ := Option.isSome_iff_exists.1 hStored
  rcases hRun : refusedCreate with ⟨failure | out, after⟩
  · rw [hRun] at hMethods
    obtain ⟨hImages, hSame, -⟩ :=
      create_all_or_nothing hFrees hImage (hOwned.wellFormed hImage) hRun
    exact ⟨hFrees, hOwned, after, failure, rfl, hMethods, by decide +kernel, by decide +kernel,
      hImages, hSame failure rfl⟩
  · rw [hRun] at hFailed
    cases hFailed

/-! ## Rebase -/

/-- **A rebase under rollback is all or nothing.** If it fails, every image, every pool, every
resource and the index are exactly what they were before. -/
theorem rebase_all_or_nothing {args : RebaseArguments} {failure : Failure}
    (hFrees : agent.Frees) (hOwned : engine.Owned)
    (hRollback : engine.settings.recovery = .rollback)
    (hRun : (updateImage agent id (.rebase args)).run engine = (.error failure, after)) :
    after.images = engine.images ∧ after.world.registry = engine.world.registry := by
  cases hImage : engine.images.get? id with
  | none =>
      rw [updateImage, Owned.run_find_bind, hImage] at hRun
      cases hRun
      exact ⟨rfl, rfl⟩
  | some image =>
      rcases hRebase : (Session.rebase agent engine.settings args).run ⟨image, engine.world⟩ with
        ⟨result, ⟨edited, world⟩⟩
      rw [run_updateImage_of_found agent _ hImage, Session.update, hRebase] at hRun
      cases hRun
      obtain ⟨hSame, hRegistry⟩ :=
        Session.rebase_undone hFrees (hOwned.wellFormed hImage) hOwned.sound hRollback hRebase
      obtain rfl : edited = image := hSame
      exact ⟨Table.insert_of_get? hImage, hRegistry⟩

/-- A layer is put over the top, but the agents refuse to tie it to that. -/
def refusedRebase : Except Failure Json × Engine Unit :=
  (updateImage (.refusingTo "rebase") "i"
    (.rebase ⟨"new", .ofList [("image_size", "10")], [], ∅⟩)).run cleanHalfMade

/-- The volume of the new layer, which was made and allocated for it, is released and gone. -/
theorem rebase_all_or_nothing_refused :
    (Agent.refusingTo "rebase").Frees ∧ cleanHalfMade.Owned ∧
    cleanHalfMade.settings.recovery = .rollback ∧
    ∃ after failure, refusedRebase = (.error failure, after) ∧
      (after.world.link.history.drop cleanHalfMade.world.link.history.length).map
        (·.call.method) = ["allocate", "update_image", "update_image", "release"] ∧
      after.images = cleanHalfMade.images ∧
      after.world.registry = cleanHalfMade.world.registry := by
  have hFrees : (Agent.refusingTo "rebase").Frees := Agent.frees_refusingTo (by decide)
  have hOwned : cleanHalfMade.Owned :=
    .of_run (vacant_vacant _ _ _ _) Supply.strokes_distinct (.of_list careful_makingTop)
  have hRollback : cleanHalfMade.settings.recovery = .rollback := by decide +kernel
  have hFailed : refusedRebase.1.toOption.isNone = true := by decide +kernel
  have hMethods : (refusedRebase.2.world.link.history.drop
      cleanHalfMade.world.link.history.length).map (·.call.method) =
        ["allocate", "update_image", "update_image", "release"] := by decide +kernel
  rcases hRun : refusedRebase with ⟨failure | out, after⟩
  · rw [hRun] at hMethods
    obtain ⟨hImages, hRegistry⟩ := rebase_all_or_nothing hFrees hOwned hRollback hRun
    exact ⟨hFrees, hOwned, hRollback, after, failure, rfl, hMethods, hImages, hRegistry⟩
  · rw [hRun] at hFailed
    cases hFailed

/-! ## Backup -/

/-- **A backup under rollback is all or nothing.** If it fails, every image with its layers and
their backups, every pool, every resource and the index are exactly what they were before. -/
theorem backup_all_or_nothing {args : Arguments} {failure : Failure} (hFrees : agent.Frees)
    (hOwned : engine.Owned) (hNew : engine.BackupsNew id)
    (hRollback : engine.settings.recovery = .rollback)
    (hRun : (updateImage agent id (.backup args)).run engine = (.error failure, after)) :
    after.images = engine.images ∧ after.world.registry = engine.world.registry := by
  refine updateImage_leaves (P := fun world => world.registry = engine.world.registry) hRun rfl ?_
  intro image edited world hImage hBackup
  have hFree : Session.BackupsNew
      (engine.world.supply.nextSuffix engine.settings.suffixLength) image := hNew image hImage
  exact Session.backup_undone hFrees (hOwned.wellFormed hImage) hOwned.sound hRollback hBackup hFree

/-- Two more layers over a chain that was backed up. -/
def grownSinceBackup : Engine Unit :=
  ((cleanHalfMade.after .willing (.backupImage "i")).after .willing
    (.updateImage "i" (.rebase ⟨"new", .ofList [("image_size", "10")], [], ∅⟩))).after .willing
      (.updateImage "i" (.rebase ⟨"newer", .ofList [("image_size", "10")], [], ∅⟩))

/-- The chain is backed up again, but the agents refuse to copy the data. -/
def refusedBackup : Except Failure Json × Engine Unit :=
  (updateImage (.refusingTo "backup") "i" (.backup ∅)).run grownSinceBackup

/-- The backups of the two new layers, whose volumes were made and allocated, are gone, and those of
the two older ones are still there. -/
theorem backup_all_or_nothing_refused :
    (Agent.refusingTo "backup").Frees ∧ grownSinceBackup.Owned ∧
    grownSinceBackup.BackupsNew "i" ∧ grownSinceBackup.settings.recovery = .rollback ∧
    grownSinceBackup.images.values.map (fun image => image.layers.entries.map fun entry =>
      (entry.1, entry.2.backup)) =
        [[("base", some "base_backup_oooooooo"), ("top", some "top_backup_oooooooo"),
          ("base_backup_oooooooo", none), ("top_backup_oooooooo", none), ("new", none),
          ("newer", none)]] ∧
    ∃ after failure, refusedBackup = (.error failure, after) ∧
      (after.world.link.history.drop grownSinceBackup.world.link.history.length).map
        (·.call.method) = ["allocate", "allocate", "update_image", "release", "release"] ∧
      after.images = grownSinceBackup.images ∧
      after.world.registry = grownSinceBackup.world.registry := by
  have hFrees : (Agent.refusingTo "backup").Frees := Agent.frees_refusingTo (by decide)
  have hMade : Run .willing Operation.Careful cleaning cleanHalfMade := .of_list careful_makingTop
  have hBackedUp : cleanHalfMade.BackupsNew "i" := by
    unfold BackupsNew Session.BackupsNew
    decide +kernel
  have hGrown : Run .willing Operation.Careful cleaning grownSinceBackup := by
    refine ((hMade.step ?_).step ?_).step ?_
    · exact ⟨trivial, hBackedUp⟩
    · exact ⟨trivial, nofun⟩
    · exact ⟨trivial, nofun⟩
  have hOwned : grownSinceBackup.Owned :=
    .of_run (vacant_vacant _ _ _ _) Supply.strokes_distinct hGrown
  have hNew : grownSinceBackup.BackupsNew "i" := by
    unfold BackupsNew Session.BackupsNew
    decide +kernel
  have hRollback : grownSinceBackup.settings.recovery = .rollback := by decide +kernel
  have hLayers : grownSinceBackup.images.values.map (fun image => image.layers.entries.map
      fun entry => (entry.1, entry.2.backup)) =
        [[("base", some "base_backup_oooooooo"), ("top", some "top_backup_oooooooo"),
          ("base_backup_oooooooo", none), ("top_backup_oooooooo", none), ("new", none),
          ("newer", none)]] := by decide +kernel
  have hFailed : refusedBackup.1.toOption.isNone = true := by decide +kernel
  have hMethods : (refusedBackup.2.world.link.history.drop
      grownSinceBackup.world.link.history.length).map (·.call.method) =
        ["allocate", "allocate", "update_image", "release", "release"] := by decide +kernel
  rcases hRun : refusedBackup with ⟨failure | out, after⟩
  · rw [hRun] at hMethods
    obtain ⟨hImages, hRegistry⟩ := backup_all_or_nothing hFrees hOwned hNew hRollback hRun
    exact ⟨hFrees, hOwned, hNew, hRollback, hLayers, after, failure, rfl, hMethods, hImages,
      hRegistry⟩
  · rw [hRun] at hFailed
    cases hFailed

end Engine

end DiskFleet
