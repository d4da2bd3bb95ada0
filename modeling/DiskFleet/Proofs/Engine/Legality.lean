import DiskFleet.Proofs.Engine.Teardown
import DiskFleet.Proofs.Image.Legality

/-!
# Which commands are legal

Five commands name a layer, and each of them has its own conditions on it. For an image of the
engine the conditions come down to three: the layer is known, it is the top of the chain or outside
of it, and its volume holds no storage. A command that does not meet them is refused with the engine
exactly as it was, without a call and without a fresh id.

## Main results

* `Engine.layer_commands_legal`: the commands and their conditions.
-/

namespace DiskFleet

namespace ImageCommand

/-- The command makes or frees the storage of one layer. -/
def AimsAt (target : String) : ImageCommand → Prop
  | .create aim _ | .destroy aim _ => aim = some target
  | _ => False

/-- The command brings in a layer of a name. -/
def BringsIn (target : String) : ImageCommand → Prop
  | .add args => args.target = target
  | .rebase args => args.target = target
  | _ => False

end ImageCommand

namespace Engine

variable {σ : Type} {agent : Agent σ} {engine : Engine σ} {id target : String} {image : Image}

/-- A target that the document refuses. -/
theorem run_updateImage_of_untargeted {command : ImageCommand} {failure : Failure}
    (hImage : engine.images.get? id = some image) (hAims : command.AimsAt target)
    (hRefused : ∀ every, image.targets (some target) every = .error failure) :
    (updateImage agent id command).run engine = (.error failure, engine) := by
  apply run_updateImage_of_unchanged hImage
  cases command with
  | create aim extra =>
      obtain rfl : aim = some target := hAims
      exact Session.run_create_of_untargeted agent extra (hRefused false)
  | destroy aim extra =>
      obtain rfl : aim = some target := hAims
      exact Session.run_destroy_of_untargeted agent (hRefused true)
  | _ => exact hAims.elim

/-- A name that is taken. -/
theorem run_updateImage_of_taken {command : ImageCommand}
    (hImage : engine.images.get? id = some image) (hBrings : command.BringsIn target)
    (hTaken : image.layers.contains target = true) :
    (updateImage agent id command).run engine =
      (.error (.illegalTransition (.layerExists target image.idText)), engine) := by
  apply run_updateImage_of_unchanged hImage
  cases command with
  | add args =>
      obtain rfl : args.target = target := hBrings
      exact Session.run_add_of_taken agent engine.settings args hTaken
  | rebase args =>
      obtain rfl : args.target = target := hBrings
      exact Session.run_rebase_of_taken agent engine.settings args hTaken
  | _ => exact hBrings.elim

/-- **The commands for a layer of a name.** `create` and `destroy` are refused if there is no such
layer or it is covered by others, `add` and `rebase` if there is one. `remove` succeeds exactly if
there is one that holds no storage and is outside the chain or the top of a chain of at least two.
Whatever is refused leaves the engine as it was, with no agent called, and a layer that is taken off
takes its volume along and nothing else. -/
theorem layer_commands_legal (agent : Agent σ) (hOwned : engine.Owned)
    (hImage : engine.images.get? id = some image) (target : String) :
    (∀ command : ImageCommand, command.AimsAt target →
      (image.layers.get? target = none →
        (updateImage agent id command).run engine =
          (.error (.layerNotFound image.idText target), engine)) ∧
      (target ∈ image.topology.names → image.topology.top? ≠ some target →
        (updateImage agent id command).run engine =
          (.error (.illegalTransition (.notTop target image.idText)), engine))) ∧
    (∀ command : ImageCommand, command.BringsIn target → image.layers.contains target = true →
      (updateImage agent id command).run engine =
        (.error (.illegalTransition (.layerExists target image.idText)), engine)) ∧
    ((∃ out after, (updateImage agent id (.remove target)).run engine = (.ok out, after)) ↔
      ∃ layer volume, image.layers.get? target = some layer ∧ layer.volume = some volume ∧
        engine.world.registry.allocated? volume = some false ∧
        (target ∉ image.topology.names ∨
          image.topology.top? = some target ∧ 2 ≤ image.topology.names.length)) ∧
    (∀ out after, (updateImage agent id (.remove target)).run engine = (.ok out, after) →
      after.world = engine.world.withoutAll (image.volumesOf [target])) ∧
    ∀ failure after, (updateImage agent id (.remove target)).run engine = (.error failure, after) →
      after = engine ∧
        (image.layers.get? target = none ∧ failure = .layerNotFound image.idText target ∨
          image.layers.contains target = true ∧ ∃ reason, failure = .illegalTransition reason) := by
  have hFormed := hOwned.wellFormed hImage
  have hRemovable : image.Removable engine.world.registry target ↔
      ∃ layer volume, image.layers.get? target = some layer ∧ layer.volume = some volume ∧
        engine.world.registry.allocated? volume = some false ∧
        (target ∉ image.topology.names ∨
          image.topology.top? = some target ∧ 2 ≤ image.topology.names.length) := by
    constructor
    · rintro ⟨hDetachable, layer, volume, hLayer, hVolume, hFree⟩
      exact ⟨layer, volume, hLayer, hVolume, hFree, hDetachable⟩
    · rintro ⟨layer, volume, hLayer, hVolume, hFree, hDetachable⟩
      exact ⟨hDetachable, layer, volume, hLayer, hVolume, hFree⟩
  refine ⟨fun command hAims => ⟨fun hUnknown => ?_, fun hMem hCovered => ?_⟩,
    fun command hBrings hTaken => run_updateImage_of_taken hImage hBrings hTaken, ?_⟩
  · exact run_updateImage_of_untargeted hImage hAims fun every =>
      Image.targets_of_unknown every hUnknown
  · exact run_updateImage_of_untargeted hImage hAims fun every =>
      Image.targets_of_covered every hFormed hMem hCovered
  · rw [← hRemovable]
    by_cases hLegal : image.Removable engine.world.registry target
    · obtain ⟨edited, hRemove, -⟩ :=
        @Session.run_remove_of_removable σ ⟨image, engine.world⟩ target hFormed hOwned.sound hLegal
      have hRun := run_updateImage_of_found agent (.remove target) hImage
      rw [Session.update, hRemove] at hRun
      rw [hRun]
      refine ⟨iff_of_true ⟨_, _, rfl⟩ hLegal, fun out after hOk => ?_,
        fun failure after hFailed => ?_⟩
      · cases hOk
        rfl
      · cases hFailed
    · have hHeld : ∃ failure, (Session.remove target).run ⟨image, engine.world⟩ =
            (.error failure, ⟨image, engine.world⟩) ∧
          (image.layers.get? target = none ∧ failure = .layerNotFound image.idText target ∨
            image.layers.contains target = true ∧ ∃ reason, failure = .illegalTransition reason) :=
        Session.run_remove_of_held hFormed (hOwned.made hImage) (hOwned.registered hImage) hLegal
      obtain ⟨failure, hRemove, hWhy⟩ := hHeld
      have hRun : (updateImage agent id (.remove target)).run engine = (.error failure, engine) :=
        run_updateImage_of_unchanged hImage hRemove
      rw [hRun]
      refine ⟨iff_of_false ?_ hLegal, fun out after hOk => ?_, fun other after hFailed => ?_⟩
      · rintro ⟨out, after, hOk⟩
        cases hOk
      · cases hOk
      · cases hFailed
        exact ⟨rfl, hWhy⟩

/-- A chain whose top holds storage, and a layer beside it. -/
def sideLayered : Engine Unit :=
  halfMade.after .willing
    (.updateImage "i" (.add ⟨"side", .ofList [("image_size", "10")], false, []⟩))

/-- The base is covered, the top holds storage, the layer beside them can go, and no other layer is
known. -/
theorem layer_commands_legal_sideLayered :
    sideLayered.Owned ∧ ∃ image, sideLayered.images.get? "i" = some image ∧
      image.topology.names = ["base", "top"] ∧ image.layers.keys = ["base", "top", "side"] ∧
      (updateImage .willing "i" (.create (some "base") ∅)).run sideLayered =
        (.error (.illegalTransition (.notTop "base" image.idText)), sideLayered) ∧
      (updateImage .willing "i" (.destroy (some "other") ∅)).run sideLayered =
        (.error (.layerNotFound image.idText "other"), sideLayered) ∧
      (updateImage .willing "i" (.rebase ⟨"side", .empty, [], ∅⟩)).run sideLayered =
        (.error (.illegalTransition (.layerExists "side" image.idText)), sideLayered) ∧
      (∃ out after,
        (updateImage .willing "i" (.remove "side")).run sideLayered = (.ok out, after)) ∧
      ∃ failure, (updateImage .willing "i" (.remove "top")).run sideLayered =
        (.error failure, sideLayered) := by
  have hOwned : sideLayered.Owned := by
    have hMade : Run .willing Operation.Careful smallest halfMade := .of_list careful_makingTop
    have hRun : Run .willing Operation.Careful smallest sideLayered := by
      refine hMade.step ?_
      exact ⟨trivial, nofun⟩
    exact .of_run (vacant_vacant _ _ _ _) Supply.strokes_distinct hRun
  cases hImage : sideLayered.images.get? "i" with
  | none =>
      have hMade : (sideLayered.images.get? "i").isSome = true := by decide +kernel
      rw [hImage] at hMade
      cases hMade
  | some image =>
      have hSeen : (sideLayered.images.get? "i").map (fun image =>
          (image.topology.names, image.layers.keys)) =
            some (["base", "top"], ["base", "top", "side"]) := by decide +kernel
      rw [hImage] at hSeen
      obtain ⟨hNames, hKeys⟩ := Prod.mk.inj (Option.some.inj hSeen)
      have hHeld : ((updateImage .willing "i" (.remove "top")).run sideLayered).1.toOption.isNone =
          true := by decide +kernel
      have hGone : ((updateImage .willing "i" (.remove "side")).run sideLayered).1.toOption.isSome =
          true := by decide +kernel
      refine ⟨hOwned, image, rfl, hNames, hKeys, ?_, ?_, ?_, ?_, ?_⟩
      · refine ((layer_commands_legal .willing hOwned hImage "base").1 (.create _ ∅) rfl).2 ?_ ?_
        · rw [hNames]
          decide
        · rw [Topology.top?, hNames]
          decide
      · refine ((layer_commands_legal .willing hOwned hImage "other").1 (.destroy _ ∅) rfl).1 ?_
        cases hOther : image.layers.get? "other" with
        | none => rfl
        | some layer =>
            have hMem := (Table.contains_iff_mem_keys image.layers "other").1
              (by rw [Table.contains, hOther]; rfl)
            rw [hKeys] at hMem
            exact absurd hMem (by decide)
      · refine (layer_commands_legal .willing hOwned hImage "side").2.1 _ rfl ?_
        rw [Table.contains_iff_mem_keys, hKeys]
        decide
      · rcases hRun : (updateImage .willing "i" (.remove "side")).run sideLayered with
          ⟨failure | out, after⟩
        · rw [hRun] at hGone
          cases hGone
        · exact ⟨out, after, rfl⟩
      · rcases hRun : (updateImage .willing "i" (.remove "top")).run sideLayered with
          ⟨failure | out, after⟩
        · have hLegal := (layer_commands_legal .willing hOwned hImage "top").2.2.2.2
          exact ⟨failure, congrArg (Prod.mk _) (hLegal failure after hRun).1⟩
        · rw [hRun] at hHeld
          cases hHeld

end Engine

end DiskFleet
