import DiskFleet.Proofs.Engine.Cloning
import DiskFleet.Proofs.Image.Rebased

/-!
# Layers put on

A layer can be put on an image by `add`, beside the chain or on top, and by `rebase`, which makes
its storage too. Both are told here as a client sees them: what becomes of the images and the
registry, and what the agents receive.

## Main results

* `add_undone_by_remove`: a layer that was added and removed again leaves no trace;
* `rebase_puts_on_top`: what there is after a rebase that goes through, and the three calls that it
  takes.
-/

namespace DiskFleet

namespace Engine

variable {σ : Type} {agent : Agent σ} {engine after : Engine σ} {id : String} {image : Image}

/-! ## Put on and taken off -/

/-- **Adding a layer is undone by removing it**, in any reachable state, for a layer of the chain and
for one beside it: the removal is let through, and then the images and the registry are what they
were before the layer was added. -/
theorem add_undone_by_remove {start : Engine σ} (hVacant : start.Vacant)
    (hDistinct : start.world.supply.Distinct) (hRun : Run agent (fun _ _ => True) start engine)
    (hImage : engine.images.get? id = some image) (hFormed : image.WellFormed)
    {adder : Agent σ} {args : AddArguments} {out : Json} {added : Engine σ}
    (hAdd : (updateImage adder id (.add args)).run engine = (.ok out, added))
    (remover : Agent σ) :
    ∃ after, (updateImage remover id (.remove args.target)).run added = (.ok .null, after) ∧
      after.images = engine.images ∧ after.world.registry = engine.world.registry := by
  have hSound : engine.world.Sound := (Numbered.of_run hVacant hDistinct hRun).sound
  rcases hDone : (Session.add adder engine.settings args).run ⟨image, engine.world⟩ with
    ⟨result, ⟨edited, world⟩⟩
  rw [run_updateImage_of_found adder _ hImage, Session.update, hDone] at hAdd
  cases hAdd
  have hRemove : (Session.remove args.target).run ⟨edited, world⟩ =
      (.ok .null, ⟨image, { world with registry := engine.world.registry }⟩) :=
    Session.run_remove_of_add hFormed hSound hDone
  have hEdited : (engine.images.insert id edited).get? id = some edited :=
    (Table.get?_insert _ _ _ _).trans (if_pos rfl)
  refine ⟨{ engine with world := { world with registry := engine.world.registry } }, ?_, rfl, rfl⟩
  rw [run_updateImage_of_found remover _ hEdited, Session.update, hRemove, Table.insert_insert,
    Table.insert_of_get? hImage]

/-- An engine with an image of a single layer. -/
def singleLayered : Engine Unit :=
  pooled.after .willing (.createImage (chainImage "base"))

/-- A layer that makes a chain of a single layer, and one beside it. -/
theorem add_undone_by_remove_singleLayered :
    smallest.Vacant ∧ smallest.world.supply.Distinct ∧
    Run .willing (fun _ _ => True) smallest singleLayered ∧
    ∃ image, singleLayered.images.get? "i" = some image ∧
      image.topology = .single ["base"] ∧ image.WellFormed ∧
      ∀ chained, ∃ out added after,
        (updateImage .willing "i" (.add ⟨"new", .ofList [("image_size", "10")], chained, []⟩)).run
          singleLayered = (.ok out, added) ∧
        (added.images.get? "i").map (·.topology) =
          some (if chained then .chain ["base", "new"] else .single ["base"]) ∧
        (updateImage .willing "i" (.remove "new")).run added = (.ok .null, after) ∧
        after.images = singleLayered.images ∧
        after.world.registry = singleLayered.world.registry := by
  have hVacant : smallest.Vacant := vacant_vacant _ _ _ _
  have hRun : Run .willing (fun _ _ => True) smallest singleLayered :=
    (Run.start.step trivial).step trivial
  have hDefine : pooled.defineImage "disk" (chainParams "base") = .ok (chainImage "base") := by rfl
  have hCareful : Run .willing Operation.Careful smallest singleLayered :=
    (Run.start.step ⟨trivial, trivial⟩).step
      ⟨⟨pooled, "disk", chainParams "base", by decide +kernel, hDefine⟩, trivial⟩
  have hOwned : singleLayered.Owned := .of_run hVacant Supply.strokes_distinct hCareful
  have hNames : (singleLayered.images.get? "i").map (·.topology) = some (.single ["base"]) := by
    decide +kernel
  obtain ⟨image, hImage, hSingle⟩ := Option.map_eq_some_iff.1 hNames
  have hFormed : image.WellFormed := hOwned.wellFormed hImage
  refine ⟨hVacant, Supply.strokes_distinct, hRun, image, hImage, hSingle, hFormed, fun chained => ?_⟩
  have hAdded : ∀ chained, ((updateImage .willing "i"
      (.add ⟨"new", .ofList [("image_size", "10")], chained, []⟩)).run singleLayered).1.toOption.isSome
        = true := by decide +kernel
  have hTopology : ∀ chained, (((updateImage .willing "i"
      (.add ⟨"new", .ofList [("image_size", "10")], chained, []⟩)).run
        singleLayered).2.images.get? "i").map (·.topology) =
          some (if chained then .chain ["base", "new"] else .single ["base"]) := by decide +kernel
  have hAdded := hAdded chained
  have hTopology := hTopology chained
  rcases hAdd : (updateImage .willing "i"
      (.add ⟨"new", .ofList [("image_size", "10")], chained, []⟩)).run singleLayered with
    ⟨failure | out, added⟩
  · rw [hAdd] at hAdded
    cases hAdded
  · rw [hAdd] at hTopology
    obtain ⟨after, hRemove, hImages, hRegistry⟩ :=
      add_undone_by_remove hVacant Supply.strokes_distinct hRun hImage hFormed hAdd .willing
    exact ⟨out, added, after, rfl, hTopology, hRemove, hImages, hRegistry⟩

/-! ## A new top -/

/-- **A rebase that goes through puts a layer over the top**, in any reachable state. The layer is on
top of the old chain, backed by the old top, and stands on a new volume that holds storage; every
other layer, image and resource is as it was. The agents received three calls: to allocate that
volume, to lay out the layer, and to tie it, with all that the command was given besides. Of its own
`source` and `target` nothing is handed on. -/
theorem rebase_puts_on_top {start : Engine σ} (hVacant : start.Vacant)
    (hDistinct : start.world.supply.Distinct) (hRun : Run agent (fun _ _ => True) start engine)
    (hImage : engine.images.get? id = some image) (hFormed : image.WellFormed) {source : String}
    (hTop : image.topology.top? = some source) {rebaser : Agent σ} {args : RebaseArguments}
    {out : Json} (hRebase : (updateImage rebaser id (.rebase args)).run engine = (.ok out, after)) :
    ∃ layer volume forwarded,
      image.layers.contains args.target = false ∧
      engine.world.registry.resource? volume = none ∧
      after.images = engine.images.insert id { image with
        name := args.target
        topology := .chain (image.topology.names ++ [args.target])
        layers := image.layers.insert args.target layer } ∧
      layer.name = args.target ∧ layer.backing = some source ∧ layer.volume = some volume ∧
      after.world.registry.allocated? volume = some true ∧
      after.world.registry.without volume = engine.world.registry ∧
      engine.world.link.Received after.world.link [.allocate volume,
        .image "create" (.obj [("target", .str args.target)]),
        .image "rebase" (Arguments.toJson forwarded)] ∧
      ∀ key, forwarded.get? key =
        if key = "target" then some (.str args.target)
        else if key = "source" then some (.str source) else args.extra.get? key := by
  have hSound : engine.world.Sound := (Numbered.of_run hVacant hDistinct hRun).sound
  obtain rfl : image.name = source := Option.some.inj (hFormed.top.symm.trans hTop)
  rcases hDone : (Session.rebase rebaser engine.settings args).run ⟨image, engine.world⟩ with
    ⟨result, ⟨edited, world⟩⟩
  rw [run_updateImage_of_found rebaser _ hImage, Session.update, hDone] at hRebase
  cases hRebase
  obtain ⟨made, hNew, hMade, hEdited, hOthers, hHeld, hReceived⟩ :=
    Session.of_run_rebase hFormed hSound hDone
  obtain rfl : edited = image.stacked args.target made := hEdited
  obtain ⟨forwarded, hSame, hMembers⟩ :=
    Session.rebaseArguments_eq args.extra image.name args.target
  have hChain : image.topology.pushed args.target =
      .chain (image.topology.names ++ [args.target]) := by
    have hPositive := List.length_pos_iff.2 hFormed.nonempty
    exact if_pos (by rw [List.length_append, List.length_singleton]; omega)
  refine ⟨{ made with backing := some image.name }, engine.world.supply.nextId, forwarded, hNew,
    Registry.resource?_of_not_owned hSound.owners_nextId, ?_, hMade.name, rfl, hMade.volume, hHeld,
    hOthers, hSame ▸ hReceived, hMembers⟩
  rw [← hChain]
  rfl

/-- What a client asks for that names a source of its own. -/
def rebaseFromElsewhere : RebaseArguments :=
  ⟨"new", .ofList [("image_size", "10")], [],
    .ofList [("source", .str "elsewhere"), ("force", .bool true)]⟩

/-- The new layer is backed by the old top all the same. -/
theorem rebase_puts_on_top_halfMade :
    smallest.Vacant ∧ smallest.world.supply.Distinct ∧
    Run .willing (fun _ _ => True) smallest halfMade ∧
    ∃ image out after, halfMade.images.get? "i" = some image ∧ image.WellFormed ∧
      image.topology.top? = some "top" ∧
      (updateImage .willing "i" (.rebase rebaseFromElsewhere)).run halfMade = (.ok out, after) ∧
      ∃ layer volume forwarded,
        after.images = halfMade.images.insert "i" { image with
          name := "new"
          topology := .chain (image.topology.names ++ ["new"])
          layers := image.layers.insert "new" layer } ∧
        layer.backing = some "top" ∧ layer.volume = some volume ∧
        after.world.registry.without volume = halfMade.world.registry ∧
        halfMade.world.link.Received after.world.link [.allocate volume,
          .image "create" (.obj [("target", .str "new")]),
          .image "rebase" (Arguments.toJson forwarded)] ∧
        forwarded.get? "source" = some (.str "top") ∧
        forwarded.get? "force" = some (.bool true) := by
  have hVacant : smallest.Vacant := vacant_vacant _ _ _ _
  have hRun : Run .willing (fun _ _ => True) smallest halfMade := .of_list fun _ _ _ => trivial
  have hOwned : halfMade.Owned :=
    .of_run hVacant Supply.strokes_distinct (.of_list careful_makingTop)
  have hTops : (halfMade.images.get? "i").map (·.topology.top?) = some (some "top") := by
    decide +kernel
  have hDone : ((updateImage .willing "i" (.rebase rebaseFromElsewhere)).run
      halfMade).1.toOption.isSome = true := by decide +kernel
  obtain ⟨image, hImage, hTop⟩ := Option.map_eq_some_iff.1 hTops
  rcases hRebase : (updateImage .willing "i" (.rebase rebaseFromElsewhere)).run halfMade with
    ⟨failure | out, after⟩
  · rw [hRebase] at hDone
    cases hDone
  · have hFormed : image.WellFormed := hOwned.wellFormed hImage
    obtain ⟨layer, volume, forwarded, -, -, hImages, -, hBacking, hVolume, -, hOthers, hReceived,
      hMembers⟩ := rebase_puts_on_top hVacant Supply.strokes_distinct hRun hImage hFormed hTop hRebase
    exact ⟨hVacant, Supply.strokes_distinct, hRun, image, out, after, hImage, hFormed, hTop, rfl,
      layer, volume, forwarded, hImages, hBacking, hVolume, hOthers, hReceived, hMembers "source",
      hMembers "force"⟩

end Engine

end DiskFleet
