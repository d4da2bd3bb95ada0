import DiskFleet.Proofs.Engine.Teardown
import DiskFleet.Proofs.Image.Confined
import DiskFleet.Proofs.Registry.Addressed

/-!
# Images do not get in each other's way

A command for one image can make, release and destroy volumes, and does so again in reverse where it
fails and recovers. All of this happens to volumes that the image stood on before, or that the
command made itself. Since no two images stand on the same volume, no other image is concerned.

That a volume was made by the command cannot be seen afterwards, as it may be gone again. It shows
at the moment of a call: the volume is registered then, under an id that was not drawn before.

## Main results

* `Engine.updateImage_isolated`: what a command for one image leaves alone.
-/

namespace DiskFleet

/-- Ids that were not drawn before the next ones are not drawn at all. -/
theorem Supply.Distinct.not_drawn_of_le {supply : Supply} (h : supply.Distinct) {i : Nat}
    (hLater : supply.ids ≤ i) : ¬supply.Drawn (supply.idText i) := by
  rintro ⟨j, hLess, hSame⟩
  have hEq : j = i := h j i hSame
  omega

/-- What is registered was drawn. -/
theorem World.Sound.drawn_of_resource? {σ : Type} {world : World σ} (h : world.Sound)
    {id : String} {resource : Resource} (hFound : world.registry.resource? id = some resource) :
    world.supply.Drawn id := by
  obtain ⟨poolId, pool, hOwner, -, -⟩ := Registry.resource?_eq_some_iff.1 hFound
  exact h.ownedDrawn hOwner

/-- A call of the resource service that is addressed to where it belongs is on behalf of a resource
that is registered. -/
theorem Registry.registered_of_addressed {registry : Registry} (h : registry.Sound)
    {exchange : Exchange} (hAddressed : registry.Addressed exchange.call)
    (hService : exchange.call.service = Call.resourceService) {id : String}
    (hFor : exchange.resourceId? = some id) : (registry.resource? id).isSome = true := by
  obtain ⟨call, outcome⟩ := exchange
  cases hAddressed with
  | @resource named node method pool resource args hPoolOf hFound hFirst =>
      obtain ⟨poolId, pool, -, hPool, hStored⟩ := Registry.resource?_eq_some_iff.1 hFound
      have hNamed : resource.document.id = some named := (h.housed hPool hStored).named
      have hCarried : resource.document.id = some id :=
        (Resource.resourceId?_callOf outcome).symm.trans hFor
      obtain rfl : named = id := Option.some.inj (hNamed.symm.trans hCarried)
      rw [hFound]
      rfl
  | image hInfo hFirst =>
      have hOther : Call.imageService ≠ Call.resourceService := by decide
      exact absurd hService hOther

namespace Engine

variable {σ : Type} {engine after : Engine σ} {id : String} {image : Image}

/-- The volumes that a command for an image may come to: those of the image, and those that are yet
to be made. -/
def Reach (engine : Engine σ) (image : Image) (volume : String) : Prop :=
  volume ∈ image.volumeIds ∨ ¬engine.world.supply.Drawn volume

/-- The image and its world are fit for a command. -/
theorem Owned.fits (h : engine.Owned) (image : Image) :
    Session.Fits (engine.Reach image) ⟨image, engine.world⟩ := by
  refine ⟨⟨h.sound, fun i hLater => ?_⟩, fun name layer volume hLayer hVolume => ?_⟩
  · exact .inr (h.sound.distinct.not_drawn_of_le hLater)
  · exact .inl (Image.mem_volumeIds.2 ⟨name, layer, hLayer, hVolume⟩)

/-- **Images are isolated.** A command for one image, whatever it is, whatever the agents answer and
whether it fails, leaves every other image as it is, and every resource that was there before and is
no volume of this image; the volumes of other images are among those. A call to the resource service
that it makes is on behalf of a volume that is registered at the moment of the call, and that either
is one of the image or was made by the command, as its id had not been drawn before. -/
theorem updateImage_isolated (hOwned : engine.Owned)
    (hImage : engine.images.get? id = some image) (agent : Agent σ) (command : ImageCommand)
    {result : Except Failure Json}
    (hRun : (updateImage agent id command).run engine = (result, after)) :
    after.images.keys = engine.images.keys ∧
    (∀ other, other ≠ id → after.images.get? other = engine.images.get? other) ∧
    (∀ resource found, engine.world.registry.resource? resource = some found →
      resource ∉ image.volumeIds → after.world.registry.resource? resource = some found) ∧
    (∀ other otherImage, other ≠ id → engine.images.get? other = some otherImage →
      ∀ volume ∈ otherImage.volumeIds,
        after.world.registry.resource? volume = engine.world.registry.resource? volume) ∧
    engine.world.link.history <+: after.world.link.history ∧
    ∀ i exchange, engine.world.link.history.length ≤ i →
      after.world.link.history[i]? = some exchange →
      exchange.call.service = Call.resourceService →
      ∃ volume moment next, exchange.resourceId? = some volume ∧
        World.MadeIn agent (fun _ => True) (fun _ => True) (fun _ => False) engine.world
          after.world i moment next ∧
        (moment.registry.resource? volume).isSome = true ∧
        (volume ∈ image.volumeIds ∨ ¬engine.world.supply.Drawn volume) := by
  have hMoves : Moves agent (fun _ => True) engine ((updateImage agent id command).run engine).2 :=
    updateImage_moves .of_all id command engine
  obtain ⟨-, hConfined, -⟩ :=
    Session.update_confined agent engine.settings command _ (hOwned.fits image)
  rw [run_updateImage_of_found agent command hImage] at hRun hMoves
  cases hRun
  have hKept : ∀ resource found, engine.world.registry.resource? resource = some found →
      resource ∉ image.volumeIds →
      ((Session.update agent engine.settings command).run
        ⟨image, engine.world⟩).2.world.registry.resource? resource = some found := by
    intro resource found hFound hElse
    rw [hConfined.others resource, hFound]
    -- what is registered has been drawn, so that it is not yet to be made
    rintro (hVolume | hNew)
    · exact hElse hVolume
    · exact hNew (hOwned.sound.drawn_of_resource? hFound)
  obtain ⟨calls, hCalls, hReach⟩ := hConfined.calls
  refine ⟨?_, fun other hNe => ?_, hKept, fun other otherImage hNe hOther volume hVolume => ?_,
    ⟨calls, hCalls.symm⟩, fun i exchange hLater hMade hService => ?_⟩
  · exact Table.keys_insert_of_contains (by rw [Table.contains, hImage, Option.isSome_some])
  · exact (Table.get?_insert _ _ _ _).trans (if_neg hNe)
  · obtain ⟨found, hFound⟩ := hOwned.registered hOther volume hVolume
    rw [hFound]
    exact hKept volume found hFound (hOwned.disjoint_volumeIds hImage hOther hNe volume hVolume)
  · obtain ⟨moment, next, hMadeIn, hAddressed⟩ := World.Course.addressed hMoves hLater hMade
    have hNew : exchange ∈ calls := by
      rw [hCalls, List.getElem?_append_right hLater] at hMade
      exact List.mem_of_getElem? hMade
    obtain ⟨volume, hFor, hIn⟩ := hReach exchange hNew hService
    have hSound : moment.Sound := hOwned.sound.moves hMadeIn.before
    exact ⟨volume, moment, next, hFor, hMadeIn,
      Registry.registered_of_addressed hSound.registry hAddressed hService hFor, hIn⟩

/-- Two images and a volume that belongs to neither, in an engine that drops what a failed operation
leaves. -/
def neighbours : Engine Unit := crowding.foldl (Engine.after .willing) cleaning

/-- A rebase of the first image fails once the new layer has storage. -/
def refusedGrowth : Except Failure Json × Engine Unit :=
  (updateImage (.refusingTo "rebase") "ii"
    (.rebase ⟨"new", .ofList [("image_size", "10")], [], ∅⟩)).run neighbours

/-- The other image and the other volumes are as they were, and both calls of the resource service
are on behalf of the volume that was made for the new layer, which is gone again. -/
theorem updateImage_isolated_neighbours :
    neighbours.Owned ∧ neighbours.images.keys = ["ii", "iiiiiii"] ∧
    neighbours.world.registry.owners.keys = ["iii", "iiiii", "iiiiiiii", "iiiiiiiiiii"] ∧
    ∃ image failure after, neighbours.images.get? "ii" = some image ∧
      image.volumeIds = ["iii", "iiiii"] ∧ refusedGrowth = (.error failure, after) ∧
      (after.world.link.history.drop neighbours.world.link.history.length).map
        (fun exchange => (exchange.call.method, exchange.resourceId?)) =
          [("allocate", some "iiiiiiiiiiii"), ("update_image", none), ("update_image", none),
            ("release", some "iiiiiiiiiiii")] ∧
      ¬neighbours.world.supply.Drawn "iiiiiiiiiiii" ∧
      after.world.registry.resource? "iiiiiiiiiiii" = none ∧
      after.images.get? "iiiiiii" = neighbours.images.get? "iiiiiii" ∧
      ∀ resource ∈ ["iiiiiiii", "iiiiiiiiiii"], ∀ found,
        neighbours.world.registry.resource? resource = some found →
          after.world.registry.resource? resource = some found := by
  have hOwned : neighbours.Owned :=
    .of_run (vacant_vacant _ _ _ _) Supply.strokes_distinct (.of_list careful_crowding)
  have hVolumes : (neighbours.images.get? "ii").map (·.volumeIds) = some ["iii", "iiiii"] := by
    decide +kernel
  have hFailed : refusedGrowth.1.toOption.isNone = true := by decide +kernel
  have hCalls : (refusedGrowth.2.world.link.history.drop
      neighbours.world.link.history.length).map
        (fun exchange => (exchange.call.method, exchange.resourceId?)) =
          [("allocate", some "iiiiiiiiiiii"), ("update_image", none), ("update_image", none),
            ("release", some "iiiiiiiiiiii")] := by decide +kernel
  have hFirst : (refusedGrowth.2.world.link.history[neighbours.world.link.history.length]?).map
      (fun exchange => (exchange.call.service, exchange.resourceId?)) =
        some (Call.resourceService, some "iiiiiiiiiiii") := by decide +kernel
  have hElsewhere : ∀ resource ∈ ["iiiiiiii", "iiiiiiiiiii"], resource ∉ ["iii", "iiiii"] := by
    decide
  have hGone : (refusedGrowth.2.world.registry.resource? "iiiiiiiiiiii").isNone = true := by
    decide +kernel
  obtain ⟨image, hImage, hHeld⟩ := Option.map_eq_some_iff.1 hVolumes
  rcases hRun : refusedGrowth with ⟨failure | out, after⟩
  · rw [hRun] at hCalls hFirst hGone
    obtain ⟨-, hOthers, hKept, -, -, hMade⟩ := updateImage_isolated hOwned hImage _ _ hRun
    obtain ⟨exchange, hExchange, hCall⟩ := Option.map_eq_some_iff.1 hFirst
    obtain ⟨hService, hFor⟩ := Prod.mk.inj hCall
    obtain ⟨volume, moment, next, hNamed, -, -, hReach⟩ :=
      hMade _ exchange (Nat.le_refl _) hExchange hService
    obtain rfl : "iiiiiiiiiiii" = volume := Option.some.inj (hFor.symm.trans hNamed)
    rw [hHeld] at hReach hKept
    refine ⟨hOwned, by decide +kernel, by decide +kernel, image, failure, after, hImage, hHeld, rfl,
      hCalls, hReach.resolve_left (by decide), Option.isNone_iff_eq_none.1 hGone,
      hOthers _ (by decide), fun resource hResource found hFound => ?_⟩
    exact hKept resource found hFound (hElsewhere resource hResource)
  · rw [hRun] at hFailed
    cases hFailed

end Engine

end DiskFleet
