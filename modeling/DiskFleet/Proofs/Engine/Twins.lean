import DiskFleet.Proofs.Engine.Cloning
import DiskFleet.Proofs.Image.Twins

/-!
# What a clone looks like

A clone repeats an image layer by layer. `Image.Repeats` lists what a client can read off it: the
chain has the names of the image with the suffix behind them, in the same order, and no layer is
there beside the chain; each layer is formatted as its source and stands on a volume of its own,
which lies in the pool of the volume of the source, is bound to the same nodes and holds storage.
The agents make the volumes from the bottom up, and then tie the layers from the bottom up.

## Main results

* `Engine.cloneImage_repeats`: the clones that are made.
-/

namespace DiskFleet

/-- The second volume was made in the meantime, in the pool of the first. It is bound to the same
nodes and holds storage. -/
def Registry.Repeats (before after : Registry) (volume twin : String) : Prop :=
  ∃ source copy, before.resource? volume = some source ∧ before.resource? twin = none ∧
    after.resource? twin = some copy ∧ copy.document.type = source.document.type ∧
    copy.document.pool = source.document.pool ∧
    (∀ node, node ∈ copy.document.bound ↔ node ∈ source.document.bound) ∧
    copy.document.allocated = true

namespace Image

/-- The volume that the layer of a name stands on. -/
def resource? (image : Image) (registry : Registry) (name : String) : Option Resource :=
  (image.volume? name).bind registry.resource?

/-- Every layer of the chain stands on a volume that is bound to a node. -/
def ChainBound (image : Image) (registry : Registry) : Prop :=
  ∀ name ∈ image.topology.names,
    ∃ resource ∈ image.resource? registry name, resource.document.bound ≠ []

instance (image : Image) (registry : Registry) : Decidable (image.ChainBound registry) :=
  inferInstanceAs (Decidable (∀ name ∈ image.topology.names,
    ∃ resource ∈ image.resource? registry name, resource.document.bound ≠ []))

/-- The second image repeats the chain of the first one, on volumes of its own. -/
structure Repeats (before after : Registry) (suffix : String) (image clone : Image) : Prop where
  owner : clone.owner = image.owner
  names : clone.topology.names = image.topology.names.map fun name => name ++ "_" ++ suffix
  keys : clone.layers.keys = clone.topology.names
  wellFormed : clone.WellFormed
  backup : ∀ {name layer}, clone.layers.get? name = some layer → layer.backup = none
  copies : ∀ {name layer}, name ∈ image.topology.names → image.layers.get? name = some layer →
    ∃ copy volume twin, clone.layers.get? (name ++ "_" ++ suffix) = some copy ∧
      copy.format = layer.format ∧ copy.clusterSize = layer.clusterSize ∧
      copy.preallocation = layer.preallocation ∧ copy.secret = layer.secret ∧
      layer.volume = some volume ∧ copy.volume = some twin ∧ before.Repeats after volume twin
  apart : clone.volumeIds.Nodup

end Image

namespace Session

variable {σ : Type} {session after : Session σ} {suffix : String} {layers : Table Layer}
  {noted : List String}

/-- A chain of bound volumes is a chain of volumes. -/
theorem onVolume_of_chainBound (h : session.image.ChainBound session.world.registry) :
    ∀ name ∈ session.image.topology.names, session.OnVolume name := by
  intro name hName
  obtain ⟨resource, hResource, -⟩ := h name hName
  obtain ⟨volume, hVolume, hFound⟩ := Option.bind_eq_some_iff.1 hResource
  exact ⟨volume, hVolume, by rw [hFound]; rfl⟩

/-- **An image of twins repeats the chain.** -/
theorem Twinned.repeats
    (h : Twinned suffix session session.image.topology.names layers (after, noted))
    (hBound : session.image.ChainBound session.world.registry) {id : String}
    (hFormed : (session.image.cloneOf suffix id layers).WellFormed) :
    session.image.Repeats session.world.registry after.world.registry suffix
      (session.image.cloneOf suffix id layers) := by
  have hNames : (session.image.cloneOf suffix id layers).topology.names =
      session.image.topology.names.map (cloneName suffix) := Topology.names_ofNames _
  constructor
  case owner => rfl
  case names => exact hNames
  case keys => rw [hNames]; exact h.keys
  case wellFormed => exact hFormed
  case backup =>
    intro copyName copy hLayer
    have hCopy : layers.get? copyName = some copy := hLayer
    have hKey : copyName ∈ layers.keys := by
      refine (Table.contains_iff_mem_keys layers copyName).1 ?_
      rw [Table.contains, hCopy, Option.isSome_some]
    rw [h.keys, List.mem_map] at hKey
    obtain ⟨name, hName, rfl⟩ := hKey
    obtain ⟨twin, -, source, volume, layerId, -, -, hLayer, -⟩ := h.exists_twin hName
    obtain rfl := Option.some.inj (hLayer.symm.trans hCopy)
    rfl
  case copies =>
    intro name layer hName hLayer
    obtain ⟨twin, hNoted, source, volume, layerId, hSource, hVolume, hCopy, hTwins⟩ :=
      h.exists_twin hName
    obtain rfl := Option.some.inj (hSource.symm.trans hLayer)
    refine ⟨_, volume, twin, hCopy, rfl, rfl, rfl, rfl, hVolume, rfl, ?_⟩
    obtain ⟨resource, poolId, pool, copy, hResource, hPooled, -, hFound, hTwin⟩ := hTwins
    have hNodes : resource.document.bound ≠ [] := by
      obtain ⟨bound, hMem, hNodes⟩ := hBound name hName
      rw [Image.resource?, Image.volume?, hSource, Option.bind_some, hVolume, Option.bind_some,
        hResource] at hMem
      exact Option.some.inj hMem ▸ hNodes
    obtain ⟨-, hType, hPool, hHeld⟩ := hTwin.document
    exact ⟨resource, copy, hResource, h.unregistered hNoted, hFound, hType,
      hPool.trans hPooled.symm, fun node => hTwin.mem_bound hNodes, hHeld⟩
  case apart =>
    rw [h.volumes rfl]
    exact h.added.nodup

end Session

namespace Engine

variable {σ : Type} {agent : Agent σ} {engine after : Engine σ} {id cloneId : String} {image : Image}

/-- A clone that is registered was made of twins, and what the agents were asked for is to make the
volumes and to tie the layers. -/
theorem twinned_of_run_cloneImage (hSound : engine.world.Sound)
    (hImage : engine.images.get? id = some image) (hNodup : image.topology.names.Nodup)
    (hBound : image.ChainBound engine.world.registry)
    (hClone : (cloneImage agent id).run engine = (.ok cloneId, after)) :
    ∃ layers reached noted,
      after.images.get? cloneId = some (image.cloneOf
        (engine.world.supply.nextSuffix engine.settings.suffixLength) cloneId layers) ∧
      (image.WellFormed → (image.cloneOf
        (engine.world.supply.nextSuffix engine.settings.suffixLength) cloneId layers).WellFormed) ∧
      Session.Twinned (engine.world.supply.nextSuffix engine.settings.suffixLength)
        ⟨image, engine.world⟩ image.topology.names layers (reached, noted) ∧
      after.world.registry = reached.world.registry ∧
      reached.world.link.Received after.world.link (Errand.rebases (image.topology.names.map
        (Session.cloneName (engine.world.supply.nextSuffix engine.settings.suffixLength)))) := by
  rcases hMade : (Session.clone agent engine.settings).run ⟨image, engine.world⟩ with
    ⟨answer, ⟨kept, world⟩⟩
  obtain ⟨hSame, -, -⟩ := Session.clone_cases agent World.Admission.of_all _ hMade
  obtain rfl : image = kept := hSame.symm
  rw [run_cloneImage hImage hMade] at hClone
  cases answer with
  | error failure => cases hClone
  | ok clone =>
      cases hClone
      have hCloneFormed : image.WellFormed → clone.WellFormed := fun hFormed =>
        Image.wellFormed_of_clone hFormed hMade
      obtain ⟨made, layers, reached, noted, rfl, hTwinned, hRegistry, hReceived⟩ :=
        Session.twinned_of_run_clone hSound hNodup
          (Session.onVolume_of_chainBound hBound) hMade
      refine ⟨layers, reached, noted, ?_, hCloneFormed, hTwinned, hRegistry, ?_⟩
      · rw [Table.get?_insert, if_pos rfl]
        rfl
      · rw [Image.cloneOf, Topology.names_ofNames] at hReceived
        exact hReceived

/-- **A clone repeats its image**, in any reachable state. It is registered under a new id. What the
agents were asked for is to make the volumes of its layers, and then to tie each layer to the one
before it. -/
theorem cloneImage_repeats {start : Engine σ} (hVacant : start.Vacant)
    (hDistinct : start.world.supply.Distinct) (hRun : Run agent (fun _ _ => True) start engine)
    (hImage : engine.images.get? id = some image) (hFormed : image.WellFormed)
    (hBound : image.ChainBound engine.world.registry) {cloner : Agent σ}
    (hClone : (cloneImage cloner id).run engine = (.ok cloneId, after)) :
    engine.images.get? cloneId = none ∧ ∃ clone, after.images.get? cloneId = some clone ∧
      clone.id = some cloneId ∧
      image.Repeats engine.world.registry after.world.registry
        (engine.world.supply.nextSuffix engine.settings.suffixLength) clone ∧
      engine.world.link.Received after.world.link
        (clone.volumeIds.map .allocate ++ Errand.rebases clone.topology.names) := by
  have hNumbered : engine.Numbered := .of_run hVacant hDistinct hRun
  have hNew := ((cloneImage_keeps hNumbered hClone).2.1 cloneId rfl).1
  obtain ⟨layers, reached, noted, hRegistered, hCloneFormed, hTwinned, hRegistry, hTied⟩ :=
    twinned_of_run_cloneImage hNumbered.sound hImage hFormed.nodup hBound hClone
  refine ⟨hNew, _, hRegistered, rfl, ?_, ?_⟩
  · rw [hRegistry]
    exact hTwinned.repeats hBound (hCloneFormed hFormed)
  · have hVolumes : (image.cloneOf (engine.world.supply.nextSuffix engine.settings.suffixLength)
        cloneId layers).volumeIds = noted := hTwinned.volumes rfl
    have hNames : (image.cloneOf (engine.world.supply.nextSuffix engine.settings.suffixLength)
        cloneId layers).topology.names = image.topology.names.map (Session.cloneName
          (engine.world.supply.nextSuffix engine.settings.suffixLength)) := Topology.names_ofNames _
    rw [hVolumes, hNames]
    exact hTwinned.received.append hTied

/-- The clone of a chain of two layers, of which only the top holds storage. -/
theorem cloneImage_repeats_halfMade :
    smallest.Vacant ∧ smallest.world.supply.Distinct ∧
    Run .willing (fun _ _ => True) smallest halfMade ∧
    ∃ image cloneId after, halfMade.images.get? "i" = some image ∧
      image.topology.names = ["base", "top"] ∧ image.WellFormed ∧
      image.ChainBound halfMade.world.registry ∧
      (cloneImage .willing "i").run halfMade = (.ok cloneId, after) ∧
      halfMade.images.get? cloneId = none ∧ ∃ clone, after.images.get? cloneId = some clone ∧
        clone.id = some cloneId ∧
        image.Repeats halfMade.world.registry after.world.registry
          (halfMade.world.supply.nextSuffix halfMade.settings.suffixLength) clone ∧
        halfMade.world.link.Received after.world.link
          (clone.volumeIds.map .allocate ++ Errand.rebases clone.topology.names) := by
  have hVacant : smallest.Vacant := vacant_vacant _ _ _ _
  have hRun : Run .willing (fun _ _ => True) smallest halfMade := .of_list fun _ _ _ => trivial
  have hOwned : halfMade.Owned :=
    .of_run hVacant Supply.strokes_distinct (.of_list careful_makingTop)
  have hNames : (halfMade.images.get? "i").map (·.topology.names) = some ["base", "top"] := by
    decide +kernel
  have hBound : (halfMade.images.get? "i").all (fun image =>
      decide (image.ChainBound halfMade.world.registry)) = true := by decide +kernel
  have hDone : ((cloneImage .willing "i").run halfMade).1.toOption.isSome = true := by
    decide +kernel
  obtain ⟨image, hImage, hChain⟩ := Option.map_eq_some_iff.1 hNames
  rw [hImage, Option.all_some, decide_eq_true_iff] at hBound
  rcases hClone : (cloneImage .willing "i").run halfMade with ⟨failure | cloneId, after⟩
  · rw [hClone] at hDone
    cases hDone
  · have hFormed : image.WellFormed := hOwned.wellFormed hImage
    exact ⟨hVacant, Supply.strokes_distinct, hRun, image, cloneId, after, hImage, hChain, hFormed,
      hBound, rfl, cloneImage_repeats hVacant Supply.strokes_distinct hRun hImage hFormed hBound
        hClone⟩

end Engine

end DiskFleet
