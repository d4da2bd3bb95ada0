import DiskFleet.Proofs.Engine.Twins
import DiskFleet.Proofs.Registry.Place

/-!
# Layers that lie apart

Two layers must not share storage, or what is written to the one is lost in the other. The storage
of a layer is where the bindings of its volume say, node by node, and so the layers of a chain lie
apart if no two of their volumes are bound to one backing (`Image.Apart`). Whether a backing of one
node can be that of another node depends on the backings, so this is left open: `near` says which
nodes to compare.

A clone renames the copies of all layers with one suffix. That keeps them apart as long as the
volumes lie where their pools put them and the file names lead into no directories. But the copy of
a file that has an extension loses the directories of its name. Of `x/d.img` and `y/d.img`, which
lie apart, the copies do not.

## Main results

* `Engine.cloneImage_apart`: the clones whose layers lie apart;
* `Engine.clone_of_directories_not_apart`: one whose layers do not.
-/

namespace DiskFleet

namespace Image

/-- No two layers of the chain have the same backing on nodes that are near each other. -/
def Apart (near : String → String → Prop) (image : Image) (registry : Registry) : Prop :=
  ∀ name ∈ image.topology.names, ∀ other ∈ image.topology.names, name ≠ other →
    ∀ resource ∈ image.resource? registry name,
      ∀ otherResource ∈ image.resource? registry other,
        ∀ binding ∈ resource.document.bindings.entries,
          ∀ otherBinding ∈ otherResource.document.bindings.entries,
            near binding.1 otherBinding.1 → binding.2 ≠ otherBinding.2

instance (near : String → String → Prop) [DecidableRel near] (image : Image)
    (registry : Registry) : Decidable (image.Apart near registry) :=
  inferInstanceAs (Decidable (∀ name ∈ image.topology.names, ∀ other ∈ image.topology.names,
    name ≠ other → ∀ resource ∈ image.resource? registry name,
      ∀ otherResource ∈ image.resource? registry other,
        ∀ binding ∈ resource.document.bindings.entries,
          ∀ otherBinding ∈ otherResource.document.bindings.entries,
            near binding.1 otherBinding.1 → binding.2 ≠ otherBinding.2))

/-- The volumes of the chain lie where their pools put them, under names that can be suffixed. -/
structure Suffixable (suffix : String) (image : Image) (registry : Registry) : Prop where
  laidOut : ∀ {name resource poolId pool}, name ∈ image.topology.names →
    image.resource? registry name = some resource → resource.document.pool = some poolId →
    registry.pools.get? poolId = some pool → resource.LaidOut pool.document
  simple : ∀ {name other resource otherResource}, name ∈ image.topology.names →
    other ∈ image.topology.names → image.resource? registry name = some resource →
    image.resource? registry other = some otherResource → resource.Simple suffix otherResource

/-- The volumes of the chain are files in the directories of their pools. -/
def InFolders (image : Image) (registry : Registry) : Prop :=
  ∀ name ∈ image.topology.names, ∀ resource ∈ image.resource? registry name,
    (∀ pool ∈ resource.document.pool.bind registry.pools.get?, resource.LaidOut pool.document) ∧
      ∃ filename ∈ resource.fileName?, FilePath.Plain filename

instance (image : Image) (registry : Registry) : Decidable (image.InFolders registry) :=
  inferInstanceAs (Decidable (∀ name ∈ image.topology.names,
    ∀ resource ∈ image.resource? registry name,
      (∀ pool ∈ resource.document.pool.bind registry.pools.get?, resource.LaidOut pool.document) ∧
        ∃ filename ∈ resource.fileName?, FilePath.Plain filename))

/-- So they can be suffixed, whatever the suffix is. -/
theorem InFolders.suffixable {image : Image} {registry : Registry} (h : image.InFolders registry)
    (suffix : String) : image.Suffixable suffix registry := by
  constructor
  case laidOut =>
    intro name resource poolId pool hName hResource hPooled hPool
    refine (h name hName resource hResource).1 pool ?_
    rw [hPooled]
    exact hPool
  case simple =>
    intro name other resource otherResource hName hOther hResource hOtherResource filename hFilename
    obtain ⟨-, found, hFound, hPlain⟩ := h name hName resource hResource
    obtain ⟨-, otherFilename, hOtherFilename, -⟩ := h other hOther otherResource hOtherResource
    obtain rfl := Option.some.inj (hFound.symm.trans hFilename)
    refine ⟨hPlain, fun _ hNone => ?_⟩
    rw [hNone] at hOtherFilename
    cases hOtherFilename

end Image

namespace Session

variable {σ : Type} {session after : Session σ} {suffix : String} {layers : Table Layer}
  {noted : List String} {near : String → String → Prop}

/-- The volume of a twin layer is a twin of that of its source. -/
theorem TwinLayer.twinOf {name twin id : String} {now : Registry} {copy : Resource}
    (h : TwinLayer suffix session layers now name twin)
    (hCopy : (session.image.cloneOf suffix id layers).resource? now (cloneName suffix name) =
      some copy) :
    ∃ source poolId pool, session.image.resource? session.world.registry name = some source ∧
      source.document.pool = some poolId ∧ session.world.registry.pools.get? poolId = some pool ∧
      source.TwinOf pool.document poolId suffix twin copy := by
  obtain ⟨layer, volume, layerId, hLayer, hVolume, hTwinLayer, source, poolId, pool, found, hSource,
    hPooled, hPool, hFound, hTwin⟩ := h
  have hOn : (session.image.cloneOf suffix id layers).volume? (cloneName suffix name) =
      some twin := by
    show (layers.get? (cloneName suffix name)).bind (·.volume) = some twin
    rw [hTwinLayer]
    rfl
  rw [Image.resource?, hOn, Option.bind_some, hFound] at hCopy
  obtain rfl := Option.some.inj hCopy
  refine ⟨source, poolId, pool, ?_, hPooled, hPool, hTwin⟩
  rw [Image.resource?, Image.volume?, hLayer, Option.bind_some, hVolume, Option.bind_some, hSource]

/-- **Twins of layers that lie apart lie apart.** -/
theorem Twinned.apart
    (h : Twinned suffix session session.image.topology.names layers (after, noted))
    (hBound : session.image.ChainBound session.world.registry)
    (hAlphanumeric : Resource.Alphanumeric suffix)
    (hSuffixable : session.image.Suffixable suffix session.world.registry)
    (hApart : session.image.Apart near session.world.registry) (id : String) :
    (session.image.cloneOf suffix id layers).Apart near after.world.registry := by
  have hNames : (session.image.cloneOf suffix id layers).topology.names =
      session.image.topology.names.map (cloneName suffix) := Topology.names_ofNames _
  have hNodes : ∀ {name source}, name ∈ session.image.topology.names →
      session.image.resource? session.world.registry name = some source →
        source.document.bound ≠ [] := by
    intro name source hName hSource
    obtain ⟨bound, hMem, hNodes⟩ := hBound name hName
    obtain rfl := Option.some.inj (hSource.symm.trans hMem)
    exact hNodes
  intro copyName hCopyName otherCopyName hOtherCopyName hNe copy hCopy otherCopy hOtherCopy
  rw [hNames] at hCopyName hOtherCopyName
  obtain ⟨name, hName, rfl⟩ := List.mem_map.1 hCopyName
  obtain ⟨other, hOther, rfl⟩ := List.mem_map.1 hOtherCopyName
  obtain ⟨twin, -, hTwinLayer⟩ := h.exists_twin hName
  obtain ⟨otherTwin, -, hOtherTwinLayer⟩ := h.exists_twin hOther
  obtain ⟨source, poolId, pool, hSource, hPooled, hPool, hTwin⟩ := hTwinLayer.twinOf hCopy
  obtain ⟨otherSource, otherPoolId, otherPool, hOtherSource, hOtherPooled, hOtherPool, hOtherTwin⟩ :=
    hOtherTwinLayer.twinOf hOtherCopy
  rintro ⟨node, backing⟩ hBinding ⟨otherNode, _⟩ hOtherBinding hNear rfl
  obtain ⟨place, hPlace, hOtherPlace⟩ := hTwin.backing_inj hOtherTwin hAlphanumeric
    (hSuffixable.simple hName hOther hSource hOtherSource)
    (hSuffixable.simple hOther hName hOtherSource hSource)
    (hSuffixable.laidOut hName hSource hPooled hPool)
    (hSuffixable.laidOut hOther hOtherSource hOtherPooled hOtherPool)
    (hNodes hName hSource) (hNodes hOther hOtherSource) hBinding hOtherBinding
  have hSourcesNe : name ≠ other := fun hSame => hNe (cloneName_inj.2 hSame)
  exact hApart name hName other hOther hSourcesNe source hSource otherSource hOtherSource
    (node, place) hPlace (otherNode, place) hOtherPlace hNear rfl

end Session

namespace Engine

variable {σ : Type} {agent : Agent σ} {engine after : Engine σ} {id cloneId : String} {image : Image}

/-- **A clone keeps its layers apart**, in any reachable state, whichever nodes are compared. The
suffix is made of letters and digits, the volumes of the chain lie where their pools put them, and
their file names lead into no directories. -/
theorem cloneImage_apart {start : Engine σ} (hVacant : start.Vacant)
    (hDistinct : start.world.supply.Distinct) (hRun : Run agent (fun _ _ => True) start engine)
    (hImage : engine.images.get? id = some image) (hNodup : image.topology.names.Nodup)
    (hBound : image.ChainBound engine.world.registry)
    (hAlphanumeric : Resource.Alphanumeric
      (engine.world.supply.nextSuffix engine.settings.suffixLength))
    (hSuffixable : image.Suffixable (engine.world.supply.nextSuffix engine.settings.suffixLength)
      engine.world.registry)
    {near : String → String → Prop} (hApart : image.Apart near engine.world.registry)
    {cloner : Agent σ} (hClone : (cloneImage cloner id).run engine = (.ok cloneId, after)) :
    ∃ clone, after.images.get? cloneId = some clone ∧
      clone.layers.keys = clone.topology.names ∧ clone.Apart near after.world.registry := by
  have hSound : engine.world.Sound := (Numbered.of_run hVacant hDistinct hRun).sound
  obtain ⟨layers, reached, noted, hRegistered, -, hTwinned, hRegistry, -⟩ :=
    twinned_of_run_cloneImage hSound hImage hNodup hBound hClone
  refine ⟨_, hRegistered, ?_, ?_⟩
  · exact hTwinned.keys.trans (Topology.names_ofNames _).symm
  · rw [hRegistry]
    exact hTwinned.apart hBound hAlphanumeric hSuffixable hApart cloneId

/-! ## Chains of two files -/

/-- The chain in the engine with one image is copied into the same directory. -/
theorem cloneImage_apart_halfMade :
    smallest.Vacant ∧ smallest.world.supply.Distinct ∧
    Run .willing (fun _ _ => True) smallest halfMade ∧
    Resource.Alphanumeric (halfMade.world.supply.nextSuffix halfMade.settings.suffixLength) ∧
    ∃ image cloneId after, halfMade.images.get? "i" = some image ∧
      image.topology.names = ["base", "top"] ∧ image.ChainBound halfMade.world.registry ∧
      image.Suffixable (halfMade.world.supply.nextSuffix halfMade.settings.suffixLength)
        halfMade.world.registry ∧
      image.Apart (fun _ _ => True) halfMade.world.registry ∧
      (cloneImage .willing "i").run halfMade = (.ok cloneId, after) ∧
      ∃ clone, after.images.get? cloneId = some clone ∧
        clone.layers.keys = clone.topology.names ∧
        clone.Apart (fun _ _ => True) after.world.registry := by
  have hVacant : smallest.Vacant := vacant_vacant _ _ _ _
  have hRun : Run .willing (fun _ _ => True) smallest halfMade := .of_list fun _ _ _ => trivial
  have hLetters : (halfMade.world.supply.nextSuffix
      halfMade.settings.suffixLength).toList.all Char.isAlphanum = true := by decide +kernel
  have hAlphanumeric : Resource.Alphanumeric
      (halfMade.world.supply.nextSuffix halfMade.settings.suffixLength) :=
    List.all_eq_true.1 hLetters
  have hNames : (halfMade.images.get? "i").map (·.topology.names) = some ["base", "top"] := by
    decide +kernel
  have hKnown : (halfMade.images.get? "i").all (fun image =>
      decide (image.ChainBound halfMade.world.registry ∧
        image.InFolders halfMade.world.registry ∧
        image.Apart (fun _ _ => True) halfMade.world.registry)) = true := by decide +kernel
  have hDone : ((cloneImage .willing "i").run halfMade).1.toOption.isSome = true := by
    decide +kernel
  obtain ⟨image, hImage, hChain⟩ := Option.map_eq_some_iff.1 hNames
  rw [hImage, Option.all_some, decide_eq_true_iff] at hKnown
  obtain ⟨hBound, hFolders, hApart⟩ := hKnown
  rcases hClone : (cloneImage .willing "i").run halfMade with ⟨failure | cloneId, after⟩
  · rw [hClone] at hDone
    cases hDone
  · have hNodup : image.topology.names.Nodup := by
      rw [hChain]
      decide
    have hSuffixable := hFolders.suffixable
      (halfMade.world.supply.nextSuffix halfMade.settings.suffixLength)
    exact ⟨hVacant, Supply.strokes_distinct, hRun, hAlphanumeric, image, cloneId, after, hImage,
      hChain, hBound, hSuffixable, hApart, rfl,
      cloneImage_apart hVacant Supply.strokes_distinct hRun hImage hNodup hBound hAlphanumeric
        hSuffixable hApart hClone⟩

/-- Parameters of a chain of two files that have one name, in two directories. -/
def directoryParams : Params :=
  .ofList [("image_chain", "a b"), ("image_name_a", "x/d"), ("image_name_b", "y/d"),
    ("image_size", "10")]

/-- The document of an image with that chain. -/
def directoryImage : Image :=
  (pooled.defineImage "disk" directoryParams).toOption.getD (chainImage "a b")

/-- The engine with that image. -/
def directories : Engine Unit := pooled.after .willing (.createImage directoryImage)

/-- **Copies that share storage**: of two files in different directories, both copies lie in the
same place on the same node. -/
theorem clone_of_directories_not_apart :
    Run .willing (fun _ _ => True) smallest directories ∧
    ∃ image cloneId after clone, directories.images.get? "i" = some image ∧
      image.ChainBound directories.world.registry ∧
      image.Apart (fun _ _ => True) directories.world.registry ∧
      (cloneImage .willing "i").run directories = (.ok cloneId, after) ∧
      after.images.get? cloneId = some clone ∧
      ¬clone.Apart (fun node other => node = other) after.world.registry := by
  have hRun : Run .willing (fun _ _ => True) smallest directories :=
    (Run.start.step trivial).step trivial
  have hKnown : (directories.images.get? "i").any (fun image =>
      decide (image.ChainBound directories.world.registry ∧
        image.Apart (fun _ _ => True) directories.world.registry)) = true := by decide +kernel
  have hShared : ((cloneImage .willing "i").run directories).1.toOption.any (fun cloneId =>
      (((cloneImage .willing "i").run directories).2.images.get? cloneId).any fun clone =>
        !decide (clone.Apart (fun node other => node = other)
          ((cloneImage .willing "i").run directories).2.world.registry)) = true := by
    decide +kernel
  obtain ⟨image, hImage, hHolds⟩ := (Option.any_eq_true _ _).1 hKnown
  obtain ⟨hBound, hApart⟩ := of_decide_eq_true hHolds
  rcases hClone : (cloneImage .willing "i").run directories with ⟨failure | cloneId, after⟩
  · rw [hClone] at hShared
    cases hShared
  · rw [hClone] at hShared
    obtain ⟨_, hAnswer, hRegistered⟩ := (Option.any_eq_true _ _).1 hShared
    cases hAnswer
    obtain ⟨clone, hFound, hNot⟩ := (Option.any_eq_true _ _).1 hRegistered
    rw [Bool.not_eq_true', decide_eq_false_iff_not] at hNot
    exact ⟨hRun, image, cloneId, after, clone, hImage, hBound, hApart, rfl, hFound, hNot⟩

end Engine

end DiskFleet
