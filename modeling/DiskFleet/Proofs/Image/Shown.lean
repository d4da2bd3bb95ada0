import DiskFleet.Proofs.Json.Path
import DiskFleet.Proofs.Json.RoundTrip
import DiskFleet.Proofs.Registry.Addressed
import DiskFleet.Proofs.Registry.Release

/-!
# What a node is shown of an image

A request for image work carries the document of the image. It is made from the document that a
client is shown, by going through the layers one after the other and setting a value at a path in
the tree. `Image.documentWith` says at once what should come of this: the document of the image, in
which each layer has its volume written in another way. Written as an id, it is the document of the
image itself (`Image.toJson_eq_documentWith`), and nothing else differs between the two.

The layers are visited in the order in which they were added and written in the order of their
names, so that the loop is followed on the look-ups of a map (`inlineVolumes_documentOf`).

## Main results

* `Image.info_of_standing`: the document with the volumes in it;
* `Image.follow?_documentWith`: where in it a volume is found;
* `Session.Standing.shows_of_callFor`: what a request shows of an image whose layers stand on
  registered volumes.
-/

namespace DiskFleet

/-! ## Members of an object -/

/-- An entry that is there is replaced in its place. -/
theorem insertSorted_append_cons {α : Type} {key : String} {value old : α}
    {rest : List (String × α)} :
    ∀ {before : List (String × α)}, (∀ entry ∈ before, entry.1 < key) →
      insertSorted key value (before ++ (key, old) :: rest) = before ++ (key, value) :: rest
  | [], _ => by simp [insertSorted]
  | first :: before, h => by
    have hFirst := h first List.mem_cons_self
    have hNotLess : ¬key < first.1 := fun hLess =>
      String.lt_irrefl _ (String.lt_trans hFirst hLess)
    have hNe : key ≠ first.1 := fun hSame => String.lt_irrefl key (hSame.symm ▸ hFirst)
    rw [List.cons_append, insertSorted, if_neg hNotLess, if_neg hNe,
      insertSorted_append_cons fun entry hEntry => h entry (List.mem_cons_of_mem _ hEntry)]
    rfl

/-! ## Documents with the volumes written in another way -/

/-- Every document has two parts. A change of the second leaves the first alone. -/
theorem Json.updateMember_spec (head spec : Json) (f : Json → Json) :
    (Json.obj [("meta", head), ("spec", spec)]).updateMember "spec" f =
      .obj [("meta", head), ("spec", f spec)] := by
  have hAfter : ¬"spec" < "meta" := by decide
  simp [updateMember, insertSorted, lookup_cons_eq, hAfter]

namespace Layer

/-- The members of a specification that stand before the volume. -/
def membersBefore (layer : Layer) : List (String × Json) :=
  [("backing", .ofOptionText layer.backing), ("backup", .ofOptionText layer.backup)] ++
    textMember "cluster_size" layer.clusterSize ++
    [("format", .str layer.format.word)] ++
    textMember "preallocation" layer.preallocation ++
    textMember "secret" layer.secret

/-- The document of the layer with the given tree for its volume. -/
def documentWith (volume : Json) (layer : Layer) : Json :=
  .obj [("meta", layer.metaToJson),
    ("spec", .obj (layer.membersBefore ++ ("volume", volume) :: definitionMember layer.definition))]

/-- The document of the layer has the id for its volume. -/
theorem toJson_eq_documentWith (layer : Layer) :
    layer.toJson = layer.documentWith (.ofOptionText layer.volume) := by
  simp [toJson, specToJson, documentWith, membersBefore]

theorem lt_volume_of_mem (layer : Layer) : ∀ entry ∈ layer.membersBefore, entry.1 < "volume" := by
  have hKnown : ∀ name ∈ ["backing", "backup", "cluster_size", "format", "preallocation", "secret"],
      name < "volume" := by decide
  have hNames : layer.membersBefore.map (·.1) ⊆
      ["backing", "backup", "cluster_size", "format", "preallocation", "secret"] := by
    unfold membersBefore
    cases layer.clusterSize <;> cases layer.preallocation <;> cases layer.secret <;>
      simp [textMember]
  exact fun entry hEntry => hKnown _ (hNames (List.mem_map_of_mem hEntry))

/-- Setting the volume in the document of a layer changes nothing else. -/
theorem setAt_documentWith (layer : Layer) (old volume : Json) :
    (layer.documentWith old).setAt ["spec", "volume"] volume = layer.documentWith volume := by
  rw [documentWith, Json.setAt, Json.updateMember_spec, Json.setAt, Json.updateMember,
    insertSorted_append_cons layer.lt_volume_of_mem]
  rfl

/-- The volume is found where it was put. -/
theorem follow?_documentWith (layer : Layer) (volume : Json) (path : List String) :
    (layer.documentWith volume).follow? ("spec" :: "volume" :: path) = volume.follow? path := by
  have hBefore : layer.membersBefore.lookup "volume" = none :=
    lookup_eq_none_of_forall_ne fun entry hEntry hSame =>
      String.lt_irrefl _ (hSame ▸ layer.lt_volume_of_mem entry hEntry)
  simp [documentWith, Json.follow?, Json.step?, lookup_cons_eq, List.lookup_append, hBefore]

end Layer

namespace Image

/-- The document of the image with the volume of each layer written in the given way. -/
def documentWith (volume : Option String → Json) (image : Image) : Json :=
  .obj [("meta", image.metaToJson),
    ("spec", .obj [("images", .object (image.layers.entries.map fun entry =>
      (entry.1, entry.2.documentWith (volume entry.2.volume))))])]

/-- **The document of the image has the ids for its volumes.** -/
theorem toJson_eq_documentWith (image : Image) :
    image.toJson = image.documentWith .ofOptionText := by
  simp only [toJson, layersToJson, documentWith, Layer.toJson_eq_documentWith]

/-- The document of the image with these documents of its layers. -/
def documentOf (image : Image) (layers : SortedMap Json) : Json :=
  .obj [("meta", image.metaToJson), ("spec", .obj [("images", .obj layers.entries)])]

/-- Setting the volume of one layer. -/
theorem setAt_documentOf {image : Image} {layers : SortedMap Json} {name : String} {layer : Layer}
    {old : Json} (h : layers.get? name = some (layer.documentWith old)) (volume : Json) :
    (image.documentOf layers).setAt ["spec", "images", name, "spec", "volume"] volume =
      image.documentOf (layers.insert name (layer.documentWith volume)) := by
  have hImages : ∀ f : Json → Json, (Json.obj [("images", .obj layers.entries)]).updateMember
      "images" f = .obj [("images", f (.obj layers.entries))] := by
    simp [Json.updateMember, insertSorted]
  have hLayer : layers.entries.lookup name = some (layer.documentWith old) := h
  rw [documentOf, Json.setAt, Json.updateMember_spec, Json.setAt, hImages, Json.setAt,
    Json.updateMember, hLayer, Option.getD_some, Layer.setAt_documentWith]
  rfl

end Image

/-! ## The volumes put in -/

/-- The document of a volume by its id, as it is registered. -/
def Registry.volumeDocument (registry : Registry) : Option String → Json
  | none => .null
  | some volume =>
    match registry.resource? volume with
    | some resource => resource.document.toJson
    | none => .null

theorem Registry.resourceInfo_of_found {registry : Registry} {id : String} {resource : Resource}
    (h : registry.resource? id = some resource) :
    registry.resourceInfo id none false = .ok resource.document.toJson := by
  obtain ⟨poolId, pool, hOwner, hPool, hStored⟩ := resource?_eq_some_iff.1 h
  have hPoolOf : registry.poolOf id = .ok pool := poolOf_eq_ok_iff.2 ⟨poolId, hOwner, hPool⟩
  have hDocument : pool.resourceInfo id false = .ok resource.document.toJson := by
    rw [Pool.resourceInfo, Pool.resourceDocument, Pool.resource_eq_ok_iff.2 hStored]
    rfl
  rw [resourceInfo, hPoolOf]
  show pool.resourceInfo id false >>= _ = _
  rw [hDocument]
  rfl

/-- The layer has a volume, which is registered. -/
def Layer.Standing (registry : Registry) (layer : Layer) : Prop :=
  ∃ volume resource, layer.volume = some volume ∧ registry.resource? volume = some resource

namespace Image

variable {image : Image} {registry : Registry}

/-- **The loop over the layers** puts the document of its volume into each of them. -/
theorem inlineVolumes_documentOf :
    ∀ {entries : List (String × Layer)} {layers : SortedMap Json},
      (entries.map (·.1)).Nodup → (∀ entry ∈ entries, entry.2.Standing registry) →
      (∀ entry ∈ entries, layers.get? entry.1 =
        some (entry.2.documentWith (.ofOptionText entry.2.volume))) →
      inlineVolumes registry (entries.filterMap fun entry => entry.2.volume.map (entry.1, ·))
          (image.documentOf layers) =
        .ok (image.documentOf
          ((entries.map fun entry =>
            (entry.1, entry.2.documentWith (registry.volumeDocument entry.2.volume))).foldl
              (fun map entry => map.insert entry.1 entry.2) layers))
  | [], _, _, _, _ => rfl
  | (name, layer) :: rest, layers, hNodup, hStanding, hLayers => by
    obtain ⟨hNew, hRest⟩ := List.nodup_cons.1 (List.map_cons ▸ hNodup)
    obtain ⟨volume, resource, hVolume, hFound⟩ : layer.Standing registry :=
      hStanding (name, layer) List.mem_cons_self
    have hShown : registry.volumeDocument layer.volume = resource.document.toJson := by
      simp only [Registry.volumeDocument, hVolume, hFound]
    -- what is set for one layer is not looked at by the others
    have hOthers : ∀ entry ∈ rest,
        (layers.insert name (layer.documentWith resource.document.toJson)).get? entry.1 =
          some (entry.2.documentWith (.ofOptionText entry.2.volume)) := by
      intro entry hEntry
      have hNe : entry.1 ≠ name := fun hSame =>
        hNew (hSame ▸ List.mem_map_of_mem (f := (·.1)) hEntry)
      rw [SortedMap.get?_insert, if_neg hNe]
      exact hLayers entry (List.mem_cons_of_mem _ hEntry)
    have hFilter : ((name, layer) :: rest).filterMap
        (fun entry => entry.2.volume.map (entry.1, ·)) =
          (name, volume) :: rest.filterMap fun entry => entry.2.volume.map (entry.1, ·) := by
      rw [List.filterMap_cons, hVolume]
      rfl
    rw [hFilter, inlineVolumes, Registry.resourceInfo_of_found hFound, List.map_cons,
      List.foldl_cons, hShown]
    show inlineVolumes registry _
      ((image.documentOf layers).setAt ["spec", "images", name, "spec", "volume"] _) = _
    rw [setAt_documentOf (hLayers (name, layer) List.mem_cons_self)]
    exact inlineVolumes_documentOf hRest
      (fun entry hEntry => hStanding entry (List.mem_cons_of_mem _ hEntry)) hOthers

/-- **What the document of an image is with its volumes in it**, if they are registered: nothing but
the volumes is written in another way. -/
theorem info_of_standing
    (h : ∀ {name layer}, image.layers.get? name = some layer → layer.Standing registry) :
    image.info registry true = .ok (image.documentWith registry.volumeDocument) := by
  let plain (layer : Layer) : Json := layer.documentWith (.ofOptionText layer.volume)
  let shown (layer : Layer) : Json := layer.documentWith (registry.volumeDocument layer.volume)
  have hPlain : ∀ key, (SortedMap.ofList (image.layers.mapValues plain).entries).get? key =
      (image.layers.get? key).map plain := by
    intro key
    rw [SortedMap.get?_ofList (image.layers.mapValues plain).nodup]
    exact lookup_map_snd plain key image.layers.entries
  have hShown : ∀ key, (image.layers.mapValues shown).entries.lookup key =
      (image.layers.get? key).map shown :=
    fun key => lookup_map_snd shown key image.layers.entries
  have hStart : image.toJson =
      image.documentOf (.ofList (image.layers.mapValues plain).entries) :=
    image.toJson_eq_documentWith
  rw [info, if_pos rfl, volumes, hStart, inlineVolumes_documentOf image.layers.nodup
    (fun entry hEntry => h (Table.mem_entries_iff.1 hEntry)) fun entry hEntry => by
      rw [hPlain, Table.mem_entries_iff.1 hEntry]
      rfl]
  -- every layer was there before, so that only what was put in is left
  have hSame : (image.layers.mapValues shown).entries.foldl
      (fun map entry => map.insert entry.1 entry.2)
        (SortedMap.ofList (image.layers.mapValues plain).entries) =
          SortedMap.ofList (image.layers.mapValues shown).entries := by
    refine SortedMap.ext_get? fun key => ?_
    rw [SortedMap.get?_foldl_insert key (image.layers.mapValues shown).nodup, hPlain,
      SortedMap.get?_ofList (image.layers.mapValues shown).nodup, hShown]
    cases image.layers.get? key <;> rfl
  exact congrArg (fun layers => Except.ok (image.documentOf layers)) hSame

/-- Where in the document the volume of a layer is found. -/
theorem follow?_documentWith (volume : Option String → Json) (image : Image) (name : String)
    (path : List String) :
    (image.documentWith volume).follow? ("spec" :: "images" :: name :: "spec" :: "volume" :: path) =
      (image.layers.get? name).bind fun layer => (volume layer.volume).follow? path := by
  let shown (layer : Layer) : Json := layer.documentWith (volume layer.volume)
  have hLayers : (SortedMap.ofList (image.layers.mapValues shown).entries).entries.lookup name =
      (image.layers.get? name).map shown :=
    (SortedMap.get?_ofList (image.layers.mapValues shown).nodup name).trans
      (lookup_map_snd shown name image.layers.entries)
  have hImages : (image.documentWith volume).follow?
      ("spec" :: "images" :: name :: "spec" :: "volume" :: path) =
        ((SortedMap.ofList (image.layers.mapValues shown).entries).entries.lookup name).bind
          fun layer => layer.follow? ("spec" :: "volume" :: path) := by
    simp only [documentWith, Json.object, Json.follow?, Json.step?, lookup_cons_eq]
    rfl
  rw [hImages, hLayers, Option.bind_map]
  exact congrArg _ (funext fun layer => layer.follow?_documentWith _ path)

end Image

namespace ResourceDocument

theorem follow?_uuid (resource : ResourceDocument) :
    resource.toJson.follow? ["meta", "uuid"] = some (.ofOptionText resource.id) := by
  cases hRaw : resource.raw <;>
    simp [toJson, metaToJson, Json.follow?, Json.step?, lookup_cons_eq, hRaw]

theorem follow?_allocated (resource : ResourceDocument) :
    resource.toJson.follow? ["meta", "allocated"] = some (.bool resource.allocated) := by
  simp [toJson, metaToJson, Json.follow?, Json.step?]

end ResourceDocument

/-! ## Requests for image work -/

namespace Session

variable {σ : Type} {session : Session σ} {call : Call} {command : String} {args : Json}

/-- Where a request has the volume of a layer. -/
def volumePath (name : String) : List String :=
  ["image", "spec", "images", name, "spec", "volume"]

/-- The request carries the document of the image as it is, except that each layer has its volume
written as the document that is registered of it instead of as its id. That document has this id. -/
structure Shows (session : Session σ) (call : Call) : Prop where
  own : session.image.toJson = session.image.documentWith .ofOptionText
  document : call.args.get? "image" =
    some (session.image.documentWith session.world.registry.volumeDocument)
  volumes : ∀ {name layer}, session.image.layers.get? name = some layer →
    ∃ volume resource, layer.volume = some volume ∧
      session.world.registry.resource? volume = some resource ∧
      call.args.follow? (volumePath name) = some resource.document.toJson ∧
      call.args.follow? (volumePath name ++ ["meta", "uuid"]) = some (.str volume)

/-- Every layer of the image stands on a registered volume of a sound world. -/
structure Standing (session : Session σ) : Prop where
  sound : session.world.Sound
  layers : ∀ {name layer}, session.image.layers.get? name = some layer →
    layer.Standing session.world.registry

/-- **What a request shows** of an image whose layers stand on registered volumes. -/
theorem Standing.shows_of_callFor (h : session.Standing)
    (hCall : session.image.callFor session.world.registry command args = .ok call) :
    session.Shows call := by
  obtain ⟨node, -, hRest⟩ := Action.bind_eq_ok_iff.1 hCall
  obtain ⟨document, hDocument, hPure⟩ := Action.bind_eq_ok_iff.1 hRest
  rw [Image.info_of_standing h.layers] at hDocument
  obtain rfl := Except.ok.inj hDocument
  obtain rfl := Except.ok.inj hPure
  refine ⟨session.image.toJson_eq_documentWith, by simp [Json.get?, lookup_cons_eq],
    fun {name layer} hLayer => ?_⟩
  obtain ⟨volume, resource, hVolume, hFound⟩ := h.layers hLayer
  have hPlace : (Json.obj [("command", .obj [(command, args)]),
      ("image", session.image.documentWith session.world.registry.volumeDocument)]).follow?
        (volumePath name) = some resource.document.toJson := by
    have hImage := Image.follow?_documentWith session.world.registry.volumeDocument session.image
      name []
    rw [hLayer, Option.bind_some, hVolume, Registry.volumeDocument, hFound, Json.follow?] at hImage
    rw [← hImage, volumePath, Json.follow?, Json.step?]
    simp [lookup_cons_eq]
  obtain ⟨poolId, pool, -, hPool, hStored⟩ := Registry.resource?_eq_some_iff.1 hFound
  refine ⟨volume, resource, hVolume, hFound, hPlace, ?_⟩
  rw [Json.follow?_append, hPlace, Option.bind_some, ResourceDocument.follow?_uuid,
    (h.sound.registry.housed hPool hStored).named]
  rfl

/-- A volume that holds storage is shown so. -/
theorem Shows.allocated (h : session.Shows call) {name volume : String} {layer : Layer}
    (hLayer : session.image.layers.get? name = some layer) (hVolume : layer.volume = some volume)
    (hHeld : session.world.registry.allocated? volume = some true) :
    call.args.follow? (volumePath name ++ ["meta", "allocated"]) = some (.bool true) := by
  obtain ⟨other, resource, hOther, hFound, hPlace, -⟩ := h.volumes hLayer
  obtain rfl := Option.some.inj (hVolume.symm.trans hOther)
  rw [Registry.allocated?, hFound, Option.map_some] at hHeld
  rw [Json.follow?_append, hPlace, Option.bind_some, ResourceDocument.follow?_allocated,
    Option.some.inj hHeld]

end Session

end DiskFleet
