import DiskFleet.Agent.Link
import DiskFleet.Image.Document
import DiskFleet.Pool.Document
import DiskFleet.Proofs.Json.Record

/-!
# Documents that are read back

The documents of resources, pools and images and the replies of an agent are written as trees and
read back from them. Writing skips a member here and there: a file name that is not given, the mark
of a raw device where there is none, the sections that a pool does not have. Other members hold
`null` instead. Reading has to know which is which, and has to find out from its members alone
whether a specification is that of a volume or that of a port.

For each document, `fields` lists what is written of it, with `none` for a member that is skipped;
`toJson_eq` says that the document is the object of these fields, and what the reader finds in them
follows from `Record.required_written` and its siblings.

Layers are written in the order of their names. An image that is read back therefore has the layers
it had, in that order (`Image.sortedLayers`), and nothing else has changed.

## Main results

* `PortSpec.volume_ofJson?_toJson`: a port is never read as a volume;
* `documents_survive_writing`: every document is read back as it was.
-/

namespace DiskFleet

open Record

/-! ## Resources -/

namespace VolumeSpec

def fields (spec : VolumeSpec) : List (String × Option Json) :=
  [("allocation", some (Json.ofOptionWord64 spec.allocation)), ("filename", spec.filename.map .str),
    ("size", some (Json.ofWord64 spec.size)), ("uri", some (Json.ofOptionText spec.uri))]

theorem toJson_eq (spec : VolumeSpec) : spec.toJson = .obj (written spec.fields) := by
  rw [toJson, fields]
  cases spec.filename <;> rfl

theorem ofJson?_toJson (spec : VolumeSpec) : ofJson? spec.toJson = some spec := by
  have hFields : (spec.fields.map (·.1)).Nodup := by simp [fields]
  simp only [ofJson?, toJson_eq, Json.record?, some_bind,
    required_written hFields, optional_written hFields, optionalOr_written hFields]
  simp [fields, lookup_cons_eq]

end VolumeSpec

namespace PortSpec

def fields (spec : PortSpec) : List (String × Option Json) :=
  [("fds", some (.arr (spec.fds.map fun fd => .int fd.toInt))),
    ("ifname", some (Json.ofOptionText spec.ifname)),
    ("switch", some (Json.ofOptionText spec.switch))]

theorem toJson_eq (spec : PortSpec) : spec.toJson = .obj (written spec.fields) := rfl

theorem fdsOfJson?_map (fds : List Int32) :
    fdsOfJson? (.arr (fds.map fun fd => .int fd.toInt)) = some fds := by
  show (fds.map fun fd => Json.int fd.toInt).mapM Json.asInt32? = some fds
  induction fds with
  | nil => rfl
  | cons fd rest ih => simp [ih]

theorem ofJson?_toJson (spec : PortSpec) : ofJson? spec.toJson = some spec := by
  have hFields : (spec.fields.map (·.1)).Nodup := by simp [fields]
  simp only [ofJson?, toJson_eq, Json.record?, some_bind,
    orElse_written hFields, optionalOr_written hFields]
  simp [fields, lookup_cons_eq, fdsOfJson?_map]

/-- A port has no size, so that it is never read as a volume. -/
theorem volume_ofJson?_toJson (spec : PortSpec) : VolumeSpec.ofJson? spec.toJson = none := by
  have hFields : (spec.fields.map (·.1)).Nodup := by simp [fields]
  simp only [VolumeSpec.ofJson?, toJson_eq, Json.record?, some_bind,
    required_written hFields]
  simp [fields, lookup_cons_eq]

end PortSpec

theorem ResourceSpec.ofJson?_toJson (spec : ResourceSpec) : ofJson? spec.toJson = some spec := by
  cases spec with
  | volume spec => rw [ofJson?, toJson, VolumeSpec.ofJson?_toJson]
  | port spec => rw [ofJson?, toJson, PortSpec.volume_ofJson?_toJson, PortSpec.ofJson?_toJson]; rfl

namespace ResourceDocument

def headFields (resource : ResourceDocument) : List (String × Option Json) :=
  [("allocated", some (.bool resource.allocated)),
    ("bindings", some (.ofSortedMap bindingToJson resource.bindings)),
    ("name", some (.str resource.name)), ("pool", some (.ofOptionText resource.pool)),
    ("raw", (if resource.raw then some true else none).map .bool),
    ("type", some (.str resource.type.word)), ("uuid", some (.ofOptionText resource.id)),
    ("volume_type", resource.volumeKind.map fun kind => .str kind.word)]

def fields (resource : ResourceDocument) : List (String × Option Json) :=
  [("meta", some resource.metaToJson), ("spec", some resource.spec.toJson)]

theorem metaToJson_eq (resource : ResourceDocument) :
    resource.metaToJson = .obj (written resource.headFields) := by
  rw [metaToJson, headFields]
  cases resource.raw <;> cases resource.volumeKind <;> rfl

theorem toJson_eq (resource : ResourceDocument) :
    resource.toJson = .obj (written resource.fields) := rfl

theorem bindingOfJson?_bindingToJson (backing : String) :
    bindingOfJson? (bindingToJson backing) = some backing := rfl

theorem ofJson?_toJson (resource : ResourceDocument) :
    ofJson? resource.toJson = some resource := by
  have hFields : (resource.fields.map (·.1)).Nodup := by simp [fields]
  have hHead : (resource.headFields.map (·.1)).Nodup := by simp [headFields]
  have hMeta : Json.record? 8 resource.metaToJson =
      some (.named (written resource.headFields)) := by
    rw [metaToJson_eq]
    rfl
  have hBindings : (Json.ofSortedMap bindingToJson resource.bindings).asMap? bindingOfJson? =
      some resource.bindings :=
    Json.asMap?_ofSortedMap bindingOfJson?_bindingToJson resource.bindings
  have hType : (Json.str resource.type.word).asWord?.bind ResourceType.ofWord? =
      some resource.type := ResourceType.ofWord?_word resource.type
  have hWord (kind : VolumeKind) :
      Json.nullable (fun word => word.asWord?.bind VolumeKind.ofWord?) (.str kind.word) =
        some (some kind) :=
    congrArg (Option.map some) (VolumeKind.ofWord?_word kind)
  have hKind : absentOr (fun word => word.asWord?.bind VolumeKind.ofWord?)
      (resource.volumeKind.map fun kind => Json.str kind.word) = some resource.volumeKind :=
    absentOr_map hWord _
  have hRaw : ((((if resource.raw then some true else none).map Json.bool).map Json.asBool?).getD
      (some false)) = some resource.raw := by
    cases resource.raw <;> rfl
  simp only [ofJson?, toJson_eq, Json.record?, some_bind,
    required_written hFields]
  simp only [fields, lookup_cons_eq, String.reduceEq, if_true, if_false, Option.join_some,
    Option.bind_some, some_bind, hMeta, ResourceSpec.ofJson?_toJson, required_written hHead,
    optional_written hHead, optionalOr_written hHead, orElse_written hHead]
  simp only [headFields, lookup_cons_eq, String.reduceEq, if_true, if_false, Option.join_some,
    Option.bind_some, some_bind, hType, hBindings, hKind, hRaw, absentOr_some,
    Option.map_some, Option.getD_some, Json.nullable_ofOptionText, Json.asText?_str,
    Json.asBool?_bool, Option.pure_def]

end ResourceDocument

/-! ## Pools -/

theorem FilesystemSection.ofJson?_toJson (s : FilesystemSection) :
    ofJson? s.toJson = some s := rfl

theorem LvmSection.ofJson?_toJson (s : LvmSection) : ofJson? s.toJson = some s := rfl

namespace RbdSection

def fields (s : RbdSection) : List (String × Option Json) :=
  [("monitors", some (.ofTexts s.monitors)), ("namespace", some (.str s.subspace)),
    ("pool_name", some (.str s.poolName))]

theorem toJson_eq (s : RbdSection) : s.toJson = .obj (written s.fields) := rfl

theorem ofJson?_toJson (s : RbdSection) : ofJson? s.toJson = some s := by
  have hFields : (s.fields.map (·.1)).Nodup := by simp [fields]
  simp only [ofJson?, toJson_eq, Json.record?, some_bind,
    required_written hFields, orElse_written hFields]
  simp [fields, lookup_cons_eq]

end RbdSection

namespace BridgeSection

def fields (s : BridgeSection) : List (String × Option Json) :=
  [("export", some (.ofSortedMap .str s.uplinks)), ("switch", some (.ofSortedMap .str s.bridges))]

theorem toJson_eq (s : BridgeSection) : s.toJson = .obj (written s.fields) := rfl

theorem ofJson?_toJson (s : BridgeSection) : ofJson? s.toJson = some s := by
  have hFields : (s.fields.map (·.1)).Nodup := by simp [fields]
  have hTexts (map : SortedMap String) :
      (Json.ofSortedMap .str map).asMap? Json.asText? = some map :=
    Json.asMap?_ofSortedMap Json.asText?_str map
  simp only [ofJson?, toJson_eq, Json.record?, some_bind,
    orElse_written hFields]
  simp [fields, lookup_cons_eq, hTexts]

end BridgeSection

namespace PoolSpec

def fields (spec : PoolSpec) : List (String × Option Json) :=
  [("bridge", spec.bridge.map BridgeSection.toJson),
    ("filesystem", spec.filesystem.map FilesystemSection.toJson),
    ("lvm", spec.lvm.map LvmSection.toJson), ("rbd", spec.rbd.map RbdSection.toJson)]

theorem toJson_eq (spec : PoolSpec) : spec.toJson = .obj (written spec.fields) := by
  rcases spec with ⟨_ | _, _ | _, _ | _, _ | _⟩ <;> rfl

theorem ofJson?_toJson (spec : PoolSpec) : ofJson? spec.toJson = some spec := by
  have hFields : (spec.fields.map (·.1)).Nodup := by simp [fields]
  have hFilesystem : absentOr FilesystemSection.ofJson?
      (spec.filesystem.map FilesystemSection.toJson) = .some spec.filesystem :=
    absentOr_map (fun s => nullable_obj s.ofJson?_toJson) _
  have hLvm : absentOr LvmSection.ofJson? (spec.lvm.map LvmSection.toJson) = .some spec.lvm :=
    absentOr_map (fun s => nullable_obj s.ofJson?_toJson) _
  have hRbd : absentOr RbdSection.ofJson? (spec.rbd.map RbdSection.toJson) = .some spec.rbd :=
    absentOr_map (fun s => nullable_obj s.ofJson?_toJson) _
  have hBridge : absentOr BridgeSection.ofJson?
      (spec.bridge.map BridgeSection.toJson) = .some spec.bridge :=
    absentOr_map (fun s => nullable_obj s.ofJson?_toJson) _
  simp only [ofJson?, toJson_eq, Json.record?, some_bind,
    optionalOr_written hFields]
  simp [fields, lookup_cons_eq, hFilesystem, hLvm, hRbd, hBridge]

end PoolSpec

namespace PoolDocument

def headFields (pool : PoolDocument) : List (String × Option Json) :=
  [("access", some (.obj [("nodes", .ofTexts pool.access)])), ("name", some (.str pool.name)),
    ("type", some (.str pool.kind.word)), ("uuid", some (.ofOptionText pool.id))]

def fields (pool : PoolDocument) : List (String × Option Json) :=
  [("meta", some pool.metaToJson), ("spec", some pool.spec.toJson)]

theorem metaToJson_eq (pool : PoolDocument) :
    pool.metaToJson = .obj (written pool.headFields) := rfl

theorem toJson_eq (pool : PoolDocument) : pool.toJson = .obj (written pool.fields) := rfl

theorem accessOfJson?_nodes (nodes : List String) :
    accessOfJson? (.obj [("nodes", .ofTexts nodes)]) = some nodes :=
  Json.asTexts?_ofTexts nodes

theorem ofJson?_toJson (pool : PoolDocument) : ofJson? pool.toJson = some pool := by
  have hFields : (pool.fields.map (·.1)).Nodup := by simp [fields]
  have hHead : (pool.headFields.map (·.1)).Nodup := by simp [headFields]
  have hMeta : Json.record? 4 pool.metaToJson = some (.named (written pool.headFields)) := rfl
  have hKind : (Json.str pool.kind.word).asWord?.bind PoolKind.ofWord? = some pool.kind :=
    PoolKind.ofWord?_word pool.kind
  simp only [ofJson?, toJson_eq, Json.record?, some_bind,
    required_written hFields, orElse_written hFields]
  simp only [fields, lookup_cons_eq, String.reduceEq, if_true, if_false, Option.join_some,
    Option.bind_some, some_bind, Option.map_some, Option.getD_some, hMeta, PoolSpec.ofJson?_toJson,
    required_written hHead, optional_written hHead, orElse_written hHead]
  simp [headFields, lookup_cons_eq, accessOfJson?_nodes, hKind]

end PoolDocument

/-! ## Images -/

theorem Topology.ofJson?_toJson (topology : Topology) :
    ofJson? topology.toJson = some topology := by
  cases topology <;> simp [ofJson?, toJson]

namespace Layer

def headFields (layer : Layer) : List (String × Option Json) :=
  [("name", some (.str layer.name)), ("type", some (.str imageTypeWord)),
    ("uuid", some (.ofOptionText layer.id))]

def specFields (layer : Layer) : List (String × Option Json) :=
  [("backing", some (.ofOptionText layer.backing)), ("backup", some (.ofOptionText layer.backup)),
    ("cluster_size", layer.clusterSize.map .str), ("format", some (.str layer.format.word)),
    ("preallocation", layer.preallocation.map .str), ("secret", layer.secret.map .str),
    ("volume", some (.ofOptionText layer.volume)),
    ("volume_config", layer.definition.map ResourceDocument.toJson)]

def fields (layer : Layer) : List (String × Option Json) :=
  [("meta", some layer.metaToJson), ("spec", some layer.specToJson)]

theorem metaToJson_eq (layer : Layer) : layer.metaToJson = .obj (written layer.headFields) := rfl

theorem textMember_eq (name : String) (text : Option String) :
    textMember name text = ((text.map Json.str).map (name, ·)).toList := by
  cases text <;> rfl

theorem definitionMember_eq (definition : Option ResourceDocument) :
    definitionMember definition =
      ((definition.map ResourceDocument.toJson).map ("volume_config", ·)).toList := by
  cases definition <;> rfl

theorem specToJson_eq (layer : Layer) : layer.specToJson = .obj (written layer.specFields) := by
  simp only [specToJson, specFields, written_cons, textMember_eq, definitionMember_eq,
    Option.map_some, Option.toList_some, List.append_assoc, List.cons_append, List.nil_append]
  simp [written]

theorem toJson_eq (layer : Layer) : layer.toJson = .obj (written layer.fields) := rfl

theorem ofJson?_toJson (layer : Layer) : ofJson? layer.toJson = some layer := by
  have hFields : (layer.fields.map (·.1)).Nodup := by simp [fields]
  have hHead : (layer.headFields.map (·.1)).Nodup := by simp [headFields]
  have hSpec : (layer.specFields.map (·.1)).Nodup := by simp [specFields]
  have hMetaRecord : Json.record? 3 layer.metaToJson =
      some (.named (written layer.headFields)) := rfl
  have hSpecRecord : Json.record? 8 layer.specToJson =
      some (.named (written layer.specFields)) := by
    rw [specToJson_eq]
    rfl
  have hType : imageTypeOfJson? (.str imageTypeWord) = some () := rfl
  have hFormat : (Json.str layer.format.word).asWord?.bind LayerFormat.ofWord? =
      some layer.format := LayerFormat.ofWord?_word layer.format
  have hDefinition : absentOr ResourceDocument.ofJson?
      (layer.definition.map ResourceDocument.toJson) = some layer.definition :=
    absentOr_map (fun definition => nullable_obj definition.ofJson?_toJson) _
  simp only [ofJson?, toJson_eq, Json.record?, some_bind,
    required_written hFields]
  simp only [fields, lookup_cons_eq, String.reduceEq, if_true, if_false, Option.join_some,
    Option.bind_some, some_bind, hMetaRecord, hSpecRecord, required_written hHead,
    optional_written hHead, required_written hSpec, optionalOr_written hSpec]
  simp only [headFields, specFields, lookup_cons_eq, String.reduceEq, if_true, if_false,
    Option.join_some, Option.bind_some, some_bind, hType, hFormat, hDefinition, absentOr_some,
    absentOr_text, Json.asText?_str, Json.nullable_ofOptionText, Option.pure_def]

end Layer

namespace Image

def headFields (image : Image) : List (String × Option Json) :=
  [("name", some (.str image.name)), ("owner", some (.ofOptionText image.owner)),
    ("topology", some image.topology.toJson), ("type", some (.str imageTypeWord)),
    ("uuid", some (.ofOptionText image.id))]

def specFields (image : Image) : List (String × Option Json) :=
  [("images", some image.layersToJson)]

def fields (image : Image) : List (String × Option Json) :=
  [("meta", some image.metaToJson), ("spec", some (.obj (written image.specFields)))]

theorem metaToJson_eq (image : Image) : image.metaToJson = .obj (written image.headFields) := rfl

theorem toJson_eq (image : Image) : image.toJson = .obj (written image.fields) := rfl

/-- The layers in the order of their names, which is the order in which they are written. -/
def sortedLayers (image : Image) : Table Layer :=
  ⟨(SortedMap.ofList image.layers.entries).entries, SortedMap.nodup_keys _⟩

theorem perm_sortedLayers (image : Image) :
    image.sortedLayers.entries.Perm image.layers.entries :=
  SortedMap.perm_ofList image.layers.nodup

theorem layersOfJson?_layersToJson (image : Image) :
    layersOfJson? image.layersToJson = some image.sortedLayers := by
  have hDecode : ∀ entries : List (String × Layer),
      (entries.map fun entry => (entry.1, entry.2.toJson)).mapM
        (fun entry => (Layer.ofJson? entry.2).map (entry.1, ·)) = some entries := by
    intro entries
    induction entries with
    | nil => rfl
    | cons entry rest ih => simp [Layer.ofJson?_toJson, ih]
  have hWritten : image.layersToJson =
      .obj (image.sortedLayers.entries.map fun entry => (entry.1, entry.2.toJson)) := by
    rw [layersToJson, Json.object, SortedMap.entries_ofList_map, sortedLayers]
  rw [hWritten]
  show (_ : Option (List (String × Layer))).bind _ = _
  rw [hDecode, Option.bind_some, Table.ofList_entries]
  rfl

theorem ofJson?_toJson (image : Image) :
    ofJson? image.toJson = some { image with layers := image.sortedLayers } := by
  have hFields : (image.fields.map (·.1)).Nodup := by simp [fields]
  have hHead : (image.headFields.map (·.1)).Nodup := by simp [headFields]
  have hSpec : (image.specFields.map (·.1)).Nodup := by simp [specFields]
  have hMetaRecord : Json.record? 5 image.metaToJson =
      some (.named (written image.headFields)) := rfl
  have hSpecRecord : Json.record? 1 (.obj (written image.specFields)) =
      some (.named (written image.specFields)) := rfl
  have hType : Layer.imageTypeOfJson? (.str imageTypeWord) = some () := rfl
  simp only [ofJson?, toJson_eq, Json.record?, some_bind,
    required_written hFields]
  simp only [fields, lookup_cons_eq, String.reduceEq, if_true, if_false, Option.join_some,
    Option.bind_some, some_bind, hMetaRecord, hSpecRecord, required_written hHead,
    optional_written hHead, required_written hSpec, optionalOr_written hHead]
  simp [headFields, specFields, lookup_cons_eq, hType, Topology.ofJson?_toJson,
    layersOfJson?_layersToJson]

end Image

/-! ## Replies -/

namespace Reply

def fields (reply : Reply) : List (String × Option Json) :=
  [("result", some reply.result), ("status", some (.int reply.status.toInt))]

theorem toJson_eq (reply : Reply) : reply.toJson = .obj (written reply.fields) := rfl

theorem ofJson?_toJson (reply : Reply) : ofJson? reply.toJson = some reply := by
  have hFields : (reply.fields.map (·.1)).Nodup := by simp [fields]
  simp only [ofJson?, toJson_eq, Json.record?, some_bind,
    required_written hFields]
  simp [fields, lookup_cons_eq]

end Reply

/-- **Documents survive being written.** A resource, whatever its specification and whichever of its
fields are given, a pool and a reply are read back as they were, and so is an image up to the order
of its layers. A specification by itself comes back as the variant it was, so that what was skipped
for one is never taken for the other. -/
theorem documents_survive_writing :
    (∀ resource : ResourceDocument, ResourceDocument.ofJson? resource.toJson = some resource) ∧
    (∀ spec : ResourceSpec, ResourceSpec.ofJson? spec.toJson = some spec) ∧
    (∀ pool : PoolDocument, PoolDocument.ofJson? pool.toJson = some pool) ∧
    (∀ image : Image, ∃ layers : Table Layer,
      Image.ofJson? image.toJson = some { image with layers } ∧
        layers.entries.Perm image.layers.entries) ∧
    (∀ reply : Reply, Reply.ofJson? reply.toJson = some reply) :=
  ⟨ResourceDocument.ofJson?_toJson, ResourceSpec.ofJson?_toJson, PoolDocument.ofJson?_toJson,
    fun image => ⟨image.sortedLayers, image.ofJson?_toJson, image.perm_sortedLayers⟩,
    Reply.ofJson?_toJson⟩

end DiskFleet
