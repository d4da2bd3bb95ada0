import DiskFleet.Map.Table
import DiskFleet.Resource.Document

/-!
# Image documents

A virtual image is the disk of a machine. It is made of layers, each on a volume of its own: a chain
from the base to the top, where a layer is backed by the one before it, and further layers outside
the chain, such as backups. The image has the name of its top layer.

A layer carries the definition of its volume until the layer object is made and the id of the volume
after that. The layers are kept in the order in which they were added.
-/

namespace DiskFleet

/-- How the layers of the chain are arranged, base first. A chain of one layer is written as a
single layer; a document that is given may say otherwise. -/
inductive Topology
  | single (names : List String)
  | chain (names : List String)
deriving DecidableEq, Repr

namespace Topology

/-- The topology of a list of names. -/
def ofNames (names : List String) : Topology :=
  if 1 < names.length then chain names else single names

def names : Topology → List String
  | single names | chain names => names

def isChain : Topology → Bool
  | single _ => false
  | chain _ => true

/-- The layer that the machine writes to. -/
def top? (topology : Topology) : Option String := topology.names.getLast?

def contains (topology : Topology) (name : String) : Bool := topology.names.contains name

/-- The topology with a new top. -/
def pushed (topology : Topology) (name : String) : Topology := ofNames (topology.names ++ [name])

/-- The topology without its top. -/
def popped (topology : Topology) : Topology := ofNames topology.names.dropLast

@[simp] theorem names_ofNames (names : List String) : (ofNames names).names = names := by
  unfold ofNames; split <;> rfl

/-- Taking the top away leaves the names that were there before it was put on. -/
theorem popped_pushed (topology : Topology) (name : String) :
    (topology.pushed name).popped = ofNames topology.names := by
  simp [pushed, popped]

theorem names_popped_pushed (topology : Topology) (name : String) :
    (topology.pushed name).popped.names = topology.names := by
  rw [popped_pushed, names_ofNames]

end Topology

/-- The storage formats of a layer. -/
inductive LayerFormat
  | raw
  | qcow2
  | luks
deriving DecidableEq, Repr

namespace LayerFormat

def word : LayerFormat → String
  | raw => "raw"
  | qcow2 => "qcow2"
  | luks => "luks"

def ofWord? : String → Option LayerFormat
  | "raw" => some raw
  | "qcow2" => some qcow2
  | "luks" => some luks
  | _ => none

theorem ofWord?_word (format : LayerFormat) : ofWord? format.word = some format := by
  cases format <;> rfl

end LayerFormat

/-- The one type of image there is. -/
def imageTypeWord : String := "qemu"

/-- A layer of an image. -/
structure Layer where
  id : Option String
  name : String
  format : LayerFormat
  /-- The layer that this one is backed by. -/
  backing : Option String
  /-- The layer that holds the backup of this one. -/
  backup : Option String
  /-- The id of the volume, once the layer object exists. -/
  volume : Option String
  /-- The definition of the volume, until then. -/
  definition : Option ResourceDocument
  clusterSize : Option String
  preallocation : Option String
  secret : Option String
deriving DecidableEq

/-- The document of an image. -/
structure Image where
  id : Option String
  name : String
  owner : Option String
  topology : Topology
  /-- The layers by name, in the order in which they were added. -/
  layers : Table Layer
deriving DecidableEq

namespace Image

/-- The id, empty until the image object exists. -/
def idText (image : Image) : String := image.id.getD ""

/-- The volumes of the layers that have one, by the names of the layers. -/
def volumes (image : Image) : List (String × String) :=
  image.layers.entries.filterMap fun entry => entry.2.volume.map (entry.1, ·)

def isOwnedBy (image : Image) (machine : String) : Bool := image.owner == some machine

end Image

/-! ## Documents as trees -/

namespace Topology

def toJson : Topology → Json
  | single names => .obj [("none", .ofTexts names)]
  | chain names => .obj [("chain", .ofTexts names)]

def ofJson? : Json → Option Topology
  | .obj [("none", names)] => (Json.asTexts? names).map single
  | .obj [("chain", names)] => (Json.asTexts? names).map chain
  | _ => none

end Topology

namespace Layer

/-- A member that is left out where there is no text. -/
def textMember (name : String) : Option String → List (String × Json)
  | none => []
  | some text => [(name, .str text)]

def definitionMember : Option ResourceDocument → List (String × Json)
  | none => []
  | some definition => [("volume_config", definition.toJson)]

def metaToJson (layer : Layer) : Json :=
  .obj [("name", .str layer.name), ("type", .str imageTypeWord), ("uuid", .ofOptionText layer.id)]

def specToJson (layer : Layer) : Json :=
  .obj ([("backing", .ofOptionText layer.backing), ("backup", .ofOptionText layer.backup)] ++
    textMember "cluster_size" layer.clusterSize ++
    [("format", .str layer.format.word)] ++
    textMember "preallocation" layer.preallocation ++
    textMember "secret" layer.secret ++
    [("volume", .ofOptionText layer.volume)] ++
    definitionMember layer.definition)

def toJson (layer : Layer) : Json := .obj [("meta", layer.metaToJson), ("spec", layer.specToJson)]

/-- Accepts the word for the one type of image. -/
def imageTypeOfJson? (json : Json) : Option Unit :=
  match json.asWord? with
  | some word => if word = imageTypeWord then some () else none
  | none => none

def ofJson? (json : Json) : Option Layer := do
  let record ← json.record? 2
  let head ← record.required 0 "meta" (Json.record? 3)
  let spec ← record.required 1 "spec" (Json.record? 8)
  head.required 2 "type" imageTypeOfJson?
  return {
    id := ← head.optional 0 "uuid" Json.asText?
    name := ← head.required 1 "name" Json.asText?
    format := ← spec.required 0 "format" fun word => word.asWord?.bind LayerFormat.ofWord?
    backing := ← spec.optionalOr 1 "backing" Json.asText?
    backup := ← spec.optionalOr 2 "backup" Json.asText?
    volume := ← spec.optionalOr 3 "volume" Json.asText?
    definition := ← spec.optionalOr 4 "volume_config" ResourceDocument.ofJson?
    clusterSize := ← spec.optionalOr 5 "cluster_size" Json.asText?
    preallocation := ← spec.optionalOr 6 "preallocation" Json.asText?
    secret := ← spec.optionalOr 7 "secret" Json.asText? }

end Layer

namespace Image

def metaToJson (image : Image) : Json :=
  .obj [("name", .str image.name), ("owner", .ofOptionText image.owner),
    ("topology", image.topology.toJson), ("type", .str imageTypeWord),
    ("uuid", .ofOptionText image.id)]

/-- The layers as an object, whose members are in key order. -/
def layersToJson (image : Image) : Json :=
  .object (image.layers.entries.map fun entry => (entry.1, entry.2.toJson))

def toJson (image : Image) : Json :=
  .obj [("meta", image.metaToJson), ("spec", .obj [("images", image.layersToJson)])]

def layersOfJson? : Json → Option (Table Layer)
  | .obj members => do
    let entries ← members.mapM fun entry => (Layer.ofJson? entry.2).map (entry.1, ·)
    return .ofList entries
  | _ => none

def ofJson? (json : Json) : Option Image := do
  let record ← json.record? 2
  let head ← record.required 0 "meta" (Json.record? 5)
  let spec ← record.required 1 "spec" (Json.record? 1)
  head.required 2 "type" Layer.imageTypeOfJson?
  return {
    id := ← head.optional 0 "uuid" Json.asText?
    name := ← head.required 1 "name" Json.asText?
    owner := ← head.optionalOr 3 "owner" Json.asText?
    topology := ← head.required 4 "topology" Topology.ofJson?
    layers := ← spec.required 0 "images" layersOfJson? }

end Image

end DiskFleet
