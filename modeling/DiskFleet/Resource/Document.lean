import DiskFleet.Json.Record

/-!
# Resource documents

A resource is what a client asks for: a storage volume or a network port. Its document holds who it
is, the pool it belongs to, whether its storage exists (`allocated`), the backing that each bound
node reaches it by, and a specification of its type.

A resource gets its id when the resource object is made. A document that is given may pair a type
with the specification of the other type; the operations take that into account.
-/

namespace DiskFleet

/-- The types of resource. -/
inductive ResourceType
  | volume
  | port
deriving DecidableEq, Repr

namespace ResourceType

def word : ResourceType → String
  | volume => "volume"
  | port => "port"

def ofWord? : String → Option ResourceType
  | "volume" => some volume
  | "port" => some port
  | _ => none

theorem ofWord?_word (type : ResourceType) : ofWord? type.word = some type := by
  cases type <;> rfl

end ResourceType

/-- What a volume is made of. -/
inductive VolumeKind
  /-- A disk image file. -/
  | file
  /-- A disk, a partition or a logical volume. -/
  | block
  /-- A block device reached over the network. -/
  | network
deriving DecidableEq, Repr

namespace VolumeKind

def word : VolumeKind → String
  | file => "file"
  | block => "block"
  | network => "network"

def ofWord? : String → Option VolumeKind
  | "file" => some file
  | "block" => some block
  | "network" => some network
  | _ => none

theorem ofWord?_word (kind : VolumeKind) : ofWord? kind.word = some kind := by
  cases kind <;> rfl

end VolumeKind

/-- The specification of a volume; sizes are in bytes. -/
structure VolumeSpec where
  size : UInt64
  allocation : Option UInt64
  uri : Option String
  filename : Option String
deriving DecidableEq, Repr

/-- The specification of a port: the bridge it is plugged into, its interface and the descriptors
that the node handed out. -/
structure PortSpec where
  switch : Option String
  ifname : Option String
  fds : List Int32
deriving DecidableEq, Repr

namespace PortSpec

/-- A port that has nothing yet. -/
def blank : PortSpec := ⟨none, none, []⟩

end PortSpec

inductive ResourceSpec
  | volume (spec : VolumeSpec)
  | port (spec : PortSpec)
deriving DecidableEq, Repr

/-- The document of a resource. -/
structure ResourceDocument where
  id : Option String
  name : String
  type : ResourceType
  pool : Option String
  allocated : Bool
  /-- The backing of the resource on each bound node. -/
  bindings : SortedMap String
  volumeKind : Option VolumeKind
  raw : Bool
  spec : ResourceSpec
deriving DecidableEq

namespace ResourceSpec

def volume? : ResourceSpec → Option VolumeSpec
  | volume spec => some spec
  | port _ => none

def port? : ResourceSpec → Option PortSpec
  | port spec => some spec
  | volume _ => none

/-- Changes the specification of a volume, and leaves that of a port alone. -/
def mapVolume (f : VolumeSpec → VolumeSpec) : ResourceSpec → ResourceSpec
  | volume spec => volume (f spec)
  | port spec => port spec

/-- Changes the specification of a port, and leaves that of a volume alone. -/
def mapPort (f : PortSpec → PortSpec) : ResourceSpec → ResourceSpec
  | port spec => port (f spec)
  | volume spec => volume spec

end ResourceSpec

namespace ResourceDocument

/-- The id, empty until the resource object exists. -/
def idText (resource : ResourceDocument) : String := resource.id.getD ""

/-- The nodes the resource is bound to, in order. -/
def bound (resource : ResourceDocument) : List String := resource.bindings.keys

end ResourceDocument

/-! ## Documents as trees -/

namespace VolumeSpec

def toJson (spec : VolumeSpec) : Json :=
  .obj ([("allocation", Json.ofOptionWord64 spec.allocation)] ++
    (match spec.filename with
      | none => []
      | some filename => [("filename", .str filename)]) ++
    [("size", Json.ofWord64 spec.size), ("uri", Json.ofOptionText spec.uri)])

def ofJson? (json : Json) : Option VolumeSpec := do
  let record ← json.record? 4
  return {
    size := ← record.required 0 "size" Json.asWord64?
    allocation := ← record.optional 1 "allocation" Json.asWord64?
    uri := ← record.optional 2 "uri" Json.asText?
    filename := ← record.optionalOr 3 "filename" Json.asText? }

end VolumeSpec

namespace PortSpec

def toJson (spec : PortSpec) : Json :=
  .obj [("fds", .arr (spec.fds.map fun fd => .int fd.toInt)),
    ("ifname", Json.ofOptionText spec.ifname), ("switch", Json.ofOptionText spec.switch)]

def fdsOfJson? : Json → Option (List Int32)
  | .arr items => items.mapM Json.asInt32?
  | _ => none

def ofJson? (json : Json) : Option PortSpec := do
  let record ← json.record? 3
  return {
    switch := ← record.optionalOr 0 "switch" Json.asText?
    ifname := ← record.optionalOr 1 "ifname" Json.asText?
    fds := ← record.orElse 2 ["fds"] fdsOfJson? [] }

end PortSpec

namespace ResourceSpec

def toJson : ResourceSpec → Json
  | volume spec => spec.toJson
  | port spec => spec.toJson

/-- A specification does not say which type it is of: what decodes as a volume is one, and only what
does not is tried as a port. -/
def ofJson? (json : Json) : Option ResourceSpec :=
  match VolumeSpec.ofJson? json with
  | some spec => some (volume spec)
  | none => (PortSpec.ofJson? json).map port

end ResourceSpec

namespace ResourceDocument

def bindingToJson (backing : String) : Json := .obj [("backing", .str backing)]

def bindingOfJson? (json : Json) : Option String := do
  let record ← json.record? 1
  record.required 0 "backing" Json.asText?

def metaToJson (resource : ResourceDocument) : Json :=
  .obj ([("allocated", .bool resource.allocated),
    ("bindings", .ofSortedMap bindingToJson resource.bindings), ("name", .str resource.name),
    ("pool", .ofOptionText resource.pool)] ++
    (if resource.raw then [("raw", .bool true)] else []) ++
    [("type", .str resource.type.word), ("uuid", .ofOptionText resource.id)] ++
    (match resource.volumeKind with
      | none => []
      | some kind => [("volume_type", .str kind.word)]))

def toJson (resource : ResourceDocument) : Json :=
  .obj [("meta", resource.metaToJson), ("spec", resource.spec.toJson)]

def ofJson? (json : Json) : Option ResourceDocument := do
  let record ← json.record? 2
  let head ← record.required 0 "meta" (Json.record? 8)
  let spec ← record.required 1 "spec" ResourceSpec.ofJson?
  return {
    id := ← head.optional 0 "uuid" Json.asText?
    name := ← head.required 1 "name" Json.asText?
    type := ← head.required 2 "type" fun word => word.asWord?.bind ResourceType.ofWord?
    pool := ← head.optional 3 "pool" Json.asText?
    allocated := ← head.orElse 4 ["allocated"] Json.asBool? false
    bindings := ← head.orElse 5 ["bindings"] (Json.asMap? bindingOfJson?) ∅
    volumeKind := ← head.optionalOr 6 "volume_type" fun word => word.asWord?.bind VolumeKind.ofWord?
    raw := ← head.orElse 7 ["raw"] Json.asBool? false
    spec }

end ResourceDocument

end DiskFleet
