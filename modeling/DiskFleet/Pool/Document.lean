import DiskFleet.Json.Record

/-!
# Pool documents

A pool offers storage or network ports on some nodes. Its document says which kind of pool it is,
which nodes may reach it, and where it lies: a section of the kind's own under `spec`.

A pool gets its id when the pool object is made; until then the document has none. The access list
`*` means every node of the cluster, and so does an empty one (`PoolDocument.isOpen`).
-/

namespace DiskFleet

/-- The kinds of pool. -/
inductive PoolKind
  /-- A directory of volume files. -/
  | filesystem
  /-- A volume group of block devices. -/
  | lvm
  /-- A pool of network block devices. -/
  | rbd
  /-- A bridge with tap ports. -/
  | linuxBridge
deriving DecidableEq, Repr

namespace PoolKind

/-- The word for a kind in documents and parameters. -/
def word : PoolKind → String
  | filesystem => "filesystem"
  | lvm => "lvm"
  | rbd => "rbd"
  | linuxBridge => "linux_bridge"

def ofWord? : String → Option PoolKind
  | "filesystem" => some filesystem
  | "lvm" => some lvm
  | "rbd" => some rbd
  | "linux_bridge" => some linuxBridge
  | _ => none

theorem ofWord?_word (kind : PoolKind) : ofWord? kind.word = some kind := by
  cases kind <;> rfl

/-- What is said about an unknown word. -/
def unknownMessage (word : String) : String := "Unknown pool type: " ++ word

end PoolKind

/-- The entry of an access list that means every node. -/
def everyNode : String := "*"

/-- Where the volumes of a filesystem pool lie. -/
structure FilesystemSection where
  path : String
deriving DecidableEq, Repr

structure LvmSection where
  volumeGroup : String
deriving DecidableEq, Repr

structure RbdSection where
  poolName : String
  monitors : List String
  subspace : String
deriving DecidableEq, Repr

/-- The bridge interface and the uplink of each node. -/
structure BridgeSection where
  bridges : SortedMap String
  uplinks : SortedMap String
deriving DecidableEq

/-- The sections of a pool document. A defined pool has the one of its kind; a document that is
given may hold any. -/
structure PoolSpec where
  filesystem : Option FilesystemSection
  lvm : Option LvmSection
  rbd : Option RbdSection
  bridge : Option BridgeSection
deriving DecidableEq

namespace PoolSpec

/-- No section. -/
def none : PoolSpec := ⟨.none, .none, .none, .none⟩

end PoolSpec

/-- The document of a pool. -/
structure PoolDocument where
  id : Option String
  name : String
  kind : PoolKind
  access : List String
  spec : PoolSpec
deriving DecidableEq

namespace PoolDocument

/-- The id, empty until the pool object exists. -/
def idText (pool : PoolDocument) : String := pool.id.getD ""

/-- Whether the access list names nothing but "every node". -/
def isOpen (pool : PoolDocument) : Bool := pool.access.all (· == everyNode)

/-- Whether `node` may reach the pool. -/
def admits (pool : PoolDocument) (node : String) : Bool := pool.access.contains node

end PoolDocument

/-! ## Documents as trees -/

namespace FilesystemSection

def toJson (s : FilesystemSection) : Json := .obj [("path", .str s.path)]

def ofJson? (json : Json) : Option FilesystemSection := do
  let record ← json.record? 1
  return { path := ← record.required 0 "path" Json.asText? }

end FilesystemSection

namespace LvmSection

def toJson (s : LvmSection) : Json := .obj [("volume_group", .str s.volumeGroup)]

def ofJson? (json : Json) : Option LvmSection := do
  let record ← json.record? 1
  return { volumeGroup := ← record.required 0 "volume_group" Json.asText? }

end LvmSection

namespace RbdSection

def toJson (s : RbdSection) : Json :=
  .obj [("monitors", .ofTexts s.monitors), ("namespace", .str s.subspace),
    ("pool_name", .str s.poolName)]

def ofJson? (json : Json) : Option RbdSection := do
  let record ← json.record? 3
  return {
    poolName := ← record.required 0 "pool_name" Json.asText?
    monitors := ← record.orElse 1 ["monitors"] Json.asTexts? []
    subspace := ← record.orElse 2 ["namespace"] Json.asText? "" }

end RbdSection

namespace BridgeSection

def toJson (s : BridgeSection) : Json :=
  .obj [("export", .ofSortedMap .str s.uplinks), ("switch", .ofSortedMap .str s.bridges)]

def ofJson? (json : Json) : Option BridgeSection := do
  let record ← json.record? 2
  return {
    bridges := ← record.orElse 0 ["switch"] (Json.asMap? Json.asText?) ∅
    uplinks := ← record.orElse 1 ["export"] (Json.asMap? Json.asText?) ∅ }

end BridgeSection

namespace PoolSpec

/-- One section, left out where it is missing. -/
def sectionMember {α : Type} (name : String) (encode : α → Json) : Option α → List (String × Json)
  | .none => []
  | .some s => [(name, encode s)]

def toJson (spec : PoolSpec) : Json :=
  .obj (sectionMember "bridge" BridgeSection.toJson spec.bridge ++
    sectionMember "filesystem" FilesystemSection.toJson spec.filesystem ++
    sectionMember "lvm" LvmSection.toJson spec.lvm ++
    sectionMember "rbd" RbdSection.toJson spec.rbd)

def ofJson? (json : Json) : Option PoolSpec := do
  let record ← json.record? 4
  return {
    filesystem := ← record.optionalOr 0 "filesystem" FilesystemSection.ofJson?
    lvm := ← record.optionalOr 1 "lvm" LvmSection.ofJson?
    rbd := ← record.optionalOr 2 "rbd" RbdSection.ofJson?
    bridge := ← record.optionalOr 3 "bridge" BridgeSection.ofJson? }

end PoolSpec

namespace PoolDocument

def accessOfJson? (json : Json) : Option (List String) := do
  let record ← json.record? 1
  record.orElse 0 ["nodes"] Json.asTexts? []

def metaToJson (pool : PoolDocument) : Json :=
  .obj [("access", .obj [("nodes", .ofTexts pool.access)]), ("name", .str pool.name),
    ("type", .str pool.kind.word), ("uuid", .ofOptionText pool.id)]

def toJson (pool : PoolDocument) : Json :=
  .obj [("meta", pool.metaToJson), ("spec", pool.spec.toJson)]

def ofJson? (json : Json) : Option PoolDocument := do
  let record ← json.record? 2
  let head ← record.required 0 "meta" (Json.record? 4)
  let spec ← record.orElse 1 ["spec"] PoolSpec.ofJson? PoolSpec.none
  return {
    id := ← head.optional 0 "uuid" Json.asText?
    name := ← head.required 1 "name" Json.asText?
    kind := ← head.required 2 "type" fun word => word.asWord?.bind PoolKind.ofWord?
    access := ← head.orElse 3 ["access"] accessOfJson? []
    spec }

end PoolDocument

end DiskFleet
