import DiskFleet.Params
import DiskFleet.Pool.Document
import DiskFleet.Resource.Document
import DiskFleet.Size
import DiskFleet.Text.FilePath

/-!
# Classes of resource

Each kind of pool holds one class of resource: file, block and network volumes, and tap ports. The
class of a resource decides how it is defined from parameters (`define`), how a definition made for
another class is taken over (`adopt`), how a copy is described (`ResourceDocument.copied`) and which
backing a node reaches it by (`backingFor`).

A volume whose location is known, pinned at its definition or reported by a node, keeps it.
Otherwise the backing follows from the pool: a file below its directory, a device of its volume
group, an image of its block pool.
-/

namespace DiskFleet

/-- The size of a volume that no parameter gives. -/
def defaultVolumeSize : String := "20G"

/-- The image format that no parameter gives. -/
def defaultImageFormat : String := "qcow2"

/-- The classes of resource. -/
inductive ResourceClass
  | volume (kind : VolumeKind)
  | tapPort
deriving DecidableEq, Repr

namespace ResourceClass

/-- The type of the resources of a class. -/
def type : ResourceClass → ResourceType
  | volume _ => .volume
  | tapPort => .port

/-- The kind of the volumes of a class. -/
def volumeKind? : ResourceClass → Option VolumeKind
  | volume kind => some kind
  | tapPort => none

/-! ## Definitions -/

/-- Where a file volume lies: an absolute `image_name` pins its location, any other is the stem of
its file name, whose extension is `image_format`. -/
def fileLocation (name : String) (params : Params) : Option String × Option String :=
  let imageName := params.getD "image_name" name
  if FilePath.isAbsolute imageName then (some imageName, FilePath.fileName? imageName)
  else (none, some (imageName ++ "." ++ params.getD "image_format" defaultImageFormat))

/-- A volume of the given kind. -/
def defineVolume (kind : VolumeKind) (name : String) (params : Params) :
    Except Failure ResourceDocument := do
  let size ← Size.parse (params.getD "image_size" defaultVolumeSize)
  let (uri, filename) := if kind = .file then fileLocation name params else (none, none)
  return {
    id := none, name, type := .volume, pool := none, allocated := false, bindings := ∅
    volumeKind := some kind
    raw := params.isOn "image_raw_device"
    spec := .volume { size, allocation := none, uri, filename } }

/-- A tap port; `ifname` pins its interface. -/
def definePort (name : String) (params : Params) : ResourceDocument :=
  { id := none, name, type := .port, pool := none, allocated := false, bindings := ∅
    volumeKind := none, raw := false
    spec := .port { switch := none, ifname := params.get? "ifname", fds := [] } }

/-- A resource of a class, without a pool, bindings or storage. -/
def define (cls : ResourceClass) (name : String) (params : Params) :
    Except Failure ResourceDocument :=
  match cls with
  | volume kind => defineVolume kind name params
  | tapPort => .ok (definePort name params)

/-- A definition made for another class of the same type: a file volume needs a file name, the other
volumes have none. -/
def adopt (cls : ResourceClass) (resource : ResourceDocument) : ResourceDocument :=
  match cls with
  | tapPort => resource
  | volume .file =>
    { resource with
      volumeKind := some .file
      spec := resource.spec.mapVolume fun spec =>
        { spec with filename := some (spec.filename.getD (resource.name ++ ".img")) } }
  | volume kind =>
    { resource with
      volumeKind := some kind
      spec := resource.spec.mapVolume fun spec => { spec with filename := none } }

section adopt

variable (cls : ResourceClass) (resource : ResourceDocument)

@[simp] theorem name_adopt : (cls.adopt resource).name = resource.name := by
  rcases cls with (_ | _ | _) | _ <;> rfl

@[simp] theorem type_adopt : (cls.adopt resource).type = resource.type := by
  rcases cls with (_ | _ | _) | _ <;> rfl

@[simp] theorem pool_adopt : (cls.adopt resource).pool = resource.pool := by
  rcases cls with (_ | _ | _) | _ <;> rfl

@[simp] theorem allocated_adopt : (cls.adopt resource).allocated = resource.allocated := by
  rcases cls with (_ | _ | _) | _ <;> rfl

@[simp] theorem bindings_adopt : (cls.adopt resource).bindings = resource.bindings := by
  rcases cls with (_ | _ | _) | _ <;> rfl

/-- A volume is taken over as one of the class. -/
theorem volumeKind_adopt {cls : ResourceClass} (h : cls.type = .volume)
    (resource : ResourceDocument) : (cls.adopt resource).volumeKind = cls.volumeKind? := by
  rcases cls with (_ | _ | _) | _
  · rfl
  · rfl
  · rfl
  · cases h

end adopt

end ResourceClass

/-- A resource object: its document and the type whose rules it follows. -/
structure Resource where
  behaviour : ResourceType
  document : ResourceDocument
deriving DecidableEq

namespace ResourceClass

/-- The object of a class with the given id. -/
def build (cls : ResourceClass) (id : String) (resource : ResourceDocument) : Resource :=
  ⟨cls.type, { resource with id := some id }⟩

end ResourceClass

namespace Resource

def idText (resource : Resource) : String := resource.document.idText

/-- What a volume is made of; files unless its document says otherwise. -/
def volumeKind (resource : Resource) : VolumeKind := resource.document.volumeKind.getD .file

/-- The specification of a volume. -/
def volumeSpec (resource : Resource) : Except Failure VolumeSpec :=
  match resource.document.spec.volume? with
  | some spec => .ok spec
  | none => .error (.internal (.notVolumeSpec resource.idText))

/-! ## Copies -/

/-- The specification of a copied volume: nothing is allocated, and nothing says where it lies but a
file name of its own. -/
def copiedVolume (suffix : String) (spec : VolumeSpec) : VolumeSpec :=
  { spec with
    uri := none
    allocation := some 0
    filename := spec.filename.map fun filename => FilePath.withSuffix filename suffix }

/-- The definition of a copy in `pool`: renamed by the suffix, unbound and not allocated. -/
def copied (resource : Resource) (pool suffix : String) : ResourceDocument :=
  { resource.document with
    id := none
    name := resource.document.name ++ "_" ++ suffix
    pool := some pool
    allocated := false
    bindings := ∅
    spec :=
      match resource.behaviour with
      | .volume => resource.document.spec.mapVolume (copiedVolume suffix)
      | .port => .port .blank }

/-! ## Backings -/

/-- Where a volume lies in a pool. -/
def volumeBacking (resource : Resource) (pool : PoolDocument) : Except Failure String := do
  let spec ← resource.volumeSpec
  let name := resource.document.name
  match resource.volumeKind with
  | .file =>
    match spec.uri, pool.spec.filesystem, spec.filename with
    | some uri, _, _ => return uri
    | none, some filesystem, some filename => return FilePath.join filesystem.path filename
    | _, _, _ => throw (.invalidRequest (.noFilesystem pool.idText name))
  | .block =>
    match pool.spec.lvm with
    | some lvm => return "/dev/" ++ lvm.volumeGroup ++ "/" ++ name
    | none => throw (.invalidRequest (.noVolumeGroup pool.idText name))
  | .network =>
    match pool.spec.rbd with
    | some rbd =>
      if rbd.subspace.isEmpty then return "rbd:" ++ rbd.poolName ++ "/" ++ name
      else return "rbd:" ++ rbd.poolName ++ "/" ++ rbd.subspace ++ "/" ++ name
    | none => throw (.invalidRequest (.noBlockPool pool.idText name))

/-- The bridge that a port is plugged into on a node. -/
def portBacking (pool : PoolDocument) (node : String) : Except Failure String :=
  match pool.spec.bridge.bind fun bridge => bridge.bridges.get? node with
  | some bridge => .ok bridge
  | none => .error (.policyViolation (.noBridge pool.idText node))

/-- The backing that a node of the pool reaches the resource by. -/
def backingFor (resource : Resource) (pool : PoolDocument) (node : String) :
    Except Failure String :=
  match resource.behaviour with
  | .volume => resource.volumeBacking pool
  | .port => portBacking pool node

end Resource

end DiskFleet
