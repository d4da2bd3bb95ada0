import DiskFleet.Cluster
import DiskFleet.Params
import DiskFleet.Pool.Document
import DiskFleet.Resource.Class

/-!
# Kinds of pool

What a kind of pool decides: how its section of the document follows from parameters (`defineSpec`),
which class of resource it holds (`classFor?`), which requests it can meet (`meets`) and how its
document looks from one node (`customized`).

A request is met only by a pool that can be reached: from the node that `vm_node` means, or, without
that parameter, from some node of the partition (`reachable`).
-/

namespace DiskFleet

/-- The directory of a filesystem pool that no parameter gives. -/
def defaultPoolPath : String := "/var/lib/vdisk/images"

/-- The storage type of a request that names none. -/
def defaultStorageType : String := "filesystem"

/-- A text up to its first colon and the rest behind it. -/
def splitAtColon? (text : String) : Option (String × String) :=
  let cs := text.toList
  let front := cs.takeWhile (· ≠ ':')
  match cs.drop front.length with
  | _ :: rest => some (String.ofList front, String.ofList rest)
  | [] => none

/-- The interface of each node, from words `node:interface`; of two for one node the later wins. -/
def nodeInterfaces : SortedMap String → List String → Except Failure (SortedMap String)
  | map, [] => .ok map
  | map, pair :: rest =>
    match splitAtColon? pair with
    | some (node, interface) => nodeInterfaces (map.insert node interface) rest
    | none => .error (.invalidRequest (.nodeInterface pair))

namespace PoolKind

/-- The section of a pool's document, from its parameters. -/
def defineSpec (kind : PoolKind) (params : Params) : Except Failure PoolSpec :=
  match kind with
  | filesystem =>
    .ok { PoolSpec.none with filesystem := some ⟨params.getD "path" defaultPoolPath⟩ }
  | lvm =>
    match params.get? "volume_group" with
    | some volumeGroup => .ok { PoolSpec.none with lvm := some ⟨volumeGroup⟩ }
    | none => .error (.invalidRequest .volumeGroupMissing)
  | rbd =>
    match params.get? "pool_name" with
    | some poolName =>
      .ok { PoolSpec.none with
        rbd := some
          { poolName, monitors := params.objects "monitors"
            subspace := params.getD "namespace" "" } }
    | none => .error (.invalidRequest .poolNameMissing)
  | linuxBridge => do
    let bridges ← nodeInterfaces ∅ (params.objects "switch")
    if bridges.isEmpty then throw (.invalidRequest .switchMissing)
    let uplinks ← nodeInterfaces ∅ (params.objects "export")
    return { PoolSpec.none with bridge := some ⟨bridges, uplinks⟩ }

/-- The document of a pool, without an id. No `access_nodes` means every node. -/
def define (kind : PoolKind) (name : String) (params : Params) : Except Failure PoolDocument := do
  let nodes := params.objects "access_nodes"
  let spec ← kind.defineSpec params
  return { id := none, name, kind, spec
           access := if nodes.isEmpty then [everyNode] else nodes }

/-- The class of the resources of a type in this kind of pool. -/
def classFor? (kind : PoolKind) (type : ResourceType) : Option ResourceClass :=
  match kind, type with
  | filesystem, .volume => some (.volume .file)
  | lvm, .volume => some (.volume .block)
  | rbd, .volume => some (.volume .network)
  | linuxBridge, .port => some .tapPort
  | _, _ => none

theorem type_of_classFor? {kind : PoolKind} {type : ResourceType} {cls : ResourceClass}
    (h : kind.classFor? type = some cls) : cls.type = type := by
  cases kind <;> cases type <;> simp_all [classFor?] <;> subst h <;> rfl

end PoolKind

namespace PoolDocument

/-- Whether the pool can be reached from where a request wants it. -/
def reachable (pool : PoolDocument) (cluster : Cluster) (params : Params) : Bool :=
  match params.get? "vm_node" with
  | some tag =>
    match cluster.resolve tag with
    | .ok node => pool.admits node
    | .error _ => false
  | none => pool.access.any fun node => cluster.partition.contains node

end PoolDocument

namespace PoolKind

/-- Whether a pool of this kind can meet a request for a resource of a type. -/
def meets (kind : PoolKind) (pool : PoolDocument) (cluster : Cluster) (type : ResourceType)
    (params : Params) : Bool :=
  match kind, type with
  | linuxBridge, .port =>
    params.get? "nettype" == some "bridge" && pool.reachable cluster params
  | linuxBridge, .volume => false
  | _, .port => false
  | _, .volume =>
    params.getD "storage_type" defaultStorageType == kind.word &&
      (match params.get? "image_pool_name" with
        | some name => name == pool.name
        | none => true) &&
      pool.reachable cluster params

/-- The document as seen from a node: of a bridge pool, only that node's interfaces. -/
def customized (kind : PoolKind) (pool : PoolDocument) (node : String) :
    Except Failure PoolDocument :=
  match kind with
  | linuxBridge =>
    match pool.spec.bridge with
    | none => .ok pool
    | some bridge =>
      if bridge.bridges.contains node then
        .ok { pool with
          spec.bridge := some
            ⟨bridge.bridges.filter (· == node), bridge.uplinks.filter (· == node)⟩ }
      else .error (.policyViolation (.noBridge pool.idText node))
  | _ => .ok pool

end PoolKind

end DiskFleet
