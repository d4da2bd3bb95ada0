import DiskFleet.Json.Lookup
import DiskFleet.Pool.Basic

/-!
# The registry of pools and resources

The registry knows the cluster, every pool in the order of creation, and for every resource the pool
that owns it, so that a client names a resource by its id alone. This module holds its state and the
questions that change nothing.

`World` adds what an operation on the registry also touches: the supply of fresh ids and name
suffixes, and the link to the node agents.
-/

namespace DiskFleet

/-- What becomes of the partial result of a clone, rebase or backup that fails. -/
inductive Recovery
  /-- It is kept, to be looked at. -/
  | leave
  /-- It is released and destroyed. -/
  | rollback
deriving DecidableEq, Repr

namespace Recovery

def word : Recovery → String
  | leave => "leave"
  | rollback => "rollback"

def ofWord? : String → Option Recovery
  | "leave" => some leave
  | "rollback" => some rollback
  | _ => none

end Recovery

/-- The length of name suffixes that nothing sets. -/
def defaultSuffixLength : Nat := 8

/-- The pools, the pool of each resource, and the settings of the registry. -/
structure Registry where
  cluster : Cluster
  recovery : Recovery
  suffixLength : Nat
  /-- The pools by id, oldest first. -/
  pools : Table Pool
  /-- The id of the pool that owns each resource. -/
  owners : Table String

namespace Registry

/-- A registry without pools. -/
def empty (cluster : Cluster) (recovery : Recovery) (suffixLength : Nat) : Registry :=
  { cluster, recovery, suffixLength, pools := ∅, owners := ∅ }

/-- The pool with an id. -/
def pool (registry : Registry) (id : String) : Except Failure Pool :=
  match registry.pools.get? id with
  | some pool => .ok pool
  | none => .error (.poolNotFound id)

/-- The id of the pool that owns a resource. -/
def owner (registry : Registry) (resource : String) : Except Failure String :=
  match registry.owners.get? resource with
  | some pool => .ok pool
  | none => .error (.resourceNotFound resource)

/-- The pool that owns a resource. -/
def poolOf (registry : Registry) (resource : String) : Except Failure Pool := do
  let id ← registry.owner resource
  registry.pool id

theorem pool_eq_ok_iff {registry : Registry} {id : String} {pool : Pool} :
    registry.pool id = .ok pool ↔ registry.pools.get? id = some pool := by
  unfold Registry.pool
  split <;> simp_all

theorem owner_eq_ok_iff {registry : Registry} {resource id : String} :
    registry.owner resource = .ok id ↔ registry.owners.get? resource = some id := by
  unfold owner
  split <;> simp_all

theorem poolOf_eq_ok_iff {registry : Registry} {resource : String} {pool : Pool} :
    registry.poolOf resource = .ok pool ↔
      ∃ id, registry.owners.get? resource = some id ∧ registry.pools.get? id = some pool := by
  simp only [poolOf, Action.bind_eq_ok_iff, owner_eq_ok_iff, pool_eq_ok_iff]

/-! ## Pools -/

/-- The document of a pool from parameters; tags in its access list become node names. -/
def definePool (registry : Registry) (name : String) (kind : PoolKind) (params : Params) :
    Except Failure PoolDocument := do
  let document ← kind.define name params
  if document.isOpen then return document
  else
    let access ← registry.cluster.resolveAll document.access
    return { document with access }

/-- The document of a pool, or the value at a path in it. -/
def poolInfo (registry : Registry) (id : String) (path : Option String) : Except Failure Json := do
  let pool ← registry.pool id
  pool.document.toJson.lookup path

/-- The document of a pool as seen from a node. -/
def customizedPool (registry : Registry) (id node : String) : Except Failure PoolDocument := do
  let pool ← registry.pool id
  pool.customized node

/-- The id of the first pool of a name. -/
def poolNamed? (registry : Registry) (name : String) : Option String :=
  (registry.pools.values.find? fun pool => pool.name == name).map Pool.idText

/-- The ids of all pools, oldest first. -/
def poolIds (registry : Registry) : List String := registry.pools.keys

/-- The id of the first pool that meets a request. -/
def poolFor? (registry : Registry) (type : ResourceType) (params : Params) : Option String :=
  (registry.pools.values.find? fun pool => pool.meets registry.cluster type params).map Pool.idText

/-! ## Resources -/

/-- A resource defined in the first pool that meets the request. -/
def defineResource (registry : Registry) (name : String) (type : ResourceType) (params : Params) :
    Except Failure ResourceDocument :=
  match registry.poolFor? type params with
  | none => .error (.policyViolation (.noPoolMeets type.word name))
  | some id => do
    let pool ← registry.pool id
    pool.defineResource name type params

/-- The document of a resource. -/
def resourceDocument (registry : Registry) (id : String) : Except Failure ResourceDocument := do
  let pool ← registry.poolOf id
  pool.resourceDocument id

/-- The document of a resource, or the value at a path in it. -/
def resourceInfo (registry : Registry) (id : String) (path : Option String) (verbose : Bool) :
    Except Failure Json := do
  let pool ← registry.poolOf id
  let info ← pool.resourceInfo id verbose
  info.lookup path

/-- The ids of all resources, or of those of one pool. -/
def resourceIds (registry : Registry) : Option String → Except Failure (List String)
  | none => .ok registry.owners.keys
  | some id => do
    let pool ← registry.pool id
    return pool.resources.keys

/-! ## Changes -/

/-- The registry with a pool stored under an id. -/
def putPool (registry : Registry) (id : String) (pool : Pool) : Registry :=
  { registry with pools := registry.pools.insert id pool }

/-- The registry without a pool. -/
def removePool (registry : Registry) (id : String) : Registry :=
  { registry with pools := registry.pools.erase id }

/-- The registry with a resource entered under the pool that owns it. -/
def enter (registry : Registry) (resource pool : String) : Registry :=
  { registry with owners := registry.owners.insert resource pool }

/-- The registry without the entry of a resource. -/
def strike (registry : Registry) (resource : String) : Registry :=
  { registry with owners := registry.owners.erase resource }

end Registry

/-- The supply of fresh ids and name suffixes: how each is written, and how many have been drawn. -/
structure Supply where
  /-- The id with a number. -/
  idText : Nat → String
  /-- The suffix of a length with a number. -/
  suffixText : Nat → Nat → String
  ids : Nat
  suffixes : Nat

namespace Supply

/-- No two ids of the supply are the same. -/
def Distinct (supply : Supply) : Prop :=
  ∀ i j, supply.idText i = supply.idText j → i = j

end Supply

/-- The registry with the supply of fresh names and the link to the node agents. -/
structure World (σ : Type) where
  registry : Registry
  supply : Supply
  link : Link σ

end DiskFleet
