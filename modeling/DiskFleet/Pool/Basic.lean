import DiskFleet.Map.Table
import DiskFleet.Pool.Definition
import DiskFleet.Resource.Basic

/-!
# Pools and their resources

A pool owns resources. It makes resource objects of the class that its kind holds, refuses
definitions made for another pool, keeps a resource while its storage exists, and lets a command
through only if every node that the command names may reach the pool.

## Main results

* `run_update_of_not_contains`, `run_update_of_outside`: a command for an unknown resource, or for
  nodes outside the pool, is refused before any call.
-/

namespace DiskFleet

/-- A pool object. `kind` decides the rules it follows. -/
structure Pool where
  kind : PoolKind
  document : PoolDocument
  resources : Table Resource

namespace Pool

/-- The pool object of a document, with a new id. "Every node" becomes the nodes of the cluster. -/
def build (kind : PoolKind) (document : PoolDocument) (id : String) (cluster : Cluster) : Pool :=
  { kind
    document :=
      { document with
        id := some id
        access := if document.isOpen then cluster.nodeNames else document.access }
    resources := ∅ }

def idText (pool : Pool) : String := pool.document.idText

def name (pool : Pool) : String := pool.document.name

/-- Whether the pool can meet a request. -/
def meets (pool : Pool) (cluster : Cluster) (type : ResourceType) (params : Params) : Bool :=
  pool.kind.meets pool.document cluster type params

def customized (pool : Pool) (node : String) : Except Failure PoolDocument :=
  pool.kind.customized pool.document node

def hasResources (pool : Pool) : Bool := !pool.resources.isEmpty

theorem hasResources_eq_false_iff {pool : Pool} :
    pool.hasResources = false ↔ ∀ id, pool.resources.get? id = none := by
  rw [hasResources, Bool.not_eq_false', Table.isEmpty_iff]

/-- The class of the resources of a type in this pool. -/
def classFor (pool : Pool) (type : ResourceType) : Except Failure ResourceClass :=
  match pool.kind.classFor? type with
  | some cls => .ok cls
  | none => .error (.typeMismatch type.word pool.idText)

theorem classFor_eq_ok_iff {pool : Pool} {type : ResourceType} {cls : ResourceClass} :
    pool.classFor type = .ok cls ↔ pool.kind.classFor? type = some cls := by
  unfold classFor
  split <;> simp_all

/-- The resource with an id. -/
def resource (pool : Pool) (id : String) : Except Failure Resource :=
  match pool.resources.get? id with
  | some resource => .ok resource
  | none => .error (.resourceNotFound id)

theorem resource_eq_ok_iff {pool : Pool} {id : String} {resource : Resource} :
    pool.resource id = .ok resource ↔ pool.resources.get? id = some resource := by
  unfold Pool.resource
  split <;> simp_all

/-- A definition of a resource of this pool. -/
def defineResource (pool : Pool) (name : String) (type : ResourceType) (params : Params) :
    Except Failure ResourceDocument := do
  let cls ← pool.classFor type
  let resource ← cls.define name params
  return { resource with pool := some pool.idText }

/-- The resource object of a definition of this pool, with a new id. A volume made for another kind
of pool is taken over. -/
def buildResource (pool : Pool) (id : String) (definition : ResourceDocument) :
    Except Failure Resource := do
  if definition.pool ≠ some pool.idText then
    throw (.invalidRequest (.foreignPool definition.name definition.pool pool.idText))
  let cls ← pool.classFor definition.type
  let definition :=
    if definition.type = .volume ∧ definition.volumeKind ≠ cls.volumeKind? then
      cls.adopt definition
    else definition
  return cls.build id definition

/-- The pool with one more resource. -/
def addResource (pool : Pool) (id : String) (definition : ResourceDocument) :
    Except Failure Pool := do
  let resource ← pool.buildResource id definition
  return { pool with resources := pool.resources.insert id resource }

/-- The definition of a copy of a resource, to be made in another pool or in this one. -/
def copyOf (pool : Pool) (id destination suffix : String) : Except Failure ResourceDocument := do
  let resource ← pool.resource id
  return resource.copied destination suffix

theorem copyOf_eq_ok_iff {pool : Pool} {id destination suffix : String}
    {definition : ResourceDocument} :
    pool.copyOf id destination suffix = .ok definition ↔
      ∃ resource, pool.resources.get? id = some resource ∧
        resource.copied destination suffix = definition := by
  simp only [copyOf, Action.bind_eq_ok_iff, resource_eq_ok_iff]
  simp [pure, Except.pure]

/-- The pool with a copy that another pool, or this one, described. A type that it does not hold is
refused first. -/
def addCopy (pool : Pool) (id : String) (definition : ResourceDocument) : Except Failure Pool := do
  let _ ← pool.classFor definition.type
  pool.addResource id { definition with pool := some pool.idText }

/-- A copy is taken in as a definition of this pool. -/
theorem addResource_of_addCopy {pool after : Pool} {id : String} {definition : ResourceDocument}
    (h : pool.addCopy id definition = .ok after) :
    pool.addResource id { definition with pool := some pool.idText } = .ok after := by
  obtain ⟨_, _, hAdd⟩ := Action.bind_eq_ok_iff.1 h
  exact hAdd

/-- The pool without a resource, which must have been released. -/
def dropResource (pool : Pool) (id : String) : Except Failure Pool := do
  let resource ← pool.resource id
  if resource.document.allocated then throw (.illegalTransition (.destroyAllocated id))
  return { pool with resources := pool.resources.erase id }

/-- A resource that is dropped was registered and held no storage. -/
theorem of_dropResource {pool after : Pool} {id : String} (h : pool.dropResource id = .ok after) :
    ∃ resource, pool.resources.get? id = some resource ∧ resource.document.allocated = false ∧
      after = { pool with resources := pool.resources.erase id } := by
  obtain ⟨resource, hResource, hRest⟩ := Action.bind_eq_ok_iff.1 h
  refine ⟨resource, resource_eq_ok_iff.1 hResource, ?_⟩
  by_cases hHeld : resource.document.allocated = true
  · rw [if_pos hHeld] at hRest
    cases hRest
  · rw [if_neg hHeld] at hRest
    exact ⟨Bool.eq_false_iff.2 hHeld, (Except.ok.inj hRest).symm⟩

/-- The document of a resource. -/
def resourceDocument (pool : Pool) (id : String) : Except Failure ResourceDocument := do
  let resource ← pool.resource id
  return resource.document

/-- The document of a resource as a tree, on request with the document of the pool in the place of
its id. -/
def resourceInfo (pool : Pool) (id : String) (verbose : Bool) : Except Failure Json := do
  let document ← pool.resourceDocument id
  let info := document.toJson
  return if verbose then info.setAt ["meta", "pool"] pool.document.toJson else info

/-- The nodes that a command names and that may not reach the pool. -/
def outside (pool : Pool) (command : ResourceCommand) : List String :=
  command.nodes.filter fun node => !pool.document.admits node

variable {σ α : Type}

/-- Runs a step on one resource of the pool, which is then put back. -/
def onResource (id : String) (resource : Resource) (action : Action (Linked σ Resource) α) :
    Action (Linked σ Pool) α :=
  Action.within (fun linked => ⟨resource, linked.link⟩)
    (fun after linked =>
      ⟨{ linked.object with resources := linked.object.resources.insert id after.object },
        after.link⟩)
    action

/-- Carries out a command for a resource. -/
def update (agent : Agent σ) (id : String) (command : ResourceCommand) :
    Action (Linked σ Pool) Json := do
  let pool ← Action.gets (·.object)
  let resource ← pool.resource id
  match pool.outside command with
  | [] => onResource id resource (Resource.handle agent pool.document command)
  | nodes => Action.fail (.policyViolation (.nodesOutsidePool nodes pool.idText))

theorem run_update_of_not_contains (agent : Agent σ) {id : String} (command : ResourceCommand)
    {linked : Linked σ Pool} (h : linked.object.resources.get? id = none) :
    (update agent id command).run linked = (.error (.resourceNotFound id), linked) := by
  have hresource : linked.object.resource id = .error (.resourceNotFound id) := by
    simp only [resource, h]
  show ((liftM (linked.object.resource id) : Action (Linked σ Pool) Resource) >>= _).run linked = _
  rw [hresource]
  rfl

theorem run_update_of_outside (agent : Agent σ) {id : String} {command : ResourceCommand}
    {linked : Linked σ Pool} {resource : Resource}
    (h : linked.object.resources.get? id = some resource)
    (houtside : linked.object.outside command ≠ []) :
    (update agent id command).run linked =
      (.error (.policyViolation
        (.nodesOutsidePool (linked.object.outside command) linked.object.idText)), linked) := by
  have hresource : linked.object.resource id = .ok resource := by simp only [Pool.resource, h]
  show ((liftM (linked.object.resource id) : Action (Linked σ Pool) Resource) >>= _).run linked = _
  rw [hresource]
  show (match linked.object.outside command with
    | [] => _
    | nodes => Action.fail (.policyViolation (.nodesOutsidePool nodes linked.object.idText)) :
      Action (Linked σ Pool) Json).run linked = _
  split
  · next heq => exact absurd heq houtside
  · rfl

end Pool

end DiskFleet
