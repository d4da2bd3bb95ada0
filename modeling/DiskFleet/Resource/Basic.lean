import DiskFleet.Agent.Link
import DiskFleet.Resource.Class
import DiskFleet.Resource.Command

/-!
# The life of a resource

A resource is defined, bound to nodes, allocated on one of them, and released and unbound again.
Bindings and allocation are tied by one rule: the last binding of an allocated resource stays, so
that its storage can always be released through a bound node.

Node-side work is always sent to the first bound node by name. Nothing changes in the document
before the agent has accepted the call.

* `bind` and `unbind` answer with the nodes that are bound afterwards;
* `allocate` and `sync` record what the node reports and answer with the specification;
* `release` forgets it;
* `resize` only grows file volumes, and tells the node when there is storage to grow.
-/

namespace DiskFleet

namespace Resource

/-! ## Bindings -/

/-- The bindings that a list of nodes adds: those not bound yet, each with its backing. -/
def newBindings (resource : Resource) (pool : PoolDocument) :
    List String → Except Failure (List (String × String))
  | [] => .ok []
  | node :: rest =>
    if resource.document.bindings.contains node then resource.newBindings pool rest
    else do
      let backing ← resource.backingFor pool node
      let bindings ← resource.newBindings pool rest
      return (node, backing) :: bindings

/-- The resource with further bindings. -/
def addBindings (resource : Resource) (bindings : List (String × String)) : Resource :=
  { resource with
    document.bindings := bindings.foldl (fun map entry => map.insert entry.1 entry.2)
      resource.document.bindings }

/-- The resource bound to further nodes, to all that may reach the pool if none is named. Every
backing is found before the first binding is made. -/
def bound (resource : Resource) (pool : PoolDocument) (nodes : List String) :
    Except Failure Resource := do
  let nodes := if nodes.isEmpty then pool.access else nodes
  let bindings ← resource.newBindings pool nodes
  return resource.addBindings bindings

/-- The nodes that `unbind` means: the named ones that are bound, or all bound ones. -/
def unbindTargets (resource : Resource) (nodes : List String) : List String :=
  if nodes.isEmpty then resource.document.bound
  else nodes.filter fun node => resource.document.bound.contains node

/-- The resource without some of its bindings. As many targets as there are bindings count as all of
them, and those of an allocated resource must not all go. -/
def unbound (resource : Resource) (nodes : List String) : Except Failure Resource :=
  let targets := resource.unbindTargets nodes
  let bound := resource.document.bound
  if resource.document.allocated ∧ targets.length = bound.length ∧ bound ≠ [] then
    .error (.illegalTransition (.unbindLastNode resource.idText))
  else
    .ok { resource with
      document.bindings := targets.foldl (fun map node => map.erase node)
        resource.document.bindings }

/-- The first bound node, where the node-side part of `action` is done. -/
def firstBound (resource : Resource) (action : String) : Except Failure String :=
  match resource.document.bound with
  | node :: _ => .ok node
  | [] => .error (.illegalTransition (.notBound resource.idText action))

/-! ## What a node reports -/

/-- The descriptors in a report; numbers too large for one are cut to 32 bits. -/
def reportedFds (out : Json) : List Int32 :=
  match out.get? "fds" with
  | some (.arr items) => (items.filterMap Json.asInt?).map Int32.ofInt
  | _ => []

/-- The text in a report, or what was known before. -/
def reportedText (out : Json) (key : String) (before : Option String) : Option String :=
  match (out.get? key).bind Json.asText? with
  | some text => some text
  | none => before

/-- The specification after an allocation. -/
def specAllocated (resource : Resource) (out : Json) : ResourceSpec :=
  match resource.behaviour with
  | .volume =>
    resource.document.spec.mapVolume fun spec =>
      { spec with
        uri := reportedText out "uri" spec.uri
        allocation := (out.get? "allocation").bind Json.asWord64? }
  | .port =>
    resource.document.spec.mapPort fun spec =>
      { ifname := reportedText out "ifname" spec.ifname
        fds := reportedFds out
        switch := resource.document.bindings.values.head? }

/-- The specification after a release. -/
def specReleased (resource : Resource) : ResourceSpec :=
  match resource.behaviour with
  | .volume => resource.document.spec.mapVolume fun spec => { spec with allocation := none }
  | .port => resource.document.spec.mapPort fun spec => { spec with fds := [] }

/-- The specification after a report of the present state. -/
def specSynced (resource : Resource) (out : Json) : ResourceSpec :=
  match resource.behaviour with
  | .volume =>
    resource.document.spec.mapVolume fun spec =>
      { spec with
        uri := reportedText out "uri" spec.uri
        allocation :=
          match (out.get? "allocation").bind Json.asWord64? with
          | some allocation => some allocation
          | none => spec.allocation
        size := ((out.get? "size").bind Json.asWord64?).getD spec.size }
  | .port =>
    resource.document.spec.mapPort fun spec =>
      { spec with
        ifname := reportedText out "ifname" spec.ifname
        fds := if (out.get? "fds").isSome then reportedFds out else spec.fds }

/-! ## Calls to the bound node -/

/-- The call that asks `node` for `method` on behalf of the resource. -/
def callOf (resource : Resource) (pool : PoolDocument) (node method : String) (args : Arguments) :
    Call :=
  { node, service := Call.resourceService, method
    args := .obj [("arguments", args.toJson), ("pool", pool.toJson),
      ("resource", resource.document.toJson)] }

/-- Whether the resource knows the command. -/
def supports (resource : Resource) : ResourceCommand → Bool
  | .resize _ => resource.behaviour = .volume ∧ resource.volumeKind = .file
  | _ => true

variable {σ : Type}

/-- Asks the first bound node for `method`; `action` is its past participle. -/
def askNode (agent : Agent σ) (pool : PoolDocument) (method action : String) (args : Arguments) :
    Action (Linked σ Resource) Json := do
  let resource ← Action.gets (·.object)
  let node ← resource.firstBound action
  Linked.onLink (Link.invoke agent (resource.callOf pool node method args))

/-- The specification, as an answer. -/
def answerSpec : Action (Linked σ Resource) Json :=
  Action.gets fun linked => linked.object.document.spec.toJson

/-- The bound nodes, as an answer. -/
def answerBound : Action (Linked σ Resource) Json :=
  Action.gets fun linked => Json.ofTexts linked.object.document.bound

/-! ## The commands -/

def bind (pool : PoolDocument) (nodes : List String) : Action (Linked σ Resource) Json := do
  let resource ← Action.gets (·.object)
  let resource ← resource.bound pool nodes
  Linked.modifyObject fun _ => resource
  answerBound

def unbind (nodes : List String) : Action (Linked σ Resource) Json := do
  let resource ← Action.gets (·.object)
  let resource ← resource.unbound nodes
  Linked.modifyObject fun _ => resource
  answerBound

/-- Makes the storage through the first bound node. Nothing is left to do when it exists. -/
def allocate (agent : Agent σ) (pool : PoolDocument) (args : Arguments) :
    Action (Linked σ Resource) Json := do
  let resource ← Action.gets (·.object)
  if resource.document.allocated then answerSpec
  else
    let out ← askNode agent pool "allocate" "allocated" args
    Linked.modifyObject fun resource =>
      { resource with document.spec := resource.specAllocated out, document.allocated := true }
    answerSpec

/-- Frees the storage; the bindings stay. Nothing is left to do when there is none. -/
def release (agent : Agent σ) (pool : PoolDocument) (args : Arguments) :
    Action (Linked σ Resource) Json := do
  let resource ← Action.gets (·.object)
  if resource.document.allocated then
    let _ ← askNode agent pool "release" "released" args
    Linked.modifyObject fun resource =>
      { resource with document.spec := resource.specReleased, document.allocated := false }
    return .null
  else return .null

/-- Takes the present state over from the first bound node. -/
def sync (agent : Agent σ) (pool : PoolDocument) (args : Arguments) :
    Action (Linked σ Resource) Json := do
  let out ← askNode agent pool "sync" "synced" args
  Linked.modifyObject fun resource => { resource with document.spec := resource.specSynced out }
  answerSpec

/-- Grows a volume. It is never made smaller, because that can lose data. -/
def resize (agent : Agent σ) (pool : PoolDocument) (size : SizeArgument) :
    Action (Linked σ Resource) Json := do
  let resource ← Action.gets (·.object)
  if resource.behaviour = .port then
    Action.fail (.unsupportedCommand "resize" ("resource " ++ resource.idText))
  else
    let requested ← size.toBytes
    let spec ← resource.volumeSpec
    if requested < spec.size then
      Action.fail
        (.illegalTransition (.shrink resource.idText spec.size.toNat requested.toNat))
    else
      if spec.size < requested ∧ resource.document.allocated then
        let _ ← askNode agent pool "resize" "resized" (.ofList [("size", .ofWord64 requested)])
      Linked.modifyObject fun resource =>
        { resource with
          document.spec := resource.document.spec.mapVolume fun spec =>
            { spec with size := requested } }
      answerSpec

/-- Carries out a command. -/
def handle (agent : Agent σ) (pool : PoolDocument) (command : ResourceCommand) :
    Action (Linked σ Resource) Json := do
  let resource ← Action.gets (·.object)
  if resource.supports command then
    match command with
    | .bind nodes => bind pool nodes
    | .unbind nodes => unbind nodes
    | .allocate args => allocate agent pool args
    | .release args => release agent pool args
    | .sync args => sync agent pool args
    | .resize size => resize agent pool size
  else Action.fail (.unsupportedCommand command.name ("resource " ++ resource.idText))

end Resource

end DiskFleet
