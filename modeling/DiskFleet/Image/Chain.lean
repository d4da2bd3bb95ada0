import DiskFleet.Image.Storage

/-!
# Layers put on and taken off

`add` makes a new layer on nodes that the image can already be used from, and puts it on top of the
chain if asked to. `remove` takes a layer off that holds no storage and that no other layer stands
on. `rebase` puts a new top over the present one: the layer is added outside the chain, its storage
is made, the node ties it to the old top, and only then does it join the chain. What a failed rebase
leaves behind is kept or dropped, as the recovery setting says.
-/

namespace DiskFleet

namespace Image

/-- Refuses a layer name that is taken. -/
def requireNew (image : Image) (name : String) : Except Failure Unit :=
  if image.layers.contains name then
    .error (.illegalTransition (.layerExists name image.idText))
  else .ok ()

/-- The nodes for a new layer: the named ones, which have to be nodes the image can be used from, or
all of those. -/
def nodesFor (image : Image) (registry : Registry) (named : List String) :
    Except Failure (List String) := do
  let access ← image.accessNodes registry
  let nodes := if named.isEmpty then access else named
  match nodes.filter fun node => !access.contains node with
  | [] => return nodes
  | outside => throw (.policyViolation (.nodesOutsideImage outside image.idText))

/-- The parameters of a new layer: unless they say where it is wanted, that is its first node. -/
def paramsOn (nodes : List String) (params : Params) : Params :=
  match params.get? "vm_node", nodes with
  | none, node :: _ => params.set "vm_node" node
  | _, _ => params

/-- The image with a new top. -/
def pushTop (image : Image) (name : String) : Image :=
  { image with topology := image.topology.pushed name, name }

/-- Why a layer cannot be taken off; only storage is not looked at. -/
def requireRemovable (image : Image) (name : String) : Except Failure Unit :=
  let chained := image.topology.contains name
  if image.layers.size = 1 then
    .error (.illegalTransition (.removeLastLayer name image.idText))
  else if chained ∧ !image.topology.isChain then
    .error (.illegalTransition (.removeOnlyChainLayer name image.idText))
  else if chained ∧ image.topology.top? ≠ some name then
    .error (.illegalTransition (.removeBelowTop name image.idText))
  else .ok ()

end Image

namespace Session

variable {σ : Type} (agent : Agent σ) (settings : ImageSettings)

/-- Adds a layer; answers with its document. -/
def add (args : AddArguments) : Action (Session σ) Json := do
  askImage (·.requireNew args.target)
  let nodes ← ask fun image registry => image.nodesFor registry args.nodes
  let params := Image.paramsOn nodes args.params
  let layer ← ask fun _ registry => Layer.define registry settings args.target params
  let layer ← onWorld (layer.createObject agent nodes)
  let layer ←
    if args.chained then do
      let top ← askImage (·.top)
      modifyImage (·.pushTop args.target)
      pure { layer with backing := some top }
    else pure layer
  modifyImage (·.putLayer args.target layer)
  return layer.toJson

/-- Takes a layer off. -/
def remove (name : String) : Action (Session σ) Json := do
  let layer ← askImage (·.layer name)
  askImage (·.requireRemovable name)
  if ← ask fun _ registry => layer.isAllocated registry then
    Action.fail (.illegalTransition (.removeAllocated name))
  else
    let chained ← Action.gets (·.image.topology.contains name)
    destroyLayer name
    modifyImage (·.withoutLayer name)
    if chained then
      modifyImage fun image => { image with topology := image.topology.popped }
      let top ← askImage (·.top)
      modifyImage fun image => { image with name := top }
    return .null

/-- What a node is told to do for a rebase, `source` and `target` taking precedence. -/
def rebaseArguments (extra : Arguments) (source target : String) : Json :=
  Arguments.toJson ((extra.insert "source" (.str source)).insert "target" (.str target))

/-- Makes the storage of an added layer and has the node tie it to the old top. -/
def tie (source target : String) (extra : Arguments) : Action (Session σ) Json := do
  let _ ← create agent (some target) ∅
  callNode agent "rebase" (rebaseArguments extra source target)

/-- Puts a new top over the present one. -/
def rebase (args : RebaseArguments) : Action (Session σ) Json := do
  askImage (·.requireNew args.target)
  let source ← askImage (·.top)
  let _ ← add agent settings
    { target := args.target, params := args.params, chained := false, nodes := args.nodes }
  match ← Action.attempt (tie agent source args.target args.extra) with
  | .error failure =>
    if settings.recovery = .rollback then dropLayer agent args.target
    Action.fail failure
  | .ok out =>
    let layer ← askImage (·.layer args.target)
    modifyImage fun image =>
      (image.putLayer args.target { layer with backing := some source }).pushTop args.target
    return out

end Session

end DiskFleet
