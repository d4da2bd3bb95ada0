import DiskFleet.Image.Session

/-!
# Image objects

An image is defined from parameters, which may list its chain of layers. Making the image object
makes the object of every layer; when one of them cannot be made, those that were made are unmade
again. The object is unmade only when no layer holds storage any more, the chain from the top down
and then the layers outside it.
-/

namespace DiskFleet

namespace Image

/-- The layers of a chain, base first, each backed by the one before it. -/
def defineLayers (registry : Registry) (settings : ImageSettings) (params : Params) :
    Table Layer → Option String → List String → Except Failure (Table Layer)
  | layers, _, [] => .ok layers
  | layers, backing, name :: rest => do
    let layer ← Layer.define registry settings name (params.forObject name)
    defineLayers registry settings params (layers.insert name { layer with backing }) (some name)
      rest

/-- The document of an image. `image_chain` lists its layers, base first; without it there is one
layer with the name of the image. -/
def define (registry : Registry) (settings : ImageSettings) (name : String) (params : Params) :
    Except Failure Image := do
  let listed := params.objects "image_chain"
  let chain := if listed.isEmpty then [name] else listed
  let layers ← defineLayers registry settings params ∅ none chain
  let topology := Topology.ofNames chain
  return {
    id := none, name := topology.top?.getD name, owner := params.get? "vm_name", topology, layers }

/-- The layers in the order in which their objects are unmade. -/
def teardownOrder (image : Image) : List String :=
  image.topology.names.reverse ++
    image.layers.keys.filter fun name => !image.topology.contains name

/-- The first layer that holds storage. -/
def firstAllocated (registry : Registry) : List (String × Layer) → Except Failure (Option String)
  | [] => .ok none
  | (name, layer) :: rest => do
    if ← layer.isAllocated registry then return some name
    firstAllocated registry rest

end Image

namespace Session

variable {σ : Type}

/-- Makes the object of every layer, or of none. -/
def createObject (agent : Agent σ) : Action (Session σ) Unit := do
  let names ← Action.gets (·.image.layers.keys)
  match ← Action.attempt (Action.forEach (createLayer agent) names) with
  | .ok _ => return ()
  | .error failure =>
    Action.forEach (fun name => do let _ ← Action.attempt (destroyLayer name)) names
    Action.fail failure

/-- Unmakes the object of every layer, unless one of them holds storage. -/
def destroyObject : Action (Session σ) Unit := do
  let image ← Action.gets (·.image)
  match ← ask fun image registry => Image.firstAllocated registry image.layers.entries with
  | some name => Action.fail (.illegalTransition (.imageAllocated name image.idText))
  | none => Action.forEach destroyLayer image.teardownOrder

end Session

end DiskFleet
