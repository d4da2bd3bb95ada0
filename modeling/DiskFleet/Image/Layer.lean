import DiskFleet.Image.Document
import DiskFleet.Image.Settings
import DiskFleet.Registry.Operations

/-!
# Layers and their volumes

Each layer stands on a volume of its own. It is defined together with the definition of that volume;
making the layer object creates the volume and binds it, and undoing that gives the definition back
to the layer. A layer object whose volume cannot be bound is not made, and leaves no volume behind.
-/

namespace DiskFleet

namespace Layer

/-- The options that a format reads from the parameters: cluster size, preallocation and secret. -/
def formatOptions (format : LayerFormat) (params : Params) :
    Option String × Option String × Option String :=
  match format with
  | .qcow2 => (params.get? "image_cluster_size", params.get? "preallocated", none)
  | .luks => (none, none, params.get? "image_secret")
  | .raw => (none, none, none)

/-- A layer and its volume, which goes to the first pool that meets the request. -/
def define (registry : Registry) (settings : ImageSettings) (name : String) (params : Params) :
    Except Failure Layer := do
  let word := params.getD "image_format" settings.layerFormat
  match LayerFormat.ofWord? word with
  | none => throw (.invalidRequest (.layerFormat word))
  | some format =>
    let volumeParams := params.set "image_format" word
    let volumeParams :=
      if (volumeParams.get? "image_size").isNone then
        volumeParams.set "image_size" settings.layerSize
      else volumeParams
    let definition ← registry.defineResource name .volume volumeParams
    let (clusterSize, preallocation, secret) := formatOptions format params
    return {
      id := none, name, format, backing := none, backup := none, volume := none
      definition := some definition, clusterSize, preallocation, secret }

/-- The id of the volume of a layer object. -/
def volumeOf (layer : Layer) : Except Failure String :=
  match layer.volume with
  | some volume => .ok volume
  | none => .error (.illegalTransition (.layerWithoutObject layer.name))

/-- Whether the volume of the layer holds storage. -/
def isAllocated (registry : Registry) (layer : Layer) : Except Failure Bool :=
  match layer.volume with
  | none => .ok false
  | some volume => do
    let document ← registry.resourceDocument volume
    return document.allocated

variable {σ : Type}

/-- Makes the layer object: its volume is created and bound to `nodes`, or to all nodes of the pool
if there are none. A layer without a definition stays as it is. -/
def createObject (agent : Agent σ) (layer : Layer) (nodes : List String) :
    Action (World σ) Layer := do
  match layer.definition with
  | none => return layer
  | some definition =>
    let volume ← World.createResource definition
    match ← Action.attempt (World.updateResource agent volume (.bind nodes)) with
    | .error failure =>
      let _ ← Action.attempt (World.destroyResource volume)
      Action.fail failure
    | .ok _ =>
      let id ← World.freshId
      return { layer with id := some id, definition := none, volume := some volume }

/-- Unmakes the layer object: its volume is destroyed and the layer carries the definition again. A
layer without a volume stays as it is. -/
def destroyObject (layer : Layer) : Action (World σ) Layer := do
  match layer.volume with
  | none => return layer
  | some volume =>
    let document ← World.ask (·.resourceDocument volume)
    World.destroyResource volume
    return { layer with
      id := none, volume := none
      definition := some { document with id := none, bindings := ∅ } }

/-- Allocates the volume of the layer; answers with the volume if this is what made its storage. -/
def allocate (agent : Agent σ) (layer : Layer) : Action (World σ) (Option String) := do
  let volume ← layer.volumeOf
  if ← World.ask layer.isAllocated then return none
  else
    let _ ← World.updateResource agent volume (.allocate ∅)
    return some volume

/-- Releases the volume of the layer. -/
def release (agent : Agent σ) (layer : Layer) : Action (World σ) Unit := do
  let volume ← layer.volumeOf
  let _ ← World.updateResource agent volume (.release ∅)

end Layer

end DiskFleet
