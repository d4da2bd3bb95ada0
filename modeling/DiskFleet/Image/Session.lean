import DiskFleet.Image.Layer

/-!
# Work on one image

An image command works on the document of one image and on the world its volumes live in: that pair
is a `Session`. The module holds what the commands share: finding a layer, the nodes that the image
can be used from, its document for a node, and the call that asks a node for image work.

Image work goes to the primary node, the first by name of all nodes that some layer volume is bound
to. The document that the node gets has every layer's volume document in the place of its id.
-/

namespace DiskFleet

/-- The document of an image and the world its volumes live in. -/
structure Session (σ : Type) where
  image : Image
  world : World σ

namespace Image

/-- The layer of a name. -/
def layer (image : Image) (name : String) : Except Failure Layer :=
  match image.layers.get? name with
  | some layer => .ok layer
  | none => .error (.layerNotFound image.idText name)

theorem layer_eq_ok_iff {image : Image} {name : String} {layer : Layer} :
    image.layer name = .ok layer ↔ image.layers.get? name = some layer := by
  unfold Image.layer
  split <;> simp_all

/-- The top layer of the chain. -/
def top (image : Image) : Except Failure String :=
  match image.topology.top? with
  | some name => .ok name
  | none => .error (.internal (.emptyTopology image.idText))

/-- The image with a layer stored under a name. -/
def putLayer (image : Image) (name : String) (layer : Layer) : Image :=
  { image with layers := image.layers.insert name layer }

/-- The image with the backup pointers to a layer removed. -/
def forgetBackup (image : Image) (name : String) : Image :=
  { image with
    layers := image.layers.mapValues fun layer =>
      if layer.backup = some name then { layer with backup := none } else layer }

/-- The image without a layer, and without backup pointers to it. -/
def withoutLayer (image : Image) (name : String) : Image :=
  Image.forgetBackup { image with layers := image.layers.erase name } name

/-- The layers that a command with an optional target acts on; `every` means all layers in the place
of the chain. A named layer of the chain has to be its top. -/
def targets (image : Image) (target : Option String) (every : Bool) :
    Except Failure (List String) :=
  match target with
  | none => .ok (if every then image.layers.keys else image.topology.names)
  | some name => do
    let _ ← image.layer name
    if image.topology.contains name ∧ image.topology.top? ≠ some name then
      throw (.illegalTransition (.notTop name image.idText))
    return [name]

/-- Every node that one of the volumes is bound to, as often as it is. -/
def boundNodes (registry : Registry) : List String → Except Failure (List String)
  | [] => .ok []
  | volume :: rest => do
    let document ← registry.resourceDocument volume
    let nodes ← boundNodes registry rest
    return document.bound ++ nodes

/-- The nodes that the image can be used from, in order. -/
def accessNodes (image : Image) (registry : Registry) : Except Failure (List String) := do
  let nodes ← boundNodes registry (image.volumes.map (·.2))
  return (NameSet.ofList nodes).keys

/-- The node that does the image work. -/
def primaryNode (image : Image) (registry : Registry) : Except Failure String := do
  match ← image.accessNodes registry with
  | node :: _ => return node
  | [] => throw (.illegalTransition (.imageNotBound image.idText))

/-- A document with the documents of the given volumes in the places of their ids. -/
def inlineVolumes (registry : Registry) : List (String × String) → Json → Except Failure Json
  | [], info => .ok info
  | (layer, volume) :: rest, info => do
    let document ← registry.resourceInfo volume none false
    inlineVolumes registry rest (info.setAt ["spec", "images", layer, "spec", "volume"] document)

/-- The document of the image as a tree, on request with the documents of its volumes. -/
def info (image : Image) (registry : Registry) (verbose : Bool) : Except Failure Json :=
  if verbose then inlineVolumes registry image.volumes image.toJson else .ok image.toJson

/-- The call that asks the primary node for a command of the image service. -/
def callFor (image : Image) (registry : Registry) (command : String) (args : Json) :
    Except Failure Call := do
  let node ← image.primaryNode registry
  let document ← image.info registry true
  return {
    node, service := Call.imageService, method := Call.updateImage
    args := .obj [("command", .obj [(command, args)]), ("image", document)] }

end Image

namespace Session

variable {σ α : Type}

/-- Runs a step on the world. -/
def onWorld (action : Action (World σ) α) : Action (Session σ) α :=
  Action.within (·.world) (fun world session => { session with world }) action

/-- Replaces the document of the image by a function of it. -/
def modifyImage (f : Image → Image) : Action (Session σ) Unit :=
  Action.modify fun session => { session with image := f session.image }

/-- A value or failure that is computed from the document of the image. -/
def askImage (f : Image → Except Failure α) : Action (Session σ) α := do
  let image ← Action.gets (·.image)
  f image

/-- A value or failure that is computed from the document and the registry. -/
def ask (f : Image → Registry → Except Failure α) : Action (Session σ) α := do
  let session ← Action.get
  f session.image session.world.registry

/-- Asks the primary node for a command of the image service. -/
def callNode (agent : Agent σ) (command : String) (args : Json) : Action (Session σ) Json := do
  let call ← ask fun image registry => image.callFor registry command args
  onWorld (Action.within (·.link) (fun link world => { world with link }) (Link.invoke agent call))

/-- Makes the object of one layer. -/
def createLayer (agent : Agent σ) (name : String) : Action (Session σ) Unit := do
  let layer ← askImage (·.layer name)
  let layer ← onWorld (layer.createObject agent [])
  modifyImage (·.putLayer name layer)

/-- Unmakes the object of one layer. -/
def destroyLayer (name : String) : Action (Session σ) Unit := do
  let layer ← askImage (·.layer name)
  let layer ← onWorld layer.destroyObject
  modifyImage (·.putLayer name layer)

/-- Releases and destroys the volume of a layer as far as that goes, and takes the layer off. -/
def dropLayer (agent : Agent σ) (name : String) : Action (Session σ) Unit := do
  let image ← Action.gets (·.image)
  match image.layers.get? name with
  | none => return ()
  | some layer =>
    match layer.volume with
    | some volume => onWorld (World.discard agent volume)
    | none => pure ()
    modifyImage (·.withoutLayer name)

end Session

end DiskFleet
