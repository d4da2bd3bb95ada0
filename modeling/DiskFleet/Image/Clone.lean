import DiskFleet.Image.Chain

/-!
# Clones

A clone is a new image with a copy of every layer of the chain. The copies carry one fresh suffix,
lie in the pools of their sources, are bound to the same nodes and allocated. The node then ties
each copy to the one below it. When a clone fails, the volumes it made are kept or discarded, as the
recovery setting says; the image that is cloned never changes.
-/

namespace DiskFleet

namespace Session

variable {σ : Type} (agent : Agent σ) (settings : ImageSettings)

/-- A name of the clone. -/
def cloneName (suffix name : String) : String := name ++ "_" ++ suffix

/-- The copy of a layer, on a volume of its own. -/
def clonedLayer (suffix : String) (id volume : String) (name : String) (source : Layer) : Layer :=
  { source with
    id := some id
    name := cloneName suffix name
    backing := source.backing.map (cloneName suffix)
    backup := none
    volume := some volume
    definition := none }

/-- Copies the volume of a layer, noting the copy, and binds and allocates it; answers with the
copied layer. -/
def cloneLayer (suffix name : String) : Action (Session σ × List String) Layer := do
  let source ← Action.silently (askImage (·.layer name))
  let sourceVolume ← source.volumeOf
  let document ← Action.silently (ask fun _ registry => registry.resourceDocument sourceVolume)
  let volume ← Action.silently
    (onWorld (World.copyResourceAs document.idText (document.pool.getD "") suffix))
  Action.note volume
  Action.silently (onWorld (World.prepare agent volume document.bound))
  let id ← Action.silently (onWorld World.freshId)
  return clonedLayer suffix id volume name source

/-- Copies layers in turn into a table. -/
def cloneLayers (suffix : String) :
    Table Layer → List String → Action (Session σ × List String) (Table Layer)
  | layers, [] => return layers
  | layers, name :: rest => do
    let layer ← cloneLayer agent suffix name
    cloneLayers suffix (layers.insert (cloneName suffix name) layer) rest

/-- Runs a step on another image in the same world. -/
def onImage {α : Type} (image : Image) (action : Action (Session σ) α) : Action (Session σ) α :=
  Action.within (fun session => ⟨image, session.world⟩)
    (fun after session => { session with world := after.world }) action

/-- Has the node tie each layer of a list to the one before it. -/
def tieAll : List String → Action (Session σ) Unit
  | source :: target :: rest => do
    let _ ← callNode agent "rebase" (.obj [("source", .str source), ("target", .str target)])
    tieAll (target :: rest)
  | _ => return ()

/-- Makes the clone, noting the volumes it makes. -/
def buildClone (suffix : String) : Action (Session σ × List String) Image := do
  let image ← Action.gets (·.1.image)
  let layers ← cloneLayers agent suffix ∅ image.topology.names
  let topology := Topology.ofNames (image.topology.names.map (cloneName suffix))
  let id ← Action.silently (onWorld World.freshId)
  let clone : Image :=
    { id := some id, name := topology.top?.getD "", owner := image.owner, topology, layers }
  Action.silently (onImage clone (tieAll agent topology.names))
  return clone

/-- A clone of the image. -/
def clone : Action (Session σ) Image := do
  let suffix ← onWorld (World.freshSuffix settings.suffixLength)
  let (result, created) ← Action.noting (buildClone agent suffix)
  match result with
  | .ok clone => return clone
  | .error failure =>
    if settings.recovery = .rollback then
      Action.forEach (fun volume => onWorld (World.discard agent volume)) created
    Action.fail failure

end Session

end DiskFleet
