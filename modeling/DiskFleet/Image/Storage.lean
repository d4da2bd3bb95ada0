import DiskFleet.Image.Command
import DiskFleet.Image.Session

/-!
# Making and freeing the storage of an image

`create` allocates the volumes of its targets that hold no storage yet and then has the primary node
lay out the image on them. If an allocation or the image work fails, the volumes that this command
allocated are released again.

`destroy` releases the volumes of its targets; without a target those are all layers, also the ones
outside the chain.
-/

namespace DiskFleet

namespace Session

variable {σ : Type} (agent : Agent σ)

/-- Releases volumes, as far as that goes. -/
def releaseVolumes (volumes : List String) : Action (Session σ) Unit :=
  Action.forEach
    (fun volume => do
      let _ ← Action.attempt (onWorld (World.updateResource agent volume (.release ∅))))
    volumes

/-- Allocates layers in turn; `allocated` holds the volumes that this made storage for. A failed
allocation releases them. -/
def allocateLayers (allocated : List String) : List String → Action (Session σ) (List String)
  | [] => return allocated
  | name :: rest => do
    let layer ← askImage (·.layer name)
    match ← Action.attempt (onWorld (layer.allocate agent)) with
    | .ok none => allocateLayers allocated rest
    | .ok (some volume) => allocateLayers (allocated ++ [volume]) rest
    | .error failure =>
      releaseVolumes agent allocated
      Action.fail failure

/-- Makes the storage of the image, or of one layer. -/
def create (target : Option String) (extra : Arguments) : Action (Session σ) Json := do
  let targets ← askImage (·.targets target false)
  let allocated ← allocateLayers agent [] targets
  match ← Action.attempt (callNode agent "create" (ImageCommand.targetToJson target extra)) with
  | .ok out => return out
  | .error failure =>
    releaseVolumes agent allocated
    Action.fail failure

/-- Frees the storage of one layer; a layer without a volume has none. -/
def freeLayer (name : String) : Action (Session σ) Unit := do
  let layer ← askImage (·.layer name)
  if layer.volume.isSome then onWorld (layer.release agent)

/-- Frees the storage of the image, or of one layer. -/
def destroy (target : Option String) : Action (Session σ) Json := do
  let targets ← askImage (·.targets target true)
  Action.forEach (freeLayer agent) targets
  return .null

end Session

end DiskFleet
