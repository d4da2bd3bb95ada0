import DiskFleet.Image.Storage

/-!
# Backups

`backup` gives every layer of the chain that has no backup a layer outside the chain to hold one: a
copy of its volume in a filesystem pool that the primary node reaches, bound to that node and
allocated. The node then copies the data, and `restore` has it copied back.

When a backup fails, the layers it made are kept or dropped, the newest first, as the recovery
setting says.
-/

namespace DiskFleet

namespace Image

/-- The filesystem pool for backups that a node reaches. -/
def backupPool (image : Image) (registry : Registry) (node : String) : Except Failure String :=
  let request := Params.ofList [("storage_type", "filesystem"), ("vm_node", node)]
  match registry.poolFor? .volume request with
  | some pool => .ok pool
  | none => .error (.policyViolation (.noBackupPool node image.idText))

/-- The layers of the chain that have no backup. -/
def withoutBackup (image : Image) : List String :=
  image.topology.names.filter fun name =>
    match image.layers.get? name with
    | some layer => layer.backup.isNone
    | none => false

/-- Whether some layer of the chain has a backup. -/
def hasBackup (image : Image) : Bool :=
  image.topology.names.any fun name =>
    match image.layers.get? name with
    | some layer => layer.backup.isSome
    | none => false

/-- The image with a backup layer on `volume`, and the pointer to it in the layer it belongs to. -/
def withBackup (image : Image) (name backup : String) (id volume : String) (source : Layer) :
    Except Failure Image := do
  let image := image.putLayer backup
    { id := some id, name := backup, format := source.format, backing := none, backup := none
      volume := some volume, definition := none, clusterSize := none, preallocation := none
      secret := source.secret }
  let layer ← image.layer name
  return image.putLayer name { layer with backup := some backup }

end Image

namespace Session

variable {σ : Type} (agent : Agent σ) (settings : ImageSettings)

/-- Gives one layer its backup layer and notes the new layer's name, then binds and allocates the
volume. -/
def backupLayer (primary pool suffix name : String) : Action (Session σ × List String) Unit := do
  let source ← Action.silently (askImage (·.layer name))
  let sourceVolume ← source.volumeOf
  let volume ← Action.silently (onWorld (World.copyResourceAs sourceVolume pool suffix))
  let id ← Action.silently (onWorld World.freshId)
  let backup := name ++ "_" ++ suffix
  let image ← Action.silently (askImage (·.withBackup name backup id volume source))
  Action.silently (modifyImage fun _ => image)
  Action.note backup
  Action.silently do
    let _ ← onWorld (World.updateResource agent volume (.bind [primary]))
    let _ ← onWorld (World.updateResource agent volume (.allocate ∅))

/-- Gives every layer of the chain a backup layer, noting the new ones, and has the node copy the
data. -/
def backupLayers (args : Arguments) : Action (Session σ × List String) Json := do
  let primary ← Action.silently (ask Image.primaryNode)
  let pool ← Action.silently (ask fun image registry => image.backupPool registry primary)
  let random ← Action.silently (onWorld (World.freshSuffix settings.suffixLength))
  let pending ← Action.gets (·.1.image.withoutBackup)
  Action.forEach (backupLayer agent primary pool ("backup_" ++ random)) pending
  Action.silently (callNode agent "backup" args.toJson)

/-- Backs the chain up. -/
def backup (args : Arguments) : Action (Session σ) Json := do
  let (result, created) ← Action.noting (backupLayers agent settings args)
  match result with
  | .ok out => return out
  | .error failure =>
    if settings.recovery = .rollback then Action.forEach (dropLayer agent) created.reverse
    Action.fail failure

/-- Has the node copy the backups back. -/
def restore (args : Arguments) : Action (Session σ) Json := do
  let image ← Action.gets (·.image)
  if image.hasBackup then callNode agent "restore" args.toJson
  else Action.fail (.illegalTransition (.noBackups image.idText))

end Session

end DiskFleet
