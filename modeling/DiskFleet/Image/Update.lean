import DiskFleet.Image.Backup
import DiskFleet.Image.Clone
import DiskFleet.Image.Object

/-!
# Carrying out image commands

`Session.update` sends each command to its operation. Commands that only the node knows are handed
on to it; they and `config` touch no storage of the engine's own.
-/

namespace DiskFleet

namespace Image

/-- The image with its meta data edited. The name is that of the top layer and can only be
confirmed; an empty owner means none. -/
def edited (image : Image) (name owner : Option String) : Except Failure Image :=
  if name.isSome ∧ name ≠ some image.name then
    .error (.illegalTransition (.namedAfterTop image.idText image.name))
  else
    .ok { image with
      owner :=
        match owner with
        | none => image.owner
        | some owner => if owner.isEmpty then none else some owner }

end Image

namespace Session

variable {σ : Type} (agent : Agent σ) (settings : ImageSettings)

/-- Edits the meta data; answers with them. -/
def config (name owner : Option String) : Action (Session σ) Json := do
  let image ← askImage (·.edited name owner)
  modifyImage fun _ => image
  return image.metaToJson

/-- Carries out a command. -/
def update (command : ImageCommand) : Action (Session σ) Json :=
  match command with
  | .create target extra => create agent target extra
  | .destroy target _ => destroy agent target
  | .rebase args => rebase agent settings args
  | .add args => add agent settings args
  | .remove target => remove target
  | .config name owner => config name owner
  | .backup args => backup agent settings args
  | .restore args => restore agent args
  | .commit args | .snapshot args | .info args | .check args =>
    callNode agent command.name args.toJson

end Session

end DiskFleet
