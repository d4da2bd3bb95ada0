import DiskFleet.Params
import DiskFleet.Request

/-!
# Commands for an image

Storage is made and freed (`create`, `destroy`), layers are put on and taken off (`add`, `remove`,
`rebase`), meta data is edited (`config`), data is copied away and back (`backup`, `restore`), and
the rest is work for the node alone. `ofRequest` reads a command from a request and `toJson` writes
it as one.

`create`, `destroy` and `rebase` hand on what they do not use themselves, so their arguments have to
be an object.
-/

namespace DiskFleet

/-- The arguments of `add`. -/
structure AddArguments where
  target : String
  params : Params
  /-- Whether the new layer becomes the top of the chain. -/
  chained : Bool
  nodes : List String

/-- The arguments of `rebase`. -/
structure RebaseArguments where
  target : String
  params : Params
  nodes : List String
  extra : Arguments

/-- A command for an image. -/
inductive ImageCommand
  | create (target : Option String) (extra : Arguments)
  | destroy (target : Option String) (extra : Arguments)
  | rebase (args : RebaseArguments)
  | commit (args : Arguments)
  | snapshot (args : Arguments)
  | add (args : AddArguments)
  | remove (target : String)
  | info (args : Arguments)
  | check (args : Arguments)
  | config (name owner : Option String)
  | backup (args : Arguments)
  | restore (args : Arguments)

namespace ImageCommand

def name : ImageCommand → String
  | create .. => "create"
  | destroy .. => "destroy"
  | rebase _ => "rebase"
  | commit _ => "commit"
  | snapshot _ => "snapshot"
  | add _ => "add"
  | remove _ => "remove"
  | info _ => "info"
  | check _ => "check"
  | config .. => "config"
  | backup _ => "backup"
  | restore _ => "restore"

/-- The target nodes of a command that can name some. -/
def nodes? : ImageCommand → Option (List String)
  | add args => some args.nodes
  | rebase args => some args.nodes
  | _ => none

/-- The command with each tag replaced by the node it means. -/
def resolve (cluster : Cluster) : ImageCommand → Except Failure ImageCommand
  | add args => (cluster.resolveAll args.nodes).map fun nodes => add { args with nodes }
  | rebase args => (cluster.resolveAll args.nodes).map fun nodes => rebase { args with nodes }
  | command => .ok command

/-! ## Commands as requests -/

/-- The members of an object that have none of the given names. -/
def extraOf (names : List String) : Json → Arguments
  | .obj members => .ofList (members.filter fun entry => !names.contains entry.1)
  | _ => ∅

/-- The fields of an object; an array is refused. -/
def objectRecord? : Json → Option (Record Json)
  | .obj members => some (.named members)
  | _ => none

/-- A target, which may be missing, and the other arguments. -/
def targetOfJson? (json : Json) : Option (Option String × Arguments) := do
  let record ← objectRecord? json
  let target ← record.optionalOr 0 "target" Json.asText?
  return (target, extraOf ["target"] json)

def addOfJson? (json : Json) : Option AddArguments := do
  let record ← json.record? 4
  return {
    target := ← record.required 0 "target" Json.asText?
    params := ← record.orElse 1 ["target_params"] Params.ofJson? .empty
    chained := ← record.orElse 2 ["backing_chain", "backingChain"] Json.asBool? false
    nodes := ← record.orElse 3 ["nodes"] Json.asTexts? [] }

def removeOfJson? (json : Json) : Option String := do
  let record ← json.record? 1
  record.required 0 "target" Json.asText?

def rebaseOfJson? (json : Json) : Option RebaseArguments := do
  let record ← objectRecord? json
  return {
    target := ← record.required 0 "target" Json.asText?
    params := ← record.orElse 1 ["target_params"] Params.ofJson? .empty
    nodes := ← record.orElse 2 ["nodes"] Json.asTexts? []
    extra := extraOf ["target", "target_params", "nodes"] json }

def configOfJson? (json : Json) : Option (Option String × Option String) := do
  let record ← json.record? 2
  let name ← record.optionalOr 0 "name" Json.asText?
  let owner ← record.optionalOr 1 "owner" Json.asText?
  return (name, owner)

/-- How the arguments of each command are read. -/
def reader? : String → Option (Json → Option ImageCommand)
  | "create" => some fun args => (targetOfJson? args).map fun (target, extra) => create target extra
  | "destroy" => some fun args =>
    (targetOfJson? args).map fun (target, extra) => destroy target extra
  | "rebase" => some fun args => (rebaseOfJson? args).map rebase
  | "commit" => some fun args => (Arguments.ofJson? args).map commit
  | "snapshot" => some fun args => (Arguments.ofJson? args).map snapshot
  | "add" => some fun args => (addOfJson? args).map add
  | "remove" => some fun args => (removeOfJson? args).map remove
  | "info" => some fun args => (Arguments.ofJson? args).map info
  | "check" => some fun args => (Arguments.ofJson? args).map check
  | "config" => some fun args => (configOfJson? args).map fun (name, owner) => config name owner
  | "backup" => some fun args => (Arguments.ofJson? args).map backup
  | "restore" => some fun args => (Arguments.ofJson? args).map restore
  | _ => none

/-- The fields of a command and what it hands on, in one object. The fields are written first, so that
of two members with one name what is handed on wins. -/
def withExtra (fields : List (String × Json)) (extra : Arguments) : Json :=
  .object (fields ++ extra.entries)

/-- The arguments of `create` and `destroy` as a tree. -/
def targetToJson (target : Option String) (extra : Arguments) : Json :=
  withExtra (target.map fun target => ("target", .str target)).toList extra

def argsToJson : ImageCommand → Json
  | create target extra | destroy target extra => targetToJson target extra
  | rebase args =>
    withExtra [("target", .str args.target), ("target_params", args.params.toJson),
      ("nodes", .ofTexts args.nodes)] args.extra
  | add args =>
    .obj [("backing_chain", .bool args.chained), ("nodes", .ofTexts args.nodes),
      ("target", .str args.target), ("target_params", args.params.toJson)]
  | remove target => .obj [("target", .str target)]
  | config name owner =>
    .obj [("name", .ofOptionText name), ("owner", .ofOptionText owner)]
  | commit args | snapshot args | info args | check args | backup args | restore args => args.toJson

/-- The command as a request. -/
def toJson (command : ImageCommand) : Json := .obj [(command.name, command.argsToJson)]

/-- The command that a request asks for. -/
def ofRequest (request : Json) : Except Failure ImageCommand :=
  Request.decode "image" reader? request

end ImageCommand

end DiskFleet
