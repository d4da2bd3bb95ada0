import DiskFleet.Request
import DiskFleet.Size

/-!
# Commands for a resource

A resource is bound to nodes and unbound from them, its storage is allocated, released and brought
up to date from a node, and a file volume can grow. `ofRequest` reads a command from a request and
`toJson` writes it as one.
-/

namespace DiskFleet

/-- A size in bytes, or in human form. -/
inductive SizeArgument
  | bytes (count : UInt64)
  | human (text : String)
deriving DecidableEq, Repr

namespace SizeArgument

def toBytes : SizeArgument → Except Failure UInt64
  | bytes count => .ok count
  | human text => Size.parse text

def toJson : SizeArgument → Json
  | bytes count => .ofWord64 count
  | human text => .str text

def ofJson? (json : Json) : Option SizeArgument :=
  match json.asWord64? with
  | some count => some (bytes count)
  | none => json.asText?.map human

end SizeArgument

/-- A command for a resource. No nodes in `bind` and `unbind` means all that are possible. -/
inductive ResourceCommand
  | bind (nodes : List String)
  | unbind (nodes : List String)
  | allocate (args : Arguments)
  | release (args : Arguments)
  | sync (args : Arguments)
  | resize (size : SizeArgument)

namespace ResourceCommand

def name : ResourceCommand → String
  | bind _ => "bind"
  | unbind _ => "unbind"
  | allocate _ => "allocate"
  | release _ => "release"
  | sync _ => "sync"
  | resize _ => "resize"

/-- The nodes that a command names. -/
def nodes : ResourceCommand → List String
  | bind nodes | unbind nodes => nodes
  | allocate args | release args | sync args => args.nodes
  | resize _ => []

/-- The command with each tag replaced by the node it means. -/
def resolve (cluster : Cluster) : ResourceCommand → Except Failure ResourceCommand
  | bind tags => (cluster.resolveAll tags).map bind
  | unbind tags => (cluster.resolveAll tags).map unbind
  | allocate args => (args.resolve cluster).map allocate
  | release args => (args.resolve cluster).map release
  | sync args => (args.resolve cluster).map sync
  | resize size => .ok (resize size)

/-! ## Commands as requests -/

def nodesOfJson? (json : Json) : Option (List String) := do
  let record ← json.record? 1
  record.orElse 0 ["nodes"] Json.asTexts? []

def sizeOfJson? (json : Json) : Option SizeArgument := do
  let record ← json.record? 1
  record.required 0 "size" SizeArgument.ofJson?

/-- How the arguments of each command are read. -/
def reader? : String → Option (Json → Option ResourceCommand)
  | "bind" => some fun args => (nodesOfJson? args).map bind
  | "unbind" => some fun args => (nodesOfJson? args).map unbind
  | "allocate" => some fun args => (Arguments.ofJson? args).map allocate
  | "release" => some fun args => (Arguments.ofJson? args).map release
  | "sync" => some fun args => (Arguments.ofJson? args).map sync
  | "resize" => some fun args => (sizeOfJson? args).map resize
  | _ => none

def argsToJson : ResourceCommand → Json
  | bind nodes | unbind nodes => .obj [("nodes", .ofTexts nodes)]
  | allocate args | release args | sync args => args.toJson
  | resize size => .obj [("size", size.toJson)]

/-- The command as a request. -/
def toJson (command : ResourceCommand) : Json := .obj [(command.name, command.argsToJson)]

/-- The command that a request asks for. -/
def ofRequest (request : Json) : Except Failure ResourceCommand :=
  Request.decode "resource" reader? request

end ResourceCommand

end DiskFleet
