import DiskFleet.Cluster
import DiskFleet.Json.Record

/-!
# Requests

A client asks for a command with a request: an object whose one member has the name of the command
and holds its arguments, where `null` stands for no arguments. Arguments that the engine does not
interpret are handed on to the node agent as they are; one of them can be a list `nodes`, whose
texts name nodes.
-/

namespace DiskFleet

/-- Arguments that are handed on to a node agent. -/
abbrev Arguments := SortedMap Json

namespace Arguments

def toJson (args : Arguments) : Json := .obj args.entries

def ofJson? : Json → Option Arguments
  | .obj members => some (.ofList members)
  | _ => none

/-- The texts in the list `nodes`, if there is such a list. -/
def nodes (args : Arguments) : List String :=
  match args.get? "nodes" with
  | some (.arr items) => items.filterMap Json.asText?
  | _ => []

/-- The node that a text means; anything else is left alone. -/
def resolveItem (cluster : Cluster) : Json → Except Failure Json
  | .str tag => (cluster.resolve tag).map .str
  | item => .ok item

def resolveItems (cluster : Cluster) : List Json → Except Failure (List Json)
  | [] => .ok []
  | item :: rest => do
    let item ← resolveItem cluster item
    let rest ← resolveItems cluster rest
    return item :: rest

/-- The arguments with the tags in the list `nodes` replaced by the nodes they mean. -/
def resolve (cluster : Cluster) (args : Arguments) : Except Failure Arguments :=
  match args.get? "nodes" with
  | some (.arr items) =>
    (resolveItems cluster items).map fun items => args.insert "nodes" (.arr items)
  | _ => .ok args

end Arguments

namespace Request

/-- The name of the one command of a request, and its arguments. -/
def split : Json → Except Failure (String × Json)
  | .obj [(command, .null)] => .ok (command, .obj [])
  | .obj [(command, args)] => .ok (command, args)
  | .obj members => .error (.invalidRequest (.requestCount members.length))
  | _ => .error (.invalidRequest .requestNotMap)

/-- Reads a request for one of the commands of an object, `target` in messages. `decode?` answers
for a known command with what its arguments decode to. -/
def decode {α : Type} (target : String) (decode? : String → Option (Json → Option α))
    (request : Json) : Except Failure α := do
  let (command, args) ← split request
  match decode? command with
  | none => .error (.unsupportedCommand command target)
  | some decodeArgs =>
    match decodeArgs args with
    | none => .error (.invalidRequest (.badArguments command))
    | some value => .ok value

end Request

end DiskFleet
