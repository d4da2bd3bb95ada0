import DiskFleet.Action
import DiskFleet.Json.Printer
import DiskFleet.Json.Record

/-!
# Calls to the node agents

Storage itself is handled by an agent on every node. The engine calls a method of a service of the
agent on one node and gets a reply, whose status is zero on success, or the call does not reach the
node at all. How an agent answers is no part of the engine: an `Agent` is any function that answers
a call from what it remembers, and remembers something new.

The `Link` to the agents keeps what they remember, and every call made so far with its outcome, the
oldest first. That history is what statements about "the calls that were made" speak of.
-/

namespace DiskFleet

/-- A call of `method` of `service` on the agent of `node`. -/
structure Call where
  node : String
  service : String
  method : String
  args : Json

/-- What an agent answers: a status, zero on success, and a result whose member `out` holds the
output, on failure a diagnostic. -/
structure Reply where
  status : Int32
  result : Json

namespace Call

/-- The service for the backings of resources. -/
def resourceService : String := "resource"

/-- The service for the storage formats of images. -/
def imageService : String := "image"

/-- The one method of the image service. -/
def updateImage : String := "update_image"

/-- The command that a call of the image service carries: the first one of its `command` member. -/
def command? (call : Call) : Option String :=
  if call.service = imageService then
    match call.args.get? "command" with
    | some (.obj members) => members.head?.map (·.1)
    | _ => none
  else none

/-- The arguments of that command. -/
def commandArgs? (call : Call) : Option Json := do
  let command ← call.command?
  (← call.args.get? "command").get? command

def toJson (call : Call) : Json :=
  .obj [("args", call.args), ("method", .str call.method), ("node", .str call.node),
    ("service", .str call.service)]

/-- Whether `name` is the method of a call or the image command that it carries. -/
def isOf (call : Call) (name : String) : Bool :=
  call.method == name || call.command? == some name

end Call

namespace Reply

def succeeded (out : Json) : Reply := ⟨0, .obj [("out", out)]⟩

def failed (status : Int32) (text : String) : Reply := ⟨status, .obj [("out", .str text)]⟩

/-- The output, `null` where there is none. -/
def out (reply : Reply) : Json := reply.result.member "out"

/-- The diagnostic of a failed reply. -/
def diagnostic (reply : Reply) : String :=
  match reply.out with
  | .str text => text
  | .null => "remote call failed with status " ++ toString reply.status.toInt
  | other => other.compact

/-- The output of a reply from `node`, or its failure. -/
def answer (reply : Reply) (node : String) : Except Failure Json :=
  if reply.status = 0 then .ok reply.out
  else .error (.remote node reply.status.toInt reply.diagnostic)

def toJson (reply : Reply) : Json :=
  .obj [("result", reply.result), ("status", .int reply.status.toInt)]

/-- A reply has a status that fits 32 bits and a result of any kind. -/
def ofJson? (json : Json) : Option Reply := do
  let record ← json.record? 2
  let status ← record.required 0 "status" Json.asInt32?
  let result ← record.required 1 "result" some
  return { status, result }

end Reply

/-- How the agents of all nodes answer, given what they remember. -/
abbrev Agent (σ : Type) := σ → Call → Except Failure Reply × σ

/-- A call and what came of it. -/
structure Exchange where
  call : Call
  outcome : Except Failure Reply

/-- The way to the agents: what they remember, and the exchanges so far, oldest first. -/
structure Link (σ : Type) where
  memory : σ
  history : List Exchange

namespace Link

variable {σ : Type}

/-- Hands a call to the agents and records it with its outcome. -/
def deliver (agent : Agent σ) (call : Call) (link : Link σ) : Except Failure Reply × Link σ :=
  let (outcome, memory) := agent link.memory call
  (outcome, ⟨memory, link.history ++ [⟨call, outcome⟩]⟩)

/-- The calls so far whose method or image command is `name`, oldest first. -/
def callsOf (link : Link σ) (name : String) : List Call :=
  (link.history.map (·.call)).filter fun call => call.isOf name

/-- Calls an agent and answers with the output of its reply. -/
def invoke (agent : Agent σ) (call : Call) : Action (Link σ) Json := fun link =>
  match deliver agent call link with
  | (.ok reply, after) => (reply.answer call.node, after)
  | (.error failure, after) => (.error failure, after)

end Link

/-- An object together with the link to the agents that act for it. -/
structure Linked (σ τ : Type) where
  object : τ
  link : Link σ

namespace Linked

variable {σ τ α : Type}

/-- Runs a step on the link alone. -/
def onLink (action : Action (Link σ) α) : Action (Linked σ τ) α :=
  Action.within (·.link) (fun link linked => { linked with link }) action

/-- Replaces the object by a function of it. -/
def modifyObject (f : τ → τ) : Action (Linked σ τ) Unit :=
  Action.modify fun linked => { linked with object := f linked.object }

end Linked

end DiskFleet
