import DiskFleet.Agent.Link
import DiskFleet.Map.Table

/-!
# An agent that keeps everything in memory

For trying the engine out there is one agent for all nodes, which has no storage at all. It reports
the bound backing of a volume as its location and its virtual size as its allocation, names tap
interfaces and counts descriptors up from ten. Calls can be made to fail by the name of their image
command or of their method, until that is cleared again; a command's failure comes before its
method's. A failed call hands no descriptor out.
-/

namespace DiskFleet

/-- What the agent remembers. -/
structure InMemoryAgent where
  /-- The calls that fail, by image command or method, with status and diagnostic. -/
  failures : Table (Int32 × String)
  /-- The allocation that `sync` reports for volumes. -/
  syncAllocation : UInt64
  nextFd : Int

namespace InMemoryAgent

/-- An agent that has not been called yet. -/
def fresh : InMemoryAgent := { failures := ∅, syncAllocation := 0, nextFd := 10 }

/-- The agent with every call of `name` failing. -/
def failing (agent : InMemoryAgent) (name : String) (status : Int32) (text : String) :
    InMemoryAgent :=
  { agent with failures := agent.failures.insert name (status, text) }

/-- The agent with calls of `name` no longer failing. -/
def clearing (agent : InMemoryAgent) (name : String) : InMemoryAgent :=
  { agent with failures := agent.failures.erase name }

/-- The failure that is set for a call. -/
def failure? (agent : InMemoryAgent) (call : Call) : Option (Int32 × String) :=
  match call.command?.bind agent.failures.get? with
  | some failure => some failure
  | none => agent.failures.get? call.method

/-- The interface name of a port: the wanted one, or one made of its name. -/
def interfaceName (resource : Json) : String :=
  match ((resource.member "spec").member "ifname").asText? with
  | some name => name
  | none => "tap-" ++ ((resource.member "meta").member "name").asText?.getD "port"

/-- The output of the image service. -/
def imageOutput (call : Call) : Json :=
  let head := (call.args.member "image").member "meta"
  match call.command? with
  | some "info" => .obj [("image", head.member "name"), ("topology", head.member "topology")]
  | some "check" => .str "No errors were found on the image."
  | _ => .null

/-- The output of the resource service, and the next descriptor. -/
def resourceOutput (agent : InMemoryAgent) (call : Call) : Json × Int :=
  let resource := call.args.member "resource"
  let head := resource.member "meta"
  let spec := resource.member "spec"
  let port := (head.member "type").asText? == some "port"
  if call.method = "allocate" then
    if port then
      (.obj [("fds", .arr [.int agent.nextFd]), ("ifname", .str (interfaceName resource))],
        agent.nextFd + 1)
    else
      (.obj [("allocation", spec.member "size"),
        ("uri", ((head.member "bindings").member call.node).member "backing")], agent.nextFd)
  else if call.method = "sync" then
    if port then (.obj [("ifname", spec.member "ifname")], agent.nextFd)
    else (.obj [("allocation", .ofWord64 agent.syncAllocation)], agent.nextFd)
  else (.null, agent.nextFd)

/-- How the agent answers a call. -/
def respond : Agent InMemoryAgent := fun agent call =>
  match agent.failure? call with
  | some (status, text) => (.ok (.failed status text), agent)
  | none =>
    if call.service = Call.imageService then (.ok (.succeeded (imageOutput call)), agent)
    else
      let (out, nextFd) := agent.resourceOutput call
      (.ok (.succeeded out), { agent with nextFd })

end InMemoryAgent

end DiskFleet
