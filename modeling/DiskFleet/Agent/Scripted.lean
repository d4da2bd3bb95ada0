import DiskFleet.Agent.InMemory

/-!
# An agent with prepared answers

A scripted agent takes its answers from queues, one for each image command or method that has been
prepared. A queue for the command of a call hides the one for its method, also when it is empty. A
call without a prepared answer goes on to the agent that keeps everything in memory.
-/

namespace DiskFleet

/-- A prepared answer. -/
inductive PreparedAnswer
  /-- The call does not reach the node. -/
  | undelivered (reason : String)
  | reply (reply : Reply)
  /-- The call goes on to the agent in memory. -/
  | handOn

/-- The queues of prepared answers, and the agent behind them. -/
structure ScriptedAgent where
  inner : InMemoryAgent
  queues : Table (List PreparedAnswer)

namespace ScriptedAgent

/-- A scripted agent without prepared answers. -/
def fresh : ScriptedAgent := { inner := .fresh, queues := ∅ }

/-- The agent with the queue for `name` replaced. -/
def preparing (agent : ScriptedAgent) (name : String) (answers : List PreparedAnswer) :
    ScriptedAgent :=
  { agent with queues := agent.queues.insert name answers }

/-- Changes the agent behind the queues. -/
def mapInner (f : InMemoryAgent → InMemoryAgent) (agent : ScriptedAgent) : ScriptedAgent :=
  { agent with inner := f agent.inner }

/-- The name of the queue that a call is answered from. -/
def queueFor? (agent : ScriptedAgent) (call : Call) : Option String :=
  match call.command? with
  | some command =>
    if agent.queues.contains command then some command
    else if agent.queues.contains call.method then some call.method
    else none
  | none => if agent.queues.contains call.method then some call.method else none

/-- Hands a call on to the agent in memory. -/
def handOn (agent : ScriptedAgent) (call : Call) : Except Failure Reply × ScriptedAgent :=
  match InMemoryAgent.respond agent.inner call with
  | (outcome, inner) => (outcome, { agent with inner })

/-- How the agent answers a call. -/
def respond : Agent ScriptedAgent := fun agent call =>
  match agent.queueFor? call with
  | none => agent.handOn call
  | some name =>
    match agent.queues.get? name with
    | none | some [] => agent.handOn call
    | some (answer :: rest) =>
      let agent := { agent with queues := agent.queues.insert name rest }
      match answer with
      | .undelivered reason => (.error (.internal (.stated reason)), agent)
      | .reply reply => (.ok reply, agent)
      | .handOn => agent.handOn call

end ScriptedAgent

end DiskFleet
