import DiskFleet.Proofs.Registry.Addressed
import DiskFleet.Proofs.Registry.Storage

/-!
# What the agents were asked for

A call carries whole documents. What it asks for is short: a method for the resource of some id, or
an image command with its arguments (`Errand`). Where the order of calls matters, it is told by the
errands that the history has grown by (`Link.Received`).
-/

namespace DiskFleet

/-- What a call asks for. -/
inductive Errand
  /-- A method of the resource service, for the resource of an id. -/
  | resource (method id : String)
  /-- A command of the image service. -/
  | image (command : String) (args : Json)

namespace Errand

/-- To have a node make the storage of a resource. -/
def allocate (id : String) : Errand := resource "allocate" id

/-- To have a node tie a layer to the one that it is backed by. -/
def rebase (source target : String) : Errand :=
  image "rebase" (.obj [("source", .str source), ("target", .str target)])

/-- To have each layer of a list tied to the one before it. -/
def rebases (names : List String) : List Errand :=
  (names.zip names.tail).map fun pair => rebase pair.1 pair.2

end Errand

/-- The errand of a call. -/
def Exchange.errand? (exchange : Exchange) : Option Errand :=
  if exchange.call.service = Call.resourceService then
    exchange.resourceId?.map (Errand.resource exchange.call.method)
  else do
    let command ← exchange.call.command?
    let args ← exchange.call.commandArgs?
    return .image command args

/-- A call on behalf of a resource asks for its method. -/
theorem Resource.errand?_callOf {resource : Resource} {id : String} {pool : PoolDocument}
    {node method : String} {args : Arguments} (hId : resource.document.id = some id)
    (outcome : Except Failure Reply) :
    Exchange.errand? ⟨resource.callOf pool node method args, outcome⟩ =
      some (.resource method id) := by
  have hService : (resource.callOf pool node method args).service = Call.resourceService := rfl
  rw [Exchange.errand?, if_pos hService, resourceId?_callOf, hId]
  rfl

/-- A call on behalf of an image asks for its command. -/
theorem Image.errand?_callFor {image : Image} {registry : Registry} {command : String}
    {args : Json} {call : Call} (h : image.callFor registry command args = .ok call)
    (outcome : Except Failure Reply) :
    Exchange.errand? ⟨call, outcome⟩ = some (.image command args) := by
  obtain ⟨node, -, hRest⟩ := Action.bind_eq_ok_iff.1 h
  obtain ⟨document, -, hCall⟩ := Action.bind_eq_ok_iff.1 hRest
  obtain rfl := Except.ok.inj hCall
  simp [Exchange.errand?, Call.resourceService, Call.imageService, Call.command?,
    Call.commandArgs?, Json.get?, lookup_cons_eq]

namespace Link

variable {σ : Type} {before between after : Link σ} {first second : List Errand} {errand : Errand}

/-- From one state to another the agents received exactly these errands, in this order. -/
def Received (before after : Link σ) (errands : List Errand) : Prop :=
  ∃ exchanges, after.history = before.history ++ exchanges ∧
    exchanges.map (·.errand?) = errands.map some

theorem received_nil (link : Link σ) : Received link link [] :=
  ⟨[], by simp, rfl⟩

theorem Received.append (hFirst : Received before between first)
    (hSecond : Received between after second) : Received before after (first ++ second) := by
  obtain ⟨earlier, hBetween, hEarlier⟩ := hFirst
  obtain ⟨later, hAfter, hLater⟩ := hSecond
  refine ⟨earlier ++ later, ?_, ?_⟩
  · rw [hAfter, hBetween, List.append_assoc]
  · rw [List.map_append, List.map_append, hEarlier, hLater]

/-- One call is one errand. -/
theorem received_calling {agent : Agent σ} {call : Call} {link : Link σ}
    (h : (link.exchange agent call).errand? = some errand) :
    Received link (link.calling agent call) [errand] :=
  ⟨[link.exchange agent call], history_calling agent call link, by simp [h]⟩

end Link

end DiskFleet
