import DiskFleet.Proofs.Engine.Commands
import DiskFleet.Proofs.Registry.Access

/-!
# Nodes in free arguments

The arguments of `allocate`, `release` and `sync` are handed on to the node agent as they are, but a
list under `nodes` names nodes: its texts are tags in a request, are replaced by the nodes they
mean, and are checked against the access list of the pool. Three places look at the list, and they
agree: `Arguments.resolve` replaces the texts that `Arguments.nodes` collects for the check, and
what is sent holds no others. So every node that is named, in the request or in the call, may reach
the pool, and a request that names any other is refused before anything happened (`Mediated`).

A bare text under `nodes` is overlooked by all three. It names a node as well, but nobody resolves
or checks it, and it reaches the agent.

## Main results

* `named_nodes_mediated`: a list of nodes is checked before a call is made;
* `bare_node_unmediated`: a single node that is not in a list is not.
-/

namespace DiskFleet

/-! ## Names in arguments -/

/-- The nodes that a value of `nodes` names: itself if it is a text, or the texts of a list. -/
def namesIn : Option Json → List String
  | some (.str name) => [name]
  | some (.arr items) => items.filterMap Json.asText?
  | _ => []

namespace Arguments

/-- The nodes that arguments name. -/
def named (args : Arguments) : List String := namesIn (args.get? "nodes")

/-- Whatever stands under `nodes`, it is not a bare text. -/
def NamesInList (args : Arguments) : Prop := ∀ name, args.get? "nodes" ≠ some (.str name)

/-- Names in a list are the ones that are checked. -/
theorem named_eq_nodes {args : Arguments} (h : args.NamesInList) : args.named = args.nodes := by
  unfold named nodes namesIn
  split
  · next name hName => exact absurd hName (h name)
  · next items hItems => rw [hItems]
  · next hOther =>
    split
    · next items hItems => exact absurd hItems (hOther items)
    · rfl

theorem mem_texts_iff {items : List Json} {text : String} :
    text ∈ items.filterMap Json.asText? ↔ .str text ∈ items := by
  rw [List.mem_filterMap]
  constructor
  · rintro ⟨item, hItem, hText⟩
    cases item <;> cases hText
    exact hItem
  · exact fun hItem => ⟨_, hItem, rfl⟩

/-- Each text of a list is replaced by the node it means. -/
theorem mem_resolveItems {cluster : Cluster} {tag : String} :
    ∀ {items resolved : List Json}, resolveItems cluster items = .ok resolved →
      .str tag ∈ items → ∃ node, cluster.resolve tag = .ok node ∧ .str node ∈ resolved
  | item :: rest, resolved, h, hTag => by
    obtain ⟨first, hFirst, hRest⟩ := Action.bind_eq_ok_iff.1 h
    obtain ⟨others, hOthers, hPure⟩ := Action.bind_eq_ok_iff.1 hRest
    obtain rfl := Except.ok.inj hPure
    rcases List.mem_cons.1 hTag with rfl | hTag
    · obtain ⟨node, hMeans, rfl⟩ := Action.map_eq_ok_iff.1 hFirst
      exact ⟨node, hMeans, List.mem_cons_self⟩
    · obtain ⟨node, hMeans, hNode⟩ := mem_resolveItems hOthers hTag
      exact ⟨node, hMeans, List.mem_cons_of_mem _ hNode⟩

/-- **Every node that was named is among those that are checked** once the tags were resolved, and
no bare text has come in. -/
theorem named_of_resolve {cluster : Cluster} {args resolved : Arguments}
    (h : args.resolve cluster = .ok resolved) (hList : args.NamesInList) :
    resolved.NamesInList ∧
      ∀ name ∈ args.named, ∃ node ∈ resolved.named, cluster.resolve name = .ok node := by
  unfold resolve at h
  split at h
  · next items hItems =>
    obtain ⟨nodes, hNodes, rfl⟩ := Action.map_eq_ok_iff.1 h
    have hFound : (args.insert "nodes" (.arr nodes)).get? "nodes" = some (.arr nodes) := by simp
    refine ⟨fun name => by simp [hFound], fun name hName => ?_⟩
    rw [named, hItems] at hName
    obtain ⟨node, hMeans, hNode⟩ := mem_resolveItems hNodes (mem_texts_iff.1 hName)
    refine ⟨node, ?_, hMeans⟩
    rw [named, hFound]
    exact mem_texts_iff.2 hNode
  · next hOther =>
    obtain rfl := Except.ok.inj h
    refine ⟨hList, fun name hName => ?_⟩
    -- what is no list names nothing
    rw [named_eq_nodes hList, nodes] at hName
    split at hName
    · next items hItems => exact absurd hItems (hOther items)
    · cases hName

end Arguments

namespace ResourceCommand

/-- The arguments that a command hands on to the node agent as they are. -/
def args? : ResourceCommand → Option Arguments
  | allocate args | release args | sync args => some args
  | _ => none

theorem nodes_of_args? {command : ResourceCommand} {args : Arguments}
    (h : command.args? = some args) : command.nodes = args.nodes := by
  cases command <;> cases h <;> rfl

theorem args?_of_resolve {cluster : Cluster} {command resolved : ResourceCommand}
    {args : Arguments} (hArgs : command.args? = some args)
    (h : command.resolve cluster = .ok resolved) :
    ∃ changed, args.resolve cluster = .ok changed ∧ resolved.args? = some changed := by
  cases command <;> cases hArgs <;>
  · obtain ⟨changed, hChanged, rfl⟩ := Action.map_eq_ok_iff.1 h
    exact ⟨changed, hChanged, rfl⟩

end ResourceCommand

/-- The nodes that the free arguments of a call name. -/
def Call.named (call : Call) : List String :=
  namesIn ((call.args.get? "arguments").bind (·.get? "nodes"))

namespace Resource

variable {σ : Type} {agent : Agent σ} {pool : PoolDocument} {resource : Resource} {link : Link σ}

/-- A command that asks a node makes one call or none, and the call holds its arguments. -/
theorem link_run_askNode_bind {α : Type} {method action : String} {args : Arguments}
    {next : Json → Action (Linked σ Resource) α}
    (hNext : ∀ out linked, ((next out).run linked).2.link = linked.link) :
    ((askNode agent pool method action args >>= next).run ⟨resource, link⟩).2.link = link ∨
      ∃ node, ((askNode agent pool method action args >>= next).run ⟨resource, link⟩).2.link =
        link.calling agent (resource.callOf pool node method args) := by
  rcases askNode_cases agent pool method action args resource link with
    ⟨failure, hRun⟩ | ⟨node, -, ⟨failure, hRun, -⟩ | ⟨hRun, -⟩⟩
  · rw [Action.run_bind_error hRun]
    exact .inl rfl
  · rw [Action.run_bind_error hRun]
    exact .inr ⟨node, rfl⟩
  · rw [Action.run_bind_ok hRun, hNext]
    exact .inr ⟨node, rfl⟩

/-- **What a call hands on are the arguments of its command.** -/
theorem link_run_handle_of_args (agent : Agent σ) (pool : PoolDocument) (resource : Resource)
    (link : Link σ) {command : ResourceCommand} {args : Arguments}
    (hArgs : command.args? = some args) :
    ((handle agent pool command).run ⟨resource, link⟩).2.link = link ∨
      ∃ node, ((handle agent pool command).run ⟨resource, link⟩).2.link =
        link.calling agent (resource.callOf pool node command.name args) := by
  cases command <;> cases hArgs
  · show ((allocate agent pool args).run ⟨resource, link⟩).2.link = _ ∨
      ∃ node, ((allocate agent pool args).run ⟨resource, link⟩).2.link = _
    simp only [allocate, Action.run_bind, Action.run_gets]
    split
    · exact .inl rfl
    · exact link_run_askNode_bind fun _ _ => rfl
  · show ((release agent pool args).run ⟨resource, link⟩).2.link = _ ∨
      ∃ node, ((release agent pool args).run ⟨resource, link⟩).2.link = _
    simp only [release, Action.run_bind, Action.run_gets]
    split
    · exact link_run_askNode_bind fun _ _ => rfl
    · exact .inl rfl
  · exact link_run_askNode_bind fun _ _ => rfl

end Resource

namespace World

variable {σ α : Type} {world : World σ} {id : String}

/-- The nodes named in the arguments of a command for a resource stand between the client and the
node agents. `means` says which node a name means, and `run` is what came of the command. -/
structure Mediated (world : World σ) (id : String) (args : Arguments)
    (means : String → Except Failure String) (run : Except Failure α × World σ) : Prop where
  /-- If a call was made, every name means a node that may reach the owning pool, and what was
  handed on names no others. -/
  reached : ∃ calls, run.2.link.history = world.link.history ++ calls ∧
    (calls ≠ [] → ∃ pool, world.registry.poolOf id = .ok pool ∧
      (∀ name ∈ args.named, ∃ node ∈ pool.document.access, means name = .ok node) ∧
      ∀ exchange ∈ calls, ∀ name ∈ exchange.call.named, name ∈ pool.document.access)
  /-- A name that means no such node is refused before anything happened. -/
  refused : (∃ name ∈ args.named, ∀ pool, world.registry.poolOf id = .ok pool →
      ∀ node ∈ pool.document.access, means name ≠ .ok node) →
    ∃ failure, run = (.error failure, world)

theorem Mediated.of_refused {args : Arguments} {means : String → Except Failure String}
    {failure : Failure} :
    world.Mediated id args means ((.error failure, world) : Except Failure α × World σ) :=
  ⟨⟨[], (List.append_nil _).symm, fun h => absurd rfl h⟩, fun _ => ⟨failure, rfl⟩⟩

/-- Names are mediated if the nodes that they mean are. -/
theorem Mediated.of_meaning {args resolved : Arguments} {means : String → Except Failure String}
    {run : Except Failure α × World σ} (h : world.Mediated id resolved .ok run)
    (hNamed : ∀ name ∈ args.named, ∃ node ∈ resolved.named, means name = .ok node) :
    world.Mediated id args means run := by
  constructor
  · obtain ⟨calls, hHistory, hCalls⟩ := h.reached
    refine ⟨calls, hHistory, fun hMade => ?_⟩
    obtain ⟨pool, hPool, hAccess, hHanded⟩ := hCalls hMade
    refine ⟨pool, hPool, fun name hName => ?_, hHanded⟩
    obtain ⟨node, hNode, hMeans⟩ := hNamed name hName
    obtain ⟨same, hSame, hEq⟩ := hAccess node hNode
    obtain rfl := Except.ok.inj hEq
    exact ⟨node, hSame, hMeans⟩
  · rintro ⟨name, hName, hOutside⟩
    obtain ⟨node, hNode, hMeans⟩ := hNamed name hName
    refine h.refused ⟨node, hNode, fun pool hPool other hOther hEq => ?_⟩
    obtain rfl := Except.ok.inj hEq
    exact hOutside pool hPool node hOther hMeans

/-- A command whose names stand in a list is mediated. -/
theorem mediated_updateResource (agent : Agent σ) (id : String) (world : World σ)
    {command : ResourceCommand} {args : Arguments} (hArgs : command.args? = some args)
    (hList : args.NamesInList) :
    world.Mediated id args .ok ((updateResource agent id command).run world) := by
  rcases updateResource_cases agent id command world with
    ⟨failure, hRun⟩ | ⟨poolId, pool, resource, hOwner, hPool, hStored, hInside, hRun⟩
  · rw [hRun]
    exact .of_refused
  · have hPoolOf : world.registry.poolOf id = .ok pool :=
      Registry.poolOf_eq_ok_iff.2 ⟨poolId, hOwner, hPool⟩
    have hAccess : args.named ⊆ pool.document.access := by
      rw [Arguments.named_eq_nodes hList, ← ResourceCommand.nodes_of_args? hArgs]
      exact Pool.nodes_subset_of_inside hInside
    rw [hRun]
    constructor
    · rcases Resource.link_run_handle_of_args agent pool.document resource world.link hArgs with
        hQuiet | ⟨node, hCalled⟩
      · exact ⟨[], by simp [working, hQuiet], fun h => absurd rfl h⟩
      · refine ⟨_, by simp only [working, hCalled, Link.history_calling]; rfl, fun _ => ?_⟩
        refine ⟨pool, hPoolOf, fun name hName => ⟨name, hAccess hName, rfl⟩, ?_⟩
        intro exchange hExchange name hName
        obtain rfl := List.mem_singleton.1 hExchange
        exact hAccess hName
    · rintro ⟨name, hName, hOutside⟩
      exact absurd rfl (hOutside pool hPoolOf name (hAccess hName))

/-- **Nodes in free arguments are checked before a call is made**, whether they are named as they
are or by tags in a request, as long as they stand in a list. -/
theorem named_nodes_mediated (agent : Agent σ) (id : String) (world : World σ)
    {command : ResourceCommand} {args : Arguments} (hArgs : command.args? = some args)
    (hList : args.NamesInList) :
    world.Mediated id args .ok ((updateResource agent id command).run world) ∧
      ∀ request, ResourceCommand.ofRequest request = .ok command →
        world.Mediated id args world.registry.cluster.resolve
          ((requestResource agent id request).run world) := by
  refine ⟨mediated_updateResource agent id world hArgs hList, fun request hRequest => ?_⟩
  simp only [requestResource, Action.run_bind, Action.run_liftM, hRequest, run_ask]
  cases hResolved : command.resolve world.registry.cluster with
  | error failure => exact .of_refused
  | ok resolved =>
      obtain ⟨changed, hChanged, hForwarded⟩ := ResourceCommand.args?_of_resolve hArgs hResolved
      obtain ⟨hStill, hNamed⟩ := Arguments.named_of_resolve hChanged hList
      exact (mediated_updateResource agent id world hForwarded hStill).of_meaning hNamed

/-! ## A volume on one node of a cluster -/

/-- Arguments that name nodes. -/
def onNodes (nodes : Json) : Arguments := .ofList [("nodes", nodes)]

/-- A request to allocate with these arguments. -/
def allocatingOn (nodes : Json) : Json := .obj [("allocate", (onNodes nodes).toJson)]

/-- The volume bound to its node. -/
def boundDisk : World Unit := diskWorld.commanding .willing "i" [.bind ["n"]]

/-- The node of the volume may be named in a list. -/
theorem named_nodes_mediated_disk :
    (onNodes (.arr [.str "n"])).NamesInList ∧
      (((requestResource .willing "i" (allocatingOn (.arr [.str "n"]))).run
        boundDisk).2.link.history.map fun exchange => (exchange.call.node, exchange.call.named)) =
          [("n", ["n"])] ∧
      boundDisk.Mediated "i" (onNodes (.arr [.str "n"])) boundDisk.registry.cluster.resolve
        ((requestResource .willing "i" (allocatingOn (.arr [.str "n"]))).run boundDisk) := by
  have hList : (onNodes (.arr [.str "n"])).NamesInList := by
    intro name hName
    have hFound : (onNodes (.arr [.str "n"])).get? "nodes" = some (.arr [.str "n"]) := rfl
    rw [hFound] at hName
    cases hName
  have hArgs : (ResourceCommand.allocate (onNodes (.arr [.str "n"]))).args? =
      some (onNodes (.arr [.str "n"])) := rfl
  exact ⟨hList, by rfl, (named_nodes_mediated .willing "i" boundDisk hArgs hList).2 _ rfl⟩

/-- **A bare text is handed on unseen**: a node that the cluster does not have, let alone the pool,
is named to the agent. -/
theorem bare_node_unmediated :
    (((requestResource .willing "i" (allocatingOn (.str "m"))).run boundDisk).2.link.history.map
        fun exchange => (exchange.call.node, exchange.call.named)) = [("n", ["m"])] ∧
      boundDisk.registry.cluster.resolve "m" = .error (.nodeNotFound "m") ∧
      ¬boundDisk.Mediated "i" (onNodes (.str "m")) boundDisk.registry.cluster.resolve
        ((requestResource .willing "i" (allocatingOn (.str "m"))).run boundDisk) := by
  have hUnknown : boundDisk.registry.cluster.resolve "m" = .error (.nodeNotFound "m") := by rfl
  refine ⟨by rfl, hUnknown, fun hMediated => ?_⟩
  have hOutside : ∃ name ∈ (onNodes (.str "m")).named, ∀ pool,
      boundDisk.registry.poolOf "i" = .ok pool → ∀ node ∈ pool.document.access,
        boundDisk.registry.cluster.resolve name ≠ .ok node := by
    refine ⟨"m", List.mem_cons_self, fun pool _ node _ hMeans => ?_⟩
    rw [hUnknown] at hMeans
    cases hMeans
  obtain ⟨failure, hRefused⟩ := hMediated.refused hOutside
  have hCalls : ((requestResource .willing "i" (allocatingOn (.str "m"))).run
      boundDisk).2.link.history.length = 1 := by rfl
  rw [hRefused] at hCalls
  cases hCalls

end World

end DiskFleet
