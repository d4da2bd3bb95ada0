import DiskFleet.Image.Command
import DiskFleet.Proofs.Registry.Access
import DiskFleet.Resource.Command

/-!
# Node names among the tags

A client may write the name of a node wherever it may write a tag, and expects it to mean that node:
in the access list of a pool, in the `nodes` of a command, in the parameter `vm_node`. But the names
and the tags of all nodes share one map, which is filled in the order of the declarations, so that a
tag means the last node that answers to it. A name is therefore safe from the tags of the nodes
declared before its own, and from no others: a node declared later that uses the name as a tag takes
it over, and whatever names the first node goes to the second one.

## Main results

* `Cluster.resolve_ofDeclarations`: what a tag means;
* `Cluster.names_mean_nodes`: which names mean their own nodes, and what follows if all do;
* `Cluster.name_taken_by_tag`: a name that a later tag takes over.
-/

namespace DiskFleet

/-- A tag is one of the node's: its own name, or one declared for it. -/
def NodeDeclaration.answersTo (node : NodeDeclaration) (tag : String) : Bool :=
  tag == node.name || node.tags.contains tag

namespace Cluster

variable {nodes : List NodeDeclaration} {partition : List String}

/-! ## What a tag means -/

theorem get?_foldl_insert_tag (name tag : String) (more : List String) :
    ∀ tags : SortedMap String,
      (more.foldl (fun tags other => tags.insert other name) tags).get? tag =
        if tag ∈ more then some name else tags.get? tag := by
  induction more with
  | nil => simp
  | cons first rest ih =>
      intro tags
      rw [List.foldl_cons, ih, SortedMap.get?_insert]
      by_cases hFirst : tag = first <;> simp [hFirst]

/-- A declaration takes the tags of its node over and leaves all others alone. -/
theorem get?_declareNode (tags : SortedMap String) (node : NodeDeclaration) (tag : String) :
    (declareNode tags node).get? tag =
      if node.answersTo tag then some node.name else tags.get? tag := by
  rw [declareNode, get?_foldl_insert_tag, SortedMap.get?_insert]
  by_cases hName : tag = node.name <;> simp [NodeDeclaration.answersTo, hName]

/-- **A tag means the last declared node that answers to it.** -/
theorem resolve_ofDeclarations (nodes : List NodeDeclaration) (partition : List String)
    (tag : String) :
    (ofDeclarations nodes partition).resolve tag =
      match nodes.reverse.find? fun node => node.answersTo tag with
      | some node => .ok node.name
      | none => .error (.nodeNotFound tag) := by
  -- from the last declaration on, the first that answers is the one that stays
  have hTags : ∀ later : List NodeDeclaration,
      (later.foldr (fun node tags => declareNode tags node) ∅).get? tag =
        (later.find? fun node => node.answersTo tag).map (·.name) := by
    intro later
    induction later with
    | nil => rfl
    | cons node rest ih =>
        rw [List.foldr_cons, get?_declareNode, ih, List.find?_cons]
        cases node.answersTo tag <;> rfl
  simp only [resolve, ofDeclarations]
  rw [List.foldl_eq_foldr_reverse, hTags]
  cases nodes.reverse.find? fun node => node.answersTo tag <;> rfl

/-- A declared name means some node. -/
theorem exists_resolve_of_mem {node : NodeDeclaration} (hNode : node ∈ nodes) :
    ∃ name, (ofDeclarations nodes partition).resolve node.name = .ok name := by
  rw [resolve_ofDeclarations]
  cases hFound : nodes.reverse.find? fun other => other.answersTo node.name with
  | some other => exact ⟨other.name, rfl⟩
  | none =>
      have hNot := List.find?_eq_none.1 hFound node (List.mem_reverse.2 hNode)
      simp [NodeDeclaration.answersTo] at hNot

/-- **A name means its own node exactly if no node declared later has it for a tag.** -/
theorem resolve_name_iff {before after : List NodeDeclaration} {node : NodeDeclaration}
    (hDistinct : (nodes.map (·.name)).Nodup) (hNodes : nodes = before ++ node :: after) :
    (ofDeclarations nodes partition).resolve node.name = .ok node.name ↔
      ∀ later ∈ after, node.name ∉ later.tags := by
  subst hNodes
  have hNames : ∀ later ∈ after, later.name ≠ node.name := by
    rw [List.map_append, List.map_cons] at hDistinct
    have hBehind := (List.nodup_cons.1 (List.nodup_append.1 hDistinct).2.1).1
    intro later hLater hSame
    exact hBehind (hSame ▸ List.mem_map_of_mem hLater)
  have hReverse : (before ++ node :: after).reverse = after.reverse ++ node :: before.reverse := by
    simp
  rw [resolve_ofDeclarations, hReverse, List.find?_append]
  cases hFound : after.reverse.find? fun later => later.answersTo node.name with
  | none =>
      -- nobody behind the node answers, and the node itself does
      have hOwn : (node :: before.reverse).find? (fun other => other.answersTo node.name) =
          some node := by
        simp [NodeDeclaration.answersTo]
      rw [Option.none_or, hOwn]
      refine iff_of_true rfl fun later hLater hTag => ?_
      have hNot := List.find?_eq_none.1 hFound later (List.mem_reverse.2 hLater)
      simp [NodeDeclaration.answersTo, hTag] at hNot
  | some taker =>
      have hTaker : taker ∈ after := List.mem_reverse.1 (List.mem_of_find?_eq_some hFound)
      have hAnswers : taker.answersTo node.name = true := by simpa using List.find?_some hFound
      rw [Option.some_or]
      refine iff_of_false (fun hOk => hNames taker hTaker (Except.ok.inj hOk)) fun hFree => ?_
      rw [NodeDeclaration.answersTo, Bool.or_eq_true, beq_iff_eq, List.contains_iff_mem] at hAnswers
      rcases hAnswers with hSame | hTag
      · exact hNames taker hTaker hSame.symm
      · exact hFree taker hTaker hTag

/-! ## Lists of tags -/

variable {cluster : Cluster}

/-- Tags that mean themselves are left as they are. -/
theorem resolveAll_of_own {names : List String}
    (h : ∀ name ∈ names, cluster.resolve name = .ok name) :
    cluster.resolveAll names = .ok names := by
  induction names with
  | nil => rfl
  | cons name rest ih =>
      have hRest := ih fun other hOther => h other (List.mem_cons_of_mem _ hOther)
      simp only [resolveAll, h name List.mem_cons_self, hRest]
      rfl

/-- Tags that all mean some node are resolved. -/
theorem exists_resolveAll {tags : List String}
    (h : ∀ tag ∈ tags, ∃ node, cluster.resolve tag = .ok node) :
    ∃ nodes, cluster.resolveAll tags = .ok nodes := by
  induction tags with
  | nil => exact ⟨[], rfl⟩
  | cons tag rest ih =>
      obtain ⟨node, hNode⟩ := h tag List.mem_cons_self
      obtain ⟨nodes, hNodes⟩ := ih fun other hOther => h other (List.mem_cons_of_mem _ hOther)
      exact ⟨node :: nodes, by simp only [resolveAll, hNode, hNodes]; rfl⟩

/-- Tags are refused for one of them that no node answers to. -/
theorem of_resolveAll_error {tags : List String} {failure : Failure}
    (h : cluster.resolveAll tags = .error failure) :
    ∃ tag ∈ tags, cluster.resolve tag = .error (.nodeNotFound tag) ∧
      failure = .nodeNotFound tag := by
  induction tags with
  | nil => cases h
  | cons tag rest ih =>
      simp only [resolveAll] at h
      cases hNode : cluster.resolve tag with
      | error refusal =>
          rw [hNode] at h
          obtain rfl := Except.error.inj h
          have hRefusal : refusal = .nodeNotFound tag := by
            unfold resolve at hNode
            split at hNode
            · cases hNode
            · exact (Except.error.inj hNode).symm
          exact ⟨tag, List.mem_cons_self, hRefusal ▸ hNode, hRefusal⟩
      | ok node =>
          rw [hNode] at h
          simp only [bind, Except.bind] at h
          cases hNodes : cluster.resolveAll rest with
          | error refusal =>
              rw [hNodes] at h
              obtain rfl := Except.error.inj h
              obtain ⟨other, hOther, hUnknown⟩ := ih hNodes
              exact ⟨other, List.mem_cons_of_mem _ hOther, hUnknown⟩
          | ok nodes =>
              rw [hNodes] at h
              cases h

/-- A tag that no node answers to is enough for that. -/
theorem resolveAll_of_unknown {tags : List String} {tag : String} {failure : Failure}
    (hTag : tag ∈ tags) (hUnknown : cluster.resolve tag = .error failure) :
    ∃ failure, cluster.resolveAll tags = .error failure := by
  cases hNodes : cluster.resolveAll tags with
  | error refusal => exact ⟨refusal, rfl⟩
  | ok nodes =>
      induction tags generalizing nodes with
      | nil => cases hTag
      | cons first rest ih =>
          obtain ⟨node, hFirst, hOthers⟩ := Action.bind_eq_ok_iff.1 hNodes
          obtain ⟨others, hRest, -⟩ := Action.bind_eq_ok_iff.1 hOthers
          rcases List.mem_cons.1 hTag with rfl | hMem
          · rw [hUnknown] at hFirst
            cases hFirst
          · obtain ⟨refusal, hRefusal⟩ := ih hMem others hRest
            cases hRefusal

/-! ## Names where tags are expected -/

/-- The names of nodes stay what they are wherever tags are resolved: in the access list of a pool
that is defined, in the nodes of a command, and in the node that a request is to be met from. -/
structure KeepsNames (cluster : Cluster) : Prop where
  access : ∀ {registry : Registry} {name : String} {kind : PoolKind} {params : Params}
    {document : PoolDocument}, registry.cluster = cluster →
      kind.define name params = .ok document → document.access ⊆ cluster.nodeNames →
      registry.definePool name kind params = .ok document
  resource : ∀ {command : ResourceCommand}, command.nodes ⊆ cluster.nodeNames →
    command.resolve cluster = .ok command
  image : ∀ {command : ImageCommand}, (∀ nodes ∈ command.nodes?, nodes ⊆ cluster.nodeNames) →
    command.resolve cluster = .ok command
  placed : ∀ {pool : PoolDocument} {params : Params} {node : String}, node ∈ cluster.nodeNames →
    params.get? "vm_node" = some node → pool.reachable cluster params = pool.admits node

end Cluster

/-- Items whose texts mean themselves stay as they are. -/
theorem Arguments.resolveItems_of_own {cluster : Cluster} {items : List Json}
    (h : ∀ name ∈ items.filterMap Json.asText?, cluster.resolve name = .ok name) :
    resolveItems cluster items = .ok items := by
  induction items with
  | nil => rfl
  | cons item rest ih =>
      have hItem : resolveItem cluster item = .ok item := by
        cases item with
        | str tag =>
            have hTag : cluster.resolve tag = .ok tag :=
              h tag (List.mem_filterMap.2 ⟨.str tag, List.mem_cons_self, rfl⟩)
            rw [resolveItem, hTag]
            rfl
        | _ => rfl
      have hRest : resolveItems cluster rest = .ok rest := by
        refine ih fun name hName => h name ?_
        obtain ⟨other, hOther, hText⟩ := List.mem_filterMap.1 hName
        exact List.mem_filterMap.2 ⟨other, List.mem_cons_of_mem _ hOther, hText⟩
      simp only [resolveItems, hItem, hRest]
      rfl

/-- Arguments whose nodes mean themselves stay as they are. -/
theorem Arguments.resolve_of_own {cluster : Cluster} {args : Arguments}
    (h : ∀ name ∈ args.nodes, cluster.resolve name = .ok name) :
    args.resolve cluster = .ok args := by
  unfold resolve
  split
  · next items hItems =>
    have hSame : args.insert "nodes" (.arr items) = args := by
      refine SortedMap.ext_get? fun key => ?_
      rw [SortedMap.get?_insert]
      split
      · next hKey => rw [hKey, hItems]
      · rfl
    rw [nodes, hItems] at h
    rw [resolveItems_of_own h]
    exact congrArg Except.ok hSame
  · rfl

namespace Cluster

variable {nodes : List NodeDeclaration} {partition : List String} {cluster : Cluster}

/-- Where each name means its own node, names are kept everywhere. -/
theorem keepsNames_of_own (h : ∀ node ∈ cluster.nodeNames, cluster.resolve node = .ok node) :
    cluster.KeepsNames := by
  have hArguments : ∀ {args : Arguments}, args.nodes ⊆ cluster.nodeNames →
      args.resolve cluster = .ok args :=
    fun hNodes => Arguments.resolve_of_own fun name hName => h name (hNodes hName)
  have hAll : ∀ {names : List String}, names ⊆ cluster.nodeNames →
      cluster.resolveAll names = .ok names :=
    fun hNames => resolveAll_of_own fun name hName => h name (hNames hName)
  constructor
  case access =>
    intro registry name kind params document hCluster hDefine hAccess
    subst hCluster
    simp only [Registry.definePool, hDefine, bind, Except.bind, hAll hAccess]
    split <;> rfl
  case resource =>
    intro command hNodes
    cases command with
    | bind names =>
        have hNames : names ⊆ cluster.nodeNames := hNodes
        rw [ResourceCommand.resolve, hAll hNames]
        rfl
    | unbind names =>
        have hNames : names ⊆ cluster.nodeNames := hNodes
        rw [ResourceCommand.resolve, hAll hNames]
        rfl
    | allocate args => rw [ResourceCommand.resolve, hArguments hNodes]; rfl
    | release args => rw [ResourceCommand.resolve, hArguments hNodes]; rfl
    | sync args => rw [ResourceCommand.resolve, hArguments hNodes]; rfl
    | resize size => rfl
  case image =>
    intro command hNodes
    cases command with
    | add args => rw [ImageCommand.resolve, hAll (hNodes args.nodes rfl)]; rfl
    | rebase args => rw [ImageCommand.resolve, hAll (hNodes args.nodes rfl)]; rfl
    | _ => rfl
  case placed =>
    intro pool params node hNode hPlaced
    simp only [PoolDocument.reachable, hPlaced, h node hNode]

/-- **Names of declared nodes against tags.** Of nodes with distinct names, in any order and with
any tags, a name means its own node exactly if no node declared later uses it as a tag. If that
holds of all of them, access lists, the nodes of commands and `vm_node` mean the nodes they name. -/
theorem names_mean_nodes (hDistinct : (nodes.map (·.name)).Nodup) :
    (∀ before node after, nodes = before ++ node :: after →
      ((ofDeclarations nodes partition).resolve node.name = .ok node.name ↔
        ∀ later ∈ after, node.name ∉ later.tags)) ∧
    ((nodes.Pairwise fun node later => node.name ∉ later.tags) →
      (ofDeclarations nodes partition).KeepsNames) := by
  refine ⟨fun before node after hNodes => resolve_name_iff hDistinct hNodes, fun hKept => ?_⟩
  apply keepsNames_of_own
  intro name hName
  obtain ⟨node, hNode, rfl⟩ := mem_nodeNames_ofDeclarations.1 hName
  obtain ⟨before, after, hNodes⟩ := List.append_of_mem hNode
  refine (resolve_name_iff hDistinct hNodes).2 ?_
  rw [hNodes, List.pairwise_append] at hKept
  exact (List.pairwise_cons.1 hKept.2.1).1

/-- Two nodes, of which the first has the name of the second and a tag of it among its tags. -/
def neighbours : List NodeDeclaration := [⟨"a", ["b", "x"]⟩, ⟨"b", ["x"]⟩]

/-- The name of the second node stays its own, and all names are kept. -/
theorem names_mean_nodes_neighbours :
    (neighbours.map (·.name)).Nodup ∧
      (neighbours.Pairwise fun node later => node.name ∉ later.tags) ∧
      (ofDeclarations neighbours []).resolve "b" = .ok "b" ∧
      (ofDeclarations neighbours []).KeepsNames := by
  have hDistinct : (neighbours.map (·.name)).Nodup := by decide
  have hKept : neighbours.Pairwise fun node later => node.name ∉ later.tags := by decide
  refine ⟨hDistinct, hKept, ?_, (names_mean_nodes hDistinct).2 hKept⟩
  exact ((names_mean_nodes hDistinct).1 [⟨"a", ["b", "x"]⟩] ⟨"b", ["x"]⟩ [] rfl).2 nofun

/-- The same nodes in the other order. -/
def takingNeighbours : List NodeDeclaration := [⟨"b", ["x"]⟩, ⟨"a", ["b", "x"]⟩]

/-- **A later tag takes a name over**: the name of one node means the other, and a pool for the
first node is defined for the second one. -/
theorem name_taken_by_tag :
    (takingNeighbours.map (·.name)).Nodup ∧
      (ofDeclarations takingNeighbours []).resolve "b" = .ok "a" ∧
      ((Registry.empty (ofDeclarations takingNeighbours []) .leave 8).definePool "fs" .filesystem
        (.ofList [("access_nodes", "b")])).toOption.map (·.access) = some ["a"] := by
  exact ⟨by decide, by rfl, by decide +kernel⟩

end Cluster

end DiskFleet
