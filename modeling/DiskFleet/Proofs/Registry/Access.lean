import DiskFleet.Proofs.Registry.Change
import DiskFleet.Proofs.Resource.Bindings

/-!
# Where resources can be bound

A cluster has its declared nodes, the access list of a pool names some of them, and a resource is
bound to some of those. `Registry.Contained` says so of every pool and every resource that it
stores. It comes about in three places: tags in an access list are resolved when the pool is defined
and "every node" when it is made, a resource is entered without bindings, and a command for it is
let through only if its nodes may reach the pool. No move breaks it.

## Main results

* `Registry.within_of_definePool`: a defined pool is within its cluster;
* `World.contained_course`: moves that enter definitions without bindings and make pools within the
  cluster keep everything contained.
-/

namespace DiskFleet

/-! ## Declared nodes -/

namespace Cluster

variable {declarations : List NodeDeclaration} {partition : List String} {tag node : String}

theorem mem_nodeNames_ofDeclarations :
    node ∈ (ofDeclarations declarations partition).nodeNames ↔
      ∃ declaration ∈ declarations, declaration.name = node := by
  show node ∈ (NameSet.ofList (declarations.map (·.name))).keys ↔ _
  rw [NameSet.ofList, SortedMap.mem_keys_ofList]
  simp

/-- Every tag of the map means a declared node. -/
def TagsDeclared (declarations : List NodeDeclaration) (tags : SortedMap String) : Prop :=
  ∀ tag node, tags.get? tag = some node → ∃ declaration ∈ declarations, declaration.name = node

theorem TagsDeclared.insert {tags : SortedMap String} {declaration : NodeDeclaration}
    (h : TagsDeclared declarations tags) (hDeclared : declaration ∈ declarations) (tag : String) :
    TagsDeclared declarations (tags.insert tag declaration.name) := by
  intro other node hOther
  rw [SortedMap.get?_insert] at hOther
  split at hOther
  · exact ⟨declaration, hDeclared, Option.some.inj hOther⟩
  · exact h other node hOther

theorem tagsDeclared_foldl (declarations : List NodeDeclaration) :
    TagsDeclared declarations (declarations.foldl declareNode ∅) := by
  refine List.foldlRecOn declarations declareNode (fun tag node hNone => ?_) ?_
  · cases hNone
  · intro tags hTags declaration hDeclared
    refine List.foldlRecOn declaration.tags _ (hTags.insert hDeclared _) ?_
    intro tags hTags tag _
    exact hTags.insert hDeclared tag

/-- A tag means a declared node. -/
theorem mem_nodeNames_of_resolve
    (h : (ofDeclarations declarations partition).resolve tag = .ok node) :
    node ∈ (ofDeclarations declarations partition).nodeNames := by
  rw [mem_nodeNames_ofDeclarations]
  unfold resolve at h
  split at h
  · next found hFound =>
    obtain rfl := Except.ok.inj h
    exact tagsDeclared_foldl declarations tag found hFound
  · cases h

/-- So do the tags of a list. -/
theorem resolveAll_subset :
    ∀ {tags nodes : List String},
      (ofDeclarations declarations partition).resolveAll tags = .ok nodes →
      nodes ⊆ (ofDeclarations declarations partition).nodeNames
  | [], nodes, h => by
    obtain rfl := Except.ok.inj h
    exact List.nil_subset _
  | tag :: rest, nodes, h => by
    obtain ⟨node, hNode, hRest⟩ := Action.bind_eq_ok_iff.1 h
    obtain ⟨others, hOthers, hPure⟩ := Action.bind_eq_ok_iff.1 hRest
    obtain rfl := Except.ok.inj hPure
    exact List.cons_subset.2 ⟨mem_nodeNames_of_resolve hNode, resolveAll_subset hOthers⟩

end Cluster

/-! ## Access lists -/

/-- The access list names nodes from a list, or nothing but "every node". -/
def PoolDocument.Within (document : PoolDocument) (nodes : List String) : Prop :=
  document.isOpen = true ∨ document.access ⊆ nodes

/-- **A defined pool is within its cluster.** -/
theorem Registry.within_of_definePool {registry : Registry} {declarations : List NodeDeclaration}
    {partition : List String} {name : String} {kind : PoolKind} {params : Params}
    {document : PoolDocument}
    (hCluster : registry.cluster = .ofDeclarations declarations partition)
    (h : registry.definePool name kind params = .ok document) :
    document.Within registry.cluster.nodeNames := by
  obtain ⟨defined, -, hRest⟩ := Action.bind_eq_ok_iff.1 h
  split at hRest
  · next hOpen =>
    obtain rfl := Except.ok.inj hRest
    exact .inl hOpen
  · obtain ⟨access, hAccess, hPure⟩ := Action.bind_eq_ok_iff.1 hRest
    obtain rfl := Except.ok.inj hPure
    rw [hCluster] at hAccess ⊢
    exact .inr (Cluster.resolveAll_subset hAccess)

/-- Every pool is reached from nodes of the cluster only, and every resource is bound to nodes that
may reach its pool. -/
structure Registry.Contained (registry : Registry) : Prop where
  access : ∀ {poolId pool}, registry.pools.get? poolId = some pool →
    pool.document.access ⊆ registry.cluster.nodeNames
  bound : ∀ {poolId pool id resource}, registry.pools.get? poolId = some pool →
    pool.resources.get? id = some resource → resource.document.bound ⊆ pool.document.access

namespace Registry.Contained

variable {registry : Registry} {poolId : String} {pool : Pool}

/-- Another table of resources for a pool, each bound within the access list. -/
theorem replaceResources (h : registry.Contained) {next : Registry}
    (hPool : registry.pools.get? poolId = some pool) {resources : Table Resource}
    (hPools : next.pools = registry.pools.insert poolId { pool with resources })
    (hCluster : next.cluster = registry.cluster)
    (hBound : ∀ {id resource}, resources.get? id = some resource →
      resource.document.bound ⊆ pool.document.access) : next.Contained := by
  constructor
  · intro other stored hStored
    rw [hPools, Table.get?_insert] at hStored
    rw [hCluster]
    split at hStored
    · have hAccess := h.access hPool
      rw [← Option.some.inj hStored]
      exact hAccess
    · exact h.access hStored
  · intro other stored id resource hStored hResource
    rw [hPools, Table.get?_insert] at hStored
    split at hStored
    · obtain rfl := Option.some.inj hStored
      exact hBound hResource
    · exact h.bound hStored hResource

end Registry.Contained

/-- The nodes of a command that is let through may reach the pool. -/
theorem Pool.nodes_subset_of_inside {pool : Pool} {command : ResourceCommand}
    (hInside : pool.outside command = []) : command.nodes ⊆ pool.document.access := by
  intro node hNode
  have hNotOutside : node ∉ pool.outside command := by
    rw [hInside]
    exact List.not_mem_nil
  simp only [outside, List.mem_filter, PoolDocument.admits] at hNotOutside
  by_contra hForeign
  exact hNotOutside ⟨hNode, by simpa using hForeign⟩

/-- A command that is let through keeps a resource bound within the access list. -/
theorem Resource.bound_handle_subset {σ : Type} (agent : Agent σ) {pool : Pool}
    {command : ResourceCommand} {resource : Resource} (link : Link σ)
    (hInside : pool.outside command = [])
    (hBound : resource.document.bound ⊆ pool.document.access) :
    ((handle agent pool.document command).run ⟨resource, link⟩).2.object.document.bound ⊆
      pool.document.access := by
  rcases bindings_handle agent pool.document command resource link with
    hSame | ⟨nodes, rfl, hAfter⟩ | ⟨nodes, -, hAfter⟩
  · have hKeys :
        ((handle agent pool.document command).run ⟨resource, link⟩).2.object.document.bound =
          resource.document.bound := congrArg SortedMap.keys hSame
    rw [hKeys]
    exact hBound
  · intro node hNode
    rcases (mem_bound_of_bound hAfter).1 hNode with hBefore | hNamed
    · exact hBound hBefore
    · split at hNamed
      · exact hNamed
      · exact Pool.nodes_subset_of_inside hInside hNamed
  · intro node hNode
    exact hBound (((mem_bound_of_unbound hAfter).1 node).1 hNode).1

namespace World

variable {σ : Type} {agent : Agent σ} {admits : ResourceDocument → Prop}
  {mayDrop : String → Prop} {mayOpen : PoolDocument → Prop} {world next : World σ}

/-- No move changes the cluster. -/
theorem Move.cluster (hMove : Move agent admits mayDrop mayOpen world next) :
    next.registry.cluster = world.registry.cluster := by
  cases hMove <;> rfl

theorem Course.cluster (hCourse : Course agent admits mayDrop mayOpen world next) :
    next.registry.cluster = world.registry.cluster := by
  induction hCourse with
  | refl => rfl
  | tail _ hMove ih => exact hMove.cluster.trans ih

/-- **Every move keeps everything contained**, if it enters no bindings and makes no pool beyond the
cluster. -/
theorem contained_move (h : world.registry.Contained)
    (hAdmits : ∀ definition, admits definition → definition.bindings = ∅)
    (hMayOpen : ∀ document, mayOpen document → document.Within world.registry.cluster.nodeNames)
    (hMove : Move agent admits mayDrop mayOpen world next) : next.registry.Contained := by
  cases hMove with
  | drawId => exact h
  | drawSuffix => exact h
  | callImage => exact h
  | @openPool document hDocument =>
      constructor
      · intro poolId pool hPool
        simp only [openingPool, Registry.putPool, Table.get?_insert] at hPool
        split at hPool
        · obtain rfl := Option.some.inj hPool
          show (if document.isOpen then world.registry.cluster.nodeNames else document.access) ⊆ _
          split
          · exact List.Subset.refl _
          · next hClosed => exact (hMayOpen document hDocument).resolve_left hClosed
        · exact h.access hPool
      · intro poolId pool id resource hPool hResource
        simp only [openingPool, Registry.putPool, Table.get?_insert] at hPool
        split at hPool
        · obtain rfl := Option.some.inj hPool
          cases hResource
        · exact h.bound hPool hResource
  | closePool =>
      constructor
      · intro poolId pool hPool
        simp only [closingPool, Registry.removePool, Table.get?_erase] at hPool
        split at hPool
        · cases hPool
        · exact h.access hPool
      · intro poolId pool id resource hPool hResource
        simp only [closingPool, Registry.removePool, Table.get?_erase] at hPool
        split at hPool
        · cases hPool
        · exact h.bound hPool hResource
  | @enter poolId pool after definition hDefinition hPool hAdd =>
      obtain ⟨made, rfl, -, -, -, -, -, hBindings⟩ := Pool.of_addResource hAdd
      refine h.replaceResources hPool rfl rfl fun {id resource} hResource => ?_
      rw [Table.get?_insert] at hResource
      split at hResource
      · obtain rfl := Option.some.inj hResource
        have hUnbound : made.document.bound = [] :=
          congrArg SortedMap.keys (hBindings.trans (hAdmits definition hDefinition))
        rw [hUnbound]
        exact List.nil_subset _
      · exact h.bound hPool hResource
  | @drop id poolId pool after hId hOwner hPool hDrop =>
      obtain ⟨dropped, -, -, rfl⟩ := Pool.of_dropResource hDrop
      refine h.replaceResources hPool rfl rfl fun {id resource} hResource => ?_
      rw [Table.get?_erase] at hResource
      split at hResource
      · cases hResource
      · exact h.bound hPool hResource
  | @work id poolId pool stored command hOwner hPool hStored hInside =>
      refine h.replaceResources hPool rfl rfl fun {id resource} hResource => ?_
      rw [Table.get?_insert] at hResource
      split at hResource
      · obtain rfl := Option.some.inj hResource
        exact Resource.bound_handle_subset agent world.link hInside (h.bound hPool hStored)
      · exact h.bound hPool hResource

/-- **So do any number of moves.** -/
theorem contained_course (h : world.registry.Contained)
    (hAdmits : ∀ definition, admits definition → definition.bindings = ∅)
    (hMayOpen : ∀ document, mayOpen document → document.Within world.registry.cluster.nodeNames)
    (hCourse : Course agent admits mayDrop mayOpen world next) : next.registry.Contained := by
  induction hCourse with
  | refl => exact h
  | tail hBefore hMove ih =>
      refine contained_move ih hAdmits ?_ hMove
      rw [Course.cluster hBefore]
      exact hMayOpen

end World

end DiskFleet
