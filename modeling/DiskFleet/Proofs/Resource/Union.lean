import DiskFleet.Proofs.Resource.Bindings

/-!
# Bindings as a union

Binding a resource to a list of nodes joins two maps: the bindings that it has, which stay as they
are, and the backings of the nodes that are named. `Joined` says so by look-ups, and everything else
follows from look-ups alone: the order of the nodes does not matter, nor how often one is named, nor
how they are spread over commands.

A command for several nodes succeeds if each of them is bound already or has a backing
(`Bindable`). It is all or nothing, because every backing is found before the first binding is made.

## Main results

* `exists_bound_iff`: when a resource can be bound to the nodes of a list;
* `joined_of_bound`: the bindings that it has then;
* `Joined.append`, `Joined.congr`, `Joined.unique`: bindings are joined in any order and once;
* `bindings_form_a_union`: the same for the command, and how it is undone.
-/

namespace DiskFleet

namespace SortedMap

variable {α : Type}

/-- Keys that are erased are not found, and every other is found as before. -/
theorem get?_foldl_erase {key : String} :
    ∀ {keys : List String} {map : SortedMap α},
      (keys.foldl (fun map key => map.erase key) map).get? key =
        if key ∈ keys then none else map.get? key
  | [], _ => by simp
  | first :: rest, map => by
    rw [List.foldl_cons, get?_foldl_erase, get?_erase]
    by_cases hFirst : key = first <;> by_cases hRest : key ∈ rest <;> simp [hFirst, hRest]

end SortedMap

namespace Resource

variable {σ : Type} {agent : Agent σ} {pool : PoolDocument} {resource middle after other : Resource}
  {nodes left right : List String} {node : String}

/-- A binding that is not there is not found. -/
theorem get?_bindings_eq_none_iff :
    resource.document.bindings.get? node = none ↔ node ∉ resource.document.bound := by
  rw [ResourceDocument.bound, ← SortedMap.contains_iff_mem_keys, SortedMap.contains]
  cases resource.document.bindings.get? node <;> simp

/-! ## When nodes can be bound -/

/-- Every node of the list is bound already, or has a backing in the pool. -/
def Bindable (pool : PoolDocument) (nodes : List String) (resource : Resource) : Prop :=
  ∀ node ∈ nodes, node ∉ resource.document.bound →
    ∃ backing, resource.backingFor pool node = .ok backing

theorem bindable_append :
    resource.Bindable pool (left ++ right) ↔
      resource.Bindable pool left ∧ resource.Bindable pool right := by
  simp only [Bindable, List.mem_append, or_imp, forall_and]

/-- The backings of a list are found if each of them is. -/
theorem exists_newBindings_iff :
    ∀ {nodes : List String},
      (∃ bindings, resource.newBindings pool nodes = .ok bindings) ↔ resource.Bindable pool nodes
  | [] => by simp [newBindings, Bindable]
  | first :: rest => by
    have hRest : (∃ bindings, resource.newBindings pool rest = .ok bindings) ↔
        resource.Bindable pool rest := exists_newBindings_iff
    rw [Bindable, List.forall_mem_cons, ← Bindable, ← hRest, newBindings]
    split
    · next hBound =>
      have hMem : first ∈ resource.document.bound := (SortedMap.contains_iff_mem_keys _ _).1 hBound
      simp [hMem]
    · next hNew =>
      have hNotMem : first ∉ resource.document.bound := fun hMem =>
        hNew ((SortedMap.contains_iff_mem_keys _ _).2 hMem)
      constructor
      · rintro ⟨bindings, hBindings⟩
        obtain ⟨backing, hBacking, hBindings⟩ := Action.bind_eq_ok_iff.1 hBindings
        obtain ⟨others, hOthers, -⟩ := Action.bind_eq_ok_iff.1 hBindings
        exact ⟨fun _ => ⟨backing, hBacking⟩, others, hOthers⟩
      · rintro ⟨hFirst, others, hOthers⟩
        obtain ⟨backing, hBacking⟩ := hFirst hNotMem
        exact ⟨(first, backing) :: others, Action.bind_eq_ok_iff.2 ⟨backing, hBacking,
          Action.bind_eq_ok_iff.2 ⟨others, hOthers, rfl⟩⟩⟩

/-- **A resource can be bound to the nodes of a list if each is bound already or has a backing.** -/
theorem exists_bound_iff (hNodes : nodes ≠ []) :
    (∃ after, resource.bound pool nodes = .ok after) ↔ resource.Bindable pool nodes := by
  have hEmpty : nodes.isEmpty = false := by simpa using hNodes
  rw [← exists_newBindings_iff]
  simp only [Resource.bound, hEmpty, Bool.false_eq_true, if_false]
  constructor
  · rintro ⟨after, h⟩
    obtain ⟨bindings, hBindings, -⟩ := Action.bind_eq_ok_iff.1 h
    exact ⟨bindings, hBindings⟩
  · rintro ⟨bindings, hBindings⟩
    exact ⟨_, Action.bind_eq_ok_iff.2 ⟨bindings, hBindings, rfl⟩⟩

/-! ## What is bound then -/

/-- What the nodes of a list add to bindings: the backing of each of them. -/
def backingAmong (pool : PoolDocument) (nodes : List String) (resource : Resource)
    (node : String) : Option String :=
  if node ∈ nodes then (resource.backingFor pool node).toOption else none

/-- **The union.** Nothing but the bindings is new; the old ones are as they were, and besides them
every node of the list has its backing. -/
structure Joined (pool : PoolDocument) (nodes : List String) (resource after : Resource) :
    Prop where
  rest : after = { resource with document.bindings := after.document.bindings }
  get? : ∀ node, after.document.bindings.get? node =
    (resource.document.bindings.get? node).or (backingAmong pool nodes resource node)

/-- **Binding joins** the nodes that are named to the bindings. -/
theorem joined_of_bound (hNodes : nodes ≠ []) (h : resource.bound pool nodes = .ok after) :
    Joined pool nodes resource after where
  rest := eq_of_bound h
  get? node := by
    have hMem : node ∈ after.document.bound ↔ node ∈ resource.document.bound ∨ node ∈ nodes := by
      rw [mem_bound_of_bound h, if_neg (by simpa using hNodes)]
    cases hOld : resource.document.bindings.get? node with
    | some backing =>
      -- a bound node is not among the new bindings
      obtain ⟨bindings, hBindings, hAfter⟩ := Action.bind_eq_ok_iff.1 h
      obtain rfl := Except.ok.inj hAfter
      have hBound : node ∈ resource.document.bound := by
        by_contra hFree
        rw [get?_bindings_eq_none_iff.2 hFree] at hOld
        cases hOld
      have hNot : node ∉ bindings.map (·.1) := fun hNew =>
        ((mem_map_of_newBindings hBindings).1 hNew).2 hBound
      exact (SortedMap.get?_foldl_insert_of_not_mem hNot).trans hOld
    | none =>
      have hFree := get?_bindings_eq_none_iff.1 hOld
      rw [Option.none_or, backingAmong]
      split
      · next hNode =>
        cases hNew : after.document.bindings.get? node with
        | none => exact absurd (hMem.2 (.inr hNode)) (get?_bindings_eq_none_iff.1 hNew)
        | some backing =>
          rcases backing_of_bound h hNew with hBefore | hBacking
          · rw [hOld] at hBefore
            cases hBefore
          · rw [hBacking]
            rfl
      · next hNode =>
        exact get?_bindings_eq_none_iff.2 fun hNew => (hMem.1 hNew).elim hFree hNode

namespace Joined

/-- The bindings have no part in where a resource lies. -/
theorem backingFor (h : Joined pool nodes resource after) (node : String) :
    after.backingFor pool node = resource.backingFor pool node := by
  rw [h.rest]
  rfl

/-- The union is one resource. -/
theorem unique (h : Joined pool nodes resource after) (hOther : Joined pool nodes resource other) :
    after = other := by
  have hBindings : after.document.bindings = other.document.bindings :=
    SortedMap.ext_get? fun node => (h.get? node).trans (hOther.get? node).symm
  rw [h.rest, hOther.rest, hBindings]

/-- **Joining to one list and then to another is joining to both.** -/
theorem append (hLeft : Joined pool left resource middle) (hRight : Joined pool right middle after) :
    Joined pool (left ++ right) resource after where
  rest := by rw [hRight.rest, hLeft.rest]
  get? node := by
    rw [hRight.get?, hLeft.get?, Option.or_assoc, backingAmong, backingAmong, backingAmong,
      hLeft.backingFor]
    by_cases hFirst : node ∈ left <;> by_cases hSecond : node ∈ right <;>
      simp [hFirst, hSecond, Option.or_self]

/-- Only which nodes are named matters, not in what order or how often. -/
theorem congr (h : Joined pool left resource after) (hSame : ∀ node, node ∈ left ↔ node ∈ right) :
    Joined pool right resource after where
  rest := h.rest
  get? node := by rw [h.get?, backingAmong, backingAmong, if_congr (hSame node) rfl rfl]

/-- A list that can be bound has a union with the bindings. -/
theorem exists_of_bindable (hNodes : nodes ≠ []) (h : resource.Bindable pool nodes) :
    ∃ after, Joined pool nodes resource after := by
  obtain ⟨after, hBound⟩ := (exists_bound_iff hNodes).2 h
  exact ⟨after, joined_of_bound hNodes hBound⟩

/-- Binding makes no further node reachable and none unreachable. -/
theorem bindable_iff (h : Joined pool left resource after) :
    after.Bindable pool right ↔ resource.Bindable pool right := by
  refine forall₂_congr fun node _ => ?_
  rw [h.backingFor, ← get?_bindings_eq_none_iff, ← get?_bindings_eq_none_iff, h.get?,
    Option.or_eq_none_iff]
  constructor
  · intro hAfter hFree
    cases hBacking : resource.backingFor pool node with
    | ok backing => exact ⟨backing, rfl⟩
    | error failure =>
      have hNone : backingAmong pool left resource node = none := by
        rw [backingAmong, hBacking]
        exact ite_self none
      exact hBacking ▸ hAfter ⟨hFree, hNone⟩
  · rintro hBefore ⟨hFree, -⟩
    exact hBefore hFree

/-- Every node of the list is bound. -/
theorem mem_bound (h : Joined pool nodes resource after) (hBindable : resource.Bindable pool nodes)
    (hNode : node ∈ nodes) : node ∈ after.document.bound := by
  by_contra hFree
  rw [← get?_bindings_eq_none_iff, h.get?, Option.or_eq_none_iff, get?_bindings_eq_none_iff,
    backingAmong, if_pos hNode] at hFree
  obtain ⟨backing, hBacking⟩ := hBindable node hNode hFree.1
  rw [hBacking] at hFree
  cases hFree.2

end Joined

/-! ## The commands -/

/-- **What `bind` answers and leaves** when it succeeds, which it does if the nodes can be bound. -/
theorem run_bind_ok_iff (hNodes : nodes ≠ []) {link : Link σ} {out : Json}
    {state : Linked σ Resource} :
    (handle agent pool (.bind nodes)).run ⟨resource, link⟩ = (.ok out, state) ↔
      resource.Bindable pool nodes ∧ Joined pool nodes resource state.object ∧
        state.link = link ∧ out = Json.ofTexts state.object.document.bound := by
  constructor
  · intro hRun
    obtain ⟨hBound, rfl⟩ := bound_of_run_bind hRun
    have hOut := congrArg Prod.fst (hRun.symm.trans (run_bind_of_bound _ hBound))
    exact ⟨(exists_bound_iff hNodes).1 ⟨_, hBound⟩, joined_of_bound hNodes hBound, rfl,
      Except.ok.inj hOut⟩
  · rintro ⟨hBindable, hJoined, rfl, rfl⟩
    obtain ⟨after, hBound⟩ := (exists_bound_iff hNodes).2 hBindable
    obtain rfl := (joined_of_bound hNodes hBound).unique hJoined
    exact run_bind_of_bound _ hBound

/-- A `bind` that finds a node without a backing changes nothing. -/
theorem run_bind_of_unbacked {failure : Failure} (link : Link σ)
    (h : resource.bound pool nodes = .error failure) :
    (handle agent pool (.bind nodes)).run ⟨resource, link⟩ =
      (.error failure, ⟨resource, link⟩) := by
  simp only [handle, supports, if_true, bind, Action.run_bind, Action.run_gets, Action.run_liftM, h]

/-- A `bind` that fails changes nothing. -/
theorem run_bind_error {start state : Linked σ Resource} {failure : Failure}
    (hRun : (handle agent pool (.bind nodes)).run start = (.error failure, state)) :
    state = start := by
  obtain ⟨resource, link⟩ := start
  cases hBound : resource.bound pool nodes with
  | ok after =>
    rw [run_bind_of_bound link hBound] at hRun
    cases hRun
  | error found =>
    rw [run_bind_of_unbacked link hBound] at hRun
    exact (congrArg Prod.snd hRun).symm

/-- **Taking off what was put on.** If no node of the list was bound, unbinding the list from a
resource that is not allocated gives back what there was before the nodes were bound. -/
theorem unbound_of_joined (hNodes : nodes ≠ []) (hJoined : Joined pool nodes resource after)
    (hFree : resource.document.allocated = false)
    (hNew : ∀ node ∈ nodes, node ∉ resource.document.bound)
    (hBindable : resource.Bindable pool nodes) : after.unbound nodes = .ok resource := by
  have hAllocated : after.document.allocated = false := by
    rw [hJoined.rest]
    exact hFree
  have hTargets : after.unbindTargets nodes = nodes := by
    rw [unbindTargets, if_neg (by simpa using hNodes)]
    exact List.filter_eq_self.2 fun node hNode => by
      simpa using hJoined.mem_bound hBindable hNode
  have hBindings : nodes.foldl (fun map node => map.erase node) after.document.bindings =
      resource.document.bindings := by
    refine SortedMap.ext_get? fun node => ?_
    rw [SortedMap.get?_foldl_erase, hJoined.get?, backingAmong]
    split
    · next hNode => exact (get?_bindings_eq_none_iff.2 (hNew node hNode)).symm
    · exact Option.or_none
  rw [Resource.unbound]
  dsimp only
  rw [if_neg fun hGuard => by simp [hAllocated] at hGuard, hTargets, hBindings, hJoined.rest]

/-- Unbinding nodes that are not bound takes nothing off. -/
theorem unbound_of_not_bound (hNodes : nodes ≠ []) (hFree : resource.document.allocated = false)
    (hNew : ∀ node ∈ nodes, node ∉ resource.document.bound) :
    resource.unbound nodes = .ok resource := by
  have hTargets : resource.unbindTargets nodes = [] := by
    rw [unbindTargets, if_neg (by simpa using hNodes)]
    exact List.filter_eq_nil_iff.2 fun node hNode => by simpa using hNew node hNode
  rw [Resource.unbound]
  dsimp only
  rw [if_neg fun hGuard => by simp [hFree] at hGuard, hTargets]
  rfl

theorem run_unbind_of_unbound {link : Link σ} (h : resource.unbound nodes = .ok after) :
    (handle agent pool (.unbind nodes)).run ⟨resource, link⟩ =
      (.ok (Json.ofTexts after.document.bound), ⟨after, link⟩) := by
  simp only [handle, supports, if_true, unbind, Action.run_bind, Action.run_gets,
    Action.run_liftM, h]
  rfl

/-- **Two binds commute**, and are one bind of both lists. -/
theorem run_bind_comm {link : Link σ} {out₁ out₂ : Json} {after₁ after₂ : Linked σ Resource}
    (hLeft : left ≠ []) (hRight : right ≠ [])
    (hFirst : (handle agent pool (.bind left)).run ⟨resource, link⟩ = (.ok out₁, after₁))
    (hSecond : (handle agent pool (.bind right)).run ⟨resource, link⟩ = (.ok out₂, after₂)) :
    ∃ out after, (handle agent pool (.bind right)).run after₁ = (.ok out, after) ∧
      (handle agent pool (.bind left)).run after₂ = (.ok out, after) ∧
      (handle agent pool (.bind (left ++ right))).run ⟨resource, link⟩ = (.ok out, after) := by
  obtain ⟨first, here⟩ := after₁
  obtain ⟨second, there⟩ := after₂
  obtain ⟨hBindLeft, hJoinLeft, rfl, -⟩ := (run_bind_ok_iff hLeft).1 hFirst
  obtain ⟨hBindRight, hJoinRight, hLink, -⟩ := (run_bind_ok_iff hRight).1 hSecond
  have hThenRight : first.Bindable pool right := hJoinLeft.bindable_iff.2 hBindRight
  have hThenLeft : second.Bindable pool left := hJoinRight.bindable_iff.2 hBindLeft
  obtain ⟨after, hAfter⟩ := Joined.exists_of_bindable hRight hThenRight
  obtain ⟨other, hOther⟩ := Joined.exists_of_bindable hLeft hThenLeft
  have hBoth : Joined pool (left ++ right) resource after := hJoinLeft.append hAfter
  obtain rfl : after = other :=
    hBoth.unique ((hJoinRight.append hOther).congr fun node => by simp [or_comm])
  refine ⟨Json.ofTexts after.document.bound, ⟨after, here⟩, ?_, ?_, ?_⟩
  · exact (run_bind_ok_iff hRight).2 ⟨hThenRight, hAfter, rfl, rfl⟩
  · exact (run_bind_ok_iff hLeft).2 ⟨hThenLeft, hOther, hLink.symm, rfl⟩
  · exact (run_bind_ok_iff (List.append_ne_nil_of_left_ne_nil hLeft right)).2
      ⟨bindable_append.2 ⟨hBindLeft, hBindRight⟩, hBoth, rfl, rfl⟩

/-- **Binding again changes nothing.** -/
theorem run_bind_again {link : Link σ} {out : Json} {after : Linked σ Resource}
    (hNodes : nodes ≠ [])
    (hRun : (handle agent pool (.bind nodes)).run ⟨resource, link⟩ = (.ok out, after)) :
    (handle agent pool (.bind nodes)).run after = (.ok out, after) := by
  obtain ⟨after, _⟩ := after
  obtain ⟨hBindable, hJoined, rfl, rfl⟩ := (run_bind_ok_iff hNodes).1 hRun
  have hAgain : after.Bindable pool nodes := hJoined.bindable_iff.2 hBindable
  obtain ⟨again, hTwice⟩ := Joined.exists_of_bindable hNodes hAgain
  obtain rfl : after = again := hJoined.unique ((hJoined.append hTwice).congr fun node => by simp)
  exact (run_bind_ok_iff hNodes).2 ⟨hAgain, hTwice, rfl, rfl⟩

/-- **Unbinding undoes binding**, and a `bind` that failed as well. -/
theorem run_unbind_of_bind (link : Link σ) (hNodes : nodes ≠ [])
    (hFree : resource.document.allocated = false)
    (hNew : ∀ node ∈ nodes, node ∉ resource.document.bound) :
    (handle agent pool (.unbind nodes)).run
        ((handle agent pool (.bind nodes)).run ⟨resource, link⟩).2 =
      (.ok (Json.ofTexts resource.document.bound), ⟨resource, link⟩) := by
  cases hBound : resource.bound pool nodes with
  | ok after =>
    have hBindable := (exists_bound_iff hNodes).1 ⟨after, hBound⟩
    rw [run_bind_of_bound link hBound]
    exact run_unbind_of_unbound
      (unbound_of_joined hNodes (joined_of_bound hNodes hBound) hFree hNew hBindable)
  | error failure =>
    rw [run_bind_of_unbacked link hBound]
    exact run_unbind_of_unbound (unbound_of_not_bound hNodes hFree hNew)

/-- **Bindings form a union.** For every resource, pool and lists of nodes that are not empty:

* `bind` succeeds exactly if each node that is not bound yet has a backing. The resource then has
  the bindings that it had, and every new node is bound to its backing; nothing else has changed and
  no call was made. A `bind` that fails changes nothing;
* two lists that can both be bound can be bound in either order and as one list, with the same
  answer and the same state, and a list that is bound twice is bound as it was once;
* unbinding what was just bound gives back the state that there was, if none of the nodes was bound
  before and the resource is not allocated. -/
theorem bindings_form_a_union (agent : Agent σ) (pool : PoolDocument) (start : Linked σ Resource)
    (hLeft : left ≠ []) (hRight : right ≠ []) :
    ((∃ out after, (handle agent pool (.bind left)).run start = (.ok out, after)) ↔
      ∀ node ∈ left, node ∉ start.object.document.bound →
        ∃ backing, start.object.backingFor pool node = .ok backing) ∧
    (∀ out after, (handle agent pool (.bind left)).run start = (.ok out, after) →
      after.link = start.link ∧
      after.object = { start.object with document.bindings := after.object.document.bindings } ∧
      ∀ node, after.object.document.bindings.get? node =
        (start.object.document.bindings.get? node).or
          (if node ∈ left then (start.object.backingFor pool node).toOption else none)) ∧
    (∀ failure after, (handle agent pool (.bind left)).run start = (.error failure, after) →
      after = start) ∧
    (∀ out₁ after₁ out₂ after₂,
      (handle agent pool (.bind left)).run start = (.ok out₁, after₁) →
      (handle agent pool (.bind right)).run start = (.ok out₂, after₂) →
      ∃ out after, (handle agent pool (.bind right)).run after₁ = (.ok out, after) ∧
        (handle agent pool (.bind left)).run after₂ = (.ok out, after) ∧
        (handle agent pool (.bind (left ++ right))).run start = (.ok out, after)) ∧
    (∀ out after, (handle agent pool (.bind left)).run start = (.ok out, after) →
      (handle agent pool (.bind left)).run after = (.ok out, after)) ∧
    (start.object.document.allocated = false →
      (∀ node ∈ left, node ∉ start.object.document.bound) →
      (handle agent pool (.unbind left)).run ((handle agent pool (.bind left)).run start).2 =
        (.ok (Json.ofTexts start.object.document.bound), start)) := by
  obtain ⟨resource, link⟩ := start
  refine ⟨⟨?fits, ?succeeds⟩, ?joins, fun _ _ => run_bind_error,
    fun _ _ _ _ => run_bind_comm hLeft hRight, fun _ _ => run_bind_again hLeft,
    run_unbind_of_bind link hLeft⟩
  case fits =>
    rintro ⟨out, after, hRun⟩
    exact ((run_bind_ok_iff hLeft).1 hRun).1
  case succeeds =>
    intro hBindable
    obtain ⟨after, hBound⟩ := (exists_bound_iff hLeft).2 hBindable
    exact ⟨_, _, run_bind_of_bound link hBound⟩
  case joins =>
    intro out after hRun
    obtain ⟨-, hJoined, hLink, -⟩ := (run_bind_ok_iff hLeft).1 hRun
    exact ⟨hLink, hJoined.rest, hJoined.get?⟩

/-- A pool with a bridge on each of two nodes. -/
def bridgesOnTwoNodes : PoolDocument :=
  { id := some "net", name := "net", kind := .linuxBridge, access := ["a", "b"]
    spec := { PoolSpec.none with bridge := some ⟨.ofList [("a", "br0"), ("b", "br1")], ∅⟩ } }

/-- A tap port that is bound nowhere yet, and a link that nothing was sent on. -/
def unboundTap : Linked Unit Resource :=
  ⟨ResourceClass.tapPort.build "tap" (ResourceClass.definePort "tap" .empty), ⟨(), []⟩⟩

/-- An agent that refuses everything. Binding does not ask it. -/
def refusing : Agent Unit := fun memory _ => (.error (.internal .unreadableDocument), memory)

/-- A port bound to `b`, which is named twice, and to `a`: one after the other or at once, the answer
is the same, and unbinding what was bound first gives back what there was. -/
theorem bindings_form_a_union_tap :
    (∃ out after, (handle refusing bridgesOnTwoNodes (.bind ["a"])).run
        ((handle refusing bridgesOnTwoNodes (.bind ["b", "b"])).run unboundTap).2 =
          (.ok out, after) ∧
      (handle refusing bridgesOnTwoNodes (.bind ["b", "b"])).run
        ((handle refusing bridgesOnTwoNodes (.bind ["a"])).run unboundTap).2 = (.ok out, after) ∧
      (handle refusing bridgesOnTwoNodes (.bind ["b", "b", "a"])).run unboundTap =
        (.ok out, after)) ∧
    (handle refusing bridgesOnTwoNodes (.unbind ["b", "b"])).run
        ((handle refusing bridgesOnTwoNodes (.bind ["b", "b"])).run unboundTap).2 =
      (.ok (.ofTexts []), unboundTap) := by
  have hLeft : ["b", "b"] ≠ [] := by simp
  have hRight : ["a"] ≠ [] := by simp
  obtain ⟨-, -, -, hCommutes, -, hUndone⟩ :=
    bindings_form_a_union refusing bridgesOnTwoNodes unboundTap hLeft hRight
  exact ⟨hCommutes _ _ _ _ rfl rfl, hUndone rfl (by decide)⟩

end Resource

end DiskFleet
