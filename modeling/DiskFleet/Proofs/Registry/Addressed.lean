import DiskFleet.Proofs.Registry.Change
import Mathlib.Data.String.Basic
import Mathlib.Order.Bounds.Basic

/-!
# Who is called

Node-side work for a resource is sent to the first node that it is bound to, and work for an image
to the first of all nodes that the volumes of its layers are bound to. `Registry.Addressed` says so
of one call and the registry as it is when the call is made.

In a run the bindings change between the calls, so that the statement about a history needs the
moment of each call: the move that made it. Histories only grow at the end, by one exchange for a
move at most, so that this moment is found by going back along the run.

## Main results

* `World.Move.call_cases`: what a move adds to the history;
* `World.Course.addressed`: every call that was made on the way was addressed as it should be, at
  the moment it was made.
-/

namespace DiskFleet

/-- A volume of a layer of the image is bound to the node. -/
def Image.BoundTo (image : Image) (registry : Registry) (node : String) : Prop :=
  ∃ name layer volume resource, image.layers.get? name = some layer ∧
    layer.volume = some volume ∧ registry.resource? volume = some resource ∧
    node ∈ resource.document.bound

/-- The call is sent to where it belongs in the present state of the registry. -/
inductive Registry.Addressed (registry : Registry) : Call → Prop
  /-- A call for a resource, whose document it carries with that of its pool, to the first node that
  the resource is bound to. -/
  | resource {id node method : String} {pool : Pool} {resource : Resource} {args : Arguments} :
      registry.poolOf id = .ok pool → registry.resource? id = some resource →
      IsLeast {bound | bound ∈ resource.document.bound} node →
      Addressed registry
        { node, service := Call.resourceService, method
          args := .obj [("arguments", args.toJson), ("pool", pool.document.toJson),
            ("resource", resource.document.toJson)] }
  /-- A call for an image, whose document it carries, to the first node that a volume of one of the
  image's layers is bound to. -/
  | image {image : Image} {node command : String} {args document : Json} :
      image.info registry true = .ok document →
      IsLeast {bound | image.BoundTo registry bound} node →
      Addressed registry
        { node, service := Call.imageService, method := Call.updateImage
          args := .obj [("command", .obj [(command, args)]), ("image", document)] }

/-! ## The primary node -/

namespace Image

variable {image : Image} {registry : Registry} {node : String}

theorem mem_volumes {layer volume : String} :
    (layer, volume) ∈ image.volumes ↔
      ∃ stored, image.layers.get? layer = some stored ∧ stored.volume = some volume := by
  simp only [volumes, List.mem_filterMap, Option.map_eq_some_iff, Prod.mk.injEq]
  constructor
  · rintro ⟨⟨name, stored⟩, hEntry, other, hVolume, rfl, rfl⟩
    exact ⟨stored, Table.mem_entries_iff.1 hEntry, hVolume⟩
  · rintro ⟨stored, hStored, hVolume⟩
    exact ⟨(layer, stored), Table.mem_entries_iff.2 hStored, volume, hVolume, rfl, rfl⟩

/-- The nodes that volumes are bound to. -/
theorem mem_boundNodes :
    ∀ {volumes nodes : List String}, boundNodes registry volumes = .ok nodes →
      (node ∈ nodes ↔ ∃ volume ∈ volumes, ∃ resource, registry.resource? volume = some resource ∧
        node ∈ resource.document.bound)
  | [], nodes, h => by
    obtain rfl := Except.ok.inj h
    simp
  | volume :: rest, nodes, h => by
    obtain ⟨document, hDocument, hRest⟩ := Action.bind_eq_ok_iff.1 h
    obtain ⟨others, hOthers, hPure⟩ := Action.bind_eq_ok_iff.1 hRest
    obtain rfl := Except.ok.inj hPure
    obtain ⟨resource, hResource, rfl⟩ := Registry.resourceDocument_eq_ok_iff.1 hDocument
    rw [List.mem_append, mem_boundNodes hOthers]
    constructor
    · rintro (hNode | ⟨other, hOther, hBound⟩)
      · exact ⟨volume, List.mem_cons_self, resource, hResource, hNode⟩
      · exact ⟨other, List.mem_cons_of_mem _ hOther, hBound⟩
    · rintro ⟨other, hOther, found, hFound, hNode⟩
      rcases List.mem_cons.1 hOther with rfl | hLater
      · obtain rfl := Option.some.inj (hResource.symm.trans hFound)
        exact .inl hNode
      · exact .inr ⟨other, hLater, found, hFound, hNode⟩

/-- The nodes that an image can be used from are those that its volumes are bound to. -/
theorem mem_accessNodes {nodes : List String} (h : image.accessNodes registry = .ok nodes) :
    node ∈ nodes ↔ image.BoundTo registry node := by
  obtain ⟨bound, hBound, hPure⟩ := Action.bind_eq_ok_iff.1 h
  obtain rfl := Except.ok.inj hPure
  rw [NameSet.ofList, SortedMap.mem_keys_ofList]
  have hNames : node ∈ (bound.map fun name => (name, ())).map (·.1) ↔ node ∈ bound := by simp
  rw [hNames, mem_boundNodes hBound]
  constructor
  · rintro ⟨volume, hVolume, resource, hResource, hNode⟩
    obtain ⟨⟨name, _⟩, hPair, rfl⟩ := List.mem_map.1 hVolume
    obtain ⟨layer, hLayer, hHeld⟩ := mem_volumes.1 hPair
    exact ⟨name, layer, _, resource, hLayer, hHeld, hResource, hNode⟩
  · rintro ⟨name, layer, volume, resource, hLayer, hHeld, hResource, hNode⟩
    have hPair : (name, volume) ∈ image.volumes := mem_volumes.2 ⟨layer, hLayer, hHeld⟩
    exact ⟨volume, List.mem_map_of_mem (f := (·.2)) hPair, resource, hResource, hNode⟩

/-- **The primary node is the first that a volume of the image is bound to.** -/
theorem isLeast_of_primaryNode (h : image.primaryNode registry = .ok node) :
    IsLeast {bound | image.BoundTo registry bound} node := by
  obtain ⟨nodes, hNodes, hFirst⟩ := Action.bind_eq_ok_iff.1 h
  cases nodes with
  | nil => cases hFirst
  | cons first rest =>
      obtain rfl := Except.ok.inj hFirst
      obtain ⟨bound, hBound, hPure⟩ := Action.bind_eq_ok_iff.1 hNodes
      have hKeys : (NameSet.ofList bound).keys = first :: rest := Except.ok.inj hPure
      refine ⟨(mem_accessNodes hNodes).1 List.mem_cons_self, fun other hOther => ?_⟩
      have hMem : other ∈ first :: rest := (mem_accessNodes hNodes).2 hOther
      exact SortedMap.le_of_keys_eq_cons hKeys (hKeys ▸ hMem)

/-- A call for an image is addressed to where it belongs. -/
theorem addressed_of_callFor {command : String} {args : Json} {call : Call}
    (h : image.callFor registry command args = .ok call) : registry.Addressed call := by
  obtain ⟨node, hNode, hRest⟩ := Action.bind_eq_ok_iff.1 h
  obtain ⟨document, hDocument, hCall⟩ := Action.bind_eq_ok_iff.1 hRest
  obtain rfl := Except.ok.inj hCall
  exact .image hDocument (isLeast_of_primaryNode hNode)

end Image

/-! ## Calls along a run -/

namespace World

variable {σ : Type} {agent : Agent σ} {admits : ResourceDocument → Prop}
  {mayDrop : String → Prop} {mayOpen : PoolDocument → Prop} {start world next : World σ}

/-- **A move makes one call at most**, and that is addressed to where it belongs. -/
theorem Move.call_cases (hMove : Move agent admits mayDrop mayOpen world next) :
    next.link = world.link ∨
      ∃ call, next.link = world.link.calling agent call ∧ world.registry.Addressed call := by
  cases hMove with
  | drawId => exact .inl rfl
  | drawSuffix => exact .inl rfl
  | openPool => exact .inl rfl
  | closePool => exact .inl rfl
  | enter => exact .inl rfl
  | drop => exact .inl rfl
  | callImage hCall => exact .inr ⟨_, rfl, Image.addressed_of_callFor hCall⟩
  | @work id poolId pool resource command hOwner hPool hResource hInside =>
      have hStep : Resource.Step agent pool.document ⟨resource, world.link⟩ _ :=
        Resource.handle_step command
      rcases hStep.link_cases with hQuiet | ⟨node, method, args, ⟨rest, hBound⟩, hCalled⟩
      · exact .inl hQuiet
      · have hMem : node ∈ resource.document.bound := hBound ▸ List.mem_cons_self
        have hFirst : IsLeast {bound | bound ∈ resource.document.bound} node :=
          ⟨hMem, fun _ hOther => SortedMap.le_of_keys_eq_cons hBound hOther⟩
        exact .inr ⟨_, hCalled, .resource (Registry.poolOf_eq_ok_iff.2 ⟨poolId, hOwner, hPool⟩)
          ((Registry.resource?_eq hOwner hPool).trans hResource) hFirst⟩

/-- The `i`-th exchange of `world` was made in the move from `moment` to `next`, on the way from
`start`. -/
structure MadeIn (agent : Agent σ) (admits : ResourceDocument → Prop) (mayDrop : String → Prop)
    (mayOpen : PoolDocument → Prop) (start world : World σ) (i : Nat) (moment next : World σ) :
    Prop where
  before : Course agent admits mayDrop mayOpen start moment
  move : Move agent admits mayDrop mayOpen moment next
  rest : Course agent admits mayDrop mayOpen next world
  historyBefore : moment.link.history = world.link.history.take i
  historyAfter : next.link.history = world.link.history.take (i + 1)

/-- **Every call on the way was addressed to where it belonged**, as the registry was when the call
was made. -/
theorem Course.addressed (hCourse : Course agent admits mayDrop mayOpen start world) {i : Nat}
    {exchange : Exchange} (hNew : start.link.history.length ≤ i)
    (hMade : world.link.history[i]? = some exchange) :
    ∃ moment next, MadeIn agent admits mayDrop mayOpen start world i moment next ∧
      moment.registry.Addressed exchange.call := by
  induction hCourse with
  | refl =>
      rw [List.getElem?_eq_none hNew] at hMade
      cases hMade
  | @tail before after hBefore hMove ih =>
      -- an exchange that `before` has already was made where `before` found it
      have hEarlier : ∀ more, after.link.history = before.link.history ++ more →
          i < before.link.history.length →
          ∃ moment next, MadeIn agent admits mayDrop mayOpen start after i moment next ∧
            moment.registry.Addressed exchange.call := by
        intro more hGrown hOld
        rw [hGrown, List.getElem?_append_left hOld] at hMade
        obtain ⟨moment, next, hMadeIn, hAddressed⟩ := ih hMade
        refine ⟨moment, next, ⟨hMadeIn.before, hMadeIn.move, hMadeIn.rest.tail hMove, ?_, ?_⟩,
          hAddressed⟩
        · rw [hMadeIn.historyBefore, hGrown, List.take_append_of_le_length (by omega)]
        · rw [hMadeIn.historyAfter, hGrown, List.take_append_of_le_length (by omega)]
      rcases hMove.call_cases with hQuiet | ⟨call, hCalled, hAddressed⟩
      · have hLength : i < before.link.history.length := by
          have hSome := (List.getElem?_eq_some_iff.1 hMade).1
          rwa [hQuiet] at hSome
        exact hEarlier [] (by rw [hQuiet, List.append_nil]) hLength
      · have hGrown : after.link.history =
            before.link.history ++ [before.link.exchange agent call] := by
          rw [hCalled, Link.history_calling]
        by_cases hOld : i < before.link.history.length
        · exact hEarlier _ hGrown hOld
        · have hLast : i = before.link.history.length := by
            have hSome := (List.getElem?_eq_some_iff.1 hMade).1
            rw [hGrown, List.length_append, List.length_singleton] at hSome
            omega
          subst hLast
          have hExchange : exchange = before.link.exchange agent call := by
            rw [hGrown, List.getElem?_concat_length] at hMade
            exact (Option.some.inj hMade).symm
          refine ⟨before, after, ⟨hBefore, hMove, .refl, ?_, ?_⟩, ?_⟩
          · rw [hGrown, List.take_left]
          · have hLength : after.link.history.length = before.link.history.length + 1 := by
              rw [hGrown, List.length_append, List.length_singleton]
            rw [List.take_of_length_le (by omega)]
          · rw [hExchange]
            exact hAddressed

end World

end DiskFleet
