import DiskFleet.Proofs.Image.Added

/-!
# The nodes of a new layer

An image can be used from the nodes that its volumes are bound to (`Image.BoundTo`). A layer may be
added on some of these nodes, or on all of them if none is named. Then the image can be used from
the same nodes as before, as long as there are any. An image whose volumes are bound nowhere has no
nodes to name, and to bind a volume to none of them means to bind it to all nodes of its pool.

## Main results

* `Image.exists_accessNodes_iff`, `Image.accessNodes_eq`: when the nodes of an image are told, and
  that their set says it all;
* `Image.exists_accessNodes_grown`: the nodes of an image with one volume more;
* `Session.boundTo_of_run_add`: where an image can be used from after `add`.
-/

namespace DiskFleet

namespace Image

variable {image other : Image} {registry later : Registry} {node : String} {nodes : List String}

/-- The nodes that volumes are bound to are told if every volume is registered. -/
theorem exists_boundNodes_iff (volumes : List String) :
    (∃ nodes, boundNodes registry volumes = .ok nodes) ↔
      ∀ volume ∈ volumes, ∃ resource, registry.resource? volume = some resource := by
  induction volumes with
  | nil => exact iff_of_true ⟨[], rfl⟩ nofun
  | cons volume rest ih =>
      rw [List.forall_mem_cons, ← ih]
      constructor
      · rintro ⟨nodes, hNodes⟩
        obtain ⟨document, hDocument, hRest⟩ := Action.bind_eq_ok_iff.1 hNodes
        obtain ⟨others, hOthers, -⟩ := Action.bind_eq_ok_iff.1 hRest
        obtain ⟨resource, hResource, -⟩ := Registry.resourceDocument_eq_ok_iff.1 hDocument
        exact ⟨⟨resource, hResource⟩, others, hOthers⟩
      · rintro ⟨⟨resource, hResource⟩, others, hOthers⟩
        have hDocument := Registry.resourceDocument_eq_ok_iff.2 ⟨resource, hResource, rfl⟩
        exact ⟨_, Action.bind_eq_ok_iff.2 ⟨_, hDocument,
          Action.bind_eq_ok_iff.2 ⟨others, hOthers, rfl⟩⟩⟩

/-- **The nodes of an image are told exactly if all of its volumes are registered.** -/
theorem exists_accessNodes_iff :
    (∃ nodes, image.accessNodes registry = .ok nodes) ↔
      ∀ volume ∈ image.volumeIds, ∃ resource, registry.resource? volume = some resource := by
  rw [volumeIds, ← exists_boundNodes_iff]
  constructor
  · rintro ⟨nodes, hNodes⟩
    obtain ⟨bound, hBound, -⟩ := Action.bind_eq_ok_iff.1 hNodes
    exact ⟨bound, hBound⟩
  · rintro ⟨bound, hBound⟩
    exact ⟨_, Action.bind_eq_ok_iff.2 ⟨bound, hBound, rfl⟩⟩

/-- **The nodes of an image are told as a set**: each once, and in order. -/
theorem accessNodes_eq {otherNodes : List String} (h : image.accessNodes registry = .ok nodes)
    (hOther : other.accessNodes later = .ok otherNodes)
    (hSame : ∀ node, node ∈ otherNodes ↔ node ∈ nodes) : otherNodes = nodes := by
  obtain ⟨bound, -, hPure⟩ := Action.bind_eq_ok_iff.1 h
  obtain ⟨otherBound, -, hOtherPure⟩ := Action.bind_eq_ok_iff.1 hOther
  obtain rfl := Except.ok.inj hPure
  obtain rfl := Except.ok.inj hOtherPure
  refine congrArg SortedMap.keys (SortedMap.ext_get? fun key => Option.ext fun _ => ?_)
  have hMem : ∀ set : NameSet, set.get? key = some () ↔ key ∈ set.keys := by
    intro set
    rw [← SortedMap.contains_iff_mem_keys, SortedMap.contains]
    cases set.get? key <;> simp
  exact (hMem _).trans ((hSame key).trans (hMem _).symm)

/-- An image can be used from where one of its volumes is bound. -/
theorem boundTo_iff : image.BoundTo registry node ↔ ∃ volume ∈ image.volumeIds, ∃ resource,
    registry.resource? volume = some resource ∧ node ∈ resource.document.bound := by
  constructor
  · rintro ⟨name, layer, volume, resource, hLayer, hVolume, hFound, hNode⟩
    exact ⟨volume, mem_volumeIds.2 ⟨name, layer, hLayer, hVolume⟩, resource, hFound, hNode⟩
  · rintro ⟨volume, hMem, resource, hFound, hNode⟩
    obtain ⟨name, layer, hLayer, hVolume⟩ := mem_volumeIds.1 hMem
    exact ⟨name, layer, volume, resource, hLayer, hVolume, hFound, hNode⟩

/-- The volumes of an image with one layer more. -/
theorem mem_volumeIds_of_insert {name volume made : String} {layer : Layer}
    (hLayers : other.layers = image.layers.insert name layer)
    (hNew : image.layers.contains name = false) (hVolume : layer.volume = some made) :
    volume ∈ other.volumeIds ↔ volume ∈ image.volumeIds ∨ volume = made := by
  simp only [mem_volumeIds, hLayers, Table.get?_insert]
  constructor
  · rintro ⟨key, stored, hStored, hHeld⟩
    split at hStored
    · obtain rfl := Option.some.inj hStored
      exact .inr (Option.some.inj (hHeld.symm.trans hVolume))
    · exact .inl ⟨key, stored, hStored, hHeld⟩
  · rintro (⟨key, stored, hStored, hHeld⟩ | rfl)
    · have hOther : key ≠ name := by
        rintro rfl
        rw [Table.contains, hStored] at hNew
        cases hNew
      exact ⟨key, stored, by rw [if_neg hOther]; exact hStored, hHeld⟩
    · exact ⟨name, layer, if_pos rfl, hVolume⟩

/-- **An image with one volume more** can be used from where it could be used before, and from where
that volume is bound. -/
theorem exists_accessNodes_grown {made : String} {resource : Resource}
    (h : image.accessNodes registry = .ok nodes)
    (hVolumes : ∀ volume, volume ∈ other.volumeIds ↔ volume ∈ image.volumeIds ∨ volume = made)
    (hKept : ∀ volume ∈ image.volumeIds, later.resource? volume = registry.resource? volume)
    (hMade : later.resource? made = some resource) :
    ∃ grown, other.accessNodes later = .ok grown ∧
      ∀ node, node ∈ grown ↔ node ∈ nodes ∨ node ∈ resource.document.bound := by
  have hBefore := exists_accessNodes_iff.1 ⟨nodes, h⟩
  obtain ⟨grown, hGrown⟩ := exists_accessNodes_iff.2 fun volume hMem => by
    rcases (hVolumes volume).1 hMem with hOld | rfl
    · rw [hKept volume hOld]
      exact hBefore volume hOld
    · exact ⟨resource, hMade⟩
  refine ⟨grown, hGrown, fun node => ?_⟩
  rw [mem_accessNodes hGrown, mem_accessNodes h, boundTo_iff, boundTo_iff]
  constructor
  · rintro ⟨volume, hMem, stored, hThere, hNode⟩
    rcases (hVolumes volume).1 hMem with hOld | rfl
    · exact .inl ⟨volume, hOld, stored, (hKept volume hOld).symm.trans hThere, hNode⟩
    · obtain rfl := Option.some.inj (hMade.symm.trans hThere)
      exact .inr hNode
  · rintro (⟨volume, hMem, stored, hThere, hNode⟩ | hNode)
    · exact ⟨volume, (hVolumes volume).2 (.inl hMem), stored, (hKept volume hMem).trans hThere,
        hNode⟩
    · exact ⟨made, (hVolumes made).2 (.inr rfl), resource, hMade, hNode⟩

/-- **The nodes for a new layer** are those that were named, or all nodes of the image if there are
none, and in any case nodes of the image. -/
theorem of_nodesFor {named : List String} (h : image.nodesFor registry named = .ok nodes) :
    ∃ access, image.accessNodes registry = .ok access ∧
      nodes = (if named.isEmpty then access else named) ∧ ∀ node ∈ nodes, node ∈ access := by
  obtain ⟨access, hAccess, hRest⟩ := Action.bind_eq_ok_iff.1 h
  dsimp only at hRest
  split at hRest
  · next hInside =>
    obtain rfl := Except.ok.inj hRest
    refine ⟨access, hAccess, rfl, fun node hNode => ?_⟩
    have hKept := List.filter_eq_nil_iff.1 hInside node hNode
    simpa using hKept
  · cases hRest

end Image

namespace Session

variable {σ : Type} {agent : Agent σ} {settings : ImageSettings} {session after : Session σ}
  {args : AddArguments} {out : Json}

/-- **Where an image can be used from after `add`**: from where it could be used before, and from
where the new volume is bound. That is bound to the nodes that were chosen for it, or to those of its
pool if there are none to choose from. -/
theorem boundTo_of_run_add (hSound : session.world.Sound)
    (hRun : (add agent settings args).run session = (.ok out, after)) :
    ∃ access grown nodes layer volume pool resource,
      session.image.accessNodes session.world.registry = .ok access ∧
      after.image.accessNodes after.world.registry = .ok grown ∧
      nodes = (if args.nodes.isEmpty then access else args.nodes) ∧
      (∀ node ∈ nodes, node ∈ access) ∧
      after.image.layers.get? args.target = some layer ∧ layer.volume = some volume ∧
      after.world.registry.poolOf volume = .ok pool ∧
      after.world.registry.resource? volume = some resource ∧
      (∀ node, node ∈ resource.document.bound ↔
        node ∈ if nodes.isEmpty then pool.document.access else nodes) ∧
      ∀ node, node ∈ grown ↔ node ∈ access ∨ node ∈ resource.document.bound := by
  obtain ⟨nodes, made, hNew, hNodes, hMade, hPlace⟩ := of_run_add hSound hRun
  obtain ⟨access, hAccess, hChosen, hInside⟩ := Image.of_nodesFor hNodes
  obtain ⟨poolId, pool, resource, hOwner, hPool, hStored, -, hBound⟩ := hMade.volume
  have hFound : after.world.registry.resource? session.world.supply.nextId = some resource :=
    (Registry.resource?_eq hOwner hPool).trans hStored
  obtain ⟨layer, hVolume, hLayers⟩ : ∃ layer : Layer,
      layer.volume = some session.world.supply.nextId ∧
      after.image.layers = session.image.layers.insert args.target layer := by
    rcases hPlace with ⟨-, hImage⟩ | ⟨-, top, -, hImage⟩
    · exact ⟨made, hMade.new.volume, congrArg Image.layers hImage⟩
    · exact ⟨{ made with backing := some top }, hMade.new.volume, congrArg Image.layers hImage⟩
  -- the volumes of the image were registered, so that none of them is the new one
  have hKept : ∀ volume ∈ session.image.volumeIds,
      after.world.registry.resource? volume = session.world.registry.resource? volume := by
    intro volume hMem
    obtain ⟨stored, hThere⟩ := Image.exists_accessNodes_iff.1 ⟨access, hAccess⟩ volume hMem
    have hNe : volume ≠ session.world.supply.nextId := by
      rintro rfl
      rw [Registry.resource?_of_not_owned hSound.owners_nextId] at hThere
      cases hThere
    rw [← hMade.others, Registry.resource?_without, if_neg hNe]
  obtain ⟨grown, hGrown, hReach⟩ := Image.exists_accessNodes_grown hAccess
    (fun volume => Image.mem_volumeIds_of_insert hLayers hNew hVolume) hKept hFound
  refine ⟨access, grown, nodes, layer, _, pool, resource, hAccess, hGrown, hChosen, hInside, ?_,
    hVolume, Registry.poolOf_eq_ok_iff.2 ⟨poolId, hOwner, hPool⟩, hFound, hBound, hReach⟩
  rw [hLayers, Table.get?_insert, if_pos rfl]

end Session

end DiskFleet
