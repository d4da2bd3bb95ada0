import DiskFleet.Proofs.Registry.Errand
import DiskFleet.Proofs.Registry.Prepared

/-!
# Twins

The twin of a resource is a copy in the same pool that was bound to the same nodes and allocated.
It does not lie where its source lies: its bindings are to the backings that its own name, or file
name, leads to (`Resource.TwinOf.backingFor`).

## Main results

* `Resource.TwinOf.mem_bound`, `Resource.TwinOf.backingFor`: the bindings of a twin;
* `World.twins_of_prepared`: a copy that is made ready is a twin.
-/

namespace DiskFleet

namespace Resource

/-- The second resource is a copy of the first one in its pool, which was bound to the nodes of the
first one and allocated. -/
def TwinOf (pool : PoolDocument) (poolId suffix id : String) (source twin : Resource) : Prop :=
  ∃ bound out, (source.copiedAs poolId suffix id).bound pool source.document.bound = .ok bound ∧
    twin = bound.allocatedAs out

namespace TwinOf

variable {pool : PoolDocument} {poolId suffix id node backing : String} {source twin : Resource}

/-- A twin is another resource of the same pool and type, under its own id, and holds storage. -/
theorem document (h : TwinOf pool poolId suffix id source twin) :
    twin.document.id = some id ∧ twin.document.type = source.document.type ∧
      twin.document.pool = some poolId ∧ twin.document.allocated = true := by
  obtain ⟨bound, out, hBound, rfl⟩ := h
  obtain ⟨bindings, -, hPure⟩ := Action.bind_eq_ok_iff.1 hBound
  obtain rfl := Except.ok.inj hPure
  exact ⟨rfl, rfl, rfl, rfl⟩

/-- A twin is bound to the nodes that its source is bound to, or to all nodes of the pool if these
are none. -/
theorem mem_bound_iff (h : TwinOf pool poolId suffix id source twin) :
    node ∈ twin.document.bound ↔
      node ∈ if source.document.bound.isEmpty then pool.access else source.document.bound := by
  obtain ⟨bound, out, hTwin, rfl⟩ := h
  have hUnbound : (source.copiedAs poolId suffix id).document.bound = [] := rfl
  show node ∈ bound.document.bound ↔ _
  rw [mem_bound_of_bound hTwin, hUnbound]
  simp

/-- **A twin is bound to the nodes that its source is bound to**, unless that is bound to none. -/
theorem mem_bound (h : TwinOf pool poolId suffix id source twin)
    (hBound : source.document.bound ≠ []) :
    node ∈ twin.document.bound ↔ node ∈ source.document.bound := by
  rw [h.mem_bound_iff, if_neg (List.isEmpty_iff.not.2 hBound)]

/-- **A twin lies where its own description puts it.** -/
theorem backingFor (h : TwinOf pool poolId suffix id source twin)
    (hBinding : twin.document.bindings.get? node = some backing) :
    (source.copiedAs poolId suffix id).backingFor pool node = .ok backing := by
  obtain ⟨bound, out, hTwin, rfl⟩ := h
  rcases backing_of_bound hTwin hBinding with hOld | hNew
  · -- the copy had no bindings
    cases hOld
  · exact hNew

end TwinOf

end Resource

namespace Registry

variable {before between after : Registry} {suffix volume twin : String}

/-- A resource is owned by the pool that its document names. -/
theorem Sound.owners_of_pooled {registry : Registry} {id poolId : String} {resource : Resource}
    (h : registry.Sound) (hFound : registry.resource? id = some resource)
    (hPooled : resource.document.pool = some poolId) :
    registry.owners.get? id = some poolId := by
  obtain ⟨ownerId, owner, hOwner, hPool, hStored⟩ := resource?_eq_some_iff.1 hFound
  have hNamed := (h.housed hPool hStored).pooled
  exact hOwner.trans (hNamed.symm.trans hPooled)

/-- A resource has a twin that was registered later. -/
def Twins (before after : Registry) (suffix volume twin : String) : Prop :=
  ∃ source poolId pool copy, before.resource? volume = some source ∧
    source.document.pool = some poolId ∧ before.pools.get? poolId = some pool ∧
    after.resource? twin = some copy ∧ source.TwinOf pool.document poolId suffix twin copy

/-- A twin that stays as it is stays a twin. -/
theorem Twins.congr (h : Twins before between suffix volume twin)
    (hSame : after.resource? twin = between.resource? twin) :
    Twins before after suffix volume twin := by
  obtain ⟨source, poolId, pool, copy, hSource, hPooled, hPool, hCopy, hTwin⟩ := h
  exact ⟨source, poolId, pool, copy, hSource, hPooled, hPool, hSame.trans hCopy, hTwin⟩

/-- A twin of what was there all along is a twin of what it was. -/
theorem Twins.of_keeps (h : Twins between after suffix volume twin) (hSound : before.Sound)
    (hKeeps : before.Keeps between) (hThere : (before.resource? volume).isSome = true) :
    Twins before after suffix volume twin := by
  obtain ⟨source, poolId, pool, copy, hSource, hPooled, hPool, hCopy, hTwin⟩ := h
  obtain ⟨earlier, hEarlier⟩ := Option.isSome_iff_exists.1 hThere
  obtain rfl := Option.some.inj ((hKeeps.resources hEarlier).symm.trans hSource)
  obtain ⟨ownerId, owner, -, hOwner, hStored⟩ := resource?_eq_some_iff.1 hEarlier
  obtain rfl := Option.some.inj ((hSound.housed hOwner hStored).pooled.symm.trans hPooled)
  obtain ⟨now, hNow, -, hDocument⟩ := hKeeps.pools hOwner
  obtain rfl := Option.some.inj (hNow.symm.trans hPool)
  exact ⟨earlier, ownerId, owner, copy, hEarlier, hPooled, hOwner, hCopy, hDocument ▸ hTwin⟩

end Registry

namespace World

variable {σ : Type} {agent : Agent σ} {world copied ready : World σ}
  {id volume suffix : String} {source : Resource}

/-- **A copy that is made ready is a twin**, and the agents are asked once, to allocate it. -/
theorem twins_of_prepared (h : world.Sound)
    (hSource : world.registry.resource? volume = some source)
    (hCopy : (copyResourceAs source.document.idText (source.document.pool.getD "") suffix).run
      world = (.ok id, copied))
    (hReady : (prepare agent id source.document.bound).run copied = (.ok (), ready)) :
    world.registry.Twins ready.registry suffix volume id ∧
      world.link.Received ready.link [.allocate id] := by
  obtain ⟨poolId, owner, -, hOwner, hStored⟩ := Registry.resource?_eq_some_iff.1 hSource
  have hHoused := h.registry.housed hOwner hStored
  have hNamed : source.document.idText = volume := by
    rw [ResourceDocument.idText, hHoused.named]
    rfl
  rw [hNamed, hHoused.pooled, Option.getD_some] at hCopy
  obtain ⟨pool, copy, hPool, hEntered, hFilled, hFree, hLink, hCopiedAs⟩ :=
    stored_of_copyResourceAs h hSource hCopy
  obtain rfl := hCopiedAs hHoused.pooled
  obtain ⟨bound, node, rest, hBound, -, hFound, hCalled⟩ :=
    of_run_prepare hEntered hFilled (by simp) hFree hReady
  have hId : bound.document.id = some id := by
    obtain ⟨bindings, -, hPure⟩ := Action.bind_eq_ok_iff.1 hBound
    obtain rfl := Except.ok.inj hPure
    rfl
  constructor
  · exact ⟨source, poolId, pool, _, hSource, hHoused.pooled, hPool, hFound, bound, _, hBound, rfl⟩
  · rw [hCalled, ← hLink]
    exact Link.received_calling (Resource.errand?_callOf hId _)

end World

end DiskFleet
