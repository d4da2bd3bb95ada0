import DiskFleet.Proofs.Engine.Run
import DiskFleet.Proofs.Image.Define
import DiskFleet.Proofs.Registry.Release

/-!
# Commands for one resource

A client works on a resource by one command after the other, in any order and with any nodes, and
each of them may be refused or fail. As long as no `unbind` names a node twice, the storage stays
within reach: a resource that was made from what its class defines keeps a bound node while it is
allocated, and a release is sent there.

The restriction is needed. `unbind` counts its targets, so that the only bound node named twice
looks like two nodes, one more than there are, and is taken off although the resource is allocated.
Then no node is left to release it through.

## Main results

* `storage_within_reach`: an allocated resource is bound, and can be released;
* `storage_out_of_reach`: not so if a node is named twice.
-/

namespace DiskFleet

namespace World

variable {σ : Type} {agent : Agent σ} {world created : World σ} {id : String}

/-- The world after commands for one resource, in turn, whatever each of them answers. -/
def commanding (agent : Agent σ) (id : String) (world : World σ)
    (commands : List ResourceCommand) : World σ :=
  commands.foldl (fun world command => ((updateResource agent id command).run world).2) world

/-- Commands that name their nodes once keep a resource anchored. -/
theorem anchors_commanding (agent : Agent σ) {commands : List ResourceCommand}
    (hOnce : ∀ command ∈ commands, command.NamesOnce) :
    ∀ {world : World σ}, world.registry.Anchors id →
      (world.commanding agent id commands).registry.Anchors id := by
  induction commands with
  | nil => exact fun h => h
  | cons command rest ih =>
      intro world h
      have hAfter := anchors_updateResource agent (hOnce command List.mem_cons_self) h
      exact ih (fun other hOther => hOnce other (List.mem_cons_of_mem _ hOther)) hAfter

/-- A release of the resource is sent to `node` with the documents of the resource and of its pool,
and frees the storage if the agent there accepts it. -/
def ReleasableThrough (agent : Agent σ) (world : World σ) (id : String) (resource : Resource)
    (node : String) : Prop :=
  ∃ pool, world.registry.poolOf id = .ok pool ∧
    ∀ args, pool.outside (.release args) = [] →
      ∃ call : Call, call.node = node ∧ call.service = Call.resourceService ∧
        call.method = "release" ∧
        call.args = .obj [("arguments", args.toJson), ("pool", pool.document.toJson),
          ("resource", resource.document.toJson)] ∧
        ((updateResource agent id (.release args)).run world).2.link =
          world.link.calling agent call ∧
        ((world.link.exchange agent call).accepted = true →
          ((updateResource agent id (.release args)).run world).1 = .ok .null ∧
          ((updateResource agent id (.release args)).run world).2.registry.resource? id =
            some resource.released)

theorem releasableThrough_of_bound {resource : Resource} {node : String} {rest : List String}
    (agent : Agent σ) (hFound : world.registry.resource? id = some resource)
    (hHeld : resource.document.allocated = true) (hBound : resource.document.bound = node :: rest) :
    world.ReleasableThrough agent id resource node := by
  obtain ⟨poolId, pool, hOwner, hPool, hStored⟩ := Registry.resource?_eq_some_iff.1 hFound
  refine ⟨pool, Registry.poolOf_eq_ok_iff.2 ⟨poolId, hOwner, hPool⟩, fun args hInside => ?_⟩
  obtain ⟨hCalled, hFreed⟩ :=
    Resource.run_release_of_held agent pool.document args world.link hHeld hBound
  rw [run_updateResource_of_inside hOwner hPool hStored hInside]
  refine ⟨_, rfl, rfl, rfl, rfl, hCalled, fun hAccepted => ?_⟩
  rw [hFreed hAccepted]
  exact ⟨rfl, (resource?_working hOwner hPool _ id).trans (if_pos rfl)⟩

/-- **The storage of a resource stays within reach.** Whatever commands it gets after it was made,
as long as none names a node twice that it unbinds: if it is allocated, it is bound to a node that
it can be released through. -/
theorem storage_within_reach (agent : Agent σ) {cls : ResourceClass} {name : String}
    {params : Params} {definition : ResourceDocument} {poolId : String}
    {commands : List ResourceCommand}
    (hDefined : cls.define name params = .ok definition)
    (hCreated : (createResource { definition with pool := some poolId }).run world =
      (.ok id, created))
    (hOnce : ∀ command ∈ commands, command.NamesOnce) :
    ∃ resource, (created.commanding agent id commands).registry.resource? id = some resource ∧
      (resource.document.allocated = true →
        ∃ node ∈ resource.document.bound,
          (created.commanding agent id commands).ReleasableThrough agent id resource node) := by
  obtain ⟨made, hMade, hAllocated, -⟩ := resource?_of_createResource hCreated
  have hFree : made.document.allocated = false :=
    hAllocated.trans (ResourceClass.type_of_define hDefined).2.1
  have hAnchored : made.Anchored := by
    intro hHeld
    rw [hFree] at hHeld
    cases hHeld
  obtain ⟨resource, hFound, hStill⟩ := anchors_commanding agent hOnce ⟨made, hMade, hAnchored⟩
  refine ⟨resource, hFound, fun hHeld => ?_⟩
  obtain ⟨node, rest, hBound⟩ := List.exists_cons_of_ne_nil (hStill hHeld)
  exact ⟨node, hBound ▸ List.mem_cons_self, releasableThrough_of_bound agent hFound hHeld hBound⟩

/-! ## A volume on one node -/

/-- What the class of volume files defines for ten bytes. -/
def diskDefinition : ResourceDocument :=
  { Engine.volumeDefinition with
    pool := none
    spec := .volume { size := 10, allocation := none, uri := none, filename := some "disk.qcow2" } }

theorem define_disk :
    (ResourceClass.volume .file).define "disk" (.ofList [("image_size", "10")]) =
      .ok diskDefinition := by rfl

/-- The smallest engine's world with that volume. -/
def diskWorld : World Unit :=
  ((createResource { diskDefinition with pool := some "" }).run Engine.pooled.world).2

theorem createResource_disk :
    (createResource { diskDefinition with pool := some "" }).run Engine.pooled.world =
      (.ok "i", diskWorld) := by rfl

/-- That volume bound, allocated and unbound from some nodes. -/
def diskUnboundFrom (nodes : List String) : World Unit :=
  diskWorld.commanding .willing "i" [.bind ["n"], .allocate ∅, .unbind nodes]

/-- Told to leave a node that it is not bound to, the volume stays where it is. -/
theorem storage_within_reach_disk :
    (∀ command ∈ [ResourceCommand.bind ["n"], .allocate ∅, .unbind ["m"]], command.NamesOnce) ∧
      ∃ resource, (diskUnboundFrom ["m"]).registry.resource? "i" = some resource ∧
        resource.document.allocated = true ∧
        ∃ node ∈ resource.document.bound,
          (diskUnboundFrom ["m"]).ReleasableThrough .willing "i" resource node := by
  have hOnce : ∀ command ∈ [ResourceCommand.bind ["n"], .allocate ∅, .unbind ["m"]],
      command.NamesOnce := by
    simp [ResourceCommand.NamesOnce]
  obtain ⟨resource, hFound, hReach⟩ :=
    storage_within_reach .willing define_disk createResource_disk hOnce
  have hHeld : ((diskUnboundFrom ["m"]).registry.resource? "i").map (·.document.allocated) =
      some true := by decide +kernel
  have hAllocated : resource.document.allocated = true := by
    rw [diskUnboundFrom, hFound] at hHeld
    exact Option.some.inj hHeld
  exact ⟨hOnce, resource, hFound, hAllocated, hReach hAllocated⟩

/-- **A node that is named twice takes the storage out of reach**: the only binding of an allocated
volume goes, and it cannot be released any more. -/
theorem storage_out_of_reach :
    ∃ resource, (diskUnboundFrom ["n", "n"]).registry.resource? "i" = some resource ∧
      resource.document.allocated = true ∧ resource.document.bound = [] ∧
      ((updateResource .willing "i" (.release ∅)).run (diskUnboundFrom ["n", "n"])).1 =
        .error (.illegalTransition (.notBound "i" "released")) := by
  have hStranded : ((diskUnboundFrom ["n", "n"]).registry.resource? "i").map
      (fun resource => (resource.document.allocated, resource.document.bound)) =
        some (true, []) := by decide +kernel
  obtain ⟨resource, hFound, hState⟩ := Option.map_eq_some_iff.1 hStranded
  obtain ⟨hHeld, hBound⟩ := Prod.mk.inj hState
  exact ⟨resource, hFound, hHeld, hBound, by rfl⟩

end World

end DiskFleet
