import DiskFleet.Proofs.Engine.Run
import DiskFleet.Proofs.Registry.Access
import DiskFleet.Proofs.Registry.Addressed

/-!
# Nodes along a run

A client that defines its pools in the engine and hands in definitions without bindings cannot make
the engine reach beyond the access list of a pool. In every state of a run the resources are bound
within these lists, the lists name declared nodes, and every call that was made went to the first
node that its resource, or its image, was bound to when it was made.

## Main results

* `access_contained`: where resources are bound and where calls were sent.
-/

namespace DiskFleet

/-- The engine enters no bindings by itself. -/
theorem World.Admission.of_unbound : World.Admission fun definition => definition.bindings = ∅ :=
  ⟨fun _ _ _ _ => rfl, fun _ hDefined => (ResourceClass.type_of_define hDefined).2.2⟩

namespace Engine

variable {σ : Type} {agent : Agent σ}

/-- The document of the pool was defined in the engine. -/
def Defines (engine : Engine σ) (document : PoolDocument) : Prop :=
  ∃ name kind params, engine.world.registry.definePool name kind params = .ok document

/-- The operation hands in no bindings, and pools as they were defined. -/
def Operation.Declared (engine : Engine σ) (operation : Operation) : Prop :=
  operation.Admitted (fun definition => definition.bindings = ∅) ∧ operation.Opens engine.Defines

/-- Nothing in an engine that was just made is out of bounds. -/
theorem Vacant.contained {engine : Engine σ} (h : engine.Vacant) :
    engine.world.registry.Contained := by
  constructor
  · intro poolId pool hPool
    rw [h.pools] at hPool
    cases hPool
  · intro poolId pool id resource hPool
    rw [h.pools] at hPool
    cases hPool

/-- A run with such operations, as moves of the world. -/
theorem course_of_declared {start engine : Engine σ} {declarations : List NodeDeclaration}
    {partition : List String}
    (hCluster : start.world.registry.cluster = .ofDeclarations declarations partition)
    (hRun : Run agent Operation.Declared start engine) :
    World.Course agent (fun definition => definition.bindings = ∅) (fun _ => True)
      (PoolDocument.Within · start.world.registry.cluster.nodeNames) start.world engine.world := by
  refine hRun.course .of_unbound fun reached operation hReached hDeclared => ⟨hDeclared.1, ?_⟩
  -- the cluster is still the one that the run began with
  have hSame : reached.world.registry.cluster = start.world.registry.cluster :=
    World.Course.cluster (hReached.moves .of_unbound fun _ _ h => h.1)
  cases operation with
  | createPool document =>
      obtain ⟨name, kind, params, hDefined⟩ := hDeclared.2
      have hWithin := Registry.within_of_definePool (hSame.trans hCluster) hDefined
      rwa [hSame] at hWithin
  | _ => trivial

/-- **The engine works within the access lists.** In every state of a run, the access list of each
pool names declared nodes and each resource is bound within the list of its pool. Every call of the
history was made in a move of the world, and addressed as the registry was at that moment: for a
resource to the first node that it was bound to, for an image to the first node that a volume of its
layers was bound to. -/
theorem access_contained {start engine : Engine σ} {declarations : List NodeDeclaration}
    {partition : List String} (hVacant : start.Vacant)
    (hCluster : start.world.registry.cluster = .ofDeclarations declarations partition)
    (hRun : Run agent Operation.Declared start engine) :
    (∀ poolId pool, engine.world.registry.pools.get? poolId = some pool →
      ∀ node ∈ pool.document.access, ∃ declaration ∈ declarations, declaration.name = node) ∧
    (∀ id pool resource, engine.world.registry.poolOf id = .ok pool →
      engine.world.registry.resource? id = some resource → ∀ node ∈ resource.document.bound,
        node ∈ pool.document.access ∧ ∃ declaration ∈ declarations, declaration.name = node) ∧
    ∀ i exchange, engine.world.link.history[i]? = some exchange →
      ∃ moment next, World.MadeIn agent (fun definition => definition.bindings = ∅) (fun _ => True)
          (PoolDocument.Within · start.world.registry.cluster.nodeNames) start.world engine.world i
          moment next ∧
        moment.registry.Addressed exchange.call := by
  have hCourse := course_of_declared hCluster hRun
  have hContained : engine.world.registry.Contained :=
    World.contained_course hVacant.contained (fun _ h => h) (fun _ h => h) hCourse
  have hDeclared : ∀ {poolId pool}, engine.world.registry.pools.get? poolId = some pool →
      ∀ node ∈ pool.document.access, ∃ declaration ∈ declarations, declaration.name = node := by
    intro poolId pool hPool node hNode
    have hMem := hContained.access hPool hNode
    rw [World.Course.cluster hCourse, hCluster] at hMem
    exact Cluster.mem_nodeNames_ofDeclarations.1 hMem
  refine ⟨fun _ _ => hDeclared, ?_, ?_⟩
  · intro id pool resource hPoolOf hResource node hNode
    obtain ⟨poolId, hOwner, hPool⟩ := Registry.poolOf_eq_ok_iff.1 hPoolOf
    rw [Registry.resource?_eq hOwner hPool] at hResource
    have hAccess := hContained.bound hPool hResource hNode
    exact ⟨hAccess, hDeclared hPool node hAccess⟩
  · intro i exchange hMade
    refine World.Course.addressed hCourse ?_ hMade
    rw [hVacant.history]
    exact Nat.zero_le i

/-! ## A clone on two nodes -/

/-- Two nodes, the second of which is also known as "fast". -/
def twoNodes : List NodeDeclaration := [⟨"m", []⟩, ⟨"n", ["fast"]⟩]

/-- An engine on them before anything was made. -/
def paired : Engine Unit :=
  vacant (.ofDeclarations twoNodes []) ImageSettings.default Supply.strokes ()

/-- A pool for volume files that both nodes reach. -/
def sharedPool : PoolDocument :=
  { id := none, name := "fs", kind := .filesystem, access := ["n", "m"]
    spec := { PoolSpec.none with filesystem := some ⟨"/v"⟩ } }

theorem definePool_shared :
    paired.world.registry.definePool "fs" .filesystem
      (.ofList [("access_nodes", "fast m"), ("path", "/v")]) = .ok sharedPool := by
  decide +kernel

/-- An image whose storage is made, and a clone of it. -/
def sharing : List Operation :=
  [.createImage (chainImage "base top"), .updateImage "i" (.create none ∅), .cloneImage "i"]

theorem declared_sharing (engine : Engine Unit) :
    ∀ operation ∈ sharing, operation.Declared engine := by
  have hUnbound : ∀ entry ∈ (chainImage "base top").layers.entries,
      (entry.2.definition.map (·.bindings)).getD ∅ = ∅ := by decide +kernel
  intro operation hOperation
  simp only [sharing, List.mem_cons, List.not_mem_nil, or_false] at hOperation
  rcases hOperation with rfl | rfl | rfl
  · refine ⟨fun name layer hLayer definition hDefinition => ?_, trivial⟩
    have hEntry := hUnbound (name, layer) (Table.mem_entries_iff.2 hLayer)
    rwa [hDefinition] at hEntry
  · exact ⟨trivial, trivial⟩
  · exact ⟨trivial, trivial⟩

/-- All work for the image and for its clone is done on the first of both nodes. -/
theorem access_contained_clone :
    ∃ engine, Run .willing Operation.Declared paired engine ∧
      (engine.world.link.history.map fun exchange => (exchange.call.node, exchange.call.method)) =
        [("m", "allocate"), ("m", "allocate"), ("m", "update_image"), ("m", "allocate"),
          ("m", "allocate"), ("m", "update_image")] ∧
      ∀ id pool resource, engine.world.registry.poolOf id = .ok pool →
        engine.world.registry.resource? id = some resource → ∀ node ∈ resource.document.bound,
          node ∈ pool.document.access ∧ ∃ declaration ∈ twoNodes, declaration.name = node := by
  have hPool : Run .willing Operation.Declared paired
      (paired.after .willing (.createPool sharedPool)) :=
    Run.start.step ⟨trivial, _, _, _, definePool_shared⟩
  have hRun := hPool.trans (.of_list declared_sharing)
  refine ⟨_, hRun, by decide +kernel, ?_⟩
  exact (access_contained (vacant_vacant _ _ _ _) rfl hRun).2.1

end Engine

end DiskFleet
