import DiskFleet.Proofs.Engine.Registry
import DiskFleet.Proofs.Registry.Storage

/-!
# Storage along a run

As long as a client hands in nothing but definitions, the engine and the agents agree about which
storage there is, in every state that a run reaches. This is where the record kept by
`DiskFleet.Proofs.Registry.Storage` is read off for the engine.

The one thing that a definition may not claim is storage of its own; what else it says does not
matter.

## Main results

* `Engine.storage_faithful`: storage is made and freed in turns, `allocated` says which of the two
  came last, what is no longer registered holds none, and sizes are those that were sent.
-/

namespace DiskFleet

/-- A document that describes a resource that is yet to be made: it holds no storage and is bound
nowhere. -/
def ResourceDocument.IsDefinition (document : ResourceDocument) : Prop :=
  document.allocated = false ∧ document.bindings = ∅

/-- The engine makes no other definitions by itself. -/
theorem World.Admission.of_isDefinition : World.Admission ResourceDocument.IsDefinition := by
  constructor
  · intro resource destination suffix poolId
    exact ⟨rfl, rfl⟩
  · intro cls name params definition poolId hDefined
    obtain ⟨-, hAllocated, hBindings⟩ := ResourceClass.type_of_define hDefined
    exact ⟨hAllocated, hBindings⟩

/-- In a log that does not end with an allocation, every allocation is followed by a release. -/
theorem StorageEvent.Alternates.followed {log : List StorageEvent} (h : Alternates log)
    (hLast : log.getLast? ≠ some .allocated) {i : Nat} (hEvent : log[i]? = some .allocated) :
    log[i + 1]? = some .released := by
  have hEven : i % 2 = 0 := (h i _ hEvent).1 rfl
  have hLess : i < log.length := (List.getElem?_eq_some_iff.1 hEvent).1
  rw [Ne, h.last_iff] at hLast
  have hNext : i + 1 < log.length := by omega
  rw [List.getElem?_eq_getElem hNext]
  cases hOther : log[i + 1] with
  | released => rfl
  | allocated =>
      have hTurn := (h (i + 1) .allocated (by rw [List.getElem?_eq_getElem hNext, hOther])).1 rfl
      omega

namespace Engine

variable {σ : Type} {agent : Agent σ}

/-- Nothing is registered in an engine that was just made. -/
theorem Vacant.faithful {engine : Engine σ} (h : engine.Vacant) : engine.world.Faithful := by
  refine .of_vacant (fun id => Registry.resource?_of_not_owned ?_) h.history
  rw [h.owners]
  rfl

/-- **The engine stays faithful to what the agents accepted**, in every state that can be reached
with definitions. -/
theorem storage_faithful {start engine : Engine σ} (hVacant : start.Vacant)
    (hDistinct : start.world.supply.Distinct)
    (hRun : Run agent (fun _ operation => operation.Admitted ResourceDocument.IsDefinition) start
      engine) (id : String) :
    StorageEvent.Alternates (storageLog id engine.world.link.history) ∧
    (∀ resource, engine.world.registry.resource? id = some resource →
      (resource.document.allocated = true ↔
        (storageLog id engine.world.link.history).getLast? = some .allocated)) ∧
    (engine.world.registry.resource? id = none →
      ∀ i, (storageLog id engine.world.link.history)[i]? = some .allocated →
        (storageLog id engine.world.link.history)[i + 1]? = some .released) ∧
    ∀ resource spec, engine.world.registry.resource? id = some resource →
      resource.document.type = .volume → resource.document.spec = .volume spec →
      resource.document.allocated = true →
      (∀ exchange ∈ engine.world.link.history, exchange.reportedSize? id = none) →
      (sentSizes id engine.world.link.history).getLast? = some spec.size := by
  have hMoves := hRun.moves .of_isDefinition fun _ _ hAdmitted => hAdmitted
  have hStart := hVacant.sound hDistinct
  have hSound := hStart.moves hMoves
  have hTracks : Tracks id (engine.world.registry.resource? id) engine.world.link.history :=
    hVacant.faithful.moves hStart (fun _ hDefinition => hDefinition.1) hMoves id
  refine ⟨hTracks.alternates, ?_, ?_, ?_⟩
  · intro resource hFound
    rw [hTracks.held]
    constructor
    · intro hHeld
      exact ⟨resource, hFound, hHeld⟩
    · rintro ⟨other, hOther, hHeld⟩
      obtain rfl := Option.some.inj (hFound.symm.trans hOther)
      exact hHeld
  · intro hNone i hEvent
    refine hTracks.alternates.followed ?_ hEvent
    rw [Ne, hTracks.held]
    rintro ⟨resource, hFound, -⟩
    rw [hNone] at hFound
    cases hFound
  · intro resource spec hFound hType hSpec hHeld hQuiet
    obtain ⟨poolId, pool, -, hPool, hResource⟩ := Registry.resource?_eq_some_iff.1 hFound
    obtain ⟨cls, -, hBehaviour, -⟩ := (hSound.registry.housed hPool hResource).supported
    rw [← knownSizes_eq_sentSizes hQuiet]
    exact hTracks.sized hFound (hBehaviour.trans hType) hSpec hHeld

/-- The smallest engine hands in definitions only; its volume has storage. -/
theorem storage_faithful_volume :
    (∀ operation ∈ makingVolume, operation.Admitted ResourceDocument.IsDefinition) ∧
      storageLog "i" (makingVolume.foldl (after .willing) smallest).world.link.history =
        [.allocated] ∧
      StorageEvent.Alternates
        (storageLog "i" (makingVolume.foldl (after .willing) smallest).world.link.history) := by
  have hAdmitted : ∀ operation ∈ makingVolume,
      operation.Admitted ResourceDocument.IsDefinition := by
    simp [makingVolume, Operation.Admitted, ResourceDocument.IsDefinition, volumeDefinition]
  refine ⟨hAdmitted, by decide, ?_⟩
  exact (storage_faithful (vacant_vacant _ _ _ _) Supply.strokes_distinct
    (.of_list fun _ => hAdmitted) "i").1

end Engine

end DiskFleet
