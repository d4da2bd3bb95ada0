import DiskFleet.Proofs.Engine.Recovery

/-!
# Operations that fail without a trace

Some operations need not take anything back when they fail, because nothing has happened by then, or
only a call to a node. For the registry these are all operations but a clone, and for an image those
that edit its document and those that are handed on to a node. No recovery setting plays a part.

## Main results

* `World.failed_request_unchanged`: operations on pools and resources that fail;
* `Engine.failed_edit_unchanged`: commands for an image that fail, or are handed on.
-/

namespace DiskFleet

namespace ImageCommand

/-- The command edits the document of the image without the help of a node. -/
def EditsAlone : ImageCommand → Prop
  | .add _ | .remove _ | .config .. => True
  | _ => False

/-- The command is handed on to a node as it is. -/
def HandsOn : ImageCommand → Prop
  | .commit _ | .snapshot _ | .info _ | .check _ | .restore _ => True
  | _ => False

end ImageCommand

namespace Engine

/-! ## Commands for an image -/

variable {σ : Type} {agent : Agent σ} {engine after : Engine σ} {id : String}
  {command : ImageCommand} {result : Except Failure Json}

/-- **An edit that fails has changed nothing and called nobody**, and what is handed on to a node
changes no image and nothing in the registry, whether it succeeds or fails. -/
theorem failed_edit_unchanged (hOwned : engine.Owned)
    (hRun : (updateImage agent id command).run engine = (result, after)) :
    (command.EditsAlone → ∀ failure, result = .error failure →
      after.images = engine.images ∧ after.world.registry = engine.world.registry ∧
        after.world.link = engine.world.link) ∧
    (command.HandsOn →
      after.images = engine.images ∧ after.world.registry = engine.world.registry) := by
  constructor
  · intro hEdits failure hFailed
    subst hFailed
    refine updateImage_leaves (P := fun world => world.registry = engine.world.registry ∧
      world.link = engine.world.link) hRun ⟨rfl, rfl⟩ ?_
    intro image edited world hImage hUpdate
    have hFormed := hOwned.wellFormed hImage
    cases command with
    | add args => exact Session.add_refused hFormed hOwned.sound hUpdate
    | remove name =>
        cases Session.remove_refused agent hFormed hUpdate
        exact ⟨rfl, rfl, rfl⟩
    | config name owner =>
        cases Session.config_refused hUpdate
        exact ⟨rfl, rfl, rfl⟩
    | _ => exact hEdits.elim
  · intro hHandsOn
    refine updateImage_leaves (P := fun world => world.registry = engine.world.registry) hRun rfl ?_
    intro image edited world _ hUpdate
    have hAlong : (Session.update agent engine.settings command).Along Session.Untouched := by
      cases command with
      | commit args => exact Session.callNode_untouched agent _ _
      | snapshot args => exact Session.callNode_untouched agent _ _
      | info args => exact Session.callNode_untouched agent _ _
      | check args => exact Session.callNode_untouched agent _ _
      | restore args => exact Session.restore_untouched agent args
      | _ => exact hHandsOn.elim
    have hUntouched := hAlong ⟨image, engine.world⟩
    rw [hUpdate] at hUntouched
    exact ⟨hUntouched.image, hUntouched.registry⟩

/-- A pool that only one of two nodes reaches. -/
def nearPool : PoolDocument := { volumePool with name := "near", access := ["a"] }

/-- An image that is bound to both nodes, and that pool. -/
def makingNear : List Operation :=
  [.createPool volumePool, .createPool nearPool, .createImage (chainImage "base top")]

/-- The engine with them. -/
def near : Engine Unit :=
  makingNear.foldl (Engine.after .willing)
    (vacant (Cluster.ofNames ["a", "b"]) ImageSettings.default Supply.strokes ())

/-- A layer in that pool is to be used from both nodes. -/
def refusedAdd : Except Failure Json × Engine Unit :=
  (updateImage .willing "ii"
    (.add ⟨"new", .ofList [("image_size", "10"), ("image_pool_name", "near")], true, []⟩)).run near

/-- The node refuses to commit. -/
def refusedCommit : Except Failure Json × Engine Unit :=
  (updateImage (.refusingTo "commit") "ii" (.commit ∅)).run near

/-- The volume of the new layer is made and cannot be bound to the other node: it is gone again. The
commit leaves nothing but the call. -/
theorem failed_edit_unchanged_near :
    near.Owned ∧
    (∃ failure after, refusedAdd = (.error failure, after) ∧
      after.world.supply.ids = near.world.supply.ids + 1 ∧
      after.images = near.images ∧ after.world.registry = near.world.registry ∧
      after.world.link = near.world.link) ∧
    ∃ failure after, refusedCommit = (.error failure, after) ∧
      after.world.link.history.map (·.call.method) = ["update_image"] ∧
      after.images = near.images ∧ after.world.registry = near.world.registry := by
  have hCareful : ∀ engine : Engine Unit, ∀ operation ∈ makingNear, operation.Careful engine := by
    intro engine operation hOperation
    simp only [makingNear, List.mem_cons, List.not_mem_nil, or_false] at hOperation
    rcases hOperation with rfl | rfl | rfl
    · exact ⟨trivial, trivial⟩
    · exact ⟨trivial, trivial⟩
    · exact careful_createImage_chain engine
  have hOwned : near.Owned :=
    .of_run (vacant_vacant _ _ _ _) Supply.strokes_distinct (.of_list hCareful)
  have hAddFailed : refusedAdd.1.toOption.isNone = true := by decide +kernel
  have hDrawn : refusedAdd.2.world.supply.ids = near.world.supply.ids + 1 := by decide +kernel
  have hCommitFailed : refusedCommit.1.toOption.isNone = true := by decide +kernel
  have hCalls : refusedCommit.2.world.link.history.map (·.call.method) = ["update_image"] := by
    decide +kernel
  refine ⟨hOwned, ?_, ?_⟩
  · rcases hRun : refusedAdd with ⟨failure | out, after⟩
    · rw [hRun] at hDrawn
      obtain ⟨hImages, hRegistry, hLink⟩ :=
        (failed_edit_unchanged hOwned hRun).1 trivial failure rfl
      exact ⟨failure, after, rfl, hDrawn, hImages, hRegistry, hLink⟩
    · rw [hRun] at hAddFailed
      cases hAddFailed
  · rcases hRun : refusedCommit with ⟨failure | out, after⟩
    · rw [hRun] at hCalls
      obtain ⟨hImages, hRegistry⟩ := (failed_edit_unchanged hOwned hRun).2 trivial
      exact ⟨failure, after, rfl, hCalls, hImages, hRegistry⟩
    · rw [hRun] at hCommitFailed
      cases hCommitFailed

end Engine

namespace World

variable {σ : Type}

/-! ## Operations on the registry -/

/-- **An operation on pools or resources that fails leaves the whole registry as it was**, a clone
apart. Work on a resource that fails has made no call and failed for one of the listed reasons, or
has made one call and hands on its failure; the listed reasons always come before a call. -/
theorem failed_request_unchanged (agent : Agent σ) (world : World σ) :
    (∀ request failure after, (perform agent request).run world = (.error failure, after) →
      after.registry = world.registry) ∧
    (∀ id command,
      FailsBy agent (world.registry.Refuses id command) (updateResource agent id command) world) ∧
    ∀ id request,
      FailsBy agent (world.registry.RefusesRequest id request) (requestResource agent id request)
        world := by
  refine ⟨fun request failure after hRun => perform_spares agent request hRun, ?_, ?_⟩
  · exact fun id command => updateResource_failsBy agent id command world
  · exact fun id request => requestResource_failsBy agent id request world

/-- The world with an allocated volume on the one node. -/
def heldVolume : World Unit :=
  (Engine.makingVolume.foldl (Engine.after .willing) Engine.smallest).world

/-- The volume is to grow, but the node refuses. -/
def refusedGrowth : Except Failure Json × World Unit :=
  (requestResource (.refusingTo "resize") "i" (ResourceCommand.resize (.bytes 20)).toJson).run
    heldVolume

/-- The volume is to leave the node, but holds storage there. -/
def refusedUnbind : Except Failure Json × World Unit :=
  (requestResource .willing "i" (ResourceCommand.unbind []).toJson).run heldVolume

/-- The first fails by its call, the second by a rule. -/
theorem failed_request_unchanged_volume :
    (∃ failure after, refusedGrowth = (.error failure, after) ∧
      after.registry = heldVolume.registry ∧
      ∃ call, after = heldVolume.calling (.refusingTo "resize") call ∧
        (heldVolume.link.exchange (.refusingTo "resize") call).failure? = some failure) ∧
    ∃ failure after, refusedUnbind = (.error failure, after) ∧
      heldVolume.registry.RefusesRequest "i" (ResourceCommand.unbind []).toJson failure ∧
      after = heldVolume := by
  have hGrowthFailed : refusedGrowth.1.toOption.isNone = true := by decide +kernel
  have hUnbindFailed : refusedUnbind.1.toOption.isNone = true := by decide +kernel
  have hCalled : refusedGrowth.2.link.history.length = heldVolume.link.history.length + 1 := by
    decide +kernel
  have hQuiet : refusedUnbind.2.link.history.length = heldVolume.link.history.length := by
    decide +kernel
  constructor
  · rcases hRun : refusedGrowth with ⟨failure | out, after⟩
    · rw [hRun] at hCalled
      have hSame : after.registry = heldVolume.registry := by
        refine (failed_request_unchanged (.refusingTo "resize") heldVolume).1
          (.requestResource "i" (ResourceCommand.resize (.bytes 20)).toJson) failure after ?_
        exact Action.run_bind_error hRun
      rcases ((failed_request_unchanged (.refusingTo "resize") heldVolume).2.2 _ _).cases hRun with
        ⟨-, rfl⟩ | hCall
      · dsimp only at hCalled
        omega
      · exact ⟨failure, after, rfl, hSame, hCall⟩
    · rw [hRun] at hGrowthFailed
      cases hGrowthFailed
  · rcases hRun : refusedUnbind with ⟨failure | out, after⟩
    · rw [hRun] at hQuiet
      rcases ((failed_request_unchanged .willing heldVolume).2.2 _ _).cases hRun with
        hRefuses | ⟨call, rfl, -⟩
      · exact ⟨failure, after, rfl, hRefuses⟩
      · simp [calling] at hQuiet
    · rw [hRun] at hUnbindFailed
      cases hUnbindFailed

end World

end DiskFleet
