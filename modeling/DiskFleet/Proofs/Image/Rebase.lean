import DiskFleet.Proofs.Image.Compensation
import DiskFleet.Proofs.Image.Edit
import DiskFleet.Proofs.Registry.Without

/-!
# A rebase that is taken back

`rebase` adds a layer outside the chain, makes its storage and has the node tie it to the old top.
Where one of these fails, and the recovery setting asks for it, the new layer is dropped again with
its volume. Then nothing of it is left: neither in the document, where the layer was new and no
other one points to it, nor in the registry, where all that was done concerned the new volume.

## Main results

* `Layer.registry_createObject_error`: a layer object that cannot be made leaves the registry as it
  was;
* `Session.tie_worksOn`: making the storage of a layer and tying it works on its volume only;
* `Session.rebase_undone`: a rebase that fails under rollback changes nothing.
-/

namespace DiskFleet

variable {σ : Type} {agent : Agent σ} {id : String}

namespace Layer

variable {layer : Layer}

section createObject

variable {definition : ResourceDocument} {nodes : List String} {world after : World σ}

/-- **A layer object that cannot be made leaves the registry as it was.** -/
theorem registry_createObject_error (h : world.Sound)
    (hDefinition : layer.definition = some definition) (hFree : definition.allocated = false)
    (hUnbound : definition.bindings = ∅) {failure : Failure}
    (hRun : (layer.createObject agent nodes).run world = (.error failure, after)) :
    after.registry = world.registry := by
  simp only [createObject, hDefinition, Action.run_bind, Action.run_attempt] at hRun
  rcases hCreate : (World.createResource definition).run world with ⟨refusal | volume, created⟩
  · rw [hCreate] at hRun
    cases hRun
    exact World.registry_createResource_error hCreate
  · rw [hCreate] at hRun
    dsimp only at hRun
    rcases hBind : (World.updateResource agent volume (.bind nodes)).run created with
      ⟨refusal | out, bound⟩
    · -- the volume is not bound yet, so that it holds no storage and can be destroyed
      obtain ⟨hSound, hWithout, resource, hFound, hHeld⟩ :=
        World.update_created h hFree hUnbound hCreate hBind
      obtain ⟨next, hDestroy, -⟩ := World.run_destroyResource_of_free hFound hHeld
      rw [hBind] at hRun
      simp only [Action.run_bind, Action.run_attempt, hDestroy, Action.run_fail] at hRun
      cases hRun
      exact (World.registry_destroyResource hSound hDestroy).trans hWithout
    · rw [hBind] at hRun
      cases hRun

/-- **A layer object that is made stands on a new volume**, without which the registry is as it
was. -/
theorem without_createObject (h : world.Sound) (hDefinition : layer.definition = some definition)
    (hFree : definition.allocated = false) (hUnbound : definition.bindings = ∅) {made : Layer}
    (hRun : (layer.createObject agent nodes).run world = (.ok made, after)) :
    made.volume = some world.supply.nextId ∧
      after.registry.without world.supply.nextId = world.registry ∧
      after.registry.Anchors world.supply.nextId := by
  rcases of_createObject hRun with ⟨hNone, -, -⟩ |
    ⟨carried, id, created, out, bound, hCarried, hCreate, hBind, rfl, rfl⟩
  · rw [hDefinition] at hNone
    cases hNone
  · obtain rfl : definition = carried := Option.some.inj (hDefinition.symm.trans hCarried)
    obtain ⟨-, hWithout, resource, hFound, hHeld⟩ :=
      World.update_created h hFree hUnbound hCreate hBind
    have hAnchored : resource.Anchored := by
      intro hAllocated
      rw [hHeld] at hAllocated
      cases hAllocated
    exact ⟨rfl, hWithout, resource, hFound, hAnchored⟩

end createObject

/-- Allocating a layer works on its volume only. -/
theorem allocate_worksOn (agent : Agent σ) (hVolume : layer.volume = some id) :
    (layer.allocate agent).Along (World.WorksOn id) := by
  have hId : layer.volumeOf = .ok id := by simp only [volumeOf, hVolume]
  intro world
  simp only [allocate, Action.run_bind, Action.run_liftM, hId]
  refine Action.along_bind (R := World.WorksOn id) (fun world => refl world) (fun held => ?_) world
  split
  · exact Action.along_pure _
  · exact Action.along_bind (World.updateResource_worksOn agent id trivial)
      fun _ => Action.along_pure _

/-- What is allocated is the volume of the layer. -/
theorem volume_of_allocate {world after : World σ} {volume : String}
    (h : (layer.allocate agent).run world = (.ok (some volume), after)) :
    layer.volume = some volume := by
  rcases run_allocate_cases agent layer world with
    ⟨failure, _, hRun, -⟩ | ⟨_, -, -, hRun⟩ | ⟨other, _, _, hVolume, -, hRun, -⟩
  · rw [hRun] at h
    cases h
  · rw [hRun] at h
    cases h
  · rw [hRun] at h
    cases h
    exact hVolume

end Layer

namespace Session

variable {session : Session σ} {name : String} {layer : Layer}

/-- The document stays as it is, and only one resource was worked on. -/
def WorksOn (id : String) (before after : Session σ) : Prop :=
  after.image = before.image ∧ World.WorksOn id before.world after.world

instance : IsPreorder (Session σ) (WorksOn id) where
  refl session := ⟨rfl, refl session.world⟩
  trans _ _ _ first second :=
    ⟨second.1.trans first.1, IsTrans.trans _ _ _ first.2 second.2⟩

theorem onWorld_worksOn {α : Type} {action : Action (World σ) α}
    (h : action.Along (World.WorksOn id)) : (onWorld action).Along (WorksOn id) :=
  Action.along_within h fun _ _ hWorld => ⟨rfl, hWorld⟩

theorem callNode_worksOn (agent : Agent σ) (command : String) (args : Json) :
    (callNode agent command args).Along (WorksOn id) := by
  intro session
  obtain ⟨result, after, hRun, hSame⟩ :=
    registry_run_callNode agent command args session.image session.world
  rw [hRun]
  refine ⟨rfl, ?_, ?_⟩
  · rw [hSame]
  · rw [hSame]
    exact fun h => h

theorem releaseVolumes_worksOn (agent : Agent σ) {volumes : List String}
    (h : ∀ volume ∈ volumes, volume = id) :
    (releaseVolumes agent volumes).Along (WorksOn id) := by
  apply Action.along_forEach
  intro volume hVolume
  rw [h volume hVolume]
  have hRelease : (World.updateResource agent id (.release ∅)).Along (World.WorksOn id) :=
    World.updateResource_worksOn agent id trivial
  exact Action.along_bind (Action.along_attempt (onWorld_worksOn hRelease))
    fun _ => Action.along_pure _

/-- The loop over one layer. -/
theorem run_allocateLayers_single (agent : Agent σ)
    (hLayer : session.image.layers.get? name = some layer) :
    (allocateLayers agent [] [name]).run session =
      (((layer.allocate agent).run session.world).1.map Option.toList,
        ⟨session.image, ((layer.allocate agent).run session.world).2⟩) := by
  rw [run_allocateLayers_cons agent hLayer]
  rcases (layer.allocate agent).run session.world with ⟨_ | _ | _, _⟩ <;> rfl

/-- Making the storage of one layer works on its volume only. -/
theorem create_worksOn (agent : Agent σ) (extra : Arguments)
    (hLayer : session.image.layers.get? name = some layer) (hVolume : layer.volume = some id) :
    WorksOn id session ((create agent (some name) extra).run session).2 := by
  apply Action.rel_run_bind (refl session)
  intro names after hAsk
  obtain rfl : session = after := congrArg Prod.snd hAsk
  have hTargets : session.image.targets (some name) false = .ok names := congrArg Prod.fst hAsk
  obtain rfl : names = [name] := (of_targets_some hTargets).1
  have hAllocated : WorksOn id session ((allocateLayers agent [] [name]).run session).2 := by
    rw [run_allocateLayers_single agent hLayer]
    exact ⟨rfl, Layer.allocate_worksOn agent hVolume session.world⟩
  apply Action.rel_run_bind hAllocated
  intro volumes after hMade
  have hOwn : ∀ volume ∈ volumes, volume = id := by
    rw [run_allocateLayers_single agent hLayer] at hMade
    rcases hRun : (layer.allocate agent).run session.world with ⟨failure | made, next⟩
    · rw [hRun] at hMade
      cases hMade
    · rw [hRun] at hMade
      cases hMade
      intro volume hMem
      obtain rfl : made = some volume := Option.mem_toList.1 hMem
      exact Option.some.inj ((Layer.volume_of_allocate hRun).symm.trans hVolume)
  refine Action.along_bind (Action.along_attempt (callNode_worksOn agent _ _)) (fun result => ?_)
    after
  cases result with
  | ok out => exact Action.along_pure _
  | error failure =>
      exact Action.along_bind (releaseVolumes_worksOn agent hOwn) fun _ => Action.along_fail _

/-- **Making the storage of a layer and tying it works on its volume only.** -/
theorem tie_worksOn (agent : Agent σ) (source : String) (extra : Arguments)
    (hLayer : session.image.layers.get? name = some layer) (hVolume : layer.volume = some id) :
    WorksOn id session ((tie agent source name extra).run session).2 :=
  Action.rel_run_bind (create_worksOn agent ∅ hLayer hVolume)
    fun _ after _ => callNode_worksOn agent _ _ after

/-- The session that tying ends in, with whatever result. -/
theorem of_run_tie (hSound : session.world.Sound)
    (hLayer : session.image.layers.get? name = some layer) (hVolume : layer.volume = some id)
    {source : String} {extra : Arguments} {result : Except Failure Json} {after : Session σ}
    (hRun : (tie agent source name extra).run session = (result, after)) :
    after.image = session.image ∧ after.world.Sound ∧
      World.WorksOn id session.world after.world := by
  have hWorks := tie_worksOn agent source extra hLayer hVolume
  have hMoves : Working agent (fun _ => True) (fun _ => False) session
      ((tie agent source name extra).run session).2 := tie_working source name extra session
  rw [hRun] at hWorks hMoves
  exact ⟨hWorks.1, hSound.moves hMoves.2, hWorks.2⟩

/-! ## Rebase -/

/-- A layer that was placed under a new name is taken off again, and nothing is left of it. -/
theorem withoutLayer_putLayer_new {image : Image} (h : image.WellFormed)
    (hNew : image.layers.contains name = false) (layer : Layer) :
    (image.putLayer name layer).withoutLayer name = image := by
  have hErased : image.layers.erase name = image.layers := Table.erase_of_not_contains hNew
  have hPointers : image.layers.mapValues (fun layer =>
      if layer.backup = some name then { layer with backup := none } else layer) =
        image.layers := by
    apply Table.mapValues_eq_self
    intro other stored hStored
    exact if_neg (h.backup_ne_of_new hNew hStored)
  rw [withoutLayer_putLayer]
  simp only [Image.withoutLayer, Image.forgetBackup, hErased, hPointers]

/-- Dropping a layer takes it off and erases its volume, if that is anchored. -/
theorem run_dropLayer_of_anchored (hFrees : agent.Frees) {image : Image} {world : World σ}
    (h : world.Sound) (hLayer : image.layers.get? name = some layer)
    (hVolume : layer.volume = some id) (hAnchors : world.registry.Anchors id) :
    ∃ after, (dropLayer agent name).run ⟨image, world⟩ =
        (.ok (), ⟨image.withoutLayer name, after⟩) ∧
      after.registry = world.registry.without id := by
  obtain ⟨after, hDiscard, hErased⟩ := World.run_discard_of_anchored hFrees h hAnchors
  refine ⟨after, ?_, hErased⟩
  simp only [dropLayer, Action.run_bind, Action.run_gets, hLayer, hVolume, onWorld,
    Action.run_within, hDiscard, modifyImage, Action.run_modify]

/-- Adding a layer changes nothing, or gives the layer a new volume without which the registry is
as it was. -/
theorem add_besides (agent : Agent σ) (hWellFormed : session.image.WellFormed)
    (hSound : session.world.Sound) (settings : ImageSettings) (args : AddArguments) :
    (∃ failure next, (add agent settings args).run session =
        (.error failure, ⟨session.image, next⟩) ∧
      next.registry = session.world.registry) ∨
    ∃ out made next, (add agent settings args).run session =
        (.ok out, ⟨if args.chained then session.image.stacked args.target made
          else session.image.putLayer args.target made, next⟩) ∧
      session.image.layers.contains args.target = false ∧
      made.volume = some session.world.supply.nextId ∧ next.Sound ∧
      next.registry.without session.world.supply.nextId = session.world.registry ∧
      next.registry.Anchors session.world.supply.nextId := by
  rcases run_add_cases agent hWellFormed settings args with
    ⟨failure, hRun⟩ | ⟨nodes, params, layer, hNew, hDefine, hMaking⟩
  · exact .inl ⟨failure, session.world, hRun, rfl⟩
  obtain ⟨-, -, -, -, definition, volumeParams, hCarried, hDefined⟩ := Layer.of_define hDefine
  obtain ⟨poolId, pool, cls, defined, -, -, hClass, rfl⟩ := Registry.of_defineResource hDefined
  obtain ⟨-, hFree, hUnbound⟩ := ResourceClass.type_of_define hClass
  rcases hMaking with ⟨failure, next, hMake, hRun⟩ | ⟨made, out, next, hMake, hRun⟩
  · have hSame := Layer.registry_createObject_error hSound hCarried hFree hUnbound hMake
    exact .inl ⟨failure, next, hRun, hSame⟩
  · obtain ⟨hVolume, hWithout, hAnchors⟩ :=
      Layer.without_createObject hSound hCarried hFree hUnbound hMake
    have hNextSound : next.Sound := by
      have hAdmitted : layer.Admitted fun _ => True := fun _ _ => trivial
      have hMoves : World.Moves agent (fun _ => True) (· = session.world.supply.nextId)
          session.world ((layer.createObject agent nodes).run session.world).2 :=
        Layer.createObject_moves hAdmitted nodes session.world
      rw [hMake] at hMoves
      exact hSound.moves hMoves
    exact .inr ⟨out, made, next, hRun, hNew, hVolume, hNextSound, hWithout, hAnchors⟩

/-- **A rebase that fails under rollback changes nothing**, neither in the document nor in the
registry. -/
theorem rebase_undone (hFrees : agent.Frees) (hWellFormed : session.image.WellFormed)
    (hSound : session.world.Sound) {settings : ImageSettings}
    (hRollback : settings.recovery = .rollback) {args : RebaseArguments} {failure : Failure}
    {after : Session σ}
    (hRun : (rebase agent settings args).run session = (.error failure, after)) :
    after.image = session.image ∧ after.world.registry = session.world.registry := by
  rw [run_rebase agent hWellFormed] at hRun
  rcases add_besides agent hWellFormed hSound settings args.addition with
    ⟨refusal, next, hAdd, hSame⟩ |
      ⟨out, made, next, hAdd, hNew, hVolume, hNextSound, hWithout, hAnchors⟩
  · rw [hAdd] at hRun
    cases hRun
    exact ⟨rfl, hSame⟩
  simp only [RebaseArguments.addition, Bool.false_eq_true, if_false] at hAdd hNew
  rw [RebaseArguments.addition, hAdd] at hRun
  have hLayer : (session.image.putLayer args.target made).layers.get? args.target =
      some made := by
    simp [Image.putLayer]
  rcases hTied : (tie agent session.image.name args.target args.extra).run
      ⟨session.image.putLayer args.target made, next⟩ with ⟨result, ⟨image, world⟩⟩
  obtain ⟨hImage, hTiedSound, hOnly⟩ := of_run_tie hNextSound hLayer hVolume hTied
  obtain rfl : image = session.image.putLayer args.target made := hImage
  simp only [hTied] at hRun
  cases result with
  | ok out =>
      simp only [Action.run_bind, run_askImage, Image.layer_eq_ok_iff.2 hLayer, modifyImage,
        Action.run_modify, Action.run_pure] at hRun
      cases hRun
  | error refusal =>
      obtain ⟨dropped, hDrop, hErased⟩ :=
        run_dropLayer_of_anchored hFrees hTiedSound hLayer hVolume (hOnly.anchors hAnchors)
      simp only [hRollback, if_true, Action.run_bind, hDrop, Action.run_fail] at hRun
      cases hRun
      exact ⟨withoutLayer_putLayer_new hWellFormed hNew made,
        hErased.trans (hOnly.others.trans hWithout)⟩

end Session

end DiskFleet
