import DiskFleet.Proofs.Engine.Transfer
import DiskFleet.Proofs.Image.Rebase
import DiskFleet.Proofs.Image.Unmaking

/-!
# A layer object that comes and goes

Making the object of a layer turns the definition that the layer carries into a volume, and unmaking
it asks that volume for its document and takes the id and the bindings out. The definition that the
layer has then is the one it began with only if nothing in between left a trace in it: the pool must
take the definition as it is, and the binding must touch nothing but the bindings.

The pool takes it as it is because it holds volumes of the kind that the definition says. That was
so when the layer was defined (`Layer.carries_of_define`), and no pool changes its kind, so that the
layer may be as old as it likes.

## Main results

* `World.found_of_bind`: the volume of a definition, once it was created and bound;
* `Layer.run_destroyObject_of_createObject`: a layer object that was made can be unmade, and then
  layer and registry are what they were;
* `Engine.layerObject_reversible`: so it is in every reachable state, and a layer object that cannot
  be made leaves no trace either.
-/

namespace DiskFleet

variable {σ : Type} {agent : Agent σ}

/-! ## What a defined layer carries -/

/-- A layer that nothing was made of yet carries the definition of a volume of that kind, for that
pool. -/
structure Layer.Carries (layer : Layer) (definition : ResourceDocument) (poolId : String)
    (kind : VolumeKind) : Prop where
  id : layer.id = none
  volume : layer.volume = none
  carried : layer.definition = some definition
  pool : definition.pool = some poolId
  unnamed : definition.id = none
  planned : definition.Planned kind

/-- A class defines resources without an id. -/
theorem ResourceClass.id_of_define {cls : ResourceClass} {name : String} {params : Params}
    {definition : ResourceDocument} (h : cls.define name params = .ok definition) :
    definition.id = none := by
  cases cls with
  | tapPort =>
      obtain rfl := Except.ok.inj h
      rfl
  | volume kind =>
      obtain ⟨size, -, hPure⟩ := Action.bind_eq_ok_iff.1 h
      obtain rfl := Except.ok.inj hPure
      rfl

theorem Layer.id_of_define {registry : Registry} {settings : ImageSettings} {name : String}
    {params : Params} {layer : Layer} (h : Layer.define registry settings name params = .ok layer) :
    layer.id = none := by
  simp only [Layer.define] at h
  split at h
  · cases h
  · obtain ⟨definition, -, hPure⟩ := Action.bind_eq_ok_iff.1 h
    obtain rfl := Except.ok.inj hPure
    rfl

/-- **A defined layer carries a definition for a pool of its registry** that holds volumes of that
kind. -/
theorem Layer.carries_of_define {registry : Registry} {settings : ImageSettings} {name : String}
    {params : Params} {layer : Layer} (hSound : registry.Sound)
    (h : Layer.define registry settings name params = .ok layer) :
    ∃ definition poolId pool kind, layer.Carries definition poolId kind ∧
      registry.pools.get? poolId = some pool ∧
      pool.kind.classFor? .volume = some (.volume kind) := by
  obtain ⟨-, -, -, hVolume, definition, volumeParams, hCarried, hDefined⟩ := of_define h
  obtain ⟨poolId, pool, cls, defined, hPool, hClass, hDefine, rfl⟩ :=
    Registry.of_defineResource hDefined
  have hType := PoolKind.type_of_classFor? hClass
  cases cls with
  | tapPort => cases hType
  | volume kind =>
      rcases ResourceClass.defineVolume_cases kind name volumeParams with
        ⟨cause, -, hRefused⟩ | ⟨size, planned, -, hPlan, hPlanned⟩
      · cases hDefine.symm.trans hRefused
      · obtain rfl := Except.ok.inj (hDefine.symm.trans hPlan)
        have hUnnamed : defined.id = none := ResourceClass.id_of_define hDefine
        refine ⟨_, poolId, pool, kind, ⟨id_of_define h, hVolume, hCarried, ?_, hUnnamed,
          ⟨hPlanned.type, hPlanned.free, hPlanned.unbound, hPlanned.ofKind, hPlanned.spec⟩⟩,
          hPool, hClass⟩
        rw [hSound.idText_pool hPool]

/-- **Giving the volume back restores the layer**, if the document of the volume is the definition
but for its id and its bindings. -/
theorem Layer.Carries.givenBack {layer : Layer} {definition : ResourceDocument} {poolId : String}
    {kind : VolumeKind} (h : layer.Carries definition poolId kind) (id volume : Option String)
    (bindings : SortedMap String) :
    Layer.givenBack { layer with id, definition := none, volume }
      { definition with id := volume, bindings } = layer := by
  have hSame : ({ definition with id := none, bindings := ∅ } : ResourceDocument) = definition := by
    rw [← h.unnamed, ← h.planned.unbound]
  calc Layer.givenBack { layer with id, definition := none, volume }
        { definition with id := volume, bindings }
    _ = { layer with id := none, definition := some definition, volume := none } := by
        rw [← hSame]
        rfl
    _ = layer := by
        cases layer
        cases h.id
        cases h.volume
        cases h.carried
        rfl

/-! ## The volume in between -/

namespace World

variable {world created bound : World σ} {definition : ResourceDocument} {kind : VolumeKind}
  {poolId id : String} {pool : Pool} {nodes : List String} {out : Json}

/-- **A planned volume that was created and bound** has the document of its definition, but for its
id and its bindings. -/
theorem found_of_bind (hPool : world.registry.pools.get? poolId = some pool)
    (hId : pool.idText = poolId) (hClass : pool.kind.classFor? .volume = some (.volume kind))
    (hNamed : definition.pool = some poolId) (hPlanned : definition.Planned kind)
    (hCreate : (createResource definition).run world = (.ok id, created))
    (hBind : (updateResource agent id (.bind nodes)).run created = (.ok out, bound)) :
    ∃ resource bindings, bound.registry.resource? id = some resource ∧
      resource.document = { definition with id := some id, bindings } := by
  obtain ⟨made, hMade, -, hStores⟩ :=
    run_createResource_of_planned hPool hId hClass hNamed hPlanned
  cases hCreate.symm.trans hMade
  obtain ⟨handled, hHandled, rfl⟩ :=
    handled_of_run_updateResource hStores.owner hStores.opened hStores.stored hBind
  have hBound := (Resource.bound_of_run_bind hHandled).1
  refine ⟨handled.object, handled.object.document.bindings,
    (resource?_working hStores.owner hStores.opened handled _).trans (if_pos rfl), ?_⟩
  exact congrArg Resource.document (Resource.eq_of_bound hBound)

end World

/-- **A layer object that was made can be unmade**, and then the layer and the registry are what they
were before. -/
theorem Layer.run_destroyObject_of_createObject {layer made : Layer} {world created : World σ}
    {definition : ResourceDocument} {poolId : String} {kind : VolumeKind} {nodes : List String}
    (hSound : world.Sound) (h : layer.Carries definition poolId kind)
    (hKind : ∀ pool, world.registry.pools.get? poolId = some pool →
      pool.kind.classFor? .volume = some (.volume kind))
    (hRun : (layer.createObject agent nodes).run world = (.ok made, created)) :
    ∃ after, made.destroyObject.run created = (.ok layer, after) ∧
      after.registry = world.registry := by
  rcases of_createObject hRun with ⟨hNone, -, -⟩ |
    ⟨carried, id, entered, out, bound, hCarried, hCreate, hBind, rfl, rfl⟩
  · cases h.carried.symm.trans hNone
  obtain rfl : definition = carried := Option.some.inj (h.carried.symm.trans hCarried)
  -- the volume is in the pool that the definition names, as the definition says
  obtain ⟨pool, hPool⟩ : ∃ pool, world.registry.pools.get? poolId = some pool := by
    rcases World.createResource_cases definition world with
      ⟨failure, hCase⟩ | ⟨failure, hCase⟩ | ⟨otherId, pool, filled, hNamed, hPool, -, -⟩
    · cases hCreate.symm.trans hCase
    · cases hCreate.symm.trans hCase
    · obtain rfl := Option.some.inj (h.pool.symm.trans hNamed)
      exact ⟨pool, hPool⟩
  obtain ⟨resource, bindings, hFound, hDocument⟩ :=
    World.found_of_bind hPool (hSound.registry.idText_pool hPool) (hKind pool hPool) h.pool
      h.planned hCreate hBind
  have hFree : resource.document.allocated = false := by
    rw [hDocument]
    exact h.planned.free
  obtain ⟨-, hWithout, -⟩ :=
    without_createObject hSound h.carried h.planned.free h.planned.unbound hRun
  have hAll : layer.Admitted fun _ => True := fun _ _ => trivial
  have hSoundMade : ((layer.createObject agent nodes).run world).2.Sound :=
    hSound.moves (createObject_moves hAll nodes world)
  rw [hRun] at hSoundMade
  refine ⟨bound.drawingId.withoutAll [world.supply.nextId], ?_, hWithout⟩
  rw [run_destroyObject_of_free hSoundMade rfl hFound hFree, hDocument, h.givenBack]

/-! ## In the document -/

namespace Session

/-- An operation on one layer of the document: what it answers takes the place of the layer, and if
it fails the document stays as it is. -/
def onLayer (name : String) (operation : Layer → Action (World σ) Layer) :
    Action (Session σ) Unit := do
  let layer ← askImage (·.layer name)
  let layer ← onWorld (operation layer)
  modifyImage (·.putLayer name layer)

/-- Making the object of one layer, with no nodes named, is such an operation. -/
theorem createLayer_eq_onLayer (agent : Agent σ) (name : String) :
    createLayer agent name = onLayer name (·.createObject agent []) := rfl

/-- So is unmaking it. -/
theorem destroyLayer_eq_onLayer (name : String) :
    (destroyLayer name : Action (Session σ) Unit) = onLayer name (·.destroyObject) := rfl

theorem run_onLayer {name : String} {operation : Layer → Action (World σ) Layer} {image : Image}
    {world : World σ} {layer : Layer} (hLayer : image.layers.get? name = some layer) :
    (onLayer name operation).run ⟨image, world⟩ =
      match (operation layer).run world with
      | (.ok changed, after) => (.ok (), ⟨image.putLayer name changed, after⟩)
      | (.error failure, after) => (.error failure, ⟨image, after⟩) := by
  simp only [onLayer, Action.run_bind, run_askImage, Image.layer_eq_ok_iff.2 hLayer, onWorld,
    Action.run_within]
  rcases (operation layer).run world with ⟨failure | changed, after⟩ <;> rfl

/-- A layer that is replaced and then stored again as it was leaves no trace. -/
theorem putLayer_putLayer_of_get? {image : Image} {name : String} {layer : Layer}
    (hLayer : image.layers.get? name = some layer) (changed : Layer) :
    (image.putLayer name changed).putLayer name layer = image := by
  simp only [Image.putLayer, Table.insert_insert, Table.insert_of_get? hLayer]

end Session

namespace Engine

variable {start earlier engine : Engine σ}

/-- **Making a layer object can be taken back**, in every reachable state, for every layer that was
defined in that state or earlier, and whichever nodes it is bound to. If the object is made, it can
be unmade at once, and then the document of the image, with the layer and the definition in it, and
the whole registry are what they were before. If it is not made, they are so already. -/
theorem layerObject_reversible (hVacant : start.Vacant) (hDistinct : start.world.supply.Distinct)
    (hEarlier : Run agent (fun _ _ => True) start earlier)
    (hSince : Run agent (fun _ _ => True) earlier engine) {settings : ImageSettings}
    {name : String} {params : Params} {layer : Layer}
    (hDefine : Layer.define earlier.world.registry settings name params = .ok layer)
    {image : Image} {key : String} (hLayer : image.layers.get? key = some layer)
    (binder : Agent σ) (nodes : List String) :
    (∃ made after,
      (Session.onLayer key (·.createObject binder nodes)).run ⟨image, engine.world⟩ =
        (.ok (), made) ∧
      (Session.onLayer key (·.destroyObject)).run made = (.ok (), after) ∧
      after.image = image ∧ after.world.registry = engine.world.registry) ∨
    ∃ failure after,
      (Session.onLayer key (·.createObject binder nodes)).run ⟨image, engine.world⟩ =
        (.error failure, after) ∧
      after.image = image ∧ after.world.registry = engine.world.registry := by
  have hSound : earlier.world.Sound := (hVacant.sound hDistinct).moves hEarlier.free
  obtain ⟨definition, poolId, pool, kind, hCarries, hPool, hClass⟩ :=
    Layer.carries_of_define hSound.registry hDefine
  have hKind : ∀ pool, engine.world.registry.pools.get? poolId = some pool →
      pool.kind.classFor? .volume = some (.volume kind) := by
    refine World.Course.keeps_pool (fun kindOf _ => kindOf.classFor? .volume = some (.volume kind))
      hSound (hSound.poolDrawn hPool) hSince.free fun stored hStored => ?_
    obtain rfl := Option.some.inj (hPool.symm.trans hStored)
    exact hClass
  have hLater : engine.world.Sound := hSound.moves hSince.free
  rw [Session.run_onLayer hLayer]
  rcases hCreate : (layer.createObject binder nodes).run engine.world with
    ⟨failure | made, created⟩
  · refine .inr ⟨failure, _, rfl, rfl, ?_⟩
    exact Layer.registry_createObject_error hLater hCarries.carried hCarries.planned.free
      hCarries.planned.unbound hCreate
  · obtain ⟨after, hDestroy, hRegistry⟩ :=
      Layer.run_destroyObject_of_createObject hLater hCarries hKind hCreate
    have hMade : (image.putLayer key made).layers.get? key = some made := by
      simp [Image.putLayer]
    refine .inl ⟨_, ⟨(image.putLayer key made).putLayer key layer, after⟩, rfl, ?_,
      Session.putLayer_putLayer_of_get? hLayer made, hRegistry⟩
    rw [Session.run_onLayer hMade, hDestroy]

/-- The engine with a pool, once there is a volume in it. -/
def stocked : Engine Unit := (makingVolume.drop 1).foldl (after .willing) pooled

/-- The only layer of an image, as it was defined when the pool was empty. With a volume in the pool its
object is made with the nodes of the pool and unmade again, and refused on a node that is not there. -/
theorem layerObject_reversible_base :
    smallest.Vacant ∧ smallest.world.supply.Distinct ∧
      Run .willing (fun _ _ => True) smallest pooled ∧
      Run .willing (fun _ _ => True) pooled stocked ∧
      ∃ layer, Layer.define pooled.world.registry pooled.settings "base" (chainParams "base") =
          .ok layer ∧
        (chainImage "base").layers.get? "base" = some layer ∧
        (∃ made after,
          (Session.onLayer "base" (·.createObject .willing [])).run
            ⟨chainImage "base", stocked.world⟩ = (.ok (), made) ∧
          (Session.onLayer "base" (·.destroyObject)).run made = (.ok (), after) ∧
          after.image = chainImage "base" ∧ after.world.registry = stocked.world.registry) ∧
        ∃ failure after,
          (Session.onLayer "base" (·.createObject .willing ["elsewhere"])).run
            ⟨chainImage "base", stocked.world⟩ = (.error failure, after) ∧
          after.image = chainImage "base" ∧ after.world.registry = stocked.world.registry := by
  have hVacant : smallest.Vacant := vacant_vacant _ _ _ _
  have hEarlier : Run .willing (fun _ _ => True) smallest pooled := Run.start.step trivial
  have hSince : Run .willing (fun _ _ => True) pooled stocked := .of_list fun _ _ _ => trivial
  have hLayer : (chainImage "base").layers.get? "base" =
      (Layer.define pooled.world.registry pooled.settings "base" (chainParams "base")).toOption := by
    rfl
  have hSome : ((chainImage "base").layers.get? "base").isSome = true := by decide +kernel
  rcases hDefine : Layer.define pooled.world.registry pooled.settings "base" (chainParams "base")
    with failure | layer
  · rw [hLayer, hDefine] at hSome
    cases hSome
  rw [hDefine] at hLayer
  have hReversible := layerObject_reversible hVacant Supply.strokes_distinct hEarlier hSince hDefine
    hLayer .willing
  have hMakes : ((Session.onLayer "base" (·.createObject .willing [])).run
      ⟨chainImage "base", stocked.world⟩).1.isOk = true := by decide +kernel
  have hRefuses : ((Session.onLayer "base" (·.createObject .willing ["elsewhere"])).run
      ⟨chainImage "base", stocked.world⟩).1.isOk = false := by decide +kernel
  refine ⟨hVacant, Supply.strokes_distinct, hEarlier, hSince, layer, rfl, hLayer, ?_, ?_⟩
  · rcases hReversible [] with hMade | ⟨failure, after, hRefused, -, -⟩
    · exact hMade
    · rw [hRefused] at hMakes
      cases hMakes
  · rcases hReversible ["elsewhere"] with ⟨made, after, hMade, -, -, -⟩ | hRefused
    · rw [hMade] at hRefuses
      cases hRefuses
    · exact hRefused

end Engine

end DiskFleet
