import DiskFleet.Proofs.Image.Rebase
import DiskFleet.Proofs.Image.Refusal
import DiskFleet.Proofs.Image.Unmaking
import DiskFleet.Proofs.Registry.Prepared

/-!
# What making layer objects leaves

The object of an image is made layer by layer: a volume is created from the definition that the
layer carries, and bound to the nodes of its pool. Any of these steps can fail, since a pool that a
definition names may be gone by now. Up to there some layers have objects and the others are as they
were defined, and it is this state (`Session.Underway`) that the clean-up starts from. It goes
through all layers alike: those that have objects lose them, and the others have none to lose.

## Main results

* `Layer.drafted_of_define`, `Image.drafted_of_define`: what a defined layer carries;
* `World.stored_of_bind`, `World.madeOf_of_bind`: what a volume that was created and bound is like;
* `Session.createLayer_underway`, `Session.createLayers_underway`: the layers whose objects were
  made stand on volumes of their own, and nothing else changes;
* `Session.Underway.run_cleanUp`: unmaking all of them leaves the registry as it was;
* `Session.createObject_underway`: all layer objects are made, or nothing is left of them.
-/

namespace DiskFleet

variable {σ : Type} {agent : Agent σ}

namespace Action

/-- To attempt actions that all succeed is to carry them out. -/
theorem run_forEach_attempt {ι : Type} {action : ι → Action σ Unit} (items : List ι) :
    ∀ {state after : σ}, (forEach action items).run state = (.ok (), after) →
      (forEach (fun item => do let _ ← attempt (action item)) items).run state =
        (.ok (), after) := by
  induction items with
  | nil => exact fun hRun => hRun
  | cons item rest ih =>
      intro state after hRun
      obtain ⟨_, next, hFirst, hRest⟩ := run_bind_eq_ok_iff.1 hRun
      have hTried : (do let _ ← attempt (action item) : Action σ Unit).run state =
          (.ok (), next) := by
        simp only [run_bind, run_attempt, hFirst, run_pure]
      rw [forEach, run_bind_ok hTried]
      exact ih hRest

end Action

/-! ## What a definition says -/

/-- A layer without an object: it carries the definition of a volume, which holds no storage and is
bound nowhere. -/
structure Layer.Drafted (layer : Layer) : Prop where
  volume : layer.volume = none
  definition : ∃ definition, layer.definition = some definition ∧ definition.type = .volume ∧
    definition.allocated = false ∧ definition.bindings = ∅

theorem Layer.drafted_of_define {registry : Registry} {settings : ImageSettings} {name : String}
    {params : Params} {layer : Layer} (h : Layer.define registry settings name params = .ok layer)
    (backing : Option String) : Layer.Drafted { layer with backing } := by
  obtain ⟨-, -, -, hVolume, definition, volumeParams, hCarried, hDefined⟩ := of_define h
  obtain ⟨poolId, pool, cls, defined, -, hClass, hResource, rfl⟩ :=
    Registry.of_defineResource hDefined
  obtain ⟨hType, hFree, hUnbound⟩ := ResourceClass.type_of_define hResource
  exact ⟨hVolume, _, hCarried, hType.trans (PoolKind.type_of_classFor? hClass), hFree, hUnbound⟩

namespace Image

variable {registry : Registry} {settings : ImageSettings} {params : Params}

/-- Layers that are defined in turn are drafted; a name that comes again replaces its layer. -/
theorem drafted_of_defineLayers (names : List String) :
    ∀ {layers result : Table Layer} {backing : Option String},
      (∀ key layer, layers.get? key = some layer → layer.Drafted) →
      defineLayers registry settings params layers backing names = .ok result →
      ∀ key layer, result.get? key = some layer → layer.Drafted := by
  induction names with
  | nil =>
      intro layers result backing hLayers h
      obtain rfl := Except.ok.inj h
      exact hLayers
  | cons name rest ih =>
      intro layers result backing hLayers h
      obtain ⟨layer, hDefine, hRest⟩ := Action.bind_eq_ok_iff.1 h
      refine ih (fun key stored hStored => ?_) hRest
      rw [Table.get?_insert] at hStored
      split at hStored
      · obtain rfl := Option.some.inj hStored
        exact Layer.drafted_of_define hDefine backing
      · exact hLayers key stored hStored

/-- Every layer of a defined image is drafted. -/
theorem drafted_of_define {name : String} {image : Image}
    (h : Image.define registry settings name params = .ok image) {key : String} {layer : Layer}
    (hLayer : image.layers.get? key = some layer) : layer.Drafted := by
  obtain ⟨layers, hLayers, hImage⟩ := Action.bind_eq_ok_iff.1 h
  obtain rfl := Except.ok.inj hImage
  refine drafted_of_defineLayers _ (fun key layer hNone => ?_) hLayers key layer hLayer
  cases hNone

end Image

/-! ## What becomes of a definition -/

/-- The resource was made of the definition: it is in the pool that the definition names, has its
name and type, holds no storage, and is bound to exactly the nodes of that pool. -/
def Registry.MadeOf (registry : Registry) (definition : ResourceDocument) (id : String) : Prop :=
  ∃ poolId pool resource, definition.pool = some poolId ∧
    registry.owners.get? id = some poolId ∧ registry.pools.get? poolId = some pool ∧
    pool.resources.get? id = some resource ∧
    resource.document.type = definition.type ∧ resource.document.name = definition.name ∧
    resource.document.allocated = false ∧
    ∀ node, node ∈ resource.document.bound ↔ node ∈ pool.document.access

namespace Registry.MadeOf

variable {registry other : Registry} {definition : ResourceDocument} {id another : String}

theorem resource? (h : registry.MadeOf definition id) :
    ∃ resource, registry.resource? id = some resource ∧ resource.document.allocated = false := by
  obtain ⟨poolId, pool, resource, -, hOwner, hPool, hStored, -, -, hFree, -⟩ := h
  exact ⟨resource, (Registry.resource?_eq hOwner hPool).trans hStored, hFree⟩

/-- One resource more makes no difference to it. -/
theorem of_without (h : registry.MadeOf definition id)
    (hWithout : other.without another = registry) : other.MadeOf definition id := by
  subst hWithout
  obtain ⟨poolId, pool, resource, hNamed, hOwner, hPool, hStored, hSame⟩ := h
  simp only [Registry.without, Table.get?_erase, Table.get?_mapValues, Option.map_eq_some_iff]
    at hOwner hPool
  obtain ⟨full, hFull, rfl⟩ := hPool
  rw [Table.get?_erase] at hStored
  by_cases hId : id = another
  · rw [if_pos hId] at hOwner
    cases hOwner
  · rw [if_neg hId] at hOwner hStored
    exact ⟨poolId, full, resource, hNamed, hOwner, hFull, hStored, hSame⟩

end Registry.MadeOf

namespace World

variable {definition : ResourceDocument} {id : String} {world created bound : World σ}

/-- A resource that was created is in the pool that its definition names, and is as that says. -/
theorem stored_of_createResource
    (hCreate : (createResource definition).run world = (.ok id, created)) :
    ∃ poolId pool resource, definition.pool = some poolId ∧
      created.registry.owners.get? id = some poolId ∧
      created.registry.pools.get? poolId = some pool ∧
      pool.resources.get? id = some resource ∧
      resource.document.type = definition.type ∧ resource.document.name = definition.name ∧
      resource.document.allocated = definition.allocated ∧
      resource.document.bindings = definition.bindings := by
  rcases createResource_cases definition world with
    ⟨_, hCase⟩ | ⟨_, hCase⟩ | ⟨poolId, pool, filled, hNamed, hPool, hAdd, hCase⟩
  · rw [hCase] at hCreate
    cases hCreate
  · rw [hCase] at hCreate
    cases hCreate
  · rw [hCase] at hCreate
    cases hCreate
    obtain ⟨resource, hFilled, -, -, hSame⟩ := Pool.of_addResource hAdd
    refine ⟨poolId, filled, resource, hNamed, ?_, ?_, ?_, hSame⟩
    · simp [entering, Registry.enter, Registry.putPool]
    · simp [entering, Registry.enter, Registry.putPool]
    · simp [hFilled]

/-- **A resource that was created and bound** is bound to the nodes that were named, or to those of
its pool if there were none, and is as its definition says otherwise. -/
theorem stored_of_bind {nodes : List String} {out : Json} (hUnbound : definition.bindings = ∅)
    (hCreate : (createResource definition).run world = (.ok id, created))
    (hBind : (updateResource agent id (.bind nodes)).run created = (.ok out, bound)) :
    ∃ poolId pool resource, definition.pool = some poolId ∧
      bound.registry.owners.get? id = some poolId ∧
      bound.registry.pools.get? poolId = some pool ∧
      pool.resources.get? id = some resource ∧
      resource.document.type = definition.type ∧ resource.document.name = definition.name ∧
      resource.document.allocated = definition.allocated ∧
      ∀ node, node ∈ resource.document.bound ↔
        node ∈ if nodes.isEmpty then pool.document.access else nodes := by
  obtain ⟨poolId, pool, resource, hNamed, hOwner, hPool, hStored, hType, hName, hAllocated,
    hBindings⟩ := stored_of_createResource hCreate
  obtain ⟨handled, hHandle, rfl⟩ := handled_of_run_updateResource hOwner hPool hStored hBind
  have hKept : handled.object.identity = resource.identity := by
    have hStep : Resource.Step agent pool.document ⟨resource, created.link⟩
        ((Resource.handle agent pool.document (.bind nodes)).run ⟨resource, created.link⟩).2 :=
      Resource.handle_step (.bind nodes)
    rw [hHandle] at hStep
    exact hStep.kept.1
  simp only [Resource.identity, Resource.Identity.mk.injEq] at hKept
  obtain ⟨-, hSameName, hSameType, -⟩ := hKept
  have hBound : resource.bound pool.document nodes = .ok handled.object :=
    (Resource.bound_of_run_bind hHandle).1
  have hNowhere : resource.document.bound = [] := by
    show SortedMap.keys _ = []
    rw [hBindings, hUnbound]
    rfl
  refine ⟨poolId, { pool with resources := pool.resources.insert id handled.object },
    handled.object, hNamed, hOwner, ?_, ?_, hSameType.trans hType, hSameName.trans hName,
    (Resource.allocated_of_bound hBound).trans hAllocated, fun node => ?_⟩
  · simp [working, Registry.putPool]
  · simp
  · rw [Resource.mem_bound_of_bound hBound, hNowhere]
    simp

/-- **A resource that was created and bound was made of its definition.** -/
theorem madeOf_of_bind {out : Json} (hFree : definition.allocated = false)
    (hUnbound : definition.bindings = ∅)
    (hCreate : (createResource definition).run world = (.ok id, created))
    (hBind : (updateResource agent id (.bind [])).run created = (.ok out, bound)) :
    bound.registry.MadeOf definition id := by
  obtain ⟨poolId, pool, resource, hNamed, hOwner, hPool, hStored, hType, hName, hAllocated,
    hBound⟩ := stored_of_bind hUnbound hCreate hBind
  exact ⟨poolId, pool, resource, hNamed, hOwner, hPool, hStored, hType, hName,
    hAllocated.trans hFree, hBound⟩

end World

/-! ## One layer -/

/-- The object of a layer was made: in the place of the definition of a volume that the layer
carried, there is a volume that was made of it. -/
def Layer.Realized (registry : Registry) (planned made : Layer) : Prop :=
  ∃ definition id volume, planned.definition = some definition ∧ definition.type = .volume ∧
    made = { planned with id := some id, definition := none, volume := some volume } ∧
    registry.MadeOf definition volume

namespace Layer

variable {layer made : Layer} {world after : World σ}

/-- One resource more makes no difference to it. -/
theorem Realized.of_without {registry other : Registry} {id : String}
    (h : layer.Realized registry made) (hWithout : other.without id = registry) :
    layer.Realized other made := by
  obtain ⟨definition, layerId, volume, hCarried, hType, hSame, hMade⟩ := h
  exact ⟨definition, layerId, volume, hCarried, hType, hSame, hMade.of_without hWithout⟩

/-- **The object of a drafted layer is made on a new volume**, beside all that was registered. -/
theorem realized_of_createObject (h : world.Sound) (hDrafted : layer.Drafted)
    (hRun : (layer.createObject agent []).run world = (.ok made, after)) :
    layer.Realized after.registry made ∧ made.volume = some world.supply.nextId ∧
      after.registry.without world.supply.nextId = world.registry ∧
      after.registry.Anchors world.supply.nextId := by
  obtain ⟨definition, hCarried, hType, hFree, hUnbound⟩ := hDrafted.definition
  refine ⟨?_, without_createObject h hCarried hFree hUnbound hRun⟩
  rcases of_createObject hRun with
    ⟨hNone, -, -⟩ | ⟨other, id, created, out, bound, hOther, hCreate, hBind, rfl, rfl⟩
  · rw [hCarried] at hNone
    cases hNone
  · obtain rfl : definition = other := Option.some.inj (hCarried.symm.trans hOther)
    have hMade : bound.registry.MadeOf definition world.supply.nextId :=
      World.madeOf_of_bind hFree hUnbound hCreate hBind
    exact ⟨definition, id, _, hCarried, hType, rfl, hMade⟩

end Layer

/-! ## All layers -/

namespace Session

variable {document : Image} {start : World σ} {done left : List String} {session : Session σ}
  {name : String}

/-- The objects of some layers of a document were made since the world was `start`, each on a volume
of its own. The other layers are as the document has them, nothing else was made, and no agent was
called. -/
structure Underway (document : Image) (start : World σ) (done : List String)
    (session : Session σ) : Prop where
  image : session.image = { document with layers := session.image.layers }
  keys : session.image.layers.keys = document.layers.keys
  made : ∀ name ∈ done, ∃ planned made, document.layers.get? name = some planned ∧
    session.image.layers.get? name = some made ∧ planned.Realized session.world.registry made
  rest : ∀ name, name ∉ done → session.image.layers.get? name = document.layers.get? name
  added : World.Added start.registry (session.image.volumesOf done) session.world
  link : session.world.link = start.link

/-- At first no layer has an object. -/
theorem underway_start (h : start.Sound) (document : Image) :
    Underway document start [] ⟨document, start⟩ :=
  ⟨rfl, rfl, nofun, fun _ _ => rfl, h.added, rfl⟩

/-- A world with the same registry, where no more calls were made either. -/
theorem Underway.congr (h : Underway document start done session) {next : World σ}
    (hSound : next.Sound) (hSame : next.registry = session.world.registry)
    (hLink : next.link = session.world.link) :
    Underway document start done ⟨session.image, next⟩ := by
  refine ⟨h.image, h.keys, fun other hOther => ?_, h.rest, h.added.congr hSound hSame,
    hLink.trans h.link⟩
  obtain ⟨planned, made, hPlanned, hStored, hRealized⟩ := h.made other hOther
  exact ⟨planned, made, hPlanned, hStored, hSame ▸ hRealized⟩

/-- One layer more was made, on a new volume. -/
theorem Underway.push (h : Underway document start done session) (hNew : name ∉ done)
    {layer made : Layer} (hLayer : document.layers.get? name = some layer) {next : World σ}
    (hSound : next.Sound) (hLink : next.link = session.world.link)
    (hRealized : layer.Realized next.registry made)
    (hVolume : made.volume = some session.world.supply.nextId)
    (hWithout : next.registry.without session.world.supply.nextId = session.world.registry)
    (hAnchors : next.registry.Anchors session.world.supply.nextId) :
    Underway document start (done ++ [name]) ⟨session.image.putLayer name made, next⟩ := by
  have hHere : (session.image.putLayer name made).layers.get? name = some made :=
    (Table.get?_insert _ _ _ _).trans (if_pos rfl)
  -- the layers whose objects were made before are stored as they were
  have hOthers : ∀ other, other ≠ name →
      (session.image.putLayer name made).layers.get? other = session.image.layers.get? other :=
    fun other hNe => (Table.get?_insert _ _ _ _).trans (if_neg hNe)
  have hVolumes : (session.image.putLayer name made).volumesOf (done ++ [name]) =
      session.image.volumesOf done ++ [session.world.supply.nextId] := by
    have hEarlier : (session.image.putLayer name made).volumesOf done =
        session.image.volumesOf done := Image.volumesOf_putLayer hNew made
    have hLast : (session.image.putLayer name made).volume? name =
        some session.world.supply.nextId :=
      Image.volume?_eq_some_iff.2 ⟨made, hHere, hVolume⟩
    rw [Image.volumesOf, List.filterMap_append]
    exact congrArg₂ _ hEarlier (by simp [hLast])
  constructor
  case image => exact congrArg (·.putLayer name made) h.image
  case keys =>
    have hContains : session.image.layers.contains name = true := by
      rw [Table.contains, h.rest name hNew, hLayer, Option.isSome_some]
    exact (Table.keys_insert_of_contains hContains).trans h.keys
  case made =>
    intro other hOther
    rcases List.mem_append.1 hOther with hEarlier | hLast
    · have hNe : other ≠ name := fun hSame => hNew (hSame ▸ hEarlier)
      obtain ⟨planned, stored, hPlanned, hThere, hBefore⟩ := h.made other hEarlier
      exact ⟨planned, stored, hPlanned, (hOthers other hNe).trans hThere,
        hBefore.of_without hWithout⟩
    · obtain rfl := List.mem_singleton.1 hLast
      exact ⟨layer, made, hLayer, hHere, hRealized⟩
  case rest =>
    intro other hOther
    rw [List.mem_append, not_or, List.mem_singleton] at hOther
    exact (hOthers other hOther.2).trans (h.rest other hOther.1)
  case added =>
    rw [hVolumes]
    exact h.added.push hSound rfl hWithout hAnchors
  case link => exact hLink.trans h.link

/-- **One layer more**: its object is made too, or nothing has changed. -/
theorem createLayer_underway (agent : Agent σ) {layer : Layer}
    (h : Underway document start done session) (hNew : name ∉ done)
    (hLayer : document.layers.get? name = some layer) (hDrafted : layer.Drafted) :
    (∃ failure after, (createLayer agent name).run session = (.error failure, after) ∧
        Underway document start done after) ∨
      ∃ after, (createLayer agent name).run session = (.ok (), after) ∧
        Underway document start (done ++ [name]) after := by
  obtain ⟨definition, hCarried, -, hFree, hUnbound⟩ := hDrafted.definition
  have hStored : session.image.layers.get? name = some layer := (h.rest name hNew).trans hLayer
  have hQuiet : World.Quiet session.world ((layer.createObject agent []).run session.world).2 :=
    layer.createObject_quiet [] session.world
  have hAll : layer.Admitted fun _ => True := fun _ _ => trivial
  have hSound : ((layer.createObject agent []).run session.world).2.Sound :=
    h.added.sound.moves (Layer.createObject_moves hAll [] session.world)
  simp only [createLayer, Action.run_bind, run_askImage, Image.layer_eq_ok_iff.2 hStored, onWorld,
    Action.run_within]
  rcases hRun : (layer.createObject agent []).run session.world with ⟨failure | made, next⟩
  · rw [hRun] at hQuiet hSound
    have hSame : next.registry = session.world.registry :=
      Layer.registry_createObject_error h.added.sound hCarried hFree hUnbound hRun
    exact .inl ⟨failure, _, rfl, h.congr hSound hSame hQuiet⟩
  · rw [hRun] at hQuiet hSound
    obtain ⟨hRealized, hVolume, hWithout, hAnchors⟩ :=
      Layer.realized_of_createObject h.added.sound hDrafted hRun
    exact .inr ⟨_, rfl,
      h.push hNew hLayer hSound hQuiet hRealized hVolume hWithout hAnchors⟩

/-- **The objects of the layers are made in turn**, up to the first that cannot be made. -/
theorem createLayers_underway (agent : Agent σ)
    (hDrafted : ∀ name layer, document.layers.get? name = some layer → layer.Drafted)
    (names : List String) :
    ∀ {done : List String} {session : Session σ}, Underway document start done session →
      (done ++ names).Nodup → (∀ name ∈ names, (document.layers.get? name).isSome = true) →
      (∃ failure after reached left, (Action.forEach (createLayer agent) names).run session =
          (.error failure, after) ∧ done ++ names = reached ++ left ∧
          Underway document start reached after) ∨
        ∃ after, (Action.forEach (createLayer agent) names).run session = (.ok (), after) ∧
          Underway document start (done ++ names) after := by
  induction names with
  | nil =>
      intro done session h hNodup hThere
      exact .inr ⟨session, rfl, (List.append_nil done).symm ▸ h⟩
  | cons name rest ih =>
      intro done session h hNodup hThere
      obtain ⟨layer, hLayer⟩ := Option.isSome_iff_exists.1 (hThere name List.mem_cons_self)
      have hNew : name ∉ done := fun hMem =>
        (List.nodup_append.1 hNodup).2.2 name hMem name List.mem_cons_self rfl
      have hSplit : done ++ name :: rest = done ++ [name] ++ rest := by simp
      rw [Action.forEach]
      rcases createLayer_underway agent h hNew hLayer (hDrafted name layer hLayer) with
        ⟨failure, after, hRun, hUnderway⟩ | ⟨after, hRun, hUnderway⟩
      · rw [Action.run_bind_error hRun]
        exact .inl ⟨failure, after, done, name :: rest, rfl, rfl, hUnderway⟩
      · rw [Action.run_bind_ok hRun, hSplit]
        exact ih hUnderway (hSplit ▸ hNodup)
          fun other hOther => hThere other (List.mem_cons_of_mem _ hOther)

namespace Underway

/-- What the layers stand on is registered and holds no storage, so that every layer is idle. -/
theorem idle (h : Underway document start done session)
    (hDrafted : ∀ name layer, document.layers.get? name = some layer → layer.Drafted)
    (hThere : (document.layers.get? name).isSome = true) : session.Idle name := by
  by_cases hDone : name ∈ done
  · obtain ⟨planned, made, -, hStored, definition, id, volume, -, -, rfl, hMade⟩ :=
      h.made name hDone
    refine ⟨_, hStored, fun held hHeld => ?_⟩
    obtain rfl := Option.some.inj hHeld
    exact hMade.resource?
  · obtain ⟨layer, hLayer⟩ := Option.isSome_iff_exists.1 hThere
    refine ⟨layer, (h.rest name hDone).trans hLayer, fun volume hVolume => ?_⟩
    rw [(hDrafted name layer hLayer).volume] at hVolume
    cases hVolume

/-- Only the layers whose objects were made have volumes. -/
theorem volumesOf_append (h : Underway document start done session)
    (hDrafted : ∀ name layer, document.layers.get? name = some layer → layer.Drafted)
    (hNew : ∀ name ∈ left, name ∉ done) :
    session.image.volumesOf (done ++ left) = session.image.volumesOf done := by
  have hNone : session.image.volumesOf left = [] := by
    refine List.filterMap_eq_nil_iff.2 fun name hName => ?_
    rw [Image.volume?, h.rest name (hNew name hName)]
    cases hLayer : document.layers.get? name with
    | none => rfl
    | some layer => exact (hDrafted name layer hLayer).volume
  rw [Image.volumesOf, List.filterMap_append]
  exact (congrArg _ hNone).trans (List.append_nil _)

/-- **Unmaking the objects of all layers**, as far as there are any, leaves the registry as it was
at the start. -/
theorem run_cleanUp (h : Underway document start done session)
    (hDrafted : ∀ name layer, document.layers.get? name = some layer → layer.Drafted)
    (hKeys : document.layers.keys = done ++ left) :
    ∃ after, (Action.forEach (fun name => do let _ ← Action.attempt (destroyLayer name))
        document.layers.keys).run session = (.ok (), after) ∧
      after.world.registry = start.registry ∧ after.world.link = start.link := by
  have hNodup : document.layers.keys.Nodup := document.layers.nodup
  have hNew : ∀ name ∈ left, name ∉ done := by
    intro name hLeft hDone
    rw [hKeys] at hNodup
    exact (List.nodup_append.1 hNodup).2.2 name hDone name hLeft rfl
  have hVolumes : session.image.volumesOf document.layers.keys = session.image.volumesOf done := by
    rw [hKeys]
    exact h.volumesOf_append hDrafted hNew
  have hIdle : ∀ name ∈ document.layers.keys, session.Idle name := by
    intro name hName
    exact h.idle hDrafted ((Table.contains_iff_mem_keys document.layers name).2 hName)
  obtain ⟨image, hRun⟩ :=
    run_destroyLayers document.layers.keys h.added.sound hNodup (hVolumes ▸ h.added.nodup) hIdle
  refine ⟨_, Action.run_forEach_attempt _ hRun, ?_, h.link⟩
  rw [hVolumes]
  exact h.added.others

end Underway

/-- **The object of an image is made as a whole or not at all.** When it cannot be made, the
registry is as it was at the start. No agent is called. -/
theorem createObject_underway (agent : Agent σ) (h : start.Sound)
    (hDrafted : ∀ name layer, document.layers.get? name = some layer → layer.Drafted) :
    (∃ failure after, (createObject agent).run ⟨document, start⟩ = (.error failure, after) ∧
        after.world.registry = start.registry ∧ after.world.link = start.link) ∨
      ∃ after, (createObject agent).run ⟨document, start⟩ = (.ok (), after) ∧
        Underway document start document.layers.keys after := by
  have hThere : ∀ name ∈ document.layers.keys, (document.layers.get? name).isSome = true :=
    fun name hName => (Table.contains_iff_mem_keys document.layers name).2 hName
  simp only [createObject, Action.run_bind, Action.run_gets, Action.run_attempt]
  rcases createLayers_underway agent hDrafted document.layers.keys (underway_start h document)
      document.layers.nodup hThere with
    ⟨failure, reached, done, left, hRun, hKeys, hUnderway⟩ | ⟨after, hRun, hUnderway⟩
  · obtain ⟨after, hCleaned, hSame⟩ := hUnderway.run_cleanUp hDrafted hKeys
    refine .inl ⟨failure, after, ?_, hSame⟩
    simp only [hRun, Action.run_bind, hCleaned, Action.run_fail]
  · refine .inr ⟨after, ?_, hUnderway⟩
    simp only [hRun, Action.run_pure]

end Session

end DiskFleet
