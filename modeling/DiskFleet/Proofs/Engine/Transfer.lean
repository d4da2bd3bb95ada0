import DiskFleet.Proofs.Engine.OnePlace
import DiskFleet.Proofs.Registry.Prepared
import DiskFleet.Proofs.Resource.Union

/-!
# Copies in other pools

A volume can be copied into any pool that holds volumes, be it of the same kind or of another. The
copy forgets where its source lies, and has to be found again by what the pool needs: a device by
its name, and a file by a file name.

The file name of a volume is decided when it is made (`Resource.Step.fileName`), and a copy gets its
own by one of two rules. Where the kind changes, the class that takes the copy over names a file
that has no name. Where it does not, the name of the source is given the suffix, and a source
without a name has a copy without one. Only one definition makes such a file: an `image_name` that
is an absolute path without a last part, such as `/`, says where the file lies but not what it is
called. A copy of that in a pool of files is made, but no node can be bound to it.

## Main results

* `World.Course.keeps`: what every step keeps of a resource, every move keeps;
* `World.run_copyResourceAs_of_found`: a copy is made, and how it is described;
* `Engine.copy_of_defined`: which copies can be bound.
-/

namespace DiskFleet

/-! ## The file name of a volume -/

/-- The file name that is recorded of a volume, if any; nothing for what is no volume by its
specification. -/
def ResourceDocument.recordedName? (resource : ResourceDocument) : Option (Option String) :=
  resource.spec.volume?.map (·.filename)

namespace ResourceSpec

/-- A change of a specification that keeps the file name keeps it. -/
theorem filename_mapVolume {f : VolumeSpec → VolumeSpec}
    (h : ∀ spec, (f spec).filename = spec.filename) (spec : ResourceSpec) :
    (spec.mapVolume f).volume?.map (·.filename) = spec.volume?.map (·.filename) := by
  cases spec with
  | volume spec => exact congrArg some (h spec)
  | port spec => rfl

theorem filename_mapPort (f : PortSpec → PortSpec) (spec : ResourceSpec) :
    (spec.mapPort f).volume?.map (·.filename) = spec.volume?.map (·.filename) := by
  cases spec <;> rfl

end ResourceSpec

/-- **No step changes the file name** of a volume. -/
theorem Resource.Step.fileName {σ : Type} {agent : Agent σ} {pool : PoolDocument}
    {before after : Linked σ Resource} (h : Step agent pool before after) :
    after.object.document.recordedName? = before.object.document.recordedName? := by
  cases h with
  | stayed => rfl
  | declined => rfl
  | bound hBound =>
      rw [eq_of_bound hBound]
      rfl
  | unbound hUnbound =>
      rw [eq_of_unbound hUnbound]
      rfl
  | sized => exact ResourceSpec.filename_mapVolume (by intro; rfl) _
  | grown => exact ResourceSpec.filename_mapVolume (by intro; rfl) _
  | @allocated resource =>
      show (resource.specAllocated _).volume?.map (·.filename) = _
      unfold specAllocated
      cases resource.behaviour
      · exact ResourceSpec.filename_mapVolume (by intro; rfl) _
      · exact ResourceSpec.filename_mapPort _ _
  | @released resource =>
      show resource.specReleased.volume?.map (·.filename) = _
      unfold specReleased
      cases resource.behaviour
      · exact ResourceSpec.filename_mapVolume (by intro; rfl) _
      · exact ResourceSpec.filename_mapPort _ _
  | @synced resource =>
      show (resource.specSynced _).volume?.map (·.filename) = _
      unfold specSynced
      cases resource.behaviour
      · exact ResourceSpec.filename_mapVolume (by intro; rfl) _
      · exact ResourceSpec.filename_mapPort _ _

namespace ResourceClass

variable {cls : ResourceClass} {kind : VolumeKind} {definition : ResourceDocument}
  {stem : Option String}

@[simp] theorem name_taken : (cls.taken definition).name = definition.name := by
  unfold taken
  split
  · exact cls.name_adopt definition
  · rfl

@[simp] theorem pool_taken : (cls.taken definition).pool = definition.pool := by
  unfold taken
  split
  · exact cls.pool_adopt definition
  · rfl

@[simp] theorem allocated_taken : (cls.taken definition).allocated = definition.allocated := by
  unfold taken
  split
  · exact cls.allocated_adopt definition
  · rfl

/-- What a class of volumes defines, as far as copies of it are concerned. -/
theorem stem_of_define {name : String} {params : Params}
    (h : (volume kind).define name params = .ok definition) :
    definition.type = .volume ∧ definition.name = name ∧ definition.volumeKind = some kind ∧
      definition.recordedName? =
        some (if kind = .file then (fileLocation name params).2 else none) := by
  obtain ⟨size, -, hPure⟩ := Action.bind_eq_ok_iff.1 h
  obtain rfl := Except.ok.inj hPure
  refine ⟨rfl, rfl, rfl, congrArg some ?_⟩
  show (if kind = .file then fileLocation name params else (none, none)).2 = _
  split <;> rfl

/-- A file that a class takes over has a name; a device has none. -/
theorem recordedName_taken (hType : definition.type = .volume)
    (hStem : definition.recordedName? = some stem) :
    ((volume kind).taken definition).recordedName? =
      some (if definition.volumeKind = some kind then stem
        else if kind = .file then some (stem.getD (definition.name ++ ".img")) else none) := by
  obtain ⟨spec, hSpec, rfl⟩ := Option.map_eq_some_iff.1 hStem
  have hVolume : definition.spec = .volume spec := by
    cases hCase : definition.spec <;> rw [hCase] at hSpec <;> cases hSpec
    rfl
  by_cases hSame : definition.volumeKind = some kind
  · have hTaken : (volume kind).taken definition = definition :=
      if_neg fun hOther => hOther.2 hSame
    rw [hTaken, if_pos hSame]
    exact hStem
  · have hTaken : (volume kind).taken definition = (volume kind).adopt definition :=
      if_pos ⟨hType, hSame⟩
    rw [hTaken, if_neg hSame, ResourceDocument.recordedName?]
    cases kind <;> simp [adopt, hVolume, ResourceSpec.mapVolume, ResourceSpec.volume?]

end ResourceClass

/-- The definition of a file records no name exactly if its path is absolute and has no last part. -/
theorem ResourceClass.fileLocation_eq_none_iff {name : String} {params : Params} :
    (fileLocation name params).2 = none ↔
      FilePath.isAbsolute (params.getD "image_name" name) = true ∧
        FilePath.fileName? (params.getD "image_name" name) = none := by
  simp only [fileLocation]
  split <;> simp_all

/-- The file name of a copy is that of its source with the suffix. -/
theorem Resource.recordedName_copied {resource : Resource} {stem : Option String}
    (hBehaviour : resource.behaviour = .volume)
    (hStem : resource.document.recordedName? = some stem) (pool suffix : String) :
    (resource.copied pool suffix).recordedName? =
      some (stem.map fun name => FilePath.withSuffix name suffix) := by
  obtain ⟨spec, hSpec, rfl⟩ := Option.map_eq_some_iff.1 hStem
  cases hCase : resource.document.spec with
  | port spec =>
      rw [hCase] at hSpec
      cases hSpec
  | volume found =>
      rw [hCase] at hSpec
      obtain rfl : found = spec := Option.some.inj hSpec
      simp [ResourceDocument.recordedName?, copied, hBehaviour, hCase, ResourceSpec.mapVolume,
        ResourceSpec.volume?, copiedVolume]

/-- **When a volume that lies nowhere yet has a place** in a furnished pool of its kind: if it is a
file, it needs a name. -/
theorem Resource.exists_volumeBacking_iff {kind : PoolKind} {pool : PoolDocument}
    {resource : Resource} {stem : Option String} (hSpecifies : kind.Specifies pool.spec)
    (hClass : kind.classFor? .volume = some (.volume resource.volumeKind))
    (hStem : resource.document.recordedName? = some stem)
    (hNowhere : resource.document.location? = none) :
    (∃ place, resource.volumeBacking pool = .ok place) ↔
      (resource.volumeKind = .file → stem.isSome = true) := by
  obtain ⟨spec, hFound, rfl⟩ := Option.map_eq_some_iff.1 hStem
  have hSpec : resource.document.spec = .volume spec := by
    cases hCase : resource.document.spec <;> rw [hCase] at hFound <;> cases hFound
    rfl
  have hUri : spec.uri = none := (ResourceDocument.location_of_volume hSpec).symm.trans hNowhere
  constructor
  · rintro ⟨place, hPlace⟩ hFile
    obtain ⟨-, filename, -, hName, -⟩ := (volumeBacking_file hSpec hFile hUri).1 hPlace
    exact Option.isSome_iff_exists.2 ⟨filename, hName⟩
  · intro hNamed
    exact exists_volumeBacking hSpecifies hClass hSpec fun hFile => .inr (hNamed hFile)

namespace World

variable {σ : Type} {agent : Agent σ} {admits : ResourceDocument → Prop}
  {mayDrop : String → Prop} {mayOpen : PoolDocument → Prop} {world next : World σ}
  {id poolId destination suffix : String} {pool : Pool} {source : Resource}

/-! ## What stays of a resource -/

section keeps

variable {P : Resource → Prop}

/-- What every step keeps of a resource, a move keeps of the resource that is registered under an
id that was drawn. -/
theorem Move.keeps
    (hStep : ∀ {document before after}, Resource.Step agent document before after →
      P before.object → P after.object)
    (hSound : world.Sound) (hDrawn : world.supply.Drawn id)
    (hMove : Move agent admits mayDrop mayOpen world next)
    (h : ∀ resource, world.registry.resource? id = some resource → P resource) :
    ∀ resource, next.registry.resource? id = some resource → P resource := by
  intro resource hResource
  cases hMove.change hSound with
  | quiet hSame => exact h resource ((hSame id).symm.trans hResource)
  | called _ hSame => exact h resource ((hSame id).symm.trans hResource)
  | entered _ _ _ _ _ _ hSame =>
      have hNe : id ≠ world.supply.nextId := by
        rintro rfl
        exact hSound.distinct.not_drawn_nextId hDrawn
      rw [hSame, if_neg hNe] at hResource
      exact h resource hResource
  | dropped _ _ _ hSame =>
      rw [hSame] at hResource
      split at hResource
      · cases hResource
      · exact h resource hResource
  | worked hBefore _ hWork hSame =>
      rw [hSame] at hResource
      split at hResource
      · next heq =>
        obtain rfl := Option.some.inj hResource
        exact hStep hWork (h _ (heq ▸ hBefore))
      · exact h resource hResource

/-- **What every step keeps of a resource, any number of moves keep.** -/
theorem Course.keeps
    (hStep : ∀ {document before after}, Resource.Step agent document before after →
      P before.object → P after.object)
    (hSound : world.Sound) (hDrawn : world.supply.Drawn id)
    (hCourse : Course agent admits mayDrop mayOpen world next)
    (h : ∀ resource, world.registry.resource? id = some resource → P resource) :
    ∀ resource, next.registry.resource? id = some resource → P resource := by
  induction hCourse with
  | refl => exact h
  | tail hBefore hMove ih =>
      exact hMove.keeps hStep (hSound.moves hBefore) (Course.drawn hBefore hDrawn) ih

end keeps

/-! ## What stays of a pool -/

section pools

variable {Q : PoolKind → PoolDocument → Prop}

/-- A pool whose resources change keeps its kind and its document. -/
theorem keeps_insert {otherId : String}
    (hPool : world.registry.pools.get? poolId = some pool) {resources : Table Resource}
    (hPools : next.registry.pools = world.registry.pools.insert poolId { pool with resources })
    (h : ∀ pool, world.registry.pools.get? otherId = some pool → Q pool.kind pool.document) :
    ∀ pool, next.registry.pools.get? otherId = some pool → Q pool.kind pool.document := by
  intro stored hStored
  rw [hPools, Table.get?_insert] at hStored
  split at hStored
  · next heq =>
    obtain rfl := Option.some.inj hStored
    exact h pool (heq ▸ hPool)
  · exact h stored hStored

/-- No move changes the kind or the document of a pool whose id was drawn. -/
theorem Move.keeps_pool (hSound : world.Sound) (hDrawn : world.supply.Drawn poolId)
    (hMove : Move agent admits mayDrop mayOpen world next)
    (h : ∀ pool, world.registry.pools.get? poolId = some pool → Q pool.kind pool.document) :
    ∀ pool, next.registry.pools.get? poolId = some pool → Q pool.kind pool.document := by
  cases hMove with
  | drawId => exact h
  | drawSuffix => exact h
  | callImage => exact h
  | openPool =>
      intro pool hPool
      have hNe : poolId ≠ world.supply.nextId := by
        rintro rfl
        exact hSound.distinct.not_drawn_nextId hDrawn
      simp only [openingPool, Registry.putPool, Table.get?_insert, if_neg hNe] at hPool
      exact h pool hPool
  | closePool =>
      intro pool hPool
      simp only [closingPool, Registry.removePool, Table.get?_erase] at hPool
      split at hPool
      · cases hPool
      · exact h pool hPool
  | enter _ hPool hAdd =>
      obtain ⟨made, rfl, -⟩ := Pool.of_addResource hAdd
      exact keeps_insert hPool rfl h
  | drop _ _ hPool hDrop =>
      obtain ⟨dropped, -, -, rfl⟩ := Pool.of_dropResource hDrop
      exact keeps_insert hPool rfl h
  | work _ hPool => exact keeps_insert hPool rfl h

variable (Q) in
/-- **A pool keeps its kind and its document** through any number of moves. -/
theorem Course.keeps_pool (hSound : world.Sound) (hDrawn : world.supply.Drawn poolId)
    (hCourse : Course agent admits mayDrop mayOpen world next)
    (h : ∀ pool, world.registry.pools.get? poolId = some pool → Q pool.kind pool.document) :
    ∀ pool, next.registry.pools.get? poolId = some pool → Q pool.kind pool.document := by
  induction hCourse with
  | refl => exact h
  | tail hBefore hMove ih =>
      exact hMove.keeps_pool (hSound.moves hBefore) (Course.drawn hBefore hDrawn) ih

/-- The pool was made of a document that had been defined, on the way from `start`. -/
def Opened (agent : Agent σ) (start world : World σ) (poolId : String) : Prop :=
  ∃ (registry : Registry) (name : String) (kind : PoolKind) (params : Params)
    (document : PoolDocument) (before made : World σ),
    registry.definePool name kind params = .ok document ∧
    Course agent (fun _ => True) (fun _ => True) (fun _ => True) start before ∧
    (createPool document).run before = (.ok poolId, made) ∧
    Course agent (fun _ => True) (fun _ => True) (fun _ => True) made world

/-- A pool that was made of a defined document can hold what it promises. -/
theorem Opened.specifies {start : World σ} (hStart : start.Sound)
    (h : Opened agent start world poolId)
    (hPool : world.registry.pools.get? poolId = some pool) :
    pool.kind.Specifies pool.document.spec := by
  obtain ⟨registry, name, kind, params, document, before, made, hDefined, hBefore, hCreate,
    hSince⟩ := h
  have hSpecifies := PoolKind.specifies_of_definePool hDefined
  have hSound : before.Sound := hStart.moves hBefore
  obtain ⟨rfl, rfl⟩ : before.supply.nextId = poolId ∧ before.openingPool document = made := by
    cases hCreate
    exact ⟨rfl, rfl⟩
  refine Course.keeps_pool (fun kind document => kind.Specifies document.spec)
    (hSound.openingPool document) before.drawn_nextId hSince (fun stored hStored => ?_) pool hPool
  simp only [openingPool, Registry.putPool, Table.get?_insert, if_true] at hStored
  obtain rfl := Option.some.inj hStored
  exact hSpecifies

end pools

/-! ## The copy -/

/-- **A copy is made** in every pool that holds resources of the type of its source. -/
theorem run_copyResourceAs_of_found (hSound : world.Sound) {cls : ResourceClass}
    (hSource : world.registry.resource? id = some source)
    (hPool : world.registry.pools.get? destination = some pool)
    (hClass : pool.kind.classFor? source.document.type = some cls) (suffix : String) :
    ∃ copied pool', (copyResourceAs id destination suffix).run world =
        (.ok world.supply.nextId, copied) ∧
      pool'.kind = pool.kind ∧ pool'.document = pool.document ∧
      copied.registry.Stores destination pool' world.supply.nextId
        (cls.build world.supply.nextId (cls.taken (source.copied destination suffix))) := by
  obtain ⟨sourceId, sourcePool, hOwner, hSourcePool, hStored⟩ :=
    Registry.resource?_eq_some_iff.1 hSource
  have hOwn : pool.idText = destination := hSound.registry.idText_pool hPool
  have hCopy : { source.copied destination suffix with pool := some pool.idText } =
      source.copied destination suffix := by
    rw [hOwn]
    rfl
  have hClassOf : pool.classFor (source.copied destination suffix).type = .ok cls :=
    Pool.classFor_eq_ok_iff.2 hClass
  have hBuild : pool.buildResource world.supply.nextId (source.copied destination suffix) =
      .ok (cls.build world.supply.nextId (cls.taken (source.copied destination suffix))) := by
    have hPlace : (source.copied destination suffix).pool = some pool.idText :=
      congrArg some hOwn.symm
    rw [Pool.buildResource, if_neg (not_not.2 hPlace), hClassOf]
    rfl
  let filled : Pool :=
    { pool with
      resources := pool.resources.insert world.supply.nextId
        (cls.build world.supply.nextId (cls.taken (source.copied destination suffix))) }
  have hAdd : pool.addCopy world.supply.nextId (source.copied destination suffix) =
      .ok filled := by
    rw [Pool.addCopy, hClassOf, hCopy]
    show pool.addResource _ _ = _
    rw [Pool.addResource, hBuild]
    rfl
  have hPoolOf : world.registry.poolOf id = .ok sourcePool :=
    Registry.poolOf_eq_ok_iff.2 ⟨sourceId, hOwner, hSourcePool⟩
  have hCopyOf : sourcePool.copyOf id destination suffix =
      .ok (source.copied destination suffix) :=
    Pool.copyOf_eq_ok_iff.2 ⟨source, hStored, rfl⟩
  refine ⟨world.entering destination filled, filled, ?_, rfl, rfl, ?_, ?_, ?_⟩
  · simp only [copyResourceAs, Action.run_bind, run_ask, hPoolOf, Action.run_liftM, hCopyOf,
      Registry.pool_eq_ok_iff.2 hPool, run_freshId, hAdd]
    rfl
  · simp [entering, Registry.enter, Registry.putPool]
  · simp [entering, Registry.enter, Registry.putPool]
  · simp [filled]

/-- **When an unbound volume can be bound to nodes of its pool**: when it has a place there, which
is the same for all of them. -/
theorem exists_run_bind_iff (agent : Agent σ) {nodes : List String}
    (h : world.registry.Stores poolId pool id source) (hVolume : source.behaviour = .volume)
    (hUnbound : source.document.bindings = ∅) (hNodes : nodes ≠ [])
    (hInside : nodes ⊆ pool.document.access) :
    (∃ out bound, (updateResource agent id (.bind nodes)).run world = (.ok out, bound)) ↔
      ∃ place, source.volumeBacking pool.document = .ok place := by
  have hBindable : source.Bindable pool.document nodes ↔
      ∃ place, source.volumeBacking pool.document = .ok place := by
    have hBacking : ∀ node, source.backingFor pool.document node =
        source.volumeBacking pool.document := fun node => by rw [Resource.backingFor, hVolume]
    have hNone : ∀ node, node ∉ source.document.bound := fun node => by
      rw [ResourceDocument.bound, hUnbound]
      exact List.not_mem_nil
    simp only [Resource.Bindable, hBacking]
    constructor
    · intro hAll
      obtain ⟨node, hNode⟩ := List.exists_mem_of_ne_nil nodes hNodes
      exact hAll node hNode (hNone node)
    · exact fun hPlace node _ _ => hPlace
  rw [← hBindable, ← Resource.exists_bound_iff hNodes]
  constructor
  · rintro ⟨out, after, hRun⟩
    obtain ⟨handled, hHandled, -⟩ :=
      handled_of_run_updateResource h.owner h.opened h.stored hRun
    exact ⟨handled.object, (Resource.bound_of_run_bind hHandled).1⟩
  · rintro ⟨bound, hBound⟩
    exact ⟨_, _, (run_updateResource_of_stores agent (.bind nodes) h hInside
      (Resource.run_bind_of_bound world.link hBound)).1⟩

/-! ## The source -/

/-- The resource was made of the definition on the way from `start`, by whatever operation, and
anything may have happened since. -/
def Originates (agent : Agent σ) (start world : World σ) (id : String)
    (definition : ResourceDocument) : Prop :=
  ∃ before made,
    Course agent (fun _ => True) (fun _ => True) (fun _ => True) start before ∧
    (createResource definition).run before = (.ok id, made) ∧
    Course agent (fun _ => True) (fun _ => True) (fun _ => True) made world

/-- **What stays of the definition of a volume**: its name, and whether it is a file without one. -/
theorem Originates.stem {start : World σ} {kind : VolumeKind} {name : String} {params : Params}
    {definition : ResourceDocument} (hStart : start.Sound)
    (hDefined : (ResourceClass.volume kind).define name params = .ok definition)
    (h : Originates agent start world id { definition with pool := some poolId })
    (hSource : world.registry.resource? id = some source) :
    source.behaviour = .volume ∧ source.document.type = .volume ∧ source.document.name = name ∧
      ∃ madeKind stem, source.document.volumeKind = some madeKind ∧
        source.document.recordedName? = some stem ∧
        (madeKind = .file → (stem = none ↔ kind = .file ∧
          (ResourceClass.fileLocation name params).2 = none)) := by
  obtain ⟨hType, hName, hKind, hStem⟩ := ResourceClass.stem_of_define hDefined
  obtain ⟨before, made, hBefore, hCreate, hSince⟩ := h
  have hSound : before.Sound := hStart.moves hBefore
  rcases createResource_cases { definition with pool := some poolId } before with
    ⟨failure, hCase⟩ | ⟨failure, hCase⟩ | ⟨ownId, pool, filled, hOwn, hPool, hAdd, hCase⟩
  · cases hCreate.symm.trans hCase
  · cases hCreate.symm.trans hCase
  · cases hCreate.symm.trans hCase
    -- the pool that took the definition in holds volumes of one kind
    obtain ⟨madeKind, hClass⟩ : ∃ madeKind, pool.kind.classFor? .volume =
        some (.volume madeKind) := by
      obtain ⟨_, -, -, hHoused, hMadeType, -⟩ := Pool.of_addResource hAdd
      obtain ⟨cls, hClass, -⟩ := hHoused.supported
      rw [hMadeType] at hClass
      have hVolume : pool.kind.classFor? .volume = some cls := hType ▸ hClass
      cases cls with
      | volume madeKind => exact ⟨madeKind, hVolume⟩
      | tapPort => cases PoolKind.type_of_classFor? hVolume
    obtain ⟨resource, hBuild, hHosts⟩ := hosts_entering hAdd
    have hTypePlaced : ({ definition with pool := some poolId } : ResourceDocument).type =
        (ResourceClass.volume madeKind).type := hType
    obtain rfl := Pool.of_buildResource hClass hTypePlaced hBuild
    have hMadeStem : ((ResourceClass.volume madeKind).taken
        { definition with pool := some poolId }).recordedName? = _ :=
      ResourceClass.recordedName_taken hTypePlaced hStem
    have hMade : (before.entering ownId filled).Sound := hSound.entering hPool hAdd
    have hDrawn : (before.entering ownId filled).supply.Drawn before.supply.nextId :=
      before.drawn_nextId
    -- nothing since has changed its file name, nor what it is known by
    have hKept : ∀ resource, world.registry.resource? before.supply.nextId = some resource →
        resource.document.recordedName? = _ :=
      Course.keeps (fun hStep hStem => hStep.fileName.trans hStem) hMade hDrawn hSince
        fun resource hResource => by
          obtain rfl := Option.some.inj (hHosts.found.symm.trans hResource)
          exact hMadeStem
    obtain ⟨earlier, hEarlier, hSame⟩ := (hMade.remembers hSince).identity hSource hDrawn
    obtain rfl := Option.some.inj (hHosts.found.symm.trans hEarlier)
    simp only [Resource.identity, Resource.Identity.mk.injEq] at hSame
    obtain ⟨-, hSameName, hSameType, -, hSameKind⟩ := hSame
    have hSourceType : source.document.type = .volume :=
      hSameType.trans (ResourceClass.type_taken.trans hType)
    have hMadeKind : source.document.volumeKind = some madeKind :=
      hSameKind.trans (ResourceClass.volumeKind_taken hType rfl)
    have hBehaviour : source.behaviour = source.document.type := by
      obtain ⟨_, _, -, hOwner, hStored⟩ := Registry.resource?_eq_some_iff.1 hSource
      obtain ⟨_, -, hBehaviour, -⟩ := ((hMade.moves hSince).registry.housed hOwner hStored).supported
      exact hBehaviour
    refine ⟨hBehaviour.trans hSourceType, hSourceType,
      hSameName.trans (ResourceClass.name_taken.trans hName), madeKind, _, hMadeKind,
      hKept source hSource, fun hFile => ?_⟩
    subst hFile
    by_cases hDefinedFile : kind = .file
    · simp [hDefinedFile, hKind]
    · simp [hDefinedFile, hKind]

end World

namespace Engine

variable {σ : Type} {agent : Agent σ}

/-- A run without conditions is a sequence of moves. -/
theorem Run.free {start engine : Engine σ} (h : Run agent (fun _ _ => True) start engine) :
    World.Course agent (fun _ => True) (fun _ => True) (fun _ => True) start.world engine.world :=
  h.moves .of_all fun _ operation _ => operation.admitted_of_all

/-- **Copies of defined volumes.** In an engine that was reached in any way, let a volume be made of
any definition, of any class and with any parameters, by whatever operation and whatever happened to
it since. A copy of it under any suffix can be made in every pool that was defined for volumes. It
has the name of the volume with the suffix, belongs to that pool, is of the kind of volume that the
pool holds, has no storage, no bindings and no location. It can be bound to nodes of the pool, except
where the volume was defined as a file whose path is absolute and has no last part, and both its own
pool and that of the copy hold files. -/
theorem copy_of_defined {start engine : Engine σ} (hVacant : start.Vacant)
    (hDistinct : start.world.supply.Distinct)
    (hRun : Run agent (fun _ _ => True) start engine)
    {kind : VolumeKind} {name poolId id : String} {params : Params}
    {definition : ResourceDocument}
    (hDefined : (ResourceClass.volume kind).define name params = .ok definition)
    (hOrigin : World.Originates agent start.world engine.world id
      { definition with pool := some poolId })
    {source : Resource} (hSource : engine.world.registry.resource? id = some source)
    {destination : String} {pool : Pool} {poolKind : VolumeKind}
    (hPool : engine.world.registry.pools.get? destination = some pool)
    (hOpened : World.Opened agent start.world engine.world destination)
    (hStorage : pool.kind.classFor? .volume = some (.volume poolKind)) (suffix : String) :
    ∃ copyId copied copy,
      (World.copyResourceAs id destination suffix).run engine.world = (.ok copyId, copied) ∧
      copied.registry.resource? copyId = some copy ∧
      copy.document.name = name ++ "_" ++ suffix ∧ copy.document.pool = some destination ∧
      copy.document.volumeKind = some poolKind ∧ copy.document.allocated = false ∧
      copy.document.bindings = ∅ ∧ copy.document.location? = none ∧
      ∀ nodes, nodes ≠ [] → nodes ⊆ pool.document.access →
        ((∃ out bound, (World.updateResource agent copyId (.bind nodes)).run copied =
            (.ok out, bound)) ↔
          ¬(poolKind = .file ∧ source.document.volumeKind = some .file ∧ kind = .file ∧
            FilePath.isAbsolute (params.getD "image_name" name) = true ∧
            FilePath.fileName? (params.getD "image_name" name) = none)) := by
  have hStart : start.world.Sound := hVacant.sound hDistinct
  have hSound : engine.world.Sound := hStart.moves hRun.free
  obtain ⟨hBehaviour, hType, hName, madeKind, stem, hKind, hStem, hNameless⟩ :=
    hOrigin.stem hStart hDefined hSource
  have hClass : pool.kind.classFor? source.document.type = some (.volume poolKind) := by
    rw [hType]
    exact hStorage
  obtain ⟨copied, filled, hCopy, hFilledKind, hFilledDocument, hStores⟩ :=
    World.run_copyResourceAs_of_found hSound hSource hPool hClass suffix
  have hCopyType : (source.copied destination suffix).type = .volume := hType
  have hCopyKind : ((ResourceClass.volume poolKind).taken
      (source.copied destination suffix)).volumeKind = some poolKind :=
    ResourceClass.volumeKind_taken hCopyType rfl
  have hNowhere : ((ResourceClass.volume poolKind).taken
      (source.copied destination suffix)).location? = none :=
    ResourceClass.location_taken.trans (Resource.location_copied destination suffix hBehaviour)
  refine ⟨engine.world.supply.nextId, copied, _, hCopy, hStores.found, ?_,
    ResourceClass.pool_taken, hCopyKind, ResourceClass.allocated_taken,
    ResourceClass.bindings_taken, hNowhere, fun nodes hNodes hInside => ?_⟩
  · show ((ResourceClass.volume poolKind).taken (source.copied destination suffix)).name = _
    rw [ResourceClass.name_taken, ← hName]
    rfl
  · have hOfKind : ((ResourceClass.volume poolKind).build engine.world.supply.nextId
        ((ResourceClass.volume poolKind).taken
          (source.copied destination suffix))).volumeKind = poolKind :=
      congrArg (fun kind => kind.getD .file) hCopyKind
    have hSpecifies : filled.kind.Specifies filled.document.spec := by
      rw [hFilledKind, hFilledDocument]
      exact hOpened.specifies hStart hPool
    have hFilledClass : filled.kind.classFor? .volume = some (.volume poolKind) := by
      rw [hFilledKind]
      exact hStorage
    rw [World.exists_run_bind_iff agent hStores rfl ResourceClass.bindings_taken hNodes
        (hFilledDocument.symm ▸ hInside),
      Resource.exists_volumeBacking_iff hSpecifies (hOfKind.symm ▸ hFilledClass)
        (ResourceClass.recordedName_taken hCopyType
          (Resource.recordedName_copied hBehaviour hStem destination suffix)) hNowhere, hOfKind]
    have hCopied : (source.copied destination suffix).volumeKind = some madeKind := hKind
    rw [hCopied, hKind, ← ResourceClass.fileLocation_eq_none_iff]
    by_cases hFile : poolKind = .file
    · subst hFile
      by_cases hMadeFile : madeKind = .file
      · -- the name of the source is kept, if it has one
        subst hMadeFile
        simp [← hNameless rfl, Option.isSome_iff_ne_none]
      · simp [hMadeFile]
    · simp [hFile]

/-! ## A file at the root -/

/-- What is defined for a file at the root, ... -/
def rootDefinition : ResourceDocument :=
  { id := none, name := "vol", type := .volume, pool := none, allocated := false, bindings := ∅
    volumeKind := some .file, raw := false
    spec := .volume { size := 10, allocation := none, uri := some "/", filename := none } }

/-- ... by parameters that give its path but no name. -/
def rootParams : Params := .ofList [("image_name", "/"), ("image_size", "10")]

theorem define_root : (ResourceClass.volume .file).define "vol" rootParams = .ok rootDefinition := by
  have hSize : Size.parse (rootParams.getD "image_size" defaultVolumeSize) = .ok 10 := by
    decide +kernel
  show ResourceClass.defineVolume .file "vol" rootParams = _
  rw [ResourceClass.defineVolume, hSize]
  rfl

/-- An engine with a pool of files, ... -/
def filing : Engine Unit := smallest.after .willing (.createPool World.directoryPool)

/-- ... with that volume in it, ... -/
def rooted : Engine Unit :=
  filing.after .willing (.createResource { rootDefinition with pool := some "" })

/-- ... and with a pool of devices. -/
def devicePool : PoolDocument :=
  { id := none, name := "disks", kind := .lvm, access := [everyNode]
    spec := { PoolSpec.none with lvm := some ⟨"vg"⟩ } }

def devised : Engine Unit := rooted.after .willing (.createPool devicePool)

theorem definePool_directoryPool :
    smallest.world.registry.definePool "files" .filesystem (.ofList [("path", "/pool")]) =
      .ok World.directoryPool := by
  decide +kernel

theorem definePool_devicePool :
    rooted.world.registry.definePool "disks" .lvm (.ofList [("volume_group", "vg")]) =
      .ok devicePool := by
  decide +kernel

theorem run_devised : Run .willing (fun _ _ => True) smallest devised :=
  ((Run.start.step trivial).step trivial).step trivial

theorem opened_files : World.Opened .willing smallest.world devised.world "" :=
  ⟨_, _, _, _, _, smallest.world, filing.world, definePool_directoryPool, .refl, rfl,
    ((Run.start.step trivial).step trivial : Run .willing (fun _ _ => True) filing devised).free⟩

theorem opened_devices : World.Opened .willing smallest.world devised.world "ii" :=
  ⟨_, _, _, _, _, rooted.world, devised.world, definePool_devicePool,
    ((Run.start.step trivial).step trivial : Run .willing (fun _ _ => True) smallest rooted).free,
    rfl, .refl⟩

theorem originates_root :
    World.Originates .willing smallest.world devised.world "i"
      { rootDefinition with pool := some "" } := by
  have hBefore : Run .willing (fun _ _ => True) smallest filing := Run.start.step trivial
  have hSince : Run .willing (fun _ _ => True) rooted devised := Run.start.step trivial
  exact ⟨filing.world, rooted.world, hBefore.free, rfl, hSince.free⟩

/-- The volume is copied to the devices and bound there. Its copy among the files is made, and
cannot be bound. -/
theorem copy_of_defined_root :
    (∃ copyId copied copy,
      (World.copyResourceAs "i" "ii" "s").run devised.world = (.ok copyId, copied) ∧
      copied.registry.resource? copyId = some copy ∧ copy.document.name = "vol_s" ∧
      copy.document.volumeKind = some .block ∧
      ∃ out bound, (World.updateResource .willing copyId (.bind ["n"])).run copied =
        (.ok out, bound)) ∧
    ∃ copyId copied copy,
      (World.copyResourceAs "i" "" "s").run devised.world = (.ok copyId, copied) ∧
      copied.registry.resource? copyId = some copy ∧ copy.document.volumeKind = some .file ∧
      ¬∃ out bound, (World.updateResource .willing copyId (.bind ["n"])).run copied =
        (.ok out, bound) := by
  obtain ⟨source, hSource, hSourceKind⟩ : ∃ source,
      devised.world.registry.resource? "i" = some source ∧
        source.document.volumeKind = some .file := ⟨_, rfl, rfl⟩
  obtain ⟨devices, hDevices, hHoldsDevices, hDeviceNodes⟩ : ∃ pool,
      devised.world.registry.pools.get? "ii" = some pool ∧
        pool.kind.classFor? .volume = some (.volume .block) ∧ pool.document.access = ["n"] :=
    ⟨_, rfl, rfl, rfl⟩
  obtain ⟨files, hFiles, hHoldsFiles, hFileNodes⟩ : ∃ pool,
      devised.world.registry.pools.get? "" = some pool ∧
        pool.kind.classFor? .volume = some (.volume .file) ∧ pool.document.access = ["n"] :=
    ⟨_, rfl, rfl, rfl⟩
  have hNode : ["n"] ≠ [] := by simp
  constructor
  · obtain ⟨copyId, copied, copy, hCopy, hFound, hName, -, hKind, -, -, -, hBind⟩ :=
      copy_of_defined (vacant_vacant _ _ _ _) Supply.strokes_distinct run_devised define_root
        originates_root hSource hDevices opened_devices hHoldsDevices "s"
    refine ⟨copyId, copied, copy, hCopy, hFound, hName, hKind, ?_⟩
    exact (hBind ["n"] hNode (by rw [hDeviceNodes]; exact List.Subset.refl _)).2 (by simp)
  · obtain ⟨copyId, copied, copy, hCopy, hFound, -, -, hKind, -, -, -, hBind⟩ :=
      copy_of_defined (vacant_vacant _ _ _ _) Supply.strokes_distinct run_devised define_root
        originates_root hSource hFiles opened_files hHoldsFiles "s"
    refine ⟨copyId, copied, copy, hCopy, hFound, hKind, ?_⟩
    rw [hBind ["n"] hNode (by rw [hFileNodes]; exact List.Subset.refl _), not_not]
    exact ⟨rfl, hSourceKind, rfl, by decide +kernel, by decide +kernel⟩

/-- **A copy that cannot be bound.** The copy of the file at the root in its own pool is made, but
bound to the node of the pool it is refused: it has no location and no file name. -/
theorem copy_of_root_unplaced :
    Run .willing (fun _ _ => True) smallest devised ∧
    (ResourceClass.volume .file).define "vol" rootParams = .ok rootDefinition ∧
    World.Originates .willing smallest.world devised.world "i"
      { rootDefinition with pool := some "" } ∧
    World.Opened .willing smallest.world devised.world "" ∧
    (∃ pool, devised.world.registry.pools.get? "" = some pool ∧
      pool.kind.classFor? .volume = some (.volume .file) ∧ pool.document.access = ["n"]) ∧
    ∃ copied, (World.copyResourceAs "i" "" "s").run devised.world = (.ok "iii", copied) ∧
      ((World.updateResource .willing "iii" (.bind ["n"])).run copied).1 =
        .error (.invalidRequest (.noFilesystem "" "vol_s")) :=
  ⟨run_devised, define_root, originates_root, opened_files, ⟨_, rfl, rfl, rfl⟩, _, rfl, rfl⟩

end Engine

end DiskFleet
