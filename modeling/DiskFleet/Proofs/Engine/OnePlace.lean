import DiskFleet.Agent.InMemory
import DiskFleet.Proofs.Engine.Arrival
import DiskFleet.Proofs.Registry.Place

/-!
# A volume lies in one place

Where a volume lies follows from its definition and its pool (`ResourceClass.placeOf`). The engine
computes the place anew for every binding, from what is recorded of the volume at the time: a file
volume lies where its `uri` says, if it has one, and otherwise under its file name in the directory
of the pool. The `uri` in turn is what the agent reported when the storage was made, and the agent
that keeps everything in memory reports the binding of the node that it was asked on.

`Located` is the invariant that closes the circle: whatever is computed, bound or recorded is the
place of the definition. Every command keeps it, if the agent reports bindings and nothing else.

## Main results

* `InMemoryAgent.reportsBindings`: the agent in memory does so, whatever it remembers;
* `volume_lies_in_one_place`: every binding is to the place of the definition, and so is the `uri`.
-/

namespace DiskFleet

/-- Where a volume of a class lies that is made of a definition. -/
def ResourceClass.placeOf (cls : ResourceClass) (pool : PoolDocument)
    (definition : ResourceDocument) : Except Failure String :=
  (cls.build "" (cls.taken definition)).volumeBacking pool

/-- The location that is recorded of a volume. -/
def ResourceDocument.location? (resource : ResourceDocument) : Option String :=
  resource.spec.volume?.bind (·.uri)

theorem ResourceDocument.location_of_volume {resource : ResourceDocument} {spec : VolumeSpec}
    (h : resource.spec = .volume spec) : resource.location? = spec.uri := by
  rw [location?, h]
  rfl

/-- A location that is recorded after a change of the specification is what the change made it. -/
theorem ResourceDocument.of_location_mapVolume {before after : ResourceDocument} {place : String}
    {f : VolumeSpec → VolumeSpec} (hSpec : after.spec = before.spec.mapVolume f)
    (h : after.location? = some place) :
    ∃ spec, before.location? = spec.uri ∧ (f spec).uri = some place := by
  cases hBefore : before.spec with
  | port spec =>
      rw [location?, hSpec, hBefore] at h
      cases h
  | volume spec =>
      rw [hBefore] at hSpec
      exact ⟨spec, location_of_volume hBefore, (location_of_volume hSpec).symm.trans h⟩

/-! ## Places that are computed -/

namespace Resource

variable {pool : PoolDocument} {resource after : Resource} {place : String}

/-- A place depends on the kind, the name and the specification of the volume only. -/
theorem volumeBacking_congr (hSpec : after.document.spec = resource.document.spec)
    (hName : after.document.name = resource.document.name)
    (hKind : after.document.volumeKind = resource.document.volumeKind) :
    after.volumeBacking pool = .ok place ↔ resource.volumeBacking pool = .ok place := by
  have hSame : after.volumeKind = resource.volumeKind := by rw [volumeKind, volumeKind, hKind]
  unfold volumeBacking volumeSpec
  rw [hSpec, hName, hSame]
  cases resource.document.spec <;> simp [ResourceSpec.volume?, Bind.bind, Except.bind]

/-- A volume whose location is recorded lies there, if it is a file. -/
theorem volumeBacking_of_location (hKind : resource.volumeKind = .file)
    (h : resource.document.location? = some place) : resource.volumeBacking pool = .ok place := by
  obtain ⟨spec, hSpec, hUri⟩ := Option.bind_eq_some_iff.1 h
  unfold volumeBacking volumeSpec
  rw [hSpec, hKind]
  simp only [Bind.bind, Except.bind, hUri]
  rfl

/-- **A change of the specification moves a volume only to a location that it records**, as long as
the file name stays and no location is forgotten. -/
theorem volumeBacking_mapVolume {f : VolumeSpec → VolumeSpec}
    (hSpec : after.document.spec = resource.document.spec.mapVolume f)
    (hName : after.document.name = resource.document.name)
    (hKind : after.document.volumeKind = resource.document.volumeKind)
    (hFilename : ∀ spec, (f spec).filename = spec.filename)
    (hUri : ∀ spec, (f spec).uri = none → spec.uri = none)
    (h : after.volumeBacking pool = .ok place) :
    after.document.location? = some place ∨ resource.volumeBacking pool = .ok place := by
  have hSame : after.volumeKind = resource.volumeKind := by rw [volumeKind, volumeKind, hKind]
  cases hBefore : resource.document.spec with
  | port spec =>
      rw [hBefore] at hSpec
      rw [volumeBacking, volumeSpec, hSpec] at h
      cases h
  | volume spec =>
      rw [hBefore] at hSpec
      have hLocation := ResourceDocument.location_of_volume hSpec
      by_cases hFile : resource.volumeKind = .file
      · have hAfterFile : after.volumeKind = .file := hSame.trans hFile
        cases hAfter : (f spec).uri with
        | some found =>
            have hFound := hLocation.trans hAfter
            rw [volumeBacking_of_location hAfterFile hFound] at h
            exact .inl (hFound.trans (congrArg some (Except.ok.inj h)))
        | none =>
            obtain ⟨filesystem, filename, hFilesystem, hStem, hPlace⟩ :=
              (volumeBacking_file hSpec hAfterFile hAfter).1 h
            exact .inr ((volumeBacking_file hBefore hFile (hUri spec hAfter)).2
              ⟨filesystem, filename, hFilesystem, (hFilename spec).symm.trans hStem, hPlace⟩)
      · obtain ⟨folder, hFolder, hPlace⟩ := (volumeBacking_device hSpec (hSame ▸ hFile)).1 h
        exact .inr ((volumeBacking_device hBefore hFile).2
          ⟨folder, hSame ▸ hFolder, hName ▸ hPlace⟩)

end Resource

/-! ## Places that are reported -/

/-- The location in a report. -/
def reportedPlace? (out : Json) : Option String := (out.get? "uri").bind Json.asText?

theorem Resource.reportedText_uri (out : Json) (before : Option String) :
    reportedText out "uri" before = (reportedPlace? out).or before := by
  unfold reportedText reportedPlace?
  cases (out.get? "uri").bind Json.asText? <;> rfl

/-- An agent that says of a volume at most that it lies where the asked node is bound to it. -/
def ReportsBindings {σ : Type} (agent : Agent σ) : Prop :=
  ∀ {pool : PoolDocument} {volume : Resource} {link : Link σ} {node method : String}
    {args : Arguments} {place : String}, volume.document.type = .volume →
    reportedPlace? (link.exchange agent (volume.callOf pool node method args)).out = some place →
      volume.document.bindings.get? node = some place

/-- The document of a volume says that it is one, ... -/
theorem ResourceDocument.type_toJson (document : ResourceDocument) :
    (((document.toJson.member "meta").member "type").asText?) = some document.type.word := by
  simp only [toJson, metaToJson, Json.member, Json.get?]
  cases document.raw <;> simp [lookup_cons_eq]

/-- ... and the backing of each bound node. -/
theorem ResourceDocument.backing_toJson (document : ResourceDocument) (node : String) :
    ((((document.toJson.member "meta").member "bindings").member node).member "backing").asText? =
      document.bindings.get? node := by
  have hBindings : (document.toJson.member "meta").member "bindings" =
      .ofSortedMap bindingToJson document.bindings := rfl
  have hBinding : (Json.ofSortedMap bindingToJson document.bindings).member node =
      ((document.bindings.get? node).map bindingToJson).getD .null :=
    congrArg (·.getD .null) (lookup_map_snd bindingToJson node document.bindings.entries)
  rw [hBindings, hBinding]
  cases document.bindings.get? node <;> rfl

/-- **The agent in memory reports bindings and nothing else**, whatever it remembers. -/
theorem InMemoryAgent.reportsBindings : ReportsBindings InMemoryAgent.respond := by
  intro pool volume link node method args place hType h
  -- a failure that is set may have status zero, but its output is a text
  cases hFailure : link.memory.failure? (volume.callOf pool node method args) with
  | some failure =>
      simp only [Link.exchange, respond, hFailure, Exchange.out] at h
      cases h
  | none =>
      have hService : (volume.callOf pool node method args).service ≠ Call.imageService :=
        show Call.resourceService ≠ Call.imageService by decide
      have hOut : (link.exchange respond (volume.callOf pool node method args)).out =
          (link.memory.resourceOutput (volume.callOf pool node method args)).1 := by
        simp only [Link.exchange, respond, hFailure, if_neg hService]
        rfl
      have hResource : (volume.callOf pool node method args).args.member "resource" =
          volume.document.toJson := rfl
      have hVolume : (some ResourceType.volume.word == some "port") = false := by decide
      rw [hOut, resourceOutput, hResource] at h
      simp only [ResourceDocument.type_toJson, hType, hVolume, Bool.false_eq_true, if_false] at h
      split at h
      · exact (ResourceDocument.backing_toJson _ node).symm.trans h
      · -- any other reply says nothing about the location
        split at h <;> cases h

/-! ## The volume -/

/-- A volume lies where its definition places it: what is computed, bound or recorded of it is that
place. -/
structure Located (pool : PoolDocument) (place? : Except Failure String) (volume : Resource) :
    Prop where
  behaviour : volume.behaviour = .volume
  type : volume.document.type = .volume
  computed : ∀ {place}, volume.volumeBacking pool = .ok place → place? = .ok place
  bound : ∀ {node place}, volume.document.bindings.get? node = some place → place? = .ok place
  recorded : ∀ {place}, volume.document.location? = some place → place? = .ok place

namespace Located

variable {σ : Type} {agent : Agent σ} {pool : PoolDocument} {place? : Except Failure String}
  {volume : Resource} {link : Link σ}

/-- Other bindings, to the place. -/
theorem rebound (h : Located pool place? volume) {bindings : SortedMap String}
    (hBound : ∀ {node place}, bindings.get? node = some place → place? = .ok place) :
    Located pool place? { volume with document.bindings := bindings } :=
  { h with
    computed := fun hComputed => h.computed ((Resource.volumeBacking_congr rfl rfl rfl).1 hComputed)
    bound := hBound }

/-- Another specification, with the file name and the location that were known, or with the place
for its location. -/
theorem respecified (h : Located pool place? volume) {after : Resource}
    {f : VolumeSpec → VolumeSpec} (hSpec : after.document.spec = volume.document.spec.mapVolume f)
    (hBindings : after.document.bindings = volume.document.bindings)
    (hKept : after.identity = volume.identity ∧ after.behaviour = volume.behaviour)
    (hFilename : ∀ spec, (f spec).filename = spec.filename)
    (hUri : ∀ spec, (f spec).uri = spec.uri ∨
      ∃ place, (f spec).uri = some place ∧ place? = .ok place) :
    Located pool place? after := by
  obtain ⟨hSame, hBehaviour⟩ := hKept
  have hName : after.document.name = volume.document.name := congrArg (·.name) hSame
  have hType : after.document.type = volume.document.type := congrArg (·.type) hSame
  have hKind : after.document.volumeKind = volume.document.volumeKind :=
    congrArg (·.volumeKind) hSame
  have hRecorded : ∀ {place}, after.document.location? = some place → place? = .ok place := by
    intro place hLocation
    obtain ⟨spec, hBefore, hPlace⟩ := ResourceDocument.of_location_mapVolume hSpec hLocation
    rcases hUri spec with hOld | ⟨found, hFound, hSettled⟩
    · exact h.recorded (hBefore.trans (hOld.symm.trans hPlace))
    · obtain rfl := Option.some.inj (hFound.symm.trans hPlace)
      exact hSettled
  have hForgets : ∀ spec, (f spec).uri = none → spec.uri = none := by
    intro spec hNone
    rcases hUri spec with hOld | ⟨found, hFound, -⟩
    · exact hOld.symm.trans hNone
    · cases hNone.symm.trans hFound
  refine ⟨hBehaviour.trans h.behaviour, hType.trans h.type, fun hComputed => ?_,
    fun hBinding => h.bound (hBindings ▸ hBinding), hRecorded⟩
  -- what is computed now is a location that is recorded, or what was computed before
  rcases Resource.volumeBacking_mapVolume hSpec hName hKind hFilename hForgets hComputed with
    hNew | hOld
  · exact hRecorded hNew
  · exact h.computed hOld

/-- A report that names the place, if any. -/
theorem reportedText_uri_cases {out : Json}
    (hOut : ∀ {place}, reportedPlace? out = some place → place? = .ok place)
    (before : Option String) :
    Resource.reportedText out "uri" before = before ∨
      ∃ place, Resource.reportedText out "uri" before = some place ∧ place? = .ok place := by
  rw [Resource.reportedText_uri]
  cases hPlace : reportedPlace? out with
  | none => exact .inl rfl
  | some place => exact .inr ⟨place, rfl, hOut hPlace⟩

theorem allocatedAs (h : Located pool place? volume) {out : Json}
    (hOut : ∀ {place}, reportedPlace? out = some place → place? = .ok place) :
    Located pool place? (volume.allocatedAs out) := by
  have hSpec : (volume.allocatedAs out).document.spec =
      volume.document.spec.mapVolume fun spec =>
        { spec with
          uri := Resource.reportedText out "uri" spec.uri
          allocation := (out.get? "allocation").bind Json.asWord64? } := by
    simp only [Resource.allocatedAs, Resource.specAllocated, h.behaviour]
  exact h.respecified hSpec rfl ⟨rfl, rfl⟩ (fun _ => rfl) fun spec =>
    reportedText_uri_cases hOut spec.uri

theorem syncedAs (h : Located pool place? volume) {out : Json}
    (hOut : ∀ {place}, reportedPlace? out = some place → place? = .ok place) :
    Located pool place? (volume.syncedAs out) := by
  have hSpec : (volume.syncedAs out).document.spec =
      volume.document.spec.mapVolume fun spec =>
        { spec with
          uri := Resource.reportedText out "uri" spec.uri
          allocation := ((out.get? "allocation").bind Json.asWord64?).or spec.allocation
          size := ((out.get? "size").bind Json.asWord64?).getD spec.size } := by
    simp only [Resource.syncedAs, Resource.specSynced, h.behaviour]
    cases (out.get? "allocation").bind Json.asWord64? <;> rfl
  exact h.respecified hSpec rfl ⟨rfl, rfl⟩ (fun _ => rfl) fun spec =>
    reportedText_uri_cases hOut spec.uri

theorem released (h : Located pool place? volume) : Located pool place? volume.released := by
  have hSpec : volume.released.document.spec =
      volume.document.spec.mapVolume fun spec => { spec with allocation := none } := by
    simp only [Resource.released, Resource.specReleased, h.behaviour]
  exact h.respecified hSpec rfl ⟨rfl, rfl⟩ (fun _ => rfl) fun _ => .inl rfl

theorem sized (h : Located pool place? volume) (size : UInt64) :
    Located pool place? (volume.sized size) :=
  h.respecified (f := fun spec => { spec with size }) rfl rfl ⟨rfl, rfl⟩ (fun _ => rfl)
    fun _ => .inl rfl

/-- **A command leaves a volume where it is**, if its agent only reports bindings. -/
theorem step (h : Located pool place? volume) (hAgent : ReportsBindings agent)
    {after : Linked σ Resource} (hStep : Resource.Step agent pool ⟨volume, link⟩ after) :
    Located pool place? after.object := by
  cases hStep with
  | stayed => exact h
  | declined => exact h
  | @bound _ after _ nodes hBound =>
      rw [Resource.eq_of_bound hBound]
      refine h.rebound fun hBinding => ?_
      rcases Resource.backing_of_bound hBound hBinding with hOld | hNew
      · exact h.bound hOld
      · rw [Resource.backingFor, h.behaviour] at hNew
        exact h.computed hNew
  | @unbound _ after _ nodes hUnbound =>
      rw [Resource.eq_of_unbound hUnbound]
      exact h.rebound fun hBinding => h.bound (Resource.backing_of_unbound hUnbound hBinding)
  | sized => exact h.sized _
  | grown => exact h.sized _
  | released => exact h.released
  | allocated => exact h.allocatedAs fun hPlace => h.bound (hAgent h.type hPlace)
  | synced => exact h.syncedAs fun hPlace => h.bound (hAgent h.type hPlace)

end Located

/-! ## Arrival and commands -/

namespace ResourceClass

variable {cls : ResourceClass} {kind : VolumeKind} {definition : ResourceDocument}

/-- A class takes a definition in without a look at its pool, ... -/
theorem taken_inPool (pool : Option String) :
    cls.taken { definition with pool } = { cls.taken definition with pool } := by
  unfold taken
  split
  · rcases cls with (_ | _ | _) | _ <;> rfl
  · rfl

/-- ... and keeps the location that is recorded. -/
theorem location_taken : (cls.taken definition).location? = definition.location? := by
  unfold taken
  split
  · rcases cls with (_ | _ | _) | _ <;> cases hSpec : definition.spec <;>
      simp [adopt, ResourceDocument.location?, hSpec, ResourceSpec.mapVolume, ResourceSpec.volume?]
  · rfl

/-- Only files are defined with a location. -/
theorem location_of_define {name : String} {params : Params}
    (h : (volume kind).define name params = .ok definition) (hKind : kind ≠ .file) :
    definition.location? = none := by
  obtain ⟨size, -, hPure⟩ := Action.bind_eq_ok_iff.1 h
  rw [if_neg hKind] at hPure
  obtain rfl := Except.ok.inj hPure
  rfl

end ResourceClass

/-- A copy has no location yet. -/
theorem Resource.location_copied {resource : Resource} (pool suffix : String)
    (h : resource.behaviour = .volume) : (resource.copied pool suffix).location? = none := by
  unfold ResourceDocument.location? copied
  rw [h]
  cases resource.document.spec <;> rfl

namespace World

variable {world created : World InMemoryAgent} {poolId id : String} {pool : Pool}
  {kind : VolumeKind} {definition : ResourceDocument}

/-- The world with other scripts for the agent in memory: other failures, another allocation to
report. -/
def scripted (change : InMemoryAgent → InMemoryAgent) (world : World InMemoryAgent) :
    World InMemoryAgent :=
  { world with link.memory := change world.link.memory }

/-- The world after commands for one resource, in turn, each of them after a change of the scripts
of the agent. -/
def conducting (id : String) (world : World InMemoryAgent)
    (steps : List ((InMemoryAgent → InMemoryAgent) × ResourceCommand)) : World InMemoryAgent :=
  steps.foldl (fun world step =>
    ((updateResource InMemoryAgent.respond id step.2).run (world.scripted step.1)).2) world

/-- **What a run of commands leaves of a volume**: it stays where it is. -/
theorem located_conducting {document : PoolDocument} {place? : Except Failure String}
    (steps : List ((InMemoryAgent → InMemoryAgent) × ResourceCommand)) :
    ∀ {world : World InMemoryAgent} {volume : Resource},
      world.Hosts document id volume → Located document place? volume →
      ∃ after, (world.conducting id steps).Hosts document id after ∧
        Located document place? after := by
  induction steps with
  | nil => exact fun hHosts hLocated => ⟨_, hHosts, hLocated⟩
  | cons step rest ih =>
      intro world volume hHosts hLocated
      have hScripted : (world.scripted step.1).Hosts document id volume := hHosts
      obtain ⟨after, hAfter, -, hStep⟩ :=
        hosts_updateResource InMemoryAgent.respond step.2 hScripted
      exact ih hAfter (hLocated.step InMemoryAgent.reportsBindings hStep)

/-- A volume arrives at the place of its definition. -/
theorem Arrives.located (h : Arrives (.volume kind) poolId world created id definition) :
    Located pool.document ((ResourceClass.volume kind).placeOf pool.document definition)
      ((ResourceClass.volume kind).build id
        ((ResourceClass.volume kind).taken
          { definition with pool := some pool.idText })) := by
  obtain ⟨hType, -, hUnbound⟩ := h.idle
  rw [ResourceClass.taken_inPool]
  have hComputed : ∀ {place}, ((ResourceClass.volume kind).build id
      { (ResourceClass.volume kind).taken definition with
        pool := some pool.idText }).volumeBacking pool.document = .ok place →
      (ResourceClass.volume kind).placeOf pool.document definition = .ok place := by
    intro place hPlace
    unfold ResourceClass.placeOf
    refine (Resource.volumeBacking_congr ?_ ?_ ?_).1 hPlace <;> rfl
  refine ⟨rfl, ResourceClass.type_taken.trans hType, hComputed, fun hBinding => ?_,
    fun hLocation => ?_⟩
  · have hNone : ((ResourceClass.volume kind).taken definition).bindings.get? _ = _ := hBinding
    rw [ResourceClass.bindings_taken, hUnbound] at hNone
    cases hNone
  · have hRecorded : definition.location? = _ :=
      ResourceClass.location_taken.symm.trans hLocation
    have hFile : kind = .file := by
      by_contra hOther
      cases h with
      | defined hDefined =>
          have hNone := ResourceClass.location_of_define hDefined hOther
          cases hRecorded.symm.trans hNone
      | copied _ hBehaviour =>
          cases hRecorded.symm.trans (Resource.location_copied _ _ hBehaviour)
    refine hComputed (Resource.volumeBacking_of_location ?_ hLocation)
    show Option.getD ((ResourceClass.volume kind).taken definition).volumeKind .file = .file
    rw [ResourceClass.volumeKind_taken hType rfl, hFile]
    rfl

/-- **A volume lies in one place**, wherever and however often it is bound, whatever commands it
gets and whatever the scripts of the agent let fail in between: the place that follows from its
definition and its pool. Every binding is to that place, and a location that is recorded is that
place. -/
theorem volume_lies_in_one_place (hPool : world.registry.pools.get? poolId = some pool)
    (hKind : pool.kind.classFor? .volume = some (.volume kind))
    (hArrives : Arrives (.volume kind) poolId world created id definition)
    (steps : List ((InMemoryAgent → InMemoryAgent) × ResourceCommand)) :
    ∃ volume, (created.conducting id steps).registry.resource? id = some volume ∧
      (∀ node backing, volume.document.bindings.get? node = some backing →
        (ResourceClass.volume kind).placeOf pool.document definition = .ok backing) ∧
      ∀ uri, volume.document.location? = some uri →
        (ResourceClass.volume kind).placeOf pool.document definition = .ok uri := by
  have hClass : pool.kind.classFor? (ResourceClass.volume kind).type = some (.volume kind) := hKind
  obtain ⟨hHosts, -⟩ := hArrives.hosted hPool hClass
  obtain ⟨after, hAfter, hLocated⟩ := located_conducting steps hHosts hArrives.located
  exact ⟨after, hAfter.found, fun _ _ hBinding => hLocated.bound hBinding,
    fun _ hUri => hLocated.recorded hUri⟩

/-! ## A volume file on two nodes -/

/-- What the kind of filesystem pools defines for a directory. -/
def directoryPool : PoolDocument :=
  { id := none, name := "files", kind := .filesystem, access := [everyNode]
    spec := { PoolSpec.none with filesystem := some ⟨"/pool"⟩ } }

/-- A world with that pool, whose agent is the one in memory. -/
def furnished : World InMemoryAgent :=
  ((createPool directoryPool).run
    (Engine.vacant (Cluster.ofNames ["a", "b"]) ImageSettings.default Supply.strokes
      InMemoryAgent.fresh).world).2

/-- The world once a volume file is created. -/
def filed : World InMemoryAgent :=
  ((createResource { diskDefinition with pool := some "" }).run furnished).2

theorem arrives_disk :
    Arrives (.volume .file) "" furnished filed "i" { diskDefinition with pool := some "" } :=
  .defined define_disk rfl

/-- Its storage is made at the second attempt, is freed again and looked at, and the node that it
was made on is left and comes back. -/
def comingAndGoing : List ((InMemoryAgent → InMemoryAgent) × ResourceCommand) :=
  [(fun agent => agent, .bind ["a"]),
    (fun agent => agent.failing "allocate" 5 "no space left", .allocate ∅),
    (fun agent => agent.clearing "allocate", .allocate ∅),
    (fun agent => agent, .bind ["b"]),
    (fun agent => agent, .release ∅),
    (fun agent => { agent with syncAllocation := 4096 }, .sync ∅),
    (fun agent => agent, .unbind ["a"]),
    (fun agent => agent, .bind ["a"])]

/-- All the time the volume lies under its file name in the directory of the pool. -/
theorem volume_lies_in_one_place_directory :
    PoolKind.filesystem.define "files" (.ofList [("path", "/pool")]) = .ok directoryPool ∧
      ∃ volume, (filed.conducting "i" comingAndGoing).registry.resource? "i" = some volume ∧
        volume.document.bound = ["a", "b"] ∧ volume.document.location?.isSome = true ∧
        (∀ node backing, volume.document.bindings.get? node = some backing →
          backing = "/pool/disk.qcow2") ∧
        ∀ uri, volume.document.location? = some uri → uri = "/pool/disk.qcow2" := by
  obtain ⟨pool, hPool, hKind, hPlace⟩ : ∃ pool, furnished.registry.pools.get? "" = some pool ∧
      pool.kind.classFor? .volume = some (.volume .file) ∧
      (ResourceClass.volume .file).placeOf pool.document { diskDefinition with pool := some "" } =
        .ok "/pool/disk.qcow2" := ⟨_, rfl, rfl, rfl⟩
  have hState : ((filed.conducting "i" comingAndGoing).registry.resource? "i").map
      (fun volume => (volume.document.bound, volume.document.location?.isSome)) =
        some (["a", "b"], true) := by
    decide +kernel
  obtain ⟨volume, hFound, hBindings, hUri⟩ :=
    volume_lies_in_one_place hPool hKind arrives_disk comingAndGoing
  rw [hFound] at hState
  obtain ⟨hBound, hRecorded⟩ := Prod.mk.inj (Option.some.inj hState)
  refine ⟨rfl, volume, hFound, hBound, hRecorded, fun node backing hBinding => ?_,
    fun uri hLocation => ?_⟩
  · exact Except.ok.inj ((hBindings node backing hBinding).symm.trans hPlace)
  · exact Except.ok.inj ((hUri uri hLocation).symm.trans hPlace)

end World

end DiskFleet
