import DiskFleet.Engine.Basic
import DiskFleet.Proofs.Image.Move

/-!
# Runs of the engine

A client works on the engine through its operations, in any order, and each of them may succeed or
fail. `Operation` lists them with their arguments, `after` is the engine that one leaves behind, and
a `Run` is any number of them from a given engine on. What the client is free to do is a condition
on each step of the run.

Whatever the operations are, the world of the engine goes through the moves of
`DiskFleet.Proofs.Registry.Move`. The definitions that are entered on the way are those the client
hands in and those the engine makes by itself (`Operation.Admitted`), and the pools that are made
are those of the client (`Operation.Opens`).

The `smallest` engine, with one node, a supply in `strokes` and `willing` agents, is there to try
statements about runs on.

## Main results

* `createImage_cases`, `run_cloneImage`: which image an operation registers;
* `course_after`: one operation is a sequence of moves of the world;
* `Run.course`, `Run.moves`: so is a run.
-/

namespace DiskFleet

namespace Supply

/-- Every suffix has the length that it was asked for. -/
def Sized (supply : Supply) : Prop :=
  ∀ length n, (supply.suffixText length n).length = length

/-- The supply that writes the number of an id in strokes, and that of a suffix at the end of a text
of the length of the suffix. -/
def strokes : Supply :=
  { idText := fun n => String.ofList (List.replicate n 'i')
    suffixText := fun length n =>
      String.ofList (List.replicate (length - n) 'o' ++ List.replicate (min n length) 's')
    ids := 0, suffixes := 0 }

theorem strokes_distinct : strokes.Distinct := by
  intro i j h
  have hLength := congrArg (fun text => text.toList.length) h
  simpa [strokes] using hLength

theorem strokes_sized : strokes.Sized := by
  intro length n
  simp only [strokes, String.length_ofList, List.length_append, List.length_replicate]
  omega

end Supply

/-- Agents that accept every call and report nothing. -/
def Agent.willing : Agent Unit := fun memory _ => (.ok (.succeeded .null), memory)

namespace Engine

variable {σ α : Type}

/-- What a client can ask of the engine. -/
inductive Operation
  | createPool (document : PoolDocument)
  | destroyPool (id : String)
  | createResource (definition : ResourceDocument)
  | copyResource (resource destination : String)
  | copyResourceAs (resource destination suffix : String)
  | cloneResource (resource : String)
  | destroyResource (id : String)
  | updateResource (id : String) (command : ResourceCommand)
  | requestResource (id : String) (request : Json)
  | createImage (document : Image)
  | destroyImage (id : String)
  | updateImage (id : String) (command : ImageCommand)
  | requestImage (id : String) (request : Json)
  | cloneImage (id : String)
  | backupImage (id : String)
  | restoreImage (id : String)

/-- The engine after an operation, whatever that answered. -/
def after (agent : Agent σ) (engine : Engine σ) : Operation → Engine σ
  | .createPool document => ((onWorld (World.createPool document)).run engine).2
  | .destroyPool id => ((onWorld (World.destroyPool id)).run engine).2
  | .createResource definition => ((onWorld (World.createResource definition)).run engine).2
  | .copyResource resource destination =>
    ((onWorld (World.copyResource resource destination)).run engine).2
  | .copyResourceAs resource destination suffix =>
    ((onWorld (World.copyResourceAs resource destination suffix)).run engine).2
  | .cloneResource resource => ((onWorld (World.cloneResource agent resource)).run engine).2
  | .destroyResource id => ((onWorld (World.destroyResource id)).run engine).2
  | .updateResource id command =>
    ((onWorld (World.updateResource agent id command)).run engine).2
  | .requestResource id request =>
    ((onWorld (World.requestResource agent id request)).run engine).2
  | .createImage document => ((createImage agent document).run engine).2
  | .destroyImage id => ((destroyImage id).run engine).2
  | .updateImage id command => ((updateImage agent id command).run engine).2
  | .requestImage id request => ((requestImage agent id request).run engine).2
  | .cloneImage id => ((cloneImage agent id).run engine).2
  | .backupImage id => ((backupImage agent id).run engine).2
  | .restoreImage id => ((restoreImage agent id).run engine).2

/-- Every engine that a client can bring about from `start`, as far as each operation was permitted
when it was asked for. -/
inductive Run (agent : Agent σ) (permitted : Engine σ → Operation → Prop) (start : Engine σ) :
    Engine σ → Prop
  | start : Run agent permitted start start
  | step {engine : Engine σ} {operation : Operation} :
      Run agent permitted start engine → permitted engine operation →
      Run agent permitted start (engine.after agent operation)

/-- An engine as it is made: no pools, no resources, no images, and no call to an agent yet. -/
structure Vacant (engine : Engine σ) : Prop where
  pools : engine.world.registry.pools = ∅
  owners : engine.world.registry.owners = ∅
  images : engine.images = ∅
  history : engine.world.link.history = []

/-- The engine of a cluster and its settings before anything was made. -/
def vacant (cluster : Cluster) (settings : ImageSettings) (supply : Supply) (memory : σ) :
    Engine σ :=
  { world :=
      { registry := Registry.empty cluster settings.recovery settings.suffixLength
        supply, link := ⟨memory, []⟩ }
    images := ∅, settings }

theorem vacant_vacant (cluster : Cluster) (settings : ImageSettings) (supply : Supply)
    (memory : σ) : (vacant cluster settings supply memory).Vacant :=
  ⟨rfl, rfl, rfl, rfl⟩

/-- The definitions that an operation hands in are admitted. -/
def Operation.Admitted (admits : ResourceDocument → Prop) : Operation → Prop
  | .createResource definition => admits definition
  | .createImage document =>
    ∀ name layer, document.layers.get? name = some layer → layer.Admitted admits
  | _ => True

/-- A pool that an operation makes is allowed. -/
def Operation.Opens (mayOpen : PoolDocument → Prop) : Operation → Prop
  | .createPool document => mayOpen document
  | _ => True

theorem Operation.admitted_of_all (operation : Operation) :
    operation.Admitted fun _ => True := by
  cases operation
  case createImage document => exact fun _ _ _ _ _ => trivial
  all_goals trivial

theorem Operation.opens_of_all (operation : Operation) : operation.Opens fun _ => True := by
  cases operation <;> trivial

/-! ## Images that are registered -/

section images

variable {agent : Agent σ} {engine : Engine σ}

/-- The image of a document under the next id, in a world where that is drawn. -/
def draft (engine : Engine σ) (document : Image) : Session σ :=
  ⟨{ document with id := some engine.world.supply.nextId }, engine.world.drawingId⟩

/-- Making the object of an image: it is registered, or all that is left is what happened to the
world. -/
theorem createImage_cases (agent : Agent σ) (document : Image) (engine : Engine σ) :
    (∃ failure after, (Session.createObject agent).run (engine.draft document) =
        (.error failure, after) ∧
      (createImage agent document).run engine =
        (.error failure, { engine with world := after.world })) ∨
    ∃ after, (Session.createObject agent).run (engine.draft document) = (.ok (), after) ∧
      (createImage agent document).run engine =
        (.ok after.image.idText,
          { engine with
            world := after.world
            images := engine.images.insert after.image.idText after.image }) := by
  have hDraw : (onWorld World.freshId).run engine =
      (.ok engine.world.supply.nextId, { engine with world := engine.world.drawingId }) := rfl
  rw [createImage, Action.run_bind_ok hDraw, Action.run_bind]
  rcases hRun : (Session.createObject agent).run (engine.draft document) with ⟨failure | _, after⟩
  · have hNew : (onNewImage { document with id := some engine.world.supply.nextId }
        (Session.createObject agent)).run { engine with world := engine.world.drawingId } =
          (.error failure, { engine with world := after.world }) := by
      simp only [Action.run, onNewImage, draft] at hRun ⊢
      rw [hRun]
    rw [hNew]
    exact .inl ⟨failure, after, rfl, rfl⟩
  · have hNew : (onNewImage { document with id := some engine.world.supply.nextId }
        (Session.createObject agent)).run { engine with world := engine.world.drawingId } =
          (.ok ((), after.image), { engine with world := after.world }) := by
      simp only [Action.run, onNewImage, draft] at hRun ⊢
      rw [hRun]
    rw [hNew]
    exact .inr ⟨after, rfl, rfl⟩

/-- A clone that leaves the image it is made of as it is registers what it made, if anything. -/
theorem run_cloneImage {id : String} {image : Image} {result : Except Failure Image}
    {world : World σ} (hImage : engine.images.get? id = some image)
    (hRun : (Session.clone agent engine.settings).run ⟨image, engine.world⟩ =
      (result, ⟨image, world⟩)) :
    (cloneImage agent id).run engine =
      (liftM result >>= register : Action (Engine σ) String).run { engine with world } := by
  have hFound : (liftM (engine.image id) : Action (Engine σ) Image).run engine =
      (.ok image, engine) := by
    rw [Action.run_liftM, image_eq_ok_iff.2 hImage]
  have hClone : (onImage id image (Session.clone agent engine.settings)).run engine =
      (result, { engine with world }) := by
    rw [onImage, Action.run_within, hRun, Table.insert_of_get? hImage]
  rw [cloneImage, Action.run_bind_ok (Action.run_get engine), Action.run_bind_ok hFound,
    Action.run_bind, hClone]
  rfl

end images

/-! ## Operations as moves -/

section moves

variable {agent : Agent σ} {admits : ResourceDocument → Prop}

/-- The world of an engine moves without new pools, whatever becomes of its images. -/
def Moves (agent : Agent σ) (admits : ResourceDocument → Prop) (before after : Engine σ) : Prop :=
  World.Moves agent admits (fun _ => True) before.world after.world

instance : IsPreorder (Engine σ) (Moves agent admits) where
  refl _ := .refl
  trans _ _ _ first second := first.trans second

theorem onWorld_moves {action : Action (World σ) α}
    (h : action.Along (World.Moves agent admits fun _ => True)) :
    (onWorld action).Along (Moves agent admits) :=
  Action.along_within h fun _ _ hWorld => hWorld

theorem ask_moves (f : Engine σ → Except Failure α) : (ask f).Along (Moves agent admits) :=
  fun _ => .refl

/-- A change of the images leaves the world alone. -/
theorem modify_moves {f : Engine σ → Engine σ}
    (hWorld : ∀ engine, (f engine).world = engine.world) :
    (Action.modify f).Along (Moves agent admits) := by
  intro engine
  show World.Moves _ _ _ engine.world (f engine).world
  rw [hWorld]

theorem onImage_moves {id : String} {image : Image} {action : Action (Session σ) α}
    (h : action.Along (Session.Moves agent admits fun _ => True)) :
    (onImage id image action).Along (Moves agent admits) :=
  Action.along_within h fun _ _ hSession => hSession

theorem register_moves (image : Image) :
    (register image : Action (Engine σ) String).Along (Moves agent admits) :=
  Action.along_bind (modify_moves fun _ => rfl) fun _ => Action.along_pure _

theorem createImage_moves {document : Image}
    (hDocument : ∀ name layer, document.layers.get? name = some layer → layer.Admitted admits) :
    (createImage agent document).Along (Moves agent admits) := by
  intro engine
  have hDraw : World.Moves agent admits (fun _ => True) engine.world
      (engine.draft document).world := .single (.drawId _)
  have hMade : Session.Moves agent admits (fun _ => True) (engine.draft document)
      ((Session.createObject agent).run (engine.draft document)).2 :=
    Session.createObject_moves (fun _ => trivial) hDocument
  rcases createImage_cases agent document engine with
    ⟨_, after, hRun, hCreate⟩ | ⟨after, hRun, hCreate⟩
  all_goals
    rw [hRun] at hMade
    rw [hCreate]
    exact hDraw.trans hMade

theorem destroyImage_moves (id : String) :
    (destroyImage id : Action (Engine σ) Unit).Along (Moves agent admits) := by
  apply Action.along_bind (ask_moves _)
  intro image
  refine Action.along_bind (onImage_moves (Session.destroyObject_moves fun _ => trivial))
    fun _ => ?_
  exact modify_moves fun _ => rfl

theorem updateImage_moves (hAdmission : World.Admission admits) (id : String)
    (command : ImageCommand) : (updateImage agent id command).Along (Moves agent admits) := by
  apply Action.along_gets_bind
  intro engine
  refine Action.along_bind (Action.along_liftM _) (fun image => ?_) engine
  exact onImage_moves (Session.update_moves hAdmission (fun _ => trivial) _ command)

theorem requestImage_moves (hAdmission : World.Admission admits) (id : String) (request : Json) :
    (requestImage agent id request).Along (Moves agent admits) := by
  refine Action.along_bind (Action.along_liftM _) fun command => ?_
  apply Action.along_bind (ask_moves _)
  intro resolved
  exact updateImage_moves hAdmission id resolved

theorem cloneImage_moves (hAdmission : World.Admission admits) (id : String) :
    (cloneImage agent id).Along (Moves agent admits) := by
  apply Action.along_gets_bind
  intro engine
  refine Action.along_bind (Action.along_liftM _) (fun image => ?_) engine
  refine Action.along_bind
    (onImage_moves (Session.clone_moves hAdmission (fun _ => trivial) _)) fun clone => ?_
  exact register_moves clone

/-- **Every operation is a sequence of moves of the world**, whatever it answers. -/
theorem course_after (hAdmission : World.Admission admits) {mayOpen : PoolDocument → Prop}
    (engine : Engine σ) {operation : Operation} (hAdmitted : operation.Admitted admits)
    (hOpens : operation.Opens mayOpen) :
    World.Course agent admits (fun _ => True) mayOpen engine.world
      (engine.after agent operation).world := by
  have hCourse : ∀ {next : Engine σ}, Moves agent admits engine next →
      World.Course agent admits (fun _ => True) mayOpen engine.world next.world :=
    World.Course.mono (fun _ h => h) (fun _ h => h) fun _ => False.elim
  cases operation with
  | createPool document => exact World.createPool_course hOpens engine.world
  | destroyPool id => exact hCourse (onWorld_moves (World.destroyPool_moves id) engine)
  | createResource definition =>
      exact hCourse (onWorld_moves (World.createResource_moves hAdmitted) engine)
  | copyResource resource destination =>
      exact hCourse (onWorld_moves
        (World.copyResource_moves hAdmission resource destination) engine)
  | copyResourceAs resource destination suffix =>
      exact hCourse (onWorld_moves
        (World.copyResourceAs_moves hAdmission resource destination suffix) engine)
  | cloneResource resource =>
      refine hCourse (onWorld_moves (fun world => ?_) engine)
      exact (World.cloneResource_moves hAdmission resource world).mono (fun _ h => h)
        fun _ _ => trivial
  | destroyResource id => exact hCourse (onWorld_moves (World.destroyResource_moves trivial) engine)
  | updateResource id command =>
      exact hCourse (onWorld_moves (World.updateResource_moves id command) engine)
  | requestResource id request =>
      exact hCourse (onWorld_moves (World.requestResource_moves id request) engine)
  | createImage document => exact hCourse (createImage_moves hAdmitted engine)
  | destroyImage id => exact hCourse (destroyImage_moves id engine)
  | updateImage id command => exact hCourse (updateImage_moves hAdmission id command engine)
  | requestImage id request => exact hCourse (requestImage_moves hAdmission id request engine)
  | cloneImage id => exact hCourse (cloneImage_moves hAdmission id engine)
  | backupImage id => exact hCourse (updateImage_moves hAdmission id _ engine)
  | restoreImage id => exact hCourse (updateImage_moves hAdmission id _ engine)

end moves

namespace Run

variable {agent : Agent σ} {permitted : Engine σ → Operation → Prop}
  {start middle engine : Engine σ}

/-- A run can go on. -/
theorem trans (first : Run agent permitted start middle)
    (second : Run agent permitted middle engine) : Run agent permitted start engine := by
  induction second with
  | start => exact first
  | step _ hPermitted ih => exact ih.step hPermitted

/-- **A run is a sequence of moves of the world**, bounded by what is permitted in the engines that
it passes. -/
theorem course {admits : ResourceDocument → Prop} {mayOpen : PoolDocument → Prop}
    (hAdmission : World.Admission admits)
    (hPermitted : ∀ engine operation, Run agent permitted start engine →
      permitted engine operation → operation.Admitted admits ∧ operation.Opens mayOpen)
    (h : Run agent permitted start engine) :
    World.Course agent admits (fun _ => True) mayOpen start.world engine.world := by
  induction h with
  | start => exact .refl
  | step hBefore hStep ih =>
      obtain ⟨hAdmitted, hOpens⟩ := hPermitted _ _ hBefore hStep
      exact ih.trans (course_after hAdmission _ hAdmitted hOpens)

/-- The same with pools of any kind. -/
theorem moves {admits : ResourceDocument → Prop} (hAdmission : World.Admission admits)
    (hPermitted : ∀ engine operation, permitted engine operation → operation.Admitted admits)
    (h : Run agent permitted start engine) :
    World.Course agent admits (fun _ => True) (fun _ => True) start.world engine.world :=
  h.course hAdmission fun engine operation _ hStep =>
    ⟨hPermitted engine operation hStep, operation.opens_of_all⟩

/-- Operations that are permitted at any time make a run in any order. -/
theorem of_list {operations : List Operation}
    (h : ∀ engine, ∀ operation ∈ operations, permitted engine operation) :
    Run agent permitted start (operations.foldl (after agent) start) := by
  induction operations generalizing start with
  | nil => exact .start
  | cons operation rest ih =>
      have hFirst : Run agent permitted start (start.after agent operation) :=
        Run.start.step (h start operation List.mem_cons_self)
      have hRest : ∀ engine, ∀ other ∈ rest, permitted engine other :=
        fun engine other hOther => h engine other (List.mem_cons_of_mem _ hOther)
      rw [List.foldl_cons]
      exact hFirst.trans (ih hRest)

end Run

/-! ## The smallest engine -/

/-- An engine on one node. -/
def smallest : Engine Unit :=
  vacant (Cluster.ofNames ["n"]) ImageSettings.default Supply.strokes ()

/-- A pool for volume files. -/
def volumePool : PoolDocument :=
  { id := none, name := "fs", kind := .filesystem, access := []
    spec := { PoolSpec.none with filesystem := some ⟨"/v"⟩ } }

/-- The smallest engine with that pool. -/
def pooled : Engine Unit := smallest.after .willing (.createPool volumePool)

/-- Parameters that list a chain of small layers. -/
def chainParams (chain : String) : Params :=
  .ofList [("image_chain", chain), ("image_size", "10")]

/-- The document of an image with that chain. -/
def chainImage (chain : String) : Image :=
  (pooled.defineImage "disk" (chainParams chain)).toOption.getD
    { id := none, name := "", owner := none, topology := .single [], layers := ∅ }

/-- A volume of ten bytes, for the pool that is made first. -/
def volumeDefinition : ResourceDocument :=
  { id := none, name := "disk", type := .volume, pool := some "", allocated := false, bindings := ∅
    volumeKind := some .file, raw := false
    spec := .volume { size := 10, allocation := none, uri := none, filename := some "disk.img" } }

/-- How a first volume gets its storage. -/
def makingVolume : List Operation :=
  [.createPool volumePool, .createResource volumeDefinition, .updateResource "i" (.bind []),
    .updateResource "i" (.allocate ∅)]

end Engine

end DiskFleet
