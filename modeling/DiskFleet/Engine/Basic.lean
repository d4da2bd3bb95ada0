import DiskFleet.Config.Basic
import DiskFleet.Image.Update

/-!
# The engine

The engine is the registry of pools and resources together with the images that are made of them, in
the order of creation. It is set up from its settings, which have to fit together and whose pools
are made at once, and it is taken down by unmaking every image and every pool that can be unmade.

Image work is done on the document of one image and on the world (`onImage`); whatever it leaves of
both is kept, also when it fails.
-/

namespace DiskFleet

/-- The world, the images in it by id, and the settings they are handled with. -/
structure Engine (σ : Type) where
  world : World σ
  images : Table Image
  settings : ImageSettings

namespace World

variable {σ : Type}

/-- Makes the declared pools in turn. -/
def createDeclared : List PoolDeclaration → Action (World σ) Unit
  | [] => return ()
  | pool :: rest => do
    let document ← ask (·.definePool pool.name pool.kind pool.definitionParams)
    let _ ← createPool document
    createDeclared rest

end World

namespace Engine

variable {σ α : Type}

/-- The engine of some settings, which are taken as they are: its pools are made, and there are no
images. -/
def assemble (config : Config) (supply : Supply) (memory : σ) : Except Failure (Engine σ) :=
  let world : World σ :=
    { registry := Registry.empty config.cluster config.recovery config.suffixLength
      supply, link := ⟨memory, []⟩ }
  match (World.createDeclared config.pools).run world with
  | (.ok _, world) => .ok { world, images := ∅, settings := config.imageSettings }
  | (.error failure, _) => .error failure

/-- The engine of some settings, if they fit together. -/
def startup (config : Config) (supply : Supply) (memory : σ) : Except Failure (Engine σ) :=
  match config.check with
  | .error problem => .error (.invalidRequest (.stated problem.message))
  | .ok _ => assemble config supply memory

/-! ## Questions -/

/-- The image with an id. -/
def image (engine : Engine σ) (id : String) : Except Failure Image :=
  match engine.images.get? id with
  | some image => .ok image
  | none => .error (.imageNotFound id)

theorem image_eq_ok_iff {engine : Engine σ} {id : String} {image : Image} :
    engine.image id = .ok image ↔ engine.images.get? id = some image := by
  unfold Engine.image
  split <;> simp_all

/-- The document of an image, or the value at a path in it. -/
def imageInfo (engine : Engine σ) (id : String) (path : Option String) (verbose : Bool) :
    Except Failure Json := do
  let image ← engine.image id
  let info ← image.info engine.world.registry verbose
  info.lookup path

/-- The id of the first image of a name, of the given owner if there is one. -/
def imageNamed? (engine : Engine σ) (name : String) (machine : Option String) : Option String :=
  let found := engine.images.values.find? fun image =>
    image.name == name &&
      match machine with
      | none => true
      | some machine => image.isOwnedBy machine
  found.map Image.idText

/-- The ids of all images, oldest first. -/
def imageIds (engine : Engine σ) : List String := engine.images.keys

/-- The document of an image from parameters. `image_type` has to name the one type there is. -/
def defineImage (engine : Engine σ) (name : String) (params : Params) : Except Failure Image :=
  let type := params.getD "image_type" imageTypeWord
  if type = imageTypeWord then Image.define engine.world.registry engine.settings name params
  else .error (.invalidRequest (.imageType type))

/-! ## Operations -/

/-- A value or failure that is computed from the engine. -/
def ask (f : Engine σ → Except Failure α) : Action (Engine σ) α := do
  let engine ← Action.get
  f engine

/-- Runs a step on the world. -/
def onWorld (action : Action (World σ) α) : Action (Engine σ) α :=
  Action.within (·.world) (fun world engine => { engine with world }) action

/-- Runs a step on an image that is not registered; answers with its value and with the image as it
is afterwards. -/
def onNewImage (image : Image) (action : Action (Session σ) α) : Action (Engine σ) (α × Image) :=
  fun engine =>
    match action ⟨image, engine.world⟩ with
    | (.ok value, after) => (.ok (value, after.image), { engine with world := after.world })
    | (.error failure, after) => (.error failure, { engine with world := after.world })

/-- Runs a step on a registered image, which is then put back. -/
def onImage (id : String) (image : Image) (action : Action (Session σ) α) :
    Action (Engine σ) α :=
  Action.within (fun engine => ⟨image, engine.world⟩)
    (fun after engine =>
      { engine with world := after.world, images := engine.images.insert id after.image })
    action

/-- Registers an image under its id. -/
def register (image : Image) : Action (Engine σ) String := do
  Action.modify fun engine => { engine with images := engine.images.insert image.idText image }
  return image.idText

variable (agent : Agent σ)

/-- Makes the image object of a document; answers with its id. -/
def createImage (document : Image) : Action (Engine σ) String := do
  let id ← onWorld World.freshId
  let (_, image) ← onNewImage { document with id := some id } (Session.createObject agent)
  register image

/-- Unmakes an image object whose layers hold no storage. -/
def destroyImage (id : String) : Action (Engine σ) Unit := do
  let image ← ask (·.image id)
  onImage id image Session.destroyObject
  Action.modify fun engine => { engine with images := engine.images.erase id }

/-- Carries out a command whose nodes are named as they are. -/
def updateImage (id : String) (command : ImageCommand) : Action (Engine σ) Json := do
  let engine ← Action.get
  let image ← engine.image id
  onImage id image (Session.update agent engine.settings command)

/-- Carries out a request, whose nodes are given by tags. -/
def requestImage (id : String) (request : Json) : Action (Engine σ) Json := do
  let command ← ImageCommand.ofRequest request
  let command ← ask fun engine => command.resolve engine.world.registry.cluster
  updateImage agent id command

/-- Registers a clone of an image; answers with its id. -/
def cloneImage (id : String) : Action (Engine σ) String := do
  let engine ← Action.get
  let image ← engine.image id
  let clone ← onImage id image (Session.clone agent engine.settings)
  register clone

/-- Backs an image up. -/
def backupImage (id : String) : Action (Engine σ) Json := updateImage agent id (.backup ∅)

/-- Has the backups of an image copied back. -/
def restoreImage (id : String) : Action (Engine σ) Json := updateImage agent id (.restore ∅)

/-- Unmakes every image and then every pool, as far as that goes. -/
def teardown : Action (Engine σ) Unit := do
  let images ← Action.gets (·.imageIds)
  Action.forEach (fun id => do let _ ← Action.attempt (destroyImage id)) images
  let pools ← Action.gets (·.world.registry.poolIds)
  Action.forEach (fun id => do let _ ← Action.attempt (onWorld (World.destroyPool id))) pools

end Engine

end DiskFleet
