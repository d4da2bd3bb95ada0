import DiskFleet.Proofs.Image.Lifetime
import DiskFleet.Proofs.Registry.Confined

/-!
# Image commands are confined to the volumes of the image

Whatever a command for an image does, also when it fails and takes back what it did, it comes to a
volume in one of two ways: a layer of the image stands on it, or it was just made. All volumes of
the image are `mine` at first, and so is everything that is made. The layers that the command puts
into the document stand on such volumes too, so that it stays that way.

## Main results

* `Session.Fits`: what the image stands on is `mine`;
* `Session.update_confined`: every image command is confined to what is `mine`.
-/

namespace DiskFleet

variable {σ α : Type} {mine : String → Prop}

/-! ## Layers -/

namespace Layer

variable {layer : Layer}

/-- The volume of the layer, if there is one, is `mine`. -/
def StandsOn (mine : String → Prop) (layer : Layer) : Prop :=
  ∀ volume, layer.volume = some volume → mine volume

theorem standsOn_of_none (h : layer.volume = none) : layer.StandsOn mine := by
  intro volume hVolume
  rw [h] at hVolume
  cases hVolume

/-- What the layer has as its volume is `mine`. -/
theorem StandsOn.volumeOf (h : layer.StandsOn mine) {volume : String}
    (hVolume : layer.volumeOf = .ok volume) : mine volume := by
  unfold Layer.volumeOf at hVolume
  cases hHeld : layer.volume with
  | none =>
      rw [hHeld] at hVolume
      cases hVolume
  | some held =>
      rw [hHeld] at hVolume
      obtain rfl := Except.ok.inj hVolume
      exact h held hHeld

/-- What is made of a layer stands on what the layer stood on, or on what was made for it. -/
theorem StandsOn.createObject_confined (h : layer.StandsOn mine) (agent : Agent σ)
    (nodes : List String) :
    World.Confines mine (layer.createObject agent nodes) (StandsOn mine) := by
  unfold createObject
  cases layer.definition with
  | none => exact Action.ensures_pure h
  | some definition =>
      refine .bind (World.createResource_confined definition) fun volume hVolume => ?_
      refine .bind (World.updateResource_confined agent hVolume _).attempt fun result _ => ?_
      cases result with
      | error failure =>
          exact .bind (World.destroyResource_confined hVolume).attempt
            fun _ _ => Action.ensures_fail failure
      | ok out =>
          refine .bind World.freshId_confined fun id _ => Action.ensures_pure ?_
          intro made hMade
          obtain rfl := Option.some.inj hMade
          exact hVolume

theorem StandsOn.destroyObject_confined (h : layer.StandsOn mine) :
    World.Confines mine (layer.destroyObject : Action (World σ) Layer) (StandsOn mine) := by
  unfold destroyObject
  cases hVolume : layer.volume with
  | none => exact Action.ensures_pure (standsOn_of_none hVolume)
  | some volume =>
      refine .bind (World.ask_confined _) fun document _ => ?_
      refine .bind (World.destroyResource_confined (h volume hVolume)) fun _ _ => ?_
      exact Action.ensures_pure (standsOn_of_none rfl)

/-- What is allocated is `mine`. -/
theorem StandsOn.allocate_confined (h : layer.StandsOn mine) (agent : Agent σ) :
    World.Confines mine (layer.allocate agent)
      fun made => ∀ volume, made = some volume → mine volume := by
  refine .bind (Action.ensures_liftM_good fun _ => h.volumeOf) fun volume hVolume => ?_
  refine .bind (World.ask_confined _) fun allocated _ => ?_
  split
  · exact Action.ensures_pure nofun
  · refine .bind (World.updateResource_confined agent hVolume _) fun _ _ => ?_
    refine Action.ensures_pure fun made hMade => ?_
    obtain rfl := Option.some.inj hMade
    exact hVolume

theorem StandsOn.release_confined (h : layer.StandsOn mine) (agent : Agent σ) :
    World.Confines mine (layer.release agent) fun _ => True :=
  .bind (Action.ensures_liftM_good fun _ => h.volumeOf) fun _ hVolume =>
    .bind (World.updateResource_confined agent hVolume _) fun _ _ => Action.ensures_pure trivial

end Layer

namespace Session

/-! ## Documents -/

section given

variable {image : Image} {name : String} {layer : Layer}

theorem Given.standsOn (h : Given mine image) (hLayer : image.layers.get? name = some layer) :
    layer.StandsOn mine :=
  fun volume => h name layer volume hLayer

/-- A layer that is stored stands on what is `mine`. -/
theorem Given.putLayer (h : Given mine image) (hLayer : layer.StandsOn mine) (name : String) :
    Given mine (image.putLayer name layer) := by
  intro other stored volume hStored hVolume
  rw [Image.putLayer, Table.get?_insert] at hStored
  split at hStored
  · obtain rfl := Option.some.inj hStored
    exact hLayer volume hVolume
  · exact h other stored volume hStored hVolume

/-- A layer that is taken off takes nothing with it but its own volume. -/
theorem Given.withoutLayer (h : Given mine image) (name : String) :
    Given mine (image.withoutLayer name) := by
  intro other stored volume hStored hVolume
  simp only [Image.withoutLayer, Image.forgetBackup, Table.get?_mapValues, Table.get?_erase,
    Option.map_eq_some_iff] at hStored
  obtain ⟨before, hBefore, rfl⟩ := hStored
  split at hBefore
  · cases hBefore
  · refine h other before volume hBefore ?_
    rw [← hVolume]
    split <;> rfl

end given

/-- The world is ready, and what the image stands on is `mine`. -/
structure Fits (mine : String → Prop) (session : Session σ) : Prop where
  ready : session.world.Ready mine
  given : Given mine session.image

/-- Only resources that are `mine` were worked on, whatever became of the image. -/
def Confined (mine : String → Prop) (before after : Session σ) : Prop :=
  World.Confined mine before.world after.world

instance : IsPreorder (Session σ) (Confined mine) where
  refl session := refl session.world
  trans _ _ _ first second := IsTrans.trans (r := World.Confined mine) _ _ _ first second

/-- The action works on resources that are `mine` alone, and what it answers is good. -/
abbrev Confines (mine : String → Prop) (action : Action (Session σ) α) (good : α → Prop) : Prop :=
  Action.Ensures (Fits mine) (Confined mine) action good

/-- So does one that takes notes. -/
abbrev NotedConfines {ν : Type} (mine : String → Prop) (action : Action (Session σ × List ν) α)
    (good : α → Prop) : Prop :=
  Action.Ensures (fun noted => Fits mine noted.1) (Action.BesideNotes (Confined mine)) action good

/-! ## Steps -/

/-- What is found in a document whose volumes are `mine`. -/
theorem askImage_good {f : Image → Except Failure α} {good : α → Prop}
    (h : ∀ image, Given mine image → ∀ value, f image = .ok value → good value) :
    Confines mine (askImage f : Action (Session σ) α) good :=
  Action.ensures_of_unchanged (fun _ => rfl) fun session hFits => h session.image hFits.given

theorem askImage_confined (f : Image → Except Failure α) :
    Confines mine (askImage f : Action (Session σ) α) fun _ => True :=
  askImage_good fun _ _ _ _ => trivial

/-- What is found in whatever document and registry. -/
theorem ask_good {f : Image → Registry → Except Failure α} {good : α → Prop}
    (h : ∀ image registry value, f image registry = .ok value → good value) :
    Confines mine (ask f : Action (Session σ) α) good :=
  Action.ensures_of_unchanged (fun _ => rfl) fun session _ =>
    h session.image session.world.registry

theorem ask_confined (f : Image → Registry → Except Failure α) :
    Confines mine (ask f : Action (Session σ) α) fun _ => True :=
  ask_good fun _ _ _ _ => trivial

/-- The layer that is asked for stands on what is `mine`. -/
theorem layer_confined (name : String) :
    Confines mine (askImage (·.layer name) : Action (Session σ) Layer) (Layer.StandsOn mine) :=
  askImage_good fun _ hGiven _ hLayer => hGiven.standsOn (Image.layer_eq_ok_iff.1 hLayer)

theorem onWorld_confined {action : Action (World σ) α} {good : α → Prop}
    (h : World.Confines mine action good) : Confines mine (onWorld action) good :=
  Action.Ensures.within h (fun _ hFits => hFits.ready)
    fun _ _ hFits hReady hConfined => ⟨⟨hReady, hFits.given⟩, hConfined⟩

theorem modifyImage_confined {f : Image → Image}
    (h : ∀ image, Given mine image → Given mine (f image)) :
    Confines mine (modifyImage f : Action (Session σ) Unit) fun _ => True :=
  fun session hFits => ⟨⟨hFits.ready, h session.image hFits.given⟩, refl session.world,
    fun _ _ => trivial⟩

/-- Work for the image is no work on a resource. -/
theorem callNode_confined (agent : Agent σ) (command : String) (args : Json) :
    Confines mine (callNode agent command args) fun _ => True := by
  intro session hFits
  rcases run_callNode_snd agent command args session with hRun | ⟨call, hCall, hRun⟩
  · rw [hRun]
    exact ⟨hFits, refl session, fun _ _ => trivial⟩
  · have hMove : World.Moves agent (fun _ => True) (fun _ => True) session.world
        (session.world.calling agent call) := .single (.callImage hCall)
    rw [hRun]
    refine ⟨⟨hFits.ready.moves hMove, hFits.given⟩, ⟨fun _ _ => rfl,
      [session.world.link.exchange agent call], rfl, ?_⟩, fun _ _ => trivial⟩
    intro exchange hExchange hService
    have hImage : exchange.call.service = Call.imageService := by
      rw [List.mem_singleton.1 hExchange]
      exact Image.service_of_callFor hCall
    -- there are no calls of the resource service to answer for
    rw [hImage] at hService
    exact absurd hService (by decide)

/-! ## Storage -/

theorem releaseVolumes_confined (agent : Agent σ) {volumes : List String}
    (h : ∀ volume ∈ volumes, mine volume) :
    Confines mine (releaseVolumes agent volumes) fun _ => True :=
  Action.ensures_forEach fun volume hVolume =>
    .bind (onWorld_confined (World.updateResource_confined agent (h volume hVolume) _)).attempt
      fun _ _ => Action.ensures_pure trivial

/-- The volumes that storage was made for are `mine`, those before them given. -/
theorem allocateLayers_confined (agent : Agent σ) (names : List String) :
    ∀ {allocated : List String}, (∀ volume ∈ allocated, mine volume) →
      Confines mine (allocateLayers agent allocated names)
        fun volumes => ∀ volume ∈ volumes, mine volume := by
  induction names with
  | nil => exact fun h => Action.ensures_pure h
  | cons name rest ih =>
      intro allocated h
      refine .bind (layer_confined name) fun layer hLayer => ?_
      refine .bind (onWorld_confined (hLayer.allocate_confined agent)).attempt
        fun result hMade => ?_
      rcases result with failure | _ | volume
      · exact .bind (releaseVolumes_confined agent h) fun _ _ => Action.ensures_fail failure
      · exact ih h
      · refine ih fun other hOther => ?_
        rcases List.mem_append.1 hOther with hEarlier | hLast
        · exact h other hEarlier
        · rw [List.mem_singleton.1 hLast]
          exact hMade _ rfl volume rfl

theorem create_confined (agent : Agent σ) (target : Option String) (extra : Arguments) :
    Confines mine (create agent target extra) fun _ => True := by
  refine .bind (askImage_confined _) fun targets _ => ?_
  refine .bind (allocateLayers_confined agent targets nofun) fun allocated hAllocated => ?_
  refine .bind (callNode_confined agent _ _).attempt fun result _ => ?_
  cases result with
  | ok out => exact Action.ensures_pure trivial
  | error failure =>
      exact .bind (releaseVolumes_confined agent hAllocated) fun _ _ => Action.ensures_fail failure

theorem freeLayer_confined (agent : Agent σ) (name : String) :
    Confines mine (freeLayer agent name) fun _ => True := by
  refine .bind (layer_confined name) fun layer hLayer => ?_
  split
  · exact onWorld_confined (hLayer.release_confined agent)
  · exact Action.ensures_pure trivial

theorem destroy_confined (agent : Agent σ) (target : Option String) :
    Confines mine (destroy agent target) fun _ => True :=
  .bind (askImage_confined _) fun _ _ =>
    .bind (Action.ensures_forEach fun name _ => freeLayer_confined agent name)
      fun _ _ => Action.ensures_pure trivial

/-! ## Layers put on and taken off -/

theorem destroyLayer_confined (name : String) :
    Confines mine (destroyLayer name : Action (Session σ) Unit) fun _ => True :=
  .bind (layer_confined name) fun _ hLayer =>
    .bind (onWorld_confined hLayer.destroyObject_confined) fun _ hLeft =>
      modifyImage_confined fun _ hGiven => hGiven.putLayer hLeft name

/-- The layers of the document are looked up before one of them is dropped. -/
theorem dropLayer_confined (agent : Agent σ) (name : String) :
    Confines mine (dropLayer agent name) fun _ => True := by
  have hTakeOff : Confines mine (modifyImage (·.withoutLayer name) : Action (Session σ) Unit)
      fun _ => True := modifyImage_confined fun _ hGiven => hGiven.withoutLayer name
  refine .bind (Action.ensures_gets_good fun session hFits => hFits.given) fun image hGiven => ?_
  cases hLayer : image.layers.get? name with
  | none => exact Action.ensures_pure trivial
  | some layer =>
      dsimp only
      cases hVolume : layer.volume with
      | none => exact hTakeOff
      | some volume =>
          have hMine : mine volume := hGiven name layer volume hLayer hVolume
          exact .bind (onWorld_confined (World.discard_confined agent hMine)) fun _ _ => hTakeOff

theorem add_confined (agent : Agent σ) (settings : ImageSettings) (args : AddArguments) :
    Confines mine (add agent settings args) fun _ => True := by
  have hDefined : ∀ (registry : Registry) (params : Params) layer,
      Layer.define registry settings args.target params = .ok layer → layer.StandsOn mine := by
    intro registry params layer hDefine
    obtain ⟨-, -, -, hNone, -⟩ := Layer.of_define hDefine
    exact Layer.standsOn_of_none hNone
  have hStore : ∀ layer : Layer, layer.StandsOn mine →
      Confines mine (do
        modifyImage (·.putLayer args.target layer)
        return layer.toJson : Action (Session σ) Json) fun _ => True :=
    fun layer hLayer => .bind (modifyImage_confined fun _ hGiven => hGiven.putLayer hLayer _)
      fun _ _ => Action.ensures_pure trivial
  refine .bind (askImage_confined _) fun _ _ => ?_
  refine .bind (ask_confined _) fun nodes _ => ?_
  refine .bind (ask_good fun _ registry layer => hDefined registry _ layer) fun layer hLayer => ?_
  refine .bind (onWorld_confined (hLayer.createObject_confined agent nodes)) fun made hMade => ?_
  dsimp only
  split
  · refine .bind (askImage_confined _) fun top _ => ?_
    refine .bind (modifyImage_confined fun _ hGiven => hGiven) fun _ _ => ?_
    exact .bind (Action.ensures_pure hMade) fun _ hPlaced => hStore _ hPlaced
  · exact .bind (Action.ensures_pure hMade) fun _ hPlaced => hStore _ hPlaced

theorem remove_confined (name : String) :
    Confines mine (remove name : Action (Session σ) Json) fun _ => True := by
  refine .bind (askImage_confined _) fun layer _ => ?_
  refine .bind (askImage_confined _) fun _ _ => ?_
  refine .bind (ask_confined _) fun allocated _ => ?_
  split
  · exact Action.ensures_fail _
  · refine .bind (Action.ensures_gets _) fun chained _ => ?_
    refine .bind (destroyLayer_confined name) fun _ _ => ?_
    refine .bind (modifyImage_confined fun _ hGiven => hGiven.withoutLayer name) fun _ _ => ?_
    dsimp only
    split
    · refine .bind (modifyImage_confined fun _ hGiven => hGiven) fun _ _ => ?_
      refine .bind (askImage_confined _) fun top _ => ?_
      exact .bind (modifyImage_confined fun _ hGiven => hGiven)
        fun _ _ => Action.ensures_pure trivial
    · exact Action.ensures_pure trivial

theorem rebase_confined (agent : Agent σ) (settings : ImageSettings) (args : RebaseArguments) :
    Confines mine (rebase agent settings args) fun _ => True := by
  have hTie : ∀ source, Confines mine (tie agent source args.target args.extra) fun _ => True :=
    fun source => .bind (create_confined agent _ _) fun _ _ => callNode_confined agent _ _
  refine .bind (askImage_confined _) fun _ _ => ?_
  refine .bind (askImage_confined _) fun source _ => ?_
  refine .bind (add_confined agent settings _) fun _ _ => ?_
  refine .bind (hTie source).attempt fun result _ => ?_
  cases result with
  | error failure =>
      dsimp only
      split
      · exact .bind (dropLayer_confined agent _) fun _ _ => Action.ensures_fail failure
      · exact Action.ensures_fail failure
  | ok out =>
      refine .bind (layer_confined args.target) fun layer hLayer => ?_
      have hBacked : Layer.StandsOn mine { layer with backing := some source } := hLayer
      exact .bind (modifyImage_confined fun _ hGiven => hGiven.putLayer hBacked _)
        fun _ _ => Action.ensures_pure trivial

/-! ## Backups -/

/-- A document with a backup layer on a volume that is `mine`. -/
theorem Given.withBackup {image made : Image} (h : Given mine image) {volume : String}
    (hVolume : mine volume) {name backup id : String} {source : Layer}
    (hMade : image.withBackup name backup id volume source = .ok made) : Given mine made := by
  obtain ⟨layer, hLayer, hRest⟩ := Action.bind_eq_ok_iff.1 hMade
  obtain rfl := Except.ok.inj hRest
  have hBackup : Given mine (image.putLayer backup
      { id := some id, name := backup, format := source.format, backing := none, backup := none
        volume := some volume, definition := none, clusterSize := none, preallocation := none
        secret := source.secret }) := by
    refine h.putLayer (fun held hHeld => ?_) backup
    obtain rfl := Option.some.inj hHeld
    exact hVolume
  have hStands : layer.StandsOn mine := hBackup.standsOn (Image.layer_eq_ok_iff.1 hLayer)
  have hPointing : Layer.StandsOn mine { layer with backup := some backup } := hStands
  exact hBackup.putLayer hPointing name

theorem backupLayer_confined (agent : Agent σ) (primary pool suffix name : String) :
    NotedConfines mine (backupLayer agent primary pool suffix name) fun _ => True := by
  refine .bind (layer_confined name).silently fun source _ => ?_
  refine .bind (Action.ensures_liftM _) fun sourceVolume _ => ?_
  refine .bind (onWorld_confined (World.copyResourceAs_confined _ _ _)).silently
    fun volume hVolume => ?_
  refine .bind (onWorld_confined World.freshId_confined).silently fun id _ => ?_
  refine .bind (askImage_good fun _ hGiven _ hMade => hGiven.withBackup hVolume hMade).silently
    fun image hImage => ?_
  refine .bind (modifyImage_confined fun _ _ => hImage).silently fun _ _ => ?_
  refine .bind (Action.ensures_note _) fun _ _ => Action.Ensures.silently ?_
  refine .bind (onWorld_confined (World.updateResource_confined agent hVolume _)) fun _ _ => ?_
  exact .bind (onWorld_confined (World.updateResource_confined agent hVolume _))
    fun _ _ => Action.ensures_pure trivial

theorem backup_confined (agent : Agent σ) (settings : ImageSettings) (args : Arguments) :
    Confines mine (backup agent settings args) fun _ => True := by
  have hLayers : NotedConfines mine (backupLayers agent settings args) fun _ => True := by
    refine .bind (ask_confined _).silently fun primary _ => ?_
    refine .bind (ask_confined _).silently fun pool _ => ?_
    refine .bind (onWorld_confined (World.freshSuffix_confined _)).silently fun random _ => ?_
    refine .bind (Action.ensures_gets _) fun pending _ => ?_
    refine .bind (Action.ensures_forEach fun name _ =>
      backupLayer_confined agent primary pool _ name) fun _ _ => ?_
    exact (callNode_confined agent _ _).silently
  refine .bind hLayers.noting fun outcome _ => ?_
  rcases outcome with ⟨failure | out, created⟩
  · dsimp only
    split
    · exact .bind (Action.ensures_forEach fun name _ => dropLayer_confined agent name)
        fun _ _ => Action.ensures_fail failure
    · exact Action.ensures_fail failure
  · exact Action.ensures_pure trivial

theorem restore_confined (agent : Agent σ) (args : Arguments) :
    Confines mine (restore agent args) fun _ => True := by
  refine .bind (Action.ensures_gets _) fun image _ => ?_
  split
  · exact callNode_confined agent _ _
  · exact Action.ensures_fail _

/-! ## All commands -/

/-- Editing the meta data leaves the layers as they are. -/
theorem config_confined (name owner : Option String) :
    Confines mine (config name owner : Action (Session σ) Json) fun _ => True := by
  have hEdited : ∀ image, Given mine image → ∀ edited, image.edited name owner = .ok edited →
      Given mine edited := by
    intro image hGiven edited hOk
    unfold Image.edited at hOk
    split at hOk
    · cases hOk
    · obtain rfl := Except.ok.inj hOk
      exact hGiven
  refine .bind (askImage_good hEdited) fun edited hGiven => ?_
  exact .bind (modifyImage_confined fun _ _ => hGiven) fun _ _ => Action.ensures_pure trivial

/-- **Every image command is confined** to the volumes of the image and to what it makes. -/
theorem update_confined (agent : Agent σ) (settings : ImageSettings) (command : ImageCommand) :
    Confines mine (update agent settings command) fun _ => True := by
  cases command with
  | create target extra => exact create_confined agent target extra
  | destroy target extra => exact destroy_confined agent target
  | rebase args => exact rebase_confined agent settings args
  | add args => exact add_confined agent settings args
  | remove target => exact remove_confined target
  | config name owner => exact config_confined name owner
  | backup args => exact backup_confined agent settings args
  | restore args => exact restore_confined agent args
  | commit args => exact callNode_confined agent _ _
  | snapshot args => exact callNode_confined agent _ _
  | info args => exact callNode_confined agent _ _
  | check args => exact callNode_confined agent _ _

end Session

end DiskFleet
