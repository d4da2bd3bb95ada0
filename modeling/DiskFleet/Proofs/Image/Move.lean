import DiskFleet.Image.Update
import DiskFleet.Proofs.Image.Define
import DiskFleet.Proofs.Registry.Move

/-!
# Image commands as moves of the world

An image command reaches the world only through operations on the registry and calls to the primary
node. Whatever it does, and wherever it fails, the world in which it leaves its image is reached by
the moves of `DiskFleet.Proofs.Registry.Move`: `Session.update_moves`, `Session.createObject_moves`,
`Session.destroyObject_moves` and `Session.clone_moves`.

The steps that drop nothing, or nothing but a volume they have just made, are stated with that
bound; an invariant of the volumes that images hold rests on it.
-/

namespace DiskFleet

variable {σ α : Type} {agent : Agent σ} {admits : ResourceDocument → Prop}
  {mayDrop : String → Prop}

namespace Layer

/-- Every definition that a layer carries is admitted. -/
def Admitted (admits : ResourceDocument → Prop) (layer : Layer) : Prop :=
  ∀ definition, layer.definition = some definition → admits definition

/-- A layer without a definition. -/
theorem admitted_of_none {layer : Layer} (h : layer.definition = none) : layer.Admitted admits := by
  intro definition hDefinition
  rw [h] at hDefinition
  cases hDefinition

theorem admitted_of_define (hAdmission : World.Admission admits) {registry : Registry}
    {settings : ImageSettings} {name : String} {params : Params} {layer : Layer}
    (h : Layer.define registry settings name params = .ok layer) : layer.Admitted admits := by
  obtain ⟨-, -, -, -, definition, volumeParams, hCarried, hDefined⟩ := of_define h
  obtain ⟨poolId, pool, cls, defined, -, -, hClass, rfl⟩ := Registry.of_defineResource hDefined
  intro other hOther
  obtain rfl := Option.some.inj (hCarried.symm.trans hOther)
  exact hAdmission.defined pool.idText hClass

/-- A layer object that is made stands on a new volume, or on what its layer had. -/
theorem of_createObject {layer made : Layer} {nodes : List String} {world after : World σ}
    (h : (layer.createObject agent nodes).run world = (.ok made, after)) :
    (layer.definition = none ∧ made = layer ∧ after = world) ∨
      ∃ definition id created out bound, layer.definition = some definition ∧
        (World.createResource definition).run world = (.ok world.supply.nextId, created) ∧
        (World.updateResource agent world.supply.nextId (.bind nodes)).run created =
          (.ok out, bound) ∧
        after = bound.drawingId ∧
        made = { layer with
          id := some id, definition := none, volume := some world.supply.nextId } := by
  unfold createObject at h
  cases hDefinition : layer.definition with
  | none =>
      simp only [hDefinition, Action.run_pure, Prod.mk.injEq, Except.ok.injEq] at h
      exact .inl ⟨rfl, h.1.symm, h.2.symm⟩
  | some definition =>
      simp only [hDefinition] at h
      obtain ⟨volume, created, hCreate, hRest⟩ := Action.run_bind_eq_ok_iff.1 h
      obtain rfl : volume = world.supply.nextId := World.eq_nextId_of_run_createResource hCreate
      obtain ⟨result, bound, hBind, hRest⟩ := Action.run_bind_eq_ok_iff.1 hRest
      simp only [Action.run_attempt, Prod.mk.injEq, Except.ok.injEq] at hBind
      obtain ⟨hResult, hBound⟩ := hBind
      cases result with
      | error failure =>
          obtain ⟨_, _, _, hFail⟩ := Action.run_bind_eq_ok_iff.1 hRest
          cases hFail
      | ok out =>
          cases hRest
          exact .inr ⟨definition, _, created, out, bound, rfl, hCreate, Prod.ext hResult hBound,
            rfl, rfl⟩

/-- Making a layer object can drop nothing but its own volume. -/
theorem createObject_moves {layer : Layer} (hAdmitted : layer.Admitted admits)
    (nodes : List String) (world : World σ) :
    World.Moves agent admits (· = world.supply.nextId) world
      ((layer.createObject agent nodes).run world).2 := by
  unfold createObject
  cases hDefinition : layer.definition with
  | none => exact .refl
  | some definition =>
      refine Action.rel_run_bind
        (World.createResource_moves (hAdmitted definition hDefinition) world)
        fun volume after hCreate => ?_
      have hVolume : volume = world.supply.nextId := World.eq_nextId_of_run_createResource hCreate
      refine Action.along_bind (Action.along_attempt (World.updateResource_moves volume _))
        (fun result => ?_) after
      cases result with
      | ok out =>
          exact Action.along_bind World.freshId_moves fun _ => Action.along_pure _
      | error failure =>
          exact Action.along_bind (Action.along_attempt (World.destroyResource_moves hVolume))
            fun _ => Action.along_fail _

theorem destroyObject_moves {layer : Layer}
    (hMayDrop : ∀ volume, layer.volume = some volume → mayDrop volume) :
    (layer.destroyObject : Action (World σ) Layer).Along (World.Moves agent admits mayDrop) := by
  unfold destroyObject
  cases hVolume : layer.volume with
  | none => exact Action.along_pure _
  | some volume =>
      refine Action.along_bind World.ask_moves fun document => ?_
      exact Action.along_bind (World.destroyResource_moves (hMayDrop volume hVolume))
        fun _ => Action.along_pure _

theorem allocate_moves (layer : Layer) :
    (layer.allocate agent).Along (World.Moves agent admits mayDrop) := by
  refine Action.along_bind (Action.along_liftM _) fun volume => ?_
  refine Action.along_bind World.ask_moves fun allocated => ?_
  split
  · exact Action.along_pure _
  · exact Action.along_bind (World.updateResource_moves volume _) fun _ => Action.along_pure _

theorem release_moves (layer : Layer) :
    (layer.release agent).Along (World.Moves agent admits mayDrop) :=
  Action.along_bind (Action.along_liftM _) fun volume =>
    Action.along_bind (World.updateResource_moves volume _) fun _ => Action.along_pure _

end Layer

namespace Session

/-- The world of a session moves, whatever becomes of the image. -/
def Moves (agent : Agent σ) (admits : ResourceDocument → Prop) (mayDrop : String → Prop)
    (before after : Session σ) : Prop :=
  World.Moves agent admits mayDrop before.world after.world

instance : IsPreorder (Session σ) (Moves agent admits mayDrop) where
  refl _ := .refl
  trans _ _ _ first second := first.trans second

/-- The same, and the image stays as it is. -/
def Working (agent : Agent σ) (admits : ResourceDocument → Prop) (mayDrop : String → Prop)
    (before after : Session σ) : Prop :=
  after.image = before.image ∧ Moves agent admits mayDrop before after

instance : IsPreorder (Session σ) (Working agent admits mayDrop) where
  refl _ := ⟨rfl, .refl⟩
  trans _ _ _ first second := ⟨second.1.trans first.1, first.2.trans second.2⟩

theorem moves_of_working {action : Action (Session σ) α}
    (h : action.Along (Working agent admits mayDrop)) :
    action.Along (Moves agent admits mayDrop) :=
  h.mono fun _ _ hWorking => hWorking.2

@[simp] theorem run_askImage (f : Image → Except Failure α) (session : Session σ) :
    (askImage f).run session = (f session.image, session) := rfl

@[simp] theorem run_ask (f : Image → Registry → Except Failure α) (session : Session σ) :
    (ask f).run session = (f session.image session.world.registry, session) := rfl

theorem onWorld_working {action : Action (World σ) α}
    (h : action.Along (World.Moves agent admits mayDrop)) :
    (onWorld action).Along (Working agent admits mayDrop) :=
  Action.along_within h fun _ _ hWorld => ⟨rfl, hWorld⟩

theorem askImage_working (f : Image → Except Failure α) :
    (askImage f : Action (Session σ) α).Along (Working agent admits mayDrop) :=
  fun _ => ⟨rfl, .refl⟩

theorem onWorld_moves {action : Action (World σ) α}
    (h : action.Along (World.Moves agent admits mayDrop)) :
    (onWorld action).Along (Moves agent admits mayDrop) :=
  moves_of_working (onWorld_working h)

theorem askImage_moves (f : Image → Except Failure α) :
    (askImage f : Action (Session σ) α).Along (Moves agent admits mayDrop) :=
  fun _ => .refl

theorem ask_moves (f : Image → Registry → Except Failure α) :
    (ask f : Action (Session σ) α).Along (Moves agent admits mayDrop) :=
  fun _ => .refl

theorem modifyImage_moves (f : Image → Image) :
    (modifyImage f : Action (Session σ) Unit).Along (Moves agent admits mayDrop) :=
  fun _ => .refl

/-! ## Calls to the primary node -/

/-- Image work is one call to the primary node, or none; the image stays as it is. -/
theorem run_callNode_snd (agent : Agent σ) (command : String) (args : Json)
    (session : Session σ) :
    ((callNode agent command args).run session).2 = session ∨
      ∃ call, session.image.callFor session.world.registry command args = .ok call ∧
        ((callNode agent command args).run session).2 =
          { session with world := session.world.calling agent call } := by
  simp only [callNode, Action.run_bind, run_ask]
  cases hCall : session.image.callFor session.world.registry command args with
  | error failure => exact .inl rfl
  | ok call =>
      refine .inr ⟨call, rfl, ?_⟩
      simp only [onWorld, Action.run_within, Link.run_invoke_snd]
      rfl

theorem callNode_working (command : String) (args : Json) :
    (callNode agent command args).Along (Working agent admits mayDrop) := by
  intro session
  rcases run_callNode_snd agent command args session with hRun | ⟨call, hCall, hRun⟩
  · rw [hRun]
    exact ⟨rfl, .refl⟩
  · rw [hRun]
    exact ⟨rfl, .single (.callImage hCall)⟩

/-! ## Storage -/

theorem releaseVolumes_working (volumes : List String) :
    (releaseVolumes agent volumes).Along (Working agent admits mayDrop) :=
  Action.along_forEach fun volume _ =>
    Action.along_bind
      (Action.along_attempt (onWorld_working (World.updateResource_moves volume _)))
      fun _ => Action.along_pure _

theorem allocateLayers_working (names : List String) :
    ∀ allocated, (allocateLayers agent allocated names).Along (Working agent admits mayDrop) := by
  induction names with
  | nil => exact fun _ => Action.along_pure _
  | cons name rest ih =>
      intro allocated
      refine Action.along_bind (askImage_working _) fun layer => ?_
      refine Action.along_bind
        (Action.along_attempt (onWorld_working (Layer.allocate_moves layer))) fun result => ?_
      rcases result with failure | _ | volume
      · exact Action.along_bind (releaseVolumes_working allocated) fun _ => Action.along_fail _
      · exact ih allocated
      · exact ih (allocated ++ [volume])

theorem create_working (target : Option String) (extra : Arguments) :
    (create agent target extra).Along (Working agent admits mayDrop) := by
  refine Action.along_bind (askImage_working _) fun targets => ?_
  refine Action.along_bind (allocateLayers_working targets []) fun allocated => ?_
  refine Action.along_bind (Action.along_attempt (callNode_working _ _)) fun result => ?_
  cases result with
  | ok out => exact Action.along_pure _
  | error failure =>
      exact Action.along_bind (releaseVolumes_working allocated) fun _ => Action.along_fail _

theorem freeLayer_working (name : String) :
    (freeLayer agent name).Along (Working agent admits mayDrop) := by
  refine Action.along_bind (askImage_working _) fun layer => ?_
  split
  · exact onWorld_working (Layer.release_moves layer)
  · exact Action.along_pure _

theorem destroy_working (target : Option String) :
    (destroy agent target).Along (Working agent admits mayDrop) :=
  Action.along_bind (askImage_working _) fun _ =>
    Action.along_bind (Action.along_forEach fun name _ => freeLayer_working name)
      fun _ => Action.along_pure _

/-! ## Layer objects -/

/-- Every definition that the layers of an image carry is admitted. -/
def Carrying (admits : ResourceDocument → Prop) (session : Session σ) : Prop :=
  ∀ name layer, session.image.layers.get? name = some layer → layer.Admitted admits

/-- The world moves as long as the layers carry nothing but admitted definitions, and they go on
doing so. -/
def Building (agent : Agent σ) (admits : ResourceDocument → Prop) (mayDrop : String → Prop)
    (before after : Session σ) : Prop :=
  before.Carrying admits → Moves agent admits mayDrop before after ∧ after.Carrying admits

instance : IsPreorder (Session σ) (Building agent admits mayDrop) where
  refl _ hCarrying := ⟨.refl, hCarrying⟩
  trans _ _ _ first second hCarrying :=
    ⟨(first hCarrying).1.trans (second (first hCarrying).2).1,
      (second (first hCarrying).2).2⟩

theorem createLayer_building (hAll : ∀ id, mayDrop id) (name : String) :
    (createLayer agent name).Along (Building agent admits mayDrop) := by
  intro session hCarrying
  simp only [createLayer, Action.run_bind, run_askImage]
  cases hLayer : session.image.layer name with
  | error failure => exact ⟨.refl, hCarrying⟩
  | ok layer =>
      have hAdmitted := hCarrying name layer (Image.layer_eq_ok_iff.1 hLayer)
      have hMoves : World.Moves agent admits mayDrop session.world
          ((layer.createObject agent []).run session.world).2 :=
        (Layer.createObject_moves hAdmitted [] session.world).mono (fun _ h => h)
          fun id _ => hAll id
      simp only [onWorld, Action.run_within]
      rcases hRun : (layer.createObject agent []).run session.world with ⟨failure | made, after⟩
      · rw [hRun] at hMoves
        exact ⟨hMoves, hCarrying⟩
      · rw [hRun] at hMoves
        refine ⟨hMoves, ?_⟩
        intro other stored hStored
        have hMade : made.Admitted admits := by
          rcases Layer.of_createObject hRun with
            ⟨-, rfl, -⟩ | ⟨_, _, _, _, _, -, -, -, -, rfl⟩
          · exact hAdmitted
          · exact Layer.admitted_of_none rfl
        simp only [modifyImage, Action.run_modify, Image.putLayer, Table.get?_insert] at hStored
        split at hStored
        · obtain rfl := Option.some.inj hStored
          exact hMade
        · exact hCarrying other stored hStored

theorem destroyLayer_moves (hAll : ∀ id, mayDrop id) (name : String) :
    (destroyLayer name : Action (Session σ) Unit).Along (Moves agent admits mayDrop) :=
  Action.along_bind (askImage_moves _) fun _ =>
    Action.along_bind (onWorld_moves (Layer.destroyObject_moves fun volume _ => hAll volume))
      fun _ => modifyImage_moves _

/-- Making the object of an image whose layers carry admitted definitions. -/
theorem createObject_moves (hAll : ∀ id, mayDrop id) {session : Session σ}
    (hCarrying : session.Carrying admits) :
    Moves agent admits mayDrop session ((createObject agent).run session).2 := by
  have hBuild : Building agent admits mayDrop session
      ((Action.attempt (Action.forEach (createLayer agent) session.image.layers.keys)).run
        session).2 :=
    Action.along_attempt (Action.along_forEach fun name _ => createLayer_building hAll name) session
  refine Action.rel_run_bind .refl fun names between hNames => ?_
  cases hNames
  refine Action.rel_run_bind (hBuild hCarrying).1 fun result after _ => ?_
  cases result with
  | ok _ => exact .refl
  | error failure =>
      refine Action.along_bind (Action.along_forEach fun name _ => ?_)
        (fun _ => Action.along_fail _) after
      exact Action.along_bind (Action.along_attempt (destroyLayer_moves hAll name))
        fun _ => Action.along_pure _

theorem destroyObject_moves (hAll : ∀ id, mayDrop id) :
    (destroyObject : Action (Session σ) Unit).Along (Moves agent admits mayDrop) := by
  refine Action.along_gets_bind fun session => ?_
  refine Action.along_bind (ask_moves _) (fun found => ?_) session
  cases found with
  | some name => exact Action.along_fail _
  | none => exact Action.along_forEach fun name _ => destroyLayer_moves hAll name

theorem dropLayer_moves (hAll : ∀ id, mayDrop id) (name : String) :
    (dropLayer agent name).Along (Moves agent admits mayDrop) := by
  refine Action.along_gets_bind fun session => ?_
  cases session.image.layers.get? name with
  | none => exact .refl
  | some layer =>
      dsimp only
      cases layer.volume with
      | none => exact .refl
      | some volume =>
          exact Action.along_bind (onWorld_moves (World.discard_moves (hAll volume)))
            (fun _ => modifyImage_moves _) session

/-! ## Layers put on and taken off -/

theorem add_moves (hAdmission : World.Admission admits) (hAll : ∀ id, mayDrop id)
    (settings : ImageSettings) (args : AddArguments) :
    (add agent settings args).Along (Moves agent admits mayDrop) := by
  refine Action.along_bind (askImage_moves _) fun _ => ?_
  refine Action.along_bind (ask_moves _) fun nodes => ?_
  refine Action.along_bind_of (ask_moves _) fun session layer after hDefine => ?_
  have hAdmitted : layer.Admitted admits :=
    Layer.admitted_of_define hAdmission (congrArg Prod.fst hDefine)
  have hMake : (layer.createObject agent nodes).Along (World.Moves agent admits mayDrop) :=
    fun world =>
      (Layer.createObject_moves hAdmitted nodes world).mono (fun _ h => h) fun id _ => hAll id
  refine Action.along_bind (onWorld_moves hMake) (fun made => ?_) after
  have hStore : ∀ placed : Layer, (modifyImage (·.putLayer args.target placed) >>= fun _ =>
      pure placed.toJson : Action (Session σ) Json).Along (Moves agent admits mayDrop) :=
    fun placed => Action.along_bind (modifyImage_moves _) fun _ => Action.along_pure _
  dsimp only
  split
  · refine Action.along_bind (askImage_moves _) fun top => ?_
    refine Action.along_bind (modifyImage_moves _) fun _ => ?_
    exact Action.along_bind (Action.along_pure _) hStore
  · exact Action.along_bind (Action.along_pure _) hStore

theorem remove_moves (hAll : ∀ id, mayDrop id) (name : String) :
    (remove name : Action (Session σ) Json).Along (Moves agent admits mayDrop) := by
  refine Action.along_bind (askImage_moves _) fun layer => ?_
  refine Action.along_bind (askImage_moves _) fun _ => ?_
  refine Action.along_bind (ask_moves _) fun allocated => ?_
  split
  · exact Action.along_fail _
  · refine Action.along_bind (Action.along_gets _) fun chained => ?_
    refine Action.along_bind (destroyLayer_moves hAll name) fun _ => ?_
    refine Action.along_bind (modifyImage_moves _) fun _ => ?_
    dsimp only
    split
    · refine Action.along_bind (modifyImage_moves _) fun _ => ?_
      refine Action.along_bind (askImage_moves _) fun top => ?_
      exact Action.along_bind (modifyImage_moves _) fun _ => Action.along_pure _
    · exact Action.along_pure _

theorem tie_working (source target : String) (extra : Arguments) :
    (tie agent source target extra).Along (Working agent admits mayDrop) :=
  Action.along_bind (create_working _ _) fun _ => callNode_working _ _

theorem rebase_moves (hAdmission : World.Admission admits) (hAll : ∀ id, mayDrop id)
    (settings : ImageSettings) (args : RebaseArguments) :
    (rebase agent settings args).Along (Moves agent admits mayDrop) := by
  refine Action.along_bind (askImage_moves _) fun _ => ?_
  refine Action.along_bind (askImage_moves _) fun source => ?_
  refine Action.along_bind (add_moves hAdmission hAll settings _) fun _ => ?_
  refine Action.along_bind (Action.along_attempt (moves_of_working (tie_working _ _ _)))
    fun result => ?_
  cases result with
  | error failure =>
      dsimp only
      split
      · exact Action.along_bind (dropLayer_moves hAll _) fun _ => Action.along_fail _
      · exact Action.along_fail _
  | ok out =>
      refine Action.along_bind (askImage_moves _) fun layer => ?_
      exact Action.along_bind (modifyImage_moves _) fun _ => Action.along_pure _

/-! ## Backups and clones -/

section noted

variable {ν : Type}

/-- The world of a session moves, whatever is noted beside it. -/
def NotedMoves (agent : Agent σ) (admits : ResourceDocument → Prop) (mayDrop : String → Prop)
    (before after : Session σ × List ν) : Prop :=
  Moves agent admits mayDrop before.1 after.1

instance : IsPreorder (Session σ × List ν) (NotedMoves agent admits mayDrop) where
  refl _ := .refl
  trans _ _ _ first second := first.trans second

theorem silently_moves {action : Action (Session σ) α}
    (h : action.Along (Moves agent admits mayDrop)) :
    (Action.silently action : Action (Session σ × List ν) α).Along
      (NotedMoves agent admits mayDrop) :=
  Action.along_silently h

theorem note_moves (item : ν) :
    (Action.note item : Action (Session σ × List ν) Unit).Along
      (NotedMoves agent admits mayDrop) :=
  Action.along_note item

theorem noting_moves {action : Action (Session σ × List ν) α}
    (h : action.Along (NotedMoves agent admits mayDrop)) :
    (Action.noting action).Along (Moves agent admits mayDrop) :=
  Action.along_noting h

end noted

theorem backupLayer_moves (hAdmission : World.Admission admits)
    (primary pool suffix name : String) :
    (backupLayer agent primary pool suffix name).Along (NotedMoves agent admits mayDrop) := by
  refine Action.along_bind (silently_moves (askImage_moves _)) fun source => ?_
  refine Action.along_bind (Action.along_liftM _) fun sourceVolume => ?_
  refine Action.along_bind
    (silently_moves (onWorld_moves (World.copyResourceAs_moves hAdmission _ _ _)))
    fun volume => ?_
  refine Action.along_bind (silently_moves (onWorld_moves World.freshId_moves)) fun id => ?_
  refine Action.along_bind (silently_moves (askImage_moves _)) fun image => ?_
  refine Action.along_bind (silently_moves (modifyImage_moves _)) fun _ => ?_
  refine Action.along_bind (note_moves _) fun _ => silently_moves ?_
  refine Action.along_bind (onWorld_moves (World.updateResource_moves volume _)) fun _ => ?_
  exact Action.along_bind (onWorld_moves (World.updateResource_moves volume _))
    fun _ => Action.along_pure _

theorem backupLayers_moves (hAdmission : World.Admission admits) (settings : ImageSettings)
    (args : Arguments) :
    (backupLayers agent settings args).Along (NotedMoves agent admits mayDrop) := by
  refine Action.along_bind (silently_moves (ask_moves _)) fun primary => ?_
  refine Action.along_bind (silently_moves (ask_moves _)) fun pool => ?_
  refine Action.along_bind (silently_moves (onWorld_moves (World.freshSuffix_moves _)))
    fun random => ?_
  refine Action.along_bind (Action.along_gets _) fun pending => ?_
  refine Action.along_bind
    (Action.along_forEach fun name _ => backupLayer_moves hAdmission primary pool _ name)
    fun _ => ?_
  exact silently_moves (moves_of_working (callNode_working _ _))

theorem backup_moves (hAdmission : World.Admission admits) (hAll : ∀ id, mayDrop id)
    (settings : ImageSettings) (args : Arguments) :
    (backup agent settings args).Along (Moves agent admits mayDrop) := by
  refine Action.along_bind (noting_moves (backupLayers_moves hAdmission settings args))
    fun outcome => ?_
  rcases outcome with ⟨failure | out, created⟩
  · dsimp only
    split
    · exact Action.along_bind (Action.along_forEach fun name _ => dropLayer_moves hAll name)
        fun _ => Action.along_fail _
    · exact Action.along_fail _
  · exact Action.along_pure _

theorem restore_working (args : Arguments) :
    (restore agent args).Along (Working agent admits mayDrop) := by
  refine Action.along_bind (Action.along_gets _) fun image => ?_
  split
  · exact callNode_working _ _
  · exact Action.along_fail _

theorem config_moves (name owner : Option String) :
    (config name owner : Action (Session σ) Json).Along (Moves agent admits mayDrop) :=
  Action.along_bind (askImage_moves _) fun _ =>
    Action.along_bind (modifyImage_moves _) fun _ => Action.along_pure _

theorem cloneLayer_moves (hAdmission : World.Admission admits) (suffix name : String) :
    (cloneLayer agent suffix name).Along (NotedMoves agent admits mayDrop) := by
  refine Action.along_bind (silently_moves (askImage_moves _)) fun source => ?_
  refine Action.along_bind (Action.along_liftM _) fun sourceVolume => ?_
  refine Action.along_bind (silently_moves (ask_moves _)) fun document => ?_
  refine Action.along_bind
    (silently_moves (onWorld_moves (World.copyResourceAs_moves hAdmission _ _ _)))
    fun volume => ?_
  refine Action.along_bind (note_moves _) fun _ => ?_
  refine Action.along_bind (silently_moves (onWorld_moves (World.prepare_moves volume _)))
    fun _ => ?_
  exact Action.along_bind (silently_moves (onWorld_moves World.freshId_moves))
    fun _ => Action.along_pure _

theorem cloneLayers_moves (hAdmission : World.Admission admits) (suffix : String)
    (names : List String) :
    ∀ layers, (cloneLayers agent suffix layers names).Along
      (NotedMoves agent admits mayDrop) := by
  induction names with
  | nil => exact fun _ => Action.along_pure _
  | cons name rest ih =>
      intro layers
      exact Action.along_bind (cloneLayer_moves hAdmission suffix name) fun layer => ih _

/-- A step on another image leaves this one alone, and does in the world what it does there. -/
theorem onImage_working (image : Image) {action : Action (Session σ) α}
    (h : action.Along (Working agent admits mayDrop)) :
    (onImage image action).Along (Working agent admits mayDrop) :=
  Action.along_within h fun _ _ hWorking => ⟨rfl, hWorking.2⟩

theorem tieAll_working : ∀ names, (tieAll agent names).Along (Working agent admits mayDrop)
  | [] => Action.along_pure ()
  | [_] => Action.along_pure ()
  | _ :: target :: rest =>
    Action.along_bind (callNode_working _ _) fun _ => tieAll_working (target :: rest)

theorem buildClone_moves (hAdmission : World.Admission admits) (suffix : String) :
    (buildClone agent suffix).Along (NotedMoves agent admits mayDrop) := by
  refine Action.along_bind (Action.along_gets _) fun image => ?_
  refine Action.along_bind (cloneLayers_moves hAdmission suffix _ _) fun layers => ?_
  refine Action.along_bind (silently_moves (onWorld_moves World.freshId_moves)) fun id => ?_
  exact Action.along_bind (silently_moves (moves_of_working (onImage_working _ (tieAll_working _))))
    fun _ => Action.along_pure _

theorem clone_moves (hAdmission : World.Admission admits) (hAll : ∀ id, mayDrop id)
    (settings : ImageSettings) :
    (clone agent settings).Along (Moves agent admits mayDrop) := by
  refine Action.along_bind (onWorld_moves (World.freshSuffix_moves _)) fun suffix => ?_
  refine Action.along_bind (noting_moves (buildClone_moves hAdmission suffix)) fun outcome => ?_
  rcases outcome with ⟨failure | image, created⟩
  · dsimp only
    split
    · exact Action.along_bind
        (Action.along_forEach fun volume _ => onWorld_moves (World.discard_moves (hAll volume)))
        fun _ => Action.along_fail _
    · exact Action.along_fail _
  · exact Action.along_pure _

/-- **Every image command is a sequence of moves of the world**, whatever it answers. -/
theorem update_moves (hAdmission : World.Admission admits) (hAll : ∀ id, mayDrop id)
    (settings : ImageSettings) (command : ImageCommand) :
    (update agent settings command).Along (Moves agent admits mayDrop) := by
  cases command with
  | create target extra => exact moves_of_working (create_working target extra)
  | destroy target extra => exact moves_of_working (destroy_working target)
  | rebase args => exact rebase_moves hAdmission hAll settings args
  | add args => exact add_moves hAdmission hAll settings args
  | remove target => exact remove_moves hAll target
  | config name owner => exact config_moves name owner
  | backup args => exact backup_moves hAdmission hAll settings args
  | restore args => exact moves_of_working (restore_working args)
  | commit args => exact moves_of_working (callNode_working _ _)
  | snapshot args => exact moves_of_working (callNode_working _ _)
  | info args => exact moves_of_working (callNode_working _ _)
  | check args => exact moves_of_working (callNode_working _ _)

end Session

end DiskFleet
