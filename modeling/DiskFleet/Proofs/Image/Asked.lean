import DiskFleet.Proofs.Image.Compensation
import DiskFleet.Proofs.Image.Lifetime
import DiskFleet.Proofs.Image.Shown
import DiskFleet.Proofs.Registry.Confined

/-!
# When a node is asked for image work

A command for an image works on volumes, changes the document of the image, and in between asks the
primary node for image work. What the node is shown then depends on how far the command has got.
`ImageCommand.Asks` and `Session.CloneAsks` list these moments, each as the session that the steps
before it lead to.

`World.AskedOnly asked` says of a stretch of a run that image work was asked for at such moments
only. It holds of steps that ask for none, whatever `asked` is, and of a call at the moment that
`asked` names, and goes through sequences.

At each of these moments every layer of the image stands on a registered volume of its own
(`Session.Founded`). For a backup this does not depend on the names that the new layers get: one that
takes the place of another layer stands on a volume too.

## Main results

* `Session.update_asked`, `Session.clone_asked`: image work is asked for at those moments only;
* `ImageCommand.Asks.founded`, `Session.CloneAsks.founded`: what the image stands on then;
* `ImageCommand.Asks.create_allocated`: when `create` is asked for, its targets hold storage;
* `Session.CloneAsks.image_eq`: what is shown while a clone is made is what comes of it.
-/

namespace DiskFleet

variable {σ α : Type} {agent : Agent σ} {settings : ImageSettings}

/-! ## The moments of a run -/

/-- Image work was asked for only at moments and with requests that `asked` allows. -/
structure World.AskedOnly (asked : Session σ → String → Json → Prop) (before after : World σ) :
    Prop where
  grown : before.link.history <+: after.link.history
  moments : ∀ {i exchange}, before.link.history.length ≤ i →
    after.link.history[i]? = some exchange → exchange.call.service = Call.imageService →
    ∃ moment command args, asked moment command args ∧
      moment.image.callFor moment.world.registry command args = .ok exchange.call ∧
      moment.world.link.history = after.link.history.take i

namespace World

variable {asked more : Session σ → String → Json → Prop} {before after : World σ}

instance : IsPreorder (World σ) (AskedOnly asked) where
  refl world := by
    refine ⟨List.prefix_refl _, fun {i exchange} hNew hMade => ?_⟩
    rw [List.getElem?_eq_none hNew] at hMade
    cases hMade
  trans before between after first second := by
    refine ⟨first.grown.trans second.grown, fun {i exchange} hNew hMade hService => ?_⟩
    obtain ⟨later, hLater⟩ := second.grown
    by_cases hEarly : i < between.link.history.length
    · rw [← hLater, List.getElem?_append_left hEarly] at hMade
      obtain ⟨moment, command, args, hAsked, hCall, hHistory⟩ := first.moments hNew hMade hService
      refine ⟨moment, command, args, hAsked, hCall, ?_⟩
      rw [hHistory, ← hLater, List.take_append_of_le_length (Nat.le_of_lt hEarly)]
    · exact second.moments (Nat.le_of_not_lt hEarly) hMade hService

theorem AskedOnly.mono (h : AskedOnly asked before after)
    (hMore : ∀ {moment command args}, asked moment command args → more moment command args) :
    AskedOnly more before after := by
  refine ⟨h.grown, fun hNew hMade hService => ?_⟩
  obtain ⟨moment, command, args, hAsked, hRest⟩ := h.moments hNew hMade hService
  exact ⟨moment, command, args, hMore hAsked, hRest⟩

theorem askedOnly_of_quiet (h : Quiet before after) : AskedOnly asked before after := by
  have hRefl : AskedOnly asked before before := refl before
  have hLink : after.link = before.link := h
  constructor
  case grown => exact ⟨[], by rw [List.append_nil, hLink]⟩
  case moments =>
    rw [hLink]
    exact hRefl.moments

/-- A single call: it is no image work, or it is asked for as it should be. -/
theorem askedOnly_calling {call : Call} (hLink : after.link = before.link.calling agent call)
    (hAsked : call.service = Call.imageService → ∃ moment command args,
      asked moment command args ∧
        moment.image.callFor moment.world.registry command args = .ok call ∧
        moment.world.link = before.link) : AskedOnly asked before after := by
  have hGrown : after.link.history =
      before.link.history ++ [before.link.exchange agent call] := by
    rw [hLink, Link.history_calling]
  refine ⟨⟨_, hGrown.symm⟩, fun {i exchange} hNew hMade hService => ?_⟩
  have hLast : i = before.link.history.length := by
    have hSome := (List.getElem?_eq_some_iff.1 hMade).1
    rw [hGrown, List.length_append, List.length_singleton] at hSome
    omega
  subst hLast
  rw [hGrown, List.getElem?_concat_length] at hMade
  obtain rfl := Option.some.inj hMade
  obtain ⟨moment, command, args, hMoment, hCall, hBefore⟩ := hAsked hService
  refine ⟨moment, command, args, hMoment, hCall, ?_⟩
  rw [hBefore, hGrown, List.take_left]

/-- Work on a resource is no image work. -/
theorem updateResource_asked (id : String) (command : ResourceCommand) :
    (updateResource agent id command).Along (AskedOnly asked) := by
  intro world
  rcases updateResource_cases agent id command world with
    ⟨failure, hRun⟩ | ⟨poolId, pool, resource, -, -, -, -, hRun⟩
  · rw [hRun]
    exact refl world
  · have hStep : Resource.Step agent pool.document ⟨resource, world.link⟩
        ((Resource.handle agent pool.document command).run ⟨resource, world.link⟩).2 :=
      Resource.handle_step command
    rw [hRun]
    rcases hStep.link_cases with hQuiet | ⟨node, method, args, -, hCalled⟩
    · exact askedOnly_of_quiet hQuiet
    · refine askedOnly_calling hCalled fun hService => ?_
      have hOther : Call.resourceService ≠ Call.imageService := by decide
      exact absurd hService hOther

theorem along_of_quiet {action : Action (World σ) α} (h : action.Along Quiet) :
    action.Along (AskedOnly asked) :=
  h.mono fun _ _ => askedOnly_of_quiet

theorem prepare_asked (id : String) (nodes : List String) :
    (prepare agent id nodes).Along (AskedOnly asked) :=
  Action.along_bind (updateResource_asked id _) fun _ =>
    Action.along_bind (updateResource_asked id _) fun _ => Action.along_pure ()

theorem discard_asked (id : String) : (discard agent id).Along (AskedOnly asked) := by
  refine Action.along_bind (Action.along_attempt (updateResource_asked id _)) fun result => ?_
  cases result with
  | error failure => exact Action.along_pure ()
  | ok out =>
      exact Action.along_bind (Action.along_attempt (along_of_quiet (destroyResource_quiet id)))
        fun _ => Action.along_pure ()

end World

namespace Layer

variable {asked : Session σ → String → Json → Prop}

theorem createObject_asked (layer : Layer) (nodes : List String) :
    (layer.createObject agent nodes).Along (World.AskedOnly asked) := by
  unfold createObject
  cases layer.definition with
  | none => exact Action.along_pure layer
  | some definition =>
      refine Action.along_bind (World.along_of_quiet (World.createResource_quiet definition))
        fun volume => ?_
      refine Action.along_bind (Action.along_attempt (World.updateResource_asked volume _))
        fun result => ?_
      cases result with
      | error failure =>
          exact Action.along_bind (Action.along_attempt
            (World.along_of_quiet (World.destroyResource_quiet volume)))
              fun _ => Action.along_fail failure
      | ok out =>
          exact Action.along_bind (World.along_of_quiet fun _ => rfl) fun _ => Action.along_pure _

theorem destroyObject_asked (layer : Layer) :
    (layer.destroyObject : Action (World σ) Layer).Along (World.AskedOnly asked) := by
  unfold destroyObject
  cases layer.volume with
  | none => exact Action.along_pure layer
  | some volume =>
      refine Action.along_bind (World.along_of_quiet fun _ => rfl) fun document => ?_
      exact Action.along_bind (World.along_of_quiet (World.destroyResource_quiet volume))
        fun _ => Action.along_pure _

theorem allocate_asked (layer : Layer) :
    (layer.allocate agent).Along (World.AskedOnly asked) := by
  refine Action.along_bind (Action.along_liftM _) fun volume => ?_
  refine Action.along_bind (World.along_of_quiet fun _ => rfl) fun allocated => ?_
  split
  · exact Action.along_pure none
  · exact Action.along_bind (World.updateResource_asked volume _) fun _ => Action.along_pure _

theorem release_asked (layer : Layer) :
    (layer.release agent).Along (World.AskedOnly asked) :=
  Action.along_bind (Action.along_liftM _) fun volume =>
    Action.along_bind (World.updateResource_asked volume _) fun _ => Action.along_pure ()

end Layer

namespace Session

variable {asked : Session σ → String → Json → Prop} {session : Session σ}

/-- The same of the world of a session, whatever became of the image. -/
def AskedOnly (asked : Session σ → String → Json → Prop) (before after : Session σ) : Prop :=
  World.AskedOnly asked before.world after.world

instance : IsPreorder (Session σ) (AskedOnly asked) where
  refl session := refl session.world
  trans _ _ _ first second := IsTrans.trans (r := World.AskedOnly asked) _ _ _ first second

/-! ## Steps that ask for no image work -/

theorem onWorld_asked {action : Action (World σ) α}
    (h : action.Along (World.AskedOnly asked)) : (onWorld action).Along (AskedOnly asked) :=
  Action.along_within h fun _ _ hAsked => hAsked

theorem askImage_asked (f : Image → Except Failure α) :
    (askImage f : Action (Session σ) α).Along (AskedOnly asked) :=
  fun session => refl session

theorem ask_asked (f : Image → Registry → Except Failure α) :
    (ask f : Action (Session σ) α).Along (AskedOnly asked) :=
  fun session => refl session

theorem modifyImage_asked (f : Image → Image) :
    (modifyImage f : Action (Session σ) Unit).Along (AskedOnly asked) :=
  fun session => refl session.world

theorem freshId_asked : (onWorld World.freshId : Action (Session σ) String).Along (AskedOnly asked) :=
  onWorld_asked (World.along_of_quiet fun _ => rfl)

theorem freshSuffix_asked (length : Nat) :
    (onWorld (World.freshSuffix length) : Action (Session σ) String).Along (AskedOnly asked) :=
  onWorld_asked (World.along_of_quiet fun _ => rfl)

theorem releaseVolumes_asked (volumes : List String) :
    (releaseVolumes agent volumes).Along (AskedOnly asked) :=
  Action.along_forEach fun volume _ =>
    Action.along_bind (Action.along_attempt (onWorld_asked (World.updateResource_asked volume _)))
      fun _ => Action.along_pure ()

theorem allocateLayers_asked (names : List String) :
    ∀ allocated, (allocateLayers agent allocated names).Along (AskedOnly asked) := by
  induction names with
  | nil => exact fun _ => Action.along_pure _
  | cons name rest ih =>
      intro allocated
      refine Action.along_bind (askImage_asked _) fun layer => ?_
      refine Action.along_bind (Action.along_attempt (onWorld_asked layer.allocate_asked))
        fun result => ?_
      rcases result with failure | _ | volume
      · exact Action.along_bind (releaseVolumes_asked allocated) fun _ => Action.along_fail failure
      · exact ih allocated
      · exact ih (allocated ++ [volume])

theorem destroy_asked (target : Option String) :
    (destroy agent target).Along (AskedOnly asked) := by
  refine Action.along_bind (askImage_asked _) fun targets => ?_
  refine Action.along_bind (Action.along_forEach fun name _ => ?_) fun _ => Action.along_pure _
  refine Action.along_bind (askImage_asked _) fun layer => ?_
  split
  · exact onWorld_asked layer.release_asked
  · exact Action.along_pure ()

theorem dropLayer_asked (name : String) : (dropLayer agent name).Along (AskedOnly asked) := by
  refine Action.along_gets_bind fun session => ?_
  cases session.image.layers.get? name with
  | none => exact refl session
  | some layer =>
      dsimp only
      cases layer.volume with
      | none => exact modifyImage_asked (·.withoutLayer name) session
      | some volume =>
          exact Action.along_bind (onWorld_asked (World.discard_asked volume))
            (fun _ => modifyImage_asked _) session

theorem add_asked (settings : ImageSettings) (args : AddArguments) :
    (add agent settings args).Along (AskedOnly asked) := by
  refine Action.along_bind (askImage_asked _) fun _ => ?_
  refine Action.along_bind (ask_asked _) fun nodes => ?_
  refine Action.along_bind (ask_asked _) fun layer => ?_
  refine Action.along_bind (onWorld_asked (layer.createObject_asked nodes)) fun made => ?_
  have hStore : ∀ stored : Layer, (do
      modifyImage (·.putLayer args.target stored)
      return stored.toJson : Action (Session σ) Json).Along (AskedOnly asked) :=
    fun stored => Action.along_bind (modifyImage_asked _) fun _ => Action.along_pure _
  dsimp only
  split
  · refine Action.along_bind (askImage_asked _) fun top => ?_
    refine Action.along_bind (modifyImage_asked _) fun _ => ?_
    exact Action.along_bind (Action.along_pure _) fun stored => hStore stored
  · exact Action.along_bind (Action.along_pure _) fun stored => hStore stored

theorem destroyLayer_asked (name : String) :
    (destroyLayer name : Action (Session σ) Unit).Along (AskedOnly asked) :=
  Action.along_bind (askImage_asked _) fun layer =>
    Action.along_bind (onWorld_asked layer.destroyObject_asked) fun _ => modifyImage_asked _

theorem remove_asked (name : String) :
    (remove name : Action (Session σ) Json).Along (AskedOnly asked) := by
  refine Action.along_bind (askImage_asked _) fun layer => ?_
  refine Action.along_bind (askImage_asked _) fun _ => ?_
  refine Action.along_bind (ask_asked _) fun allocated => ?_
  split
  · exact Action.along_fail _
  · refine Action.along_bind (Action.along_gets _) fun chained => ?_
    refine Action.along_bind (destroyLayer_asked name) fun _ => ?_
    refine Action.along_bind (modifyImage_asked _) fun _ => ?_
    dsimp only
    split
    · refine Action.along_bind (modifyImage_asked _) fun _ => ?_
      refine Action.along_bind (askImage_asked _) fun top => ?_
      exact Action.along_bind (modifyImage_asked _) fun _ => Action.along_pure _
    · exact Action.along_pure _

theorem config_asked (name owner : Option String) :
    (config name owner : Action (Session σ) Json).Along (AskedOnly asked) :=
  Action.along_bind (askImage_asked _) fun _ =>
    Action.along_bind (modifyImage_asked _) fun _ => Action.along_pure _

/-- Beside the notes. -/
abbrev NotedOnly (asked : Session σ → String → Json → Prop) :
    Session σ × List String → Session σ × List String → Prop :=
  Action.BesideNotes (AskedOnly asked)

theorem silently_asked {action : Action (Session σ) α} (h : action.Along (AskedOnly asked)) :
    (Action.silently action).Along (NotedOnly asked) :=
  Action.along_silently h

theorem note_asked (item : String) : (Action.note item).Along (NotedOnly asked) :=
  Action.along_note item

theorem copyResourceAs_asked (resource destination suffix : String) :
    (Action.silently (onWorld (World.copyResourceAs resource destination suffix))).Along
      (NotedOnly asked) :=
  silently_asked (onWorld_asked
    (World.along_of_quiet (World.copyResourceAs_quiet resource destination suffix)))

theorem backupLayer_asked (primary pool suffix name : String) :
    (backupLayer agent primary pool suffix name).Along (NotedOnly asked) := by
  refine Action.along_bind (silently_asked (askImage_asked _)) fun source => ?_
  refine Action.along_bind (Action.along_liftM _) fun sourceVolume => ?_
  refine Action.along_bind (copyResourceAs_asked _ _ _) fun volume => ?_
  refine Action.along_bind (silently_asked freshId_asked) fun id => ?_
  refine Action.along_bind (silently_asked (askImage_asked _)) fun image => ?_
  refine Action.along_bind (silently_asked (modifyImage_asked _)) fun _ => ?_
  refine Action.along_bind (note_asked _) fun _ => silently_asked ?_
  refine Action.along_bind (onWorld_asked (World.updateResource_asked volume _)) fun _ => ?_
  exact Action.along_bind (onWorld_asked (World.updateResource_asked volume _))
    fun _ => Action.along_pure ()

theorem cloneLayers_asked (suffix : String) (names : List String) :
    ∀ layers, (cloneLayers agent suffix layers names).Along (NotedOnly asked) := by
  induction names with
  | nil => exact fun _ => Action.along_pure _
  | cons name rest ih =>
      refine fun layers => Action.along_bind ?_ fun layer => ih _
      refine Action.along_bind (silently_asked (askImage_asked _)) fun source => ?_
      refine Action.along_bind (Action.along_liftM _) fun sourceVolume => ?_
      refine Action.along_bind (silently_asked (ask_asked _)) fun document => ?_
      refine Action.along_bind (copyResourceAs_asked _ _ _) fun volume => ?_
      refine Action.along_bind (note_asked _) fun _ => ?_
      refine Action.along_bind (silently_asked (onWorld_asked (World.prepare_asked volume _)))
        fun _ => ?_
      exact Action.along_bind (silently_asked freshId_asked) fun _ => Action.along_pure _

/-- Image work that is asked for at a moment that allows it. -/
theorem callNode_asked {command : String} {args : Json} (h : asked session command args) :
    AskedOnly asked session ((callNode agent command args).run session).2 := by
  rcases run_callNode_snd agent command args session with hRun | ⟨call, hCall, hRun⟩
  · rw [hRun]
    exact refl session
  · rw [hRun]
    exact World.askedOnly_calling rfl fun _ => ⟨session, command, args, h, hCall, rfl⟩

end Session

/-! ## The moments of a command -/

namespace ImageCommand

/-- The arguments of a command that is handed on to the node as it is. -/
def handedOn? : ImageCommand → Option Arguments
  | restore args | commit args | snapshot args | info args | check args => some args
  | _ => none

/-- The target for which a command has the node make storage, if it does. -/
def createTarget? : ImageCommand → Option (Option String)
  | create target _ => some target
  | rebase args => some (some args.target)
  | _ => none

/-- Carried out from the first session, the command comes to the second one and asks for the given
image work there. -/
inductive Asks (agent : Agent σ) (settings : ImageSettings) :
    ImageCommand → Session σ → Session σ → String → Json → Prop
  /-- Storage is asked for once the volumes of all targets are allocated. -/
  | create {target : Option String} {extra : Arguments} {session moment : Session σ}
      {names allocated : List String} :
      session.image.targets target false = .ok names →
      (Session.allocateLayers agent [] names).run session = (.ok allocated, moment) →
      Asks agent settings (create target extra) session moment "create" (targetToJson target extra)
  /-- A rebase has storage made for the layer that it has added, ... -/
  | storeNew {args : RebaseArguments} {session placed moment : Session σ} {added : Json}
      {command : String} {sent : Json} :
      (Session.add agent settings args.addition).run session = (.ok added, placed) →
      Asks agent settings (create (some args.target) ∅) placed moment command sent →
      Asks agent settings (rebase args) session moment command sent
  /-- ... and then has it tied to the old top. -/
  | tieNew {args : RebaseArguments} {session placed moment : Session σ} {added made : Json}
      {source : String} :
      session.image.top = .ok source →
      (Session.add agent settings args.addition).run session = (.ok added, placed) →
      (Session.create agent (some args.target) ∅).run placed = (.ok made, moment) →
      Asks agent settings (rebase args) session moment "rebase"
        (Session.rebaseArguments args.extra source args.target)
  /-- Data is copied once every layer of the chain has a backup layer. -/
  | backup {args : Arguments} {session moment : Session σ} {primary pool : String}
      {created : List String} :
      session.image.primaryNode session.world.registry = .ok primary →
      session.image.backupPool session.world.registry primary = .ok pool →
      (Action.forEach (Session.backupLayer agent primary pool
        ("backup_" ++ session.world.supply.nextSuffix settings.suffixLength))
        session.image.withoutBackup).run (⟨session.image, session.world.drawingSuffix⟩, []) =
          (.ok (), (moment, created)) →
      Asks agent settings (backup args) session moment "backup" args.toJson
  /-- What only the node knows is asked for at once. -/
  | handedOn {command : ImageCommand} {session : Session σ} {args : Arguments} :
      command.handedOn? = some args →
      Asks agent settings command session session command.name args.toJson

end ImageCommand

namespace Session

variable {session : Session σ}

theorem create_asked (agent : Agent σ) (settings : ImageSettings) (target : Option String)
    (extra : Arguments) (session : Session σ) :
    AskedOnly ((ImageCommand.create target extra).Asks agent settings session) session
      ((create agent target extra).run session).2 := by
  refine Action.rel_run_bind (askImage_asked _ session) fun names asked hTargets => ?_
  obtain ⟨hNames, rfl⟩ := Prod.mk.inj hTargets
  refine Action.rel_run_bind (allocateLayers_asked names [] session) fun allocated moment hRun => ?_
  have hCall : AskedOnly ((ImageCommand.create target extra).Asks agent settings session) moment
      ((callNode agent "create" (ImageCommand.targetToJson target extra)).run moment).2 :=
    callNode_asked (.create hNames hRun)
  refine Action.rel_run_bind hCall fun result after _ => ?_
  cases result with
  | ok out => exact refl after
  | error failure =>
      exact Action.along_bind (releaseVolumes_asked allocated)
        (fun _ => Action.along_fail failure) after

/-- A rebase asks for the storage of the layer it has added and then for the layer to be tied. -/
theorem rebase_asked (agent : Agent σ) (settings : ImageSettings) (args : RebaseArguments)
    (session : Session σ) :
    AskedOnly ((ImageCommand.rebase args).Asks agent settings session) session
      ((rebase agent settings args).run session).2 := by
  refine Action.rel_run_bind (askImage_asked _ session) fun _ asked hNew => ?_
  obtain ⟨-, rfl⟩ := Prod.mk.inj hNew
  refine Action.rel_run_bind (askImage_asked _ session) fun source asked hTop => ?_
  obtain ⟨hSource, rfl⟩ := Prod.mk.inj hTop
  refine Action.rel_run_bind (add_asked settings _ session) fun added placed hAdd => ?_
  have hTie : AskedOnly ((ImageCommand.rebase args).Asks agent settings session) placed
      ((tie agent source args.target args.extra).run placed).2 := by
    refine Action.rel_run_bind ?_ fun made moment hMade => ?_
    · exact (create_asked agent settings _ _ placed).mono fun hAsks => .storeNew hAdd hAsks
    · exact callNode_asked (.tieNew hSource hAdd hMade)
  refine Action.rel_run_bind hTie fun result tied _ => ?_
  cases result with
  | error failure =>
      dsimp only
      split
      · exact Action.along_bind (dropLayer_asked args.target)
          (fun _ => Action.along_fail failure) tied
      · exact refl tied
  | ok out =>
      exact Action.along_bind (askImage_asked _)
        (fun layer => Action.along_bind (modifyImage_asked _) fun _ => Action.along_pure out) tied

theorem backup_asked (agent : Agent σ) (settings : ImageSettings) (args : Arguments)
    (session : Session σ) :
    AskedOnly ((ImageCommand.backup args).Asks agent settings session) session
      ((backup agent settings args).run session).2 := by
  have hLayers : NotedOnly ((ImageCommand.backup args).Asks agent settings session) (session, [])
      ((backupLayers agent settings args).run (session, [])).2 := by
    refine Action.rel_run_bind (silently_asked (ask_asked _) (session, []))
      fun primary asked hPrimary => ?_
    obtain ⟨hNode, rfl⟩ := Prod.mk.inj hPrimary
    refine Action.rel_run_bind (silently_asked (ask_asked _) (session, []))
      fun pool asked hBackupPool => ?_
    obtain ⟨hPool, rfl⟩ := Prod.mk.inj hBackupPool
    refine Action.rel_run_bind (silently_asked (freshSuffix_asked _) (session, []))
      fun random drawn hDraw => ?_
    obtain ⟨hRandom, rfl⟩ := Prod.mk.inj hDraw
    obtain rfl := Except.ok.inj hRandom
    refine Action.rel_run_bind (refl _) fun pending asked hPending => ?_
    obtain ⟨hWithout, rfl⟩ := Prod.mk.inj hPending
    obtain rfl := Except.ok.inj hWithout
    refine Action.rel_run_bind
      (Action.along_forEach (fun name _ => backupLayer_asked primary pool _ name) _)
      fun _ reached hLoop => ?_
    exact callNode_asked (.backup hNode hPool hLoop)
  refine Action.rel_run_bind hLayers fun outcome reached _ => ?_
  rcases outcome with ⟨failure | out, created⟩
  · dsimp only
    split
    · exact Action.along_bind (Action.along_forEach fun name _ => dropLayer_asked name)
        (fun _ => Action.along_fail failure) reached
    · exact refl reached
  · exact refl reached

/-- **A command asks for image work at its moments only**, whatever it answers. -/
theorem update_asked (agent : Agent σ) (settings : ImageSettings) (command : ImageCommand)
    (session : Session σ) :
    AskedOnly (command.Asks agent settings session) session
      ((update agent settings command).run session).2 := by
  cases command with
  | create target extra => exact create_asked agent settings target extra session
  | destroy target extra => exact destroy_asked target session
  | rebase args => exact rebase_asked agent settings args session
  | add args => exact add_asked settings args session
  | remove target => exact remove_asked target session
  | config name owner => exact config_asked name owner session
  | backup args => exact backup_asked agent settings args session
  | restore args =>
      refine Action.rel_run_bind (refl session) fun image asked hImage => ?_
      obtain ⟨-, rfl⟩ := Prod.mk.inj hImage
      split
      · exact callNode_asked (.handedOn rfl)
      · exact refl session
  | commit args => exact callNode_asked (.handedOn rfl)
  | snapshot args => exact callNode_asked (.handedOn rfl)
  | info args => exact callNode_asked (.handedOn rfl)
  | check args => exact callNode_asked (.handedOn rfl)

/-! ## The moments of a clone -/

/-- What a node is told to do for two neighbours in a chain. -/
def tieArguments (source target : String) : Json :=
  .obj [("source", .str source), ("target", .str target)]

/-- Tying a list of layers comes to the second session and has `target` tied to `source` there. -/
inductive Ties (agent : Agent σ) :
    List String → Session σ → Session σ → String → String → Prop
  | first {source target : String} {rest : List String} {session : Session σ} :
      Ties agent (source :: target :: rest) session session source target
  | later {lower upper source target : String} {rest : List String}
      {session next moment : Session σ} {out : Json} :
      (callNode agent "rebase" (tieArguments lower upper)).run session = (.ok out, next) →
      Ties agent (upper :: rest) next moment source target →
      Ties agent (lower :: upper :: rest) session moment source target

/-- Cloning the image of the first session comes to the second one, whose image is the clone, and
asks for the given image work there. -/
def CloneAsks (agent : Agent σ) (settings : ImageSettings) (session moment : Session σ)
    (command : String) (args : Json) : Prop :=
  ∃ layers reached noted source target,
    (cloneLayers agent (session.world.supply.nextSuffix settings.suffixLength) ∅
      session.image.topology.names).run (⟨session.image, session.world.drawingSuffix⟩, []) =
        (.ok layers, (reached, noted)) ∧
    Ties agent (session.image.topology.names.map
      (cloneName (session.world.supply.nextSuffix settings.suffixLength)))
        ⟨session.image.cloneOf (session.world.supply.nextSuffix settings.suffixLength)
          reached.world.supply.nextId layers, reached.world.drawingId⟩ moment source target ∧
    command = "rebase" ∧ args = tieArguments source target

/-- Layers are tied one after the other. -/
theorem tieAll_asked (agent : Agent σ) :
    ∀ (names : List String) (session : Session σ),
      AskedOnly (fun moment command args => ∃ source target,
        Ties agent names session moment source target ∧ command = "rebase" ∧
          args = tieArguments source target) session ((tieAll agent names).run session).2
  | [], session => refl session
  | [_], session => refl session
  | lower :: upper :: rest, session => by
    refine Action.rel_run_bind ?_ fun out next hCall => ?_
    · exact callNode_asked ⟨lower, upper, .first, rfl, rfl⟩
    · refine (tieAll_asked agent (upper :: rest) next).mono fun hLater => ?_
      obtain ⟨source, target, hTies, hRest⟩ := hLater
      exact ⟨source, target, .later hCall hTies, hRest⟩

/-- **A clone asks for image work at its moments only**, whatever comes of it. -/
theorem clone_asked (agent : Agent σ) (settings : ImageSettings) (session : Session σ) :
    AskedOnly (CloneAsks agent settings session) session
      ((clone agent settings).run session).2 := by
  refine Action.rel_run_bind (freshSuffix_asked _ session) fun suffix drawn hDraw => ?_
  obtain ⟨hSuffix, rfl⟩ := Prod.mk.inj hDraw
  obtain rfl := Except.ok.inj hSuffix
  have hBuild : NotedOnly (CloneAsks agent settings session)
      (⟨session.image, session.world.drawingSuffix⟩, [])
      ((buildClone agent (session.world.supply.nextSuffix settings.suffixLength)).run
        (⟨session.image, session.world.drawingSuffix⟩, [])).2 := by
    refine Action.rel_run_bind (refl _) fun image asked hImage => ?_
    obtain ⟨hSame, rfl⟩ := Prod.mk.inj hImage
    obtain rfl := Except.ok.inj hSame
    refine Action.rel_run_bind (cloneLayers_asked _ _ ∅ _) fun layers copied hLayers => ?_
    obtain ⟨reached, noted⟩ := copied
    refine Action.rel_run_bind (silently_asked freshId_asked (reached, noted))
      fun id named hDrawId => ?_
    obtain ⟨hId, rfl⟩ := Prod.mk.inj hDrawId
    obtain rfl := Except.ok.inj hId
    refine Action.rel_run_bind ?_ fun _ tied _ => refl tied
    have hTies := tieAll_asked agent
      (session.image.topology.names.map
        (cloneName (session.world.supply.nextSuffix settings.suffixLength)))
      ⟨session.image.cloneOf (session.world.supply.nextSuffix settings.suffixLength)
        reached.world.supply.nextId layers, reached.world.drawingId⟩
    rw [← Topology.names_ofNames (session.image.topology.names.map _)] at hTies
    refine hTies.mono fun hMoment => ?_
    obtain ⟨source, target, hTie, hRest⟩ := hMoment
    rw [Topology.names_ofNames] at hTie
    exact ⟨layers, reached, noted, source, target, hLayers, hTie, hRest⟩
  refine Action.rel_run_bind hBuild fun outcome reached _ => ?_
  rcases outcome with ⟨failure | made, created⟩
  · dsimp only
    split
    · exact Action.along_bind (Action.along_forEach fun volume _ =>
        onWorld_asked (World.discard_asked volume)) (fun _ => Action.along_fail failure) reached
    · exact refl reached
  · exact refl reached

/-! ## What the image stands on -/

/-- Every layer of the image stands on a registered volume of its own, which is not taken. -/
def Founded (taken : String → Prop) (session : Session σ) : Prop :=
  session.Holds taken ∧ Layer.AllMade session.image.layers

namespace Founded

variable {taken : String → Prop} {before after : Session σ}

theorem standing (h : before.Founded taken) : before.Standing := by
  refine ⟨h.1.sound, fun {name layer} hLayer => ?_⟩
  obtain ⟨volume, hVolume⟩ := h.2 name layer hLayer
  obtain ⟨-, ⟨resource, hFound, -⟩, -⟩ := h.1.made hLayer hVolume
  exact ⟨volume, resource, hVolume, hFound⟩

/-- Work on volumes leaves the image standing. -/
theorem working (h : before.Founded taken)
    (hWorking : Working agent (fun _ => True) (fun _ => False) before after) :
    after.Founded taken := by
  obtain ⟨hImage, hMoves⟩ := hWorking
  refine ⟨?_, hImage ▸ h.2⟩
  show after.world.Holds taken after.image.layers
  rw [hImage]
  exact World.Holds.kept h.1 hMoves

/-- So does giving a layer a backup, whatever its name is. -/
theorem backupLayer (agent : Agent σ) (primary pool suffix name : String) :
    (Session.backupLayer agent primary pool suffix name).Along
      (Keeping fun noted => noted.1.Founded taken) := by
  rintro ⟨session, notes⟩ h
  rcases backupLayer_cases agent .of_all primary pool suffix name session notes with
    ⟨failure, next, hRun, hMoves⟩ |
      ⟨source, volume, resource, id, edited, next, hSource, hVolume, hResource, hMakes, hEdited,
        hRun⟩
  · rw [hRun]
    exact h.working ⟨rfl, hMoves⟩
  · rw [hRun]
    obtain ⟨made, hMade, hDefinition, hSub⟩ := sub_of_withBackup hEdited
    -- the backup is a volume because its source is one
    obtain ⟨-, ⟨found, hFound, hType⟩, -⟩ := h.1.made hSource hVolume
    obtain rfl := Option.some.inj (hResource.symm.trans hFound)
    rw [hType] at hMakes
    exact ⟨(World.Holds.insert_new h.1 hMakes hMade hDefinition).sub hSub,
      (h.2.insert hMade).sub hSub⟩

theorem backupLayers (agent : Agent σ) (primary pool suffix : String) (names : List String) :
    (Action.forEach (Session.backupLayer agent primary pool suffix) names).Along
      (Keeping fun noted => noted.1.Founded taken) :=
  Action.along_forEach fun name _ => Founded.backupLayer agent primary pool suffix name

/-- A new layer stands on a new volume. -/
theorem add {args : AddArguments} {result : Except Failure Json} (h : before.Founded taken)
    (hWellFormed : before.image.WellFormed)
    (hRun : (Session.add agent settings args).run before = (result, after)) :
    after.Founded taken := by
  have hEdits : Edits agent (fun _ => True) before
      ((Session.add agent settings args).run before).2 :=
    add_edits .of_all hWellFormed settings args
  rw [hRun] at hEdits
  exact hEdits.holds h.1 h.2

end Founded

/-! ### In a clone -/

variable {session moment after : Session σ} {made : Image}

/-- Having layers tied leaves the image alone. -/
theorem Ties.working {names : List String} {source target : String}
    (h : Ties agent names session moment source target) :
    Working agent (fun _ => True) (fun _ => False) session moment := by
  induction h with
  | first => exact refl _
  | later hCall _ ih => exact IsTrans.trans _ _ _ ((callNode_working _ _).of_run hCall) ih

/-- **Whenever a clone asks for image work**, every layer that it has made stands on a registered
volume of its own, which is none that the image holds. -/
theorem CloneAsks.founded {command : String} {args : Json} {taken : String → Prop}
    (hAsks : CloneAsks agent settings session moment command args) (h : session.Founded taken) :
    moment.Founded fun volume => ∃ name, VolumeOf session.image name volume := by
  obtain ⟨layers, reached, noted, source, target, hLayers, hTies, -, -⟩ := hAsks
  have hHeld : ∀ {volume}, (∃ name, VolumeOf session.image name volume) →
      session.world.HasVolume volume := by
    rintro volume ⟨name, layer, hLayer, hVolume⟩
    exact (h.1.made hLayer hVolume).2.1
  obtain ⟨hHolds, hMade⟩ := copies_hold h.1.sound hHeld
    (fun name layer volume hLayer hVolume => ⟨name, layer, hLayer, hVolume⟩) hLayers
  have hNamed : World.Moves agent (fun _ => True) (fun _ => False) reached.world
      reached.world.drawingId := .single (.drawId _)
  have hBuilt : Founded (fun volume => ∃ name, VolumeOf session.image name volume)
      ⟨session.image.cloneOf (session.world.supply.nextSuffix settings.suffixLength)
        reached.world.supply.nextId layers, reached.world.drawingId⟩ :=
    ⟨hHolds.kept hNamed, hMade⟩
  exact hBuilt.working hTies.working

/-- A clone that is built is the image that its copies make up. -/
theorem eq_cloneOf_of_run_buildClone {suffix : String} {layers : Table Layer}
    {reached : Session σ} {noted : List String} {after : Session σ × List String}
    (hLayers : (cloneLayers agent suffix ∅ session.image.topology.names).run (session, []) =
      (.ok layers, (reached, noted)))
    (hRun : (buildClone agent suffix).run (session, []) = (.ok made, after)) :
    made = session.image.cloneOf suffix reached.world.supply.nextId layers := by
  obtain ⟨image, asked, hImage, hRest⟩ := Action.run_bind_eq_ok_iff.1 hRun
  cases hImage
  obtain ⟨copies, copied, hCopies, hRest⟩ := Action.run_bind_eq_ok_iff.1 hRest
  cases hLayers.symm.trans hCopies
  obtain ⟨id, named, hDraw, hRest⟩ := Action.run_bind_eq_ok_iff.1 hRest
  cases hDraw
  obtain ⟨_, tied, -, hEnd⟩ := Action.run_bind_eq_ok_iff.1 hRest
  cases hEnd
  rfl

/-- What is shown while a clone is made is the clone that comes of it. -/
theorem CloneAsks.image_eq {command : String} {args : Json}
    (hAsks : CloneAsks agent settings session moment command args)
    (hRun : (clone agent settings).run session = (.ok made, after)) : moment.image = made := by
  obtain ⟨layers, reached, noted, source, target, hLayers, hTies, -, -⟩ := hAsks
  obtain ⟨hImage, -⟩ := hTies.working
  have hDraw : (onWorld (World.freshSuffix settings.suffixLength)).run session =
      (.ok (session.world.supply.nextSuffix settings.suffixLength),
        ⟨session.image, session.world.drawingSuffix⟩) := rfl
  rw [clone, Action.run_bind_ok hDraw] at hRun
  obtain ⟨⟨outcome, created⟩, between, hBuild, hEnd⟩ := Action.run_bind_eq_ok_iff.1 hRun
  rcases hBuilt : (buildClone agent (session.world.supply.nextSuffix settings.suffixLength)).run
    (⟨session.image, session.world.drawingSuffix⟩, []) with ⟨built, state⟩
  rw [Action.run_noting, hBuilt] at hBuild
  cases hBuild
  cases built with
  | ok clone =>
      cases hEnd
      exact hImage.trans (eq_cloneOf_of_run_buildClone hLayers hBuilt).symm
  | error failure =>
      dsimp only at hEnd
      split at hEnd
      · obtain ⟨_, _, -, hFail⟩ := Action.run_bind_eq_ok_iff.1 hEnd
        cases hFail
      · cases hEnd

end Session

namespace ImageCommand

variable {command : ImageCommand} {session moment : Session σ} {name : String} {args : Json}
  {taken : String → Prop}

/-- **Whenever a command asks for image work**, every layer stands on a registered volume of its
own. -/
theorem Asks.founded (hAsks : command.Asks agent settings session moment name args)
    (hWellFormed : session.image.WellFormed) (h : session.Founded taken) :
    moment.Founded taken := by
  induction hAsks with
  | create _ hRun => exact h.working ((Session.allocateLayers_working _ []).of_run hRun)
  | storeNew hAdd hCreate =>
      have hPlaced := h.add hWellFormed hAdd
      -- from here storage is asked for after an allocation, whatever else the new document is
      cases hCreate with
      | create _ hRun => exact hPlaced.working ((Session.allocateLayers_working _ []).of_run hRun)
      | handedOn hOther => cases hOther
  | tieNew _ hAdd hCreate =>
      exact (h.add hWellFormed hAdd).working ((Session.create_working _ _).of_run hCreate)
  | @backup args session moment primary pool created _ _ hRun =>
      have hDraw : Session.Working agent (fun _ => True) (fun _ => False) session
          ⟨session.image, session.world.drawingSuffix⟩ :=
        ⟨rfl, .single (.drawSuffix session.world)⟩
      exact (Session.Founded.backupLayers agent _ _ _ _).of_run hRun (h.working hDraw)
  | handedOn _ => exact h

end ImageCommand

/-! ## What `create` shows -/

namespace Session

variable {image : Image}

/-- **Once layers are allocated in turn**, each of them holds storage. -/
theorem allocated_of_run_allocateLayers (agent : Agent σ) :
    ∀ {names volumes done : List String} {world : World σ} {after : Session σ},
      (allocateLayers agent volumes names).run ⟨image, world⟩ = (.ok done, after) →
      (∀ id, world.registry.allocated? id = some true →
        after.world.registry.allocated? id = some true) ∧
      ∀ name ∈ names, ∃ volume, VolumeOf image name volume ∧
        after.world.registry.allocated? volume = some true
  | [], volumes, done, world, after, hRun => by
    cases hRun
    exact ⟨fun _ hHeld => hHeld, by simp⟩
  | name :: rest, volumes, done, world, after, hRun => by
    -- the volume of the first layer holds storage before the others are looked at
    obtain ⟨volume, between, hVolume, hHeld, hKept, next, hRest⟩ :
        ∃ volume between, VolumeOf image name volume ∧
          between.registry.allocated? volume = some true ∧
          (∀ id, world.registry.allocated? id = some true →
            between.registry.allocated? id = some true) ∧
          ∃ next, (allocateLayers agent next rest).run ⟨image, between⟩ = (.ok done, after) := by
      cases hLayer : image.layers.get? name with
      | none =>
          simp only [allocateLayers, Action.run_bind, run_askImage, Image.layer, hLayer] at hRun
          cases hRun
      | some layer =>
          rw [run_allocateLayers_cons agent hLayer] at hRun
          rcases Layer.run_allocate_cases agent layer world with
            ⟨failure, between, hAllocate, -⟩ | ⟨volume, hVolume, hHeld, hAllocate⟩ |
              ⟨volume, made, between, hVolume, -, hAllocate, hMade, -, hSame⟩
          · rw [hAllocate] at hRun
            obtain ⟨_, _, -, hFail⟩ := Action.run_bind_eq_ok_iff.1 hRun
            cases hFail
          · rw [hAllocate] at hRun
            exact ⟨volume, world, ⟨layer, hLayer, hVolume⟩, hHeld, fun _ h => h, volumes, hRun⟩
          · rw [hAllocate] at hRun
            have hNow : between.registry.allocated? volume = some true := by
              rw [Registry.allocated?, hSame, if_pos rfl, Option.map_some, hMade]
            refine ⟨volume, between, ⟨layer, hLayer, hVolume⟩, hNow, fun id hHeld => ?_, _, hRun⟩
            by_cases hId : id = volume
            · rw [hId, hNow]
            · rw [Registry.allocated?_congr ((hSame id).trans (if_neg hId)), hHeld]
    obtain ⟨hStill, hOthers⟩ := allocated_of_run_allocateLayers agent hRest
    refine ⟨fun id h => hStill id (hKept id h), fun other hOther => ?_⟩
    rcases List.mem_cons.1 hOther with rfl | hLater
    · exact ⟨volume, hVolume, hStill volume hHeld⟩
    · exact hOthers other hLater

end Session

namespace ImageCommand

variable {command : ImageCommand} {session moment : Session σ} {name : String} {args : Json}

/-- What is handed on is no `create`. -/
theorem name_ne_create_of_handedOn? {args : Arguments} (h : command.handedOn? = some args) :
    command.name ≠ "create" := by
  cases command
  case restore | commit | snapshot | info | check => simp [ImageCommand.name]
  all_goals cases h

/-- **Whenever `create` is asked for**, each of its targets holds storage. -/
theorem Asks.create_allocated (hAsks : command.Asks agent settings session moment name args)
    (hCreate : name = "create") :
    ∃ target extra, command.createTarget? = some target ∧ args = targetToJson target extra ∧
      ∀ layer, Session.Targeted moment.image target layer →
        ∃ volume, Session.VolumeOf moment.image layer volume ∧
          moment.world.registry.allocated? volume = some true := by
  induction hAsks with
  | @create target extra session moment names allocated hTargets hRun =>
      have hWorking : Session.Working agent (fun _ => True) (fun _ => False) session moment :=
        (Session.allocateLayers_working names []).of_run hRun
      obtain ⟨hImage, -⟩ := hWorking
      obtain ⟨-, hHeld⟩ := Session.allocated_of_run_allocateLayers agent hRun
      refine ⟨target, extra, rfl, rfl, fun layer hTargeted => ?_⟩
      rw [hImage] at hTargeted ⊢
      refine hHeld layer ?_
      cases target with
      | none =>
          obtain rfl := Except.ok.inj hTargets
          exact hTargeted
      | some target =>
          obtain ⟨rfl, -⟩ := Session.of_targets_some hTargets
          exact List.mem_singleton.2 hTargeted
  | storeNew _ _ ih => exact ih hCreate
  | tieNew => exact absurd hCreate (by decide)
  | backup => exact absurd hCreate (by decide)
  | handedOn hHandedOn => exact absurd hCreate (name_ne_create_of_handedOn? hHandedOn)

end ImageCommand

end DiskFleet
