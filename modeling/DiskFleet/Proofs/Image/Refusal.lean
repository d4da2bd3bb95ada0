import DiskFleet.Proofs.Image.Rebase
import DiskFleet.Proofs.Registry.Refusal

/-!
# Image commands that change nothing

`add`, `remove` and `config` edit the document of an image. What they do to volumes on the way is
done by the engine alone: a volume is made and bound, or destroyed. So they call no agent, and where
they fail they have changed nothing: a volume that cannot be bound is taken back, and a layer whose
volume cannot be destroyed stays. Once its volume is gone, nothing can keep a layer from being taken
off, because a chain that may lose its top has a layer below.

What is handed on to a node is `Untouched` in the engine, whatever the node answers.

## Main results

* `Session.add_refused`, `Session.remove_refused`, `Session.config_refused`: edits that fail;
* `Session.callNode_untouched`, `Session.restore_untouched`: work that is handed on.
-/

namespace DiskFleet

variable {σ α : Type} {agent : Agent σ}

/-- The object of a layer is made without a call. -/
theorem Layer.createObject_quiet (layer : Layer) (nodes : List String) :
    (layer.createObject agent nodes).Along World.Quiet := by
  unfold createObject
  cases layer.definition with
  | none => exact Action.along_pure _
  | some definition =>
      refine Action.along_bind (World.createResource_quiet definition) fun volume => ?_
      refine Action.along_bind (Action.along_attempt (World.bind_quiet agent volume nodes))
        fun result => ?_
      cases result with
      | error failure =>
          exact Action.along_bind (Action.along_attempt (World.destroyResource_quiet volume))
            fun _ => Action.along_fail _
      | ok out =>
          have hDraw : (World.freshId : Action (World σ) String).Along World.Quiet :=
            fun _ => rfl
          exact Action.along_bind hDraw fun _ => Action.along_pure _

namespace Session

variable {session after : Session σ} {failure : Failure}

/-! ## Work that is handed on -/

/-- The document and the registry are as they were, and ids are still drawn only once. -/
structure Untouched (before after : Session σ) : Prop where
  image : after.image = before.image
  registry : after.world.registry = before.world.registry
  sound : before.world.Sound → after.world.Sound

instance : IsPreorder (Session σ) Untouched where
  refl _ := ⟨rfl, rfl, fun h => h⟩
  trans _ _ _ first second :=
    ⟨second.image.trans first.image, second.registry.trans first.registry,
      fun h => second.sound (first.sound h)⟩

/-- A call for image work changes nothing in the engine. -/
theorem callNode_untouched (agent : Agent σ) (command : String) (args : Json) :
    (callNode agent command args).Along Untouched := by
  intro session
  obtain ⟨result, after, hRun, hSame⟩ :=
    registry_run_callNode agent command args session.image session.world
  have hMoves : Working agent (fun _ => True) (fun _ => False) session
      ((callNode agent command args).run session).2 := callNode_working command args session
  rw [hRun] at hMoves ⊢
  exact ⟨rfl, hSame, fun hSound => hSound.moves hMoves.2⟩

/-- Restoring backups is a call, or refused. -/
theorem restore_untouched (agent : Agent σ) (args : Arguments) :
    (restore agent args).Along Untouched := by
  apply Action.along_gets_bind
  intro session
  split
  · exact callNode_untouched agent _ _ session
  · exact refl session

/-! ## Edits that fail -/

/-- **Adding a layer that fails has changed nothing and called nobody.** -/
theorem add_refused (hWellFormed : session.image.WellFormed) (hSound : session.world.Sound)
    {settings : ImageSettings} {args : AddArguments}
    (hRun : (add agent settings args).run session = (.error failure, after)) :
    after.image = session.image ∧ after.world.registry = session.world.registry ∧
      after.world.link = session.world.link := by
  rcases run_add_cases agent hWellFormed settings args with
    ⟨refusal, hCase⟩ | ⟨nodes, params, layer, -, hDefine, hMaking⟩
  · rw [hCase] at hRun
    cases hRun
    exact ⟨rfl, rfl, rfl⟩
  · rcases hMaking with ⟨refusal, next, hMake, hCase⟩ | ⟨made, out, next, -, hCase⟩
    · rw [hCase] at hRun
      cases hRun
      obtain ⟨-, -, -, -, definition, volumeParams, hCarried, hDefined⟩ := Layer.of_define hDefine
      obtain ⟨poolId, pool, cls, defined, -, -, hClass, rfl⟩ := Registry.of_defineResource hDefined
      obtain ⟨-, hFree, hUnbound⟩ := ResourceClass.type_of_define hClass
      have hQuiet : World.Quiet session.world
          ((layer.createObject agent nodes).run session.world).2 :=
        layer.createObject_quiet nodes session.world
      rw [hMake] at hQuiet
      exact ⟨rfl, Layer.registry_createObject_error hSound hCarried hFree hUnbound hMake, hQuiet⟩
    · rw [hCase] at hRun
      cases hRun

/-- **Taking a layer off that fails has changed nothing and called nobody.** -/
theorem remove_refused (agent : Agent σ) (hWellFormed : session.image.WellFormed) {name : String}
    (hRun : (remove name).run session = (.error failure, after)) : after = session := by
  -- whatever is looked up first leaves the session alone
  rcases Action.run_bind_eq_error_iff.1 hRun with hAsk | ⟨layer, asked, hAsk, hRun⟩
  · exact (congrArg Prod.snd hAsk).symm
  obtain rfl : session = asked := congrArg Prod.snd hAsk
  rcases Action.run_bind_eq_error_iff.1 hRun with hAsk | ⟨_, asked, hAllow, hRun⟩
  · exact (congrArg Prod.snd hAsk).symm
  obtain rfl : session = asked := congrArg Prod.snd hAllow
  have hAllowed : session.image.requireRemovable name = .ok () := congrArg Prod.fst hAllow
  rcases Action.run_bind_eq_error_iff.1 hRun with hAsk | ⟨held, asked, hHeld, hRun⟩
  · exact (congrArg Prod.snd hAsk).symm
  obtain rfl : session = asked := congrArg Prod.snd hHeld
  split at hRun
  · exact (congrArg Prod.snd hRun).symm
  simp only [Action.run_bind, Action.run_gets] at hRun
  rcases destroyLayer_cases agent (fun _ => True) name session with
    ⟨refusal, hCase⟩ | ⟨_, stored, next, -, -, -, hCase⟩
  · rw [hCase] at hRun
    exact (congrArg Prod.snd hRun).symm
  · -- the volume is gone, and the chain has another top if it needs one
    rw [hCase] at hRun
    simp only [modifyImage, Action.run_modify, withoutLayer_putLayer] at hRun
    split at hRun
    · next hChained =>
      obtain ⟨hChain, -⟩ := of_requireRemovable hAllowed hChained
      obtain ⟨below, hBelow⟩ := exists_below hWellFormed hChain
      simp only [Action.run_bind, Action.run_modify, run_askImage, Image.top,
        Image.topology_withoutLayer, hBelow, Action.run_pure] at hRun
      cases hRun
    · cases hRun

/-- **Editing the meta data that fails has changed nothing and called nobody.** -/
theorem config_refused {name owner : Option String}
    (hRun : (config name owner).run session = (.error failure, after)) : after = session := by
  rcases Action.run_bind_eq_error_iff.1 hRun with hAsk | ⟨edited, asked, -, hRun⟩
  · exact (congrArg Prod.snd hAsk).symm
  · cases hRun

end Session

end DiskFleet
