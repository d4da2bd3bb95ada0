import DiskFleet.Proofs.Image.Move
import DiskFleet.Proofs.Image.WellFormed
import DiskFleet.Proofs.Registry.Change

/-!
# What a command can do to an image

Most of what an image command does changes the document of the image in one of a few ways, together
with the world: a layer is placed, stacked, backed up, dropped or taken off the chain, and in
between volumes are worked on. `Session.Edit` lists these ways with their guards, and
`Session.update_edits` shows that a command on a well-formed image does nothing else, wherever it
fails. An invariant of images, or of images and the volumes they hold, then follows from one look at
each edit.

What stands between two edits may be ill formed: a chained layer is in the topology before it is
stored, and a layer that is taken off gives its volume back first. An edit is the change as a whole.
-/

namespace DiskFleet

variable {σ α : Type} {agent : Agent σ} {admits : ResourceDocument → Prop}
  {mayDrop : String → Prop}

namespace Layer

/-- A layer that was just made: it stands alone, on a volume of its own. -/
structure New (layer : Layer) (name volume : String) : Prop where
  name : layer.name = name
  backing : layer.backing = none
  backup : layer.backup = none
  volume : layer.volume = some volume
  definition : layer.definition = none

/-- What becomes of a layer whose object is made: it stays as it was, or it is put on a new volume
that was made from its definition. -/
inductive Made (agent : Agent σ) (admits : ResourceDocument → Prop) (layer : Layer)
    (world : World σ) : Layer → World σ → Prop
  | none : layer.definition = .none → Made agent admits layer world layer world
  | onVolume {definition : ResourceDocument} {id : String} {next : World σ} :
      layer.definition = some definition → World.Makes agent admits definition.type world next →
      Made agent admits layer world
        { layer with
          id := some id, definition := .none, volume := some world.supply.nextId } next

theorem Made.shape {layer made : Layer} {world next : World σ}
    (h : layer.Made agent admits world made next) : made.shape = layer.shape := by
  cases h with
  | none => rfl
  | onVolume => rfl

theorem made_of_createObject {layer made : Layer} {nodes : List String} {world after : World σ}
    (hAdmitted : layer.Admitted admits)
    (h : (layer.createObject agent nodes).run world = (.ok made, after)) :
    layer.Made agent admits world made after := by
  rcases of_createObject h with ⟨hNone, rfl, rfl⟩ | ⟨definition, id, created, out, bound,
    hDefinition, hCreate, hBind, rfl, rfl⟩
  · exact .none hNone
  · have hMakes : World.Makes agent admits definition.type world created :=
      World.makes_of_createResource (hAdmitted definition hDefinition) hCreate
    have hBound : World.Moves agent admits (fun _ => False) created
        ((World.updateResource agent world.supply.nextId (.bind nodes)).run created).2 :=
      World.updateResource_moves _ _ created
    rw [hBind] at hBound
    exact .onVolume hDefinition ((hMakes.trans hBound).trans (.single (.drawId bound)))

/-- The object of a defined layer is new, and so is its volume. -/
theorem new_of_createObject (hAdmission : World.Admission admits) {registry : Registry}
    {settings : ImageSettings} {name : String} {params : Params} {layer made : Layer}
    {nodes : List String} {world after : World σ}
    (hDefine : Layer.define registry settings name params = .ok layer)
    (hMake : (layer.createObject agent nodes).run world = (.ok made, after)) :
    made.New name world.supply.nextId ∧ World.Makes agent admits .volume world after := by
  have hPlanned : layer.Planned name := planned_of_define hDefine layer.backing
  obtain ⟨planned, hPlan, hType⟩ := hPlanned.definition
  cases made_of_createObject (admitted_of_define hAdmission hDefine) hMake with
  | none hNone =>
      rw [hPlan] at hNone
      cases hNone
  | onVolume hDefinition hMakes =>
      obtain rfl := Option.some.inj (hPlan.symm.trans hDefinition)
      rw [hType] at hMakes
      exact ⟨⟨hPlanned.name, (of_define hDefine).2.1, hPlanned.backup, rfl, rfl⟩, hMakes⟩

/-- The layer once its volume was given back for the definition of one like it. -/
def givenBack (layer : Layer) (document : ResourceDocument) : Layer :=
  { layer with
    id := none, volume := none
    definition := some { document with id := none, bindings := ∅ } }

/-- What becomes of a layer whose object is unmade: it stays as it was, or its volume is given
back. -/
inductive Unmade (registry : Registry) (layer : Layer) : Layer → Prop
  | none : layer.volume = .none → Unmade registry layer layer
  | givenBack {volume : String} {resource : Resource} :
      layer.volume = some volume → registry.resource? volume = some resource →
      Unmade registry layer (layer.givenBack resource.document)

theorem Unmade.shape {registry : Registry} {layer stored : Layer}
    (h : layer.Unmade registry stored) : stored.shape = layer.shape := by
  cases h with
  | none => rfl
  | givenBack => rfl

/-- Unmaking a layer object: nothing to do, refused, or the volume is destroyed. -/
theorem destroyObject_cases (layer : Layer) (world : World σ) :
    (∃ failure, layer.destroyObject.run world = (.error failure, world)) ∨
    (layer.volume = none ∧ layer.destroyObject.run world = (.ok layer, world)) ∨
      ∃ volume resource after, layer.volume = some volume ∧
        world.registry.resource? volume = some resource ∧
        (World.destroyResource volume).run world = (.ok (), after) ∧
        layer.destroyObject.run world = (.ok (layer.givenBack resource.document), after) := by
  unfold destroyObject
  cases hVolume : layer.volume with
  | none => exact .inr (.inl ⟨rfl, rfl⟩)
  | some volume =>
      simp only [Action.run_bind, World.run_ask]
      cases hDocument : world.registry.resourceDocument volume with
      | error failure => exact .inl ⟨failure, rfl⟩
      | ok document =>
          obtain ⟨resource, hResource, rfl⟩ := Registry.resourceDocument_eq_ok_iff.1 hDocument
          dsimp only
          rcases hDestroy : (World.destroyResource volume).run world with ⟨failure | _, after⟩
          · rcases World.destroyResource_cases volume world with
              ⟨_, hRun⟩ | ⟨_, _, _, _, _, _, hRun⟩
            · rw [hDestroy] at hRun
              obtain rfl : after = world := congrArg Prod.snd hRun
              exact .inl ⟨failure, rfl⟩
            · rw [hDestroy] at hRun
              cases hRun
          · exact .inr (.inr ⟨volume, resource, after, rfl, hResource, hDestroy, rfl⟩)

end Layer

/-- The layer that a rebase adds stands outside the chain at first. -/
def RebaseArguments.addition (args : RebaseArguments) : AddArguments :=
  { target := args.target, params := args.params, chained := false, nodes := args.nodes }

namespace Session

/-- One thing that a command can do to an image and its world. -/
inductive Edit (agent : Agent σ) (admits : ResourceDocument → Prop) :
    Session σ → Session σ → Prop
  /-- Volumes were worked on, and at most one that was just made was dropped. -/
  | worked {image : Image} {world next : World σ} :
      World.Moves agent admits (· = world.supply.nextId) world next →
      Edit agent admits ⟨image, world⟩ ⟨image, next⟩
  | described {image : Image} {world : World σ} (owner : Option String) :
      Edit agent admits ⟨image, world⟩ ⟨{ image with owner }, world⟩
  /-- A new layer outside the chain. -/
  | placed {image : Image} {world next : World σ} {name : String} {layer : Layer} :
      image.layers.contains name = false → layer.New name world.supply.nextId →
      World.Makes agent admits .volume world next →
      Edit agent admits ⟨image, world⟩ ⟨image.putLayer name layer, next⟩
  /-- A new layer on top. -/
  | stacked {image : Image} {world next : World σ} {name : String} {layer : Layer} :
      image.layers.contains name = false → layer.New name world.supply.nextId →
      World.Makes agent admits .volume world next →
      Edit agent admits ⟨image, world⟩ ⟨image.stacked name layer, next⟩
  /-- A layer from outside the chain, which holds no backup, becomes the top. -/
  | joined {image : Image} {world : World σ} {name : String} {layer : Layer} :
      image.layers.get? name = some layer → name ∉ image.topology.names →
      (∀ {other stored}, image.layers.get? other = some stored → stored.backup ≠ some name) →
      Edit agent admits ⟨image, world⟩ ⟨image.stacked name layer, world⟩
  /-- A layer of the chain gets a backup on a copy of its volume. -/
  | backedUp {image edited : Image} {world next : World σ} {name backup id volume : String}
      {source : Layer} {resource : Resource} :
      name ∈ image.topology.names → image.layers.get? name = some source →
      source.volume = some volume → world.registry.resource? volume = some resource →
      image.layers.contains backup = false →
      World.Makes agent admits resource.document.type world next →
      image.withBackup name backup id world.supply.nextId source = .ok edited →
      Edit agent admits ⟨image, world⟩ ⟨edited, next⟩
  /-- A layer outside the chain is taken off, and its volume may be dropped. -/
  | dropped {image : Image} {world next : World σ} {name : String} {layer : Layer} :
      image.layers.get? name = some layer → name ∉ image.topology.names →
      World.Moves agent admits (fun id => layer.volume = some id) world next →
      Edit agent admits ⟨image, world⟩ ⟨image.withoutLayer name, next⟩
  /-- The top of a chain is taken off, and its volume may be dropped. -/
  | unstacked {image : Image} {world next : World σ} {below : String} {layer : Layer} :
      image.layers.get? image.name = some layer → image.topology.isChain = true →
      image.topology.popped.top? = some below →
      World.Moves agent admits (fun id => layer.volume = some id) world next →
      Edit agent admits ⟨image, world⟩ ⟨image.unstacked image.name below, next⟩

/-- Any number of edits. -/
abbrev Edits (agent : Agent σ) (admits : ResourceDocument → Prop) :
    Session σ → Session σ → Prop :=
  Relation.ReflTransGen (Edit agent admits)

/-- **Every edit keeps an image well formed.** -/
theorem Edit.wellFormed {before after : Session σ} (h : before.image.WellFormed)
    (hEdit : Edit agent admits before after) : after.image.WellFormed := by
  cases hEdit with
  | worked => exact h
  | described owner => exact h.congr rfl rfl fun _ => rfl
  | placed hNew hLayer hMakes =>
      exact h.putLayer_new hNew hLayer.name hLayer.backing hLayer.backup
  | stacked hNew hLayer hMakes =>
      exact h.stack (h.not_mem_of_new hNew) (h.backup_ne_of_new hNew) hLayer.name hLayer.backup
  | joined hLayer hOutside hFree =>
      exact h.stack hOutside hFree (h.named hLayer) (h.outside hLayer hOutside).2
  | backedUp hMem hSource hVolume hResource hNew hMakes hEdited =>
      exact h.backUp hMem hSource hNew hEdited
  | dropped hLayer hOutside hMoves => exact h.withoutLayer hOutside
  | unstacked hLayer hChain hBelow hMoves => exact h.unstack hChain hBelow

theorem Edits.wellFormed {before after : Session σ} (h : before.image.WellFormed)
    (hEdits : Edits agent admits before after) : after.image.WellFormed := by
  induction hEdits with
  | refl => exact h
  | tail _ hEdit ih => exact hEdit.wellFormed ih

/-- Work that drops nothing is an edit. -/
theorem Edits.of_working {before after : Session σ}
    (h : Working agent admits (fun _ => False) before after) : Edits agent admits before after := by
  obtain ⟨image, world⟩ := before
  obtain ⟨edited, next⟩ := after
  obtain ⟨hImage, hMoves⟩ := h
  obtain rfl : edited = image := hImage
  exact .single (.worked (hMoves.mono (fun _ h => h) fun _ => False.elim))

/-! ## Layers taken off -/

/-- Unmaking the object of a stored layer: refused, or the layer is stored without it. -/
theorem destroyLayer_cases (agent : Agent σ) (admits : ResourceDocument → Prop) (name : String)
    (session : Session σ) :
    (∃ failure, (destroyLayer name).run session = (.error failure, session)) ∨
      ∃ layer stored next, session.image.layers.get? name = some layer ∧
        layer.Unmade session.world.registry stored ∧
        World.Moves agent admits (fun id => layer.volume = some id) session.world next ∧
        (destroyLayer name).run session =
          (.ok (), ⟨session.image.putLayer name stored, next⟩) := by
  have hUnfold : ∀ layer, session.image.layers.get? name = some layer →
      (destroyLayer name).run session =
        match layer.destroyObject.run session.world with
        | (.error failure, next) => (.error failure, { session with world := next })
        | (.ok stored, next) => (.ok (), ⟨session.image.putLayer name stored, next⟩) := by
    intro layer hLayer
    simp only [destroyLayer, Action.run_bind, run_askImage, Image.layer_eq_ok_iff.2 hLayer,
      onWorld, Action.run_within]
    rcases layer.destroyObject.run session.world with ⟨failure | stored, next⟩ <;> rfl
  cases hLayer : session.image.layers.get? name with
  | none =>
      have hNone : session.image.layer name = .error (.layerNotFound session.image.idText name) := by
        simp only [Image.layer, hLayer]
      left
      simp only [destroyLayer, Action.run_bind, run_askImage, hNone]
      exact ⟨_, rfl⟩
  | some layer =>
      rw [hUnfold layer hLayer]
      rcases Layer.destroyObject_cases layer session.world with
        ⟨failure, hRun⟩ | ⟨hNone, hRun⟩ |
          ⟨volume, resource, next, hVolume, hResource, hDestroy, hRun⟩
      · rw [hRun]
        exact .inl ⟨failure, rfl⟩
      · rw [hRun]
        exact .inr ⟨layer, layer, session.world, rfl, .none hNone, .refl, rfl⟩
      · rw [hRun]
        refine .inr ⟨layer, layer.givenBack resource.document, next, rfl,
          .givenBack hVolume hResource, ?_, rfl⟩
        have hMoves : World.Moves agent admits (fun id => layer.volume = some id) session.world
            ((World.destroyResource volume).run session.world).2 :=
          World.destroyResource_moves hVolume session.world
        rw [hDestroy] at hMoves
        exact hMoves

/-- A layer that is stored otherwise and then taken off is taken off. -/
theorem withoutLayer_putLayer (image : Image) (name : String) (layer : Layer) :
    (image.putLayer name layer).withoutLayer name = image.withoutLayer name := by
  simp only [Image.withoutLayer, Image.putLayer, Table.erase_insert]

/-- A layer of the chain can be taken off only if it is the top and not alone. -/
theorem of_requireRemovable {image : Image} {name : String}
    (h : image.requireRemovable name = .ok ()) (hChained : image.topology.contains name = true) :
    image.topology.isChain = true ∧ image.topology.top? = some name := by
  unfold Image.requireRemovable at h
  simp only [hChained, true_and] at h
  split at h
  · cases h
  · split at h
    · cases h
    · next hChain =>
      split at h
      · cases h
      · next hLast => exact ⟨by simpa using hChain, Decidable.not_not.1 hLast⟩

/-- Below the top of a chain there is another layer. -/
theorem exists_below {image : Image} (h : image.WellFormed)
    (hChain : image.topology.isChain = true) :
    ∃ below, image.topology.popped.top? = some below := by
  obtain ⟨rest, hNames⟩ := List.getLast?_eq_some_iff.1 h.top
  have hRest : rest ≠ [] := by
    rintro rfl
    have hSingle := h.single.2 (by rw [hNames]; rfl)
    rw [hSingle] at hChain
    cases hChain
  refine ⟨rest.getLast hRest, ?_⟩
  rw [Topology.top?, Topology.popped, Topology.names_ofNames, hNames, List.dropLast_concat,
    List.getLast?_eq_some_getLast hRest]

theorem remove_edits {session : Session σ} (h : session.image.WellFormed) (name : String) :
    Edits agent admits session ((remove name).run session).2 := by
  apply Action.rel_run_bind .refl
  intro layer after hAsk
  obtain rfl : session = after := congrArg Prod.snd hAsk
  apply Action.rel_run_bind .refl
  intro removable after hRemovable
  obtain rfl : session = after := congrArg Prod.snd hRemovable
  apply Action.rel_run_bind .refl
  intro allocated after hAllocated
  obtain rfl : session = after := congrArg Prod.snd hAllocated
  split
  · exact .refl
  simp only [Action.run_bind, Action.run_gets]
  rcases destroyLayer_cases agent admits name session with
    ⟨failure, hRun⟩ | ⟨layer, stored, next, hLayer, -, hMoves, hRun⟩
  · rw [hRun]
  · rw [hRun]
    simp only [modifyImage, Action.run_modify, withoutLayer_putLayer]
    have hAllowed : session.image.requireRemovable name = .ok () := congrArg Prod.fst hRemovable
    by_cases hChained : session.image.topology.contains name = true
    · obtain ⟨hChain, hTop⟩ := of_requireRemovable hAllowed hChained
      obtain rfl : name = session.image.name := Option.some.inj (hTop.symm.trans h.top)
      obtain ⟨below, hBelow⟩ := exists_below h hChain
      rw [if_pos hChained]
      simp only [Action.run_bind, Action.run_modify, run_askImage, Image.top,
        Image.topology_withoutLayer, hBelow, Action.run_pure]
      exact .single (.unstacked hLayer hChain hBelow hMoves)
    · rw [if_neg hChained]
      have hOutside : name ∉ session.image.topology.names := by
        simpa [Topology.contains] using hChained
      exact .single (.dropped hLayer hOutside hMoves)

/-- To discard a volume is to try, and never fails. -/
theorem run_discard_fst (agent : Agent σ) (volume : String) (world : World σ) :
    ((World.discard agent volume).run world).1 = .ok () := by
  simp only [World.discard, Action.run_bind, Action.run_attempt]
  cases ((World.updateResource agent volume (.release ∅)).run world).1 <;> rfl

/-- Dropping a layer: it is gone, and its volume may be. -/
theorem dropLayer_edits (session : Session σ) {name : String}
    (hOutside : name ∉ session.image.topology.names) :
    Edits agent admits session ((dropLayer agent name).run session).2 ∧
      ((dropLayer agent name).run session).2.image.topology = session.image.topology := by
  simp only [dropLayer, Action.run_bind, Action.run_gets]
  cases hLayer : session.image.layers.get? name with
  | none => exact ⟨.refl, rfl⟩
  | some layer =>
      dsimp only
      cases hVolume : layer.volume with
      | none => exact ⟨.single (.dropped hLayer hOutside .refl), rfl⟩
      | some volume =>
          have hMoves : World.Moves agent admits (fun id => layer.volume = some id) session.world
              ((World.discard agent volume).run session.world).2 :=
            World.discard_moves hVolume session.world
          have hRun := run_discard_fst agent volume session.world
          simp only [onWorld, Action.run_bind, Action.run_within, hRun, modifyImage,
            Action.run_modify]
          exact ⟨.single (.dropped hLayer hOutside hMoves), rfl⟩

/-! ## Layers put on -/

/-- Adding a layer: refused at once, or it depends on whether the object of a new layer is made. -/
theorem run_add_cases (agent : Agent σ) {session : Session σ} (h : session.image.WellFormed)
    (settings : ImageSettings) (args : AddArguments) :
    (∃ failure, (add agent settings args).run session = (.error failure, session)) ∨
    ∃ nodes params layer, session.image.layers.contains args.target = false ∧
      Layer.define session.world.registry settings args.target params = .ok layer ∧
      ((∃ failure next, (layer.createObject agent nodes).run session.world =
          (.error failure, next) ∧
        (add agent settings args).run session = (.error failure, ⟨session.image, next⟩)) ∨
      ∃ made out next, (layer.createObject agent nodes).run session.world = (.ok made, next) ∧
        (add agent settings args).run session =
          (.ok out, ⟨if args.chained then session.image.stacked args.target made
            else session.image.putLayer args.target made, next⟩)) := by
  simp only [add, Action.run_bind, run_askImage, run_ask]
  cases hNew : session.image.requireNew args.target with
  | error failure => exact .inl ⟨failure, rfl⟩
  | ok _ =>
      have hFree : session.image.layers.contains args.target = false := by
        unfold Image.requireNew at hNew
        split at hNew
        · cases hNew
        · next hFree => exact Bool.eq_false_iff.2 hFree
      dsimp only
      cases hNodes : session.image.nodesFor session.world.registry args.nodes with
      | error failure => exact .inl ⟨failure, rfl⟩
      | ok nodes =>
          dsimp only
          cases hDefine : Layer.define session.world.registry settings args.target
              (Image.paramsOn nodes args.params) with
          | error failure => exact .inl ⟨failure, rfl⟩
          | ok layer =>
              refine .inr ⟨nodes, Image.paramsOn nodes args.params, layer, hFree, hDefine, ?_⟩
              simp only [onWorld, Action.run_within]
              rcases hMake : (layer.createObject agent nodes).run session.world with
                ⟨failure | made, next⟩
              · exact .inl ⟨failure, next, rfl, rfl⟩
              · refine .inr ⟨made, ?_⟩
                dsimp only
                cases args.chained with
                | false => exact ⟨made.toJson, next, rfl, rfl⟩
                | true =>
                    have hTop : session.image.top = .ok session.image.name := by
                      simp only [Image.top, h.top]
                    refine ⟨Layer.toJson { made with backing := some session.image.name }, next,
                      rfl, ?_⟩
                    simp only [if_true, Action.run_bind, run_askImage, hTop, modifyImage,
                      Action.run_modify, Action.run_pure]
                    rfl

/-- Adding a layer: refused, and the image is as before, or placed where it is wanted. -/
theorem add_cases (agent : Agent σ) (hAdmission : World.Admission admits) {session : Session σ}
    (h : session.image.WellFormed) (settings : ImageSettings) (args : AddArguments) :
    (∃ failure next, (add agent settings args).run session =
        (.error failure, ⟨session.image, next⟩) ∧
      World.Moves agent admits (· = session.world.supply.nextId) session.world next) ∨
    ∃ out layer next, session.image.layers.contains args.target = false ∧
      layer.New args.target session.world.supply.nextId ∧
      World.Makes agent admits .volume session.world next ∧
      (add agent settings args).run session =
        (.ok out, ⟨if args.chained then session.image.stacked args.target layer
          else session.image.putLayer args.target layer, next⟩) := by
  rcases run_add_cases agent h settings args with
    ⟨failure, hRun⟩ | ⟨nodes, params, layer, hFree, hDefine,
      ⟨failure, next, hMake, hRun⟩ | ⟨made, out, next, hMake, hRun⟩⟩
  · exact .inl ⟨failure, session.world, hRun, .refl⟩
  · have hMoves : World.Moves agent admits (· = session.world.supply.nextId) session.world
        ((layer.createObject agent nodes).run session.world).2 :=
      Layer.createObject_moves (Layer.admitted_of_define hAdmission hDefine) nodes session.world
    rw [hMake] at hMoves
    exact .inl ⟨failure, next, hRun, hMoves⟩
  · obtain ⟨hMade, hMakes⟩ := Layer.new_of_createObject hAdmission hDefine hMake
    exact .inr ⟨out, made, next, hFree, hMade, hMakes, hRun⟩

theorem add_edits (hAdmission : World.Admission admits) {session : Session σ}
    (h : session.image.WellFormed) (settings : ImageSettings) (args : AddArguments) :
    Edits agent admits session ((add agent settings args).run session).2 := by
  rcases add_cases agent hAdmission h settings args with
    ⟨failure, next, hRun, hMoves⟩ | ⟨out, layer, next, hNew, hLayer, hMakes, hRun⟩
  · rw [hRun]
    exact .single (.worked hMoves)
  · rw [hRun]
    cases args.chained with
    | false => exact .single (.placed hNew hLayer hMakes)
    | true => exact .single (.stacked hNew hLayer hMakes)

/-- **A rebase adds a layer and ties it.** If tying fails, the layer may be dropped again; otherwise
it joins the chain. -/
theorem run_rebase (agent : Agent σ) {session : Session σ} (h : session.image.WellFormed)
    (settings : ImageSettings) (args : RebaseArguments) :
    (rebase agent settings args).run session =
      match (add agent settings args.addition).run session with
      | (.error failure, placed) => (.error failure, placed)
      | (.ok _, placed) =>
        match (tie agent session.image.name args.target args.extra).run placed with
        | (.error failure, tied) =>
          (do
            if settings.recovery = .rollback then dropLayer agent args.target
            Action.fail failure : Action (Session σ) Json).run tied
        | (.ok out, tied) =>
          (do
            let layer ← askImage (·.layer args.target)
            modifyImage fun image => (image.putLayer args.target
              { layer with backing := some session.image.name }).pushTop args.target
            return out : Action (Session σ) Json).run tied := by
  have hTop : session.image.top = .ok session.image.name := by
    simp only [Image.top, h.top]
  cases hNew : session.image.requireNew args.target with
  | error failure =>
      -- the layer is refused by the same check
      have hAdd : (add agent settings args.addition).run session = (.error failure, session) := by
        simp only [add, RebaseArguments.addition, Action.run_bind, run_askImage, hNew]
      rw [hAdd]
      simp only [rebase, Action.run_bind, run_askImage, hNew]
  | ok _ =>
      simp only [rebase, RebaseArguments.addition, Action.run_bind, run_askImage, hNew, hTop,
        Action.run_attempt]
      rcases (add agent settings _).run session with ⟨failure | out, placed⟩
      · rfl
      · dsimp only
        rcases (tie agent session.image.name args.target args.extra).run placed with
          ⟨failure | out, tied⟩ <;> rfl

theorem rebase_edits (hAdmission : World.Admission admits) {session : Session σ}
    (h : session.image.WellFormed) (settings : ImageSettings) (args : RebaseArguments) :
    Edits agent admits session ((rebase agent settings args).run session).2 := by
  rw [run_rebase agent h]
  rcases add_cases agent hAdmission h settings args.addition with
    ⟨failure, next, hRun, hMoves⟩ | ⟨out, layer, next, hNew, hLayer, hMakes, hRun⟩
  · rw [hRun]
    exact .single (.worked hMoves)
  · rw [hRun]
    have hPlaced : Edits agent admits session
        ⟨session.image.putLayer args.target layer, next⟩ := .single (.placed hNew hLayer hMakes)
    have hOutside := h.not_mem_of_new hNew
    have hStored : (session.image.putLayer args.target layer).layers.get? args.target =
        some layer := by
      simp [Image.putLayer]
    simp only [RebaseArguments.addition, Bool.false_eq_true, if_false]
    -- tying works on volumes only
    have hTie : Working agent admits (fun _ => False)
        ⟨session.image.putLayer args.target layer, next⟩
        ((tie agent session.image.name args.target args.extra).run
          ⟨session.image.putLayer args.target layer, next⟩).2 :=
      tie_working _ _ _ _
    rcases hTied : (tie agent session.image.name args.target args.extra).run
        ⟨session.image.putLayer args.target layer, next⟩ with ⟨result, ⟨image, world⟩⟩
    rw [hTied] at hTie
    obtain rfl : image = session.image.putLayer args.target layer := hTie.1
    refine hPlaced.trans ((Edits.of_working hTie).trans ?_)
    cases result with
    | error failure =>
        dsimp only
        split
        · rw [Action.snd_run_bind_fail]
          exact (dropLayer_edits ⟨session.image.putLayer args.target layer, world⟩ hOutside).1
        · exact .refl
    | ok out =>
        simp only [Action.run_bind, run_askImage, Image.layer_eq_ok_iff.2 hStored, modifyImage,
          Action.run_modify, Action.run_pure]
        refine .single (.joined hStored hOutside ?_)
        intro other stored hOther
        simp only [Image.putLayer, Table.get?_insert] at hOther
        split at hOther
        · obtain rfl := Option.some.inj hOther
          rw [hLayer.backup]
          intro hPoints
          cases hPoints
        · exact h.backup_ne_of_new hNew hOther

/-! ## Backups -/

section noted

variable {β ν : Type} {notes : List ν} {session : Session σ}
  {next : α → Action (Session σ × List ν) β}

/-- A sequence that takes notes and begins with a question about the image. -/
theorem run_askImage_bind (f : Image → Except Failure α) :
    (Action.silently (askImage f) >>= next).run (session, notes) =
      match f session.image with
      | .ok value => (next value).run (session, notes)
      | .error failure => (.error failure, (session, notes)) := by
  rw [Action.run_bind, Action.run_silently, run_askImage]
  cases f session.image <;> rfl

/-- One that begins with a question about the image and the registry. -/
theorem run_ask_bind (f : Image → Registry → Except Failure α) :
    (Action.silently (ask f) >>= next).run (session, notes) =
      match f session.image session.world.registry with
      | .ok value => (next value).run (session, notes)
      | .error failure => (.error failure, (session, notes)) := by
  rw [Action.run_bind, Action.run_silently, run_ask]
  cases f session.image session.world.registry <;> rfl

/-- One that begins with work on the world. -/
theorem run_onWorld_bind (action : Action (World σ) α) :
    (Action.silently (onWorld action) >>= next).run (session, notes) =
      match action.run session.world with
      | (.ok value, world) => (next value).run (⟨session.image, world⟩, notes)
      | (.error failure, world) => (.error failure, (⟨session.image, world⟩, notes)) := by
  rw [Action.run_bind, Action.run_silently, onWorld, Action.run_within]
  rcases action.run session.world with ⟨failure | value, world⟩ <;> rfl

/-- One that begins with a question about the volume of a layer. -/
theorem run_volumeOf_bind {next : String → Action (Session σ × List ν) β} (layer : Layer) :
    ((liftM layer.volumeOf : Action (Session σ × List ν) String) >>= next).run (session, notes) =
      match layer.volume with
      | some volume => (next volume).run (session, notes)
      | none =>
        (.error (.illegalTransition (.layerWithoutObject layer.name)), (session, notes)) := by
  rw [Action.run_bind, Action.run_liftM, Layer.volumeOf]
  cases layer.volume <;> rfl

end noted

/-- Binding and allocating a volume is work on the world alone. -/
theorem run_bind_allocate (agent : Agent σ) (volume primary : String) (session : Session σ) :
    (do
      let _ ← onWorld (World.updateResource agent volume (.bind [primary]))
      let _ ← onWorld (World.updateResource agent volume (.allocate ∅)) :
      Action (Session σ) Unit).run session =
      (((World.prepare agent volume [primary]).run session.world).1,
        ⟨session.image, ((World.prepare agent volume [primary]).run session.world).2⟩) := by
  simp only [onWorld, World.prepare, Action.run_bind, Action.run_within]
  rcases (World.updateResource agent volume (.bind [primary])).run session.world with
    ⟨failure | out, bound⟩
  · rfl
  · dsimp only
    rcases (World.updateResource agent volume (.allocate ∅)).run bound with
      ⟨failure | out, allocated⟩ <;> rfl

/-- Backing a layer up: refused at once, or for want of a copy of its volume, or there is a new
backup layer on the copy, which is then made ready as far as that goes. -/
theorem run_backupLayer_cases (agent : Agent σ) (primary pool suffix name : String)
    (session : Session σ) (notes : List String) :
    (∃ failure, (backupLayer agent primary pool suffix name).run (session, notes) =
      (.error failure, (session, notes))) ∨
    ∃ source volume, session.image.layers.get? name = some source ∧ source.volume = some volume ∧
      ((∃ failure next,
        (World.copyResourceAs volume pool suffix).run session.world = (.error failure, next) ∧
        (backupLayer agent primary pool suffix name).run (session, notes) =
          (.error failure, (⟨session.image, next⟩, notes))) ∨
      ∃ id edited copied,
        (World.copyResourceAs volume pool suffix).run session.world =
          (.ok session.world.supply.nextId, copied) ∧
        session.image.withBackup name (name ++ "_" ++ suffix) id session.world.supply.nextId
          source = .ok edited ∧
        (backupLayer agent primary pool suffix name).run (session, notes) =
          (((World.prepare agent session.world.supply.nextId [primary]).run copied.drawingId).1,
            (⟨edited, ((World.prepare agent session.world.supply.nextId [primary]).run
              copied.drawingId).2⟩, notes ++ [name ++ "_" ++ suffix]))) := by
  rw [backupLayer, run_askImage_bind]
  cases hLayer : session.image.layer name with
  | error failure => exact .inl ⟨failure, rfl⟩
  | ok source =>
      have hSource := Image.layer_eq_ok_iff.1 hLayer
      dsimp only
      rw [run_volumeOf_bind]
      cases hVolume : source.volume with
      | none => exact .inl ⟨_, rfl⟩
      | some volume =>
          refine .inr ⟨source, volume, hSource, hVolume, ?_⟩
          dsimp only
          rw [run_onWorld_bind]
          rcases hCopy : (World.copyResourceAs volume pool suffix).run session.world with
            ⟨failure | copy, copied⟩
          · exact .inl ⟨failure, copied, rfl, rfl⟩
          · obtain rfl := World.eq_nextId_of_run_copyResourceAs hCopy
            obtain ⟨edited, hEdited⟩ := Image.exists_withBackup (name ++ "_" ++ suffix)
              copied.supply.nextId session.world.supply.nextId hSource
            refine .inr ⟨copied.supply.nextId, edited, copied, rfl, hEdited, ?_⟩
            dsimp only
            rw [run_onWorld_bind, World.run_freshId]
            dsimp only
            rw [run_askImage_bind, hEdited]
            have hNote : (Action.note (name ++ "_" ++ suffix)).run
                ((⟨edited, copied.drawingId⟩ : Session σ), notes) =
                  (.ok (), (⟨edited, copied.drawingId⟩, notes ++ [name ++ "_" ++ suffix])) := rfl
            have hPut : (Action.silently (modifyImage fun _ => edited)).run
                ((⟨session.image, copied.drawingId⟩ : Session σ), notes) =
                  (.ok (), (⟨edited, copied.drawingId⟩, notes)) := rfl
            dsimp only
            rw [Action.run_bind_ok hPut, Action.run_bind_ok hNote, Action.run_silently,
              run_bind_allocate]

/-- Backing a layer up: refused, and the image is as before, or there is a new backup layer, whose
volume may not be ready. -/
theorem backupLayer_cases (agent : Agent σ) (hAdmission : World.Admission admits)
    (primary pool suffix name : String) (session : Session σ) (notes : List String) :
    (∃ failure next, (backupLayer agent primary pool suffix name).run (session, notes) =
        (.error failure, (⟨session.image, next⟩, notes)) ∧
      World.Moves agent admits (fun _ => False) session.world next) ∨
    ∃ source volume resource id edited next,
      session.image.layers.get? name = some source ∧ source.volume = some volume ∧
      session.world.registry.resource? volume = some resource ∧
      World.Makes agent admits resource.document.type session.world next ∧
      session.image.withBackup name (name ++ "_" ++ suffix) id session.world.supply.nextId source =
        .ok edited ∧
      ((backupLayer agent primary pool suffix name).run (session, notes)).2 =
        (⟨edited, next⟩, notes ++ [name ++ "_" ++ suffix]) := by
  rcases run_backupLayer_cases agent primary pool suffix name session notes with
    ⟨failure, hRun⟩ | ⟨source, volume, hSource, hVolume,
      ⟨failure, next, hCopy, hRun⟩ | ⟨id, edited, copied, hCopy, hEdited, hRun⟩⟩
  · exact .inl ⟨failure, session.world, hRun, .refl⟩
  · have hMoves : World.Moves agent admits (fun _ => False) session.world
        ((World.copyResourceAs volume pool suffix).run session.world).2 :=
      World.copyResourceAs_moves hAdmission _ _ _ session.world
    rw [hCopy] at hMoves
    exact .inl ⟨failure, next, hRun, hMoves⟩
  · obtain ⟨resource, hResource, hMakes⟩ :
        ∃ source, session.world.registry.resource? volume = some source ∧
          World.Makes agent admits source.document.type session.world copied :=
      World.makes_of_copyResourceAs hAdmission hCopy
    have hDrawn : World.Moves agent admits (fun _ => False) copied copied.drawingId :=
      .single (.drawId copied)
    have hReady : World.Moves agent admits (fun _ => False) copied.drawingId
        ((World.prepare agent session.world.supply.nextId [primary]).run copied.drawingId).2 :=
      World.prepare_moves _ _ copied.drawingId
    exact .inr ⟨source, volume, resource, id, edited, _, hSource, hVolume, hResource,
      (hMakes.trans hDrawn).trans hReady, hEdited, congrArg Prod.snd hRun⟩

/-- Under the suffix, each of the layers is stored and its backup would be new to the image. -/
def Pending (suffix : String) (names : List String) (image : Image) : Prop :=
  ∀ name ∈ names, name ∈ image.topology.names ∧
    image.layers.contains (name ++ "_" ++ suffix) = false

/-- A backup makes no other backup old. -/
theorem Pending.of_withBackup {suffix name id volume : String} {rest : List String}
    {image edited : Image} {source : Layer}
    (hPending : Pending suffix (name :: rest) image) (hNodup : (name :: rest).Nodup)
    (hSource : image.layers.get? name = some source)
    (hEdited : image.withBackup name (name ++ "_" ++ suffix) id volume source = .ok edited) :
    Pending suffix rest edited := by
  obtain ⟨hMem, hNew⟩ := hPending name List.mem_cons_self
  obtain ⟨hTopology, -, made, -, -, -, -, -, hGet⟩ := Image.of_withBackup hNew hSource hEdited
  intro other hOther
  obtain ⟨hIn, hFree⟩ := hPending other (List.mem_cons_of_mem _ hOther)
  refine ⟨hTopology ▸ hIn, ?_⟩
  have hNotName : other ++ "_" ++ suffix ≠ name := by
    intro heq
    rw [heq, Table.contains, hSource] at hFree
    cases hFree
  have hNotBackup : other ++ "_" ++ suffix ≠ name ++ "_" ++ suffix := by
    intro heq
    have hSame : other = name := by
      rw [String.append_left_inj, String.append_left_inj] at heq
      exact heq
    exact (List.nodup_cons.1 hNodup).1 (hSame ▸ hOther)
  rw [Table.contains, hGet, if_neg hNotName, if_neg hNotBackup]
  exact hFree

/-- Backups one after another, up to the first that fails: the chain stays as it is, and what is
noted lies outside of it. -/
theorem backupLayers_loop (agent : Agent σ) (hAdmission : World.Admission admits)
    (primary pool suffix : String)
    (names : List String) :
    ∀ (session : Session σ) (notes : List String), session.image.WellFormed → names.Nodup →
      Pending suffix names session.image → (∀ name ∈ notes, name ∉ session.image.topology.names) →
      ∀ result after created,
        (Action.forEach (backupLayer agent primary pool suffix) names).run (session, notes) =
          (result, (after, created)) →
        Edits agent admits session after ∧ after.image.topology = session.image.topology ∧
          ∀ name ∈ created, name ∉ session.image.topology.names := by
  induction names with
  | nil =>
      intro session notes h hNodup hPending hNotes result after created hRun
      obtain ⟨-, rfl, rfl⟩ : result = .ok () ∧ after = session ∧ created = notes := by
        simpa [Action.forEach, eq_comm] using hRun
      exact ⟨.refl, rfl, hNotes⟩
  | cons name rest ih =>
      intro session notes h hNodup hPending hNotes result after created hRun
      have hUnfold : Action.forEach (backupLayer agent primary pool suffix) (name :: rest) =
          backupLayer agent primary pool suffix name >>= fun _ =>
            Action.forEach (backupLayer agent primary pool suffix) rest := rfl
      rw [hUnfold] at hRun
      obtain ⟨hMem, hNew⟩ := hPending name List.mem_cons_self
      rcases backupLayer_cases agent hAdmission primary pool suffix name session notes with
        ⟨failure, next, hFirst, hMoves⟩ |
          ⟨source, volume, resource, id, edited, next, hSource, hVolume, hResource, hMakes,
            hEdited, hFirst⟩
      · rw [Action.run_bind_error hFirst] at hRun
        cases hRun
        exact ⟨.of_working ⟨rfl, hMoves⟩, rfl, hNotes⟩
      · have hEdit : Edit agent admits session ⟨edited, next⟩ :=
          .backedUp hMem hSource hVolume hResource hNew hMakes hEdited
        have hTopology := (Image.of_withBackup hNew hSource hEdited).1
        have hOutside : ∀ other ∈ notes ++ [name ++ "_" ++ suffix],
            other ∉ session.image.topology.names := by
          intro other hOther
          rw [List.mem_append, List.mem_singleton] at hOther
          rcases hOther with hOther | rfl
          · exact hNotes other hOther
          · exact h.not_mem_of_new hNew
        rcases hResult : (backupLayer agent primary pool suffix name).run (session, notes) with
          ⟨failure | _, reached⟩
        · rw [hResult] at hFirst
          obtain rfl := hFirst
          rw [Action.run_bind_error hResult] at hRun
          cases hRun
          exact ⟨.single hEdit, hTopology, hOutside⟩
        · rw [hResult] at hFirst
          obtain rfl := hFirst
          rw [Action.run_bind_ok hResult] at hRun
          have hPending' := hPending.of_withBackup hNodup hSource hEdited
          have hRest := ih ⟨edited, next⟩ _ (hEdit.wellFormed h) (List.nodup_cons.1 hNodup).2
            hPending' (by rw [hTopology]; exact hOutside) result after created hRun
          rw [hTopology] at hRest
          exact ⟨.head hEdit hRest.1, hRest.2⟩

/-- The backups of the whole chain would be new to the image under the random part of a suffix. -/
def BackupsNew (random : String) (image : Image) : Prop :=
  ∀ name ∈ image.topology.names,
    image.layers.contains (name ++ "_" ++ ("backup_" ++ random)) = false

/-- The layers that a backup goes through wait for it. -/
theorem pending_withoutBackup {random : String} {image : Image} (hNew : BackupsNew random image) :
    Pending ("backup_" ++ random) image.withoutBackup image := by
  intro name hName
  have hMem := List.mem_of_mem_filter hName
  exact ⟨hMem, hNew name hMem⟩

/-- A backup: refused at once, or it goes through the layers, and has the node copy the data if all
of them have got a backup layer. -/
theorem run_backupLayers_cases (agent : Agent σ) (settings : ImageSettings) (args : Arguments)
    (session : Session σ) :
    (∃ failure, (backupLayers agent settings args).run (session, []) =
      (.error failure, (session, []))) ∨
    ∃ primary pool result reached noted,
      (Action.forEach (backupLayer agent primary pool
        ("backup_" ++ session.world.supply.nextSuffix settings.suffixLength))
        session.image.withoutBackup).run (⟨session.image, session.world.drawingSuffix⟩, []) =
          (result, (reached, noted)) ∧
      ((∃ failure, (backupLayers agent settings args).run (session, []) =
          (.error failure, (reached, noted))) ∨
        result = .ok () ∧ (backupLayers agent settings args).run (session, []) =
          (((callNode agent "backup" args.toJson).run reached).1,
            (((callNode agent "backup" args.toJson).run reached).2, noted))) := by
  rw [backupLayers, run_ask_bind]
  cases hPrimary : session.image.primaryNode session.world.registry with
  | error failure => exact .inl ⟨failure, rfl⟩
  | ok primary =>
      dsimp only
      rw [run_ask_bind]
      cases hPool : session.image.backupPool session.world.registry primary with
      | error failure => exact .inl ⟨failure, rfl⟩
      | ok pool =>
          dsimp only
          rw [run_onWorld_bind, World.run_freshSuffix]
          simp only [Action.run_bind, Action.run_gets]
          rcases hLayers : (Action.forEach (backupLayer agent primary pool
              ("backup_" ++ session.world.supply.nextSuffix settings.suffixLength))
              session.image.withoutBackup).run
                (⟨session.image, session.world.drawingSuffix⟩, []) with
            ⟨failure | _, ⟨reached, noted⟩⟩
          · exact .inr ⟨primary, pool, _, reached, noted, hLayers, .inl ⟨failure, rfl⟩⟩
          · exact .inr ⟨primary, pool, _, reached, noted, hLayers, .inr ⟨rfl, rfl⟩⟩

theorem backupLayers_edits (hAdmission : World.Admission admits) {session : Session σ}
    (h : session.image.WellFormed) (settings : ImageSettings) (args : Arguments)
    (hNew : BackupsNew (session.world.supply.nextSuffix settings.suffixLength) session.image)
    {result : Except Failure Json} {after : Session σ} {created : List String}
    (hRun : (backupLayers agent settings args).run (session, []) = (result, (after, created))) :
    Edits agent admits session after ∧ after.image.topology = session.image.topology ∧
      ∀ name ∈ created, name ∉ session.image.topology.names := by
  have hNothing : ∀ name ∈ ([] : List String), name ∉ session.image.topology.names := nofun
  rcases run_backupLayers_cases agent settings args session with
    ⟨failure, hCase⟩ | ⟨primary, pool, looped, reached, noted, hLayers, hCases⟩
  · rw [hCase] at hRun
    cases hRun
    exact ⟨.refl, rfl, hNothing⟩
  · have hDrawn : Edits agent admits session ⟨session.image, session.world.drawingSuffix⟩ :=
      .of_working ⟨rfl, .single (.drawSuffix session.world)⟩
    obtain ⟨hEdits, hTopology, hOutside⟩ := backupLayers_loop agent hAdmission primary pool _
      session.image.withoutBackup ⟨session.image, session.world.drawingSuffix⟩ [] h
      (h.nodup.filter _) (pending_withoutBackup hNew) hNothing _ _ _ hLayers
    rcases hCases with ⟨failure, hCase⟩ | ⟨-, hCase⟩
    · rw [hCase] at hRun
      cases hRun
      exact ⟨hDrawn.trans hEdits, hTopology, hOutside⟩
    · have hCall : Working agent admits (fun _ => False) reached
          ((callNode agent "backup" args.toJson).run reached).2 :=
        callNode_working _ _ reached
      rw [hCase] at hRun
      cases hRun
      refine ⟨hDrawn.trans (hEdits.trans (Edits.of_working hCall)), ?_, hOutside⟩
      rw [hCall.1]
      exact hTopology

/-- Layers outside the chain are dropped one after another. -/
theorem dropLayers_edits (names : List String) :
    ∀ session : Session σ, (∀ name ∈ names, name ∉ session.image.topology.names) →
      Edits agent admits session ((Action.forEach (dropLayer agent) names).run session).2 := by
  induction names with
  | nil => exact fun _ _ => .refl
  | cons name rest ih =>
      intro session hOutside
      obtain ⟨hEdits, hTopology⟩ :
          Edits agent admits session ((dropLayer agent name).run session).2 ∧
            ((dropLayer agent name).run session).2.image.topology = session.image.topology :=
        dropLayer_edits session (hOutside name List.mem_cons_self)
      refine Action.rel_run_bind hEdits fun _ after hRun => ih after fun other hOther => ?_
      rw [hRun] at hTopology
      rw [hTopology]
      exact hOutside other (List.mem_cons_of_mem _ hOther)

theorem backup_edits (hAdmission : World.Admission admits) {session : Session σ}
    (h : session.image.WellFormed) (settings : ImageSettings) (args : Arguments)
    (hNew : BackupsNew (session.world.supply.nextSuffix settings.suffixLength) session.image) :
    Edits agent admits session ((backup agent settings args).run session).2 := by
  rcases hLayers : (backupLayers agent settings args).run (session, []) with
    ⟨result, ⟨reached, created⟩⟩
  obtain ⟨hEdits, hTopology, hOutside⟩ := backupLayers_edits hAdmission h settings args hNew hLayers
  simp only [backup, Action.run_bind, Action.run_noting, hLayers]
  cases result with
  | ok out => exact hEdits
  | error failure =>
      dsimp only
      split
      · have hDropped : Edits agent admits reached
            ((Action.forEach (dropLayer agent) created.reverse).run reached).2 := by
          apply dropLayers_edits created.reverse reached
          intro name hName
          rw [hTopology]
          exact hOutside name (List.mem_reverse.1 hName)
        rw [Action.snd_run_bind_fail]
        exact hEdits.trans hDropped
      · exact hEdits

/-- **A command on a well-formed image is a sequence of edits**, whatever it answers. The layers of
a backup must get new names. -/
theorem update_edits (hAdmission : World.Admission admits) {session : Session σ}
    (h : session.image.WellFormed) (settings : ImageSettings) (command : ImageCommand)
    (hNew : ∀ args, command = .backup args →
      BackupsNew (session.world.supply.nextSuffix settings.suffixLength) session.image) :
    Edits agent admits session ((update agent settings command).run session).2 := by
  cases command with
  | create target extra => exact .of_working (create_working target extra session)
  | destroy target extra => exact .of_working (destroy_working target session)
  | rebase args => exact rebase_edits hAdmission h settings args
  | add args => exact add_edits hAdmission h settings args
  | remove target => exact remove_edits h target
  | backup args => exact backup_edits hAdmission h settings args (hNew args rfl)
  | restore args => exact .of_working (restore_working args session)
  | commit args => exact .of_working (callNode_working _ _ session)
  | snapshot args => exact .of_working (callNode_working _ _ session)
  | info args => exact .of_working (callNode_working _ _ session)
  | check args => exact .of_working (callNode_working _ _ session)
  | config name owner =>
      simp only [update, config, Action.run_bind, run_askImage]
      cases hEdited : session.image.edited name owner with
      | error failure => exact .refl
      | ok edited =>
          unfold Image.edited at hEdited
          split at hEdited
          · cases hEdited
          · obtain rfl := Except.ok.inj hEdited
            exact .single (.described _)

end Session

end DiskFleet
