import DiskFleet.Proofs.Image.Legality
import DiskFleet.Proofs.Image.Making

/-!
# What adding a layer leaves

`add` makes a layer on a volume of its own and places it in the document, beside the chain or on top
of it. All that the world then has more is that volume (`Layer.MadeOn`), and the document has no
more than the layer, its place in the topology and, on top, the name. `remove` looks for the layer
in all of these places, so that after it both are as they were.

A chain that was a single layer is written otherwise with two, and that is undone as well: a
well-formed topology is the one of its names.

## Main results

* `Layer.madeOn_of_createObject`: the object of a new layer;
* `Session.of_run_add`: what is there after `add`, whatever the document was like;
* `Session.run_remove_of_add`: a layer that was added is taken off again.
-/

namespace DiskFleet

variable {σ : Type} {agent : Agent σ}

/-! ## The new layer -/

/-- A layer was made under a name, on a new volume. That is bound to the given nodes, or to those of
its pool if there are none, and holds no storage. Nothing else was registered, and nobody was
called. -/
structure Layer.MadeOn (before after : World σ) (name : String) (nodes : List String)
    (layer : Layer) : Prop where
  new : layer.New name before.supply.nextId
  sound : after.Sound
  others : after.registry.without before.supply.nextId = before.registry
  link : after.link = before.link
  volume : ∃ poolId pool resource,
    after.registry.owners.get? before.supply.nextId = some poolId ∧
    after.registry.pools.get? poolId = some pool ∧
    pool.resources.get? before.supply.nextId = some resource ∧
    resource.document.allocated = false ∧
    ∀ node, node ∈ resource.document.bound ↔
      node ∈ if nodes.isEmpty then pool.document.access else nodes

namespace Layer

variable {registry : Registry} {settings : ImageSettings} {name : String} {params : Params}
  {nodes : List String} {layer made : Layer} {world after : World σ}

/-- **The object of a defined layer is made on the nodes that were named.** -/
theorem madeOn_of_createObject (h : world.Sound)
    (hDefine : Layer.define registry settings name params = .ok layer)
    (hRun : (layer.createObject agent nodes).run world = (.ok made, after)) :
    made.MadeOn world after name nodes := by
  obtain ⟨definition, hCarried, -, hFree, hUnbound⟩ :=
    (drafted_of_define hDefine layer.backing).definition
  have hCarried : layer.definition = some definition := hCarried
  have hNew : made.New name world.supply.nextId ∧
      World.Makes agent (fun _ => True) .volume world after := new_of_createObject .of_all hDefine hRun
  constructor
  case new => exact hNew.1
  case sound =>
    have hMoves : World.Moves agent (fun _ => True) (· = world.supply.nextId) world
        ((layer.createObject agent nodes).run world).2 :=
      createObject_moves (fun _ _ => trivial) nodes world
    rw [hRun] at hMoves
    exact h.moves hMoves
  case others => exact (without_createObject h hCarried hFree hUnbound hRun).2.1
  case link =>
    have hQuiet : World.Quiet world ((layer.createObject agent nodes).run world).2 :=
      layer.createObject_quiet nodes world
    rw [hRun] at hQuiet
    exact hQuiet
  case volume =>
    rcases of_createObject hRun with
      ⟨hNone, -, -⟩ | ⟨other, id, created, out, bound, hOther, hCreate, hBind, rfl, -⟩
    · rw [hCarried] at hNone
      cases hNone
    · obtain rfl : definition = other := Option.some.inj (hCarried.symm.trans hOther)
      obtain ⟨poolId, pool, resource, -, hOwner, hPool, hStored, -, -, hAllocated, hNodes⟩ :=
        World.stored_of_bind hUnbound hCreate hBind
      exact ⟨poolId, pool, resource, hOwner, hPool, hStored, hAllocated.trans hFree, hNodes⟩

/-- The volume of a new layer holds no storage. -/
theorem MadeOn.allocated? (h : made.MadeOn world after name nodes) :
    after.registry.allocated? world.supply.nextId = some false := by
  obtain ⟨poolId, pool, resource, hOwner, hPool, hStored, hFree, -⟩ := h.volume
  rw [Registry.allocated?, Registry.resource?_eq hOwner hPool, hStored, Option.map_some, hFree]

/-- Without the volume of the new layer the registry is what it was. -/
theorem MadeOn.withoutAll_volumesOf {image : Image} (h : made.MadeOn world after name nodes)
    (hLayer : image.layers.get? name = some layer) (hVolume : layer.volume = made.volume) :
    after.withoutAll (image.volumesOf [name]) = { after with registry := world.registry } := by
  have hVolumes : image.volumesOf [name] = [world.supply.nextId] := by
    simp [Image.volumesOf, Image.volume?, hLayer, hVolume, h.new.volume]
  rw [hVolumes, ← h.others]
  rfl

end Layer

/-! ## Its place in the document -/

/-- The topology of a well-formed image is the one of its names. -/
theorem Image.WellFormed.ofNames_names {image : Image} (h : image.WellFormed) :
    Topology.ofNames image.topology.names = image.topology := by
  have hPositive := List.length_pos_iff.2 h.nonempty
  have hSingle := h.single
  cases hTopology : image.topology with
  | single names =>
      rw [hTopology] at hSingle
      have hOne : names.length = 1 := hSingle.1 rfl
      exact if_neg (by show ¬1 < names.length; omega)
  | chain names =>
      rw [hTopology] at hSingle hPositive
      have hNotOne : names.length ≠ 1 := fun hOne => Bool.noConfusion (hSingle.2 hOne)
      have hLength : 0 < names.length := hPositive
      exact if_pos (by show 1 < names.length; omega)

namespace Image

variable {image : Image} {name : String}

theorem names_stacked (image : Image) (name : String) (layer : Layer) :
    (image.stacked name layer).topology.names = image.topology.names ++ [name] :=
  Topology.names_ofNames _

/-- A new top can be taken off. -/
theorem WellFormed.detachable_stacked (h : image.WellFormed) (layer : Layer) :
    (image.stacked name layer).Detachable name := by
  have hPositive := List.length_pos_iff.2 h.nonempty
  refine .inr ⟨?_, ?_⟩
  · rw [Topology.top?, names_stacked, List.getLast?_concat]
  · rw [names_stacked, List.length_append, List.length_singleton]
    omega

/-- The layer below a new top is the former one. -/
theorem WellFormed.top?_popped_stacked (h : image.WellFormed) (layer : Layer) :
    (image.stacked name layer).topology.popped.top? = some image.name := by
  have hNames : (image.stacked name layer).topology.popped.names = image.topology.names :=
    Topology.names_popped_pushed _ _
  rw [Topology.top?, hNames]
  exact h.top

/-- **Taking a new top off undoes putting it on.** -/
theorem unstacked_stacked (h : image.WellFormed) (hNew : image.layers.contains name = false)
    (layer : Layer) :
    (image.stacked name layer).unstacked name image.name = image := by
  have hBeside := Session.withoutLayer_putLayer_new h hNew layer
  rw [Session.withoutLayer_putLayer] at hBeside
  have hLayers : ((image.stacked name layer).withoutLayer name).layers = image.layers := by
    rw [stacked, Session.withoutLayer_putLayer]
    show (image.withoutLayer name).layers = image.layers
    rw [hBeside]
  have hTopology : (image.topology.pushed name).popped = image.topology :=
    (Topology.popped_pushed _ _).trans h.ofNames_names
  show { image with
    topology := (image.topology.pushed name).popped
    layers := ((image.stacked name layer).withoutLayer name).layers } = image
  rw [hLayers, hTopology]

end Image

namespace Session

variable {settings : ImageSettings} {session after : Session σ} {args : AddArguments} {out : Json}

/-- **What `add` leaves**: a layer that was made on its nodes, stored under a name that was free, and
on top of the chain if that was asked for. -/
theorem of_run_add (hSound : session.world.Sound)
    (hRun : (add agent settings args).run session = (.ok out, after)) :
    ∃ nodes made, session.image.layers.contains args.target = false ∧
      session.image.nodesFor session.world.registry args.nodes = .ok nodes ∧
      made.MadeOn session.world after.world args.target nodes ∧
      (args.chained = false ∧ after.image = session.image.putLayer args.target made ∨
        args.chained = true ∧ ∃ top, session.image.topology.top? = some top ∧
          after.image = (session.image.pushTop args.target).putLayer args.target
            { made with backing := some top }) := by
  obtain ⟨_, asked, hAsk, hRun⟩ := Action.run_bind_eq_ok_iff.1 hRun
  obtain rfl : session = asked := congrArg Prod.snd hAsk
  have hNew : session.image.requireNew args.target = .ok () := congrArg Prod.fst hAsk
  obtain ⟨nodes, asked, hAsk, hRun⟩ := Action.run_bind_eq_ok_iff.1 hRun
  obtain rfl : session = asked := congrArg Prod.snd hAsk
  have hNodes : session.image.nodesFor session.world.registry args.nodes = .ok nodes :=
    congrArg Prod.fst hAsk
  obtain ⟨layer, asked, hAsk, hRun⟩ := Action.run_bind_eq_ok_iff.1 hRun
  obtain rfl : session = asked := congrArg Prod.snd hAsk
  have hDefine : Layer.define session.world.registry settings args.target
      (Image.paramsOn nodes args.params) = .ok layer := congrArg Prod.fst hAsk
  obtain ⟨made, placed, hMake, hRun⟩ := Action.run_bind_eq_ok_iff.1 hRun
  rw [onWorld, Action.run_within] at hMake
  rcases hCreate : (layer.createObject agent nodes).run session.world with ⟨failure | other, next⟩
  · rw [hCreate] at hMake
    cases hMake
  rw [hCreate] at hMake
  cases hMake
  have hMadeOn := Layer.madeOn_of_createObject hSound hDefine hCreate
  have hFree : session.image.layers.contains args.target = false := by
    unfold Image.requireNew at hNew
    split at hNew
    · cases hNew
    · next hFree => exact Bool.eq_false_iff.2 hFree
  refine ⟨nodes, made, hFree, hNodes, ?_⟩
  cases hChained : args.chained with
  | false =>
      rw [hChained] at hRun
      cases hRun
      exact ⟨hMadeOn, .inl ⟨rfl, rfl⟩⟩
  | true =>
      rw [hChained, if_pos rfl, Action.run_bind] at hRun
      cases hTop : session.image.topology.top? with
      | none =>
          simp only [run_askImage, Image.top, hTop] at hRun
          cases hRun
      | some top =>
          simp only [Action.run_bind, run_askImage, Image.top, hTop, modifyImage,
            Action.run_modify, Action.run_pure] at hRun
          cases hRun
          exact ⟨hMadeOn, .inr ⟨rfl, top, rfl, rfl⟩⟩

/-- **A layer that was added can be taken off again**, and then nothing is left of it, neither in the
document nor in the registry. -/
theorem run_remove_of_add (hFormed : session.image.WellFormed) (hSound : session.world.Sound)
    (hRun : (add agent settings args).run session = (.ok out, after)) :
    (remove args.target).run after = (.ok .null,
      ⟨session.image, { after.world with registry := session.world.registry }⟩) := by
  obtain ⟨nodes, made, hNew, -, hMade, hPlace⟩ := of_run_add hSound hRun
  have hOutside := hFormed.not_mem_of_new hNew
  rcases hPlace with ⟨-, hImage⟩ | ⟨-, top, hTop, hImage⟩
  · have hAfter : after.image.WellFormed :=
      hImage ▸ hFormed.putLayer_new hNew hMade.new.name hMade.new.backing hMade.new.backup
    have hLayer : after.image.layers.get? args.target = some made := by
      rw [hImage]
      simp [Image.putLayer]
    have hStill : args.target ∉ after.image.topology.names := by
      rw [hImage]
      exact hOutside
    obtain ⟨image, hRemove, hWithout, -⟩ := run_remove_of_removable hAfter hMade.sound
      ⟨.inl hStill, made, _, hLayer, hMade.new.volume, hMade.allocated?⟩
    obtain rfl : image = session.image := by
      rw [hWithout hStill, hImage, withoutLayer_putLayer_new hFormed hNew]
    rw [hRemove, hMade.withoutAll_volumesOf hLayer rfl]
  · obtain rfl : session.image.name = top := Option.some.inj (hFormed.top.symm.trans hTop)
    have hStacked : after.image = session.image.stacked args.target made := hImage
    have hAfter : after.image.WellFormed :=
      hStacked ▸ hFormed.stack hOutside (hFormed.backup_ne_of_new hNew) hMade.new.name
        hMade.new.backup
    have hLayer : after.image.layers.get? args.target =
        some { made with backing := some session.image.name } := by
      rw [hImage]
      simp [Image.putLayer]
    have hThere : args.target ∈ after.image.topology.names := by
      rw [hStacked, Image.names_stacked]
      simp
    have hBelow : after.image.topology.popped.top? = some session.image.name :=
      hStacked ▸ hFormed.top?_popped_stacked made
    obtain ⟨image, hRemove, -, hUnstacked⟩ := run_remove_of_removable hAfter hMade.sound
      ⟨hStacked ▸ hFormed.detachable_stacked made, _, _, hLayer, hMade.new.volume,
        hMade.allocated?⟩
    obtain rfl : image = session.image := by
      rw [hUnstacked _ hThere hBelow, hStacked, Image.unstacked_stacked hFormed hNew]
    rw [hRemove, hMade.withoutAll_volumesOf hLayer rfl]

end Session

end DiskFleet
