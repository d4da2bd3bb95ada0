import DiskFleet.Proofs.Image.Edit

/-!
# The objects of an image

Making an image object goes through its layers and puts each on a volume; where this fails, what was
made is unmade again. Neither changes the shape of the image: the chain, its name, and what a layer
is called, is backed by and points to. An image that was just defined is therefore well formed
before its object is made and after that, also if only some of the layers could be made.

## Main results

* `Session.createLayer_cases`: making the object of a layer is refused, or the layer is stored as it
  was made;
* `Session.createObject_sameShape`: making the image object keeps the shape;
* `Image.wellFormed_of_define`: a defined image is well formed.
-/

namespace DiskFleet

variable {σ : Type} {agent : Agent σ} {admits : ResourceDocument → Prop}

namespace Session

/-- Making the object of a layer: refused, which may have dropped the volume made for it, or the
layer is stored with its object. -/
theorem createLayer_cases (agent : Agent σ) (hAll : ∀ definition, admits definition)
    (name : String) (session : Session σ) :
    (∃ failure next, (createLayer agent name).run session =
        (.error failure, ⟨session.image, next⟩) ∧
      World.Moves agent admits (· = session.world.supply.nextId) session.world next) ∨
      ∃ layer made next, session.image.layers.get? name = some layer ∧
        layer.Made agent admits session.world made next ∧
        (createLayer agent name).run session =
          (.ok (), ⟨session.image.putLayer name made, next⟩) := by
  simp only [createLayer, Action.run_bind, run_askImage]
  cases hLayer : session.image.layer name with
  | error failure => exact .inl ⟨failure, session.world, rfl, .refl⟩
  | ok layer =>
      have hAdmitted : layer.Admitted admits := fun definition _ => hAll definition
      have hMoves : World.Moves agent admits (· = session.world.supply.nextId) session.world
          ((layer.createObject agent []).run session.world).2 :=
        Layer.createObject_moves hAdmitted [] session.world
      simp only [onWorld, Action.run_within]
      rcases hRun : (layer.createObject agent []).run session.world with ⟨failure | made, next⟩
      · rw [hRun] at hMoves
        exact .inl ⟨failure, next, rfl, hMoves⟩
      · exact .inr ⟨layer, made, next, Image.layer_eq_ok_iff.1 hLayer,
          Layer.made_of_createObject hAdmitted hRun, rfl⟩

/-- The image has the chain it had, its name, and layers of the same shape. -/
structure SameShape (before after : Session σ) : Prop where
  topology : after.image.topology = before.image.topology
  name : after.image.name = before.image.name
  shapes : ∀ name, (after.image.layers.get? name).map Layer.shape =
    (before.image.layers.get? name).map Layer.shape

instance : IsPreorder (Session σ) SameShape where
  refl _ := ⟨rfl, rfl, fun _ => rfl⟩
  trans _ _ _ first second :=
    ⟨second.topology.trans first.topology, second.name.trans first.name,
      fun name => (second.shapes name).trans (first.shapes name)⟩

/-- A layer that is stored in the shape it had. -/
theorem sameShape_putLayer {image : Image} {world next : World σ} {name : String}
    {layer stored : Layer} (hLayer : image.layers.get? name = some layer)
    (hShape : stored.shape = layer.shape) :
    SameShape ⟨image, world⟩ ⟨image.putLayer name stored, next⟩ := by
  refine ⟨rfl, rfl, fun other => ?_⟩
  simp only [Image.putLayer, Table.get?_insert]
  by_cases hOther : other = name
  · rw [if_pos hOther, hOther, hLayer, Option.map_some, Option.map_some, hShape]
  · rw [if_neg hOther]

theorem createLayer_sameShape (name : String) : (createLayer agent name).Along SameShape := by
  intro session
  have hAll : ∀ definition : ResourceDocument, (fun _ => True) definition := fun _ => trivial
  rcases createLayer_cases agent hAll name session with
    ⟨failure, next, hRun, -⟩ | ⟨layer, made, next, hLayer, hMade, hRun⟩
  · rw [hRun]
    exact ⟨rfl, rfl, fun _ => rfl⟩
  · rw [hRun]
    exact sameShape_putLayer hLayer hMade.shape

theorem destroyLayer_sameShape (agent : Agent σ) (name : String) :
    (destroyLayer name : Action (Session σ) Unit).Along SameShape := by
  intro session
  rcases destroyLayer_cases agent (fun _ => True) name session with
    ⟨failure, hRun⟩ | ⟨layer, stored, next, hLayer, hUnmade, -, hRun⟩
  · rw [hRun]
    exact ⟨rfl, rfl, fun _ => rfl⟩
  · rw [hRun]
    exact sameShape_putLayer hLayer hUnmade.shape

/-- Making the image object leads where making and unmaking the objects of its layers lead. -/
theorem along_createObject {R : Session σ → Session σ → Prop} [IsPreorder (Session σ) R]
    (hCreate : ∀ name, (createLayer agent name).Along R)
    (hDestroy : ∀ name, (destroyLayer name : Action (Session σ) Unit).Along R) :
    (createObject agent).Along R := by
  refine Action.along_bind (Action.along_gets _) fun names => ?_
  refine Action.along_bind (Action.along_attempt (Action.along_forEach fun name _ => hCreate name))
    fun result => ?_
  cases result with
  | ok _ => exact Action.along_pure _
  | error failure =>
      refine Action.along_bind (Action.along_forEach fun name _ => ?_)
        fun _ => Action.along_fail _
      exact Action.along_bind (Action.along_attempt (hDestroy name)) fun _ => Action.along_pure _

/-- **Making the image object keeps the shape**, also when it fails. -/
theorem createObject_sameShape (agent : Agent σ) : (createObject agent).Along SameShape :=
  along_createObject createLayer_sameShape (destroyLayer_sameShape agent)

/-- The image has the id it had. -/
def SameId (before after : Session σ) : Prop := after.image.id = before.image.id

instance : IsPreorder (Session σ) SameId where
  refl _ := rfl
  trans _ _ _ first second := second.trans first

/-- So it has when its object is made. -/
theorem createObject_sameId (agent : Agent σ) : (createObject agent).Along SameId := by
  have hAsk : ∀ name, (askImage (·.layer name) : Action (Session σ) Layer).Along SameId :=
    fun _ _ => rfl
  have hWorld : ∀ action : Action (World σ) Layer, (onWorld action).Along SameId := fun _ _ => rfl
  have hStore : ∀ name layer,
      (modifyImage (·.putLayer name layer) : Action (Session σ) Unit).Along SameId :=
    fun _ _ _ => rfl
  refine along_createObject (fun name => ?_) fun name => ?_
  · exact Action.along_bind (hAsk name) fun layer =>
      Action.along_bind (hWorld _) fun made => hStore name made
  · exact Action.along_bind (hAsk name) fun layer =>
      Action.along_bind (hWorld _) fun unmade => hStore name unmade

end Session

namespace Image

/-- **A defined image is well formed**, if the names in its chain are distinct. -/
theorem wellFormed_of_define {registry : Registry} {settings : ImageSettings} {name : String}
    {params : Params} {image : Image} (hNodup : (chainNames name params).Nodup)
    (h : Image.define registry settings name params = .ok image) : image.WellFormed := by
  obtain ⟨hTopology, hName, hOnly, hLayers⟩ := of_define hNodup h
  refine .of_chain hTopology hNodup hName hOnly fun i layerName hIndex => ?_
  obtain ⟨layer, hLayer, hPlanned, hBacking⟩ := hLayers i layerName hIndex
  exact ⟨layer, hLayer, hPlanned.name, hPlanned.backup, hBacking⟩

theorem WellFormed.of_sameShape {before after : Session σ} (h : before.image.WellFormed)
    (hShape : before.SameShape after) : after.image.WellFormed :=
  h.congr hShape.topology hShape.name hShape.shapes

end Image

end DiskFleet
