import DiskFleet.Image.Object

/-!
# What definitions look like

A layer is defined together with a volume, and an image together with its chain of layers. This
module says what a successful definition holds, so that statements about images that are made of
definitions never look into how parameters are read.

## Main results

* `Layer.of_define`: a defined layer stands alone, without object, and carries the definition of its
  volume;
* `Registry.of_defineResource`: that definition is one of the class that its pool holds;
* `Image.of_define`: a defined image is a chain of such layers;
* `Image.planned_of_define`: and has no others.
-/

namespace DiskFleet

/-- The names of the layers in the chain of a defined image. -/
def Image.chainNames (name : String) (params : Params) : List String :=
  if (params.objects "image_chain").isEmpty then [name] else params.objects "image_chain"

/-- A defined resource is one of the class that some pool holds for its type. -/
theorem Registry.of_defineResource {registry : Registry} {name : String} {type : ResourceType}
    {params : Params} {definition : ResourceDocument}
    (h : registry.defineResource name type params = .ok definition) :
    ∃ poolId pool cls defined, registry.pools.get? poolId = some pool ∧
      pool.kind.classFor? type = some cls ∧ cls.define name params = .ok defined ∧
      definition = { defined with pool := some pool.idText } := by
  unfold defineResource at h
  cases hFor : registry.poolFor? type params with
  | none => rw [hFor] at h; cases h
  | some poolId =>
      rw [hFor] at h
      obtain ⟨pool, hPool, hDefined⟩ := Action.bind_eq_ok_iff.1 h
      obtain ⟨cls, hClass, hDefine⟩ := Action.bind_eq_ok_iff.1 hDefined
      obtain ⟨defined, hDefined, hResult⟩ := Action.bind_eq_ok_iff.1 hDefine
      exact ⟨poolId, pool, cls, defined, pool_eq_ok_iff.1 hPool, Pool.classFor_eq_ok_iff.1 hClass,
        hDefined, (Except.ok.inj hResult).symm⟩

/-- A class that a pool holds for a type defines resources of that type. -/
theorem ResourceClass.type_of_define {cls : ResourceClass} {name : String} {params : Params}
    {definition : ResourceDocument} (h : cls.define name params = .ok definition) :
    definition.type = cls.type ∧ definition.allocated = false ∧ definition.bindings = ∅ := by
  cases cls with
  | tapPort =>
      obtain rfl := Except.ok.inj h
      exact ⟨rfl, rfl, rfl⟩
  | volume kind =>
      obtain ⟨size, -, hResult⟩ := Action.bind_eq_ok_iff.1 h
      obtain rfl := Except.ok.inj hResult
      exact ⟨rfl, rfl, rfl⟩

/-- A defined layer stands alone and carries the definition of its volume. -/
theorem Layer.of_define {registry : Registry} {settings : ImageSettings} {name : String}
    {params : Params} {layer : Layer} (h : Layer.define registry settings name params = .ok layer) :
    layer.name = name ∧ layer.backing = none ∧ layer.backup = none ∧ layer.volume = none ∧
      ∃ definition volumeParams, layer.definition = some definition ∧
        registry.defineResource name .volume volumeParams = .ok definition := by
  simp only [Layer.define] at h
  split at h
  · cases h
  · obtain ⟨definition, hDefinition, hResult⟩ := Action.bind_eq_ok_iff.1 h
    obtain rfl := Except.ok.inj hResult
    exact ⟨rfl, rfl, rfl, rfl, definition, _, rfl, hDefinition⟩

/-- A layer as it is defined: it has no object yet, but a definition of a volume. -/
structure Layer.Planned (layer : Layer) (name : String) : Prop where
  name : layer.name = name
  backup : layer.backup = none
  volume : layer.volume = none
  definition : ∃ definition, layer.definition = some definition ∧ definition.type = .volume

theorem Layer.planned_of_define {registry : Registry} {settings : ImageSettings} {name : String}
    {params : Params} {layer : Layer} (h : Layer.define registry settings name params = .ok layer)
    (backing : Option String) : Layer.Planned { layer with backing } name := by
  obtain ⟨hName, -, hBackup, hVolume, definition, volumeParams, hCarried, hDefined⟩ := of_define h
  obtain ⟨poolId, pool, cls, defined, -, hClass, hResource, rfl⟩ :=
    Registry.of_defineResource hDefined
  refine ⟨hName, hBackup, hVolume, _, hCarried, ?_⟩
  exact (ResourceClass.type_of_define hResource).1.trans (PoolKind.type_of_classFor? hClass)

/-- The layers of a chain are planned, each backed by the one before it; what was there before
stays. -/
theorem Image.of_defineLayers {registry : Registry} {settings : ImageSettings} {params : Params}
    (names : List String) :
    ∀ {layers result : Table Layer} {backing : Option String}, names.Nodup →
      defineLayers registry settings params layers backing names = .ok result →
      (∀ key, key ∉ names → result.get? key = layers.get? key) ∧
        ∀ i name, names[i]? = some name → ∃ layer : Layer, result.get? name = some layer ∧
          layer.Planned name ∧ layer.backing = if i = 0 then backing else names[i - 1]? := by
  induction names with
  | nil =>
      intro layers result backing hNodup h
      obtain rfl := Except.ok.inj h
      exact ⟨fun _ _ => rfl, fun i name hName => by cases hName⟩
  | cons first rest ih =>
      intro layers result backing hNodup h
      obtain ⟨hNew, hRest⟩ := List.nodup_cons.1 hNodup
      obtain ⟨layer, hDefine, hLayers⟩ := Action.bind_eq_ok_iff.1 h
      obtain ⟨hOld, hThere⟩ := ih hRest hLayers
      constructor
      · intro key hKey
        rw [List.mem_cons, not_or] at hKey
        rw [hOld key hKey.2, Table.get?_insert, if_neg hKey.1]
      · intro i name hName
        cases i with
        | zero =>
            obtain rfl : first = name := Option.some.inj hName
            refine ⟨{ layer with backing }, ?_, Layer.planned_of_define hDefine backing, rfl⟩
            rw [hOld first hNew, Table.get?_insert, if_pos rfl]
        | succ i =>
            obtain ⟨stored, hStored, hPlanned, hBacking⟩ := hThere i name hName
            refine ⟨stored, hStored, hPlanned, ?_⟩
            rw [hBacking, if_neg (Nat.succ_ne_zero i), Nat.add_sub_cancel]
            cases i with
            | zero => rfl
            | succ i => simp

/-- What a defined image looks like. -/
theorem Image.of_define {registry : Registry} {settings : ImageSettings} {name : String}
    {params : Params} {image : Image} (hNodup : (chainNames name params).Nodup)
    (h : Image.define registry settings name params = .ok image) :
    image.topology = .ofNames (chainNames name params) ∧
      (chainNames name params).getLast? = some image.name ∧
      (∀ key, key ∉ chainNames name params → image.layers.get? key = none) ∧
        ∀ i layerName, (chainNames name params)[i]? = some layerName →
          ∃ layer : Layer, image.layers.get? layerName = some layer ∧ layer.Planned layerName ∧
            layer.backing = if i = 0 then none else (chainNames name params)[i - 1]? := by
  have hNonempty : chainNames name params ≠ [] := by
    unfold chainNames
    split
    · exact List.cons_ne_nil _ _
    · next hListed => simpa using hListed
  obtain ⟨layers, hLayers, hImage⟩ := Action.bind_eq_ok_iff.1 h
  obtain rfl := Except.ok.inj hImage
  obtain ⟨hOld, hThere⟩ := of_defineLayers (chainNames name params) hNodup hLayers
  refine ⟨rfl, ?_, hOld, hThere⟩
  show (chainNames name params).getLast? =
    some ((Topology.ofNames (chainNames name params)).top?.getD name)
  rw [Topology.top?, Topology.names_ofNames, List.getLast?_eq_some_getLast hNonempty,
    Option.getD_some]

/-- Every layer of a defined image is planned. -/
theorem Image.planned_of_define {registry : Registry} {settings : ImageSettings} {name : String}
    {params : Params} {image : Image} (hNodup : (chainNames name params).Nodup)
    (h : Image.define registry settings name params = .ok image) {key : String} {layer : Layer}
    (hLayer : image.layers.get? key = some layer) : layer.Planned key := by
  obtain ⟨-, -, hOnly, hLayers⟩ := of_define hNodup h
  have hMem : key ∈ chainNames name params := by
    refine Decidable.byContradiction fun hNot => ?_
    rw [hOnly key hNot] at hLayer
    cases hLayer
  obtain ⟨i, hIndex⟩ := List.mem_iff_getElem?.1 hMem
  obtain ⟨stored, hStored, hPlanned, -⟩ := hLayers i key hIndex
  obtain rfl := Option.some.inj (hLayer.symm.trans hStored)
  exact hPlanned

end DiskFleet
