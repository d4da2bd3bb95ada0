import DiskFleet.Image.Update
import Mathlib.Data.List.Basic
import Mathlib.Data.List.Nodup

/-!
# Well-formed images

The document of an image says the same things in several places: the chain is a list of names in
the topology and once more in the backings of the layers, the image is named after its top, and a
layer of the chain points to the one that holds its backup. `Image.WellFormed` says that all of
this fits together.

An image command changes these places one after another, so that what stands in between may be ill
formed. The lemmas below are about the changes as a whole: a layer placed outside the chain, a new
top, a backup, a layer taken off, and any change that leaves the shape of the layers alone.

A change concerns the chain or what surrounds it, seldom both, and so the two are kept apart.
`Chained` and `Surrounded` speak of a list of names and a table of layers and know nothing of
topologies.

## Main results

* `WellFormed.putLayer_new`, `WellFormed.stack`, `WellFormed.backUp`: layers put on;
* `WellFormed.withoutLayer`, `WellFormed.unstack`: layers taken off;
* `WellFormed.congr`: only the shapes of the layers matter;
* `WellFormed.of_chain`: a chain of layers without backups is well formed.
-/

namespace DiskFleet

namespace Topology

theorem isChain_ofNames (names : List String) :
    (ofNames names).isChain = decide (1 < names.length) := by
  unfold ofNames
  split
  · next h => exact (decide_eq_true h).symm
  · next h => exact (decide_eq_false h).symm

/-- A topology of at least one name is single exactly if it has one. -/
theorem isChain_ofNames_iff {names : List String} (hNonempty : names ≠ []) :
    (ofNames names).isChain = false ↔ names.length = 1 := by
  have hLength : 0 < names.length := List.length_pos_of_ne_nil hNonempty
  rw [isChain_ofNames, decide_eq_false_iff_not]
  omega

end Topology

/-- The part of a layer that an image is held together by: its name, what it is backed by, and
where its backup is. -/
def Layer.shape (layer : Layer) : String × Option String × Option String :=
  (layer.name, layer.backing, layer.backup)

/-- A layer that stays when another one is taken off is as it was before, but does not point to what
is gone. -/
structure Layer.Outlives (layer : Layer) (gone : String) (before : Layer) : Prop where
  name : layer.name = before.name
  backing : layer.backing = before.backing
  volume : layer.volume = before.volume
  definition : layer.definition = before.definition
  backup : ∀ {backup}, layer.backup = some backup → backup ≠ gone ∧ before.backup = some backup

/-- No pointer comes up. -/
theorem Layer.Outlives.backup_none {gone : String} {before layer : Layer}
    (h : layer.Outlives gone before) (hNone : before.backup = none) : layer.backup = none := by
  cases hBackup : layer.backup with
  | none => rfl
  | some backup =>
      have hBefore := (h.backup hBackup).2
      rw [hNone] at hBefore
      cases hBefore

namespace Image

/-- The names form a chain of layers: each is stored, once, and backed by the one before it. -/
structure Chained (names : List String) (layers : Table Layer) : Prop where
  nodup : names.Nodup
  stored : ∀ {name}, name ∈ names → ∃ layer, layers.get? name = some layer
  base : ∀ {name layer}, names.head? = some name → layers.get? name = some layer →
    layer.backing = none
  next : ∀ {i below name layer}, names[i]? = some below → names[i + 1]? = some name →
    layers.get? name = some layer → layer.backing = some below

/-- The layers around a chain: those outside it stand alone, and what a layer of the chain names as
its backup is one of those and the backup of no other. Each layer knows its name. -/
structure Surrounded (names : List String) (layers : Table Layer) : Prop where
  outside : ∀ {name layer}, layers.get? name = some layer → name ∉ names →
    layer.backing = none ∧ layer.backup = none
  pointer : ∀ {name layer backup}, layers.get? name = some layer → layer.backup = some backup →
    backup ∉ names ∧ ∃ other, layers.get? backup = some other
  unshared : ∀ {name other layer otherLayer backup}, layers.get? name = some layer →
    layers.get? other = some otherLayer → layer.backup = some backup →
    otherLayer.backup = some backup → name = other
  named : ∀ {name layer}, layers.get? name = some layer → layer.name = name

/-- The parts of an image document fit together. -/
structure WellFormed (image : Image) : Prop extends
    Chained image.topology.names image.layers, Surrounded image.topology.names image.layers where
  nonempty : image.topology.names ≠ []
  single : image.topology.isChain = false ↔ image.topology.names.length = 1
  top : image.topology.top? = some image.name

/-! ## Images after an edit -/

/-- The image with a layer on top that is backed by the former top. -/
def stacked (image : Image) (name : String) (layer : Layer) : Image :=
  (image.pushTop name).putLayer name { layer with backing := some image.name }

/-- The image without its top, under the name of the layer below. -/
def unstacked (image : Image) (name below : String) : Image :=
  { image.withoutLayer name with topology := image.topology.popped, name := below }

@[simp] theorem topology_withoutLayer (image : Image) (name : String) :
    (image.withoutLayer name).topology = image.topology := rfl

theorem get?_withoutLayer (image : Image) (name other : String) :
    (image.withoutLayer name).layers.get? other =
      if other = name then none
      else (image.layers.get? other).map fun layer =>
        if layer.backup = some name then { layer with backup := none } else layer := by
  simp only [withoutLayer, forgetBackup, Table.get?_mapValues, Table.get?_erase]
  split <;> rfl

/-- What is still there after a layer was taken off was there before. -/
theorem of_get?_withoutLayer {image : Image} {name other : String} {layer : Layer}
    (h : (image.withoutLayer name).layers.get? other = some layer) :
    ∃ before, image.layers.get? other = some before ∧ other ≠ name ∧
      layer.Outlives name before := by
  rw [get?_withoutLayer] at h
  split at h
  · cases h
  · next hNe =>
    obtain ⟨before, hBefore, hLayer⟩ := Option.map_eq_some_iff.1 h
    refine ⟨before, hBefore, hNe, ?_⟩
    by_cases hPoints : before.backup = some name
    · rw [if_pos hPoints] at hLayer
      subst hLayer
      exact ⟨rfl, rfl, rfl, rfl, fun hBackup => by cases hBackup⟩
    · rw [if_neg hPoints] at hLayer
      subst hLayer
      refine ⟨rfl, rfl, rfl, rfl, fun {backup} hBackup => ⟨?_, hBackup⟩⟩
      rintro rfl
      exact hPoints hBackup

theorem exists_get?_withoutLayer {image : Image} {name other : String} (hNe : other ≠ name)
    (h : ∃ layer, image.layers.get? other = some layer) :
    ∃ layer, (image.withoutLayer name).layers.get? other = some layer := by
  obtain ⟨layer, hLayer⟩ := h
  rw [get?_withoutLayer, if_neg hNe, hLayer]
  exact ⟨_, rfl⟩

/-- A stored layer can always be given a backup. -/
theorem exists_withBackup {image : Image} {name : String} (backup id volume : String)
    {source : Layer} (hSource : image.layers.get? name = some source) :
    ∃ edited, image.withBackup name backup id volume source = .ok edited := by
  have hStored : ∀ made, ∃ layer, (image.putLayer backup made).layer name = .ok layer := by
    intro made
    simp only [layer_eq_ok_iff, putLayer, Table.get?_insert, hSource]
    split
    · exact ⟨_, rfl⟩
    · exact ⟨_, rfl⟩
  obtain ⟨layer, hLayer⟩ := hStored _
  exact ⟨_, Action.bind_eq_ok_iff.2 ⟨layer, hLayer, rfl⟩⟩

/-- The layers of an image with a new backup layer. -/
theorem of_withBackup {image edited : Image} {name backup id volume : String} {source : Layer}
    (hNew : image.layers.contains backup = false) (hSource : image.layers.get? name = some source)
    (h : image.withBackup name backup id volume source = .ok edited) :
    edited.topology = image.topology ∧ edited.name = image.name ∧
      ∃ made : Layer, made.name = backup ∧ made.backing = none ∧ made.backup = none ∧
        made.volume = some volume ∧ made.definition = none ∧
        ∀ other, edited.layers.get? other =
          if other = name then some { source with backup := some backup }
          else if other = backup then some made else image.layers.get? other := by
  have hNe : name ≠ backup := by
    rintro rfl
    rw [Table.contains, hSource] at hNew
    cases hNew
  unfold withBackup at h
  obtain ⟨layer, hLayer, hEdited⟩ := Action.bind_eq_ok_iff.1 h
  rw [layer_eq_ok_iff] at hLayer
  simp only [putLayer, Table.get?_insert, if_neg hNe, hSource] at hLayer
  obtain rfl := Option.some.inj hLayer
  obtain rfl := Except.ok.inj hEdited
  refine ⟨rfl, rfl,
    { id := some id, name := backup, format := source.format, backing := none, backup := none
      volume := some volume, definition := none, clusterSize := none, preallocation := none
      secret := source.secret },
    rfl, rfl, rfl, rfl, rfl, fun other => ?_⟩
  rw [putLayer, Table.get?_insert, putLayer, Table.get?_insert]

/-! ## Chains -/

namespace Chained

variable {names : List String} {layers edited : Table Layer} {name : String} {layer : Layer}

/-- Only what the layers of the chain are backed by matters. -/
theorem congr (h : Chained names layers)
    (hBack : ∀ {other stored}, other ∈ names → edited.get? other = some stored →
      ∃ before, layers.get? other = some before ∧ stored.backing = before.backing)
    (hStored : ∀ {other}, other ∈ names → (∃ stored, layers.get? other = some stored) →
      ∃ stored, edited.get? other = some stored) : Chained names edited := by
  constructor
  case nodup => exact h.nodup
  case stored => exact fun hMem => hStored hMem (h.stored hMem)
  case base =>
    intro other stored hHead hLayer
    obtain ⟨before, hBefore, hSame⟩ := hBack (List.mem_of_mem_head? hHead) hLayer
    rw [hSame]
    exact h.base hHead hBefore
  case next =>
    intro i below other stored hBelow hAbove hLayer
    obtain ⟨before, hBefore, hSame⟩ := hBack (List.mem_of_getElem? hAbove) hLayer
    rw [hSame]
    exact h.next hBelow hAbove hBefore

/-- A layer that is stored elsewhere leaves the chain as it is. -/
theorem insert (h : Chained names layers) (hOutside : name ∉ names) :
    Chained names (layers.insert name layer) := by
  have hGet : ∀ {other}, other ∈ names →
      (layers.insert name layer).get? other = layers.get? other := by
    intro other hMem
    have hNe : other ≠ name := fun heq => hOutside (heq ▸ hMem)
    rw [Table.get?_insert, if_neg hNe]
  refine h.congr (fun {other stored} hMem hLayer => ?_) fun {other} hMem hStored => ?_
  · rw [hGet hMem] at hLayer
    exact ⟨stored, hLayer, rfl⟩
  · rw [hGet hMem]
    exact hStored

/-- A layer on top of the chain is backed by the former top. -/
theorem push {top : String} (h : Chained names layers) (hTop : names.getLast? = some top)
    (hOutside : name ∉ names) (hBacking : layer.backing = some top) :
    Chained (names ++ [name]) (layers.insert name layer) := by
  have hBelow : Chained names (layers.insert name layer) := h.insert hOutside
  have hNonempty : names ≠ [] := by
    rintro rfl
    cases hTop
  constructor
  case nodup => exact h.nodup.append (List.nodup_singleton name) (by simpa using hOutside)
  case stored =>
    intro other hMem
    rw [List.mem_append, List.mem_singleton] at hMem
    rcases hMem with hMem | rfl
    · exact hBelow.stored hMem
    · exact ⟨layer, by rw [Table.get?_insert, if_pos rfl]⟩
  case base =>
    intro other stored hHead hLayer
    rw [List.head?_append_of_ne_nil _ hNonempty] at hHead
    exact hBelow.base hHead hLayer
  case next =>
    intro i below other stored hLower hAbove hLayer
    by_cases hOld : i + 1 < names.length
    · rw [List.getElem?_append_left hOld] at hAbove
      rw [List.getElem?_append_left (Nat.lt_of_succ_lt hOld)] at hLower
      exact hBelow.next hLower hAbove hLayer
    · -- what stands above is the new top, and the former top is below it
      have hLess := (List.getElem?_eq_some_iff.1 hAbove).1
      rw [List.length_append, List.length_singleton] at hLess
      have hLast : i + 1 = names.length := by omega
      rw [hLast, List.getElem?_concat_length] at hAbove
      obtain rfl := Option.some.inj hAbove
      rw [List.getElem?_append_left (by omega)] at hLower
      rw [List.getLast?_eq_getElem?, ← hLast, Nat.add_sub_cancel, hLower] at hTop
      rw [Table.get?_insert, if_pos rfl] at hLayer
      obtain rfl := Option.some.inj hLayer
      exact hBacking.trans hTop.symm

/-- What is below the top of a chain is a chain. -/
theorem below {rest : List String} (h : Chained (rest ++ [name]) layers) : Chained rest layers := by
  constructor
  case nodup => exact (List.nodup_append.1 h.nodup).1
  case stored => exact fun hMem => h.stored (List.mem_append_left _ hMem)
  case base =>
    intro other stored hHead hLayer
    have hNonempty : rest ≠ [] := by
      rintro rfl
      cases hHead
    refine h.base ?_ hLayer
    rw [List.head?_append_of_ne_nil _ hNonempty]
    exact hHead
  case next =>
    intro i lower other stored hLower hAbove hLayer
    have hLess : i + 1 < rest.length := (List.getElem?_eq_some_iff.1 hAbove).1
    have hAboveOld : (rest ++ [name])[i + 1]? = some other := by
      rw [List.getElem?_append_left hLess]
      exact hAbove
    have hLowerOld : (rest ++ [name])[i]? = some lower := by
      rw [List.getElem?_append_left (Nat.lt_of_succ_lt hLess)]
      exact hLower
    exact h.next hLowerOld hAboveOld hLayer

/-- Taking off a layer that is not in the chain. -/
theorem withoutLayer {image : Image} (h : Chained names image.layers) (hOutside : name ∉ names) :
    Chained names (image.withoutLayer name).layers := by
  refine h.congr (fun {other stored} hMem hLayer => ?_) fun {other} hMem hStored => ?_
  · obtain ⟨before, hBefore, -, hSame⟩ := of_get?_withoutLayer hLayer
    exact ⟨before, hBefore, hSame.backing⟩
  · have hNe : other ≠ name := fun heq => hOutside (heq ▸ hMem)
    exact exists_get?_withoutLayer hNe hStored

end Chained

/-! ## Layers around a chain -/

namespace Surrounded

variable {names others : List String} {layers : Table Layer} {name : String} {layer : Layer}

/-- A layer without backup that nothing points to. It may become part of the chain. -/
theorem insert (h : Surrounded names layers)
    (hNames : ∀ {other}, other ≠ name → (other ∈ others ↔ other ∈ names))
    (hFree : ∀ {other stored}, layers.get? other = some stored → stored.backup ≠ some name)
    (hName : layer.name = name) (hBackup : layer.backup = none)
    (hBacking : name ∉ others → layer.backing = none) :
    Surrounded others (layers.insert name layer) := by
  have hCases : ∀ {other stored}, (layers.insert name layer).get? other = some stored →
      (other = name ∧ stored = layer) ∨ other ≠ name ∧ layers.get? other = some stored := by
    intro other stored hLayer
    rw [Table.get?_insert] at hLayer
    split at hLayer
    · next heq => exact .inl ⟨heq, (Option.some.inj hLayer).symm⟩
    · next hNe => exact .inr ⟨hNe, hLayer⟩
  have hPoints : ∀ {other stored backup},
      (layers.insert name layer).get? other = some stored → stored.backup = some backup →
      layers.get? other = some stored ∧ backup ≠ name := by
    intro other stored backup hLayer hHas
    rcases hCases hLayer with ⟨rfl, rfl⟩ | ⟨-, hOld⟩
    · rw [hBackup] at hHas
      cases hHas
    · refine ⟨hOld, ?_⟩
      rintro rfl
      exact hFree hOld hHas
  constructor
  case outside =>
    intro other stored hLayer hMem
    rcases hCases hLayer with ⟨rfl, rfl⟩ | ⟨hNe, hOld⟩
    · exact ⟨hBacking hMem, hBackup⟩
    · rw [hNames hNe] at hMem
      exact h.outside hOld hMem
  case pointer =>
    intro other stored backup hLayer hHas
    obtain ⟨hOld, hNe⟩ := hPoints hLayer hHas
    obtain ⟨hMem, hThere⟩ := h.pointer hOld hHas
    rw [hNames hNe, Table.get?_insert, if_neg hNe]
    exact ⟨hMem, hThere⟩
  case unshared =>
    intro one other stored otherStored backup hLayer hOther hHas hOtherHas
    exact h.unshared (hPoints hLayer hHas).1 (hPoints hOther hOtherHas).1 hHas hOtherHas
  case named =>
    intro other stored hLayer
    rcases hCases hLayer with ⟨rfl, rfl⟩ | ⟨-, hOld⟩
    · exact hName
    · exact h.named hOld

/-- A layer is taken off, in the chain or outside it. -/
theorem withoutLayer {image : Image} (h : Surrounded names image.layers)
    (hNames : ∀ {other}, other ≠ name → (other ∈ others ↔ other ∈ names)) :
    Surrounded others (image.withoutLayer name).layers := by
  constructor
  case outside =>
    intro other stored hLayer hMem
    obtain ⟨before, hBefore, hNe, hSame⟩ := of_get?_withoutLayer hLayer
    rw [hNames hNe] at hMem
    obtain ⟨hNoBacking, hNoBackup⟩ := h.outside hBefore hMem
    exact ⟨hSame.backing.trans hNoBacking, hSame.backup_none hNoBackup⟩
  case pointer =>
    intro other stored backup hLayer hPoints
    obtain ⟨before, hBefore, -, hSame⟩ := of_get?_withoutLayer hLayer
    obtain ⟨hElsewhere, hBackup⟩ := hSame.backup hPoints
    obtain ⟨hMem, hThere⟩ := h.pointer hBefore hBackup
    rw [hNames hElsewhere]
    exact ⟨hMem, exists_get?_withoutLayer hElsewhere hThere⟩
  case unshared =>
    intro one other stored otherStored backup hLayer hOther hPoints hOtherPoints
    obtain ⟨before, hBefore, -, hSame⟩ := of_get?_withoutLayer hLayer
    obtain ⟨otherBefore, hOtherBefore, -, hOtherSame⟩ := of_get?_withoutLayer hOther
    exact h.unshared hBefore hOtherBefore (hSame.backup hPoints).2
      (hOtherSame.backup hOtherPoints).2
  case named =>
    intro other stored hLayer
    obtain ⟨before, hBefore, -, hSame⟩ := of_get?_withoutLayer hLayer
    rw [hSame.name]
    exact h.named hBefore

end Surrounded

/-! ## Well-formed images -/

namespace WellFormed

variable {image : Image} {name : String} {layer : Layer}

/-- What is not stored is neither in the chain nor pointed to. -/
theorem not_mem_of_new (h : image.WellFormed) (hNew : image.layers.contains name = false) :
    name ∉ image.topology.names := by
  intro hMem
  obtain ⟨layer, hLayer⟩ := h.stored hMem
  rw [Table.contains, hLayer] at hNew
  cases hNew

theorem backup_ne_of_new (h : image.WellFormed) (hNew : image.layers.contains name = false)
    {other : String} {layer : Layer} (hLayer : image.layers.get? other = some layer) :
    layer.backup ≠ some name := by
  intro hBackup
  obtain ⟨-, stored, hStored⟩ := h.pointer hLayer hBackup
  rw [Table.contains, hStored] at hNew
  cases hNew

/-- Only the shapes of the layers matter. -/
theorem congr {other : Image} (h : image.WellFormed) (hTopology : other.topology = image.topology)
    (hName : other.name = image.name)
    (hShapes : ∀ name, (other.layers.get? name).map Layer.shape =
      (image.layers.get? name).map Layer.shape) : other.WellFormed := by
  have hBack : ∀ {name layer}, other.layers.get? name = some layer →
      ∃ before, image.layers.get? name = some before ∧ layer.name = before.name ∧
        layer.backing = before.backing ∧ layer.backup = before.backup := by
    intro name layer hLayer
    have hShape := hShapes name
    rw [hLayer, Option.map_some] at hShape
    obtain ⟨before, hBefore, hSame⟩ := Option.map_eq_some_iff.1 hShape.symm
    simp only [Layer.shape, Prod.mk.injEq] at hSame
    exact ⟨before, hBefore, hSame.1.symm, hSame.2.1.symm, hSame.2.2.symm⟩
  have hForth : ∀ {name}, (∃ layer, image.layers.get? name = some layer) →
      ∃ layer, other.layers.get? name = some layer := by
    rintro name ⟨layer, hLayer⟩
    have hShape := hShapes name
    rw [hLayer, Option.map_some] at hShape
    obtain ⟨after, hAfter, -⟩ := Option.map_eq_some_iff.1 hShape
    exact ⟨after, hAfter⟩
  constructor
  case toChained =>
    rw [hTopology]
    refine h.toChained.congr (fun hMem hLayer => ?_) fun hMem hStored => hForth hStored
    obtain ⟨before, hBefore, -, hBacking, -⟩ := hBack hLayer
    exact ⟨before, hBefore, hBacking⟩
  case toSurrounded =>
    rw [hTopology]
    constructor
    case outside =>
      intro name layer hLayer hMem
      obtain ⟨before, hBefore, -, hBacking, hBackup⟩ := hBack hLayer
      rw [hBacking, hBackup]
      exact h.outside hBefore hMem
    case pointer =>
      intro name layer backup hLayer hPoints
      obtain ⟨before, hBefore, -, -, hBackup⟩ := hBack hLayer
      obtain ⟨hMem, hStored⟩ := h.pointer hBefore (hBackup.symm.trans hPoints)
      exact ⟨hMem, hForth hStored⟩
    case unshared =>
      intro name otherName layer otherLayer backup hLayer hOther hPoints hOtherPoints
      obtain ⟨before, hBefore, -, -, hBackup⟩ := hBack hLayer
      obtain ⟨otherBefore, hOtherBefore, -, -, hOtherBackup⟩ := hBack hOther
      exact h.unshared hBefore hOtherBefore (hBackup.symm.trans hPoints)
        (hOtherBackup.symm.trans hOtherPoints)
    case named =>
      intro name layer hLayer
      obtain ⟨before, hBefore, hSame, -⟩ := hBack hLayer
      rw [hSame]
      exact h.named hBefore
  case nonempty => exact hTopology ▸ h.nonempty
  case single => exact hTopology ▸ h.single
  case top =>
    rw [hTopology, hName]
    exact h.top

/-- A new layer outside the chain. -/
theorem putLayer_new (h : image.WellFormed) (hNew : image.layers.contains name = false)
    (hName : layer.name = name) (hBacking : layer.backing = none) (hBackup : layer.backup = none) :
    (image.putLayer name layer).WellFormed := by
  have hChained : Chained image.topology.names (image.layers.insert name layer) :=
    h.toChained.insert (h.not_mem_of_new hNew)
  have hSurrounded : Surrounded image.topology.names (image.layers.insert name layer) :=
    h.toSurrounded.insert (fun _ => Iff.rfl) (h.backup_ne_of_new hNew) hName hBackup
      fun _ => hBacking
  exact ⟨hChained, hSurrounded, h.nonempty, h.single, h.top⟩

/-- A layer of its own that no layer points to becomes the top. -/
theorem stack (h : image.WellFormed) (hOutside : name ∉ image.topology.names)
    (hFree : ∀ {other stored}, image.layers.get? other = some stored → stored.backup ≠ some name)
    (hName : layer.name = name) (hBackup : layer.backup = none) :
    (image.stacked name layer).WellFormed := by
  have hNames : (image.stacked name layer).topology.names = image.topology.names ++ [name] :=
    Topology.names_ofNames _
  have hNonempty : image.topology.names ++ [name] ≠ [] :=
    List.append_ne_nil_of_right_ne_nil _ (List.cons_ne_nil _ _)
  constructor
  case toChained =>
    rw [hNames]
    exact h.toChained.push h.top hOutside rfl
  case toSurrounded =>
    rw [hNames]
    refine h.toSurrounded.insert (fun {other} hNe => ?_) hFree hName hBackup fun hMem => ?_
    · rw [List.mem_append, List.mem_singleton]
      exact or_iff_left hNe
    · exact (hMem (List.mem_append_right _ (List.mem_singleton_self _))).elim
  case nonempty =>
    rw [hNames]
    exact hNonempty
  case single =>
    rw [hNames]
    exact Topology.isChain_ofNames_iff hNonempty
  case top =>
    show (image.stacked name layer).topology.names.getLast? = some name
    rw [hNames, List.getLast?_concat]

/-- A layer outside the chain is taken off. -/
theorem withoutLayer (h : image.WellFormed) (hOutside : name ∉ image.topology.names) :
    (image.withoutLayer name).WellFormed :=
  ⟨h.toChained.withoutLayer hOutside, h.toSurrounded.withoutLayer fun _ => Iff.rfl, h.nonempty,
    h.single, h.top⟩

/-- The top of a chain is taken off. -/
theorem unstack {below : String} (h : image.WellFormed)
    (hChain : image.topology.isChain = true) (hBelow : image.topology.popped.top? = some below) :
    (image.unstacked image.name below).WellFormed := by
  obtain ⟨rest, hNames⟩ := List.getLast?_eq_some_iff.1 h.top
  have hTopology : (image.unstacked image.name below).topology = .ofNames rest := by
    show Topology.ofNames image.topology.names.dropLast = _
    rw [hNames, List.dropLast_concat]
  have hRest : (image.unstacked image.name below).topology.names = rest := by
    rw [hTopology, Topology.names_ofNames]
  have hNonempty : rest ≠ [] := by
    rintro rfl
    have hSingle := h.single.2 (by rw [hNames]; rfl)
    rw [hSingle] at hChain
    cases hChain
  have hWhole : Chained (rest ++ [image.name]) image.layers := hNames ▸ h.toChained
  have hGone : image.name ∉ rest := fun hMem =>
    (List.nodup_append.1 hWhole.nodup).2.2 _ hMem _ (List.mem_singleton_self _) rfl
  constructor
  case toChained =>
    rw [hRest]
    exact hWhole.below.withoutLayer hGone
  case toSurrounded =>
    rw [hRest]
    apply h.toSurrounded.withoutLayer
    intro other hNe
    rw [hNames, List.mem_append, List.mem_singleton]
    exact (or_iff_left hNe).symm
  case nonempty =>
    rw [hRest]
    exact hNonempty
  case single =>
    rw [hTopology, Topology.names_ofNames]
    exact Topology.isChain_ofNames_iff hNonempty
  case top => exact hBelow

/-- A layer of the chain gets a backup. -/
theorem backUp {edited : Image} {backup id volume : String} {source : Layer}
    (h : image.WellFormed) (hMem : name ∈ image.topology.names)
    (hSource : image.layers.get? name = some source)
    (hNew : image.layers.contains backup = false)
    (hEdited : image.withBackup name backup id volume source = .ok edited) :
    edited.WellFormed := by
  obtain ⟨hTopology, hName, made, hMadeName, hMadeBacking, hMadeBackup, -, -, hGet⟩ :=
    of_withBackup hNew hSource hEdited
  have hOutside := h.not_mem_of_new hNew
  -- what is stored in the new image is one of the two, or was stored before
  have hCases : ∀ {other stored}, edited.layers.get? other = some stored →
      (other = name ∧ stored = { source with backup := some backup }) ∨
      (other = backup ∧ stored = made) ∨
        other ≠ name ∧ image.layers.get? other = some stored := by
    intro other stored hLayer
    rw [hGet] at hLayer
    split at hLayer
    · next heq => exact .inl ⟨heq, (Option.some.inj hLayer).symm⟩
    · next hNe =>
      split at hLayer
      · next heq => exact .inr (.inl ⟨heq, (Option.some.inj hLayer).symm⟩)
      · exact .inr (.inr ⟨hNe, hLayer⟩)
  -- a pointer in the new image is the new one, or was there before and points elsewhere
  have hPoints : ∀ {other stored target}, edited.layers.get? other = some stored →
      stored.backup = some target → (other = name ∧ target = backup) ∨
        target ≠ backup ∧ image.layers.get? other = some stored := by
    intro other stored target hLayer hHas
    rcases hCases hLayer with ⟨rfl, rfl⟩ | ⟨rfl, rfl⟩ | ⟨-, hBefore⟩
    · exact .inl ⟨rfl, (Option.some.inj hHas).symm⟩
    · rw [hMadeBackup] at hHas
      cases hHas
    · refine .inr ⟨?_, hBefore⟩
      rintro rfl
      exact h.backup_ne_of_new hNew hBefore hHas
  have hStored : ∀ {other}, (∃ stored, image.layers.get? other = some stored) →
      ∃ stored, edited.layers.get? other = some stored := by
    rintro other ⟨stored, hStored⟩
    rw [hGet]
    split
    · exact ⟨_, rfl⟩
    · split
      · exact ⟨_, rfl⟩
      · exact ⟨stored, hStored⟩
  constructor
  case toChained =>
    rw [hTopology]
    refine h.toChained.congr (fun {other stored} hIn hLayer => ?_) fun _ hThere => hStored hThere
    rcases hCases hLayer with ⟨rfl, rfl⟩ | ⟨rfl, -⟩ | ⟨-, hBefore⟩
    · exact ⟨source, hSource, rfl⟩
    · exact absurd hIn hOutside
    · exact ⟨stored, hBefore, rfl⟩
  case toSurrounded =>
    rw [hTopology]
    constructor
    case outside =>
      intro other stored hLayer hIn
      rcases hCases hLayer with ⟨rfl, rfl⟩ | ⟨rfl, rfl⟩ | ⟨-, hBefore⟩
      · exact absurd hMem hIn
      · exact ⟨hMadeBacking, hMadeBackup⟩
      · exact h.outside hBefore hIn
    case pointer =>
      intro other stored target hLayer hHas
      rcases hPoints hLayer hHas with ⟨rfl, rfl⟩ | ⟨-, hBefore⟩
      · refine ⟨hOutside, ?_⟩
        rw [hGet]
        split
        · exact ⟨_, rfl⟩
        · exact ⟨made, if_pos rfl⟩
      · obtain ⟨hIn, hThere⟩ := h.pointer hBefore hHas
        exact ⟨hIn, hStored hThere⟩
    case unshared =>
      intro one other stored otherStored target hLayer hOther hHas hOtherHas
      rcases hPoints hLayer hHas with ⟨rfl, rfl⟩ | ⟨hNe, hBefore⟩
      · rcases hPoints hOther hOtherHas with ⟨rfl, -⟩ | ⟨hNe, -⟩
        · rfl
        · exact absurd rfl hNe
      · rcases hPoints hOther hOtherHas with ⟨-, rfl⟩ | ⟨-, hOtherBefore⟩
        · exact absurd rfl hNe
        · exact h.unshared hBefore hOtherBefore hHas hOtherHas
    case named =>
      intro other stored hLayer
      rcases hCases hLayer with ⟨rfl, rfl⟩ | ⟨rfl, rfl⟩ | ⟨-, hBefore⟩
      · have hNamed : source.name = other := h.named hSource
        exact hNamed
      · exact hMadeName
      · exact h.named hBefore
  case nonempty => exact hTopology ▸ h.nonempty
  case single => exact hTopology ▸ h.single
  case top =>
    rw [hTopology, hName]
    exact h.top

/-- A chain of layers without backups, and nothing else. -/
theorem of_chain {names : List String} (hTopology : image.topology = .ofNames names)
    (hNodup : names.Nodup) (hName : names.getLast? = some image.name)
    (hOnly : ∀ key, key ∉ names → image.layers.get? key = none)
    (hLayers : ∀ i name, names[i]? = some name → ∃ layer : Layer,
      image.layers.get? name = some layer ∧ layer.name = name ∧ layer.backup = none ∧
        layer.backing = if i = 0 then none else names[i - 1]?) : image.WellFormed := by
  have hNames : image.topology.names = names := by rw [hTopology, Topology.names_ofNames]
  have hNonempty : names ≠ [] := by
    rintro rfl
    cases hName
  have hFound : ∀ {name layer}, image.layers.get? name = some layer →
      ∃ i, names[i]? = some name ∧ layer.name = name ∧ layer.backup = none ∧
        layer.backing = if i = 0 then none else names[i - 1]? := by
    intro name layer hLayer
    have hMem : name ∈ names := by
      by_contra hNot
      rw [hOnly name hNot] at hLayer
      cases hLayer
    obtain ⟨i, hIndex⟩ := List.mem_iff_getElem?.1 hMem
    obtain ⟨other, hOther, hShape⟩ := hLayers i name hIndex
    obtain rfl := Option.some.inj (hLayer.symm.trans hOther)
    exact ⟨i, hIndex, hShape⟩
  -- a name has one place in the chain
  have hPlace : ∀ {i j : Nat} {name : String}, names[i]? = some name → names[j]? = some name → i = j := by
    intro i j name hI hJ
    obtain ⟨hLessI, hGetI⟩ := List.getElem?_eq_some_iff.1 hI
    obtain ⟨hLessJ, hGetJ⟩ := List.getElem?_eq_some_iff.1 hJ
    exact (hNodup.getElem_inj_iff).1 (hGetI.trans hGetJ.symm)
  constructor
  case toChained =>
    rw [hNames]
    constructor
    case nodup => exact hNodup
    case stored =>
      intro name hMem
      obtain ⟨i, hIndex⟩ := List.mem_iff_getElem?.1 hMem
      obtain ⟨layer, hLayer, -⟩ := hLayers i name hIndex
      exact ⟨layer, hLayer⟩
    case base =>
      intro name layer hHead hLayer
      rw [List.head?_eq_getElem?] at hHead
      obtain ⟨i, hIndex, -, -, hBacking⟩ := hFound hLayer
      obtain rfl := hPlace hHead hIndex
      exact hBacking
    case next =>
      intro i below name layer hBelow hAbove hLayer
      obtain ⟨j, hIndex, -, -, hBacking⟩ := hFound hLayer
      obtain rfl := hPlace hAbove hIndex
      rw [hBacking, if_neg (Nat.succ_ne_zero i), Nat.add_sub_cancel, hBelow]
  case toSurrounded =>
    rw [hNames]
    have hNone : ∀ {name layer backup}, image.layers.get? name = some layer →
        layer.backup ≠ some backup := by
      intro name layer backup hLayer hPoints
      obtain ⟨i, -, -, hBackup, -⟩ := hFound hLayer
      rw [hBackup] at hPoints
      cases hPoints
    constructor
    case outside =>
      intro name layer hLayer hMem
      rw [hOnly name hMem] at hLayer
      cases hLayer
    case pointer => exact fun hLayer hPoints => (hNone hLayer hPoints).elim
    case unshared => exact fun hLayer _ hPoints _ => (hNone hLayer hPoints).elim
    case named =>
      intro name layer hLayer
      obtain ⟨i, -, hNamed, -⟩ := hFound hLayer
      exact hNamed
  case nonempty => exact hNames ▸ hNonempty
  case single =>
    rw [hTopology, Topology.names_ofNames]
    exact Topology.isChain_ofNames_iff hNonempty
  case top =>
    rw [Topology.top?, hNames]
    exact hName

end WellFormed

end Image

end DiskFleet
