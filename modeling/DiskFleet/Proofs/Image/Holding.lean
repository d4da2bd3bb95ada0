import DiskFleet.Proofs.Image.Clone
import DiskFleet.Proofs.Image.Object

/-!
# The volumes that layers hold

A layer holds the volume it stands on. `World.Holds taken layers` says that the layers of a table
hold registered volumes, each its own and none that is `taken` by others; a layer that holds none
carries the definition of one. Whatever is done to an image happens beside other images, so the
volumes that are taken have to stay registered as well.

The statement is about a table and not about an image, because a clone is a table of layers before
it is an image.

## Main results

* `Session.Edit.holds`: every edit of an image keeps what its layers hold apart;
* `World.Holds.insert_new`, `World.Holds.release`: a layer on a new volume, and one that gives its
  volume up.
-/

namespace DiskFleet

variable {σ : Type} {agent : Agent σ} {admits : ResourceDocument → Prop}
  {mayDrop taken : String → Prop} {world next : World σ} {layers edited : Table Layer}

/-- The layers hold registered volumes, apart from each other and from what others have taken. -/
structure World.Holds (taken : String → Prop) (layers : Table Layer) (world : World σ) : Prop where
  sound : world.Sound
  others : ∀ {volume}, taken volume → world.HasVolume volume
  made : ∀ {name layer volume}, layers.get? name = some layer → layer.volume = some volume →
    layer.definition = none ∧ world.HasVolume volume ∧ ¬taken volume
  unmade : ∀ {name layer}, layers.get? name = some layer → layer.volume = none →
    ∃ definition, layer.definition = some definition ∧ definition.type = .volume
  unshared : ∀ {name other layer otherLayer volume}, layers.get? name = some layer →
    layers.get? other = some otherLayer → layer.volume = some volume →
    otherLayer.volume = some volume → name = other

/-- Every layer holds a volume. -/
def Layer.AllMade (layers : Table Layer) : Prop :=
  ∀ name layer, layers.get? name = some layer → ∃ volume, layer.volume = some volume

/-- The layer holds, or carries, what the other one does. -/
def Layer.SameVolume (layer before : Layer) : Prop :=
  layer.volume = before.volume ∧ layer.definition = before.definition

namespace World.Holds

/-- In another world the same is held if everything concerned is still there. -/
theorem inWorld (h : world.Holds taken layers) (hSound : next.Sound)
    (hOthers : ∀ {volume}, taken volume → next.HasVolume volume)
    (hHeld : ∀ {name layer volume}, layers.get? name = some layer → layer.volume = some volume →
      next.HasVolume volume) : next.Holds taken layers := by
  refine ⟨hSound, hOthers, fun {name layer volume} hLayer hVolume => ?_, h.unmade, h.unshared⟩
  obtain ⟨hDefinition, -, hFree⟩ := h.made hLayer hVolume
  exact ⟨hDefinition, hHeld hLayer hVolume, hFree⟩

/-- Moves that drop nothing that is concerned. -/
theorem moves (h : world.Holds taken layers) (hMoves : World.Moves agent admits mayDrop world next)
    (hOthers : ∀ {volume}, taken volume → ¬mayDrop volume)
    (hHeld : ∀ {name layer volume}, layers.get? name = some layer → layer.volume = some volume →
      ¬mayDrop volume) : next.Holds taken layers := by
  refine h.inWorld (h.sound.moves hMoves) (fun {volume} hTaken => ?_)
    fun {name layer volume} hLayer hVolume => ?_
  · exact h.sound.keeps_volume hMoves (h.others hTaken) (hOthers hTaken)
  · exact h.sound.keeps_volume hMoves (h.made hLayer hVolume).2.1 (hHeld hLayer hVolume)

/-- Work that drops at most a volume it made. -/
theorem worked (h : world.Holds taken layers)
    (hMoves : World.Moves agent admits (· = world.supply.nextId) world next) :
    next.Holds taken layers := by
  refine h.moves hMoves (fun {volume} hTaken => ?_) fun {name layer volume} hLayer hVolume => ?_
  · exact h.sound.ne_nextId (h.others hTaken)
  · exact h.sound.ne_nextId (h.made hLayer hVolume).2.1

/-- Work that drops nothing. -/
theorem kept (h : world.Holds taken layers)
    (hMoves : World.Moves agent admits (fun _ => False) world next) : next.Holds taken layers :=
  h.moves hMoves (fun _ => id) fun _ _ => id

/-- Fewer layers, that hold what they held. -/
theorem sub (h : world.Holds taken layers)
    (hSub : ∀ {name layer}, edited.get? name = some layer →
      ∃ before, layers.get? name = some before ∧ layer.SameVolume before) :
    world.Holds taken edited := by
  constructor
  case sound => exact h.sound
  case others => exact h.others
  case made =>
    intro name layer volume hLayer hVolume
    obtain ⟨before, hBefore, hSame, hDefinition⟩ := hSub hLayer
    rw [hDefinition]
    exact h.made hBefore (hSame.symm.trans hVolume)
  case unmade =>
    intro name layer hLayer hNone
    obtain ⟨before, hBefore, hSame, hDefinition⟩ := hSub hLayer
    rw [hDefinition]
    exact h.unmade hBefore (hSame.symm.trans hNone)
  case unshared =>
    intro name other layer otherLayer volume hLayer hOther hVolume hOtherVolume
    obtain ⟨before, hBefore, hSame, -⟩ := hSub hLayer
    obtain ⟨otherBefore, hOtherBefore, hOtherSame, -⟩ := hSub hOther
    exact h.unshared hBefore hOtherBefore (hSame.symm.trans hVolume)
      (hOtherSame.symm.trans hOtherVolume)

/-- What fewer others have taken is taken by none of the layers. -/
theorem mono {fewer : String → Prop} (h : world.Holds taken layers)
    (hFewer : ∀ {volume}, fewer volume → taken volume) : world.Holds fewer layers := by
  refine ⟨h.sound, fun hTaken => h.others (hFewer hTaken), fun {name layer volume} hLayer hVolume => ?_,
    h.unmade, h.unshared⟩
  obtain ⟨hDefinition, hVolume, hFree⟩ := h.made hLayer hVolume
  exact ⟨hDefinition, hVolume, fun hTaken => hFree (hFewer hTaken)⟩

/-- A layer on a volume that was just made. -/
theorem insert_new {name : String} {layer : Layer} (h : world.Holds taken layers)
    (hMakes : World.Makes agent admits .volume world next)
    (hVolume : layer.volume = some world.supply.nextId) (hDefinition : layer.definition = none) :
    next.Holds taken (layers.insert name layer) := by
  have hNext : next.Holds taken layers := h.kept hMakes.moves
  -- nobody has the new volume yet
  have hTaken : ¬taken world.supply.nextId := fun hTaken => h.sound.ne_nextId (h.others hTaken) rfl
  have hFree : ∀ {other stored}, layers.get? other = some stored →
      stored.volume ≠ some world.supply.nextId :=
    fun hStored hSame => h.sound.ne_nextId (h.made hStored hSame).2.1 rfl
  constructor
  case sound => exact hNext.sound
  case others => exact hNext.others
  case made =>
    intro other stored volume hStored hHeld
    rw [Table.get?_insert] at hStored
    split at hStored
    · obtain rfl := Option.some.inj hStored
      obtain rfl := Option.some.inj (hVolume.symm.trans hHeld)
      exact ⟨hDefinition, hMakes.hasVolume h.sound, hTaken⟩
    · exact hNext.made hStored hHeld
  case unmade =>
    intro other stored hStored hNone
    rw [Table.get?_insert] at hStored
    split at hStored
    · obtain rfl := Option.some.inj hStored
      rw [hVolume] at hNone
      cases hNone
    · exact hNext.unmade hStored hNone
  case unshared =>
    intro first second firstLayer secondLayer volume hFirst hSecond hHeld hAlso
    rw [Table.get?_insert] at hFirst hSecond
    split at hFirst
    · next hFirstName =>
      obtain rfl := Option.some.inj hFirst
      split at hSecond
      · next hSecondName => exact hFirstName.trans hSecondName.symm
      · rw [← hHeld, hVolume] at hAlso
        exact (hFree hSecond hAlso).elim
    · split at hSecond
      · obtain rfl := Option.some.inj hSecond
        rw [← hAlso, hVolume] at hHeld
        exact (hFree hFirst hHeld).elim
      · exact hNext.unshared hFirst hSecond hHeld hAlso

/-- A layer gives up its volume, which may be dropped; what is left of it carries a definition. -/
theorem release {name : String} {layer : Layer} (h : world.Holds taken layers)
    (hLayer : layers.get? name = some layer)
    (hMoves : World.Moves agent admits (fun id => layer.volume = some id) world next)
    (hRest : ∀ {other stored}, edited.get? other = some stored →
      (other ≠ name ∧ ∃ before, layers.get? other = some before ∧ stored.SameVolume before) ∨
      (stored.volume = none ∧
        ∃ definition, stored.definition = some definition ∧ definition.type = .volume)) :
    next.Holds taken edited := by
  have hSound : next.Sound := h.sound.moves hMoves
  constructor
  case sound => exact hSound
  case others =>
    intro volume hTaken
    apply h.sound.keeps_volume hMoves (h.others hTaken)
    intro hHeld
    exact (h.made hLayer hHeld).2.2 hTaken
  case made =>
    intro other stored volume hStored hVolume
    rcases hRest hStored with ⟨hNe, before, hBefore, hSame, hDefinition⟩ | ⟨hNone, -⟩
    · have hHeld : before.volume = some volume := hSame.symm.trans hVolume
      obtain ⟨hNothing, hHas, hFree⟩ := h.made hBefore hHeld
      refine ⟨hDefinition.trans hNothing, ?_, hFree⟩
      exact h.sound.keeps_volume hMoves hHas fun hAlso =>
        hNe (h.unshared hBefore hLayer hHeld hAlso)
    · rw [hNone] at hVolume
      cases hVolume
  case unmade =>
    intro other stored hStored hNone
    rcases hRest hStored with ⟨-, before, hBefore, hSame, hDefinition⟩ | ⟨-, hCarried⟩
    · rw [hDefinition]
      exact h.unmade hBefore (hSame.symm.trans hNone)
    · exact hCarried
  case unshared =>
    intro first second firstLayer secondLayer volume hFirst hSecond hHeld hAlso
    rcases hRest hFirst with ⟨-, before, hBefore, hSame, -⟩ | ⟨hNone, -⟩
    · rcases hRest hSecond with ⟨-, otherBefore, hOtherBefore, hOtherSame, -⟩ | ⟨hNone, -⟩
      · exact h.unshared hBefore hOtherBefore (hSame.symm.trans hHeld) (hOtherSame.symm.trans hAlso)
      · rw [hNone] at hAlso
        cases hAlso
    · rw [hNone] at hHeld
      cases hHeld

end World.Holds

namespace Layer.AllMade

/-- Layers on the volumes that layers stand on. -/
theorem sub (h : AllMade layers)
    (hSub : ∀ {name layer}, edited.get? name = some layer →
      ∃ before, layers.get? name = some before ∧ layer.SameVolume before) :
    AllMade edited := by
  intro name layer hLayer
  obtain ⟨before, hBefore, hSame, -⟩ := hSub hLayer
  rw [hSame]
  exact h name before hBefore

theorem insert {name volume : String} {layer : Layer} (h : AllMade layers)
    (hVolume : layer.volume = some volume) : AllMade (layers.insert name layer) := by
  intro other stored hStored
  rw [Table.get?_insert] at hStored
  split at hStored
  · obtain rfl := Option.some.inj hStored
    exact ⟨volume, hVolume⟩
  · exact h other stored hStored

end Layer.AllMade

namespace Session

/-! ## Edits -/

/-- A layer taken off holds nothing any more, and what the others hold stays. -/
theorem holds_withoutLayer {image : Image} {name : String} {layer : Layer}
    (h : world.Holds taken image.layers) (hLayer : image.layers.get? name = some layer)
    (hMoves : World.Moves agent admits (fun id => layer.volume = some id) world next) :
    next.Holds taken (image.withoutLayer name).layers := by
  apply h.release hLayer hMoves
  intro other stored hStored
  obtain ⟨before, hBefore, hNe, hOutlives⟩ := Image.of_get?_withoutLayer hStored
  exact .inl ⟨hNe, before, hBefore, hOutlives.volume, hOutlives.definition⟩

/-- The layers of an image with a backup are the backup, and those it had under other names. -/
theorem sub_of_withBackup {image edited : Image} {name backup id volume : String}
    {source : Layer} (hEdited : image.withBackup name backup id volume source = .ok edited) :
    ∃ made : Layer, made.volume = some volume ∧ made.definition = none ∧
      ∀ {other stored}, edited.layers.get? other = some stored →
        ∃ before, (image.layers.insert backup made).get? other = some before ∧
          stored.SameVolume before := by
  obtain ⟨layer, hLayer, hPure⟩ := Action.bind_eq_ok_iff.1 hEdited
  obtain rfl := Except.ok.inj hPure
  refine ⟨{ id := some id, name := backup, format := source.format, backing := none, backup := none
            volume := some volume, definition := none, clusterSize := none, preallocation := none
            secret := source.secret }, rfl, rfl, fun {other stored} hStored => ?_⟩
  rw [Image.putLayer, Table.get?_insert] at hStored
  split at hStored
  · next hName =>
    obtain rfl := Option.some.inj hStored
    exact ⟨layer, hName ▸ Image.layer_eq_ok_iff.1 hLayer, rfl, rfl⟩
  · exact ⟨stored, hStored, rfl, rfl⟩

/-- **Every edit keeps what the layers hold apart.** -/
theorem Edit.holds {before after : Session σ} (h : before.world.Holds taken before.image.layers)
    (hEdit : Edit agent admits before after) : after.world.Holds taken after.image.layers := by
  cases hEdit with
  | worked hMoves => exact h.worked hMoves
  | described owner => exact h
  | placed hNew hLayer hMakes => exact h.insert_new hMakes hLayer.volume hLayer.definition
  | @stacked image world next name layer hNew hLayer hMakes =>
      have hVolume : ({ layer with backing := some image.name } : Layer).volume =
          some world.supply.nextId := hLayer.volume
      exact h.insert_new hMakes hVolume hLayer.definition
  | @joined image world name layer hLayer hOutside hFree =>
      apply h.sub
      intro other stored hStored
      simp only [Image.stacked, Image.putLayer, Image.pushTop, Table.get?_insert] at hStored
      split at hStored
      · next hName =>
        obtain rfl := Option.some.inj hStored
        exact ⟨layer, hName ▸ hLayer, rfl, rfl⟩
      · exact ⟨stored, hStored, rfl, rfl⟩
  | backedUp hMem hSource hVolume hResource hNew hMakes hEdited =>
      obtain ⟨made, hMade, hDefinition, hSub⟩ := sub_of_withBackup hEdited
      -- the backup is a volume because its source is one
      obtain ⟨-, ⟨found, hFound, hType⟩, -⟩ := h.made hSource hVolume
      obtain rfl := Option.some.inj (hResource.symm.trans hFound)
      rw [hType] at hMakes
      exact (h.insert_new hMakes hMade hDefinition).sub hSub
  | dropped hLayer hOutside hMoves => exact holds_withoutLayer h hLayer hMoves
  | unstacked hLayer hChain hBelow hMoves => exact holds_withoutLayer h hLayer hMoves

/-- After an edit every layer still holds a volume. -/
theorem Edit.allMade {before after : Session σ} (h : Layer.AllMade before.image.layers)
    (hEdit : Edit agent admits before after) : Layer.AllMade after.image.layers := by
  have hWithout : ∀ {image : Image} {name : String}, Layer.AllMade image.layers →
      Layer.AllMade (image.withoutLayer name).layers := by
    intro image name hImage
    apply hImage.sub
    intro other stored hStored
    obtain ⟨before, hBefore, -, hOutlives⟩ := Image.of_get?_withoutLayer hStored
    exact ⟨before, hBefore, hOutlives.volume, hOutlives.definition⟩
  cases hEdit with
  | worked hMoves => exact h
  | described owner => exact h
  | placed hNew hLayer hMakes => exact h.insert hLayer.volume
  | @stacked image world next name layer hNew hLayer hMakes =>
      have hVolume : ({ layer with backing := some image.name } : Layer).volume =
          some world.supply.nextId := hLayer.volume
      exact h.insert hVolume
  | @joined image world name layer hLayer hOutside hFree =>
      obtain ⟨volume, hVolume⟩ := h name layer hLayer
      have hJoined : ({ layer with backing := some image.name } : Layer).volume = some volume :=
        hVolume
      exact h.insert hJoined
  | backedUp hMem hSource hVolume hResource hNew hMakes hEdited =>
      obtain ⟨made, hMade, -, hSub⟩ := sub_of_withBackup hEdited
      exact (h.insert hMade).sub hSub
  | dropped hLayer hOutside hMoves => exact hWithout h
  | unstacked hLayer hChain hBelow hMoves => exact hWithout h

/-- Any number of edits. -/
theorem Edits.holds {before after : Session σ} (h : before.world.Holds taken before.image.layers)
    (hMade : Layer.AllMade before.image.layers) (hEdits : Edits agent admits before after) :
    after.world.Holds taken after.image.layers ∧ Layer.AllMade after.image.layers := by
  induction hEdits with
  | refl => exact ⟨h, hMade⟩
  | tail _ hEdit ih => exact ⟨hEdit.holds ih.1, hEdit.allMade ih.2⟩

end Session

end DiskFleet
