import DiskFleet.Proofs.Image.Holding

/-!
# Volumes over the life of an image

The layers of an image come to hold volumes when the image object is made, or when the image is made
as a clone, and they stop when the object is unmade. Each of these can fail on the way. What is
shown here is that nothing is left in between: an object that could not be made, or a clone, leaves
the volumes of other images alone, and unmaking an object is refused before it begins or goes
through.

## Main results

* `Session.createObject_holds`: what is held while the image object is made, and once it is;
* `Session.destroyObject_cases`: unmaking the object does not fail half way;
* `Session.clone_holds`: the layers of a clone hold volumes of their own.
-/

namespace DiskFleet

variable {σ : Type} {agent : Agent σ} {taken : String → Prop}

namespace Session

/-- The layers of the image hold what they hold in its world. -/
def Holds (taken : String → Prop) (session : Session σ) : Prop :=
  session.world.Holds taken session.image.layers

/-- The layer of a name is there and holds a volume. -/
def HasMade (session : Session σ) (name : String) : Prop :=
  ∃ layer volume, session.image.layers.get? name = some layer ∧ layer.volume = some volume

/-! ## Making the object -/

/-- Making one layer object keeps what is held, and the layer holds a volume if it succeeds. -/
theorem createLayer_holds (agent : Agent σ) (name : String) {session : Session σ}
    (h : session.Holds taken) :
    ((createLayer agent name).run session).2.Holds taken ∧
      (∀ other, session.HasMade other → ((createLayer agent name).run session).2.HasMade other) ∧
      (((createLayer agent name).run session).1 = .ok () →
        ((createLayer agent name).run session).2.HasMade name) := by
  have hAll : ∀ definition : ResourceDocument, (fun _ => True) definition := fun _ => trivial
  rcases createLayer_cases agent hAll name session with
    ⟨failure, next, hRun, hMoves⟩ | ⟨layer, made, next, hLayer, hMade, hRun⟩
  · rw [hRun]
    exact ⟨World.Holds.worked h hMoves, fun other hOther => hOther, fun hOk => by cases hOk⟩
  · rw [hRun]
    obtain ⟨hHolds, volume, hVolume⟩ :
        next.Holds taken (session.image.layers.insert name made) ∧
          ∃ volume, made.volume = some volume := by
      cases hMade with
      | none hNone =>
          have hSub : ∀ {other stored}, (session.image.layers.insert name layer).get? other =
              some stored → ∃ before, session.image.layers.get? other = some before ∧
                stored.SameVolume before := by
            intro other stored hStored
            rw [Table.insert_of_get? hLayer] at hStored
            exact ⟨stored, hStored, rfl, rfl⟩
          refine ⟨World.Holds.sub h hSub, ?_⟩
          -- a layer without a definition holds a volume already
          cases hVolume : layer.volume with
          | none =>
              obtain ⟨definition, hCarried, -⟩ := h.unmade hLayer hVolume
              rw [hNone] at hCarried
              cases hCarried
          | some volume => exact ⟨volume, rfl⟩
      | @onVolume definition id next hDefinition hMakes =>
          have hType : definition.type = .volume := by
            cases hVolume : layer.volume with
            | none =>
                obtain ⟨other, hOther, hType⟩ := h.unmade hLayer hVolume
                obtain rfl := Option.some.inj (hDefinition.symm.trans hOther)
                exact hType
            | some volume =>
                rw [(h.made hLayer hVolume).1] at hDefinition
                cases hDefinition
          rw [hType] at hMakes
          exact ⟨World.Holds.insert_new h hMakes rfl rfl, _, rfl⟩
    have hStored : (session.image.putLayer name made).layers.get? name = some made := by
      rw [Image.putLayer, Table.get?_insert, if_pos rfl]
    refine ⟨hHolds, fun other hOther => ?_, fun _ => ⟨made, volume, hStored, hVolume⟩⟩
    by_cases hName : other = name
    · exact ⟨made, volume, hName ▸ hStored, hVolume⟩
    · obtain ⟨before, held, hBefore, hHeld⟩ := hOther
      refine ⟨before, held, ?_, hHeld⟩
      rw [← hBefore]
      exact (Table.get?_insert _ _ _ _).trans (if_neg hName)

/-- Making layer objects one after another. -/
theorem createLayers_holds (agent : Agent σ) (names : List String) :
    ∀ {session : Session σ}, session.Holds taken →
      ((Action.forEach (createLayer agent) names).run session).2.Holds taken ∧
        (∀ other, session.HasMade other →
          ((Action.forEach (createLayer agent) names).run session).2.HasMade other) ∧
        (((Action.forEach (createLayer agent) names).run session).1 = .ok () →
          ∀ name ∈ names, ((Action.forEach (createLayer agent) names).run session).2.HasMade
            name) := by
  induction names with
  | nil =>
      intro session h
      exact ⟨h, fun other hOther => hOther, fun _ name hName => by cases hName⟩
  | cons name rest ih =>
      intro session h
      obtain ⟨hHolds, hOld, hNew⟩ := createLayer_holds agent name h
      rw [Action.forEach]
      rcases hRun : (createLayer agent name).run session with ⟨failure | _, after⟩
      · rw [Action.run_bind_error hRun]
        rw [hRun] at hHolds hOld
        exact ⟨hHolds, hOld, fun hOk => by cases hOk⟩
      · rw [Action.run_bind_ok hRun]
        rw [hRun] at hHolds hOld hNew
        obtain ⟨hAll, hKept, hRest⟩ := ih hHolds
        refine ⟨hAll, fun other hOther => hKept other (hOld other hOther), ?_⟩
        intro hOk other hOther
        rcases List.mem_cons.1 hOther with rfl | hOther
        · exact hKept other (hNew rfl)
        · exact hRest hOk other hOther

/-- Unmaking one layer object keeps what is held otherwise. -/
theorem destroyLayer_holds (agent : Agent σ) (name : String) :
    (destroyLayer name : Action (Session σ) Unit).Along (Keeping (Holds taken)) := by
  intro session h
  rcases destroyLayer_cases agent (fun _ => True) name session with
    ⟨failure, hRun⟩ | ⟨layer, stored, next, hLayer, hUnmade, hMoves, hRun⟩
  · rw [hRun]
    exact h
  · rw [hRun]
    apply World.Holds.release h hLayer hMoves
    intro other held hHeld
    simp only [Image.putLayer, Table.get?_insert] at hHeld
    by_cases hName : other = name
    · rw [if_pos hName] at hHeld
      obtain rfl := Option.some.inj hHeld
      right
      cases hUnmade with
      | none hNone => exact ⟨hNone, h.unmade hLayer hNone⟩
      | givenBack hVolume hResource =>
          -- what the layer held was a volume
          obtain ⟨-, ⟨found, hFound, hType⟩, -⟩ := h.made hLayer hVolume
          obtain rfl := Option.some.inj (hResource.symm.trans hFound)
          exact ⟨rfl, _, rfl, hType⟩
    · rw [if_neg hName] at hHeld
      exact .inl ⟨hName, held, hHeld, rfl, rfl⟩

/-- **Making the image object** keeps what is held, and when it succeeds every layer holds a
volume. -/
theorem createObject_holds (agent : Agent σ) {session : Session σ} (h : session.Holds taken) :
    ((createObject agent).run session).2.Holds taken ∧
      (((createObject agent).run session).1 = .ok () →
        Layer.AllMade ((createObject agent).run session).2.image.layers) := by
  obtain ⟨hHolds, -, hNew⟩ := createLayers_holds agent session.image.layers.keys h
  have hShape : SameShape session
      ((Action.forEach (createLayer agent) session.image.layers.keys).run session).2 :=
    Action.along_forEach (fun name _ => createLayer_sameShape name) session
  simp only [createObject, Action.run_bind, Action.run_gets, Action.run_attempt]
  rcases hRun : (Action.forEach (createLayer agent) session.image.layers.keys).run session with
    ⟨failure | _, after⟩
  · rw [hRun] at hHolds
    have hUndone : (Action.forEach (fun name => do
        let _ ← Action.attempt (destroyLayer name)) session.image.layers.keys).Along
          (Keeping (Holds (σ := σ) taken)) := by
      apply Action.along_forEach
      intro name _
      exact Action.along_bind (Action.along_attempt (destroyLayer_holds agent name))
        fun _ => Action.along_pure _
    refine ⟨?_, fun hOk => ?_⟩
    · dsimp only
      rw [Action.snd_run_bind_fail]
      exact hUndone after hHolds
    · obtain ⟨_, _, -, hFail⟩ := Action.run_bind_eq_ok_iff.1 (Prod.ext hOk rfl)
      cases hFail
  · rw [hRun] at hHolds hNew hShape
    refine ⟨hHolds, fun _ name layer hLayer => ?_⟩
    -- the layers are those that were there to be made
    have hMem : name ∈ session.image.layers.keys := by
      rw [← Table.contains_iff_mem_keys, Table.contains]
      have hSame := hShape.shapes name
      rw [show after.image.layers.get? name = some layer from hLayer, Option.map_some] at hSame
      obtain ⟨before, hBefore, -⟩ := Option.map_eq_some_iff.1 hSame.symm
      rw [hBefore]
      rfl
    obtain ⟨made, volume, hMade, hVolume⟩ := hNew rfl name hMem
    obtain rfl := Option.some.inj (hMade.symm.trans hLayer)
    exact ⟨volume, hVolume⟩

/-! ## Unmaking the object -/

/-- The layer of a name holds a volume that holds no storage. -/
def HasFree (session : Session σ) (name : String) : Prop :=
  ∃ layer volume resource, session.image.layers.get? name = some layer ∧
    layer.volume = some volume ∧ session.world.registry.resource? volume = some resource ∧
    resource.document.allocated = false

/-- A layer object on a free volume is unmade, and no other volume is touched. -/
theorem run_destroyLayer_of_free {session : Session σ} (h : session.Holds taken) {name : String}
    (hFree : session.HasFree name) :
    ∃ after, (destroyLayer name).run session = (.ok (), after) ∧
      ∀ other, other ≠ name → session.HasFree other → after.HasFree other := by
  obtain ⟨layer, volume, resource, hLayer, hVolume, hResource, hEmpty⟩ := hFree
  obtain ⟨next, hDestroy, hSame⟩ := World.run_destroyResource_of_free hResource hEmpty
  have hDocument : session.world.registry.resourceDocument volume = .ok resource.document :=
    Registry.resourceDocument_eq_ok_iff.2 ⟨resource, hResource, rfl⟩
  have hRun : (destroyLayer name).run session =
      (.ok (), ⟨session.image.putLayer name (layer.givenBack resource.document), next⟩) := by
    simp only [destroyLayer, Action.run_bind, run_askImage, Image.layer_eq_ok_iff.2 hLayer, onWorld,
      Action.run_within, Layer.destroyObject, hVolume, World.run_ask, hDocument, hDestroy]
    rfl
  refine ⟨_, hRun, fun other hNe hOther => ?_⟩
  obtain ⟨stored, held, found, hStored, hHeld, hFound, hFoundEmpty⟩ := hOther
  refine ⟨stored, held, found, ?_, hHeld, ?_, hFoundEmpty⟩
  · rw [← hStored]
    exact (Table.get?_insert _ _ _ _).trans (if_neg hNe)
  · have hOtherVolume : held ≠ volume := by
      rintro rfl
      exact hNe (h.unshared hStored hLayer hHeld hVolume)
    show next.registry.resource? held = some found
    rw [hSame, if_neg hOtherVolume]
    exact hFound

/-- Layer objects on free volumes are unmade one after another. -/
theorem run_destroyLayers_of_free (agent : Agent σ) (names : List String) :
    ∀ {session : Session σ}, session.Holds taken → names.Nodup →
      (∀ name ∈ names, session.HasFree name) →
      ∃ after, (Action.forEach destroyLayer names).run session = (.ok (), after) ∧
        after.Holds taken := by
  induction names with
  | nil =>
      intro session h hNodup hFree
      exact ⟨session, rfl, h⟩
  | cons name rest ih =>
      intro session h hNodup hFree
      obtain ⟨hNew, hRest⟩ := List.nodup_cons.1 hNodup
      obtain ⟨after, hRun, hOthers⟩ :=
        run_destroyLayer_of_free h (hFree name List.mem_cons_self)
      have hAfter : after.Holds taken := by
        have hKept : Keeping (Holds taken) session ((destroyLayer name).run session).2 :=
          destroyLayer_holds agent name session
        rw [hRun] at hKept
        exact hKept h
      have hStill : ∀ other ∈ rest, after.HasFree other := by
        intro other hOther
        have hNe : other ≠ name := by
          rintro rfl
          exact hNew hOther
        exact hOthers other hNe (hFree other (List.mem_cons_of_mem _ hOther))
      obtain ⟨final, hFinal, hHolds⟩ := ih hAfter hRest hStill
      refine ⟨final, ?_, hHolds⟩
      rw [Action.forEach, Action.run_bind_ok hRun]
      exact hFinal

/-- When no layer is found to hold storage, none does. -/
theorem of_firstAllocated_none {registry : Registry} {entries : List (String × Layer)}
    (h : Image.firstAllocated registry entries = .ok none) :
    ∀ entry ∈ entries, entry.2.isAllocated registry = .ok false := by
  induction entries with
  | nil =>
      intro entry hEntry
      cases hEntry
  | cons first rest ih =>
      obtain ⟨name, layer⟩ := first
      unfold Image.firstAllocated at h
      obtain ⟨allocated, hAllocated, hRest⟩ := Action.bind_eq_ok_iff.1 h
      cases allocated with
      | true => cases hRest
      | false =>
          intro entry hEntry
          rcases List.mem_cons.1 hEntry with rfl | hEntry
          · exact hAllocated
          · exact ih hRest entry hEntry

/-- The teardown goes through the layers of a well-formed image, each once. -/
theorem teardownOrder_nodup {image : Image} (h : image.WellFormed) :
    image.teardownOrder.Nodup ∧
      ∀ name ∈ image.teardownOrder, ∃ layer, image.layers.get? name = some layer := by
  have hOutside : ∀ {name}, name ∈ image.layers.keys.filter
      (fun name => !image.topology.contains name) →
        name ∈ image.layers.keys ∧ name ∉ image.topology.names := by
    intro name hName
    obtain ⟨hKey, hNot⟩ := List.mem_filter.1 hName
    exact ⟨hKey, by simpa [Topology.contains] using hNot⟩
  constructor
  · refine List.nodup_append.2 ⟨List.nodup_reverse.2 h.nodup, image.layers.nodup.filter _, ?_⟩
    rintro name hChain other hOther rfl
    exact (hOutside hOther).2 (List.mem_reverse.1 hChain)
  · intro name hName
    rcases List.mem_append.1 hName with hChain | hRest
    · exact h.stored (List.mem_reverse.1 hChain)
    · have hKey := (hOutside hRest).1
      rw [← Table.contains_iff_mem_keys, Table.contains, Option.isSome_iff_exists] at hKey
      exact hKey

/-- **Unmaking the object of an image does not fail half way**: it is refused and nothing is done,
or it goes through. -/
theorem destroyObject_cases (agent : Agent σ) {session : Session σ}
    (hImage : session.image.WellFormed) (h : session.Holds taken)
    (hMade : Layer.AllMade session.image.layers) :
    (∃ failure, destroyObject.run session = (.error failure, session)) ∨
      ∃ after, destroyObject.run session = (.ok (), after) ∧ after.Holds taken := by
  simp only [destroyObject, Action.run_bind, Action.run_gets, run_ask]
  cases hFirst : Image.firstAllocated session.world.registry session.image.layers.entries with
  | error failure => exact .inl ⟨failure, rfl⟩
  | ok found =>
      cases found with
      | some name => exact .inl ⟨_, rfl⟩
      | none =>
          right
          obtain ⟨hNodup, hStored⟩ := teardownOrder_nodup hImage
          apply run_destroyLayers_of_free agent _ h hNodup
          intro name hName
          obtain ⟨layer, hLayer⟩ := hStored name hName
          obtain ⟨volume, hVolume⟩ := hMade name layer hLayer
          have hFree : layer.isAllocated session.world.registry = .ok false :=
            of_firstAllocated_none hFirst (name, layer) (Table.mem_entries_iff.2 hLayer)
          simp only [Layer.isAllocated, hVolume] at hFree
          obtain ⟨document, hDocument, hEmpty⟩ := Action.bind_eq_ok_iff.1 hFree
          obtain ⟨resource, hResource, rfl⟩ := Registry.resourceDocument_eq_ok_iff.1 hDocument
          exact ⟨layer, volume, resource, hLayer, hVolume, hResource, Except.ok.inj hEmpty⟩

/-! ## Clones -/

/-- What is registered under an id knows that id. -/
theorem idText_of_resource? {world : World σ} (h : world.Sound) {id : String} {resource : Resource}
    (hResource : world.registry.resource? id = some resource) :
    resource.document.idText = id := by
  obtain ⟨poolId, pool, -, hPool, hStored⟩ := Registry.resource?_eq_some_iff.1 hResource
  rw [ResourceDocument.idText, (h.registry.housed hPool hStored).named, Option.getD_some]

/-- What the layers of the image hold is taken. -/
def Given (taken : String → Prop) (image : Image) : Prop :=
  ∀ name layer volume, image.layers.get? name = some layer → layer.volume = some volume →
    taken volume

/-- Copies of layers whose volumes are taken hold volumes of their own. -/
theorem cloneLayers_holds (agent : Agent σ) (suffix : String) (names : List String) :
    ∀ (session : Session σ) (notes : List String) (layers result : Table Layer) (after noted),
      session.world.Holds taken layers → Layer.AllMade layers → Given taken session.image →
      (cloneLayers agent suffix layers names).run (session, notes) =
        (.ok result, (after, noted)) →
      after.world.Holds taken result ∧ Layer.AllMade result := by
  induction names with
  | nil =>
      intro session notes layers result after noted h hMade hTaken hRun
      obtain ⟨rfl, rfl, -⟩ : result = layers ∧ after = session ∧ noted = notes := by
        simpa [cloneLayers, eq_comm] using hRun
      exact ⟨h, hMade⟩
  | cons name rest ih =>
      intro session notes layers result after noted h hMade hTaken hRun
      rw [cloneLayers] at hRun
      rcases cloneLayer_cases agent World.Admission.of_all suffix name session notes with
        ⟨failure, next, made, hLayer, -, -⟩ |
          ⟨source, volume, resource, copied, ready, hSource, hVolume, hResource, hCopy, hReady,
            hLayer⟩
      · rw [Action.run_bind_error hLayer] at hRun
        cases hRun
      · rw [Action.run_bind_ok hLayer] at hRun
        -- a copy of a volume is a volume
        obtain ⟨original, hOriginal, hMakes⟩ := World.makes_of_prepared .of_all hCopy hReady
        obtain ⟨found, hFound, hType⟩ := h.others (hTaken name source volume hSource hVolume)
        rw [idText_of_resource? h.sound hResource] at hOriginal
        obtain rfl := Option.some.inj (hOriginal.symm.trans hFound)
        rw [hType] at hMakes
        have hCopied : ready.drawingId.Holds taken (layers.insert (cloneName suffix name)
            (clonedLayer suffix ready.supply.nextId session.world.supply.nextId name source)) :=
          h.insert_new hMakes rfl rfl
        exact ih ⟨session.image, ready.drawingId⟩ _ _ _ _ _ hCopied (hMade.insert rfl) hTaken hRun

/-- The copies that a clone is made of hold volumes of their own. -/
theorem copies_hold {session after : Session σ} {suffix : String} {names noted : List String}
    {layers : Table Layer} (hSound : session.world.Sound)
    (hOthers : ∀ {volume}, taken volume → session.world.HasVolume volume)
    (hTaken : Given taken session.image)
    (hRun : (cloneLayers agent suffix ∅ names).run
      (⟨session.image, session.world.drawingSuffix⟩, []) = (.ok layers, (after, noted))) :
    after.world.Holds taken layers ∧ Layer.AllMade layers := by
  have hNothing : session.world.drawingSuffix.Holds taken (∅ : Table Layer) := by
    have hMove : World.Moves agent (fun _ => True) (fun _ => False) session.world
        session.world.drawingSuffix := .single (.drawSuffix _)
    refine ⟨hSound.moves hMove, fun {volume} hVolume => ?_, nofun, nofun, nofun⟩
    exact hSound.keeps_volume hMove (hOthers hVolume) not_false
  have hNone : Layer.AllMade (∅ : Table Layer) := fun name layer hLayer => by cases hLayer
  exact cloneLayers_holds agent suffix names ⟨session.image, session.world.drawingSuffix⟩ _ _ _ _ _
    hNothing hNone hTaken hRun

/-- **Cloning** drops nothing that is taken, and the layers of a clone hold volumes of their own.
What the layers of the image hold is among what is taken. -/
theorem clone_holds {settings : ImageSettings} {session after : Session σ}
    {result : Except Failure Image} (hSound : session.world.Sound)
    (hOthers : ∀ {volume}, taken volume → session.world.HasVolume volume)
    (hTaken : Given taken session.image)
    (hRun : (clone agent settings).run session = (result, after)) :
    after.image = session.image ∧ after.world.Sound ∧
      (∀ {volume}, taken volume → after.world.HasVolume volume) ∧
      ∀ made, result = .ok made →
        after.world.Holds taken made.layers ∧ Layer.AllMade made.layers := by
  obtain ⟨hImage, hMoves, hMade⟩ := clone_cases agent World.Admission.of_all settings hRun
  refine ⟨hImage, hSound.moves hMoves, fun {volume} hVolume => ?_, fun made hOk => ?_⟩
  · exact hSound.keeps_volume hMoves (hOthers hVolume) (hSound.not_madeSince (hOthers hVolume))
  · obtain ⟨id, layers, reached, noted, hLayers, rfl, -, -, hRest⟩ := hMade made hOk
    obtain ⟨hHolds, hAll⟩ := copies_hold hSound hOthers hTaken hLayers
    exact ⟨hHolds.kept hRest, hAll⟩

end Session

end DiskFleet
