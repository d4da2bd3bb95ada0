import DiskFleet.Proofs.Image.Edit

/-!
# What a clone is

A clone copies the chain of an image layer by layer, and the image that is cloned stays as it is.
This module follows the table of copied layers while it is built (`cloneLayers_built`), for
statements about the shape of the clone, and lists what one copy does to the world
(`cloneLayer_cases`), for statements about volumes.

A clone that fails may drop what it made, and nothing else (`clone_cases`).
-/

namespace DiskFleet

variable {σ : Type} {agent : Agent σ} {admits : ResourceDocument → Prop}

/-- The id was drawn on the way from a world, before which nothing was dropped. -/
def World.MadeSince (agent : Agent σ) (admits : ResourceDocument → Prop) (world : World σ)
    (id : String) : Prop :=
  ∃ between, World.Moves agent admits (fun _ => False) world between ∧ between.supply.nextId = id

/-- What was made since is no volume that was there before. -/
theorem World.Sound.not_madeSince {world : World σ} (h : world.Sound) {id : String}
    (hVolume : world.HasVolume id) : ¬World.MadeSince agent admits world id := by
  rintro ⟨between, hMoves, rfl⟩
  have hKept := h.keeps_volume hMoves hVolume id
  exact (h.moves hMoves).ne_nextId hKept rfl

/-- Nor does it have an id that had been drawn by then. -/
theorem World.Sound.not_drawn_of_madeSince {world : World σ} (h : world.Sound) {id : String}
    (hMade : World.MadeSince agent admits world id) : ¬world.supply.Drawn id := by
  obtain ⟨between, hMoves, rfl⟩ := hMade
  intro hDrawn
  exact (h.moves hMoves).distinct.not_drawn_nextId (World.Course.drawn hMoves hDrawn)

/-- A copy that is made ready is made. -/
theorem World.makes_of_prepared (hAdmission : World.Admission admits) {world copied ready : World σ}
    {resource destination suffix id : String} {nodes : List String}
    (hCopy : (copyResourceAs resource destination suffix).run world = (.ok id, copied))
    (hReady : (prepare agent id nodes).run copied = (.ok (), ready)) :
    ∃ source, world.registry.resource? resource = some source ∧
      Makes agent admits source.document.type world ready.drawingId := by
  obtain ⟨source, hSource, hMakes⟩ : ∃ source, world.registry.resource? resource = some source ∧
      Makes agent admits source.document.type world copied :=
    makes_of_copyResourceAs hAdmission hCopy
  have hMoves : Moves agent admits (fun _ => False) copied ((prepare agent id nodes).run copied).2 :=
    prepare_moves _ _ copied
  rw [hReady] at hMoves
  exact ⟨source, hSource, (hMakes.trans hMoves).trans (.single (.drawId ready))⟩

namespace Session

/-- Copying a layer: refused or given up, or the volume of the layer was copied, the copy was made
ready, and there is a layer on it. The volume that is noted, if any, is the copy. -/
theorem cloneLayer_cases (agent : Agent σ) (hAdmission : World.Admission admits)
    (suffix name : String) (session : Session σ) (notes : List String) :
    (∃ failure next noted, (cloneLayer agent suffix name).run (session, notes) =
        (.error failure, (⟨session.image, next⟩, noted)) ∧
      World.Moves agent admits (fun _ => False) session.world next ∧
      (noted = notes ∨ noted = notes ++ [session.world.supply.nextId])) ∨
    ∃ source volume resource copied ready,
      session.image.layers.get? name = some source ∧ source.volume = some volume ∧
      session.world.registry.resource? volume = some resource ∧
      (World.copyResourceAs resource.document.idText (resource.document.pool.getD "") suffix).run
        session.world = (.ok session.world.supply.nextId, copied) ∧
      (World.prepare agent session.world.supply.nextId resource.document.bound).run copied =
        (.ok (), ready) ∧
      (cloneLayer agent suffix name).run (session, notes) =
        (.ok (clonedLayer suffix ready.supply.nextId session.world.supply.nextId name source),
          (⟨session.image, ready.drawingId⟩, notes ++ [session.world.supply.nextId])) := by
  rw [cloneLayer, run_askImage_bind]
  cases hLayer : session.image.layer name with
  | error failure => exact .inl ⟨failure, session.world, notes, rfl, .refl, .inl rfl⟩
  | ok source =>
      dsimp only
      rw [run_volumeOf_bind]
      cases hVolume : source.volume with
      | none => exact .inl ⟨_, session.world, notes, rfl, .refl, .inl rfl⟩
      | some volume =>
          dsimp only
          rw [run_ask_bind]
          cases hDocument : session.world.registry.resourceDocument volume with
          | error failure => exact .inl ⟨failure, session.world, notes, rfl, .refl, .inl rfl⟩
          | ok document =>
              obtain ⟨resource, hResource, rfl⟩ :=
                Registry.resourceDocument_eq_ok_iff.1 hDocument
              dsimp only
              rw [run_onWorld_bind]
              have hMoves : World.Moves agent admits (fun _ => False) session.world
                  ((World.copyResourceAs resource.document.idText
                    (resource.document.pool.getD "") suffix).run session.world).2 :=
                World.copyResourceAs_moves hAdmission _ _ _ session.world
              rcases hCopy : (World.copyResourceAs resource.document.idText
                  (resource.document.pool.getD "") suffix).run session.world with
                ⟨failure | copy, copied⟩
              · rw [hCopy] at hMoves
                exact .inl ⟨failure, copied, notes, rfl, hMoves, .inl rfl⟩
              · rw [hCopy] at hMoves
                obtain rfl := World.eq_nextId_of_run_copyResourceAs hCopy
                have hNote : (Action.note session.world.supply.nextId).run
                    ((⟨session.image, copied⟩ : Session σ), notes) =
                      (.ok (), (⟨session.image, copied⟩,
                        notes ++ [session.world.supply.nextId])) := rfl
                dsimp only
                rw [Action.run_bind_ok hNote, run_onWorld_bind]
                have hReady : World.Moves agent admits (fun _ => False) copied
                    ((World.prepare agent session.world.supply.nextId
                      resource.document.bound).run copied).2 :=
                  World.prepare_moves _ _ copied
                rcases hPrepare : (World.prepare agent session.world.supply.nextId
                    resource.document.bound).run copied with ⟨failure | _, ready⟩
                · rw [hPrepare] at hReady
                  exact .inl ⟨failure, ready, _, rfl, hMoves.trans hReady, .inr rfl⟩
                · dsimp only
                  rw [run_onWorld_bind, World.run_freshId]
                  exact .inr ⟨source, volume, resource, copied, ready,
                    Image.layer_eq_ok_iff.1 hLayer, hVolume, hResource, hCopy, hPrepare, rfl⟩

/-- Copying layers leaves the image alone and drops nothing; what is noted was made on the way. -/
theorem cloneLayers_world (agent : Agent σ) (hAdmission : World.Admission admits)
    (suffix : String) (names : List String) :
    ∀ (session : Session σ) (notes : List String) (layers : Table Layer) (result after noted),
      (cloneLayers agent suffix layers names).run (session, notes) = (result, (after, noted)) →
      after.image = session.image ∧
        World.Moves agent admits (fun _ => False) session.world after.world ∧
        ∀ id ∈ noted, id ∈ notes ∨ World.MadeSince agent admits session.world id := by
  induction names with
  | nil =>
      intro session notes layers result after noted hRun
      obtain ⟨-, rfl, rfl⟩ : result = .ok layers ∧ after = session ∧ noted = notes := by
        simpa [cloneLayers, eq_comm] using hRun
      exact ⟨rfl, .refl, fun id hMem => .inl hMem⟩
  | cons name rest ih =>
      intro session notes layers result after noted hRun
      rw [cloneLayers] at hRun
      have hFirst : World.MadeSince agent admits session.world session.world.supply.nextId :=
        ⟨session.world, .refl, rfl⟩
      rcases cloneLayer_cases agent hAdmission suffix name session notes with
        ⟨failure, next, made, hLayer, hMoves, hMade⟩ |
          ⟨source, volume, resource, copied, ready, -, -, -, hCopy, hReady, hLayer⟩
      · rw [Action.run_bind_error hLayer] at hRun
        cases hRun
        refine ⟨rfl, hMoves, fun id hMem => ?_⟩
        rcases hMade with rfl | rfl
        · exact .inl hMem
        · rw [List.mem_append, List.mem_singleton] at hMem
          rcases hMem with hMem | rfl
          · exact .inl hMem
          · exact .inr hFirst
      · rw [Action.run_bind_ok hLayer] at hRun
        obtain ⟨hImage, hMoves, hNoted⟩ := ih _ _ _ _ _ _ hRun
        obtain ⟨original, -, hMakes⟩ := World.makes_of_prepared hAdmission hCopy hReady
        have hNext : World.Moves agent admits (fun _ => False) session.world ready.drawingId :=
          hMakes.moves
        refine ⟨hImage, hNext.trans hMoves, fun id hMem => ?_⟩
        rcases hNoted id hMem with hOld | ⟨between, hBetween, rfl⟩
        · rw [List.mem_append, List.mem_singleton] at hOld
          rcases hOld with hOld | rfl
          · exact .inl hOld
          · exact .inr hFirst
        · exact .inr ⟨between, hNext.trans hBetween, rfl⟩

theorem cloneName_inj {suffix name other : String} :
    cloneName suffix name = cloneName suffix other ↔ name = other := by
  unfold cloneName
  rw [String.append_left_inj, String.append_left_inj]

/-- **The table of copies** has one layer for each name, and what was there before. -/
theorem cloneLayers_built (agent : Agent σ) (suffix : String) (names : List String) :
    ∀ (session : Session σ) (notes : List String) (layers result : Table Layer) (after noted),
      names.Nodup →
      (cloneLayers agent suffix layers names).run (session, notes) =
        (.ok result, (after, noted)) →
      (∀ key, key ∉ names.map (cloneName suffix) → result.get? key = layers.get? key) ∧
        ∀ name ∈ names, ∃ source id volume, session.image.layers.get? name = some source ∧
          result.get? (cloneName suffix name) =
            some (clonedLayer suffix id volume name source) := by
  induction names with
  | nil =>
      intro session notes layers result after noted hNodup hRun
      obtain ⟨rfl, -, -⟩ : result = layers ∧ after = session ∧ noted = notes := by
        simpa [cloneLayers, eq_comm] using hRun
      exact ⟨fun _ _ => rfl, fun name hMem => by cases hMem⟩
  | cons name rest ih =>
      intro session notes layers result after noted hNodup hRun
      obtain ⟨hNew, hRest⟩ := List.nodup_cons.1 hNodup
      rw [cloneLayers] at hRun
      rcases cloneLayer_cases agent World.Admission.of_all suffix name session notes with
        ⟨failure, next, made, hLayer, -, -⟩ |
          ⟨source, volume, resource, copied, ready, hSource, -, -, -, -, hLayer⟩
      · rw [Action.run_bind_error hLayer] at hRun
        cases hRun
      · rw [Action.run_bind_ok hLayer] at hRun
        obtain ⟨hOld, hThere⟩ := ih _ _ _ _ _ _ hRest hRun
        have hKept : cloneName suffix name ∉ rest.map (cloneName suffix) := by
          intro hMem
          obtain ⟨other, hOther, hSame⟩ := List.mem_map.1 hMem
          exact hNew (cloneName_inj.1 hSame ▸ hOther)
        constructor
        · intro key hKey
          rw [List.map_cons, List.mem_cons, not_or] at hKey
          rw [hOld key hKey.2, Table.get?_insert, if_neg hKey.1]
        · intro other hOther
          rcases List.mem_cons.1 hOther with rfl | hOther
          · refine ⟨source, ready.supply.nextId, session.world.supply.nextId, hSource, ?_⟩
            rw [hOld _ hKept, Table.get?_insert, if_pos rfl]
          · exact hThere other hOther

end Session

/-- The document of a clone with the given layers. -/
def Image.cloneOf (image : Image) (suffix id : String) (layers : Table Layer) : Image :=
  { id := some id
    name := (Topology.ofNames (image.topology.names.map (Session.cloneName suffix))).top?.getD ""
    owner := image.owner
    topology := .ofNames (image.topology.names.map (Session.cloneName suffix)), layers }

namespace Session

/-- Building a clone leaves the image alone and drops nothing. A clone consists of the copies of the
chain. -/
theorem buildClone_cases (agent : Agent σ) (hAdmission : World.Admission admits) (suffix : String)
    {session after : Session σ} {result : Except Failure Image} {noted : List String}
    (hRun : (buildClone agent suffix).run (session, []) = (result, (after, noted))) :
    after.image = session.image ∧
      World.Moves agent admits (fun _ => False) session.world after.world ∧
      (∀ id ∈ noted, World.MadeSince agent admits session.world id) ∧
      ∀ made, result = .ok made → ∃ id layers reached made',
        (cloneLayers agent suffix ∅ session.image.topology.names).run (session, []) =
          (.ok layers, (reached, made')) ∧
        made = session.image.cloneOf suffix id layers ∧
        World.MadeSince agent admits session.world id ∧ after.world.supply.Drawn id ∧
        World.Moves agent admits (fun _ => False) reached.world after.world := by
  rcases hLayers : (cloneLayers agent suffix ∅ session.image.topology.names).run (session, []) with
    ⟨copies, ⟨reached, made⟩⟩
  obtain ⟨hImage, hMoves, hNoted⟩ := cloneLayers_world agent hAdmission _ _ _ _ _ _ _ _ hLayers
  have hMade : ∀ id ∈ made, World.MadeSince agent admits session.world id := by
    intro id hMem
    rcases hNoted id hMem with hOld | hSince
    · cases hOld
    · exact hSince
  simp only [buildClone, Action.run_bind, Action.run_gets, hLayers] at hRun
  cases copies with
  | error failure =>
      cases hRun
      exact ⟨hImage, hMoves, hMade, fun made hOk => by cases hOk⟩
  | ok layers =>
      dsimp only at hRun
      -- what is left is to draw an id and to have the nodes tie the layers
      have hDraw : (Action.silently (onWorld World.freshId)).run (reached, made) =
          (.ok reached.world.supply.nextId, (⟨reached.image, reached.world.drawingId⟩, made)) := rfl
      have hDrawn : World.Moves agent admits (fun _ => False) reached.world
          reached.world.drawingId := .single (.drawId _)
      rw [hDraw] at hRun
      dsimp only at hRun
      have hTies : (onImage (session.image.cloneOf suffix reached.world.supply.nextId layers)
          (tieAll agent (Topology.ofNames
            (session.image.topology.names.map (cloneName suffix))).names)).Along
              (Working agent admits fun _ => False) :=
        onImage_working _ (tieAll_working _)
      have hTied := hTies ⟨reached.image, reached.world.drawingId⟩
      rw [Action.run_silently] at hRun
      rcases hTie : (onImage (session.image.cloneOf suffix reached.world.supply.nextId layers)
          (tieAll agent (Topology.ofNames
            (session.image.topology.names.map (cloneName suffix))).names)).run
              ⟨reached.image, reached.world.drawingId⟩ with ⟨tied, final⟩
      rw [hTie] at hTied
      unfold Image.cloneOf at hTie
      rw [hTie] at hRun
      have hFinal : final.image = session.image := hTied.1.trans hImage
      have hAll : World.Moves agent admits (fun _ => False) session.world final.world :=
        (hMoves.trans hDrawn).trans hTied.2
      cases tied with
      | error failure =>
          cases hRun
          exact ⟨hFinal, hAll, hMade, fun made hOk => by cases hOk⟩
      | ok _ =>
          cases hRun
          refine ⟨hFinal, hAll, hMade, fun made hOk => ?_⟩
          cases hOk
          exact ⟨_, layers, reached, _, rfl, rfl, ⟨_, hMoves, rfl⟩,
            World.Course.drawn hTied.2 (World.drawn_nextId _), hDrawn.trans hTied.2⟩

/-- Cloning leaves the image alone and drops nothing but what it made itself. A clone consists of
the copies of the chain. -/
theorem clone_cases (agent : Agent σ) (hAdmission : World.Admission admits)
    (settings : ImageSettings) {session after : Session σ} {result : Except Failure Image}
    (hRun : (clone agent settings).run session = (result, after)) :
    after.image = session.image ∧
      World.Moves agent admits (World.MadeSince agent admits session.world) session.world
        after.world ∧
      ∀ made, result = .ok made → ∃ id layers reached noted,
        (cloneLayers agent (session.world.supply.nextSuffix settings.suffixLength) ∅
          session.image.topology.names).run
            (⟨session.image, session.world.drawingSuffix⟩, []) =
              (.ok layers, (reached, noted)) ∧
        made = session.image.cloneOf (session.world.supply.nextSuffix settings.suffixLength) id
          layers ∧
        World.MadeSince agent admits session.world id ∧ after.world.supply.Drawn id ∧
        World.Moves agent admits (fun _ => False) reached.world after.world := by
  have hDraw : (onWorld (World.freshSuffix settings.suffixLength)).run session =
      (.ok (session.world.supply.nextSuffix settings.suffixLength),
        ⟨session.image, session.world.drawingSuffix⟩) := rfl
  have hDrawn : World.Moves agent admits (fun _ => False) session.world
      session.world.drawingSuffix := .single (.drawSuffix _)
  rcases hBuild : (buildClone agent
      (session.world.supply.nextSuffix settings.suffixLength)).run
        (⟨session.image, session.world.drawingSuffix⟩, []) with ⟨built, ⟨reached, created⟩⟩
  obtain ⟨hImage, hMoves, hCreated, hMade⟩ := buildClone_cases agent hAdmission _ hBuild
  have hReached : World.Moves agent admits (World.MadeSince agent admits session.world)
      session.world reached.world :=
    World.Moves.mono (fun _ h => h) (fun _ => False.elim) (hDrawn.trans hMoves)
  rw [clone, Action.run_bind_ok hDraw, Action.run_bind, Action.run_noting, hBuild] at hRun
  cases built with
  | ok made =>
      cases hRun
      refine ⟨hImage, hReached, fun made hOk => ?_⟩
      obtain ⟨id, layers, reached, noted, hLayers, hClone, ⟨between, hBetween, hId⟩, hRest⟩ :=
        hMade made hOk
      exact ⟨id, layers, reached, noted, hLayers, hClone, ⟨between, hDrawn.trans hBetween, hId⟩,
        hRest⟩
  | error failure =>
      -- what was created is discarded, or kept
      have hDiscard : Working agent admits (World.MadeSince agent admits session.world) reached
          ((Action.forEach (fun volume => onWorld (World.discard agent volume)) created).run
            reached).2 := by
        refine Action.along_forEach (fun volume hVolume => ?_) reached
        obtain ⟨between, hBetween, hId⟩ := hCreated volume hVolume
        exact onWorld_working (World.discard_moves ⟨between, hDrawn.trans hBetween, hId⟩)
      dsimp only at hRun
      by_cases hRollback : settings.recovery = .rollback
      · rw [if_pos hRollback, Action.run_bind] at hRun
        rcases hDrop : (Action.forEach (fun volume => onWorld (World.discard agent volume))
          created).run reached with ⟨failed | _, final⟩
        all_goals
          rw [hDrop] at hRun hDiscard
          cases hRun
          exact ⟨hDiscard.1.trans hImage, hReached.trans hDiscard.2,
            fun made hOk => by cases hOk⟩
      · rw [if_neg hRollback] at hRun
        cases hRun
        exact ⟨hImage, hReached, fun made hOk => by cases hOk⟩

end Session

end DiskFleet
