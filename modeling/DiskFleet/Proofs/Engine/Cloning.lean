import DiskFleet.Proofs.Engine.Recovery
import DiskFleet.Proofs.Image.Copies

/-!
# Clones and what was there before

A clone is made of new resources and of one new image. It can fail in the middle, and the recovery
setting says what becomes of the new resources then, but in no case does it touch a pool, a resource
or an image that was there (`Engine.Keeps`).

For the images this depends on the id of the new one: it is registered under an id that no image has
had. That holds because every image is registered under an id that was drawn (`Engine.Numbered`),
which every operation keeps.

## Main results

* `Engine.Numbered.after`: images are registered under drawn ids in every reachable state;
* `Engine.clone_undisturbing`: clones of images and of resources.
-/

namespace DiskFleet

namespace Engine

variable {σ α : Type} {agent : Agent σ} {engine : Engine σ} {id : String}

/-! ## The ids of images -/

/-- Every image that is registered afterwards has an id under which one was registered before. -/
def Unregistering (before after : Engine σ) : Prop :=
  ∀ id image, after.images.get? id = some image →
    ∃ earlier, before.images.get? id = some earlier

instance : IsPreorder (Engine σ) Unregistering where
  refl _ _ image hImage := ⟨image, hImage⟩
  trans _ _ _ first second id image hImage := by
    obtain ⟨between, hBetween⟩ := second id image hImage
    exact first id between hBetween

/-- Putting an image back registers none. -/
theorem onImage_unregistering {image : Image} (hImage : engine.images.get? id = some image)
    (action : Action (Session σ) α) :
    Unregistering engine ((onImage id image action).run engine).2 := by
  intro other found hFound
  simp only [onImage, Action.run_within, Table.get?_insert] at hFound
  split at hFound
  · next hSame => exact ⟨image, hSame ▸ hImage⟩
  · exact ⟨found, hFound⟩

theorem updateImage_unregistering (agent : Agent σ) (id : String) (command : ImageCommand) :
    (updateImage agent id command).Along Unregistering := by
  intro engine
  rw [updateImage, Owned.run_find_bind]
  cases hImage : engine.images.get? id with
  | none => exact refl engine
  | some image => exact onImage_unregistering hImage _

theorem requestImage_unregistering (agent : Agent σ) (id : String) (request : Json) :
    (requestImage agent id request).Along Unregistering := by
  have hAsk : ∀ command : ImageCommand,
      (ask fun engine : Engine σ => command.resolve engine.world.registry.cluster).Along
        Unregistering :=
    fun _ engine => refl engine
  refine Action.along_bind (Action.along_liftM _) fun command => ?_
  exact Action.along_bind (hAsk command) fun resolved =>
    updateImage_unregistering agent id resolved

theorem destroyImage_unregistering (id : String) :
    (destroyImage id : Action (Engine σ) Unit).Along Unregistering := by
  intro engine
  have hErase : (Action.modify fun engine : Engine σ =>
      { engine with images := engine.images.erase id }).Along Unregistering := by
    intro engine other found hFound
    simp only [Action.run_modify, Table.get?_erase] at hFound
    split at hFound
    · cases hFound
    · exact ⟨found, hFound⟩
  refine Action.rel_run_bind (refl engine) fun image asked hAsk => ?_
  obtain rfl : engine = asked := congrArg Prod.snd hAsk
  have hFound : engine.image id = .ok image := congrArg Prod.fst hAsk
  have hImage : engine.images.get? id = some image := image_eq_ok_iff.1 hFound
  exact Action.rel_run_bind (onImage_unregistering hImage _) fun _ between _ => hErase between

/-- Every image that is registered afterwards has an id that was drawn by then, or one under which
an image was registered before. -/
def Registering (before after : Engine σ) : Prop :=
  ∀ id image, after.images.get? id = some image →
    after.world.supply.Drawn id ∨ ∃ earlier, before.images.get? id = some earlier

/-- The object of an image has the id that was drawn for it. -/
theorem createImage_registering (agent : Agent σ) (document : Image) :
    (createImage agent document).Along Registering := by
  intro engine id image hImage
  rcases createImage_cases agent document engine with
    ⟨failure, after, hRun, hCreate⟩ | ⟨after, hRun, hCreate⟩
  · rw [hCreate] at hImage
    exact .inr ⟨image, hImage⟩
  · rw [hCreate] at hImage ⊢
    simp only [Table.get?_insert] at hImage
    split at hImage
    · next hNamed =>
      have hSame : Session.SameId (engine.draft document)
          ((Session.createObject agent).run (engine.draft document)).2 :=
        Session.createObject_sameId agent _
      have hMoves : Session.Moves agent (fun _ => True) (fun _ => True) (engine.draft document)
          ((Session.createObject agent).run (engine.draft document)).2 :=
        Session.createObject_moves (fun _ => trivial) fun _ _ _ _ _ => trivial
      rw [hRun] at hSame hMoves
      have hId : after.image.id = some engine.world.supply.nextId := hSame
      have hKey : id = engine.world.supply.nextId := by
        rw [hNamed, Image.idText, hId]
        rfl
      rw [hKey]
      exact .inl (World.Course.drawn hMoves (World.drawn_nextId engine.world))
    · exact .inr ⟨image, hImage⟩

/-- So has a clone. -/
theorem cloneImage_registering (agent : Agent σ) (source : String) :
    (cloneImage agent source).Along Registering := by
  intro engine id image hImage
  cases hSource : engine.images.get? source with
  | none =>
      rw [cloneImage, Owned.run_find_bind, hSource] at hImage
      exact .inr ⟨image, hImage⟩
  | some original =>
      rcases hRun : (Session.clone agent engine.settings).run ⟨original, engine.world⟩ with
        ⟨result, ⟨kept, world⟩⟩
      obtain ⟨hSame, -, hMade⟩ := Session.clone_cases agent World.Admission.of_all _ hRun
      obtain rfl : kept = original := hSame
      rw [run_cloneImage hSource hRun] at hImage ⊢
      cases result with
      | error failure => exact .inr ⟨image, hImage⟩
      | ok made =>
          obtain ⟨copy, layers, reached, noted, -, rfl, -, hDrawn, -⟩ := hMade made rfl
          simp only [Action.run_bind, Action.run_liftM, register, Action.run_modify,
            Action.run_pure, Table.get?_insert] at hImage
          split at hImage
          · next hNamed =>
            rw [hNamed]
            exact .inl hDrawn
          · exact .inr ⟨image, hImage⟩

/-- **An id under which an operation leaves an image was drawn**, or had an image before. -/
theorem registering_after (agent : Agent σ) (engine : Engine σ) (operation : Operation) :
    Registering engine (engine.after agent operation) := by
  have hNone : Unregistering engine (engine.after agent operation) →
      Registering engine (engine.after agent operation) :=
    fun h id image hImage => .inr (h id image hImage)
  cases operation with
  | createImage document => exact createImage_registering agent document engine
  | cloneImage source => exact cloneImage_registering agent source engine
  | destroyImage source => exact hNone (destroyImage_unregistering source engine)
  | updateImage source command =>
      exact hNone (updateImage_unregistering agent source command engine)
  | requestImage source request =>
      exact hNone (requestImage_unregistering agent source request engine)
  | backupImage source => exact hNone (updateImage_unregistering agent source _ engine)
  | restoreImage source => exact hNone (updateImage_unregistering agent source _ engine)
  -- the others work on the world alone
  | _ => exact hNone fun id image hImage => ⟨image, hImage⟩

/-- The registry is sound, and images are registered under ids that were drawn. -/
structure Numbered (engine : Engine σ) : Prop where
  sound : engine.world.Sound
  drawn : ∀ {id image}, engine.images.get? id = some image → engine.world.supply.Drawn id

/-- Without images there are no ids of images. -/
theorem Vacant.numbered (h : engine.Vacant) (hDistinct : engine.world.supply.Distinct) :
    engine.Numbered := by
  refine ⟨h.sound hDistinct, fun {id image} hImage => ?_⟩
  rw [h.images] at hImage
  cases hImage

/-- **Every operation keeps images under drawn ids**, whatever it answers. -/
theorem Numbered.after (h : engine.Numbered) (agent : Agent σ) (operation : Operation) :
    (engine.after agent operation).Numbered := by
  have hCourse : World.Course agent (fun _ => True) (fun _ => True) (fun _ => True) engine.world
      (engine.after agent operation).world :=
    course_after .of_all engine operation.admitted_of_all operation.opens_of_all
  refine ⟨h.sound.moves hCourse, fun {id image} hImage => ?_⟩
  rcases registering_after agent engine operation id image hImage with hDrawn | ⟨earlier, hEarlier⟩
  · exact hDrawn
  · exact World.Course.drawn hCourse (h.drawn hEarlier)

/-- So they are in every reachable state. -/
theorem Numbered.of_run {start : Engine σ} {permitted : Engine σ → Operation → Prop}
    (hVacant : start.Vacant) (hDistinct : start.world.supply.Distinct)
    (hRun : Run agent permitted start engine) : engine.Numbered := by
  induction hRun with
  | start => exact hVacant.numbered hDistinct
  | step _ _ ih => exact ih.after agent _

/-! ## Clones -/

/-- Every resource, every pool and every image is there as it was; others may have joined them. -/
structure Keeps (before after : Engine σ) : Prop where
  registry : before.world.registry.Keeps after.world.registry
  images : ∀ {id image}, before.images.get? id = some image →
    after.images.get? id = some image

/-- The clone of an image beside what is there. -/
theorem cloneImage_keeps {after : Engine σ} {result : Except Failure String}
    (h : engine.Numbered) (hRun : (cloneImage agent id).run engine = (result, after)) :
    engine.Keeps after ∧
      (∀ made, result = .ok made → engine.images.get? made = none ∧
        (after.images.get? made).isSome = true) ∧
      ∀ failure, result = .error failure → agent.Frees → engine.settings.recovery = .rollback →
        after.images = engine.images ∧ after.world.registry = engine.world.registry := by
  cases hImage : engine.images.get? id with
  | none =>
      rw [cloneImage, Owned.run_find_bind, hImage] at hRun
      cases hRun
      have hNone : engine.world.registry.withoutAll [] = engine.world.registry := rfl
      exact ⟨⟨Registry.keeps_of_withoutAll hNone, fun hFound => hFound⟩, by rintro _ ⟨⟩,
        fun _ _ _ _ => ⟨rfl, rfl⟩⟩
  | some image =>
      rcases hClone : (Session.clone agent engine.settings).run ⟨image, engine.world⟩ with
        ⟨answer, ⟨kept, world⟩⟩
      obtain ⟨hSame, ⟨made, hOthers⟩, hUndone⟩ := Session.clone_added h.sound hClone
      obtain ⟨-, -, hMade⟩ := Session.clone_cases agent World.Admission.of_all _ hClone
      obtain rfl : kept = image := hSame
      rw [run_cloneImage hImage hClone] at hRun
      have hRegistry : engine.world.registry.Keeps world.registry :=
        Registry.keeps_of_withoutAll hOthers
      cases answer with
      | error failure =>
          cases hRun
          exact ⟨⟨hRegistry, fun hFound => hFound⟩, by rintro _ ⟨⟩,
            fun _ hFailed hFrees hAsked => ⟨rfl, hUndone failure rfl hFrees hAsked⟩⟩
      | ok clone =>
          obtain ⟨copy, layers, reached, noted, -, rfl, hSince, -, -⟩ := hMade clone rfl
          cases hRun
          have hNew : ¬engine.world.supply.Drawn copy := h.sound.not_drawn_of_madeSince hSince
          have hFree : engine.images.get? copy = none := by
            cases hFound : engine.images.get? copy with
            | none => rfl
            | some found => exact absurd (h.drawn hFound) hNew
          refine ⟨⟨hRegistry, fun {other found} hFound => ?_⟩, fun _ hOk => ?_, by rintro _ ⟨⟩⟩
          · have hNe : other ≠ copy := by
              rintro rfl
              exact hNew (h.drawn hFound)
            exact (Table.get?_insert _ _ _ _).trans ((if_neg hNe).trans hFound)
          · cases hOk
            refine ⟨hFree, ?_⟩
            rw [Table.get?_insert, if_pos rfl]
            rfl

/-- **A clone never disturbs what exists, and undoes itself under rollback.** -/
theorem clone_undisturbing {start : Engine σ} (hVacant : start.Vacant)
    (hDistinct : start.world.supply.Distinct) (hRun : Run agent (fun _ _ => True) start engine)
    (cloner : Agent σ) (id : String) :
    (∀ result after, (cloneImage cloner id).run engine = (result, after) →
      engine.Keeps after ∧
      (∀ made, result = .ok made → engine.images.get? made = none ∧
        (after.images.get? made).isSome = true) ∧
      ∀ failure, result = .error failure → cloner.Frees → engine.settings.recovery = .rollback →
        after.images = engine.images ∧ after.world.registry = engine.world.registry) ∧
    ∀ result after, (onWorld (World.cloneResource cloner id)).run engine = (result, after) →
      engine.Keeps after ∧
      (∀ made, result = .ok made → engine.world.registry.resource? made = none ∧
        (after.world.registry.resource? made).isSome = true) ∧
      ∀ failure, result = .error failure → cloner.Frees →
        engine.world.registry.recovery = .rollback →
        after.images = engine.images ∧ after.world.registry = engine.world.registry := by
  have hNumbered : engine.Numbered := .of_run hVacant hDistinct hRun
  refine ⟨fun result after hClone => cloneImage_keeps hNumbered hClone, ?_⟩
  intro result after hClone
  rcases hCloned : (World.cloneResource cloner id).run engine.world with ⟨answer, world⟩
  obtain ⟨⟨made, hOthers⟩, hAnswered, hUndone⟩ :=
    World.cloneResource_added hNumbered.sound hCloned
  rw [onWorld, Action.run_within, hCloned] at hClone
  cases hClone
  exact ⟨⟨Registry.keeps_of_withoutAll hOthers, fun hFound => hFound⟩, hAnswered,
    fun failure hFailed hFrees hAsked => ⟨rfl, hUndone failure hFailed hFrees hAsked⟩⟩

/-- A chain of two layers is copied, but the agents refuse to tie the copies. -/
def refusedClone : Except Failure String × Engine Unit :=
  (cloneImage (.refusingTo "rebase") "i").run cleanHalfMade

/-- The volume of the top is copied, but the agents refuse to allocate the copy. -/
def refusedCopy : Except Failure String × Engine Unit :=
  (onWorld (World.cloneResource (.refusingTo "allocate") "iiii")).run cleanHalfMade

/-- The copies of both layers, which were made and allocated, are released and gone; so is the copy
of the one volume, which never held storage. -/
theorem clone_undisturbing_refused :
    (Agent.refusingTo "rebase").Frees ∧ (Agent.refusingTo "allocate").Frees ∧
    cleaning.Vacant ∧ cleaning.world.supply.Distinct ∧
    cleanHalfMade.settings.recovery = .rollback ∧
    cleanHalfMade.world.registry.recovery = .rollback ∧
    (∃ after failure, refusedClone = (.error failure, after) ∧
      (after.world.link.history.drop cleanHalfMade.world.link.history.length).map
        (·.call.method) = ["allocate", "allocate", "update_image", "release", "release"] ∧
      cleanHalfMade.Keeps after ∧ after.images = cleanHalfMade.images ∧
      after.world.registry = cleanHalfMade.world.registry) ∧
    ∃ after failure, refusedCopy = (.error failure, after) ∧
      (after.world.link.history.drop cleanHalfMade.world.link.history.length).map
        (·.call.method) = ["allocate"] ∧
      cleanHalfMade.Keeps after ∧ after.images = cleanHalfMade.images ∧
      after.world.registry = cleanHalfMade.world.registry := by
  have hTies : (Agent.refusingTo "rebase").Frees := Agent.frees_refusingTo (by decide)
  have hAllocates : (Agent.refusingTo "allocate").Frees := Agent.frees_refusingTo (by decide)
  have hVacant : cleaning.Vacant := vacant_vacant _ _ _ _
  have hDistinct : cleaning.world.supply.Distinct := Supply.strokes_distinct
  have hMade : Run .willing (fun _ _ => True) cleaning cleanHalfMade :=
    .of_list fun _ _ _ => trivial
  have hImages : cleanHalfMade.settings.recovery = .rollback := by decide +kernel
  have hRegistry : cleanHalfMade.world.registry.recovery = .rollback := by decide +kernel
  have hCloneFailed : refusedClone.1.toOption.isNone = true := by decide +kernel
  have hCopyFailed : refusedCopy.1.toOption.isNone = true := by decide +kernel
  have hCloneCalls : (refusedClone.2.world.link.history.drop
      cleanHalfMade.world.link.history.length).map (·.call.method) =
        ["allocate", "allocate", "update_image", "release", "release"] := by decide +kernel
  have hCopyCalls : (refusedCopy.2.world.link.history.drop
      cleanHalfMade.world.link.history.length).map (·.call.method) = ["allocate"] := by
    decide +kernel
  refine ⟨hTies, hAllocates, hVacant, hDistinct, hImages, hRegistry, ?_, ?_⟩
  · rcases hRun : refusedClone with ⟨failure | made, after⟩
    · rw [hRun] at hCloneCalls
      obtain ⟨hKeeps, -, hUndone⟩ :=
        (clone_undisturbing hVacant hDistinct hMade (.refusingTo "rebase") "i").1 _ _ hRun
      exact ⟨after, failure, rfl, hCloneCalls, hKeeps, hUndone failure rfl hTies hImages⟩
    · rw [hRun] at hCloneFailed
      cases hCloneFailed
  · rcases hRun : refusedCopy with ⟨failure | made, after⟩
    · rw [hRun] at hCopyCalls
      obtain ⟨hKeeps, -, hUndone⟩ :=
        (clone_undisturbing hVacant hDistinct hMade (.refusingTo "allocate") "iiii").2 _ _ hRun
      exact ⟨after, failure, rfl, hCopyCalls, hKeeps, hUndone failure rfl hAllocates hRegistry⟩
    · rw [hRun] at hCopyFailed
      cases hCopyFailed

end Engine

end DiskFleet
