import DiskFleet.Proofs.Image.Refusal

/-!
# A backup that is taken back

`backup` goes through the layers of the chain that have no backup. Each gets a new layer outside the
chain, on a copy of its volume, and a pointer to it. If the command fails, after any number of
layers and at any point of one of them, and the recovery setting asks for it, the new layers are
dropped again, the newest first.

Dropping them in this order is to go back the way that the command came. `Session.Undone` says that
dropping a list of layers leads from one session back to an earlier one. It holds of each new layer
by itself, since a new layer disturbs nothing but one pointer, and lists that were gone through one
after the other can be joined. The backups that the image had before are not in the list, and the
pointers to them are never touched.

## Main results

* `Image.withoutLayer_of_withBackup`: a backup layer is taken off without a trace;
* `Session.undone_append`: going back is done in two parts;
* `Session.backup_undone`: a backup that fails under rollback changes nothing.
-/

namespace DiskFleet

variable {σ : Type} {agent : Agent σ}

/-! ## One backup layer -/

/-- **A backup layer that is taken off leaves no trace**, if its layer had no backup before. -/
theorem Image.withoutLayer_of_withBackup {image edited : Image} (h : image.WellFormed)
    {name backup id volume : String} {source : Layer}
    (hNew : image.layers.contains backup = false) (hSource : image.layers.get? name = some source)
    (hNone : source.backup = none)
    (hEdited : image.withBackup name backup id volume source = .ok edited) :
    edited.withoutLayer backup = image := by
  have hNe : name ≠ backup := by
    rintro rfl
    rw [Table.contains, hSource] at hNew
    cases hNew
  obtain ⟨layer, hLayer, hPut⟩ := Action.bind_eq_ok_iff.1 hEdited
  obtain rfl := Except.ok.inj hPut
  rw [layer_eq_ok_iff] at hLayer
  simp only [putLayer, Table.get?_insert, if_neg hNe, hSource] at hLayer
  obtain rfl := Option.some.inj hLayer
  have hPointer : { source with backup := none } = source := by
    rw [← hNone]
  have hOthers : image.layers.mapValues (fun layer =>
      if layer.backup = some backup then { layer with backup := none } else layer) =
        image.layers := by
    apply Table.mapValues_eq_self
    intro other stored hStored
    exact if_neg (h.backup_ne_of_new hNew hStored)
  simp only [withoutLayer, forgetBackup, putLayer, Table.erase_insert_of_ne _ _ hNe,
    Table.erase_insert_of_not_contains hNew, Table.mapValues_insert, hOthers, if_true, hPointer,
    Table.insert_of_get? hSource]

namespace Session

/-- The session from which dropping the layers of the list leads back to `before`, in whatever world
has the registry of `after`. -/
def Undone (agent : Agent σ) (created : List String) (before after : Session σ) : Prop :=
  ∀ world : World σ, world.Sound → world.registry = after.world.registry →
    ∃ restored : World σ,
      (Action.forEach (dropLayer agent) created.reverse).run ⟨after.image, world⟩ =
        (.ok (), ⟨before.image, restored⟩) ∧
      restored.Sound ∧ restored.registry = before.world.registry

section undone

variable {first second : List String} {before between after : Session σ}

theorem undone_nil (session : Session σ) : Undone agent [] session session :=
  fun world hSound hSame => ⟨world, rfl, hSound, hSame⟩

/-- What a session has in common with another one is all that matters. -/
theorem Undone.congr {next : Session σ} (h : Undone agent first before after)
    (hSame : Untouched after next) : Undone agent first before next := by
  intro world hSound hRegistry
  rw [hSame.image]
  exact h world hSound (hRegistry.trans hSame.registry)

/-- **Going back is done in two parts**, the later one first. -/
theorem undone_append (hFirst : Undone agent first before between)
    (hSecond : Undone agent second between after) :
    Undone agent (first ++ second) before after := by
  intro world hSound hSame
  obtain ⟨middle, hLater, hMiddle, hBetween⟩ := hSecond world hSound hSame
  obtain ⟨restored, hEarlier, hRestored, hBefore⟩ := hFirst middle hMiddle hBetween
  refine ⟨restored, ?_, hRestored, hBefore⟩
  rw [List.reverse_append, Action.forEach_append, Action.run_bind_ok hLater]
  exact hEarlier

end undone

/-- Of the layers, each is stored and has no backup. -/
def Bare (names : List String) (image : Image) : Prop :=
  ∀ name ∈ names, ∃ layer, image.layers.get? name = some layer ∧ layer.backup = none

/-- A backup takes none of the other layers out of the list. -/
theorem Bare.of_withBackup {name backup id volume : String} {rest : List String}
    {image edited : Image} {source : Layer} (h : Bare (name :: rest) image)
    (hNodup : (name :: rest).Nodup) (hNew : image.layers.contains backup = false)
    (hSource : image.layers.get? name = some source)
    (hEdited : image.withBackup name backup id volume source = .ok edited) :
    Bare rest edited := by
  obtain ⟨-, -, made, -, -, -, -, -, hGet⟩ := Image.of_withBackup hNew hSource hEdited
  intro other hOther
  obtain ⟨layer, hLayer, hNone⟩ := h other (List.mem_cons_of_mem _ hOther)
  have hNotName : other ≠ name := by
    rintro rfl
    exact (List.nodup_cons.1 hNodup).1 hOther
  have hNotBackup : other ≠ backup := by
    rintro rfl
    rw [Table.contains, hLayer] at hNew
    cases hNew
  refine ⟨layer, ?_, hNone⟩
  rw [hGet, if_neg hNotName, if_neg hNotBackup]
  exact hLayer

/-- The layers that `backup` goes through. -/
theorem bare_withoutBackup (image : Image) : Bare image.withoutBackup image := by
  intro name hName
  obtain ⟨-, hChosen⟩ := List.mem_filter.1 hName
  cases hLayer : image.layers.get? name with
  | none =>
      rw [hLayer] at hChosen
      cases hChosen
  | some layer =>
      rw [hLayer] at hChosen
      exact ⟨layer, rfl, Option.isNone_iff_eq_none.1 hChosen⟩

/-- A new layer on a new volume is undone by dropping it. -/
theorem undone_of_withBackup (hFrees : agent.Frees) {session : Session σ} {next : World σ}
    {image : Image} {name backup id volume : String} {source : Layer}
    (hWellFormed : session.image.WellFormed)
    (hNew : session.image.layers.contains backup = false)
    (hSource : session.image.layers.get? name = some source) (hNone : source.backup = none)
    (hEdited : session.image.withBackup name backup id volume source = .ok image)
    (hWithout : next.registry.without volume = session.world.registry)
    (hAnchors : next.registry.Anchors volume) :
    Undone agent [backup] session ⟨image, next⟩ := by
  intro world hSound hSame
  obtain ⟨-, -, made, -, -, -, hVolume, -, hGet⟩ := Image.of_withBackup hNew hSource hEdited
  have hNe : backup ≠ name := by
    rintro rfl
    rw [Table.contains, hSource] at hNew
    cases hNew
  have hMade : image.layers.get? backup = some made := by
    rw [hGet, if_neg hNe, if_pos rfl]
  rw [← hSame] at hWithout hAnchors
  obtain ⟨restored, hDrop, hErased⟩ :=
    run_dropLayer_of_anchored hFrees hSound hMade hVolume hAnchors
  have hMoves : Moves agent (fun _ => True) (fun _ => True) ⟨image, world⟩
      ((dropLayer agent backup).run ⟨image, world⟩).2 := dropLayer_moves (fun _ => trivial) _ _
  rw [hDrop] at hMoves
  refine ⟨restored, ?_, hSound.moves hMoves, hErased.trans hWithout⟩
  rw [Image.withoutLayer_of_withBackup hWellFormed hNew hSource hNone hEdited] at hDrop
  simp only [List.reverse_singleton, Action.forEach, Action.run_bind_ok hDrop, Action.run_pure]

/-- **Backing one layer up**: refused, and nothing has changed, or there is a new layer, whatever
has become of its volume, and dropping it leads back. -/
theorem backupLayer_undone (hFrees : agent.Frees) {session : Session σ}
    (hWellFormed : session.image.WellFormed) (hSound : session.world.Sound)
    (primary pool : String) {suffix name : String} (notes : List String)
    (hNew : session.image.layers.contains (name ++ "_" ++ suffix) = false)
    (hBare : ∃ layer, session.image.layers.get? name = some layer ∧ layer.backup = none) :
    (∃ failure next, (backupLayer agent primary pool suffix name).run (session, notes) =
        (.error failure, (next, notes)) ∧ Untouched session next) ∨
    ∃ source id volume image next, session.image.layers.get? name = some source ∧
      session.image.withBackup name (name ++ "_" ++ suffix) id volume source = .ok image ∧
      ((backupLayer agent primary pool suffix name).run (session, notes)).2 =
        (⟨image, next⟩, notes ++ [name ++ "_" ++ suffix]) ∧
      next.Sound ∧ Undone agent [name ++ "_" ++ suffix] session ⟨image, next⟩ := by
  obtain ⟨layer, hLayer, hNone⟩ := hBare
  rcases run_backupLayer_cases agent primary pool suffix name session notes with
    ⟨failure, hRun⟩ | ⟨source, volume, hSource, hVolume,
      ⟨failure, next, hCopy, hRun⟩ | ⟨id, image, copied, hCopy, hEdited, hRun⟩⟩
  · exact .inl ⟨failure, session, hRun, refl session⟩
  · have hMoves : World.Moves agent (fun _ => True) (fun _ => True) session.world
        ((World.copyResourceAs volume pool suffix).run session.world).2 :=
      World.copyResourceAs_moves .of_all _ _ _ session.world
    rw [hCopy] at hMoves
    exact .inl ⟨failure, _, hRun, rfl, World.registry_copyResourceAs_error hCopy,
      fun hSound => hSound.moves hMoves⟩
  · obtain rfl := Option.some.inj (hLayer.symm.trans hSource)
    obtain ⟨-, hCopied, hWithout, hAnchors⟩ := World.of_copyResourceAs hSound hCopy
    have hDrawn : copied.drawingId.Sound := hCopied.run agent World.freshId_moves
    have hReady := hDrawn.run agent
      (World.prepare_moves session.world.supply.nextId [primary])
    -- what is done to make the copy ready concerns the copy alone
    have hWorks := World.prepare_worksOn agent session.world.supply.nextId [primary]
      copied.drawingId
    exact .inr ⟨layer, id, _, image, _, hLayer, hEdited, congrArg Prod.snd hRun, hReady,
      undone_of_withBackup hFrees hWellFormed hNew hLayer hNone hEdited
        (hWorks.others.trans hWithout) (hWorks.anchors hAnchors)⟩

/-! ## A list of backup layers -/

/-- **The layers that were noted lead back**, wherever the loop over the layers has stopped. -/
theorem forEach_backupLayer_undone (hFrees : agent.Frees) (primary pool suffix : String)
    (names : List String) :
    ∀ (session : Session σ) (notes : List String), session.image.WellFormed →
      session.world.Sound → names.Nodup → Pending suffix names session.image →
      Bare names session.image → ∀ result after noted,
        (Action.forEach (backupLayer agent primary pool suffix) names).run (session, notes) =
          (result, (after, noted)) →
        ∃ created, noted = notes ++ created ∧ after.world.Sound ∧
          Undone agent created session after := by
  induction names with
  | nil =>
      intro session notes _ hSound _ _ _ result after noted hRun
      obtain ⟨-, rfl, rfl⟩ : result = .ok () ∧ after = session ∧ noted = notes := by
        simpa [Action.forEach, eq_comm] using hRun
      exact ⟨[], by simp, hSound, undone_nil after⟩
  | cons name rest ih =>
      intro session notes hWellFormed hSound hNodup hPending hBare result after noted hRun
      obtain ⟨hMem, hNew⟩ := hPending name List.mem_cons_self
      rcases backupLayer_undone hFrees hWellFormed hSound primary pool notes hNew
          (hBare name List.mem_cons_self) with
        ⟨failure, next, hFirst, hSame⟩ |
          ⟨source, id, volume, image, next, hSource, hEdited, hFirst, hNext, hUndone⟩
      · rw [Action.forEach, Action.run_bind_error hFirst] at hRun
        cases hRun
        exact ⟨[], by simp, hSame.sound hSound, (undone_nil session).congr hSame⟩
      · rw [Action.forEach] at hRun
        rcases hResult : (backupLayer agent primary pool suffix name).run (session, notes) with
          ⟨failure | _, reached⟩
        · rw [hResult] at hFirst
          obtain rfl := hFirst
          rw [Action.run_bind_error hResult] at hRun
          cases hRun
          exact ⟨[name ++ "_" ++ suffix], rfl, hNext, hUndone⟩
        · rw [hResult] at hFirst
          obtain rfl := hFirst
          rw [Action.run_bind_ok hResult] at hRun
          obtain ⟨created, rfl, hAfter, hRest⟩ := ih ⟨image, next⟩ _
            (hWellFormed.backUp hMem hSource hNew hEdited) hNext (List.nodup_cons.1 hNodup).2
            (hPending.of_withBackup hNodup hSource hEdited)
            (hBare.of_withBackup hNodup hNew hSource hEdited) result after noted hRun
          exact ⟨(name ++ "_" ++ suffix) :: created, by simp, hAfter,
            undone_append hUndone hRest⟩

/-- **The layers that a backup has noted lead back**, wherever it has stopped. -/
theorem backupLayers_undone (hFrees : agent.Frees) {session after : Session σ}
    (hWellFormed : session.image.WellFormed) (hSound : session.world.Sound)
    {settings : ImageSettings} {args : Arguments} {result : Except Failure Json}
    {created : List String}
    (hNew : BackupsNew (session.world.supply.nextSuffix settings.suffixLength) session.image)
    (hRun : (backupLayers agent settings args).run (session, []) = (result, (after, created))) :
    after.world.Sound ∧ Undone agent created session after := by
  rcases run_backupLayers_cases agent settings args session with
    ⟨failure, hCase⟩ | ⟨primary, pool, looped, reached, noted, hLayers, hCases⟩
  · rw [hCase] at hRun
    cases hRun
    exact ⟨hSound, undone_nil session⟩
  · have hDrawn : session.world.drawingSuffix.Sound :=
      hSound.run agent (World.freshSuffix_moves settings.suffixLength)
    obtain ⟨made, hMade, hReached, hUndone⟩ := forEach_backupLayer_undone hFrees primary pool _
      session.image.withoutBackup ⟨session.image, session.world.drawingSuffix⟩ [] hWellFormed
      hDrawn (hWellFormed.nodup.filter _) (pending_withoutBackup hNew)
      (bare_withoutBackup session.image) _ _ _ hLayers
    obtain rfl : noted = made := hMade
    rcases hCases with ⟨failure, hCase⟩ | ⟨-, hCase⟩
    · rw [hCase] at hRun
      cases hRun
      exact ⟨hReached, hUndone⟩
    · have hCalled := callNode_untouched agent "backup" args.toJson reached
      rw [hCase] at hRun
      cases hRun
      exact ⟨hCalled.sound hReached, hUndone.congr hCalled⟩

/-- **A backup that fails under rollback changes nothing**, neither in the document nor in the
registry. -/
theorem backup_undone (hFrees : agent.Frees) {session after : Session σ}
    (hWellFormed : session.image.WellFormed) (hSound : session.world.Sound)
    {settings : ImageSettings} (hRollback : settings.recovery = .rollback) {args : Arguments}
    {failure : Failure}
    (hRun : (backup agent settings args).run session = (.error failure, after))
    (hNew : BackupsNew (session.world.supply.nextSuffix settings.suffixLength) session.image) :
    after.image = session.image ∧ after.world.registry = session.world.registry := by
  rcases hLayers : (backupLayers agent settings args).run (session, []) with
    ⟨result, ⟨reached, created⟩⟩
  obtain ⟨hReached, hUndone⟩ :=
    backupLayers_undone hFrees hWellFormed hSound hNew hLayers
  simp only [backup, Action.run_bind, Action.run_noting, hLayers] at hRun
  cases result with
  | ok out => cases hRun
  | error refusal =>
      obtain ⟨restored, hDrop, -, hRegistry⟩ := hUndone reached.world hReached rfl
      simp only [hRollback, if_true, Action.run_bind, hDrop, Action.run_fail] at hRun
      cases hRun
      exact ⟨rfl, hRegistry⟩

end Session

end DiskFleet
