import DiskFleet.Proofs.Image.Clone
import DiskFleet.Proofs.Image.Refusal
import DiskFleet.Proofs.Registry.Copy

/-!
# A clone that is taken back

While an image is cloned, its copies are noted. `DiskFleet.Proofs.Registry.Copy` says what it means
that such a list is right, and here every step of a clone is seen to keep it right
(`Session.Noted`), with the image that is cloned as it was. The one moment at which the list lacks
something lies between making a copy and noting it, which is why these two steps are taken together.

## Main results

* `Session.cloneLayers_noted`, `Session.buildClone_noted`: the notes are right however far it got;
* `Session.clone_added`: a clone disturbs nothing, and leaves nothing behind if it is taken back.
-/

namespace DiskFleet

variable {σ α β : Type} {agent : Agent σ}

namespace Session

variable {image : Image} {start : Registry}

/-! ## Steps that make nothing -/

theorem askImage_untouched (f : Image → Except Failure α) :
    (askImage f : Action (Session σ) α).Along Untouched :=
  fun session => refl session

theorem ask_untouched (f : Image → Registry → Except Failure α) :
    (ask f : Action (Session σ) α).Along Untouched :=
  fun session => refl session

/-- Drawing leaves the registry alone. -/
theorem freshId_untouched (agent : Agent σ) :
    (onWorld World.freshId : Action (Session σ) String).Along Untouched := by
  intro session
  have hSound : session.world.Sound → session.world.drawingId.Sound := fun h =>
    h.run agent World.freshId_moves
  exact ⟨rfl, rfl, hSound⟩

/-- Work that leaves another image and the registry alone leaves this one alone. -/
theorem onImage_untouched (other : Image) {action : Action (Session σ) α}
    (h : action.Along Untouched) : (onImage other action).Along Untouched :=
  Action.along_within h fun _ _ hSame => ⟨rfl, hSame.registry, hSame.sound⟩

/-- The layers of a clone are tied by calls. -/
theorem tieAll_untouched (agent : Agent σ) : ∀ names, (tieAll agent names).Along Untouched
  | [] => Action.along_pure ()
  | [_] => Action.along_pure ()
  | _ :: target :: rest =>
    Action.along_bind (callNode_untouched agent _ _) fun _ => tieAll_untouched agent (target :: rest)

/-! ## Notes -/

/-- The notes list what was made since the registry was `start`, and the image is the given one. -/
structure Noted (image : Image) (start : Registry) (noted : Session σ × List String) : Prop where
  image : noted.1.image = image
  added : World.Added start noted.2 noted.1.world

/-- What changes neither the image nor the registry keeps the notes right. -/
theorem silently_noted {action : Action (Session σ) α} (h : action.Along Untouched) :
    (Action.silently action).Along (Keeping (Noted image start)) := by
  rintro ⟨session, notes⟩ ⟨hImage, hAdded⟩
  have hSame := h session
  exact ⟨hSame.image.trans hImage, hAdded.congr (hSame.sound hAdded.sound) hSame.registry⟩

/-- So does making a noted copy ready. -/
theorem prepare_noted (agent : Agent σ) {volume : String} {session : Session σ}
    {notes : List String} (nodes : List String) (hMem : volume ∈ notes) :
    Keeping (Noted image start) (session, notes)
      ((Action.silently (onWorld (World.prepare agent volume nodes))).run (session, notes)).2 := by
  rintro ⟨hImage, hAdded⟩
  exact ⟨hImage, hAdded.work (hAdded.sound.run agent (World.prepare_moves volume nodes)) hMem
    (World.prepare_worksOn agent volume nodes session.world)⟩

/-- **A copy that is made and noted keeps the notes right**, if what comes next does. -/
theorem copy_noted (agent : Agent σ) {resource destination suffix : String}
    {next : String → Action (Session σ × List String) β}
    (hNext : ∀ volume session notes, volume ∈ notes →
      Keeping (Noted image start) (session, notes) ((next volume).run (session, notes)).2) :
    (do
      let volume ← Action.silently (onWorld (World.copyResourceAs resource destination suffix))
      Action.note volume
      next volume : Action (Session σ × List String) β).Along (Keeping (Noted image start)) := by
  rintro ⟨session, notes⟩ ⟨hImage, hAdded⟩
  rw [run_onWorld_bind]
  rcases hCopy : (World.copyResourceAs resource destination suffix).run session.world with
    ⟨failure | volume, copied⟩
  · have hMoves := hAdded.sound.run agent
      (World.copyResourceAs_moves .of_all resource destination suffix)
    rw [hCopy] at hMoves
    exact ⟨hImage, hAdded.congr hMoves (World.registry_copyResourceAs_error hCopy)⟩
  · obtain ⟨hId, hSound, hWithout, hAnchors⟩ := World.of_copyResourceAs hAdded.sound hCopy
    have hNoted : (Action.note volume).run ((⟨session.image, copied⟩ : Session σ), notes) =
        (.ok (), (⟨session.image, copied⟩, notes ++ [volume])) := rfl
    dsimp only
    rw [Action.run_bind_ok hNoted]
    exact hNext volume _ _ (by simp) ⟨hImage, hAdded.push hSound hId hWithout hAnchors⟩

theorem cloneLayer_noted (agent : Agent σ) (suffix name : String) :
    (cloneLayer agent suffix name).Along (Keeping (Noted image start)) := by
  refine Action.along_bind (silently_noted (askImage_untouched _)) fun source => ?_
  refine Action.along_bind (Action.along_liftM _) fun sourceVolume => ?_
  refine Action.along_bind (silently_noted (ask_untouched _)) fun document => ?_
  refine copy_noted agent fun volume session notes hMem => ?_
  refine Action.rel_run_bind (prepare_noted agent document.bound hMem) fun _ after _ => ?_
  exact Action.along_bind (silently_noted (freshId_untouched agent)) (fun _ => Action.along_pure _) after

theorem cloneLayers_noted (agent : Agent σ) (suffix : String) (names : List String) :
    ∀ layers, (cloneLayers agent suffix layers names).Along (Keeping (Noted image start)) := by
  induction names with
  | nil => exact fun _ => Action.along_pure _
  | cons name rest ih =>
      intro layers
      exact Action.along_bind (cloneLayer_noted agent suffix name) fun layer => ih _

theorem buildClone_noted (agent : Agent σ) (suffix : String) :
    (buildClone agent suffix).Along (Keeping (Noted image start)) := by
  refine Action.along_bind (Action.along_gets _) fun source => ?_
  refine Action.along_bind (cloneLayers_noted agent suffix _ _) fun layers => ?_
  refine Action.along_bind (silently_noted (freshId_untouched agent)) fun id => ?_
  exact Action.along_bind (silently_noted (onImage_untouched _ (tieAll_untouched agent _)))
    fun _ => Action.along_pure _

/-! ## The whole clone -/

/-- Work on the world item by item is work on the world. -/
theorem forEach_onWorld (action : α → Action (World σ) Unit) (items : List α) :
    Action.forEach (fun item => onWorld (action item)) items =
      onWorld (Action.forEach action items) := by
  induction items with
  | nil => rfl
  | cons item rest ih =>
      refine Action.ext_run fun session => ?_
      simp only [Action.forEach, ih, Action.run_bind]
      simp only [onWorld, Action.run_bind, Action.run_within]
      rcases (action item).run session.world with ⟨failure | _, after⟩ <;> rfl

/-- **The clone of an image disturbs nothing that exists**, whatever it answers. If it fails, the
agents accept releases and the recovery setting asks for it, nothing is left of it. -/
theorem clone_added {settings : ImageSettings} {session after : Session σ}
    {result : Except Failure Image} (hSound : session.world.Sound)
    (hRun : (clone agent settings).run session = (result, after)) :
    after.image = session.image ∧
      (∃ made, after.world.registry.withoutAll made = session.world.registry) ∧
      ∀ failure, result = .error failure → agent.Frees → settings.recovery = .rollback →
        after.world.registry = session.world.registry := by
  have hDraw : (onWorld (World.freshSuffix settings.suffixLength)).run session =
      (.ok (session.world.supply.nextSuffix settings.suffixLength),
        ⟨session.image, session.world.drawingSuffix⟩) := rfl
  have hSuffix : session.world.drawingSuffix.Sound :=
    hSound.run agent (World.freshSuffix_moves settings.suffixLength)
  have hStart : Noted session.image session.world.registry
      ((⟨session.image, session.world.drawingSuffix⟩ : Session σ), []) :=
    ⟨rfl, hSound.added.congr hSuffix rfl⟩
  have hBuilt := buildClone_noted agent (session.world.supply.nextSuffix settings.suffixLength) _
    hStart
  rw [clone, Action.run_bind_ok hDraw, Action.run_bind, Action.run_noting] at hRun
  rcases hBuild : (buildClone agent
      (session.world.supply.nextSuffix settings.suffixLength)).run
        (⟨session.image, session.world.drawingSuffix⟩, []) with ⟨built, ⟨reached, created⟩⟩
  rw [hBuild] at hRun hBuilt
  obtain ⟨hImage, hAdded⟩ := hBuilt
  cases built with
  | ok made =>
      cases hRun
      exact ⟨hImage, ⟨created, hAdded.others⟩, by rintro _ ⟨⟩⟩
  | error failure =>
      dsimp only at hRun
      by_cases hRollback : settings.recovery = .rollback
      · rw [if_pos hRollback, forEach_onWorld, Action.run_bind, onWorld, Action.run_within] at hRun
        have hBeside := hAdded.discarded agent
        rcases hDrop : (Action.forEach (World.discard agent) created).run reached.world with
          ⟨failed | _, dropped⟩
        all_goals
          rw [hDrop] at hRun hBeside
          cases hRun
          refine ⟨hImage, ⟨created, hBeside⟩, fun _ _ hFrees _ => ?_⟩
          obtain ⟨restored, hDiscards, hRestored⟩ := hAdded.run_discards hFrees
          rw [hDrop] at hDiscards
          cases hDiscards
        exact hRestored
      · rw [if_neg hRollback] at hRun
        cases hRun
        exact ⟨hImage, ⟨created, hAdded.others⟩, fun _ _ _ hAsked => absurd hAsked hRollback⟩

end Session

end DiskFleet
