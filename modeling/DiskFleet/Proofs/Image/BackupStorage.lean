import DiskFleet.Proofs.Image.Backup
import DiskFleet.Proofs.Registry.Prepared

/-!
# What a backup makes storage for

A backup that answers has gone through all layers of the chain that named no backup, and each of
them names a backup layer now whose volume holds storage. A layer that named a backup already is
passed over: it still names that backup, and whether the volume of that holds storage is as it was.

`Session.BacksUp` says this of any list of layers. It holds of one layer that is backed up, and of
two lists that are gone through one after the other.

## Main results

* `Session.backupLayer_backsUp`: one layer;
* `Session.forEach_backupLayer_backsUp`: the layers of a list;
* `Session.backup_storage`: the whole chain.
-/

namespace DiskFleet

variable {σ : Type} {agent : Agent σ}

namespace Image

/-- The layer of a name points to a layer outside the chain, which is on the given volume. -/
def BackedUpOn (image : Image) (name volume : String) : Prop :=
  ∃ layer backup stored, image.layers.get? name = some layer ∧ layer.backup = some backup ∧
    backup ∉ image.topology.names ∧ image.layers.get? backup = some stored ∧
    stored.volume = some volume

section withBackup

variable {image edited : Image} {name backup id volume : String} {source : Layer}

/-- A layer that is given a backup is backed up on the volume of that. -/
theorem backedUpOn_of_withBackup (h : image.WellFormed)
    (hNew : image.layers.contains backup = false) (hSource : image.layers.get? name = some source)
    (hEdited : image.withBackup name backup id volume source = .ok edited) :
    edited.BackedUpOn name volume := by
  obtain ⟨hTopology, -, made, -, -, -, hVolume, -, hGet⟩ := of_withBackup hNew hSource hEdited
  have hNe : backup ≠ name := by
    rintro rfl
    rw [Table.contains, hSource] at hNew
    cases hNew
  refine ⟨{ source with backup := some backup }, backup, made, ?_, rfl, ?_, ?_, hVolume⟩
  · rw [hGet, if_pos rfl]
  · rw [hTopology]
    exact h.not_mem_of_new hNew
  · rw [hGet, if_neg hNe, if_pos rfl]

/-- The other layers are backed up where they were. -/
theorem BackedUpOn.withBackup {other otherVolume : String} (h : image.BackedUpOn other otherVolume)
    (hOther : other ≠ name) (hNew : image.layers.contains backup = false)
    (hSource : image.layers.get? name = some source)
    (hEdited : image.withBackup name backup id volume source = .ok edited) :
    edited.BackedUpOn other otherVolume := by
  obtain ⟨hTopology, -, made, -, -, -, -, -, hGet⟩ := of_withBackup hNew hSource hEdited
  obtain ⟨layer, target, stored, hLayer, hBackup, hOutside, hStored, hVolume⟩ := h
  have hThere : ∀ {key layer}, image.layers.get? key = some layer → key ≠ backup := by
    rintro key layer hLayer rfl
    rw [Table.contains, hLayer] at hNew
    cases hNew
  -- the layer pointed to may be the one that gets a backup, but it keeps its volume
  have hTarget : ∃ now, edited.layers.get? target = some now ∧ now.volume = some otherVolume := by
    rw [hGet]
    by_cases hSame : target = name
    · rw [if_pos hSame]
      rw [hSame, hSource] at hStored
      obtain rfl := Option.some.inj hStored
      exact ⟨_, rfl, hVolume⟩
    · rw [if_neg hSame, if_neg (hThere hStored)]
      exact ⟨stored, hStored, hVolume⟩
  obtain ⟨now, hNow, hKept⟩ := hTarget
  refine ⟨layer, target, now, ?_, hBackup, hTopology ▸ hOutside, hNow, hKept⟩
  rw [hGet, if_neg hOther, if_neg (hThere hLayer)]
  exact hLayer

end withBackup

end Image

namespace Session

/-- The layers of a list were given backups that hold storage. The others are backed up where they
were, and every volume that was there holds storage exactly if it did before. -/
structure BacksUp (names : List String) (before after : Session σ) : Prop where
  topology : after.image.topology = before.image.topology
  made : ∀ name ∈ names, ∃ volume, after.image.BackedUpOn name volume ∧
    after.world.registry.allocated? volume = some true
  kept : ∀ {name volume}, name ∉ names → before.image.BackedUpOn name volume →
    after.image.BackedUpOn name volume
  storage : ∀ {volume held}, before.world.registry.allocated? volume = some held →
    after.world.registry.allocated? volume = some held

section backsUp

variable {first second : List String} {before between after next : Session σ}

theorem backsUp_nil (session : Session σ) : BacksUp [] session session :=
  ⟨rfl, by simp, fun _ h => h, fun h => h⟩

/-- Two lists, one after the other, if they have no layer in common. -/
theorem BacksUp.append (hFirst : BacksUp first before between)
    (hSecond : BacksUp second between after) (hApart : ∀ name ∈ first, name ∉ second) :
    BacksUp (first ++ second) before after := by
  constructor
  case topology => exact hSecond.topology.trans hFirst.topology
  case made =>
    intro name hName
    rcases List.mem_append.1 hName with hBefore | hLater
    · obtain ⟨volume, hBackedUp, hHeld⟩ := hFirst.made name hBefore
      exact ⟨volume, hSecond.kept (hApart name hBefore) hBackedUp, hSecond.storage hHeld⟩
    · exact hSecond.made name hLater
  case kept =>
    intro name volume hName hBackedUp
    rw [List.mem_append, not_or] at hName
    exact hSecond.kept hName.2 (hFirst.kept hName.1 hBackedUp)
  case storage => exact fun hHeld => hSecond.storage (hFirst.storage hHeld)

/-- Only the image and the registry matter. -/
theorem BacksUp.congr (h : BacksUp first before after) (hSame : Untouched after next) :
    BacksUp first before next := by
  constructor
  case topology => exact hSame.image ▸ h.topology
  case made =>
    rw [hSame.image, hSame.registry]
    exact h.made
  case kept =>
    rw [hSame.image]
    exact h.kept
  case storage =>
    rw [hSame.registry]
    exact h.storage

end backsUp

/-- **One layer** whose backup succeeds. -/
theorem backupLayer_backsUp {session after : Session σ} (hFormed : session.image.WellFormed)
    (hSound : session.world.Sound) {primary pool suffix name : String} {notes noted : List String}
    (hMem : name ∈ session.image.topology.names)
    (hNew : session.image.layers.contains (name ++ "_" ++ suffix) = false)
    (hRun : (backupLayer agent primary pool suffix name).run (session, notes) =
      (.ok (), (after, noted))) :
    BacksUp [name] session after ∧ after.image.WellFormed ∧ after.world.Sound ∧
      ∃ source id volume, session.image.layers.get? name = some source ∧
        session.image.withBackup name (name ++ "_" ++ suffix) id volume source =
          .ok after.image := by
  rcases run_backupLayer_cases agent primary pool suffix name session notes with
    ⟨failure, hCase⟩ | ⟨source, volume, hSource, -,
      ⟨failure, next, -, hCase⟩ | ⟨id, edited, copied, hCopy, hEdited, hCase⟩⟩
  · rw [hCase] at hRun
    cases hRun
  · rw [hCase] at hRun
    cases hRun
  · rw [hCase] at hRun
    obtain ⟨-, hCopied, -⟩ := World.of_copyResourceAs hSound hCopy
    have hDrawn : copied.drawingId.Sound := hCopied.run agent World.freshId_moves
    have hReached := hDrawn.run agent (World.prepare_moves session.world.supply.nextId [primary])
    have hSame : copied.drawingId.registry = copied.registry := rfl
    have hBeside := World.resource?_beside_copy hSound agent hCopy hSame [primary]
    rcases hPrepare : (World.prepare agent session.world.supply.nextId [primary]).run
      copied.drawingId with ⟨result, ready⟩
    rw [hPrepare] at hRun hReached hBeside
    cases hRun
    have hHeld : ready.registry.allocated? session.world.supply.nextId = some true :=
      World.allocated?_of_prepared hSound hCopy hSame hPrepare
    refine ⟨?_, hFormed.backUp hMem hSource hNew hEdited, hReached, source, id, _, hSource,
      hEdited⟩
    constructor
    case topology => exact (Image.of_withBackup hNew hSource hEdited).1
    case made =>
      intro other hOther
      obtain rfl := List.mem_singleton.1 hOther
      exact ⟨_, Image.backedUpOn_of_withBackup hFormed hNew hSource hEdited, hHeld⟩
    case kept =>
      intro other otherVolume hOther hBackedUp
      exact hBackedUp.withBackup (List.mem_singleton.not.1 hOther) hNew hSource hEdited
    case storage =>
      intro other held hOther
      -- the id of the copy was not in use
      have hNe : other ≠ session.world.supply.nextId := by
        rintro rfl
        rw [Registry.allocated?, Registry.resource?_of_not_owned hSound.owners_nextId] at hOther
        cases hOther
      rw [Registry.allocated?_congr (hBeside other hNe)]
      exact hOther

/-- **The layers of a list**, if none is a backup of another one. -/
theorem forEach_backupLayer_backsUp (agent : Agent σ) (primary pool suffix : String)
    (names : List String) :
    ∀ (session : Session σ) (notes : List String), session.image.WellFormed →
      session.world.Sound → names.Nodup → Pending suffix names session.image →
      ∀ after noted,
        (Action.forEach (backupLayer agent primary pool suffix) names).run (session, notes) =
          (.ok (), (after, noted)) → BacksUp names session after := by
  induction names with
  | nil =>
      intro session notes _ _ _ _ after noted hRun
      cases hRun
      exact backsUp_nil session
  | cons name rest ih =>
      intro session notes hFormed hSound hNodup hPending after noted hRun
      obtain ⟨hMem, hNew⟩ := hPending name List.mem_cons_self
      obtain ⟨hNotLater, hRest⟩ := List.nodup_cons.1 hNodup
      obtain ⟨_, ⟨between, made⟩, hFirst, hLater⟩ := Action.run_bind_eq_ok_iff.1 hRun
      obtain ⟨hBacksUp, hStill, hBetween, source, id, volume, hSource, hEdited⟩ :=
        backupLayer_backsUp hFormed hSound hMem hNew hFirst
      have hOthers := ih between made hStill hBetween hRest
        (hPending.of_withBackup hNodup hSource hEdited) after noted hLater
      refine hBacksUp.append hOthers fun other hOther => ?_
      rw [List.mem_singleton.1 hOther]
      exact hNotLater

/-- **A backup that answers**: every layer of the chain that named no backup got one that holds
storage, and the others are backed up where they were. -/
theorem backup_storage {session after : Session σ} (hFormed : session.image.WellFormed)
    (hSound : session.world.Sound) {settings : ImageSettings} {args : Arguments} {out : Json}
    (hRun : (backup agent settings args).run session = (.ok out, after))
    (hNew : BackupsNew (session.world.supply.nextSuffix settings.suffixLength) session.image) :
    BacksUp session.image.withoutBackup session after := by
  rcases hLayers : (backupLayers agent settings args).run (session, []) with
    ⟨result, ⟨reached, created⟩⟩
  simp only [backup, Action.run_bind, Action.run_noting, hLayers] at hRun
  cases result with
  | error failure =>
      dsimp only at hRun
      split at hRun
      · rw [Action.run_bind] at hRun
        rcases hDrop : (Action.forEach (dropLayer agent) created.reverse).run reached with
          ⟨failed | _, dropped⟩
        all_goals
          rw [hDrop] at hRun
          cases hRun
      · cases hRun
  | ok answer =>
      cases hRun
      rcases run_backupLayers_cases agent settings args session with
        ⟨failure, hCase⟩ | ⟨primary, pool, looped, middle, noted, hLoop, hCases⟩
      · rw [hCase] at hLayers
        cases hLayers
      · rcases hCases with ⟨failure, hCase⟩ | ⟨rfl, hCase⟩
        · rw [hCase] at hLayers
          cases hLayers
        · have hDrawn : session.world.drawingSuffix.Sound :=
            hSound.run agent (World.freshSuffix_moves settings.suffixLength)
          have hBacksUp := forEach_backupLayer_backsUp agent primary pool _
            session.image.withoutBackup ⟨session.image, session.world.drawingSuffix⟩ [] hFormed
            hDrawn (hFormed.nodup.filter _) (pending_withoutBackup hNew) middle noted hLoop
          -- the call that has the data copied changes nothing
          have hCalled := callNode_untouched agent "backup" args.toJson middle
          rw [hCase] at hLayers
          have hReached : ((callNode agent "backup" args.toJson).run middle).2 = after :=
            (Prod.mk.inj (Prod.mk.inj hLayers).2).1
          rw [hReached] at hCalled
          have hAfter := hBacksUp.congr hCalled
          exact ⟨hAfter.topology, hAfter.made, hAfter.kept, hAfter.storage⟩

end Session

end DiskFleet
