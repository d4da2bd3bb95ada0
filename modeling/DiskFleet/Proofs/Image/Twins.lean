import DiskFleet.Proofs.Image.Copies
import DiskFleet.Proofs.Image.Lineage
import DiskFleet.Proofs.Image.Unmaking
import DiskFleet.Proofs.Registry.Twin
import Mathlib.Data.List.Forall2

/-!
# The twins of a chain

A clone goes through the chain of an image and gives each layer a twin. The names of the twins, the
table of their layers, their volumes and the calls for these are written down by different parts of
the program, and they have to keep in step. `Session.Twinned` says that they do, for a chain that is
copied as far as `names`; one more layer keeps it so (`Twinned.push`), and so do all that are left
(`Twinned.run`).

## Main results

* `Session.Twinned.run`: copying a chain;
* `Session.received_tieAll`: tying the copies;
* `Session.twinned_of_run_clone`: both, in a clone that was made.
-/

namespace DiskFleet

variable {σ : Type} {agent : Agent σ}

namespace Session

variable {suffix name : String} {start session after : Session σ} {notes noted : List String}

/-- The layer of a name has a twin on the given volume. -/
def TwinLayer (suffix : String) (start : Session σ) (layers : Table Layer) (now : Registry)
    (name twin : String) : Prop :=
  ∃ source volume id, start.image.layers.get? name = some source ∧ source.volume = some volume ∧
    layers.get? (cloneName suffix name) = some (clonedLayer suffix id twin name source) ∧
    start.world.registry.Twins now suffix volume twin

section twinLayer

variable {layers : Table Layer} {now next : Registry} {other twin : String}

/-- The volume of a twin is registered. -/
theorem TwinLayer.registered (h : TwinLayer suffix start layers now name twin) :
    now.resource? twin ≠ none := by
  obtain ⟨-, -, -, -, -, -, -, -, -, copy, -, -, -, hCopy, -⟩ := h
  rw [hCopy]
  exact Option.some_ne_none copy

/-- The twin of another layer, on another volume, makes no difference. -/
theorem TwinLayer.push (h : TwinLayer suffix start layers now name twin) (hOther : name ≠ other)
    (layer : Layer) (hSame : next.resource? twin = now.resource? twin) :
    TwinLayer suffix start (layers.insert (cloneName suffix other) layer) next name twin := by
  obtain ⟨source, volume, id, hSource, hVolume, hLayer, hTwins⟩ := h
  refine ⟨source, volume, id, hSource, hVolume, ?_, hTwins.congr hSame⟩
  rw [Table.get?_insert, if_neg fun hKey => hOther (cloneName_inj.1 hKey)]
  exact hLayer

end twinLayer

/-! ## The layers of a list -/

/-- The chain is copied as far as `names`: the table holds a layer for each of them, in order, on
the volumes that were noted, and the agents were asked for these, in order. -/
structure Twinned (suffix : String) (start : Session σ) (names : List String)
    (layers : Table Layer) (noted : Session σ × List String) : Prop
    extends Noted start.image start.world.registry noted where
  keys : layers.keys = names.map (cloneName suffix)
  twins : List.Forall₂ (TwinLayer suffix start layers noted.1.world.registry) names noted.2
  received : start.world.link.Received noted.1.world.link (noted.2.map .allocate)

/-- Nothing is copied at the start. -/
theorem twinned_nil (suffix : String) (h : start.world.Sound) :
    Twinned suffix start [] ∅ (start, []) :=
  ⟨⟨rfl, h.added⟩, rfl, .nil, Link.received_nil _⟩

/-- The image has a layer of that name, on a volume that is registered. -/
def OnVolume (session : Session σ) (name : String) : Prop :=
  ∃ volume, session.image.volume? name = some volume ∧
    (session.world.registry.resource? volume).isSome = true

namespace Twinned

variable {names : List String} {layers : Table Layer}

/-- **One more layer.** -/
theorem push (h : Twinned suffix start names layers (session, notes))
    (hSound : start.world.Sound) (hNew : name ∉ names) (hThere : start.OnVolume name) {layer : Layer}
    (hRun : (cloneLayer agent suffix name).run (session, notes) = (.ok layer, (after, noted))) :
    Twinned suffix start (names ++ [name]) (layers.insert (cloneName suffix name) layer)
      (after, noted) := by
  have hNoted : Noted start.image start.world.registry (after, noted) := by
    have hKept := cloneLayer_noted agent suffix name (session, notes) h.toNoted
    rw [hRun] at hKept
    exact hKept
  rcases cloneLayer_cases agent World.Admission.of_all suffix name session notes with
    ⟨failure, next, made, hFailed, -, -⟩ |
      ⟨source, volume, resource, copied, ready, hSource, hVolume, hResource, hCopy, hReady, hDone⟩
  · rw [hFailed] at hRun
    cases hRun
  rw [hDone] at hRun
  cases hRun
  have hNow : session.world.Sound := h.added.sound
  have hImage : session.image = start.image := h.image
  rw [hImage] at hSource
  obtain ⟨hTwins, hReceived⟩ := World.twins_of_prepared hNow hResource hCopy hReady
  have hBeside := World.resource?_beside_copy hNow agent hCopy rfl resource.document.bound
  rw [hReady] at hBeside
  have hKey : layers.contains (cloneName suffix name) = false := by
    rw [← Bool.not_eq_true, Table.contains_iff_mem_keys, h.keys, List.mem_map]
    rintro ⟨other, hOther, hSame⟩
    exact hNew (cloneName_inj.1 hSame ▸ hOther)
  constructor
  case toNoted => exact hNoted
  case keys => rw [Table.keys_insert_of_not_contains hKey, h.keys, List.map_append]; rfl
  case received => rw [List.map_append]; exact h.received.append hReceived
  case twins =>
    refine List.rel_append ?_ (.cons ?_ .nil)
    · -- the earlier twins are registered, and the new one was not
      have hUnregistered : session.world.registry.resource? session.world.supply.nextId = none :=
        Registry.resource?_of_not_owned hNow.owners_nextId
      have hOthers := (List.forall₂_and_left (p := fun other => other ≠ name) names notes).2
        ⟨fun other hOther heq => hNew (heq ▸ hOther), h.twins⟩
      refine hOthers.imp fun other held hHeld => hHeld.2.push hHeld.1 _ (hBeside held ?_)
      rintro rfl
      exact hHeld.2.registered hUnregistered
    · have hStart : (start.world.registry.resource? volume).isSome = true := by
        obtain ⟨other, hOther, hRegistered⟩ := hThere
        rw [Image.volume?, hSource, Option.bind_some, hVolume] at hOther
        exact Option.some.inj hOther ▸ hRegistered
      have hKeeps : start.world.registry.Keeps session.world.registry :=
        Registry.keeps_of_withoutAll h.added.others
      refine ⟨source, volume, ready.supply.nextId, hSource, hVolume, ?_,
        hTwins.of_keeps hSound.registry hKeeps hStart⟩
      rw [Table.get?_insert, if_pos rfl]

/-- **All layers that are left.** -/
theorem run (hSound : start.world.Sound) (rest : List String) :
    ∀ {names : List String} {layers result : Table Layer} {session after : Session σ}
      {notes noted : List String}, Twinned suffix start names layers (session, notes) →
      (names ++ rest).Nodup → (∀ name ∈ rest, start.OnVolume name) →
      (cloneLayers agent suffix layers rest).run (session, notes) =
        (.ok result, (after, noted)) →
      Twinned suffix start (names ++ rest) result (after, noted) := by
  induction rest with
  | nil =>
      intro names layers result session after notes noted h _ _ hRun
      cases hRun
      rw [List.append_nil]
      exact h
  | cons name rest ih =>
      intro names layers result session after notes noted h hNodup hThere hRun
      obtain ⟨layer, ⟨between, made⟩, hLayer, hRest⟩ := Action.run_bind_eq_ok_iff.1 hRun
      have hNew : name ∉ names := fun hMem =>
        (List.nodup_append.1 hNodup).2.2 name hMem name List.mem_cons_self rfl
      have hNext := h.push hSound hNew (hThere name List.mem_cons_self) hLayer
      rw [List.append_cons] at hNodup ⊢
      exact ih hNext hNodup (fun other hOther => hThere other (List.mem_cons_of_mem _ hOther)) hRest

/-- Every name has a twin. -/
theorem exists_twin (h : Twinned suffix start names layers (session, notes)) (hName : name ∈ names) :
    ∃ twin ∈ notes, TwinLayer suffix start layers session.world.registry name twin := by
  have hTwins : List.Forall₂ (TwinLayer suffix start layers session.world.registry) names notes :=
    h.twins
  clear h
  induction hTwins with
  | nil => cases hName
  | @cons first twin _ _ hTwin _ ih =>
      rcases List.mem_cons.1 hName with rfl | hRest
      · exact ⟨twin, List.mem_cons_self, hTwin⟩
      · obtain ⟨other, hOther, hLater⟩ := ih hRest
        exact ⟨other, List.mem_cons_of_mem _ hOther, hLater⟩

/-- The volumes that were noted were not there at the start. -/
theorem unregistered (h : Twinned suffix start names layers (session, notes)) {twin : String}
    (hTwin : twin ∈ notes) : start.world.registry.resource? twin = none := by
  have hOthers : session.world.registry.withoutAll notes = start.world.registry := h.added.others
  rw [← hOthers, Registry.resource?_withoutAll, if_pos hTwin]

/-- The volumes of the layers are those that were noted. -/
theorem volumes (h : Twinned suffix start names layers (session, notes)) {clone : Image}
    (hLayers : clone.layers = layers) : clone.volumeIds = notes := by
  have hTwins : List.Forall₂ (TwinLayer suffix start layers session.world.registry) names notes :=
    h.twins
  rw [← Image.volumesOf_keys, hLayers, h.keys]
  clear h
  induction hTwins with
  | nil => rfl
  | @cons name twin _ _ hTwin _ ih =>
      obtain ⟨source, volume, id, -, -, hLayer, -⟩ := hTwin
      have hVolume : clone.volume? (cloneName suffix name) = some twin := by
        rw [Image.volume?, hLayers, hLayer]
        rfl
      rw [List.map_cons, Image.volumesOf, List.filterMap_cons_some hVolume]
      exact congrArg _ ih

end Twinned

/-! ## Tying the copies -/

/-- A call that was answered is one errand. -/
theorem received_callNode {command : String} {args out : Json}
    (hRun : (callNode agent command args).run session = (.ok out, after)) :
    session.world.link.Received after.world.link [.image command args] := by
  rw [callNode, Action.run_bind, run_ask] at hRun
  cases hCall : session.image.callFor session.world.registry command args with
  | error failure =>
      rw [hCall] at hRun
      cases hRun
  | ok call =>
      simp only [hCall, onWorld, Action.run_within, Link.run_invoke_snd] at hRun
      obtain rfl := congrArg Prod.snd hRun
      exact Link.received_calling (Image.errand?_callFor hCall _)

/-- **The layers of a list are tied**, from the bottom up, and nothing else is done. -/
theorem received_tieAll :
    ∀ (names : List String) {session after : Session σ},
      (tieAll agent names).run session = (.ok (), after) →
        session.world.link.Received after.world.link (Errand.rebases names)
  | [], session, after, hRun => by
    cases hRun
    exact Link.received_nil _
  | [name], session, after, hRun => by
    cases hRun
    exact Link.received_nil _
  | source :: target :: rest, session, after, hRun => by
    obtain ⟨out, between, hCall, hRest⟩ := Action.run_bind_eq_ok_iff.1 hRun
    have hFirst := received_callNode hCall
    exact hFirst.append (received_tieAll (target :: rest) hRest)

/-- So it is when they are the layers of another image. -/
theorem received_onImage_tieAll {other : Image} {names : List String}
    (hRun : (Action.silently (onImage other (tieAll agent names))).run (session, notes) =
      (.ok (), (after, noted))) :
    noted = notes ∧ after.world.registry = session.world.registry ∧
      session.world.link.Received after.world.link (Errand.rebases names) := by
  rw [Action.run_silently, onImage, Action.run_within] at hRun
  have hSame := tieAll_untouched agent names ⟨other, session.world⟩
  rcases hTie : (tieAll agent names).run ⟨other, session.world⟩ with ⟨failure | _, tied⟩
  · rw [hTie] at hRun
    cases hRun
  · rw [hTie] at hRun hSame
    cases hRun
    have hReceived := received_tieAll names hTie
    exact ⟨rfl, hSame.registry, hReceived⟩

/-! ## The clone -/

/-- What is done for a clone that was built: the chain was copied, and the copies were tied. -/
theorem of_run_buildClone {made : Image}
    (hRun : (buildClone agent suffix).run (session, notes) = (.ok made, (after, noted))) :
    ∃ id layers reached,
      (cloneLayers agent suffix ∅ session.image.topology.names).run (session, notes) =
        (.ok layers, (reached, noted)) ∧
      made = session.image.cloneOf suffix id layers ∧
      after.world.registry = reached.world.registry ∧
      reached.world.link.Received after.world.link (Errand.rebases made.topology.names) := by
  obtain ⟨image, _, hGet, hCopied⟩ := Action.run_bind_eq_ok_iff.1 hRun
  cases hGet
  obtain ⟨layers, ⟨reached, kept⟩, hLayers, hDrawn⟩ := Action.run_bind_eq_ok_iff.1 hCopied
  obtain ⟨id, _, hDraw, hTied⟩ := Action.run_bind_eq_ok_iff.1 hDrawn
  cases hDraw
  obtain ⟨_, ⟨final, _⟩, hTie, hPure⟩ := Action.run_bind_eq_ok_iff.1 hTied
  cases hPure
  obtain ⟨rfl, hRegistry, hReceived⟩ := received_onImage_tieAll hTie
  exact ⟨_, layers, reached, hLayers, rfl, hRegistry, hReceived⟩

/-- **A clone that was made**: the chain was copied, and the copies were tied. -/
theorem twinned_of_run_clone {settings : ImageSettings} {made : Image}
    (hSound : session.world.Sound) (hNodup : session.image.topology.names.Nodup)
    (hThere : ∀ name ∈ session.image.topology.names, session.OnVolume name)
    (hRun : (clone agent settings).run session = (.ok made, after)) :
    ∃ id layers reached noted,
      made = session.image.cloneOf (session.world.supply.nextSuffix settings.suffixLength) id
        layers ∧
      Twinned (session.world.supply.nextSuffix settings.suffixLength) session
        session.image.topology.names layers (reached, noted) ∧
      after.world.registry = reached.world.registry ∧
      reached.world.link.Received after.world.link (Errand.rebases made.topology.names) := by
  obtain ⟨suffix, drawn, hDraw, hNoting⟩ := Action.run_bind_eq_ok_iff.1 hRun
  obtain ⟨rfl, rfl⟩ : session.world.supply.nextSuffix settings.suffixLength = suffix ∧
      (⟨session.image, session.world.drawingSuffix⟩ : Session σ) = drawn := by
    cases hDraw
    exact ⟨rfl, rfl⟩
  rcases hBuild : (buildClone agent
      (session.world.supply.nextSuffix settings.suffixLength)).run
        (⟨session.image, session.world.drawingSuffix⟩, []) with ⟨built, ⟨final, noted⟩⟩
  rw [Action.run_bind, Action.run_noting, hBuild] at hNoting
  cases built with
  | error failure =>
      -- what was made is discarded, or kept, and then the failure is answered
      dsimp only at hNoting
      split at hNoting
      · rw [Action.run_bind] at hNoting
        rcases hDrop : (Action.forEach (fun volume => onWorld (World.discard agent volume))
          noted).run final with ⟨failed | _, dropped⟩
        all_goals
          rw [hDrop] at hNoting
          cases hNoting
      · cases hNoting
  | ok clone =>
      cases hNoting
      obtain ⟨id, layers, reached, hLayers, hMade, hRegistry, hReceived⟩ :=
        of_run_buildClone hBuild
      have hDrawn : session.world.drawingSuffix.Sound :=
        hSound.run agent (World.freshSuffix_moves settings.suffixLength)
      have hStart : Twinned (session.world.supply.nextSuffix settings.suffixLength)
          ⟨session.image, session.world.drawingSuffix⟩ [] ∅
          (⟨session.image, session.world.drawingSuffix⟩, []) := twinned_nil _ hDrawn
      have hTwinned := hStart.run hDrawn session.image.topology.names hNodup hThere hLayers
      exact ⟨id, layers, reached, noted, hMade,
        ⟨hTwinned.toNoted, hTwinned.keys, hTwinned.twins, hTwinned.received⟩, hRegistry, hReceived⟩

end Session

end DiskFleet
