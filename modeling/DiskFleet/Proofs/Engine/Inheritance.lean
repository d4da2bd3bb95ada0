import DiskFleet.Proofs.Engine.Access
import DiskFleet.Proofs.Engine.Cloning
import DiskFleet.Proofs.Image.Access
import DiskFleet.Proofs.Image.Twins

/-!
# Nodes that are passed on

A new layer is meant for nodes that its image can be used from, and the clone of a resource for the
nodes that its source is bound to. Both pass a list of nodes on to `bind`. As long as there is a node
in it, the new volume is bound to exactly these nodes, and nothing can be used from more nodes than
before. The empty list means something else to `bind`, which then takes every node of the pool: what
is made from volumes that are bound nowhere is bound everywhere.

## Main results

* `add_within_access`: where a new layer can be used from, and its image;
* `add_beyond_access`: an image that could be used from nowhere;
* `cloneResource_bound_alike`: where the clone of a resource is bound;
* `cloneResource_bound_unlike`: the clone of a volume that is bound nowhere.
-/

namespace DiskFleet

namespace World

variable {σ : Type} {agent : Agent σ} {world after : World σ} {resource id : String}
  {source : Resource}

/-- **The clone of a resource is a twin of it**, beside all that was registered, and the agents were
asked for one allocation. -/
theorem twins_of_run_cloneResource (h : world.Sound)
    (hSource : world.registry.resource? resource = some source)
    (hRun : (cloneResource agent resource).run world = (.ok id, after)) :
    ∃ suffix, world.registry.Twins after.registry suffix resource id ∧
      after.registry.without id = world.registry ∧ world.registry.resource? id = none ∧
      world.link.Received after.link [.allocate id] := by
  have hDocument := Registry.resourceDocument_eq_ok_iff.2 ⟨source, hSource, rfl⟩
  simp only [cloneResource, copyResource, Action.run_bind, run_ask, hDocument, Action.run_gets,
    run_freshSuffix] at hRun
  have hDrawn : world.drawingSuffix.Sound :=
    h.run agent (freshSuffix_moves world.registry.suffixLength)
  rcases hCopy : (copyResourceAs resource (source.document.pool.getD "")
      (world.supply.nextSuffix world.registry.suffixLength)).run world.drawingSuffix with
    ⟨refusal | copyId, copied⟩
  · rw [hCopy] at hRun
    cases hRun
  · obtain ⟨hId, -, hWithout, -⟩ := of_copyResourceAs hDrawn hCopy
    have hWorks := (prepare_worksOn agent copyId source.document.bound copied).others
    simp only [hCopy, Action.run_attempt] at hRun
    rcases hPrepare : (prepare agent copyId source.document.bound).run copied with
      ⟨refusal | _, ready⟩
    · -- the clone fails, whether or not the copy is discarded
      rw [hPrepare] at hRun
      obtain ⟨recovery, reached, -, hFail⟩ := Action.run_bind_eq_ok_iff.1 hRun
      split at hFail
      · obtain ⟨_, _, -, hFail⟩ := Action.run_bind_eq_ok_iff.1 hFail
        cases hFail
      · cases hFail
    · rw [hPrepare] at hRun hWorks
      cases hRun
      have hNamed : source.document.idText = resource := Session.idText_of_resource? h hSource
      rw [← hNamed] at hCopy
      obtain ⟨hTwins, hReceived⟩ := twins_of_prepared hDrawn hSource hCopy hPrepare
      exact ⟨_, hTwins, hWorks.trans hWithout,
        hId ▸ Registry.resource?_of_not_owned h.owners_nextId, hReceived⟩

end World

namespace Engine

variable {σ : Type} {agent : Agent σ} {engine after : Engine σ} {id : String} {image : Image}

/-- An image with one layer on two nodes, the volume of which was unbound again, from the nodes that
are named or from both. -/
def unboundFrom (nodes : List String) : Engine Unit :=
  ((paired.after .willing (.createPool sharedPool)).after .willing
    (.createImage (chainImage "base"))).after .willing (.updateResource "ii" (.unbind nodes))

theorem run_unboundFrom (nodes : List String) :
    Run .willing (fun _ _ => True) paired (unboundFrom nodes) :=
  ((Run.start.step trivial).step trivial).step trivial

/-- An answer that is a value. -/
theorem ok_of_toOption {α : Type} {result : Except Failure α} {value : α}
    (h : result.toOption = some value) : result = .ok value := by
  cases result with
  | error failure => cases h
  | ok found => exact congrArg Except.ok (Option.some.inj h)

/-! ## A new layer -/

/-- **A layer that is added is bound to the nodes that were named**, or to those that the image can
be used from if none was, in any reachable state, and the image can be used from the same nodes as
before. That holds as long as there are such nodes; if there are none, none can be named, and both
the new volume and the image have all nodes of the pool. -/
theorem add_within_access {start : Engine σ} (hVacant : start.Vacant)
    (hDistinct : start.world.supply.Distinct) (hRun : Run agent (fun _ _ => True) start engine)
    (hImage : engine.images.get? id = some image) {adder : Agent σ} {args : AddArguments}
    {out : Json} (hAdd : (updateImage adder id (.add args)).run engine = (.ok out, after)) :
    ∃ access edited layer volume pool resource,
      image.accessNodes engine.world.registry = .ok access ∧
      after.images.get? id = some edited ∧ edited.layers.get? args.target = some layer ∧
      layer.volume = some volume ∧ after.world.registry.poolOf volume = .ok pool ∧
      after.world.registry.resource? volume = some resource ∧
      (access ≠ [] →
        (∀ node, node ∈ resource.document.bound ↔
          node ∈ if args.nodes = [] then access else args.nodes) ∧
        edited.accessNodes after.world.registry = .ok access) ∧
      (access = [] → args.nodes = [] ∧
        (∀ node, node ∈ resource.document.bound ↔ node ∈ pool.document.access) ∧
        ∃ grown, edited.accessNodes after.world.registry = .ok grown ∧
          ∀ node, node ∈ grown ↔ node ∈ pool.document.access) := by
  have hSound : engine.world.Sound := (Numbered.of_run hVacant hDistinct hRun).sound
  rcases hDone : (Session.add adder engine.settings args).run ⟨image, engine.world⟩ with
    ⟨result, ⟨edited, world⟩⟩
  rw [run_updateImage_of_found adder _ hImage, Session.update, hDone] at hAdd
  cases hAdd
  obtain ⟨access, grown, nodes, layer, volume, pool, resource, hAccess, hGrown, rfl, hInside, hLayer,
    hVolume, hPool, hFound, hBound, hSame⟩ := Session.boundTo_of_run_add hSound hDone
  have hEdited : (engine.images.insert id edited).get? id = some edited :=
    (Table.get?_insert _ _ _ _).trans (if_pos rfl)
  simp only [List.isEmpty_iff] at hInside hBound
  refine ⟨access, edited, layer, volume, pool, resource, hAccess, hEdited, hLayer, hVolume, hPool,
    hFound, fun hSome => ?_, fun hNone => ?_⟩
  · have hChosen : ¬(if args.nodes = [] then access else args.nodes) = [] := by
      split
      · exact hSome
      · assumption
    simp only [if_neg hChosen] at hBound
    have hUnchanged : grown = access := by
      refine Image.accessNodes_eq hAccess hGrown fun node => ?_
      rw [hSame, hBound]
      exact or_iff_left_of_imp (hInside node)
    exact ⟨hBound, hUnchanged ▸ hGrown⟩
  · subst hNone
    have hUnnamed : args.nodes = [] := by
      by_contra hNamed
      rw [if_neg hNamed] at hInside
      obtain ⟨node, hNode⟩ := List.exists_mem_of_ne_nil _ hNamed
      cases hInside node hNode
    simp only [hUnnamed, if_true] at hBound
    refine ⟨hUnnamed, hBound, grown, hGrown, fun node => ?_⟩
    rw [hSame, hBound]
    simp

/-- A new top for which no node is named. -/
def newTop : AddArguments := ⟨"new", .ofList [("image_size", "10")], true, []⟩

/-- The pool is reached from both nodes, but the image is used from one of them, and stays there. -/
theorem add_within_access_unbound :
    paired.Vacant ∧ paired.world.supply.Distinct ∧
    Run .willing (fun _ _ => True) paired (unboundFrom ["m"]) ∧
    ∃ image out after edited layer volume pool resource,
      (unboundFrom ["m"]).images.get? "i" = some image ∧
      image.accessNodes (unboundFrom ["m"]).world.registry = .ok ["n"] ∧
      (updateImage .willing "i" (.add newTop)).run (unboundFrom ["m"]) = (.ok out, after) ∧
      after.images.get? "i" = some edited ∧ edited.layers.get? "new" = some layer ∧
      layer.volume = some volume ∧ after.world.registry.poolOf volume = .ok pool ∧
      after.world.registry.resource? volume = some resource ∧
      (∀ node, node ∈ resource.document.bound ↔ node ∈ ["n"]) ∧
      edited.accessNodes after.world.registry = .ok ["n"] := by
  have hVacant : paired.Vacant := vacant_vacant _ _ _ _
  have hUsed : ((unboundFrom ["m"]).images.get? "i").map (fun image =>
      (image.accessNodes (unboundFrom ["m"]).world.registry).toOption) = some (some ["n"]) := by
    decide +kernel
  have hDone : ((updateImage .willing "i" (.add newTop)).run
      (unboundFrom ["m"])).1.toOption.isSome = true := by decide +kernel
  obtain ⟨image, hImage, hNodes⟩ := Option.map_eq_some_iff.1 hUsed
  rcases hAdd : (updateImage .willing "i" (.add newTop)).run (unboundFrom ["m"]) with
    ⟨failure | out, after⟩
  · rw [hAdd] at hDone
    cases hDone
  · obtain ⟨access, edited, layer, volume, pool, resource, hAccess, hEdited, hLayer, hVolume, hPool,
      hFound, hWithin, -⟩ := add_within_access hVacant Supply.strokes_distinct
        (run_unboundFrom ["m"]) hImage hAdd
    rw [hAccess] at hNodes
    obtain rfl : access = ["n"] := Option.some.inj hNodes
    obtain ⟨hBound, hSame⟩ := hWithin (List.cons_ne_nil _ _)
    exact ⟨hVacant, Supply.strokes_distinct, run_unboundFrom ["m"], image, out, after, edited, layer,
      volume, pool, resource, hImage, hAccess, rfl, hEdited, hLayer, hVolume, hPool, hFound, hBound,
      hSame⟩

/-- **An image that could be used from nowhere gets all nodes of the pool** with a layer for which no
node is named. -/
theorem add_beyond_access :
    Run .willing (fun _ _ => True) paired (unboundFrom []) ∧
    ∃ image edited out after, (unboundFrom []).images.get? "i" = some image ∧
      image.accessNodes (unboundFrom []).world.registry = .ok [] ∧
      (updateImage .willing "i" (.add newTop)).run (unboundFrom []) = (.ok out, after) ∧
      after.images.get? "i" = some edited ∧
      edited.accessNodes after.world.registry = .ok ["m", "n"] := by
  have hUsed : ((unboundFrom []).images.get? "i").map (fun image =>
      (image.accessNodes (unboundFrom []).world.registry).toOption) = some (some []) := by
    decide +kernel
  have hDone : ((updateImage .willing "i" (.add newTop)).run
      (unboundFrom [])).1.toOption.isSome = true := by decide +kernel
  have hGrown : (((updateImage .willing "i" (.add newTop)).run
      (unboundFrom [])).2.images.get? "i").map (fun edited => (edited.accessNodes
        ((updateImage .willing "i" (.add newTop)).run
          (unboundFrom [])).2.world.registry).toOption) = some (some ["m", "n"]) := by decide +kernel
  obtain ⟨image, hImage, hNodes⟩ := Option.map_eq_some_iff.1 hUsed
  rcases hAdd : (updateImage .willing "i" (.add newTop)).run (unboundFrom []) with
    ⟨failure | out, after⟩
  · rw [hAdd] at hDone
    cases hDone
  · rw [hAdd] at hGrown
    obtain ⟨edited, hEdited, hGrownNodes⟩ := Option.map_eq_some_iff.1 hGrown
    exact ⟨run_unboundFrom [], image, edited, out, after, hImage, ok_of_toOption hNodes, rfl,
      hEdited, ok_of_toOption hGrownNodes⟩

/-! ## The clone of a resource -/

/-- **The clone of a resource is bound to the nodes that its source is bound to**, in any reachable
state. It is a new resource of the same type in the same pool and holds storage; its source and all
else stays as it is. If its source is bound to no node, it is bound to all nodes of the pool. -/
theorem cloneResource_bound_alike {start : Engine σ} (hVacant : start.Vacant)
    (hDistinct : start.world.supply.Distinct) (hRun : Run agent (fun _ _ => True) start engine)
    {resource : String} {source : Resource}
    (hSource : engine.world.registry.resource? resource = some source) {cloner : Agent σ}
    (hClone : (onWorld (World.cloneResource cloner resource)).run engine = (.ok id, after)) :
    ∃ pool copy, engine.world.registry.poolOf resource = .ok pool ∧
      engine.world.registry.resource? id = none ∧
      after.world.registry.resource? id = some copy ∧
      after.world.registry.owner id = engine.world.registry.owner resource ∧
      copy.document.type = source.document.type ∧ copy.document.allocated = true ∧
      (source.document.bound ≠ [] →
        ∀ node, node ∈ copy.document.bound ↔ node ∈ source.document.bound) ∧
      (source.document.bound = [] →
        ∀ node, node ∈ copy.document.bound ↔ node ∈ pool.document.access) ∧
      after.world.registry.resource? resource = some source ∧
      after.world.registry.without id = engine.world.registry ∧ after.images = engine.images ∧
      engine.world.link.Received after.world.link [.allocate id] := by
  have hSound : engine.world.Sound := (Numbered.of_run hVacant hDistinct hRun).sound
  have hAfter : ((World.cloneResource cloner resource).run engine.world).2.Sound :=
    hSound.moves (World.cloneResource_moves .of_all resource engine.world)
  rw [onWorld, Action.run_within] at hClone
  rcases hDone : (World.cloneResource cloner resource).run engine.world with ⟨result, world⟩
  rw [hDone] at hClone hAfter
  cases hClone
  obtain ⟨suffix, hTwins, hWithout, hNew, hReceived⟩ :=
    World.twins_of_run_cloneResource hSound hSource hDone
  obtain ⟨other, poolId, pool, copy, hOther, hPooled, hPool, hCopy, hTwin⟩ := hTwins
  obtain rfl := Option.some.inj (hSource.symm.trans hOther)
  obtain ⟨-, hType, hCopyPooled, hHeld⟩ := hTwin.document
  -- both lie in the pool that their documents name
  have hOwner := hSound.registry.owners_of_pooled hSource hPooled
  have hCopyOwner := hAfter.registry.owners_of_pooled hCopy hCopyPooled
  have hOthers : world.registry.withoutAll [id] = engine.world.registry := hWithout
  have hStays : world.registry.resource? resource = some source :=
    (Registry.keeps_of_withoutAll hOthers).resources hSource
  refine ⟨pool, copy, Registry.poolOf_eq_ok_iff.2 ⟨poolId, hOwner, hPool⟩, hNew, hCopy, ?_, hType,
    hHeld, fun hBound node => hTwin.mem_bound hBound, fun hUnbound node => ?_, hStays, hWithout, rfl,
    hReceived⟩
  · rw [Registry.owner_eq_ok_iff.2 hOwner]
    exact Registry.owner_eq_ok_iff.2 hCopyOwner
  · rw [hTwin.mem_bound_iff, hUnbound]
    exact Iff.rfl

/-- The volume is bound to one of the nodes that the pool is reached from, and so is its clone. -/
theorem cloneResource_bound_alike_unbound :
    paired.Vacant ∧ paired.world.supply.Distinct ∧
    Run .willing (fun _ _ => True) paired (unboundFrom ["m"]) ∧
    ∃ source id after copy,
      (unboundFrom ["m"]).world.registry.resource? "ii" = some source ∧
      source.document.bound = ["n"] ∧
      (onWorld (World.cloneResource .willing "ii")).run (unboundFrom ["m"]) = (.ok id, after) ∧
      after.world.registry.resource? id = some copy ∧ copy.document.allocated = true ∧
      (∀ node, node ∈ copy.document.bound ↔ node ∈ ["n"]) ∧
      after.world.registry.without id = (unboundFrom ["m"]).world.registry := by
  have hVacant : paired.Vacant := vacant_vacant _ _ _ _
  have hNodes : ((unboundFrom ["m"]).world.registry.resource? "ii").map (·.document.bound) =
      some ["n"] := by decide +kernel
  have hDone : ((onWorld (World.cloneResource .willing "ii")).run
      (unboundFrom ["m"])).1.toOption.isSome = true := by decide +kernel
  obtain ⟨source, hSource, hBound⟩ := Option.map_eq_some_iff.1 hNodes
  rcases hClone : (onWorld (World.cloneResource .willing "ii")).run (unboundFrom ["m"]) with
    ⟨failure | id, after⟩
  · rw [hClone] at hDone
    cases hDone
  · obtain ⟨pool, copy, -, -, hCopy, -, -, hHeld, hAlike, -, -, hOthers, -⟩ :=
      cloneResource_bound_alike hVacant Supply.strokes_distinct (run_unboundFrom ["m"]) hSource
        hClone
    rw [hBound] at hAlike
    exact ⟨hVacant, Supply.strokes_distinct, run_unboundFrom ["m"], source, id, after, copy, hSource,
      hBound, rfl, hCopy, hHeld, hAlike (List.cons_ne_nil _ _), hOthers⟩

/-- **The clone of a volume that is bound nowhere is bound to all nodes of the pool.** -/
theorem cloneResource_bound_unlike :
    Run .willing (fun _ _ => True) paired (unboundFrom []) ∧
    ∃ source id after copy,
      (unboundFrom []).world.registry.resource? "ii" = some source ∧ source.document.bound = [] ∧
      (onWorld (World.cloneResource .willing "ii")).run (unboundFrom []) = (.ok id, after) ∧
      after.world.registry.resource? id = some copy ∧ copy.document.bound = ["m", "n"] := by
  have hNodes : ((unboundFrom []).world.registry.resource? "ii").map (·.document.bound) =
      some [] := by decide +kernel
  have hDone : ((onWorld (World.cloneResource .willing "ii")).run
      (unboundFrom [])).1.toOption.bind (fun id => (((onWorld (World.cloneResource .willing
        "ii")).run (unboundFrom [])).2.world.registry.resource? id).map (·.document.bound)) =
          some ["m", "n"] := by decide +kernel
  obtain ⟨source, hSource, hBound⟩ := Option.map_eq_some_iff.1 hNodes
  rcases hClone : (onWorld (World.cloneResource .willing "ii")).run (unboundFrom []) with
    ⟨failure | id, after⟩
  · rw [hClone] at hDone
    cases hDone
  · rw [hClone] at hDone
    obtain ⟨copy, hCopy, hCopyBound⟩ := Option.map_eq_some_iff.1 hDone
    exact ⟨run_unboundFrom [], source, id, after, copy, hSource, hBound, rfl, hCopy, hCopyBound⟩

end Engine

end DiskFleet
