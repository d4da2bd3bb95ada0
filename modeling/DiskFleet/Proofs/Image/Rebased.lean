import DiskFleet.Proofs.Image.Added
import DiskFleet.Proofs.Image.Twins

/-!
# What a rebase leaves

A rebase that goes through has added a layer, made its storage and had the node tie it to the old
top. Each of these steps says what it did to the document and the registry, and what the agents were
asked for, so that the whole is put together from them. Adding calls nobody, and the storage is made
by two calls, since the new layer is the only one without storage that this `create` is about.

## Main results

* `World.of_run_allocate`, `Session.of_run_create`, `Session.of_run_tie_ok`: the calls, step by step;
* `Session.of_run_rebase`: the document, the registry and the calls after a rebase.
-/

namespace DiskFleet

variable {σ : Type} {agent : Agent σ}

namespace World

/-- **A resource that is allocated** holds storage, and the agents were asked for it once. -/
theorem of_run_allocate {world after : World σ} {id : String} {out : Json} (h : world.Sound)
    (hFree : world.registry.allocated? id = some false)
    (hRun : (updateResource agent id (.allocate ∅)).run world = (.ok out, after)) :
    after.registry.allocated? id = some true ∧
      world.link.Received after.link [.allocate id] := by
  obtain ⟨resource, hFound, hEmpty⟩ := Option.map_eq_some_iff.1 hFree
  obtain ⟨poolId, pool, hOwner, hPool, hStored⟩ := Registry.resource?_eq_some_iff.1 hFound
  obtain ⟨handled, hHandled, rfl⟩ :=
    handled_of_run_updateResource hOwner hPool hStored hRun
  obtain ⟨node, rest, -, rfl⟩ := Resource.of_run_allocate hEmpty hHandled
  have hNamed := (h.registry.housed hPool hStored).named
  constructor
  · rw [Registry.allocated?, resource?_working hOwner hPool, if_pos rfl]
    rfl
  · exact Link.received_calling (Resource.errand?_callOf hNamed _)

end World

namespace Session

variable {session after : Session σ} {name volume : String} {layer : Layer} {out : Json}

/-- **The storage of one layer is made by two calls**: its volume is allocated, and the image is laid
out on it. -/
theorem of_run_create {extra : Arguments} (hSound : session.world.Sound)
    (hLayer : session.image.layers.get? name = some layer) (hVolume : layer.volume = some volume)
    (hFree : session.world.registry.allocated? volume = some false)
    (hRun : (create agent (some name) extra).run session = (.ok out, after)) :
    after.world.registry.allocated? volume = some true ∧
      session.world.link.Received after.world.link [.allocate volume,
        .image "create" (ImageCommand.targetToJson (some name) extra)] := by
  obtain ⟨targets, asked, hAsk, hRun⟩ := Action.run_bind_eq_ok_iff.1 hRun
  obtain rfl : session = asked := congrArg Prod.snd hAsk
  have hTargets : session.image.targets (some name) false = .ok targets := congrArg Prod.fst hAsk
  obtain rfl : targets = [name] := (of_targets_some hTargets).1
  obtain ⟨volumes, ready, hAllocate, hRun⟩ := Action.run_bind_eq_ok_iff.1 hRun
  obtain ⟨resource, hFound, hEmpty⟩ := Option.map_eq_some_iff.1 hFree
  rw [run_allocateLayers_single agent hLayer, Layer.run_allocate_of_found agent hVolume hFound,
    hEmpty, if_neg Bool.false_ne_true] at hAllocate
  rcases hMade : (World.updateResource agent volume (.allocate ∅)).run session.world with
    ⟨failure | spec, allocated⟩
  · rw [hMade] at hAllocate
    cases hAllocate
  rw [hMade] at hAllocate
  cases hAllocate
  obtain ⟨hHeld, hAllocated⟩ := World.of_run_allocate hSound hFree hMade
  obtain ⟨result, next, hCall, hSame⟩ := registry_run_callNode agent "create"
    (ImageCommand.targetToJson (some name) extra) session.image allocated
  rw [Action.run_bind, Action.run_attempt, hCall] at hRun
  cases result with
  | error failure =>
      obtain ⟨_, _, _, hFail⟩ := Action.run_bind_eq_ok_iff.1 hRun
      cases hFail
  | ok answer =>
      cases hRun
      have hLaidOut := received_callNode hCall
      exact ⟨(congrArg (·.allocated? volume) hSame).trans hHeld, hAllocated.append hLaidOut⟩

/-- **A layer is tied by three calls**: two make its storage, and one ties it to its source. -/
theorem of_run_tie_ok {source : String} {extra : Arguments} (hSound : session.world.Sound)
    (hLayer : session.image.layers.get? name = some layer) (hVolume : layer.volume = some volume)
    (hFree : session.world.registry.allocated? volume = some false)
    (hRun : (tie agent source name extra).run session = (.ok out, after)) :
    after.world.registry.allocated? volume = some true ∧
      session.world.link.Received after.world.link [.allocate volume,
        .image "create" (.obj [("target", .str name)]),
        .image "rebase" (rebaseArguments extra source name)] := by
  obtain ⟨_, ready, hCreate, hCall⟩ := Action.run_bind_eq_ok_iff.1 hRun
  obtain ⟨hHeld, hMade⟩ := of_run_create hSound hLayer hVolume hFree hCreate
  have hTied := received_callNode hCall
  have hSame := (callNode_untouched agent "rebase" (rebaseArguments extra source name) ready).registry
  rw [hCall] at hSame
  exact ⟨(congrArg (·.allocated? volume) hSame).trans hHeld, hMade.append hTied⟩

/-- The members that a node is given for a rebase: its source and its target, and whatever else the
command was given. -/
theorem rebaseArguments_eq (extra : Arguments) (source target : String) :
    ∃ forwarded : Arguments, rebaseArguments extra source target = forwarded.toJson ∧
      ∀ key, forwarded.get? key =
        if key = "target" then some (.str target)
        else if key = "source" then some (.str source) else extra.get? key :=
  ⟨_, rfl, fun key => by simp only [SortedMap.get?_insert]⟩

/-- **A rebase that goes through** puts a new layer on top of the chain, on a new volume that holds
storage, and does nothing else. The agents received three calls. -/
theorem of_run_rebase {settings : ImageSettings} {args : RebaseArguments}
    (hFormed : session.image.WellFormed) (hSound : session.world.Sound)
    (hRun : (rebase agent settings args).run session = (.ok out, after)) :
    ∃ made, session.image.layers.contains args.target = false ∧
      made.New args.target session.world.supply.nextId ∧
      after.image = session.image.stacked args.target made ∧
      after.world.registry.without session.world.supply.nextId = session.world.registry ∧
      after.world.registry.allocated? session.world.supply.nextId = some true ∧
      session.world.link.Received after.world.link [.allocate session.world.supply.nextId,
        .image "create" (.obj [("target", .str args.target)]),
        .image "rebase" (rebaseArguments args.extra session.image.name args.target)] := by
  rw [run_rebase agent hFormed] at hRun
  rcases hAdd : (add agent settings args.addition).run session with ⟨failure | added, placed⟩
  · rw [hAdd] at hRun
    cases hRun
  rw [hAdd] at hRun
  obtain ⟨nodes, made, hNew, -, hMade, hPlace⟩ := of_run_add hSound hAdd
  obtain ⟨-, hImage⟩ : args.addition.chained = false ∧
      placed.image = session.image.putLayer args.target made :=
    hPlace.resolve_right fun hChained => Bool.noConfusion hChained.1
  have hLayer : placed.image.layers.get? args.target = some made := by
    rw [hImage]
    simp [Image.putLayer]
  dsimp only at hRun
  rcases hTie : (tie agent session.image.name args.target args.extra).run placed with
    ⟨failure | answer, ⟨image, world⟩⟩
  · -- a rebase that is not tied fails, whether or not its layer is dropped
    rw [hTie] at hRun
    dsimp only at hRun
    split at hRun
    · obtain ⟨_, _, _, hFail⟩ := Action.run_bind_eq_ok_iff.1 hRun
      cases hFail
    · cases hRun
  · obtain ⟨hHeld, hReceived⟩ :=
      of_run_tie_ok hMade.sound hLayer hMade.new.volume hMade.allocated? hTie
    obtain ⟨hSame, -, hWorks⟩ := of_run_tie hMade.sound hLayer hMade.new.volume hTie
    obtain rfl : image = placed.image := hSame
    rw [hTie] at hRun
    simp only [Action.run_bind, run_askImage, Image.layer_eq_ok_iff.2 hLayer, modifyImage,
      Action.run_modify, Action.run_pure] at hRun
    cases hRun
    refine ⟨made, hNew, hMade.new, ?_, hWorks.others.trans hMade.others, hHeld,
      hMade.link ▸ hReceived⟩
    rw [hImage]
    show Image.pushTop (Image.putLayer (Image.putLayer session.image args.target made) _ _) _ = _
    simp only [Image.stacked, Image.pushTop, Image.putLayer, Table.insert_insert]

end Session

end DiskFleet
