import DiskFleet.Proofs.Action.Ensures
import DiskFleet.Proofs.Registry.Refusal
import DiskFleet.Proofs.Registry.Storage

/-!
# Work that is confined to some resources

A command that works on several resources, makes new ones and takes some of them back has to leave
every other resource alone, and must not have a node work on one either. Which resources it may work
on is a predicate on ids, `mine` below. Ids that are yet to be drawn have to belong to it, so that
what the command makes does too (`World.Ready`); then nothing depends on how far the command gets.

## Main results

* `World.Confined`: no other resource has changed, and no call was made on behalf of one;
* `World.updateResource_confined`, `World.createResource_confined`,
  `World.copyResourceAs_confined`, `World.destroyResource_confined`, `World.discard_confined`: the
  operations on the registry are confined, those by an id if that is `mine`.
-/

namespace DiskFleet

namespace World

variable {σ α : Type} {agent : Agent σ} {admits : ResourceDocument → Prop}
  {mayDrop : String → Prop} {mayOpen : PoolDocument → Prop} {mine : String → Prop}
  {world next : World σ} {id : String}

/-- The world is sound, and the ids that are yet to be drawn are `mine`. -/
structure Ready (mine : String → Prop) (world : World σ) : Prop where
  sound : world.Sound
  upcoming : ∀ i, world.supply.ids ≤ i → mine (world.supply.idText i)

/-- Every resource that is not `mine` is as it was, and every call of the resource service that was
made is for one that is. -/
structure Confined (mine : String → Prop) (before after : World σ) : Prop where
  others : ∀ id, ¬mine id → after.registry.resource? id = before.registry.resource? id
  calls : ∃ calls, after.link.history = before.link.history ++ calls ∧
    ∀ exchange ∈ calls, exchange.call.service = Call.resourceService →
      ∃ id, exchange.resourceId? = some id ∧ mine id

instance : IsPreorder (World σ) (Confined mine) where
  refl world := ⟨fun _ _ => rfl, [], (List.append_nil _).symm, nofun⟩
  trans _ _ _ first second := by
    obtain ⟨calls, hCalls, hMine⟩ := first.calls
    obtain ⟨more, hMore, hMineToo⟩ := second.calls
    constructor
    case others => exact fun id hId => (second.others id hId).trans (first.others id hId)
    case calls =>
      refine ⟨calls ++ more, by rw [hMore, hCalls, List.append_assoc], ?_⟩
      intro exchange hExchange hService
      rcases List.mem_append.1 hExchange with hEarlier | hLater
      · exact hMine exchange hEarlier hService
      · exact hMineToo exchange hLater hService

/-- The action works on resources that are `mine` alone, and what it answers is good. -/
abbrev Confines (mine : String → Prop) (action : Action (World σ) α) (good : α → Prop) : Prop :=
  Action.Ensures (Ready mine) (Confined mine) action good

/-! ## Moves -/

/-- A move draws ids from the supply there is. -/
theorem Move.supply (hMove : Move agent admits mayDrop mayOpen world next) :
    world.supply.ids ≤ next.supply.ids ∧ next.supply.idText = world.supply.idText := by
  cases hMove with
  | drawId => exact ⟨Nat.le_succ _, rfl⟩
  | openPool => exact ⟨Nat.le_succ _, rfl⟩
  | enter => exact ⟨Nat.le_succ _, rfl⟩
  | drawSuffix => exact ⟨Nat.le_refl _, rfl⟩
  | closePool => exact ⟨Nat.le_refl _, rfl⟩
  | drop => exact ⟨Nat.le_refl _, rfl⟩
  | work => exact ⟨Nat.le_refl _, rfl⟩
  | callImage => exact ⟨Nat.le_refl _, rfl⟩

theorem Ready.moves (h : world.Ready mine)
    (hMoves : Course agent admits mayDrop mayOpen world next) : next.Ready mine := by
  induction hMoves with
  | refl => exact h
  | tail _ hMove ih =>
      obtain ⟨hIds, hTexts⟩ := hMove.supply
      refine ⟨ih.sound.move hMove, fun i hLater => ?_⟩
      rw [hTexts]
      exact ih.upcoming i (Nat.le_trans hIds hLater)

/-- The next id is `mine`. -/
theorem Ready.nextId (h : world.Ready mine) : mine world.supply.nextId :=
  h.upcoming _ (Nat.le_refl _)

/-- **A step is confined** if it leaves other resources alone and makes no call but one on behalf of
a resource that is `mine`. -/
theorem confines_of_moves {action : Action (World σ) α} {good : α → Prop}
    (hMoves : action.Along (Moves agent (fun _ => True) fun _ => True))
    (hOthers : ∀ world, world.Ready mine → ∀ id, ¬mine id →
      (action.run world).2.registry.resource? id = world.registry.resource? id)
    (hCalls : ∀ world, world.Ready mine → (action.run world).2.link = world.link ∨
      ∃ id call, mine id ∧ (action.run world).2.link = world.link.calling agent call ∧
        (world.link.exchange agent call).resourceId? = some id)
    (hGood : ∀ world, world.Ready mine → ∀ value, (action.run world).1 = .ok value → good value) :
    Confines mine action good := by
  intro world hReady
  refine ⟨hReady.moves (hMoves world), ⟨hOthers world hReady, ?_⟩, hGood world hReady⟩
  rcases hCalls world hReady with hQuiet | ⟨id, call, hId, hCalled, hFor⟩
  · exact ⟨[], by rw [hQuiet, List.append_nil], nofun⟩
  · refine ⟨[world.link.exchange agent call], by rw [hCalled, Link.history_calling], ?_⟩
    intro exchange hExchange _
    rw [List.mem_singleton.1 hExchange]
    exact ⟨id, hFor, hId⟩

/-- So is a step that makes no call, whoever the agents are. -/
theorem confines_of_quiet {action : Action (World σ) α} {good : α → Prop}
    (hMoves : ∀ agent : Agent σ, action.Along (Moves agent (fun _ => True) fun _ => True))
    (hQuiet : action.Along Quiet)
    (hOthers : ∀ world, world.Ready mine → ∀ id, ¬mine id →
      (action.run world).2.registry.resource? id = world.registry.resource? id)
    (hGood : ∀ world, world.Ready mine → ∀ value, (action.run world).1 = .ok value → good value) :
    Confines mine action good :=
  confines_of_moves (hMoves fun memory _ => (.ok (.succeeded .null), memory)) hOthers
    (fun world _ => .inl (hQuiet world)) hGood

/-! ## Operations on the registry -/

theorem ask_confined (f : Registry → Except Failure α) :
    Confines mine (ask f : Action (World σ) α) fun _ => True :=
  Action.ensures_of_unchanged (fun _ => rfl) fun _ _ _ _ => trivial

theorem freshId_confined : Confines mine (freshId : Action (World σ) String) fun _ => True :=
  confines_of_quiet (fun _ => freshId_moves) (fun _ => rfl) (fun _ _ _ _ => rfl)
    fun _ _ _ _ => trivial

theorem freshSuffix_confined (length : Nat) :
    Confines mine (freshSuffix length : Action (World σ) String) fun _ => True :=
  confines_of_quiet (fun _ => freshSuffix_moves length) (fun _ => rfl) (fun _ _ _ _ => rfl)
    fun _ _ _ _ => trivial

/-- **A command for a resource that is `mine`.** -/
theorem updateResource_confined (agent : Agent σ) (hMine : mine id) (command : ResourceCommand) :
    Confines mine (updateResource agent id command) fun _ => True := by
  refine confines_of_moves (updateResource_moves id command) (fun world hReady other hOther => ?_)
    (fun world hReady => ?_) fun _ _ _ _ => trivial
  · rcases updateResource_cases agent id command world with
      ⟨failure, hRun⟩ | ⟨poolId, pool, resource, hOwner, hPool, -, -, hRun⟩
    · rw [hRun]
    · have hNe : other ≠ id := fun hSame => hOther (hSame ▸ hMine)
      rw [hRun]
      exact (resource?_working hOwner hPool _ other).trans (if_neg hNe)
  · rcases updateResource_cases agent id command world with
      ⟨failure, hRun⟩ | ⟨poolId, pool, resource, hOwner, hPool, hStored, -, hRun⟩
    · rw [hRun]
      exact .inl rfl
    · -- the call carries the document of the resource, which has the id of the resource
      have hNamed : resource.document.id = some id :=
        (hReady.sound.registry.housed hPool hStored).named
      have hStep : Resource.Step agent pool.document ⟨resource, world.link⟩
          ((Resource.handle agent pool.document command).run ⟨resource, world.link⟩).2 :=
        Resource.handle_step command
      rw [hRun]
      rcases hStep.link_cases with hQuiet | ⟨node, method, args, -, hCalled⟩
      · exact .inl hQuiet
      · exact .inr ⟨id, _, hMine, hCalled, (Resource.resourceId?_callOf _).trans hNamed⟩

/-- What is made gets an id that is `mine`. -/
theorem createResource_confined (definition : ResourceDocument) :
    Confines mine (createResource definition : Action (World σ) String) mine := by
  refine confines_of_quiet (fun _ => createResource_moves trivial) (createResource_quiet definition)
    (fun world hReady other hOther => ?_) fun world hReady value hValue => ?_
  · rcases createResource_cases definition world with
      ⟨_, hRun⟩ | ⟨_, hRun⟩ | ⟨poolId, pool, filled, -, hPool, hAdd, hRun⟩
    · rw [hRun]
    · rw [hRun]
      rfl
    · obtain ⟨resource, rfl, -⟩ := Pool.of_addResource hAdd
      have hNe : other ≠ world.supply.nextId := fun hSame => hOther (hSame ▸ hReady.nextId)
      rw [hRun]
      exact (resource?_entering hPool resource other).trans (if_neg hNe)
  · rw [eq_nextId_of_run_createResource (Prod.ext hValue rfl)]
    exact hReady.nextId

/-- Making a copy concerns no agent. -/
theorem copyResourceAs_quiet (resource destination suffix : String) :
    (copyResourceAs resource destination suffix : Action (World σ) String).Along Quiet := by
  intro world
  rcases copyResourceAs_cases resource destination suffix world with
    ⟨_, hRun⟩ | ⟨_, hRun⟩ | ⟨_, _, _, _, _, -, -, -, -, -, hRun⟩
  all_goals
    rw [hRun]
    rfl

/-- A copy gets an id that is `mine`. -/
theorem copyResourceAs_confined (resource destination suffix : String) :
    Confines mine (copyResourceAs resource destination suffix : Action (World σ) String) mine := by
  refine confines_of_quiet (fun _ => copyResourceAs_moves .of_all resource destination suffix)
    (copyResourceAs_quiet resource destination suffix) (fun world hReady other hOther => ?_)
    fun world hReady value hValue => ?_
  · rcases copyResourceAs_cases resource destination suffix world with
      ⟨_, hRun⟩ | ⟨_, hRun⟩ | ⟨_, _, _, pool, filled, -, -, -, hPool, hAdd, hRun⟩
    · rw [hRun]
    · rw [hRun]
      rfl
    · obtain ⟨copy, rfl, -⟩ := Pool.of_addResource (Pool.addResource_of_addCopy hAdd)
      have hNe : other ≠ world.supply.nextId := fun hSame => hOther (hSame ▸ hReady.nextId)
      rw [hRun]
      exact (resource?_entering hPool copy other).trans (if_neg hNe)
  · rw [eq_nextId_of_run_copyResourceAs (Prod.ext hValue rfl)]
    exact hReady.nextId

/-- **A resource that is `mine` is destroyed**, or that is refused. -/
theorem destroyResource_confined (hMine : mine id) :
    Confines mine (destroyResource id : Action (World σ) Unit) fun _ => True := by
  refine confines_of_quiet (fun _ => destroyResource_moves trivial) (destroyResource_quiet id)
    (fun world _ other hOther => ?_) fun _ _ _ _ => trivial
  rcases destroyResource_cases id world with
    ⟨_, hRun⟩ | ⟨poolId, pool, left, -, hPool, hDrop, hRun⟩
  · rw [hRun]
  · have hNe : other ≠ id := fun hSame => hOther (hSame ▸ hMine)
    rw [hRun]
    exact (resource?_dropping hPool hDrop other).trans (if_neg hNe)

/-- It is discarded, as far as that goes. -/
theorem discard_confined (agent : Agent σ) (hMine : mine id) :
    Confines mine (discard agent id) fun _ => True := by
  refine .bind (updateResource_confined agent hMine (.release ∅)).attempt fun result _ => ?_
  cases result with
  | error failure => exact Action.ensures_pure trivial
  | ok out =>
      exact .bind (destroyResource_confined hMine).attempt fun _ _ => Action.ensures_pure trivial

end World

end DiskFleet
