import DiskFleet.Proofs.Registry.Change
import Mathlib.Data.List.Basic

/-!
# What the engine says and what the agents did

The only storage that exists is what the agents were asked for and agreed to. `Exchange` reads off
an accepted call what it did for a resource: made its storage, freed it, sent or reported its size.
The resource is known by the document that went along with the call.

`Tracks` compares that record with the resource that is registered under the id, if there is one.
It holds for every id in the beginning, and every move of the world keeps it (`Faithful.move`), so
that no path through the engine can forget storage that an agent still holds, or count on storage
that is gone.

Sizes are followed in the same way. The size of an allocated volume is the last one that was sent or
reported; if none was ever reported, it is the last one that was sent.

## Main results

* `Tracks.step`: a command for a resource keeps its record true;
* `World.Faithful.moves`: so does anything that happens to the world.
-/

namespace DiskFleet

/-- What an accepted call did to the storage of a resource. -/
inductive StorageEvent
  | allocated
  | released
deriving DecidableEq, Repr

namespace StorageEvent

/-- The events take turns, and the first one makes the storage. -/
def Alternates (log : List StorageEvent) : Prop :=
  ∀ i event, log[i]? = some event → (event = allocated ↔ i % 2 = 0)

theorem alternates_nil : Alternates [] := by
  intro i event h
  cases h

/-- The length of a log says which event was the last. -/
theorem Alternates.last_iff {log : List StorageEvent} (h : Alternates log) :
    log.getLast? = some allocated ↔ log.length % 2 = 1 := by
  rw [List.getLast?_eq_getElem?]
  cases hLast : log[log.length - 1]? with
  | none =>
      have hShort : log.length ≤ log.length - 1 := List.getElem?_eq_none_iff.1 hLast
      have hEmpty : log.length = 0 := by omega
      simp [hEmpty]
  | some event =>
      have hLess : log.length - 1 < log.length := (List.getElem?_eq_some_iff.1 hLast).1
      rw [Option.some.injEq, h _ _ hLast]
      omega

/-- A log goes on with the event whose turn it is. -/
theorem Alternates.append {log : List StorageEvent} (h : Alternates log) {event : StorageEvent}
    (hTurn : event = allocated ↔ log.getLast? ≠ some allocated) : Alternates (log ++ [event]) := by
  intro i other hOther
  by_cases hOld : i < log.length
  · rw [List.getElem?_append_left hOld] at hOther
    exact h i other hOther
  · have hLess : i < (log ++ [event]).length := (List.getElem?_eq_some_iff.1 hOther).1
    rw [List.length_append, List.length_singleton] at hLess
    obtain rfl : i = log.length := by omega
    rw [List.getElem?_concat_length] at hOther
    obtain rfl := Option.some.inj hOther
    rw [hTurn, Ne, h.last_iff]
    omega

end StorageEvent

namespace Exchange

/-- The id in the resource document that went along with a call. -/
def resourceId? (exchange : Exchange) : Option String :=
  (((exchange.call.args.member "resource").member "meta").member "uuid").asText?

/-- Whether an accepted call of the resource service was made for the resource with an id. -/
def serves (id : String) (exchange : Exchange) : Bool :=
  exchange.accepted && exchange.call.service == Call.resourceService &&
    exchange.resourceId? == some id

/-- What an exchange did to the storage of a resource. -/
def storageEvent? (id : String) (exchange : Exchange) : Option StorageEvent :=
  if exchange.serves id then
    if exchange.call.method = "allocate" then some .allocated
    else if exchange.call.method = "release" then some .released
    else none
  else none

/-- The size that an exchange sent to the agent for a resource: that of the document on allocation,
that of the arguments on resizing. -/
def sentSize? (id : String) (exchange : Exchange) : Option UInt64 :=
  if exchange.serves id then
    if exchange.call.method = "allocate" then
      (((exchange.call.args.member "resource").member "spec").member "size").asWord64?
    else if exchange.call.method = "resize" then
      ((exchange.call.args.member "arguments").member "size").asWord64?
    else none
  else none

/-- The size that the agent reported for a resource. -/
def reportedSize? (id : String) (exchange : Exchange) : Option UInt64 :=
  if exchange.serves id then
    if exchange.call.method = "sync" then (exchange.out.get? "size").bind Json.asWord64? else none
  else none

/-- The size that an exchange sent or reported. -/
def knownSize? (id : String) (exchange : Exchange) : Option UInt64 :=
  (exchange.sentSize? id).or (exchange.reportedSize? id)

/-- A call that was not accepted, or not made for the resource, did nothing for it. -/
theorem storageEvent?_of_not_serves {id : String} {exchange : Exchange}
    (h : exchange.serves id = false) : exchange.storageEvent? id = none := by
  simp [storageEvent?, h]

theorem knownSize?_of_not_serves {id : String} {exchange : Exchange}
    (h : exchange.serves id = false) : exchange.knownSize? id = none := by
  simp [knownSize?, sentSize?, reportedSize?, h]

end Exchange

/-- What the agents did to the storage of a resource, in order. -/
def storageLog (id : String) (history : List Exchange) : List StorageEvent :=
  history.filterMap (·.storageEvent? id)

/-- The sizes that the agents were sent or reported for a resource, in order. -/
def knownSizes (id : String) (history : List Exchange) : List UInt64 :=
  history.filterMap (·.knownSize? id)

/-- The sizes that the agents were sent for a resource, in order. -/
def sentSizes (id : String) (history : List Exchange) : List UInt64 :=
  history.filterMap (·.sentSize? id)

/-- As long as none is reported, the sizes that are known are those that were sent. -/
theorem knownSizes_eq_sentSizes {id : String} {history : List Exchange}
    (h : ∀ exchange ∈ history, exchange.reportedSize? id = none) :
    knownSizes id history = sentSizes id history := by
  unfold knownSizes sentSizes
  apply List.filterMap_congr
  intro exchange hExchange
  rw [Exchange.knownSize?, h exchange hExchange, Option.or_none]

section append

variable (id : String) (history : List Exchange) (exchange : Exchange)

theorem storageLog_append :
    storageLog id (history ++ [exchange]) =
      storageLog id history ++ (exchange.storageEvent? id).toList := by
  rw [storageLog, List.filterMap_append]
  cases hEvent : exchange.storageEvent? id <;> simp [storageLog, hEvent]

theorem knownSizes_append :
    knownSizes id (history ++ [exchange]) =
      knownSizes id history ++ (exchange.knownSize? id).toList := by
  rw [knownSizes, List.filterMap_append]
  cases hSize : exchange.knownSize? id <;> simp [knownSizes, hSize]

end append

/-! ## Calls on behalf of a resource -/

namespace Resource

variable {σ : Type} {agent : Agent σ} {pool : PoolDocument} {resource : Resource} {link : Link σ}
  {node method : String} {args : Arguments}

/-- A call carries the id of its resource. -/
theorem resourceId?_callOf (outcome : Except Failure Reply) :
    Exchange.resourceId? ⟨resource.callOf pool node method args, outcome⟩ =
      resource.document.id := by
  have hMeta : (resource.document.metaToJson.member "uuid") =
      Json.ofOptionText resource.document.id := by
    unfold ResourceDocument.metaToJson
    cases resource.document.raw <;> simp [Json.member, Json.get?, lookup_cons_eq]
  have hArgs : ((resource.callOf pool node method args).args.member "resource").member "meta" =
      resource.document.metaToJson := by
    simp [callOf, ResourceDocument.toJson, Json.member, Json.get?, lookup_cons_eq]
  rw [Exchange.resourceId?, hArgs, hMeta]
  cases resource.document.id <;> rfl

/-- A call serves its own resource, if it is accepted, and no other. -/
theorem serves_callOf (id : String) :
    (link.exchange agent (resource.callOf pool node method args)).serves id =
      ((link.exchange agent (resource.callOf pool node method args)).accepted &&
        decide (resource.document.id = some id)) := by
  rw [Exchange.serves, Link.exchange, resourceId?_callOf]
  simp only [callOf, beq_self_eq_true, Bool.and_true]
  rw [Bool.eq_iff_iff]
  simp

/-- The document that goes along with a call holds the size of a volume. -/
theorem documentSize_callOf {spec : VolumeSpec} (hSpec : resource.document.spec = .volume spec) :
    (((resource.callOf pool node method args).args.member "resource").member "spec").member
        "size" = Json.ofWord64 spec.size := by
  have hArgs : ((resource.callOf pool node method args).args.member "resource").member "spec" =
      spec.toJson := by
    simp [callOf, ResourceDocument.toJson, Json.member, Json.get?, lookup_cons_eq, hSpec,
      ResourceSpec.toJson]
  rw [hArgs]
  unfold VolumeSpec.toJson
  cases spec.filename <;> simp [Json.member, Json.get?, lookup_cons_eq]

/-- The arguments of a resize hold the new size. -/
theorem argumentSize_callOf (size : UInt64) :
    ((resource.callOf pool node method (sizeArguments size)).args.member "arguments").member
        "size" = Json.ofWord64 size := by
  have hArgs : (resource.callOf pool node method (sizeArguments size)).args.member "arguments" =
      .obj (sizeArguments size).entries := by
    simp [callOf, Json.member, Json.get?, Arguments.toJson]
  have hSize : (sizeArguments size).get? "size" = some (Json.ofWord64 size) := by
    simp [sizeArguments, SortedMap.ofList]
  rw [hArgs]
  show ((sizeArguments size).get? "size").getD .null = _
  rw [hSize]
  rfl

section accepted

variable {id : String}

/-- What an accepted call did to the storage of its resource. -/
theorem storageEvent?_callOf (hId : resource.document.id = some id)
    (hTaken : (link.exchange agent (resource.callOf pool node method args)).accepted = true) :
    (link.exchange agent (resource.callOf pool node method args)).storageEvent? id =
      if method = "allocate" then some .allocated
      else if method = "release" then some .released else none := by
  simp only [Exchange.storageEvent?, serves_callOf, hTaken, hId, decide_true, Bool.and_self,
    if_true]
  rfl

/-- An accepted allocation sent the size of the document. -/
theorem knownSize?_allocate {spec : VolumeSpec} (hId : resource.document.id = some id)
    (hSpec : resource.document.spec = .volume spec)
    (hTaken : (link.exchange agent (resource.callOf pool node "allocate" args)).accepted = true) :
    (link.exchange agent (resource.callOf pool node "allocate" args)).knownSize? id =
      some spec.size := by
  have hSent : (link.exchange agent (resource.callOf pool node "allocate" args)).sentSize? id =
      ((((resource.callOf pool node "allocate" args).args.member "resource").member
        "spec").member "size").asWord64? := by
    simp only [Exchange.sentSize?, serves_callOf, hTaken, hId, decide_true, Bool.and_self, if_true]
    rfl
  rw [Exchange.knownSize?, hSent, documentSize_callOf hSpec, Json.asWord64?_ofWord64,
    Option.some_or]

/-- An accepted resize sent the new size. -/
theorem knownSize?_resize {size : UInt64} (hId : resource.document.id = some id)
    (hTaken : (link.exchange agent
      (resource.callOf pool node "resize" (sizeArguments size))).accepted = true) :
    (link.exchange agent (resource.callOf pool node "resize" (sizeArguments size))).knownSize? id =
      some size := by
  have hSent : (link.exchange agent
      (resource.callOf pool node "resize" (sizeArguments size))).sentSize? id =
        (((resource.callOf pool node "resize" (sizeArguments size)).args.member
          "arguments").member "size").asWord64? := by
    simp only [Exchange.sentSize?, serves_callOf, hTaken, hId, decide_true, Bool.and_self, if_true]
    rfl
  rw [Exchange.knownSize?, hSent, argumentSize_callOf, Json.asWord64?_ofWord64, Option.some_or]

/-- An accepted sync sent nothing, and may have reported a size. -/
theorem knownSize?_sync (hId : resource.document.id = some id)
    (hTaken : (link.exchange agent (resource.callOf pool node "sync" args)).accepted = true) :
    (link.exchange agent (resource.callOf pool node "sync" args)).knownSize? id =
      ((link.exchange agent (resource.callOf pool node "sync" args)).out.get? "size").bind
        Json.asWord64? := by
  simp only [Exchange.knownSize?, Exchange.sentSize?, Exchange.reportedSize?, serves_callOf, hTaken,
    hId, decide_true, Bool.and_self, if_true]
  rfl

end accepted

end Resource

/-! ## Records that are true -/

/-- The record of an id tells the truth about the resource that is registered under it: storage is
made and freed in turns, the last time it was made exactly if the resource is registered as
allocated, and then the size of a volume is the last one that is known. -/
structure Tracks (id : String) (found : Option Resource) (history : List Exchange) : Prop where
  alternates : StorageEvent.Alternates (storageLog id history)
  held : (storageLog id history).getLast? = some .allocated ↔
    ∃ resource, found = some resource ∧ resource.document.allocated = true
  sized : ∀ {resource spec}, found = some resource → resource.behaviour = .volume →
    resource.document.spec = .volume spec → resource.document.allocated = true →
    (knownSizes id history).getLast? = some spec.size

namespace Tracks

variable {σ : Type} {agent : Agent σ} {id : String} {found : Option Resource}
  {history : List Exchange} {exchange : Exchange}

/-- An exchange that does nothing for the resource. -/
theorem append_idle (h : Tracks id found history) (hEvent : exchange.storageEvent? id = none)
    (hSize : exchange.knownSize? id = none) : Tracks id found (history ++ [exchange]) := by
  constructor
  · rw [storageLog_append, hEvent, Option.toList_none, List.append_nil]
    exact h.alternates
  · rw [storageLog_append, hEvent, Option.toList_none, List.append_nil]
    exact h.held
  · intro resource spec hFound hVolume hSpec hAllocated
    rw [knownSizes_append, hSize, Option.toList_none, List.append_nil]
    exact h.sized hFound hVolume hSpec hAllocated

/-- An exchange that is not for the resource. -/
theorem append_other (h : Tracks id found history) (hOther : exchange.serves id = false) :
    Tracks id found (history ++ [exchange]) :=
  h.append_idle (Exchange.storageEvent?_of_not_serves hOther)
    (Exchange.knownSize?_of_not_serves hOther)

/-- An id under which nothing allocated is registered. -/
theorem of_not_held (h : Tracks id found history) {next : Option Resource}
    (hBefore : ∀ resource, found = some resource → resource.document.allocated = false)
    (hAfter : ∀ resource, next = some resource → resource.document.allocated = false) :
    Tracks id next history := by
  have hFree : ¬∃ resource, found = some resource ∧ resource.document.allocated = true := by
    rintro ⟨resource, hFound, hAllocated⟩
    rw [hBefore resource hFound] at hAllocated
    cases hAllocated
  have hFree' : ¬∃ resource, next = some resource ∧ resource.document.allocated = true := by
    rintro ⟨resource, hNext, hAllocated⟩
    rw [hAfter resource hNext] at hAllocated
    cases hAllocated
  constructor
  · exact h.alternates
  · rw [h.held]
    exact iff_of_false hFree hFree'
  · intro resource spec hNext hVolume hSpec hAllocated
    exact absurd ⟨resource, hNext, hAllocated⟩ hFree'

/-- A change of the document that leaves storage and size alone. -/
theorem of_same {before after : Resource} (h : Tracks id (some before) history)
    (hAllocated : after.document.allocated = before.document.allocated)
    (hBehaviour : after.behaviour = before.behaviour)
    (hSize : before.document.allocated = true → ∀ spec, after.document.spec = .volume spec →
      ∃ earlier, before.document.spec = .volume earlier ∧ earlier.size = spec.size) :
    Tracks id (some after) history := by
  constructor
  · exact h.alternates
  · rw [h.held]
    simp [hAllocated]
  · intro resource spec hFound hVolume hSpec hHeld
    obtain rfl := Option.some.inj hFound
    rw [hAllocated] at hHeld
    rw [hBehaviour] at hVolume
    obtain ⟨earlier, hEarlier, hSame⟩ := hSize hHeld spec hSpec
    rw [← hSame]
    exact h.sized rfl hVolume hEarlier hHeld

/-- The size of a volume specification after it was changed otherwise. -/
theorem exists_size_of_mapVolume {spec : ResourceSpec} {f : VolumeSpec → VolumeSpec}
    {after : VolumeSpec} (h : spec.mapVolume f = .volume after)
    (hSize : ∀ volume, (f volume).size = volume.size) :
    ∃ before, spec = .volume before ∧ before.size = after.size := by
  cases spec with
  | port port => cases h
  | volume before =>
      obtain rfl := ResourceSpec.volume.inj h
      exact ⟨before, rfl, (hSize before).symm⟩

variable {pool : PoolDocument} {resource : Resource} {link : Link σ} {node : String}
  {args : Arguments}

/-- Storage that is made. -/
theorem allocated (h : Tracks id (some resource) link.history)
    (hId : resource.document.id = some id) (hFree : resource.document.allocated = false)
    (hTaken : (link.exchange agent (resource.callOf pool node "allocate" args)).accepted = true) :
    Tracks id (some (resource.allocatedAs
        (link.exchange agent (resource.callOf pool node "allocate" args)).out))
      (link.calling agent (resource.callOf pool node "allocate" args)).history := by
  have hEvent := Resource.storageEvent?_callOf hId hTaken
  rw [if_pos rfl] at hEvent
  have hLast : (storageLog id link.history).getLast? ≠ some .allocated := by
    rw [Ne, h.held]
    rintro ⟨other, hOther, hHeld⟩
    obtain rfl := Option.some.inj hOther
    rw [hFree] at hHeld
    cases hHeld
  rw [Link.history_calling]
  constructor
  · rw [storageLog_append, hEvent]
    exact h.alternates.append (iff_of_true rfl hLast)
  · rw [storageLog_append, hEvent, Option.toList_some, List.getLast?_concat]
    exact iff_of_true rfl ⟨_, rfl, rfl⟩
  · intro other spec hOther hVolume hSpec hHeld
    obtain rfl := Option.some.inj hOther
    have hBehaviour : resource.behaviour = .volume := hVolume
    have hAllocated : resource.specAllocated
        (link.exchange agent (resource.callOf pool node "allocate" args)).out = .volume spec :=
      hSpec
    simp only [Resource.specAllocated, hBehaviour] at hAllocated
    obtain ⟨before, hBefore, hSame⟩ := exists_size_of_mapVolume hAllocated fun _ => rfl
    rw [knownSizes_append, Resource.knownSize?_allocate hId hBefore hTaken, Option.toList_some,
      List.getLast?_concat, hSame]

/-- Storage that is freed. -/
theorem released (h : Tracks id (some resource) link.history)
    (hId : resource.document.id = some id) (hHeld : resource.document.allocated = true)
    (hTaken : (link.exchange agent (resource.callOf pool node "release" args)).accepted = true) :
    Tracks id (some resource.released)
      (link.calling agent (resource.callOf pool node "release" args)).history := by
  have hEvent : (link.exchange agent (resource.callOf pool node "release" args)).storageEvent? id =
      some .released := by
    rw [Resource.storageEvent?_callOf hId hTaken]
    rfl
  have hLast : (storageLog id link.history).getLast? = some .allocated :=
    h.held.2 ⟨resource, rfl, hHeld⟩
  rw [Link.history_calling]
  constructor
  · rw [storageLog_append, hEvent]
    exact h.alternates.append (iff_of_false (by simp) (not_not_intro hLast))
  · rw [storageLog_append, hEvent, Option.toList_some, List.getLast?_concat]
    refine iff_of_false (by simp) ?_
    rintro ⟨other, hOther, hAllocated⟩
    obtain rfl := Option.some.inj hOther
    cases hAllocated
  · intro other spec hOther hVolume hSpec hAllocated
    obtain rfl := Option.some.inj hOther
    cases hAllocated

/-- A state that is reported. -/
theorem synced (h : Tracks id (some resource) link.history)
    (hId : resource.document.id = some id)
    (hTaken : (link.exchange agent (resource.callOf pool node "sync" args)).accepted = true) :
    Tracks id (some (resource.syncedAs
        (link.exchange agent (resource.callOf pool node "sync" args)).out))
      (link.calling agent (resource.callOf pool node "sync" args)).history := by
  have hEvent : (link.exchange agent (resource.callOf pool node "sync" args)).storageEvent? id =
      none := by
    rw [Resource.storageEvent?_callOf hId hTaken]
    rfl
  rw [Link.history_calling]
  constructor
  · rw [storageLog_append, hEvent, Option.toList_none, List.append_nil]
    exact h.alternates
  · rw [storageLog_append, hEvent, Option.toList_none, List.append_nil, h.held]
    simp [Resource.syncedAs]
  · intro other spec hOther hVolume hSpec hHeld
    obtain rfl := Option.some.inj hOther
    have hBehaviour : resource.behaviour = .volume := hVolume
    have hSynced : resource.specSynced
        (link.exchange agent (resource.callOf pool node "sync" args)).out = .volume spec := hSpec
    simp only [Resource.specSynced, hBehaviour] at hSynced
    rw [knownSizes_append, Resource.knownSize?_sync hId hTaken]
    cases hBefore : resource.document.spec with
    | port port =>
        rw [hBefore] at hSynced
        cases hSynced
    | volume before =>
        rw [hBefore] at hSynced
        obtain rfl := ResourceSpec.volume.inj hSynced
        cases hReported : ((link.exchange agent
            (resource.callOf pool node "sync" args)).out.get? "size").bind Json.asWord64? with
        | none =>
            have hKept := h.sized rfl hBehaviour hBefore hHeld
            rw [Option.toList_none, List.append_nil]
            exact hKept
        | some size =>
            rw [Option.toList_some, List.getLast?_concat]
            rfl

/-- Storage that is grown. -/
theorem grown (h : Tracks id (some resource) link.history) {before : VolumeSpec} {size : UInt64}
    (hId : resource.document.id = some id) (hBefore : resource.document.spec = .volume before)
    (hTaken : (link.exchange agent
      (resource.callOf pool node "resize" (Resource.sizeArguments size))).accepted = true) :
    Tracks id (some (resource.sized size))
      (link.calling agent
        (resource.callOf pool node "resize" (Resource.sizeArguments size))).history := by
  have hEvent : (link.exchange agent (resource.callOf pool node "resize"
      (Resource.sizeArguments size))).storageEvent? id = none := by
    rw [Resource.storageEvent?_callOf hId hTaken]
    rfl
  rw [Link.history_calling]
  constructor
  · rw [storageLog_append, hEvent, Option.toList_none, List.append_nil]
    exact h.alternates
  · rw [storageLog_append, hEvent, Option.toList_none, List.append_nil, h.held]
    simp [Resource.sized]
  · intro other spec hOther hVolume hSpec hHeld
    obtain rfl := Option.some.inj hOther
    have hSized : resource.document.spec.mapVolume (fun spec => { spec with size }) =
        .volume spec := hSpec
    rw [hBefore] at hSized
    obtain rfl := ResourceSpec.volume.inj hSized
    rw [knownSizes_append, Resource.knownSize?_resize hId hTaken, Option.toList_some,
      List.getLast?_concat]

/-- **A command for a resource keeps its record true.** -/
theorem step {after : Linked σ Resource} (h : Tracks id (some resource) link.history)
    (hId : resource.document.id = some id)
    (hStep : Resource.Step agent pool ⟨resource, link⟩ after) :
    Tracks id (some after.object) after.link.history := by
  cases hStep with
  | stayed => exact h
  | bound hBound =>
      obtain ⟨bindings, -, hAfter⟩ := Action.bind_eq_ok_iff.1 hBound
      obtain rfl := Except.ok.inj hAfter
      exact h.of_same rfl rfl fun _ spec hSpec => ⟨spec, hSpec, rfl⟩
  | unbound hUnbound =>
      unfold Resource.unbound at hUnbound
      dsimp only at hUnbound
      split at hUnbound
      · cases hUnbound
      · obtain rfl := Except.ok.inj hUnbound
        exact h.of_same rfl rfl fun _ spec hSpec => ⟨spec, hSpec, rfl⟩
  | @sized _ _ before size hBefore hQuiet =>
      refine h.of_same rfl rfl fun hHeld spec hSpec => ⟨before, hBefore, ?_⟩
      -- an allocated volume keeps its size without a call
      have hSame : size = before.size := by
        rcases hQuiet with hFree | hSame
        · rw [hFree] at hHeld
          cases hHeld
        · exact hSame
      have hSized : resource.document.spec.mapVolume (fun spec => { spec with size }) =
          .volume spec := hSpec
      rw [hBefore] at hSized
      obtain rfl := ResourceSpec.volume.inj hSized
      exact hSame.symm
  | declined hNode hDeclined =>
      rw [Link.history_calling]
      refine h.append_other ?_
      rw [Resource.serves_callOf, hDeclined, Bool.false_and]
  | allocated hFree hNode hTaken => exact h.allocated hId hFree hTaken
  | released hHeld hNode hTaken => exact h.released hId hHeld hTaken
  | synced hNode hTaken => exact h.synced hId hTaken
  | grown hBefore hGrows hHeld hNode hTaken => exact h.grown hId hBefore hTaken

end Tracks

namespace World

variable {σ : Type} {agent : Agent σ} {admits : ResourceDocument → Prop}
  {mayDrop : String → Prop} {mayOpen : PoolDocument → Prop} {world next : World σ}

/-- The record of every id is true. -/
def Faithful (world : World σ) : Prop :=
  ∀ id, Tracks id (world.registry.resource? id) world.link.history

/-- Nothing is registered and no agent was called. -/
theorem Faithful.of_vacant (hResources : ∀ id, world.registry.resource? id = none)
    (hHistory : world.link.history = []) : world.Faithful := by
  intro id
  rw [hHistory, hResources id]
  refine ⟨StorageEvent.alternates_nil, iff_of_false (by simp [storageLog]) ?_, ?_⟩
  · rintro ⟨resource, hFound, -⟩
    cases hFound
  · intro resource spec hFound
    cases hFound

/-- **Every move keeps the records true**, if only definitions without storage are entered. -/
theorem Faithful.move (h : world.Faithful) (hSound : world.Sound)
    (hAdmits : ∀ definition, admits definition → definition.allocated = false)
    (hMove : Move agent admits mayDrop mayOpen world next) : next.Faithful := by
  intro id
  cases hMove.change hSound with
  | quiet hSame hLink =>
      rw [hSame, hLink]
      exact h id
  | called hService hSame hLink =>
      rw [hSame, hLink, Link.history_calling]
      refine (h id).append_other ?_
      have hNot : (Call.imageService == Call.resourceService) = false := by decide
      simp [Exchange.serves, Link.exchange, hService, hNot]
  | entered hDefinition hId hType hAllocated hBindings hNew hSame hLink =>
      rw [hSame, hLink]
      split
      · next heq =>
        subst heq
        refine (h _).of_not_held ?_ ?_
        · intro resource hFound
          rw [hNew] at hFound
          cases hFound
        · intro resource hFound
          obtain rfl := Option.some.inj hFound
          rw [hAllocated]
          exact hAdmits _ hDefinition
      · exact h id
  | dropped hMayDrop hDropped hFree hSame hLink =>
      rw [hSame, hLink]
      split
      · next heq =>
        subst heq
        refine (h _).of_not_held ?_ ?_
        · intro resource hFound
          obtain rfl := Option.some.inj (hDropped.symm.trans hFound)
          exact hFree
        · intro resource hFound
          cases hFound
      · exact h id
  | @worked worked document resource after hBefore hId hStep hSame hLink =>
      rw [hSame, hLink]
      split
      · next heq =>
        subst heq
        have hTracks := h id
        rw [hBefore] at hTracks
        exact hTracks.step hId hStep
      · next hNe =>
        rcases hStep.link_cases with hQuiet | ⟨node, method, args, -, hCalled⟩
        · rw [hQuiet]
          exact h id
        · rw [hCalled, Link.history_calling]
          refine (h id).append_other ?_
          have hOther : resource.document.id ≠ some id := by
            rw [hId]
            intro hEq
            exact hNe (Option.some.inj hEq).symm
          rw [Resource.serves_callOf, decide_eq_false hOther, Bool.and_false]

/-- **So do any number of moves.** -/
theorem Faithful.moves (h : world.Faithful) (hSound : world.Sound)
    (hAdmits : ∀ definition, admits definition → definition.allocated = false)
    (hMoves : Course agent admits mayDrop mayOpen world next) : next.Faithful := by
  induction hMoves with
  | refl => exact h
  | tail hBefore hMove ih => exact ih.move (hSound.moves hBefore) hAdmits hMove

end World

end DiskFleet
