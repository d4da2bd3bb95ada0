import DiskFleet.Proofs.Engine.Arrival
import DiskFleet.Proofs.Registry.Storage

/-!
# Where tap ports are set up and taken down

The tap device of a port exists on one node: the one that accepted its allocation. The port is
plugged into the bridge of that node, and a release has to be sent there. The engine does not note
the node. It sends every call to the first bound node of the moment, by name, and `bind` and
`unbind` may change which one that is.

What a port tells about its bridge is right all the same: `switch` is written when the storage is
made and is that of the node that made it, whatever becomes of the bindings. A release is addressed
to that node as long as no command changes the first bound node of an allocated port
(`World.KeepsFirst`). Otherwise it goes elsewhere, and the device stays where it is.

## Main results

* `tap_ports_settled`: calls take turns, `switch` is the bridge of the allocating node, and releases
  are sent there as long as the first bound node stays;
* `tap_port_misplaced`: they are not if it changes.
-/

namespace DiskFleet

/-- The calls that made and freed the storage of a resource, in order, each with its node. -/
def storageCalls (id : String) (history : List Exchange) : List (StorageEvent × String) :=
  history.filterMap fun exchange => (exchange.storageEvent? id).map (·, exchange.call.node)

theorem storageCalls_append (id : String) (first second : List Exchange) :
    storageCalls id (first ++ second) = storageCalls id first ++ storageCalls id second :=
  List.filterMap_append

theorem storageCalls_singleton (id : String) (exchange : Exchange) :
    storageCalls id [exchange] =
      ((exchange.storageEvent? id).map (·, exchange.call.node)).toList := by
  cases hEvent : exchange.storageEvent? id <;> simp [storageCalls, hEvent]

section callOf

variable {σ : Type} {agent : Agent σ} {pool : PoolDocument} {resource : Resource} {link : Link σ}
  {id node method : String} {args : Arguments}

/-- A call that was not accepted is no storage call. -/
theorem storageCalls_of_declined
    (h : (link.exchange agent (resource.callOf pool node method args)).accepted = false) :
    storageCalls id [link.exchange agent (resource.callOf pool node method args)] = [] := by
  rw [storageCalls_singleton, Exchange.storageEvent?_of_not_serves]
  · rfl
  · rw [Resource.serves_callOf, h, Bool.false_and]

/-- A call that was accepted is one, of the node that it was sent to, if its method makes or frees
storage. -/
theorem storageCalls_of_taken (hId : resource.document.id = some id)
    (h : (link.exchange agent (resource.callOf pool node method args)).accepted = true) :
    storageCalls id [link.exchange agent (resource.callOf pool node method args)] =
      if method = "allocate" then [(.allocated, node)]
      else if method = "release" then [(.released, node)] else [] := by
  rw [storageCalls_singleton, Resource.storageEvent?_callOf hId h]
  split
  · rfl
  · split <;> rfl

end callOf

/-! ## The port and its calls -/

/-- A tap port and the storage calls that were made for it. -/
structure TapPort (pool : PoolDocument) (id : String) (log : List (StorageEvent × String))
    (port : Resource) : Prop where
  behaviour : port.behaviour = .port
  named : port.document.id = some id
  /-- It is bound to the bridges of its pool. -/
  backed : ∀ {node bridge}, port.document.bindings.get? node = some bridge →
    Resource.portBacking pool node = .ok bridge
  turns : StorageEvent.Alternates (log.map (·.1))
  held : port.document.allocated = true ↔ ∃ node, log.getLast? = some (.allocated, node)
  /-- While it is allocated, it is plugged into the bridge of the node that allocated it. -/
  plugged : ∃ spec, port.document.spec = .port spec ∧
    ∀ node, log.getLast? = some (.allocated, node) →
      ∃ bridge, Resource.portBacking pool node = .ok bridge ∧ spec.switch = some bridge

/-- Releases were sent to the node that accepted the allocation, and the next one would be. -/
structure OnSpot (log : List (StorageEvent × String)) (port : Resource) : Prop where
  undone : ∀ i node, log[i + 1]? = some (.released, node) → log[i]? = some (.allocated, node)
  first : ∀ node, log.getLast? = some (.allocated, node) → port.document.bound.head? = some node

section log

variable {log : List (StorageEvent × String)} {event : StorageEvent} {node : String}

theorem getLast?_map_fst :
    (log.map (·.1)).getLast? = some event ↔ ∃ node, log.getLast? = some (event, node) := by
  rw [List.getLast?_map, Option.map_eq_some_iff]
  constructor
  · rintro ⟨⟨_, node⟩, hLast, rfl⟩
    exact ⟨node, hLast⟩
  · rintro ⟨node, hLast⟩
    exact ⟨_, hLast, rfl⟩

/-- A release on the spot of the allocation before it. -/
theorem undone_append
    (h : ∀ i node, log[i + 1]? = some (.released, node) → log[i]? = some (.allocated, node))
    (hSpot : event = .released → log.getLast? = some (.allocated, node)) (i : Nat) (other : String)
    (hReleased : (log ++ [(event, node)])[i + 1]? = some (.released, other)) :
    (log ++ [(event, node)])[i]? = some (.allocated, other) := by
  have hLess : i + 1 < (log ++ [(event, node)]).length :=
    (List.getElem?_eq_some_iff.1 hReleased).1
  rw [List.length_append, List.length_singleton] at hLess
  have hBefore : i < log.length := by omega
  rw [List.getElem?_append_left hBefore]
  by_cases hOld : i + 1 < log.length
  · rw [List.getElem?_append_left hOld] at hReleased
    exact h i other hReleased
  · have hLast : i + 1 = log.length := by omega
    rw [hLast, List.getElem?_concat_length] at hReleased
    obtain ⟨rfl, rfl⟩ := Prod.mk.inj (Option.some.inj hReleased)
    have hSpot := hSpot rfl
    rwa [List.getLast?_eq_getElem?, ← hLast, Nat.add_sub_cancel] at hSpot

end log

namespace TapPort

variable {σ : Type} {agent : Agent σ} {pool : PoolDocument} {id : String}
  {log : List (StorageEvent × String)} {port : Resource} {link : Link σ}

/-- Other bindings, to bridges of the pool. -/
theorem rebound (h : TapPort pool id log port) {bindings : SortedMap String}
    (hBacked : ∀ {node bridge}, bindings.get? node = some bridge →
      Resource.portBacking pool node = .ok bridge) :
    TapPort pool id log { port with document.bindings := bindings } :=
  { h with backed := hBacked }

/-- Storage that is made on the first bound node. -/
theorem allocated (h : TapPort pool id log port) {node action : String}
    (hFree : port.document.allocated = false) (hNode : port.firstBound action = .ok node)
    (out : Json) :
    TapPort pool id (log ++ [(.allocated, node)]) (port.allocatedAs out) := by
  obtain ⟨rest, hBound⟩ := Resource.bound_of_firstBound hNode
  obtain ⟨spec, hSpec, -⟩ := h.plugged
  obtain ⟨bridge, hBridge, hFirst⟩ := SortedMap.get?_of_keys_eq_cons hBound
  have hNotLast : (log.map (·.1)).getLast? ≠ some .allocated := by
    rw [Ne, getLast?_map_fst, ← h.held, hFree]
    simp
  constructor
  · exact h.behaviour
  · exact h.named
  · exact h.backed
  · rw [List.map_append]
    exact h.turns.append (iff_of_true rfl hNotLast)
  · rw [List.getLast?_concat]
    exact iff_of_true rfl ⟨node, rfl⟩
  · have hAllocated : (port.allocatedAs out).document.spec = .port
        { ifname := Resource.reportedText out "ifname" spec.ifname
          fds := Resource.reportedFds out
          switch := port.document.bindings.values.head? } := by
      simp only [Resource.allocatedAs, Resource.specAllocated, h.behaviour, hSpec,
        ResourceSpec.mapPort]
    refine ⟨_, hAllocated, fun other hOther => ?_⟩
    rw [List.getLast?_concat] at hOther
    obtain ⟨-, rfl⟩ := Prod.mk.inj (Option.some.inj hOther)
    exact ⟨bridge, h.backed hBridge, hFirst⟩

/-- Storage that is freed, wherever. -/
theorem released (h : TapPort pool id log port) (node : String)
    (hHeld : port.document.allocated = true) :
    TapPort pool id (log ++ [(.released, node)]) port.released := by
  obtain ⟨spec, hSpec, -⟩ := h.plugged
  have hLast : (log.map (·.1)).getLast? = some .allocated :=
    getLast?_map_fst.2 (h.held.1 hHeld)
  have hNone : ∀ other, (log ++ [(StorageEvent.released, node)]).getLast? ≠
      some (.allocated, other) := by
    intro other hOther
    rw [List.getLast?_concat] at hOther
    cases hOther
  constructor
  · exact h.behaviour
  · exact h.named
  · exact h.backed
  · rw [List.map_append]
    exact h.turns.append (iff_of_false (by simp) (not_not_intro hLast))
  · refine iff_of_false (by simp [Resource.released]) ?_
    rintro ⟨other, hOther⟩
    exact hNone other hOther
  · have hReleased : port.released.document.spec = .port { spec with fds := [] } := by
      simp only [Resource.released, Resource.specReleased, h.behaviour, hSpec,
        ResourceSpec.mapPort]
    exact ⟨_, hReleased, fun other hOther => absurd hOther (hNone other)⟩

/-- A report leaves the bridge alone. -/
theorem synced (h : TapPort pool id log port) (out : Json) :
    TapPort pool id log (port.syncedAs out) := by
  obtain ⟨spec, hSpec, hSwitch⟩ := h.plugged
  have hSynced : (port.syncedAs out).document.spec = .port
      { spec with
        ifname := Resource.reportedText out "ifname" spec.ifname
        fds := if (out.get? "fds").isSome then Resource.reportedFds out else spec.fds } := by
    simp only [Resource.syncedAs, Resource.specSynced, h.behaviour, hSpec, ResourceSpec.mapPort]
  exact { h with plugged := ⟨_, hSynced, hSwitch⟩ }

/-- A tap port and its link moved on: more calls were made, and the storage calls among them belong
to the port. They stay on the spot if the first bound node of an allocated port does not change. -/
def Leads (pool : PoolDocument) (id : String) (log : List (StorageEvent × String))
    (port : Resource) (link : Link σ) (after : Linked σ Resource) : Prop :=
  ∃ made, after.link.history = link.history ++ made ∧
    TapPort pool id (log ++ storageCalls id made) after.object ∧
    (OnSpot log port → (port.document.allocated = true →
        after.object.document.bound.head? = port.document.bound.head?) →
      OnSpot (log ++ storageCalls id made) after.object)

/-- Calls that neither make nor free storage leave the log as it is. -/
theorem leads_of_quiet (h : TapPort pool id log port) {after : Linked σ Resource}
    {made : List Exchange} (hHistory : after.link.history = link.history ++ made)
    (hNone : storageCalls id made = []) (hAfter : TapPort pool id log after.object) :
    Leads pool id log port link after := by
  refine ⟨made, hHistory, ?_⟩
  rw [hNone, List.append_nil]
  refine ⟨hAfter, fun hSpot hFirst => ⟨hSpot.undone, fun node hLast => ?_⟩⟩
  rw [hFirst (h.held.2 ⟨node, hLast⟩)]
  exact hSpot.first node hLast

/-- An accepted allocation is the first node's, so that it is on the spot. -/
theorem leads_of_allocated (h : TapPort pool id log port) {node action : String}
    {args : Arguments} (hFree : port.document.allocated = false)
    (hNode : port.firstBound action = .ok node)
    (hTaken : (link.exchange agent (port.callOf pool node "allocate" args)).accepted = true)
    (out : Json) :
    Leads pool id log port link
      ⟨port.allocatedAs out, link.calling agent (port.callOf pool node "allocate" args)⟩ := by
  refine ⟨_, Link.history_calling _ _ _, ?_⟩
  rw [storageCalls_of_taken h.named hTaken, if_pos rfl]
  refine ⟨h.allocated hFree hNode out, fun hSpot _ => ⟨undone_append hSpot.undone nofun, ?_⟩⟩
  intro other hLast
  rw [List.getLast?_concat] at hLast
  obtain ⟨-, rfl⟩ := Prod.mk.inj (Option.some.inj hLast)
  obtain ⟨rest, hBound⟩ := Resource.bound_of_firstBound hNode
  show port.document.bound.head? = _
  rw [hBound]
  rfl

/-- An accepted release is the first node's, and that of the allocation if that is still the first
node. -/
theorem leads_of_released (h : TapPort pool id log port) {node action : String}
    {args : Arguments} (hHeld : port.document.allocated = true)
    (hNode : port.firstBound action = .ok node)
    (hTaken : (link.exchange agent (port.callOf pool node "release" args)).accepted = true) :
    Leads pool id log port link
      ⟨port.released, link.calling agent (port.callOf pool node "release" args)⟩ := by
  refine ⟨_, Link.history_calling _ _ _, ?_⟩
  rw [storageCalls_of_taken h.named hTaken, if_neg (by decide), if_pos rfl]
  refine ⟨h.released node hHeld, fun hSpot _ => ⟨undone_append hSpot.undone fun _ => ?_, ?_⟩⟩
  · obtain ⟨origin, hLast⟩ := h.held.1 hHeld
    obtain ⟨rest, hBound⟩ := Resource.bound_of_firstBound hNode
    have hFirst := hSpot.first origin hLast
    rw [hBound] at hFirst
    obtain rfl : node = origin := Option.some.inj hFirst
    exact hLast
  · intro other hLast
    rw [List.getLast?_concat] at hLast
    cases hLast

/-- **What a command leaves of a tap port** and its storage calls. -/
theorem step (h : TapPort pool id log port) {after : Linked σ Resource}
    (hStep : Resource.Step agent pool ⟨port, link⟩ after) :
    Leads pool id log port link after := by
  obtain ⟨spec, hSpec, -⟩ := h.plugged
  cases hStep with
  | stayed => exact h.leads_of_quiet (List.append_nil _).symm rfl h
  | @bound _ after _ nodes hBound =>
      refine h.leads_of_quiet (List.append_nil _).symm rfl ?_
      rw [Resource.eq_of_bound hBound]
      refine h.rebound fun hBinding => ?_
      rcases Resource.backing_of_bound hBound hBinding with hOld | hNew
      · exact h.backed hOld
      · rwa [Resource.backingFor, h.behaviour] at hNew
  | @unbound _ after _ nodes hUnbound =>
      refine h.leads_of_quiet (List.append_nil _).symm rfl ?_
      rw [Resource.eq_of_unbound hUnbound]
      exact h.rebound fun hBinding => h.backed (Resource.backing_of_unbound hUnbound hBinding)
  | sized hVolume => cases hSpec.symm.trans hVolume
  | grown hVolume => cases hSpec.symm.trans hVolume
  | declined _ hDeclined =>
      exact h.leads_of_quiet (Link.history_calling _ _ _) (storageCalls_of_declined hDeclined) h
  | synced _ hTaken =>
      have hNone := storageCalls_of_taken h.named hTaken
      rw [if_neg (by decide), if_neg (by decide)] at hNone
      exact h.leads_of_quiet (Link.history_calling _ _ _) hNone (h.synced _)
  | allocated hFree hNode hTaken => exact h.leads_of_allocated hFree hNode hTaken _
  | released hHeld hNode hTaken => exact h.leads_of_released hHeld hNode hTaken

end TapPort

/-! ## Commands for a tap port -/

/-- The first node that a resource is bound to, if it is registered. -/
def Registry.firstBound? (registry : Registry) (id : String) : Option String :=
  (registry.resource? id).bind (·.document.bound.head?)

namespace World

variable {σ : Type} {agent : Agent σ} {world created : World σ} {poolId id : String}

/-- No command changes the first bound node of a resource while it is allocated. -/
def KeepsFirst (agent : Agent σ) (id : String) (world : World σ) : List ResourceCommand → Prop
  | [] => True
  | command :: rest =>
    (world.registry.allocated? id = some true →
      ((updateResource agent id command).run world).2.registry.firstBound? id =
        world.registry.firstBound? id) ∧
      KeepsFirst agent id ((updateResource agent id command).run world).2 rest

/-- **What a run of commands leaves of a tap port** and its storage calls. -/
theorem tapPort_commanding (agent : Agent σ) {pool : PoolDocument}
    (commands : List ResourceCommand) :
    ∀ {world : World σ} {log : List (StorageEvent × String)} {port : Resource},
      world.Hosts pool id port → TapPort pool id log port →
      ∃ calls after, (world.commanding agent id commands).link.history =
          world.link.history ++ calls ∧
        (world.commanding agent id commands).Hosts pool id after ∧
        TapPort pool id (log ++ storageCalls id calls) after ∧
        (OnSpot log port → world.KeepsFirst agent id commands →
          OnSpot (log ++ storageCalls id calls) after) := by
  induction commands with
  | nil =>
      intro world log port hHosts hPort
      refine ⟨[], port, (List.append_nil _).symm, hHosts, ?_⟩
      rw [show storageCalls id [] = [] from rfl, List.append_nil]
      exact ⟨hPort, fun hSpot _ => hSpot⟩
  | cons command rest ih =>
      intro world log port hHosts hPort
      obtain ⟨between, hStill, hLink, hStep⟩ := hosts_updateResource agent command hHosts
      obtain ⟨made, hMade, hBetween, hSpotted⟩ := hPort.step hStep
      obtain ⟨calls, after, hCalls, hEnd, hAfter, hSpottedAfter⟩ := ih hStill hBetween
      have hLog : log ++ storageCalls id (made ++ calls) =
          log ++ storageCalls id made ++ storageCalls id calls := by
        rw [storageCalls_append, List.append_assoc]
      refine ⟨made ++ calls, after, ?_, hEnd, hLog ▸ hAfter, fun hSpot hKeeps => ?_⟩
      · rw [commanding, List.foldl_cons, ← commanding, hCalls, hLink, hMade, List.append_assoc]
      · rw [hLog]
        refine hSpottedAfter (hSpotted hSpot fun hHeld => ?_) hKeeps.2
        have hFirst := hKeeps.1 (by rw [Registry.allocated?, hHosts.found]; simp [hHeld])
        simpa [Registry.firstBound?, hHosts.found, hStill.found] using hFirst

/-- A tap port arrives without any storage calls. -/
theorem Arrives.tapPort {pool : Pool} {definition : ResourceDocument}
    (h : Arrives .tapPort poolId world created id definition) :
    TapPort pool.document id []
      (ResourceClass.tapPort.build id { definition with pool := some pool.idText }) := by
  obtain ⟨-, hFree, hUnbound⟩ := h.idle
  constructor
  · rfl
  · rfl
  · intro node bridge hBinding
    have hNone : definition.bindings.get? node = some bridge := hBinding
    rw [hUnbound] at hNone
    cases hNone
  · exact StorageEvent.alternates_nil
  · have hNotHeld : ¬definition.allocated = true := by simp [hFree]
    exact iff_of_false hNotHeld (by simp)
  · cases h with
    | defined hDefined =>
        obtain rfl := Except.ok.inj hDefined
        exact ⟨_, rfl, nofun⟩
    | copied _ hBehaviour =>
        exact ⟨.blank, by simp [ResourceClass.build, Resource.copied, hBehaviour,
          ResourceClass.type], nofun⟩

/-- **A tap port is taken down where it was set up**, whatever commands it gets and whatever the
agents answer, as long as the first bound node of the allocated port stays. Without that, the calls
take turns, and while the port is allocated its `switch` is the bridge that the pool has on the node
that accepted the allocation. -/
theorem tap_ports_settled (agent : Agent σ) {pool : Pool} {definition : ResourceDocument}
    (hPool : world.registry.pools.get? poolId = some pool) (hBridge : pool.kind = .linuxBridge)
    (hArrives : Arrives .tapPort poolId world created id definition)
    (commands : List ResourceCommand) :
    ∃ calls port spec,
      (created.commanding agent id commands).link.history = created.link.history ++ calls ∧
      (created.commanding agent id commands).registry.resource? id = some port ∧
      port.document.spec = .port spec ∧
      StorageEvent.Alternates ((storageCalls id calls).map (·.1)) ∧
      (port.document.allocated = true → ∃ node bridge,
        (storageCalls id calls).getLast? = some (.allocated, node) ∧
          Resource.portBacking pool.document node = .ok bridge ∧ spec.switch = some bridge) ∧
      (created.KeepsFirst agent id commands →
        (∀ i node, (storageCalls id calls)[i + 1]? = some (.released, node) →
          (storageCalls id calls)[i]? = some (.allocated, node)) ∧
        (port.document.allocated = true → ∃ node bridge,
          (storageCalls id calls).getLast? = some (.allocated, node) ∧
            port.document.bindings.get? node = some bridge ∧ spec.switch = some bridge)) := by
  have hClass : pool.kind.classFor? ResourceClass.tapPort.type = some .tapPort := by
    rw [hBridge]
    rfl
  obtain ⟨hHosts, -⟩ := hArrives.hosted hPool hClass
  rw [ResourceClass.taken_tapPort] at hHosts
  obtain ⟨calls, after, hCalls, hEnd, hAfter, hSpot⟩ :=
    tapPort_commanding agent commands hHosts hArrives.tapPort
  rw [List.nil_append] at hAfter hSpot
  obtain ⟨spec, hSpec, hSwitch⟩ := hAfter.plugged
  refine ⟨calls, after, spec, hCalls, hEnd.found, hSpec, hAfter.turns, ?_, fun hKeeps => ?_⟩
  · intro hHeld
    obtain ⟨node, hLast⟩ := hAfter.held.1 hHeld
    obtain ⟨bridge, hBacking, hPlugged⟩ := hSwitch node hLast
    exact ⟨node, bridge, hLast, hBacking, hPlugged⟩
  · have hSettled := hSpot ⟨nofun, nofun⟩ hKeeps
    refine ⟨hSettled.undone, fun hHeld => ?_⟩
    obtain ⟨node, hLast⟩ := hAfter.held.1 hHeld
    obtain ⟨bridge, hBacking, hPlugged⟩ := hSwitch node hLast
    -- the node is the first bound one, so that it has a binding, to the bridge of the pool
    have hMem : node ∈ after.document.bound := List.mem_of_mem_head? (hSettled.first node hLast)
    obtain ⟨binding, hBinding⟩ := Option.isSome_iff_exists.1
      ((SortedMap.contains_iff_mem_keys _ _).2 hMem)
    obtain rfl : bridge = binding :=
      Except.ok.inj (hBacking.symm.trans (hAfter.backed hBinding))
    exact ⟨node, bridge, hLast, hBinding, hPlugged⟩

/-! ## A port on two nodes -/

/-- A pool with a bridge on each of two nodes. -/
def bridgePool : PoolDocument :=
  { id := none, name := "net", kind := .linuxBridge, access := []
    spec := { PoolSpec.none with
      bridge := some ⟨.ofList [("a", "br0"), ("b", "br1")], ∅⟩ } }

/-- A world with that pool. -/
def bridged : World Unit :=
  ((createPool bridgePool).run
    (Engine.vacant (Cluster.ofNames ["a", "b"]) ImageSettings.default Supply.strokes ()).world).2

/-- A tap port. -/
def tapDefinition : ResourceDocument :=
  { id := none, name := "tap", type := .port, pool := none, allocated := false, bindings := ∅
    volumeKind := none, raw := false
    spec := .port { switch := none, ifname := none, fds := [] } }

/-- The world once the port is created. -/
def plugged : World Unit :=
  ((createResource { tapDefinition with pool := some "" }).run bridged).2

theorem arrives_tap :
    Arrives .tapPort "" bridged plugged "i" { tapDefinition with pool := some "" } := by
  have hDefined : ResourceClass.tapPort.define "tap" (.ofList []) = .ok tapDefinition := rfl
  exact .defined hDefined rfl

/-- Commands that leave the first node bound. -/
def keepingFirst : List ResourceCommand := [.bind [], .allocate ∅, .unbind ["b"], .release ∅]

/-- Set up on the first node and unbound from the second, the port is taken down on the first. -/
theorem tap_ports_settled_twoNodes :
    plugged.KeepsFirst .willing "i" keepingFirst ∧
      storageCalls "i" (plugged.commanding .willing "i" keepingFirst).link.history =
        [(.allocated, "a"), (.released, "a")] ∧
      ∃ calls, (plugged.commanding .willing "i" keepingFirst).link.history =
          plugged.link.history ++ calls ∧
        ∀ i node, (storageCalls "i" calls)[i + 1]? = some (.released, node) →
          (storageCalls "i" calls)[i]? = some (.allocated, node) := by
  have hKeeps : plugged.KeepsFirst .willing "i" keepingFirst := by
    exact ⟨fun hHeld => absurd hHeld (by decide +kernel), fun _ => by decide +kernel,
      fun _ => by decide +kernel, fun _ => by decide +kernel, trivial⟩
  obtain ⟨pool, hPool, hBridge⟩ : ∃ pool, bridged.registry.pools.get? "" = some pool ∧
      pool.kind = .linuxBridge := ⟨_, rfl, rfl⟩
  obtain ⟨calls, port, spec, hCalls, -, -, -, -, hSettled⟩ :=
    tap_ports_settled .willing hPool hBridge arrives_tap keepingFirst
  exact ⟨hKeeps, by rfl, calls, hCalls, (hSettled hKeeps).1⟩

/-- **A node that is bound while the port is allocated can draw the release to itself**: the tap
device was set up on one node, and the other is told to take it down. -/
theorem tap_port_misplaced :
    storageCalls "i" (plugged.commanding .willing "i"
        [.bind ["b"], .allocate ∅, .bind ["a"], .release ∅]).link.history =
      [(.allocated, "b"), (.released, "a")] := by
  rfl

end World

end DiskFleet
