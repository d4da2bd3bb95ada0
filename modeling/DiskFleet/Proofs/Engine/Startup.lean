import DiskFleet.Proofs.Cluster.Names
import DiskFleet.Proofs.Engine.Run
import DiskFleet.Proofs.Text.Words

/-!
# Settings that pass the check

`Config.check` is meant to find out whatever is wrong with settings, so that an engine with checked
settings fails to start only if the parameters of a pool do not fit its kind, which nobody but the
kind can know. The one thing that both look at are the access lists of the pools. The check takes
every entry by itself: it is the name of a node or `*`. The definition of a pool writes the list as
one text, reads its words, and resolves them all as tags unless each of them is `*`.

The two agree on lists of names without blanks and on lists of nothing but `*`
(`PoolDeclaration.PlainAccess`), and `startup_of_check` says what that means for the start. Where
`*` stands among names the check is content, but the definition looks for a node with the tag `*`
(`startup_refuses_checked_access`).

## Main results

* `Engine.startup_of_check`: how an engine with checked settings starts;
* `Registry.defineDeclared_of_mixed`: lists that name nodes and `*` side by side.
-/

namespace DiskFleet

/-! ## Access lists -/

namespace PoolDeclaration

/-- The access list is `*` alone, possibly repeated, or consists of names without blanks. -/
def PlainAccess (pool : PoolDeclaration) : Prop :=
  (∀ entry ∈ pool.access, entry = everyNode) ∨
    ∀ entry ∈ pool.access, entry ≠ everyNode ∧ Text.Unbroken entry

/-- The pool's own parameters are what its kind asks for. -/
def Specified (pool : PoolDeclaration) : Prop := ∃ spec, pool.kind.defineSpec pool.params = .ok spec

theorem objects_definitionParams (pool : PoolDeclaration) :
    pool.definitionParams.objects "access_nodes" = Text.words (" ".intercalate pool.access) := by
  simp [Params.objects, definitionParams, Params.get?, Params.set]

/-- Entries without blanks are read back. -/
theorem objects_of_unbroken {pool : PoolDeclaration}
    (h : ∀ entry ∈ pool.access, Text.Unbroken entry) :
    pool.definitionParams.objects "access_nodes" = pool.access.filter (· ≠ "") := by
  rw [objects_definitionParams, Text.words_intercalate h]

end PoolDeclaration

namespace PoolKind

/-- The section of a kind does not depend on the access list. -/
theorem defineSpec_set_access (kind : PoolKind) (params : Params) (nodes : String) :
    kind.defineSpec (params.set "access_nodes" nodes) = kind.defineSpec params := by
  have hGet : ∀ {key : String}, key ≠ "access_nodes" →
      (params.set "access_nodes" nodes).get? key = params.get? key := by
    intro key hNe
    simp [Params.get?, Params.set, hNe]
  cases kind <;> simp [defineSpec, Params.getD, Params.objects, hGet]

theorem invalid_of_nodeInterfaces {failure : Failure} :
    ∀ {pairs : List String} {map : SortedMap String}, nodeInterfaces map pairs = .error failure →
      ∃ cause, failure = .invalidRequest cause
  | [], _, h => by cases h
  | pair :: rest, map, h => by
      unfold nodeInterfaces at h
      split at h
      · exact invalid_of_nodeInterfaces h
      · exact ⟨_, (Except.error.inj h).symm⟩

/-- Whatever a kind refuses, it calls an invalid request. -/
theorem invalid_of_defineSpec {kind : PoolKind} {params : Params} {failure : Failure}
    (h : kind.defineSpec params = .error failure) : ∃ cause, failure = .invalidRequest cause := by
  cases kind with
  | filesystem => cases h
  | lvm =>
      simp only [defineSpec] at h
      split at h
      · cases h
      · exact ⟨_, (Except.error.inj h).symm⟩
  | rbd =>
      simp only [defineSpec] at h
      split at h
      · cases h
      · exact ⟨_, (Except.error.inj h).symm⟩
  | linuxBridge =>
      simp only [defineSpec] at h
      cases hBridges : nodeInterfaces ∅ (params.objects "switch") with
      | error refusal =>
          rw [hBridges] at h
          obtain rfl := Except.error.inj h
          exact invalid_of_nodeInterfaces hBridges
      | ok bridges =>
          rw [hBridges] at h
          simp only [bind, Except.bind] at h
          split at h
          · exact ⟨_, (Except.error.inj h).symm⟩
          · cases hUplinks : nodeInterfaces ∅ (params.objects "export") with
            | error refusal =>
                rw [hUplinks] at h
                obtain rfl := Except.error.inj h
                exact invalid_of_nodeInterfaces hUplinks
            | ok uplinks =>
                rw [hUplinks] at h
                cases h

end PoolKind

/-! ## Definitions of declared pools -/

namespace Registry

variable {registry : Registry} {pool : PoolDeclaration}

/-- The access list of a declared pool as it is read, before tags are resolved. -/
def accessOf (pool : PoolDeclaration) : List String :=
  let nodes := pool.definitionParams.objects "access_nodes"
  if nodes.isEmpty then [everyNode] else nodes

/-- The document of a declared pool. -/
def defineDeclared (registry : Registry) (pool : PoolDeclaration) : Except Failure PoolDocument :=
  registry.definePool pool.name pool.kind pool.definitionParams

/-- Parameters that the kind refuses are refused before anything else. -/
theorem defineDeclared_of_unspecified {failure : Failure}
    (h : pool.kind.defineSpec pool.params = .error failure) :
    registry.defineDeclared pool = .error failure := by
  have hDefine : pool.kind.define pool.name pool.definitionParams = .error failure := by
    simp only [PoolKind.define, PoolDeclaration.definitionParams, PoolKind.defineSpec_set_access, h]
    rfl
  simp only [defineDeclared, definePool, hDefine]
  rfl

/-- With parameters that the kind takes, the access list decides. -/
theorem defineDeclared_of_specified (h : pool.Specified) :
    ∃ document : PoolDocument, document.access = accessOf pool ∧
      registry.defineDeclared pool =
        if document.isOpen then .ok document
        else (registry.cluster.resolveAll (accessOf pool)).map fun access =>
          { document with access } := by
  obtain ⟨spec, hSpec⟩ := h
  let document : PoolDocument :=
    { id := none, name := pool.name, kind := pool.kind, access := accessOf pool, spec }
  have hDefine : pool.kind.define pool.name pool.definitionParams = .ok document := by
    have hSame : pool.kind.defineSpec pool.definitionParams = .ok spec := by
      rw [PoolDeclaration.definitionParams, PoolKind.defineSpec_set_access, hSpec]
    simp only [PoolKind.define, hSame]
    rfl
  refine ⟨document, rfl, ?_⟩
  simp only [defineDeclared, definePool, hDefine, bind, Except.bind]
  cases document.isOpen with
  | true => rfl
  | false =>
      have hAccess : document.access = accessOf pool := rfl
      rw [hAccess, if_neg Bool.false_ne_true, if_neg Bool.false_ne_true]
      cases registry.cluster.resolveAll (accessOf pool) <;> rfl

/-- A plain access list of declared names is defined. -/
theorem exists_defineDeclared_of_plain {nodes : List NodeDeclaration} {partition : List String}
    (hCluster : registry.cluster = .ofDeclarations nodes partition)
    (hSpecified : pool.Specified) (hPlain : pool.PlainAccess)
    (hDeclared : ∀ entry ∈ pool.access, entry = everyNode ∨ entry ∈ nodes.map (·.name)) :
    ∃ document, registry.defineDeclared pool = .ok document := by
  obtain ⟨document, hAccess, hDefined⟩ := defineDeclared_of_specified hSpecified
  by_cases hOpen : document.isOpen = true
  · exact ⟨document, by rw [hDefined, if_pos hOpen]⟩
  · have hUnbroken : ∀ entry ∈ pool.access, Text.Unbroken entry := by
      rcases hPlain with hEvery | hNames
      · intro entry hEntry
        rw [hEvery entry hEntry]
        decide
      · exact fun entry hEntry => (hNames entry hEntry).2
    have hRead := PoolDeclaration.objects_of_unbroken hUnbroken
    have hMem : ∀ {entry}, entry ∈ accessOf pool → entry ∈ pool.access := by
      intro entry hEntry
      unfold accessOf at hEntry hAccess
      rw [hRead] at hEntry hAccess
      by_cases hEmpty : (pool.access.filter (· ≠ "")).isEmpty = true
      · rw [if_pos hEmpty] at hAccess
        exact absurd (by rw [PoolDocument.isOpen, hAccess]; rfl) hOpen
      · rw [if_neg hEmpty] at hEntry
        exact (List.mem_filter.1 hEntry).1
    -- not all words are `*`, so the list is not one of `*` alone
    have hNames : ∀ entry ∈ pool.access, entry ≠ everyNode := by
      rcases hPlain with hEvery | hNames
      · refine absurd (List.all_eq_true.2 fun entry hEntry => ?_) hOpen
        exact beq_iff_eq.2 (hEvery entry (hMem (hAccess ▸ hEntry)))
      · exact fun entry hEntry => (hNames entry hEntry).1
    have hResolved : ∀ tag ∈ accessOf pool, ∃ node, registry.cluster.resolve tag = .ok node := by
      intro tag hTag
      have hListed := hMem hTag
      obtain ⟨node, hNode, rfl⟩ :=
        List.mem_map.1 ((hDeclared tag hListed).resolve_left (hNames tag hListed))
      rw [hCluster]
      exact Cluster.exists_resolve_of_mem hNode
    obtain ⟨access, hNodes⟩ := Cluster.exists_resolveAll hResolved
    exact ⟨{ document with access }, by rw [hDefined, if_neg hOpen, hNodes]; rfl⟩

/-- A pool whose parameters the kind takes is refused for a tag at most. -/
theorem unresolved_of_defineDeclared (hSpecified : pool.Specified) {failure : Failure}
    (h : registry.defineDeclared pool = .error failure) :
    ∃ tag ∈ accessOf pool, registry.cluster.resolve tag = .error (.nodeNotFound tag) ∧
      failure = .nodeNotFound tag := by
  obtain ⟨document, -, hDefined⟩ := defineDeclared_of_specified hSpecified
  rw [hDefined] at h
  split at h
  · cases h
  · cases hNodes : registry.cluster.resolveAll (accessOf pool) with
    | error refusal =>
        rw [hNodes] at h
        obtain rfl := Except.error.inj h
        exact Cluster.of_resolveAll_error hNodes
    | ok access =>
        rw [hNodes] at h
        cases h

/-- **A list that holds `*` among names is refused**, whatever names these are, unless some node has
the tag `*`. -/
theorem defineDeclared_of_mixed {nodes : List NodeDeclaration} {partition : List String}
    (hCluster : registry.cluster = .ofDeclarations nodes partition) (hSpecified : pool.Specified)
    (hUnbroken : ∀ entry ∈ pool.access, Text.Unbroken entry)
    (hDeclared : ∀ entry ∈ pool.access, entry = everyNode ∨ entry ∈ nodes.map (·.name))
    (hEvery : everyNode ∈ pool.access)
    (hName : ∃ entry ∈ pool.access, entry ≠ everyNode ∧ entry ≠ "")
    (hFree : ∀ node ∈ nodes, node.answersTo everyNode = false) :
    registry.defineDeclared pool = .error (.nodeNotFound everyNode) := by
  have hUnknown : registry.cluster.resolve everyNode = .error (.nodeNotFound everyNode) := by
    have hNone : (nodes.reverse.find? fun node => node.answersTo everyNode) = none :=
      List.find?_eq_none.2 fun node hNode => by simp [hFree node (List.mem_reverse.1 hNode)]
    rw [hCluster, Cluster.resolve_ofDeclarations, hNone]
  obtain ⟨name, hListed, hNotEvery, hNotEmpty⟩ := hName
  have hRead : accessOf pool = pool.access.filter (· ≠ "") := by
    have hMem : name ∈ pool.access.filter (· ≠ "") := List.mem_filter.2 ⟨hListed, by simpa⟩
    rw [accessOf, PoolDeclaration.objects_of_unbroken hUnbroken, if_neg]
    rw [List.isEmpty_iff]
    exact List.ne_nil_of_mem hMem
  have hMem : ∀ {entry}, entry ∈ accessOf pool ↔ entry ∈ pool.access ∧ entry ≠ "" := by
    intro entry
    rw [hRead, List.mem_filter, decide_eq_true_iff]
  cases hDefined : registry.defineDeclared pool with
  | ok document =>
      obtain ⟨read, hAccess, hOutcome⟩ := defineDeclared_of_specified hSpecified
      have hClosed : ¬read.isOpen = true := fun hOpen =>
        hNotEvery (beq_iff_eq.1 (List.all_eq_true.1 hOpen name
          (hAccess ▸ hMem.2 ⟨hListed, hNotEmpty⟩)))
      have hRefused := Cluster.resolveAll_of_unknown (hMem.2 ⟨hEvery, by decide⟩) hUnknown
      obtain ⟨failure, hFailure⟩ := hRefused
      rw [hOutcome, if_neg hClosed, hFailure] at hDefined
      cases hDefined
  | error failure =>
      obtain ⟨tag, hTag, hNobody, rfl⟩ := unresolved_of_defineDeclared hSpecified hDefined
      by_cases hSame : tag = everyNode
      · rw [hSame]
      · -- the other entries are names, and these mean some node
        obtain ⟨node, hNode, rfl⟩ :=
          List.mem_map.1 ((hDeclared tag (hMem.1 hTag).1).resolve_left hSame)
        obtain ⟨found, hFound⟩ := Cluster.exists_resolve_of_mem hNode
        rw [hCluster, hFound] at hNobody
        cases hNobody

end Registry

/-! ## The check -/

namespace Config

variable {config : Config}

theorem declared_of_checkPools {nodes : List String} :
    ∀ {pools : List PoolDeclaration} {before : List String},
      checkPools nodes before pools = .ok () →
        ∀ pool ∈ pools, ∀ entry ∈ pool.access, entry = everyNode ∨ entry ∈ nodes := by
  intro pools
  induction pools with
  | nil => exact fun _ _ hPool => by cases hPool
  | cons first rest ih =>
      intro before h
      unfold checkPools at h
      split at h
      · cases h
      · split at h
        · cases h
        · next hNone =>
          intro pool hPool entry hEntry
          rcases List.mem_cons.1 hPool with rfl | hRest
          · have hKnown := List.find?_eq_none.1 hNone entry hEntry
            by_cases hEvery : entry = everyNode
            · exact .inl hEvery
            · exact .inr (by simpa [hEvery] using hKnown)
          · exact ih h pool hRest entry hEntry

/-- The check admits `*` and the names of nodes as entries of an access list. -/
theorem declared_of_check (h : config.check = .ok ()) :
    ∀ pool ∈ config.pools, ∀ entry ∈ pool.access,
      entry = everyNode ∨ entry ∈ config.nodes.map (·.name) := by
  refine declared_of_checkPools (?_ : checkPools _ [] _ = .ok ())
  cases hPools : checkPools (config.nodes.map (·.name)) [] config.pools with
  | ok => rfl
  | error problem =>
      simp only [check, hPools, bind, Except.bind, throw, throwThe, MonadExceptOf.throw] at h
      split at h
      · cases h
      · split at h <;> cases h

end Config

/-! ## The start -/

namespace World

variable {σ : Type}

/-- The declared pools are made in turn, up to the first that cannot be defined. -/
theorem run_createDeclared {registry : Registry} {pools : List PoolDeclaration} :
    ∀ {world : World σ}, world.registry.cluster = registry.cluster →
      (∃ after, (createDeclared pools).run world = (.ok (), after) ∧
        ∀ pool ∈ pools, ∃ document, registry.defineDeclared pool = .ok document) ∨
      ∃ before pool rest failure after, pools = before ++ pool :: rest ∧
        (∀ earlier ∈ before, ∃ document, registry.defineDeclared earlier = .ok document) ∧
        registry.defineDeclared pool = .error failure ∧
        (createDeclared pools).run world = (.error failure, after) := by
  induction pools with
  | nil => exact fun {world} _ => .inl ⟨world, rfl, fun _ hPool => by cases hPool⟩
  | cons first rest ih =>
      intro world hCluster
      -- only the cluster of the registry matters to a definition
      have hAsk : (ask (·.definePool first.name first.kind first.definitionParams)).run world =
          (registry.defineDeclared first, world) := by
        simp only [run_ask, Registry.defineDeclared, Registry.definePool, hCluster]
      cases hFirst : registry.defineDeclared first with
      | error failure =>
          refine .inr ⟨[], first, rest, failure, world, rfl, List.forall_mem_nil _, hFirst, ?_⟩
          exact Action.run_bind_error (hFirst ▸ hAsk)
      | ok document =>
          have hStep : (createDeclared (first :: rest)).run world =
              (createDeclared rest).run ((createPool document).run world).2 := by
            rw [createDeclared, Action.run_bind_ok (hFirst ▸ hAsk)]
            rfl
          have hKept : ((createPool document).run world).2.registry.cluster = registry.cluster :=
            hCluster
          rw [hStep]
          rcases ih hKept with ⟨after, hRun, hAll⟩ |
            ⟨before, pool, later, failure, after, hRest, hAll, hPool, hRun⟩
          · refine .inl ⟨after, hRun, fun pool hMem => ?_⟩
            rcases List.mem_cons.1 hMem with rfl | hMem
            · exact ⟨document, hFirst⟩
            · exact hAll pool hMem
          · refine .inr ⟨first :: before, pool, later, failure, after, ?_, fun earlier hMem => ?_,
              hPool, hRun⟩
            · rw [hRest, List.cons_append]
            · rcases List.mem_cons.1 hMem with rfl | hMem
              · exact ⟨document, hFirst⟩
              · exact hAll earlier hMem

end World

namespace Engine

variable {σ : Type} {config : Config} {supply : Supply} {memory : σ}

/-- **An engine with checked settings** starts, unless the parameters of a pool do not fit its kind;
then it fails as the kind does for the first such pool, for those before it can be defined. Only an
access list that is not plain can make it fail for a tag that no node answers to. -/
theorem startup_of_check (hChecked : config.check = .ok ()) :
    (∃ engine, startup config supply memory = .ok engine ∧
      ∀ pool ∈ config.pools, pool.Specified) ∨
    (∃ before pool rest cause, config.pools = before ++ pool :: rest ∧
      (∀ earlier ∈ before, earlier.Specified) ∧
      pool.kind.defineSpec pool.params = .error (.invalidRequest cause) ∧
      startup config supply memory = .error (.invalidRequest cause)) ∨
    ∃ pool ∈ config.pools, ¬pool.PlainAccess ∧
      ∃ tag, startup config supply memory = .error (.nodeNotFound tag) := by
  let registry := Registry.empty config.cluster config.recovery config.suffixLength
  have hCluster : registry.cluster = .ofDeclarations config.nodes config.partition := rfl
  have hSpecified : ∀ {pool : PoolDeclaration},
      (∃ document, registry.defineDeclared pool = .ok document) → pool.Specified := by
    rintro pool ⟨document, hDocument⟩
    cases hSpec : pool.kind.defineSpec pool.params with
    | ok spec => exact ⟨spec, hSpec⟩
    | error failure =>
        rw [Registry.defineDeclared_of_unspecified hSpec] at hDocument
        cases hDocument
  let world : World σ := { registry, supply, link := ⟨memory, []⟩ }
  have hStartup : ∀ {outcome : Except Failure Unit} {after : World σ},
      (World.createDeclared config.pools).run world = (outcome, after) →
        startup config supply memory = outcome.map fun _ =>
          { world := after, images := ∅, settings := config.imageSettings } := by
    intro outcome after hRun
    simp only [startup, hChecked]
    rw [assemble, hRun]
    cases outcome <;> rfl
  rcases @World.run_createDeclared σ registry config.pools world rfl with
    ⟨after, hRun, hAll⟩ | ⟨before, pool, rest, failure, after, hPools, hBefore, hPool, hRun⟩
  · exact .inl ⟨_, hStartup hRun, fun pool hMem => hSpecified (hAll pool hMem)⟩
  · have hMem : pool ∈ config.pools := by simp [hPools]
    cases hSpec : pool.kind.defineSpec pool.params with
    | error refusal =>
        obtain ⟨cause, rfl⟩ := PoolKind.invalid_of_defineSpec hSpec
        rw [Registry.defineDeclared_of_unspecified hSpec] at hPool
        obtain rfl := Except.error.inj hPool
        exact .inr (.inl ⟨before, pool, rest, cause, hPools,
          fun earlier hEarlier => hSpecified (hBefore earlier hEarlier), hSpec, hStartup hRun⟩)
    | ok spec =>
        obtain ⟨tag, -, -, rfl⟩ := Registry.unresolved_of_defineDeclared ⟨spec, hSpec⟩ hPool
        refine .inr (.inr ⟨pool, hMem, fun hPlain => ?_, tag, hStartup hRun⟩)
        obtain ⟨document, hDocument⟩ := Registry.exists_defineDeclared_of_plain hCluster
          ⟨spec, hSpec⟩ hPlain (Config.declared_of_check hChecked pool hMem)
        rw [hPool] at hDocument
        cases hDocument

/-- Settings with three pools on two nodes: for every node, for both by name, and with no list. -/
def threePools : Config :=
  { Config.default with
    nodes := [⟨"a", ["fast"]⟩, ⟨"b", ["fast"]⟩]
    pools := [
      { name := "fs", kind := .filesystem, access := ["*", "*"], params := .empty },
      { name := "vg", kind := .lvm, access := ["b", "a"],
        params := .ofList [("volume_group", "g")] },
      { name := "net", kind := .linuxBridge, access := [],
        params := .ofList [("switch", "a:x b:y")] }] }

/-- They are checked, and the engine starts. -/
theorem startup_of_check_threePools :
    threePools.check = .ok () ∧
      ∃ engine, startup threePools Supply.strokes () = .ok engine ∧
        ∀ pool ∈ threePools.pools, pool.Specified := by
  have hChecked : threePools.check = .ok () := by decide +kernel
  refine ⟨hChecked, ?_⟩
  rcases @startup_of_check Unit threePools Supply.strokes () hChecked with
    hStarted | ⟨before, pool, rest, cause, hPools, -, hRefused, -⟩ | ⟨pool, hPool, hMixed, -⟩
  · exact hStarted
  · -- no parameters are refused
    have hFine : ∀ pool ∈ threePools.pools,
        (pool.kind.defineSpec pool.params).toOption.isSome = true := by decide +kernel
    have hSome := hFine pool (by simp [hPools])
    rw [hRefused] at hSome
    cases hSome
  · -- and every access list is plain
    have hPlain : ∀ pool ∈ threePools.pools,
        (∀ entry ∈ pool.access, entry = everyNode) ∨
          ∀ entry ∈ pool.access, entry ≠ everyNode ∧ Text.Unbroken entry := by decide +kernel
    exact absurd (hPlain pool hPool) hMixed

/-- Settings with one pool for one node. -/
def onePool (node : String) (access : List String) : Config :=
  { Config.default with
    nodes := [⟨node, []⟩]
    pools := [
      { name := "fs", kind := .filesystem, access, params := .ofList [("path", "/v")] }] }

/-- **Checked settings that do not start**: the access list of a pool names a node beside `*`, or a
node whose name holds a blank. -/
theorem startup_refuses_checked_access :
    ((onePool "host1" ["*", "host1"]).check = .ok () ∧
      startup (onePool "host1" ["*", "host1"]) Supply.strokes () = .error (.nodeNotFound "*")) ∧
    ((onePool "host 1" ["host 1"]).check = .ok () ∧
      startup (onePool "host 1" ["host 1"]) Supply.strokes () = .error (.nodeNotFound "host")) := by
  have hMixed : (onePool "host1" ["*", "host1"]).check = .ok () := by decide +kernel
  have hBlank : (onePool "host 1" ["host 1"]).check = .ok () := by decide +kernel
  refine ⟨⟨hMixed, ?_⟩, hBlank, ?_⟩
  · rw [startup, hMixed]
    rfl
  · rw [startup, hBlank]
    rfl

end Engine

end DiskFleet
