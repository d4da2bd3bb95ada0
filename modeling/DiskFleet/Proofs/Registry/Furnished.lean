import DiskFleet.Proofs.Registry.Access

/-!
# Pools that can hold what they promise

A pool promises by its kind: the kind says which class of resource the pool holds and which requests
it meets. What it needs to keep the promise is in its document: the directory, the volume group or
the block pool that its volumes lie in. A pool that was defined has the section of its kind
(`PoolKind.Specifies`), no operation changes it, and so every volume that such a pool is asked to
hold has a place on each of its nodes.

## Main results

* `World.furnished_course`: moves that make defined pools keep every pool furnished;
* `Resource.exists_volumeBacking`: a furnished pool has a place for a volume of its class.
-/

namespace DiskFleet

namespace PoolKind

/-- Pools of the kind are defined with that section. -/
def Specifies (kind : PoolKind) (spec : PoolSpec) : Prop :=
  ∃ params, kind.defineSpec params = .ok spec

/-- A document that was defined has the section of its kind. -/
theorem specifies_of_definePool {registry : Registry} {name : String} {kind : PoolKind}
    {params : Params} {document : PoolDocument}
    (h : registry.definePool name kind params = .ok document) :
    document.kind.Specifies document.spec := by
  obtain ⟨defined, hDefine, hRest⟩ := Action.bind_eq_ok_iff.1 h
  have hDefined : defined.kind.Specifies defined.spec := by
    obtain ⟨spec, hSpec, hPure⟩ := Action.bind_eq_ok_iff.1 hDefine
    obtain rfl := Except.ok.inj hPure
    exact ⟨params, hSpec⟩
  -- what follows concerns the access list
  split at hRest
  · obtain rfl := Except.ok.inj hRest
    exact hDefined
  · obtain ⟨access, -, hPure⟩ := Action.bind_eq_ok_iff.1 hRest
    obtain rfl := Except.ok.inj hPure
    exact hDefined

/-- The section of the kind is there. -/
theorem Specifies.present {kind : PoolKind} {spec : PoolSpec} (h : kind.Specifies spec) :
    match kind with
    | .filesystem => spec.filesystem.isSome = true
    | .lvm => spec.lvm.isSome = true
    | .rbd => spec.rbd.isSome = true
    | .linuxBridge => spec.bridge.isSome = true := by
  obtain ⟨params, hSpec⟩ := h
  cases kind with
  | filesystem =>
      obtain rfl := Except.ok.inj hSpec
      rfl
  | lvm =>
      simp only [defineSpec] at hSpec
      split at hSpec
      · obtain rfl := Except.ok.inj hSpec
        rfl
      · cases hSpec
  | rbd =>
      simp only [defineSpec] at hSpec
      split at hSpec
      · obtain rfl := Except.ok.inj hSpec
        rfl
      · cases hSpec
  | linuxBridge =>
      obtain ⟨bridges, -, hRest⟩ := Action.bind_eq_ok_iff.1 hSpec
      split at hRest
      · cases hRest
      · obtain ⟨uplinks, -, hDone⟩ := Action.bind_eq_ok_iff.1 hRest
        obtain rfl := Except.ok.inj hDone
        rfl

end PoolKind

/-! ## Places for volumes -/

namespace Resource

/-- **A furnished pool has a place for every volume of its class**: a file has a name or a location
of its own. -/
theorem exists_volumeBacking {kind : PoolKind} {pool : PoolDocument} {resource : Resource}
    {spec : VolumeSpec} (hSpecifies : kind.Specifies pool.spec)
    (hClass : kind.classFor? .volume = some (.volume resource.volumeKind))
    (hSpec : resource.document.spec = .volume spec)
    (hNamed : resource.volumeKind = .file → spec.uri.isSome = true ∨ spec.filename.isSome = true) :
    ∃ place, resource.volumeBacking pool = .ok place := by
  have hVolume : resource.volumeSpec = .ok spec := by
    rw [volumeSpec, hSpec]
    rfl
  have hPresent := hSpecifies.present
  cases kind with
  | filesystem =>
      have hKind : resource.volumeKind = .file := by
        simpa [PoolKind.classFor?, eq_comm] using hClass
      obtain ⟨filesystem, hFilesystem⟩ := Option.isSome_iff_exists.1 hPresent
      rw [volumeBacking, hVolume, hKind, hFilesystem]
      obtain ⟨size, allocation, uri, filename⟩ := spec
      rcases hNamed hKind with hUri | hFilename
      · obtain ⟨place, rfl⟩ := Option.isSome_iff_exists.1 hUri
        exact ⟨place, rfl⟩
      · obtain ⟨text, rfl⟩ := Option.isSome_iff_exists.1 hFilename
        cases uri <;> exact ⟨_, rfl⟩
  | lvm =>
      have hKind : resource.volumeKind = .block := by
        simpa [PoolKind.classFor?, eq_comm] using hClass
      obtain ⟨lvm, hLvm⟩ := Option.isSome_iff_exists.1 hPresent
      rw [volumeBacking, hVolume, hKind, hLvm]
      exact ⟨_, rfl⟩
  | rbd =>
      have hKind : resource.volumeKind = .network := by
        simpa [PoolKind.classFor?, eq_comm] using hClass
      obtain ⟨rbd, hRbd⟩ := Option.isSome_iff_exists.1 hPresent
      rw [volumeBacking, hVolume, hKind, hRbd]
      by_cases hBare : rbd.subspace.isEmpty = true
      · exact ⟨_, if_pos hBare⟩
      · exact ⟨_, if_neg hBare⟩
  | linuxBridge => cases hClass

/-- Nodes that all reach the resource can be bound. -/
theorem exists_bound {pool : PoolDocument} {resource : Resource} (nodes : List String)
    (h : ∀ node, ∃ backing, resource.backingFor pool node = .ok backing) :
    ∃ after, resource.bound pool nodes = .ok after := by
  have hNew : ∀ nodes : List String, ∃ bindings,
      resource.newBindings pool nodes = .ok bindings := by
    intro nodes
    induction nodes with
    | nil => exact ⟨[], rfl⟩
    | cons node rest ih =>
        obtain ⟨others, hOthers⟩ := ih
        obtain ⟨backing, hBacking⟩ := h node
        simp only [newBindings, hOthers, hBacking]
        split <;> exact ⟨_, rfl⟩
  obtain ⟨bindings, hBindings⟩ := hNew (if nodes.isEmpty then pool.access else nodes)
  exact ⟨resource.addBindings bindings, by simp only [bound, hBindings]; rfl⟩

end Resource

/-! ## Along moves -/

/-- Every pool has the section that its kind promises. -/
def Registry.Furnished (registry : Registry) : Prop :=
  ∀ {poolId pool}, registry.pools.get? poolId = some pool → pool.kind.Specifies pool.document.spec

namespace World

variable {σ : Type} {agent : Agent σ} {admits : ResourceDocument → Prop}
  {mayDrop : String → Prop} {mayOpen : PoolDocument → Prop} {world next : World σ}

/-- A pool whose resources change is as furnished as before. -/
theorem furnished_insert (h : world.registry.Furnished) {poolId : String} {pool : Pool}
    (hPool : world.registry.pools.get? poolId = some pool) {resources : Table Resource}
    (hPools : next.registry.pools = world.registry.pools.insert poolId { pool with resources }) :
    next.registry.Furnished := by
  intro other stored hStored
  rw [hPools, Table.get?_insert] at hStored
  split at hStored
  · obtain rfl := Option.some.inj hStored
    show pool.kind.Specifies pool.document.spec
    exact h hPool
  · exact h hStored

/-- **Every move keeps every pool furnished**, if it makes only pools that are. -/
theorem furnished_move (h : world.registry.Furnished)
    (hMayOpen : ∀ document, mayOpen document → document.kind.Specifies document.spec)
    (hMove : Move agent admits mayDrop mayOpen world next) : next.registry.Furnished := by
  cases hMove with
  | drawId => exact h
  | drawSuffix => exact h
  | callImage => exact h
  | @openPool document hDocument =>
      intro poolId pool hPool
      simp only [openingPool, Registry.putPool, Table.get?_insert] at hPool
      split at hPool
      · obtain rfl := Option.some.inj hPool
        exact hMayOpen document hDocument
      · exact h hPool
  | closePool =>
      intro poolId pool hPool
      simp only [closingPool, Registry.removePool, Table.get?_erase] at hPool
      split at hPool
      · cases hPool
      · exact h hPool
  | enter hDefinition hPool hAdd =>
      obtain ⟨made, rfl, -⟩ := Pool.of_addResource hAdd
      exact furnished_insert h hPool rfl
  | drop hId hOwner hPool hDrop =>
      obtain ⟨dropped, -, -, rfl⟩ := Pool.of_dropResource hDrop
      exact furnished_insert h hPool rfl
  | work hOwner hPool hStored hInside => exact furnished_insert h hPool rfl

/-- **So do any number of moves.** -/
theorem furnished_course (h : world.registry.Furnished)
    (hMayOpen : ∀ document, mayOpen document → document.kind.Specifies document.spec)
    (hCourse : Course agent admits mayDrop mayOpen world next) : next.registry.Furnished := by
  induction hCourse with
  | refl => exact h
  | tail _ hMove ih => exact furnished_move ih hMayOpen hMove

end World

end DiskFleet
