import DiskFleet.Proofs.Image.Refusal
import DiskFleet.Proofs.Image.Unmaking

/-!
# Which layer a command may name

A command that names a layer is let through or refused by what the document says, before anything is
done. `create` and `destroy` take any layer outside the chain and the top of the chain, since the
layers below the top are shared by what stands on them. `add` and `rebase` take only names that are
free. `remove` takes a layer off if no other layer stands on it and its volume holds no storage;
that some layer is left then follows from the form of the image.

## Main results

* `Session.run_create_of_untargeted`, `Session.run_destroy_of_untargeted`: targets that are refused;
* `Session.run_add_of_taken`, `Session.run_rebase_of_taken`: names that are refused;
* `Session.run_remove_of_removable`, `Session.run_remove_of_held`: layers that can be taken off, and
  those that cannot.
-/

namespace DiskFleet

variable {σ α β : Type}

namespace Image

variable {image : Image} {registry : Registry} {name : String}

/-- The layer is outside the chain, or the top of a chain that has another layer. -/
def Detachable (image : Image) (name : String) : Prop :=
  name ∉ image.topology.names ∨
    image.topology.top? = some name ∧ 2 ≤ image.topology.names.length

/-- The layer can be taken off: it holds no storage either. -/
def Removable (registry : Registry) (image : Image) (name : String) : Prop :=
  image.Detachable name ∧ ∃ layer volume, image.layers.get? name = some layer ∧
    layer.volume = some volume ∧ registry.allocated? volume = some false

/-! ## Checks on the document -/

theorem targets_of_unknown (every : Bool) (hUnknown : image.layers.get? name = none) :
    image.targets (some name) every = .error (.layerNotFound image.idText name) := by
  simp only [targets, Image.layer, hUnknown]
  rfl

theorem targets_of_covered (every : Bool) (hFormed : image.WellFormed)
    (hMem : name ∈ image.topology.names) (hCovered : image.topology.top? ≠ some name) :
    image.targets (some name) every =
      .error (.illegalTransition (.notTop name image.idText)) := by
  obtain ⟨layer, hLayer⟩ := hFormed.stored hMem
  have hContains : image.topology.contains name = true := List.contains_iff_mem.2 hMem
  simp only [targets, Image.layer, hLayer, bind, Except.bind]
  rw [if_pos ⟨hContains, hCovered⟩]
  rfl

/-- An image with one layer has no other name for one. -/
theorem eq_of_size_one (hSize : image.layers.size = 1) {other : String} {layer otherLayer : Layer}
    (hLayer : image.layers.get? name = some layer)
    (hOther : image.layers.get? other = some otherLayer) : name = other := by
  obtain ⟨entry, hEntries⟩ := List.length_eq_one_iff.1 hSize
  have hFirst := Table.mem_entries_iff.2 hLayer
  have hSecond := Table.mem_entries_iff.2 hOther
  rw [hEntries, List.mem_singleton] at hFirst hSecond
  exact (Prod.mk.inj (hFirst.trans hSecond.symm)).1

/-- A chain has at least two layers. -/
theorem WellFormed.isChain_iff (h : image.WellFormed) :
    image.topology.isChain = true ↔ 2 ≤ image.topology.names.length := by
  have hPositive := List.length_pos_iff.2 h.nonempty
  have hSingle := h.single
  cases hChain : image.topology.isChain with
  | true =>
      have hNotOne : image.topology.names.length ≠ 1 := fun hOne => by
        rw [hSingle.2 hOne] at hChain
        cases hChain
      simp only [true_iff]
      omega
  | false =>
      have hOne := hSingle.1 hChain
      simp only [Bool.false_eq_true, false_iff]
      omega

/-- **A stored layer passes the check exactly if it is detachable.** -/
theorem requireRemovable_iff (h : image.WellFormed) {layer : Layer}
    (hLayer : image.layers.get? name = some layer) :
    image.requireRemovable name = .ok () ↔ image.Detachable name := by
  constructor
  · intro hAllowed
    by_cases hMem : name ∈ image.topology.names
    · obtain ⟨hChain, hTop⟩ :=
        Session.of_requireRemovable hAllowed (List.contains_iff_mem.2 hMem)
      exact .inr ⟨hTop, h.isChain_iff.1 hChain⟩
    · exact .inl hMem
  · intro hDetachable
    -- the chain has a layer of another name
    have hMore : image.layers.size ≠ 1 := by
      intro hSize
      have hAll : ∀ other ∈ image.topology.names, other = name := by
        intro other hOther
        obtain ⟨otherLayer, hStored⟩ := h.stored hOther
        exact eq_of_size_one hSize hStored hLayer
      rcases hDetachable with hOutside | ⟨-, hTwo⟩
      · obtain ⟨first, hFirst⟩ := List.exists_mem_of_ne_nil _ h.nonempty
        exact hOutside (hAll first hFirst ▸ hFirst)
      · have hRepeated := List.eq_replicate_of_mem hAll
        have hNodup := h.nodup
        rw [hRepeated, List.nodup_replicate] at hNodup
        omega
    rw [requireRemovable, if_neg hMore]
    rcases hDetachable with hOutside | ⟨hTop, hTwo⟩
    · have hNot : image.topology.contains name = false := by
        simpa [Topology.contains] using hOutside
      simp [hNot]
    · simp [h.isChain_iff.2 hTwo, hTop]

theorem illegal_of_requireRemovable {failure : Failure}
    (h : image.requireRemovable name = .error failure) :
    ∃ reason, failure = .illegalTransition reason := by
  unfold requireRemovable at h
  dsimp only at h
  split at h
  · exact ⟨_, (Except.error.inj h).symm⟩
  · split at h
    · exact ⟨_, (Except.error.inj h).symm⟩
    · split at h
      · exact ⟨_, (Except.error.inj h).symm⟩
      · cases h

end Image

namespace Session

variable {agent : Agent σ} {session after : Session σ} {name : String} {failure : Failure}

/-! ## Commands that are refused at once -/

/-- What begins with a question to the document ends with a refusal of it. -/
theorem run_askImage_bind_error {f : Image → Except Failure α} {next : α → Action (Session σ) β}
    (h : f session.image = .error failure) :
    (askImage f >>= next).run session = (.error failure, session) :=
  Action.run_bind_error (by rw [run_askImage, h])

theorem run_create_of_untargeted (agent : Agent σ) {target : Option String} (extra : Arguments)
    (h : session.image.targets target false = .error failure) :
    (create agent target extra).run session = (.error failure, session) :=
  run_askImage_bind_error h

theorem run_destroy_of_untargeted (agent : Agent σ) {target : Option String}
    (h : session.image.targets target true = .error failure) :
    (destroy agent target).run session = (.error failure, session) :=
  run_askImage_bind_error h

theorem requireNew_of_taken {image : Image} (h : image.layers.contains name = true) :
    image.requireNew name = .error (.illegalTransition (.layerExists name image.idText)) := by
  rw [Image.requireNew, if_pos h]

theorem run_add_of_taken (agent : Agent σ) (settings : ImageSettings) (args : AddArguments)
    (h : session.image.layers.contains args.target = true) :
    (add agent settings args).run session =
      (.error (.illegalTransition (.layerExists args.target session.image.idText)), session) :=
  run_askImage_bind_error (requireNew_of_taken h)

theorem run_rebase_of_taken (agent : Agent σ) (settings : ImageSettings) (args : RebaseArguments)
    (h : session.image.layers.contains args.target = true) :
    (rebase agent settings args).run session =
      (.error (.illegalTransition (.layerExists args.target session.image.idText)), session) :=
  run_askImage_bind_error (requireNew_of_taken h)

/-! ## Layers that are taken off -/

/-- A layer is allocated as its volume is. -/
theorem isAllocated_of_volume {registry : Registry} {layer : Layer} {volume : String} {held : Bool}
    (hVolume : layer.volume = some volume) (hState : registry.allocated? volume = some held) :
    layer.isAllocated registry = .ok held := by
  obtain ⟨resource, hFound, rfl⟩ := Option.map_eq_some_iff.1 hState
  have hDocument : registry.resourceDocument volume = .ok resource.document :=
    Registry.resourceDocument_eq_ok_iff.2 ⟨resource, hFound, rfl⟩
  simp only [Layer.isAllocated, hVolume, hDocument]
  rfl

/-- **A removable layer is taken off**, its volume is erased, and nobody is called. Off the chain,
the layer below becomes the top. -/
theorem run_remove_of_removable (hFormed : session.image.WellFormed) (hSound : session.world.Sound)
    (h : session.image.Removable session.world.registry name) :
    ∃ image, (remove name).run session =
        (.ok .null, ⟨image, session.world.withoutAll (session.image.volumesOf [name])⟩) ∧
      (name ∉ session.image.topology.names → image = session.image.withoutLayer name) ∧
      ∀ below, name ∈ session.image.topology.names →
        session.image.topology.popped.top? = some below →
        image = session.image.unstacked name below := by
  obtain ⟨hDetachable, layer, volume, hLayer, hVolume, hFree⟩ := h
  obtain ⟨resource, hFound, hEmpty⟩ := Option.map_eq_some_iff.1 hFree
  have hAllowed := (Image.requireRemovable_iff hFormed hLayer).2 hDetachable
  have hNotHeld := isAllocated_of_volume hVolume hFree
  have hIdle : session.Idle name := by
    refine ⟨layer, hLayer, fun other hOther => ?_⟩
    obtain rfl := Option.some.inj (hVolume.symm.trans hOther)
    exact ⟨resource, hFound, hEmpty⟩
  obtain ⟨stored, hDestroy, -⟩ := run_destroyLayer_of_idle hSound hIdle
  simp only [remove, Action.run_bind, run_askImage, Image.layer_eq_ok_iff.2 hLayer, hAllowed,
    run_ask, hNotHeld, Bool.false_eq_true, if_false, Action.run_gets, hDestroy, modifyImage,
    Action.run_modify, withoutLayer_putLayer]
  by_cases hChained : session.image.topology.contains name = true
  · obtain ⟨hChain, -⟩ := of_requireRemovable hAllowed hChained
    obtain ⟨below, hBelow⟩ := exists_below hFormed hChain
    rw [if_pos hChained]
    simp only [Action.run_bind, Action.run_modify, run_askImage, Image.top,
      Image.topology_withoutLayer, hBelow, Action.run_pure]
    refine ⟨_, rfl, fun hOutside => absurd (List.contains_iff_mem.1 hChained) hOutside,
      fun other _ hOther => ?_⟩
    obtain rfl := Option.some.inj hOther
    rfl
  · rw [if_neg hChained]
    exact ⟨_, rfl, fun _ => rfl, fun _ hMem => absurd (List.contains_iff_mem.2 hMem) hChained⟩

/-- **Any other layer stays**, and nothing is done: it is unknown, or its removal is not legal. -/
theorem run_remove_of_held (hFormed : session.image.WellFormed)
    (hMade : Layer.AllMade session.image.layers)
    (hRegistered : ∀ volume ∈ session.image.volumeIds, ∃ resource,
      session.world.registry.resource? volume = some resource)
    (h : ¬session.image.Removable session.world.registry name) :
    ∃ failure, (remove name).run session = (.error failure, session) ∧
      (session.image.layers.get? name = none ∧
          failure = .layerNotFound session.image.idText name ∨
        session.image.layers.contains name = true ∧
          ∃ reason, failure = .illegalTransition reason) := by
  cases hLayer : session.image.layers.get? name with
  | none =>
      have hUnknown : session.image.layer name =
          .error (.layerNotFound session.image.idText name) := by
        simp only [Image.layer, hLayer]
      exact ⟨_, run_askImage_bind_error hUnknown, .inl ⟨rfl, rfl⟩⟩
  | some layer =>
      have hContains : session.image.layers.contains name = true := by
        rw [Table.contains, hLayer, Option.isSome_some]
      simp only [remove, Action.run_bind, run_askImage, Image.layer_eq_ok_iff.2 hLayer]
      cases hAllowed : session.image.requireRemovable name with
      | error failure =>
          exact ⟨failure, rfl, .inr ⟨hContains, Image.illegal_of_requireRemovable hAllowed⟩⟩
      | ok =>
          -- the layer is detachable, so it must be storage that keeps it
          obtain ⟨volume, hVolume⟩ := hMade name layer hLayer
          have hListed := Image.mem_volumeIds.2 ⟨name, layer, hLayer, hVolume⟩
          obtain ⟨resource, hFound⟩ := hRegistered volume hListed
          have hAllocated : session.world.registry.allocated? volume = some true := by
            cases hState : resource.document.allocated with
            | true => rw [Registry.allocated?, hFound, Option.map_some, hState]
            | false =>
                refine absurd ⟨(Image.requireRemovable_iff hFormed hLayer).1 hAllowed, layer,
                  volume, hLayer, hVolume, ?_⟩ h
                rw [Registry.allocated?, hFound, Option.map_some, hState]
          have hHeld := isAllocated_of_volume hVolume hAllocated
          simp only [run_ask, hHeld, if_true, Action.run_fail]
          exact ⟨_, rfl, .inr ⟨hContains, _, rfl⟩⟩

end Session

end DiskFleet
