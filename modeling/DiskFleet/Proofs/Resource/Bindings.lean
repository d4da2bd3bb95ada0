import DiskFleet.Proofs.Resource.Step
import Mathlib.Data.List.Perm.Subperm

/-!
# The bindings of a resource

Only `bind` and `unbind` change the bindings of a resource (`bindings_handle`), and both are
described by the set of bound nodes: `bind` adds the nodes it means, `unbind` takes its targets off.

The guard of `unbind` counts its targets. As long as no node is named twice, as many targets as
there are bindings are all of them, and an allocated resource stays `Anchored`: it keeps a bound
node that its storage can be released through. A node that is named twice is counted twice, and the
guard then errs on both sides; `unbound_strands_iff` says when it lets the last binding of an
allocated resource go.

## Main results

* `mem_bound_of_bound`, `mem_bound_of_unbound`: the nodes that are bound afterwards;
* `unbound_strands_iff`: when an allocated resource loses its last binding;
* `Anchored.handle`: no command that names each node once makes it do so.
-/

namespace DiskFleet

/-- The command does not name a node twice that it unbinds. -/
def ResourceCommand.NamesOnce : ResourceCommand → Prop
  | .unbind nodes => nodes.Nodup
  | _ => True

namespace Resource

variable {σ : Type} {agent : Agent σ} {pool : PoolDocument} {resource after : Resource}
  {nodes : List String} {node : String}

/-! ## Adding bindings -/

/-- The new bindings are for the named nodes that are not bound yet. -/
theorem mem_map_of_newBindings :
    ∀ {nodes : List String} {bindings : List (String × String)},
      resource.newBindings pool nodes = .ok bindings →
        (node ∈ bindings.map (·.1) ↔ node ∈ nodes ∧ node ∉ resource.document.bound)
  | [], bindings, h => by
    obtain rfl := Except.ok.inj h
    simp
  | first :: rest, bindings, h => by
    unfold newBindings at h
    split at h
    · next hBound =>
      have hMem : first ∈ resource.document.bound :=
        (SortedMap.contains_iff_mem_keys _ _).1 hBound
      rw [mem_map_of_newBindings h, List.mem_cons]
      constructor
      · rintro ⟨hRest, hNew⟩
        exact ⟨.inr hRest, hNew⟩
      · rintro ⟨rfl | hRest, hNew⟩
        · exact absurd hMem hNew
        · exact ⟨hRest, hNew⟩
    · next hNew =>
      have hNotMem : first ∉ resource.document.bound := fun hMem =>
        hNew ((SortedMap.contains_iff_mem_keys _ _).2 hMem)
      obtain ⟨backing, -, hRest⟩ := Action.bind_eq_ok_iff.1 h
      obtain ⟨others, hOthers, hPure⟩ := Action.bind_eq_ok_iff.1 hRest
      obtain rfl := Except.ok.inj hPure
      rw [List.map_cons, List.mem_cons, mem_map_of_newBindings hOthers, List.mem_cons]
      constructor
      · rintro (rfl | ⟨hMem, hFree⟩)
        · exact ⟨.inl rfl, hNotMem⟩
        · exact ⟨.inr hMem, hFree⟩
      · rintro ⟨rfl | hMem, hFree⟩
        · exact .inl rfl
        · exact .inr ⟨hMem, hFree⟩

/-- **A bound resource is bound to the nodes it was bound to and to those that `bind` means.** -/
theorem mem_bound_of_bound (h : resource.bound pool nodes = .ok after) :
    node ∈ after.document.bound ↔
      node ∈ resource.document.bound ∨ node ∈ if nodes.isEmpty then pool.access else nodes := by
  obtain ⟨bindings, hBindings, hAfter⟩ := Action.bind_eq_ok_iff.1 h
  obtain rfl := Except.ok.inj hAfter
  have hAdded : node ∈ (resource.addBindings bindings).document.bound ↔
      node ∈ bindings.map (·.1) ∨ node ∈ resource.document.bound :=
    SortedMap.mem_keys_foldl_insert
  rw [hAdded, mem_map_of_newBindings hBindings]
  by_cases hBound : node ∈ resource.document.bound <;> simp [hBound]

/-- A new binding is to the backing that its node reaches the resource by. -/
theorem backing_of_newBindings {backing : String} :
    ∀ {nodes : List String} {bindings : List (String × String)},
      resource.newBindings pool nodes = .ok bindings → (node, backing) ∈ bindings →
        resource.backingFor pool node = .ok backing
  | [], bindings, h, hMem => by
    obtain rfl := Except.ok.inj h
    cases hMem
  | first :: rest, bindings, h, hMem => by
    unfold newBindings at h
    split at h
    · exact backing_of_newBindings h hMem
    · obtain ⟨found, hFound, hRest⟩ := Action.bind_eq_ok_iff.1 h
      obtain ⟨others, hOthers, hPure⟩ := Action.bind_eq_ok_iff.1 hRest
      obtain rfl := Except.ok.inj hPure
      rcases List.mem_cons.1 hMem with hFirst | hMem
      · obtain ⟨rfl, rfl⟩ := Prod.mk.inj hFirst
        exact hFound
      · exact backing_of_newBindings hOthers hMem

/-- **A binding that a bound resource has** it had before, or it is to the backing that the node
reaches the resource by. -/
theorem backing_of_bound {backing : String} (h : resource.bound pool nodes = .ok after)
    (hBinding : after.document.bindings.get? node = some backing) :
    resource.document.bindings.get? node = some backing ∨
      resource.backingFor pool node = .ok backing := by
  obtain ⟨bindings, hBindings, hAfter⟩ := Action.bind_eq_ok_iff.1 h
  obtain rfl := Except.ok.inj hAfter
  rcases SortedMap.of_get?_foldl_insert hBinding with hNew | hOld
  · exact .inr (backing_of_newBindings hBindings hNew)
  · exact .inl hOld

/-! ## Removing bindings -/

theorem mem_unbindTargets :
    node ∈ resource.unbindTargets nodes ↔
      node ∈ resource.document.bound ∧ (nodes = [] ∨ node ∈ nodes) := by
  unfold unbindTargets
  split
  · next hEmpty => simp [List.isEmpty_iff.1 hEmpty]
  · next hNodes =>
    rw [List.isEmpty_iff] at hNodes
    simp [hNodes, and_comm]

/-- Targets are named as often as the command names them. -/
theorem nodup_unbindTargets (h : nodes.Nodup) : (resource.unbindTargets nodes).Nodup := by
  unfold unbindTargets
  split
  · exact SortedMap.nodup_keys _
  · exact h.filter _

/-- **An unbound resource is bound to the nodes that were no targets**; if it is allocated, the
number of targets was not that of its bindings. -/
theorem mem_bound_of_unbound (h : resource.unbound nodes = .ok after) :
    (∀ node, node ∈ after.document.bound ↔
      node ∈ resource.document.bound ∧ node ∉ resource.unbindTargets nodes) ∧
    (resource.document.allocated = true → resource.document.bound ≠ [] →
      (resource.unbindTargets nodes).length ≠ resource.document.bound.length) := by
  unfold Resource.unbound at h
  dsimp only at h
  split at h
  · cases h
  · next hGuard =>
    obtain rfl := Except.ok.inj h
    refine ⟨fun node => ?_, fun hHeld hBound hLength => hGuard ⟨hHeld, hLength, hBound⟩⟩
    exact SortedMap.mem_keys_foldl_erase.trans and_comm

/-- A binding that an unbound resource has it had before. -/
theorem backing_of_unbound {backing : String} (h : resource.unbound nodes = .ok after)
    (hBinding : after.document.bindings.get? node = some backing) :
    resource.document.bindings.get? node = some backing := by
  unfold Resource.unbound at h
  dsimp only at h
  split at h
  · cases h
  · obtain rfl := Except.ok.inj h
    exact SortedMap.of_get?_foldl_erase hBinding

/-- Binding changes nothing but the bindings, ... -/
theorem eq_of_bound (h : resource.bound pool nodes = .ok after) :
    after = { resource with document.bindings := after.document.bindings } := by
  obtain ⟨bindings, -, hAfter⟩ := Action.bind_eq_ok_iff.1 h
  obtain rfl := Except.ok.inj hAfter
  rfl

/-- ... and so does unbinding. -/
theorem eq_of_unbound (h : resource.unbound nodes = .ok after) :
    after = { resource with document.bindings := after.document.bindings } := by
  unfold Resource.unbound at h
  dsimp only at h
  split at h
  · cases h
  · obtain rfl := Except.ok.inj h
    rfl

theorem allocated_of_unbound (h : resource.unbound nodes = .ok after) :
    after.document.allocated = resource.document.allocated := by
  rw [eq_of_unbound h]

theorem allocated_of_bound (h : resource.bound pool nodes = .ok after) :
    after.document.allocated = resource.document.allocated := by
  rw [eq_of_bound h]

/-- **When an allocated resource loses its last binding**: when every bound node is named, and so
often that the targets outnumber the bindings. -/
theorem unbound_strands_iff (h : resource.unbound nodes = .ok after)
    (hHeld : resource.document.allocated = true) (hBound : resource.document.bound ≠ []) :
    after.document.bound = [] ↔
      resource.document.bound ⊆ resource.unbindTargets nodes ∧
        resource.document.bound.length < (resource.unbindTargets nodes).length := by
  obtain ⟨hMem, hGuard⟩ := mem_bound_of_unbound h
  have hEmpty : after.document.bound = [] ↔
      resource.document.bound ⊆ resource.unbindTargets nodes := by
    rw [List.eq_nil_iff_forall_not_mem]
    constructor
    · intro hNone node hNode
      by_contra hKept
      exact hNone node ((hMem node).2 ⟨hNode, hKept⟩)
    · intro hAll node hNode
      exact ((hMem node).1 hNode).2 (hAll ((hMem node).1 hNode).1)
  rw [hEmpty]
  refine ⟨fun hAll => ⟨hAll, ?_⟩, And.left⟩
  -- the bound nodes differ, so that they are at most as many as the targets, and not as many
  have hAtMost : resource.document.bound.length ≤ (resource.unbindTargets nodes).length :=
    (List.subperm_of_subset (SortedMap.nodup_keys _) hAll).length_le
  exact Nat.lt_of_le_of_ne hAtMost (hGuard hHeld hBound).symm

/-! ## What a command does to the bindings -/

/-- The bindings stay as they are. -/
def SameBindings (before after : Linked σ Resource) : Prop :=
  after.object.document.bindings = before.object.document.bindings

instance : IsPreorder (Linked σ Resource) SameBindings where
  refl _ := rfl
  trans _ _ _ first second := Eq.trans second first

theorem askNode_sameBindings (method action : String) (args : Arguments) :
    (askNode agent pool method action args).Along SameBindings := by
  rintro ⟨resource, link⟩
  rcases askNode_cases agent pool method action args resource link with
    ⟨failure, hRun⟩ | ⟨node, -, ⟨failure, hRun, -⟩ | ⟨hRun, -⟩⟩ <;>
  · rw [hRun]
    rfl

theorem modifyObject_sameBindings {change : Resource → Resource}
    (h : ∀ resource, (change resource).document.bindings = resource.document.bindings) :
    (Linked.modifyObject change : Action (Linked σ Resource) Unit).Along SameBindings :=
  fun linked => h linked.object

theorem allocate_sameBindings (args : Arguments) :
    (allocate agent pool args).Along SameBindings := by
  apply Action.along_gets_bind
  intro linked
  split
  · exact Action.along_gets _ linked
  · refine Action.along_bind (askNode_sameBindings _ _ _) (fun out => ?_) linked
    exact Action.along_bind (modifyObject_sameBindings fun _ => rfl) fun _ => Action.along_gets _

theorem release_sameBindings (args : Arguments) :
    (release agent pool args).Along SameBindings := by
  apply Action.along_gets_bind
  intro linked
  split
  · refine Action.along_bind (askNode_sameBindings _ _ _) (fun out => ?_) linked
    exact Action.along_bind (modifyObject_sameBindings fun _ => rfl) fun _ => Action.along_pure _
  · exact Action.along_pure _ linked

theorem sync_sameBindings (args : Arguments) : (sync agent pool args).Along SameBindings := by
  refine Action.along_bind (askNode_sameBindings _ _ _) fun out => ?_
  exact Action.along_bind (modifyObject_sameBindings fun _ => rfl) fun _ => Action.along_gets _

theorem resize_sameBindings (size : SizeArgument) :
    (resize agent pool size).Along SameBindings := by
  apply Action.along_gets_bind
  intro linked
  dsimp only
  split
  · exact Action.along_fail _ linked
  · refine Action.along_bind (Action.along_liftM _) (fun requested => ?_) linked
    refine Action.along_bind (Action.along_liftM _) fun spec => ?_
    split
    · exact Action.along_fail _
    · have hResized : (Linked.modifyObject fun resource : Resource => resource.sized requested :
          Action (Linked σ Resource) Unit).Along SameBindings :=
        modifyObject_sameBindings fun _ => rfl
      split
      · refine Action.along_bind (askNode_sameBindings _ _ _) fun out => ?_
        exact Action.along_bind hResized fun _ => Action.along_gets _
      · exact Action.along_bind hResized fun _ => Action.along_gets _

/-- **Only `bind` and `unbind` change the bindings.** -/
theorem bindings_handle (agent : Agent σ) (pool : PoolDocument) (command : ResourceCommand)
    (resource : Resource) (link : Link σ) :
    SameBindings ⟨resource, link⟩ ((handle agent pool command).run ⟨resource, link⟩).2 ∨
      (∃ nodes, command = .bind nodes ∧ resource.bound pool nodes =
        .ok ((handle agent pool command).run ⟨resource, link⟩).2.object) ∨
      ∃ nodes, command = .unbind nodes ∧ resource.unbound nodes =
        .ok ((handle agent pool command).run ⟨resource, link⟩).2.object := by
  simp only [handle, Action.run_bind, Action.run_gets]
  split
  · cases command with
    | bind nodes =>
        simp only [bind, Action.run_bind, Action.run_gets, Action.run_liftM]
        cases hBound : resource.bound pool nodes with
        | error failure => exact .inl rfl
        | ok after => exact .inr (.inl ⟨nodes, rfl, hBound⟩)
    | unbind nodes =>
        simp only [unbind, Action.run_bind, Action.run_gets, Action.run_liftM]
        cases hUnbound : resource.unbound nodes with
        | error failure => exact .inl rfl
        | ok after => exact .inr (.inr ⟨nodes, rfl, hUnbound⟩)
    | allocate args => exact .inl (allocate_sameBindings args _)
    | release args => exact .inl (release_sameBindings args _)
    | sync args => exact .inl (sync_sameBindings args _)
    | resize size => exact .inl (resize_sameBindings size _)
  · exact .inl rfl

/-- A resource that could be bound is as `bound` has it, and no call was made. -/
theorem bound_of_run_bind {link : Link σ} {out : Json} {after : Linked σ Resource}
    (hRun : (handle agent pool (.bind nodes)).run ⟨resource, link⟩ = (.ok out, after)) :
    resource.bound pool nodes = .ok after.object ∧ after.link = link := by
  simp only [handle, supports, if_true, bind, Action.run_bind, Action.run_gets, Action.run_liftM]
    at hRun
  cases hBound : resource.bound pool nodes with
  | error failure =>
      rw [hBound] at hRun
      cases hRun
  | ok bound =>
      rw [hBound] at hRun
      cases hRun
      exact ⟨rfl, rfl⟩

/-- A resource that can be bound is bound. -/
theorem run_bind_of_bound {bound : Resource} (link : Link σ)
    (h : resource.bound pool nodes = .ok bound) :
    (handle agent pool (.bind nodes)).run ⟨resource, link⟩ =
      (.ok (Json.ofTexts bound.document.bound), ⟨bound, link⟩) := by
  simp only [handle, supports, if_true, bind, Action.run_bind, Action.run_gets, Action.run_liftM, h]
  rfl

/-! ## Anchored storage -/

/-- The storage of the resource, if there is any, can be reached through a bound node. -/
def Anchored (resource : Resource) : Prop :=
  resource.document.allocated = true → resource.document.bound ≠ []

/-- Storage is made through a bound node. -/
theorem Step.allocated_cases {before after : Linked σ Resource} (h : Step agent pool before after)
    (hHeld : after.object.document.allocated = true) :
    before.object.document.allocated = true ∨ before.object.document.bound ≠ [] := by
  cases h with
  | stayed => exact .inl hHeld
  | bound hBound => exact .inl (allocated_of_bound hBound ▸ hHeld)
  | unbound hUnbound => exact .inl (allocated_of_unbound hUnbound ▸ hHeld)
  | sized => exact .inl hHeld
  | declined => exact .inl hHeld
  | allocated _ hNode _ =>
      right
      intro hNone
      simp [firstBound, hNone] at hNode
  | released => cases hHeld
  | synced => exact .inl hHeld
  | grown => exact .inl hHeld

/-- **No command that names its nodes once takes the anchor away.** -/
theorem Anchored.handle (h : resource.Anchored) (agent : Agent σ) (pool : PoolDocument)
    (link : Link σ) {command : ResourceCommand} (hOnce : command.NamesOnce) :
    ((handle agent pool command).run ⟨resource, link⟩).2.object.Anchored := by
  intro hHeld
  have hBound : resource.document.bound ≠ [] := by
    rcases Step.allocated_cases (handle_step command) hHeld with hBefore | hBound
    · exact h hBefore
    · exact hBound
  rcases bindings_handle agent pool command resource link with
    hSame | ⟨nodes, -, hAfter⟩ | ⟨nodes, rfl, hAfter⟩
  · show SortedMap.keys _ ≠ []
    rw [hSame]
    exact hBound
  · obtain ⟨node, hNode⟩ := List.exists_mem_of_ne_nil _ hBound
    exact List.ne_nil_of_mem ((mem_bound_of_bound hAfter).2 (.inl hNode))
  · have hBefore : resource.document.allocated = true := allocated_of_unbound hAfter ▸ hHeld
    rw [Ne, unbound_strands_iff hAfter hBefore hBound]
    rintro ⟨-, hMore⟩
    -- targets that differ are at most as many as the bound nodes they are taken from
    have hAtMost : (resource.unbindTargets nodes).length ≤ resource.document.bound.length :=
      (List.subperm_of_subset (nodup_unbindTargets hOnce) fun node hNode =>
        (mem_unbindTargets.1 hNode).1).length_le
    omega

end Resource

end DiskFleet
