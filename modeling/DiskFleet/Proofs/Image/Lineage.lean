import DiskFleet.Proofs.Engine.Run
import DiskFleet.Proofs.Image.Clone
import DiskFleet.Proofs.Image.Object

/-!
# Where an image can come from

An image begins as a definition whose object is made, or as a clone of another image, and then goes
through commands. The world around it may change in any way between two of these, and so may the
settings and the agents: `Image.Reached` asks nothing of them but that a backup finds new names for
its layers.

## Main results

* `Image.wellFormed_of_clone`: the clone of a well-formed image is well formed;
* `Image.wellFormed_of_reached`: every image that is reached is well formed.
-/

namespace DiskFleet

variable {σ : Type}

namespace Image

/-- The last name of a clone is its name. -/
theorem getLast?_cloneOf (image : Image) (suffix id : String) (layers : Table Layer)
    (hNonempty : image.topology.names ≠ []) :
    (image.topology.names.map (Session.cloneName suffix)).getLast? =
      some (image.cloneOf suffix id layers).name := by
  have hNames : image.topology.names.map (Session.cloneName suffix) ≠ [] := by
    rw [ne_eq, List.map_eq_nil_iff]
    exact hNonempty
  rw [cloneOf, Topology.top?, Topology.names_ofNames, List.getLast?_eq_some_getLast hNames,
    Option.getD_some]

/-- **The clone of a well-formed image is well formed.** -/
theorem wellFormed_of_clone {agent : Agent σ} {settings : ImageSettings}
    {session after : Session σ} {made : Image} (h : session.image.WellFormed)
    (hRun : (Session.clone agent settings).run session = (.ok made, after)) :
    made.WellFormed := by
  obtain ⟨-, -, hMade⟩ := Session.clone_cases agent World.Admission.of_all settings hRun
  obtain ⟨id, layers, reached, noted, hLayers, rfl, -⟩ := hMade made rfl
  have hBuilt := Session.cloneLayers_built agent _ _ _ _ _ _ _ _ h.nodup hLayers
  generalize session.world.supply.nextSuffix settings.suffixLength = suffix at hBuilt ⊢
  obtain ⟨hOnly, hCopies⟩ := hBuilt
  have hInj : Function.Injective (Session.cloneName suffix) :=
    fun _ _ hSame => Session.cloneName_inj.1 hSame
  refine .of_chain rfl (h.nodup.map hInj) (getLast?_cloneOf _ _ id layers h.nonempty) hOnly
    fun i copyName hIndex => ?_
  rw [List.getElem?_map] at hIndex
  obtain ⟨name, hName, rfl⟩ := Option.map_eq_some_iff.1 hIndex
  obtain ⟨source, layerId, volume, hSource, hCopy⟩ := hCopies name (List.mem_of_getElem? hName)
  refine ⟨_, hCopy, rfl, rfl, ?_⟩
  -- the copy is backed by the copy of what its source is backed by
  show source.backing.map (Session.cloneName suffix) = _
  cases i with
  | zero =>
      have hBase : source.backing = none :=
        h.base (List.head?_eq_getElem?.trans hName) hSource
      rw [hBase, if_pos rfl]
      rfl
  | succ i =>
      have hLess : i < session.image.topology.names.length := by
        have := (List.getElem?_eq_some_iff.1 hName).1
        omega
      have hBelow : session.image.topology.names[i]? = some session.image.topology.names[i] :=
        List.getElem?_eq_getElem hLess
      have hNext := h.next hBelow hName hSource
      rw [hNext, if_neg (Nat.succ_ne_zero i), Nat.add_sub_cancel, List.getElem?_map, hBelow]

/-- The images that definitions, clones and commands lead to, whatever the commands answer. The
world, the settings and the agents may be others each time. -/
inductive Reached (σ : Type) : Image → Prop
  /-- The object of a definition was made, as far as that went. -/
  | created {registry : Registry} {settings : ImageSettings} {name : String} {params : Params}
      {document : Image} (agent : Agent σ) (id : String) (world : World σ) :
      Image.define registry settings name params = .ok document →
      (chainNames name params).Nodup →
      Reached σ ((Session.createObject agent).run ⟨{ document with id := some id }, world⟩).2.image
  /-- A command was carried out, as far as that went. -/
  | updated {image : Image} (agent : Agent σ) (settings : ImageSettings) (world : World σ)
      (command : ImageCommand) : Reached σ image →
      (∀ args, command = .backup args →
        Session.BackupsNew (world.supply.nextSuffix settings.suffixLength) image) →
      Reached σ ((Session.update agent settings command).run ⟨image, world⟩).2.image
  | cloned {image made : Image} {after : Session σ} (agent : Agent σ) (settings : ImageSettings)
      (world : World σ) : Reached σ image →
      (Session.clone agent settings).run ⟨image, world⟩ = (.ok made, after) → Reached σ made

/-- **Every image that is reached is well formed.** -/
theorem wellFormed_of_reached {image : Image} (h : image.Reached σ) : image.WellFormed := by
  induction h with
  | @created registry settings name params document agent id world hDefine hNodup =>
      have hDefined : document.WellFormed := wellFormed_of_define hNodup hDefine
      have hStart : ({ document with id := some id } : Image).WellFormed :=
        hDefined.congr rfl rfl fun _ => rfl
      have hShape : Session.SameShape ⟨{ document with id := some id }, world⟩ _ :=
        Session.createObject_sameShape agent _
      exact WellFormed.of_sameShape hStart hShape
  | @updated image agent settings world command hReached hNew ih =>
      have hEdits : Session.Edits agent (fun _ => True) ⟨image, world⟩
          ((Session.update agent settings command).run ⟨image, world⟩).2 :=
        Session.update_edits World.Admission.of_all ih settings command hNew
      exact Session.Edits.wellFormed ih hEdits
  | cloned agent settings world hReached hRun ih => exact wellFormed_of_clone ih hRun

/-- A chain of two layers that was backed up. -/
theorem wellFormed_of_reached_backup :
    ∃ image : Image, image.Reached Unit ∧
      image.layers.keys = ["base", "top", "base_backup_oooooooo", "top_backup_oooooooo"] ∧
      image.WellFormed := by
  have hDefine : Image.define Engine.pooled.world.registry Engine.pooled.settings "disk"
      (Engine.chainParams "base top") = .ok (Engine.chainImage "base top") := by rfl
  have hMade := Reached.created Agent.willing "i" Engine.pooled.world hDefine (by decide +kernel)
  have hBackup := hMade.updated Agent.willing Engine.pooled.settings
    ((Session.createObject Agent.willing).run
      ⟨{ Engine.chainImage "base top" with id := some "i" }, Engine.pooled.world⟩).2.world
    (.backup ∅) fun _ _ => by
      unfold Session.BackupsNew
      decide +kernel
  exact ⟨_, hBackup, by decide +kernel, wellFormed_of_reached hBackup⟩

end Image

end DiskFleet
