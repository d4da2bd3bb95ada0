import DiskFleet.Proofs.Registry.Twin
import DiskFleet.Proofs.Text.FileName

/-!
# Where copies lie

A copy forgets where its source lies. It lies where the pool puts it: a file volume under a file
name with the suffix, a device or a network image under a name that ends in it
(`Resource.volumeBacking_copiedAs`).

So the copies of two volumes lie apart if the pools would put the volumes apart, as long as the file
names lead into no directories (`Resource.place_inj`). A device and a file in the directory of that
device are a case of their own: the suffix is behind the name of the one and inside the name of the
other.

## Main results

* `Resource.place_inj`: places of copies tell the places of their sources;
* `Resource.TwinOf.backing_inj`: twins in one place have sources in one place.
-/

namespace DiskFleet

namespace Resource

/-- The resource without what is known of where it lies. -/
def unplaced (resource : Resource) : Resource :=
  { resource with document.spec := resource.document.spec.mapVolume fun spec =>
      { spec with uri := none } }

/-- A volume that lies where the pool puts it, on every node that it is bound to. -/
def LaidOut (pool : PoolDocument) (resource : Resource) : Prop :=
  resource.behaviour = .volume ∧ ∀ binding ∈ resource.document.bindings.entries,
    resource.unplaced.volumeBacking pool = .ok binding.2

instance (result : Except Failure String) (place : String) : Decidable (result = .ok place) :=
  match result with
  | .ok found => decidable_of_iff (found = place) (by simp)
  | .error _ => isFalse nofun

instance (pool : PoolDocument) (resource : Resource) : Decidable (resource.LaidOut pool) :=
  inferInstanceAs (Decidable (resource.behaviour = .volume ∧
    ∀ binding ∈ resource.document.bindings.entries,
      resource.unplaced.volumeBacking pool = .ok binding.2))

/-- The file name of a file volume. -/
def fileName? (resource : Resource) : Option String :=
  if resource.volumeKind = .file then resource.document.spec.volume?.bind (·.filename) else none

/-- What stands in front of the names of devices and network images in a pool. -/
def deviceFolder? (pool : PoolDocument) : VolumeKind → Option String
  | .file => none
  | .block => pool.spec.lvm.map fun lvm => "/dev/" ++ lvm.volumeGroup ++ "/"
  | .network => pool.spec.rbd.map fun rbd =>
    if rbd.subspace.isEmpty then "rbd:" ++ rbd.poolName ++ "/"
    else "rbd:" ++ rbd.poolName ++ "/" ++ rbd.subspace ++ "/"

section volumeBacking

variable {pool : PoolDocument} {resource : Resource} {spec : VolumeSpec} {place : String}

/-- A file that is not known to lie elsewhere lies in the directory of its pool. -/
theorem volumeBacking_file (hSpec : resource.document.spec = .volume spec)
    (hKind : resource.volumeKind = .file) (hUri : spec.uri = none) :
    resource.volumeBacking pool = .ok place ↔
      ∃ filesystem filename, pool.spec.filesystem = some filesystem ∧
        spec.filename = some filename ∧ FilePath.join filesystem.path filename = place := by
  obtain ⟨size, allocation, uri, filename⟩ := spec
  obtain rfl : uri = none := hUri
  have hVolume : resource.volumeSpec = .ok ⟨size, allocation, none, filename⟩ := by
    rw [volumeSpec, hSpec]
    rfl
  rw [volumeBacking, hVolume, hKind]
  cases pool.spec.filesystem <;> cases filename <;>
  simp [Bind.bind, Except.bind, pure, Except.pure, throw, throwThe, MonadExceptOf.throw]

/-- The place of a device ends in its name. -/
theorem volumeBacking_device (hSpec : resource.document.spec = .volume spec)
    (hKind : resource.volumeKind ≠ .file) :
    resource.volumeBacking pool = .ok place ↔
      ∃ folder, deviceFolder? pool resource.volumeKind = some folder ∧
        folder ++ resource.document.name = place := by
  have hVolume : resource.volumeSpec = .ok spec := by
    rw [volumeSpec, hSpec]
    rfl
  rw [volumeBacking, hVolume]
  cases hClass : resource.volumeKind with
  | file => exact absurd hClass hKind
  | block =>
      cases hGroup : pool.spec.lvm <;>
      simp [deviceFolder?, hGroup, Bind.bind, Except.bind, pure, Except.pure, throw, throwThe,
        MonadExceptOf.throw]
  | network =>
      cases hSpace : pool.spec.rbd with
      | none =>
          simp [deviceFolder?, hSpace, Bind.bind, Except.bind, throw, throwThe,
            MonadExceptOf.throw]
      | some rbd =>
          by_cases hBare : rbd.subspace = "" <;>
          simp [deviceFolder?, hSpace, hBare, Bind.bind, Except.bind, pure, Except.pure]

end volumeBacking

variable {pool otherPool : PoolDocument} {source other twin otherTwin : Resource}
  {poolId otherPoolId suffix id otherId place copyPlace : String}

/-- **Where a copy lies**, by the place that the pool has for its source. -/
theorem volumeBacking_copiedAs (hVolume : source.behaviour = .volume)
    (h : (source.copiedAs poolId suffix id).volumeBacking pool = .ok copyPlace) :
    (∃ directory filename, source.fileName? = some filename ∧
      source.unplaced.volumeBacking pool = .ok (FilePath.join directory filename) ∧
      copyPlace = FilePath.join directory (FilePath.withSuffix filename suffix)) ∨
    (source.fileName? = none ∧ ∃ place, source.unplaced.volumeBacking pool = .ok place ∧
      copyPlace = place ++ "_" ++ suffix) := by
  cases hSpec : source.document.spec with
  | port spec =>
      have hNone : (source.copiedAs poolId suffix id).document.spec.volume? = none := by
        simp [copiedAs, copied, hVolume, hSpec, ResourceSpec.mapVolume, ResourceSpec.volume?]
      rw [volumeBacking, volumeSpec, hNone] at h
      cases h
  | volume spec =>
      have hCopied : (source.copiedAs poolId suffix id).document.spec =
          .volume (copiedVolume suffix spec) := by
        simp [copiedAs, copied, hVolume, hSpec, ResourceSpec.mapVolume]
      have hUnplaced : source.unplaced.document.spec = .volume { spec with uri := none } := by
        simp [unplaced, hSpec, ResourceSpec.mapVolume]
      have hCopyKind : (source.copiedAs poolId suffix id).volumeKind = source.volumeKind := rfl
      have hSameKind : source.unplaced.volumeKind = source.volumeKind := rfl
      by_cases hKind : source.volumeKind = .file
      · obtain ⟨filesystem, copyName, hFilesystem, hCopyName, rfl⟩ :=
          (volumeBacking_file hCopied (hCopyKind.trans hKind) rfl).1 h
        obtain ⟨filename, hFilename, rfl⟩ := Option.map_eq_some_iff.1 hCopyName
        refine .inl ⟨filesystem.path, filename, ?_, ?_, rfl⟩
        · rw [fileName?, if_pos hKind, hSpec]
          exact hFilename
        · exact (volumeBacking_file hUnplaced (hSameKind.trans hKind) rfl).2
            ⟨filesystem, filename, hFilesystem, hFilename, rfl⟩
      · obtain ⟨folder, hFolder, rfl⟩ :=
          (volumeBacking_device hCopied (hCopyKind ▸ hKind)).1 h
        refine .inr ⟨if_neg hKind, folder ++ source.document.name, ?_, ?_⟩
        · exact (volumeBacking_device hUnplaced (hSameKind ▸ hKind)).2 ⟨folder, hFolder, rfl⟩
        · have hName : (source.copiedAs poolId suffix id).document.name =
              source.document.name ++ "_" ++ suffix := rfl
          rw [hName, String.append_assoc, String.append_assoc, String.append_assoc]

/-- The suffix is made of letters and digits. -/
def Alphanumeric (suffix : String) : Prop := ∀ c ∈ suffix.toList, c.isAlphanum = true

/-- A file name leads into no directory. If it ends in the suffix, then the other volume has a file
name, too. -/
def Simple (suffix : String) (resource other : Resource) : Prop :=
  ∀ filename, resource.fileName? = some filename → FilePath.Plain filename ∧
    ((∃ front, filename = front ++ "_" ++ suffix) → other.fileName? ≠ none)

/-- **Copies in one place have sources in one place**, as far as the pools decide that. -/
theorem place_inj (hSuffix : Alphanumeric suffix) (hSimple : source.Simple suffix other)
    (hOtherSimple : other.Simple suffix source) (hVolume : source.behaviour = .volume)
    (hOtherVolume : other.behaviour = .volume)
    (h : (source.copiedAs poolId suffix id).volumeBacking pool = .ok copyPlace)
    (hOther : (other.copiedAs otherPoolId suffix otherId).volumeBacking otherPool = .ok copyPlace) :
    ∃ place, source.unplaced.volumeBacking pool = .ok place ∧
      other.unplaced.volumeBacking otherPool = .ok place := by
  have hNoDot : '.' ∉ suffix.toList := fun hMem => absurd (hSuffix '.' hMem) (by decide)
  have hPlain : FilePath.Plain suffix := fun hMem => absurd (hSuffix '/' hMem) (by decide)
  rcases volumeBacking_copiedAs hVolume h with
    ⟨directory, filename, hName, hPlace, hCopy⟩ | ⟨hDevice, place, hPlace, hCopy⟩ <;>
  rcases volumeBacking_copiedAs hOtherVolume hOther with
    ⟨otherDirectory, otherFilename, hOtherName, hOtherPlace, hOtherCopy⟩ |
      ⟨hOtherDevice, otherPlace, hOtherPlace, hOtherCopy⟩
  · -- two files
    obtain ⟨hBare, -⟩ := hSimple filename hName
    obtain ⟨hOtherBare, -⟩ := hOtherSimple otherFilename hOtherName
    obtain ⟨hFolder, hSame⟩ := FilePath.join_inj (FilePath.plain_withSuffix hBare hPlain)
      (FilePath.plain_withSuffix hOtherBare hPlain) (hCopy.symm.trans hOtherCopy)
    obtain rfl := FilePath.withSuffix_inj hNoDot hBare hOtherBare hSame
    refine ⟨_, hPlace, ?_⟩
    rw [hOtherPlace, FilePath.join_of_plain _ hBare, FilePath.join_of_plain _ hBare, hFolder]
  · -- a file and a device
    obtain ⟨hBare, hUnmarked⟩ := hSimple filename hName
    rcases FilePath.of_join_withSuffix hBare hPlain hNoDot (hCopy.symm.trans hOtherCopy) with
      hSame | hMarked
    · exact ⟨_, hPlace, hSame ▸ hOtherPlace⟩
    · exact absurd hOtherDevice (hUnmarked hMarked)
  · -- a device and a file
    obtain ⟨hBare, hUnmarked⟩ := hOtherSimple otherFilename hOtherName
    rcases FilePath.of_join_withSuffix hBare hPlain hNoDot (hOtherCopy.symm.trans hCopy) with
      hSame | hMarked
    · exact ⟨_, hSame ▸ hPlace, hOtherPlace⟩
    · exact absurd hDevice (hUnmarked hMarked)
  · -- two devices
    rw [hCopy, String.append_left_inj, String.append_left_inj] at hOtherCopy
    subst hOtherCopy
    exact ⟨_, hPlace, hOtherPlace⟩

variable {node otherNode backing : String}

/-- The binding of a twin is to the place of the copy, which its source was bound on. -/
theorem TwinOf.placed (h : TwinOf pool poolId suffix id source twin)
    (hLaid : source.LaidOut pool) (hBound : source.document.bound ≠ [])
    (hBinding : (node, backing) ∈ twin.document.bindings.entries) :
    (source.copiedAs poolId suffix id).volumeBacking pool = .ok backing ∧
      ∃ place, (node, place) ∈ source.document.bindings.entries ∧
        source.unplaced.volumeBacking pool = .ok place := by
  constructor
  · have hBacking := h.backingFor (SortedMap.mem_entries_iff.1 hBinding)
    have hCopy : (source.copiedAs poolId suffix id).behaviour = .volume := hLaid.1
    rw [Resource.backingFor, hCopy] at hBacking
    exact hBacking
  · have hNode : node ∈ twin.document.bound := List.mem_map_of_mem (f := (·.1)) hBinding
    obtain ⟨⟨_, place⟩, hPlace, rfl⟩ := List.mem_map.1 ((h.mem_bound hBound).1 hNode)
    exact ⟨place, hPlace, hLaid.2 _ hPlace⟩

/-- **Twins with the same backing** have sources with the same backing, on the same nodes. -/
theorem TwinOf.backing_inj (h : TwinOf pool poolId suffix id source twin)
    (hOther : TwinOf otherPool otherPoolId suffix otherId other otherTwin)
    (hSuffix : Alphanumeric suffix) (hSimple : source.Simple suffix other)
    (hOtherSimple : other.Simple suffix source) (hLaid : source.LaidOut pool)
    (hOtherLaid : other.LaidOut otherPool) (hBound : source.document.bound ≠ [])
    (hOtherBound : other.document.bound ≠ [])
    (hBinding : (node, backing) ∈ twin.document.bindings.entries)
    (hOtherBinding : (otherNode, backing) ∈ otherTwin.document.bindings.entries) :
    ∃ place, (node, place) ∈ source.document.bindings.entries ∧
      (otherNode, place) ∈ other.document.bindings.entries := by
  obtain ⟨hCopy, place, hPlace, hUnplaced⟩ := h.placed hLaid hBound hBinding
  obtain ⟨hOtherCopy, otherPlace, hOtherPlace, hOtherUnplaced⟩ :=
    hOther.placed hOtherLaid hOtherBound hOtherBinding
  obtain ⟨same, hSame, hOtherSame⟩ :=
    place_inj hSuffix hSimple hOtherSimple hLaid.1 hOtherLaid.1 hCopy hOtherCopy
  obtain rfl := Except.ok.inj (hUnplaced.symm.trans hSame)
  obtain rfl := Except.ok.inj (hOtherUnplaced.symm.trans hOtherSame)
  exact ⟨_, hPlace, hOtherPlace⟩

end Resource

end DiskFleet
