import DiskFleet.Proofs.Engine.Run
import DiskFleet.Proofs.Image.Object

/-!
# The chain of a defined image

The parameters of an image list its chain as text. The definition keeps the chain twice, as the list
of names in the topology and as a table of layers that point to each other, and every later
operation on the chain relies on the two saying the same. `Image.PlainChain` is what a client may
expect of them.

They do say the same exactly if no name is listed twice. `add` and `rebase` refuse a name that an
image has already, but the definition does not look: a second layer of a name takes the place of the
first, and is backed by the layer of that name, itself.

## Main results

* `Image.plainChain_of_define`: when the two agree;
* `Image.selfBacked_of_repeated_name`: a chain that lists a name twice.
-/

namespace DiskFleet

namespace Image

/-- The names and the layers of an image are one chain, and there is nothing else. -/
structure PlainChain (image : Image) : Prop where
  nonempty : image.topology.names ≠ []
  nodup : image.topology.names.Nodup
  stored : ∀ {name}, name ∈ image.topology.names → image.layers.contains name = true
  top : image.topology.names.getLast? = some image.name
  base : ∀ {name layer}, image.topology.names.head? = some name →
    image.layers.get? name = some layer → layer.backing = none
  next : ∀ {i below name layer}, image.topology.names[i]? = some below →
    image.topology.names[i + 1]? = some name → image.layers.get? name = some layer →
    layer.backing = some below
  irreflexive : ∀ {name layer}, image.layers.get? name = some layer → layer.backing ≠ some name
  count : image.layers.keys.length = image.topology.names.length

/-- No layer of a well-formed image is backed by itself. -/
theorem WellFormed.backing_ne_self {image : Image} (h : image.WellFormed) {name : String}
    {layer : Layer} (hLayer : image.layers.get? name = some layer) :
    layer.backing ≠ some name := by
  intro hSelf
  by_cases hMem : name ∈ image.topology.names
  · obtain ⟨i, hIndex⟩ := List.mem_iff_getElem?.1 hMem
    cases i with
    | zero =>
        have hBase := h.base (List.head?_eq_getElem?.trans hIndex) hLayer
        rw [hBase] at hSelf
        cases hSelf
    | succ i =>
        have hLess : i + 1 < image.topology.names.length := (List.getElem?_eq_some_iff.1 hIndex).1
        have hBelow : image.topology.names[i]? = some image.topology.names[i] :=
          List.getElem?_eq_getElem (Nat.lt_of_succ_lt hLess)
        rw [h.next hBelow hIndex hLayer, ← hBelow, ← hIndex] at hSelf
        -- one name would have two places in the chain
        have hSame : i = i + 1 :=
          (List.getElem?_inj (Nat.lt_of_succ_lt hLess) h.nodup).1 hSelf
        omega
  · rw [(h.outside hLayer hMem).1] at hSelf
    cases hSelf

/-- Layers of new names are stored in the order of the names. -/
theorem keys_of_defineLayers {registry : Registry} {settings : ImageSettings} {params : Params}
    (names : List String) :
    ∀ {layers result : Table Layer} {backing : Option String}, names.Nodup →
      (∀ name ∈ names, layers.contains name = false) →
      defineLayers registry settings params layers backing names = .ok result →
      result.keys = layers.keys ++ names := by
  induction names with
  | nil =>
      intro layers result backing _ _ h
      obtain rfl := Except.ok.inj h
      exact (List.append_nil _).symm
  | cons first rest ih =>
      intro layers result backing hNodup hNew h
      obtain ⟨hFirst, hRest⟩ := List.nodup_cons.1 hNodup
      obtain ⟨layer, -, hLayers⟩ := Action.bind_eq_ok_iff.1 h
      have hStill : ∀ name ∈ rest,
          (layers.insert first { layer with backing }).contains name = false := by
        intro name hName
        have hNe : name ≠ first := by
          rintro rfl
          exact hFirst hName
        rw [Table.contains, Table.get?_insert, if_neg hNe]
        exact hNew name (List.mem_cons_of_mem _ hName)
      rw [ih hRest hStill hLayers,
        Table.keys_insert_of_not_contains (hNew first List.mem_cons_self), List.append_assoc,
        List.singleton_append]

/-- An image is defined with the names that its parameters list, in their order. -/
theorem names_of_define {registry : Registry} {settings : ImageSettings} {name : String}
    {params : Params} {image : Image}
    (h : Image.define registry settings name params = .ok image) :
    image.topology.names = chainNames name params := by
  obtain ⟨layers, -, hImage⟩ := Action.bind_eq_ok_iff.1 h
  obtain rfl := Except.ok.inj hImage
  exact Topology.names_ofNames _

/-- A listed name has at least one character. -/
theorem ne_empty_of_mem_objects {params : Params} {key word : String}
    (h : word ∈ params.objects key) : word ≠ "" := by
  unfold Params.objects at h
  split at h
  · cases h
  · obtain ⟨chars, hChars, rfl⟩ := List.mem_map.1 h
    simpa using Text.ne_nil_of_mem_wordsFrom _ _ hChars

/-- **A defined image is a plain chain exactly if its chain lists no name twice**, whatever the
other parameters are. A name is empty only if the image was to have it. -/
theorem plainChain_of_define {registry : Registry} {settings : ImageSettings} {name : String}
    {params : Params} {image : Image}
    (h : Image.define registry settings name params = .ok image) :
    (image.PlainChain ↔ (chainNames name params).Nodup) ∧
      ("" ∈ image.topology.names → name = "") := by
  have hNames := names_of_define h
  refine ⟨⟨fun hPlain => hNames ▸ hPlain.nodup, fun hNodup => ?_⟩, fun hEmpty => ?_⟩
  · have hFormed : image.WellFormed := wellFormed_of_define hNodup h
    obtain ⟨layers, hLayers, hImage⟩ := Action.bind_eq_ok_iff.1 h
    have hKeys : image.layers.keys = chainNames name params := by
      obtain rfl := Except.ok.inj hImage
      exact keys_of_defineLayers _ hNodup (fun _ _ => rfl) hLayers
    constructor
    case nonempty => exact hFormed.nonempty
    case nodup => exact hFormed.nodup
    case stored =>
      intro other hMem
      obtain ⟨layer, hLayer⟩ := hFormed.stored hMem
      rw [Table.contains, hLayer]
      rfl
    case top => exact hFormed.top
    case base => exact hFormed.base
    case next => exact hFormed.next
    case irreflexive => exact hFormed.backing_ne_self
    case count => rw [hKeys, hNames]
  · rw [hNames, chainNames] at hEmpty
    split at hEmpty
    · exact (List.mem_singleton.1 hEmpty).symm
    · exact absurd rfl (ne_empty_of_mem_objects hEmpty)

/-- A chain of two layers. -/
theorem plainChain_of_define_chain :
    Image.define Engine.pooled.world.registry Engine.pooled.settings "disk"
        (Engine.chainParams "base top") = .ok (Engine.chainImage "base top") ∧
      (Engine.chainImage "base top").PlainChain := by
  have hDefine : Image.define Engine.pooled.world.registry Engine.pooled.settings "disk"
      (Engine.chainParams "base top") = .ok (Engine.chainImage "base top") := by rfl
  exact ⟨hDefine, (plainChain_of_define hDefine).1.2 (by decide +kernel)⟩

/-- **A chain that lists a name twice** is defined as one layer that is backed by itself. -/
theorem selfBacked_of_repeated_name :
    Image.define Engine.pooled.world.registry Engine.pooled.settings "disk"
        (Engine.chainParams "a a") = .ok (Engine.chainImage "a a") ∧
      (Engine.chainImage "a a").topology.names = ["a", "a"] ∧
      (Engine.chainImage "a a").layers.keys = ["a"] ∧
      ((Engine.chainImage "a a").layers.get? "a").map Layer.backing = some (some "a") ∧
      ¬(Engine.chainImage "a a").PlainChain := by
  have hNames : (Engine.chainImage "a a").topology.names = ["a", "a"] := by decide +kernel
  refine ⟨by rfl, hNames, by decide +kernel, by decide +kernel, fun hPlain => ?_⟩
  have hNodup := hPlain.nodup
  rw [hNames] at hNodup
  exact absurd hNodup (by decide)

end Image

end DiskFleet
