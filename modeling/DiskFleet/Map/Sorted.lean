import DiskFleet.Map.Lookup

/-!
# Maps in key order

Bindings, parameters and bridge interfaces are read back in the order of their keys, whatever
order they were written in. `SortedMap` keeps its entries strictly increasing by key, so it has
one representation per finite map: two sorted maps with the same look-ups are equal (`ext_get?`),
and "exactly what it was before" needs no notion of equivalence.

Keys are compared as texts, character by character in code point order; on UTF-8 text that is the
order of the bytes.

## Main results

* `SortedMap.get?_insert`, `SortedMap.get?_erase`: an update is seen at its own key and nowhere
  else;
* `SortedMap.get?_ofList`: a map finds what the list does that it was made from;
* `SortedMap.ext_get?`: look-ups determine the map;
* `SortedMap.ofList_entries`: so do its entries;
* `SortedMap.perm_ofList`: entries without a repeated key are those of their map, in key order.
-/

namespace DiskFleet

/-- Entries in strictly increasing key order. -/
def Increasing {α : Type} (entries : List (String × α)) : Prop :=
  entries.Pairwise fun a b => a.1 < b.1

/-- Entries with `key` bound to `value`: an entry of that key is replaced, a new one goes before the
first greater key. -/
def insertSorted {α : Type} (key : String) (value : α) : List (String × α) → List (String × α)
  | [] => [(key, value)]
  | entry :: rest =>
    if key < entry.1 then (key, value) :: entry :: rest
    else if key = entry.1 then (key, value) :: rest
    else entry :: insertSorted key value rest

/-- Every entry of the result is the new one or an old one. -/
theorem mem_insertSorted {α : Type} {key : String} {value : α} {entry : String × α} :
    ∀ {entries : List (String × α)},
      entry ∈ insertSorted key value entries → entry = (key, value) ∨ entry ∈ entries
  | [], h => by simpa [insertSorted] using h
  | first :: rest, h => by
    unfold insertSorted at h
    split at h
    · simpa using h
    · split at h
      · rcases List.mem_cons.1 h with h | h
        · exact .inl h
        · exact .inr (List.mem_cons_of_mem _ h)
      · rcases List.mem_cons.1 h with h | h
        · exact .inr (h ▸ List.mem_cons_self)
        · exact (mem_insertSorted h).imp_right (List.mem_cons_of_mem _)

/-- A key greater than all others goes to the end. -/
theorem insertSorted_of_forall_lt {α : Type} {key : String} {value : α} :
    ∀ {entries : List (String × α)}, (∀ entry ∈ entries, entry.1 < key) →
      insertSorted key value entries = entries ++ [(key, value)]
  | [], _ => rfl
  | first :: rest, h => by
    have hfirst := h first List.mem_cons_self
    have hlt : ¬ key < first.1 := fun hkey =>
      String.lt_irrefl _ (String.lt_trans hfirst hkey)
    have hne : key ≠ first.1 := fun heq => String.lt_irrefl key (heq.symm ▸ hfirst)
    have ih : insertSorted key value rest = rest ++ [(key, value)] :=
      insertSorted_of_forall_lt fun entry hentry => h entry (List.mem_cons_of_mem _ hentry)
    rw [insertSorted, if_neg hlt, if_neg hne, ih]
    rfl

theorem Increasing.insertSorted {α : Type} {key : String} {value : α} :
    ∀ {entries : List (String × α)},
      Increasing entries → Increasing (insertSorted key value entries)
  | [], _ => by simp [Increasing, DiskFleet.insertSorted]
  | first :: rest, h => by
    have hfirst := List.pairwise_cons.1 h
    unfold DiskFleet.insertSorted
    split
    · next hlt =>
      refine List.pairwise_cons.2 ⟨fun entry hentry => ?_, h⟩
      rcases List.mem_cons.1 hentry with rfl | hentry
      · exact hlt
      · exact String.lt_trans hlt (hfirst.1 entry hentry)
    · split
      · next heq =>
        refine List.pairwise_cons.2 ⟨fun entry hentry => ?_, hfirst.2⟩
        exact heq ▸ hfirst.1 entry hentry
      · next hlt hne =>
        refine List.pairwise_cons.2 ⟨fun entry hentry => ?_, Increasing.insertSorted hfirst.2⟩
        rcases mem_insertSorted hentry with rfl | hentry
        · rcases Std.lt_trichotomy first.1 key with h' | h' | h'
          · exact h'
          · exact absurd h'.symm hne
          · exact absurd h' hlt
        · exact hfirst.1 entry hentry

/-- A finite map from texts, kept in key order. -/
structure SortedMap (α : Type) where
  entries : List (String × α)
  increasing : Increasing entries
deriving DecidableEq

namespace SortedMap

variable {α β : Type}

/-- The map without entries. -/
def empty : SortedMap α := ⟨[], List.Pairwise.nil⟩

instance : EmptyCollection (SortedMap α) := ⟨empty⟩
instance : Inhabited (SortedMap α) := ⟨empty⟩

/-- The value bound to `key`. -/
def get? (map : SortedMap α) (key : String) : Option α :=
  map.entries.lookup key

/-- Whether `key` is bound. -/
def contains (map : SortedMap α) (key : String) : Bool :=
  (map.get? key).isSome

/-- The map with `key` bound to `value`. -/
def insert (map : SortedMap α) (key : String) (value : α) : SortedMap α :=
  ⟨insertSorted key value map.entries, map.increasing.insertSorted⟩

/-- The entries that satisfy `keep`. -/
def filter (map : SortedMap α) (keep : String → Bool) : SortedMap α :=
  ⟨map.entries.filter fun entry => keep entry.1, map.increasing.filter _⟩

/-- The map without `key`. -/
def erase (map : SortedMap α) (key : String) : SortedMap α :=
  map.filter (· ≠ key)

/-- The map that holds the given entries; of two with one key the later wins. -/
def ofList (entries : List (String × α)) : SortedMap α :=
  entries.foldl (fun map entry => map.insert entry.1 entry.2) empty

/-- Every key, in order. -/
def keys (map : SortedMap α) : List String := map.entries.map (·.1)

/-- Every value, in the order of the keys. -/
def values (map : SortedMap α) : List α := map.entries.map (·.2)

def isEmpty (map : SortedMap α) : Bool := map.entries.isEmpty

/-! ## Look-ups after an update -/

theorem lookup_insertSorted (key other : String) (value : α) :
    ∀ entries : List (String × α),
      (insertSorted key value entries).lookup other =
        if other = key then some value else entries.lookup other
  | [] => by rw [insertSorted, lookup_cons_eq]
  | entry :: rest => by
    have ih := lookup_insertSorted key other value rest
    unfold insertSorted
    split
    · rw [lookup_cons_eq]
    · split
      · next heq =>
        rw [lookup_cons_eq, lookup_cons_eq, ← heq]
        by_cases h : other = key <;> simp [h]
      · next hne =>
        rw [lookup_cons_eq, ih, lookup_cons_eq]
        by_cases h : other = key
        · subst h; simp [hne]
        · simp [h]

/-- **A binding is seen at its own key and nowhere else.** -/
@[simp] theorem get?_insert (map : SortedMap α) (key other : String) (value : α) :
    (map.insert key value).get? other = if other = key then some value else map.get? other :=
  lookup_insertSorted key other value map.entries

@[simp] theorem get?_empty (key : String) : (empty : SortedMap α).get? key = none := rfl

@[simp] theorem get?_filter (map : SortedMap α) (keep : String → Bool) (key : String) :
    (map.filter keep).get? key = if keep key then map.get? key else none :=
  lookup_filter_key keep key map.entries

/-- **An erased key is unbound, every other is as before.** -/
@[simp] theorem get?_erase (map : SortedMap α) (key other : String) :
    (map.erase key).get? other = if other = key then none else map.get? other := by
  by_cases h : other = key <;> simp [erase, h]

/-! ## The keys -/

/-- The keys are the texts that are bound. -/
theorem contains_iff_mem_keys (map : SortedMap α) (key : String) :
    map.contains key = true ↔ key ∈ map.keys :=
  lookup_isSome_iff

theorem nodup_keys (map : SortedMap α) : map.keys.Nodup := by
  have hIncreasing : map.keys.Pairwise (· < ·) := List.pairwise_map.2 map.increasing
  refine hIncreasing.imp ?_
  rintro key _ hLess rfl
  exact String.lt_irrefl key hLess

/-- The entries are what look-ups find. -/
theorem mem_entries_iff {map : SortedMap α} {key : String} {value : α} :
    (key, value) ∈ map.entries ↔ map.get? key = some value :=
  ⟨lookup_of_mem map.nodup_keys, mem_of_lookup⟩

/-- The first key is the least. -/
theorem le_of_keys_eq_cons {map : SortedMap α} {first key : String} {rest : List String}
    (h : map.keys = first :: rest) (hKey : key ∈ map.keys) : first ≤ key := by
  have hIncreasing : map.keys.Pairwise (· < ·) := List.pairwise_map.2 map.increasing
  rw [h] at hIncreasing hKey
  rcases List.mem_cons.1 hKey with rfl | hRest
  · exact String.le_refl _
  · exact String.not_lt.1 (String.lt_asymm ((List.pairwise_cons.1 hIncreasing).1 key hRest))

/-- The first key has the first value. -/
theorem get?_of_keys_eq_cons {map : SortedMap α} {first : String} {rest : List String}
    (h : map.keys = first :: rest) :
    ∃ value, map.get? first = some value ∧ map.values.head? = some value := by
  have hKeys : map.entries.map (·.1) = first :: rest := h
  cases hEntries : map.entries with
  | nil =>
      rw [hEntries] at hKeys
      cases hKeys
  | cons entry others =>
      rw [hEntries] at hKeys
      obtain ⟨rfl, -⟩ := List.cons.inj hKeys
      refine ⟨entry.2, ?_, by simp [values, hEntries]⟩
      rw [get?, hEntries, lookup_cons_eq, if_pos rfl]

@[simp] theorem mem_keys_insert {map : SortedMap α} {key other : String} {value : α} :
    other ∈ (map.insert key value).keys ↔ other = key ∨ other ∈ map.keys := by
  simp only [← contains_iff_mem_keys, contains, get?_insert]
  split <;> simp_all

@[simp] theorem mem_keys_erase {map : SortedMap α} {key other : String} :
    other ∈ (map.erase key).keys ↔ other ≠ key ∧ other ∈ map.keys := by
  simp only [← contains_iff_mem_keys, contains, get?_erase]
  split <;> simp_all

theorem mem_keys_foldl_insert {other : String} :
    ∀ {entries : List (String × α)} {map : SortedMap α},
      other ∈ (entries.foldl (fun map entry => map.insert entry.1 entry.2) map).keys ↔
        other ∈ entries.map (·.1) ∨ other ∈ map.keys
  | [], _ => by simp
  | entry :: rest, map => by
    rw [List.foldl_cons, mem_keys_foldl_insert, mem_keys_insert, List.map_cons, List.mem_cons,
      or_left_comm, or_assoc]

/-- What is found after entries were inserted is one of them, or was found before. -/
theorem of_get?_foldl_insert {key : String} {value : α} :
    ∀ {entries : List (String × α)} {map : SortedMap α},
      (entries.foldl (fun map entry => map.insert entry.1 entry.2) map).get? key = some value →
        (key, value) ∈ entries ∨ map.get? key = some value
  | [], _, h => .inr h
  | entry :: rest, map, h => by
    rw [List.foldl_cons] at h
    rcases of_get?_foldl_insert h with hRest | hMap
    · exact .inl (List.mem_cons_of_mem _ hRest)
    · rw [get?_insert] at hMap
      split at hMap
      · next heq =>
        obtain rfl := Option.some.inj hMap
        exact .inl (by rw [heq]; exact List.mem_cons_self)
      · exact .inr hMap

/-- A key that is not among the entries that are inserted is found as before. -/
theorem get?_foldl_insert_of_not_mem {key : String} :
    ∀ {entries : List (String × α)} {map : SortedMap α}, key ∉ entries.map (·.1) →
      (entries.foldl (fun map entry => map.insert entry.1 entry.2) map).get? key = map.get? key
  | [], _, _ => rfl
  | entry :: rest, map, h => by
    rw [List.map_cons, List.mem_cons, not_or] at h
    rw [List.foldl_cons, get?_foldl_insert_of_not_mem h.2, get?_insert, if_neg h.1]

/-- What is found once entries without a repeated key were inserted. -/
theorem get?_foldl_insert (key : String) :
    ∀ {entries : List (String × α)} {map : SortedMap α}, (entries.map (·.1)).Nodup →
      (entries.foldl (fun map entry => map.insert entry.1 entry.2) map).get? key =
        (entries.lookup key).or (map.get? key)
  | [], _, _ => rfl
  | entry :: rest, map, h => by
    obtain ⟨hNew, hRest⟩ := List.nodup_cons.1 (List.map_cons ▸ h)
    rw [List.foldl_cons, lookup_cons_eq]
    by_cases hKey : key = entry.1
    · -- the entry is not written over by one of those after it
      rw [get?_foldl_insert_of_not_mem (hKey ▸ hNew), get?_insert, if_pos hKey, if_pos hKey]
      rfl
    · rw [get?_foldl_insert key hRest, get?_insert, if_neg hKey, if_neg hKey]

/-- A map from a list without a repeated key finds what the list does. -/
theorem get?_ofList {entries : List (String × α)} (h : (entries.map (·.1)).Nodup) (key : String) :
    (ofList entries).get? key = entries.lookup key := by
  rw [ofList, get?_foldl_insert key h]
  cases entries.lookup key <;> rfl

theorem mem_keys_foldl_erase {other : String} :
    ∀ {keys : List String} {map : SortedMap α},
      other ∈ (keys.foldl (fun map key => map.erase key) map).keys ↔
        other ∉ keys ∧ other ∈ map.keys
  | [], _ => by simp
  | key :: rest, map => by
    rw [List.foldl_cons, mem_keys_foldl_erase, mem_keys_erase, List.mem_cons, not_or, and_assoc,
      and_left_comm]

/-- What is found after keys were erased was found before. -/
theorem of_get?_foldl_erase {key : String} {value : α} :
    ∀ {keys : List String} {map : SortedMap α},
      (keys.foldl (fun map key => map.erase key) map).get? key = some value →
        map.get? key = some value
  | [], _, h => h
  | erased :: rest, map, h => by
    rw [List.foldl_cons] at h
    have hErased := of_get?_foldl_erase h
    rw [get?_erase] at hErased
    split at hErased
    · cases hErased
    · exact hErased

/-- A map from a list has the keys of the list. -/
theorem mem_keys_ofList {entries : List (String × α)} {key : String} :
    key ∈ (ofList entries).keys ↔ key ∈ entries.map (·.1) := by
  rw [ofList, mem_keys_foldl_insert]
  simp [keys, empty]

/-! ## Look-ups determine the map -/

theorem lookup_eq_none_of_lt {key : String} {entries : List (String × α)}
    (h : ∀ entry ∈ entries, key < entry.1) : entries.lookup key = none :=
  lookup_eq_none_of_forall_ne fun entry hentry heq =>
    String.lt_irrefl key (by simpa [← heq] using h entry hentry)

theorem entries_eq_of_lookup_eq :
    ∀ {xs ys : List (String × α)}, Increasing xs → Increasing ys →
      (∀ key, xs.lookup key = ys.lookup key) → xs = ys
  | [], [], _, _, _ => rfl
  | [], y :: _, _, _, h => by simpa [lookup_cons_eq] using h y.1
  | x :: _, [], _, _, h => by simpa [lookup_cons_eq] using h x.1
  | x :: xs, y :: ys, hx, hy, h => by
    have hx' := List.pairwise_cons.1 hx
    have hy' := List.pairwise_cons.1 hy
    have hkey : x.1 = y.1 := by
      rcases Std.lt_trichotomy x.1 y.1 with hlt | heq | hlt
      · have hnone : (y :: ys).lookup x.1 = none :=
          lookup_eq_none_of_lt fun e he => by
            rcases List.mem_cons.1 he with rfl | he
            · exact hlt
            · exact String.lt_trans hlt (hy'.1 e he)
        simp [← h, lookup_cons_eq] at hnone
      · exact heq
      · have hnone : (x :: xs).lookup y.1 = none :=
          lookup_eq_none_of_lt fun e he => by
            rcases List.mem_cons.1 he with rfl | he
            · exact hlt
            · exact String.lt_trans hlt (hx'.1 e he)
        simp [h, lookup_cons_eq] at hnone
    have hvalue : x.2 = y.2 := by
      have := h x.1
      rw [lookup_cons_eq, if_pos rfl, lookup_cons_eq, if_pos hkey] at this
      exact Option.some.inj this
    have hrest : xs = ys := by
      refine entries_eq_of_lookup_eq hx'.2 hy'.2 fun key => ?_
      by_cases hk : key = x.1
      · subst hk
        rw [lookup_eq_none_of_lt hx'.1, lookup_eq_none_of_lt (hkey ▸ hy'.1)]
      · have := h key
        rwa [lookup_cons_eq, if_neg hk, lookup_cons_eq, if_neg (hkey ▸ hk)] at this
    rw [Prod.ext hkey hvalue, hrest]

/-- **Look-ups determine the map.** -/
theorem ext_get? {left right : SortedMap α} (h : ∀ key, left.get? key = right.get? key) :
    left = right := by
  cases left with
  | mk xs hx =>
    cases right with
    | mk ys hy => simp only [mk.injEq]; exact entries_eq_of_lookup_eq hx hy h

/-! ## Maps from their entries -/

theorem entries_foldl_insert :
    ∀ (entries : List (String × α)) (map : SortedMap α),
      Increasing (map.entries ++ entries) →
      (entries.foldl (fun map entry => map.insert entry.1 entry.2) map).entries =
        map.entries ++ entries
  | [], map, _ => by simp
  | entry :: rest, map, h => by
    have hinsert : (map.insert entry.1 entry.2).entries = map.entries ++ [entry] :=
      insertSorted_of_forall_lt fun before hbefore =>
        (List.pairwise_append.1 h).2.2 before hbefore entry List.mem_cons_self
    rw [List.foldl_cons, entries_foldl_insert rest _ (by rw [hinsert]; simpa using h), hinsert]
    simp

/-- **A map is made of its entries.** -/
theorem ofList_entries (map : SortedMap α) : ofList map.entries = map := by
  have h : (ofList map.entries).entries = map.entries :=
    entries_foldl_insert map.entries empty map.increasing
  exact ext_get? fun key => by rw [get?, get?, h]

theorem insertSorted_map (f : α → β) (key : String) (value : α) :
    ∀ entries : List (String × α),
      insertSorted key (f value) (entries.map fun entry => (entry.1, f entry.2)) =
        (insertSorted key value entries).map fun entry => (entry.1, f entry.2)
  | [] => rfl
  | entry :: rest => by
    have ih := insertSorted_map f key value rest
    simp only [List.map_cons, insertSorted, ih]
    split
    · rfl
    · split <;> rfl

/-- Replacing every value by a function of it does the same to the map of the entries. -/
theorem entries_ofList_map (f : α → β) (entries : List (String × α)) :
    (ofList (entries.map fun entry => (entry.1, f entry.2))).entries =
      (ofList entries).entries.map fun entry => (entry.1, f entry.2) := by
  suffices h : ∀ (entries : List (String × α)) (left : SortedMap β) (right : SortedMap α),
      left.entries = right.entries.map (fun entry => (entry.1, f entry.2)) →
        ((entries.map fun entry => (entry.1, f entry.2)).foldl
          (fun map entry => map.insert entry.1 entry.2) left).entries =
          (entries.foldl (fun map entry => map.insert entry.1 entry.2) right).entries.map
            fun entry => (entry.1, f entry.2) from
    h entries empty empty rfl
  intro entries
  induction entries with
  | nil => exact fun _ _ h => h
  | cons entry rest ih =>
    intro left right h
    have hEntry : insertSorted entry.1 (f entry.2) left.entries =
        (insertSorted entry.1 entry.2 right.entries).map fun entry => (entry.1, f entry.2) := by
      rw [h, insertSorted_map]
    exact ih _ _ hEntry

theorem perm_insertSorted {key : String} {value : α} :
    ∀ {entries : List (String × α)}, key ∉ entries.map (·.1) →
      (insertSorted key value entries).Perm ((key, value) :: entries)
  | [], _ => .refl _
  | entry :: rest, h => by
    have hNe : key ≠ entry.1 := fun heq => h (by simp [heq])
    have hRest : key ∉ rest.map (·.1) := fun hMem => h (by simp [hMem])
    unfold insertSorted
    split
    · exact .refl _
    · exact ((perm_insertSorted hRest).cons entry).trans (.swap _ _ _)

theorem perm_foldl_insert :
    ∀ {entries : List (String × α)} {map : SortedMap α},
      ((map.entries ++ entries).map (·.1)).Nodup →
        (entries.foldl (fun map entry => map.insert entry.1 entry.2) map).entries.Perm
          (map.entries ++ entries)
  | [], map, _ => by simp
  | entry :: rest, map, h => by
    have hNew : entry.1 ∉ map.entries.map (·.1) := by
      rw [List.map_append, List.nodup_append] at h
      exact fun hOld => h.2.2 _ hOld entry.1 (by simp) rfl
    have hPerm : ((map.insert entry.1 entry.2).entries ++ rest).Perm
        (map.entries ++ entry :: rest) :=
      ((perm_insertSorted hNew).append_right rest).trans List.perm_middle.symm
    exact (perm_foldl_insert ((hPerm.map _).nodup_iff.2 h)).trans hPerm

/-- **A list without repeated keys is the map of its entries, up to their order.** -/
theorem perm_ofList {entries : List (String × α)} (h : (entries.map (·.1)).Nodup) :
    (ofList entries).entries.Perm entries :=
  perm_foldl_insert h

end SortedMap

end DiskFleet
