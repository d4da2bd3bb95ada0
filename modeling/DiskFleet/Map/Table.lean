import DiskFleet.Map.Lookup

/-!
# Maps in order of first insertion

Pools, images, the layers of an image and the resources of a pool are listed in the order in which
they were created. A `Table` keeps its entries in that order: binding a key that is already there
replaces its value and leaves it in its place, a new key goes to the end, and erasing closes the
gap. No key occurs twice, which is part of the type.

## Main results

* `Table.get?_insert`, `Table.get?_erase`: an update is seen at its own key and nowhere else;
* `Table.keys_insert_of_contains`, `Table.keys_insert_of_not_contains`: the order of the keys;
* `Table.erase_insert_of_not_contains`: erasing what was just added gives the table back;
* `Table.ofList_entries`: a table is made of its entries.
-/

namespace DiskFleet

/-- Entries with `key` bound to `value`: in the place of its entry, or at the end. -/
def replaceOrAppend {α : Type} (key : String) (value : α) : List (String × α) → List (String × α)
  | [] => [(key, value)]
  | entry :: rest =>
    if key = entry.1 then (key, value) :: rest else entry :: replaceOrAppend key value rest

section entries

variable {α : Type} {key : String} {value : α} {entries : List (String × α)}

/-- A key that is there keeps every key in its place. -/
theorem map_fst_replaceOrAppend_of_mem :
    ∀ {entries : List (String × α)}, key ∈ entries.map (·.1) →
      (replaceOrAppend key value entries).map (·.1) = entries.map (·.1)
  | [], h => by simp at h
  | entry :: rest, h => by
    unfold replaceOrAppend
    split
    · next heq => simp [heq]
    · next hne =>
      have hrest : key ∈ rest.map (·.1) := by simpa [hne] using h
      simp only [List.map_cons, map_fst_replaceOrAppend_of_mem hrest]

/-- A new entry goes to the end. -/
theorem replaceOrAppend_of_not_mem :
    ∀ {entries : List (String × α)}, key ∉ entries.map (·.1) →
      replaceOrAppend key value entries = entries ++ [(key, value)]
  | [], _ => rfl
  | entry :: rest, h => by
    have hne : key ≠ entry.1 := fun heq => h (by simp [heq])
    have hrest : key ∉ rest.map (·.1) := fun hmem => h (by simp [hmem])
    rw [replaceOrAppend, if_neg hne, replaceOrAppend_of_not_mem hrest, List.cons_append]

theorem nodup_replaceOrAppend (h : (entries.map (·.1)).Nodup) :
    ((replaceOrAppend key value entries).map (·.1)).Nodup := by
  by_cases hmem : key ∈ entries.map (·.1)
  · rw [map_fst_replaceOrAppend_of_mem hmem]; exact h
  · rw [replaceOrAppend_of_not_mem hmem, List.map_append]
    refine List.nodup_append.2 ⟨h, by simp, fun a ha b hb heq => ?_⟩
    obtain rfl : b = key := by simpa using hb
    exact hmem (heq ▸ ha)

/-- An entry that is there already is replaced by itself. -/
theorem replaceOrAppend_of_lookup :
    ∀ {entries : List (String × α)}, entries.lookup key = some value →
      replaceOrAppend key value entries = entries
  | [], h => by simp at h
  | entry :: rest, h => by
    rw [lookup_cons_eq] at h
    unfold replaceOrAppend
    split
    · next heq =>
      rw [if_pos heq] at h
      rw [← Option.some.inj h, heq]
    · next hne =>
      rw [if_neg hne] at h
      rw [replaceOrAppend_of_lookup h]

/-- The last replacement counts. -/
theorem replaceOrAppend_replaceOrAppend (first : α) :
    ∀ entries : List (String × α),
      replaceOrAppend key value (replaceOrAppend key first entries) =
        replaceOrAppend key value entries
  | [] => by simp [replaceOrAppend]
  | entry :: rest => by
    by_cases heq : key = entry.1
    · simp [replaceOrAppend, heq]
    · simp only [replaceOrAppend, if_neg heq, replaceOrAppend_replaceOrAppend first rest]

theorem lookup_replaceOrAppend (other : String) :
    ∀ entries : List (String × α),
      (replaceOrAppend key value entries).lookup other =
        if other = key then some value else entries.lookup other
  | [] => by rw [replaceOrAppend, lookup_cons_eq]
  | entry :: rest => by
    have ih := lookup_replaceOrAppend other rest
    unfold replaceOrAppend
    split
    · next heq =>
      rw [lookup_cons_eq, lookup_cons_eq, ← heq]
      by_cases h : other = key <;> simp [h]
    · next hne =>
      rw [lookup_cons_eq, ih, lookup_cons_eq]
      by_cases h : other = key
      · subst h; simp [hne]
      · simp [h]

end entries

/-- A finite map from texts, kept in order of first insertion. -/
structure Table (α : Type) where
  entries : List (String × α)
  nodup : (entries.map (·.1)).Nodup
deriving DecidableEq

namespace Table

variable {α β : Type}

/-- The table without entries. -/
def empty : Table α := ⟨[], List.nodup_nil⟩

instance : EmptyCollection (Table α) := ⟨empty⟩
instance : Inhabited (Table α) := ⟨empty⟩

/-- The value bound to `key`. -/
def get? (table : Table α) (key : String) : Option α :=
  table.entries.lookup key

/-- Whether `key` is bound. -/
def contains (table : Table α) (key : String) : Bool :=
  (table.get? key).isSome

/-- The table with `key` bound to `value`. -/
def insert (table : Table α) (key : String) (value : α) : Table α :=
  ⟨replaceOrAppend key value table.entries, nodup_replaceOrAppend table.nodup⟩

/-- The table without `key`; the others stay in order. -/
def erase (table : Table α) (key : String) : Table α :=
  ⟨table.entries.filter fun entry => entry.1 ≠ key,
    table.nodup.sublist (List.filter_sublist.map _)⟩

/-- The table with every value replaced by a function of it. -/
def mapValues (f : α → β) (table : Table α) : Table β :=
  ⟨table.entries.map fun entry => (entry.1, f entry.2), by
    simpa [Function.comp_def] using table.nodup⟩

/-- The table that holds the given entries; of two with one key the later value wins and the earlier
place. -/
def ofList (entries : List (String × α)) : Table α :=
  entries.foldl (fun table entry => table.insert entry.1 entry.2) empty

/-- Every key, oldest first. -/
def keys (table : Table α) : List String := table.entries.map (·.1)

/-- Every value, oldest first. -/
def values (table : Table α) : List α := table.entries.map (·.2)

def size (table : Table α) : Nat := table.entries.length

def isEmpty (table : Table α) : Bool := table.entries.isEmpty

/-! ## Look-ups after an update -/

@[simp] theorem get?_empty (key : String) : (empty : Table α).get? key = none := rfl

/-- **A binding is seen at its own key and nowhere else.** -/
@[simp] theorem get?_insert (table : Table α) (key other : String) (value : α) :
    (table.insert key value).get? other = if other = key then some value else table.get? other :=
  lookup_replaceOrAppend other table.entries

/-- **An erased key is unbound, every other is as before.** -/
@[simp] theorem get?_erase (table : Table α) (key other : String) :
    (table.erase key).get? other = if other = key then none else table.get? other := by
  have h := lookup_filter_key (fun k => decide (k ≠ key)) other table.entries
  rw [get?, erase, h]
  by_cases hkey : other = key <;> simp [hkey, get?]

/-- Binding a key to the value it has gives the table back. -/
theorem insert_of_get? {table : Table α} {key : String} {value : α}
    (h : table.get? key = some value) : table.insert key value = table := by
  cases table with
  | mk entries nodup => simpa [insert] using replaceOrAppend_of_lookup h

/-- A binding that is replaced at once makes no difference. -/
theorem insert_insert (table : Table α) (key : String) (first second : α) :
    (table.insert key first).insert key second = table.insert key second := by
  simp only [insert, replaceOrAppend_replaceOrAppend]

@[simp] theorem get?_mapValues (f : α → β) (table : Table α) (key : String) :
    (table.mapValues f).get? key = (table.get? key).map f :=
  lookup_map_snd f key table.entries

/-- The entries are what look-ups find. -/
theorem mem_entries_iff {table : Table α} {key : String} {value : α} :
    (key, value) ∈ table.entries ↔ table.get? key = some value :=
  ⟨lookup_of_mem table.nodup, mem_of_lookup⟩

theorem contains_iff_mem_keys (table : Table α) (key : String) :
    table.contains key = true ↔ key ∈ table.keys :=
  lookup_isSome_iff

/-- A table is empty when no key is bound. -/
theorem isEmpty_iff {table : Table α} : table.isEmpty = true ↔ ∀ key, table.get? key = none := by
  constructor
  · intro h key
    rw [get?, List.isEmpty_iff.1 h, lookup_nil_eq]
  · intro h
    refine List.isEmpty_iff.2 (List.eq_nil_iff_forall_not_mem.2 fun entry hentry => ?_)
    have hbound := mem_entries_iff.1 (show (entry.1, entry.2) ∈ table.entries from hentry)
    rw [h] at hbound
    cases hbound

/-! ## The order of the entries -/

/-- Replacing a value keeps every key in its place. -/
theorem keys_insert_of_contains {table : Table α} {key : String} {value : α}
    (h : table.contains key = true) : (table.insert key value).keys = table.keys :=
  map_fst_replaceOrAppend_of_mem ((contains_iff_mem_keys table key).1 h)

/-- A new entry goes to the end. -/
theorem entries_insert_of_not_contains {table : Table α} {key : String} {value : α}
    (h : table.contains key = false) :
    (table.insert key value).entries = table.entries ++ [(key, value)] :=
  replaceOrAppend_of_not_mem fun hmem => by
    simp [(contains_iff_mem_keys table key).2 hmem] at h

theorem keys_insert_of_not_contains {table : Table α} {key : String} {value : α}
    (h : table.contains key = false) : (table.insert key value).keys = table.keys ++ [key] := by
  simp [keys, entries_insert_of_not_contains h]

/-- Nothing is erased where the key is not bound. -/
theorem erase_of_not_contains {table : Table α} {key : String}
    (h : table.contains key = false) : table.erase key = table := by
  have hmem : key ∉ table.keys := fun hmem => by
    simp [(contains_iff_mem_keys table key).2 hmem] at h
  have hkeep : table.entries.filter (fun entry => decide (entry.1 ≠ key)) = table.entries := by
    refine List.filter_eq_self.2 fun entry hentry => ?_
    simp only [decide_eq_true_eq]
    exact fun heq => hmem (heq ▸ List.mem_map_of_mem (f := (·.1)) hentry)
  cases table
  simpa only [erase, mk.injEq] using hkeep

/-- Erasing a key forgets what was bound to it last. -/
theorem erase_insert (table : Table α) (key : String) (value : α) :
    (table.insert key value).erase key = table.erase key := by
  have hEntries : ∀ entries : List (String × α),
      (replaceOrAppend key value entries).filter (fun entry => decide (entry.1 ≠ key)) =
        entries.filter fun entry => decide (entry.1 ≠ key) := by
    intro entries
    induction entries with
    | nil => simp [replaceOrAppend]
    | cons entry rest ih =>
        unfold replaceOrAppend
        split
        · next heq => simp [heq]
        · next hne => simp only [List.filter_cons, ih]
  simp only [erase, insert, hEntries]

/-- **Erasing what was just added gives the table back.** -/
theorem erase_insert_of_not_contains {table : Table α} {key : String} {value : α}
    (h : table.contains key = false) : (table.insert key value).erase key = table := by
  rw [erase_insert, erase_of_not_contains h]

/-- Two keys do not get in each other's way. -/
theorem erase_insert_of_ne (table : Table α) {key other : String} (value : α) (hNe : key ≠ other) :
    (table.insert key value).erase other = (table.erase other).insert key value := by
  have hEntries : ∀ entries : List (String × α),
      (replaceOrAppend key value entries).filter (fun entry => decide (entry.1 ≠ other)) =
        replaceOrAppend key value (entries.filter fun entry => decide (entry.1 ≠ other)) := by
    intro entries
    induction entries with
    | nil => simp [replaceOrAppend, hNe]
    | cons entry rest ih =>
        by_cases hKey : key = entry.1
        · have hKept : entry.1 ≠ other := hKey ▸ hNe
          simp [replaceOrAppend, hKey, hKept]
        · rw [replaceOrAppend, if_neg hKey, List.filter_cons, List.filter_cons, ih]
          split
          · rw [replaceOrAppend, if_neg hKey]
          · rfl
  simp only [erase, insert, hEntries]

theorem erase_erase (table : Table α) (key : String) :
    (table.erase key).erase key = table.erase key := by
  have hErased : (table.erase key).contains key = false := by simp [contains]
  exact erase_of_not_contains hErased

/-- The order in which two keys are erased does not matter. -/
theorem erase_comm (table : Table α) (key other : String) :
    (table.erase key).erase other = (table.erase other).erase key := by
  simp only [erase, mk.injEq, List.filter_filter]
  exact List.filter_congr fun entry _ => Bool.and_comm _ _

/-! ## Tables from their entries -/

theorem eq_of_entries_eq {left right : Table α} (h : left.entries = right.entries) :
    left = right := by
  cases left
  cases right
  simpa only [mk.injEq] using h

theorem entries_foldl_insert :
    ∀ {entries : List (String × α)} {table : Table α},
      ((table.entries ++ entries).map (·.1)).Nodup →
        (entries.foldl (fun table entry => table.insert entry.1 entry.2) table).entries =
          table.entries ++ entries
  | [], table, _ => by simp
  | entry :: rest, table, h => by
    have hNew : entry.1 ∉ table.entries.map (·.1) := by
      rw [List.map_append, List.nodup_append] at h
      exact fun hOld => h.2.2 _ hOld entry.1 (by simp) rfl
    have hInsert : (table.insert entry.1 entry.2).entries = table.entries ++ [entry] :=
      replaceOrAppend_of_not_mem hNew
    rw [List.foldl_cons, entries_foldl_insert (by rw [hInsert]; simpa using h), hInsert]
    simp

/-- **A table is made of its entries.** -/
theorem ofList_entries (table : Table α) : ofList table.entries = table :=
  eq_of_entries_eq (entries_foldl_insert table.nodup)

/-! ## Every value -/

/-- One function of every value after another is their composition. -/
theorem mapValues_mapValues {γ : Type} (f : α → β) (g : β → γ) (table : Table α) :
    (table.mapValues f).mapValues g = table.mapValues (g ∘ f) := by
  simp only [mapValues, List.map_map]
  rfl

/-- An update is seen through a function of every value. -/
theorem mapValues_insert (f : α → β) (table : Table α) (key : String) (value : α) :
    (table.insert key value).mapValues f = (table.mapValues f).insert key (f value) := by
  have hEntries : ∀ entries : List (String × α),
      (replaceOrAppend key value entries).map (fun entry => (entry.1, f entry.2)) =
        replaceOrAppend key (f value) (entries.map fun entry => (entry.1, f entry.2)) := by
    intro entries
    induction entries with
    | nil => rfl
    | cons entry rest ih =>
        by_cases hKey : key = entry.1
        · simp [replaceOrAppend, hKey]
        · simp [replaceOrAppend, hKey, ih]
  simp only [mapValues, insert, hEntries]

/-- A function that leaves every value as it is leaves the table as it is. -/
theorem mapValues_eq_self {f : α → α} {table : Table α}
    (h : ∀ key value, table.get? key = some value → f value = value) :
    table.mapValues f = table := by
  have hSame : ∀ entry ∈ table.entries, (entry.1, f entry.2) = id entry := by
    intro entry hEntry
    rw [h entry.1 entry.2 (mem_entries_iff.1 hEntry), id]
  have hEntries : table.entries.map (fun entry => (entry.1, f entry.2)) = table.entries := by
    rw [List.map_congr_left hSame, List.map_id]
  cases table
  simpa only [mapValues, mk.injEq] using hEntries

end Table

end DiskFleet
