/-!
# Looking a key up in a list of entries

Both kinds of map keep a list of entries and read it with `List.lookup`. This module restates that
look-up with a plain equality of keys, which is the form that the lemmas about the maps compute
with.
-/

namespace DiskFleet

variable {α : Type}

/-- The first entry answers for its own key and the rest for every other key. -/
theorem lookup_cons_eq (key : String) (entry : String × α) (rest : List (String × α)) :
    (entry :: rest).lookup key = if key = entry.1 then some entry.2 else rest.lookup key := by
  rw [List.lookup_cons]
  by_cases h : key = entry.1
  · simp [h]
  · simp [h, beq_eq_false_iff_ne.2 h]

@[simp] theorem lookup_nil_eq (key : String) : ([] : List (String × α)).lookup key = none := rfl

/-- A key that no entry carries is not found. -/
theorem lookup_eq_none_of_forall_ne {key : String} :
    ∀ {entries : List (String × α)}, (∀ entry ∈ entries, key ≠ entry.1) →
      entries.lookup key = none
  | [], _ => rfl
  | entry :: rest, h => by
    rw [lookup_cons_eq, if_neg (h entry List.mem_cons_self)]
    exact lookup_eq_none_of_forall_ne fun e he => h e (List.mem_cons_of_mem _ he)

/-- A key is found exactly when some entry carries it. -/
theorem lookup_isSome_iff {key : String} :
    ∀ {entries : List (String × α)},
      (entries.lookup key).isSome = true ↔ key ∈ entries.map (·.1)
  | [] => by simp
  | entry :: rest => by
    rw [lookup_cons_eq]
    by_cases h : key = entry.1
    · simp [h]
    · rw [if_neg h, lookup_isSome_iff]
      simp [h]

/-- A look-up finds one of the entries. -/
theorem mem_of_lookup {key : String} {value : α} :
    ∀ {entries : List (String × α)}, entries.lookup key = some value → (key, value) ∈ entries
  | [], h => by simp at h
  | entry :: rest, h => by
    rw [lookup_cons_eq] at h
    split at h
    · next heq => rw [← Option.some.inj h, heq]; exact List.mem_cons_self
    · exact List.mem_cons_of_mem _ (mem_of_lookup h)

/-- Where no key occurs twice, every entry is found under its key. -/
theorem lookup_of_mem {key : String} {value : α} :
    ∀ {entries : List (String × α)}, (entries.map (·.1)).Nodup → (key, value) ∈ entries →
      entries.lookup key = some value
  | [], _, h => by simp at h
  | entry :: rest, hNodup, h => by
    rw [List.map_cons, List.nodup_cons] at hNodup
    rw [lookup_cons_eq]
    rcases List.mem_cons.1 h with rfl | h
    · rw [if_pos rfl]
    · have hne : key ≠ entry.1 := fun heq =>
        hNodup.1 (heq ▸ List.mem_map_of_mem (f := (·.1)) h)
      rw [if_neg hne, lookup_of_mem hNodup.2 h]

/-- Replacing every value by a function of it does the same to what is found. -/
theorem lookup_map_snd {β : Type} (f : α → β) (key : String) :
    ∀ entries : List (String × α),
      (entries.map fun entry => (entry.1, f entry.2)).lookup key = (entries.lookup key).map f
  | [] => rfl
  | entry :: rest => by
    rw [List.map_cons, lookup_cons_eq, lookup_cons_eq, lookup_map_snd f key rest]
    by_cases h : key = entry.1 <;> simp [h]

/-- Keeping the entries whose key passes a test keeps their look-ups. -/
theorem lookup_filter_key (keep : String → Bool) (key : String) :
    ∀ entries : List (String × α),
      (entries.filter fun entry => keep entry.1).lookup key =
        if keep key then entries.lookup key else none
  | [] => by simp
  | entry :: rest => by
    have ih := lookup_filter_key keep key rest
    by_cases hkey : key = entry.1
    · subst hkey
      by_cases hkeep : keep entry.1
      · simp [hkeep, lookup_cons_eq]
      · simp [hkeep, ih]
    · by_cases hkeep : keep entry.1
      · rw [List.filter_cons_of_pos (by simpa using hkeep), lookup_cons_eq, if_neg hkey, ih,
          lookup_cons_eq, if_neg hkey]
      · rw [List.filter_cons_of_neg (by simpa using hkeep), ih, lookup_cons_eq, if_neg hkey]

end DiskFleet
