import DiskFleet.Json.Record

/-!
# Reading a record that was written

A document is written as an object with one member for each field that holds something; some fields
are left out when they hold nothing. `Record.written` is that object for a list of fields, and the
lemmas below say what the readers of `DiskFleet.Json.Record` find in it: the field of that name,
wherever it stands and whatever was left out around it.

The one thing needed is that no two fields have the same name, because a reader refuses a field that
is given twice.

## Main results

* `required_written`, `orElse_written`, `optionalOr_written`: a reader finds what was written;
* `absentOr_map`: a field that was left out is read as nothing.
-/

namespace DiskFleet

namespace Record

variable {α : Type}

/-- The members of an object that has the fields which hold something. -/
def written (fields : List (String × Option Json)) : List (String × Json) :=
  fields.filterMap fun field => field.2.map (field.1, ·)

theorem written_cons (field : String × Option Json) (rest : List (String × Option Json)) :
    written (field :: rest) = (field.2.map (field.1, ·)).toList ++ written rest := by
  obtain ⟨name, value⟩ := field
  cases value <;> rfl

/-- A name selects what its field holds, and nothing if that was left out. -/
theorem filter_written (name : String) :
    ∀ {fields : List (String × Option Json)}, (fields.map (·.1)).Nodup →
      (written fields).filter (fun entry => [name].contains entry.1) =
        ((fields.lookup name).join.map (name, ·)).toList
  | [], _ => rfl
  | field :: rest, h => by
    rw [List.map_cons, List.nodup_cons] at h
    rw [written_cons, List.filter_append, filter_written name h.2, lookup_cons_eq]
    by_cases hName : field.1 = name
    · have hNone : rest.lookup name = none :=
        lookup_eq_none_of_forall_ne fun other hOther hSame =>
          h.1 (hName.trans hSame ▸ List.mem_map_of_mem (f := (·.1)) hOther)
      rw [hNone, if_pos hName.symm, hName]
      cases field.2 <;> simp
    · rw [if_neg (Ne.symm hName)]
      cases field.2 <;> simp [hName]

/-- What a field that may be missing is read as. -/
def absentOr (decode : Json → Option α) : Option Json → Option (Option α)
  | none => some none
  | some json => Json.nullable decode json

@[simp] theorem absentOr_some (decode : Json → Option α) (json : Json) :
    absentOr decode (some json) = Json.nullable decode json := rfl

/-- **A field that was left out is read as nothing**, and any other as what it held. -/
theorem absentOr_map {encode : α → Json} {decode : Json → Option α}
    (h : ∀ value, Json.nullable decode (encode value) = some (some value)) (value : Option α) :
    absentOr decode (value.map encode) = some value := by
  cases value with
  | none => rfl
  | some value => exact h value

@[simp] theorem absentOr_text (text : Option String) :
    absentOr Json.asText? (text.map .str) = some text :=
  absentOr_map Json.nullable_str text

/-- A record is never taken for `null`. -/
theorem nullable_obj {decode : Json → Option α} {members : List (String × Json)} {value : α}
    (h : decode (.obj members) = some value) :
    Json.nullable decode (.obj members) = some (some value) := by
  show (decode (.obj members)).map some = _
  rw [h, Option.map_some]

/-- A reader hands what it found on to the next one. Written with `>>=`, because `simp` would open
the rest of a long reader twice for every `Option.bind` that it makes of one. -/
theorem some_bind {β : Type} (value : α) (next : α → Option β) :
    (some value >>= next) = next value := rfl

section fields

variable {fields : List (String × Option Json)} {index : Nat} {name : String}
  {decode : Json → Option α}

theorem given_written (h : (fields.map (·.1)).Nodup) :
    (named (written fields)).given index [name] =
      ((fields.lookup name).join.map .once).getD .missing := by
  simp only [given, filter_written name h]
  cases (fields.lookup name).join <;> rfl

theorem required_written (h : (fields.map (·.1)).Nodup) :
    (named (written fields)).required index name decode =
      (fields.lookup name).join.bind decode := by
  rw [required, given_written h]
  cases (fields.lookup name).join <;> rfl

theorem orElse_written {default : α} (h : (fields.map (·.1)).Nodup) :
    (named (written fields)).orElse index [name] decode default =
      ((fields.lookup name).join.map decode).getD (some default) := by
  rw [orElse, given_written h]
  cases (fields.lookup name).join <;> rfl

theorem optionalOr_written (h : (fields.map (·.1)).Nodup) :
    (named (written fields)).optionalOr index name decode =
      absentOr decode (fields.lookup name).join := by
  rw [optionalOr, orElse_written h]
  cases (fields.lookup name).join <;> rfl

theorem optional_written (h : (fields.map (·.1)).Nodup) :
    (named (written fields)).optional index name decode =
      absentOr decode (fields.lookup name).join :=
  optionalOr_written h

end fields

end Record

end DiskFleet
