import DiskFleet.Params

/-!
# Parameters of one object

An object sees the value of a key that carries its name in the place of the plain key. All values
are read from the given parameters, while the new ones are written into a set of their own. So what
was written for one key is never the source of another: with `size`, `size_sn` and `size_sn_sn`
given, the object `sn` sees `size_sn` as its `size` and `size_sn_sn` as its `size_sn`.

The loop goes through the parameters in key order. The order makes no difference, because two keys
that carry the same name after the same base are one key (`baseOf?_eq_some_iff`).

## Main results

* `Params.baseOf?_eq_some_iff`: which keys carry the name of an object;
* `Params.get?_forObject`: what an object sees.
-/

namespace DiskFleet.Params

/-- **A key carries the name of an object** if it is some base that is not empty, an underscore, and
the name. -/
theorem baseOf?_eq_some_iff {name key base : String} :
    baseOf? name key = some base ↔ base ≠ "" ∧ key = base ++ "_" ++ name := by
  have hJoined : ∀ front : String, (front ++ "_" ++ name).toList =
      front.toList ++ '_' :: name.toList := by simp
  constructor
  · intro h
    simp only [baseOf?] at h
    split at h
    · next hCarried =>
      obtain ⟨hNonempty, hSplit⟩ := hCarried
      obtain rfl := Option.some.inj h
      refine ⟨by simpa using hNonempty, String.toList_inj.1 ?_⟩
      rw [hJoined, String.toList_ofList, hSplit]
    · cases h
  · rintro ⟨hNonempty, rfl⟩
    have hTake : (base ++ "_" ++ name).toList.take
        ((base ++ "_" ++ name).toList.length - ('_' :: name.toList).length) = base.toList := by
      rw [hJoined, List.length_append, Nat.add_sub_cancel, List.take_left]
    simp only [baseOf?, hTake]
    rw [if_pos ⟨by simpa using hNonempty, (hJoined base).symm⟩, String.ofList_toList]

/-- The parameters once one entry was taken over for an object. -/
def takingOver (name : String) (seen : Params) (entry : String × String) : Params :=
  match baseOf? name entry.1 with
  | some base => seen.set base entry.2
  | none => seen

theorem forObject_eq_foldl (params : Params) (name : String) :
    params.forObject name = params.map.entries.foldl (takingOver name) params := rfl

/-- An entry is taken over for the one key that it carries the name after. -/
theorem get?_takingOver (name key : String) (seen : Params) (entry : String × String) :
    (seen.takingOver name entry).get? key =
      if key ≠ "" ∧ key ++ "_" ++ name = entry.1 then some entry.2 else seen.get? key := by
  unfold takingOver
  cases hBase : baseOf? name entry.1 with
  | some base =>
      obtain ⟨hNonempty, hEntry⟩ := baseOf?_eq_some_iff.1 hBase
      have hSame : key = base ↔ key ≠ "" ∧ key ++ "_" ++ name = entry.1 := by
        rw [hEntry]
        constructor
        · rintro rfl
          exact ⟨hNonempty, rfl⟩
        · rintro ⟨-, hJoined⟩
          simpa using hJoined
      show (seen.map.insert base entry.2).get? key = _
      simp only [SortedMap.get?_insert, hSame]
      rfl
  | none =>
      have hOther : ¬(key ≠ "" ∧ key ++ "_" ++ name = entry.1) := by
        rintro ⟨hNonempty, hJoined⟩
        rw [baseOf?_eq_some_iff.2 ⟨hNonempty, hJoined.symm⟩] at hBase
        cases hBase
      rw [if_neg hOther]

/-- What is seen once entries were taken over: theirs, or what was seen before. -/
theorem get?_foldl_takingOver {name key : String} (hKey : key ≠ "") :
    ∀ {entries : List (String × String)} (seen : Params), (entries.map (·.1)).Nodup →
      (entries.foldl (takingOver name) seen).get? key =
        (entries.lookup (key ++ "_" ++ name)).or (seen.get? key)
  | [], _, _ => rfl
  | entry :: rest, seen, h => by
    obtain ⟨hNew, hRest⟩ := List.nodup_cons.1 (List.map_cons ▸ h)
    rw [List.foldl_cons, get?_foldl_takingOver hKey _ hRest, get?_takingOver, lookup_cons_eq]
    by_cases hCarried : key ++ "_" ++ name = entry.1
    · -- the key does not come again, so that nothing is taken over in its place
      have hNone : rest.lookup (key ++ "_" ++ name) = none :=
        lookup_eq_none_of_forall_ne fun other hOther hSame =>
          hNew (hCarried ▸ hSame ▸ List.mem_map_of_mem (f := (·.1)) hOther)
      rw [hNone, if_pos ⟨hKey, hCarried⟩, if_pos hCarried]
      rfl
    · rw [if_neg fun hBoth => hCarried hBoth.2, if_neg hCarried]

/-- The empty key carries no name. -/
theorem get?_empty_foldl_takingOver (name : String) :
    ∀ (entries : List (String × String)) (seen : Params),
      (entries.foldl (takingOver name) seen).get? "" = seen.get? ""
  | [], _ => rfl
  | entry :: rest, seen => by
    rw [List.foldl_cons, get?_empty_foldl_takingOver, get?_takingOver,
      if_neg fun hBoth => hBoth.1 rfl]

/-- **What an object sees** under a key is the given value of that key with an underscore and its
name behind it, and where that was not given, the given value of the key itself. The empty key keeps
its value. -/
theorem get?_forObject (params : Params) (name key : String) :
    (params.forObject name).get? key =
      if key = "" then params.get? ""
      else (params.get? (key ++ "_" ++ name)).or (params.get? key) := by
  rw [forObject_eq_foldl]
  split
  · next hEmpty => rw [hEmpty, get?_empty_foldl_takingOver]
  · next hKey => exact get?_foldl_takingOver hKey params params.map.nodup_keys

/-- An override of an override is the override that the object sees. -/
example :
    let params := ofList [("size", "1"), ("size_s_n", "2"), ("size_s_n_s_n", "3"), ("_s_n", "4")]
    (params.forObject "s_n").get? "size" = some "2" ∧
      (params.forObject "s_n").get? "size_s_n" = some "3" ∧
      (params.forObject "s_n").get? "" = none := by
  decide +kernel

end DiskFleet.Params
