import DiskFleet.Json.Lookup

/-!
# Paths into documents

A path is followed segment by segment, so that one path behind another is followed from where the
first one ends. With `lookup` that holds for texts: a dot between two paths is where the one stops
and the other goes on, whatever dots are in them (`segments_append`).

`Json.Leads` says what a path means without reading it: a name leads to the member of an object, the
digits of a number lead to the place in an array, and nothing else leads anywhere. A name with a dot
in it is none that a path can hold. Digits may have zeros in front of them.

## Main results

* `segments_append`, `segments_intercalate`: the segments of paths with dots between them;
* `placeOf?_of_isDecimal`: a place is read back from its digits;
* `Json.Leads.follow?`: a path is followed to where it leads;
* `Json.lookup_compositional`: look-ups compose, and find what a path leads to.
-/

namespace DiskFleet

/-! ## Segments -/

/-- A dot ends the segment that is being read. -/
theorem segmentsFrom_append_dot (back : List Char) :
    ∀ segment front : List Char, segmentsFrom segment (front ++ '.' :: back) =
      segmentsFrom segment front ++ segmentsFrom [] back
  | segment, [] => by simp [segmentsFrom]
  | segment, c :: rest => by
    rw [List.cons_append, segmentsFrom, segmentsFrom]
    split
    · rw [segmentsFrom_append_dot back [] rest, List.cons_append]
    · exact segmentsFrom_append_dot back (c :: segment) rest

theorem segmentsFrom_of_not_mem :
    ∀ {chars : List Char} (segment : List Char), '.' ∉ chars →
      segmentsFrom segment chars = [segment.reverse ++ chars]
  | [], segment, _ => by simp [segmentsFrom]
  | c :: rest, segment, h => by
    obtain ⟨hFirst, hRest⟩ := not_or.1 (fun hMem => h (List.mem_cons.2 hMem))
    rw [segmentsFrom, if_neg (Ne.symm hFirst), segmentsFrom_of_not_mem _ hRest, List.reverse_cons,
      List.append_assoc, List.singleton_append]

/-- **The segments of two paths with a dot between them** are those of the one and then those of the
other. -/
theorem segments_append (front back : String) :
    segments (front ++ "." ++ back) = segments front ++ segments back := by
  have hDot : ".".toList = ['.'] := rfl
  rw [segments, String.toList_append, String.toList_append, hDot, List.append_assoc,
    List.singleton_append, segmentsFrom_append_dot, List.map_append]
  rfl

/-- A text without dots is one segment. -/
theorem segments_of_not_mem {text : String} (h : '.' ∉ text.toList) : segments text = [text] := by
  rw [segments, segmentsFrom_of_not_mem [] h, List.map_singleton, List.reverse_nil,
    List.nil_append, String.ofList_toList]

theorem segments_ne_nil (path : String) : segments path ≠ [] := by
  have hFrom : ∀ chars segment : List Char, segmentsFrom segment chars ≠ [] := by
    intro chars
    induction chars with
    | nil => simp [segmentsFrom]
    | cons c rest ih =>
        intro segment
        unfold segmentsFrom
        split
        · exact List.cons_ne_nil _ _
        · exact ih _
  exact fun hNil => hFrom _ _ (List.map_eq_nil_iff.1 hNil)

/-- **Texts without dots are the segments of the path that they make.** -/
theorem segments_intercalate :
    ∀ {texts : List String}, texts ≠ [] → (∀ text ∈ texts, '.' ∉ text.toList) →
      segments (".".intercalate texts) = texts
  | [], hNonempty, _ => absurd rfl hNonempty
  | [text], _, h => by
    rw [String.intercalate_singleton]
    exact segments_of_not_mem (h text List.mem_cons_self)
  | text :: next :: rest, _, h => by
    rw [String.intercalate_cons_cons, segments_append,
      segments_of_not_mem (h text List.mem_cons_self),
      segments_intercalate (List.cons_ne_nil _ _) fun other hOther =>
        h other (List.mem_cons_of_mem _ hOther), List.singleton_append]

/-! ## Places in arrays -/

/-- A text is a number in decimal digits; zeros may stand in front of it. -/
def IsDecimal (text : String) (n : Nat) : Prop :=
  ∃ zeros, text.toList = List.replicate zeros '0' ++ Nat.toDigits 10 n

/-- What is written in decimal is made of digits. -/
theorem IsDecimal.isDigit {text : String} {n : Nat} (h : IsDecimal text n) {c : Char}
    (hMem : c ∈ text.toList) : c.isDigit = true := by
  obtain ⟨zeros, hText⟩ := h
  exact Number.isDigit_of_mem_decimal (hText ▸ hMem)

/-- It holds no dot. -/
theorem IsDecimal.not_mem_dot {text : String} {n : Nat} (h : IsDecimal text n) :
    '.' ∉ text.toList :=
  fun hMem => Bool.noConfusion (h.isDigit hMem)

/-- Zeros in front of digits do not count. -/
theorem ofDigitsFrom?_zeros (digits : List Char) :
    ∀ zeros, Number.ofDigitsFrom? 10 0 (List.replicate zeros '0' ++ digits) =
      Number.ofDigitsFrom? 10 0 digits
  | 0 => rfl
  | zeros + 1 => by
    have hZero : Number.digitValue? 10 '0' = some 0 := by decide
    rw [List.replicate_succ, List.cons_append, Number.ofDigitsFrom?, hZero, Option.bind_some]
    exact ofDigitsFrom?_zeros digits zeros

/-- **A place is read back from its digits.** -/
theorem placeOf?_of_isDecimal {segment : String} {place : UInt64}
    (h : IsDecimal segment place.toNat) : placeOf? segment = some place.toNat := by
  obtain ⟨zeros, hText⟩ := h
  have hUnsigned : ∀ rest, segment.toList ≠ '+' :: rest := by
    intro rest hPlus
    have hDigit := IsDecimal.isDigit ⟨zeros, hText⟩ (hPlus ▸ List.mem_cons_self)
    exact Bool.noConfusion hDigit
  have hRead : Number.ofDigits? 10 segment.toList = some place.toNat := by
    rw [hText, Number.ofDigits?, if_neg (by simp), ofDigitsFrom?_zeros,
      Number.ofDigitsFrom?_toDigits (by decide) (by decide)]
  have hFits : place.toNat < 0x10000000000000000 := place.toNat_lt
  unfold placeOf?
  split
  · next rest hPlus => exact absurd hPlus (hUnsigned rest)
  · simp [hRead, hFits]

/-! ## Following a path -/

namespace Json

/-- A path goes on from what its beginning leads to. -/
theorem follow?_append (json : Json) (path more : List String) :
    json.follow? (path ++ more) = (json.follow? path).bind (·.follow? more) := by
  induction path generalizing json with
  | nil => rfl
  | cons segment rest ih =>
      rw [List.cons_append, follow?, follow?]
      cases json.step? segment with
      | none => rfl
      | some inner => exact ih inner

/-- A look-up follows the segments of its path, and answers under the last of them. -/
theorem lookup_eq_ok_iff {json result : Json} {path : String} (hPath : path ≠ "") :
    json.lookup (some path) = .ok result ↔
      ∃ value, json.follow? (segments path) = some value ∧
        result = .obj [((segments path).getLastD "", value)] := by
  have hNonempty : path.isEmpty = false := by simpa using hPath
  rw [lookup, if_neg (by simp [hNonempty])]
  cases json.follow? (segments path) with
  | none => simp
  | some value => simp [eq_comm]

/-- A list of segments leads from a document to a value in it. -/
inductive Leads : Json → List String → Json → Prop
  | here (json : Json) : Leads json [] json
  /-- To the member of an object; a path can only hold its name if there is no dot in it. -/
  | member {members : List (String × Json)} {name : String} {inner value : Json}
      {rest : List String} : '.' ∉ name.toList → members.lookup name = some inner →
      Leads inner rest value → Leads (.obj members) (name :: rest) value
  /-- To a place in an array, which is counted by a word of 64 bits. -/
  | place {items : List Json} {segment : String} {place : UInt64} {inner value : Json}
      {rest : List String} : IsDecimal segment place.toNat →
      items[place.toNat]? = some inner → Leads inner rest value →
      Leads (.arr items) (segment :: rest) value

namespace Leads

variable {json value : Json} {path : List String}

/-- **A path is followed to where it leads.** -/
theorem follow? (h : json.Leads path value) : json.follow? path = some value := by
  induction h with
  | here => rfl
  | member _ hMember _ ih => rw [Json.follow?, step?, hMember, Option.bind_some, ih]
  | place hSegment hItem _ ih =>
      rw [Json.follow?, step?, placeOf?_of_isDecimal hSegment, Option.bind_some, hItem,
        Option.bind_some, ih]

/-- No segment of it has a dot. -/
theorem not_mem_dot (h : json.Leads path value) : ∀ segment ∈ path, '.' ∉ segment.toList := by
  induction h with
  | here => simp
  | member hName _ _ ih => exact List.forall_mem_cons.2 ⟨hName, ih⟩
  | place hSegment _ _ ih => exact List.forall_mem_cons.2 ⟨hSegment.not_mem_dot, ih⟩

end Leads

/-- **Look-ups compose, and find what a path leads to.** A path with a dot between its two parts
finds what the second part finds in what the first one found. Segments that lead to a value make a
path that finds it, under the last of them, unless the path is empty, which stands for the whole
document. -/
theorem lookup_compositional (json : Json) :
    (∀ front back : String, front ≠ "" → back ≠ "" → ∀ result,
      json.lookup (some (front ++ "." ++ back)) = .ok result ↔
        ∃ value, json.lookup (some front) = .ok (.obj [((segments front).getLastD "", value)]) ∧
          value.lookup (some back) = .ok result) ∧
    ∀ path value, json.Leads path value → ".".intercalate path ≠ "" →
      json.lookup (some (".".intercalate path)) = .ok (.obj [(path.getLastD "", value)]) := by
  constructor
  · intro front back hFront hBack result
    have hJoined : front ++ "." ++ back ≠ "" := by simp
    have hLast : (segments front ++ segments back).getLastD "" = (segments back).getLastD "" := by
      rw [List.getLastD_eq_getLast?, List.getLastD_eq_getLast?, List.getLast?_append,
        List.getLast?_eq_some_getLast (segments_ne_nil back), Option.some_or]
    simp only [lookup_eq_ok_iff hJoined, lookup_eq_ok_iff hFront, lookup_eq_ok_iff hBack,
      segments_append, follow?_append, Option.bind_eq_some_iff, hLast]
    constructor
    · rintro ⟨value, ⟨inner, hInner, hValue⟩, rfl⟩
      exact ⟨inner, ⟨inner, hInner, rfl⟩, value, hValue, rfl⟩
    · rintro ⟨inner, ⟨found, hFound, hSame⟩, value, hValue, rfl⟩
      obtain rfl : inner = found := by simpa using hSame
      exact ⟨value, ⟨inner, hFound, hValue⟩, rfl⟩
  · intro path value hLeads hPath
    have hNonempty : path ≠ [] := by
      rintro rfl
      exact hPath String.intercalate_nil
    have hSegments := segments_intercalate hNonempty hLeads.not_mem_dot
    rw [lookup_eq_ok_iff hPath, hSegments]
    exact ⟨value, hLeads.follow?, rfl⟩

/-- Two descriptors of a tap port, for a path that ends in an array. -/
def descriptors : Json := .obj [("spec", .obj [("", .null), ("fds", .arr [.int 3, .int 4])])]

/-- The second descriptor, found at once and from the member that holds both. -/
theorem lookup_compositional_descriptors :
    "spec" ≠ "" ∧ "fds.01" ≠ "" ∧
    (∃ value, descriptors.lookup (some "spec") =
        .ok (.obj [((segments "spec").getLastD "", value)]) ∧
      value.lookup (some "fds.01") = .ok (.obj [("01", .int 4)])) ∧
    descriptors.Leads ["spec", "fds", "01"] (.int 4) ∧
    ".".intercalate ["spec", "fds", "01"] = "spec.fds.01" ∧ "spec.fds.01" ≠ "" ∧
    descriptors.lookup (some "spec.fds.01") = .ok (.obj [("01", .int 4)]) := by
  have hSecond : IsDecimal "01" (1 : UInt64).toNat := ⟨1, by decide⟩
  have hLeads : descriptors.Leads ["spec", "fds", "01"] (.int 4) :=
    .member (by decide) rfl (.member (by decide) rfl (.place hSecond rfl (.here _)))
  have hPath : ".".intercalate ["spec", "fds", "01"] = "spec.fds.01" := by decide
  have hFound : descriptors.lookup (some "spec.fds.01") = .ok (.obj [("01", .int 4)]) :=
    hPath ▸ (lookup_compositional descriptors).2 _ _ hLeads (by decide)
  exact ⟨by decide, by decide,
    ((lookup_compositional descriptors).1 "spec" "fds.01" (by decide) (by decide) _).1 hFound,
    hLeads, hPath, by decide, hFound⟩

end Json

end DiskFleet
