import DiskFleet.Text.FilePath
import Mathlib.Data.List.TakeWhile
import Mathlib.Data.String.Basic

/-!
# Suffixed file names

A copy of a file gets the name of the file with a suffix in front of the extension. Two files in one
directory have different names, and so should their copies. For names that lead into no directory
this is so (`withSuffix_inj`), whatever dots they have, as long as the suffix has none: the suffix
and an underscore stand in front of the last dot, or, where there is no extension, at the end.

A name that leads into a directory is taken apart first, and what `withSuffix` puts together again
is the last part alone, if that has an extension. `x/d.img` and `y/d.img` become the same name.

## Main results

* `withSuffix_inj`: different names stay different;
* `join_inj`: a path in a directory tells the directory and the name;
* `of_join_withSuffix`: a copy of a file beside what has the suffix at its end.
-/

namespace DiskFleet.FilePath

/-! ## The last of its kind -/

/-- The last occurrence of a character splits a list in one way only. -/
theorem append_cons_inj_of_not_mem {c : Char} {back rest : List Char} (hBack : c ∉ back)
    (hRest : c ∉ rest) :
    ∀ {front other : List Char}, front ++ c :: back = other ++ c :: rest →
      front = other ∧ back = rest
  | [], [], h => ⟨rfl, (List.cons.inj h).2⟩
  | [], _ :: other, h => by
    refine absurd ?_ hBack
    rw [(List.cons.inj h).2]
    simp
  | _ :: front, [], h => by
    refine absurd ?_ hRest
    rw [← (List.cons.inj h).2]
    simp
  | _ :: front, _ :: other, h => by
    obtain ⟨hFirst, hLater⟩ := List.cons.inj h
    obtain ⟨hFront, hSame⟩ := append_cons_inj_of_not_mem hBack hRest hLater
    exact ⟨by rw [hFirst, hFront], hSame⟩

/-- An occurrence that is not in the back of a list is in its front. -/
theorem of_append_eq_append_cons {c : Char} {front back other rest : List Char} (hBack : c ∉ back)
    (h : front ++ back = other ++ c :: rest) :
    ∃ middle, front = other ++ c :: middle ∧ rest = middle ++ back := by
  rcases List.append_eq_append_iff.1 h with ⟨between, -, hInside⟩ | ⟨between, hFront, hSplit⟩
  · refine absurd ?_ hBack
    rw [hInside]
    simp
  · cases between with
    | nil =>
        refine absurd ?_ hBack
        rw [List.nil_append] at hSplit
        rw [← hSplit]
        exact List.mem_cons_self
    | cons first middle =>
        obtain ⟨rfl, hMiddle⟩ := List.cons.inj hSplit
        exact ⟨middle, hFront, hMiddle⟩

/-- What occurs in a list occurs there for the last time. -/
theorem exists_eq_append_cons {c : Char} {name : List Char} (h : c ∈ name) :
    ∃ front back, name = front ++ c :: back ∧ c ∉ back := by
  obtain ⟨back, front, hSplit, hBack⟩ := List.eq_append_cons_of_mem (List.mem_reverse.2 h)
  refine ⟨front.reverse, back.reverse, ?_, by rwa [List.mem_reverse]⟩
  have hReverse := congrArg List.reverse hSplit
  simpa using hReverse

/-! ## Extensions -/

/-- A name is taken apart at its last dot, unless it begins with that. -/
theorem splitExtension?_append {stem extension : List Char} (hExtension : '.' ∉ extension) :
    splitExtension? (stem ++ '.' :: extension) =
      if stem = [] then none else some (stem, extension) := by
  have hNone : ∀ c ∈ extension.reverse, decide (c ≠ '.') = true := by
    intro c hMem
    rw [decide_eq_true_iff]
    rintro rfl
    exact hExtension (List.mem_reverse.1 hMem)
  have hReverse : (stem ++ '.' :: extension).reverse =
      extension.reverse ++ '.' :: stem.reverse := by simp
  have hTake : (stem ++ '.' :: extension).reverse.takeWhile (· ≠ '.') = extension.reverse := by
    rw [hReverse, List.takeWhile_append_of_pos hNone, List.takeWhile_cons_of_neg (by decide),
      List.append_nil]
  have hDrop : (stem ++ '.' :: extension).reverse.dropWhile (· ≠ '.') = '.' :: stem.reverse := by
    rw [hReverse, List.dropWhile_append_of_pos hNone, List.dropWhile_cons_of_neg (by decide)]
  simp only [splitExtension?, hTake, hDrop, List.drop_one, List.tail_cons, List.reverse_reverse]

/-- A name without a dot has no extension. -/
theorem splitExtension?_of_not_mem {name : List Char} (h : '.' ∉ name) :
    splitExtension? name = none := by
  have hNone : ∀ c ∈ name.reverse, decide (c ≠ '.') = true := by
    intro c hMem
    rw [decide_eq_true_iff]
    rintro rfl
    exact h (List.mem_reverse.1 hMem)
  have hDrop : name.reverse.dropWhile (· ≠ '.') = [] := List.dropWhile_eq_nil_iff.2 hNone
  simp only [splitExtension?, hDrop]
  rfl

/-! ## Plain names -/

/-- A name that leads into no directory. -/
def Plain (name : String) : Prop := '/' ∉ name.toList

instance (name : String) : Decidable (Plain name) :=
  inferInstanceAs (Decidable ('/' ∉ name.toList))

theorem partsFrom_of_not_mem :
    ∀ {path : List Char} (part : List Char), '/' ∉ path →
      partsFrom part path = [part.reverse ++ path]
  | [], part, _ => by simp [partsFrom]
  | c :: rest, part, h => by
    have hFirst : c ≠ '/' := fun hSlash => h (hSlash ▸ List.mem_cons_self)
    have hRest : '/' ∉ rest := fun hMem => h (List.mem_cons_of_mem _ hMem)
    rw [partsFrom, if_neg hFirst, partsFrom_of_not_mem _ hRest]
    simp

/-- A plain name is its own last part, if it names something. -/
theorem fileName?_of_plain {name : String} (h : Plain name) (hNonempty : name.toList ≠ [])
    (hHere : name.toList ≠ ['.']) (hUp : name.toList ≠ ['.', '.']) :
    fileName? name = some name := by
  have hParts : parts name.toList = [name.toList] := by
    rw [parts, partsFrom_of_not_mem [] h]
    exact List.filter_cons_of_pos (decide_eq_true ⟨hNonempty, hHere⟩)
  rw [fileName?, hParts]
  simp [hUp]

/-- **A plain name with a suffix.** Where the name has an extension, the suffix stands in front of
its last dot. Elsewhere it stands at the end, and if there is a last dot, then nothing stands in
front of that but perhaps another dot. -/
theorem withSuffix_cases {name : String} (h : Plain name) (suffix : String) :
    (∃ stem extension, '.' ∉ extension ∧ name.toList = stem ++ '.' :: extension ∧
      (withSuffix name suffix).toList = stem ++ '_' :: suffix.toList ++ '.' :: extension) ∨
    ((∀ stem extension, name.toList = stem ++ '.' :: extension → '.' ∉ extension → '_' ∉ stem) ∧
      withSuffix name suffix = name ++ "_" ++ suffix) := by
  by_cases hDots : name.toList = [] ∨ name.toList = ['.'] ∨ name.toList = ['.', '.']
  · right
    have hNone : fileName? name = none := by
      rcases hDots with hName | hName | hName <;>
      · rw [fileName?, hName]
        rfl
    constructor
    · intro stem extension hSplit _ hMem
      have hName : '_' ∈ name.toList := hSplit ▸ List.mem_append_left _ hMem
      rcases hDots with hDots | hDots | hDots <;>
      · rw [hDots] at hName
        simp at hName
    · rw [withSuffix, hNone]
      rfl
  · rw [not_or, not_or] at hDots
    have hSome : fileName? name = some name := fileName?_of_plain h hDots.1 hDots.2.1 hDots.2.2
    by_cases hMem : '.' ∈ name.toList
    · obtain ⟨stem, extension, hSplit, hExtension⟩ := exists_eq_append_cons hMem
      by_cases hStem : stem = []
      · right
        constructor
        · intro other rest hOther hRest
          obtain ⟨rfl, -⟩ :=
            append_cons_inj_of_not_mem hExtension hRest (hSplit.symm.trans hOther)
          rw [hStem]
          exact List.not_mem_nil
        · rw [withSuffix, hSome, Option.bind_some, hSplit, splitExtension?_append hExtension,
            if_pos hStem]
      · left
        refine ⟨stem, extension, hExtension, hSplit, ?_⟩
        rw [withSuffix, hSome, Option.bind_some, hSplit, splitExtension?_append hExtension,
          if_neg hStem]
        simp
    · right
      constructor
      · intro stem extension hSplit
        refine absurd ?_ hMem
        rw [hSplit]
        simp
      · rw [withSuffix, hSome, Option.bind_some, splitExtension?_of_not_mem hMem]

section suffix

variable {name other suffix : String} (hSuffix : '.' ∉ suffix.toList)

include hSuffix

/-- If a list that ends in the suffix has an extension, then the extension ends in it. -/
theorem of_append_suffix_eq {front back extension : List Char}
    (h : front ++ '_' :: suffix.toList = back ++ '.' :: extension) :
    ∃ middle, front = back ++ '.' :: middle ∧ extension = middle ++ '_' :: suffix.toList := by
  refine of_append_eq_append_cons ?_ h
  rw [List.mem_cons, not_or]
  exact ⟨by decide, hSuffix⟩

/-- **Plain names that differ get different names for their copies.** -/
theorem withSuffix_inj (hName : Plain name) (hOther : Plain other)
    (h : withSuffix name suffix = withSuffix other suffix) : name = other := by
  -- a suffix at the end of a name without an extension brings none
  have hMixed : ∀ {front stem extension : List Char},
      (∀ stem extension, front = stem ++ '.' :: extension → '.' ∉ extension → '_' ∉ stem) →
      '.' ∉ extension →
      front ++ '_' :: suffix.toList ≠ stem ++ '_' :: suffix.toList ++ '.' :: extension := by
    intro front stem extension hBare hExtension hSame
    obtain ⟨middle, hFront, rfl⟩ := of_append_suffix_eq hSuffix hSame
    have hMiddle : '.' ∉ middle := fun hMem => hExtension (List.mem_append_left _ hMem)
    refine hBare _ _ hFront hMiddle ?_
    simp
  have hAppend : ∀ name : String,
      (name ++ "_" ++ suffix).toList = name.toList ++ '_' :: suffix.toList := by
    intro name
    simp [String.toList_append]
  rcases withSuffix_cases hName suffix with
    ⟨stem, extension, hExtension, hSplit, hInserted⟩ | ⟨hBare, hAppended⟩ <;>
  rcases withSuffix_cases hOther suffix with
    ⟨otherStem, otherExtension, hOtherExtension, hOtherSplit, hOtherInserted⟩ |
      ⟨hOtherBare, hOtherAppended⟩
  · rw [← h, hInserted] at hOtherInserted
    obtain ⟨hStem, rfl⟩ := append_cons_inj_of_not_mem hExtension hOtherExtension hOtherInserted
    obtain rfl := List.append_cancel_right hStem
    exact String.toList_inj.1 (hSplit.trans hOtherSplit.symm)
  · rw [h, hOtherAppended, hAppend] at hInserted
    exact absurd hInserted (hMixed hOtherBare hExtension)
  · rw [← h, hAppended, hAppend] at hOtherInserted
    exact absurd hOtherInserted (hMixed hBare hOtherExtension)
  · rw [hAppended, hOtherAppended, String.append_left_inj, String.append_left_inj] at h
    exact h

end suffix

/-- The name of the copy of a plain name is plain. -/
theorem plain_withSuffix {name suffix : String} (hName : Plain name) (hSuffix : Plain suffix) :
    Plain (withSuffix name suffix) := by
  unfold Plain at hName hSuffix ⊢
  rcases withSuffix_cases hName suffix with
    ⟨stem, extension, -, hSplit, hInserted⟩ | ⟨-, hAppended⟩
  · rw [hSplit] at hName
    rw [hInserted]
    simp_all
  · rw [hAppended]
    simp_all [String.toList_append]

/-! ## Paths -/

/-- What stands in front of the names of a directory. -/
def folder (directory : String) : String :=
  if directory.isEmpty ∨ directory.toList.getLast? = some '/' then directory else directory ++ "/"

/-- That is nothing, or it ends in a slash. -/
theorem folder_cases (directory : String) :
    (folder directory).toList = [] ∨ ∃ front, (folder directory).toList = front ++ ['/'] := by
  unfold folder
  split
  · next hBare =>
    rcases hBare with hEmpty | hSlash
    · left
      rw [String.isEmpty_iff.1 hEmpty]
      rfl
    · right
      obtain ⟨front, hFront⟩ := List.getLast?_eq_some_iff.1 hSlash
      exact ⟨front, hFront⟩
  · exact .inr ⟨directory.toList, String.toList_append⟩

theorem join_of_plain (directory : String) {name : String} (h : Plain name) :
    join directory name = folder directory ++ name := by
  have hRelative : isAbsolute name = false := by
    unfold isAbsolute
    unfold Plain at h
    cases hName : name.toList with
    | nil => rfl
    | cons first rest =>
        rw [hName, List.mem_cons, not_or] at h
        simpa using Ne.symm h.1
  rw [join, hRelative, if_neg Bool.false_ne_true, folder]
  split <;> rfl

/-- **A path tells its directory and its plain name.** -/
theorem join_inj {directory otherDirectory name other : String} (hName : Plain name)
    (hOther : Plain other) (h : join directory name = join otherDirectory other) :
    folder directory = folder otherDirectory ∧ name = other := by
  rw [join_of_plain directory hName, join_of_plain otherDirectory hOther] at h
  have hList := congrArg String.toList h
  rw [String.toList_append, String.toList_append] at hList
  rcases folder_cases directory with hEmpty | ⟨front, hFront⟩ <;>
  rcases folder_cases otherDirectory with hOtherEmpty | ⟨otherFront, hOtherFront⟩
  · rw [hEmpty, hOtherEmpty] at hList
    exact ⟨String.toList_inj.1 (hEmpty.trans hOtherEmpty.symm), String.toList_inj.1 hList⟩
  · rw [hEmpty, hOtherFront] at hList
    refine absurd ?_ hName
    rw [List.nil_append] at hList
    rw [hList]
    simp
  · rw [hFront, hOtherEmpty] at hList
    refine absurd ?_ hOther
    rw [List.nil_append] at hList
    rw [← hList]
    simp
  · rw [hFront, hOtherFront, List.append_assoc, List.append_assoc] at hList
    obtain ⟨rfl, hSame⟩ := append_cons_inj_of_not_mem hName hOther hList
    exact ⟨String.toList_inj.1 (hFront.trans hOtherFront.symm), String.toList_inj.1 hSame⟩

/-- A copy in a directory that has the suffix at its end: its source has nothing behind it there, or
has the suffix itself. -/
theorem of_join_withSuffix {directory name suffix place : String} (hName : Plain name)
    (hPlain : Plain suffix) (hSuffix : '.' ∉ suffix.toList)
    (h : join directory (withSuffix name suffix) = place ++ "_" ++ suffix) :
    join directory name = place ∨ ∃ front, name = front ++ "_" ++ suffix := by
  rw [join_of_plain directory (plain_withSuffix hName hPlain)] at h
  rw [join_of_plain directory hName]
  rcases withSuffix_cases hName suffix with
    ⟨stem, extension, -, hSplit, hInserted⟩ | ⟨-, hAppended⟩
  · right
    have hSame := congrArg String.toList h
    rw [String.toList_append, hInserted] at hSame
    have hPlace : place.toList ++ '_' :: suffix.toList =
        ((folder directory).toList ++ (stem ++ '_' :: suffix.toList)) ++ '.' :: extension := by
      simpa [String.toList_append] using hSame.symm
    obtain ⟨middle, -, hMiddle⟩ := of_append_suffix_eq hSuffix hPlace
    refine ⟨String.ofList (stem ++ '.' :: middle), String.toList_inj.1 ?_⟩
    simp [String.toList_append, hSplit, hMiddle]
  · left
    rw [hAppended, ← String.append_assoc, ← String.append_assoc, String.append_left_inj,
      String.append_left_inj] at h
    exact h

end DiskFleet.FilePath
