import DiskFleet.Text.Blank

/-!
# Lists of names as text

A list of names is handed on as one text, with a blank between the names, and is read back as the
words of that text. What is read are the names that were written, as long as no name holds a blank:
a name with a blank is read as several, and an empty one is lost.

## Main results

* `Text.words_intercalate`: the words of a list of names.
-/

namespace DiskFleet.Text

/-- A text is read as one word: it holds no blank. -/
def Unbroken (text : String) : Prop := ∀ c ∈ text.toList, isBlank c = false

-- by name: with the finite type of all characters in scope, a search would go through those
instance (text : String) : Decidable (Unbroken text) :=
  List.decidableBAll (isBlank · = false) text.toList

variable {chars : List Char}

/-- Characters that are not blank belong to the word being read. -/
theorem wordsFrom_append_unbroken (rest : List Char) :
    ∀ {run : List Char}, (∀ c ∈ chars, isBlank c = false) →
      wordsFrom run (chars ++ rest) = wordsFrom (chars.reverse ++ run) rest := by
  induction chars with
  | nil => exact fun _ => rfl
  | cons first others ih =>
      intro run hChars
      have hFirst : isBlank first = false := hChars first List.mem_cons_self
      rw [List.cons_append, wordsFrom, hFirst, if_neg Bool.false_ne_true,
        ih fun c hMem => hChars c (List.mem_cons_of_mem _ hMem), List.reverse_cons,
        List.append_assoc, List.singleton_append]

/-- Characters up to the end are one word, or none if there are none. -/
theorem wordsFrom_unbroken (hChars : ∀ c ∈ chars, isBlank c = false) :
    wordsFrom [] chars = [chars].filter (· ≠ []) := by
  have hRead : wordsFrom [] (chars ++ []) = wordsFrom (chars.reverse ++ []) [] :=
    wordsFrom_append_unbroken [] hChars
  rw [List.append_nil, List.append_nil] at hRead
  rw [hRead, wordsFrom]
  cases chars <;> simp

/-- Characters up to a blank are one word, or none if there are none. -/
theorem wordsFrom_unbroken_blank (rest : List Char) (hChars : ∀ c ∈ chars, isBlank c = false) :
    wordsFrom [] (chars ++ ' ' :: rest) = [chars].filter (· ≠ []) ++ wordsFrom [] rest := by
  rw [wordsFrom_append_unbroken _ hChars, List.append_nil, wordsFrom, if_pos (by decide)]
  cases chars <;> simp

/-- Lists of characters with blanks between them are read back, except for the empty ones. -/
theorem wordsFrom_intercalate :
    ∀ {lists : List (List Char)}, (∀ chars ∈ lists, ∀ c ∈ chars, isBlank c = false) →
      wordsFrom [] ([' '].intercalate lists) = lists.filter (· ≠ [])
  | [], _ => rfl
  | [chars], h => by
      rw [List.intercalate_singleton]
      exact wordsFrom_unbroken (h chars List.mem_cons_self)
  | chars :: next :: rest, h => by
      have hRest := wordsFrom_intercalate fun other hOther =>
        h other (List.mem_cons_of_mem _ hOther)
      rw [List.intercalate_cons_cons, List.append_assoc, List.singleton_append,
        wordsFrom_unbroken_blank _ (h chars List.mem_cons_self), hRest, ← List.filter_append,
        List.singleton_append]

/-- **The words of a list of names** without blanks are the names that are not empty. -/
theorem words_intercalate {names : List String} (hNames : ∀ name ∈ names, Unbroken name) :
    words (" ".intercalate names) = names.filter (· ≠ "") := by
  have hLists : ∀ chars ∈ names.map String.toList, ∀ c ∈ chars, isBlank c = false := by
    intro chars hChars
    obtain ⟨name, hName, rfl⟩ := List.mem_map.1 hChars
    exact hNames name hName
  have hBlank : " ".toList = [' '] := rfl
  rw [words, String.toList_intercalate, hBlank, wordsFrom_intercalate hLists, List.filter_map,
    List.map_map]
  have hSame : (String.ofList ∘ String.toList) = id := by
    funext name
    exact String.ofList_toList
  have hEmpty : ∀ name : String, decide (name.toList ≠ []) = decide (name ≠ "") := by
    intro name
    simp
  rw [hSame, List.map_id]
  exact List.filter_congr fun name _ => hEmpty name

end DiskFleet.Text
