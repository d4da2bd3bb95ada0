/-!
# Blank characters, trimming and words

Sizes, flags and lists of names are written by people, with blanks around and between them. A blank
is any character with the Unicode property `White_Space`; the zero-width characters are not among
them.

`words` splits at runs of blanks and never yields an empty word (`ne_nil_of_mem_wordsFrom`).
-/

namespace DiskFleet.Text

/-- The property `White_Space`. -/
def isBlank (c : Char) : Bool :=
  let code := c.toNat
  (0x09 ≤ code && code ≤ 0x0d) || code == 0x20 || code == 0x85 || code == 0xa0 || code == 0x1680 ||
    (0x2000 ≤ code && code ≤ 0x200a) || code == 0x2028 || code == 0x2029 || code == 0x202f ||
    code == 0x205f || code == 0x3000

/-- The characters without the blanks at their end. -/
def trimEndChars (cs : List Char) : List Char :=
  (cs.reverse.dropWhile isBlank).reverse

/-- The characters without the blanks at either end. -/
def trimChars (cs : List Char) : List Char :=
  trimEndChars (cs.dropWhile isBlank)

/-- A text without the blanks at either end. -/
def trim (s : String) : String := String.ofList (trimChars s.toList)

/-- The maximal runs of characters that are not blank; `run` holds the one being read, backwards. -/
def wordsFrom (run : List Char) : List Char → List (List Char)
  | [] => if run.isEmpty then [] else [run.reverse]
  | c :: rest =>
    if isBlank c then
      if run.isEmpty then wordsFrom [] rest else run.reverse :: wordsFrom [] rest
    else wordsFrom (c :: run) rest

/-- The words of a text: its maximal runs of characters that are not blank. -/
def words (s : String) : List String := (wordsFrom [] s.toList).map String.ofList

/-- No word is empty. -/
theorem ne_nil_of_mem_wordsFrom {word : List Char} :
    ∀ (cs run : List Char), word ∈ wordsFrom run cs → word ≠ []
  | [], run, h => by
    unfold wordsFrom at h
    split at h
    · simp at h
    · next hrun =>
      obtain rfl : word = run.reverse := by simpa using h
      simpa using hrun
  | c :: rest, run, h => by
    unfold wordsFrom at h
    split at h
    · split at h
      · exact ne_nil_of_mem_wordsFrom rest [] h
      · next hrun =>
        rcases List.mem_cons.1 h with rfl | h
        · simpa using hrun
        · exact ne_nil_of_mem_wordsFrom rest [] h
    · exact ne_nil_of_mem_wordsFrom rest (c :: run) h

/-- A text with its ASCII letters in lower case. -/
def lowerAscii (s : String) : String := s.map Char.toLower

end DiskFleet.Text
