/-!
# Placed characters

In YAML the place of a character counts: indentation says what belongs together, and a key ends on
the line where it begins. The text is therefore first turned into a list of characters that know
their places (`place`), with every kind of line break written in one way, and all further reading is
recursion on that list.

Texts that hold other control characters than tabs and line breaks are no YAML at all (`isAllowed`).
-/

namespace DiskFleet.Yaml

/-- A character, its number in the text, and its line and column. -/
structure Placed where
  char : Char
  index : Nat
  line : Nat
  column : Nat

/-- A line break; the separators U+2028 and U+2029 are breaks that keep their own character. -/
def isBreak (c : Char) : Bool := c = '\n' || c = '\u2028' || c = '\u2029'

def isBlank (c : Char) : Bool := c = ' ' || c = '\t'

def isSpacing (c : Char) : Bool := isBlank c || isBreak c

/-- A character of names: a letter, a digit, a hyphen or an underscore of ASCII. -/
def isWordChar (c : Char) : Bool := c.isAlphanum || c = '-' || c = '_'

/-- Whether a text may hold the character. -/
def isAllowed (c : Char) : Bool :=
  let n := c.toNat
  n = 0x09 || n = 0x0a || n = 0x0d || (0x20 ≤ n && n ≤ 0x7e) || n = 0x85 ||
    (0xa0 ≤ n && n ≤ 0xfffd) || (0x10000 ≤ n && n ≤ 0x10ffff)

/-- The mark that can stand in front of a text to tell its encoding. -/
def byteOrderMark : Char := '\ufeff'

/-- Gives each character its place. The line breaks CR LF, CR and NEL become LF. -/
def placeFrom (index line column : Nat) : List Char → List Placed
  | [] => []
  | '\r' :: '\n' :: rest => ⟨'\n', index, line, column⟩ :: placeFrom (index + 2) (line + 1) 0 rest
  | c :: rest =>
    let c := if c = '\r' ∨ c = '\u0085' then '\n' else c
    ⟨c, index, line, column⟩ ::
      if isBreak c then placeFrom (index + 1) (line + 1) 0 rest
      else placeFrom (index + 1) line (column + 1) rest

/-- The characters of a text with their places, without a mark of the encoding in front. -/
def place (text : String) : List Placed :=
  match text.toList with
  | c :: rest => placeFrom 0 0 0 (if c = byteOrderMark then rest else c :: rest)
  | [] => []

/-! ## Looking ahead -/

/-- The first character. -/
def head? (text : List Placed) : Option Char := text.head?.map (·.char)

/-- Whether the text begins with one of the characters. -/
def startsIn (text : List Placed) (characters : String) : Bool :=
  match head? text with
  | some c => characters.toList.contains c
  | none => false

/-- Whether the text begins with a blank or a line break, or has ended. -/
def startsApart (text : List Placed) : Bool :=
  match head? text with
  | some c => isSpacing c
  | none => true

/-- Whether the line has ended. -/
def startsBreak (text : List Placed) : Bool :=
  match head? text with
  | some c => isBreak c
  | none => true

/-- The column of the first character. -/
def columnOf (text : List Placed) : Nat := (text.head?.map (·.column)).getD 0

/-- Whether three marks of one kind begin a line and stand alone. -/
def startsMark (mark : Char) (text : List Placed) : Bool :=
  match text with
  | a :: b :: c :: rest =>
    a.column = 0 && a.char = mark && b.char = mark && c.char = mark && startsApart rest
  | _ => false

/-- Whether a document begins or ends here. -/
def startsDocumentMark (text : List Placed) : Bool := startsMark '-' text || startsMark '.' text

/-- The characters, without their places. -/
def charsOf (text : List Placed) : List Char := text.map (·.char)

/-- The longest part in front whose characters pass a test, and the rest. -/
def spanOf (test : Char → Bool) (text : List Placed) : List Char × List Placed :=
  (charsOf (text.takeWhile fun p => test p.char), text.dropWhile fun p => test p.char)

/-- The text behind a part whose characters pass a test. -/
def skip (test : Char → Bool) (text : List Placed) : List Placed :=
  text.dropWhile fun p => test p.char

/-- The text behind blanks and a comment, if the line ends there. -/
def skipLineEnd? (text : List Placed) : Option (List Placed) :=
  let text := skip isBlank text
  let text := if head? text = some '#' then skip (fun c => !isBreak c) text else text
  if startsBreak text then some (text.drop 1) else none

end DiskFleet.Yaml
