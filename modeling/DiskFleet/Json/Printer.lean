import DiskFleet.Json.Basic
import DiskFleet.Number.Shortest

/-!
# The compact text of a tree

`Json.compact` writes a tree without any blanks: whole numbers in decimal, other numbers with the
fewest digits that read back as the same number, and texts in quotes, where a quote, a backslash and
the control characters below U+0020 are escaped and everything else stands for itself.
-/

namespace DiskFleet.Json

/-- One character of a quoted text. -/
def escapedChar (c : Char) : List Char :=
  match c with
  | '"' => ['\\', '"']
  | '\\' => ['\\', '\\']
  | '\n' => ['\\', 'n']
  | '\r' => ['\\', 'r']
  | '\t' => ['\\', 't']
  | '\x08' => ['\\', 'b']
  | '\x0c' => ['\\', 'f']
  | c =>
    if c.toNat < 0x20 then
      ['\\', 'u', '0', '0', (c.toNat / 16).digitChar, (c.toNat % 16).digitChar]
    else [c]

/-- A text in quotes. -/
def quotedText (s : String) : String :=
  String.ofList ('"' :: s.toList.flatMap escapedChar ++ ['"'])

mutual

/-- A tree as text, without blanks. -/
def compact : Json → String
  | .null => "null"
  | .bool true => "true"
  | .bool false => "false"
  | .int n => toString n
  | .real negative magnitude => (if negative then "-" else "") ++ magnitude.shortestText
  | .str s => quotedText s
  | .arr items => "[" ++ ",".intercalate (compactItems items) ++ "]"
  | .obj members => "\x7b" ++ ",".intercalate (compactMembers members) ++ "\x7d"

def compactItems : List Json → List String
  | [] => []
  | item :: rest => compact item :: compactItems rest

def compactMembers : List (String × Json) → List String
  | [] => []
  | (key, value) :: rest => (quotedText key ++ ":" ++ compact value) :: compactMembers rest

end

end DiskFleet.Json
