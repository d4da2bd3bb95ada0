import DiskFleet.Text.Visible

/-!
# Quoted texts in messages

A refusal that names nodes or pools shows their names quoted, so that blanks and marks inside a name
are not taken for the message's own: `"host1"`, `["host1", "host2"]`, `Some("pool")` or `None`.
Inside the quotes a quote and a backslash follow a backslash, the common control characters have
their letter, and a character that a reader cannot see is given by its code: `\u\x7b200b\x7d`.
-/

namespace DiskFleet.Text

/-- One character inside quotes. -/
def quotedChar (c : Char) : List Char :=
  match c with
  | '"' => ['\\', '"']
  | '\\' => ['\\', '\\']
  | '\n' => ['\\', 'n']
  | '\r' => ['\\', 'r']
  | '\t' => ['\\', 't']
  | '\x00' => ['\\', '0']
  | c =>
    if isVisible c then [c]
    else ['\\', 'u', '\x7b'] ++ Nat.toDigits 16 c.toNat ++ ['\x7d']

/-- A text in quotes. -/
def quoted (s : String) : String :=
  String.ofList ('"' :: s.toList.flatMap quotedChar ++ ['"'])

/-- A list of texts, each in quotes. -/
def quotedList (texts : List String) : String :=
  "[" ++ ", ".intercalate (texts.map quoted) ++ "]"

/-- A text that may be missing. -/
def quotedOption : Option String → String
  | none => "None"
  | some s => "Some(" ++ quoted s ++ ")"

end DiskFleet.Text
