import DiskFleet.Text.Blank

/-!
# The form of log lines

Log lines are written for people, one event in a line, or as one object for each event.
-/

namespace DiskFleet

inductive LogFormat
  /-- For people. -/
  | pretty
  /-- One object for each event. -/
  | json
deriving DecidableEq, Repr

namespace LogFormat

/-- The format that a word means, in any letter case. An unknown word is handed back in lower case.
-/
def ofWord (word : String) : Except String LogFormat :=
  let word := Text.lowerAscii word
  if word = "pretty" ∨ word = "text" then .ok pretty
  else if word = "json" then .ok json
  else .error word

/-- What is said about an unknown word. -/
def unknownMessage (word : String) : String := "Unknown log format: " ++ word

end LogFormat

end DiskFleet
