/-!
# Tokens of YAML

A token is a mark or a piece of text that stands for itself. Indentation appears as tokens too:
where a block begins and where it ends.
-/

namespace DiskFleet.Yaml

/-- How a scalar is written. -/
inductive Style
  | plain
  /-- Between single or double quotes. -/
  | quoted
  /-- A block that keeps its lines. -/
  | literal
  /-- A block whose lines are joined. -/
  | folded
deriving DecidableEq, Repr

inductive Token
  | version (major minor : Nat)
  /-- A handle and what tags with it begin with. -/
  | tagHandle (handle expansion : String)
  | documentStart
  | documentEnd
  | blockSequence
  | blockMapping
  | blockEnd
  | openSequence
  | closeSequence
  | openMapping
  | closeMapping
  /-- The hyphen in front of an item. -/
  | blockEntry
  /-- The comma between items. -/
  | flowEntry
  | key
  | value
  | alias (name : String)
  | anchor (name : String)
  | tag (handle suffix : String)
  | scalar (style : Style) (text : String)
deriving DecidableEq, Repr

end DiskFleet.Yaml
