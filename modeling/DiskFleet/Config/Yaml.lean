import DiskFleet.Config.Source
import DiskFleet.Text.Quoted
import DiskFleet.Yaml.Node

/-!
# Settings as YAML text

A settings file is a YAML document. Texts may be written in any way and then are what stands there,
so `5` and `no` are texts like any other; a count has to be a plain number. A record is a mapping,
never a sequence, and where nothing is written a record, a list and a map are empty.

`Config.toYaml` writes settings as a file that reads back as the same settings: every text is
quoted, and the keys of parameters are written as explicit keys, because they can be of any length.
-/

namespace DiskFleet

namespace Yaml

/-! ## Numbers -/

/-- A number of 64 bits in a base. -/
def numberIn? (base : Nat) (digits : List Char) : Option Nat :=
  (Number.ofDigits? base digits).filter (· < 0x10000000000000000)

/-- A count: decimal without zeros in front, hexadecimal, octal or binary, after at most one plus
sign. -/
def countOf? (text : String) : Option Nat :=
  let digits :=
    match text.toList with
    | '+' :: rest => rest
    | chars => chars
  match digits with
  | '0' :: 'x' :: rest => numberIn? 16 rest
  | '0' :: 'o' :: rest => numberIn? 8 rest
  | '0' :: 'b' :: rest => numberIn? 2 rest
  | '0' :: _ :: _ => none
  | _ => numberIn? 10 digits

/-! ## Trees as a source -/

namespace Node

/-- Whether nothing is written. -/
def isMissing : Node → Bool
  | .scalar .plain _ text => text.isEmpty
  | _ => false

def text? : Node → Option String
  | .scalar _ _ text => some text
  | _ => none

/-- A plain number, or a literal block with the tag of whole numbers. -/
def count? : Node → Option Nat
  | .scalar .plain _ text => countOf? text
  | .scalar .literal (some tag) text =>
    if tag = "tag:yaml.org,2002:int" then countOf? text else none
  | _ => none

def items? : Node → Option (List Node)
  | .sequence items => some items
  | node => if node.isMissing then some [] else none

/-- The members of a mapping, whose keys all are scalars. -/
def members? : Node → Option (List (String × Node))
  | .mapping members => members.mapM fun entry => entry.1.text?.map (·, entry.2)
  | node => if node.isMissing then some [] else none

/-- The word for an alternative: a scalar, or the tag of a scalar that says nothing. -/
def word? : Node → Option String
  | .scalar _ none text => some text
  | .scalar style (some tag) text =>
    if style = .plain ∧ ["", "~", "null", "Null", "NULL"].contains text then
      some (if tag.startsWith "!" then String.ofList (tag.toList.drop 1) else tag)
    else none
  | _ => none

end Node

instance : Source Node where
  text? := Node.text?
  count? := Node.count?
  items? := Node.items?
  members? := Node.members?
  record? _ node := node.members?.map Record.named
  word? := Node.word?

/-! ## Quoted texts -/

/-- Eight hexadecimal digits. -/
def eightDigits (n : Nat) : List Char :=
  let digits := Nat.toDigits 16 n
  List.replicate (8 - digits.length) '0' ++ digits

/-- One character between double quotes. -/
def quotedChar (c : Char) : List Char :=
  if c = '"' ∨ c = '\\' then ['\\', c]
  else if c = '\t' ∨ c = '\u0085' ∨ isBreak c ∨ !isAllowed c then '\\' :: 'U' :: eightDigits c.toNat
  else if c = '\r' then ['\\', 'r']
  else [c]

def quoted (text : String) : String :=
  String.ofList ('"' :: text.toList.flatMap quotedChar ++ ['"'])

/-- Texts between brackets. -/
def quotedList (texts : List String) : String := "[" ++ ", ".intercalate (texts.map quoted) ++ "]"

end Yaml

namespace Config

/-- The settings that a YAML text holds. -/
def ofYaml? (text : String) : Option Config :=
  (Yaml.Node.parse? text).bind fun tree => read? tree

/-! ## Writing settings -/

/-- The lines of a list under its name, each item by its lines. -/
def listLines (name : String) (items : List (List String)) : List String :=
  if items.isEmpty then [name ++ ": []"]
  else
    (name ++ ":") :: items.flatMap fun lines =>
      match lines with
      | first :: rest => ("- " ++ first) :: rest.map ("  " ++ ·)
      | [] => []

/-- Lines under a name. -/
def sectionLines (name : String) (lines : List String) : List String :=
  (name ++ ":") :: lines.map ("  " ++ ·)

def paramsLines (params : Params) : List String :=
  if params.isEmpty then ["params: \x7b\x7d"]
  else
    sectionLines "params" (params.map.entries.flatMap fun entry =>
      ["? " ++ Yaml.quoted entry.1, ": " ++ Yaml.quoted entry.2])

def nodeLines (node : NodeDeclaration) : List String :=
  ["name: " ++ Yaml.quoted node.name, "tags: " ++ Yaml.quotedList node.tags]

def poolLines (pool : PoolDeclaration) : List String :=
  ["name: " ++ Yaml.quoted pool.name, "type: " ++ pool.kind.word,
    "access: " ++ Yaml.quotedList pool.access] ++ paramsLines pool.params

/-- The lines of a settings file. -/
def lines (config : Config) : List String :=
  sectionLines "cluster"
      (listLines "nodes" (config.nodes.map nodeLines) ++
        ["partition: " ++ Yaml.quotedList config.partition]) ++
    listLines "pools" (config.pools.map poolLines) ++
    sectionLines "images"
      ["default_format: " ++ Yaml.quoted config.layerFormat,
        "default_size: " ++ Yaml.quoted config.layerSize,
        "suffix_length: " ++ toString config.suffixLength] ++
    ["recovery: " ++ config.recovery.word] ++
    sectionLines "logging"
      ["level: " ++ Yaml.quoted config.logLevel, "format: " ++ Yaml.quoted config.logFormat]

/-- The settings as a YAML text. -/
def toYaml (config : Config) : String := String.join (config.lines.map (· ++ "\n"))

/-- Whether the settings read back from the text that is written for them. -/
def readsBack (config : Config) : Bool := ofYaml? config.toYaml = some config

/-! ## Settings files -/

/-- What stands at the path of a settings file. -/
inductive FileState
  | missing
  /-- Something that holds no text, such as a directory. -/
  | unreadable
  | text (content : String)
deriving DecidableEq, Repr

/-- Why a settings file is refused. -/
inductive FileProblem
  | notFound (path : String)
  | unreadable (path : String)
  | malformed
deriving DecidableEq, Repr

def FileProblem.message : FileProblem → String
  | notFound path => "Config file not found: " ++ path
  | unreadable path => "Failed to read config file: " ++ path
  | malformed => "Failed to parse config file"

/-- The settings in the file at a path. -/
def load (path : String) : FileState → Except FileProblem Config
  | .missing => .error (.notFound path)
  | .unreadable => .error (.unreadable path)
  | .text content =>
    match ofYaml? content with
    | some config => .ok config
    | none => .error .malformed

end Config

end DiskFleet
