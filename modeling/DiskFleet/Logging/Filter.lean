import DiskFleet.Text.Blank

/-!
# Which events are logged

A log filter is written as directives with commas between them: a level alone holds for every event,
a level behind the beginning of a target for the events of those targets, and a target without a
level lets all of its events pass. A directive that names a span concerns events inside that span
only. A filter without directives lets errors pass.

Of the directives that concern an event the one with the longest target decides, and of two for one
target the later.
-/

namespace DiskFleet

/-- How much is logged. An event has one of the levels other than `off`. -/
inductive LogLevel
  | off
  | error
  | warn
  | info
  | debug
  | trace
deriving DecidableEq, Repr

namespace LogLevel

def rank : LogLevel → Nat
  | off => 0
  | error => 1
  | warn => 2
  | info => 3
  | debug => 4
  | trace => 5

def word : LogLevel → String
  | off => "off"
  | error => "error"
  | warn => "warn"
  | info => "info"
  | debug => "debug"
  | trace => "trace"

/-- The name of a level in a log line. -/
def label : LogLevel → String
  | off => "OFF"
  | error => "ERROR"
  | warn => "WARN"
  | info => "INFO"
  | debug => "DEBUG"
  | trace => "TRACE"

/-- The level of a word in any letter case, or of its rank. -/
def ofWord? (word : String) : Option LogLevel :=
  match Text.lowerAscii word with
  | "off" | "0" => some off
  | "error" | "1" => some error
  | "warn" | "2" => some warn
  | "info" | "3" => some info
  | "debug" | "4" => some debug
  | "trace" | "5" => some trace
  | _ => none

/-- The more verbose of two levels. -/
def max (first second : LogLevel) : LogLevel := if first.rank ≤ second.rank then second else first

end LogLevel

/-- One directive of a log filter. -/
structure LogDirective where
  /-- What the targets of its events begin with. -/
  target : Option String
  /-- Whether it concerns events inside a span only. -/
  inSpan : Bool
  level : LogLevel
deriving DecidableEq, Repr

namespace LogDirective

/-- A character of a target. -/
def isTargetChar (c : Char) : Bool :=
  c.isAlphanum || c = '_' || c = ':' || c = '-' || (0x80 ≤ c.toNat && !Text.isBlank c)

/-- A span between brackets, and what follows it. -/
def afterSpan? : List Char → Option (List Char)
  | '[' :: rest =>
    match rest.dropWhile (· ≠ ']') with
    | _ :: after => some after
    | [] => none
  | _ => none

/-- What a directive is about, and what follows that: a target, a span or both. -/
def subject? (text : List Char) : Option (Option String × Bool × List Char) :=
  let target := text.takeWhile isTargetChar
  let rest := text.drop target.length
  let named := if target.isEmpty then none else some (String.ofList target)
  match afterSpan? rest with
  | some after =>
    if target.isEmpty then
      let behind := after.takeWhile isTargetChar
      some (if behind.isEmpty then none else some (String.ofList behind), true,
        after.drop behind.length)
    else some (named, true, after)
  | none => if target.isEmpty then none else some (named, false, rest)

/-- The directive that a text writes. -/
def ofText? (text : String) : Option LogDirective :=
  match LogLevel.ofWord? text with
  | some level => some { target := none, inSpan := false, level }
  | none => do
    let (target, inSpan, rest) ← subject? text.toList
    match rest with
    | [] | ['='] => return { target, inSpan, level := .trace }
    | '=' :: word => return { target, inSpan, level := ← LogLevel.ofWord? (String.ofList word) }
    | _ => none

/-- Whether the directive concerns events of a target that are inside no span. -/
def concerns (directive : LogDirective) (target : String) : Bool :=
  !directive.inSpan && (directive.target.getD "").toList.isPrefixOf target.toList

/-- The length of the target, with a directive for all targets below those for some. -/
def specificity (directive : LogDirective) : Nat :=
  match directive.target with
  | none => 0
  | some target => target.length + 1

end LogDirective

/-- A log filter: its directives, as they are written. -/
structure LogFilter where
  directives : List LogDirective
deriving DecidableEq, Repr

namespace LogFilter

/-- The parts of a text between commas that are not empty; `part` holds the one being read,
backwards. -/
def partsFrom (part : List Char) : List Char → List String
  | [] => if part.isEmpty then [] else [String.ofList part.reverse]
  | c :: rest =>
    if c = ',' then
      if part.isEmpty then partsFrom [] rest
      else String.ofList part.reverse :: partsFrom [] rest
    else partsFrom (c :: part) rest

def parts (text : String) : List String := partsFrom [] text.toList

/-- The filter of some directives, that of errors if there are none. -/
def ofDirectives (directives : List LogDirective) : LogFilter :=
  ⟨if directives.isEmpty then [{ target := none, inSpan := false, level := .error }]
    else directives⟩

/-- The filter that a text writes, if every directive in it is one. -/
def ofText? (text : String) : Option LogFilter :=
  ((parts text).mapM LogDirective.ofText?).map ofDirectives

/-- The filter of the directives in a text that are some. -/
def ofTextLossy (text : String) : LogFilter :=
  ofDirectives ((parts text).filterMap LogDirective.ofText?)

/-- The most verbose level that a directive of the filter gives. -/
def mostVerbose (filter : LogFilter) : LogLevel :=
  filter.directives.foldl (fun level directive => level.max directive.level) .off

/-- The directive that decides on the events of a target. -/
def decisive? (filter : LogFilter) (target : String) : Option LogDirective :=
  filter.directives.foldl
    (fun best directive =>
      if directive.concerns target then
        match best with
        | none => some directive
        | some before =>
          if before.specificity ≤ directive.specificity then some directive else best
      else best)
    none

/-- Whether events of a level and a target pass. -/
def passes (filter : LogFilter) (level : LogLevel) (target : String) : Bool :=
  match filter.decisive? target with
  | some directive => level.rank ≤ directive.level.rank
  | none => false

end LogFilter

end DiskFleet
