import DiskFleet.Number.Digits
import DiskFleet.Yaml.Text
import DiskFleet.Yaml.Token

/-!
# Scalars

A scalar is a piece of text: plain, between quotes, or a block of indented lines. A plain or quoted
scalar can go over several lines, and then the breaks between its words are folded: one break is a
blank, and of several the first is dropped.

Each reader answers with the text and with what follows it, and with nothing where the text breaks a
rule. The readers stop after at most as many steps as there are characters.
-/

namespace DiskFleet.Yaml

/-- The line breaks between two words, folded. -/
def foldBreaks : List Char → List Char
  | ['\n'] => [' ']
  | '\n' :: rest => rest
  | breaks => breaks

/-- What blanks and breaks between two words stand for. -/
def gapText (gap : List Char) : List Char :=
  match gap.filter isBreak with
  | [] => gap
  | breaks => foldBreaks breaks

/-! ## Plain scalars -/

/-- A word of a plain scalar. Within brackets some marks end it, and a colon in front of one of them
is an error. -/
def plainWord? (flow : Bool) : List Placed → Option (List Char × List Placed)
  | [] => some ([], [])
  | p :: rest =>
    if isSpacing p.char then some ([], p :: rest)
    else if flow && p.char = ':' && startsIn rest ",?[]\x7b\x7d" then none
    else if p.char = ':' && startsApart rest then some ([], p :: rest)
    else if flow && startsIn (p :: rest) ",[]\x7b\x7d" then some ([], p :: rest)
    else (plainWord? flow rest).map fun (word, after) => (p.char :: word, after)

/-- A plain scalar from one of its words on. `gap` stands in front of the word; `broke` says whether
it holds a line break. Answers also whether the scalar was followed by a line break. -/
def plainFrom? (flow : Bool) (depth : Nat) :
    Nat → (gap : List Char) → (broke : Bool) → List Placed →
      Option (List Char × Bool × List Placed)
  | 0, _, _, _ => none
  | steps + 1, gap, broke, text =>
    if startsDocumentMark text ∨ head? text = some '#' then some ([], broke, text)
    else do
      let (word, after) ← plainWord? flow text
      if word.isEmpty then return ([], broke, text)
      let run := after.takeWhile fun p => isSpacing p.char
      if run.isEmpty then return (gap ++ word, false, after)
      let behindBreak := run.dropWhile fun p => !isBreak p.char
      if behindBreak.any fun p => p.char = '\t' && p.column < depth then none
      let broke := !behindBreak.isEmpty
      let next := after.drop run.length
      if !flow && columnOf next < depth then return (gap ++ word, broke, next)
      let (more, broke, rest) ← plainFrom? flow depth steps (gapText (charsOf run)) broke next
      return (gap ++ word ++ more, broke, rest)

/-- A plain scalar. Outside brackets its further lines are indented by at least `depth`. -/
def plain? (flow : Bool) (depth : Nat) (text : List Placed) :
    Option (String × Bool × List Placed) := do
  let (chars, broke, rest) ← plainFrom? flow depth (text.length + 1) [] false text
  return (String.ofList chars, broke, rest)

/-! ## Quoted scalars -/

/-- The character with the code that hexadecimal digits write. -/
def charOfHex? (digits : List Char) : Option Char := do
  let code ← Number.ofDigits? 16 digits
  if code.isValidChar then return Char.ofNat code else none

/-- How many hexadecimal digits follow a letter behind a backslash. -/
def hexLength? : Char → Option Nat
  | 'x' => some 2
  | 'u' => some 4
  | 'U' => some 8
  | _ => none

/-- What a character behind a backslash stands for. -/
def escaped? : Char → Option Char
  | '0' => some '\x00'
  | 'a' => some '\x07'
  | 'b' => some '\x08'
  | 't' | '\t' => some '\t'
  | 'n' => some '\n'
  | 'v' => some '\x0b'
  | 'f' => some '\x0c'
  | 'r' => some '\r'
  | 'e' => some '\x1b'
  | ' ' => some ' '
  | '"' => some '"'
  | '/' => some '/'
  | '\\' => some '\\'
  | 'N' => some '\u0085'
  | '_' => some '\u00a0'
  | 'L' => some '\u2028'
  | 'P' => some '\u2029'
  | _ => none

/-- What follows a backslash between double quotes, and the text behind it. A break there is dropped
together with the blanks behind it. -/
def escape? (text : List Placed) : Option (List Char × List Placed) :=
  match text with
  | [] => none
  | p :: rest =>
    if isBreak p.char then
      let (gap, after) := spanOf isSpacing rest
      some (gap.filter isBreak, after)
    else
      match hexLength? p.char with
      | some length =>
        (charOfHex? (charsOf (rest.take length))).bind fun c =>
          if length ≤ rest.length then some ([c], rest.drop length) else none
      | none => (escaped? p.char).map fun c => ([c], rest)

/-- The rest of a quoted scalar. -/
def quotedFrom? (double : Bool) : Nat → List Placed → Option (List Char × List Placed)
  | 0, _ => none
  | _, [] => none
  | steps + 1, p :: rest =>
    if startsDocumentMark (p :: rest) then none
    else if isSpacing p.char then
      let (gap, after) := spanOf isSpacing (p :: rest)
      (quotedFrom? double steps after).map fun (more, last) => (gapText gap ++ more, last)
    else if double then
      if p.char = '"' then some ([], rest)
      else if p.char = '\\' then do
        let (chars, after) ← escape? rest
        let (more, last) ← quotedFrom? double steps after
        return (chars ++ more, last)
      else (quotedFrom? double steps rest).map fun (more, last) => (p.char :: more, last)
    else
      if p.char = '\'' then
        if head? rest = some '\'' then
          (quotedFrom? double steps (rest.drop 1)).map fun (more, last) => ('\'' :: more, last)
        else some ([], rest)
      else (quotedFrom? double steps rest).map fun (more, last) => (p.char :: more, last)

/-- A scalar behind its opening quote. -/
def quoted? (double : Bool) (text : List Placed) : Option (String × List Placed) := do
  let (chars, rest) ← quotedFrom? double (text.length + 1) text
  return (String.ofList chars, rest)

/-! ## Block scalars -/

/-- What becomes of the line breaks behind a block. -/
inductive Chomping
  | strip
  | clip
  | keep
deriving DecidableEq, Repr

def chomping? : Char → Option Chomping
  | '-' => some .strip
  | '+' => some .keep
  | _ => none

/-- The digit of an indentation: not zero. -/
def indentDigit? (c : Char) : Option Nat := (Number.digitValue? 10 c).filter (0 < ·)

/-- What stands behind the mark of a block: how it ends and how far it is indented, in either order,
and the text behind it. Nothing where the digit is a zero. -/
def blockHeader? (text : List Placed) : Option (Chomping × Option Nat × List Placed) :=
  match (head? text).bind chomping? with
  | some chomping =>
    let rest := text.drop 1
    match head? rest with
    | some c =>
      if c.isDigit then (indentDigit? c).map fun n => (chomping, some n, rest.drop 1)
      else some (chomping, none, rest)
    | none => some (chomping, none, rest)
  | none =>
    match head? text with
    | some c =>
      if c.isDigit then
        (indentDigit? c).map fun n =>
          let rest := text.drop 1
          match (head? rest).bind chomping? with
          | some chomping => (chomping, some n, rest.drop 1)
          | none => (.clip, some n, rest)
      else some (.clip, none, text)
    | none => some (.clip, none, text)

/-- Skips empty lines and the indentation of the next line, which is `indent` columns, or as many as
there are where that is not known yet. Answers with the line breaks, the widest indentation and the
text behind. -/
def blockGap? (indent : Option Nat) : Nat → (widest : Nat) → List Placed →
    Option (List Char × Nat × List Placed)
  | 0, _, _ => none
  | steps + 1, widest, text =>
    let isInside (p : Placed) : Bool :=
      match indent with
      | some indent => p.column < indent
      | none => true
    let blanks := text.takeWhile fun p => p.char = ' ' && isInside p
    let rest := text.drop blanks.length
    let widest := max widest (columnOf rest)
    match rest with
    | [] => some ([], widest, [])
    | p :: after =>
      if p.char = '\t' ∧ isInside p then none
      else if isBreak p.char then
        (blockGap? indent steps widest after).map fun (breaks, widest, last) =>
          (p.char :: breaks, widest, last)
      else some ([], widest, rest)

/-- The lines of a block. `lineBreak` ends the line before, `breaks` the empty lines behind that,
and `afterBlank` says whether that line began with a blank. Answers with the text, the breaks behind
it, and what follows. -/
def blockLines? (folded : Bool) (indent : Nat) :
    Nat → (lineBreak breaks : List Char) → (afterBlank : Bool) → List Placed →
      Option (List Char × List Char × List Char × List Placed)
  | 0, _, _, _, _ => none
  | steps + 1, lineBreak, breaks, afterBlank, text =>
    if text.isEmpty ∨ columnOf text ≠ indent then some ([], lineBreak, breaks, text)
    else do
      let startsBlank := startsIn text " \t"
      let joined := folded ∧ lineBreak = ['\n'] ∧ !afterBlank ∧ !startsBlank
      let between :=
        if joined then (if breaks.isEmpty then [' '] else breaks) else lineBreak ++ breaks
      let (line, after) := spanOf (fun c => !isBreak c) text
      let (breaks, _, rest) ← blockGap? (some indent) (after.length + 1) 0 (after.drop 1)
      let (more, lineBreak, breaks, last) ←
        blockLines? folded indent steps (charsOf (after.take 1)) breaks startsBlank rest
      return (between ++ line ++ more, lineBreak, breaks, last)

/-- A block behind its mark; it is indented by at least `depth`, which is one more than the column
of the block around it. -/
def block? (folded : Bool) (depth : Nat) (text : List Placed) : Option (String × List Placed) := do
  let (chomping, increment, rest) ← blockHeader? text
  let rest ← skipLineEnd? rest
  let given := increment.map fun increment => depth - 1 + increment
  let (breaks, widest, rest) ← blockGap? given (rest.length + 1) 0 rest
  let indent := given.getD (max widest (max depth 1))
  let (chars, lineBreak, breaks, rest) ←
    blockLines? folded indent (rest.length + 1) [] breaks false rest
  let ending :=
    match chomping with
    | .strip => []
    | .clip => lineBreak
    | .keep => lineBreak ++ breaks
  return (String.ofList (chars ++ ending), rest)

end DiskFleet.Yaml
