import DiskFleet.Yaml.Token.Name
import DiskFleet.Yaml.Token.Scalar

/-!
# From characters to tokens

Whether a scalar is a key is only known at the colon behind it. The lexer therefore remembers, on
each level of brackets, the last token that can turn out to be a key, and puts the mark of the key
in front of it when the colon comes. A key outside brackets that stands at the indentation of its
block has to turn out to be one.

Indentation is kept as a depth, one more than the column of the block, so that the depth outside all
blocks is zero.
-/

namespace DiskFleet.Yaml

/-- A token that can turn out to be a key: how many tokens come before it, where it begins, and
whether it has to be a key. -/
structure KeyCandidate where
  before : Nat
  start : Placed
  required : Bool

/-- The state of the lexer. -/
structure Lexer where
  rest : List Placed
  /-- The tokens so far, latest first. -/
  tokens : List Token
  /-- The candidate on the present level of brackets. -/
  candidate : Option KeyCandidate
  /-- The candidates on the levels around it. -/
  outer : List (Option KeyCandidate)
  /-- Whether a key can begin here. -/
  keyAllowed : Bool
  depth : Nat
  /-- The depths of the blocks around the present one. -/
  depths : List Nat

namespace Lexer

def start (text : List Placed) : Lexer :=
  { rest := text, tokens := [], candidate := none, outer := [], keyAllowed := true, depth := 0
    depths := [] }

/-- Whether the lexer is between brackets. -/
def inFlow (lexer : Lexer) : Bool := !lexer.outer.isEmpty

def emit (lexer : Lexer) (token : Token) : Lexer := { lexer with tokens := token :: lexer.tokens }

/-- Puts a token behind the first `before` ones. -/
def insertAt (lexer : Lexer) (before : Nat) (token : Token) : Lexer :=
  let later := lexer.tokens.length - before
  { lexer with tokens := lexer.tokens.take later ++ token :: lexer.tokens.drop later }

/-! ## Keys -/

/-- Gives a candidate up, which must not have been required to be a key. -/
def giveUp? : Option KeyCandidate → Option Unit
  | some candidate => if candidate.required then none else some ()
  | none => some ()

/-- Forgets the candidate. -/
def forget? (lexer : Lexer) : Option Lexer :=
  (giveUp? lexer.candidate).map fun _ => { lexer with candidate := none }

/-- Whether a key that begins with the candidate can still end here: on its line, and after no more
than 1024 characters. -/
def isFresh (here : Placed) (candidate : KeyCandidate) : Bool :=
  here.line ≤ candidate.start.line && here.index ≤ candidate.start.index + 1024

/-- Forgets the candidates of all levels that can no longer be keys. -/
def dropStale? (lexer : Lexer) (here : Placed) : Option Lexer := do
  let dropOne (candidate : Option KeyCandidate) : Option (Option KeyCandidate) :=
    if (candidate.map (isFresh here)).getD true then some candidate
    else (giveUp? candidate).map fun _ => none
  let candidate ← dropOne lexer.candidate
  let outer ← lexer.outer.mapM dropOne
  return { lexer with candidate, outer }

/-- Remembers the token that begins here as a candidate. -/
def remember? (lexer : Lexer) (here : Placed) : Option Lexer :=
  if lexer.keyAllowed then do
    let lexer ← lexer.forget?
    let required := !lexer.inFlow && lexer.depth = here.column + 1
    return { lexer with candidate := some ⟨lexer.tokens.length, here, required⟩ }
  else some lexer

/-! ## Blocks -/

/-- Begins a block at a column that is further in than the present one. The token that says so goes
behind the first `before` ones. -/
def indent (lexer : Lexer) (column before : Nat) (token : Token) : Lexer :=
  if !lexer.inFlow && lexer.depth < column + 1 then
    { lexer.insertAt before token with depth := column + 1, depths := lexer.depth :: lexer.depths }
  else lexer

/-- Ends blocks as long as they are further in than `depth`. -/
def unindent (depth : Nat) : (depths : List Nat) → Lexer → Lexer
  | [], lexer => lexer
  | outer :: depths, lexer =>
    if depth < lexer.depth then
      unindent depth depths { lexer.emit .blockEnd with depth := outer, depths }
    else lexer

/-- Ends the blocks that are further in than a column. -/
def endBlocks (lexer : Lexer) (depth : Nat) : Lexer :=
  if lexer.inFlow then lexer else unindent depth lexer.depths lexer

/-! ## One token -/

/-- Skips blanks, comments and line breaks. A tab does not count as a blank where a key can begin.
-/
def skipToToken : Nat → Lexer → Lexer
  | 0, lexer => lexer
  | steps + 1, lexer =>
    let isSkipped (c : Char) : Bool := c = ' ' || (c = '\t' && (lexer.inFlow || !lexer.keyAllowed))
    let rest :=
      match lexer.rest with
      | p :: rest => if p.char = byteOrderMark ∧ p.column = 0 then rest else p :: rest
      | [] => []
    let rest := skip isSkipped rest
    let rest := if head? rest = some '#' then skip (fun c => !isBreak c) rest else rest
    match rest with
    | [] => { lexer with rest := [] }
    | p :: after =>
      if isBreak p.char then
        skipToToken steps
          { lexer with rest := after, keyAllowed := lexer.keyAllowed || !lexer.inFlow }
      else { lexer with rest := p :: after }

/-- A token of some characters that ends all blocks. -/
def documentToken? (lexer : Lexer) (token : Token) (rest : List Placed) : Option Lexer := do
  let lexer ← (lexer.endBlocks 0).forget?
  return { lexer.emit token with rest, keyAllowed := false }

/-- A bracket that opens a level. -/
def openBracket? (lexer : Lexer) (here : Placed) (token : Token) (rest : List Placed) :
    Option Lexer := do
  let lexer ← lexer.remember? here
  return { lexer.emit token with
    rest, candidate := none, outer := lexer.candidate :: lexer.outer, keyAllowed := true }

/-- A bracket that closes a level. -/
def closeBracket? (lexer : Lexer) (token : Token) (rest : List Placed) : Option Lexer := do
  let lexer ← lexer.forget?
  let lexer := { lexer.emit token with rest, keyAllowed := false }
  match lexer.outer with
  | candidate :: outer => return { lexer with candidate, outer }
  | [] => return lexer

/-- The hyphen of an item, or the question mark of a key. Outside brackets it stands where a key can
begin, and begins a block of its kind. -/
def blockMark? (lexer : Lexer) (here : Placed) (block token : Token) (keyAllowed : Bool)
    (rest : List Placed) : Option Lexer := do
  if !lexer.inFlow && !lexer.keyAllowed then none
  let lexer ← (lexer.indent here.column lexer.tokens.length block).forget?
  return { lexer.emit token with rest, keyAllowed }

/-- The colon of a value: behind a candidate, which so turns out to be a key, or else on its own. -/
def valueMark? (lexer : Lexer) (here : Placed) (rest : List Placed) : Option Lexer :=
  match lexer.candidate with
  | some candidate =>
    let lexer := lexer.insertAt candidate.before .key
    let lexer := lexer.indent candidate.start.column candidate.before .blockMapping
    some { lexer.emit .value with rest, candidate := none, keyAllowed := false }
  | none =>
    if !lexer.inFlow && !lexer.keyAllowed then none
    else
      let opened := lexer.indent here.column lexer.tokens.length .blockMapping
      some { opened.emit .value with rest, keyAllowed := !lexer.inFlow }

/-- A token that can be a key and that no key can follow at once. -/
def keyToken? (lexer : Lexer) (here : Placed) (token : Token) (rest : List Placed) :
    Option Lexer := do
  let lexer ← lexer.remember? here
  return { lexer.emit token with rest, keyAllowed := false }

/-- A block scalar, which is no key; a key can begin behind it. -/
def blockScalar? (lexer : Lexer) (folded : Bool) (rest : List Placed) : Option Lexer := do
  let lexer ← lexer.forget?
  let (text, rest) ← block? folded lexer.depth rest
  let token := Token.scalar (if folded then .folded else .literal) text
  return { lexer.emit token with rest, keyAllowed := true }

/-- A plain scalar; a key can begin behind it if a line break follows. -/
def plainScalar? (lexer : Lexer) (here : Placed) : Option Lexer := do
  let (text, broke, rest) ← plain? lexer.inFlow lexer.depth lexer.rest
  let lexer ← lexer.keyToken? here (.scalar .plain text) rest
  return { lexer with keyAllowed := broke }

/-- Whether a plain scalar can begin with the first of some characters. -/
def startsPlain (flow : Bool) (text rest : List Placed) : Bool :=
  (!startsApart text && !startsIn text "-?:,[]\x7b\x7d#&*!|>'\"%@`") ||
    (startsIn text "-" && !startsIn rest " \t") ||
    (!flow && startsIn text "?:" && !startsApart rest)

/-- The token that begins with a character. -/
def token? (lexer : Lexer) (p : Placed) (rest : List Placed) : Option Lexer :=
  let text := p :: rest
  let marked := lexer.inFlow || startsApart rest
  if p.column = 0 ∧ p.char = '%' then do
    let (token, after) ← directive? rest
    lexer.documentToken? token after
  else if startsMark '-' text then lexer.documentToken? .documentStart (text.drop 3)
  else if startsMark '.' text then lexer.documentToken? .documentEnd (text.drop 3)
  else if p.char = '[' then lexer.openBracket? p .openSequence rest
  else if p.char = '\x7b' then lexer.openBracket? p .openMapping rest
  else if p.char = ']' then lexer.closeBracket? .closeSequence rest
  else if p.char = '\x7d' then lexer.closeBracket? .closeMapping rest
  else if p.char = ',' then do
    let lexer ← lexer.forget?
    return { lexer.emit .flowEntry with rest, keyAllowed := true }
  else if p.char = '-' ∧ startsApart rest then
    lexer.blockMark? p .blockSequence .blockEntry true rest
  else if p.char = '?' ∧ marked then lexer.blockMark? p .blockMapping .key (!lexer.inFlow) rest
  else if p.char = ':' ∧ marked then lexer.valueMark? p rest
  else if p.char = '*' then do
    let (name, after) ← anchorName? rest
    lexer.keyToken? p (.alias name) after
  else if p.char = '&' then do
    let (name, after) ← anchorName? rest
    lexer.keyToken? p (.anchor name) after
  else if p.char = '!' then do
    let (token, after) ← tag? lexer.inFlow rest
    lexer.keyToken? p token after
  else if p.char = '|' ∧ !lexer.inFlow then lexer.blockScalar? false rest
  else if p.char = '>' ∧ !lexer.inFlow then lexer.blockScalar? true rest
  else if p.char = '\'' ∨ p.char = '"' then do
    let (string, after) ← quoted? (p.char = '"') rest
    lexer.keyToken? p (.scalar .quoted string) after
  else if startsPlain lexer.inFlow text rest then lexer.plainScalar? p
  else none

/-- Reads tokens until the text ends. -/
def run? : Nat → Lexer → Option (List Token)
  | 0, _ => none
  | steps + 1, lexer =>
    let lexer := lexer.skipToToken (lexer.rest.length + 1)
    match lexer.rest with
    | [] => do
      let lexer ← (lexer.endBlocks 0).forget?
      return lexer.tokens.reverse
    | p :: rest => do
      let lexer ← lexer.dropStale? p
      let lexer ← (lexer.endBlocks (p.column + 1)).token? p rest
      run? steps lexer

end Lexer

/-- The tokens of a text. -/
def tokens? (text : String) : Option (List Token) :=
  if text.toList.all isAllowed then
    let placed := place text
    (Lexer.start placed).run? (placed.length + 1)
  else none

end DiskFleet.Yaml
