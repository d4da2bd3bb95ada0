import DiskFleet.Yaml.Token.Lexer

/-!
# YAML trees

A document is a tree of scalars, sequences and mappings. An alias stands for the node that its
anchor marks; inside that node itself it stands for nothing that can be read (`Node.unfinished`). A
missing node is the empty plain scalar.

The grammar is read by recursive descent. The readers share a number of steps, a few for each token,
so that they end; each step of a list of items reads at least one token.
-/

namespace DiskFleet.Yaml

/-- A node of a tree. A scalar keeps how it is written and its tag. -/
inductive Node
  | scalar (style : Style) (tag : Option String) (text : String)
  | sequence (items : List Node)
  | mapping (members : List (Node × Node))
  | unfinished
deriving Inhabited

namespace Node

/-- The node where none is written. -/
def missing : Node := .scalar .plain none ""

/-- The tokens that are left, what the anchors so far mark, and what the tag handles stand for. -/
structure Reader where
  tokens : List Token
  anchors : List (String × Node)
  handles : List (String × String)

/-- A step that can fail. -/
abbrev Read (α : Type) := StateT Reader Option α

namespace Read

/-- The next token. -/
def peek? : Read (Option Token) := return (← get).tokens.head?

def drop : Read Unit := modify fun reader => { reader with tokens := reader.tokens.drop 1 }

/-- Whether the next token is one of some; the end counts as none of them. -/
def isNext (tokens : List Token) : Read Bool := do
  return ((← get).tokens.head?.map tokens.contains).getD false

/-- Takes a token if it is the next one. -/
def take (token : Token) : Read Bool := do
  if ← isNext [token] then
    drop
    return true
  else return false

end Read

open Read

/-- The tag that a handle and a suffix write. Only `!` alone is no tag. -/
def resolveTag (handle suffix : String) : Read (Option String) := do
  if handle.isEmpty then return if suffix = "!" then none else some suffix
  match (← get).handles.lookup handle with
  | some expansion => return some (expansion ++ suffix)
  | none => failure

/-- The anchor and the tag in front of a node, in either order. -/
def properties : Read (Option String × Option (String × String)) := do
  match (← get).tokens with
  | .anchor name :: .tag handle suffix :: rest
  | .tag handle suffix :: .anchor name :: rest =>
    modify ({ · with tokens := rest })
    return (some name, some (handle, suffix))
  | .anchor name :: rest =>
    modify ({ · with tokens := rest })
    return (some name, none)
  | .tag handle suffix :: rest =>
    modify ({ · with tokens := rest })
    return (none, some (handle, suffix))
  | _ => return (none, none)

/-- Marks a node with an anchor. -/
def mark (anchor : Option String) (node : Node) : Read Unit := do
  match anchor with
  | some name => modify fun reader => { reader with anchors := (name, node) :: reader.anchors }
  | none => return ()

/-- Where a node stands: what may begin there. -/
inductive Position
  /-- Between brackets. -/
  | flow
  /-- In a block. -/
  | block
  /-- In a mapping of a block, where a sequence need not be indented. -/
  | member
deriving DecidableEq

mutual

/-- A node. -/
def node (position : Position) : Nat → Read Node
  | 0 => failure
  | steps + 1 => do
    if let some (.alias name) ← peek? then
      drop
      return ← (← get).anchors.lookup name
    let (anchor, tagParts) ← properties
    let tag ←
      match tagParts with
      | some (handle, suffix) => resolveTag handle suffix
      | none => pure none
    let collection (read : Read Node) : Read Node := do
      mark anchor .unfinished
      let result ← read
      mark anchor result
      return result
    match ← peek? with
    | some (.scalar style text) =>
      drop
      let result := Node.scalar style tag text
      mark anchor result
      return result
    | some .openSequence =>
      drop
      collection (return .sequence (← flowItems true steps))
    | some .openMapping =>
      drop
      collection (return .mapping (← flowMembers true steps))
    | token =>
      if token = some .blockEntry ∧ position = .member then
        collection (return .sequence (← looseItems steps))
      else if token = some .blockSequence ∧ position ≠ .flow then
        drop
        collection (return .sequence (← blockItems steps))
      else if token = some .blockMapping ∧ position ≠ .flow then
        drop
        collection (return .mapping (← blockMembers steps))
      else if anchor.isSome ∨ tagParts.isSome then
        let result := Node.scalar .plain tag ""
        mark anchor result
        return result
      else failure

/-- A node, or none where one of some tokens comes next. -/
def nodeUnless (tokens : List Token) (position : Position) : Nat → Read Node
  | 0 => failure
  | steps + 1 => do
    if ← isNext tokens then return missing
    node position steps

/-- The items of a block up to its end. -/
def blockItems : Nat → Read (List Node)
  | 0 => failure
  | steps + 1 => do
    if ← take .blockEntry then
      let item ← nodeUnless [.blockEntry, .blockEnd] .block steps
      return item :: (← blockItems steps)
    else if ← take .blockEnd then return []
    else failure

/-- The items of a sequence that is not indented. -/
def looseItems : Nat → Read (List Node)
  | 0 => failure
  | steps + 1 => do
    if ← take .blockEntry then
      let item ← nodeUnless [.blockEntry, .key, .value, .blockEnd] .block steps
      return item :: (← looseItems steps)
    else return []

/-- The members of a block up to its end. -/
def blockMembers : Nat → Read (List (Node × Node))
  | 0 => failure
  | steps + 1 => do
    if ← take .key then
      let key ← nodeUnless [.key, .value, .blockEnd] .member steps
      let value ←
        if ← take .value then nodeUnless [.key, .value, .blockEnd] .member steps
        else pure missing
      return (key, value) :: (← blockMembers steps)
    else if ← take .blockEnd then return []
    else failure

/-- The items between brackets up to the closing one. A key among them begins a mapping of one
member. -/
def flowItems (first : Bool) : Nat → Read (List Node)
  | 0 => failure
  | steps + 1 => do
    if ← take .closeSequence then return []
    if !first then
      if !(← take .flowEntry) then failure
    if ← take .closeSequence then return []
    if ← take .key then
      let key ←
        if ← isNext [.value, .flowEntry, .closeSequence] then do
          drop
          pure missing
        else node .flow steps
      let value ←
        if ← take .value then nodeUnless [.flowEntry, .closeSequence] .flow steps
        else pure missing
      return .mapping [(key, value)] :: (← flowItems false steps)
    else
      let item ← node .flow steps
      return item :: (← flowItems false steps)

/-- The members between braces up to the closing one. -/
def flowMembers (first : Bool) : Nat → Read (List (Node × Node))
  | 0 => failure
  | steps + 1 => do
    if ← take .closeMapping then return []
    if !first then
      if !(← take .flowEntry) then failure
    if ← take .closeMapping then return []
    if ← take .key then
      let key ← nodeUnless [.value, .flowEntry, .closeMapping] .flow steps
      let value ←
        if ← take .value then nodeUnless [.flowEntry, .closeMapping] .flow steps
        else pure missing
      return (key, value) :: (← flowMembers false steps)
    else
      let key ← node .flow steps
      return (key, missing) :: (← flowMembers false steps)

end

/-! ## Documents -/

/-- What the handles `!` and `!!` stand for. -/
def standardHandles : List (String × String) := [("!", "!"), ("!!", "tag:yaml.org,2002:")]

/-- The directives in front of a document: whether there are any, and the handles they add. The
version is 1.1 or 1.2 and given at most once, and no handle is given twice. -/
def directives (versioned : Bool) (handles : List (String × String)) :
    List Token → Option (Bool × List (String × String) × List Token)
  | .version major minor :: rest =>
    if versioned ∨ major ≠ 1 ∨ (minor ≠ 1 ∧ minor ≠ 2) then none
    else (directives true handles rest).map fun (_, found) => (true, found)
  | .tagHandle handle expansion :: rest =>
    if (handles.lookup handle).isSome then none
    else (directives versioned ((handle, expansion) :: handles) rest).map fun (_, found) =>
      (true, found)
  | tokens => some (false, handles, tokens)

/-- The node of a document, and the tokens behind it. -/
def content? (handles : List (String × String)) (tokens : List Token) :
    Option (Node × List Token) := do
  let reader : Reader := { tokens, anchors := [], handles := handles ++ standardHandles }
  let (result, reader) ← (node .block (4 * tokens.length + 4)).run reader
  return (result, reader.tokens)

/-- Whether nothing but the ends of documents is left. -/
def isOver (tokens : List Token) : Bool := tokens.all (· == .documentEnd)

/-- The one document that some tokens write, the missing node if they write none. -/
def ofTokens? (tokens : List Token) : Option Node := do
  let (directed, handles, rest) ← directives false [] tokens
  match rest with
  | [] => if directed then none else return missing
  | .documentStart :: rest =>
    match rest.head? with
    | none | some .documentEnd => if isOver rest then return missing else none
    | some .documentStart | some (.version ..) | some (.tagHandle ..) => none
    | some _ =>
      let (result, rest) ← content? handles rest
      if isOver rest then return result else none
  | _ =>
    if directed then none
    else
      let (result, rest) ← content? handles rest
      if isOver rest then return result else none

/-- The tree that a text writes, if it writes just one. -/
def parse? (text : String) : Option Node := (tokens? text).bind ofTokens?

end Node

end DiskFleet.Yaml
