import DiskFleet.Number.Digits
import DiskFleet.Yaml.Text
import DiskFleet.Yaml.Token

/-!
# Names, tags and directives

Anchors and aliases have a name, a tag has a handle and a suffix, and a directive in front of a
document gives the version of YAML or what a handle stands for. A suffix is written in the
characters of a web address, any others as percent signs and hexadecimal digits.
-/

namespace DiskFleet.Yaml

/-- The name of an anchor or an alias. A mark that can follow a node has to stand behind it. -/
def anchorName? (text : List Placed) : Option (String × List Placed) :=
  let (name, rest) := spanOf isWordChar text
  if !name.isEmpty && (startsApart rest || startsIn rest "?:,]\x7d%@`") then
    some (String.ofList name, rest)
  else none

/-! ## Tags -/

/-- A character of a web address; commas and brackets only where `wide`. -/
def isAddressChar (wide : Bool) (c : Char) : Bool :=
  isWordChar c || ";/?:@&=+$.!~*'()".toList.contains c || (wide && ",[]".toList.contains c)

/-- The bytes of an address, and what follows it. -/
def addressBytes? (wide : Bool) : List Placed → Option (List UInt8 × List Placed)
  | [] => some ([], [])
  | p :: rest =>
    if p.char = '%' then
      match rest with
      | a :: b :: rest => do
        let code ← Number.ofDigits? 16 [a.char, b.char]
        let (bytes, after) ← addressBytes? wide rest
        return (UInt8.ofNat code :: bytes, after)
      | _ => none
    else if isAddressChar wide p.char then
      (addressBytes? wide rest).map fun (bytes, after) =>
        (p.char.toString.toUTF8.toList ++ bytes, after)
    else some ([], p :: rest)

/-- An address, whose bytes have to be a text. -/
def address? (wide : Bool) (text : List Placed) : Option (String × List Placed) := do
  let (bytes, rest) ← addressBytes? wide text
  let address ← String.fromUTF8? ⟨bytes.toArray⟩
  return (address, rest)

/-- A handle behind its exclamation mark: a name, and whether a second mark ends it. -/
def handle (text : List Placed) : String × Bool × List Placed :=
  let (name, rest) := spanOf isWordChar text
  if head? rest = some '!' then (String.ofList name, true, rest.drop 1)
  else (String.ofList name, false, rest)

/-- The handle and the suffix of a tag behind its exclamation mark. -/
def tagParts? (text : List Placed) : Option (String × String × List Placed) :=
  if head? text = some '<' then do
    let (suffix, rest) ← address? true (text.drop 1)
    if suffix.isEmpty ∨ head? rest ≠ some '>' then none
    return ("", suffix, rest.drop 1)
  else
    match handle text with
    | (name, true, rest) => do
      let (suffix, rest) ← address? false rest
      if suffix.isEmpty then none
      return ("!" ++ name ++ "!", suffix, rest)
    | (name, false, rest) => do
      let (more, rest) ← address? false rest
      let suffix := name ++ more
      return if suffix.isEmpty then ("", "!", rest) else ("!", suffix, rest)

/-- A tag behind its exclamation mark. -/
def tag? (flow : Bool) (text : List Placed) : Option (Token × List Placed) := do
  let (handle, suffix, rest) ← tagParts? text
  if startsApart rest || (flow && head? rest = some ',') then return (.tag handle suffix, rest)
  else none

/-! ## Directives -/

/-- A number of one to nine digits. -/
def versionNumber? (text : List Placed) : Option (Nat × List Placed) :=
  let (digits, rest) := spanOf Char.isDigit text
  if digits.isEmpty ∨ 9 < digits.length then none
  else some (Nat.ofDigitChars 10 digits 0, rest)

/-- A directive behind its percent sign, with its line. -/
def directive? (text : List Placed) : Option (Token × List Placed) := do
  let (name, rest) := spanOf isWordChar text
  if !startsApart rest then none
  let rest := skip isBlank rest
  match String.ofList name with
  | "YAML" =>
    let (major, rest) ← versionNumber? rest
    if head? rest ≠ some '.' then none
    let (minor, rest) ← versionNumber? (rest.drop 1)
    return (.version major minor, ← skipLineEnd? rest)
  | "TAG" =>
    if head? rest ≠ some '!' then none
    let (name, ended, rest) := handle (rest.drop 1)
    if !name.isEmpty && !ended then none
    if startsBreak rest || !startsApart rest then none
    let (expansion, rest) ← address? true (skip isBlank rest)
    if expansion.isEmpty || !startsApart rest then none
    let written := "!" ++ name ++ (if ended then "!" else "")
    return (.tagHandle written expansion, ← skipLineEnd? rest)
  | _ => none

end DiskFleet.Yaml
