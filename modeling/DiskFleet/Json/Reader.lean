import DiskFleet.Json.Basic
import DiskFleet.Number.Digits

/-!
# Reading a tree from text

`Json.parse?` reads one tree from a whole text and refuses everything that is not one: a missing or
an extra comma, a number with a leading zero, a control character inside quotes, an escape that is
half of a pair, anything after the value. Blanks between the marks are the space, the tab and the
two line ends. Arrays and objects may be nested up to `nestingLimit` deep, which is also what the
recursion descends on.

A whole number that fits 64 bits, with or without sign, is read as an integer; a larger one, and
every number with a fraction or an exponent, as the nearest number of 53 binary digits. Of two
members with one name the later wins.

Each function takes the characters still to be read and answers with what it found and what is left.
-/

namespace DiskFleet.Json.Reader

/-- How deep arrays and objects may be nested, counting the innermost. -/
def nestingLimit : Nat := 127

abbrev Chars := List Char

def isBlank (c : Char) : Bool := c = ' ' ∨ c = '\t' ∨ c = '\n' ∨ c = '\r'

def skipBlanks (cs : Chars) : Chars := cs.dropWhile isBlank

/-- The value of four hexadecimal digits. -/
def hex4? (a b c d : Char) : Option Nat := Number.ofDigits? 16 [a, b, c, d]

/-- What a backslash and a letter stand for. -/
def simpleEscape? : Char → Option Char
  | '"' => some '"'
  | '\\' => some '\\'
  | '/' => some '/'
  | 'b' => some '\x08'
  | 'f' => some '\x0c'
  | 'n' => some '\n'
  | 'r' => some '\r'
  | 't' => some '\t'
  | _ => none

/-- The rest of a text behind its opening quote; `done` holds the characters read, backwards. -/
def text? (done : Chars) : Chars → Option (String × Chars)
  | '"' :: rest => some (String.ofList done.reverse, rest)
  | '\\' :: 'u' :: a :: b :: c :: d :: rest =>
    match hex4? a b c d with
    | none => none
    | some unit =>
      if unit < 0xd800 ∨ 0xdfff < unit then text? (Char.ofNat unit :: done) rest
      else if 0xdbff < unit then none
      else
        match rest with
        | '\\' :: 'u' :: e :: f :: g :: h :: rest' =>
          match hex4? e f g h with
          | none => none
          | some low =>
            if 0xdc00 ≤ low ∧ low ≤ 0xdfff then
              text? (Char.ofNat (0x10000 + (unit - 0xd800) * 0x400 + (low - 0xdc00)) :: done) rest'
            else none
        | _ => none
  | '\\' :: c :: rest =>
    match simpleEscape? c with
    | some c => text? (c :: done) rest
    | none => none
  | c :: rest => if c.toNat < 0x20 ∨ c = '\\' then none else text? (c :: done) rest
  | [] => none

/-- The value of a run of decimal digits. -/
def digitsValue (digits : Chars) : Nat := Nat.ofDigitChars 10 digits 0

/-- The number `± digits · 10 ^ place`. -/
def realValue? (negative : Bool) (digits : Nat) (place : Int) : Option Json :=
  (Number.nearest? (digits * Number.tenPow place.toNat) (Number.tenPow (-place).toNat)).map
    (.real negative)

/-- A number; the first character is a digit or a minus sign. -/
def number? (cs : Chars) : Option (Json × Chars) := do
  let negative := cs.head? == some '-'
  let cs := if negative then cs.drop 1 else cs
  let whole := cs.takeWhile Char.isDigit
  let cs := cs.drop whole.length
  if whole.isEmpty ∨ (whole.head? = some '0' ∧ 1 < whole.length) then none
  let (fraction, cs, pointed) ← match cs with
    | '.' :: rest =>
      let fraction := rest.takeWhile Char.isDigit
      if fraction.isEmpty then none else some (fraction, rest.drop fraction.length, true)
    | _ => some ([], cs, false)
  let (exponent, cs, raised) ← match cs with
    | c :: rest =>
      if c = 'e' ∨ c = 'E' then
        let (down, rest) := match rest with
          | '+' :: rest => (false, rest)
          | '-' :: rest => (true, rest)
          | _ => (false, rest)
        let exponent := rest.takeWhile Char.isDigit
        if exponent.isEmpty then none
        else
          let size : Int := digitsValue exponent
          some (if down then -size else size, rest.drop exponent.length, true)
      else some (0, cs, false)
    | [] => some ((0 : Int), cs, false)
  let digits := digitsValue (whole ++ fraction)
  if !pointed && !raised then
    if negative then
      if digits = 0 ∨ 0x8000000000000000 < digits then return (← realValue? true digits 0, cs)
      else return (.int (-(digits : Int)), cs)
    else if digits < 0x10000000000000000 then return (.int digits, cs)
    else return (← realValue? false digits 0, cs)
  else if digits = 0 then return (.real negative ⟨0, 0⟩, cs)
  else
    let place := exponent - fraction.length
    -- Far outside the range of the numbers, the power of ten need not be computed.
    if 400 < place then none
    else if place < -(400 + (whole.length + fraction.length : Nat) : Int) then
      return (.real negative ⟨0, 0⟩, cs)
    else return (← realValue? negative digits place, cs)

/-- The characters behind a word that has to stand here. -/
def word? (word : Chars) (cs : Chars) : Option Chars :=
  if cs.take word.length = word then some (cs.drop word.length) else none

/-- The items of an array behind its opening bracket or a comma, at most `fuel` of them; `done`
holds those read, backwards. -/
def items? (value? : Chars → Option (Json × Chars)) (done : List Json) :
    Nat → Chars → Option (List Json × Chars)
  | 0, _ => none
  | fuel + 1, cs => do
    let (item, cs) ← value? cs
    match skipBlanks cs with
    | ',' :: rest => items? value? (item :: done) fuel rest
    | ']' :: rest => return ((item :: done).reverse, rest)
    | _ => none

/-- The members of an object behind its opening brace or a comma, at most `fuel` of them; `done`
holds those read. -/
def members? (value? : Chars → Option (Json × Chars)) (done : SortedMap Json) :
    Nat → Chars → Option (SortedMap Json × Chars)
  | 0, _ => none
  | fuel + 1, cs => do
    match skipBlanks cs with
    | '"' :: cs =>
      let (key, cs) ← text? [] cs
      match skipBlanks cs with
      | ':' :: cs =>
        let (value, cs) ← value? cs
        let done := done.insert key value
        match skipBlanks cs with
        | ',' :: rest => members? value? done fuel rest
        | '\x7d' :: rest => return (done, rest)
        | _ => none
      | _ => none
    | _ => none

/-- One value with blanks in front, in which `depth` more arrays and objects may be nested. -/
def value? : Nat → Chars → Option (Json × Chars)
  | depth, cs =>
    match skipBlanks cs with
    | 'n' :: rest => (word? ['u', 'l', 'l'] rest).map (.null, ·)
    | 't' :: rest => (word? ['r', 'u', 'e'] rest).map (.bool true, ·)
    | 'f' :: rest => (word? ['a', 'l', 's', 'e'] rest).map (.bool false, ·)
    | '"' :: rest => (text? [] rest).map fun (s, rest) => (.str s, rest)
    | '[' :: rest =>
      match depth with
      | 0 => none
      | depth + 1 =>
        match skipBlanks rest with
        | ']' :: rest => some (.arr [], rest)
        | _ =>
          (items? (value? depth) [] rest.length rest).map fun (items, rest) => (.arr items, rest)
    | '\x7b' :: rest =>
      match depth with
      | 0 => none
      | depth + 1 =>
        match skipBlanks rest with
        | '\x7d' :: rest => some (.obj [], rest)
        | _ =>
          (members? (value? depth) ∅ rest.length rest).map fun (members, rest) =>
            (.obj members.entries, rest)
    | c :: rest => if c = '-' ∨ c.isDigit then number? (c :: rest) else none
    | [] => none

end Reader

/-- The tree that a text writes, if it writes one and nothing else. -/
def parse? (s : String) : Option Json :=
  match Reader.value? Reader.nestingLimit s.toList with
  | some (json, rest) => if (Reader.skipBlanks rest).isEmpty then some json else none
  | none => none

end DiskFleet.Json
