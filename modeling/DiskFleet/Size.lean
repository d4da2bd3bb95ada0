import DiskFleet.Failure
import DiskFleet.Number.Binary
import DiskFleet.Text.Blank

/-!
# Sizes in human form

A size such as `10G`, `512M`, `1.5 GiB` or `4096` is a number and a unit, with blanks around and
between them. The number is made of digits with at most one decimal point among them. The unit is
one of the letters K, M, G and T, or nothing, in any letter case, and stands for a power of 1024;
behind it any number of `B` and then any number of `IB` is allowed and means nothing.

The number is taken as the nearest one of 53 binary digits, multiplied by the unit exactly, rounded
to a whole number of bytes with a half going up, and cut at the largest number of 64 bits.
-/

namespace DiskFleet.Size

/-- The largest size. -/
def limit : Nat := 0xffffffffffffffff

/-- A character of the number of a size. -/
def isNumeral (c : Char) : Bool := c.isDigit || c == '.'

/-- The number that digits around at most one decimal point write, as a quotient. -/
def quotient? (cs : List Char) : Option (Nat × Nat) :=
  let digits := cs.filter (· ≠ '.')
  if digits = [] ∨ 1 < cs.count '.' then none
  else
    let behind := (cs.dropWhile (· ≠ '.')).drop 1
    some (Nat.ofDigitChars 10 digits 0, Number.tenPow behind.length)

/-- A reversed unit without the `IB`s at its end. -/
def dropIB : List Char → List Char
  | 'B' :: 'I' :: rest => dropIB rest
  | rest => rest

/-- The power of two that a unit stands for. -/
def unitShift? (unit : List Char) : Option Nat :=
  let letters := ((dropIB unit.reverse).dropWhile (· = 'B')).reverse
  if letters = [] then some 0
  else if letters = ['K'] then some 10
  else if letters = ['M'] then some 20
  else if letters = ['G'] then some 30
  else if letters = ['T'] then some 40
  else none

/-- `num / den` times a power of two, in whole bytes, at most `limit`. -/
def scaled (num den shift : Nat) : Nat :=
  match Number.nearest? num den with
  | none => limit
  | some value => min (value.roundShifted shift) limit

/-- The bytes of a size in human form. -/
def parse (text : String) : Except Failure UInt64 :=
  let cs := Text.trimChars text.toList
  match quotient? (cs.takeWhile isNumeral) with
  | none => .error (.invalidRequest (.size text))
  | some (num, den) =>
    match unitShift? ((Text.trimChars (cs.dropWhile isNumeral)).map Char.toUpper) with
    | none => .error (.invalidRequest (.sizeUnit text))
    | some shift => .ok (UInt64.ofNat (scaled num den shift))

end DiskFleet.Size
