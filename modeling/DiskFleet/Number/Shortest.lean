import DiskFleet.Number.Binary

/-!
# The fewest digits that read back

A number of 53 binary digits is written with the fewest decimal digits that are still nearest to it.
The reals that round to `m · 2 ^ e` form an interval around it, whose ends belong to it when `m` is
even. For one digit, two digits and so on up to seventeen, the two multiples of the unit of the last
digit next to the value are tested against that interval; the first that lies inside is the answer,
and of two the nearer.

Digits are written positionally while the decimal point falls at most sixteen places behind the
first digit or at most four zeros in front of it, and with an exponent otherwise. A whole value
written positionally ends in `.0`.
-/

namespace DiskFleet.Number.Binary

/-- The same value with 53 binary digits in the mantissa, as far as the least exponent allows. -/
def normalized (value : Binary) : Binary :=
  if value.mantissa = 0 then ⟨0, 0⟩
  else
    let spare : Int := 52 - (value.mantissa.log2 : Int)
    let exponent := max (value.exponent - spare) (-1074)
    if exponent ≤ value.exponent then
      ⟨value.mantissa * twoPow (value.exponent - exponent).toNat, exponent⟩
    else ⟨value.mantissa / twoPow (exponent - value.exponent).toNat, exponent⟩

/-- Whether `digits · 10 ^ place` rounds to the normalized value `value`. All quantities are scaled
by four, because below a power of two the gap to the next number is half as wide. -/
def holds (value : Binary) (digits : Nat) (place : Int) : Bool :=
  let narrow := value.mantissa = twoPow 52 ∧ -1074 < value.exponent
  let low := 4 * value.mantissa - (if narrow then 1 else 2)
  let high := 4 * value.mantissa + 2
  let exponent := value.exponent - 2
  let binaryUp := twoPow exponent.toNat
  let binaryDown := twoPow (-exponent).toNat
  let decimalUp := tenPow place.toNat
  let decimalDown := tenPow (-place).toNat
  let point := digits * decimalUp * binaryDown
  let low := low * binaryUp * decimalDown
  let high := high * binaryUp * decimalDown
  if value.mantissa % 2 = 0 then low ≤ point ∧ point ≤ high else low < point ∧ point < high

/-- The value as a quotient of natural numbers over `10 ^ place`. -/
def overPlace (value : Binary) (place : Int) : Nat × Nat :=
  (value.mantissa * twoPow value.exponent.toNat * tenPow (-place).toNat,
    twoPow (-value.exponent).toNat * tenPow place.toNat)

/-- The place of the first decimal digit of `num / den`:
`10 ^ place ≤ num / den < 10 ^ (place + 1)`. `guess` counts down from a place that is not too small.
-/
def leadingPlace (num den : Nat) : Nat → Int → Int
  | 0, guess => guess
  | fuel + 1, guess =>
    if den * tenPow guess.toNat ≤ num * tenPow (-guess).toNat then guess
    else leadingPlace num den fuel (guess - 1)

/-- The shortest digits from `count` digits on, with `fuel` counts to try, and the place of the
last. -/
def digitsFrom (value : Binary) (leading : Int) : Nat → Nat → Nat × Int
  | 0, count =>
    let place := leading - (count : Int) + 1
    let (num, den) := value.overPlace place
    (divToEven num den, place)
  | fuel + 1, count =>
    let place := leading - (count : Int) + 1
    let (num, den) := value.overPlace place
    let below := num / den
    let above := below + 1
    let lower := value.holds below place
    let upper := value.holds above place
    if lower && upper then
      let twice := 2 * (num % den)
      (if twice < den ∨ (twice = den ∧ below % 2 = 0) then below else above, place)
    else if lower then (below, place)
    else if upper then (above, place)
    else digitsFrom value leading fuel (count + 1)

/-- Digits without the zeros at their end, which move into the place. -/
def dropZeros : Nat → Nat → Int → Nat × Int
  | 0, digits, place => (digits, place)
  | fuel + 1, digits, place =>
    if digits ≠ 0 ∧ digits % 10 = 0 then dropZeros fuel (digits / 10) (place + 1)
    else (digits, place)

/-- The shortest digits of a value other than zero, and the place of the last. -/
def shortestDigits (value : Binary) : Nat × Int :=
  let value := value.normalized
  let num := value.mantissa * twoPow value.exponent.toNat
  let den := twoPow (-value.exponent).toNat
  let leading := leadingPlace num den 700 310
  let (digits, place) := value.digitsFrom leading 16 1
  dropZeros 20 digits place

/-- The decimal digits of a natural number. -/
def decimal (n : Nat) : List Char := Nat.toDigits 10 n

/-- The text of a value. -/
def shortestText (value : Binary) : String :=
  if value.mantissa = 0 then "0.0"
  else
    let (digits, place) := value.shortestDigits
    let text := decimal digits
    let point : Int := (text.length : Int) + place
    String.ofList <|
      if 0 ≤ place ∧ point ≤ 16 then text ++ List.replicate place.toNat '0' ++ ['.', '0']
      else if 0 < point ∧ point ≤ 16 then
        text.take point.toNat ++ ['.'] ++ text.drop point.toNat
      else if -5 < point ∧ point ≤ 0 then
        ['0', '.'] ++ List.replicate (-point).toNat '0' ++ text
      else
        let exponent := (toString (point - 1)).toList
        match text with
        | [digit] => [digit, 'e'] ++ exponent
        | first :: rest => first :: '.' :: rest ++ ['e'] ++ exponent
        | [] => []

end DiskFleet.Number.Binary
