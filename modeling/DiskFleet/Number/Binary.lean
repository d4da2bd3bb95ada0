import DiskFleet.Number.Power

/-!
# Numbers of 53 binary digits

A number that is written with a decimal point is held as the nearest number with 53 significant
binary digits, a tie going to the even neighbour: the binary floating-point numbers of double width.
`nearest?` computes it from a quotient of natural numbers without any rounding in between. The least
exponent is -1074, so that very small numbers lose digits instead of vanishing at once, and there is
no nearest number for a quotient that rounds to `2 ^ 1024` or more.
-/

namespace DiskFleet.Number

/-- The value `mantissa · 2 ^ exponent`. -/
structure Binary where
  mantissa : Nat
  exponent : Int
deriving DecidableEq, Repr

/-- The whole number nearest to `num / den`, a half going to the even neighbour. -/
def divToEven (num den : Nat) : Nat :=
  let quotient := num / den
  let twice := 2 * (num % den)
  if twice < den then quotient
  else if den < twice then quotient + 1
  else if quotient % 2 = 0 then quotient
  else quotient + 1

/-- The whole number nearest to `num / (den · 2 ^ exponent)`, a half going to the even neighbour. -/
def scaledToEven (num den : Nat) (exponent : Int) : Nat :=
  if 0 ≤ exponent then divToEven num (den * twoPow exponent.toNat)
  else divToEven (num * twoPow (-exponent).toNat) den

/-- The exponent with which `num / den` has 53 binary digits in front of the point, no less than
-1074. -/
def exponentFor (num den : Nat) : Int :=
  let guess : Int := (num.log2 : Int) - (den.log2 : Int) - 52
  let below : Bool :=
    if 0 ≤ guess then num < twoPow 52 * (den * twoPow guess.toNat)
    else num * twoPow (-guess).toNat < twoPow 52 * den
  max (if below then guess - 1 else guess) (-1074)

/-- The number of 53 binary digits nearest to `num / den`. -/
def nearest? (num den : Nat) : Option Binary :=
  if num = 0 then some ⟨0, 0⟩
  else
    let exponent := exponentFor num den
    let mantissa := scaledToEven num den exponent
    if 971 < exponent ∨ (exponent = 971 ∧ twoPow 53 ≤ mantissa) then none
    else some ⟨mantissa, exponent⟩

/-- The whole number nearest to `value · 2 ^ shift`, a half going up. -/
def Binary.roundShifted (value : Binary) (shift : Nat) : Nat :=
  let exponent := value.exponent + shift
  if 0 ≤ exponent then value.mantissa * twoPow exponent.toNat
  else
    let den := twoPow (-exponent).toNat
    (2 * value.mantissa + den) / (2 * den)

end DiskFleet.Number
