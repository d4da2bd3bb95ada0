/-!
# Numbers written with digits

Sizes, places in lists, escaped characters and counts are written with digits of some base up to
sixteen. Reading accepts the letters of either case; writing (`Nat.toDigits`) uses lower-case ones.
The digit count is not bounded: whoever reads a number of limited width compares afterwards.

## Main results

* `ofDigitsFrom?_toDigits`: the digits of a number read back as that number.
-/

namespace DiskFleet.Number

/-- The value of a hexadecimal digit. -/
def hexValue? (c : Char) : Option Nat :=
  if c.isDigit then some (c.toNat - '0'.toNat)
  else if 'a' ≤ c ∧ c ≤ 'f' then some (c.toNat - 'a'.toNat + 10)
  else if 'A' ≤ c ∧ c ≤ 'F' then some (c.toNat - 'A'.toNat + 10)
  else none

/-- The value of a digit in a base up to sixteen. -/
def digitValue? (base : Nat) (c : Char) : Option Nat := (hexValue? c).filter (· < base)

/-- The number that digits write when those in front of them wrote `n`. -/
def ofDigitsFrom? (base n : Nat) : List Char → Option Nat
  | [] => some n
  | c :: rest => (digitValue? base c).bind fun value => ofDigitsFrom? base (n * base + value) rest

/-- The number that digits write. No digits write none. -/
def ofDigits? (base : Nat) (digits : List Char) : Option Nat :=
  if digits.isEmpty then none else ofDigitsFrom? base 0 digits

theorem hexValue?_digitChar : ∀ {n : Nat}, n < 16 → hexValue? n.digitChar = some n := by
  decide

theorem digitValue?_digitChar {base n : Nat} (hbase : base ≤ 16) (h : n < base) :
    digitValue? base n.digitChar = some n := by
  simp [digitValue?, hexValue?_digitChar (show n < 16 by omega), h]

theorem ofDigitsFrom?_append (base : Nat) (front back : List Char) (n : Nat) :
    ofDigitsFrom? base n (front ++ back) =
      (ofDigitsFrom? base n front).bind fun m => ofDigitsFrom? base m back := by
  induction front generalizing n with
  | nil => rfl
  | cons c rest ih =>
    simp only [List.cons_append, ofDigitsFrom?]
    cases digitValue? base c with
    | none => rfl
    | some value => simpa using ih _

/-- **The digits of a number read back as that number.** -/
theorem ofDigitsFrom?_toDigits {base : Nat} (hone : 1 < base) (hbase : base ≤ 16) (n : Nat) :
    ofDigitsFrom? base 0 (Nat.toDigits base n) = some n := by
  induction n using Nat.strongRecOn with
  | ind n ih =>
    rw [Nat.toDigits_eq_if hone]
    split
    · next hlt => simp [ofDigitsFrom?, digitValue?_digitChar hbase hlt]
    · next hge =>
      have hdiv : n / base < n := Nat.div_lt_self (by omega) hone
      have hmod : n % base < base := Nat.mod_lt n (by omega)
      simp only [ofDigitsFrom?_append, ih _ hdiv, ofDigitsFrom?, digitValue?_digitChar hbase hmod,
        Option.bind_some, Option.some.injEq]
      rw [Nat.mul_comm]
      exact Nat.div_add_mod n base

/-- A number in decimal is made of digits, also with zeros in front of it. -/
theorem isDigit_of_mem_decimal {zeros n : Nat} {c : Char}
    (h : c ∈ List.replicate zeros '0' ++ Nat.toDigits 10 n) : c.isDigit = true := by
  rcases List.mem_append.1 h with hZero | hDigit
  · rw [List.eq_of_mem_replicate hZero]
    rfl
  · exact Nat.isDigit_of_mem_toDigits (by decide) (by decide) hDigit

end DiskFleet.Number
