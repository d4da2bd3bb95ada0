import DiskFleet.Number.Digits
import DiskFleet.Proofs.Number.Exact
import DiskFleet.Proofs.Size.Grammar
import DiskFleet.Resource.Command

/-!
# Whole sizes

A size goes through a number of 53 binary digits, is multiplied and rounded, and is cut at 64 bits.
Whatever can be held by 53 binary digits comes through exactly (`scaled_eq`): only the rounding to
whole bytes and the cut are left. A whole number below `2 ^ 53` is one of these, and its product with
a unit is whole, so that of a whole size nothing but the cut is left.

## Main results

* `scaled_eq`: the bytes of a number that can be held;
* `parse_whole`: a whole size is exact, or the largest number of 64 bits.
-/

namespace DiskFleet.Size

/-! ## Whole numbers -/

/-- A whole number in decimal, with zeros in front of it. -/
def whole (zeros n : ℕ) : List Char := List.replicate zeros '0' ++ Nat.toDigits 10 n

theorem ne_point_of_mem_whole {zeros n : ℕ} {c : Char} (h : c ∈ whole zeros n) : c ≠ '.' := by
  rintro rfl
  exact absurd (Number.isDigit_of_mem_decimal h) (by decide)

theorem whole_ne_nil (zeros n : ℕ) : whole zeros n ≠ [] :=
  List.append_ne_nil_of_right_ne_nil _ Nat.toDigits_ne_nil

/-- **A whole number is a number of a size.** -/
theorem isNumber_whole (zeros n : ℕ) : IsNumber (whole zeros n) where
  numerals _ hMem := .inl (Number.isDigit_of_mem_decimal hMem)
  digit := by
    obtain ⟨c, hMem⟩ := List.exists_mem_of_ne_nil _ (whole_ne_nil zeros n)
    exact ⟨c, hMem, Number.isDigit_of_mem_decimal hMem⟩
  point := by
    rw [List.count_eq_zero.2 fun hMem => ne_point_of_mem_whole hMem rfl]
    exact Nat.zero_le 1

/-- Zeros in front of a number do not count. -/
theorem ofDigitChars_whole (zeros n : ℕ) : Nat.ofDigitChars 10 (whole zeros n) 0 = n := by
  rw [whole, Nat.ofDigitChars_append, Nat.ofDigitChars_replicate_zero, Nat.mul_zero,
    Nat.ofDigitChars_toDigits (by decide) (by decide)]

/-- **A whole number is read as itself**, over one. -/
theorem quotient?_whole (zeros n : ℕ) : quotient? (whole zeros n) = some (n, 1) := by
  have hDigits : (whole zeros n).filter (· ≠ '.') = whole zeros n :=
    List.filter_eq_self.2 fun c hMem => by simpa using ne_point_of_mem_whole hMem
  have hBehind : (whole zeros n).dropWhile (· ≠ '.') = [] :=
    List.dropWhile_eq_nil_iff.2 fun c hMem => by simpa using ne_point_of_mem_whole hMem
  have hGood : ¬(whole zeros n = [] ∨ 1 < (whole zeros n).count '.') :=
    not_or.2 ⟨whole_ne_nil zeros n, Nat.not_lt.2 (isNumber_whole zeros n).point⟩
  simp only [quotient?, hDigits, hBehind, if_neg hGood, ofDigitChars_whole]
  rfl

/-! ## Bytes -/

/-- No size is larger than the largest. -/
theorem scaled_le (num den shift : ℕ) : scaled num den shift ≤ limit := by
  unfold scaled
  split
  · exact Nat.le_refl _
  · exact Nat.min_le_right _ _

/-- **The bytes of a number that 53 binary digits can hold**: the number in its unit, rounded to
whole bytes and cut. -/
theorem scaled_eq {num den : ℕ} (hDen : den ≠ 0) (h : Number.Representable ((num : ℚ) / den))
    (shift : ℕ) : (scaled num den shift : ℤ) = min (round ((num : ℚ) / den * 2 ^ shift)) limit := by
  obtain ⟨value, hHeld, hValue⟩ := Number.nearest?_of_representable hDen h
  simp only [scaled, hHeld]
  rw [Nat.cast_min, Number.Binary.roundShifted_eq, hValue]

/-- The product of a whole number and a unit is whole, and is not rounded. -/
theorem scaled_whole {n : ℕ} (h : n < 2 ^ 53) (shift : ℕ) :
    scaled n 1 shift = min (n * 2 ^ shift) limit := by
  have hHeld : Number.Representable ((n : ℚ) / (1 : ℕ)) := by
    rw [Nat.cast_one, div_one]
    exact Number.representable_natCast h
  have hProduct : (n : ℚ) / (1 : ℕ) * 2 ^ shift = (n * 2 ^ shift : ℕ) := by
    push_cast
    rw [div_one]
  have hBytes := scaled_eq one_ne_zero hHeld shift
  rw [hProduct, round_natCast, ← Nat.cast_min] at hBytes
  exact_mod_cast hBytes

/-- **A whole size is exact, or the largest number of 64 bits**: the number times its unit as long as
that fits. -/
theorem parse_whole {text : String} {zeros n shift : ℕ} (hNumber : n < 2 ^ 53)
    (hWritten : Written text (whole zeros n) shift) :
    ∃ bytes, parse text = .ok bytes ∧ (SizeArgument.human text).toBytes = .ok bytes ∧
      bytes.toNat = min (n * 2 ^ shift) (2 ^ 64 - 1) := by
  obtain ⟨num, den, hQuotient, hParse⟩ := parse_of_written hWritten
  obtain ⟨rfl, rfl⟩ : n = num ∧ 1 = den := by
    simpa only [quotient?_whole, Option.some.injEq, Prod.mk.injEq] using hQuotient
  have hFits : scaled n 1 shift < 2 ^ 64 := Nat.lt_of_le_of_lt (scaled_le n 1 shift) (by decide)
  refine ⟨_, hParse, hParse, ?_⟩
  rw [UInt64.toNat_ofNat_of_lt' hFits, scaled_whole hNumber]
  rfl

/-- The largest whole number that is exact, in a unit in which it fits and in one in which it does
not. -/
theorem parse_whole_largest :
    (∃ bytes, parse "009007199254740991 kib\n" = .ok bytes ∧
      (SizeArgument.human "009007199254740991 kib\n").toBytes = .ok bytes ∧
      bytes.toNat = 9223372036854774784) ∧
    (∃ bytes, parse "9007199254740991TB" = .ok bytes ∧
      (SizeArgument.human "9007199254740991TB").toBytes = .ok bytes ∧
      bytes.toNat = 18446744073709551615) := by
  have hKibi : Written "009007199254740991 kib\n" (whole 2 9007199254740991) 10 :=
    ⟨{  before := [], between := [' '], unit := ['k', 'i', 'b'], after := ['\n'],
        blankBefore := nofun
        isNumber := isNumber_whole 2 9007199254740991
        blankBetween := List.forall_mem_singleton.2 rfl
        isUnit := ⟨['K'], 0, 1, by decide, by decide⟩
        blankAfter := List.forall_mem_singleton.2 rfl }, by decide +kernel⟩
  have hTera : Written "9007199254740991TB" (whole 0 9007199254740991) 40 :=
    ⟨{  before := [], between := [], unit := ['T', 'B'], after := [],
        blankBefore := nofun
        isNumber := isNumber_whole 0 9007199254740991
        blankBetween := nofun
        isUnit := ⟨['T'], 1, 0, by decide, by decide⟩
        blankAfter := nofun }, by decide +kernel⟩
  exact ⟨parse_whole (by decide) hKibi, parse_whole (by decide) hTera⟩

/-- Beyond, a number that has 54 binary digits goes to its even neighbour. -/
example : parse "9007199254740993" = .ok 9007199254740992 := by
  decide +kernel

end DiskFleet.Size
