import DiskFleet.Size
import DiskFleet.Proofs.Text.Trim

/-!
# The grammar of sizes

A size is read from the outside in: the blanks at the ends go first, then the number is what digits
and points there are at the front, and what is left after further blanks has to be a unit. From a
unit every `IB` at its end is taken off, and then every `B`, which leaves its letter or nothing.

`Size.Written` says the same as a grammar: blanks, a number, blanks, a unit, blanks. A number starts
with no blank and ends with none, and no character of a unit is a blank, a digit or a point, so that
both are found where they were written (`Parts.takeWhile_chars`, `Parts.trimChars_behind`). Since the
`IB`s go before the `B`s, `KBIB` is a unit and `KIBB` is none.

## Main results

* `unitShift?_eq_some_iff`: which units there are, and what they stand for;
* `parse_of_written`: how a size is read;
* `parse_accepts_written`: exactly the texts that are written as a size are read, and every other is
  refused as an invalid request.
-/

namespace DiskFleet.Size

/-! ## Numbers -/

/-- The number of a size: decimal digits, at least one of them, with at most one point among
them. -/
structure IsNumber (cs : List Char) : Prop where
  numerals : ∀ c ∈ cs, c.isDigit = true ∨ c = '.'
  digit : ∃ c ∈ cs, c.isDigit = true
  point : cs.count '.' ≤ 1

theorem isNumeral_iff {c : Char} : isNumeral c = true ↔ c.isDigit = true ∨ c = '.' := by
  simp [isNumeral]

/-- The point and the digits stand close together. -/
theorem toNat_of_isNumeral {c : Char} (h : isNumeral c = true) : 46 ≤ c.toNat ∧ c.toNat ≤ 57 := by
  rcases isNumeral_iff.1 h with hDigit | rfl
  · simp only [Char.isDigit, Bool.and_eq_true, decide_eq_true_eq, ge_iff_le] at hDigit
    have hLow : 48 ≤ c.toNat := hDigit.1
    exact ⟨by omega, hDigit.2⟩
  · decide

/-- A digit or a point is no blank. -/
theorem not_isBlank_of_isNumeral {c : Char} (h : isNumeral c = true) : Text.isBlank c = false := by
  obtain ⟨hLow, hHigh⟩ := toNat_of_isNumeral h
  exact Text.isBlank_of_visible (by omega) (by omega)

theorem IsNumber.isNumeral {cs : List Char} (h : IsNumber cs) {c : Char} (hMem : c ∈ cs) :
    Size.isNumeral c = true :=
  isNumeral_iff.2 (h.numerals c hMem)

/-- **A run of digits and points is read if it is a number.** -/
theorem quotient?_isSome_iff {cs : List Char} (h : ∀ c ∈ cs, isNumeral c = true) :
    (quotient? cs).isSome = true ↔ IsNumber cs := by
  have hDigits : cs.filter (· ≠ '.') ≠ [] ↔ ∃ c ∈ cs, c.isDigit = true := by
    rw [Ne, List.filter_eq_nil_iff]
    constructor
    · intro hSome
      obtain ⟨c, hMem, hOther⟩ : ∃ c ∈ cs, c ≠ '.' := by
        by_contra hNone
        exact hSome fun c hMem => by simpa using fun hOther => hNone ⟨c, hMem, hOther⟩
      exact ⟨c, hMem, (isNumeral_iff.1 (h c hMem)).resolve_right hOther⟩
    · rintro ⟨c, hMem, hDigit⟩ hNone
      obtain rfl : c = '.' := by simpa using hNone c hMem
      cases hDigit
  simp only [quotient?]
  split
  · next hBad =>
    refine ⟨fun hSome => Bool.noConfusion hSome, fun hNumber => ?_⟩
    rcases hBad with hNil | hMany
    · exact absurd hNil (hDigits.2 hNumber.digit)
    · exact absurd hNumber.point (by omega)
  · next hGood =>
    obtain ⟨hSome, hFew⟩ := not_or.1 hGood
    exact ⟨fun _ => ⟨fun c hMem => isNumeral_iff.1 (h c hMem), hDigits.1 hSome, by omega⟩,
      fun _ => rfl⟩

/-! ## Units -/

/-- The letters of a unit, each with the power of two that it stands for. -/
def unitLetters : List (List Char × Nat) :=
  [([], 0), (['K'], 10), (['M'], 20), (['G'], 30), (['T'], 40)]

theorem mem_unitLetters_iff {letter : List Char} {shift : Nat} :
    (letter, shift) ∈ unitLetters ↔ letter = [] ∧ shift = 0 ∨ letter = ['K'] ∧ shift = 10 ∨
      letter = ['M'] ∧ shift = 20 ∨ letter = ['G'] ∧ shift = 30 ∨ letter = ['T'] ∧ shift = 40 := by
  simp [unitLetters]

/-- A letter or nothing, any number of `B` and any number of `IB`. -/
def spelled (letter : List Char) (bytes binaries : Nat) : List Char :=
  letter ++ List.replicate bytes 'B' ++ (List.replicate binaries ['I', 'B']).flatten

theorem reverse_spelled (letter : List Char) (bytes binaries : Nat) :
    (spelled letter bytes binaries).reverse =
      (List.replicate binaries ['B', 'I']).flatten ++
        (List.replicate bytes 'B' ++ letter.reverse) := by
  simp [spelled, List.reverse_flatten]

/-- What is taken off at the end of a unit are `IB`s. -/
theorem exists_dropIB (cs : List Char) :
    ∃ binaries, cs = (List.replicate binaries ['B', 'I']).flatten ++ dropIB cs := by
  fun_induction dropIB cs with
  | case1 rest ih =>
      obtain ⟨binaries, hRest⟩ := ih
      refine ⟨binaries + 1, ?_⟩
      rw [List.replicate_succ, List.flatten_cons, List.append_assoc, ← hRest]
      rfl
  | case2 rest => exact ⟨0, rfl⟩

/-- All of them are. -/
theorem dropIB_append (rest : List Char) :
    ∀ binaries, dropIB ((List.replicate binaries ['B', 'I']).flatten ++ rest) = dropIB rest
  | 0 => rfl
  | binaries + 1 => by
    rw [List.replicate_succ, List.flatten_cons, List.append_assoc]
    exact dropIB_append rest binaries

/-- Of a letter and `B`s behind it there is no `IB` to be taken off. -/
theorem dropIB_bytes {letter : List Char} {shift : Nat} (h : (letter, shift) ∈ unitLetters)
    (bytes : Nat) :
    dropIB (List.replicate bytes 'B' ++ letter.reverse) =
      List.replicate bytes 'B' ++ letter.reverse := by
  rcases bytes with _ | _ | bytes
  all_goals
    rcases mem_unitLetters_iff.1 h with ⟨rfl, -⟩ | ⟨rfl, -⟩ | ⟨rfl, -⟩ | ⟨rfl, -⟩ | ⟨rfl, -⟩ <;> rfl

/-- **The units in capital letters**: a letter of the table, or nothing, and what may stand behind
it. -/
theorem unitShift?_eq_some_iff {cs : List Char} {shift : Nat} :
    unitShift? cs = some shift ↔
      ∃ letter bytes binaries, (letter, shift) ∈ unitLetters ∧ cs = spelled letter bytes binaries := by
  constructor
  · intro h
    obtain ⟨binaries, hBinaries⟩ := exists_dropIB cs.reverse
    obtain ⟨bytes, hBytes⟩ : ∃ bytes, (dropIB cs.reverse).takeWhile (· = 'B') =
        List.replicate bytes 'B' :=
      ⟨_, List.eq_replicate_of_mem fun c hMem => by simpa using List.mem_takeWhile_imp hMem⟩
    refine ⟨((dropIB cs.reverse).dropWhile (· = 'B')).reverse, bytes, binaries, ?_, ?_⟩
    · simp only [unitShift?] at h
      generalize ((dropIB cs.reverse).dropWhile (· = 'B')).reverse = letter at h ⊢
      clear hBinaries hBytes
      rw [mem_unitLetters_iff]
      repeat' split at h
      all_goals simp_all
    · rw [← List.reverse_inj, reverse_spelled, List.reverse_reverse, ← hBytes,
        List.takeWhile_append_dropWhile, ← hBinaries]
  · rintro ⟨letter, bytes, binaries, hLetter, rfl⟩
    have hBehind : ((dropIB (spelled letter bytes binaries).reverse).dropWhile (· = 'B')).reverse =
        letter := by
      rw [reverse_spelled, dropIB_append, dropIB_bytes hLetter,
        List.dropWhile_append_of_pos fun c hMem => by simpa using List.eq_of_mem_replicate hMem]
      rcases mem_unitLetters_iff.1 hLetter with
        ⟨rfl, -⟩ | ⟨rfl, -⟩ | ⟨rfl, -⟩ | ⟨rfl, -⟩ | ⟨rfl, -⟩ <;> rfl
    simp only [unitShift?, hBehind]
    rcases mem_unitLetters_iff.1 hLetter with
      ⟨rfl, rfl⟩ | ⟨rfl, rfl⟩ | ⟨rfl, rfl⟩ | ⟨rfl, rfl⟩ | ⟨rfl, rfl⟩ <;> rfl

/-- A unit in any letter case, and the power of two that it stands for. -/
def IsUnit (shift : Nat) (cs : List Char) : Prop :=
  ∃ letter bytes binaries, (letter, shift) ∈ unitLetters ∧
    cs.map Char.toUpper = spelled letter bytes binaries

/-- The characters of a unit are letters. -/
theorem isUpper_of_mem_spelled {letter : List Char} {shift bytes binaries : Nat}
    (h : (letter, shift) ∈ unitLetters) {c : Char} (hMem : c ∈ spelled letter bytes binaries) :
    c.isUpper = true := by
  simp only [spelled, List.mem_append, List.mem_replicate, List.mem_flatten] at hMem
  rcases hMem with (hMem | ⟨-, rfl⟩) | ⟨_, ⟨-, rfl⟩, hMem⟩
  · rcases mem_unitLetters_iff.1 h with ⟨rfl, -⟩ | ⟨rfl, -⟩ | ⟨rfl, -⟩ | ⟨rfl, -⟩ | ⟨rfl, -⟩
    · cases hMem
    all_goals
      obtain rfl := List.mem_singleton.1 hMem
      rfl
  · rfl
  · have hBinary : c = 'I' ∨ c = 'B' := by simpa using hMem
    rcases hBinary with rfl | rfl <;> rfl

/-- A letter is no blank, no digit and no point. -/
theorem plain_of_isUpper_toUpper {c : Char} (h : c.toUpper.isUpper = true) :
    Text.isBlank c = false ∧ isNumeral c = false := by
  have hCode : 65 ≤ c.toNat ∧ c.toNat ≤ 122 := by
    unfold Char.toUpper at h
    split at h
    · next hLower =>
      have hLow : 97 ≤ c.toNat := hLower.1
      exact ⟨by omega, hLower.2⟩
    · have hUpper : c.val ≥ 'A'.val ∧ c.val ≤ 'Z'.val := of_decide_eq_true h
      have hHigh : c.toNat ≤ 90 := hUpper.2
      exact ⟨hUpper.1, by omega⟩
  refine ⟨Text.isBlank_of_visible (by omega) (by omega), Bool.eq_false_iff.2 fun hNumeral => ?_⟩
  have hLow := (toNat_of_isNumeral hNumeral).2
  omega

theorem IsUnit.plain {shift : Nat} {cs : List Char} (h : IsUnit shift cs) {c : Char}
    (hMem : c ∈ cs) : Text.isBlank c = false ∧ isNumeral c = false := by
  obtain ⟨letter, bytes, binaries, hLetter, hUpper⟩ := h
  have hThere : c.toUpper ∈ spelled letter bytes binaries :=
    hUpper ▸ List.mem_map_of_mem (f := Char.toUpper) hMem
  exact plain_of_isUpper_toUpper (isUpper_of_mem_spelled hLetter hThere)

/-! ## Sizes -/

/-- The parts of a size, in the order in which they are written: a number and a unit that stands for
a power of two, with blanks around and between them. -/
structure Parts (number : List Char) (shift : Nat) where
  before : List Char
  between : List Char
  unit : List Char
  after : List Char
  blankBefore : Text.Blank before
  isNumber : IsNumber number
  blankBetween : Text.Blank between
  isUnit : IsUnit shift unit
  blankAfter : Text.Blank after

/-- The parts, one after the other. -/
def Parts.chars {number : List Char} {shift : Nat} (parts : Parts number shift) : List Char :=
  parts.before ++ (number ++ (parts.between ++ parts.unit ++ parts.after))

/-- A text is written as a size with that number, in a unit of that power of two. -/
def Written (text : String) (number : List Char) (shift : Nat) : Prop :=
  ∃ parts : Parts number shift, text.toList = parts.chars

/-- Blanks are no numerals. -/
theorem not_isNumeral_of_blank {cs : List Char} (h : Text.Blank cs) {c : Char} (hMem : c ∈ cs) :
    isNumeral c = false := by
  refine Bool.eq_false_iff.2 fun hNumeral => ?_
  exact Bool.eq_false_iff.1 (not_isBlank_of_isNumeral hNumeral) (h c hMem)

namespace Parts

variable {number : List Char} {shift : Nat}

theorem isNumber_solid (parts : Parts number shift) : Text.Solid number :=
  fun _ hMem => not_isBlank_of_isNumeral (parts.isNumber.isNumeral hMem)

/-- Nothing behind the number belongs to it. -/
theorem not_isNumeral_behind (parts : Parts number shift) {c : Char}
    (hMem : c ∈ parts.between ++ parts.unit ++ parts.after) : isNumeral c = false := by
  simp only [List.mem_append] at hMem
  rcases hMem with (hBetween | hUnit) | hAfter
  · exact not_isNumeral_of_blank parts.blankBetween hBetween
  · exact (parts.isUnit.plain hUnit).2
  · exact not_isNumeral_of_blank parts.blankAfter hAfter

/-- Without the blanks at the ends, the number comes first. -/
theorem trimChars_chars (parts : Parts number shift) :
    Text.trimChars parts.chars =
      number ++ Text.trimEndChars (parts.between ++ parts.unit ++ parts.after) := by
  have hFirst : (number ++ (parts.between ++ parts.unit ++ parts.after)).dropWhile Text.isBlank =
      number ++ (parts.between ++ parts.unit ++ parts.after) := by
    obtain ⟨c, hMem, -⟩ := parts.isNumber.digit
    rw [List.dropWhile_append, Text.dropWhile_isBlank_of_solid parts.isNumber_solid,
      if_neg (by simpa using List.ne_nil_of_mem hMem)]
  rw [chars, Text.trimChars_append_of_blank parts.blankBefore, Text.trimChars, hFirst,
    Text.trimEndChars_append_of_solid parts.isNumber_solid]

/-- **The digits and points at the front are the number.** -/
theorem takeWhile_chars (parts : Parts number shift) :
    (Text.trimChars parts.chars).takeWhile isNumeral = number ∧
      (Text.trimChars parts.chars).dropWhile isNumeral =
        Text.trimEndChars (parts.between ++ parts.unit ++ parts.after) := by
  obtain ⟨after, -, hTrimmed⟩ :=
    Text.exists_trimEndChars (parts.between ++ parts.unit ++ parts.after)
  have hStops : ∀ c ∈ Text.trimEndChars (parts.between ++ parts.unit ++ parts.after),
      isNumeral c = false :=
    fun c hMem => parts.not_isNumeral_behind (hTrimmed ▸ List.mem_append_left _ hMem)
  rw [parts.trimChars_chars]
  generalize Text.trimEndChars (parts.between ++ parts.unit ++ parts.after) = rest at hStops ⊢
  have hNumber : ∀ c ∈ number, isNumeral c = true := fun _ => parts.isNumber.isNumeral
  rw [List.takeWhile_append_of_pos hNumber, List.dropWhile_append_of_pos hNumber]
  cases rest with
  | nil => simp
  | cons c rest => simp [hStops c List.mem_cons_self]

/-- **What is left between blanks is the unit.** -/
theorem trimChars_behind (parts : Parts number shift) :
    Text.trimChars (Text.trimEndChars (parts.between ++ parts.unit ++ parts.after)) =
      parts.unit := by
  obtain ⟨after, hAfter, hTrimmed⟩ :=
    Text.exists_trimEndChars (parts.between ++ parts.unit ++ parts.after)
  have hUnit : Text.Solid parts.unit := fun _ hMem => (parts.isUnit.plain hMem).1
  rw [← Text.trimChars_append_blank _ hAfter, ← hTrimmed]
  exact Text.trimChars_of_blanks parts.blankBetween hUnit parts.blankAfter

end Parts

variable {text : String} {number : List Char} {shift : Nat}

/-- **How a size is read**: as its number, in its unit. -/
theorem parse_of_written (h : Written text number shift) :
    ∃ num den, quotient? number = some (num, den) ∧
      parse text = .ok (UInt64.ofNat (scaled num den shift)) := by
  obtain ⟨parts, hText⟩ := h
  obtain ⟨hNumber, hBehind⟩ := parts.takeWhile_chars
  obtain ⟨⟨num, den⟩, hQuotient⟩ := Option.isSome_iff_exists.1
    ((quotient?_isSome_iff fun _ => parts.isNumber.isNumeral).2 parts.isNumber)
  have hUnit : unitShift? (parts.unit.map Char.toUpper) = some shift :=
    unitShift?_eq_some_iff.2 parts.isUnit
  refine ⟨num, den, hQuotient, ?_⟩
  simp only [parse, hText, hNumber, hBehind, hQuotient, parts.trimChars_behind, hUnit]

/-- What is read is written as a size; anything else is refused for its number or for its unit. -/
theorem parse_cases (text : String) :
    (∃ number shift, Written text number shift) ∨
      parse text = .error (.invalidRequest (.size text)) ∨
      parse text = .error (.invalidRequest (.sizeUnit text)) := by
  obtain ⟨before, after, hBefore, hAfter, hText⟩ := Text.exists_trimChars text.toList
  obtain ⟨between, behind, hBetween, hBehind, hRest⟩ :=
    Text.exists_trimChars ((Text.trimChars text.toList).dropWhile isNumeral)
  unfold parse
  have hNumerals : ∀ c ∈ (Text.trimChars text.toList).takeWhile isNumeral, isNumeral c = true :=
    fun c => List.mem_takeWhile_imp
  cases hQuotient : quotient? ((Text.trimChars text.toList).takeWhile isNumeral) with
  | none => exact .inr (.inl (by simp only [hQuotient]))
  | some quotient =>
      cases hShift : unitShift? ((Text.trimChars
          ((Text.trimChars text.toList).dropWhile isNumeral)).map Char.toUpper) with
      | none => exact .inr (.inr (by simp only [hQuotient, hShift]))
      | some shift =>
          have hNumber := (quotient?_isSome_iff hNumerals).1 (hQuotient ▸ rfl)
          have hUnit := unitShift?_eq_some_iff.1 hShift
          refine .inl ⟨_, shift, ⟨before, between, _, behind ++ after, hBefore, hNumber, hBetween,
            hUnit, fun c hMem => ?_⟩, ?_⟩
          · exact (List.mem_append.1 hMem).elim (hBehind c) (hAfter c)
          · calc text.toList
              _ = before ++ Text.trimChars text.toList ++ after := hText
              _ = before ++ ((Text.trimChars text.toList).takeWhile isNumeral ++
                    (Text.trimChars text.toList).dropWhile isNumeral) ++ after := by
                  rw [List.takeWhile_append_dropWhile]
              _ = before ++ ((Text.trimChars text.toList).takeWhile isNumeral ++
                    (between ++ Text.trimChars ((Text.trimChars text.toList).dropWhile isNumeral) ++
                      behind)) ++ after := by rw [← hRest]
              _ = _ := by simp only [Parts.chars, List.append_assoc]

/-- **Exactly the texts that are written as a size are read**, and any other is refused as an invalid
request. -/
theorem parse_accepts_written (text : String) :
    ((∃ bytes, parse text = .ok bytes) ↔ ∃ number shift, Written text number shift) ∧
      ((¬∃ number shift, Written text number shift) →
        ∃ reason, parse text = .error (.invalidRequest reason)) := by
  refine ⟨⟨fun ⟨bytes, hBytes⟩ => ?_, fun ⟨number, shift, hWritten⟩ => ?_⟩, fun hNot => ?_⟩
  · rcases parse_cases text with hWritten | hRefused | hRefused
    · exact hWritten
    · cases hBytes.symm.trans hRefused
    · cases hBytes.symm.trans hRefused
  · obtain ⟨num, den, -, hParse⟩ := parse_of_written hWritten
    exact ⟨_, hParse⟩
  · rcases parse_cases text with hWritten | hRefused | hRefused
    · exact absurd hWritten hNot
    · exact ⟨_, hRefused⟩
    · exact ⟨_, hRefused⟩

/-- Which of `B` and `IB` comes last is what counts, and a point alone is no number. -/
example :
    (parse " 1.5 kBiB\n").isOk = true ∧ (parse ".5").isOk = true ∧ (parse "1KIBB").isOk = false ∧
      (parse ".").isOk = false := by
  decide +kernel

end DiskFleet.Size
