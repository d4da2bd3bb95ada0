import DiskFleet.Text.Blank
import Mathlib.Data.List.TakeWhile

/-!
# Trimming

Trimming takes the blanks off at both ends of a text and nothing else: what is gone are blanks
(`Text.exists_trimChars`), and of a text without blanks that stands between blanks all is left
(`Text.trimChars_of_blanks`).
-/

namespace DiskFleet.Text

/-- Nothing but blanks. -/
def Blank (cs : List Char) : Prop := ∀ c ∈ cs, isBlank c = true

/-- No blank. -/
def Solid (cs : List Char) : Prop := ∀ c ∈ cs, isBlank c = false

/-- Visible characters of the common range are not blank. -/
theorem isBlank_of_visible {c : Char} (hLow : 0x20 < c.toNat) (hHigh : c.toNat < 0x7f) :
    isBlank c = false := by
  simp only [isBlank, Bool.or_eq_false_iff, Bool.and_eq_false_iff, decide_eq_false_iff_not,
    beq_eq_false_iff_ne]
  omega

variable {before middle after : List Char}

theorem dropWhile_isBlank_of_solid (h : Solid middle) : middle.dropWhile isBlank = middle :=
  List.dropWhile_eq_self_iff.2 fun hPositive =>
    Bool.eq_false_iff.1 (h _ (List.getElem_mem hPositive))

theorem trimEndChars_append_blank (cs : List Char) (h : Blank after) :
    trimEndChars (cs ++ after) = trimEndChars cs := by
  rw [trimEndChars, List.reverse_append,
    List.dropWhile_append_of_pos fun c hMem => h c (List.mem_reverse.1 hMem)]
  rfl

theorem trimEndChars_append_of_solid (h : Solid middle) (cs : List Char) :
    trimEndChars (middle ++ cs) = middle ++ trimEndChars cs := by
  have hReverse : middle.reverse.dropWhile isBlank = middle.reverse :=
    dropWhile_isBlank_of_solid fun c hMem => h c (List.mem_reverse.1 hMem)
  rw [trimEndChars, trimEndChars, List.reverse_append, List.dropWhile_append]
  split
  · next hEmpty => rw [List.isEmpty_iff.1 hEmpty, hReverse, List.reverse_reverse, List.reverse_nil,
      List.append_nil]
  · rw [List.reverse_append, List.reverse_reverse]

theorem trimChars_append_of_blank (h : Blank before) (cs : List Char) :
    trimChars (before ++ cs) = trimChars cs := by
  rw [trimChars, List.dropWhile_append_of_pos h]
  rfl

theorem trimChars_append_blank (cs : List Char) (h : Blank after) :
    trimChars (cs ++ after) = trimChars cs := by
  rw [trimChars, trimChars, List.dropWhile_append]
  split
  · next hEmpty =>
    rw [List.isEmpty_iff.1 hEmpty, List.dropWhile_eq_nil_iff.2 h]
  · exact trimEndChars_append_blank _ h

/-- **Blanks around a text are trimmed.** -/
theorem trimChars_of_blanks (hBefore : Blank before) (hMiddle : Solid middle)
    (hAfter : Blank after) : trimChars (before ++ middle ++ after) = middle := by
  rw [trimChars_append_blank _ hAfter, trimChars_append_of_blank hBefore, trimChars,
    dropWhile_isBlank_of_solid hMiddle]
  simpa [trimEndChars] using trimEndChars_append_of_solid hMiddle []

theorem exists_trimEndChars (cs : List Char) :
    ∃ after, Blank after ∧ cs = trimEndChars cs ++ after := by
  refine ⟨(cs.reverse.takeWhile isBlank).reverse, fun c hMem => ?_, ?_⟩
  · exact List.mem_takeWhile_imp (List.mem_reverse.1 hMem)
  · rw [trimEndChars, ← List.reverse_append, List.takeWhile_append_dropWhile, List.reverse_reverse]

/-- **What is trimmed are blanks.** -/
theorem exists_trimChars (cs : List Char) :
    ∃ before after, Blank before ∧ Blank after ∧ cs = before ++ trimChars cs ++ after := by
  obtain ⟨after, hAfter, hRest⟩ := exists_trimEndChars (cs.dropWhile isBlank)
  refine ⟨cs.takeWhile isBlank, after, fun c => List.mem_takeWhile_imp, hAfter, ?_⟩
  rw [List.append_assoc, trimChars, ← hRest, List.takeWhile_append_dropWhile]

end DiskFleet.Text
