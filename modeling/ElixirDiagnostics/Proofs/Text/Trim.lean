import ElixirDiagnostics.Text.Basic
import Mathlib.Data.List.TakeWhile

/-!
# Text without the blank space at its ends

Trimming leaves a part of the text that neither begins nor ends with blank space. Nothing is left
exactly when the text is blank.
-/

namespace ElixirDiagnostics

namespace Text

variable {s : Text} {c : Char}

/-- What is left without the blank space at the ends holds nothing new. -/
theorem mem_of_mem_trim (h : c ∈ trim s) : c ∈ s := by
  have hend := (List.dropWhile_suffix isSpace).subset (List.mem_reverse.1 h)
  exact (List.dropWhile_suffix isSpace).subset (List.mem_reverse.1 hend)

/-- No blank space ends it. -/
theorem isSpace_of_getLast?_trim (h : (trim s).getLast? = some c) : isSpace c = false := by
  rw [trim, trimEnd, List.getLast?_reverse] at h
  have hhead := List.head?_dropWhile_not isSpace (trimStart s).reverse
  rw [h] at hhead
  exact hhead

/-- What is left without the blank space at the end begins the text. -/
theorem trimEnd_prefix (s : Text) : trimEnd s <+: s := by
  have hsuffix : s.reverse.dropWhile isSpace <:+ s.reverse := List.dropWhile_suffix _
  have hprefix := List.reverse_prefix.2 hsuffix
  rwa [List.reverse_reverse] at hprefix

/-- No blank space begins it. -/
theorem isIndented_trim (s : Text) : isIndented (trim s) = false := by
  obtain ⟨blank, hsplit⟩ := trimEnd_prefix (trimStart s)
  have hvisible := List.head?_dropWhile_not isSpace s
  rw [← trimStart, ← hsplit] at hvisible
  unfold isIndented trim
  cases hrest : trimEnd (trimStart s) with
  | nil => rfl
  | cons c r => simpa [hrest] using hvisible

/-- Nothing is left of blank space, and of nothing else. -/
theorem trim_eq_nil_iff : trim s = [] ↔ isBlank s = true := by
  have hend : trimEnd (trimStart s) = [] ↔ ∀ c ∈ trimStart s, isSpace c = true := by
    simp [trimEnd, List.dropWhile_eq_nil_iff]
  have hstart : trimStart s = [] ↔ isBlank s = true := by
    simp [trimStart, isBlank, List.dropWhile_eq_nil_iff]
  rw [trim, hend, ← hstart]
  constructor
  · intro hall
    cases hrest : trimStart s with
    | nil => rfl
    | cons c r =>
      have hvisible := List.head?_dropWhile_not isSpace s
      have hhead : (s.dropWhile isSpace).head? = some c := by
        rw [← trimStart, hrest, List.head?_cons]
      rw [hhead] at hvisible
      have hblank := hall c (by simp [hrest])
      exact absurd (hblank.symm.trans hvisible) nofun
  · intro hnil
    simp [hnil]

end Text

end ElixirDiagnostics
