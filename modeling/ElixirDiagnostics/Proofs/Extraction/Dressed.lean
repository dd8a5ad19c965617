import ElixirDiagnostics.Proofs.Extraction.Recognised

/-!
# Dressed output

A compiler may colour what it prints and may end its lines with a carriage return and a newline.
Plain output in such a dress has complete colour sequences anywhere between its characters, also
between the two characters of a line end, one behind another, or within a name or a number. Removing
the sequences in one pass gives back the text that was dressed, since none of its own characters
begins a sequence; and splitting into lines takes the carriage returns off. So the lines that an
extraction reads are those of the plain output, whatever shapes it looks for.
-/

namespace ElixirDiagnostics

namespace Text

/-- A complete colour sequence. -/
structure Colour where
  /-- What stands between the bracket and the final letter. -/
  parameters : Text
  /-- The final letter. -/
  letter : Char
  /-- Only digits and semicolons are parameters. -/
  isParameter : ∀ c ∈ parameters, isColourParameter c = true
  /-- The final letter is an ASCII letter. -/
  isLetter : letter.isAlpha = true

/-- A colour sequence in writing. -/
def Colour.text (w : Colour) : Text := escape :: '[' :: w.parameters ++ [w.letter]

/-- A plain text, and the same with colour sequences inserted between its characters. -/
inductive Coloured : Text → Text → Prop where
  /-- Nothing is left to colour. -/
  | nil : Coloured [] []
  /-- A character of the plain text comes next. -/
  | keep {plain s : Text} (c : Char) (h : Coloured plain s) : Coloured (c :: plain) (c :: s)
  /-- A colour sequence comes next. -/
  | insert {plain s : Text} (w : Colour) (h : Coloured plain s) : Coloured plain (w.text ++ s)

/-- A text with a carriage return before each newline. -/
def withReturns (s : Text) : Text := s.flatMap fun c => if c = '\n' then ['\r', '\n'] else [c]

variable {plain plain' s s' : Text}

/-- A text without colours is coloured in the least way. -/
theorem Coloured.refl (s : Text) : Coloured s s := by
  induction s with
  | nil => exact .nil
  | cons c s ih => exact .keep c ih

/-- Coloured texts one behind the other make a coloured text. -/
theorem Coloured.append (h : Coloured plain s) (h' : Coloured plain' s') :
    Coloured (plain ++ plain') (s ++ s') := by
  induction h with
  | nil => exact h'
  | keep c _ ih => exact .keep c ih
  | insert w _ ih =>
    rw [List.append_assoc]
    exact .insert w ih

/-- The letter that ends a colour sequence is no parameter. -/
theorem isColourParameter_eq_false_of_isAlpha {c : Char} (h : c.isAlpha = true) :
    isColourParameter c = false := by
  have hletter := code_of_isAlpha h
  rw [isColourParameter, Bool.or_eq_false_iff]
  constructor
  · rw [Bool.eq_false_iff]
    intro hdigit
    obtain ⟨-, hhigh⟩ := Bool.and_eq_true_iff.1 hdigit
    have hnine : c.toNat ≤ 57 := of_decide_eq_true hhigh
    omega
  · rw [beq_eq_false_iff_ne]
    rintro rfl
    have hsemicolon : ';'.toNat = 59 := rfl
    omega

/-- What follows a colour sequence is found behind it: the parameters end at the letter. -/
theorem afterColour?_text (w : Colour) (s : Text) : afterColour? (w.text ++ s) = some s := by
  have hletter : ¬isColourParameter w.letter = true := by
    simp [isColourParameter_eq_false_of_isAlpha w.isLetter]
  have hdrop : (w.parameters ++ w.letter :: s).dropWhile isColourParameter = w.letter :: s := by
    rw [List.dropWhile_append_of_pos w.isParameter, List.dropWhile_cons_of_neg hletter]
  have htext : w.text ++ s = escape :: '[' :: (w.parameters ++ w.letter :: s) := by
    simp [Colour.text]
  rw [htext, afterColour?, if_pos rfl, hdrop]
  exact if_pos w.isLetter

/-- Removing the colour sequences of a coloured text gives back the plain one, if that has no escape
character of its own. -/
theorem stripColour_of_coloured (h : Coloured plain s) (hescape : escape ∉ plain) :
    stripColour s = plain := by
  induction h with
  | nil => exact stripColour_of_not_mem hescape
  | keep c _ ih =>
    simp only [List.mem_cons, not_or] at hescape
    rw [stripColour_of_plain (afterColour?_of_ne (Ne.symm hescape.1) _), ih hescape.2]
  | insert w _ ih => rw [stripColour_of_colour (afterColour?_text w _), ih hescape]

/-- A carriage return before each newline brings no escape character with it. -/
theorem escape_not_mem_withReturns (h : escape ∉ s) : escape ∉ withReturns s := by
  rw [withReturns, List.mem_flatMap]
  rintro ⟨c, hc, hmem⟩
  split at hmem
  · exact absurd hmem (by decide)
  · obtain rfl := List.mem_singleton.1 hmem
    exact h hc

/-- A carriage return before each newline belongs to the line end, if there are no others. -/
theorem lines_withReturns (h : '\r' ∉ s) : lines (withReturns s) = lines s := by
  induction s with
  | nil => rfl
  | cons c s ih =>
    simp only [List.mem_cons, not_or] at h
    by_cases hc : c = '\n'
    · subst hc
      have hcons : withReturns ('\n' :: s) = '\r' :: '\n' :: withReturns s := rfl
      rw [hcons, lines, lines, ih h.2]
    · have hcons : withReturns (c :: s) = c :: withReturns s := by simp [withReturns, hc]
      have hreturn : ∀ r : Text, c = '\r' → r.head? ≠ some '\n' := fun r he =>
        absurd he.symm h.1
      rw [hcons, lines_cons_of_plain hc (hreturn _), lines_cons_of_plain hc (hreturn _), ih h.2]

end Text

namespace Extraction

open Text (Colour Coloured)

/-- Neither colours nor the way in which lines end have any part in the report. -/
theorem report_of_coloured (c : Catalog) (i : Inspection) {plain ended coloured : Text}
    (hescape : Text.escape ∉ plain) (hreturn : '\r' ∉ plain)
    (hended : ended = plain ∨ ended = Text.withReturns plain) (h : Coloured ended coloured) :
    report c i coloured = report c i plain := by
  have hends : Text.escape ∉ ended ∧ Text.lines ended = Text.lines plain := by
    rcases hended with rfl | rfl
    · exact ⟨hescape, rfl⟩
    · exact ⟨Text.escape_not_mem_withReturns hescape, Text.lines_withReturns hreturn⟩
  rw [report, report, run, run, Text.stripColour_of_coloured h hends.1,
    Text.stripColour_of_not_mem hescape, hends.2]

/-- The sequence that makes what follows bold and red. -/
def redSequence : Colour where
  parameters := "1;31".toList
  letter := 'm'
  isParameter := List.all_eq_true.1 (by decide)
  isLetter := rfl

/-- The shortest sequence, which has no parameters. -/
def resetSequence : Colour where
  parameters := []
  letter := 'm'
  isParameter := nofun
  isLetter := rfl

/-- A warning on one line. -/
def plainWarning : Text := "a.ex:12: warning: x\n".toList

/-- The same with two sequences in its file, one in its line number, and one within its line end. -/
def dressedWarning : Text :=
  "a.".toList ++ (redSequence.text ++ (resetSequence.text ++ "ex:1".toList)) ++
    (redSequence.text ++ "2: warning: x\r".toList) ++ (resetSequence.text ++ "\n".toList)

/-- The dressed warning is reported as the plain one is. -/
theorem report_dressedWarning :
    (Text.escape ∉ plainWarning ∧ '\r' ∉ plainWarning ∧
      Coloured (Text.withReturns plainWarning) dressedWarning) ∧
    report (Catalog.builtin {}) (.ofFile "/p".toList "a.ex".toList) dressedWarning =
      report (Catalog.builtin {}) (.ofFile "/p".toList "a.ex".toList) plainWarning := by
  have hescape : Text.escape ∉ plainWarning := by decide
  have hreturn : '\r' ∉ plainWarning := by decide
  have hplain : Text.withReturns plainWarning =
      "a.".toList ++ "ex:1".toList ++ "2: warning: x\r".toList ++ "\n".toList := by decide
  have hcoloured : Coloured (Text.withReturns plainWarning) dressedWarning := by
    have hfile : Coloured "ex:1".toList (redSequence.text ++ (resetSequence.text ++ "ex:1".toList)) :=
      .insert redSequence (.insert resetSequence (.refl _))
    have hline : Coloured "2: warning: x\r".toList (redSequence.text ++ "2: warning: x\r".toList) :=
      .insert redSequence (.refl _)
    have hend : Coloured "\n".toList (resetSequence.text ++ "\n".toList) :=
      .insert resetSequence (.refl _)
    rw [hplain]
    exact (((Coloured.refl "a.".toList).append hfile).append hline).append hend
  exact ⟨⟨hescape, hreturn, hcoloured⟩,
    report_of_coloured _ _ hescape hreturn (.inr rfl) hcoloured⟩

end Extraction

end ElixirDiagnostics
