import ElixirDiagnostics.Lint
import ElixirDiagnostics.Proofs.Extraction.Dressed
import ElixirDiagnostics.Proofs.Extraction.Once
import ElixirDiagnostics.Proofs.Report

/-!
# Output of two streams

What a compiler prints to its two streams is put together as one text: all of its output, then all
of its errors. A newline is put between the two if the last line of the output is not ended. So no
line of one stream is joined to a line of the other, and no line is put between them, as long as the
output does not end with a carriage return, which that newline would take into the line end. Without
colours the newline may end an empty line where the last line of the output was nothing but colours.
A blank line is silent and, with what the errors begin with, ends a trace and a block, so the
records of the whole are those of the output and then those of the errors.
-/

namespace ElixirDiagnostics

namespace Text

variable {s : Text}

instance (s : Text) : Decidable (EndsLine s) := inferInstanceAs (Decidable (_ ∨ _))

/-- A text with its last line ended, by a newline if that is missing. -/
def ended (s : Text) : Text := if EndsLine s then s else s ++ ['\n']

/-- It is one of whole lines. -/
theorem endsLine_ended (s : Text) : EndsLine (ended s) := by
  unfold ended
  split
  · next h => exact h
  · exact Or.inr List.getLast?_concat

/-- A text is made of whole lines and a last line that is not ended. -/
theorem exists_lastLine (s : Text) :
    ∃ whole last, s = whole ++ last ∧ EndsLine whole ∧ '\n' ∉ last := by
  induction s with
  | nil => exact ⟨[], [], rfl, Or.inl rfl, List.not_mem_nil⟩
  | cons c s ih =>
    obtain ⟨whole, last, rfl, hwhole, hlast⟩ := ih
    by_cases hc : c = '\n'
    · subst hc
      refine ⟨'\n' :: whole, last, rfl, Or.inr ?_, hlast⟩
      rcases hwhole with rfl | hwhole
      · rfl
      · rw [List.getLast?_cons, hwhole]
        rfl
    · rcases hwhole with rfl | hwhole
      · exact ⟨[], c :: last, rfl, Or.inl rfl, by simp [hlast, Ne.symm hc]⟩
      · refine ⟨c :: whole, last, rfl, Or.inr ?_, hlast⟩
        rw [List.getLast?_cons, hwhole]
        rfl

/-- Ending the last line of a text changes no line, if no carriage return is at its end. -/
theorem lines_append_newline_of_open (h : ¬EndsLine s) (hreturn : s.getLast? ≠ some '\r') :
    lines (s ++ ['\n']) = lines s := by
  obtain ⟨whole, last, rfl, hwhole, hlast⟩ := exists_lastLine s
  have hne : last ≠ [] := by
    rintro rfl
    rw [List.append_nil] at h
    exact h hwhole
  have hline : IsLine last := by
    refine ⟨hlast, fun hend => hreturn ?_⟩
    rw [List.getLast?_append, hend]
    rfl
  rw [List.append_assoc, lines_append hwhole, lines_append hwhole, hline.lines_append_newline,
    lines_of_newline_not_mem hne hlast]

/-- So a text with its last line ended has the same lines. -/
theorem lines_ended (hreturn : s.getLast? ≠ some '\r') : lines (ended s) = lines s := by
  unfold ended
  split
  · rfl
  · next h => exact lines_append_newline_of_open h hreturn

/-- Without colours it may have an empty line more, if the last line is nothing but colours. -/
theorem lines_stripColour_ended (hreturn : (stripColour s).getLast? ≠ some '\r') :
    lines (stripColour (ended s)) = lines (stripColour s) ∨
      lines (stripColour (ended s)) = lines (stripColour s) ++ [[]] := by
  unfold ended
  split
  · exact Or.inl rfl
  · rw [stripColour_append_newline, stripColour_nil]
    by_cases h : EndsLine (stripColour s)
    · exact Or.inr (lines_append h _)
    · exact Or.inl (lines_append_newline_of_open h hreturn)

end Text

namespace CompilerOutput

open Text

variable {out err : Text}

/-- If there are errors, they stand behind the output with its last line ended. -/
theorem merge_eq (hne : err ≠ []) : merge out err = ended out ++ err := by
  have herr : err.isEmpty = false := by simpa using hne
  have hcond : (out.isEmpty || err.isEmpty || out.getLast? == some '\n') = true ↔ EndsLine out := by
    simp [herr, EndsLine]
  unfold merge ended
  simp only [hcond]
  split <;> simp

/-- Without errors there is nothing but the output. -/
theorem merge_nil (out : Text) : merge out [] = out := by
  simp [merge]

/-- The lines of both streams are those of the output and then those of the errors. -/
theorem lines_merge (hreturn : out.getLast? ≠ some '\r') (err : Text) :
    lines (merge out err) = lines out ++ lines err := by
  by_cases hne : err = []
  · subst hne
    rw [merge_nil]
    simp [lines]
  · rw [merge_eq hne, lines_append (endsLine_ended out), lines_ended hreturn]

/-- Without colours there may be an empty line between them. -/
theorem lines_stripColour_merge (hreturn : (stripColour out).getLast? ≠ some '\r') (err : Text) :
    lines (stripColour (merge out err)) =
        lines (stripColour out) ++ lines (stripColour err) ∨
      lines (stripColour (merge out err)) =
        lines (stripColour out) ++ [] :: lines (stripColour err) := by
  by_cases hne : err = []
  · subst hne
    rw [merge_nil]
    exact Or.inl (by simp [lines])
  · rw [merge_eq hne, lines_stripColour_append (endsLine_ended out)]
    rcases lines_stripColour_ended hreturn with h | h
    · exact Or.inl (by rw [h])
    · exact Or.inr (by rw [h, List.append_assoc, List.singleton_append])

end CompilerOutput

namespace Extraction

open Text Shape

variable {t : Trace.Classifier} {out err : Text}

/-- An empty line is silent. -/
theorem isSilent_nil : IsSilent [] := isSilent_of_indented (Or.inl rfl) (by decide)

/-- The records of both streams are those of the output and then those of the errors. -/
theorem recognised_merge (hlast : EndsUnannounced (lines (stripColour out)))
    (hreturn : (stripColour out).getLast? ≠ some '\r')
    (hfirst : Resets (lines (stripColour err))) :
    recognised t (lines (stripColour (CompilerOutput.merge out err))) =
      recognised t (lines (stripColour out)) ++ recognised t (lines (stripColour err)) := by
  have hinterrupts := hfirst.interrupts
  rcases CompilerOutput.lines_stripColour_merge hreturn err with h | h
  · rw [h, recognised_append hlast hinterrupts]
  · rw [h, recognised_append hlast (hinterrupts.cons_of_isBlank rfl),
      recognised_cons_of_isSilent isSilent_nil]

/-- Putting the two streams of a compiler together glues no lines and invents none, unless the
output ends with a carriage return. If, without colours, the output ends neither with one nor with a
banner, and the errors begin with a line that is visible and continues neither a trace nor a block,
or are empty, then the reports of the two add up. -/
theorem report_merge (t : Trace.Classifier) (i : Inspection) (out err : Text) :
    (out.getLast? ≠ some '\r' →
      lines (CompilerOutput.merge out err) = lines out ++ lines err) ∧
    (EndsUnannounced (lines (stripColour out)) → (stripColour out).getLast? ≠ some '\r' →
      Resets (lines (stripColour err)) →
      (report (Catalog.builtin t) i (CompilerOutput.merge out err)).diagnostics =
        (report (Catalog.builtin t) i out).diagnostics ++
          (report (Catalog.builtin t) i err).diagnostics ∧
      (report (Catalog.builtin t) i (CompilerOutput.merge out err)).foreign =
        (report (Catalog.builtin t) i out).foreign ++
          (report (Catalog.builtin t) i err).foreign) := by
  refine ⟨fun hreturn => CompilerOutput.lines_merge hreturn err, fun hlast hreturn hfirst => ?_⟩
  rw [report_eq_sorted_recognised, recognised_merge hlast hreturn hfirst, Report.sorted_append,
    report_eq_sorted_recognised t i out, report_eq_sorted_recognised t i err]
  exact ⟨rfl, rfl⟩

/-- Output that ends in the middle of a trace. -/
def brokenTrace : Text :=
  "== Compilation error in file a.ex ==\n** (E) boom\n    b.ex:1: g\n".toList

/-- With a last line of nothing but colours, which is not ended, the trace does not go on in a
warning among the errors that is located in the file of its banner. -/
theorem report_merge_brokenTrace :
    lines (CompilerOutput.merge (brokenTrace ++ resetSequence.text) locatedWarning) =
      ["== Compilation error in file a.ex ==", "** (E) boom", "    b.ex:1: g", "\x1b[m", "warning: x",
        "    a.ex:1: f"].map String.toList ∧
    (EndsUnannounced (lines (stripColour (brokenTrace ++ resetSequence.text))) ∧
      (stripColour (brokenTrace ++ resetSequence.text)).getLast? ≠ some '\r' ∧
      Resets (lines (stripColour locatedWarning))) ∧
    (report (Catalog.builtin {}) (.ofFile "/p".toList "a.ex".toList)
        (CompilerOutput.merge (brokenTrace ++ resetSequence.text) locatedWarning)).diagnostics =
      (report (Catalog.builtin {}) (.ofFile "/p".toList "a.ex".toList)
          (brokenTrace ++ resetSequence.text)).diagnostics ++
        (report (Catalog.builtin {}) (.ofFile "/p".toList "a.ex".toList)
          locatedWarning).diagnostics := by
  have hcoloured : Coloured brokenTrace (brokenTrace ++ resetSequence.text) := by
    have happend := (Coloured.refl brokenTrace).append (.insert resetSequence .nil)
    rwa [List.append_nil, List.append_nil] at happend
  have hout : stripColour (brokenTrace ++ resetSequence.text) = brokenTrace :=
    stripColour_of_coloured hcoloured (by decide)
  have herr : stripColour locatedWarning = locatedWarning := stripColour_of_not_mem (by decide)
  have hlast : EndsUnannounced (lines (stripColour (brokenTrace ++ resetSequence.text))) := by
    rw [hout]
    decide
  have hreturn : (stripColour (brokenTrace ++ resetSequence.text)).getLast? ≠ some '\r' := by
    rw [hout]
    decide
  have hfirst : Resets (lines (stripColour locatedWarning)) := by
    rw [herr]
    decide
  have hmerge := report_merge {} (.ofFile "/p".toList "a.ex".toList)
    (brokenTrace ++ resetSequence.text) locatedWarning
  exact ⟨(hmerge.1 (by decide)).trans (by decide), ⟨hlast, hreturn, hfirst⟩,
    (hmerge.2 hlast hreturn hfirst).1⟩

end Extraction

end ElixirDiagnostics
