import ElixirDiagnostics.Proofs.Extraction.Dressed
import ElixirDiagnostics.Proofs.Report

/-!
# Reports in colour

A report in colour differs from the plain one by the sequences that are put around the place and the
severity of each diagnostic. The characters of a diagnostic may themselves begin a sequence that is
never completed. In neither report can what follows complete it: behind the place and the severity
there is a colon or the escape character of the next sequence, and behind a line there is a newline.
So removing the colour sequences leaves the same text of both reports, whatever the files and the
messages hold.
-/

namespace ElixirDiagnostics

namespace Text

variable {a b s : Text} {ls : List Text}

/-- A complete colour sequence is removed, and what stands before it and behind it is stripped
alone. -/
theorem stripColour_append_colour (a : Text) (w : Colour) (b : Text) :
    stripColour (a ++ (w.text ++ b)) = stripColour a ++ stripColour b := by
  have hescape : BreaksColour escape := ⟨by decide, by decide, by decide⟩
  have hcut : stripColour (a ++ (w.text ++ b)) = stripColour a ++ stripColour (w.text ++ b) :=
    stripColour_append_cons hescape a _
  rw [hcut, stripColour_of_colour (afterColour?_text w b)]

/-- Painting puts a complete colour sequence before a text and another one behind it. -/
theorem exists_paint (style : Style) (s : Text) :
    ∃ before after : Colour, paint style s = before.text ++ (s ++ after.text) := by
  have hparameters : ∀ c ∈ style.parameters, isColourParameter c = true := by
    rw [← List.all_eq_true]
    cases style <;> decide
  refine ⟨⟨style.parameters, 'm', hparameters, rfl⟩, ⟨['0'], 'm', by simp [isColourParameter], rfl⟩,
    ?_⟩
  rw [paint, List.append_assoc]
  rfl

/-- A painted text is stripped apart from what follows it, and its colours are gone. -/
theorem stripColour_paint_append (style : Style) (s b : Text) :
    stripColour (paint style s ++ b) = stripColour s ++ stripColour b := by
  obtain ⟨before, after, hpaint⟩ := exists_paint style s
  have hsequences : paint style s ++ b = [] ++ (before.text ++ (s ++ (after.text ++ b))) := by
    simp only [hpaint, List.append_assoc, List.nil_append]
  rw [hsequences, stripColour_append_colour, stripColour_append_colour, stripColour_nil,
    List.nil_append]

/-- A text without the escape character stays as it is before what follows it. -/
theorem stripColour_append_of_not_mem (h : escape ∉ a) (b : Text) :
    stripColour (a ++ b) = a ++ stripColour b := by
  induction a with
  | nil => rfl
  | cons c a ih =>
    simp only [List.mem_cons, not_or] at h
    rw [List.cons_append, stripColour_of_plain (afterColour?_of_ne (Ne.symm h.1) _), ih h.2,
      List.cons_append]

/-- Lines with newlines between them are stripped one by one. -/
theorem stripColour_intercalate (ls : List Text) :
    stripColour (List.intercalate ['\n'] ls) = List.intercalate ['\n'] (ls.map stripColour) := by
  induction ls with
  | nil => simp
  | cons l ls ih =>
    cases ls with
    | nil => simp
    | cons k ks =>
      have hnewline := stripColour_append_newline l (List.intercalate ['\n'] (k :: ks))
      rw [List.intercalate_cons_cons, List.append_assoc, List.singleton_append, hnewline, ih]
      simp only [List.map_cons, List.intercalate_cons_cons, List.append_assoc,
        List.singleton_append]

end Text

namespace Report

open Text

variable {d : Diagnostic} {ds : List Diagnostic}

/-- What is left of a line of a report without colour sequences. It does not depend on whether the
report is in colour. -/
theorem stripColour_line (colour : Bool) (d : Diagnostic) :
    stripColour (line colour d) = stripColour d.place ++
      (": ".toList ++ (d.severity.word ++ (": ".toList ++ stripColour d.message))) := by
  have hseparator : escape ∉ ": ".toList := by decide
  have hword : escape ∉ d.severity.word := by cases d.severity <;> decide
  cases colour with
  | true =>
    have hline : line true d = paint .underline d.place ++ (": ".toList ++
        (paint (severityStyle d.severity) d.severity.word ++ (": ".toList ++ d.message))) := by
      simp only [line, if_true, List.append_assoc]
    rw [hline, stripColour_paint_append, stripColour_append_of_not_mem hseparator,
      stripColour_paint_append, stripColour_of_not_mem hword,
      stripColour_append_of_not_mem hseparator]
  | false =>
    have hline : line false d = d.place ++
        (": ".toList ++ (d.severity.word ++ (": ".toList ++ d.message))) := by
      simp [line, Diagnostic.display]
    -- The colon also cuts short a sequence that the place begins and does not complete.
    have hcolon : BreaksColour ':' := ⟨by decide, by decide, by decide⟩
    have hcut : ∀ rest, stripColour (d.place ++ (": ".toList ++ rest)) =
        stripColour d.place ++ stripColour (": ".toList ++ rest) := fun rest =>
      stripColour_append_cons hcolon d.place (' ' :: rest)
    rw [hline, hcut, stripColour_append_of_not_mem hseparator, stripColour_append_of_not_mem hword,
      stripColour_append_of_not_mem hseparator]

/-- A report in colour and the plain one are the same text once the colour sequences are removed,
whatever the files and the messages hold. If they do not hold the escape character, that text is the
plain report. -/
theorem stripColour_renderText (ds : List Diagnostic) :
    stripColour (renderText true ds) = stripColour (renderText false ds) ∧
    ((∀ d ∈ ds, escape ∉ d.file ∧ escape ∉ d.message) →
      stripColour (renderText true ds) = renderText false ds) := by
  have hlines : (ds.map (line true)).map stripColour = (ds.map (line false)).map stripColour := by
    simp only [List.map_map, List.map_inj_left, Function.comp_apply, stripColour_line,
      implies_true]
  have hsame : stripColour (renderText true ds) = stripColour (renderText false ds) := by
    rw [renderText, renderText, stripColour_intercalate, stripColour_intercalate, hlines]
  refine ⟨hsame, fun h => ?_⟩
  rw [hsame, stripColour_of_not_mem (escape_not_mem_renderText h)]

/-- Diagnostics that begin colour sequences and do not complete them: at the end of a file, at the
end of a message before the next line, and across a newline within a message. -/
def brokenColours : List Diagnostic :=
  [⟨"a\x1b[3".toList, 1, .error, "b\x1b[".toList⟩, ⟨"\x1b".toList, 2, .warning, "[0\x1b[1\nm".toList⟩]

/-- Removing the colour sequences leaves the same of both reports of these, and of diagnostics
without the escape character it leaves the plain report. -/
theorem stripColour_renderText_brokenColours :
    stripColour (renderText true brokenColours) = stripColour (renderText false brokenColours) ∧
    renderText true [⟨"a.ex".toList, 1, .error, "b".toList⟩] =
      "\x1b[4ma.ex:1\x1b[0m: \x1b[1;31merror\x1b[0m: b".toList ∧
    stripColour (renderText true [⟨"a.ex".toList, 1, .error, "b".toList⟩]) =
      "a.ex:1: error: b".toList := by
  have hplain : ∀ d ∈ [(⟨"a.ex".toList, 1, .error, "b".toList⟩ : Diagnostic)],
      escape ∉ d.file ∧ escape ∉ d.message := by decide
  refine ⟨(stripColour_renderText brokenColours).1, by decide, ?_⟩
  rw [(stripColour_renderText _).2 hplain]
  decide

end Report

end ElixirDiagnostics
