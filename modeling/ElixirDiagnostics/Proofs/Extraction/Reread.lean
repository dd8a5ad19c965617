import ElixirDiagnostics.Proofs.Extraction.Recognised
import ElixirDiagnostics.Proofs.Inspection
import ElixirDiagnostics.Proofs.Location.Written
import ElixirDiagnostics.Proofs.Report

/-!
# Reports that are extracted again

A warning is displayed in the form in which the compiler prints a warning on one line. So extraction
takes a report of warnings in plain text for compiler output, and finds in it the same warnings
again, one on each line and in the same order. A file that is a single letter might be taken for the
drive of a file whose name is the line number, but behind such a file there is no line number.
-/

namespace ElixirDiagnostics

namespace Location

open Text

/-- A decimal digit can stand in the name of a file. -/
theorem isFileChar_of_isDecimal {c : Char} (h : isDecimal c = true) : isFileChar c = true := by
  have hcolon : c ≠ ':' := by
    rintro rfl
    exact absurd h (by decide)
  simp [isFileChar, isSpace_eq_false_of_isDecimal h, hcolon]

end Location

namespace Shape

open Text Location

variable {f d m : Text}

/-- A file, a line number and a message with the word for warnings between them are the parts of a
warning on one line. -/
theorem warningParts?_of_isFile (hfile : IsFile isFileChar f) (hline : IsNumeral d)
    (hm : message? m = some m) :
    warningParts? (f ++ ':' :: (d ++ (": warning: ".toList ++ m))) = some (f, d, m) := by
  have hplace : lineDigits? (':' :: (d ++ (": warning: ".toList ++ m))) =
      some (d, ": warning: ".toList ++ m) :=
    lineDigits?_of_isNumeral hline (head?_of_colon (by decide) _)
  have hword : lineDigits? (": warning: ".toList ++ m) = none := rfl
  have hcolumn : skipColumn (": warning: ".toList ++ m) = ": warning: ".toList ++ m := by
    rw [skipColumn, hword]
  unfold warningParts?
  rcases fileReadings_of_isFile (by decide) hfile (d ++ (": warning: ".toList ++ m)) with
    ⟨rest, hread⟩ | ⟨c, w, r, rfl, hdrive, hread⟩
  · rw [hread, List.findSome?_cons]
    simp only [hplace, Option.bind_eq_bind, Option.bind_some, hcolumn, after?_append, hm]
    rfl
  · -- The digits are the name of the file on the drive, and no line number follows them.
    have hname : run? isFileChar (d ++ (": warning: ".toList ++ m)) =
        some (d, ": warning: ".toList ++ m) :=
      run?_append hline.ne_nil (fun c hc => isFileChar_of_isDecimal (hline.digits c hc))
        (head?_of_colon (by decide) _)
    obtain ⟨rfl, rfl⟩ := Prod.mk.inj (Option.some.inj (hdrive.symm.trans hname))
    rw [hread, List.findSome?_cons, List.findSome?_cons]
    simp only [hword, hplace, Option.bind_eq_bind, Option.bind_none, Option.bind_some, hcolumn,
      after?_append, hm]
    rfl

end Shape

namespace Diagnostic

open Text Location Shape

variable {d : Diagnostic}

/-- A warning in a file that can be named in compiler output, with a message on one line. -/
structure IsPlainWarning (d : Diagnostic) : Prop where
  /-- It is a warning. -/
  severity : d.severity = .warning
  /-- Its file has no blank space, and no colon but the one behind the letter of a drive. -/
  file : IsFile isFileChar d.file
  /-- Lines are counted from one. -/
  one_le_line : 1 ≤ d.line
  /-- The line fits into 64 bits. -/
  line_lt : d.line < UInt64.size
  /-- It says something. -/
  message_ne_nil : d.message ≠ []
  /-- No blank space is at the ends of the message. -/
  trimmed : trim d.message = d.message
  /-- The message stands on one line. -/
  one_line : '\n' ∉ d.message
  /-- The file has no part of a colour sequence. -/
  escape_not_mem_file : escape ∉ d.file
  /-- Neither has the message. -/
  escape_not_mem_message : escape ∉ d.message

/-- What a plain warning says is a message. -/
theorem IsPlainWarning.message?_eq (h : d.IsPlainWarning) :
    message? d.message = some d.message := by
  have hvisible := isIndented_trim d.message
  rw [h.trimmed] at hvisible
  exact message?_of_visible h.message_ne_nil hvisible h.one_line

/-- A plain warning is displayed on one line. -/
theorem IsPlainWarning.isLine_display (h : d.IsPlainWarning) : IsLine d.display := by
  refine Diagnostic.isLine_display (fun hmem => ?_) h.one_line fun hlast => ?_
  · have hspace := h.file.solid (fun c => isSpace_eq_false_of_isFileChar) _ hmem
    exact absurd hspace (by decide)
  · rw [← h.trimmed] at hlast
    exact absurd (isSpace_of_getLast?_trim hlast) (by decide)

/-- The warning is read back from the line that it is displayed on. -/
theorem IsPlainWarning.readWarning_display (h : d.IsPlainWarning) (rest : List Text) :
    readWarning (d.display :: rest) = some ⟨d.file, some d.line, d.message, 1⟩ := by
  have hdisplay : d.display =
      d.file ++ ':' :: (ofNat d.line ++ (": warning: ".toList ++ d.message)) := by
    have hpieces : ": warning: ".toList = ": ".toList ++ Severity.warning.word ++ ": ".toList := by
      decide
    rw [display, place, h.severity, hpieces]
    simp only [List.append_assoc, List.cons_append]
  have hparts : warningParts? d.display = some (d.file, ofNat d.line, d.message) := by
    rw [hdisplay]
    exact warningParts?_of_isFile h.file (isNumeral_of_writes (writes_ofNat d.line)) h.message?_eq
  rw [← number?_ofNat h.line_lt]
  exact readWarning_eq_some_iff.2 (.mk hparts)

/-- What is seen there makes the same warning. -/
theorem IsPlainWarning.diagnostic_eq (h : d.IsPlainWarning) :
    Sighting.diagnostic ⟨.warningInline, d.file, some d.line, d.message, 0, 1⟩ = d := by
  obtain ⟨n, hn⟩ := Nat.exists_eq_add_of_le' h.one_le_line
  cases d with
  | mk file line severity message =>
    have hseverity : severity = .warning := h.severity
    have htrimmed : trim message = message := h.trimmed
    subst hn hseverity
    rw [Sighting.diagnostic, htrimmed]
    rfl

end Diagnostic

namespace Extraction

open Text Location Shape

variable {t : Trace.Classifier} {d : Diagnostic} {ds : List Diagnostic}

/-- The diagnostic that an event recognises. -/
def Event.recognised? : Event → Option Diagnostic
  | .matched m => some m.diagnostic
  | _ => none

/-- A run recognises the diagnostics of what there is to be seen, in order. -/
theorem runFrom_recognised (c : Catalog) (i : Inspection) (lines : List Text) (cursor : Nat) :
    (runFrom c i lines cursor).events.filterMap Event.recognised? =
      (sightings c lines cursor).map Sighting.diagnostic := by
  induction cursor using sightings.induct c lines with
  | case1 cursor h =>
    rw [runFrom_of_none h, sightings_of_none h]
    rfl
  | case2 cursor m h ih =>
    rw [runFrom_of_some h, sightings_of_some h, List.map_cons, ← ih]
    dsimp only [Run.judge]
    split <;> rfl

/-- The lines of a report of plain warnings. -/
theorem lines_renderText (h : ∀ d ∈ ds, d.IsPlainWarning) :
    Text.lines (stripColour (Report.renderText false ds)) = ds.map Diagnostic.display := by
  have hline : Report.line false = Diagnostic.display := rfl
  have hescape : escape ∉ Report.renderText false ds := Report.escape_not_mem_renderText fun d hd =>
    ⟨(h d hd).escape_not_mem_file, (h d hd).escape_not_mem_message⟩
  rw [stripColour_of_not_mem hescape, Report.renderText, hline]
  refine lines_intercalate (List.forall_mem_map.2 fun d hd => ?_)
  exact ⟨(h d hd).isLine_display, d.display_ne_nil⟩

/-- A displayed warning is recognised whatever stands below it. -/
theorem recognised_display_cons (h : d.IsPlainWarning) (rest : List Text) :
    recognised t (d.display :: rest) = d :: recognised t rest := by
  have hread : readerOf .warningInline t (d.display :: rest) =
      some ⟨d.file, some d.line, d.message, 1⟩ := h.readWarning_display rest
  have hseen := builtin_firstAt_zero_iff.2 ⟨_, _, hread, rfl, nofun⟩
  rw [recognised_of_some hseen, h.diagnostic_eq]
  rfl

/-- So all displayed warnings are recognised, in order. -/
theorem recognised_map_display (h : ∀ d ∈ ds, d.IsPlainWarning) :
    recognised t (ds.map Diagnostic.display) = ds := by
  induction ds with
  | nil => exact recognised_nil t
  | cons d ds ih =>
    have hrest := ih fun d' hd' => h d' (List.mem_cons_of_mem d hd')
    rw [List.map_cons, recognised_display_cons (h d List.mem_cons_self), hrest]

/-- Extracting from a report of plain warnings in plain text recognises exactly these warnings, in
order. Those whose file and the inspected file are resolved to the same path are found for the
inspected file, and the others are foreign. -/
theorem run_renderText (t : Trace.Classifier) (ds : List Diagnostic)
    (h : ∀ d ∈ ds, d.IsPlainWarning) (workingDir file : Path) :
    (run (Catalog.builtin t) (.ofFile workingDir file)
      (Report.renderText false ds)).events.filterMap Event.recognised? = ds ∧
    (run (Catalog.builtin t) (.ofFile workingDir file) (Report.renderText false ds)).report =
      { diagnostics := ds.filter fun d =>
          Path.resolve workingDir d.file = Path.resolve workingDir file
        foreign := ds.filter fun d =>
          Path.resolve workingDir d.file ≠ Path.resolve workingDir file } := by
  have hrecognised :
      recognised t (Text.lines (stripColour (Report.renderText false ds))) = ds := by
    rw [lines_renderText h, recognised_map_display h]
  have haccepts : ∀ d ∈ ds, (Inspection.ofFile workingDir file).accepts d =
      decide (Path.resolve workingDir d.file = Path.resolve workingDir file) := by
    intro d hd
    rw [Bool.eq_iff_iff, Inspection.accepts_ofFile_iff, decide_eq_true_eq]
    exact and_iff_right (h d hd).file.ne_nil
  refine ⟨(runFrom_recognised _ _ _ 0).trans hrecognised, ?_⟩
  have hreport := report_eq_sorted_recognised t (.ofFile workingDir file)
    (Report.renderText false ds)
  rw [hrecognised] at hreport
  refine hreport.trans ?_
  rw [Report.sorted, Inspection.keep, List.filter_congr haccepts]
  congr 1
  refine List.filter_congr fun d hd => ?_
  rw [haccepts d hd, decide_not]

/-- Warnings whose displays can be split in more than one way: a file that is a letter, a file on a
drive whose name is a number, and messages that look like diagnostics. -/
def ambiguousWarnings : List Diagnostic :=
  [⟨"a".toList, 5, .warning, "b.ex:1: warning: c".toList⟩,
    ⟨"C:5".toList, 7, .warning, "** (E) a:1: d".toList⟩]

/-- They are read back from the two lines, and one of them belongs to the inspected file. -/
theorem run_renderText_ambiguousWarnings :
    Report.renderText false ambiguousWarnings =
      "a:5: warning: b.ex:1: warning: c\nC:5:7: warning: ** (E) a:1: d".toList ∧
    (run (Catalog.builtin {}) (.ofFile "/p".toList "x/../a".toList)
      (Report.renderText false ambiguousWarnings)).events.filterMap Event.recognised? =
        ambiguousWarnings ∧
    (run (Catalog.builtin {}) (.ofFile "/p".toList "x/../a".toList)
      (Report.renderText false ambiguousWarnings)).report =
        { diagnostics := [⟨"a".toList, 5, .warning, "b.ex:1: warning: c".toList⟩]
          foreign := [⟨"C:5".toList, 7, .warning, "** (E) a:1: d".toList⟩] } := by
  have hplain : ∀ d ∈ ambiguousWarnings, d.IsPlainWarning := by
    simp only [ambiguousWarnings, List.forall_mem_cons]
    refine ⟨?_, ?_, fun _ hd => absurd hd List.not_mem_nil⟩
    · have hfile : IsFile isFileChar "a".toList :=
        .name (by decide) (List.all_eq_true.1 (by decide))
      exact ⟨rfl, hfile, by decide, by decide, by decide, by decide, by decide, by decide,
        by decide⟩
    · have hfile : IsFile isFileChar "C:5".toList :=
        .drive (by decide) (by decide) (List.all_eq_true.1 (by decide))
      exact ⟨rfl, hfile, by decide, by decide, by decide, by decide, by decide, by decide,
        by decide⟩
  obtain ⟨hevents, hreport⟩ :=
    run_renderText {} ambiguousWarnings hplain "/p".toList "x/../a".toList
  refine ⟨by decide, hevents, hreport.trans ?_⟩
  decide

end Extraction

end ElixirDiagnostics
