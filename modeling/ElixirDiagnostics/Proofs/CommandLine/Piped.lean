import ElixirDiagnostics.CommandLine.Standard
import ElixirDiagnostics.Proofs.Extraction.Recognised
import ElixirDiagnostics.Proofs.Inspection
import ElixirDiagnostics.Proofs.Lint
import ElixirDiagnostics.Proofs.Report
import ElixirDiagnostics.Proofs.Shape.Quoted

/-!
# Sessions with the output of a compiler on their input

A session can read what a compiler printed before from its input. However its command line, settings
and patterns are read, if the settings can be loaded and hold no broken pattern, it prints one line
for each diagnostic of the inspected file and nothing else, and its exit code says whether one of
them is an error. An editor that reads these lines finds the diagnostics as they are, whatever stood
on the input.
-/

namespace ElixirDiagnostics

namespace Extraction

variable {t : Trace.Classifier} {i : Inspection} {output : Text} {d : Diagnostic}

/-- Neither the file nor the message of a record has a newline. -/
theorem newline_not_mem_of_mem_recognised {s : Text} (h : d ∈ recognised t (Text.lines s)) :
    '\n' ∉ d.file ∧ '\n' ∉ d.message := by
  obtain ⟨m, hm, rfl⟩ := List.mem_map.1 h
  have hseen := (leftmostScan_sightings (Catalog.builtin t) (Text.lines s) 0).seen m hm
  obtain ⟨hfile, hmessage⟩ :=
    Shape.not_mem_of_firstAt (fun l hl => Text.newline_not_mem_of_mem_lines hl) hseen
  exact ⟨hfile, fun hmem => hmessage (Text.mem_of_mem_trim hmem)⟩

/-- Every record of a report is displayed on one line. -/
theorem isLine_display_of_mem_report (h : d ∈ (report (Catalog.builtin t) i output).diagnostics) :
    Text.IsLine d.display := by
  rw [report_eq_sorted_recognised] at h
  have hmem := (List.mem_filter.1 h).1
  obtain ⟨hfile, hmessage⟩ := newline_not_mem_of_mem_recognised hmem
  refine Diagnostic.isLine_display hfile hmessage fun hlast => ?_
  obtain ⟨m, -, rfl⟩ := List.mem_map.1 hmem
  exact absurd (Text.isSpace_of_getLast?_trim hlast) (by decide)

/-- Every record of a report has a line, names a file and belongs to the inspected file. -/
theorem spec_of_mem_report {dir file : Path}
    (h : d ∈ (report (Catalog.builtin t) (.ofFile dir file) output).diagnostics) :
    1 ≤ d.line ∧ d.file ≠ [] ∧ Path.resolve dir d.file = Path.resolve dir file := by
  rw [report_eq_sorted_recognised] at h
  obtain ⟨hmem, haccepts⟩ := List.mem_filter.1 h
  obtain ⟨m, -, rfl⟩ := List.mem_map.1 hmem
  exact ⟨m.one_le_diagnostic_line, (Inspection.accepts_ofFile_iff dir file _).1 haccepts⟩

end Extraction

namespace CommandLine

variable {σ : Type} {readers : Readers} {read : Trace.PatternReader} {host : Host (StateM σ)}
  {args : List Text} {o : Command.Options} {s : Settings} {t : Trace.Classifier}
  {f file dir : Path} {text : Text} {ds : List Diagnostic} {w w' w'' : σ}

/-- With output on its input a session finds what is extracted from it. -/
theorem inspect_run_of_stdin (hstdin : o.stdin = true)
    (hdir : (workingDir host o s file).run w = (dir, w'))
    (hinput : host.input?.run w' = (some text, w'')) (ht : Lint.classifier read s = .ok t) :
    (inspect read host o s file).run w =
      (.ok (Extraction.report (.builtin t) (.ofFile dir file) text).diagnostics, w'') := by
  have hlint : Lint.lintOutput read s (pipedOutput text dir) file =
      .ok (Lint.examine t (pipedOutput text dir) file) := by
    rw [Lint.lintOutput, ht]
    rfl
  rw [inspect, run_bind, hdir, if_pos hstdin, run_bind, hinput]
  dsimp only
  rw [hlint]
  rfl

/-- With settings for its file a session inspects the file. -/
theorem lint_run_of_settings (hfile : o.file = some f)
    (hsettings : (Settings.resolve readers.settings host.files o.config
      ((Path.parent? (Path.join host.dir f)).getD host.dir)).run w = (.ok s, w')) :
    (lint readers host o).run w =
      (inspect readers.pattern host o (o.override s) (Path.join host.dir f)).run w' := by
  rw [lint, hfile]
  dsimp only
  rw [run_bind, hsettings]

/-- With diagnostics a session ends in a report of them. -/
theorem run_of_lint (hread : readers.options args = .ok o) (hversion : o.version = false)
    (hlint : (lint readers host o).run w = (.ok ds, w')) :
    (run readers host args).run w =
      (.ofReport o.reportFormat (host.terminal && !o.noColour) ds, w') := by
  have hno : ¬o.version = true := by simp [hversion]
  rw [run, hread]
  dsimp only
  rw [if_neg hno, run_bind, hlint]
  rfl

/-- The exit code of a report says whether it has an error. -/
theorem code_ofReport (format : Report.Format) (colour : Bool) (ds : List Diagnostic) :
    ((Ending.ofReport format colour ds).code = 1 ∨ (Ending.ofReport format colour ds).code = 0) ∧
      ((Ending.ofReport format colour ds).code = 1 ↔ ∃ d ∈ ds, d.severity = .error) := by
  have herror : ds.any (·.isError) = true ↔ ∃ d ∈ ds, d.severity = .error := by
    simp [Diagnostic.isError]
  have hcode : (Ending.ofReport format colour ds).code = if ds.any (·.isError) then 1 else 0 := rfl
  rw [← herror, hcode]
  split
  · next h => exact ⟨Or.inl rfl, fun _ => h, fun _ => rfl⟩
  · next h => exact ⟨Or.inr rfl, nofun, fun he => absurd he h⟩

/-- A session that reads the output of a compiler from its input, with settings that can be loaded
and hold no broken pattern, prints in plain text the diagnostics that are extracted for its file by
a classifier for the settings, one on each line, and reading what it prints line by line gives them
back. Each of them has a line, names a file and belongs to the file of the session. The exit code is
one if there is an error among them, and else it is zero. It does not matter what reads the command
line, the settings and the patterns. -/
theorem run_of_stdin (readers : Readers) (host : Host (StateM σ))
    (hread : readers.options args = .ok o) (hversion : o.version = false) (hstdin : o.stdin = true)
    (hformat : o.reportFormat = .text) (hcolour : (host.terminal && !o.noColour) = false)
    (hfile : o.file = some f)
    (hsettings : (Settings.resolve readers.settings host.files o.config
      ((Path.parent? (Path.join host.dir f)).getD host.dir)).run w = (.ok s, w'))
    (hpatterns : ∀ p ∈ s.trace.libraryPatterns, readers.pattern.IsValid p)
    (hdir : (workingDir host o (o.override s) (Path.join host.dir f)).run w' = (dir, w''))
    (hinput : (host.input?.run w'').1 = some text) :
    ∃ t, Lint.classifier readers.pattern (o.override s) = .ok t ∧
      Settings.Classifies readers.pattern (o.override s) t ∧
      let ds := (Extraction.report (.builtin t) (.ofFile dir (Path.join host.dir f))
        text).diagnostics
      let ending := ((run readers host args).run w).1
      Text.lines ending.out = ds.map Diagnostic.written ∧
      ending.out = ds.flatMap (·.display ++ ['\n']) ∧
      (∀ d ∈ ds, 1 ≤ d.line ∧ d.file ≠ [] ∧
        Path.resolve dir d.file = Path.resolve dir (Path.join host.dir f)) ∧
      (ending.code = 1 ∨ ending.code = 0) ∧
      (ending.code = 1 ↔ ∃ d ∈ ds, d.severity = .error) := by
  -- The command line may choose another anchor, but the patterns stay those of the settings.
  rcases Lint.classifier_ok_or_error readers.pattern (o.override s) with
    ⟨t, ht, hclassifies, -⟩ | ⟨e, -, p, hp, hpe⟩
  · refine ⟨t, ht, hclassifies, ?_⟩
    intro ds ending
    have hinput' : host.input?.run w'' = (some text, (host.input?.run w'').2) :=
      Prod.ext hinput rfl
    have hlint := lint_run_of_settings hfile hsettings
    rw [inspect_run_of_stdin hstdin hdir hinput' ht] at hlint
    have hending : ending = .ofReport .text false ds := by
      have hrun := congrArg Prod.fst (run_of_lint hread hversion hlint)
      rw [hformat, hcolour] at hrun
      exact hrun
    have hlines : Text.lines (Ending.ofReport .text false ds).out = ds.map Diagnostic.written := by
      rw [lines_out_ofReport fun d hd => Extraction.isLine_display_of_mem_report hd]
      exact List.map_congr_left fun d _ => d.display_eq_written
    rw [hending]
    exact ⟨hlines, out_ofReport ds, fun d hd => Extraction.spec_of_mem_report hd,
      code_ofReport .text false ds⟩
  · obtain ⟨x, hx⟩ := hpatterns p hp
    rw [hpe] at hx
    contradiction

/-- A warning of the file `a.ex`, an error of another file, and an error of `a.ex` with blank space
and carriage returns at its end. -/
def pipedText : Text :=
  "a.ex:3: warning: unused\n** (E) b.ex:1: no\n** (E) ./a.ex:0: boom \r\r\n".toList

/-- Settings with a pattern for library code. -/
def pipedSettings : Text :=
  "[trace]\nlibrary_patterns = [\"^deps/\"]\n".toList

/-- The surroundings of a session with this text on the input and these settings in its directory.
They keep nothing. -/
def pipedHost : Host (StateM Unit) where
  dir := "/p".toList
  terminal := false
  files :=
    { isFile p := pure (p == "/p/.elixirc-lint.toml".toList)
      read? _ := pure (some pipedSettings)
      log _ := pure () }
  compiler :=
    { tempDir := "/tmp".toList
      log _ := pure ()
      createDir _ := pure false
      run i := pure (.error (.notFound i.program)) }
  input? := pure (some pipedText)

/-- What is recognised in this text. -/
theorem report_pipedText (t : Trace.Classifier) :
    (Extraction.report (.builtin t) (.ofFile "/p".toList "/p/a.ex".toList) pipedText).diagnostics =
      [⟨"a.ex".toList, 3, .warning, "unused".toList⟩,
        ⟨"./a.ex".toList, 1, .error, "boom".toList⟩] := by
  have hlines : Text.lines (Text.stripColour pipedText) =
      ["a.ex:3: warning: unused".toList, "** (E) b.ex:1: no".toList,
        "** (E) ./a.ex:0: boom \r".toList] := by
    rw [Text.stripColour_of_not_mem (by decide +kernel)]
    decide +kernel
  rw [Extraction.report_eq_sorted_recognised, hlines]
  rw [Extraction.recognised_of_some
    (m := ⟨.warningInline, "a.ex".toList, some 3, "unused".toList, 0, 1⟩) (by rfl)]
  rw [Extraction.recognised_of_some
    (m := ⟨.compileErrorBare, "b.ex".toList, some 1, "no".toList, 0, 1⟩) (by rfl)]
  rw [Extraction.recognised_of_some
    (m := ⟨.compileErrorBare, "./a.ex".toList, some 0, "boom \r".toList, 0, 1⟩) (by rfl)]
  have hrest : Extraction.recognised t (List.drop 1 (List.drop 1 (List.drop 1
      ["a.ex:3: warning: unused".toList, "** (E) b.ex:1: no".toList,
        "** (E) ./a.ex:0: boom \r".toList]))) = [] := Extraction.recognised_nil t
  rw [hrest]
  decide +kernel

/-- The two diagnostics of the file are printed, the error without the blank space at its end and on
the first line, and the exit code tells of it. -/
theorem run_pipedText :
    let ending := ((run .standard pipedHost ["--stdin".toList, "a.ex".toList]).run ()).1
    Text.lines ending.out =
        ["a.ex:3: warning: unused".toList, "./a.ex:1: error: boom".toList] ∧
      ending.code = 1 := by
  have hread : Readers.standard.options ["--stdin".toList, "a.ex".toList] =
      .ok { stdin := true, file := some "a.ex".toList } := by rfl
  have hsettings : (Settings.resolve Readers.standard.settings pipedHost.files none
      ((Path.parent? (Path.join pipedHost.dir "a.ex".toList)).getD pipedHost.dir)).run () =
        (.ok { trace := { libraryPatterns := ["^deps/".toList] } }, ()) :=
    Prod.ext (by decide +kernel) (Subsingleton.elim _ _)
  have hvalid : Readers.standard.pattern.IsValid "^deps/".toList := by decide +kernel
  obtain ⟨t, -, -, hlines, -, -, -, hcode⟩ := run_of_stdin .standard pipedHost hread rfl rfl rfl
    rfl rfl hsettings (List.forall_mem_singleton.2 hvalid) rfl rfl
  have hwritten := congrArg (List.map Diagnostic.written) (report_pipedText t)
  have herror : ⟨"./a.ex".toList, 1, .error, "boom".toList⟩ ∈ (Extraction.report (.builtin t)
      (.ofFile "/p".toList "/p/a.ex".toList) pipedText).diagnostics := by
    rw [report_pipedText]
    simp
  exact ⟨hlines.trans hwritten, hcode.2 ⟨_, herror, rfl⟩⟩

end CommandLine

end ElixirDiagnostics
