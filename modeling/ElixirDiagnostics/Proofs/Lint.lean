import ElixirDiagnostics.Lint
import ElixirDiagnostics.Pattern.Reader
import ElixirDiagnostics.Proofs.Extraction.Scan
import ElixirDiagnostics.Proofs.Settings.Classifier

/-!
# What linting a file asks for and comes to

Linting a file asks its surroundings to take log records, to make a directory and to run a compiler.
Surroundings that keep all requests show which ones are made, in which order, and how the answers
decide the outcome. Nothing is asked for if a pattern for library code is none. Else the command is
announced, the output directory is made if there is one, and the compiler is run once. What it
prints is examined as the same output would be if it were given from outside, and only an
unsuccessful run in which nothing was recognised is a failure; it quotes the last lines of the
output.
-/

namespace ElixirDiagnostics

/-- An action and what is done with its value, one after the other. -/
theorem run_bind {σ α β : Type} (action : StateM σ α) (next : α → StateM σ β) (state : σ) :
    (action >>= next).run state = (next (action.run state).1).run (action.run state).2 :=
  rfl

namespace Lint

/-- What can be asked for while a file is linted. -/
inductive Request where
  /-- Take a log record. -/
  | log (r : LogRecord)
  /-- Make a directory. -/
  | createDir (d : Path)
  /-- Run a compiler. -/
  | run (i : Command.Invocation)
  deriving DecidableEq, Repr

/-- Surroundings, by their answers. An answer may depend on everything that was asked before. -/
structure Surroundings where
  /-- The directory for temporary files. -/
  tempDir : Path
  /-- Whether a directory is there after it was asked for. -/
  creates : List Request → Path → Bool
  /-- What a run of a compiler comes to. -/
  answers : List Request → Command.Invocation → Except RunError CompilerOutput

namespace Surroundings

/-- Surroundings that keep every request. -/
def host (w : Surroundings) : Host (StateM (List Request)) where
  tempDir := w.tempDir
  log r := modify (· ++ [.log r])
  createDir d := modifyGet fun before => (w.creates before d, before ++ [.createDir d])
  run i := modifyGet fun before => (w.answers before i, before ++ [.run i])

/-- What linting a file comes to, and what was asked for. -/
def lint (w : Surroundings) (read : Trace.PatternReader) (s : Settings)
    (inspected workingDir : Path) : Except Error Outcome × List Request :=
  (lintFile read w.host s inspected workingDir).run []

/-- Their directory for temporary files is the one that they name. -/
theorem host_tempDir (w : Surroundings) : w.host.tempDir = w.tempDir :=
  rfl

/-- A directory is asked for, and the request is kept. -/
theorem createDir_run (w : Surroundings) (d : Path) (before : List Request) :
    (w.host.createDir d).run before = (w.creates before d, before ++ [.createDir d]) :=
  rfl

/-- So is a run of a compiler. -/
theorem run_run (w : Surroundings) (i : Command.Invocation) (before : List Request) :
    (w.host.run i).run before = (w.answers before i, before ++ [.run i]) :=
  rfl

end Surroundings

variable {read : Trace.PatternReader} {w : Surroundings} {s : Settings}
  {inspected workingDir : Path} {t : Trace.Classifier} {e : Error} {i : Command.Invocation}
  {o : CompilerOutput} {before : List Request}

/-- The settings have no classifier exactly when one of their patterns cannot be read. -/
theorem classifier_ok_or_error (read : Trace.PatternReader) (s : Settings) :
    (∃ t, classifier read s = .ok t ∧ Settings.Classifies read s t ∧
      ∀ p ∈ s.trace.libraryPatterns, read.IsValid p) ∨
    ∃ reason, classifier read s = .error (.pattern reason) ∧
      ∃ p ∈ s.trace.libraryPatterns, read p = .error reason := by
  unfold classifier
  rcases Settings.classifier?_ok_or_error read s with ⟨t, ht, hall⟩ | ⟨reason, hreason, hp⟩
  · rw [ht]
    exact Or.inl ⟨t, rfl, hall⟩
  · rw [hreason]
    exact Or.inr ⟨reason, rfl, hp⟩

/-- Log records are asked to be taken in their order. -/
theorem logAll_run (w : Surroundings) (rs : List LogRecord) (before : List Request) :
    ((logAll w.host.log rs).run before).2 = before ++ rs.map .log := by
  induction rs generalizing before with
  | nil => exact (List.append_nil before).symm
  | cons r rs ih =>
    rw [logAll, run_bind, ih, List.map_cons, ← List.singleton_append, ← List.append_assoc]
    rfl

/-- The requests that announce the command. -/
def announcement (temp : Path) (s : Settings) (inspected workingDir : Path) : List Request :=
  (Command.invocationEvents temp s inspected workingDir).map fun e => .log e.record

/-- The requests before the compiler is run: the command is announced, and the directory that it
writes to is made, if there is one. -/
def preparation (temp : Path) (s : Settings) (inspected workingDir : Path) : List Request :=
  announcement temp s inspected workingDir ++
    (Command.invocation temp s inspected workingDir).outputDir.toList.map .createDir

/-- A directory that cannot be made is a failure. -/
theorem prepare_run_of_missing {d : Path} (hdir : i.outputDir = some d)
    (hmissing : w.creates before d = false) :
    (prepare w.host i).run before = (.error (.outputDir d), before ++ [.createDir d]) := by
  unfold prepare
  rw [hdir]
  dsimp only
  rw [run_bind, w.createDir_run, hmissing]
  rfl

/-- Else the directory is asked for once, if there is one. -/
theorem prepare_run_of_ready (hready : ∀ d, i.outputDir = some d → w.creates before d = true) :
    (prepare w.host i).run before = (.ok (), before ++ i.outputDir.toList.map .createDir) := by
  unfold prepare
  cases hdir : i.outputDir with
  | none => exact congrArg (Except.ok (), ·) (List.append_nil before).symm
  | some d =>
    dsimp only
    rw [run_bind, w.createDir_run, hready d hdir]
    rfl

/-- Without a classifier nothing is asked for. -/
theorem lint_of_error (h : classifier read s = .error e) :
    w.lint read s inspected workingDir = (.error e, []) := by
  rw [Surroundings.lint, lintFile, h]
  rfl

/-- With a classifier the command is announced first. -/
theorem announcement_run (w : Surroundings) (s : Settings) (inspected workingDir : Path) :
    ((logAll w.host.log ((Command.invocationEvents w.tempDir s inspected workingDir).map
      (·.record))).run []).2 = announcement w.tempDir s inspected workingDir := by
  rw [logAll_run, List.map_map, List.nil_append]
  rfl

/-- A directory that cannot be made ends the linting. -/
theorem lint_of_missing {d : Path} (h : classifier read s = .ok t)
    (hdir : (Command.invocation w.tempDir s inspected workingDir).outputDir = some d)
    (hmissing : w.creates (announcement w.tempDir s inspected workingDir) d = false) :
    w.lint read s inspected workingDir =
      (.error (.outputDir d), announcement w.tempDir s inspected workingDir ++ [.createDir d]) := by
  rw [Surroundings.lint, lintFile, h]
  dsimp only [Surroundings.host_tempDir]
  rw [run_bind, announcement_run, run_bind, prepare_run_of_missing hdir hmissing]
  rfl

/-- Else the compiler is run. -/
theorem lint_of_ready (h : classifier read s = .ok t)
    (hready : ∀ d, (Command.invocation w.tempDir s inspected workingDir).outputDir = some d →
      w.creates (announcement w.tempDir s inspected workingDir) d = true) :
    w.lint read s inspected workingDir =
      match w.answers (preparation w.tempDir s inspected workingDir)
        (Command.invocation w.tempDir s inspected workingDir) with
      | .error e => (.error (.run e), preparation w.tempDir s inspected workingDir ++
          [.run (Command.invocation w.tempDir s inspected workingDir)])
      | .ok o => (conclude (Command.invocation w.tempDir s inspected workingDir) o
          (examine t o inspected).report, preparation w.tempDir s inspected workingDir ++
          .run (Command.invocation w.tempDir s inspected workingDir) ::
            (examinationLog (examine t o inspected) inspected).map .log) := by
  rw [Surroundings.lint, lintFile, h]
  dsimp only [Surroundings.host_tempDir]
  rw [run_bind, announcement_run, run_bind, prepare_run_of_ready hready]
  dsimp only
  rw [run_bind, w.run_run]
  dsimp only [preparation]
  cases w.answers _ (Command.invocation w.tempDir s inspected workingDir) with
  | error e => rfl
  | ok o =>
    dsimp only
    rw [run_bind, logAll_run, List.append_assoc, List.singleton_append]
    rfl

/-- A run that fails ends the linting. -/
theorem lint_of_runError {reason : RunError} (h : classifier read s = .ok t)
    (hready : ∀ d, (Command.invocation w.tempDir s inspected workingDir).outputDir = some d →
      w.creates (announcement w.tempDir s inspected workingDir) d = true)
    (hrun : w.answers (preparation w.tempDir s inspected workingDir)
      (Command.invocation w.tempDir s inspected workingDir) = .error reason) :
    w.lint read s inspected workingDir =
      (.error (.run reason), preparation w.tempDir s inspected workingDir ++
        [.run (Command.invocation w.tempDir s inspected workingDir)]) := by
  rw [lint_of_ready h hready, hrun]

/-- The output of a run that does not is examined, and the verdict follows the log of that. -/
theorem lint_of_output (h : classifier read s = .ok t)
    (hready : ∀ d, (Command.invocation w.tempDir s inspected workingDir).outputDir = some d →
      w.creates (announcement w.tempDir s inspected workingDir) d = true)
    (hrun : w.answers (preparation w.tempDir s inspected workingDir)
      (Command.invocation w.tempDir s inspected workingDir) = .ok o) :
    w.lint read s inspected workingDir =
      (conclude (Command.invocation w.tempDir s inspected workingDir) o
        (examine t o inspected).report, preparation w.tempDir s inspected workingDir ++
        .run (Command.invocation w.tempDir s inspected workingDir) ::
          (examinationLog (examine t o inspected) inspected).map .log) := by
  rw [lint_of_ready h hready, hrun]

/-- The quoted lines are the last twenty, or all if there are fewer. -/
theorem tail_suffix (text : Text) :
    tail text <:+ Text.lines text ∧ (tail text).length = min 20 (Text.lines text).length := by
  refine ⟨List.drop_suffix _ _, ?_⟩
  simp only [tail, tailLength, List.length_drop]
  omega

/-- A run is a failure if it is unsuccessful and nothing was recognised in what it printed. -/
theorem conclude_eq (i : Command.Invocation) (o : CompilerOutput) (r : Extraction.Report) :
    conclude i o r =
      if o.success = false ∧ r.diagnostics = [] ∧ r.foreign = [] then
        .error (.unrecognised i.line o.exitCode (tail o.text))
      else .ok ⟨i, o, r⟩ := by
  have hnothing : (!o.success && !r.recognisedAny) = true ↔
      o.success = false ∧ r.diagnostics = [] ∧ r.foreign = [] := by
    simp [Extraction.Report.recognisedAny]
  rw [conclude]
  simp only [hnothing]

/-- The message of that failure ends with the quoted lines. -/
theorem tail_suffix_message (command : Text) (exitCode : Option Int) (ls : List Text) :
    List.intercalate ['\n'] ls <:+ (Error.unrecognised command exitCode ls).message :=
  List.suffix_append _ _

/-- The verdict on a run: when it is a failure, how that failure ends, and what the outcome holds
else. -/
theorem conclude_spec (i : Command.Invocation) (o : CompilerOutput) (r : Extraction.Report) :
    ((∃ e, conclude i o r = .error e) ↔
      o.success = false ∧ r.diagnostics = [] ∧ r.foreign = []) ∧
    (∀ e, conclude i o r = .error e → ∃ quoted, quoted <:+ Text.lines o.text ∧
      quoted.length = min 20 (Text.lines o.text).length ∧
      List.intercalate ['\n'] quoted <:+ e.message) ∧
    ∀ outcome, conclude i o r = .ok outcome → outcome = ⟨i, o, r⟩ := by
  rw [conclude_eq]
  by_cases hfailed : o.success = false ∧ r.diagnostics = [] ∧ r.foreign = []
  · rw [if_pos hfailed]
    refine ⟨⟨fun _ => hfailed, fun _ => ⟨_, rfl⟩⟩, fun e he => ?_, nofun⟩
    obtain rfl := Except.error.inj he
    exact ⟨tail o.text, (tail_suffix o.text).1, (tail_suffix o.text).2, tail_suffix_message _ _ _⟩
  · rw [if_neg hfailed]
    exact ⟨⟨nofun, fun h => absurd h hfailed⟩, nofun, fun outcome h => (Except.ok.inj h).symm⟩

/-- Whatever reads the patterns for library code, linting a file asks for nothing if one of them
cannot be read, and then output from outside is not examined either. Else, once the output directory
is there if the command has one, the compiler is run once, after the command was announced and with
nothing but log records behind it. Its own failure is passed on. What it leaves behind is examined
as the same output from outside is: what is reported is what is extracted from its text, by a
classifier for the settings, for the inspected file in the directory that the compiler ran in. That
fails exactly if the run was unsuccessful and nothing was recognised, with a message that ends with
the last twenty lines of the output, or all if there are fewer; in every other case the outcome
holds the command, what the run left behind, and that report. -/
theorem lint_agrees_with_lintOutput (read : Trace.PatternReader) (w : Surroundings) (s : Settings)
    (inspected workingDir : Path) :
    let i := Command.invocation w.tempDir s inspected workingDir
    let announced := announcement w.tempDir s inspected workingDir
    let prepared := preparation w.tempDir s inspected workingDir
    let r := w.lint read s inspected workingDir
    ((∃ p ∈ s.trace.libraryPatterns, ¬read.IsValid p) →
      r.2 = [] ∧ ∃ reason, (∃ p ∈ s.trace.libraryPatterns, read p = .error reason) ∧
        r.1 = .error (.pattern reason) ∧
        ∀ o, lintOutput read s o inspected = .error (.pattern reason)) ∧
    ((∀ p ∈ s.trace.libraryPatterns, read.IsValid p) →
      (∀ d, i.outputDir = some d → w.creates announced d = false →
        r = (.error (.outputDir d), announced ++ [.createDir d])) ∧
      ((∀ d, i.outputDir = some d → w.creates announced d = true) →
        (∃ records : List LogRecord, r.2 = prepared ++ .run i :: records.map .log) ∧
        (∀ e, w.answers prepared i = .error e → r.1 = .error (.run e)) ∧
        ∀ o, w.answers prepared i = .ok o →
          ∃ t x, Settings.Classifies read s t ∧ lintOutput read s o inspected = .ok x ∧
            x.report =
              Extraction.report (.builtin t) (.ofFile o.workingDir inspected) o.text ∧
            ((∃ e, r.1 = .error e) ↔
              o.success = false ∧ x.report.diagnostics = [] ∧ x.report.foreign = []) ∧
            (∀ e, r.1 = .error e → ∃ quoted, quoted <:+ Text.lines o.text ∧
              quoted.length = min 20 (Text.lines o.text).length ∧
              List.intercalate ['\n'] quoted <:+ e.message) ∧
            ∀ outcome, r.1 = .ok outcome → outcome = ⟨i, o, x.report⟩)) := by
  intro i announced prepared r
  -- The settings have a classifier or a broken pattern, and each half is about one of these.
  rcases classifier_ok_or_error read s with ⟨t, ht, hclassifies, hall⟩ | ⟨reason, he, p, hp, hpe⟩
  · constructor
    · rintro ⟨p, hp, hbroken⟩
      exact absurd (hall p hp) hbroken
    · intro _
      refine ⟨fun d hdir hmissing => lint_of_missing ht hdir hmissing, fun hready => ?_⟩
      cases hanswer : w.answers prepared i with
      | error e =>
        have hr : r = _ := lint_of_runError ht hready hanswer
        rw [hr]
        exact ⟨⟨[], rfl⟩, fun e he => by rw [Except.error.inj he], nofun⟩
      | ok o =>
        have hr : r = _ := lint_of_output ht hready hanswer
        rw [hr]
        refine ⟨⟨_, rfl⟩, nofun, fun o' ho' => ?_⟩
        obtain rfl := Except.ok.inj ho'
        have hexamined : lintOutput read s o inspected = .ok (examine t o inspected) := by
          rw [lintOutput, ht]
          rfl
        exact ⟨t, examine t o inspected, hclassifies, hexamined, rfl, conclude_spec i o _⟩
  · constructor
    · intro _
      have hr : r = _ := lint_of_error he
      rw [hr]
      exact ⟨rfl, reason, ⟨p, hp, hpe⟩, rfl, fun o => by rw [lintOutput, he]; rfl⟩
    · intro hvalid
      obtain ⟨test, htest⟩ := hvalid p hp
      rw [hpe] at htest
      contradiction

/-- What the build tool prints outside of any project. -/
def noProject : Text := "** (Mix) Could not find a Mix.Project\n".toList

/-- Surroundings that cannot make directories, and in which the build tool finds no project. -/
def outsideProjects : Surroundings where
  tempDir := "/tmp".toList
  creates _ _ := false
  answers _ i := .ok ⟨noProject, some 1, false, i.workingDir⟩

/-- Settings with a pattern that is none. -/
def brokenSettings : Settings :=
  { trace := { libraryPatterns := [['[']] } }

/-- Nothing is recognised in what the build tool prints there. -/
theorem report_noProject (t : Trace.Classifier) (i : Inspection) :
    Extraction.report (.builtin t) i noProject = Extraction.Report.sorted i [] := by
  refine Extraction.report_of_leftmostScan i (.nil ?_)
  rw [Text.stripColour_of_not_mem (by decide)]
  exact Option.isNone_iff_eq_none.1 (by rfl)

/-- A pattern that is none, an output directory that cannot be made, and a build tool without a
project: nothing is asked for, then only the directory, and last the output is quoted. -/
theorem lint_outsideProjects :
    (∃ reason, outsideProjects.lint Pattern.reader brokenSettings "/a.ex".toList ['/'] =
        (.error (.pattern reason), [])) ∧
      (outsideProjects.lint Pattern.reader {} "/a.ex".toList ['/']).1 =
        .error (.outputDir "/tmp/elixirc-lint".toList) ∧
      ∃ e, (outsideProjects.lint Pattern.reader { mixProject := true } "/a.ex".toList ['/']).1 =
          .error e ∧
        "** (Mix) Could not find a Mix.Project".toList <:+ e.message := by
  have hbroken : ¬Pattern.reader.IsValid ['['] := by decide
  refine ⟨?_, ?_, ?_⟩
  · obtain ⟨hnothing, reason, -, hfails, -⟩ := (lint_agrees_with_lintOutput Pattern.reader
      outsideProjects brokenSettings "/a.ex".toList ['/']).1 ⟨['['], .head _, hbroken⟩
    exact ⟨reason, Prod.ext hfails hnothing⟩
  · rw [((lint_agrees_with_lintOutput Pattern.reader outsideProjects {} "/a.ex".toList ['/']).2
      nofun).1 "/tmp/elixirc-lint".toList rfl rfl]
  · obtain ⟨-, -, houtput⟩ := ((lint_agrees_with_lintOutput Pattern.reader outsideProjects
      { mixProject := true } "/a.ex".toList ['/']).2 nofun).2 nofun
    obtain ⟨t, x, -, -, hextracted, hfails, hquoted, -⟩ := houtput _ rfl
    have hreport := hextracted.trans (report_noProject t (.ofFile ['/'] "/a.ex".toList))
    obtain ⟨e, he⟩ := hfails.2 ⟨rfl, congrArg (·.diagnostics) hreport,
      congrArg (·.foreign) hreport⟩
    obtain ⟨quoted, hsuffix, hlength, hmessage⟩ := hquoted e he
    obtain rfl := hsuffix.eq_of_length hlength
    exact ⟨e, he, hmessage⟩

end Lint

end ElixirDiagnostics
