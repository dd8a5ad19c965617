import ElixirDiagnostics.Command.Invocation
import ElixirDiagnostics.Extraction.Event

/-!
# Linting a file

A file is linted by running the compiler on it and extracting the diagnostics from what the compiler
prints, or by extracting them from output that is already there. A run of the compiler that fails
and prints nothing that could be recognised is an error of its own, which quotes the end of the
output; a failed run with diagnostics is not.
-/

namespace ElixirDiagnostics

/-- What one run of a compiler left behind. -/
structure CompilerOutput where
  /-- What it printed: all of its output, then all of its errors. -/
  text : Text
  /-- Its exit code, unless it was killed by a signal. -/
  exitCode : Option Int
  /-- Whether it says that it succeeded. -/
  success : Bool
  /-- The directory that it ran in; the paths it printed are relative to it. -/
  workingDir : Path
  deriving DecidableEq, Repr

/-- What a compiler printed to its two streams, as one text. The errors begin on a line of their
own. -/
def CompilerOutput.merge (out err : Text) : Text :=
  if out.isEmpty || err.isEmpty || out.getLast? == some '\n' then out ++ err
  else out ++ '\n' :: err

/-- Why a compiler could not be run. -/
inductive RunError where
  /-- There is no such program. -/
  | notFound (program : Text)
  /-- The program could not be started. -/
  | notStarted (command : Text)
  /-- Another reason, in the words of whoever runs the compiler. -/
  | other (reason : Text)
  deriving DecidableEq, Repr

/-- What is said about it. -/
def RunError.message : RunError → Text
  | notFound program => '\'' :: program ++ "' not found in PATH".toList
  | notStarted command => "failed to run ".toList ++ command
  | other reason => reason

namespace Lint

/-- Why a file could not be linted. -/
inductive Error where
  /-- A pattern for library code cannot be read, in the words of its reader. -/
  | pattern (reason : Text)
  /-- The directory for compiled modules could not be made. -/
  | outputDir (d : Path)
  /-- The compiler could not be run. -/
  | run (e : RunError)
  /-- The compiler failed and printed nothing that could be recognised. -/
  | unrecognised (command : Text) (exitCode : Option Int) (tail : List Text)
  deriving DecidableEq, Repr

/-- How a compiler ended. -/
def endText : Option Int → Text
  | some code => "exit code ".toList ++ Text.ofInt code
  | none => "killed by signal".toList

/-- What is said about an error. -/
def Error.message : Error → Text
  | pattern _ => "invalid regex in trace.library_patterns".toList
  | outputDir d => "failed to create output directory ".toList ++ d
  | run e => e.message
  | unrecognised command exitCode tail =>
    '\x60' :: command ++ "\x60 failed (".toList ++ endText exitCode ++
      ") and printed no recognisable diagnostics:\n".toList ++ List.intercalate ['\n'] tail

/-- How many lines of output are quoted when nothing in it could be recognised. -/
def tailLength : Nat := 20

/-- The last lines of a text. -/
def tail (s : Text) : List Text :=
  let ls := Text.lines s
  ls.drop (ls.length - tailLength)

/-- What is asked of the surroundings to lint a file. -/
structure Host (m : Type → Type) where
  /-- The directory for temporary files. -/
  tempDir : Path
  /-- Takes a log record. -/
  log : LogRecord → m Unit
  /-- Makes a directory and those above it, and says whether it is there now. -/
  createDir : Path → m Bool
  /-- Runs a compiler. -/
  run : Command.Invocation → m (Except RunError CompilerOutput)

/-- What linting a file came to. -/
structure Outcome where
  /-- The command that was run. -/
  invocation : Command.Invocation
  /-- What it left behind. -/
  output : CompilerOutput
  /-- What was found in it. -/
  report : Extraction.Report
  deriving DecidableEq, Repr

/-- Whether the inspected file has errors. -/
def Outcome.hasErrors (o : Outcome) : Bool := o.report.diagnostics.any (·.isError)

/-- Extracts the diagnostics of a file from compiler output. -/
def examine (t : Trace.Classifier) (o : CompilerOutput) (inspected : Path) : Extraction.Run :=
  Extraction.run (.builtin t) (.ofFile o.workingDir inspected) o.text

/-- What an extraction from compiler output tells the log. -/
def examinationLog (r : Extraction.Run) (inspected : Path) : List LogRecord :=
  r.events.map (·.record) ++
    [⟨.debug, Text.ofNat r.report.diagnostics.length ++ " diagnostics for ".toList ++ inspected ++
      ", ".toList ++ Text.ofNat r.report.foreign.length ++ " for other files".toList⟩]

/-- Takes log records in their order. -/
def logAll {m : Type → Type} [Monad m] (log : LogRecord → m Unit) : List LogRecord → m Unit
  | [] => pure ()
  | r :: rs => do
    log r
    logAll log rs

/-- The trace classifier of the settings. -/
def classifier (read : Trace.PatternReader) (s : Settings) : Except Error Trace.Classifier :=
  (s.classifier? read).mapError .pattern

/-- Extracts the diagnostics of a file from output that is already there. -/
def lintOutput (read : Trace.PatternReader) (s : Settings) (o : CompilerOutput)
    (inspected : Path) : Except Error Extraction.Run := do
  return examine (← classifier read s) o inspected

/-- The verdict on a run of the compiler. -/
def conclude (i : Command.Invocation) (o : CompilerOutput) (r : Extraction.Report) :
    Except Error Outcome :=
  if !o.success && !r.recognisedAny then .error (.unrecognised i.line o.exitCode (tail o.text))
  else .ok ⟨i, o, r⟩

/-- Makes the directory that a command writes to, if it writes to one. -/
def prepare {m : Type → Type} [Monad m] (host : Host m) (i : Command.Invocation) :
    m (Except Error Unit) :=
  match i.outputDir with
  | none => pure (.ok ())
  | some d => do if ← host.createDir d then return .ok () else return .error (.outputDir d)

/-- Compiles a file and extracts its diagnostics. -/
def lintFile {m : Type → Type} [Monad m] (read : Trace.PatternReader) (host : Host m)
    (s : Settings) (inspected workingDir : Path) : m (Except Error Outcome) := do
  match classifier read s with
  | .error e => return .error e
  | .ok t =>
    let i := Command.invocation host.tempDir s inspected workingDir
    logAll host.log
      ((Command.invocationEvents host.tempDir s inspected workingDir).map (·.record))
    match ← prepare host i with
    | .error e => return .error e
    | .ok () =>
      match ← host.run i with
      | .error e => return .error (.run e)
      | .ok o =>
        let r := examine t o inspected
        logAll host.log (examinationLog r inspected)
        return conclude i o r.report

end Lint

end ElixirDiagnostics
