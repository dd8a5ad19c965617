import ElixirDiagnostics.Command.Options
import ElixirDiagnostics.Lint
import ElixirDiagnostics.Settings.Lookup

/-!
# Sessions of the command line

One call of the program, from its arguments to its exit code and what it prints. A path on the
command line is seen from the directory of the caller. The exit code says whether the inspected file
has errors. How the command line, settings and patterns are read is left to readers that are given
from outside. What a session asks of its surroundings is left open too, so that it can be run on
files in memory as well as on real ones.
-/

namespace ElixirDiagnostics

namespace CommandLine

/-- What a session ends with. -/
structure Ending where
  /-- The exit code. -/
  code : Nat
  /-- What is printed. -/
  out : Text := []
  /-- What is printed about failures. -/
  err : Text := []
  deriving DecidableEq, Repr

/-- Why a session has no report. -/
inductive Failure where
  /-- No file is given. -/
  | noFile
  /-- There are no settings. -/
  | settings (e : Settings.LoadError)
  /-- What stands on the input is no text. -/
  | input
  /-- The file could not be linted. -/
  | lint (e : Lint.Error)
  deriving DecidableEq, Repr

/-- The messages of a failure, the outermost first. -/
def Failure.messages : Failure → List Text
  | noFile => ["no source file given".toList]
  | settings e => e.messages
  | input => ["failed to read compiler output from stdin".toList]
  | lint e => [e.message]

/-- The messages below the outermost one, each on a line of its own. -/
def causes : List Text → Text
  | [] => []
  | ms => "\n\nCaused by:".toList ++ ms.flatMap fun m => "\n    ".toList ++ m

/-- The end of a session that failed. -/
def Ending.ofFailure (f : Failure) : Ending where
  code := 1
  err := "Error: ".toList ++ f.messages.headD [] ++ causes (f.messages.drop 1) ++ ['\n']

/-- The end of a session with a report: the exit code tells whether there are errors in it. -/
def Ending.ofReport (format : Report.Format) (colour : Bool) (ds : List Diagnostic) : Ending where
  code := if ds.any (·.isError) then 1 else 0
  out :=
    let rendered := Report.render format colour ds
    if rendered.isEmpty then [] else rendered ++ ['\n']

/-- The lines about the version, with the parts that are built in. -/
def versionLines : List String :=
  [ "elixirc-lint 0.1.0",
    "[\"uses_serde\"]" ]

/-- Lines with their line ends. -/
def textOfLines (ls : List String) : Text := ls.flatMap fun l => l.toList ++ ['\n']

/-- How the texts that a session takes in are read. -/
structure Readers where
  /-- Reads the words of the command line; what cannot be read ends the session. -/
  options : List Text → Except Ending Command.Options
  /-- Reads settings. -/
  settings : Settings.Reader
  /-- Reads patterns for library code. -/
  pattern : Trace.PatternReader

/-- What a session asks of its surroundings. -/
structure Host (m : Type → Type) where
  /-- The directory of the caller. -/
  dir : Path
  /-- Whether the report goes to a terminal. -/
  terminal : Bool
  /-- The search for settings. -/
  files : Settings.Files m
  /-- The runs of the compiler. -/
  compiler : Lint.Host m
  /-- The text on the input, if it is text. -/
  input? : m (Option Text)

/-- The directory that the compiler runs in: the one that is asked for, else the root of the project
if a project is compiled, else the directory of the caller. -/
def workingDir {m : Type → Type} [Monad m] (host : Host m) (o : Command.Options) (s : Settings)
    (file : Path) : m Path := do
  match o.cwd with
  | some d => return Path.join host.dir d
  | none =>
    if s.mixProject then
      return (← Settings.projectRoot host.files.isFile file).getD host.dir
    else return host.dir

/-- The output of a compiler that ran before. -/
def pipedOutput (text : Text) (workingDir : Path) : CompilerOutput := ⟨text, none, true, workingDir⟩

/-- Finds the diagnostics of a file with given settings. -/
def inspect {m : Type → Type} [Monad m] (read : Trace.PatternReader) (host : Host m)
    (o : Command.Options) (s : Settings) (file : Path) :
    m (Except Failure (List Diagnostic)) := do
  let dir ← workingDir host o s file
  if o.stdin then
    match ← host.input? with
    | none => return .error .input
    | some text =>
      match Lint.lintOutput read s (pipedOutput text dir) file with
      | .error e => return .error (.lint e)
      | .ok run => return .ok run.report.diagnostics
  else
    match ← Lint.lintFile read host.compiler s file dir with
    | .error e => return .error (.lint e)
    | .ok outcome => return .ok outcome.report.diagnostics

/-- Finds the settings for a file and then its diagnostics. -/
def lint {m : Type → Type} [Monad m] (readers : Readers) (host : Host m) (o : Command.Options) :
    m (Except Failure (List Diagnostic)) := do
  match o.file with
  | none => return .error .noFile
  | some f =>
    let file := Path.join host.dir f
    let start := (Path.parent? file).getD host.dir
    match ← Settings.resolve readers.settings host.files o.config start with
    | .error e => return .error (.settings e)
    | .ok s => inspect readers.pattern host o (o.override s) file

/-- One session. -/
def run {m : Type → Type} [Monad m] (readers : Readers) (host : Host m) (args : List Text) :
    m Ending := do
  match readers.options args with
  | .error e => return e
  | .ok o =>
    if o.version then return ⟨0, textOfLines versionLines, []⟩
    match ← lint readers host o with
    | .error e => return .ofFailure e
    | .ok ds => return .ofReport o.reportFormat (host.terminal && !o.noColour) ds

end CommandLine

end ElixirDiagnostics
