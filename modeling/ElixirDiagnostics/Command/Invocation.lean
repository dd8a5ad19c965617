import ElixirDiagnostics.Command.Options
import ElixirDiagnostics.Log
import ElixirDiagnostics.Settings.Basic

/-!
# Compiler commands

A compiler command is drafted step by step. A draft for a single file takes every step; one for a
whole project knows its own directories, sources and files, so it takes none of the steps that name
them and says so in the log. What a draft makes of the settings is the command that a run of the
linter uses.
-/

namespace ElixirDiagnostics

namespace Command

/-- Which compiler is run. -/
inductive Compiler where
  /-- The compiler of single files. -/
  | elixirc
  /-- The build tool, which compiles a whole project. -/
  | mix
  deriving DecidableEq, Repr

namespace Compiler

/-- The program that is run unless another one is named. -/
def program : Compiler → Text
  | elixirc => "elixirc".toList
  | mix => "mix".toList

/-- The arguments that every command begins with. -/
def firstArgs : Compiler → List Text
  | elixirc => ["--warnings-as-errors".toList, "--ignore-module-conflict".toList]
  | mix => ["compile".toList]

end Compiler

/-- What it takes to run a compiler once. -/
structure Invocation where
  /-- The program. -/
  program : Text
  /-- Its arguments. -/
  args : List Text
  /-- The directory that it runs in. -/
  workingDir : Path
  /-- Where it writes what it compiles; the directory must exist before. -/
  outputDir : Option Path
  deriving DecidableEq, Repr

/-- The command on one line, for messages. -/
def Invocation.line (i : Invocation) : Text := List.intercalate [' '] (i.program :: i.args)

/-- A command in the making. -/
structure Draft where
  /-- The compiler. -/
  compiler : Compiler
  /-- The program, if another one is named. -/
  program : Option Text
  /-- The arguments so far. -/
  args : List Text
  /-- Where it writes what it compiles. -/
  outputDir : Option Path
  deriving DecidableEq, Repr

/-- One step in the making of a command. -/
inductive Step where
  /-- Name another program, or take the usual one again. -/
  | program (p : Option Text)
  /-- Write what is compiled into a directory. -/
  | outputDir (d : Path)
  /-- Add code paths. -/
  | codePaths (ps : List Path)
  /-- Require all sources below some directories. -/
  | includeDirs (ds : List Path)
  /-- Add arguments as they are. -/
  | extraArgs (as : List Text)
  /-- Compile a file. -/
  | file (f : Path)
  deriving DecidableEq, Repr

/-- The sources below a directory. Backslashes separate names too. -/
def sourcesBelow (dir : Path) : Text :=
  let d := dir.map fun c => if c = '\\' then '/' else c
  (d.reverse.dropWhile (· == '/')).reverse ++ "/**/*.ex".toList

/-- The arguments that a step adds for the compiler of single files. -/
def Step.args : Step → List Text
  | program _ => []
  | outputDir d => ["-o".toList, d]
  | codePaths ps => ps.flatMap fun p => ["-pa".toList, p]
  | includeDirs ds => ds.flatMap fun d => ["-r".toList, sourcesBelow d]
  | extraArgs as => as
  | file f => [f]

namespace Draft

/-- A new command. -/
def new (c : Compiler) : Draft := ⟨c, none, c.firstArgs, none⟩

/-- Takes a step. -/
def take (d : Draft) (s : Step) : Draft :=
  match d.compiler, s with
  | _, .program p => { d with program := p }
  | _, .extraArgs as => { d with args := d.args ++ as }
  | .mix, _ => d
  | .elixirc, .outputDir dir => { d with args := d.args ++ s.args, outputDir := some dir }
  | .elixirc, s => { d with args := d.args ++ s.args }

/-- The finished command. -/
def finish (d : Draft) (workingDir : Path) : Invocation :=
  ⟨d.program.getD d.compiler.program, d.args, workingDir, d.outputDir⟩

end Draft

/-- What the making of a command tells the log. -/
inductive Event where
  /-- A project has its own output directory. -/
  | outputDirUnused (d : Path)
  /-- A project has its own code paths. -/
  | codePathsUnused (ps : List Path)
  /-- A project has its own sources. -/
  | includeDirsUnused (ds : List Path)
  /-- The command is finished. -/
  | finished (i : Invocation)
  deriving DecidableEq, Repr

/-- The log record of an event. -/
def Event.record : Event → LogRecord
  | outputDirUnused d =>
    ⟨.debug, "mix compile manages its own build directory; ignoring ".toList ++ d⟩
  | codePathsUnused ps =>
    ⟨.debug, "pa is not used with mix compile: ".toList ++ Text.quotedList .path ps⟩
  | includeDirsUnused ds =>
    ⟨.debug, "include_dirs is not used with mix compile: ".toList ++ Text.quotedList .path ds⟩
  | finished i =>
    ⟨.debug, "compiler command: ".toList ++ i.line ++ " (in ".toList ++ i.workingDir ++ [')']⟩

/-- What a draft says about a step that it does not take. -/
def Step.unused? (c : Compiler) (s : Step) : Option Event :=
  match c, s with
  | .mix, .outputDir d => some (.outputDirUnused d)
  | .mix, .codePaths ps => if ps.isEmpty then none else some (.codePathsUnused ps)
  | .mix, .includeDirs ds => if ds.isEmpty then none else some (.includeDirsUnused ds)
  | _, _ => none

/-- Where compiled modules are thrown away, below the directory for temporary files. -/
def defaultOutputDir (temp : Path) : Path := Path.join temp "elixirc-lint".toList

/-- The compiler that the settings choose. -/
def compilerOf (s : Settings) : Compiler := if s.mixProject then .mix else .elixirc

/-- The steps that the settings take to compile a file. -/
def stepsOf (temp : Path) (s : Settings) (file : Path) : List Step :=
  [.program s.executable, .outputDir (defaultOutputDir temp), .codePaths s.codePaths,
   .includeDirs s.includeDirs, .extraArgs s.args, .file file]

/-- The command that compiles a file with the given settings. -/
def invocation (temp : Path) (s : Settings) (file workingDir : Path) : Invocation :=
  ((stepsOf temp s file).foldl Draft.take (.new (compilerOf s))).finish workingDir

/-- What the making of that command tells the log. -/
def invocationEvents (temp : Path) (s : Settings) (file workingDir : Path) : List Event :=
  (stepsOf temp s file).filterMap (Step.unused? (compilerOf s)) ++
    [.finished (invocation temp s file workingDir)]

/-- The settings after what a command line asks for: its lists come after those of the settings,
and what it says otherwise replaces them. -/
def Options.override (o : Options) (s : Settings) : Settings where
  includeDirs := s.includeDirs ++ o.includeDirs
  codePaths := s.codePaths ++ o.codePaths
  mixProject := s.mixProject || o.mix
  executable := o.executable.or s.executable
  args := s.args ++ o.extra
  trace := { s.trace with anchor := o.anchor.getD s.trace.anchor }

end Command

end ElixirDiagnostics
