import ElixirDiagnostics.Lint
import ElixirDiagnostics.Text.Utf8

/-!
# Running a compiler

A compiler is run as a program. The program is looked up and started with an empty input, and once
it has ended, what it printed to its two streams is put together as text. How programs are looked up
and started is left open.
-/

namespace ElixirDiagnostics

namespace Runner

/-- What a program left behind when it ended. -/
structure Ended where
  /-- What it printed. -/
  out : List UInt8
  /-- What it printed about failures. -/
  err : List UInt8
  /-- Its exit code, unless it was killed by a signal. -/
  exitCode : Option Int
  deriving DecidableEq, Repr

/-- What is asked of the surroundings to run a program. -/
structure Programs (m : Type → Type) where
  /-- Takes a log record. -/
  log : LogRecord → m Unit
  /-- The file of a program. -/
  which? : Text → m (Option Path)
  /-- Runs a program as an invocation says, if it can be started. -/
  start? : Path → Command.Invocation → m (Option Ended)

/-- The output of a compiler that ended. -/
def Ended.output (e : Ended) (workingDir : Path) : CompilerOutput where
  text := CompilerOutput.merge (Text.Utf8.decodeLossy e.out) (Text.Utf8.decodeLossy e.err)
  exitCode := e.exitCode
  success := e.exitCode == some 0
  workingDir := workingDir

/-- What a run of a compiler tells the log. -/
inductive Event where
  /-- The compiler was found and is run. -/
  | running (i : Command.Invocation) (program : Path)
  /-- The compiler is over. -/
  | exited (o : CompilerOutput)
  deriving DecidableEq, Repr

/-- An exit code in the log. -/
def exitText : Option Int → Text
  | some n => "Some(".toList ++ Text.ofInt n ++ [')']
  | none => "None".toList

/-- The log record of an event. -/
def Event.record : Event → LogRecord
  | running i program =>
    ⟨.debug, "running ".toList ++ i.line ++ " (resolved to ".toList ++ program ++ ") in ".toList ++
      i.workingDir⟩
  | exited o =>
    ⟨.debug, "compiler exited with ".toList ++ exitText o.exitCode ++ ", ".toList ++
      Text.ofNat (Text.Utf8.encode o.text).length ++ " bytes of output".toList⟩

/-- Runs a compiler. -/
def run {m : Type → Type} [Monad m] (programs : Programs m) (i : Command.Invocation) :
    m (Except RunError CompilerOutput) := do
  match ← programs.which? i.program with
  | none => return .error (.notFound i.program)
  | some program =>
    programs.log (Event.running i program).record
    match ← programs.start? program i with
    | none => return .error (.notStarted i.line)
    | some e =>
      let o := e.output i.workingDir
      programs.log (Event.exited o).record
      return .ok o

end Runner

end ElixirDiagnostics
