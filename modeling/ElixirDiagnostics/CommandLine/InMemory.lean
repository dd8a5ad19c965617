import ElixirDiagnostics.CommandLine.Session
import ElixirDiagnostics.Host.Machine

/-!
# Sessions on a machine in memory

Everything that a session asks of its surroundings, answered by a machine. What is logged is kept.
-/

namespace ElixirDiagnostics

namespace CommandLine

/-- A machine and what was logged on it. -/
structure Memory where
  /-- The machine. -/
  machine : Host.Machine
  /-- The log, the newest record last. -/
  log : List LogRecord := []
  deriving DecidableEq, Repr

namespace Memory

/-- Adds a record to the log. -/
def record (r : LogRecord) : StateM Memory Unit := modify fun m => { m with log := m.log ++ [r] }

/-- The files of the machine. -/
def files : Settings.Files (StateM Memory) where
  isFile p := do
    let m := (← get).machine
    return m.tree.isFile (m.pathOf p)
  read? p := do
    let m := (← get).machine
    return m.tree.text? (m.pathOf p)
  log := record

/-- Makes a directory on the machine. -/
def createDir (p : Path) : StateM Memory Bool := do
  let s ← get
  match s.machine.tree.makeDir? (s.machine.pathOf p) with
  | some t =>
    set { s with machine.tree := t }
    return true
  | none => return false

/-- The programs of the machine. -/
def programs : Runner.Programs (StateM Memory) where
  log := record
  which? program := return (← get).machine.which? program
  start? program i := do
    let s ← get
    match s.machine.start? program i.args i.workingDir with
    | none => return none
    | some (ended, tree) =>
      set { s with machine.tree := tree }
      return some ended

/-- Runs compilers on the machine. -/
def compiler : Lint.Host (StateM Memory) where
  tempDir := "/tmp".toList
  log := record
  createDir := createDir
  run := Runner.run programs

/-- The surroundings of a session on a machine whose input holds some bytes. -/
def host (dir : Path) (input : List UInt8) : CommandLine.Host (StateM Memory) where
  dir := dir
  terminal := false
  files := files
  compiler := compiler
  input? := pure (Text.Utf8.decode? input)

end Memory

end CommandLine

end ElixirDiagnostics
