import ElixirDiagnostics.CommandLine.InMemory
import ElixirDiagnostics.CommandLine.Standard

/-!
# The program

Sessions of the command line on real files. A compiler is run in memory: it gets a machine that
holds the script by which it is called and the directory that it is called in, and what it writes to
other files than its streams is not kept. A compiler that is no script cannot be started.
-/

namespace ElixirDiagnostics

namespace Program

/-- The text of an argument or a path. -/
def text (s : String) : Text := s.toList

/-- A path as the system takes it. -/
def native (p : Path) : String := String.ofList p

/-- What an action gives, if it does not fail. -/
def attempt? {α : Type} (action : IO α) : IO (Option α) := do
  try return some (← action) catch _ => return none

/-- The bytes of a file. -/
def bytes? (p : Path) : IO (Option (List UInt8)) := do
  return (← attempt? (IO.FS.readBinFile (native p))).map ByteArray.toList

/-- All bytes that a stream still has. -/
partial def readAll (stream : IO.FS.Stream) (read : ByteArray) : IO ByteArray := do
  let more ← stream.read 65536
  if more.isEmpty then return read else readAll stream (read ++ more)

/-- Adds a script to a machine, if there is one. -/
def withScript (m : Host.Machine) (p : Path) : IO Host.Machine := do
  if m.tree.isFile p then return m
  match ← bytes? p with
  | some content =>
    if (Shell.interpreter? content).isSome then
      return { m with tree := m.tree.withFile p content true }
    else return m
  | none => return m

/-- A machine on which a compiler can be run. -/
def machine (dir : Path) (i : Command.Invocation) : IO Host.Machine := do
  let path := ((← IO.getEnv "PATH").map text).getD "/usr/bin:/bin".toList
  let m : Host.Machine := ⟨Host.systemTree.withDir dir, dir, List.splitOn ':' path⟩
  let places := if i.program.contains '/' then [m.pathOf i.program]
    else m.searchPath.map (Path.join · i.program)
  let there := (← IO.currentDir) / native i.workingDir
  let m := if ← there.isDir then { m with tree := m.tree.withDir (m.pathOf i.workingDir) } else m
  places.foldlM withScript m

/-- The search for settings among real files. -/
def files : Settings.Files IO where
  isFile p := do
    let place := (← IO.currentDir) / native p
    return (← place.pathExists) && !(← place.isDir)
  read? p := do return (← bytes? p).bind Text.Utf8.decode?
  log _ := pure ()

/-- The directory for temporary files. -/
def tempDir : IO Path := do return ((← IO.getEnv "TMPDIR").map text).getD "/tmp".toList

/-- Runs of compilers. -/
def compiler (dir temp : Path) : Lint.Host IO where
  tempDir := temp
  log _ := pure ()
  createDir p := do return (← attempt? (IO.FS.createDirAll (native p))).isSome
  run i := do
    let memory : CommandLine.Memory := { machine := ← machine dir i }
    return ((Runner.run CommandLine.Memory.programs i).run memory).1

/-- The surroundings of a session. -/
def host : IO (CommandLine.Host IO) := do
  let dir := text (← IO.currentDir).toString
  return {
    dir := dir
    terminal := ← (← IO.getStdout).isTty
    files := files
    compiler := compiler dir (← tempDir)
    input? := do return Text.Utf8.decode? (← readAll (← IO.getStdin) .empty).toList }

end Program

end ElixirDiagnostics

open ElixirDiagnostics in
/-- Runs one session. -/
def main (args : List String) : IO UInt32 := do
  let e ← CommandLine.run .standard (← Program.host) (args.map Program.text)
  IO.print (String.ofList e.out)
  IO.eprint (String.ofList e.err)
  return UInt32.ofNat e.code
