import ElixirDiagnostics.Runner
import ElixirDiagnostics.Shell.Run

/-!
# Machines

A machine is a file tree together with the directory that a program is in and the directories in
which it looks up other programs. It can run a script of the shell language or one of the small
programs of the system, with an empty input.
-/

namespace ElixirDiagnostics

namespace Host

/-- The directories that every machine has. -/
def systemDirs : List Path :=
  ["/bin", "/dev", "/etc", "/home", "/lib", "/opt", "/proc", "/root", "/run", "/sbin", "/srv",
    "/sys", "/tmp", "/usr/bin", "/usr/lib", "/usr/local/bin", "/usr/sbin", "/usr/share", "/var/tmp"].map
    String.toList

/-- The files of every machine that cannot be run, with what they hold. -/
def systemFiles : List (Path × Text) :=
  [("/dev/null".toList, []), ("/etc/passwd".toList, "root:x:0:0:root:/root:/bin/sh\n".toList)]

/-- The programs that every machine has. -/
def systemPrograms : List Text :=
  ["sh", "dash", "env", "true", "false", "echo", "printf", "test", "[", "pwd", "cat", "sleep",
    "seq", "head", "tail", "basename", "dirname", "mkdir", "touch"].map String.toList

/-- Adds a file with the directories above it, unless something is in the way. -/
def FileTree.withFile (t : FileTree) (p : Path) (content : List UInt8) (runnable : Bool) :
    FileTree :=
  (t.makeFile? p content runnable).getD t

/-- Adds a directory with those above it, unless something is in the way. -/
def FileTree.withDir (t : FileTree) (p : Path) : FileTree := (t.makeDir? p).getD t

/-- The file tree that every machine begins with. -/
def systemTree : FileTree :=
  let t := systemDirs.foldl FileTree.withDir {}
  let t := systemFiles.foldl (fun t (p, s) => t.withFile p (Text.Utf8.encode s) false) t
  systemPrograms.foldl (fun t n =>
    (t.withFile ("/usr/bin/".toList ++ n) [] true).withFile ("/bin/".toList ++ n) [] true) t

/-- A machine. -/
structure Machine where
  /-- Its files. -/
  tree : FileTree
  /-- The directory that the running program is in. -/
  dir : Path
  /-- The directories in which programs are looked up. -/
  searchPath : List Path := ["/usr/bin".toList, "/bin".toList]
  deriving DecidableEq, Repr

namespace Machine

/-- A path seen from the directory that the running program is in. -/
def pathOf (m : Machine) (p : Path) : Path := if p.isEmpty then p else Path.join m.dir p

/-- The file of a program: a name with a slash in it is a path, any other is looked up. -/
def which? (m : Machine) (program : Text) : Option Path :=
  if program.isEmpty then none
  else if program.contains '/' then
    let p := m.pathOf program
    if m.tree.isRunnable p then some p else none
  else Shell.search? m.tree m.searchPath program

/-- How many steps a compiler may take. -/
def steps : Nat := 1000000

/-- The exit code of a program that is over. -/
def exitCode (st : Shell.State) : Option Int :=
  match st.control with
  | .killed _ => none
  | _ => some st.status

/-- Runs a program in a directory, with exported variables; nothing if it cannot be started. Gives
what it left behind and the files afterwards. -/
def start? (m : Machine) (program : Path) (args : List Text) (workingDir : Path) :
    Option (Runner.Ended × FileTree) := do
  let place ← m.tree.locate? (m.pathOf workingDir)
  if !m.tree.isDirectory place then none
  let st ← Shell.program steps program args
    { tree := m.tree
      dir := '/' :: List.intercalate ['/'] place
      name := program
      arguments := args
      values := [("PATH".toList, List.intercalate [':'] m.searchPath),
        ("TMPDIR".toList, "/tmp".toList)]
      exported := ["PATH".toList, "TMPDIR".toList] }
  return (⟨st.recorded 1, st.recorded 2, exitCode st⟩, st.tree)

end Machine

end Host

end ElixirDiagnostics
