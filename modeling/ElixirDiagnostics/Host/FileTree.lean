import ElixirDiagnostics.Path.Basic
import ElixirDiagnostics.Text.Utf8

/-!
# File trees

A tree of directories and files without symbolic links. A path is followed piece by piece, and every
piece, an empty one too, has to be followed from a directory that is there; so a path with `..` is
good only if what stands before it is a directory.
-/

namespace ElixirDiagnostics

namespace Host

/-- The names that lead from the root to a place. -/
abbrev Names := List Text

/-- What can be at a place. -/
inductive Node where
  /-- A directory. -/
  | directory
  /-- A file, with what it holds and whether it may be run. -/
  | file (content : List UInt8) (runnable : Bool)
  deriving DecidableEq, Repr

/-- A tree, as what is at each place. The directories above a place need no entry. -/
structure FileTree where
  /-- What is at each place; the first entry of a place counts. -/
  entries : List (Names × Node) := []
  deriving DecidableEq, Repr

namespace FileTree

/-- Whether there is a directory at a place. -/
def isDirectory (t : FileTree) (place : Names) : Bool :=
  match t.entries.lookup place with
  | some .directory => true
  | some (.file _ _) => false
  | none => place.isEmpty || t.entries.any fun (names, _) => place.isPrefixOf names

/-- What is at a place. -/
def node? (t : FileTree) (place : Names) : Option Node :=
  match t.entries.lookup place with
  | some n => some n
  | none => if t.isDirectory place then some .directory else none

/-- Follows the pieces of a path from a place. -/
def follow? (t : FileTree) (place : Names) : List Text → Option Names
  | [] => some place
  | p :: ps =>
    if !t.isDirectory place then none
    else if p.isEmpty || p == Path.current then t.follow? place ps
    else if p == Path.above then t.follow? place.dropLast ps
    else t.follow? (place ++ [p]) ps

/-- The place that an absolute path leads to; nothing need be there. -/
def locate? (t : FileTree) (p : Path) : Option Names :=
  if p.isEmpty then none else t.follow? [] (List.splitOn '/' p)

/-- What is at a path. -/
def get? (t : FileTree) (p : Path) : Option Node := (t.locate? p).bind t.node?

/-- Whether there is a file at a path. -/
def isFile (t : FileTree) (p : Path) : Bool :=
  match t.get? p with
  | some (.file _ _) => true
  | _ => false

/-- Whether there is a directory at a path. -/
def isDir (t : FileTree) (p : Path) : Bool := t.get? p == some .directory

/-- Whether there is a file at a path that may be run. -/
def isRunnable (t : FileTree) (p : Path) : Bool :=
  match t.get? p with
  | some (.file _ runnable) => runnable
  | _ => false

/-- What the file at a path holds. -/
def bytes? (t : FileTree) (p : Path) : Option (List UInt8) :=
  match t.get? p with
  | some (.file content _) => some content
  | _ => none

/-- The text of the file at a path, if it is text. -/
def text? (t : FileTree) (p : Path) : Option Text := (t.bytes? p).bind Text.Utf8.decode?

/-- Puts something at a place. -/
def put (t : FileTree) (place : Names) (n : Node) : FileTree := ⟨(place, n) :: t.entries⟩

/-- Writes a file in a directory that is there. A file that is there already keeps its right to be
run. -/
def write? (t : FileTree) (p : Path) (content : List UInt8) : Option FileTree := do
  let place ← t.locate? p
  if !t.isDirectory place.dropLast || place.isEmpty then none
  else match t.node? place with
    | some .directory => none
    | some (.file _ runnable) => some (t.put place (.file content runnable))
    | none => some (t.put place (.file content false))

/-- Makes the directories of a place, unless a file is in the way. -/
def makeNames? (t : FileTree) (place : Names) : List Text → Option FileTree
  | [] => some t
  | p :: ps =>
    let place :=
      if p.isEmpty || p == Path.current then place
      else if p == Path.above then place.dropLast
      else place ++ [p]
    match t.node? place with
    | some .directory => t.makeNames? place ps
    | some (.file _ _) => none
    | none => (t.put place .directory).makeNames? place ps

/-- Makes a directory and those above it. -/
def makeDir? (t : FileTree) (p : Path) : Option FileTree :=
  if p.isEmpty then none else t.makeNames? [] (List.splitOn '/' p)

/-- Makes a file and the directories above it. -/
def makeFile? (t : FileTree) (p : Path) (content : List UInt8) (runnable : Bool) :
    Option FileTree := do
  let t ← t.makeDir? ((Path.parent? p).getD ['/'])
  let place ← t.locate? p
  return t.put place (.file content runnable)

end FileTree

end Host

end ElixirDiagnostics
