import ElixirDiagnostics.Diagnostic
import ElixirDiagnostics.Path.Normal

/-!
# The inspected file

The compiler prints paths relative to the directory it runs in, and the same file can be spelled in
many ways. A diagnostic belongs to the inspected file if both paths, resolved against that
directory, lead to the same place. The file system is not asked.
-/

namespace ElixirDiagnostics

/-- One inspected file, seen from the directory that the compiler runs in. -/
structure Inspection where
  /-- The directory that the compiler runs in. -/
  workingDir : Path
  /-- The inspected file, resolved against that directory. -/
  target : Path
  deriving DecidableEq, Repr

namespace Inspection

/-- Inspects a file, which may be given relative to the working directory. -/
def ofFile (workingDir file : Path) : Inspection := ⟨workingDir, Path.resolve workingDir file⟩

/-- A path that the compiler printed, resolved against its working directory. -/
def resolve (i : Inspection) (file : Path) : Path := Path.resolve i.workingDir file

/-- Whether a diagnostic belongs to the inspected file. -/
def accepts (i : Inspection) (d : Diagnostic) : Bool :=
  !d.file.isEmpty && i.resolve d.file == i.target

/-- The diagnostics that belong to the inspected file. -/
def keep (i : Inspection) (ds : List Diagnostic) : List Diagnostic := ds.filter i.accepts

end Inspection

end ElixirDiagnostics
