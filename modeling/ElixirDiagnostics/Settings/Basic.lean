import ElixirDiagnostics.Path.Basic
import ElixirDiagnostics.Text.Quoted
import ElixirDiagnostics.Trace.Frame

/-!
# Settings

What a project can settle about how its files are compiled and how stack traces are read. The
settings of a project stand in a file of a fixed name at its root. How that file and the patterns in
it are read is left to readers that are given from outside.
-/

namespace ElixirDiagnostics

/-- How stack traces are read. -/
structure TraceSettings where
  /-- Which frame a traced error is attributed to. -/
  anchor : Trace.Anchor := .bannerFile
  /-- Patterns for the paths of frames that count as library code. -/
  libraryPatterns : List Text := []
  deriving DecidableEq, Repr

/-- The settings of a project. -/
structure Settings where
  /-- Directories whose sources are all required before the file is compiled. -/
  includeDirs : List Path := []
  /-- Further code paths of the compiler. -/
  codePaths : List Path := []
  /-- Whether the whole project is compiled. -/
  mixProject : Bool := false
  /-- The compiler program, if it is not the usual one. -/
  executable : Option Text := none
  /-- Further arguments of the compiler. -/
  args : List Text := []
  /-- How stack traces are read. -/
  trace : TraceSettings := {}
  deriving DecidableEq, Repr

namespace Settings

/-- The name of a project's settings file. -/
def fileName : Path := ".elixirc-lint.toml".toList

/-- The name under which the settings speak of themselves in messages. -/
def title : Text := "elixirc-lint".toList

/-- What reads the settings in a text, unless it is not one of settings. -/
abbrev Reader := Text → Option Settings

/-- The trace classifier that the settings describe, unless one of the patterns cannot be read. -/
def classifier? (read : Trace.PatternReader) (s : Settings) : Except Text Trace.Classifier :=
  Trace.Classifier.withLibraryPatterns read { anchor := s.trace.anchor } s.trace.libraryPatterns

/-- The name of an anchor in a listing of the settings. -/
def anchorName : Trace.Anchor → Text
  | .bannerFile => "BannerFile".toList
  | .firstSourceFrame => "FirstSourceFrame".toList

/-- A truth value in a listing of the settings. -/
def boolName (b : Bool) : Text := if b then "true".toList else "false".toList

/-- An optional word in a listing of the settings. -/
def optionName : Option Text → Text
  | none => "None".toList
  | some s => "Some(".toList ++ Text.quoted .word s ++ [')']

/-- The settings on one line, for the log. -/
def listing (s : Settings) : Text :=
  "Settings \x7b include_dirs: ".toList ++ Text.quotedList .path s.includeDirs ++
    ", pa: ".toList ++ Text.quotedList .path s.codePaths ++
    ", mix_project: ".toList ++ boolName s.mixProject ++
    ", executable: ".toList ++ optionName s.executable ++
    ", args: ".toList ++ Text.quotedList .word s.args ++
    ", trace: TraceSettings \x7b anchor: ".toList ++ anchorName s.trace.anchor ++
    ", library_patterns: ".toList ++ Text.quotedList .word s.trace.libraryPatterns ++
    " \x7d \x7d".toList

end Settings

end ElixirDiagnostics
