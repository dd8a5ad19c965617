import ElixirDiagnostics.Diagnostic
import ElixirDiagnostics.Trace.Frame

/-!
# Shapes of compiler output

The compiler prints a diagnostic in one of several shapes. A shape looks at the lines of the output
from one position on and says what it sees there: a sighting, which names a file, maybe a line, a
message, and the lines that it takes up. The shapes of this library never look behind the position,
so they are given as readers of the lines that follow it.
-/

namespace ElixirDiagnostics

/-- The kinds of diagnostics, by the shape that the compiler gives them. -/
inductive Tag where
  /-- A compile error whose error line repeats the file of the banner above it. -/
  | compileErrorInline
  /-- A compile error that is located by a stack trace. -/
  | compileErrorTraced
  /-- A compile error on a line of its own. -/
  | compileErrorBare
  /-- A warning on a line of its own. -/
  | warningInline
  /-- A warning with its location some lines below. -/
  | warningBlock
  /-- An error with its location some lines below. -/
  | compileErrorBlock
  deriving DecidableEq, Repr

namespace Tag

/-- Every tag. -/
def all : List Tag :=
  [compileErrorInline, compileErrorTraced, compileErrorBare, warningInline, warningBlock,
   compileErrorBlock]

/-- The name of a tag. -/
def word : Tag → Text
  | compileErrorInline => "compile-error-inline".toList
  | compileErrorTraced => "compile-error-traced".toList
  | compileErrorBare => "compile-error-bare".toList
  | warningInline => "warning-inline".toList
  | warningBlock => "warning-block".toList
  | compileErrorBlock => "compile-error-block".toList

/-- The tag with a given name. -/
def ofWord? (s : Text) : Option Tag := all.find? (·.word = s)

theorem mem_all (t : Tag) : t ∈ all := by cases t <;> decide

/-- How serious a diagnostic of a kind is. -/
def severity : Tag → Severity
  | warningInline | warningBlock => .warning
  | compileErrorInline | compileErrorTraced | compileErrorBare | compileErrorBlock => .error

end Tag

/-- What a shape read from a place of the output. -/
structure Sighting where
  /-- The shape's kind. -/
  tag : Tag
  /-- The file, as it is printed. -/
  file : Text
  /-- The line number, if a usable one is printed. -/
  line? : Option Nat
  /-- The message, as it is printed. -/
  message : Text
  /-- The first output line that belongs to the sighting. -/
  start : Nat
  /-- The first output line that no longer does. -/
  stop : Nat
  deriving DecidableEq, Repr

namespace Sighting

/-- The same sighting, `n` lines further down. -/
def shift (n : Nat) (m : Sighting) : Sighting := { m with start := n + m.start, stop := n + m.stop }

/-- The diagnostic that a sighting stands for. Without a line, and with line zero, it is put on the
first line. -/
def diagnostic (m : Sighting) : Diagnostic where
  file := m.file
  line := match m.line? with
    | some (n + 1) => n + 1
    | _ => Diagnostic.defaultLine
  severity := m.tag.severity
  message := Text.trim m.message

/-- Line numbers count from one. -/
theorem one_le_diagnostic_line (m : Sighting) : 1 ≤ m.diagnostic.line := by
  unfold diagnostic Diagnostic.defaultLine
  dsimp only
  split <;> omega

end Sighting

/-- What a shape sees at the first of the given lines. -/
structure Evidence where
  /-- The file, as it is printed. -/
  file : Text
  /-- The line number, if a usable one is printed. -/
  line? : Option Nat
  /-- The message, as it is printed. -/
  message : Text
  /-- How many lines it takes up. -/
  length : Nat
  deriving DecidableEq, Repr

/-- One recognised shape of output. -/
structure Shape where
  /-- The kind of diagnostics that have this shape. -/
  tag : Tag
  /-- What the shape sees at a position of the output. -/
  sightAt : Trace.Classifier → List Text → Nat → Option Sighting

/-- A shape that reads the lines from the position on, and nothing before them. -/
def Shape.ofReader (tag : Tag) (read : Trace.Classifier → List Text → Option Evidence) : Shape where
  tag := tag
  sightAt := fun t lines i => (read t (lines.drop i)).map fun e =>
    ⟨tag, e.file, e.line?, e.message, i, i + e.length⟩

end ElixirDiagnostics
