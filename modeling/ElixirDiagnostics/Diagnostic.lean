import ElixirDiagnostics.Text.Decimal

/-!
# Diagnostics

What the compiler has to say about one line of one file. The file is kept as the compiler printed
it; whether two spellings mean the same file is a question for paths.
-/

namespace ElixirDiagnostics

/-- How serious a diagnostic is. -/
inductive Severity where
  /-- The file does not compile. -/
  | error
  /-- The file compiles, but something in it is suspicious. -/
  | warning
  deriving DecidableEq, Repr

namespace Severity

/-- The word that stands for a severity in reports. -/
def word : Severity → Text
  | error => "error".toList
  | warning => "warning".toList

/-- The severity that a word stands for. -/
def ofWord? (s : Text) : Option Severity :=
  if s = error.word then some error else if s = warning.word then some warning else none

theorem ofWord?_word (s : Severity) : ofWord? s.word = some s := by
  cases s <;> decide

end Severity

/-- A diagnostic, ready to be shown beside its source line. -/
structure Diagnostic where
  /-- The file, as the compiler printed it. -/
  file : Text
  /-- The line, counted from one. -/
  line : Nat
  /-- How serious it is. -/
  severity : Severity
  /-- What the compiler says. -/
  message : Text
  deriving DecidableEq, Repr

namespace Diagnostic

/-- The line of a diagnostic for which the compiler reports none. -/
def defaultLine : Nat := 1

/-- Whether the diagnostic is an error. -/
def isError (d : Diagnostic) : Bool := d.severity == .error

/-- The place of a diagnostic, `file:line`. -/
def place (d : Diagnostic) : Text := d.file ++ ':' :: Text.ofNat d.line

/-- A diagnostic on one line, `file:line: severity: message`. -/
def display (d : Diagnostic) : Text :=
  d.place ++ ": ".toList ++ d.severity.word ++ ": ".toList ++ d.message

end Diagnostic

end ElixirDiagnostics
