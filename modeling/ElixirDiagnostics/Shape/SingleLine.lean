import ElixirDiagnostics.Shape.Banner

/-!
# Diagnostics on a line of their own

A warning may stand on one line, `file:line: warning: message`, and so may an error,
`file:line: message`, with or without the kind of the error before it. A bare error may lack its
line number only if it has a kind and its file is an Elixir source.
-/

namespace ElixirDiagnostics

namespace Shape

/-- The endings of Elixir source files and templates. -/
def elixirExtensions : List Text :=
  [".ex".toList, ".exs".toList, ".eex".toList, ".leex".toList, ".heex".toList]

/-- A file that is an Elixir source or template, by its name. -/
def isElixirFile (file : Text) : Bool := elixirExtensions.any (·.isSuffixOf file)

/-- The file, line digits and message of a bare error, after its kind. -/
def bareParts? (s : Text) : Option (Text × Option Text × Text) :=
  (Location.fileReadings Location.isFileChar s).findSome? fun (file, r) =>
    match Location.lineDigits? r with
    | some (digits, r) => do
      let r ← Text.after? ": ".toList (Location.skipColumn r)
      return (file, some digits, ← Location.message? r)
    | none => do
      let r ← Text.after? ": ".toList r
      return (file, none, ← Location.message? r)

/-- Reads an error that stands on its own line. -/
def readBare : List Text → Option Evidence
  | line :: _ => do
    let kind := errorKind? line
    let (file, digits, message) ← bareParts? ((kind.map (·.2)).getD line)
    if "warning:".toList.isPrefixOf message then none
    else if digits.isNone && (kind.isNone || !isElixirFile file) then none
    else some ⟨file, digits.bind Text.number?, message, 1⟩
  | [] => none

/-- The file, line digits and message of a warning line. -/
def warningParts? (s : Text) : Option (Text × Text × Text) :=
  (Location.fileReadings Location.isFileChar s).findSome? fun (file, r) => do
    let (digits, r) ← Location.lineDigits? r
    let r ← Text.after? ": warning: ".toList (Location.skipColumn r)
    return (file, digits, ← Location.message? r)

/-- Reads a warning that stands on its own line. -/
def readWarning : List Text → Option Evidence
  | line :: _ => do
    let (file, digits, message) ← warningParts? line
    return ⟨file, Text.number? digits, message, 1⟩
  | [] => none

/-- Errors on a line of their own. -/
def compileErrorBare : Shape := ofReader .compileErrorBare fun _ => readBare

/-- Warnings on a line of their own. -/
def warningInline : Shape := ofReader .warningInline fun _ => readWarning

end Shape

end ElixirDiagnostics
