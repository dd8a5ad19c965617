import ElixirDiagnostics.Diagnostic
import ElixirDiagnostics.Json.Reader
import ElixirDiagnostics.Text.Colour

/-!
# Reports

A report of diagnostics is written as text, one diagnostic a line, or as a JSON array. In colour the
place of a diagnostic is underlined and its severity is bold, red for errors and yellow for
warnings; the words are the same. A JSON report can be read back; reading also takes a diagnostic as
an array of its four values and a severity as an object that names it, and passes over members that
it does not know.
-/

namespace ElixirDiagnostics

namespace Report

/-- How a report is written. -/
inductive Format where
  /-- One diagnostic a line. -/
  | text
  /-- A JSON array of objects. -/
  | json
  deriving DecidableEq, Repr

/-- The name of a format. -/
def Format.word : Format → Text
  | text => "text".toList
  | json => "json".toList

/-- The format with a given name. -/
def Format.ofWord? (s : Text) : Option Format := [text, json].find? (·.word = s)

/-- How a severity is shown in colour. -/
def severityStyle : Severity → Text.Style
  | .error => .boldRed
  | .warning => .boldYellow

/-- A diagnostic on one line. -/
def line (colour : Bool) (d : Diagnostic) : Text :=
  if colour then
    Text.paint .underline d.place ++ ": ".toList ++
      Text.paint (severityStyle d.severity) d.severity.word ++ ": ".toList ++ d.message
  else d.display

/-- A report as text. The last line has no line end. -/
def renderText (colour : Bool) (ds : List Diagnostic) : Text :=
  List.intercalate ['\n'] (ds.map (line colour))

/-- A diagnostic as a JSON object. -/
def toJson (d : Diagnostic) : Json :=
  .object [("file".toList, .string d.file), ("line".toList, .integer d.line),
    ("severity".toList, .string d.severity.word), ("message".toList, .string d.message)]

/-- A report as JSON. -/
def renderJson (ds : List Diagnostic) : Text := Json.pretty 0 (.array (ds.map toJson))

/-- A report in a format; only text has colour. -/
def render (format : Format) (colour : Bool) (ds : List Diagnostic) : Text :=
  match format with
  | .text => renderText colour ds
  | .json => renderJson ds

/-- The text of a JSON string. -/
def textOf? : Json → Option Text
  | .string s => some s
  | _ => none

/-- The line that a JSON number stands for: a whole number that fits into 64 bits. -/
def lineOf? : Json → Option Nat
  | .integer (.ofNat n) => if n < UInt64.size then some n else none
  | _ => none

/-- The severity that a JSON value names. -/
def severityOf? : Json → Option Severity
  | .string s => Severity.ofWord? s
  | .object [(s, .null)] => Severity.ofWord? s
  | _ => none

/-- The diagnostic of four JSON values. -/
def ofValues? (file line severity message : Json) : Option Diagnostic := do
  return ⟨← textOf? file, ← lineOf? line, ← severityOf? severity, ← textOf? message⟩

/-- The diagnostic that a JSON value stands for. -/
def ofJson? (j : Json) : Option Diagnostic :=
  match j with
  | .array [file, line, severity, message] => ofValues? file line severity message
  | .object _ => do
    ofValues? (← j.get? "file".toList) (← j.get? "line".toList) (← j.get? "severity".toList)
      (← j.get? "message".toList)
  | _ => none

/-- The diagnostics that a JSON array stands for. -/
def listOfJson? : Json → Option (List Diagnostic)
  | .array vs => vs.mapM ofJson?
  | _ => none

/-- The diagnostics of a JSON report. -/
def readJson? (s : Text) : Option (List Diagnostic) := (Json.read? s).bind listOfJson?

/-- A count and what is counted. -/
def countText (n : Nat) (what : Text) : Text :=
  Text.ofNat n ++ ' ' :: what ++ (if n = 1 then [] else ['s'])

/-- How many errors and warnings there are. -/
def summary (ds : List Diagnostic) : Text :=
  let errors := ds.countP (·.isError)
  countText errors "error".toList ++ ", ".toList ++
    countText (ds.length - errors) "warning".toList

end Report

end ElixirDiagnostics
