import ElixirDiagnostics.Shape.Basic

/-!
# Diagnostics in blocks

A block begins with a head, `warning: message` or `error: message`, and goes on with indented lines
up to one that names the location, with or without a corner drawn before it. Lines of a source
snippet belong to the block also where a wide line number leaves no indentation. The first location
ends the block; a blank line or an unindented one before it means that there is no block.
-/

namespace ElixirDiagnostics

namespace Shape

/-- The message of a block head of the given severity. -/
def blockHead? (severity : Severity) (line : Text) : Option Text := do
  Location.message? (← Text.after? (severity.word ++ ": ".toList) (Text.trimStart line))

/-- The characters of a file name in the location line of a block. -/
def isBlockFileChar (c : Char) : Bool := !Text.isSpace c && c != ':' && c != '│'

/-- The file and line digits at the start of a text, if what follows them is nothing or a colon and
the rest of one line. -/
def blockPlace? (s : Text) : Option (Text × Text) :=
  (Location.fileReadings isBlockFileChar s).findSome? fun (file, r) => do
    let (digits, r) ← Location.lineDigits? r
    if r.head?.all (· == ':') && !r.contains '\n' then some (file, digits) else none

/-- The file and line digits on the location line of a block. A drawn corner before them is taken
off if that leaves a location, and else belongs to the file name. -/
def blockLocation? (line : Text) : Option (Text × Text) :=
  if Text.isIndented line then
    let s := Text.trimStart line
    ((Text.after? "└─".toList s).bind fun r => blockPlace? (Text.trimStart r)).or (blockPlace? s)
  else none

/-- A line of a source snippet: a line number and a bar. -/
def isSnippet (line : Text) : Bool :=
  ((Text.run? Text.isDecimal (Text.trimStart line)).bind fun (_, r) =>
    Text.after? " │".toList r).isSome

/-- A line that can stand inside a block. -/
def isBlockBody (line : Text) : Bool :=
  !Text.isBlank line && (Text.isIndented line || isSnippet line)

/-- The location that ends a block: how many lines stand before it, its file and its digits. -/
def blockEnd? : List Text → Option (Nat × Text × Text)
  | [] => none
  | l :: rest =>
    if isBlockBody l then
      match blockLocation? l with
      | some place => some (0, place)
      | none => (blockEnd? rest).map fun (n, place) => (n + 1, place)
    else none

/-- Reads a block of the given severity. -/
def readBlock (severity : Severity) : List Text → Option Evidence
  | head :: body => do
    let message ← blockHead? severity head
    let (n, file, digits) ← blockEnd? body
    return ⟨file, Text.number? digits, message, n + 2⟩
  | [] => none

/-- Warnings in blocks. -/
def warningBlock : Shape := ofReader .warningBlock fun _ => readBlock .warning

/-- Errors in blocks. -/
def compileErrorBlock : Shape := ofReader .compileErrorBlock fun _ => readBlock .error

end Shape

end ElixirDiagnostics
