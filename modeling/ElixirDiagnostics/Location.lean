import ElixirDiagnostics.Text.Decimal

/-!
# Locations in compiler output

The pieces that the shapes of compiler output are made of: file names, which may begin with a drive
letter and its colon, line numbers after a colon, an optional column after another, and messages.
A text such as `C:12` can be read as a file with a drive or as a file and a line, so reading a file
name gives its readings in order of preference, the one with a drive first.
-/

namespace ElixirDiagnostics

namespace Location

/-- The readings of a file name at the start of a text, each with what follows: with a drive letter,
then without. The name itself is the longest run of the given class. -/
def fileReadings (isFileChar : Char → Bool) (s : Text) : List (Text × Text) :=
  let withDrive : Option (Text × Text) := match s with
    | d :: ':' :: t =>
      if d.isAlpha then (Text.run? isFileChar t).map fun (w, r) => (d :: ':' :: w, r) else none
    | _ => none
  withDrive.toList ++ (Text.run? isFileChar s).toList

/-- The characters of a file name at the start of a line. -/
def isFileChar (c : Char) : Bool := !Text.isSpace c && c != ':'

/-- The digits after a colon, and what follows them. -/
def lineDigits? : Text → Option (Text × Text)
  | ':' :: s => Text.run? Text.isDecimal s
  | _ => none

/-- Drops the column after a line number, if there is one. -/
def skipColumn (s : Text) : Text :=
  match lineDigits? s with
  | some (_, r) => r
  | none => s

/-- A message is the whole of a text that begins with a visible character and is one line. -/
def message? (s : Text) : Option Text :=
  if s.isEmpty || Text.isIndented s || s.contains '\n' then none else some s

end Location

end ElixirDiagnostics
