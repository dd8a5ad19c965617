import ElixirDiagnostics.Text.Decimal
import ElixirDiagnostics.Text.Hex

/-!
# JSON values and their text

The values of JSON and the form in which reports are written: two blanks of indentation a level, one
element or member a line, members in their own order, and only quotes, backslashes and the controls
below the blank escaped in strings.
-/

namespace ElixirDiagnostics

/-- A JSON value. Numbers with a fraction or an exponent, and the negative zero, are kept as they
are written. -/
inductive Json where
  /-- The null value. -/
  | null
  /-- A truth value. -/
  | boolean (b : Bool)
  /-- A whole number. -/
  | integer (n : Int)
  /-- Any other number. -/
  | decimal (s : Text)
  /-- A string. -/
  | string (s : Text)
  /-- An array. -/
  | array (vs : List Json)
  /-- An object. -/
  | object (members : List (Text × Json))
  deriving Repr

namespace Json

/-- The value of a member; of several with one name the last one counts. -/
def get? (j : Json) (name : Text) : Option Json :=
  match j with
  | object members => members.reverse.lookup name
  | _ => none

/-- How a character is written in a string. -/
def escapeChar (c : Char) : Text :=
  if c = '"' then ['\\', '"']
  else if c = '\\' then ['\\', '\\']
  else if c = '\x08' then ['\\', 'b']
  else if c = '\t' then ['\\', 't']
  else if c = '\n' then ['\\', 'n']
  else if c = '\x0c' then ['\\', 'f']
  else if c = '\r' then ['\\', 'r']
  else if c.toNat < 0x20 then
    ['\\', 'u', '0', '0', Text.hexDigit (c.toNat / 16), Text.hexDigit (c.toNat % 16)]
  else [c]

/-- A string in quotes. -/
def quote (s : Text) : Text := '"' :: s.flatMap escapeChar ++ ['"']

/-- The start of a line at a level of nesting. -/
def newLine (level : Nat) : Text := '\n' :: List.replicate (2 * level) ' '

/-- A value in the form of reports. The first line is not indented, since something may stand
before the value; the others are, for the given level. -/
def pretty (level : Nat) : Json → Text
  | null => "null".toList
  | boolean true => "true".toList
  | boolean false => "false".toList
  | integer n => Text.ofInt n
  | decimal s => s
  | string s => quote s
  | array [] => "[]".toList
  | array (v :: vs) =>
    '[' :: newLine (level + 1) ++ pretty (level + 1) v ++ elements (level + 1) vs ++
      newLine level ++ [']']
  | object [] => "\x7b\x7d".toList
  | object ((k, v) :: ms) =>
    '\x7b' :: newLine (level + 1) ++ quote k ++ ": ".toList ++ pretty (level + 1) v ++
      members (level + 1) ms ++ newLine level ++ ['\x7d']
where
  /-- The further elements of an array. -/
  elements (level : Nat) : List Json → Text
    | [] => []
    | v :: vs => ',' :: newLine level ++ pretty level v ++ elements level vs
  /-- The further members of an object. -/
  members (level : Nat) : List (Text × Json) → Text
    | [] => []
    | (k, v) :: ms =>
      ',' :: newLine level ++ quote k ++ ": ".toList ++ pretty level v ++ members level ms

end Json

end ElixirDiagnostics
