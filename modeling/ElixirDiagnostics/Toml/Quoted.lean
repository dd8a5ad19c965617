import ElixirDiagnostics.Text.Hex

/-!
# TOML strings

A string stands in double quotes, with escapes, or in single quotes, without. Three quotes open a
string of many lines, whose first line end is dropped and which may end in one or two quotes of its
own. Control characters other than the tab are refused everywhere.
-/

namespace ElixirDiagnostics

namespace Toml

/-- Characters that can stand in a comment or a string: no control characters but the tab. -/
def isPlain (c : Char) : Bool := c == '\t' || (' ' ≤ c && c != '\x7f')

/-- What follows a line end. -/
def newline? : Text → Option Text
  | '\n' :: r => some r
  | '\r' :: '\n' :: r => some r
  | _ => none

/-- Drops spaces and tabs. -/
def skipBlank (s : Text) : Text := s.dropWhile fun c => c == ' ' || c == '\t'

/-- Drops spaces, tabs and line ends. The fuel is at least the length of the text. -/
def skipLines : Nat → Text → Text
  | 0, s => s
  | fuel + 1, s =>
    match newline? (skipBlank s) with
    | some r => skipLines fuel r
    | none => skipBlank s

/-- Reads what follows a backslash. -/
def escape? : Text → Option (Char × Text)
  | 'b' :: r => some ('\x08', r)
  | 't' :: r => some ('\t', r)
  | 'n' :: r => some ('\n', r)
  | 'f' :: r => some ('\x0c', r)
  | 'r' :: r => some ('\r', r)
  | '"' :: r => some ('"', r)
  | '\\' :: r => some ('\\', r)
  | 'u' :: r =>
    if 4 ≤ r.length then (Text.charOfHex? (r.take 4)).map fun c => (c, r.drop 4) else none
  | 'U' :: r =>
    if 8 ≤ r.length then (Text.charOfHex? (r.take 8)).map fun c => (c, r.drop 8) else none
  | _ => none

/-- Puts a character before a string that was read. -/
def prepend (c : Char) (read : Option (Text × Text)) : Option (Text × Text) :=
  read.map fun (s, r) => (c :: s, r)

/-- The string up to a double quote. The fuel is more than the length of the text. -/
def basic? : Nat → Text → Option (Text × Text)
  | 0, _ => none
  | fuel + 1, s =>
    match s with
    | '"' :: r => some ([], r)
    | '\\' :: r => do
      let (c, r) ← escape? r
      prepend c (basic? fuel r)
    | c :: r => if isPlain c then prepend c (basic? fuel r) else none
    | [] => none

/-- The string up to a single quote. -/
def literal? : Text → Option (Text × Text)
  | '\'' :: r => some ([], r)
  | c :: r => if isPlain c then prepend c (literal? r) else none
  | [] => none

/-- The quotes at the end of a string of many lines: up to two belong to the string, then follow
the three that close it. -/
def closing? (quote : Char) (s : Text) : Option (Text × Text) :=
  let quotes := (s.takeWhile (· == quote)).take 5
  if 3 ≤ quotes.length then some (quotes.drop 3, s.drop quotes.length) else none

/-- The string of many lines up to three quotes; only double quotes know escapes. A backslash at
the end of a line joins it to the next character that is neither blank nor a line end. The fuel is
more than the length of the text. -/
def manyLines? (quote : Char) : Nat → Text → Option (Text × Text)
  | 0, _ => none
  | fuel + 1, s =>
    match closing? quote s with
    | some found => some found
    | none =>
      match newline? s with
      | some r => prepend '\n' (manyLines? quote fuel r)
      | none =>
        match s with
        | '\\' :: r =>
          if quote = '\'' then prepend '\\' (manyLines? quote fuel r)
          else match escape? r with
            | some (c, r) => prepend c (manyLines? quote fuel r)
            | none => do
              let r ← newline? (skipBlank r)
              manyLines? quote fuel (skipLines r.length r)
        | c :: r => if isPlain c then prepend c (manyLines? quote fuel r) else none
        | [] => none

/-- Drops the line end at the start of a string of many lines. -/
def skipNewline (s : Text) : Text := (newline? s).getD s

/-- Reads a string of any kind. -/
def quoted? (s : Text) : Option (Text × Text) :=
  match s with
  | '"' :: '"' :: '"' :: r => manyLines? '"' (r.length + 1) (skipNewline r)
  | '\'' :: '\'' :: '\'' :: r => manyLines? '\'' (r.length + 1) (skipNewline r)
  | '"' :: r => basic? (r.length + 1) r
  | '\'' :: r => literal? r
  | _ => none

end Toml

end ElixirDiagnostics
