import ElixirDiagnostics.Shell.Syntax

/-!
# Words of shell scripts

A word ends at a blank, a line end or an operator outside quotes. Single quotes keep everything;
double quotes and backslashes keep all but a few characters. A dollar sign begins a parameter, a
script or an expression.
-/

namespace ElixirDiagnostics

namespace Shell

/-- The characters that end a word. -/
def isWordEnd (c : Char) : Bool :=
  c == ' ' || c == '\t' || c == '\n' || c == ';' || c == '&' || c == '|' || c == '<' || c == '>' ||
  c == '(' || c == ')'

/-- The characters that can begin a name. -/
def isNameStart (c : Char) : Bool := c.isAlpha || c == '_'

/-- The characters of a name. -/
def isNameChar (c : Char) : Bool := c.isAlphanum || c == '_'

/-- The characters that name a parameter on their own. -/
def isSpecial (c : Char) : Bool :=
  c.isDigit || c == '@' || c == '*' || c == '#' || c == '?' || c == '$' || c == '!' || c == '-'

/-- What is open in the middle of a text. -/
inductive Nest where
  /-- A bracket, with the characters that open and close it. -/
  | bracket (opening closing : Char)
  /-- A text in single quotes. -/
  | single
  /-- A text in double quotes. -/
  | double
  /-- A backslash, whose character is still to come. -/
  | escaped
  deriving DecidableEq, Repr

/-- What is open after one more character. The innermost opening comes first. -/
def Nest.after (n : Nest) (ns : List Nest) (c : Char) : List Nest :=
  match n with
  | escaped => ns
  | single => if c = '\'' then ns else n :: ns
  | double => if c = '"' then ns else if c = '\\' then escaped :: n :: ns else n :: ns
  | bracket opening closing =>
    if c = closing then ns
    else if c = opening then n :: n :: ns
    else if c = '\'' then single :: n :: ns
    else if c = '"' then double :: n :: ns
    else if c = '\\' then escaped :: n :: ns
    else n :: ns

/-- The text up to the end of what is open, without the character that ends it, and what follows
it. -/
def enclosed? : List Nest → Text → Option (Text × Text)
  | [], s => some ([], s)
  | _ :: _, [] => none
  | n :: ns, c :: r =>
    match n.after ns c with
    | [] => some ([], r)
    | stack => (enclosed? stack r).map fun (s, rest) => (c :: s, rest)

/-- Splits what stands in braces after a dollar sign into a name, an operator and an operand. -/
def parameterParts (s : Text) : Text × Text × Text :=
  match s with
  | ['#'] => (['#'], [], [])
  | '#' :: name => (name, "length".toList, [])
  | c :: r =>
    let name := if isNameStart c then s.takeWhile isNameChar
      else if c.isDigit then s.takeWhile Char.isDigit else [c]
    let rest := if isNameStart c || c.isDigit then s.drop name.length else r
    match rest with
    | ':' :: o :: w => (name, [':', o], w)
    | '%' :: '%' :: w => (name, "%%".toList, w)
    | '#' :: '#' :: w => (name, "##".toList, w)
    | o :: w => (name, [o], w)
    | [] => (name, [], [])
  | [] => ([], [], [])

/-- Drops the backslashes that a script in backquotes needs. -/
def unquoteBackquoted : Text → Text
  | '\\' :: c :: r =>
    if c = '\\' ∨ c = '\x60' ∨ c = '$' then c :: unquoteBackquoted r
    else '\\' :: c :: unquoteBackquoted r
  | c :: r => c :: unquoteBackquoted r
  | [] => []

/-- The text up to a backquote, and what follows it. -/
def backquoted? : Text → Option (Text × Text)
  | '\x60' :: r => some ([], r)
  | '\\' :: c :: r => (backquoted? r).map fun (s, rest) => ('\\' :: c :: s, rest)
  | c :: r => (backquoted? r).map fun (s, rest) => (c :: s, rest)
  | [] => none

/-- Reads what follows a dollar sign. Where nothing special does, the sign stands for itself. -/
def dollar? (quoted : Bool) (s : Text) : Option (Piece × Text) :=
  match s with
  | '(' :: '(' :: r => do
    let (e, r) ← enclosed? [.bracket '(' ')', .bracket '(' ')'] r
    return (.arithmetic e.dropLast quoted, r)
  | '(' :: r => do
    let (script, r) ← enclosed? [.bracket '(' ')'] r
    return (.command script quoted, r)
  | '\x7b' :: r => do
    let (inner, r) ← enclosed? [.bracket '\x7b' '\x7d'] r
    let (name, operator, operand) := parameterParts inner
    return (.parameter name operator operand quoted, r)
  | c :: r =>
    if isNameStart c then
      some (.parameter (s.takeWhile isNameChar) [] [] quoted, s.dropWhile isNameChar)
    else if isSpecial c then some (.parameter [c] [] [] quoted, r)
    else some (.literal ['$'] quoted, s)
  | [] => some (.literal ['$'] quoted, s)

/-- Reads the rest of a text in double quotes. The fuel is more than the length of the text. -/
def doubleQuoted? : Nat → Text → Option (Word × Text)
  | 0, _ => none
  | fuel + 1, s =>
    let first (p : Piece) (r : Text) : Option (Word × Text) :=
      (doubleQuoted? fuel r).map fun (w, rest) => (p :: w, rest)
    match s with
    | [] => none
    | '"' :: r => some ([.literal [] true], r)
    | '\\' :: '\n' :: r => doubleQuoted? fuel r
    | '\\' :: c :: r =>
      if c = '$' ∨ c = '\x60' ∨ c = '"' ∨ c = '\\' then first (.literal [c] true) r
      else first (.literal ['\\', c] true) r
    | '$' :: r => do
      let (p, r) ← dollar? true r
      first p r
    | '\x60' :: r => do
      let (script, r) ← backquoted? r
      first (.command (unquoteBackquoted script) true) r
    | c :: r => first (.literal [c] true) r

/-- Reads a word; with nothing in it where none begins. If `whole` holds, blanks and operators do
not end it. The fuel is more than the length of the text. -/
def word? (whole : Bool) : Nat → Text → Option (Word × Text)
  | 0, _ => none
  | fuel + 1, s =>
    let first (ps : Word) (r : Text) : Option (Word × Text) :=
      (word? whole fuel r).map fun (w, rest) => (ps ++ w, rest)
    match s with
    | [] => some ([], [])
    | '\'' :: r => do
      let (t, r) ← enclosed? [.single] r
      first [.literal t true] r
    | '"' :: r => do
      let (w, r) ← doubleQuoted? fuel r
      first w r
    | '\\' :: '\n' :: r => word? whole fuel r
    | '\\' :: c :: r => first [.literal [c] true] r
    | '$' :: r => do
      let (p, r) ← dollar? false r
      first [p] r
    | '\x60' :: r => do
      let (script, r) ← backquoted? r
      first [.command (unquoteBackquoted script) false] r
    | c :: r => if isWordEnd c && !whole then some ([], s) else first [.literal [c] false] r

/-- The text of a part that is neither quoted nor has a meaning. -/
def Piece.plain? : Piece → Option Text
  | literal s false => some s
  | _ => none

/-- The text of a part as it stands in the script, without quotes. -/
def Piece.source : Piece → Text
  | literal s _ => s
  | parameter name _ _ _ => '$' :: name
  | command s _ => s
  | arithmetic e _ => e

/-- Whether a part is quoted. -/
def Piece.isQuoted : Piece → Bool
  | literal _ q | parameter _ _ _ q | command _ q | arithmetic _ q => q

/-- The length of what an operator of a part works with. -/
def Piece.operandLength : Piece → Nat
  | parameter _ _ operand _ => operand.length
  | literal _ _ | command _ _ | arithmetic _ _ => 0

/-- A part as it would be in double quotes. -/
def Piece.quote : Piece → Piece
  | literal s _ => literal s true
  | parameter name operator operand _ => parameter name operator operand true
  | command s _ => command s true
  | arithmetic e _ => arithmetic e true

/-- The text of a word that has no parts with a meaning. -/
def plainText? (w : Word) : Option Text := (w.mapM Piece.plain?).map List.flatten

/-- The text of a word with its quotes taken off. -/
def unquotedText (w : Word) : Text := w.flatMap Piece.source

/-- Whether any part of a word is quoted. -/
def hasQuotes (w : Word) : Bool := w.any Piece.isQuoted

end Shell

end ElixirDiagnostics
