import ElixirDiagnostics.Json.Value

/-!
# Reading JSON

A JSON text is one value with white space around it. A character outside the basic plane may be
escaped as a surrogate pair; half of a pair alone is no character.
-/

namespace ElixirDiagnostics

namespace Json

/-- Drops white space. -/
def skipSpace (s : Text) : Text :=
  s.dropWhile fun c => c == ' ' || c == '\t' || c == '\n' || c == '\r'

/-- Reads four hexadecimal digits. -/
def unit? (s : Text) : Option (Nat × Text) :=
  if 4 ≤ s.length then (Text.hexValue? (s.take 4)).map fun n => (n, s.drop 4) else none

/-- Reads the character with a number in four hexadecimal digits, or in two times four for a
surrogate pair. -/
def numbered? (s : Text) : Option (Char × Text) := do
  let (n, r) ← unit? s
  if 0xd800 ≤ n ∧ n < 0xdc00 then do
    let (m, r) ← unit? (← Text.after? "\\u".toList r)
    if 0xdc00 ≤ m ∧ m < 0xe000 then
      return (← Text.charOfNat? (0x10000 + (n - 0xd800) * 0x400 + (m - 0xdc00)), r)
    else none
  else return (← Text.charOfNat? n, r)

/-- Reads what follows a backslash. -/
def escape? : Text → Option (Char × Text)
  | '"' :: r => some ('"', r)
  | '\\' :: r => some ('\\', r)
  | '/' :: r => some ('/', r)
  | 'b' :: r => some ('\x08', r)
  | 'f' :: r => some ('\x0c', r)
  | 'n' :: r => some ('\n', r)
  | 'r' :: r => some ('\r', r)
  | 't' :: r => some ('\t', r)
  | 'u' :: r => numbered? r
  | _ => none

/-- Reads a string up to its closing quote. The fuel is more than the length of the text. -/
def stringBody? : Nat → Text → Option (Text × Text)
  | 0, _ => none
  | fuel + 1, s =>
    match s with
    | [] => none
    | '"' :: r => some ([], r)
    | '\\' :: r => do
      let (c, r) ← escape? r
      let (cs, r) ← stringBody? fuel r
      return (c :: cs, r)
    | c :: r =>
      if c.toNat < 0x20 then none
      else do
        let (cs, r) ← stringBody? fuel r
        return (c :: cs, r)

/-- Reads the whole part of a number: zero alone, or digits that do not begin with it. -/
def whole? (s : Text) : Option (Text × Text) :=
  match s with
  | '0' :: r => some (['0'], r)
  | s => Text.run? Char.isDigit s

/-- Reads the fraction of a number, which may be missing. -/
def fraction? (s : Text) : Option (Text × Text) :=
  match s with
  | '.' :: r => (Text.run? Char.isDigit r).map fun (ds, r) => ('.' :: ds, r)
  | s => some ([], s)

/-- Reads the exponent of a number, which may be missing. -/
def exponent? (s : Text) : Option (Text × Text) :=
  match s with
  | e :: r =>
    if e = 'e' ∨ e = 'E' then
      let (sign, r) := match r with
        | '+' :: r => (['+'], r)
        | '-' :: r => (['-'], r)
        | r => ([], r)
      (Text.run? Char.isDigit r).map fun (ds, r) => (e :: sign ++ ds, r)
    else some ([], s)
  | [] => some ([], [])

/-- Reads a number. -/
def number? (s : Text) : Option (Json × Text) := do
  let (negative, r) := match s with
    | '-' :: r => (true, r)
    | r => (false, r)
  let (ds, r) ← whole? r
  let (frac, r) ← fraction? r
  let (exp, r) ← exponent? r
  let n := Text.decimalValue ds
  if frac.isEmpty && exp.isEmpty && !(negative && n == 0) then
    return (.integer (if negative then -(n : Int) else n), r)
  else return (.decimal ((if negative then ['-'] else []) ++ ds ++ frac ++ exp), r)

/-- Reads a value, with no white space before it. The fuel is more than the length of the text. -/
def value? : Nat → Text → Option (Json × Text)
  | 0, _ => none
  | fuel + 1, s =>
    match s with
    | '"' :: r => (stringBody? (r.length + 1) r).map fun (t, r) => (string t, r)
    | '[' :: r =>
      match skipSpace r with
      | ']' :: r => some (array [], r)
      | r => (elements? fuel r).map fun (vs, r) => (array vs, r)
    | '\x7b' :: r =>
      match skipSpace r with
      | '\x7d' :: r => some (object [], r)
      | r => (members? fuel r).map fun (ms, r) => (object ms, r)
    | s =>
      match Text.after? "null".toList s, Text.after? "true".toList s,
        Text.after? "false".toList s with
      | some r, _, _ => some (null, r)
      | _, some r, _ => some (boolean true, r)
      | _, _, some r => some (boolean false, r)
      | _, _, _ => number? s
where
  /-- Reads the elements of an array up to its closing bracket. -/
  elements? : Nat → Text → Option (List Json × Text)
  | 0, _ => none
  | fuel + 1, s => do
    let (v, r) ← value? fuel s
    match skipSpace r with
    | ',' :: r =>
      let (vs, r) ← elements? fuel (skipSpace r)
      return (v :: vs, r)
    | ']' :: r => return ([v], r)
    | _ => none
  /-- Reads the members of an object up to its closing brace. -/
  members? : Nat → Text → Option (List (Text × Json) × Text)
  | 0, _ => none
  | fuel + 1, s =>
    match s with
    | '"' :: r => do
      let (k, r) ← stringBody? (r.length + 1) r
      let (v, r) ← value? fuel (skipSpace (← Text.after? [':'] (skipSpace r)))
      match skipSpace r with
      | ',' :: r =>
        let (ms, r) ← members? fuel (skipSpace r)
        return ((k, v) :: ms, r)
      | '\x7d' :: r => return ([(k, v)], r)
      | _ => none
    | _ => none

/-- The value that a text stands for. -/
def read? (s : Text) : Option Json := do
  let (v, r) ← value? (s.length + 1) (skipSpace s)
  if (skipSpace r).isEmpty then some v else none

end Json

end ElixirDiagnostics
