import ElixirDiagnostics.Toml.Scalar
import ElixirDiagnostics.Toml.Value

/-!
# TOML documents

A document is a sequence of lines: headers, which open a table, and entries, which go into the table
opened last. A line ends after blanks and a comment. What does not follow the grammar, or defines a
key or a table twice, is no document.
-/

namespace ElixirDiagnostics

namespace Toml

/-- Drops a comment. -/
def skipComment : Text → Text
  | '#' :: r => r.dropWhile isPlain
  | r => r

/-- Reads to the end of a line on which nothing but blanks and a comment is left. -/
def lineEnd? (s : Text) : Option Text :=
  match skipComment (skipBlank s) with
  | [] => some []
  | r => newline? r

/-- Drops blanks, comments and line ends between the values of an array. The fuel is at least the
length of the text. -/
def skipBetween : Nat → Text → Text
  | 0, s => s
  | fuel + 1, s =>
    match newline? (skipComment (skipBlank s)) with
    | some r => skipBetween fuel r
    | none => skipBlank s

/-- The characters of a key without quotes. -/
def isKeyChar (c : Char) : Bool := c.isAlphanum || c == '-' || c == '_'

/-- Reads one key. -/
def key? (s : Text) : Option (Text × Text) :=
  match s with
  | '"' :: r => basic? (r.length + 1) r
  | '\'' :: r => literal? r
  | s => Text.run? isKeyChar s

/-- Reads keys with dots between them. The fuel is at least the length of the text. -/
def keys? : Nat → Text → Option (List Text × Text)
  | 0, _ => none
  | fuel + 1, s => do
    let (k, r) ← key? (skipBlank s)
    match skipBlank r with
    | '.' :: r =>
      let (ks, r) ← keys? fuel r
      return (k :: ks, r)
    | r => return ([k], r)

/-- A value that is neither a string, an array nor a table. -/
def scalar? (s : Text) : Option (Value × Text) :=
  let shown (r : Text) : Text := s.take (s.length - r.length)
  match Text.after? "true".toList s, Text.after? "false".toList s with
  | some r, _ => some (.boolean true, r)
  | _, some r => some (.boolean false, r)
  | none, none =>
    match moment? s with
    | some r => some (.moment (shown r), r)
    | none => ((float? s).or (integer? s)).map fun r => (.number (shown r), r)

/-- Reads a value. The fuel is at least the length of the text. -/
def value? : Nat → Text → Option (Value × Text)
  | 0, _ => none
  | fuel + 1, s =>
    match s with
    | '"' :: _ | '\'' :: _ => (quoted? s).map fun (t, r) => (.string t, r)
    | '[' :: r => (elements? fuel (skipBetween r.length r)).map fun (vs, r) => (.array vs, r)
    | '\x7b' :: r =>
      match skipBlank r with
      | '\x7d' :: r => some (.table .inline [], r)
      | r => (entries? fuel [] r).map fun (es, r) => (.table .inline es, r)
    | s => scalar? s
where
  /-- Reads the values of an array up to its closing bracket. -/
  elements? : Nat → Text → Option (List Value × Text)
  | 0, _ => none
  | fuel + 1, s =>
    match s with
    | ']' :: r => some ([], r)
    | s => do
      let (v, r) ← value? fuel s
      match skipBetween r.length r with
      | ',' :: r =>
        let (vs, r) ← elements? fuel (skipBetween r.length r)
        return (v :: vs, r)
      | ']' :: r => return ([v], r)
      | _ => none
  /-- Reads the entries of a table in a line up to its closing brace. -/
  entries? : Nat → Entries → Text → Option (Entries × Text)
  | 0, _, _ => none
  | fuel + 1, es, s => do
    let (ks, r) ← keys? (s.length + 1) s
    let (v, r) ← value? fuel (skipBlank (← Text.after? ['='] r))
    let es ← es.addDotted? (ks.length = 1) .inline ks v
    match skipBlank r with
    | ',' :: r => entries? fuel es r
    | '\x7d' :: r => return (es, r)
    | _ => none

/-- Reads one entry of a document into the table at a path. -/
def entry? (root : Entries) (path : List Text) (s : Text) : Option (Entries × Text) := do
  let (ks, r) ← keys? (s.length + 1) s
  let (v, r) ← value? (s.length + 1) (skipBlank (← Text.after? ['='] r))
  let root ← root.modify? (fun es => es.addDotted? (ks.length = 1) .header ks v) path
  return (root, r)

/-- Reads a header and opens its table, with the path of that table. -/
def header? (root : Entries) (s : Text) : Option (Entries × List Text × Text) :=
  match s with
  | '[' :: '[' :: r => do
    let (ks, r) ← keys? (r.length + 1) r
    let r ← Text.after? "]]".toList r
    return (← root.modify? (Entries.openElement? (← ks.getLast?)) ks.dropLast, ks, r)
  | '[' :: r => do
    let (ks, r) ← keys? (r.length + 1) r
    let r ← Text.after? [']'] r
    return (← root.modify? (Entries.openTable? (← ks.getLast?)) ks.dropLast, ks, r)
  | _ => none

/-- Reads the lines of a document. The fuel is more than the length of the text. -/
def lines? : Nat → Entries → List Text → Text → Option Entries
  | 0, _, _, _ => none
  | fuel + 1, root, path, s =>
    match skipBlank s with
    | [] => some root
    | '#' :: _ | '\n' :: _ | '\r' :: _ => do lines? fuel root path (← lineEnd? s)
    | '[' :: r => do
      let (root, path, r) ← header? root ('[' :: r)
      lines? fuel root path (← lineEnd? r)
    | r => do
      let (root, r) ← entry? root path r
      lines? fuel root path (← lineEnd? r)

/-- The entries of a document. A byte order mark at its start means nothing. -/
def read? (s : Text) : Option Entries :=
  let s := match s with
    | '\ufeff' :: r => r
    | s => s
  lines? (s.length + 1) [] [] s

end Toml

end ElixirDiagnostics
