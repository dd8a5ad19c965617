import ElixirDiagnostics.Text.Basic

/-!
# TOML values

The values of a TOML document. Tables remember how they came to be, since that decides what may
still be added to them: a table with a header of its own is never defined again, a table that only
stands in the path of a header may get one, and a table that is built from dotted keys takes more of
them. Tables and arrays that are written in a line are closed.
-/

namespace ElixirDiagnostics

namespace Toml

/-- How a table came to be. -/
inductive Origin where
  /-- By a header of its own. -/
  | header
  /-- By the path of another table's header. -/
  | path
  /-- By dotted keys. -/
  | dotted
  /-- Written in a line. -/
  | inline
  deriving DecidableEq, Repr

/-- A value. -/
inductive Value where
  /-- A string. -/
  | string (s : Text)
  /-- A truth value. -/
  | boolean (b : Bool)
  /-- A number, as it is written. -/
  | number (s : Text)
  /-- A date, a time or both, as it is written. -/
  | moment (s : Text)
  /-- An array that is written in a line. -/
  | array (vs : List Value)
  /-- A table. -/
  | table (origin : Origin) (entries : List (Text × Value))
  /-- An array of tables that each have a header. -/
  | tables (ts : List (List (Text × Value)))
  deriving Repr

/-- The entries of a table. -/
abbrev Entries := List (Text × Value)

namespace Entries

/-- The value of a key. -/
def get? (es : Entries) (key : Text) : Option Value := es.lookup key

/-- Adds a key, which must be new. -/
def add? (es : Entries) (key : Text) (v : Value) : Option Entries :=
  if (es.get? key).isSome then none else some (es ++ [(key, v)])

/-- Changes the value of a key. -/
def set (es : Entries) (key : Text) (v : Value) : Entries :=
  es.map fun (k, w) => if k = key then (k, v) else (k, w)

/-- Adds a value under a path of dotted keys. `own` tells that the path has one key only, and
`origin` is that of the table. A path leads through tables of dotted keys, and through tables that
have no header yet, but ends only in the former; a single key goes into the table it is written
under. -/
def addDotted? (own : Bool) (origin : Origin) (es : Entries) :
    List Text → Value → Option Entries
  | [], _ => none
  | [key], v => if (origin == .dotted) == own then none else es.add? key v
  | key :: path, v =>
    match es.get? key with
    | none => do es.add? key (.table .dotted (← addDotted? own .dotted [] path v))
    | some (.table .dotted sub) => do
      return es.set key (.table .dotted (← addDotted? own .dotted sub path v))
    | some (.table .path sub) => do
      return es.set key (.table .path (← addDotted? own .path sub path v))
    | some (.tables ts) => do
      let last ← ts.getLast?
      return es.set key (.tables (ts.dropLast ++ [← addDotted? own .header last path v]))
    | _ => none

/-- Changes the table at a path, which leads through the last table of an array. -/
def modify? (f : Entries → Option Entries) (es : Entries) : List Text → Option Entries
  | [] => f es
  | key :: path =>
    match es.get? key with
    | none => do es.add? key (.table .path (← modify? f [] path))
    | some (.table .inline _) => none
    | some (.table origin sub) => do return es.set key (.table origin (← modify? f sub path))
    | some (.tables ts) => do
      let last ← ts.getLast?
      return es.set key (.tables (ts.dropLast ++ [← modify? f last path]))
    | _ => none

/-- Opens a table by its header. Only a table that was no more than part of a path can be opened
again. -/
def openTable? (key : Text) (es : Entries) : Option Entries :=
  match es.get? key with
  | none => es.add? key (.table .header [])
  | some (.table .path sub) => some (es.set key (.table .header sub))
  | _ => none

/-- Opens a further table of an array by its header. -/
def openElement? (key : Text) (es : Entries) : Option Entries :=
  match es.get? key with
  | none => es.add? key (.tables [[]])
  | some (.tables ts) => some (es.set key (.tables (ts ++ [[]])))
  | _ => none

end Entries

end Toml

end ElixirDiagnostics
