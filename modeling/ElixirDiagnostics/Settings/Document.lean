import ElixirDiagnostics.Settings.Basic
import ElixirDiagnostics.Toml.Document

/-!
# Settings from TOML

A settings file is a TOML document. Every key is optional and no other key is allowed. The settings
of traces may also stand in an array, in their order, where what is missing has its default and what
is left over does not count; and an anchor may be named by the single key of a table whose value is
empty.
-/

namespace ElixirDiagnostics

namespace Settings

open Toml (Value Entries)

/-- The text of a string. -/
def textOf? : Value → Option Text
  | .string s => some s
  | _ => none

/-- The texts of an array of strings. -/
def textsOf? : Value → Option (List Text)
  | .array vs => vs.mapM textOf?
  | _ => none

/-- A truth value. -/
def booleanOf? : Value → Option Bool
  | .boolean b => some b
  | _ => none

/-- Whether a value is an empty array or table. -/
def isEmptyValue : Value → Bool
  | .array [] | .table _ [] | .tables [] => true
  | _ => false

/-- The anchor that a value names. -/
def anchorOf? : Value → Option Trace.Anchor
  | .string s => Trace.Anchor.ofWord? s
  | .table _ [(name, v)] => if isEmptyValue v then Trace.Anchor.ofWord? name else none
  | _ => none

/-- The elements of an array, also of one whose tables have headers. -/
def elementsOf? : Value → Option (List Value)
  | .array vs => some vs
  | .tables ts => some (ts.map (.table .header))
  | _ => none

/-- Puts one entry of the trace settings into them. -/
def setTraceEntry? (t : TraceSettings) (key : Text) (v : Value) : Option TraceSettings :=
  match String.ofList key with
  | "anchor" => (anchorOf? v).map fun a => { t with anchor := a }
  | "library_patterns" => (textsOf? v).map fun ps => { t with libraryPatterns := ps }
  | _ => none

/-- The trace settings of a table or of an array. -/
def traceOf? (v : Value) : Option TraceSettings :=
  match v with
  | .table _ es => es.foldlM (fun t (key, v) => setTraceEntry? t key v) {}
  | v => do
    (["anchor".toList, "library_patterns".toList].zip (← elementsOf? v)).foldlM
      (fun t (key, v) => setTraceEntry? t key v) {}

/-- Puts one entry of a document into the settings. -/
def setEntry? (s : Settings) (key : Text) (v : Value) : Option Settings :=
  match String.ofList key with
  | "include_dirs" => (textsOf? v).map fun ds => { s with includeDirs := ds }
  | "pa" => (textsOf? v).map fun ps => { s with codePaths := ps }
  | "mix_project" => (booleanOf? v).map fun b => { s with mixProject := b }
  | "executable" => (textOf? v).map fun p => { s with executable := some p }
  | "args" => (textsOf? v).map fun as => { s with args := as }
  | "trace" => (traceOf? v).map fun t => { s with trace := t }
  | _ => none

/-- The settings of a document. -/
def ofEntries? (es : Entries) : Option Settings :=
  es.foldlM (fun s (key, v) => setEntry? s key v) {}

/-- The settings in a text, unless it is no document or not one of settings. -/
def read? : Reader := fun text => (Toml.read? text).bind ofEntries?

end Settings

end ElixirDiagnostics
