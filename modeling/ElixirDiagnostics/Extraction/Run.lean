import ElixirDiagnostics.Inspection
import ElixirDiagnostics.Log
import ElixirDiagnostics.Shape.Catalog
import ElixirDiagnostics.Text.Colour

/-!
# Extraction

Extraction reads compiler output from top to bottom. At the first line where the catalog sees
something, the sighting becomes a diagnostic, which is either accepted for the inspected file or
rejected as foreign, and reading goes on below the lines that the sighting takes up. Every step
leaves an event. The run ends because each sighting takes up at least one line.
-/

namespace ElixirDiagnostics

namespace Extraction

/-- What one extraction found. -/
structure Report where
  /-- The diagnostics of the inspected file, in the order of the output. -/
  diagnostics : List Diagnostic := []
  /-- The diagnostics of other files, in the order of the output. -/
  foreign : List Diagnostic := []
  deriving DecidableEq, Repr

/-- Whether the output held any diagnostic at all. -/
def Report.recognisedAny (r : Report) : Bool := !r.diagnostics.isEmpty || !r.foreign.isEmpty

/-- One step of an extraction. -/
inductive Event where
  /-- The catalog saw something. -/
  | matched (m : Sighting)
  /-- A diagnostic belongs to the inspected file. -/
  | accepted (d : Diagnostic)
  /-- A diagnostic belongs to another file. -/
  | rejected (d : Diagnostic)
  /-- A diagnostic is not reported, since another file is inspected. -/
  | dropping (d : Diagnostic) (inspected : Path)
  /-- Reading goes on at a line. -/
  | scanning (line : Nat)
  /-- Reading ended at a line. -/
  | done (line : Nat)
  deriving DecidableEq, Repr

/-- A run of the extraction: its steps and its result. -/
structure Run where
  /-- The steps, in order. -/
  events : List Event
  /-- What was found. -/
  report : Report
  deriving DecidableEq, Repr

/-- The first sighting at a line from `cursor` on. -/
def next? (c : Catalog) (lines : List Text) (cursor : Nat) : Option Sighting :=
  (List.range' cursor (lines.length - cursor)).findSome? (c.firstAt lines)

/-- The next sighting begins within the lines that are left, and takes up at least one. -/
theorem bounds_of_next? {c : Catalog} {lines : List Text} {cursor : Nat} {m : Sighting}
    (h : next? c lines cursor = some m) :
    cursor ≤ m.start ∧ m.start < lines.length ∧ m.start < m.stop := by
  obtain ⟨i, hi, hm⟩ := List.exists_of_findSome?_eq_some h
  have hs := Catalog.span_of_firstAt hm
  rw [List.mem_range'_1] at hi
  omega

/-- The rest of a run, after the verdict on a diagnostic. -/
def Run.judge (i : Inspection) (d : Diagnostic) (rest : Run) : Run :=
  if i.accepts d then
    ⟨.accepted d :: rest.events, { rest.report with diagnostics := d :: rest.report.diagnostics }⟩
  else
    ⟨.rejected d :: .dropping d i.target :: rest.events,
      { rest.report with foreign := d :: rest.report.foreign }⟩

/-- Extracts from the lines from `cursor` on. -/
def runFrom (c : Catalog) (i : Inspection) (lines : List Text) (cursor : Nat) : Run :=
  match _h : next? c lines cursor with
  | none => ⟨[.done (max cursor lines.length)], {}⟩
  | some m =>
    let rest := runFrom c i lines m.stop
    let judged := Run.judge i m.diagnostic { rest with events := .scanning m.stop :: rest.events }
    { judged with events := .matched m :: judged.events }
termination_by lines.length - cursor
decreasing_by
  have := bounds_of_next? _h
  omega

/-- Where no sighting follows, nothing more is told than the end. -/
theorem runFrom_of_none {c : Catalog} {i : Inspection} {lines : List Text} {cursor : Nat}
    (h : next? c lines cursor = none) :
    runFrom c i lines cursor = ⟨[.done (max cursor lines.length)], {}⟩ := by
  rw [runFrom]
  split
  · rfl
  · simp_all

/-- The next sighting is judged, and the run goes on below it. -/
theorem runFrom_of_some {c : Catalog} {i : Inspection} {lines : List Text} {cursor : Nat}
    {m : Sighting} (h : next? c lines cursor = some m) :
    runFrom c i lines cursor =
      let rest := runFrom c i lines m.stop
      let judged := Run.judge i m.diagnostic { rest with events := .scanning m.stop :: rest.events }
      { judged with events := .matched m :: judged.events } := by
  rw [runFrom]
  split
  · simp_all
  · next k hk =>
    obtain rfl : k = m := by simpa [h] using hk.symm
    rfl

/-- Extracts from compiler output, colours and all. -/
def run (c : Catalog) (i : Inspection) (output : Text) : Run :=
  runFrom c i (Text.lines (Text.stripColour output)) 0

/-- What extraction finds in compiler output. -/
def report (c : Catalog) (i : Inspection) (output : Text) : Report := (run c i output).report

/-- The diagnostics of a file in compiler output, by the shapes that the compiler prints. -/
def diagnostics (output : Text) (workingDir file : Path) : List Diagnostic :=
  (report (Catalog.builtin {}) (Inspection.ofFile workingDir file) output).diagnostics

end Extraction

end ElixirDiagnostics
