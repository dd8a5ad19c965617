import ElixirDiagnostics.Shape.SingleLine
import ElixirDiagnostics.Shape.Block

/-!
# Catalogs of shapes

A catalog lists shapes by priority, together with the trace classifier that they share. At a
position of the output the first shape wins that sees something there. A sighting that begins
elsewhere or takes up no line is passed over, whichever shape makes it.
-/

namespace ElixirDiagnostics

/-- Shapes in the order of their priority. -/
structure Catalog where
  /-- The shapes, first the one with the highest priority. -/
  shapes : List Shape
  /-- What the shapes ask about traces. -/
  trace : Trace.Classifier

namespace Catalog

/-- The shapes that the compiler prints, the most specific first. -/
def builtinShapes : List Shape :=
  [.compileErrorInline, .compileErrorTraced, .compileErrorBare, .warningInline, .warningBlock,
   .compileErrorBlock]

/-- The catalog of the shapes that the compiler prints. -/
def builtin (trace : Trace.Classifier) : Catalog := ⟨builtinShapes, trace⟩

/-- Adds a shape with the lowest priority so far. -/
def add (c : Catalog) (s : Shape) : Catalog := { c with shapes := c.shapes ++ [s] }

/-- The tags of the shapes, in order. -/
def tags (c : Catalog) : List Tag := c.shapes.map (·.tag)

/-- What the catalog sees at a position of the output. -/
def firstAt (c : Catalog) (lines : List Text) (i : Nat) : Option Sighting :=
  c.shapes.findSome? fun s =>
    (s.sightAt c.trace lines i).filter fun m => m.start = i && i < m.stop

/-- Whatever a catalog sees begins where it looks and takes up a line. -/
theorem span_of_firstAt {c : Catalog} {lines : List Text} {i : Nat} {m : Sighting}
    (h : c.firstAt lines i = some m) : m.start = i ∧ i < m.stop := by
  obtain ⟨s, _, hs⟩ := List.exists_of_findSome?_eq_some h
  simpa using (Option.filter_eq_some_iff.1 hs).2

end Catalog

end ElixirDiagnostics
