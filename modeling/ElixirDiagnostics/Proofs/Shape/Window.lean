import ElixirDiagnostics.Proofs.Shape.Block
import ElixirDiagnostics.Proofs.Shape.Inline
import ElixirDiagnostics.Proofs.Shape.Traced
import ElixirDiagnostics.Shape.Catalog

/-!
# The evidence of a reader

A reader that sees something has seen it in the lines that it takes up: on any other lines that
begin in the same way it sees the same.
-/

namespace ElixirDiagnostics

namespace Shape

/-- The reader of each shape that the compiler prints. -/
def readerOf : Tag → Trace.Classifier → List Text → Option Evidence
  | .compileErrorInline, _ => readInline
  | .compileErrorTraced, t => readTraced t
  | .compileErrorBare, _ => readBare
  | .warningInline, _ => readWarning
  | .warningBlock, _ => readBlock .warning
  | .compileErrorBlock, _ => readBlock .error

/-- The shapes that the compiler prints are one for each tag, given by its reader. -/
theorem mem_builtinShapes {s : Shape} :
    s ∈ Catalog.builtinShapes ↔ ∃ tag, s = ofReader tag (readerOf tag) := by
  have hall : Catalog.builtinShapes = Tag.all.map fun tag => ofReader tag (readerOf tag) := rfl
  rw [hall, List.mem_map]
  constructor
  · rintro ⟨tag, -, rfl⟩
    exact ⟨tag, rfl⟩
  · rintro ⟨tag, rfl⟩
    exact ⟨tag, Tag.mem_all tag, rfl⟩

variable {t : Trace.Classifier} {line : Text} {lines before after rest : List Text} {e : Evidence}

/-- What a reader sees is decided by the lines that it takes up. -/
structure Evident (read : List Text → Option Evidence) (lines : List Text) (e : Evidence) :
    Prop where
  /-- A line is taken up. -/
  length_pos : 0 < e.length
  /-- All lines that are taken up are there. -/
  length_le : e.length ≤ lines.length
  /-- Whatever follows these lines, the same is seen. -/
  read_take : ∀ rest, read (lines.take e.length ++ rest) = some e

/-- A reader that stops behind the lines `before` sees the same whatever follows them. -/
theorem evident_of_append {read : List Text → Option Evidence} (before after : List Text)
    (hlength : e.length = before.length) (hne : before ≠ [])
    (h : ∀ other, read (before ++ other) = some e) :
    Evident read (before ++ after) e where
  length_pos := by
    rw [hlength]
    exact List.length_pos_iff.2 hne
  length_le := by
    rw [hlength, List.length_append]
    omega
  read_take := by
    intro other
    rw [hlength, List.take_left]
    exact h other

/-- An error with its location under the banner takes up two lines. -/
theorem length_of_readInline (h : readInline lines = some e) : e.length = 2 := by
  cases readInline_eq_some_iff.1 h with
  | mk => rfl

/-- The evidence of an error with its location under the banner is in its two lines. -/
theorem evident_readInline (h : readInline lines = some e) : Evident readInline lines e := by
  cases readInline_eq_some_iff.1 h with
  | @mk banner error _ _ _ _ rest hbanner herror htail =>
    exact evident_of_append [banner, error] rest rfl (by simp) fun _ =>
      readInline_eq_some_iff.2 (.mk hbanner herror htail)

/-- A traced error takes up the banner, the error line and a line of the trace at least. -/
theorem le_length_of_readTraced (h : readTraced t lines = some e) : 3 ≤ e.length := by
  cases readTraced_eq_some_iff.1 h with
  | mk => exact Nat.le_add_left 3 _

/-- The evidence of a traced error is in the lines up to its anchor. -/
theorem evident_readTraced (h : readTraced t lines = some e) :
    Evident (readTraced t) lines e := by
  cases readTraced_eq_some_iff.1 h with
  | mk hannounced hmessage hlocation htrace =>
    refine ⟨Nat.succ_pos _, Nat.add_le_add_right htrace.lt_length 2, ?_⟩
    intro other
    exact readTraced_eq_some_iff.2 (.mk hannounced hmessage hlocation (htrace.take_append other))

/-- The evidence of a bare error is in its line. -/
theorem evident_readBare (h : readBare lines = some e) : Evident readBare lines e := by
  cases readBare_eq_some_iff.1 h with
  | @mk line _ _ _ rest hparts hwarning hplace =>
    exact evident_of_append [line] rest rfl (by simp) fun _ =>
      readBare_eq_some_iff.2 (.mk hparts hwarning hplace)

/-- The evidence of a warning on one line is in that line. -/
theorem evident_readWarning (h : readWarning lines = some e) : Evident readWarning lines e := by
  cases readWarning_eq_some_iff.1 h with
  | @mk line _ _ _ rest hparts =>
    exact evident_of_append [line] rest rfl (by simp) fun _ => readWarning_eq_some_iff.2 (.mk hparts)

/-- The evidence of a block is in the lines up to its location. -/
theorem evident_readBlock {severity : Severity} (h : readBlock severity lines = some e) :
    Evident (readBlock severity) lines e := by
  cases readBlock_eq_some_iff.1 h with
  | mk hhead hbody =>
    refine ⟨Nat.succ_pos _, Nat.add_le_add_right hbody.lt_length 1, ?_⟩
    intro other
    exact readBlock_eq_some_iff.2 (.mk hhead (hbody.take_append other))

/-- The lines that are taken up decide what the reader of any shape sees. -/
theorem evident_readerOf {tag : Tag} (h : readerOf tag t lines = some e) :
    Evident (readerOf tag t) lines e := by
  cases tag with
  | compileErrorInline => exact evident_readInline h
  | compileErrorTraced => exact evident_readTraced h
  | compileErrorBare => exact evident_readBare h
  | warningInline => exact evident_readWarning h
  | warningBlock => exact evident_readBlock h
  | compileErrorBlock => exact evident_readBlock h

end Shape

end ElixirDiagnostics
