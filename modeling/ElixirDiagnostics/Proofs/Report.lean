import ElixirDiagnostics.CommandLine.Session
import ElixirDiagnostics.Proofs.Text.Cut
import ElixirDiagnostics.Proofs.Text.Decimal
import ElixirDiagnostics.Proofs.Text.Pieces
import ElixirDiagnostics.Proofs.Text.Trim

/-!
# Reports that are read line by line

A report in plain text is printed one diagnostic a line. It can be read back line by line if no
diagnostic has a newline of its own, and none ends with a carriage return, which would be taken for
a part of the line end. Both hold as soon as the file and the message have no newline and no blank
space ends the message.
-/

namespace ElixirDiagnostics

namespace Text

variable {l s : Text} {c : Char} {ls : List Text}

/-- A text that is one line of what is printed: it has no newline, and no carriage return ends it.
-/
structure IsLine (l : Text) : Prop where
  /-- It has no newline. -/
  newline_not_mem : '\n' ∉ l
  /-- No carriage return ends it. -/
  getLast?_ne : l.getLast? ≠ some '\r'

/-- A line before a newline is read back. -/
theorem IsLine.lines_append_newline (h : IsLine l) : lines (l ++ ['\n']) = [l] := by
  obtain ⟨hnewline, hlast⟩ := h
  induction l with
  | nil => simp [lines]
  | cons c l ih =>
    have hc : c ≠ '\n' := fun hc => hnewline (hc ▸ List.mem_cons_self)
    have hl : '\n' ∉ l := fun hl => hnewline (List.mem_cons_of_mem c hl)
    have hend : l.getLast? ≠ some '\r' := by
      intro he
      rw [List.getLast?_cons, he] at hlast
      exact hlast rfl
    -- A carriage return right before the newline would be the end of the line.
    have hreturn : c = '\r' → (l ++ ['\n']).head? ≠ some '\n' := by
      rintro rfl hd
      cases l with
      | nil => exact hlast rfl
      | cons d l =>
        obtain rfl : d = '\n' := by simpa using hd
        exact hl List.mem_cons_self
    rw [List.cons_append, lines_cons_of_plain hc hreturn, ih hl hend]

/-- Lines, each with a newline behind it, are read back. -/
theorem lines_flatMap (h : ∀ l ∈ ls, IsLine l) : lines (ls.flatMap (· ++ ['\n'])) = ls := by
  induction ls with
  | nil => rfl
  | cons l ls ih =>
    have hl := (h l List.mem_cons_self).lines_append_newline
    have hls := ih fun k hk => h k (List.mem_cons_of_mem l hk)
    have hend : EndsLine (l ++ ['\n']) := Or.inr List.getLast?_concat
    rw [List.flatMap_cons, lines_append hend, hl, hls, List.singleton_append]

/-- Lines with newlines between them and one behind them are lines with a newline behind each. -/
theorem intercalate_append_newline (hne : ls ≠ []) :
    List.intercalate ['\n'] ls ++ ['\n'] = ls.flatMap (· ++ ['\n']) := by
  induction ls with
  | nil => contradiction
  | cons l ls ih =>
    cases ls with
    | nil => simp
    | cons k ks =>
      rw [List.flatMap_cons, ← ih (by simp), List.intercalate_cons_cons, List.append_assoc]

/-- A text without newlines is one line. -/
theorem lines_of_newline_not_mem (hne : l ≠ []) (h : '\n' ∉ l) : lines l = [l] := by
  induction l with
  | nil => contradiction
  | cons c l ih =>
    have hc : c ≠ '\n' := fun hc => h (hc ▸ List.mem_cons_self)
    have hl : '\n' ∉ l := fun hl => h (List.mem_cons_of_mem c hl)
    have hhead : l.head? ≠ some '\n' := fun hd => hl (List.mem_of_mem_head? hd)
    rw [lines_cons_of_plain hc fun _ => hhead]
    cases l with
    | nil => simp [lines]
    | cons d l => rw [ih (by simp) hl]

/-- Lines with newlines between them, and none behind the last one, are read back if they are not
empty. -/
theorem lines_intercalate (h : ∀ l ∈ ls, IsLine l ∧ l ≠ []) :
    lines (List.intercalate ['\n'] ls) = ls := by
  induction ls with
  | nil => rfl
  | cons l ls ih =>
    obtain ⟨hl, hne⟩ := h l List.mem_cons_self
    cases ls with
    | nil =>
      rw [List.intercalate_singleton]
      exact lines_of_newline_not_mem hne hl.newline_not_mem
    | cons k ks =>
      have hrest := ih fun k hk => h k (List.mem_cons_of_mem l hk)
      have hend : EndsLine (l ++ ['\n']) := Or.inr List.getLast?_concat
      rw [List.intercalate_cons_cons, lines_append hend, hl.lines_append_newline, hrest,
        List.singleton_append]

/-- What joined texts hold is in one of them or in what is put between them. -/
theorem mem_of_mem_intercalate (h : c ∈ List.intercalate s ls) : c ∈ s ∨ ∃ l ∈ ls, c ∈ l := by
  induction ls with
  | nil => contradiction
  | cons l ls ih =>
    cases ls with
    | nil =>
      rw [List.intercalate_singleton] at h
      exact Or.inr ⟨l, List.mem_cons_self, h⟩
    | cons k ks =>
      rw [List.intercalate_cons_cons, List.mem_append, List.mem_append] at h
      rcases h with (hl | hs) | h
      · exact Or.inr ⟨l, List.mem_cons_self, hl⟩
      · exact Or.inl hs
      · rcases ih h with hs | ⟨l', hl', hc⟩
        · exact Or.inl hs
        · exact Or.inr ⟨l', List.mem_cons_of_mem l hl', hc⟩

/-- Texts of which the first is not empty make one that is not empty. -/
theorem intercalate_ne_nil (h : l ≠ []) : List.intercalate s (l :: ls) ≠ [] := by
  cases ls with
  | nil => simpa using h
  | cons k ks => simp [List.intercalate_cons_cons, h]

end Text

namespace Diagnostic

open Text

variable {d : Diagnostic} {c : Char}

/-- A diagnostic written out: its file, its line, the word for its severity and its message. -/
def written (d : Diagnostic) : Text :=
  let severity :=
    match d.severity with
    | .error => "error".toList
    | .warning => "warning".toList
  d.file ++ ':' :: ofNat d.line ++ ": ".toList ++ severity ++ ": ".toList ++ d.message

/-- This is how it is displayed. -/
theorem display_eq_written (d : Diagnostic) : d.display = d.written := by
  obtain ⟨file, line, severity, message⟩ := d
  cases severity <;> rfl

/-- There is always something to display. -/
theorem display_ne_nil (d : Diagnostic) : d.display ≠ [] := by
  simp [display]

/-- A display holds nothing but the file, digits, the word for the severity, colons and blanks, and
the message. -/
theorem not_mem_display (hfile : c ∉ d.file) (hmessage : c ∉ d.message) (hdigit : c.isDigit = false)
    (hcolon : c ∉ ": ".toList) (hword : c ∉ d.severity.word) : c ∉ d.display := by
  have hline := not_mem_ofNat hdigit d.line
  have hcolon' : c ≠ ':' := fun h => hcolon (h ▸ List.mem_cons_self)
  simp only [display, place, List.mem_append, List.mem_cons, not_or]
  exact ⟨⟨⟨⟨⟨hfile, hcolon', hline⟩, hcolon⟩, hword⟩, hcolon⟩, hmessage⟩

/-- A display has no part of a colour sequence if the file and the message have none. -/
theorem escape_not_mem_display (hfile : escape ∉ d.file) (hmessage : escape ∉ d.message) :
    escape ∉ d.display := by
  have hword : escape ∉ d.severity.word := by cases d.severity <;> decide
  exact not_mem_display hfile hmessage (by decide) (by decide) hword

/-- A diagnostic is displayed on one line if its file and its message have no newline and the
message does not end with a carriage return. -/
theorem isLine_display (hfile : '\n' ∉ d.file) (hmessage : '\n' ∉ d.message)
    (hlast : d.message.getLast? ≠ some '\r') : IsLine d.display where
  newline_not_mem := by
    have hword : '\n' ∉ d.severity.word := by cases d.severity <;> decide
    exact not_mem_display hfile hmessage (by decide) (by decide) hword
  getLast?_ne := by
    unfold display
    rw [List.getLast?_append]
    cases hm : d.message.getLast? with
    | none => simp [List.getLast?_cons, List.getLast?_append]
    | some c =>
      rw [hm] at hlast
      simpa using hlast

end Diagnostic

namespace Report

open Text

/-- Neither has the plain report. -/
theorem escape_not_mem_renderText {ds : List Diagnostic}
    (h : ∀ d ∈ ds, escape ∉ d.file ∧ escape ∉ d.message) : escape ∉ renderText false ds := by
  intro hmem
  rcases mem_of_mem_intercalate hmem with hnewline | ⟨l, hl, hmem⟩
  · exact absurd hnewline (by decide)
  · obtain ⟨d, hd, rfl⟩ := List.mem_map.1 hl
    exact d.escape_not_mem_display (h d hd).1 (h d hd).2 hmem

end Report

namespace CommandLine

/-- The report of a session in plain text is one line for each diagnostic, and nothing if there are
none. -/
theorem out_ofReport (ds : List Diagnostic) :
    (Ending.ofReport .text false ds).out = ds.flatMap (·.display ++ ['\n']) := by
  have hline : Report.line false = Diagnostic.display := rfl
  cases ds with
  | nil => rfl
  | cons d ds =>
    have hne : (Report.render .text false (d :: ds)).isEmpty = false := by
      rw [List.isEmpty_eq_false_iff]
      exact Text.intercalate_ne_nil d.display_ne_nil
    have hout : (Ending.ofReport .text false (d :: ds)).out =
        List.intercalate ['\n'] ((d :: ds).map Diagnostic.display) ++ ['\n'] := by
      simp only [Ending.ofReport, hne]
      rfl
    rw [hout, Text.intercalate_append_newline (by simp), List.flatMap_map]

/-- Read line by line it gives back what is displayed, if each diagnostic is displayed on one
line. -/
theorem lines_out_ofReport {ds : List Diagnostic} (h : ∀ d ∈ ds, Text.IsLine d.display) :
    Text.lines (Ending.ofReport .text false ds).out = ds.map Diagnostic.display := by
  have hlines : ∀ l ∈ ds.map Diagnostic.display, Text.IsLine l := List.forall_mem_map.2 h
  rw [out_ofReport, ← Text.lines_flatMap hlines, List.flatMap_map]

end CommandLine

end ElixirDiagnostics
