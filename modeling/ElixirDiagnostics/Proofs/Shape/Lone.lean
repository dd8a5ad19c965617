import ElixirDiagnostics.Proofs.Shape.Priority
import ElixirDiagnostics.Proofs.Shape.Written

/-!
# Lines that tell a place and a message

A line that is written as a place and a message is a diagnostic of its own. It is a warning if the
word for warnings stands between them, and otherwise an error, with its kind before the place or
without. Whatever the message is, even one that looks like another place, the file and the line are
those of the written place. Digits that write zero, or a number that needs more than 64 bits, put
the diagnostic on the first line, and the column never counts.
-/

namespace ElixirDiagnostics

namespace Shape

open Text Location

variable {t : Trace.Classifier} {p : Place} {tag : Tag} {m file digits : Text} {lines : List Text}
  {i n : Nat}

/-- A warning on a line of its own, as it is written. -/
def warningLine (p : Place) (m : Text) : Text := p.text ++ ": warning: ".toList ++ m

/-- An error on a line of its own, as it is written without its kind. -/
def bareLine (p : Place) (m : Text) : Text := p.text ++ ": ".toList ++ m

/-- The line on which a diagnostic is put whose place is written with this number: the number is
kept if it counts a line and fits into 64 bits. -/
def keptLine (n : Nat) : Nat := if 1 ≤ n ∧ n < UInt64.size then n else Diagnostic.defaultLine

/-- The record of what is seen at a place is on the line that its digits write, if this is one. -/
theorem line_diagnostic_of_writes {s : Sighting} (hline : s.line? = number? digits)
    (hdigits : Writes digits n) : s.diagnostic.line = keptLine n := by
  unfold Sighting.diagnostic
  dsimp only
  rw [hline, number?_of_writes hdigits]
  by_cases hlt : n < UInt64.size
  · cases n with
    | zero => rfl
    | succ k => simp [keptLine, hlt]
  · simp [keptLine, hlt]

/-- The parts of a warning line are read back. -/
theorem warningParts?_warningLine (p : Place) (hm : message? m = some m) :
    warningParts? (warningLine p m) = some (p.file, p.line, m) := by
  have hsplit : warningLine p m = p.text ++ ": ".toList ++ ("warning: ".toList ++ m) := by
    simp [warningLine]
  have hword : after? ": warning: ".toList (": ".toList ++ ("warning: ".toList ++ m)) = some m :=
    after?_eq_some_iff.2 rfl
  rw [hsplit, warningParts?, fileReadings_text, List.findSome?_cons]
  dsimp only
  rw [lineDigits?_rest]
  simp only [Option.bind_eq_bind, Option.bind_some]
  rw [skipColumn_columnText p.isColumn, hword, Option.bind_some, hm]
  rfl

/-- A warning line is read back. -/
theorem readWarning_warningLine (p : Place) (hm : message? m = some m) (rest : List Text) :
    readWarning (warningLine p m :: rest) = some (located p m 1) :=
  readWarning_eq_some_iff.2 (.mk (warningParts?_warningLine p hm))

/-- A line that begins with a place has no kind of an error before it. -/
theorem errorKind?_bareLine (p : Place) (m : Text) : errorKind? (bareLine p m) = none := by
  cases hkind : errorKind? (bareLine p m) with
  | none => rfl
  | some kr =>
    -- The two asterisks would be its first word, which ends with the colon behind the place.
    obtain ⟨r, hr⟩ := errorKind?_eq_some hkind
    have hline : (p.text ++ [':']) ++ ' ' :: m = "**".toList ++ ' ' :: ('(' :: r) := by
      rw [← List.append_cons]
      simpa [bareLine] using hr
    have hplace : IsSolid (p.text ++ [':']) := (isSolid_text p).append (by decide)
    have hstars : IsSolid "**".toList := by decide
    have hword : p.text ++ [':'] = "**".toList := by
      rw [← takeWhile_of_isSolid hplace m, hline, takeWhile_of_isSolid hstars]
    have hcolon : ':' ∈ "**".toList := by simp [← hword]
    exact absurd hcolon (by decide)

/-- A line without a kind is read back as a bare error, unless the message is a warning's. -/
theorem readBare_bareLine (p : Place) (hm : message? m = some m)
    (hwarning : ¬"warning:".toList <+: m) (rest : List Text) :
    readBare (bareLine p m :: rest) = some (located p m 1) := by
  have hsaying : saying (bareLine p m) = bareLine p m := by
    rw [saying, errorKind?_bareLine]
    rfl
  exact readBare_of_saying hsaying hm hwarning rest

/-- A sighting of this kind and with this record is made at a position, and it takes up the one line
there. -/
def SeenOnLine (t : Trace.Classifier) (lines : List Text) (i : Nat) (tag : Tag) (d : Diagnostic) :
    Prop :=
  ∃ m, (Catalog.builtin t).firstAt lines i = some m ∧ m.tag = tag ∧ m.start = i ∧ m.stop = i + 1 ∧
    m.diagnostic = d

/-- Whatever is read from a line that tells a place is seen there. -/
theorem seenOnLine_of_read {line : Text} (hdigits : Writes p.line n)
    (htag : tag ≠ .compileErrorTraced) (hline : lines[i]? = some line)
    (hread : ∀ rest, readerOf tag t (line :: rest) = some (located p m 1)) :
    SeenOnLine t lines i tag ⟨p.file, keptLine n, tag.severity, trim m⟩ := by
  have hdrop : lines.drop i = line :: lines.drop (i + 1) := drop_eq_cons_iff.2 ⟨hline, rfl⟩
  have hseen : readerOf tag t (lines.drop i) = some (located p m 1) := by
    rw [hdrop]
    exact hread _
  refine ⟨_, builtin_firstAt_of_read htag hseen, rfl, rfl, rfl, ?_⟩
  rw [← line_diagnostic_of_writes (s := ⟨tag, p.file, number? p.line, m, i, i + 1⟩) rfl hdigits]
  rfl

/-- A line that is written as a place and a message, with the word for warnings between them, is
seen as a warning at this place. Without this word it is seen as an error, with or without a kind
before the place, unless the message begins as a warning's. The sighting takes up this line alone,
and its record is on the line whose digits are written before the column, if there is such a line.
-/
theorem seenOnLine_of_written (t : Trace.Classifier) (p : Place) (hdigits : Writes p.line n)
    (hne : m ≠ []) (hvisible : isIndented m = false) (hnewline : '\n' ∉ m)
    (lines : List Text) (i : Nat) :
    (lines[i]? = some (warningLine p m) →
      SeenOnLine t lines i .warningInline ⟨p.file, keptLine n, .warning, trim m⟩) ∧
    (¬"warning:".toList <+: m →
      (lines[i]? = some (bareLine p m) ∨
        ∃ kind, IsKind kind ∧ lines[i]? = some (locatedLine kind p m)) →
      SeenOnLine t lines i .compileErrorBare ⟨p.file, keptLine n, .error, trim m⟩) := by
  have hm : message? m = some m := message?_of_visible hne hvisible hnewline
  refine ⟨fun hline => ?_, fun hwarning hline => ?_⟩
  · exact seenOnLine_of_read hdigits nofun hline fun rest => readWarning_warningLine p hm rest
  · rcases hline with hline | ⟨kind, hkind, hline⟩
    · exact seenOnLine_of_read hdigits nofun hline fun rest => readBare_bareLine p hm hwarning rest
    · exact seenOnLine_of_read hdigits nofun hline fun rest =>
        readBare_locatedLine hkind hm hwarning rest

/-- A place in a file that is named by two asterisks, with a line number that needs 65 bits and a
column. -/
def beyondWords : Place where
  file := "**".toList
  line := "18446744073709551616".toList
  column := some "7".toList
  isFile := ⟨by decide, List.all_eq_true.1 (by decide), by simp⟩
  isLine := ⟨by decide, List.all_eq_true.1 (by decide)⟩
  isColumn := by
    intro d hd
    obtain rfl : "7".toList = d := by simpa using hd
    exact ⟨by decide, List.all_eq_true.1 (by decide)⟩

/-- A message that looks like a warning at another place, with a blank at its end. -/
def misleading : Text := "b.ex:1: warning: c ".toList

/-- Written in each of the three ways, it is seen at the first line of the file. -/
theorem seenOnLine_beyondWords :
    Writes beyondWords.line 18446744073709551616 ∧ ¬"warning:".toList <+: misleading ∧
    SeenOnLine {} ["Compiling".toList, warningLine beyondWords misleading] 1 .warningInline
      ⟨"**".toList, 1, .warning, "b.ex:1: warning: c".toList⟩ ∧
    ∀ line ∈ [bareLine beyondWords misleading, locatedLine ['E'] beyondWords misleading],
      SeenOnLine {} [line] 0 .compileErrorBare
        ⟨"**".toList, 1, .error, "b.ex:1: warning: c".toList⟩ := by
  have hdigits : Writes beyondWords.line 18446744073709551616 :=
    ⟨by decide, List.all_eq_true.1 (by decide), by decide⟩
  have hwarning : ¬"warning:".toList <+: misleading := by decide
  have hkind : IsKind ['E'] := ⟨by decide, List.all_eq_true.1 (by decide)⟩
  have hseen := seenOnLine_of_written {} beyondWords hdigits (m := misleading) (by decide)
    (by decide) (by decide)
  refine ⟨hdigits, hwarning, (hseen _ 1).1 rfl, List.forall_mem_cons.2 ⟨?_, ?_⟩⟩
  · exact (hseen _ 0).2 hwarning (Or.inl rfl)
  · refine List.forall_mem_singleton.2 ?_
    exact (hseen _ 0).2 hwarning (Or.inr ⟨['E'], hkind, rfl⟩)

end Shape

end ElixirDiagnostics
