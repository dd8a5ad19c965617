import ElixirDiagnostics.Proofs.Location
import ElixirDiagnostics.Proofs.Text.Decimal

/-!
# Locations as they are written

A place in a file is written as the file's name, a colon and the line, and maybe a colon and the
column. A name that is no single letter cannot be taken for a drive, so there is one way to read it,
and the digits of the line and the column are read to their ends. Therefore a written place is read
back, whatever message follows it. Any name before a colon, on a drive or not, is among the readings
of the text, and only a letter alone stands behind a reading that takes it for a drive.
-/

namespace ElixirDiagnostics

namespace Text

/-- What follows a known piece is found behind it. -/
theorem after?_append (p s : Text) : after? p (p ++ s) = some s :=
  after?_eq_some_iff.2 rfl

/-- A run is read to its end, where a character of another class or nothing stands. -/
theorem run?_append {p : Char → Bool} {w r : Text} (hne : w ≠ []) (hw : ∀ c ∈ w, p c = true)
    (hr : ∀ c, r.head? = some c → p c = false) : run? p (w ++ r) = some (w, r) := by
  have hstop : r.takeWhile p = [] ∧ r.dropWhile p = r := by
    cases r with
    | nil => exact ⟨rfl, rfl⟩
    | cons c r =>
      have hc : ¬p c = true := by simp [hr c rfl]
      exact ⟨List.takeWhile_cons_of_neg hc, List.dropWhile_cons_of_neg hc⟩
  rw [run?, List.takeWhile_append_of_pos hw, List.dropWhile_append_of_pos hw, hstop.1, hstop.2,
    List.append_nil, if_neg (by simpa using hne)]

end Text

namespace Location

open Text

/-- The name of a file that does not begin with a drive: visible characters without a colon, not a
letter alone. -/
structure IsPlainFile (f : Text) : Prop where
  /-- It is not empty. -/
  ne_nil : f ≠ []
  /-- It has no blank space and no colon. -/
  chars : ∀ c ∈ f, isFileChar c = true
  /-- It is not the letter of a drive. -/
  not_letter : ∀ c, f = [c] → c.isAlpha = false

/-- Decimal digits of any script, at least one. -/
structure IsNumeral (d : Text) : Prop where
  /-- There is a digit. -/
  ne_nil : d ≠ []
  /-- There are only digits. -/
  digits : ∀ c ∈ d, isDecimal c = true

/-- A place in a file, as it is written. -/
structure Place where
  /-- The file. -/
  file : Text
  /-- The digits of the line. -/
  line : Text
  /-- The digits of the column, if there is one. -/
  column : Option Text
  /-- The file has a plain name. -/
  isFile : IsPlainFile file
  /-- The line is a number. -/
  isLine : IsNumeral line
  /-- So is the column. -/
  isColumn : ∀ d ∈ column, IsNumeral d

/-- The column behind its colon. -/
def columnText : Option Text → Text
  | none => []
  | some d => ':' :: d

/-- What is written of a place behind the file. -/
def Place.rest (p : Place) : Text := ':' :: p.line ++ columnText p.column

/-- A place in writing. -/
def Place.text (p : Place) : Text := p.file ++ p.rest

/-- A text that begins with a location of its own: a file, a colon and a line number, maybe another
colon and a column, then a colon and a blank. -/
inductive BeginsWithLocation : Text → Prop where
  /-- The location stands before the rest of the text. -/
  | mk {file line : Text} {column : Option Text} (hfile : IsFile isFileChar file)
      (hline : IsNumeral line) (hcolumn : ∀ d ∈ column, IsNumeral d) (rest : Text) :
      BeginsWithLocation (file ++ ':' :: (line ++ columnText column ++ ": ".toList ++ rest))

variable {f d r m : Text} {n : Nat} {p : Char → Bool}

/-- ASCII digits that write a number are decimal digits. -/
theorem isNumeral_of_writes (h : Writes d n) : IsNumeral d where
  ne_nil := h.ne_nil
  digits := fun c hc => isDecimal_of_isDigit (h.ascii c hc)

/-- A colon ends a run of characters that are no colons. -/
theorem head?_of_colon (hcolon : p ':' = false) (r : Text) :
    ∀ c, (':' :: r).head? = some c → p c = false := by
  intro c hc
  obtain rfl : ':' = c := by simpa using hc
  exact hcolon

/-- A file before a colon is read. -/
theorem mem_fileReadings_of_isFile (hcolon : p ':' = false) (h : IsFile p f) (r : Text) :
    (f, ':' :: r) ∈ fileReadings p (f ++ ':' :: r) := by
  cases h with
  | name hne hchars =>
    have hrun := run?_append hne hchars (head?_of_colon hcolon r)
    exact List.mem_append_right _ (by simp [hrun])
  | drive hc hne hchars =>
    have hrun := run?_append hne hchars (head?_of_colon hcolon r)
    exact List.mem_append_left _ (by simp [hc, hrun])

/-- A name that is no letter has one reading before a colon. -/
theorem fileReadings_of_name (hcolon : p ':' = false) (hne : f ≠ []) (hchars : ∀ c ∈ f, p c = true)
    (hletter : ∀ c, f = [c] → c.isAlpha = false) (r : Text) :
    fileReadings p (f ++ ':' :: r) = [(f, ':' :: r)] := by
  have hrun := run?_append hne hchars (head?_of_colon hcolon r)
  unfold fileReadings
  rw [hrun]
  obtain ⟨c, f, rfl⟩ := List.exists_cons_of_ne_nil hne
  cases f with
  | nil => simp [hletter c rfl]
  | cons e f =>
    -- The second character is none of a drive, since it is no colon.
    have he : e ≠ ':' := by
      rintro rfl
      rw [hchars ':' (by simp)] at hcolon
      contradiction
    simp [he]

/-- A file before a colon is read first, unless it is a letter that is taken for the drive of what
follows it. -/
theorem fileReadings_of_isFile (hcolon : p ':' = false) (h : IsFile p f) (r : Text) :
    (∃ rest, fileReadings p (f ++ ':' :: r) = (f, ':' :: r) :: rest) ∨
      ∃ c w r', f = [c] ∧ run? p r = some (w, r') ∧
        fileReadings p (f ++ ':' :: r) = [(c :: ':' :: w, r'), (f, ':' :: r)] := by
  cases h with
  | name hne hchars =>
    by_cases hletter : ∀ c, f = [c] → c.isAlpha = false
    · exact Or.inl ⟨[], fileReadings_of_name hcolon hne hchars hletter r⟩
    · simp only [Classical.not_forall, Bool.not_eq_false] at hletter
      obtain ⟨c, rfl, hc⟩ := hletter
      have hrun := run?_append hne hchars (head?_of_colon hcolon r)
      rw [List.singleton_append] at hrun
      cases hdrive : run? p r with
      | none => exact Or.inl ⟨[], by simp [fileReadings, hrun, hdrive]⟩
      | some wr => exact Or.inr ⟨c, wr.1, wr.2, rfl, rfl, by simp [fileReadings, hc, hrun, hdrive]⟩
  | drive hc hne hchars =>
    have hrun := run?_append hne hchars (head?_of_colon hcolon r)
    exact Or.inl ⟨_, by simp only [fileReadings, List.cons_append, hc, hrun]; rfl⟩

/-- A plain name before a colon has one reading. -/
theorem fileReadings_of_isPlainFile (h : IsPlainFile f) (r : Text) :
    fileReadings isFileChar (f ++ ':' :: r) = [(f, ':' :: r)] :=
  fileReadings_of_name (by decide) h.ne_nil h.chars h.not_letter r

/-- A line number before another character is read back. -/
theorem lineDigits?_of_isNumeral (h : IsNumeral d)
    (hr : ∀ c, r.head? = some c → isDecimal c = false) :
    lineDigits? (':' :: d ++ r) = some (d, r) :=
  run?_append h.ne_nil h.digits hr

/-- Where a column can stand before a colon and a blank, there is no further digit. -/
theorem head?_columnText (column : Option Text) (m : Text) :
    ∀ c, (columnText column ++ ": ".toList ++ m).head? = some c → isDecimal c = false := by
  intro c hc
  obtain rfl : ':' = c := by
    cases hcolumn : column <;> simpa [hcolumn, columnText] using hc
  decide

/-- A column is skipped, and where there is none, nothing is. -/
theorem skipColumn_columnText {column : Option Text} (h : ∀ d ∈ column, IsNumeral d) (m : Text) :
    skipColumn (columnText column ++ ": ".toList ++ m) = ": ".toList ++ m := by
  cases column with
  | none => rfl
  | some d =>
    have hread : lineDigits? (':' :: d ++ (": ".toList ++ m)) = some (d, ": ".toList ++ m) :=
      lineDigits?_of_isNumeral (h d rfl) (head?_columnText none m)
    rw [columnText, List.append_assoc, skipColumn, hread]

/-- What is skipped is a column or nothing. -/
theorem eq_columnText_append (s : Text) :
    ∃ column, (∀ d ∈ column, IsNumeral d) ∧ s = columnText column ++ skipColumn s := by
  unfold skipColumn
  split
  · next d r h =>
    obtain ⟨rfl, hne, hdigits⟩ := lineDigits?_eq_some h
    refine ⟨some d, fun d' hd' => ?_, rfl⟩
    obtain rfl : d = d' := by simpa using hd'
    exact ⟨hne, hdigits⟩
  · exact ⟨none, by simp, rfl⟩

/-- A line number before a column or none is read back. -/
theorem lineDigits?_columnText (h : IsNumeral d) (column : Option Text) (m : Text) :
    lineDigits? (':' :: d ++ columnText column ++ ": ".toList ++ m) =
      some (d, columnText column ++ ": ".toList ++ m) := by
  have hread := lineDigits?_of_isNumeral h (head?_columnText column m)
  rwa [List.append_assoc, List.append_assoc, ← List.append_assoc (columnText column)]

/-- A column holds no blank space. -/
theorem isSolid_columnText {column : Option Text} (h : ∀ d ∈ column, IsNumeral d) :
    IsSolid (columnText column) := by
  cases column with
  | none => simp [columnText, IsSolid]
  | some d => exact .cons (by decide) (isSolid_of_decimal (h d rfl).digits)

/-- Neither does a place. -/
theorem isSolid_text (p : Place) : IsSolid p.text := by
  have hfile : IsSolid p.file := fun c hc => isSpace_eq_false_of_isFileChar (p.isFile.chars c hc)
  have hline : IsSolid (':' :: p.line) := .cons (by decide) (isSolid_of_decimal p.isLine.digits)
  exact hfile.append (hline.append (isSolid_columnText p.isColumn))

/-- The line of a place is read back from what follows the file. -/
theorem lineDigits?_rest (p : Place) (m : Text) :
    lineDigits? (p.rest ++ ": ".toList ++ m) =
      some (p.line, columnText p.column ++ ": ".toList ++ m) :=
  lineDigits?_columnText p.isLine p.column m

/-- The file of a place is read in one way. -/
theorem fileReadings_text (p : Place) (m : Text) :
    fileReadings isFileChar (p.text ++ ": ".toList ++ m) =
      [(p.file, p.rest ++ ": ".toList ++ m)] := by
  have hread := fileReadings_of_isPlainFile p.isFile
    (p.line ++ columnText p.column ++ ": ".toList ++ m)
  simpa [Place.text, Place.rest] using hread

/-- A text that begins with a visible character and is one line is a message, all of it. -/
theorem message?_of_visible (hne : m ≠ []) (hm : isIndented m = false) (hline : '\n' ∉ m) :
    message? m = some m :=
  message?_eq_some_iff.2 ⟨rfl, hne, hm, hline⟩

end Location

end ElixirDiagnostics
