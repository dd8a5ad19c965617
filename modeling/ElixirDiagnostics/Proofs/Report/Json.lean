import ElixirDiagnostics.Proofs.Json.Pretty
import ElixirDiagnostics.Proofs.Report

/-!
# JSON reports that are read back

A JSON report has a line for each field of a diagnostic, in a fixed order and indented by its level.
Whatever characters stand in files and messages, the escapes keep control characters out of the
lines, so the layout is the only source of line ends. The report is standard JSON for the array of
the diagnostics' objects. It is read back as this array, and each object as its diagnostic, if the
line of the diagnostic is a number of 64 bits.
-/

namespace ElixirDiagnostics

namespace Text

variable {l s : Text}

/-- The first of several texts stands before all others, each behind a separator. -/
theorem intercalate_cons (s l : Text) (ls : List Text) :
    List.intercalate s (l :: ls) = l ++ ls.flatMap (s ++ ·) := by
  induction ls generalizing l with
  | nil => simp
  | cons k ks ih =>
    rw [List.intercalate_cons_cons, ih, List.flatMap_cons, List.append_assoc, List.append_assoc]

/-- A text without control characters is one line. -/
theorem IsPrintable.isLine (h : IsPrintable l) : IsLine l where
  newline_not_mem := fun hnewline => absurd (h '\n' hnewline) (by decide)
  getLast?_ne := fun hreturn => absurd (h '\r' (List.mem_of_getLast? hreturn)) (by decide)

end Text

namespace Report

open Text

variable {d : Diagnostic} {ds : List Diagnostic} {l close : Text}

/-- The lines of a diagnostic in a JSON report, with what closes it. -/
def objectLines (close : Text) (d : Diagnostic) : List Text :=
  ["  \x7b".toList,
    "    \"file\": ".toList ++ Json.quote d.file ++ ",".toList,
    "    \"line\": ".toList ++ ofNat d.line ++ ",".toList,
    "    \"severity\": \"".toList ++ d.severity.word ++ "\",".toList,
    "    \"message\": ".toList ++ Json.quote d.message,
    close]

/-- The lines of diagnostics in a JSON report, with a comma behind each but the last. -/
def elementLines : List Diagnostic → List Text
  | [] => []
  | [d] => objectLines "  \x7d".toList d
  | d :: e :: ds => objectLines "  \x7d,".toList d ++ elementLines (e :: ds)

/-- The lines of a JSON report. -/
def jsonLines : List Diagnostic → List Text
  | [] => ["[]".toList]
  | d :: ds => "[".toList :: (elementLines (d :: ds) ++ ["]".toList])

/-- The object of a diagnostic holds whole numbers and strings only. -/
theorem isStandard_toJson (d : Diagnostic) : Json.IsStandard (toJson d) := by
  refine .object fun m hm => ?_
  simp only [List.mem_cons, List.not_mem_nil, or_false] at hm
  rcases hm with rfl | rfl | rfl | rfl
  · exact .string d.file
  · exact .integer d.line
  · exact .string d.severity.word
  · exact .string d.message

/-- A diagnostic is got back from its object, if its line fits into 64 bits. -/
theorem ofJson?_toJson (h : d.line < UInt64.size) : ofJson? (toJson d) = some d := by
  have hmembers : ofJson? (toJson d) = ofValues? (.string d.file) (.integer d.line)
      (.string d.severity.word) (.string d.message) := rfl
  have hline : lineOf? (.integer d.line) = some d.line := if_pos h
  have hseverity : severityOf? (.string d.severity.word) = some d.severity :=
    Severity.ofWord?_word d.severity
  rw [hmembers]
  simp only [ofValues?, textOf?, hline, hseverity, Option.bind_eq_bind, Option.bind_some]
  rfl

/-- Diagnostics are got back from the array of their objects. -/
theorem listOfJson?_toJson (h : ∀ d ∈ ds, d.line < UInt64.size) :
    listOfJson? (.array (ds.map toJson)) = some ds := by
  induction ds with
  | nil => rfl
  | cons d ds ih =>
    have hd := ofJson?_toJson (h d List.mem_cons_self)
    have hds : (ds.map toJson).mapM ofJson? = some ds :=
      ih fun e he => h e (List.mem_cons_of_mem d he)
    simp [listOfJson?, hd, hds]

/-- An object in a report is its lines, each behind a newline. -/
theorem pretty_toJson (d : Diagnostic) (close : Text) :
    Json.newLine 1 ++ (Json.pretty 1 (toJson d) ++ close) =
      (objectLines ("  \x7d".toList ++ close) d).flatMap (['\n'] ++ ·) := by
  have hfile := Json.quote_of_isPlain (s := "file".toList) (by decide)
  have hline := Json.quote_of_isPlain (s := "line".toList) (by decide)
  have hseverity := Json.quote_of_isPlain (s := "severity".toList) (by decide)
  have hmessage := Json.quote_of_isPlain (s := "message".toList) (by decide)
  have hword : Json.quote d.severity.word = '"' :: d.severity.word ++ ['"'] :=
    Json.quote_of_isPlain (by cases d.severity <;> decide)
  simp only [toJson, Json.pretty, Json.pretty.members, hfile, hline, hseverity, hmessage, hword,
    objectLines]
  simp [Json.newLine, List.replicate, ofInt]

/-- So are the objects of a report with the commas between them. -/
theorem elements_toJson (d : Diagnostic) (ds : List Diagnostic) :
    Json.newLine 1 ++ (Json.pretty 1 (toJson d) ++ Json.pretty.elements 1 (ds.map toJson)) =
      (elementLines (d :: ds)).flatMap (['\n'] ++ ·) := by
  induction ds generalizing d with
  | nil => exact pretty_toJson d []
  | cons e ds ih =>
    have hcomma := pretty_toJson d ",".toList
    have hclose : "  \x7d".toList ++ ",".toList = "  \x7d,".toList := by decide
    rw [hclose] at hcomma
    rw [elementLines, List.flatMap_append, ← hcomma, ← ih e]
    simp [Json.pretty.elements]

/-- A JSON report is its lines, with newlines between them. -/
theorem renderJson_eq_intercalate (ds : List Diagnostic) :
    renderJson ds = List.intercalate ['\n'] (jsonLines ds) := by
  cases ds with
  | nil => rfl
  | cons d ds =>
    rw [jsonLines, intercalate_cons, List.flatMap_append, ← elements_toJson]
    simp [renderJson, Json.pretty, Json.newLine]

/-- Digits are no control characters. -/
theorem isPrintable_ofNat (n : Nat) : IsPrintable (ofNat n) := by
  intro c hc
  have hdigit := (writes_ofNat n).ascii c hc
  obtain ⟨hlow, -⟩ := Bool.and_eq_true_iff.1 hdigit
  exact Nat.le_trans (by decide) (show '0'.toNat ≤ c.toNat from of_decide_eq_true hlow)

/-- No line of a diagnostic has a control character, and none is empty. -/
theorem isPrintable_of_mem_objectLines (hclose : IsPrintable close ∧ close ≠ [])
    (h : l ∈ objectLines close d) : IsPrintable l ∧ l ≠ [] := by
  have hword : IsPrintable d.severity.word := by cases d.severity <;> decide
  have hfile := Json.isPrintable_quote d.file
  have hmessage := Json.isPrintable_quote d.message
  have hline := isPrintable_ofNat d.line
  simp only [objectLines, List.mem_cons, List.not_mem_nil, or_false] at h
  rcases h with rfl | rfl | rfl | rfl | rfl | rfl
  · decide
  · exact ⟨(IsPrintable.append (by decide) hfile).append (by decide), by simp⟩
  · exact ⟨(IsPrintable.append (by decide) hline).append (by decide), by simp⟩
  · exact ⟨(IsPrintable.append (by decide) hword).append (by decide), by simp⟩
  · exact ⟨IsPrintable.append (by decide) hmessage, by simp⟩
  · exact hclose

/-- The same holds for the lines of all diagnostics of a report. -/
theorem isPrintable_of_mem_elementLines (h : l ∈ elementLines ds) : IsPrintable l ∧ l ≠ [] := by
  fun_induction elementLines ds with
  | case1 => contradiction
  | case2 d => exact isPrintable_of_mem_objectLines (by decide) h
  | case3 d e ds ih =>
    rcases List.mem_append.1 h with h | h
    · exact isPrintable_of_mem_objectLines (by decide) h
    · exact ih h

/-- The lines of a JSON report are read back. -/
theorem lines_renderJson (ds : List Diagnostic) : lines (renderJson ds) = jsonLines ds := by
  have hprintable : ∀ l ∈ jsonLines ds, IsPrintable l ∧ l ≠ [] := by
    intro l hl
    cases ds with
    | nil =>
      obtain rfl : l = "[]".toList := List.mem_singleton.1 hl
      decide
    | cons d ds =>
      simp only [jsonLines, List.mem_cons, List.mem_append, List.not_mem_nil, or_false] at hl
      rcases hl with rfl | hl | rfl
      · decide
      · exact isPrintable_of_mem_elementLines hl
      · decide
  rw [renderJson_eq_intercalate]
  exact lines_intercalate fun l hl => ⟨(hprintable l hl).1.isLine, (hprintable l hl).2⟩

/-- A JSON report loses nothing. Diagnostics with line numbers of 64 bits are read back from it,
whatever characters their files and messages hold. It has one line for each of their fields, and it
is standard JSON for the array of their objects, so other readers make the same of it. -/
theorem read_renderJson {ds : List Diagnostic} (h : ∀ d ∈ ds, d.line < UInt64.size) :
    readJson? (renderJson ds) = some ds ∧
    renderJson ds = List.intercalate ['\n'] (jsonLines ds) ∧ lines (renderJson ds) = jsonLines ds ∧
    Json.IsDocument (.array (ds.map toJson)) (renderJson ds) := by
  have hstandard : Json.IsStandard (.array (ds.map toJson)) :=
    .array (List.forall_mem_map.2 fun d _ => isStandard_toJson d)
  have hdocument : Json.IsDocument (.array (ds.map toJson)) (renderJson ds) :=
    Json.isDocument_pretty hstandard
  have hread : readJson? (renderJson ds) = some ds := by
    rw [readJson?, Json.read?_of_isDocument hdocument, Option.bind_some, listOfJson?_toJson h]
  exact ⟨hread, renderJson_eq_intercalate ds, lines_renderJson ds, hdocument⟩

/-- A diagnostic with quotes, backslashes, control characters and characters of other scripts at the
largest line number, and one with nothing to say. -/
def awkwardTexts : List Diagnostic :=
  [⟨"lib/\"a\\b\".ex".toList, 18446744073709551615, .error, "x\n\t\x01\x7fé→😀".toList⟩,
    ⟨[], 0, .warning, []⟩]

/-- These are written with escapes for quotes, backslashes and control characters only, and read
back. -/
theorem read_renderJson_awkwardTexts :
    (∀ d ∈ awkwardTexts, d.line < UInt64.size) ∧
    lines (renderJson awkwardTexts) =
      ["[".toList,
        "  \x7b".toList,
        "    \"file\": \"lib/\\\"a\\\\b\\\".ex\",".toList,
        "    \"line\": 18446744073709551615,".toList,
        "    \"severity\": \"error\",".toList,
        "    \"message\": \"x\\n\\t\\u0001\x7fé→😀\"".toList,
        "  \x7d,".toList,
        "  \x7b".toList,
        "    \"file\": \"\",".toList,
        "    \"line\": 0,".toList,
        "    \"severity\": \"warning\",".toList,
        "    \"message\": \"\"".toList,
        "  \x7d".toList,
        "]".toList] ∧
    readJson? (renderJson awkwardTexts) = some awkwardTexts := by
  have hnumbers : ∀ d ∈ awkwardTexts, d.line < UInt64.size := by decide
  obtain ⟨hread, -, hlines, -⟩ := read_renderJson hnumbers
  refine ⟨hnumbers, ?_, hread⟩
  rw [hlines]
  decide +kernel

end Report

end ElixirDiagnostics
