import ElixirDiagnostics.Proofs.Extraction.Recognised
import ElixirDiagnostics.Proofs.Shape.Quoted

/-!
# Where the records come from

Everything that a sighting says stands in the lines that it takes up. Its message is a part of one
of the first two, and its file and line number stand together in one of them. So the line of a
record is printed behind its file, or it is the first line because nothing that can be used is
printed there: no digits, a zero, digits of another script, or a number that needs more than 64
bits.
-/

namespace ElixirDiagnostics

/-- The lines of an output that a sighting takes up. -/
def Sighting.taken (m : Sighting) (lines : List Text) : List Text :=
  (lines.drop m.start).take (m.stop - m.start)

namespace Extraction

open Text Shape

variable {t : Trace.Classifier} {s : Shape} {lines : List Text} {i : Nat} {m : Sighting}
  {digits? : Option Text}

/-- What is shown for a line number cannot be used. -/
inductive Unusable : Option Text → Prop where
  /-- There are no digits. -/
  | absent : Unusable none
  /-- The digits write zero, which is no line. -/
  | zero {d : Text} (h : Writes d 0) : Unusable (some d)
  /-- One of the digits is not ASCII. -/
  | foreign {d : Text} {c : Char} (hc : c ∈ d) (h : c.isDigit = false) : Unusable (some d)
  /-- The digits write a number that needs more than 64 bits. -/
  | tooLarge {d : Text} {n : Nat} (h : Writes d n) (hn : UInt64.size ≤ n) : Unusable (some d)

/-- The lines that a sighting takes up hold what it says and what its record says. -/
structure Traceable (lines : List Text) (m : Sighting) : Prop where
  /-- The message is a part of one of the first two lines. -/
  message : ∃ l ∈ (m.taken lines).take 2, m.message <:+: l
  /-- The file stands before a colon in one of the lines, and before its line number if it has
  one. -/
  place : ∃ l ∈ m.taken lines, Places m.file m.line? l
  /-- One of the lines shows the file with the digits that the line number is read from. They write
  the line of the record, or they cannot be used and the record is on the first line. -/
  record : ∃ l ∈ m.taken lines, ∃ digits?, Shows m.diagnostic.file digits? l ∧
    m.line? = digits?.bind number? ∧
      ((∃ d, digits? = some d ∧ Writes d m.diagnostic.line) ∨
        (m.diagnostic.line = 1 ∧ Unusable digits?))

/-- Without a line number, or with zero, a record is on the first line. -/
theorem diagnostic_line_eq_one (h : m.line? = none ∨ m.line? = some 0) :
    m.diagnostic.line = 1 := by
  rcases h with h | h
  · simp [Sighting.diagnostic, h, Diagnostic.defaultLine]
  · simp [Sighting.diagnostic, h, Diagnostic.defaultLine]

/-- The digits that are shown write the line of the record, or they cannot be used. -/
theorem writes_or_unusable {l : Text} (hshows : Shows m.file digits? l)
    (hline : m.line? = digits?.bind number?) :
    (∃ d, digits? = some d ∧ Writes d m.diagnostic.line) ∨
      (m.diagnostic.line = 1 ∧ Unusable digits?) := by
  cases hshows with
  | blank => exact Or.inr ⟨diagnostic_line_eq_one (Or.inl hline), .absent⟩
  | @digits d _ _ hd =>
    rw [Option.bind_some] at hline
    cases hnumber : number? d with
    | none =>
      have hdefault := diagnostic_line_eq_one (Or.inl (hline.trans hnumber))
      rcases exists_of_number?_eq_none hd.ne_nil hnumber with ⟨c, hc, hdigit⟩ | ⟨n, hwrites, hn⟩
      · exact Or.inr ⟨hdefault, .foreign hc hdigit⟩
      · exact Or.inr ⟨hdefault, .tooLarge hwrites hn⟩
    | some n =>
      have hwrites := (number?_eq_some_iff.1 hnumber).1
      cases n with
      | zero => exact Or.inr ⟨diagnostic_line_eq_one (Or.inr (hline.trans hnumber)), .zero hwrites⟩
      | succ n =>
        have hprinted : m.diagnostic.line = n + 1 := by simp [Sighting.diagnostic, hline, hnumber]
        exact Or.inl ⟨d, rfl, hprinted ▸ hwrites⟩

/-- Whatever one of the compiler's shapes sees can be traced to the lines that it takes up. -/
theorem traceable_of_sightAt (hs : s ∈ Catalog.builtinShapes) (h : s.sightAt t lines i = some m) :
    Traceable lines m := by
  obtain ⟨tag, rfl⟩ := mem_builtinShapes.1 hs
  obtain ⟨e, he, rfl⟩ := sightAt_eq_some_iff.1 h
  obtain ⟨hmessage, l, hl, digits?, hshows, hline⟩ := quotes_of_readerOf he
  have htaken : Sighting.taken ⟨tag, e.file, e.line?, e.message, i, i + e.length⟩ lines =
      (lines.drop i).take e.length := by
    rw [Sighting.taken, Nat.add_sub_cancel_left]
  refine ⟨?_, ?_, ?_⟩
  · rw [htaken]
    exact hmessage
  · rw [htaken]
    exact ⟨l, hl, by rw [hline]; exact hshows.places⟩
  · rw [htaken]
    exact ⟨l, hl, digits?, hshows, hline, writes_or_unusable hshows hline⟩

/-- No place is made up. Whatever one of the compiler's shapes sees anywhere in any lines, its
message is a part of one of the first two lines that it takes up, and one of these lines holds its
file before a colon, with its line number behind it if it has one. So each record of a report is
that of a sighting of the leftmost scan of the output, of which one line shows the file of the
record with its line, or the record is on the first line because that line shows no number that can
be used. -/
theorem records_traceable (t : Trace.Classifier) :
    (∀ s ∈ Catalog.builtinShapes, ∀ (lines : List Text) (i : Nat) (m : Sighting),
      s.sightAt t lines i = some m → Traceable lines m) ∧
    ∀ (i : Inspection) (output : Text),
      ∃ ms, LeftmostScan (Catalog.builtin t) (Text.lines (stripColour output)) 0 ms ∧
        ∀ d ∈ (report (Catalog.builtin t) i output).diagnostics ++
          (report (Catalog.builtin t) i output).foreign,
          ∃ m ∈ ms, Traceable (Text.lines (stripColour output)) m ∧ m.diagnostic = d := by
  constructor
  · intro s hs lines i m h
    exact traceable_of_sightAt hs h
  · intro i output
    have hscan := leftmostScan_sightings (Catalog.builtin t) (Text.lines (stripColour output)) 0
    refine ⟨_, hscan, fun d hd => ?_⟩
    obtain ⟨m, hm, hdiagnostic⟩ := List.mem_map.1 (mem_recognised_of_mem_report hd)
    obtain ⟨s, hs, hsight, -⟩ := builtin_firstAt_eq_some_iff.1 (hscan.seen m hm)
    exact ⟨m, hm, traceable_of_sightAt hs hsight, hdiagnostic⟩

/-- A traced error whose anchor stands below a frame of a library with another line number. -/
def tracedBelowLibrary : List Text :=
  ["== Compilation error in file a.ex ==".toList, "** (E) boom".toList,
    "    (app) b.ex:3: g".toList, "    a.ex:07: f".toList]

/-- An error whose line number has a digit of another script. -/
def foreignDigit : Text := "** (E) a.ex:1٢: boom\n".toList

/-- What is seen of the traced error, and the record of the other one, which is on the first line,
can both be traced, and the second one to what is seen on the only line. -/
theorem traceable_tracedBelowLibrary :
    Traceable tracedBelowLibrary ⟨.compileErrorTraced, "a.ex".toList, some 7, "boom".toList, 0, 4⟩ ∧
    ∃ m, (Catalog.builtin {}).firstAt (Text.lines (stripColour foreignDigit)) 0 = some m ∧
      Traceable (Text.lines (stripColour foreignDigit)) m ∧
      m.diagnostic = ⟨"a.ex".toList, 1, .error, "boom".toList⟩ := by
  have hseen : compileErrorTraced.sightAt {} tracedBelowLibrary 0 =
      some ⟨.compileErrorTraced, "a.ex".toList, some 7, "boom".toList, 0, 4⟩ := by decide +kernel
  have hlines : Text.lines (stripColour foreignDigit) = ["** (E) a.ex:1٢: boom".toList] := by
    rw [stripColour_of_not_mem (by decide)]
    decide
  have hrecord : ⟨"a.ex".toList, 1, .error, "boom".toList⟩ ∈ (report (Catalog.builtin {})
      (.ofFile "/p".toList "a.ex".toList) foreignDigit).diagnostics := by
    rw [report_eq_sorted_recognised, hlines]
    rw [recognised_of_some
      (m := ⟨.compileErrorBare, "a.ex".toList, none, "boom".toList, 0, 1⟩) (by decide +kernel)]
    decide +kernel
  obtain ⟨hsightings, hrecords⟩ := records_traceable {}
  refine ⟨hsightings compileErrorTraced (by simp [Catalog.builtinShapes]) _ 0 _ hseen, ?_⟩
  obtain ⟨ms, hscan, htraces⟩ := hrecords (.ofFile "/p".toList "a.ex".toList) foreignDigit
  obtain ⟨m, hm, htraceable, hdiagnostic⟩ := htraces _ (List.mem_append_left _ hrecord)
  have hfirst : m.start = 0 := by
    have hinside := (hscan.inside m hm).2
    rw [hlines] at hinside
    exact Nat.lt_one_iff.1 hinside
  exact ⟨m, hfirst ▸ hscan.seen m hm, htraceable, hdiagnostic⟩

end Extraction

end ElixirDiagnostics
