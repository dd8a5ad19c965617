import ElixirDiagnostics.Proofs.Extraction.Cut

/-!
# The records of an extraction

What the compiler's shapes recognise in an output can be followed from line to line. Where no reader
sees anything at the first line, the records are those of the lines below it; where one does, its
record is followed by those of the lines below the ones that it takes up. A report holds all these
records, each in one of its two lists, and the first event of a run tells of the first record.
-/

namespace ElixirDiagnostics

namespace Shape

variable {t : Trace.Classifier} {lines : List Text} {tag : Tag} {e : Evidence} {m : Sighting}

/-- What is seen at the first line was found by a reader there, the one that looks for a location on
the error line before the one that looks for it in the trace. -/
theorem builtin_firstAt_zero_iff :
    (Catalog.builtin t).firstAt lines 0 = some m ↔
      ∃ tag e, readerOf tag t lines = some e ∧
        ⟨tag, e.file, e.line?, e.message, 0, e.length⟩ = m ∧
        (tag = .compileErrorTraced → readInline lines = none) := by
  have hinline : compileErrorInline.sightAt t lines 0 = none ↔ readInline lines = none :=
    Option.map_eq_none_iff
  rw [builtin_firstAt_eq_some_iff, hinline]
  constructor
  · rintro ⟨s, hs, hm, hfirst⟩
    obtain ⟨tag, rfl⟩ := mem_builtinShapes.1 hs
    obtain ⟨e, he, rfl⟩ := sightAt_eq_some_iff.1 hm
    refine ⟨tag, e, he, by rw [Nat.zero_add], ?_⟩
    rintro rfl
    exact hfirst rfl
  · rintro ⟨tag, e, he, rfl, hfirst⟩
    refine ⟨ofReader tag (readerOf tag), mem_builtinShapes.2 ⟨tag, rfl⟩,
      sightAt_eq_some_iff.2 ⟨e, he, by rw [Nat.zero_add]⟩, fun hs => ?_⟩
    exact hfirst (congrArg Shape.tag hs)

/-- Nothing is seen at the first line exactly when no reader finds anything there. -/
theorem builtin_firstAt_zero_eq_none_iff :
    (Catalog.builtin t).firstAt lines 0 = none ↔ ∀ tag, readerOf tag t lines = none := by
  constructor
  · intro h tag
    cases he : readerOf tag t lines with
    | none => rfl
    | some e =>
      -- If this is the reader of traces, the one before it might be what is in the way.
      have hseen : ∃ m, (Catalog.builtin t).firstAt lines 0 = some m := by
        cases hinline : readInline lines with
        | some e' =>
          have hread : readerOf .compileErrorInline t lines = some e' := hinline
          exact ⟨_, builtin_firstAt_zero_iff.2 ⟨_, e', hread, rfl, nofun⟩⟩
        | none => exact ⟨_, builtin_firstAt_zero_iff.2 ⟨tag, e, he, rfl, fun _ => hinline⟩⟩
      obtain ⟨m, hm⟩ := hseen
      rw [h] at hm
      contradiction
  · intro h
    cases hm : (Catalog.builtin t).firstAt lines 0 with
    | none => rfl
    | some m =>
      obtain ⟨tag, e, he, -⟩ := builtin_firstAt_zero_iff.1 hm
      rw [h tag] at he
      contradiction

end Shape

namespace Extraction

variable {c : Catalog} {t : Trace.Classifier} {i : Inspection} {line : Text}
  {lines rest : List Text} {cursor : Nat} {m : Sighting} {ms : List Sighting}
  {d : Diagnostic} {ds : List Diagnostic}

/-- A line where nothing is seen can be left out of a scan. -/
theorem LeftmostScan.skip (h : c.firstAt lines cursor = none)
    (hscan : LeftmostScan c lines (cursor + 1) ms) : LeftmostScan c lines cursor ms where
  seen := hscan.seen
  nonempty := hscan.nonempty
  inside := fun m hm => ⟨Nat.le_of_succ_le (hscan.inside m hm).1, (hscan.inside m hm).2⟩
  ordered := hscan.ordered
  complete := by
    intro j hc hl hout
    rcases hc.eq_or_lt with rfl | hlt
    · exact h
    · exact hscan.complete j hlt hl hout

/-- The records of the compiler's shapes in the given lines, from top to bottom. -/
def recognised (t : Trace.Classifier) (lines : List Text) : List Diagnostic :=
  (sightings (Catalog.builtin t) lines 0).map Sighting.diagnostic

/-- Lines above change nothing about the records below them. -/
theorem map_diagnostic_sightings_append (t : Trace.Classifier) (before after : List Text) :
    (sightings (Catalog.builtin t) (before ++ after) before.length).map Sighting.diagnostic =
      recognised t after := by
  have hscan := (leftmostScan_sightings (Catalog.builtin t) after 0).shift before
  rw [← leftmostScan_iff.1 hscan, List.map_map, diagnostic_shift, recognised]

/-- Records add up over a cut between the lines, if no banner stands right before it and no trace or
block goes on behind it. -/
theorem recognised_append {before after : List Text} (hlast : Shape.EndsUnannounced before)
    (h : Shape.Interrupts after) :
    recognised t (before ++ after) = recognised t before ++ recognised t after := by
  have hscan := leftmostScan_sightings (Catalog.builtin t) before 0
  have hscan' := leftmostScan_sightings (Catalog.builtin t) after 0
  have hboth := hscan.append hscan' hlast h
  rw [recognised, ← leftmostScan_iff.1 hboth, List.map_append, List.map_map, diagnostic_shift]
  rfl

/-- Without lines there are no records. -/
theorem recognised_nil (t : Trace.Classifier) : recognised t [] = [] := by
  have hnext : next? (Catalog.builtin t) [] 0 = none := next?_eq_none_iff.2 fun _ _ hl =>
    absurd hl (Nat.not_lt_zero _)
  rw [recognised, sightings_of_none hnext, List.map_nil]

/-- Where nothing is seen at the first line, the records are those of the lines below it. -/
theorem recognised_cons_of_none (h : (Catalog.builtin t).firstAt (line :: rest) 0 = none) :
    recognised t (line :: rest) = recognised t rest := by
  have hscan := leftmostScan_sightings (Catalog.builtin t) (line :: rest) 1
  rw [recognised, ← leftmostScan_iff.1 (hscan.skip h)]
  exact map_diagnostic_sightings_append t [line] rest

/-- What is seen at the first line is followed by the records of the lines below it. -/
theorem recognised_of_some (h : (Catalog.builtin t).firstAt lines 0 = some m) :
    recognised t lines = m.diagnostic :: recognised t (lines.drop m.stop) := by
  obtain ⟨hstart, hlt, hle⟩ := Shape.span_of_builtin_firstAt h
  have hnext : next? (Catalog.builtin t) lines 0 = some m := by
    refine next?_eq_some_iff.2 ⟨Nat.zero_le _, by omega, by rwa [hstart], ?_⟩
    intro j _ hj
    omega
  have hbelow := map_diagnostic_sightings_append t (lines.take m.stop) (lines.drop m.stop)
  rw [List.take_append_drop, List.length_take, Nat.min_eq_left hle] at hbelow
  rw [recognised, sightings_of_some hnext, List.map_cons, hbelow]

/-- A report sorts the records by file. -/
theorem report_eq_sorted_recognised (t : Trace.Classifier) (i : Inspection) (output : Text) :
    report (Catalog.builtin t) i output =
      Report.sorted i (recognised t (Text.lines (Text.stripColour output))) :=
  report_of_leftmostScan i (leftmostScan_sightings _ _ 0)

/-- A record of a report was recognised. -/
theorem mem_recognised_of_mem_report {output : Text}
    (h : d ∈ (report (Catalog.builtin t) i output).diagnostics ++
      (report (Catalog.builtin t) i output).foreign) :
    d ∈ recognised t (Text.lines (Text.stripColour output)) := by
  rw [report_eq_sorted_recognised] at h
  rcases List.mem_append.1 h with h | h
  · exact (List.mem_filter.1 h).1
  · exact (List.mem_filter.1 h).1

/-- Whatever is recognised was seen by a shape where the sighting begins. -/
theorem exists_shape_of_mem_recognised (h : d ∈ recognised t lines) :
    ∃ s ∈ Catalog.builtinShapes, ∃ m, s.sightAt t lines m.start = some m ∧ m.diagnostic = d := by
  obtain ⟨m, hm, hd⟩ := List.mem_map.1 h
  have hseen := (leftmostScan_sightings (Catalog.builtin t) lines 0).seen m hm
  obtain ⟨s, hs, hsight, -⟩ := Shape.builtin_firstAt_eq_some_iff.1 hseen
  exact ⟨s, hs, m, hsight, hd⟩

/-- The first event of a run tells of the first record. -/
theorem head?_events_of_recognised {output : Text} (i : Inspection)
    (h : recognised t (Text.lines (Text.stripColour output)) = d :: ds) :
    ∃ m, (run (Catalog.builtin t) i output).events.head? = some (.matched m) ∧
      m.diagnostic = d := by
  have hscan := leftmostScan_sightings (Catalog.builtin t) (Text.lines (Text.stripColour output)) 0
  obtain ⟨m, ms, hms, rfl, -⟩ := List.map_eq_cons_iff.1 h
  rw [hms] at hscan
  refine ⟨m, ?_, rfl⟩
  rw [run, runFrom_of_some hscan.next?_of_cons]
  rfl

/-- The number of records in a report. -/
def Report.size (r : Report) : Nat := r.diagnostics.length + r.foreign.length

/-- Sorting loses no record. -/
theorem Report.size_sorted (i : Inspection) (ds : List Diagnostic) :
    (Report.sorted i ds).size = ds.length := by
  rw [List.length_eq_length_filter_add fun d => i.accepts d]
  rfl

/-- A report holds as many records as were recognised. -/
theorem size_report (t : Trace.Classifier) (i : Inspection) (output : Text) :
    (report (Catalog.builtin t) i output).size =
      (recognised t (Text.lines (Text.stripColour output))).length := by
  rw [report_eq_sorted_recognised, Report.size_sorted]

end Extraction

end ElixirDiagnostics
