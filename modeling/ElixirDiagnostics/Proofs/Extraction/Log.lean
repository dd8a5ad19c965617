import ElixirDiagnostics.Extraction.Event
import ElixirDiagnostics.Proofs.Extraction.Stage
import ElixirDiagnostics.Proofs.Report
import ElixirDiagnostics.Proofs.Shape.Priority

/-!
# The story that a log tells

For each sighting of a run the log says in order that it was made, what the verdict on its
diagnostic is, and that reading goes on where its lines end; after the last one it says that all
lines are read. A rejected diagnostic is told a second time, as dropped, before reading goes on. So
the verdicts in a log are the report of the run, and at any time the log holds a beginning of the
story.
-/

namespace ElixirDiagnostics

namespace Extraction

variable {c : Catalog} {t : Trace.Classifier} {i : Inspection} {lines : List Text} {cursor : Nat}
  {m : Sighting} {ms : List Sighting} {s : State}

/-- What is told of the verdict on a diagnostic. -/
def verdict (i : Inspection) (d : Diagnostic) : List Event :=
  if i.accepts d then [.accepted d] else [.rejected d, .dropping d i.target]

/-- What is told of a sighting. -/
def told (i : Inspection) (m : Sighting) : List Event :=
  .matched m :: (verdict i m.diagnostic ++ [.scanning m.stop])

/-- The record of a sighting, written out: its tag, the lines that it takes up, and its place. -/
def matchedRecord (m : Sighting) : LogRecord :=
  let line :=
    match m.line? with
    | none => "None".toList
    | some n => "Some(".toList ++ Text.ofNat n ++ [')']
  ⟨.trace, "extract -> MATCHED ".toList ++ ("tag=".toList ++ m.tag.word ++ " lines=".toList ++
    Text.ofNat m.start ++ "..".toList ++ Text.ofNat m.stop ++ " file=".toList ++ m.file ++
    " line=".toList ++ line)⟩

/-- The record of the verdict on a diagnostic, which is accepted or rejected. -/
def verdictRecord (i : Inspection) (d : Diagnostic) : LogRecord :=
  ⟨.trace, (if i.accepts d then "extract -> ACCEPTED ".toList
    else "extract -> REJECTED ".toList) ++ d.written⟩

/-- The record that a diagnostic of another file is dropped. -/
def droppingRecord (i : Inspection) (d : Diagnostic) : LogRecord :=
  ⟨.debug, "dropping diagnostic for ".toList ++ d.file ++ " (inspecting ".toList ++ i.target ++
    "): ".toList ++ d.written⟩

/-- The record that reading goes on at a line. -/
def scanningRecord (line : Nat) : LogRecord :=
  ⟨.trace, "extract -> SCANNING at line ".toList ++ Text.ofNat line⟩

/-- The record that all lines are read. -/
def doneRecord (line : Nat) : LogRecord :=
  ⟨.trace, "extract -> DONE at line ".toList ++ Text.ofNat line⟩

/-- The records of what is told of a sighting: that it was made, the verdict on its diagnostic,
right behind a rejection that the diagnostic is dropped, and that reading goes on where its lines
end. -/
def toldRecords (i : Inspection) (m : Sighting) : List LogRecord :=
  if i.accepts m.diagnostic then
    [matchedRecord m, verdictRecord i m.diagnostic, scanningRecord m.stop]
  else
    [matchedRecord m, verdictRecord i m.diagnostic, droppingRecord i m.diagnostic,
      scanningRecord m.stop]

/-- The records of the steps that a sighting takes, which are those without the dropping. -/
def toldSteps (i : Inspection) (m : Sighting) : List LogRecord :=
  [matchedRecord m, verdictRecord i m.diagnostic, scanningRecord m.stop]

/-- The records of single steps in the log of some events. -/
def stepRecords (es : List Event) : List LogRecord :=
  (es.map Event.record).filter fun r => r.level = .trace

/-- The diagnostic that an event accepts. -/
def Event.accepted? : Event → Option Diagnostic
  | .accepted d => some d
  | _ => none

/-- The diagnostic that an event rejects. -/
def Event.rejected? : Event → Option Diagnostic
  | .rejected d => some d
  | _ => none

theorem verdict_of_accepts {d : Diagnostic} (h : i.accepts d = true) :
    verdict i d = [.accepted d] :=
  if_pos h

theorem verdict_of_rejects {d : Diagnostic} (h : i.accepts d = false) :
    verdict i d = [.rejected d, .dropping d i.target] := by
  rw [verdict, h]
  rfl

/-- A run tells of its sightings and then that all lines are read. -/
theorem runFrom_events (t : Trace.Classifier) (i : Inspection) (h : cursor ≤ lines.length) :
    (runFrom (Catalog.builtin t) i lines cursor).events =
      (sightings (Catalog.builtin t) lines cursor).flatMap (told i) ++ [.done lines.length] := by
  induction cursor using sightings.induct (Catalog.builtin t) lines with
  | case1 cursor hnone =>
    rw [runFrom_of_none hnone, sightings_of_none hnone, Nat.max_eq_right h]
    rfl
  | case2 cursor m hsome ih =>
    obtain ⟨-, -, hseen, -⟩ := next?_eq_some_iff.1 hsome
    have hstop := (Shape.span_of_builtin_firstAt hseen).2.2
    have hrest := ih hstop
    rw [runFrom_of_some hsome, sightings_of_some hsome, List.flatMap_cons, told]
    cases h : i.accepts m.diagnostic with
    | true => simp [Run.judge, h, hrest, verdict_of_accepts h]
    | false => simp [Run.judge, h, hrest, verdict_of_rejects h]

/-- A sighting is recorded with its tag, its lines and its place. -/
theorem record_matched (m : Sighting) : (Event.matched m).record = matchedRecord m := by
  obtain ⟨tag, file, line?, message, start, stop⟩ := m
  cases line? <;> rfl

/-- What is told of a sighting is recorded in full. -/
theorem map_record_told (i : Inspection) (m : Sighting) :
    (told i m).map Event.record = toldRecords i m := by
  cases h : i.accepts m.diagnostic with
  | true =>
    rw [told, verdict_of_accepts h, toldRecords, if_pos h, verdictRecord, if_pos h,
      ← record_matched, ← Diagnostic.display_eq_written]
    rfl
  | false =>
    have hno : ¬i.accepts m.diagnostic = true := by simp [h]
    rw [told, verdict_of_rejects h, toldRecords, if_neg hno, verdictRecord, if_neg hno,
      droppingRecord, ← record_matched, ← Diagnostic.display_eq_written]
    rfl

/-- What is told of several sightings is recorded one after the other. -/
theorem map_record_flatMap_told (i : Inspection) (ms : List Sighting) :
    (ms.flatMap (told i)).map Event.record = ms.flatMap (toldRecords i) := by
  simp only [List.map_flatMap, map_record_told]

/-- The steps among the records of a sighting. -/
theorem filter_toldRecords (i : Inspection) (m : Sighting) :
    ((toldRecords i m).filter fun r => r.level = .trace) = toldSteps i m := by
  unfold toldRecords
  split <;> rfl

/-- The steps among the records of several sightings. -/
theorem filter_flatMap_toldRecords (i : Inspection) (ms : List Sighting) :
    ((ms.flatMap (toldRecords i)).filter fun r => r.level = .trace) = ms.flatMap (toldSteps i) := by
  simp only [List.filter_flatMap, filter_toldRecords]

/-- Whatever picks the diagnostics with some property from what is told of a sighting picks them
from what is told of several. -/
theorem filterMap_flatMap_told {pick : Event → Option Diagnostic} {p : Diagnostic → Bool}
    (h : ∀ m, (told i m).filterMap pick = [m.diagnostic].filter p) (ms : List Sighting) :
    (ms.flatMap (told i)).filterMap pick = (ms.map Sighting.diagnostic).filter p := by
  induction ms with
  | nil => rfl
  | cons m ms ih =>
    rw [List.flatMap_cons, List.filterMap_append, h, ih, ← List.filter_append]
    rfl

/-- A sighting is told as accepted if its diagnostic is. -/
theorem filterMap_accepted?_told (i : Inspection) (m : Sighting) :
    (told i m).filterMap Event.accepted? = [m.diagnostic].filter i.accepts := by
  cases h : i.accepts m.diagnostic with
  | true =>
    have hkept : [m.diagnostic].filter i.accepts = [m.diagnostic] := by simp [h]
    rw [told, verdict_of_accepts h, hkept]
    rfl
  | false =>
    have hnone : [m.diagnostic].filter i.accepts = [] := by simp [h]
    rw [told, verdict_of_rejects h, hnone]
    rfl

/-- It is told as rejected if not. -/
theorem filterMap_rejected?_told (i : Inspection) (m : Sighting) :
    (told i m).filterMap Event.rejected? = [m.diagnostic].filter fun d => !i.accepts d := by
  cases h : i.accepts m.diagnostic with
  | true =>
    have hnone : ([m.diagnostic].filter fun d => !i.accepts d) = [] := by simp [h]
    rw [told, verdict_of_accepts h, hnone]
    rfl
  | false =>
    have hdropped : ([m.diagnostic].filter fun d => !i.accepts d) = [m.diagnostic] := by simp [h]
    rw [told, verdict_of_rejects h, hdropped]
    rfl

/-- What has been told so far begins what a state promises to tell. -/
theorem State.events_prefix_promise (c : Catalog) (i : Inspection) (lines : List Text) (s : State) :
    s.events <+: (s.promise c i lines).events := by
  unfold State.promise
  split
  · exact List.prefix_append _ _
  · exact List.prefix_append _ _
  · exact List.prefix_append _ _
  · exact List.prefix_append _ _
  · exact List.prefix_refl _

/-- What the log of a run tells, said of its sightings. -/
structure IsStory (c : Catalog) (i : Inspection) (lines : List Text) (r : Run)
    (ms : List Sighting) : Prop where
  /-- The sightings are those of a scan from top to bottom, so each takes up a line, and none begins
  above the end of another. -/
  scan : LeftmostScan c lines 0 ms
  /-- All end within the lines. -/
  inside : ∀ m ∈ ms, m.stop ≤ lines.length
  /-- Each is told with the verdict on it, a dropped one right behind its rejection, and at last the
  number of lines. -/
  events : r.events = ms.flatMap (told i) ++ [.done lines.length]
  /-- The log holds a record of each of these. -/
  records : r.events.map Event.record = ms.flatMap (toldRecords i) ++ [doneRecord lines.length]
  /-- Of these three are steps for each sighting, and the last one is a step. -/
  steps : stepRecords r.events = ms.flatMap (toldSteps i) ++ [doneRecord lines.length]
  /-- What is told as accepted are the diagnostics of the inspected file. -/
  accepted : r.events.filterMap Event.accepted? = r.report.diagnostics
  /-- What is told as rejected are those of other files. -/
  rejected : r.events.filterMap Event.rejected? = r.report.foreign

/-- The run of the compiler's shapes tells the story of its sightings. -/
theorem isStory_runFrom (t : Trace.Classifier) (i : Inspection) (lines : List Text) :
    IsStory (Catalog.builtin t) i lines (runFrom (Catalog.builtin t) i lines 0)
      (sightings (Catalog.builtin t) lines 0) := by
  have hscan := leftmostScan_sightings (Catalog.builtin t) lines 0
  have hevents := runFrom_events t i (Nat.zero_le lines.length)
  have hreport := runFrom_report (Catalog.builtin t) i lines 0
  have hrecords : (runFrom (Catalog.builtin t) i lines 0).events.map Event.record =
      (sightings (Catalog.builtin t) lines 0).flatMap (toldRecords i) ++
        [doneRecord lines.length] := by
    rw [hevents, List.map_append, map_record_flatMap_told]
    rfl
  refine ⟨hscan, ?_, hevents, hrecords, ?_, ?_, ?_⟩
  · intro m hm
    exact (Shape.span_of_builtin_firstAt (hscan.seen m hm)).2.2
  · rw [stepRecords, hrecords, List.filter_append, filter_flatMap_toldRecords]
    rfl
  · rw [hevents, List.filterMap_append, filterMap_flatMap_told (filterMap_accepted?_told i),
      hreport]
    exact List.append_nil _
  · rw [hevents, List.filterMap_append, filterMap_flatMap_told (filterMap_rejected?_told i),
      hreport]
    exact List.append_nil _

/-- The log of an extraction tells the sightings of the leftmost scan of the stripped output, each
with the verdict and the line where reading goes on, and at last the number of lines. The verdicts
are the report. While the extraction takes its steps, the log holds a beginning of this story, and
when it is done, all of it. -/
theorem log_tells_report (t : Trace.Classifier) (i : Inspection) (output : Text) :
    ∃ ms, IsStory (Catalog.builtin t) i (Text.lines (Text.stripColour output))
        (run (Catalog.builtin t) i output) ms ∧
      ∀ s, State.Reaches (Catalog.builtin t) i (Text.lines (Text.stripColour output)) {} s →
        s.events <+: (run (Catalog.builtin t) i output).events ∧
        (s.stage = .done → s.events = (run (Catalog.builtin t) i output).events) := by
  refine ⟨_, isStory_runFrom t i _, fun s hreach => ⟨?_, fun hdone => ?_⟩⟩
  · have hprefix := State.events_prefix_promise (Catalog.builtin t) i
      (Text.lines (Text.stripColour output)) s
    rwa [State.promise_of_reaches hreach, State.promise_start] at hprefix
  · exact (State.eq_runFrom_of_reaches_done hreach hdone).1

/-- A warning in another file than the inspected one, and one in that file on the last line. -/
def foreignAboveOwn : Text := "b.ex:1: warning: x\na.ex:2: warning: y".toList

/-- The two warnings. -/
theorem sightings_foreignAboveOwn :
    sightings (Catalog.builtin {}) (Text.lines (Text.stripColour foreignAboveOwn)) 0 =
      [⟨.warningInline, "b.ex".toList, some 1, "x".toList, 0, 1⟩,
        ⟨.warningInline, "a.ex".toList, some 2, "y".toList, 1, 2⟩] := by
  rw [Text.stripColour_of_not_mem (by decide)]
  exact (leftmostScan_iff.1 (.cons (by decide +kernel) (.cons (by decide +kernel)
    (.nil (by decide +kernel))))).symm

/-- When the two warnings are read, the log holds the whole story: the first one is dropped, the
second one is reported, and reading ends behind it. -/
theorem log_tells_report_foreignAboveOwn :
    let r := run (Catalog.builtin {}) (.ofFile "/p".toList "a.ex".toList) foreignAboveOwn
    (∃ s, State.Reaches (Catalog.builtin {}) (.ofFile "/p".toList "a.ex".toList)
        (Text.lines (Text.stripColour foreignAboveOwn)) {} s ∧ s.stage = .done ∧
      s.events = r.events) ∧
    r.events.map (fun e => e.record.display) =
      ["TRACE extract -> MATCHED tag=warning-inline lines=0..1 file=b.ex line=Some(1)".toList,
        "TRACE extract -> REJECTED b.ex:1: warning: x".toList,
        "DEBUG dropping diagnostic for b.ex (inspecting /p/a.ex): b.ex:1: warning: x".toList,
        "TRACE extract -> SCANNING at line 1".toList,
        "TRACE extract -> MATCHED tag=warning-inline lines=1..2 file=a.ex line=Some(2)".toList,
        "TRACE extract -> ACCEPTED a.ex:2: warning: y".toList,
        "TRACE extract -> SCANNING at line 2".toList,
        "TRACE extract -> DONE at line 2".toList] ∧
    r.report = ⟨[⟨"a.ex".toList, 2, .warning, "y".toList⟩],
      [⟨"b.ex".toList, 1, .warning, "x".toList⟩]⟩ := by
  intro r
  obtain ⟨s, hreach, hdone⟩ := State.exists_reaches_done (Catalog.builtin {})
    (.ofFile "/p".toList "a.ex".toList) (Text.lines (Text.stripColour foreignAboveOwn)) {}
  obtain ⟨ms, hstory, hlog⟩ := log_tells_report {} (.ofFile "/p".toList "a.ex".toList)
    foreignAboveOwn
  have hms := leftmostScan_iff.1 hstory.scan
  rw [sightings_foreignAboveOwn] at hms
  have hrecords := hstory.records
  rw [hms, Text.stripColour_of_not_mem (by decide)] at hrecords
  refine ⟨⟨s, hreach, hdone, (hlog s hreach).2 hdone⟩, ?_, ?_⟩
  · have hdisplays := congrArg (List.map LogRecord.display) hrecords
    rw [List.map_map] at hdisplays
    exact hdisplays.trans (by decide +kernel)
  · have hevents := hstory.events
    rw [hms] at hevents
    have haccepted := hstory.accepted
    have hrejected := hstory.rejected
    rw [hevents] at haccepted hrejected
    exact (congrArg₂ Report.mk haccepted hrejected).symm.trans (by decide +kernel)

end Extraction

end ElixirDiagnostics
