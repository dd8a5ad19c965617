import ElixirDiagnostics.Extraction.Run

/-!
# Extraction step by step

An extraction moves between five stages. While it is scanning it looks for the next sighting; a
sighting moves the cursor below its lines and is judged; an accepted or a rejected diagnostic goes
into its list of the report, and scanning is resumed; without a further sighting the extraction is
done. A state holds the stage, the cursor, the events so far and the report so far. Every stage but
the last has exactly one next state.
-/

namespace ElixirDiagnostics

namespace Extraction

/-- Where an extraction stands between two steps. -/
inductive Stage where
  /-- It looks for the next sighting. -/
  | scanning
  /-- It has found a sighting. -/
  | matched (m : Sighting)
  /-- It has found that a diagnostic belongs to the inspected file. -/
  | accepted (d : Diagnostic)
  /-- It has found that a diagnostic belongs to another file. -/
  | rejected (d : Diagnostic)
  /-- It has read all lines. -/
  | done
  deriving DecidableEq, Repr

/-- All that an extraction keeps between two steps. -/
structure State where
  /-- The stage. -/
  stage : Stage := .scanning
  /-- The first line that has not been read. -/
  cursor : Nat := 0
  /-- The events so far. -/
  events : List Event := []
  /-- What has been found so far. -/
  report : Report := {}
  deriving DecidableEq, Repr

namespace State

/-- The state in which another stage has been entered, at a cursor and with events that tell it. -/
def enter (s : State) (stage : Stage) (cursor : Nat) (news : List Event) : State :=
  { s with stage := stage, cursor := cursor, events := s.events ++ news }

/-- Adds a diagnostic of the inspected file to the report. -/
def keep (s : State) (d : Diagnostic) : State :=
  { s with report := { s.report with diagnostics := s.report.diagnostics ++ [d] } }

/-- Adds a diagnostic of another file to the report. -/
def drop (s : State) (d : Diagnostic) : State :=
  { s with report := { s.report with foreign := s.report.foreign ++ [d] } }

/-- The next step of an extraction, if it is not done. -/
def step? (c : Catalog) (i : Inspection) (lines : List Text) (s : State) : Option State :=
  match s.stage with
  | .scanning =>
    match next? c lines s.cursor with
    | some m => some (s.enter (.matched m) m.start [.matched m])
    | none =>
      let stop := max s.cursor lines.length
      some (s.enter .done stop [.done stop])
  | .matched m =>
    let d := m.diagnostic
    if i.accepts d then some (s.enter (.accepted d) m.stop [.accepted d])
    else some (s.enter (.rejected d) m.stop [.rejected d])
  | .accepted d => some ((s.keep d).enter .scanning s.cursor [.scanning s.cursor])
  | .rejected d =>
    some ((s.drop d).enter .scanning s.cursor [.dropping d i.target, .scanning s.cursor])
  | .done => none

end State

end Extraction

end ElixirDiagnostics
