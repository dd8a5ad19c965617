import ElixirDiagnostics.Extraction.Stage
import ElixirDiagnostics.Proofs.Extraction.Scan
import Mathlib.Logic.Relation

/-!
# The steps of an extraction

Every state promises a run: what it has told and found so far, and what the lines that are left
will add. A step keeps this promise, and it brings the state nearer to its end, so that every
extraction is done after finitely many steps with the run that was promised at the start. By the
uniqueness of the leftmost scan, its report is the scan of the lines, sorted by file.
-/

namespace ElixirDiagnostics

namespace Extraction

namespace State

/-- One state is reached from another by any number of steps. -/
abbrev Reaches (c : Catalog) (i : Inspection) (lines : List Text) : State → State → Prop :=
  Relation.ReflTransGen fun s s' => s.step? c i lines = some s'

/-- All that a step can do, with the conditions under which it does so. -/
inductive Step (c : Catalog) (i : Inspection) (lines : List Text) (s : State) : State → Prop where
  /-- The next sighting is found. -/
  | find {m : Sighting} (hs : s.stage = .scanning) (hn : next? c lines s.cursor = some m) :
      Step c i lines s (s.enter (.matched m) m.start [.matched m])
  /-- There is no further sighting. -/
  | finish (hs : s.stage = .scanning) (hn : next? c lines s.cursor = none) :
      Step c i lines s
        (s.enter .done (max s.cursor lines.length) [.done (max s.cursor lines.length)])
  /-- The sighting belongs to the inspected file. -/
  | accept {m : Sighting} (hs : s.stage = .matched m) (ha : i.accepts m.diagnostic = true) :
      Step c i lines s (s.enter (.accepted m.diagnostic) m.stop [.accepted m.diagnostic])
  /-- The sighting belongs to another file. -/
  | reject {m : Sighting} (hs : s.stage = .matched m) (ha : i.accepts m.diagnostic = false) :
      Step c i lines s (s.enter (.rejected m.diagnostic) m.stop [.rejected m.diagnostic])
  /-- An accepted diagnostic is put into the report. -/
  | keep {d : Diagnostic} (hs : s.stage = .accepted d) :
      Step c i lines s ((s.keep d).enter .scanning s.cursor [.scanning s.cursor])
  /-- A rejected diagnostic is put with the foreign ones. -/
  | drop {d : Diagnostic} (hs : s.stage = .rejected d) :
      Step c i lines s
        ((s.drop d).enter .scanning s.cursor [.dropping d i.target, .scanning s.cursor])

/-- What a state amounts to when a run is added to it. -/
def extend (s : State) (r : Run) : Run where
  events := s.events ++ r.events
  report :=
    { diagnostics := s.report.diagnostics ++ r.report.diagnostics
      foreign := s.report.foreign ++ r.report.foreign }

/-- The run of the lines from a cursor on, told as the resumption of an earlier one. -/
def resumed (c : Catalog) (i : Inspection) (lines : List Text) (cursor : Nat) : Run :=
  let rest := runFrom c i lines cursor
  { rest with events := .scanning cursor :: rest.events }

/-- The run that a state promises. -/
def promise (c : Catalog) (i : Inspection) (lines : List Text) (s : State) : Run :=
  match s.stage with
  | .scanning => s.extend (runFrom c i lines s.cursor)
  | .matched m => s.extend (Run.judge i m.diagnostic (resumed c i lines m.stop))
  | .accepted d => (s.keep d).extend (resumed c i lines s.cursor)
  | .rejected d =>
    let rest := resumed c i lines s.cursor
    (s.drop d).extend { rest with events := .dropping d i.target :: rest.events }
  | .done => ⟨s.events, s.report⟩

/-- A bound on the number of steps that a state is away from the end. -/
def remaining (lines : List Text) (s : State) : Nat :=
  match s.stage with
  | .scanning => 4 * (lines.length - s.cursor) + 1
  | .matched m => 4 * (lines.length - m.stop) + 3
  | .accepted _ => 4 * (lines.length - s.cursor) + 2
  | .rejected _ => 4 * (lines.length - s.cursor) + 2
  | .done => 0

variable {c : Catalog} {i : Inspection} {lines : List Text} {s s' : State}

/-- A step does one of the things that a step can do. -/
theorem step_of_step? (h : s.step? c i lines = some s') : Step c i lines s s' := by
  unfold step? at h
  split at h
  · next hs =>
    split at h
    · next m hn =>
      cases h
      exact .find hs hn
    · next hn =>
      cases h
      exact .finish hs hn
  · next m hs =>
    by_cases ha : i.accepts m.diagnostic
    · rw [if_pos ha] at h
      cases h
      exact .accept hs ha
    · rw [if_neg ha] at h
      cases h
      exact .reject hs (by simpa using ha)
  · next d hs =>
    cases h
    exact .keep hs
  · next d hs =>
    cases h
    exact .drop hs
  · cases h

/-- Only the last stage has no step. -/
theorem done_of_step?_eq_none (h : s.step? c i lines = none) : s.stage = .done := by
  unfold step? at h
  split at h
  · split at h <;> cases h
  · dsimp only at h
    split at h <;> cases h
  · cases h
  · cases h
  · assumption

/-- A step keeps the promised run. -/
theorem promise_of_step (h : Step c i lines s s') : s'.promise c i lines = s.promise c i lines := by
  cases h with
  | find hs hn => simp [promise, enter, extend, resumed, hs, runFrom_of_some hn]
  | finish hs hn => simp [promise, enter, extend, hs, runFrom_of_none hn]
  | accept hs ha => simp [promise, enter, extend, State.keep, Run.judge, hs, ha]
  | reject hs ha => simp [promise, enter, extend, State.drop, Run.judge, hs, ha]
  | keep hs => simp [promise, enter, extend, State.keep, resumed, hs]
  | drop hs => simp [promise, enter, extend, State.drop, resumed, hs]

/-- Any number of steps keeps the promised run. -/
theorem promise_of_reaches (h : Reaches c i lines s s') :
    s'.promise c i lines = s.promise c i lines := by
  induction h with
  | refl => rfl
  | tail _ hstep ih => rw [promise_of_step (step_of_step? hstep), ih]

/-- A step brings every state nearer to the end, even one with an impossible sighting. -/
theorem remaining_lt_of_step (h : Step c i lines s s') :
    s'.remaining lines < s.remaining lines := by
  cases h with
  | find hs hn =>
    -- The lines of a sighting pay for the steps that it takes to judge it.
    have hb := bounds_of_next? hn
    simp only [remaining, enter, hs]
    omega
  | finish hs hn => simp [remaining, enter, hs]
  | accept hs ha => simp [remaining, enter, hs]
  | reject hs ha => simp [remaining, enter, hs]
  | keep hs => simp [remaining, enter, hs]
  | drop hs => simp [remaining, enter, hs]

/-- From every state the end is reached. -/
theorem exists_reaches_done (c : Catalog) (i : Inspection) (lines : List Text) (s : State) :
    ∃ s', Reaches c i lines s s' ∧ s'.stage = .done := by
  induction hn : s.remaining lines using Nat.strong_induction_on generalizing s with
  | h n ih =>
    cases hs : s.step? c i lines with
    | none => exact ⟨s, .refl, done_of_step?_eq_none hs⟩
    | some t =>
      have hlt := remaining_lt_of_step (step_of_step? hs)
      obtain ⟨s', hreach, hdone⟩ := ih _ (hn ▸ hlt) t rfl
      exact ⟨s', .head hs hreach, hdone⟩

/-- At the end the promise is the run itself. -/
theorem promise_of_done (h : s.stage = .done) : s.promise c i lines = ⟨s.events, s.report⟩ := by
  simp [promise, h]

/-- At the start it is the run of all lines. -/
theorem promise_start (c : Catalog) (i : Inspection) (lines : List Text) :
    promise c i lines {} = runFrom c i lines 0 := by
  simp [promise, extend]

/-- An extraction that starts at the first line ends with the events and the report of the run. -/
theorem eq_runFrom_of_reaches_done (h : Reaches c i lines {} s) (hd : s.stage = .done) :
    s.events = (runFrom c i lines 0).events ∧ s.report = (runFrom c i lines 0).report := by
  have hp := promise_of_reaches h
  rw [promise_of_done hd, promise_start] at hp
  rw [← hp]
  exact ⟨rfl, rfl⟩

end State

/-- For every catalog and every output there is exactly one leftmost scan of the stripped lines.
Whatever file is inspected, the steps of the extraction come to their end, and the report is then
the scan's diagnostics in order, sorted into those that the inspection accepts and the others. -/
theorem steps_refine_leftmostScan (c : Catalog) (output : Text) :
    ∃ ms : List Sighting,
      LeftmostScan c (Text.lines (Text.stripColour output)) 0 ms ∧
      (∀ ms', LeftmostScan c (Text.lines (Text.stripColour output)) 0 ms' → ms' = ms) ∧
      ∀ i : Inspection,
        (∃ s, State.Reaches c i (Text.lines (Text.stripColour output)) {} s ∧ s.stage = .done ∧
          s.report = report c i output) ∧
        (report c i output).diagnostics =
          (ms.map Sighting.diagnostic).filter (fun d => i.accepts d) ∧
        (report c i output).foreign =
          (ms.map Sighting.diagnostic).filter (fun d => !i.accepts d) := by
  have hscan := leftmostScan_sightings c (Text.lines (Text.stripColour output)) 0
  refine ⟨sightings c (Text.lines (Text.stripColour output)) 0, hscan, ?_, ?_⟩
  · intro ms' h
    exact leftmostScan_iff.1 h
  · intro i
    obtain ⟨s, hreach, hdone⟩ :=
      State.exists_reaches_done c i (Text.lines (Text.stripColour output)) {}
    have hreport := report_of_leftmostScan i hscan
    refine ⟨⟨s, hreach, hdone, (State.eq_runFrom_of_reaches_done hreach hdone).2⟩, ?_, ?_⟩
    · rw [hreport]
      rfl
    · rw [hreport]
      rfl

end Extraction

end ElixirDiagnostics
