import ElixirDiagnostics.Proofs.Shape.Descent
import ElixirDiagnostics.Shape.Banner

/-!
# Traced errors

A traced error is a banner, an error line without a location of its own, and a descent of the trace
to its anchor frame. The trace passes blank lines and frames that are no anchor. The reader looks
ahead at each blank line whether an indented line follows, but on the way to an anchor this is
always so: the next visible line is a frame. So the description needs no looking ahead.
-/

namespace ElixirDiagnostics

namespace Shape

variable {t : Trace.Classifier} {banner file l : Text} {lines : List Text} {line n : Nat}
  {frame : Trace.Frame} {e : Evidence}

/-- Only visible indented lines are frames. -/
theorem visible_of_classify (h : t.classify l = some frame) :
    Text.isBlank l = false ∧ Text.isIndented l = true := by
  unfold Trace.Classifier.classify at h
  split at h
  · contradiction
  · next hn => simpa using hn

/-- Every visible indented line is a frame. -/
theorem exists_frame_of_visible (t : Trace.Classifier) (hblank : Text.isBlank l = false)
    (hindented : Text.isIndented l = true) : ∃ frame, t.classify l = some frame := by
  simp [Trace.Classifier.classify, hblank, hindented]

/-- Blank lines do not decide whether a trace resumes. -/
theorem resumesIndented_of_isBlank (h : Text.isBlank l = true) (rest : List Text) :
    resumesIndented (l :: rest) = resumesIndented rest := by
  simp [resumesIndented, h]

/-- The first visible line decides whether a trace resumes. -/
theorem resumesIndented_of_visible (h : Text.isBlank l = false) (rest : List Text) :
    resumesIndented (l :: rest) = Text.isIndented l := by
  simp [resumesIndented, h]

/-- A line that a trace passes on the way to its anchor: it is blank, or a frame that is no
anchor. -/
def Passes (t : Trace.Classifier) (banner l : Text) : Prop :=
  Text.isBlank l = true ∨ ∃ frame, t.classify l = some frame ∧ t.isAnchor frame banner = false

/-- A frame that is the anchor of a trace, located in a file at a line. -/
def Anchors (t : Trace.Classifier) (banner file : Text) (line : Nat) (l : Text) : Prop :=
  ∃ frame, t.classify l = some frame ∧ t.isAnchor frame banner = true ∧
    frame.location = some (file, line)

/-- A trace on its way to an anchor resumes behind every blank line. -/
theorem resumesIndented_of_descent
    (h : Descent (Passes t banner) (Anchors t banner file line) lines n) :
    resumesIndented lines = true := by
  induction h with
  | here h =>
    obtain ⟨frame, hframe, -⟩ := h
    obtain ⟨hblank, hindented⟩ := visible_of_classify hframe
    rw [resumesIndented_of_visible hblank, hindented]
  | further hl _ ih =>
    rcases hl with hblank | ⟨frame, hframe, -⟩
    · rw [resumesIndented_of_isBlank hblank, ih]
    · obtain ⟨hblank, hindented⟩ := visible_of_classify hframe
      rw [resumesIndented_of_visible hblank, hindented]

/-- The reader of a trace goes down to the first frame that is an anchor. -/
theorem anchorFrame?_eq_some_iff :
    anchorFrame? t banner lines = some (n, file, line) ↔
      Descent (Passes t banner) (Anchors t banner file line) lines n := by
  constructor
  · intro h
    induction lines generalizing n with
    | nil => contradiction
    | cons l lines ih =>
      rw [anchorFrame?] at h
      split at h
      · next hblank =>
        split at h
        · obtain ⟨k, rfl, hk⟩ := eq_some_of_map_succ h
          exact .further (Or.inl hblank) (ih hk)
        · contradiction
      · split at h
        · contradiction
        · next frame hframe =>
          split at h
          · next hanchor =>
            obtain ⟨place, hplace, hn⟩ := Option.map_eq_some_iff.1 h
            obtain ⟨rfl, rfl⟩ : 0 = n ∧ place = (file, line) := by simpa using hn
            exact .here ⟨frame, hframe, hanchor, hplace⟩
          · next hanchor =>
            obtain ⟨k, rfl, hk⟩ := eq_some_of_map_succ h
            exact .further (Or.inr ⟨frame, hframe, by simpa using hanchor⟩) (ih hk)
  · intro h
    induction h with
    | here h =>
      obtain ⟨frame, hframe, hanchor, hplace⟩ := h
      have hblank := (visible_of_classify hframe).1
      simp [anchorFrame?, hblank, hframe, hanchor, hplace]
    | further hl h ih =>
      rcases hl with hblank | ⟨frame, hframe, hanchor⟩
      · simp [anchorFrame?, hblank, resumesIndented_of_descent h, ih]
      · have hblank := (visible_of_classify hframe).1
        simp [anchorFrame?, hblank, hframe, hanchor, ih]

/-- Where no indented line comes after the blank ones there is no anchor. -/
theorem anchorFrame?_eq_none_of_not_resumes (h : resumesIndented lines = false) :
    anchorFrame? t banner lines = none := by
  cases hfound : anchorFrame? t banner lines with
  | none => rfl
  | some found =>
    rw [resumesIndented_of_descent (anchorFrame?_eq_some_iff.1 hfound)] at h
    contradiction

/-- An anchor has a location. -/
theorem exists_location_of_isAnchor (h : t.isAnchor frame banner = true) :
    ∃ place, frame.location = some place := by
  cases frame with
  | library app file line => exact ⟨(file, line), rfl⟩
  | source file line => exact ⟨(file, line), rfl⟩
  | function =>
    unfold Trace.Classifier.isAnchor at h
    cases hanchor : t.anchor <;> simp [hanchor, Trace.Frame.location] at h

/-- A blank or indented line is passed, unless it is an anchor. -/
theorem passes_or_anchors (t : Trace.Classifier) (banner : Text)
    (h : Text.isBlank l = true ∨ Text.isIndented l = true) :
    Passes t banner l ∨ ∃ place : Text × Nat, Anchors t banner place.1 place.2 l := by
  cases hblank : Text.isBlank l with
  | true => exact Or.inl (Or.inl hblank)
  | false =>
    have hindented : Text.isIndented l = true := h.resolve_left (by simp [hblank])
    obtain ⟨frame, hframe⟩ := exists_frame_of_visible t hblank hindented
    cases hanchor : t.isAnchor frame banner with
    | true =>
      obtain ⟨place, hplace⟩ := exists_location_of_isAnchor hanchor
      exact Or.inr ⟨place, frame, hframe, hanchor, hplace⟩
    | false => exact Or.inl (Or.inr ⟨frame, hframe, hanchor⟩)

/-- A trace of blank and indented lines with an anchor among them has a descent to an anchor. -/
theorem exists_descent_of_isAnchor
    (hlines : ∀ l ∈ lines, Text.isBlank l = true ∨ Text.isIndented l = true)
    (h : ∃ l ∈ lines, ∃ frame, t.classify l = some frame ∧ t.isAnchor frame banner = true) :
    ∃ (place : Text × Nat) (n : Nat),
      Descent (Passes t banner) (Anchors t banner place.1 place.2) lines n := by
  refine Descent.exists_of_mem (α := Text × Nat) ?_ ?_
  · intro l hl
    exact passes_or_anchors t banner (hlines l hl)
  · obtain ⟨l, hl, frame, hframe, hanchor⟩ := h
    obtain ⟨place, hplace⟩ := exists_location_of_isAnchor hanchor
    exact ⟨l, hl, place, frame, hframe, hanchor, hplace⟩

/-- A banner, an error line without a location, and a trace down to its anchor. -/
inductive TracedError (t : Trace.Classifier) : List Text → Evidence → Prop where
  /-- The error is located where the descent of the trace ends. -/
  | mk {banner error announced message file : Text} {trace : List Text} {line n : Nat}
      (hannounced : bannerFile? banner = some announced)
      (hmessage : errorRest? error = some message) (hlocation : hasLocation message = false)
      (htrace : Descent (Passes t announced) (Anchors t announced file line) trace n) :
      TracedError t (banner :: error :: trace) ⟨file, some line, message, n + 3⟩

/-- The reader of traced errors finds exactly these. -/
theorem readTraced_eq_some_iff : readTraced t lines = some e ↔ TracedError t lines e := by
  constructor
  · intro h
    match lines with
    | [] => contradiction
    | [_] => contradiction
    | banner :: error :: trace =>
      obtain ⟨announced, hannounced, h⟩ := Option.bind_eq_some_iff.1 h
      obtain ⟨message, hmessage, h⟩ := Option.bind_eq_some_iff.1 h
      split at h
      · contradiction
      · next hlocation =>
        obtain ⟨⟨n, file, line⟩, htrace, h⟩ := Option.bind_eq_some_iff.1 h
        cases h
        exact .mk hannounced hmessage (by simpa using hlocation)
          (anchorFrame?_eq_some_iff.1 htrace)
  · intro h
    cases h with
    | mk hannounced hmessage hlocation htrace =>
      have htrace' := anchorFrame?_eq_some_iff.2 htrace
      simp [readTraced, hannounced, hmessage, hlocation, htrace']

end Shape

end ElixirDiagnostics
