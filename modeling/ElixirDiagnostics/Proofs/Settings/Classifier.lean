import ElixirDiagnostics.Settings.Basic

/-!
# The classifier that settings describe

The patterns of the settings are read one after the other, by any reader, and the first one that
cannot be read stops the reading. If all can be read, a classifier is made, and it takes for library
code the files that match one of them.
-/

namespace ElixirDiagnostics

section Collect

variable {α β ε : Type} {f : α → Except ε β} {l : List α} {bs : List β} {b : β}

/-- Mapping a list by something that may fail either gives a value for each member, or stops at the
failure of one of them. -/
theorem mapM_ok_or_error (f : α → Except ε β) (l : List α) :
    (∃ bs, l.mapM f = .ok bs ∧ ∀ a ∈ l, ∃ b, f a = .ok b) ∨
      ∃ e, l.mapM f = .error e ∧ ∃ a ∈ l, f a = .error e := by
  induction l with
  | nil => exact Or.inl ⟨[], rfl, by simp⟩
  | cons a l ih =>
    rw [List.mapM_cons]
    cases ha : f a with
    | error e => exact Or.inr ⟨e, rfl, a, by simp, ha⟩
    | ok b =>
      rcases ih with ⟨bs, hbs, hall⟩ | ⟨e, he, a', hmem, ha'⟩
      · rw [hbs]
        exact Or.inl ⟨b :: bs, rfl, List.forall_mem_cons.2 ⟨⟨b, ha⟩, hall⟩⟩
      · rw [he]
        exact Or.inr ⟨e, rfl, a', List.mem_cons_of_mem a hmem, ha'⟩

/-- These are the values of the members, and no others. -/
theorem mem_iff_of_mapM_ok (h : l.mapM f = .ok bs) : b ∈ bs ↔ ∃ a ∈ l, f a = .ok b := by
  induction l generalizing bs with
  | nil =>
    obtain rfl : [] = bs := Except.ok.inj h
    simp
  | cons a l ih =>
    rw [List.mapM_cons] at h
    cases ha : f a with
    | error e =>
      rw [ha] at h
      contradiction
    | ok c =>
      cases hl : l.mapM f with
      | error e =>
        rw [ha, hl] at h
        contradiction
      | ok cs =>
        rw [ha, hl] at h
        obtain rfl : c :: cs = bs := Except.ok.inj h
        simp [ih hl, ha, eq_comm]

end Collect

namespace Trace

namespace PatternReader

/-- A text is a pattern. -/
def IsValid (read : PatternReader) (p : Text) : Prop := ∃ test, read p = .ok test

/-- A text is a pattern, and it matches another text. -/
def Matches (read : PatternReader) (p s : Text) : Prop := ∃ test, read p = .ok test ∧ test s = true

variable {read : PatternReader} {p s : Text}

instance : Decidable (read.IsValid p) :=
  match h : read p with
  | .ok test => isTrue ⟨test, h⟩
  | .error _ => isFalse fun ⟨_, he⟩ => nomatch h.symm.trans he

instance : Decidable (read.Matches p s) :=
  match h : read p with
  | .ok test => decidable_of_iff (test s = true)
      ⟨fun hs => ⟨test, h, hs⟩, fun ⟨_, he, hs⟩ => Except.ok.inj (h.symm.trans he) ▸ hs⟩
  | .error _ => isFalse fun ⟨_, he, _⟩ => nomatch h.symm.trans he

end PatternReader

/-- A file is library code by its path. -/
def Classifier.IsLibrary (t : Classifier) (file : Text) : Prop :=
  t.libraryPaths.any (· file) = true

end Trace

namespace Settings

variable {read : Trace.PatternReader} {s : Settings}

/-- A classifier reads traces as the settings say: it looks for the anchor that they name, and a
file that matches one of their patterns is library code. -/
structure Classifies (read : Trace.PatternReader) (s : Settings) (t : Trace.Classifier) : Prop where
  /-- It looks for the anchor that they name. -/
  anchor : t.anchor = s.trace.anchor
  /-- It takes for library code what matches one of their patterns. -/
  isLibrary_iff : ∀ file, t.IsLibrary file ↔ ∃ p ∈ s.trace.libraryPatterns, read.Matches p file

/-- Either all patterns of the settings are valid and there is a classifier for the settings, or one
of them is not, and the reason for it is given. -/
theorem classifier?_ok_or_error (read : Trace.PatternReader) (s : Settings) :
    (∃ t, s.classifier? read = .ok t ∧ Classifies read s t ∧
      ∀ p ∈ s.trace.libraryPatterns, read.IsValid p) ∨
    ∃ reason, s.classifier? read = .error reason ∧
      ∃ p ∈ s.trace.libraryPatterns, read p = .error reason := by
  unfold classifier? Trace.Classifier.withLibraryPatterns
  rcases mapM_ok_or_error read s.trace.libraryPatterns with ⟨tests, htests, hall⟩ | ⟨e, he, hp⟩
  · rw [htests]
    refine Or.inl ⟨_, rfl, ⟨rfl, fun file => ?_⟩, hall⟩
    rw [Trace.Classifier.IsLibrary, List.nil_append, List.any_eq_true]
    constructor
    · rintro ⟨test, htest, hmatches⟩
      obtain ⟨p, hp, hread⟩ := (mem_iff_of_mapM_ok htests).1 htest
      exact ⟨p, hp, test, hread, hmatches⟩
    · rintro ⟨p, hp, test, hread, hmatches⟩
      exact ⟨test, (mem_iff_of_mapM_ok htests).2 ⟨p, hp, hread⟩, hmatches⟩
  · rw [he]
    exact Or.inr ⟨e, rfl, hp⟩

/-- With valid patterns there is a classifier for the settings. -/
theorem exists_classifier? (h : ∀ p ∈ s.trace.libraryPatterns, read.IsValid p) :
    ∃ t, s.classifier? read = .ok t ∧ Classifies read s t := by
  rcases classifier?_ok_or_error read s with ⟨t, ht, hclassifies, -⟩ | ⟨e, -, p, hp, he⟩
  · exact ⟨t, ht, hclassifies⟩
  · obtain ⟨test, htest⟩ := h p hp
    rw [he] at htest
    contradiction

end Settings

end ElixirDiagnostics
