import ElixirDiagnostics.Proofs.Extraction.Recognised
import ElixirDiagnostics.Proofs.Shape.Silent
import ElixirDiagnostics.Proofs.Shape.Written

/-!
# Every error and every block once

The lines of a trace and of a block's body are silent. So whatever is seen at the head of a block is
all that is seen of the block, and of an error under a banner only the banner or the error line can
be seen: if the banner is, the error line belongs to that sighting. The error is reported once, and
so is the block, and it is not lost where the trace has an anchor or the block a location.
-/

namespace ElixirDiagnostics

namespace Shape

open Text

variable {t : Trace.Classifier} {announced banner head kind line r : Text} {lines rest : List Text}
  {m : Sighting}

/-- Nothing is seen at a silent line. -/
theorem firstAt_of_isSilent (h : IsSilent line) :
    (Catalog.builtin t).firstAt (line :: rest) 0 = none :=
  builtin_firstAt_zero_eq_none_iff.2 fun tag => h tag t rest

/-- What is seen at a banner takes up the error line as well. -/
theorem two_le_stop_of_banner (hbanner : IsBanner announced banner)
    (h : (Catalog.builtin t).firstAt (banner :: rest) 0 = some m) : 2 ≤ m.stop := by
  obtain ⟨tag, e, hread, rfl, -⟩ := builtin_firstAt_zero_iff.1 h
  rcases tag_of_bannerFile? (bannerFile?_eq_some_iff.2 hbanner) hread with rfl | rfl
  · exact (length_of_readInline hread).ge
  · exact Nat.le_of_succ_le (le_length_of_readTraced hread)

/-- An error without a location is seen at its banner if there is an anchor in the trace. -/
theorem firstAt_ne_none_of_isAnchor (hbanner : IsBanner announced banner) (hkind : IsKind kind)
    (hne : r ≠ []) (hline : '\n' ∉ r) (hlocation : hasLocation r = false)
    (hrest : ∀ l ∈ rest, isBlank l = true ∨ isIndented l = true)
    (h : ∃ l ∈ rest, ∃ frame, t.classify l = some frame ∧ t.isAnchor frame announced = true) :
    (Catalog.builtin t).firstAt (banner :: errorLine kind r :: rest) 0 ≠ none := by
  obtain ⟨⟨file, line⟩, n, htrace⟩ := exists_descent_of_isAnchor hrest h
  have hread : readerOf .compileErrorTraced t (banner :: errorLine kind r :: rest) =
      some ⟨file, some line, r, n + 3⟩ :=
    readTraced_eq_some_iff.2 (.mk (bannerFile?_eq_some_iff.2 hbanner)
      (errorRest?_errorLine hkind hne hline) hlocation htrace)
  intro hnone
  rw [builtin_firstAt_zero_eq_none_iff.1 hnone] at hread
  contradiction

/-- Something is seen at the head of a block exactly when the block has a location. -/
theorem firstAt_head_ne_none_iff (hhead : isHead head = true)
    (hbody : ∀ l ∈ rest, isBlockBody l = true) :
    (Catalog.builtin t).firstAt (head :: rest) 0 ≠ none ↔
      ∃ l ∈ rest, (blockLocation? l).isSome := by
  obtain ⟨severity, message, hmessage⟩ := isHead_iff.1 hhead
  constructor
  · intro h
    obtain ⟨m, hm⟩ := Option.ne_none_iff_exists'.1 h
    obtain ⟨tag, e, hread, -⟩ := builtin_firstAt_zero_iff.1 hm
    cases readBlock_eq_some_iff.1 (read_of_blockHead? hmessage hread) with
    | mk _ hdescent =>
      obtain ⟨l, hl, -, hplace⟩ := hdescent.exists_stop
      exact ⟨l, hl, by simp [hplace]⟩
  · intro h hnone
    obtain ⟨⟨file, digits⟩, n, hdescent⟩ := exists_descent_of_isBlockBody hbody h
    have hread := readBlock_eq_some_iff.2 (.mk hmessage hdescent)
    have hblind := builtin_firstAt_zero_eq_none_iff.1 hnone
    cases severity with
    | warning => exact absurd ((hblind .warningBlock).symm.trans hread) nofun
    | error => exact absurd ((hblind .compileErrorBlock).symm.trans hread) nofun

end Shape

namespace Extraction

open Text Shape

variable {t : Trace.Classifier} {i : Inspection} {announced banner head kind line r : Text}
  {lines rest body : List Text} {m : Sighting}

/-- A silent line has no record. -/
theorem recognised_cons_of_isSilent (h : IsSilent line) (rest : List Text) :
    recognised t (line :: rest) = recognised t rest :=
  recognised_cons_of_none (firstAt_of_isSilent h)

/-- Neither have silent lines. -/
theorem recognised_of_isSilent (h : ∀ l ∈ lines, IsSilent l) : recognised t lines = [] := by
  induction lines with
  | nil => exact recognised_nil t
  | cons l lines ih =>
    rw [recognised_cons_of_isSilent (h l (by simp)), ih fun k hk => h k (List.mem_cons_of_mem _ hk)]

/-- A sighting that takes up all but silent lines is the only one. -/
theorem recognised_eq_singleton (h : (Catalog.builtin t).firstAt lines 0 = some m)
    (hsilent : ∀ l ∈ lines.drop m.stop, IsSilent l) : recognised t lines = [m.diagnostic] := by
  rw [recognised_of_some h, recognised_of_isSilent hsilent]

/-- Above silent lines at most one record is found, and one exactly where something is seen. -/
theorem length_recognised_cons (h : ∀ l ∈ rest, IsSilent l) :
    (recognised t (line :: rest)).length =
      if (Catalog.builtin t).firstAt (line :: rest) 0 = none then 0 else 1 := by
  cases hm : (Catalog.builtin t).firstAt (line :: rest) 0 with
  | none =>
    rw [recognised_cons_of_none hm, recognised_of_isSilent h]
    rfl
  | some m =>
    have hstop := (span_of_builtin_firstAt hm).2.1
    have hsilent : ∀ l ∈ (line :: rest).drop m.stop, IsSilent l := by
      intro l hl
      obtain ⟨n, hn⟩ := Nat.exists_eq_add_of_le' hstop
      rw [hn, List.drop_succ_cons] at hl
      exact h l (List.mem_of_mem_drop hl)
    rw [recognised_eq_singleton hm hsilent]
    rfl

/-- Of a banner, an error line and silent lines at most one record is found, and one is if something
is seen at the banner. -/
theorem length_recognised_banner (line : Text) (hbanner : IsBanner announced banner)
    (h : ∀ l ∈ rest, IsSilent l) :
    (recognised t (banner :: line :: rest)).length ≤ 1 ∧
      ((Catalog.builtin t).firstAt (banner :: line :: rest) 0 ≠ none →
        (recognised t (banner :: line :: rest)).length = 1) := by
  cases hm : (Catalog.builtin t).firstAt (banner :: line :: rest) 0 with
  | none =>
    rw [recognised_cons_of_none hm, length_recognised_cons h]
    refine ⟨?_, fun hne => absurd rfl hne⟩
    split <;> omega
  | some m =>
    have hstop := two_le_stop_of_banner hbanner hm
    have hsilent : ∀ l ∈ (banner :: line :: rest).drop m.stop, IsSilent l := by
      intro l hl
      obtain ⟨n, hn⟩ := Nat.exists_eq_add_of_le' hstop
      rw [hn, List.drop_succ_cons, List.drop_succ_cons] at hl
      exact h l (List.mem_of_mem_drop hl)
    rw [recognised_eq_singleton hm hsilent]
    exact ⟨Nat.le_refl 1, fun _ => rfl⟩

/-- A printed error is reported at most once, and exactly once if it has no location of its own and
there is an anchor in its trace. A printed block is reported once if it has a location, and else not
at all. Whatever is in the trace or the block, no other line of it is reported. -/
theorem size_report_of_printed (t : Trace.Classifier) (i : Inspection) :
    (∀ {announced banner kind r : Text} {rest : List Text} {output : Text},
      IsBanner announced banner → IsKind kind → r ≠ [] →
      (∀ l ∈ rest, (isBlank l = true ∨ isIndented l = true) ∧ isHead l = false) →
      Text.lines (stripColour output) = banner :: errorLine kind r :: rest →
        (report (Catalog.builtin t) i output).size ≤ 1 ∧
        (hasLocation r = false →
          (∃ l ∈ rest, ∃ frame,
            t.classify l = some frame ∧ t.isAnchor frame announced = true) →
          (report (Catalog.builtin t) i output).size = 1)) ∧
    ∀ {head : Text} {body : List Text} {output : Text}, isHead head = true →
      (∀ l ∈ body, isBlockBody l = true ∧ isHead l = false) →
      Text.lines (stripColour output) = head :: body →
        ((∃ l ∈ body, (blockLocation? l).isSome) →
          (report (Catalog.builtin t) i output).size = 1) ∧
        ((¬∃ l ∈ body, (blockLocation? l).isSome) →
          (report (Catalog.builtin t) i output).size = 0) := by
  constructor
  · intro announced banner kind r rest output hbanner hkind hne hrest hlines
    have hmem : errorLine kind r ∈ Text.lines (stripColour output) := by simp [hlines]
    have hline : '\n' ∉ r := newline_not_mem_of_errorLine hmem
    have hsilent : ∀ l ∈ rest, IsSilent l := fun l hl =>
      isSilent_of_indented (hrest l hl).1 (hrest l hl).2
    have hlength := length_recognised_banner (t := t) (errorLine kind r) hbanner hsilent
    rw [size_report, hlines]
    refine ⟨hlength.1, fun hlocation hanchor => hlength.2 ?_⟩
    exact firstAt_ne_none_of_isAnchor hbanner hkind hne hline hlocation
      (fun l hl => (hrest l hl).1) hanchor
  · intro head body output hhead hbody hlines
    have hsilent : ∀ l ∈ body, IsSilent l := fun l hl =>
      isSilent_of_isBlockBody (hbody l hl).1 (hbody l hl).2
    have hseen := firstAt_head_ne_none_iff (t := t) hhead fun l hl => (hbody l hl).1
    rw [size_report, hlines, length_recognised_cons hsilent]
    constructor
    · intro h
      exact if_neg (hseen.2 h)
    · intro h
      exact if_pos (not_not.1 fun hne => h (hseen.1 hne))

/-- An error with a dumped argument, a frame of the file between blank lines and another one. -/
def tracedTwice : Text :=
  "== Compilation error in file a.ex ==\n** (E) boom\n\n    # 1\n\n    a.ex:7: f\n    a.ex:8: g\n"
    |>.toList

/-- A warning with a line of the source that looks like a place, and its location. -/
def snippetWarning : Text := "warning: x\n12 │ b.ex:3: y\n    └─ a.ex:12: f\n".toList

/-- The same without the location. -/
def unlocatedWarning : Text := "warning: x\n12 │ b.ex:3: y\n".toList

/-- The error is reported once, though two frames are anchors, and of the warnings only the one with
a location is. -/
theorem size_report_tracedTwice_snippetWarning :
    (report (Catalog.builtin {}) (.ofFile "/p".toList "a.ex".toList) tracedTwice).size = 1 ∧
    (report (Catalog.builtin {}) (.ofFile "/p".toList "a.ex".toList) snippetWarning).size = 1 ∧
    (report (Catalog.builtin {}) (.ofFile "/p".toList "a.ex".toList) unlocatedWarning).size = 0 := by
  have hstrip : stripColour tracedTwice = tracedTwice := stripColour_of_not_mem (by decide)
  have hstrip' : stripColour snippetWarning = snippetWarning := stripColour_of_not_mem (by decide)
  have hstrip'' : stripColour unlocatedWarning = unlocatedWarning :=
    stripColour_of_not_mem (by decide)
  have hlines : Text.lines (stripColour tracedTwice) =
      "== Compilation error in file a.ex ==".toList :: errorLine ['E'] "boom".toList ::
        [[], "    # 1".toList, [], "    a.ex:7: f".toList, "    a.ex:8: g".toList] := by
    rw [hstrip]
    decide
  have hlines' : Text.lines (stripColour snippetWarning) =
      "warning: x".toList :: ["12 │ b.ex:3: y".toList, "    └─ a.ex:12: f".toList] := by
    rw [hstrip']
    decide
  have hlines'' : Text.lines (stripColour unlocatedWarning) =
      "warning: x".toList :: ["12 │ b.ex:3: y".toList] := by
    rw [hstrip'']
    decide
  have hbanner : IsBanner "a.ex".toList "== Compilation error in file a.ex ==".toList :=
    bannerFile?_eq_some_iff.1 (by decide)
  have hkind : IsKind ['E'] := ⟨by decide, List.all_eq_true.1 (by decide)⟩
  obtain ⟨herror, hblock⟩ := size_report_of_printed {} (.ofFile "/p".toList "a.ex".toList)
  refine ⟨?_, ?_, ?_⟩
  · refine (herror hbanner hkind (by decide) (by decide) hlines).2 (by decide) ?_
    exact ⟨"    a.ex:7: f".toList, by decide, .source "a.ex".toList 7, by decide, by decide⟩
  · exact (hblock (by decide) (by decide) hlines').1
      ⟨"    └─ a.ex:12: f".toList, by decide, by decide⟩
  · exact (hblock (by decide) (by decide) hlines'').2 (by decide)

end Extraction

end ElixirDiagnostics
