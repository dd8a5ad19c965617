import ElixirDiagnostics.Proofs.Extraction.Recognised
import ElixirDiagnostics.Proofs.Shape.Written

/-!
# Located errors

An error line that tells its place is reported from that place. A banner above it changes nothing
about the report, whichever file it names: if it names the file of the place, the banner and the
error line are one sighting with the same record, and if it names another file, nothing is seen at
the banner and the error line is found on its own.
-/

namespace ElixirDiagnostics

/-- The record of an error that tells its place. A line number that is zero or cannot be used puts
it on the first line. -/
def Location.Place.error (p : Place) (message : Text) : Diagnostic where
  file := p.file
  line := match Text.number? p.line with
    | some (n + 1) => n + 1
    | _ => Diagnostic.defaultLine
  severity := .error
  message := Text.trim message

namespace Shape

open Text Location

variable {t : Trace.Classifier} {p : Place} {announced banner kind m : Text} {rest : List Text}

/-- What is seen at an error line that tells its place. -/
theorem firstAt_locatedLine (hkind : IsKind kind) (hm : message? m = some m)
    (hwarning : ¬"warning:".toList <+: m) :
    (Catalog.builtin t).firstAt (locatedLine kind p m :: rest) 0 =
      some ⟨.compileErrorBare, p.file, number? p.line, m, 0, 1⟩ := by
  have hread : readerOf .compileErrorBare t (locatedLine kind p m :: rest) =
      some (located p m 1) := readBare_locatedLine hkind hm hwarning rest
  exact builtin_firstAt_zero_iff.2 ⟨_, _, hread, rfl, nofun⟩

/-- What is seen at a banner that names the file of the place below it. -/
theorem firstAt_of_same (hbanner : IsBanner p.file banner) (hkind : IsKind kind)
    (hm : message? m = some m) :
    (Catalog.builtin t).firstAt (banner :: locatedLine kind p m :: rest) 0 =
      some ⟨.compileErrorInline, p.file, number? p.line, m, 0, 2⟩ := by
  have hread : readerOf .compileErrorInline t (banner :: locatedLine kind p m :: rest) =
      some (located p m 2) := readInline_of_same hbanner hkind hm rest
  exact builtin_firstAt_zero_iff.2 ⟨_, _, hread, rfl, nofun⟩

/-- Nothing is seen at a banner that names another file than the place below it. -/
theorem firstAt_of_other (hbanner : IsBanner announced banner) (hcolon : ':' ∉ announced)
    (hother : announced ≠ p.file) (hkind : IsKind kind) (hline : '\n' ∉ m) :
    (Catalog.builtin t).firstAt (banner :: locatedLine kind p m :: rest) 0 = none := by
  rw [builtin_firstAt_zero_eq_none_iff]
  intro tag
  cases hread : readerOf tag t (banner :: locatedLine kind p m :: rest) with
  | none => rfl
  | some e =>
    rcases tag_of_bannerFile? (bannerFile?_eq_some_iff.2 hbanner) hread with rfl | rfl
    · have hnone : readInline (banner :: locatedLine kind p m :: rest) = none :=
        readInline_of_other hbanner hcolon hother hkind hline rest
      exact absurd (hnone.symm.trans hread) nofun
    · have hnone : readTraced t (banner :: locatedLine kind p m :: rest) = none :=
        readTraced_locatedLine t hbanner hkind hline rest
      exact absurd (hnone.symm.trans hread) nofun

end Shape

namespace Extraction

open Text Location Shape

variable {t : Trace.Classifier} {p : Place} {announced banner kind m : Text} {rest : List Text}

/-- The records of an error line that tells its place, and of the lines below it. -/
theorem recognised_locatedLine (hkind : IsKind kind) (hm : message? m = some m)
    (hwarning : ¬"warning:".toList <+: m) :
    recognised t (locatedLine kind p m :: rest) = p.error m :: recognised t rest :=
  recognised_of_some (firstAt_locatedLine hkind hm hwarning)

/-- A banner above it changes nothing. -/
theorem recognised_banner_locatedLine (hbanner : IsBanner announced banner)
    (hcolon : ':' ∉ announced) (hkind : IsKind kind) (hm : message? m = some m)
    (hwarning : ¬"warning:".toList <+: m) :
    recognised t (banner :: locatedLine kind p m :: rest) = p.error m :: recognised t rest := by
  by_cases hsame : announced = p.file
  · subst hsame
    exact recognised_of_some (firstAt_of_same hbanner hkind hm)
  · have hline := (message?_eq_some_iff.1 hm).2.2.2
    rw [recognised_cons_of_none (firstAt_of_other hbanner hcolon hsame hkind hline),
      recognised_locatedLine hkind hm hwarning]

/-- An error line that tells its place is reported from there, with or without a banner above it and
whatever file without a colon the banner names. The rest of the report is the same as well, and the
error is the first thing that is found. -/
theorem report_located (t : Trace.Classifier) (i : Inspection) (p : Place)
    {output output' : Text} (hbanner : IsBanner announced banner) (hcolon : ':' ∉ announced)
    (hkind : IsKind kind) (hne : m ≠ []) (hvisible : isIndented m = false)
    (hwarning : ¬"warning:".toList <+: m)
    (hlines : lines (stripColour output) = banner :: locatedLine kind p m :: rest)
    (hlines' : lines (stripColour output') = locatedLine kind p m :: rest) :
    report (Catalog.builtin t) i output = report (Catalog.builtin t) i output' ∧
    ∀ o ∈ [output, output'], ∃ s, (run (Catalog.builtin t) i o).events.head? = some (.matched s) ∧
      s.diagnostic.file = p.file ∧ s.diagnostic.severity = .error ∧
      s.diagnostic.message = trim m := by
  have hmem : locatedLine kind p m ∈ lines (stripColour output') := by simp [hlines']
  have hline : '\n' ∉ m := fun hm => newline_not_mem_of_errorLine hmem (by simp [hm])
  have hm : message? m = some m := message?_of_visible hne hvisible hline
  have hrecords : ∀ o ∈ [output, output'],
      recognised t (lines (stripColour o)) = p.error m :: recognised t rest := by
    intro o ho
    rcases List.mem_cons.1 ho with rfl | ho
    · rw [hlines, recognised_banner_locatedLine hbanner hcolon hkind hm hwarning]
    · obtain rfl := List.mem_singleton.1 ho
      rw [hlines', recognised_locatedLine hkind hm hwarning]
  refine ⟨?_, fun o ho => ?_⟩
  · rw [report_eq_sorted_recognised, report_eq_sorted_recognised, hrecords output (by simp),
      hrecords output' (by simp)]
  · obtain ⟨s, hs, hrecord⟩ := head?_events_of_recognised i (hrecords o ho)
    refine ⟨s, hs, ?_⟩
    rw [hrecord]
    exact ⟨rfl, rfl, rfl⟩

/-- The place `a.ex:7`. -/
def seventhLine : Place where
  file := "a.ex".toList
  line := ['7']
  column := none
  isFile := ⟨by decide, List.all_eq_true.1 (by decide), fun _ hc =>
    absurd (congrArg List.length hc) nofun⟩
  isLine := ⟨by decide, List.all_eq_true.1 (by decide)⟩
  isColumn := by simp

/-- An error at this place under the banner of a file whose name begins as its own, with a frame in
that file below it. -/
def locatedUnderOther : Text :=
  "== Compilation error in file a.e ==\n** (E) a.ex:7: boom\n    a.e:1: f\n".toList

/-- The same without the banner. -/
def locatedAlone : Text := "** (E) a.ex:7: boom\n    a.e:1: f\n".toList

/-- The error stays where it is, and the frame below it takes nothing away. -/
theorem report_locatedUnderOther :
    report (Catalog.builtin {}) (.ofFile "/p".toList "a.ex".toList) locatedUnderOther =
      report (Catalog.builtin {}) (.ofFile "/p".toList "a.ex".toList) locatedAlone ∧
    ∀ o ∈ [locatedUnderOther, locatedAlone], ∃ s,
      (run (Catalog.builtin {}) (.ofFile "/p".toList "a.ex".toList) o).events.head? =
        some (.matched s) ∧
      s.diagnostic.file = "a.ex".toList ∧ s.diagnostic.severity = .error ∧
      s.diagnostic.message = trim "boom".toList := by
  have hbanner : IsBanner "a.e".toList "== Compilation error in file a.e ==".toList :=
    bannerFile?_eq_some_iff.1 (by decide)
  have hstrip : stripColour locatedUnderOther = locatedUnderOther :=
    stripColour_of_not_mem (by decide)
  have hstrip' : stripColour locatedAlone = locatedAlone := stripColour_of_not_mem (by decide)
  have hunder : lines (stripColour locatedUnderOther) =
      ["== Compilation error in file a.e ==".toList,
        locatedLine ['E'] seventhLine "boom".toList, "    a.e:1: f".toList] := by
    rw [hstrip]
    decide
  have halone : lines (stripColour locatedAlone) =
      [locatedLine ['E'] seventhLine "boom".toList, "    a.e:1: f".toList] := by
    rw [hstrip']
    decide
  have hkind : IsKind ['E'] := ⟨by decide, List.all_eq_true.1 (by decide)⟩
  exact report_located {} _ seventhLine hbanner (by decide) hkind (by decide) (by decide)
    (by decide) hunder halone

end Extraction

end ElixirDiagnostics
