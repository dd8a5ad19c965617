import ElixirDiagnostics.Pattern.Reader
import ElixirDiagnostics.Proofs.Extraction.Recognised
import ElixirDiagnostics.Proofs.Shape.Written
import ElixirDiagnostics.Settings.Basic

/-!
# Errors of the announced file

Which frames of a trace count as library code changes what a frame is called, never where it is
located. A classifier that anchors an error at the file of its banner asks for the location alone.
So two such classifiers take the same lines for frames, pass the same ones and stop at the same
anchor; every reader, and with it the catalog and the report, is the same under both. And whatever
is seen at a banner is located in the file that the banner names: a located error repeats the name,
and the anchor of a traced one is found by it.
-/

namespace ElixirDiagnostics

namespace Shape

open Text

variable {t t' : Trace.Classifier} {announced file line l : Text} {lines rest : List Text}
  {n : Nat} {e : Evidence} {m : Sighting}

/-- Whether a line is a frame, and where the frame is located, is the same for all classifiers. -/
theorem map_location_classify (t t' : Trace.Classifier) (l : Text) :
    (t.classify l).map Trace.Frame.location = (t'.classify l).map Trace.Frame.location := by
  have hlocation : ∀ u : Trace.Classifier, (u.classify l).map Trace.Frame.location =
      if isBlank l || !isIndented l then none
      else some ((Trace.frameParts? l).bind fun (_, file, digits) =>
        (number? digits).map (file, ·)) := by
    intro u
    unfold Trace.Classifier.classify
    split
    · rfl
    · cases Trace.frameParts? l with
      | none => rfl
      | some parts =>
        obtain ⟨app, file, digits⟩ := parts
        dsimp only [Option.map_some, Option.bind_some]
        cases number? digits with
        | none => rfl
        | some k =>
          dsimp only [Option.map_some]
          split <;> rfl
  rw [hlocation t, hlocation t']

/-- A frame is the anchor of an error of the announced file if it is located there. -/
theorem isAnchor_eq (h : t.anchor = .bannerFile) (frame : Trace.Frame) (announced : Text) :
    t.isAnchor frame announced = frame.location.any fun (file, _) => file == announced := by
  unfold Trace.Classifier.isAnchor
  rw [h]

/-- An anchor is a frame that is located in the announced file. -/
theorem anchors_iff (h : t.anchor = .bannerFile) :
    Anchors t announced file n l ↔
      (t.classify l).map Trace.Frame.location = some (some (file, n)) ∧ file = announced := by
  rw [Option.map_eq_some_iff]
  constructor
  · rintro ⟨frame, hframe, hanchor, hlocation⟩
    rw [isAnchor_eq h, hlocation] at hanchor
    exact ⟨⟨frame, hframe, hlocation⟩, by simpa using hanchor⟩
  · rintro ⟨⟨frame, hframe, hlocation⟩, rfl⟩
    refine ⟨frame, hframe, ?_, hlocation⟩
    rw [isAnchor_eq h, hlocation]
    simp

/-- A line that is passed is blank or a frame that is not located in the announced file. -/
theorem passes_iff (h : t.anchor = .bannerFile) :
    Passes t announced l ↔ isBlank l = true ∨
      ∃ place, (t.classify l).map Trace.Frame.location = some place ∧
        place.any (fun (file, _) => file == announced) = false := by
  have hframe : (∃ frame, t.classify l = some frame ∧ t.isAnchor frame announced = false) ↔
      ∃ place, (t.classify l).map Trace.Frame.location = some place ∧
        place.any (fun (file, _) => file == announced) = false := by
    constructor
    · rintro ⟨frame, hframe, hanchor⟩
      rw [isAnchor_eq h] at hanchor
      exact ⟨frame.location, by rw [hframe]; rfl, hanchor⟩
    · rintro ⟨place, hplace, hother⟩
      obtain ⟨frame, hframe, rfl⟩ := Option.map_eq_some_iff.1 hplace
      exact ⟨frame, hframe, by rw [isAnchor_eq h, hother]⟩
  rw [Passes, hframe]

/-- Two classifiers that anchor errors at the announced file read the same traced errors. -/
theorem TracedError.of_bannerFile (h : t.anchor = .bannerFile) (h' : t'.anchor = .bannerFile)
    (htraced : TracedError t lines e) : TracedError t' lines e := by
  have hpasses : ∀ announced, Passes t announced = Passes t' announced := by
    intro announced
    funext l
    rw [eq_iff_iff, passes_iff h, passes_iff h', map_location_classify t t' l]
  have hanchors : ∀ announced file n, Anchors t announced file n = Anchors t' announced file n := by
    intro announced file n
    funext l
    rw [eq_iff_iff, anchors_iff h, anchors_iff h', map_location_classify t t' l]
  cases htraced with
  | mk hannounced hmessage hlocation htrace =>
    rw [hpasses, hanchors] at htrace
    exact .mk hannounced hmessage hlocation htrace

/-- All readers are the same under two classifiers that anchor errors at the announced file. -/
theorem readerOf_of_bannerFile (h : t.anchor = .bannerFile) (h' : t'.anchor = .bannerFile)
    (tag : Tag) (lines : List Text) : readerOf tag t lines = readerOf tag t' lines := by
  cases tag with
  | compileErrorTraced =>
    have hread : readTraced t lines = readTraced t' lines := by
      ext e
      rw [readTraced_eq_some_iff, readTraced_eq_some_iff]
      exact ⟨TracedError.of_bannerFile h h', TracedError.of_bannerFile h' h⟩
    exact hread
  | compileErrorInline => rfl
  | compileErrorBare => rfl
  | warningInline => rfl
  | warningBlock => rfl
  | compileErrorBlock => rfl

/-- So the catalog sees the same. -/
theorem firstAt_of_bannerFile (h : t.anchor = .bannerFile) (h' : t'.anchor = .bannerFile)
    (lines : List Text) (i : Nat) :
    (Catalog.builtin t).firstAt lines i = (Catalog.builtin t').firstAt lines i := by
  have hsight : ∀ s ∈ Catalog.builtinShapes, s.sightAt t lines i = s.sightAt t' lines i := by
    intro s hs
    obtain ⟨tag, rfl⟩ := mem_builtinShapes.1 hs
    simp only [ofReader, readerOf_of_bannerFile h h']
  ext m
  rw [builtin_firstAt_eq_some_iff, builtin_firstAt_eq_some_iff,
    hsight compileErrorInline compileErrorInline_mem]
  refine exists_congr fun s => and_congr_right fun hs => ?_
  rw [hsight s hs]

/-- A located error under a banner belongs to the file that the banner names. -/
theorem file_of_readInline (hbanner : IsBanner announced line)
    (h : readInline (line :: rest) = some e) : e.file = announced := by
  cases readInline_eq_some_iff.1 h with
  | mk hfile =>
    rw [bannerFile?_eq_some_iff.2 hbanner] at hfile
    exact (Option.some.inj hfile).symm

/-- So does a traced error, if errors are anchored at the announced file. -/
theorem file_of_readTraced (ht : t.anchor = .bannerFile) (hbanner : IsBanner announced line)
    (h : readTraced t (line :: rest) = some e) : e.file = announced := by
  cases readTraced_eq_some_iff.1 h with
  | mk hannounced _ _ htrace =>
    rw [bannerFile?_eq_some_iff.2 hbanner] at hannounced
    obtain rfl := Option.some.inj hannounced
    obtain ⟨l, -, hanchors⟩ := htrace.exists_stop
    exact ((anchors_iff ht).1 hanchors).2

/-- Whatever is seen at a banner belongs to the file that the banner names. -/
theorem file_of_firstAt_banner (ht : t.anchor = .bannerFile) {i : Nat}
    (hline : lines[i]? = some line) (hbanner : IsBanner announced line)
    (h : (Catalog.builtin t).firstAt lines i = some m) : m.file = announced := by
  obtain ⟨s, hs, hm, -⟩ := builtin_firstAt_eq_some_iff.1 h
  obtain ⟨tag, rfl⟩ := mem_builtinShapes.1 hs
  obtain ⟨e, he, rfl⟩ := sightAt_eq_some_iff.1 hm
  rw [drop_eq_cons_iff.2 ⟨hline, rfl⟩] at he
  rcases tag_of_bannerFile? (bannerFile?_eq_some_iff.2 hbanner) he with rfl | rfl
  · exact file_of_readInline hbanner he
  · exact file_of_readTraced ht hbanner he

end Shape

namespace Extraction

open Shape (IsBanner)

variable {c c' : Catalog} {lines : List Text} {cursor : Nat} {ms : List Sighting}

/-- A scan depends on the catalog only by what the catalog sees. -/
theorem LeftmostScan.of_firstAt (hsame : ∀ j, c.firstAt lines j = c'.firstAt lines j)
    (h : LeftmostScan c lines cursor ms) : LeftmostScan c' lines cursor ms where
  seen := fun m hm => by rw [← hsame, h.seen m hm]
  nonempty := h.nonempty
  inside := h.inside
  ordered := h.ordered
  complete := fun j hc hl hout => by rw [← hsame, h.complete j hc hl hout]

/-- Catalogs that see the same give the same report. -/
theorem report_of_firstAt (hsame : ∀ lines j, c.firstAt lines j = c'.firstAt lines j)
    (i : Inspection) (output : Text) : report c i output = report c' i output := by
  have hscan := leftmostScan_sightings c (Text.lines (Text.stripColour output)) 0
  rw [report_of_leftmostScan i hscan,
    report_of_leftmostScan i (hscan.of_firstAt (hsame (Text.lines (Text.stripColour output))))]

/-- If errors are anchored at the file of their banner, tests for library paths change nothing in
any report, and whatever is seen at a banner belongs to the file that the banner names. -/
theorem report_of_bannerFile (t : Trace.Classifier) (ht : t.anchor = .bannerFile) :
    (∀ (i : Inspection) (output : Text),
      report (Catalog.builtin t) i output =
        report (Catalog.builtin { anchor := .bannerFile }) i output) ∧
    ∀ (lines : List Text) (j : Nat) (line announced : Text) (m : Sighting),
      lines[j]? = some line → IsBanner announced line →
        (Catalog.builtin t).firstAt lines j = some m → m.file = announced := by
  constructor
  · intro i output
    exact report_of_firstAt (Shape.firstAt_of_bannerFile ht rfl) i output
  · intro lines j line announced m hline hbanner hm
    exact Shape.file_of_firstAt_banner ht hline hbanner hm

/-- Settings by which the directory of dependencies holds library code. -/
def dependencySettings : Settings where
  trace := { libraryPatterns := ["^deps/".toList] }

/-- An error of a dependency, raised while its module body ran. -/
def dependencyError : List Text :=
  ["== Compilation error in file deps/x.ex ==".toList, "** (E) boom".toList,
    "    deps/x.ex:3: f".toList]

/-- The frame of the dependency is library code under these settings, and yet the error is found
there and nothing is reported otherwise than without them. -/
theorem report_dependencyError :
    ∃ t, dependencySettings.classifier? Pattern.reader = .ok t ∧ t.anchor = .bannerFile ∧
      t.classify "    deps/x.ex:3: f".toList = some (.library none "deps/x.ex".toList 3) ∧
      report (Catalog.builtin t) (.ofFile "/p".toList "deps/x.ex".toList)
          (List.intercalate ['\n'] dependencyError) =
        report (Catalog.builtin { anchor := .bannerFile }) (.ofFile "/p".toList "deps/x.ex".toList)
          (List.intercalate ['\n'] dependencyError) ∧
      ∃ m, (Catalog.builtin t).firstAt dependencyError 0 = some m ∧
        m.file = "deps/x.ex".toList := by
  have hread : (dependencySettings.classifier? Pattern.reader).toOption.map (fun t => (t.anchor,
        t.classify "    deps/x.ex:3: f".toList, (Catalog.builtin t).firstAt dependencyError 0)) =
      some (.bannerFile, some (.library none "deps/x.ex".toList 3),
        some ⟨.compileErrorTraced, "deps/x.ex".toList, some 3, "boom".toList, 0, 3⟩) := by
    decide +kernel
  have hbanner : IsBanner "deps/x.ex".toList "== Compilation error in file deps/x.ex ==".toList :=
    Shape.bannerFile?_eq_some_iff.1 (by decide)
  cases ht : dependencySettings.classifier? Pattern.reader with
  | error e =>
    rw [ht] at hread
    contradiction
  | ok t =>
    rw [ht] at hread
    simp only [Except.toOption, Option.map_some, Option.some.injEq, Prod.mk.injEq] at hread
    obtain ⟨hanchor, hframe, hm⟩ := hread
    have hreport := report_of_bannerFile t hanchor
    exact ⟨t, rfl, hanchor, hframe, hreport.1 _ _, _, hm, hreport.2 _ 0 _ _ _ rfl hbanner hm⟩

end Extraction

end ElixirDiagnostics
