import ElixirDiagnostics.Pattern.Reader
import ElixirDiagnostics.Proofs.Settings.Classifier
import ElixirDiagnostics.Proofs.Shape.Anchored

/-!
# More library code

When the anchor is the first source frame, an error is attributed to the first frame that names no
application and no file of library code. If more files count as library code, fewer frames are
anchors, whatever reads the patterns that say which files do. So an error that is still seen was
seen before as well, with the same message and at a frame no further down, and it was seen just like
this unless it was attributed to a file that is now library code.
-/

namespace ElixirDiagnostics

namespace Trace

open Text Location

variable {t : Classifier} {l file digits r : Text} {line : Nat}

/-- The name of a file in a frame does not begin with a parenthesis. -/
theorem head?_ne_of_isFile (h : IsFile isFrameFileChar file) (s : Text) :
    (file ++ s).head? ≠ some '(' := by
  intro hhead
  cases h with
  | name hne hchars =>
    obtain ⟨c, w, rfl⟩ := List.exists_cons_of_ne_nil hne
    obtain rfl : c = '(' := by simpa using hhead
    exact absurd (hchars '(' (by simp)) (by decide)
  | @drive c w hc =>
    obtain rfl : c = '(' := by simpa using hhead
    exact absurd hc (by decide)

/-- A line that names a file without an application has no parenthesis before the file. -/
theorem head?_ne_of_frameParts? (h : frameParts? l = some (none, file, digits)) :
    (trimStart l).head? ≠ some '(' := by
  unfold frameParts? at h
  cases happ : app? (trimStart l) with
  | some p =>
    rw [happ] at h
    obtain ⟨reading, -, hr⟩ := List.exists_of_findSome?_eq_some h
    obtain ⟨digits', -, hr⟩ := Option.map_eq_some_iff.1 hr
    exact absurd (congrArg Prod.fst hr) nofun
  | none =>
    rw [happ] at h
    obtain ⟨⟨f, r⟩, hmem, -⟩ := List.exists_of_findSome?_eq_some h
    obtain ⟨hsplit, hfile⟩ := isFile_of_mem_fileReadings hmem
    rw [hsplit]
    exact head?_ne_of_isFile hfile r

/-- A source frame is an indented line that names a file without an application, and the file is not
library code. -/
theorem classify_eq_source_iff :
    t.classify l = some (.source file line) ↔ (isBlank l = false ∧ isIndented l = true) ∧
      (∃ digits, frameParts? l = some (none, file, digits) ∧ number? digits = some line) ∧
      ¬t.IsLibrary file := by
  constructor
  · intro h
    obtain hvisible := Shape.visible_of_classify h
    unfold Classifier.classify at h
    split at h
    · contradiction
    · have hframe := Option.some.inj h
      split at hframe
      · contradiction
      · next app _ digits hparts =>
        split at hframe
        · contradiction
        · next n hn =>
          split at hframe
          · contradiction
          · next hproject =>
            cases hframe
            obtain ⟨happ, hlibrary⟩ := Bool.or_eq_false_iff.1 (Bool.eq_false_iff.2 hproject)
            obtain rfl : app = none := by simpa using happ
            exact ⟨hvisible, ⟨digits, hparts, hn⟩, Bool.eq_false_iff.1 hlibrary⟩
  · rintro ⟨⟨hblank, hindented⟩, ⟨digits, hparts, hn⟩, hproject⟩
    have hlibrary : t.libraryPaths.any (· file) = false := Bool.eq_false_iff.2 hproject
    simp only [Classifier.classify, hblank, hindented, hparts, hn, hlibrary]
    rfl

end Trace

namespace Shape

open Text Location

variable {t t' : Trace.Classifier} {more : Text → Prop} {banner file l : Text}
  {lines : List Text} {line i : Nat} {e' : Evidence} {m' : Sighting}

/-- Two classifiers that look for the first source frame, where the second one takes more files for
library code. -/
structure Extends (more : Text → Prop) (t t' : Trace.Classifier) : Prop where
  /-- The first one looks for the first source frame. -/
  anchor : t.anchor = .firstSourceFrame
  /-- So does the second one. -/
  anchor' : t'.anchor = .firstSourceFrame
  /-- It takes more files for library code. -/
  isLibrary_iff : ∀ f, t'.IsLibrary f ↔ t.IsLibrary f ∨ more f

/-- The anchors are the source frames. -/
theorem anchors_iff_source (ht : t.anchor = .firstSourceFrame) :
    Anchors t banner file line l ↔ t.classify l = some (.source file line) := by
  constructor
  · rintro ⟨frame, hframe, hanchor, hlocation⟩
    cases frame with
    | source f n =>
      cases hlocation
      exact hframe
    | library app f n =>
      simp [Trace.Classifier.isAnchor, ht] at hanchor
    | function =>
      contradiction
  · intro h
    exact ⟨_, h, by simp [Trace.Classifier.isAnchor, ht], rfl⟩

/-- A line that is passed is no anchor. -/
theorem Passes.not_anchors (h : Passes t banner l) : ¬Anchors t banner file line l := by
  rintro ⟨frame, hframe, hanchor, -⟩
  have hnone := (passes_iff_indented.1 h).2 frame hframe
  rw [hanchor] at hnone
  contradiction

namespace Extends

/-- The anchors that are left are those in files that are library code for neither. -/
theorem anchors_iff (h : Extends more t t') :
    Anchors t' banner file line l ↔ Anchors t banner file line l ∧ ¬more file := by
  rw [anchors_iff_source h.anchor, anchors_iff_source h.anchor', Trace.classify_eq_source_iff,
    Trace.classify_eq_source_iff, h.isLibrary_iff, not_or]
  simp only [and_assoc]

/-- What was passed is passed. -/
theorem passes (h : Extends more t t') (hpasses : Passes t banner l) : Passes t' banner l := by
  have hline := (passes_iff_indented.1 hpasses).1
  refine (passes_or_anchors t' banner hline).resolve_right ?_
  rintro ⟨place, hplace⟩
  exact hpasses.not_anchors (h.anchors_iff.1 hplace).1

/-- An error that is still seen was seen before, with the same message and no further down, and if
its file is no further library code, there is no difference. -/
theorem exists_tracedError (h : Extends more t t') (herror : TracedError t' lines e') :
    ∃ e, TracedError t lines e ∧ e.length ≤ e'.length ∧ e.message = e'.message ∧
      (¬more e.file → e = e') := by
  cases herror with
  | @mk banner error announced message file trace line n hannounced hmessage hlocation htrace =>
    have hpass : ∀ l, Passes t' announced l →
        Passes t announced l ∨ ∃ place : Text × Nat, Anchors t announced place.1 place.2 l :=
      fun l hl => passes_or_anchors t announced (passes_iff_indented.1 hl).1
    have hstop : ∀ l, Anchors t' announced file line l →
        ∃ place : Text × Nat, Anchors t announced place.1 place.2 l :=
      fun l hl => ⟨(file, line), (h.anchors_iff.1 hl).1⟩
    obtain ⟨⟨f, k⟩, j, hj, hdescent⟩ := htrace.exists_le hpass hstop
    refine ⟨_, .mk hannounced hmessage hlocation hdescent, Nat.add_le_add_right hj 3, rfl, ?_⟩
    intro hfile
    -- The reader that takes more for library code stops at the same frame, and it stops only once.
    have hsame : Descent (Passes t' announced) (Anchors t' announced f k) trace j :=
      hdescent.imp (fun l hl => h.passes hl) fun l hl => h.anchors_iff.2 ⟨hl, hfile⟩
    have hread := anchorFrame?_eq_some_iff.2 hsame
    rw [anchorFrame?_eq_some_iff.2 htrace] at hread
    cases hread
    rfl

/-- The same holds of what is seen. -/
theorem exists_sightAt (h : Extends more t t')
    (hsight : compileErrorTraced.sightAt t' lines i = some m') :
    ∃ m, compileErrorTraced.sightAt t lines i = some m ∧ m.stop ≤ m'.stop ∧
      m.message = m'.message ∧ (¬more m.file → m = m') := by
  obtain ⟨e', he', rfl⟩ := Option.map_eq_some_iff.1 hsight
  obtain ⟨e, he, hlength, hmessage, hsame⟩ := h.exists_tracedError (readTraced_eq_some_iff.1 he')
  have hread : readTraced t (lines.drop i) = some e := readTraced_eq_some_iff.2 he
  refine ⟨_, Option.map_eq_some_iff.2 ⟨e, hread, rfl⟩, Nat.add_le_add_left hlength i, hmessage, ?_⟩
  intro hfile
  rw [hsame hfile]

end Extends

/-- A frame of the project, as the classifier takes it, under patterns for library code. -/
structure IsProjectFrame (read : Trace.PatternReader) (t : Trace.Classifier)
    (patterns : List Text) (file : Text) (line : Nat) (l : Text) : Prop where
  /-- The line is a source frame with this location. -/
  source : t.classify l = some (.source file line)
  /-- No application in parentheses stands before the file. -/
  no_app : ∀ app, ¬('(' :: app ++ [')']) <+: trimStart l
  /-- The file matches none of the patterns. -/
  no_pattern : ∀ p ∈ patterns, ¬read.Matches p file

/-- The line that a traced error ends with is a source frame, and the error is located there. -/
theorem source_of_sightAt (ht : t.anchor = .firstSourceFrame)
    (h : compileErrorTraced.sightAt t lines i = some m') :
    ∃ l line, lines[m'.stop - 1]? = some l ∧ m'.line? = some line ∧
      t.classify l = some (.source m'.file line) := by
  cases sightAt_compileErrorTraced_iff.1 h with
  | mk _ _ _ _ _ _ _ hanchor =>
    obtain ⟨l, hl, hanchors⟩ := hanchor.anchors
    exact ⟨l, _, hl, rfl, (anchors_iff_source ht).1 hanchors⟩

/-- Settings by which errors are attributed to the first source frame, with patterns for library
code. -/
def sourceFrameSettings (patterns : List Text) : Settings where
  trace := { anchor := .firstSourceFrame, libraryPatterns := patterns }

/-- Whatever reads the patterns: with valid patterns for library code and further ones, an error
that is seen under all of them is seen under the first ones alone, with the same message and down to
a frame that is no further below, and if that frame's file matches no further pattern, it is seen
just the same. Under all of them the error is located at a frame of the project: no application
stands before the file, and the file matches none of the patterns. -/
theorem traced_of_more_patterns (read : Trace.PatternReader) (P Q : List Text)
    (hvalid : ∀ p ∈ P ++ Q, read.IsValid p) :
    ∃ t t', (sourceFrameSettings P).classifier? read = .ok t ∧
      (sourceFrameSettings (P ++ Q)).classifier? read = .ok t' ∧
      ∀ lines i m', compileErrorTraced.sightAt t' lines i = some m' →
        (∃ m, compileErrorTraced.sightAt t lines i = some m ∧ m.stop ≤ m'.stop ∧
          m.message = m'.message ∧ ((∀ q ∈ Q, ¬read.Matches q m.file) → m = m')) ∧
        ∃ l line, lines[m'.stop - 1]? = some l ∧ m'.line? = some line ∧
          IsProjectFrame read t' (P ++ Q) m'.file line l := by
  have hP : ∀ p ∈ (sourceFrameSettings P).trace.libraryPatterns, read.IsValid p :=
    fun p hp => hvalid p (List.mem_append_left Q hp)
  obtain ⟨t, ht, hanchor, hlibrary⟩ := Settings.exists_classifier? hP
  obtain ⟨t', ht', hanchor', hlibrary'⟩ :=
    Settings.exists_classifier? (s := sourceFrameSettings (P ++ Q)) hvalid
  have hextends : Extends (fun f => ∃ q ∈ Q, read.Matches q f) t t' := by
    refine ⟨hanchor, hanchor', fun f => ?_⟩
    rw [hlibrary, hlibrary']
    simp only [sourceFrameSettings, List.mem_append, or_and_right, exists_or]
  refine ⟨t, t', ht, ht', fun lines i m' hsight => ⟨?_, ?_⟩⟩
  · obtain ⟨m, hm, hstop, hmessage, hsame⟩ := hextends.exists_sightAt hsight
    refine ⟨m, hm, hstop, hmessage, fun hQ => hsame ?_⟩
    rintro ⟨q, hq, hmatches⟩
    exact hQ q hq hmatches
  · obtain ⟨l, line, hl, hline, hsource⟩ := source_of_sightAt hanchor' hsight
    obtain ⟨-, ⟨digits, hparts, -⟩, hproject⟩ := Trace.classify_eq_source_iff.1 hsource
    refine ⟨l, line, hl, hline, hsource, ?_, fun p hp hmatches => ?_⟩
    · rintro app ⟨r, hr⟩
      have hhead : (trimStart l).head? = some '(' := by
        rw [← hr]
        rfl
      exact Trace.head?_ne_of_frameParts? hparts hhead
    · exact hproject ((hlibrary' m'.file).2 ⟨p, hp, hmatches⟩)

/-- A trace in which the error goes through an application, a dependency, a helper and the file that
is compiled. -/
def helperTrace : List Text :=
  ["== Compilation error in file web/r.ex ==".toList, "** (E) boom".toList,
    "    (x) lib/x.ex:1: f".toList, "    deps/y.ex:2: g".toList, "    lib/h.ex:3: h".toList,
    "    web/r.ex:4: i".toList]

/-- The same without the helper. -/
def directTrace : List Text := helperTrace.eraseIdx 4

/-- When the files of the helper's directory are library code as well, the error moves from the
helper down to the file that is compiled, and without the helper it stays there. -/
theorem traced_helperTrace :
    (∀ p ∈ ["^deps/".toList] ++ ["^lib/".toList], Pattern.reader.IsValid p) ∧
    (∀ q ∈ ["^lib/".toList], ¬Pattern.reader.Matches q "web/r.ex".toList) ∧
    ∃ t t', (sourceFrameSettings ["^deps/".toList]).classifier? Pattern.reader = .ok t ∧
      (sourceFrameSettings ["^deps/".toList, "^lib/".toList]).classifier? Pattern.reader = .ok t' ∧
      compileErrorTraced.sightAt t helperTrace 0 =
        some ⟨.compileErrorTraced, "lib/h.ex".toList, some 3, "boom".toList, 0, 5⟩ ∧
      compileErrorTraced.sightAt t' helperTrace 0 =
        some ⟨.compileErrorTraced, "web/r.ex".toList, some 4, "boom".toList, 0, 6⟩ ∧
      IsProjectFrame Pattern.reader t' ["^deps/".toList, "^lib/".toList] "web/r.ex".toList 4
        "    web/r.ex:4: i".toList ∧
      compileErrorTraced.sightAt t directTrace 0 = compileErrorTraced.sightAt t' directTrace 0 := by
  have hvalid : ∀ p ∈ ["^deps/".toList] ++ ["^lib/".toList], Pattern.reader.IsValid p := by
    decide +kernel
  have hother : ∀ q ∈ ["^lib/".toList], ¬Pattern.reader.Matches q "web/r.ex".toList := by
    decide +kernel
  have hfew : ((sourceFrameSettings ["^deps/".toList]).classifier? Pattern.reader).toOption.map
        (fun t => (compileErrorTraced.sightAt t helperTrace 0,
          compileErrorTraced.sightAt t directTrace 0)) =
      some (some ⟨.compileErrorTraced, "lib/h.ex".toList, some 3, "boom".toList, 0, 5⟩,
        some ⟨.compileErrorTraced, "web/r.ex".toList, some 4, "boom".toList, 0, 5⟩) := by
    decide +kernel
  have hmany : ((sourceFrameSettings ["^deps/".toList, "^lib/".toList]).classifier?
        Pattern.reader).toOption.map (fun t => (compileErrorTraced.sightAt t helperTrace 0,
          compileErrorTraced.sightAt t directTrace 0)) =
      some (some ⟨.compileErrorTraced, "web/r.ex".toList, some 4, "boom".toList, 0, 6⟩,
        some ⟨.compileErrorTraced, "web/r.ex".toList, some 4, "boom".toList, 0, 5⟩) := by
    decide +kernel
  obtain ⟨t, t', ht, ht', h⟩ := traced_of_more_patterns Pattern.reader _ _ hvalid
  rw [ht] at hfew
  rw [List.singleton_append] at ht'
  rw [ht'] at hmany
  simp only [Except.toOption, Option.map_some, Option.some.injEq, Prod.mk.injEq] at hfew hmany
  obtain ⟨hhelper, hdirect⟩ := hfew
  obtain ⟨hhelper', hdirect'⟩ := hmany
  obtain ⟨-, l, line, hl, hline, hframe⟩ := h helperTrace 0 _ hhelper'
  obtain ⟨⟨m, hm, -, -, hsame⟩, -⟩ := h directTrace 0 _ hdirect'
  obtain rfl : "    web/r.ex:4: i".toList = l := Option.some.inj hl
  obtain rfl : 4 = line := Option.some.inj hline
  refine ⟨hvalid, hother, t, t', ht, ht', hhelper, hhelper', hframe, ?_⟩
  obtain rfl : _ = m := Option.some.inj (hdirect.symm.trans hm)
  rw [hm, hdirect', hsame hother]

end Shape

end ElixirDiagnostics
