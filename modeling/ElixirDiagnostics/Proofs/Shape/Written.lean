import ElixirDiagnostics.Proofs.Location.Written
import ElixirDiagnostics.Proofs.Shape.Inline
import ElixirDiagnostics.Proofs.Text.Cut

/-!
# Banners and error lines as they are written

A banner and an error line can be described by how they are written, and their readers find exactly
what is written so. An error line that tells a place is read back where it stands alone; under a
banner the inline reader finds the same when the banner names the same file, finds nothing when the
banner names another file without a colon, and a trace below is never asked.
-/

namespace ElixirDiagnostics

namespace Shape

open Text Location

variable {file kind line announced banner m r s : Text} {lines : List Text}

/-- A banner that names a file, in one of the two wordings, maybe with blank space behind it. -/
structure IsBanner (file line : Text) : Prop where
  /-- The name is not empty. -/
  ne_nil : file ≠ []
  /-- It begins with a visible character. -/
  visible : isIndented file = false
  /-- It stands on one line. -/
  one_line : '\n' ∉ file
  /-- The banner is written around it. -/
  written : ∃ wording ∈ ["on file ".toList, "in file ".toList], ∃ blank, isBlank blank = true ∧
    line = "== Compilation error ".toList ++ wording ++ file ++ " ==".toList ++ blank

/-- The kind of an error: visible characters without parentheses. -/
structure IsKind (kind : Text) : Prop where
  /-- It is not empty. -/
  ne_nil : kind ≠ []
  /-- It has no blank space and no parentheses. -/
  chars : ∀ c ∈ kind, Trace.isAppChar c = true

/-- An error line, with what it says after the kind. -/
def errorLine (kind rest : Text) : Text := "** (".toList ++ kind ++ ") ".toList ++ rest

/-- An error line as it is read, piece by piece. -/
theorem errorLine_eq (kind rest : Text) :
    errorLine kind rest = "** (".toList ++ (kind ++ (") ".toList ++ rest)) := by
  unfold errorLine
  rw [List.append_assoc, List.append_assoc]

/-- The blank space at the end of a text. -/
theorem eq_trimEnd_append (s : Text) : ∃ blank, isBlank blank = true ∧ s = trimEnd s ++ blank := by
  refine ⟨(s.reverse.takeWhile isSpace).reverse, ?_, ?_⟩
  · simp [isBlank]
  · rw [trimEnd, ← List.reverse_append, List.takeWhile_append_dropWhile, List.reverse_reverse]

/-- Blank space behind a visible end is trimmed. -/
theorem trimEnd_append_blank {blank : Text} {c : Char} (hblank : isBlank blank = true)
    (hc : isSpace c = false) (s : Text) : trimEnd (s ++ [c] ++ blank) = s ++ [c] := by
  have hall : ∀ d ∈ blank.reverse, isSpace d = true := fun d hd =>
    List.all_eq_true.1 hblank d (List.mem_reverse.1 hd)
  have hneg : ¬isSpace c = true := by simp [hc]
  rw [trimEnd, List.reverse_append, List.dropWhile_append_of_pos hall, List.reverse_append,
    List.reverse_singleton, List.singleton_append, List.dropWhile_cons_of_neg hneg]
  simp

/-- The reader of banners finds the files of the lines that are written as banners. -/
theorem bannerFile?_eq_some_iff : bannerFile? line = some file ↔ IsBanner file line := by
  constructor
  · intro h
    obtain ⟨s, hs, h⟩ := Option.bind_eq_some_iff.1 h
    obtain ⟨s', hs', h⟩ := Option.bind_eq_some_iff.1 h
    obtain ⟨r, hr, h⟩ := Option.bind_eq_some_iff.1 h
    obtain ⟨rfl, hne, hvisible, hline⟩ := message?_eq_some_iff.1 h
    refine ⟨hne, hvisible, hline, ?_⟩
    obtain ⟨blank, hblank, hsplit⟩ := eq_trimEnd_append s'
    have hend : trimEnd s' = r.reverse ++ " ==".toList := by
      have hreverse := congrArg List.reverse (after?_eq_some_iff.1 hr)
      simpa using hreverse
    have hwording : ∃ wording ∈ ["on file ".toList, "in file ".toList], s = wording ++ s' := by
      rcases Option.or_eq_some_iff.1 hs' with hon | ⟨-, hin⟩
      · exact ⟨_, by simp, after?_eq_some_iff.1 hon⟩
      · exact ⟨_, by simp, after?_eq_some_iff.1 hin⟩
    obtain ⟨wording, hmem, hwording⟩ := hwording
    refine ⟨wording, hmem, blank, hblank, ?_⟩
    rw [after?_eq_some_iff.1 hs, hwording, hsplit, hend]
    simp only [List.append_assoc]
  · rintro ⟨hne, hvisible, hline, wording, hmem, blank, hblank, rfl⟩
    have htrim : trimEnd (file ++ " ==".toList ++ blank) = file ++ " ==".toList := by
      have hread := trimEnd_append_blank hblank (by decide : isSpace '=' = false)
        (file ++ " =".toList)
      simpa using hread
    have hwording : (after? "on file ".toList (wording ++ (file ++ " ==".toList ++ blank))).or
        (after? "in file ".toList (wording ++ (file ++ " ==".toList ++ blank))) =
          some (file ++ " ==".toList ++ blank) := by
      rcases List.mem_cons.1 hmem with rfl | hmem
      · rw [after?_append, Option.some_or]
      · obtain rfl := List.mem_singleton.1 hmem
        rw [after?_append]
        rfl
    have hreverse : (file ++ " ==".toList).reverse = "== ".toList ++ file.reverse := by simp
    have hmessage : message? file.reverse.reverse = some file := by
      rw [List.reverse_reverse]
      exact message?_of_visible hne hvisible hline
    rw [bannerFile?, List.append_assoc, List.append_assoc, List.append_assoc, after?_append]
    simp only [Option.bind_eq_bind, Option.bind_some]
    rw [← List.append_assoc file, hwording, Option.bind_some, htrim, hreverse, after?_append,
      Option.bind_some, hmessage]

/-- The reader of kinds finds the kinds of the lines that are written as error lines. -/
theorem errorKind?_eq_some_iff :
    errorKind? line = some (kind, r) ↔ IsKind kind ∧ line = errorLine kind r := by
  constructor
  · intro h
    obtain ⟨s, hs, h⟩ := Option.bind_eq_some_iff.1 h
    obtain ⟨⟨k, s'⟩, hk, h⟩ := Option.bind_eq_some_iff.1 h
    obtain ⟨r', hr, h⟩ := Option.bind_eq_some_iff.1 h
    obtain ⟨rfl, rfl⟩ : k = kind ∧ r' = r := by simpa using h
    obtain ⟨rfl, hne, hall⟩ := run?_eq_some hk
    refine ⟨⟨hne, hall⟩, ?_⟩
    rw [after?_eq_some_iff.1 hs, after?_eq_some_iff.1 hr, errorLine_eq]
  · rintro ⟨⟨hne, hall⟩, rfl⟩
    have hrun : run? Trace.isAppChar (kind ++ (") ".toList ++ r)) =
        some (kind, ") ".toList ++ r) := by
      refine run?_append hne hall fun c hc => ?_
      obtain rfl : ')' = c := by simpa using hc
      decide
    rw [errorKind?, errorLine_eq, after?_append]
    simp only [Option.bind_eq_bind, Option.bind_some]
    rw [hrun, Option.bind_some, after?_append]
    rfl

/-- What an error line of an output says stands on one line. -/
theorem newline_not_mem_of_errorLine (h : errorLine kind r ∈ Text.lines s) : '\n' ∉ r := by
  intro hr
  exact newline_not_mem_of_mem_lines h (by simp [errorLine_eq, hr])

/-- What an error line says after its kind is read from the lines that are written as error lines
and say something on one line. -/
theorem errorRest?_eq_some_iff :
    errorRest? line = some r ↔
      ∃ kind, IsKind kind ∧ line = errorLine kind r ∧ r ≠ [] ∧ '\n' ∉ r := by
  constructor
  · intro h
    obtain ⟨⟨kind, rest⟩, hkind, h⟩ := Option.bind_eq_some_iff.1 h
    dsimp only at h
    split at h
    · contradiction
    · next hsays =>
      cases h
      obtain ⟨hk, hline⟩ := errorKind?_eq_some_iff.1 hkind
      obtain ⟨hne, hnewline⟩ : r ≠ [] ∧ '\n' ∉ r := by simpa using hsays
      exact ⟨kind, hk, hline, hne, hnewline⟩
  · rintro ⟨kind, hkind, hline, hne, hnewline⟩
    have hread : errorKind? line = some (kind, r) := errorKind?_eq_some_iff.2 ⟨hkind, hline⟩
    rw [errorRest?, hread]
    simp [hne, hnewline]

/-- What an error line says after its kind is read back. -/
theorem errorRest?_errorLine (hkind : IsKind kind) (hne : r ≠ []) (hline : '\n' ∉ r) :
    errorRest? (errorLine kind r) = some r :=
  errorRest?_eq_some_iff.2 ⟨kind, hkind, rfl, hne, hline⟩

variable {p : Place}

/-- The test for a location at the start of a text finds exactly those that begin with one. -/
theorem hasLocation_iff : hasLocation s = true ↔ BeginsWithLocation s := by
  constructor
  · intro h
    obtain ⟨⟨file, r⟩, hmem, hplace⟩ := List.any_eq_true.1 h
    obtain ⟨rfl, hfile⟩ := isFile_of_mem_fileReadings hmem
    dsimp only at hplace
    split at hplace
    · next digits r' hdigits =>
      obtain ⟨rest, hrest⟩ := Option.isSome_iff_exists.1 hplace
      obtain ⟨rfl, hne, hline⟩ := lineDigits?_eq_some hdigits
      obtain ⟨column, hcolumn, hsplit⟩ := eq_columnText_append r'
      rw [after?_eq_some_iff.1 hrest] at hsplit
      have hbegins := BeginsWithLocation.mk hfile ⟨hne, hline⟩ hcolumn rest
      rw [hsplit]
      simpa only [List.append_assoc, List.cons_append] using hbegins
    · contradiction
  · intro h
    cases h with
    | @mk file line column hfile hline hcolumn rest =>
      refine List.any_eq_true.2 ⟨_, mem_fileReadings_of_isFile (by decide) hfile _, ?_⟩
      have hdigits := lineDigits?_columnText hline column rest
      simp only [List.cons_append] at hdigits
      dsimp only
      rw [hdigits]
      dsimp only
      rw [skipColumn_columnText hcolumn, after?_append]
      rfl

/-- A place that is followed by a message is a location. -/
theorem hasLocation_text (p : Place) (m : Text) :
    hasLocation (p.text ++ ": ".toList ++ m) = true := by
  have hfile : IsFile isFileChar p.file := .name p.isFile.ne_nil p.isFile.chars
  have hbegins := BeginsWithLocation.mk hfile p.isLine p.isColumn m
  rw [hasLocation_iff, Place.text, Place.rest, List.append_assoc, List.append_assoc]
  simpa only [List.append_assoc, List.cons_append] using hbegins

/-- A place and a message are the parts of a bare error. -/
theorem bareParts?_text (p : Place) (hm : message? m = some m) :
    bareParts? (p.text ++ ": ".toList ++ m) = some (p.file, some p.line, m) := by
  rw [bareParts?, fileReadings_text, List.findSome?_cons]
  dsimp only
  rw [lineDigits?_rest]
  dsimp only
  rw [skipColumn_columnText p.isColumn, after?_append]
  simp only [Option.bind_eq_bind, Option.bind_some]
  rw [hm]
  rfl

/-- A visible text is what is left without the blank space before it. -/
theorem trimStart_blank_append {blank : Text} (hblank : isBlank blank = true)
    (hvisible : isIndented m = false) : trimStart (blank ++ m) = m := by
  have hall : ∀ c ∈ blank, isSpace c = true := List.all_eq_true.1 hblank
  rw [trimStart, List.dropWhile_append_of_pos hall]
  cases m with
  | nil => rfl
  | cons c m =>
    have hc : ¬isSpace c = true := by simpa [isIndented] using hvisible
    exact List.dropWhile_cons_of_neg hc

/-- A message is read behind a blank. -/
theorem message?_trimStart_blank (hm : message? m = some m) :
    message? (trimStart (' ' :: m)) = some m := by
  have hvisible := (message?_eq_some_iff.1 hm).2.2.1
  have hblank : isBlank [' '] = true := rfl
  have htrim : trimStart (' ' :: m) = m := trimStart_blank_append hblank hvisible
  rw [htrim, hm]

/-- A line number and a message are read behind the file, and a column between them is skipped. -/
theorem inlineTail?_numbered {d : Text} {column : Option Text} (hline : IsNumeral d)
    (hcolumn : ∀ c ∈ column, IsNumeral c) (hm : message? m = some m) :
    inlineTail? (':' :: d ++ columnText column ++ ": ".toList ++ m) = some (some d, m) := by
  have hdigits := lineDigits?_columnText hline column m
  have hbehind := Behind.numbered (p := [':']) hdigits (skipColumn_columnText hcolumn m)
  exact inlineTail?_of_behind hbehind rfl (message?_trimStart_blank hm)

/-- A message alone is read behind the file and a colon. -/
theorem inlineTail?_plain (hm : message? m = some m) :
    inlineTail? (": ".toList ++ m) = some (none, m) := by
  have hbehind : Behind [':'] (": ".toList ++ m) none (' ' :: m) := .plain (' ' :: m)
  exact inlineTail?_of_behind hbehind rfl (message?_trimStart_blank hm)

/-- The line of a place and the message are read behind the file. -/
theorem inlineTail?_rest (p : Place) (hm : message? m = some m) :
    inlineTail? (p.rest ++ ": ".toList ++ m) = some (some p.line, m) :=
  inlineTail?_numbered p.isLine p.isColumn hm

/-- What is seen of an error line that tells a place. -/
def located (p : Place) (m : Text) (length : Nat) : Evidence :=
  ⟨p.file, number? p.line, m, length⟩

/-- An error line that tells a place, with its kind before it and a message behind it. -/
def locatedLine (kind : Text) (p : Place) (m : Text) : Text :=
  errorLine kind (p.text ++ ": ".toList ++ m)

/-- Alone, a line that says a place and a message is read back as a bare error, unless the message
is a warning's. -/
theorem readBare_of_saying (hsaying : saying line = p.text ++ ": ".toList ++ m)
    (hm : message? m = some m) (hwarning : ¬"warning:".toList <+: m) (lines : List Text) :
    readBare (line :: lines) = some (located p m 1) := by
  have hparts : bareParts? (saying line) = some (p.file, some p.line, m) := by
    rw [hsaying]
    exact bareParts?_text p hm
  have hprefix : "warning:".toList.isPrefixOf m = false := by
    rw [Bool.eq_false_iff, Ne, List.isPrefixOf_iff_prefix]
    exact hwarning
  have hplaced : some p.line ≠ none := Option.some_ne_none p.line
  exact readBare_eq_some_iff.2 (.mk hparts hprefix fun hnone => absurd hnone hplaced)

/-- So is an error line that tells a place, with its kind before it. -/
theorem readBare_locatedLine (hkind : IsKind kind) (hm : message? m = some m)
    (hwarning : ¬"warning:".toList <+: m) (lines : List Text) :
    readBare (locatedLine kind p m :: lines) = some (located p m 1) := by
  have hread : errorKind? (locatedLine kind p m) = some (kind, p.text ++ ": ".toList ++ m) :=
    errorKind?_eq_some_iff.2 ⟨hkind, rfl⟩
  have hsaying : saying (locatedLine kind p m) = p.text ++ ": ".toList ++ m := by
    rw [saying, hread]
    rfl
  exact readBare_of_saying hsaying hm hwarning lines

/-- What the error line says after its kind. -/
theorem errorRest?_locatedLine (hkind : IsKind kind) (hline : '\n' ∉ m) :
    errorRest? (locatedLine kind p m) = some (p.text ++ ": ".toList ++ m) := by
  refine errorRest?_errorLine hkind (by simp) ?_
  have htext := (isSolid_text p).newline_not_mem
  simp [htext, hline]

/-- Under a banner that names the file of the place the same is read, with the banner. -/
theorem readInline_of_same (hbanner : IsBanner p.file banner) (hkind : IsKind kind)
    (hm : message? m = some m) (lines : List Text) :
    readInline (banner :: locatedLine kind p m :: lines) = some (located p m 2) := by
  have hline := (message?_eq_some_iff.1 hm).2.2.2
  have hfile : after? p.file (p.text ++ ": ".toList ++ m) = some (p.rest ++ ": ".toList ++ m) := by
    rw [after?_eq_some_iff, Place.text]
    simp only [List.append_assoc]
  rw [readInline, bannerFile?_eq_some_iff.2 hbanner, errorRest?_locatedLine hkind hline]
  simp only [Option.bind_eq_bind, Option.bind_some]
  rw [hfile, Option.bind_some, inlineTail?_rest p hm]
  rfl

/-- Behind a beginning of the file's name that is not all of it there is no colon. -/
theorem inlineTail?_of_beginning {w : Text} (hw : ∀ c ∈ w, isFileChar c = true) (hne : w ≠ [])
    (s : Text) : inlineTail? (w ++ s) = none := by
  obtain ⟨c, w, rfl⟩ := List.exists_cons_of_ne_nil hne
  have hc : c ≠ ':' := by
    rintro rfl
    exact absurd (hw ':' (by simp)) (by decide)
  have hdigits : lineDigits? (c :: (w ++ s)) = none := by
    unfold lineDigits?
    split
    · next heq => exact absurd (List.cons.inj heq).1 hc
    · rfl
  have hafter : after? [':'] (c :: (w ++ s)) = none := by simp [after?, Ne.symm hc]
  rw [List.cons_append, inlineTail?, hdigits]
  simp [hafter]

/-- Under a banner that names another file, one without a colon, nothing is read. -/
theorem readInline_of_other (hbanner : IsBanner announced banner) (hcolon : ':' ∉ announced)
    (hother : announced ≠ p.file) (hkind : IsKind kind) (hline : '\n' ∉ m) (lines : List Text) :
    readInline (banner :: locatedLine kind p m :: lines) = none := by
  rw [readInline, bannerFile?_eq_some_iff.2 hbanner, errorRest?_locatedLine hkind hline]
  simp only [Option.bind_eq_bind, Option.bind_some]
  cases hs : after? announced (p.text ++ ": ".toList ++ m) with
  | none => rfl
  | some s =>
    -- Without a colon the announced name can only be a beginning of the file's.
    have hsplit : p.file ++ (p.rest ++ ": ".toList ++ m) = announced ++ s := by
      rw [← after?_eq_some_iff.1 hs, Place.text]
      simp only [List.append_assoc]
    have hbeginning : ∃ w, p.file = announced ++ w ∧ s = w ++ (p.rest ++ ": ".toList ++ m) := by
      rcases List.append_eq_append_iff.1 hsplit with ⟨w, hw, hrest⟩ | ⟨w, hw, hrest⟩
      · cases w with
        | nil => exact ⟨[], by simpa using hw.symm, by simpa using hrest.symm⟩
        | cons c w =>
          obtain rfl : ':' = c := by simpa [Place.rest] using congrArg List.head? hrest
          exact absurd (by simp [hw]) hcolon
      · exact ⟨w, hw, hrest⟩
    obtain ⟨w, hfile, rfl⟩ := hbeginning
    have hw : ∀ c ∈ w, isFileChar c = true := fun c hc => p.isFile.chars c (by simp [hfile, hc])
    have hne : w ≠ [] := by
      rintro rfl
      exact hother (by simpa using hfile.symm)
    rw [Option.bind_some, inlineTail?_of_beginning hw hne]
    rfl

/-- Under any banner no trace is read. -/
theorem readTraced_locatedLine (t : Trace.Classifier) (hbanner : IsBanner announced banner)
    (hkind : IsKind kind) (hline : '\n' ∉ m) (lines : List Text) :
    readTraced t (banner :: locatedLine kind p m :: lines) = none := by
  rw [readTraced, bannerFile?_eq_some_iff.2 hbanner, errorRest?_locatedLine hkind hline]
  simp only [Option.bind_eq_bind, Option.bind_some, hasLocation_text]
  rfl

end Shape

end ElixirDiagnostics
