import ElixirDiagnostics.Proofs.Shape.Library
import ElixirDiagnostics.Proofs.Shape.WrittenBlock

/-!
# Frames as they are written

A frame with a location is written behind blank space, maybe with its application in parentheses
before the file, and its line number ends the line or stands before a colon or blank space. The
reader of frames finds a place in the lines that are written so and in no others. A plain name has
one reading, so its place is the written one, and an application, the patterns for library code and
the size of the number decide what it counts as. All other visible indented lines are frames without
a location.
-/

namespace ElixirDiagnostics

namespace Trace

open Text Location Shape

variable {t : Classifier} {l lead s r rest file digits name : Text} {app column : Option Text}
  {frame : Frame}

/-- What is written before the file of a frame, with the application that it names. -/
inductive IsLead : Option Text → Text → Prop where
  /-- Blank space alone. -/
  | plain {blank : Text} (hne : blank ≠ []) (hblank : isBlank blank = true) : IsLead none blank
  /-- An application in parentheses, with blank space on both sides. -/
  | app {blank name gap : Text} (hne : blank ≠ []) (hblank : isBlank blank = true)
      (hname : name ≠ []) (hchars : ∀ c ∈ name, isAppChar c = true) (hgap : gap ≠ [])
      (hblank' : isBlank gap = true) : IsLead (some name) (blank ++ '(' :: (name ++ ')' :: gap))

/-- What can be written behind the place of a frame. -/
inductive ClosesPlace : Text → Prop where
  /-- Nothing. -/
  | nothing : ClosesPlace []
  /-- A colon or blank space, and the rest of the line. -/
  | mark {c : Char} (hc : c = ':' ∨ isSpace c = true) (rest : Text) : ClosesPlace (c :: rest)

/-- A place with what stands around it on its line. -/
def frameText (lead file digits : Text) (column : Option Text) (rest : Text) : Text :=
  lead ++ (file ++ ':' :: (digits ++ (columnText column ++ rest)))

/-- A frame with a location, as it is written. -/
inductive IsFrameLine (app : Option Text) (file digits : Text) : Text → Prop where
  /-- The file and the line number stand behind the lead, maybe with a column behind them. -/
  | mk {lead rest : Text} {column : Option Text} (hlead : IsLead app lead)
      (hfile : IsFile isFrameFileChar file) (hdigits : IsNumeral digits)
      (hcolumn : ∀ d ∈ column, IsNumeral d) (hclose : ClosesPlace rest) :
      IsFrameLine app file digits (frameText lead file digits column rest)

/-- The plain name of a file in a frame. -/
structure IsPlainFrameFile (f : Text) : Prop extends IsPlainFile f where
  /-- It has no parenthesis. -/
  no_paren : '(' ∉ f ∧ ')' ∉ f

theorem IsPlainFrameFile.frameChars (h : IsPlainFrameFile file) :
    ∀ c ∈ file, isFrameFileChar c = true := by
  intro c hc
  have hfile : isFileChar c = true := h.chars c hc
  have hopen : c ≠ '(' := fun he => h.no_paren.1 (he ▸ hc)
  have hclose : c ≠ ')' := fun he => h.no_paren.2 (he ▸ hc)
  simp only [isFileChar, Bool.and_eq_true] at hfile
  simp [isFrameFileChar, hfile, hopen, hclose]

/-- What a place in a trace counts as. -/
inductive Classifier.Makes (t : Classifier) (file digits : Text) : Option Text → Frame → Prop where
  /-- With an application it is library code. -/
  | ofApp {name : Text} {n : Nat} (hdigits : Writes digits n) (hn : n < UInt64.size) :
      Makes t file digits (some name) (.library (some name) file n)
  /-- So is a file that the patterns for library code match. -/
  | ofPath {n : Nat} (hdigits : Writes digits n) (hn : n < UInt64.size) (hfile : t.IsLibrary file) :
      Makes t file digits none (.library none file n)
  /-- Any other file is a source of the project. -/
  | ofProject {n : Nat} (hdigits : Writes digits n) (hn : n < UInt64.size)
      (hfile : ¬t.IsLibrary file) : Makes t file digits none (.source file n)
  /-- Digits that write no number of 64 bits leave no location. -/
  | unnumbered {app : Option Text} (hdigits : ∀ n, Writes digits n → UInt64.size ≤ n) :
      Makes t file digits app .function

/-- A blank or unindented line is no part of a trace, and every other line is a frame. -/
theorem classify_eq_none_iff :
    t.classify l = none ↔ isBlank l = true ∨ isIndented l = false := by
  unfold Classifier.classify
  split
  · next h => simpa using h
  · next h =>
    have hvisible : isBlank l = false ∧ isIndented l = true := by simpa using h
    simp [hvisible]

/-- A visible indented line counts by its parts. -/
theorem classify_of_makes (hblank : isBlank l = false) (hindented : isIndented l = true)
    (hparts : frameParts? l = some (app, file, digits)) (h : t.Makes file digits app frame) :
    t.classify l = some frame := by
  simp only [Classifier.classify, hblank, hindented, hparts]
  cases h with
  | ofApp hdigits hn =>
    rw [number?_eq_some_iff.2 ⟨hdigits, hn⟩]
    rfl
  | ofPath hdigits hn hfile =>
    have hlibrary : t.libraryPaths.any (· file) = true := hfile
    rw [number?_eq_some_iff.2 ⟨hdigits, hn⟩]
    simp [hlibrary]
  | ofProject hdigits hn hfile =>
    have hproject : t.libraryPaths.any (· file) = false := Bool.eq_false_iff.2 hfile
    rw [number?_eq_some_iff.2 ⟨hdigits, hn⟩]
    simp [hproject]
  | unnumbered hdigits =>
    cases hread : number? digits with
    | none => rfl
    | some n =>
      obtain ⟨hwrites, hn⟩ := number?_eq_some_iff.1 hread
      exact absurd hn (Nat.not_lt.2 (hdigits n hwrites))

/-- Every place counts as something. -/
theorem Classifier.exists_makes (t : Classifier) (app : Option Text) (file digits : Text) :
    ∃ frame, t.Makes file digits app frame := by
  cases hread : number? digits with
  | none =>
    refine ⟨_, .unnumbered fun n hwrites => Nat.not_lt.1 fun hn => ?_⟩
    rw [number?_eq_some_iff.2 ⟨hwrites, hn⟩] at hread
    contradiction
  | some n =>
    obtain ⟨hwrites, hn⟩ := number?_eq_some_iff.1 hread
    cases app with
    | some name => exact ⟨_, .ofApp hwrites hn⟩
    | none =>
      by_cases hfile : t.IsLibrary file
      · exact ⟨_, .ofPath hwrites hn hfile⟩
      · exact ⟨_, .ofProject hwrites hn hfile⟩

/-- A visible indented line counts as what its parts make, and as nothing else. -/
theorem classify_eq_some_iff_makes (hblank : isBlank l = false) (hindented : isIndented l = true)
    (hparts : frameParts? l = some (app, file, digits)) :
    t.classify l = some frame ↔ t.Makes file digits app frame := by
  constructor
  · intro h
    obtain ⟨frame', hmakes⟩ := t.exists_makes app file digits
    have hframe := classify_of_makes hblank hindented hparts hmakes
    rw [h] at hframe
    rwa [Option.some.inj hframe]
  · exact classify_of_makes hblank hindented hparts

theorem isSpace_eq_false_of_isFrameFileChar {c : Char} (h : isFrameFileChar c = true) :
    isSpace c = false := by
  simp only [isFrameFileChar, Bool.and_eq_true, Bool.not_eq_true'] at h
  exact h.1.1.1

/-- The test for what follows a place finds what can close one. -/
theorem closesPlace_iff :
    (rest.head?.all fun c => c == ':' || isSpace c) = true ↔ ClosesPlace rest := by
  constructor
  · intro h
    cases rest with
    | nil => exact .nothing
    | cons c rest => exact .mark (by simpa using h) rest
  · intro h
    cases h with
    | nothing => rfl
    | mark hc => simpa using hc

/-- No further digit stands where a place is closed. -/
theorem ClosesPlace.stops (h : ClosesPlace rest) :
    ∀ c, rest.head? = some c → isDecimal c = false := by
  cases h with
  | nothing => simp
  | mark hc =>
    intro c hhead
    obtain rfl := Option.some.inj hhead
    rcases hc with rfl | hc
    · decide
    · rw [Bool.eq_false_iff]
      intro hdecimal
      rw [isSpace_eq_false_of_isDecimal hdecimal] at hc
      contradiction

/-- A column can stand there. -/
theorem ClosesPlace.columnText_append (column : Option Text) (h : ClosesPlace rest) :
    ClosesPlace (columnText column ++ rest) := by
  cases column with
  | none => exact h
  | some d => exact .mark (Or.inl rfl) _

/-- The reader of line numbers finds the digits behind a colon that are closed. -/
theorem frameLine?_eq_some_iff :
    frameLine? s = some digits ↔
      ∃ rest, s = ':' :: (digits ++ rest) ∧ IsNumeral digits ∧ ClosesPlace rest := by
  constructor
  · intro h
    obtain ⟨⟨d, rest⟩, hdigits, h⟩ := Option.bind_eq_some_iff.1 h
    dsimp only at h
    split at h
    · next hclose =>
      cases h
      obtain ⟨rfl, hne, hall⟩ := lineDigits?_eq_some hdigits
      exact ⟨rest, rfl, ⟨hne, hall⟩, closesPlace_iff.1 hclose⟩
    · contradiction
  · rintro ⟨rest, rfl, hdigits, hclose⟩
    have hread : lineDigits? (':' :: (digits ++ rest)) = some (digits, rest) :=
      lineDigits?_of_isNumeral hdigits hclose.stops
    rw [frameLine?, hread]
    exact if_pos (closesPlace_iff.2 hclose)

/-- The reader of applications finds what stands in parentheses before blank space. -/
theorem app?_eq_some (h : app? s = some (name, r)) :
    ∃ gap, s = '(' :: (name ++ ')' :: (gap ++ r)) ∧ name ≠ [] ∧
      (∀ c ∈ name, isAppChar c = true) ∧ gap ≠ [] ∧ isBlank gap = true := by
  unfold app? at h
  split at h
  · next s =>
    obtain ⟨⟨name', r'⟩, hrun, h⟩ := Option.bind_eq_some_iff.1 h
    obtain ⟨r'', hr, h⟩ := Option.bind_eq_some_iff.1 h
    split at h
    · next hindented =>
      cases h
      obtain ⟨rfl, hname, hchars⟩ := run?_eq_some hrun
      obtain ⟨gap, hblank, hsplit, hgap⟩ := eq_blank_append_trimStart r''
      have hparen : r' = ')' :: r'' := after?_eq_some_iff.1 hr
      exact ⟨gap, by rw [hparen, ← hsplit], hname, hchars, hgap hindented, hblank⟩
    · contradiction
  · contradiction

/-- What stands so is read. -/
theorem app?_written {gap : Text} (hname : name ≠ []) (hchars : ∀ c ∈ name, isAppChar c = true)
    (hgap : gap ≠ []) (hblank : isBlank gap = true) (hvisible : isIndented s = false) :
    app? ('(' :: (name ++ ')' :: (gap ++ s))) = some (name, s) := by
  have hstop : ∀ c, (')' :: (gap ++ s)).head? = some c → isAppChar c = false := by
    intro c hc
    obtain rfl := Option.some.inj hc
    decide
  have hparen : after? [')'] (')' :: (gap ++ s)) = some (gap ++ s) := after?_eq_some_iff.2 rfl
  rw [app?, run?_append hname hchars hstop]
  simp only [Option.bind_eq_bind, Option.bind_some]
  rw [hparen, Option.bind_some, isIndented_blank_append hgap hblank,
    trimStart_blank_append hblank hvisible]
  rfl

theorem app?_of_head?_ne (h : s.head? ≠ some '(') : app? s = none := by
  unfold app?
  split
  · exact absurd rfl h
  · rfl

/-- Where a file is looked for behind a lead. -/
def frameReading? (app : Option Text) (s : Text) : Option (Option Text × Text × Text) :=
  (fileReadings isFrameFileChar s).findSome? fun (file, r) =>
    (frameLine? r).map fun digits => (app, file, digits)

/-- What is found there is a file with a line number behind it. -/
theorem frameReading?_eq_some {app' : Option Text}
    (h : frameReading? app s = some (app', file, digits)) :
    app' = app ∧ ∃ r, (file, r) ∈ fileReadings isFrameFileChar s ∧ frameLine? r = some digits := by
  obtain ⟨⟨f, r⟩, hmem, hr⟩ := List.exists_of_findSome?_eq_some h
  obtain ⟨d, hd, hr⟩ := Option.map_eq_some_iff.1 hr
  cases hr
  exact ⟨rfl, r, hmem, hd⟩

/-- Behind a lead the parts of a frame are read with the application of the lead. -/
theorem frameParts?_lead (hlead : IsLead app lead) (hvisible : isIndented s = false)
    (hparen : s.head? ≠ some '(') : frameParts? (lead ++ s) = frameReading? app s := by
  cases hlead with
  | plain hne hblank =>
    rw [frameParts?, trimStart_blank_append hblank hvisible, app?_of_head?_ne hparen]
    rfl
  | @app blank name gap hne hblank hname hchars hgap hblank' =>
    have hopen : isIndented ('(' :: (name ++ ')' :: (gap ++ s))) = false := rfl
    have hsplit : blank ++ '(' :: (name ++ ')' :: gap) ++ s =
        blank ++ '(' :: (name ++ ')' :: (gap ++ s)) := by simp
    rw [hsplit, frameParts?, trimStart_blank_append hblank hopen,
      app?_written hname hchars hgap hblank' hvisible]
    rfl

/-- The parts of an indented line are read behind its lead. -/
theorem exists_lead_of_frameParts? (hindented : isIndented l = true)
    (h : frameParts? l = some (app, file, digits)) :
    ∃ lead s, IsLead app lead ∧ l = lead ++ s ∧ frameReading? app s = some (app, file, digits) := by
  obtain ⟨blank, hblank, hl, hne⟩ := eq_blank_append_trimStart l
  unfold frameParts? at h
  cases hread : app? (trimStart l) with
  | none =>
    rw [hread] at h
    obtain ⟨rfl, -⟩ := frameReading?_eq_some h
    exact ⟨blank, trimStart l, .plain (hne hindented) hblank, hl, h⟩
  | some p =>
    obtain ⟨name, r⟩ := p
    rw [hread] at h
    obtain ⟨rfl, -⟩ := frameReading?_eq_some h
    obtain ⟨gap, hsplit, hname, hchars, hgap, hblank'⟩ := app?_eq_some hread
    refine ⟨_, r, .app (hne hindented) hblank hname hchars hgap hblank', ?_, h⟩
    rw [hsplit] at hl
    simpa using hl

/-- A lead indents the line. -/
theorem IsLead.isIndented_append (h : IsLead app lead) (s : Text) :
    isIndented (lead ++ s) = true := by
  cases h with
  | plain hne hblank => exact isIndented_blank_append hne hblank s
  | app hne hblank =>
    rw [List.append_assoc]
    exact isIndented_blank_append hne hblank _

/-- A line that is written as a frame is visible and indented. -/
theorem IsFrameLine.visible (h : IsFrameLine app file digits l) :
    isBlank l = false ∧ isIndented l = true := by
  cases h with
  | mk hlead =>
    refine ⟨?_, hlead.isIndented_append _⟩
    rw [isBlank, List.all_eq_false]
    exact ⟨':', by simp [frameText], by decide⟩

/-- Parts that are read from a line are written in it. -/
theorem isFrameLine_of_frameParts? (hindented : isIndented l = true)
    (h : frameParts? l = some (app, file, digits)) : IsFrameLine app file digits l := by
  obtain ⟨lead, s, hlead, rfl, hread⟩ := exists_lead_of_frameParts? hindented h
  obtain ⟨-, r, hmem, hd⟩ := frameReading?_eq_some hread
  obtain ⟨rfl, hfile⟩ := isFile_of_mem_fileReadings hmem
  obtain ⟨rest, rfl, hdigits, hclose⟩ := frameLine?_eq_some_iff.1 hd
  have hcolumn : ∀ d ∈ (none : Option Text), IsNumeral d := nofun
  exact .mk hlead hfile hdigits hcolumn hclose

/-- Behind the lead of a line that is written as a frame its line number is read. -/
theorem frameLine?_written (hdigits : IsNumeral digits) (column : Option Text)
    (hclose : ClosesPlace rest) :
    frameLine? (':' :: (digits ++ (columnText column ++ rest))) = some digits :=
  frameLine?_eq_some_iff.2 ⟨_, rfl, hdigits, hclose.columnText_append column⟩

/-- Behind the lead the parts of a written frame are read. -/
theorem frameParts?_frameText (hlead : IsLead app lead) (hfile : IsFile isFrameFileChar file)
    (digits : Text) (column : Option Text) (rest : Text) :
    frameParts? (frameText lead file digits column rest) =
      frameReading? app (file ++ ':' :: (digits ++ (columnText column ++ rest))) := by
  have hvisible := hfile.isIndented_append (fun _ => isSpace_eq_false_of_isFrameFileChar)
    (':' :: (digits ++ (columnText column ++ rest)))
  exact frameParts?_lead hlead hvisible (head?_ne_of_isFile hfile _)

/-- From a line that is written as a frame some parts are read. -/
theorem isSome_frameParts? (h : IsFrameLine app file digits l) : (frameParts? l).isSome := by
  cases h with
  | @mk lead rest column hlead hfile hdigits hcolumn hclose =>
    have hmem := mem_fileReadings_of_isFile (by decide) hfile (digits ++ (columnText column ++ rest))
    have hline := frameLine?_written hdigits column hclose
    rw [frameParts?_frameText hlead hfile]
    cases hnone : frameReading? app (file ++ ':' :: (digits ++ (columnText column ++ rest))) with
    | some parts => rfl
    | none =>
      have hother := List.findSome?_eq_none_iff.1 hnone _ hmem
      dsimp only at hother
      rw [hline] at hother
      contradiction

/-- With a plain name they are the parts that are written. -/
theorem frameParts?_of_plain (h : IsFrameLine app file digits l) (hplain : IsPlainFrameFile file) :
    frameParts? l = some (app, file, digits) := by
  cases h with
  | @mk lead rest column hlead hfile hdigits hcolumn hclose =>
    have hline := frameLine?_written hdigits column hclose
    have hreadings := fileReadings_of_name (by decide : isFrameFileChar ':' = false) hplain.ne_nil
      hplain.frameChars hplain.not_letter (digits ++ (columnText column ++ rest))
    rw [frameParts?_frameText hlead hfile, frameReading?, hreadings, List.findSome?_cons]
    dsimp only
    rw [hline]
    rfl

/-- A frame has no location, or it is made of a place that is written in its line. -/
theorem exists_isFrameLine_of_classify (h : t.classify l = some frame) :
    frame = .function ∨
      ∃ app file digits, IsFrameLine app file digits l ∧ t.Makes file digits app frame := by
  obtain ⟨hblank, hindented⟩ := visible_of_classify h
  cases hread : frameParts? l with
  | none =>
    have hfunction : t.classify l = some .function := by
      simp [Classifier.classify, hblank, hindented, hread]
    exact Or.inl (Option.some.inj (h.symm.trans hfunction))
  | some parts =>
    obtain ⟨app, file, digits⟩ := parts
    refine Or.inr ⟨app, file, digits, isFrameLine_of_frameParts? hindented hread, ?_⟩
    exact (classify_eq_some_iff_makes hblank hindented hread).1 h

/-- A visible indented line in which no place is written is a frame without a location. -/
theorem classify_of_not_isFrameLine (hblank : isBlank l = false) (hindented : isIndented l = true)
    (hplace : ¬∃ app file digits, IsFrameLine app file digits l) :
    t.classify l = some .function := by
  obtain ⟨frame, hframe⟩ := exists_frame_of_visible t hblank hindented
  rcases exists_isFrameLine_of_classify hframe with rfl | ⟨app, file, digits, hline, -⟩
  · exact hframe
  · exact absurd ⟨app, file, digits, hline⟩ hplace

/-- Every line of a trace is classified by how it is written. It is no frame exactly when it is
blank or not indented. Where a place with a plain name is written, behind an application or not and
with a column or not, the line counts as what this place makes: library code by its application or
its path, a source of the project, or no location at all if its number is too large. Whatever the
names are, a frame with a location is made of a place that is written in its line, and a visible
indented line without any place is a frame without a location. -/
theorem classify_exact (t : Classifier) (l : Text) :
    (t.classify l = none ↔ isBlank l = true ∨ isIndented l = false) ∧
    (∀ app file digits, IsFrameLine app file digits l → IsPlainFrameFile file →
      ∀ frame, t.classify l = some frame ↔ t.Makes file digits app frame) ∧
    (∀ frame, t.classify l = some frame → frame ≠ .function →
      ∃ app file digits, IsFrameLine app file digits l ∧ t.Makes file digits app frame) ∧
    (isBlank l = false → isIndented l = true →
      (¬∃ app file digits, IsFrameLine app file digits l) → t.classify l = some .function) := by
  refine ⟨classify_eq_none_iff, ?_, ?_, classify_of_not_isFrameLine⟩
  · intro app file digits hline hplain frame
    obtain ⟨hblank, hindented⟩ := hline.visible
    exact classify_eq_some_iff_makes hblank hindented (frameParts?_of_plain hline hplain)
  · intro frame hframe hlocated
    exact (exists_isFrameLine_of_classify hframe).resolve_left hlocated

/-- A lead with an application and other blank space than blanks. -/
def wideLead : Text := "\u3000 ".toList ++ '(' :: ("my-app".toList ++ ')' :: "\t".toList)

/-- A frame with a column and more behind it, in a file that is named by two asterisks. -/
def wideFrame (digits : Text) : Text :=
  frameText wideLead "**".toList digits (some "12".toList) " f/2".toList

/-- A frame that names an application and a macro, but no place. -/
def macroFrame : Text := "    (elixir) expanding macro: Kernel.def/2".toList

/-- The largest number of 64 bits is kept, the next one leaves no location, and neither does a line
without a place. -/
theorem classify_exact_wideFrames :
    IsFrameLine (some "my-app".toList) "**".toList "18446744073709551615".toList
        (wideFrame "18446744073709551615".toList) ∧
    IsPlainFrameFile "**".toList ∧
    Classifier.classify {} (wideFrame "18446744073709551615".toList) =
      some (.library (some "my-app".toList) "**".toList 18446744073709551615) ∧
    Classifier.classify {} (wideFrame "18446744073709551616".toList) = some .function ∧
    (¬∃ app file digits, IsFrameLine app file digits macroFrame) ∧
    Classifier.classify {} macroFrame = some .function := by
  have hlead : IsLead (some "my-app".toList) wideLead :=
    .app (by decide) (by decide) (by decide) (List.all_eq_true.1 (by decide)) (by decide)
      (by decide)
  have hplain : IsPlainFrameFile "**".toList :=
    ⟨⟨by decide, List.all_eq_true.1 (by decide), by simp⟩, by decide⟩
  have hcolumn : ∀ d ∈ some "12".toList, IsNumeral d := by
    intro d hd
    obtain rfl : "12".toList = d := Option.some.inj hd
    exact ⟨by decide, List.all_eq_true.1 (by decide)⟩
  have hline : ∀ digits, IsNumeral digits →
      IsFrameLine (some "my-app".toList) "**".toList digits (wideFrame digits) :=
    fun digits hdigits => .mk hlead (.name hplain.ne_nil hplain.frameChars) hdigits hcolumn
      (.mark (by decide) _)
  have hlast : Writes "18446744073709551615".toList 18446744073709551615 :=
    ⟨by decide, List.all_eq_true.1 (by decide), by decide⟩
  have hnext : Writes "18446744073709551616".toList 18446744073709551616 :=
    ⟨by decide, List.all_eq_true.1 (by decide), by decide⟩
  have hkept := hline _ (isNumeral_of_writes hlast)
  have hlost := hline _ (isNumeral_of_writes hnext)
  have hmacro : ¬∃ app file digits, IsFrameLine app file digits macroFrame := by
    rintro ⟨app, file, digits, hplace⟩
    exact absurd (isSome_frameParts? hplace) (by decide)
  refine ⟨hkept, hplain, ?_, ?_, hmacro, ?_⟩
  · exact ((classify_exact {} _).2.1 _ _ _ hkept hplain _).2 (.ofApp hlast (by decide))
  · refine ((classify_exact {} _).2.1 _ _ _ hlost hplain _).2 (.unnumbered fun n hn => ?_)
    have hvalue : n = UInt64.size := hn.value.symm.trans hnext.value
    exact Nat.le_of_eq hvalue.symm
  · exact (classify_exact {} macroFrame).2.2.2 (by decide) (by decide) hmacro

end Trace

end ElixirDiagnostics
