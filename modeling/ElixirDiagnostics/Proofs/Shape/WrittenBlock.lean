import ElixirDiagnostics.Proofs.Shape.Written
import ElixirDiagnostics.Shape.Block

/-!
# Blocks as they are written

The lines of a block can be described by how they are written, and their readers find exactly what
is written so. A location stands behind blank space, maybe with a drawn corner, and it ends the line
or stands before a colon. The corner is taken off, so a plain name is found with the number behind
it in every layout, and no line of a snippet is a location, since a blank ends its number.
-/

namespace ElixirDiagnostics

namespace Shape

open Text Location

variable {severity : Severity} {l line message file digits margin rest tail s : Text}
  {column : Option Text}

/-- The head of a block, as it is written: maybe behind blank space, the severity and a message that
begins with a visible character. Like every line of an output it holds no newline. -/
structure IsHeadLine (severity : Severity) (message line : Text) : Prop where
  /-- The message is not empty. -/
  ne_nil : message ≠ []
  /-- It begins with a visible character. -/
  visible : isIndented message = false
  /-- It stands on one line. -/
  one_line : '\n' ∉ message
  /-- The head is written around it. -/
  written : ∃ blank, isBlank blank = true ∧
    line = blank ++ (severity.word ++ ": ".toList ++ message)

/-- A line of a source snippet, as it is written: a number and a bar, maybe behind blank space. -/
inductive IsSnippetLine : Text → Prop where
  /-- The number and the bar stand before the source. -/
  | mk {blank digits : Text} (hblank : isBlank blank = true) (hdigits : IsNumeral digits)
      (source : Text) : IsSnippetLine (blank ++ (digits ++ (" │".toList ++ source)))

/-- What is written before the location of a block. -/
inductive IsMargin : Text → Prop where
  /-- Blank space, at least some. -/
  | blank {blank : Text} (hne : blank ≠ []) (hblank : isBlank blank = true) : IsMargin blank
  /-- A drawn corner in blank space. -/
  | corner {before after : Text} (hne : before ≠ []) (hbefore : isBlank before = true)
      (hafter : isBlank after = true) : IsMargin (before ++ ("└─".toList ++ after))

/-- What can be written behind the line number of a location. -/
inductive EndsPlace : Text → Prop where
  /-- Nothing. -/
  | nothing : EndsPlace []
  /-- A colon and the rest of the line. -/
  | colon {rest : Text} (hline : '\n' ∉ rest) : EndsPlace (':' :: rest)

/-- The location line of a block, as it is written. -/
inductive IsLocationLine (file digits : Text) : Text → Prop where
  /-- The file and the number stand behind the margin. -/
  | mk {margin rest : Text} (hmargin : IsMargin margin) (hfile : IsFile isBlockFileChar file)
      (hdigits : IsNumeral digits) (hend : EndsPlace rest) :
      IsLocationLine file digits (margin ++ (file ++ ':' :: (digits ++ rest)))

/-- The plain name of a file in the location of a block: it begins neither with a drive nor with a
drawn corner. -/
structure IsPlainBlockFile (f : Text) : Prop where
  /-- It is not empty. -/
  ne_nil : f ≠ []
  /-- It has no blank space, no colon and no bar. -/
  chars : ∀ c ∈ f, isBlockFileChar c = true
  /-- It is not the letter of a drive. -/
  not_letter : ∀ c, f = [c] → c.isAlpha = false
  /-- It begins with no drawn corner. -/
  not_corner : ¬"└─".toList <+: f

/-- A location line as it is written with a plain name, maybe with a column behind the line number
and more behind a colon. -/
def plainLocation (margin file digits : Text) (column : Option Text) (tail : Text) : Text :=
  margin ++ (file ++ ':' :: (digits ++ (columnText column ++ tail)))

/-- The blank space at the start of a text; an indented one has some. -/
theorem eq_blank_append_trimStart (s : Text) :
    ∃ blank, isBlank blank = true ∧ s = blank ++ trimStart s ∧
      (isIndented s = true → blank ≠ []) := by
  refine ⟨s.takeWhile isSpace, List.all_takeWhile, List.takeWhile_append_dropWhile.symm, ?_⟩
  intro hindented
  cases s with
  | nil => contradiction
  | cons c s =>
    have hc : isSpace c = true := by simpa [isIndented] using hindented
    simp [hc]

/-- The reader of heads finds the messages of the lines that are written as heads. -/
theorem blockHead?_eq_some_iff :
    blockHead? severity line = some message ↔ IsHeadLine severity message line := by
  constructor
  · intro h
    obtain ⟨r, hr, h⟩ := Option.bind_eq_some_iff.1 h
    obtain ⟨rfl, hne, hvisible, hnewline⟩ := message?_eq_some_iff.1 h
    obtain ⟨blank, hblank, hsplit, -⟩ := eq_blank_append_trimStart line
    rw [after?_eq_some_iff.1 hr] at hsplit
    exact ⟨hne, hvisible, hnewline, blank, hblank, hsplit⟩
  · rintro ⟨hne, hvisible, hnewline, blank, hblank, rfl⟩
    have hword : isIndented (severity.word ++ ": ".toList ++ message) = false := by
      cases severity <;> rfl
    rw [blockHead?, trimStart_blank_append hblank hword, after?_append]
    exact message?_of_visible hne hvisible hnewline

/-- Digits begin with a visible character. -/
theorem isIndented_of_isNumeral (h : IsNumeral digits) (s : Text) :
    isIndented (digits ++ s) = false := by
  obtain ⟨c, d, rfl⟩ := List.exists_cons_of_ne_nil h.ne_nil
  simp [isIndented, isSpace_eq_false_of_isDecimal (h.digits c (by simp))]

/-- The test for lines of a snippet finds the lines that are written so. -/
theorem isSnippet_iff : isSnippet l = true ↔ IsSnippetLine l := by
  constructor
  · intro h
    obtain ⟨source, hs⟩ := Option.isSome_iff_exists.1 h
    obtain ⟨⟨digits, r⟩, hrun, hbar⟩ := Option.bind_eq_some_iff.1 hs
    obtain ⟨hsplit, hne, hdigits⟩ := run?_eq_some hrun
    obtain ⟨blank, hblank, hl, -⟩ := eq_blank_append_trimStart l
    have hr : r = " │".toList ++ source := after?_eq_some_iff.1 hbar
    rw [hl, hsplit, hr]
    exact .mk hblank ⟨hne, hdigits⟩ source
  · intro h
    cases h with
    | @mk blank digits hblank hdigits source =>
      have hstop : ∀ c, (" │".toList ++ source).head? = some c → isDecimal c = false := by
        intro c hc
        obtain rfl : ' ' = c := by simpa using hc
        decide
      have hrun := run?_append hdigits.ne_nil hdigits.digits hstop
      rw [isSnippet, trimStart_blank_append hblank (isIndented_of_isNumeral hdigits _), hrun]
      simp only [Option.bind_some]
      rw [after?_append]
      rfl

/-- The characters of a file name in the location of a block are no blank space. -/
theorem isSpace_eq_false_of_isBlockFileChar {c : Char} (h : isBlockFileChar c = true) :
    isSpace c = false := by
  simp only [isBlockFileChar, Bool.and_eq_true, Bool.not_eq_true'] at h
  exact h.1.1

/-- The name of a file begins with a visible character. -/
theorem isIndented_of_isFile (h : IsFile isBlockFileChar file) (s : Text) :
    isIndented (file ++ s) = false :=
  h.isIndented_append (fun _ => isSpace_eq_false_of_isBlockFileChar) s

/-- The test for the end of a place finds what can end one. -/
theorem endsPlace_iff :
    (rest.head?.all (· == ':') && !rest.contains '\n') = true ↔ EndsPlace rest := by
  constructor
  · intro h
    cases rest with
    | nil => exact .nothing
    | cons c r =>
      obtain ⟨rfl, hline⟩ : c = ':' ∧ '\n' ∉ c :: r := by simpa using h
      exact .colon fun hmem => hline (List.mem_cons_of_mem _ hmem)
  · intro h
    cases h with
    | nothing => rfl
    | colon hline => simp [hline]

/-- No further digit stands where a place ends. -/
theorem EndsPlace.stops (h : EndsPlace rest) : ∀ c, rest.head? = some c → isDecimal c = false := by
  cases h with
  | nothing => simp
  | colon => exact head?_of_colon (by decide) _

/-- A column can stand there. -/
theorem EndsPlace.columnText_append (hcolumn : ∀ c ∈ column, IsNumeral c) (h : EndsPlace tail) :
    EndsPlace (columnText column ++ tail) := by
  cases column with
  | none => exact h
  | some d =>
    have hcolumn' : '\n' ∉ ':' :: d := (isSolid_columnText hcolumn).newline_not_mem
    have htail : '\n' ∉ tail := by
      cases h with
      | nothing => simp
      | colon hline => simp [hline]
    refine .colon fun hmem => ?_
    rcases List.mem_append.1 hmem with hmem | hmem
    · exact hcolumn' (List.mem_cons_of_mem _ hmem)
    · exact htail hmem

/-- The place that is read at the start of a text is written there. -/
theorem written_of_blockPlace? (h : blockPlace? s = some (file, digits)) :
    IsFile isBlockFileChar file ∧ IsNumeral digits ∧
      ∃ rest, EndsPlace rest ∧ s = file ++ ':' :: (digits ++ rest) := by
  obtain ⟨⟨f, r⟩, hmem, hr⟩ := List.exists_of_findSome?_eq_some h
  obtain ⟨rfl, hfile⟩ := isFile_of_mem_fileReadings hmem
  obtain ⟨⟨d, rest⟩, hdigits, hr⟩ := Option.bind_eq_some_iff.1 hr
  dsimp only at hr
  split at hr
  · next hend =>
    cases hr
    obtain ⟨rfl, hne, hall⟩ := lineDigits?_eq_some hdigits
    exact ⟨hfile, ⟨hne, hall⟩, rest, endsPlace_iff.1 hend, rfl⟩
  · contradiction

/-- A reading of the file before a line number that ends a place gives this place. -/
theorem place_of_reading (file : Text) (hdigits : IsNumeral digits) (hend : EndsPlace rest) :
    ((lineDigits? (':' :: (digits ++ rest))).bind fun (d, r) =>
      if r.head?.all (· == ':') && !r.contains '\n' then some (file, d) else none) =
        some (file, digits) := by
  have hread : lineDigits? (':' :: (digits ++ rest)) = some (digits, rest) :=
    lineDigits?_of_isNumeral hdigits hend.stops
  rw [hread, Option.bind_some]
  exact if_pos (endsPlace_iff.2 hend)

/-- Where a place is written at the start of a text, a place is read. -/
theorem isSome_blockPlace? (hfile : IsFile isBlockFileChar file) (hdigits : IsNumeral digits)
    (hend : EndsPlace rest) : (blockPlace? (file ++ ':' :: (digits ++ rest))).isSome := by
  have hmem := mem_fileReadings_of_isFile (by decide) hfile (digits ++ rest)
  have hplace := place_of_reading file hdigits hend
  cases hnone : blockPlace? (file ++ ':' :: (digits ++ rest)) with
  | some place => rfl
  | none =>
    have hother := List.findSome?_eq_none_iff.1 hnone _ hmem
    exact absurd (hother.symm.trans hplace) nofun

/-- With a plain name it is this place. -/
theorem blockPlace?_of_plain (hfile : IsPlainBlockFile file) (hdigits : IsNumeral digits)
    (hend : EndsPlace rest) :
    blockPlace? (file ++ ':' :: (digits ++ rest)) = some (file, digits) := by
  have hreadings := fileReadings_of_name (by decide : isBlockFileChar ':' = false) hfile.ne_nil
    hfile.chars hfile.not_letter (digits ++ rest)
  have hplace := place_of_reading file hdigits hend
  rw [blockPlace?, hreadings, List.findSome?_cons]
  dsimp only [Option.bind_eq_bind]
  rw [hplace]

/-- Blank space before a text makes it indented. -/
theorem isIndented_blank_append {blank : Text} (hne : blank ≠ []) (hblank : isBlank blank = true)
    (s : Text) : isIndented (blank ++ s) = true := by
  obtain ⟨c, blank, rfl⟩ := List.exists_cons_of_ne_nil hne
  have hc : isSpace c = true := List.all_eq_true.1 hblank c (by simp)
  simp [isIndented, hc]

/-- Behind blank space a location is read with the corner taken off, and else as it is. -/
theorem blockLocation?_blank_append {blank : Text} (hne : blank ≠ [])
    (hblank : isBlank blank = true) (hvisible : isIndented s = false) :
    blockLocation? (blank ++ s) =
      ((after? "└─".toList s).bind fun r => blockPlace? (trimStart r)).or (blockPlace? s) := by
  rw [blockLocation?, if_pos (isIndented_blank_append hne hblank s),
    trimStart_blank_append hblank hvisible]

/-- A corner is visible. -/
theorem isIndented_corner_append (s : Text) : isIndented ("└─".toList ++ s) = false := by
  have hc : isSpace '└' = false := by decide
  simp [isIndented, hc]

/-- Behind a corner a place is read first. -/
theorem blockLocation?_corner_append {before after : Text} (hne : before ≠ [])
    (hbefore : isBlank before = true) (hafter : isBlank after = true)
    (hvisible : isIndented s = false) :
    blockLocation? (before ++ ("└─".toList ++ (after ++ s))) =
      (blockPlace? s).or (blockPlace? ("└─".toList ++ (after ++ s))) := by
  rw [blockLocation?_blank_append hne hbefore (isIndented_corner_append _), after?_append,
    Option.bind_some, trimStart_blank_append hafter hvisible]

/-- A location that is read from a line is written in it. -/
theorem isLocationLine_of_blockLocation? (h : blockLocation? l = some (file, digits)) :
    IsLocationLine file digits l := by
  unfold blockLocation? at h
  split at h
  · next hindented =>
    obtain ⟨before, hbefore, hl, hne⟩ := eq_blank_append_trimStart l
    rcases Option.or_eq_some_iff.1 h with h | ⟨-, h⟩
    · obtain ⟨r, hr, h⟩ := Option.bind_eq_some_iff.1 h
      obtain ⟨after, hafter, hrest, -⟩ := eq_blank_append_trimStart r
      obtain ⟨hfile, hdigits, rest, hend, hs⟩ := written_of_blockPlace? h
      have hwritten := IsLocationLine.mk (.corner (hne hindented) hbefore hafter) hfile hdigits hend
      rw [hl, after?_eq_some_iff.1 hr, hrest, hs]
      simpa only [List.append_assoc] using hwritten
    · obtain ⟨hfile, hdigits, rest, hend, hs⟩ := written_of_blockPlace? h
      rw [hl, hs]
      exact .mk (.blank (hne hindented) hbefore) hfile hdigits hend
  · contradiction

/-- From a line that is written as a location one is read. -/
theorem isSome_blockLocation? (h : IsLocationLine file digits l) : (blockLocation? l).isSome := by
  cases h with
  | mk hmargin hfile hdigits hend =>
    have hvisible := isIndented_of_isFile hfile
    have hplace := isSome_blockPlace? hfile hdigits hend
    cases hmargin with
    | blank hne hblank =>
      rw [blockLocation?_blank_append hne hblank (hvisible _), Option.isSome_or, hplace,
        Bool.or_true]
    | corner hne hbefore hafter =>
      simp only [List.append_assoc]
      rw [blockLocation?_corner_append hne hbefore hafter (hvisible _), Option.isSome_or, hplace,
        Bool.true_or]

/-- So locations are read from these lines and from no others. -/
theorem isSome_blockLocation?_iff :
    (blockLocation? l).isSome ↔ ∃ file digits, IsLocationLine file digits l := by
  constructor
  · intro hsome
    obtain ⟨⟨file, digits⟩, hplace⟩ := Option.isSome_iff_exists.1 hsome
    exact ⟨file, digits, isLocationLine_of_blockLocation? hplace⟩
  · rintro ⟨file, digits, h⟩
    exact isSome_blockLocation? h

/-- No corner is found before a plain name and a colon. -/
theorem after?_corner_of_plain (hfile : IsPlainBlockFile file) (s : Text) :
    after? "└─".toList (file ++ ':' :: s) = none := by
  cases hafter : after? "└─".toList (file ++ ':' :: s) with
  | none => rfl
  | some r =>
    -- The name would begin with the corner, or the corner would hold the colon.
    rcases List.append_eq_append_iff.1 (after?_eq_some_iff.1 hafter) with ⟨w, hw, hr⟩ | ⟨w, hw, -⟩
    · cases w with
      | nil => exact absurd ⟨[], by simpa using hw⟩ hfile.not_corner
      | cons c w =>
        obtain rfl : ':' = c := (List.cons.inj hr).1
        have hcolon : ':' ∈ "└─".toList := by simp [hw]
        exact absurd hcolon (by decide)
    · exact absurd ⟨w, hw.symm⟩ hfile.not_corner

/-- Behind any margin a place with a plain name is the location of the line. -/
theorem blockLocation?_of_plain (hmargin : IsMargin margin) (hfile : IsPlainBlockFile file)
    (hdigits : IsNumeral digits) (hend : EndsPlace rest) :
    blockLocation? (margin ++ (file ++ ':' :: (digits ++ rest))) = some (file, digits) := by
  have hvisible := isIndented_of_isFile (.name hfile.ne_nil hfile.chars) (':' :: (digits ++ rest))
  have hplace := blockPlace?_of_plain hfile hdigits hend
  cases hmargin with
  | blank hne hblank =>
    rw [blockLocation?_blank_append hne hblank hvisible, after?_corner_of_plain hfile, hplace]
    rfl
  | corner hne hbefore hafter =>
    simp only [List.append_assoc]
    rw [blockLocation?_corner_append hne hbefore hafter hvisible, hplace, Option.some_or]

/-- A line that is written as a location is visible and indented. -/
theorem isBlockBody_of_isLocationLine (h : IsLocationLine file digits l) :
    isBlockBody l = true := by
  have hindented : isIndented l = true := by
    cases h with
    | mk hmargin =>
      cases hmargin with
      | blank hne hblank => exact isIndented_blank_append hne hblank _
      | corner hne hbefore =>
        simp only [List.append_assoc]
        exact isIndented_blank_append hne hbefore _
  have hvisible : isBlank l = false := by
    have hcolon : ':' ∈ l := by
      cases h with
      | mk => simp
    rw [isBlank, List.all_eq_false]
    exact ⟨':', hcolon, by decide⟩
  simp [isBlockBody, hvisible, hindented]

/-- The lines that can stand in a block are visible, and indented or lines of a snippet. -/
theorem isBlockBody_iff :
    isBlockBody l = true ↔ isBlank l = false ∧ (isIndented l = true ∨ IsSnippetLine l) := by
  rw [← isSnippet_iff]
  simp [isBlockBody]

/-- A blank behind a number and a colon behind a file tell the one from the other. -/
theorem numeral_append_ne (hdigits : IsNumeral digits) (hfile : IsFile isBlockFileChar file)
    (r rest : Text) : digits ++ ' ' :: r ≠ file ++ ':' :: rest := by
  intro h
  rcases List.append_eq_append_iff.1 h with ⟨w, hw, hr⟩ | ⟨w, hw, hr⟩
  · cases w with
    | nil => exact absurd (List.cons.inj hr).1 (by decide)
    | cons c w =>
      -- The file would hold the blank.
      obtain rfl : ' ' = c := (List.cons.inj hr).1
      have hsolid := hfile.solid (fun _ => isSpace_eq_false_of_isBlockFileChar) ' ' (by simp [hw])
      exact absurd hsolid (by decide)
  · cases w with
    | nil => exact absurd (List.cons.inj hr).1 (by decide)
    | cons c w =>
      -- The number would hold the colon.
      obtain rfl : ':' = c := (List.cons.inj hr).1
      have hdecimal := hdigits.digits ':' (by simp [hw])
      exact absurd hdecimal (by decide)

/-- No line of a snippet is written as a location. -/
theorem not_isLocationLine_of_isSnippetLine (h : IsSnippetLine l) :
    ¬∃ file digits, IsLocationLine file digits l := by
  rintro ⟨file, digits, hplace⟩
  cases h with
  | @mk blank number hblank hnumber source =>
    have hsnippet := trimStart_blank_append hblank
      (isIndented_of_isNumeral hnumber (" │".toList ++ source))
    generalize blank ++ (number ++ (" │".toList ++ source)) = l at hplace hsnippet
    cases hplace with
    | @mk margin rest hmargin hfile hdigits hend =>
      have hvisible := isIndented_of_isFile hfile (':' :: (digits ++ rest))
      cases hmargin with
      | blank hne hblank' =>
        rw [trimStart_blank_append hblank' hvisible] at hsnippet
        exact numeral_append_ne hnumber hfile _ _ hsnippet.symm
      | @corner before after hne hbefore hafter =>
        simp only [List.append_assoc] at hsnippet
        rw [trimStart_blank_append hbefore (isIndented_corner_append _)] at hsnippet
        obtain ⟨c, number, rfl⟩ := List.exists_cons_of_ne_nil hnumber.ne_nil
        obtain rfl : '└' = c := (List.cons.inj hsnippet).1
        exact absurd (hnumber.digits '└' (by simp)) (by decide)

end Shape

end ElixirDiagnostics
