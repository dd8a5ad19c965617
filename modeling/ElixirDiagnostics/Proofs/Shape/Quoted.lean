import ElixirDiagnostics.Proofs.Shape.Priority
import ElixirDiagnostics.Proofs.Shape.Written

/-!
# What evidence quotes

No reader makes up what it says. Its message is a part of one of the first two lines that it takes
up, and its file stands before a colon in one of these lines, with all the digits behind the colon
if there are any. The line number is what these digits stand for. So the file and the line are never
put together from different lines, and whatever no line of an output holds, no evidence holds
either.
-/

namespace ElixirDiagnostics

namespace Text

variable {p s r : Text}

/-- What follows a known beginning ends the text. -/
theorem suffix_of_after? (h : after? p s = some r) : r <:+ s :=
  ⟨p, (after?_eq_some_iff.1 h).symm⟩

/-- What is left without the blank space at the start ends the text. -/
theorem trimStart_suffix (s : Text) : trimStart s <:+ s :=
  List.dropWhile_suffix _

end Text

namespace Shape

open Text Location

variable {t : Trace.Classifier} {tag : Tag} {severity : Severity} {frame : Trace.Frame}
  {lines : List Text} {l s r file message digits : Text} {app? digits? : Option Text}
  {line? : Option Nat} {line : Nat} {e : Evidence}

/-- A line in which a file stands before a colon, and before its line number if it has one. -/
structure Places (file : Text) (line? : Option Nat) (l : Text) : Prop where
  /-- The file and a colon stand in the line. -/
  colon : file ++ [':'] <:+: l
  /-- So do the file, a colon and digits that write the line number. -/
  numbered : ∀ n, line? = some n → ∃ d, Writes d n ∧ file ++ ':' :: d <:+: l

/-- A file before a colon is placed without a line. -/
theorem places_of_colon (h : file ++ ':' :: r <:+ l) : Places file none l where
  colon := by
    have hcolon : file ++ [':'] <+: file ++ ':' :: r := ⟨r, by simp⟩
    exact hcolon.isInfix.trans h.isInfix
  numbered := nofun

/-- A file before a colon and digits is placed at the line that the digits stand for. -/
theorem places_of_digits (h : file ++ ':' :: (digits ++ r) <:+ l) :
    Places file (number? digits) l where
  colon := (places_of_colon h).colon
  numbered := by
    intro n hn
    have hdigits : file ++ ':' :: digits <+: file ++ ':' :: (digits ++ r) := ⟨r, by simp⟩
    exact ⟨digits, (number?_eq_some_iff.1 hn).1, hdigits.isInfix.trans h.isInfix⟩

/-- What a line shows behind a file: a colon and digits, all that follow it, or a colon and blank
space. -/
inductive Shows (file : Text) : Option Text → Text → Prop where
  /-- Digits stand behind the colon, and no further digit behind them. -/
  | digits {d r l : Text} (hd : IsNumeral d) (hstop : ∀ c, r.head? = some c → isDecimal c = false)
      (hl : file ++ ':' :: (d ++ r) <:+ l) : Shows file (some d) l
  /-- Blank space stands behind the colon. -/
  | blank {c : Char} {r l : Text} (hc : isSpace c = true) (hl : file ++ ':' :: c :: r <:+ l) :
      Shows file none l

/-- What is shown at the end of a line is shown in the line. -/
theorem Shows.of_suffix (h : Shows file digits? s) (hs : s <:+ l) : Shows file digits? l := by
  cases h with
  | digits hd hstop hl => exact .digits hd hstop (hl.trans hs)
  | blank hc hl => exact .blank hc (hl.trans hs)

/-- What a line shows behind a file places the file. -/
theorem Shows.places (h : Shows file digits? l) : Places file (digits?.bind number?) l := by
  cases h with
  | digits _ _ hl => exact places_of_digits hl
  | blank _ hl => exact places_of_colon hl

/-- Line digits behind a file are shown. -/
theorem shows_of_lineDigits? (h : lineDigits? s = some (digits, r)) (file : Text) :
    Shows file (some digits) (file ++ s) := by
  obtain ⟨rfl, hne, hdigits⟩ := lineDigits?_eq_some h
  exact .digits ⟨hne, hdigits⟩ (head?_of_lineDigits? h) (List.suffix_refl _)

/-- What stands behind a file before a message is shown, if blank space follows the colon that has
no digits behind it. -/
theorem Behind.shows {p : Text} (h : Behind (':' :: p) r digits? message)
    (hblank : isIndented (p ++ message) = true) (file : Text) :
    Shows file digits? (file ++ r) := by
  cases h with
  | numbered hdigits _ => exact shows_of_lineDigits? hdigits file
  | plain =>
    cases hrest : p ++ message with
    | nil => simp [hrest, isIndented] at hblank
    | cons c rest =>
      have hc : isSpace c = true := by simpa [hrest, isIndented] using hblank
      exact .blank hc (r := rest) (by rw [← hrest]; exact List.suffix_refl _)

/-- A bare error and its place are parts of one text. -/
theorem shows_of_bareParts? (h : bareParts? s = some (file, digits?, message)) :
    message <:+ s ∧ Shows file digits? s := by
  obtain ⟨r, rfl, -, hbehind, -⟩ := behind_of_bareParts? h
  exact ⟨hbehind.suffix.trans (List.suffix_append _ _),
    Behind.shows (p := [' ']) hbehind rfl file⟩

/-- So are a warning on a line of its own and its place. -/
theorem shows_of_warningParts? (h : warningParts? s = some (file, digits, message)) :
    message <:+ s ∧ Shows file (some digits) s := by
  obtain ⟨r, rfl, -, hbehind, -⟩ := behind_of_warningParts? h
  exact ⟨hbehind.suffix.trans (List.suffix_append _ _),
    Behind.shows (p := " warning: ".toList) hbehind rfl file⟩

/-- What follows the banner's file on an error line ends with the message and shows the place. -/
theorem shows_of_inlineTail? (file : Text) (h : inlineTail? r = some (digits?, message)) :
    message <:+ r ∧ Shows file digits? (file ++ r) := by
  obtain ⟨rest, hbehind, hblank, rfl, -⟩ := behind_of_inlineTail? h
  exact ⟨(trimStart_suffix rest).trans hbehind.suffix, hbehind.shows hblank file⟩

/-- What an error line says after its kind ends the line. -/
theorem suffix_of_errorRest? (h : errorRest? l = some r) : r <:+ l := by
  obtain ⟨kind, -, rfl, -⟩ := errorRest?_eq_some_iff.1 h
  exact List.suffix_append _ _

/-- The place that is read at the start of a text is shown there. -/
theorem shows_of_blockPlace? (h : blockPlace? s = some (file, digits)) :
    Shows file (some digits) s := by
  obtain ⟨⟨f, r⟩, hmem, hr⟩ := List.exists_of_findSome?_eq_some h
  obtain ⟨rfl, -⟩ := isFile_of_mem_fileReadings hmem
  obtain ⟨⟨digits, r'⟩, hdigits, hr⟩ := Option.bind_eq_some_iff.1 hr
  dsimp only at hr
  split at hr
  · cases hr
    exact shows_of_lineDigits? hdigits file
  · contradiction

/-- The location line of a block shows its place. -/
theorem shows_of_blockLocation? (h : blockLocation? l = some (file, digits)) :
    Shows file (some digits) l := by
  unfold blockLocation? at h
  split at h
  · rcases Option.or_eq_some_iff.1 h with h | ⟨-, h⟩
    · obtain ⟨r, hr, h⟩ := Option.bind_eq_some_iff.1 h
      have hcorner := (trimStart_suffix r).trans (suffix_of_after? hr)
      exact (shows_of_blockPlace? h).of_suffix (hcorner.trans (trimStart_suffix l))
    · exact (shows_of_blockPlace? h).of_suffix (trimStart_suffix l)
  · contradiction

/-- The message of a head ends the line. -/
theorem suffix_of_blockHead? (h : blockHead? severity l = some message) : message <:+ l := by
  obtain ⟨r, hr, h⟩ := Option.bind_eq_some_iff.1 h
  obtain ⟨rfl, -⟩ := message?_eq_some_iff.1 h
  exact (suffix_of_after? hr).trans (trimStart_suffix l)

/-- What follows an application ends the text. -/
theorem suffix_of_app? {app : Text} (h : Trace.app? s = some (app, r)) : r <:+ s := by
  unfold Trace.app? at h
  split at h
  · next s =>
    obtain ⟨⟨app', r'⟩, hrun, h⟩ := Option.bind_eq_some_iff.1 h
    obtain ⟨r'', hr, h⟩ := Option.bind_eq_some_iff.1 h
    split at h
    · cases h
      obtain rfl := eq_append_of_run? hrun
      have hrest : trimStart r'' <:+ r' := (trimStart_suffix r'').trans (suffix_of_after? hr)
      exact (hrest.trans (List.suffix_append _ _)).trans (List.suffix_cons _ _)
    · contradiction
  · contradiction

/-- The first reading of a file with a line number behind it is shown where it is read. -/
theorem shows_of_frameReadings {app?' : Option Text}
    (h : ((fileReadings Trace.isFrameFileChar s).findSome? fun (file, r) =>
      (Trace.frameLine? r).map fun digits => (app?, file, digits)) =
        some (app?', file, digits)) : Shows file (some digits) s := by
  obtain ⟨⟨f, r⟩, hmem, hr⟩ := List.exists_of_findSome?_eq_some h
  obtain ⟨rfl, -⟩ := isFile_of_mem_fileReadings hmem
  obtain ⟨d, hd, hr⟩ := Option.map_eq_some_iff.1 hr
  cases hr
  obtain ⟨⟨d, r'⟩, hdigits, hd⟩ := Option.bind_eq_some_iff.1 hd
  dsimp only at hd
  split at hd
  · cases hd
    exact shows_of_lineDigits? hdigits file
  · contradiction

/-- The place that a line names in the form of a frame is shown in it. -/
theorem shows_of_frameParts? (h : Trace.frameParts? l = some (app?, file, digits)) :
    Shows file (some digits) l := by
  unfold Trace.frameParts? at h
  cases happ : Trace.app? (trimStart l) with
  | none =>
    rw [happ] at h
    exact (shows_of_frameReadings h).of_suffix (trimStart_suffix l)
  | some p =>
    rw [happ] at h
    have hbehind := (suffix_of_app? happ).trans (trimStart_suffix l)
    exact (shows_of_frameReadings h).of_suffix hbehind

/-- The location of a frame is shown in its line. -/
theorem shows_of_classify (h : t.classify l = some frame)
    (hlocation : frame.location = some (file, line)) :
    ∃ digits, Shows file (some digits) l ∧ number? digits = some line := by
  unfold Trace.Classifier.classify at h
  split at h
  · contradiction
  · obtain rfl := Option.some.inj h
    split at hlocation
    · contradiction
    · next hparts =>
      have hshows := shows_of_frameParts? hparts
      split at hlocation
      · contradiction
      · next hn =>
        split at hlocation
        · cases hlocation
          exact ⟨_, hshows, hn⟩
        · cases hlocation
          exact ⟨_, hshows, hn⟩

/-- Lines that hold all that evidence says: the message in one of the first two, and the place in
one of them, with the digits that its line number is read from. -/
structure Quotes (ls : List Text) (e : Evidence) : Prop where
  /-- The message is a part of the first or the second line. -/
  message : ∃ l ∈ ls.take 2, e.message <:+: l
  /-- The file is shown with the digits of its line number. -/
  place : ∃ l ∈ ls, ∃ digits?, Shows e.file digits? l ∧ e.line? = digits?.bind number?

/-- An error with its location under the banner is quoted from its error line. -/
theorem quotes_of_readInline (h : readInline lines = some e) : Quotes (lines.take e.length) e := by
  cases readInline_eq_some_iff.1 h with
  | @mk banner error file r message digits rest _ herror htail =>
    have hrest := suffix_of_errorRest? herror
    obtain ⟨hmessage, hplace⟩ := shows_of_inlineTail? file htail
    have hbehind := (hmessage.trans (List.suffix_append file r)).trans hrest
    exact ⟨⟨error, by simp, hbehind.isInfix⟩, error, by simp, digits, hplace.of_suffix hrest, rfl⟩

/-- A traced error is quoted from its error line and from the frame of its anchor. -/
theorem quotes_of_readTraced (h : readTraced t lines = some e) :
    Quotes (lines.take e.length) e := by
  cases readTraced_eq_some_iff.1 h with
  | @mk banner error announced message file trace line n _ hmessage _ htrace =>
    -- The descent stops at a line that is taken up, since it is a descent of these lines alone.
    obtain ⟨l, hl, frame, hframe, -, hlocation⟩ := (htrace.take_append []).exists_stop
    rw [List.append_nil] at hl
    obtain ⟨digits, hshows, hline⟩ := shows_of_classify hframe hlocation
    exact ⟨⟨error, by simp, (suffix_of_errorRest? hmessage).isInfix⟩, l, by simp [hl],
      some digits, hshows, hline.symm⟩

/-- What a line says after the kind of an error ends the line. -/
theorem saying_suffix (line : Text) : saying line <:+ line := by
  unfold saying
  cases hkind : errorKind? line with
  | none => exact List.suffix_refl _
  | some kr =>
    obtain ⟨-, hline⟩ := errorKind?_eq_some_iff.1 hkind
    rw [hline]
    exact List.suffix_append _ _

/-- A bare error is quoted from its line. -/
theorem quotes_of_readBare (h : readBare lines = some e) : Quotes (lines.take e.length) e := by
  cases readBare_eq_some_iff.1 h with
  | @mk line file message digits rest hparts =>
    obtain ⟨hmessage, hplace⟩ := shows_of_bareParts? hparts
    have hbehind := hmessage.trans (saying_suffix line)
    exact ⟨⟨line, by simp, hbehind.isInfix⟩, line, by simp, digits,
      hplace.of_suffix (saying_suffix line), rfl⟩

/-- So is a warning on a line of its own. -/
theorem quotes_of_readWarning (h : readWarning lines = some e) :
    Quotes (lines.take e.length) e := by
  cases readWarning_eq_some_iff.1 h with
  | @mk line file digits message rest hparts =>
    obtain ⟨hmessage, hplace⟩ := shows_of_warningParts? hparts
    exact ⟨⟨line, by simp, hmessage.isInfix⟩, line, by simp, some digits, hplace, rfl⟩

/-- A block is quoted from its head and its location line. -/
theorem quotes_of_readBlock (h : readBlock severity lines = some e) :
    Quotes (lines.take e.length) e := by
  cases readBlock_eq_some_iff.1 h with
  | @mk head message file digits body n hhead hbody =>
    obtain ⟨l, hl, -, hplace⟩ := (hbody.take_append []).exists_stop
    rw [List.append_nil] at hl
    exact ⟨⟨head, by simp, (suffix_of_blockHead? hhead).isInfix⟩, l, by simp [hl],
      some digits, shows_of_blockLocation? hplace, rfl⟩

/-- Whatever a reader sees is quoted from the lines that it takes up. -/
theorem quotes_of_readerOf (h : readerOf tag t lines = some e) :
    Quotes (lines.take e.length) e := by
  cases tag with
  | compileErrorInline => exact quotes_of_readInline h
  | compileErrorTraced => exact quotes_of_readTraced h
  | compileErrorBare => exact quotes_of_readBare h
  | warningInline => exact quotes_of_readWarning h
  | warningBlock => exact quotes_of_readBlock h
  | compileErrorBlock => exact quotes_of_readBlock h

/-- A character that no line holds is not in the file and not in the message of anything that is
seen in these lines. -/
theorem not_mem_of_firstAt {c : Char} {m : Sighting} {j : Nat} (hc : ∀ l ∈ lines, c ∉ l)
    (h : (Catalog.builtin t).firstAt lines j = some m) : c ∉ m.file ∧ c ∉ m.message := by
  obtain ⟨s, hs, hm, -⟩ := builtin_firstAt_eq_some_iff.1 h
  obtain ⟨tag, rfl⟩ := mem_builtinShapes.1 hs
  obtain ⟨e, he, rfl⟩ := sightAt_eq_some_iff.1 hm
  obtain ⟨⟨l, hl, hmessage⟩, k, hk, digits?, hshows, -⟩ := quotes_of_readerOf he
  have hmem : ∀ l ∈ (lines.drop j).take e.length, l ∈ lines := fun l hl =>
    List.mem_of_mem_drop (List.mem_of_mem_take hl)
  constructor
  · intro hfile
    have hcolon : c ∈ e.file ++ [':'] := List.mem_append_left _ hfile
    exact hc k (hmem k hk) (hshows.places.colon.subset hcolon)
  · intro hmem'
    exact hc l (hmem l (List.mem_of_mem_take hl)) (hmessage.subset hmem')

end Shape

end ElixirDiagnostics
