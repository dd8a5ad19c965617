import ElixirDiagnostics.Proofs.Shape.Opening

/-!
# Silent lines

A silent line is one at which no reader sees anything, whatever follows it. Every shape begins with
the head of a block or with a word at the very start of its line, and no digit is the last character
of such a word. So blank lines, indented lines and lines of a source snippet are silent unless they
are heads of blocks.
-/

namespace ElixirDiagnostics

namespace Shape

open Text Location

variable {t : Trace.Classifier} {l line w m : Text} {lines : List Text} {tag : Tag} {e : Evidence}

/-- A line at which no reader sees anything. -/
def IsSilent (l : Text) : Prop :=
  ∀ (tag : Tag) (t : Trace.Classifier) (rest : List Text), readerOf tag t (l :: rest) = none

/-- The head of a block, of a warning or of an error. -/
def isHead (l : Text) : Bool := (blockHead? .warning l).isSome || (blockHead? .error l).isSome

/-- A head has a severity and a message. -/
theorem isHead_iff :
    isHead l = true ↔ ∃ severity message, blockHead? severity l = some message := by
  rw [isHead, Bool.or_eq_true, Option.isSome_iff_exists, Option.isSome_iff_exists]
  constructor
  · rintro (⟨message, h⟩ | ⟨message, h⟩)
    · exact ⟨.warning, message, h⟩
    · exact ⟨.error, message, h⟩
  · rintro ⟨severity, message, h⟩
    cases severity with
    | warning => exact Or.inl ⟨message, h⟩
    | error => exact Or.inr ⟨message, h⟩

/-- A line that begins with a word and a blank behind it, where the word does not end in a digit. -/
def BeginsWithWord (l : Text) : Prop :=
  ∃ w c m, l = (w ++ [c]) ++ ' ' :: m ∧ IsSolid (w ++ [c]) ∧ isDecimal c = false

/-- A banner begins with its two equality signs. -/
theorem beginsWithWord_of_bannerFile? {file : Text} (h : bannerFile? line = some file) :
    BeginsWithWord line := by
  obtain ⟨r, hr, -⟩ := Option.bind_eq_some_iff.1 h
  have hline := after?_eq_some_iff.1 hr
  exact ⟨['='], '=', "Compilation error ".toList ++ r, hline, by decide, by decide⟩

/-- A bare error begins with two asterisks or with its location. -/
theorem beginsWithWord_of_readBare (h : readBare (line :: lines) = some e) :
    BeginsWithWord line := by
  cases readBare_eq_some_iff.1 h with
  | @mk _ _ message _ _ hparts =>
    cases hk : errorKind? line with
    | some kr =>
      obtain ⟨r, hr⟩ := errorKind?_eq_some hk
      exact ⟨['*'], '*', '(' :: r, hr, by decide, by decide⟩
    | none =>
      rw [saying, hk] at hparts
      obtain ⟨w, hw, hsolid, -⟩ := bareParts?_eq_some hparts
      exact ⟨w, ':', message, hw, hsolid.append (by decide), by decide⟩

/-- A warning on a line of its own begins with its location. -/
theorem beginsWithWord_of_readWarning (h : readWarning (line :: lines) = some e) :
    BeginsWithWord line := by
  cases readWarning_eq_some_iff.1 h with
  | @mk _ _ _ message _ hparts =>
    obtain ⟨w, hw, hsolid, -⟩ := warningParts?_eq_some hparts
    exact ⟨w, ':', "warning: ".toList ++ message, hw, hsolid.append (by decide), by decide⟩

/-- Whatever is seen begins with a word or is headed as a block. -/
theorem beginsWithWord_or_isHead (h : readerOf tag t (line :: lines) = some e) :
    BeginsWithWord line ∨ isHead line = true := by
  have hblock : ∀ severity, readBlock severity (line :: lines) = some e → isHead line = true := by
    intro severity h
    obtain ⟨message, hhead⟩ := exists_blockHead?_of_readBlock h
    exact isHead_iff.2 ⟨severity, message, hhead⟩
  cases tag with
  | compileErrorInline =>
    obtain ⟨file, hfile⟩ := exists_bannerFile?_of_readInline h
    exact Or.inl (beginsWithWord_of_bannerFile? hfile)
  | compileErrorTraced =>
    obtain ⟨file, hfile⟩ := exists_bannerFile?_of_readTraced h
    exact Or.inl (beginsWithWord_of_bannerFile? hfile)
  | compileErrorBare =>
    have hread : readBare (line :: lines) = some e := h
    exact Or.inl (beginsWithWord_of_readBare hread)
  | warningInline =>
    have hread : readWarning (line :: lines) = some e := h
    exact Or.inl (beginsWithWord_of_readWarning hread)
  | warningBlock => exact Or.inr (hblock .warning h)
  | compileErrorBlock => exact Or.inr (hblock .error h)

/-- A line that neither begins with a word nor is the head of a block is silent. -/
theorem isSilent_of_not (hword : ¬BeginsWithWord l) (hhead : isHead l = false) : IsSilent l := by
  intro tag t rest
  cases hread : readerOf tag t (l :: rest) with
  | none => rfl
  | some e =>
    rcases beginsWithWord_or_isHead hread with h | h
    · exact absurd h hword
    · rw [hhead] at h
      contradiction

/-- A line that begins with a word is visible and not indented. -/
theorem BeginsWithWord.visible (h : BeginsWithWord l) :
    isBlank l = false ∧ isIndented l = false := by
  obtain ⟨w, c, m, rfl, hsolid, -⟩ := h
  constructor
  · have hc := hsolid c (by simp)
    simp [isBlank, hc]
  · obtain ⟨d, v, hd⟩ := List.exists_cons_of_ne_nil (List.append_ne_nil_of_right_ne_nil w
      (List.cons_ne_nil c []))
    rw [hd] at hsolid ⊢
    simp [isIndented, hsolid d (by simp)]

/-- Blank and indented lines that are no heads are silent. -/
theorem isSilent_of_indented (h : isBlank l = true ∨ isIndented l = true)
    (hhead : isHead l = false) : IsSilent l := by
  refine isSilent_of_not (fun hword => ?_) hhead
  obtain ⟨hblank, hindented⟩ := hword.visible
  rcases h with h | h
  · rw [hblank] at h
    contradiction
  · rw [hindented] at h
    contradiction

/-- The number of a snippet line is its first word, and a digit ends it. -/
theorem not_beginsWithWord_of_isSnippet (h : isSnippet l = true) : ¬BeginsWithWord l := by
  rintro ⟨w, c, m, rfl, hsolid, hc⟩
  obtain ⟨s, hs⟩ := Option.isSome_iff_exists.1 h
  obtain ⟨⟨digits, r⟩, hrun, hbar⟩ := Option.bind_eq_some_iff.1 hs
  rw [trimStart_of_isSolid hsolid (by simp)] at hrun
  obtain ⟨hsplit, -, hdigits⟩ := run?_eq_some hrun
  have hbar' : r = ' ' :: ('│' :: s) := after?_eq_some_iff.1 hbar
  have hword : w ++ [c] = digits := by
    rw [← takeWhile_of_isSolid hsolid m, hsplit, hbar',
      takeWhile_of_isSolid (isSolid_of_decimal hdigits)]
  have hdigit := hdigits c (by simp [← hword])
  rw [hc] at hdigit
  contradiction

/-- Lines of a block's body that are no heads are silent. -/
theorem isSilent_of_isBlockBody (h : isBlockBody l = true) (hhead : isHead l = false) :
    IsSilent l := by
  obtain ⟨-, h⟩ := Bool.and_eq_true_iff.1 h
  rcases Bool.or_eq_true_iff.1 h with hindented | hsnippet
  · exact isSilent_of_indented (Or.inr hindented) hhead
  · exact isSilent_of_not (not_beginsWithWord_of_isSnippet hsnippet) hhead

end Shape

end ElixirDiagnostics
