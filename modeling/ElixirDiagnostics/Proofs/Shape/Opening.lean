import ElixirDiagnostics.Proofs.Location
import ElixirDiagnostics.Proofs.Shape.Window

/-!
# Openings of sightings

The first word of a line and the beginning of what follows it tell which shapes can see anything
there. A banner begins with two equality signs, the head of a block with its severity, and an error
or a warning on a line of its own with a word that holds a colon before its last character, or with
two asterisks. Every line has one opening, and only a banner leaves a choice of two shapes. So the
order of the shapes matters for these two alone.
-/

namespace ElixirDiagnostics

namespace Shape

open Text Location

/-- What the first line of a sighting can be. -/
inductive Opening where
  /-- The banner above an error. -/
  | banner
  /-- An error on a line of its own. -/
  | error
  /-- A warning on a line of its own. -/
  | warning
  /-- The head of a block. -/
  | head (severity : Severity)
  deriving DecidableEq, Repr

/-- The tags of the shapes that an opening admits. -/
def Opening.tags : Opening → List Tag
  | banner => [.compileErrorInline, .compileErrorTraced]
  | error => [.compileErrorBare]
  | warning => [.warningInline]
  | head .warning => [.warningBlock]
  | head .error => [.compileErrorBlock]

/-- The opening that a first word and what follows it make. -/
def Opening.ofWord (word rest : Text) : Opening :=
  if word = "==".toList then .banner
  else if word = "warning:".toList then .head .warning
  else if word = "error:".toList then .head .error
  else if " warning:".toList.isPrefixOf rest then .warning
  else .error

/-- The opening of a line. -/
def opening (line : Text) : Opening :=
  let s := trimStart line
  Opening.ofWord (s.takeWhile fun c => !isSpace c) (s.dropWhile fun c => !isSpace c)

variable {line s w m rest : Text} {ms : List Text} {f k : Text} {d : Option Text} {e : Evidence}
  {t : Trace.Classifier}

/-- The first word of a text is read up to the blank behind it. -/
theorem takeWhile_of_isSolid (hw : IsSolid w) (m : Text) :
    (w ++ ' ' :: m).takeWhile (fun c => !isSpace c) = w := by
  have hall : ∀ c ∈ w, (!isSpace c) = true := fun c hc => by simp [hw c hc]
  rw [List.takeWhile_append_of_pos hall, List.takeWhile_cons_of_neg (by decide), List.append_nil]

/-- A text that begins with a word has no blank space to drop at its start. -/
theorem trimStart_of_isSolid (hw : IsSolid w) (hne : w ≠ []) (s : Text) :
    trimStart (w ++ s) = w ++ s := by
  obtain ⟨c, w, rfl⟩ := List.exists_cons_of_ne_nil hne
  have hc : ¬isSpace c = true := by simp [hw c (by simp)]
  rw [trimStart, List.cons_append, List.dropWhile_cons_of_neg hc]

/-- The opening of a line whose first word is known. -/
theorem opening_of_trimStart (h : trimStart line = w ++ ' ' :: m) (hw : IsSolid w) :
    opening line = .ofWord w (' ' :: m) := by
  have hall : ∀ c ∈ w, (!isSpace c) = true := fun c hc => by simp [hw c hc]
  have hdrop : (w ++ ' ' :: m).dropWhile (fun c => !isSpace c) = ' ' :: m := by
    rw [List.dropWhile_append_of_pos hall, List.dropWhile_cons_of_neg (by decide)]
  dsimp only [opening]
  rw [h, takeWhile_of_isSolid hw, hdrop]

/-- The opening of a line that begins with a word. -/
theorem opening_of_eq (h : line = w ++ ' ' :: m) (hw : IsSolid w) (hne : w ≠ []) :
    opening line = .ofWord w (' ' :: m) := by
  refine opening_of_trimStart ?_ hw
  rw [h, trimStart_of_isSolid hw hne]

/-- A word with a colon before a last one is no word that begins a banner or a block, so what
follows it decides. -/
theorem ofWord_of_colon (h : ':' ∈ w) (r : Text) :
    Opening.ofWord (w ++ [':']) r =
      if " warning:".toList.isPrefixOf r then .warning else .error := by
  have hne : ∀ v : Text, ':' ∉ v → w ++ [':'] ≠ v ++ [':'] := by
    intro v hv he
    rw [List.append_cancel_right he] at h
    exact hv h
  have hbanner : w ++ [':'] ≠ "==".toList := by
    intro he
    have hlast := congrArg List.getLast? he
    simp at hlast
  have hwarning : w ++ [':'] ≠ "warning:".toList := hne "warning".toList (by decide)
  have herror : w ++ [':'] ≠ "error:".toList := hne "error".toList (by decide)
  rw [Opening.ofWord, if_neg hbanner, if_neg hwarning, if_neg herror]

/-- A banner begins with its two equality signs. -/
theorem opening_of_bannerFile? (h : bannerFile? line = some f) : opening line = .banner := by
  obtain ⟨r, hr, -⟩ := Option.bind_eq_some_iff.1 h
  have hline := after?_eq_some_iff.1 hr
  exact opening_of_eq (w := "==".toList) (m := "Compilation error ".toList ++ r) hline
    (by decide) (by decide)

/-- An error kind stands in parentheses behind two asterisks. -/
theorem errorKind?_eq_some (h : errorKind? line = some (k, rest)) :
    ∃ r, line = "** (".toList ++ r := by
  obtain ⟨r, hr, -⟩ := Option.bind_eq_some_iff.1 h
  exact ⟨r, after?_eq_some_iff.1 hr⟩

/-- The message of a bare error is what follows the blank space behind its first word, and the word
holds a colon before its last character if it holds a line number. -/
theorem bareParts?_eq_some (h : bareParts? s = some (f, d, m)) :
    ∃ w, s = (w ++ [':']) ++ ' ' :: m ∧ IsSolid w ∧ (d.isSome → ':' ∈ w) := by
  obtain ⟨r, rfl, hfile, hbehind, -⟩ := behind_of_bareParts? h
  obtain ⟨w, hw, hsolid, hcolon⟩ := hbehind.solid hfile
  exact ⟨w, by simpa using hw, hsolid, hcolon⟩

/-- A warning on a line of its own has a line number in its first word, and the word `warning:`
behind it. -/
theorem warningParts?_eq_some {d : Text} (h : warningParts? s = some (f, d, m)) :
    ∃ w, s = (w ++ [':']) ++ ' ' :: ("warning: ".toList ++ m) ∧ IsSolid w ∧ ':' ∈ w := by
  obtain ⟨r, rfl, hfile, hbehind, -⟩ := behind_of_warningParts? h
  obtain ⟨w, hw, hsolid, hcolon⟩ := hbehind.solid hfile
  exact ⟨w, by simpa using hw, hsolid, hcolon rfl⟩

/-- A bare error has the opening of an error: its message does not begin as a warning's, and its
first word is no severity, since it has a line number unless it has a kind. -/
theorem opening_of_readBare (h : readBare (line :: ms) = some e) : opening line = .error := by
  cases readBare_eq_some_iff.1 h with
  | @mk _ file message digits _ hparts hwarning hplace =>
    cases hk : errorKind? line with
    | some kr =>
      obtain ⟨r, hr⟩ := errorKind?_eq_some hk
      exact opening_of_eq (w := "**".toList) (m := '(' :: r) hr (by decide) (by decide)
    | none =>
      rw [saying, hk] at hparts
      obtain ⟨w, hw, hsolid, hcolon⟩ := bareParts?_eq_some hparts
      have hsplit : line = (w ++ [':']) ++ ' ' :: message := hw
      have hdigits : digits.isSome := Option.isSome_iff_ne_none.2 fun hd => (hplace hd).1 hk
      have hword : IsSolid (w ++ [':']) := hsolid.append (by decide)
      have hprefix : ¬(" warning:".toList.isPrefixOf (' ' :: message)) = true :=
        Bool.eq_false_iff.1 hwarning
      rw [opening_of_eq hsplit hword (by simp), ofWord_of_colon (hcolon hdigits), if_neg hprefix]

/-- A warning on a line of its own has the opening of a warning. -/
theorem opening_of_readWarning (h : readWarning (line :: ms) = some e) :
    opening line = .warning := by
  cases readWarning_eq_some_iff.1 h with
  | @mk _ _ _ message _ hparts =>
    obtain ⟨w, hw, hsolid, hcolon⟩ := warningParts?_eq_some hparts
    have hword : IsSolid (w ++ [':']) := hsolid.append (by decide)
    have hprefix : " warning:".toList.isPrefixOf (' ' :: ("warning: ".toList ++ message)) = true :=
      rfl
    rw [opening_of_eq hw hword (by simp), ofWord_of_colon hcolon, if_pos hprefix]

/-- An error with its location on the error line stands under a banner. -/
theorem exists_bannerFile?_of_readInline (h : readInline (line :: ms) = some e) :
    ∃ file, bannerFile? line = some file := by
  cases readInline_eq_some_iff.1 h with
  | mk hbanner => exact ⟨_, hbanner⟩

/-- So does an error that is located by its trace. -/
theorem exists_bannerFile?_of_readTraced (h : readTraced t (line :: ms) = some e) :
    ∃ file, bannerFile? line = some file := by
  cases readTraced_eq_some_iff.1 h with
  | mk hannounced => exact ⟨_, hannounced⟩

/-- A block has a head with a message. -/
theorem exists_blockHead?_of_readBlock {severity : Severity}
    (h : readBlock severity (line :: ms) = some e) :
    ∃ message, blockHead? severity line = some message := by
  cases readBlock_eq_some_iff.1 h with
  | mk hhead => exact ⟨_, hhead⟩

/-- The head of a block has the opening of a head of its severity. -/
theorem opening_of_blockHead? {severity : Severity} (h : blockHead? severity line = some m) :
    opening line = .head severity := by
  obtain ⟨r, hr, -⟩ := Option.bind_eq_some_iff.1 h
  have hline := after?_eq_some_iff.1 hr
  cases severity with
  | warning => exact opening_of_trimStart (w := "warning:".toList) (m := r) hline (by decide)
  | error => exact opening_of_trimStart (w := "error:".toList) (m := r) hline (by decide)

/-- Whatever is seen at a line has one of the tags that the line's opening admits. -/
theorem mem_tags_opening {tag : Tag} (h : readerOf tag t (line :: ms) = some e) :
    tag ∈ (opening line).tags := by
  cases tag with
  | compileErrorInline =>
    obtain ⟨file, hfile⟩ := exists_bannerFile?_of_readInline h
    rw [opening_of_bannerFile? hfile]
    decide
  | compileErrorTraced =>
    obtain ⟨file, hfile⟩ := exists_bannerFile?_of_readTraced h
    rw [opening_of_bannerFile? hfile]
    decide
  | compileErrorBare =>
    have hread : readBare (line :: ms) = some e := h
    rw [opening_of_readBare hread]
    decide
  | warningInline =>
    have hread : readWarning (line :: ms) = some e := h
    rw [opening_of_readWarning hread]
    decide
  | warningBlock =>
    obtain ⟨message, hhead⟩ := exists_blockHead?_of_readBlock h
    rw [opening_of_blockHead? hhead]
    decide
  | compileErrorBlock =>
    obtain ⟨message, hhead⟩ := exists_blockHead?_of_readBlock h
    rw [opening_of_blockHead? hhead]
    decide

/-- At a banner only the two shapes that stand under one see anything. -/
theorem tag_of_bannerFile? {tag : Tag} (hbanner : bannerFile? line = some f)
    (h : readerOf tag t (line :: ms) = some e) :
    tag = .compileErrorInline ∨ tag = .compileErrorTraced := by
  have htag := mem_tags_opening h
  rw [opening_of_bannerFile? hbanner] at htag
  simpa [Opening.tags] using htag

/-- At the head of a block only the shape of its severity sees anything. -/
theorem read_of_blockHead? {tag : Tag} {severity : Severity}
    (hhead : blockHead? severity line = some m) (h : readerOf tag t (line :: ms) = some e) :
    readBlock severity (line :: ms) = some e := by
  have htag := mem_tags_opening h
  rw [opening_of_blockHead? hhead] at htag
  cases severity with
  | warning =>
    obtain rfl := List.mem_singleton.1 htag
    exact h
  | error =>
    obtain rfl := List.mem_singleton.1 htag
    exact h

/-- Only a banner admits two shapes. -/
theorem eq_or_under_banner {o : Opening} {a b : Tag} (ha : a ∈ o.tags) (hb : b ∈ o.tags) :
    a = b ∨ (a = .compileErrorInline ∧ b = .compileErrorTraced) ∨
      (a = .compileErrorTraced ∧ b = .compileErrorInline) := by
  have hone : ∀ {x : Tag}, a ∈ [x] → b ∈ [x] → a = b := by
    intro x ha hb
    rw [List.mem_singleton.1 ha, List.mem_singleton.1 hb]
  cases o with
  | banner =>
    simp only [Opening.tags, List.mem_cons, List.not_mem_nil, or_false] at ha hb
    rcases ha with rfl | rfl <;> rcases hb with rfl | rfl <;> decide
  | error => exact Or.inl (hone ha hb)
  | warning => exact Or.inl (hone ha hb)
  | head severity => cases severity <;> exact Or.inl (hone ha hb)

end Shape

end ElixirDiagnostics
