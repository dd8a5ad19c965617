import ElixirDiagnostics.Location

/-!
# What is read of a location

Every piece of a location is a beginning of the text that it is read from, and none holds blank
space: neither a file name, nor line digits, nor a column. A location is therefore a part of the
first word of its line, however it is read. A message is all of its text.
-/

namespace ElixirDiagnostics

namespace Text

/-- A text without blank space. -/
def IsSolid (w : Text) : Prop := ∀ c ∈ w, isSpace c = false

instance (w : Text) : Decidable (IsSolid w) :=
  List.decidableBAll (fun c => isSpace c = false) w

variable {p : Char → Bool} {s w v r : Text}

/-- Two texts without blank space make one. -/
theorem IsSolid.append (hw : IsSolid w) (hv : IsSolid v) : IsSolid (w ++ v) := by
  intro c hc
  rcases List.mem_append.1 hc with hc | hc
  · exact hw c hc
  · exact hv c hc

/-- A character that is no blank space leaves a text without any. -/
theorem IsSolid.cons {c : Char} (hc : isSpace c = false) (hw : IsSolid w) : IsSolid (c :: w) := by
  intro d hd
  rcases List.mem_cons.1 hd with rfl | hd
  · exact hc
  · exact hw d hd

/-- A text without blank space stands on one line. -/
theorem IsSolid.newline_not_mem (hw : IsSolid w) : '\n' ∉ w := by
  intro hmem
  exact absurd (hw '\n' hmem) (by decide)

/-- The code points of blank space, apart from each other. -/
theorem code_of_isSpace {c : Char} (h : isSpace c = true) :
    c.toNat ≤ 0x20 ∨ c.toNat = 0x85 ∨ c.toNat = 0xa0 ∨ c.toNat = 0x1680 ∨
      (0x2000 ≤ c.toNat ∧ c.toNat ≤ 0x3000) := by
  have hval : c.val.toNat = c.toNat := rfl
  simp only [isSpace, Bool.or_eq_true, Bool.and_eq_true, decide_eq_true_eq, beq_iff_eq,
    UInt32.le_iff_toNat_le, ← UInt32.toNat_inj, UInt32.reduceToNat, hval] at h
  omega

/-- The code points of ASCII letters. -/
theorem code_of_isAlpha {c : Char} (h : c.isAlpha = true) :
    (65 ≤ c.toNat ∧ c.toNat ≤ 90) ∨ (97 ≤ c.toNat ∧ c.toNat ≤ 122) := by
  rcases Bool.or_eq_true_iff.1 h with hupper | hlower
  · exact Or.inl (of_decide_eq_true hupper)
  · obtain ⟨hlow, hhigh⟩ := Bool.and_eq_true_iff.1 hlower
    exact Or.inr ⟨of_decide_eq_true hlow, of_decide_eq_true hhigh⟩

/-- A letter is no blank space. -/
theorem isSpace_eq_false_of_isAlpha {c : Char} (h : c.isAlpha = true) : isSpace c = false := by
  have hletter := code_of_isAlpha h
  rw [Bool.eq_false_iff]
  intro hs
  have hcode := code_of_isSpace hs
  omega

/-- A decimal digit of any script is no blank space. -/
theorem isSpace_eq_false_of_isDecimal {c : Char} (h : isDecimal c = true) : isSpace c = false := by
  -- Blank characters stand below, between and above the blocks of digits.
  have hblocks : ∀ z ∈ decimalZeros, (0x20 < z ∧ z + 10 ≤ 0x85) ∨ (0xa0 < z ∧ z + 10 ≤ 0x1680) ∨
      (0x1680 < z ∧ z + 10 ≤ 0x2000) ∨ 0x3000 < z := by decide
  obtain ⟨z, hz, hc⟩ := List.any_eq_true.1 h
  have hzc := hblocks z hz
  simp only [Bool.and_eq_true, decide_eq_true_eq] at hc
  rw [Bool.eq_false_iff]
  intro hs
  have hcode := code_of_isSpace hs
  omega

/-- A run holds characters of its class only, at least one, and stands before the rest. -/
theorem run?_eq_some (h : run? p s = some (w, r)) : s = w ++ r ∧ w ≠ [] ∧ ∀ c ∈ w, p c = true := by
  refine ⟨eq_append_of_run? h, ?_⟩
  unfold run? at h
  split at h
  · contradiction
  · next hne =>
    obtain ⟨rfl, rfl⟩ : s.takeWhile p = w ∧ s.dropWhile p = r := by simpa using h
    refine ⟨by simpa using hne, ?_⟩
    exact List.all_eq_true.1 List.all_takeWhile

/-- No character of its class follows a run. -/
theorem head?_of_run? (h : run? p s = some (w, r)) : ∀ c, r.head? = some c → p c = false := by
  unfold run? at h
  split at h
  · contradiction
  · obtain ⟨rfl, rfl⟩ : s.takeWhile p = w ∧ s.dropWhile p = r := by simpa using h
    intro c hc
    have hstop := List.head?_dropWhile_not p s
    rwa [hc] at hstop

end Text

namespace Location

open Text

variable {p : Char → Bool} {s r d f m : Text}

/-- Line digits follow a colon and stand before the rest. -/
theorem lineDigits?_eq_some (h : lineDigits? s = some (d, r)) :
    s = ':' :: d ++ r ∧ d ≠ [] ∧ ∀ c ∈ d, isDecimal c = true := by
  unfold lineDigits? at h
  split at h
  · obtain ⟨rfl, hne, hall⟩ := run?_eq_some h
    exact ⟨rfl, hne, hall⟩
  · contradiction

/-- All digits are read. -/
theorem head?_of_lineDigits? (h : lineDigits? s = some (d, r)) :
    ∀ c, r.head? = some c → isDecimal c = false := by
  unfold lineDigits? at h
  split at h
  · exact head?_of_run? h
  · contradiction

/-- Digits are solid. -/
theorem isSolid_of_decimal (h : ∀ c ∈ d, isDecimal c = true) : IsSolid d :=
  fun c hc => isSpace_eq_false_of_isDecimal (h c hc)

/-- A column, if there is one, is a solid piece of text before the rest. -/
theorem skipColumn_suffix (s : Text) : ∃ w, s = w ++ skipColumn s ∧ IsSolid w := by
  unfold skipColumn
  split
  · next d r h =>
    obtain ⟨rfl, -, hd⟩ := lineDigits?_eq_some h
    exact ⟨':' :: d, rfl, .cons (by decide) (isSolid_of_decimal hd)⟩
  · exact ⟨[], rfl, by simp [IsSolid]⟩

/-- The name of a file as it is printed: characters of a class, at least one, maybe behind the
letter of a drive and its colon. -/
inductive IsFile (p : Char → Bool) : Text → Prop where
  /-- A name. -/
  | name {w : Text} (hne : w ≠ []) (hchars : ∀ c ∈ w, p c = true) : IsFile p w
  /-- A name on a drive. -/
  | drive {c : Char} {w : Text} (hc : c.isAlpha = true) (hne : w ≠ [])
      (hchars : ∀ c ∈ w, p c = true) : IsFile p (c :: ':' :: w)

/-- No name is empty. -/
theorem IsFile.ne_nil (h : IsFile p f) : f ≠ [] := by
  cases h with
  | name hne => exact hne
  | drive => simp

/-- A name is solid if the characters of file names are. -/
theorem IsFile.solid (hp : ∀ c, p c = true → isSpace c = false) (h : IsFile p f) : IsSolid f := by
  cases h with
  | name _ hchars => exact fun c hc => hp c (hchars c hc)
  | drive hc _ hchars =>
    exact .cons (isSpace_eq_false_of_isAlpha hc) (.cons (by decide) fun c hc => hp c (hchars c hc))

/-- Then it begins with a visible character. -/
theorem IsFile.isIndented_append (hp : ∀ c, p c = true → isSpace c = false) (h : IsFile p f)
    (s : Text) : isIndented (f ++ s) = false := by
  obtain ⟨c, w, hw⟩ := List.exists_cons_of_ne_nil h.ne_nil
  have hc := h.solid hp c (by simp [hw])
  simp [hw, isIndented, hc]

/-- Every reading of a file name is the name of a file before the rest of the text. -/
theorem isFile_of_mem_fileReadings (h : (f, r) ∈ fileReadings p s) : s = f ++ r ∧ IsFile p f := by
  unfold fileReadings at h
  rcases List.mem_append.1 h with h | h
  · rw [Option.mem_toList] at h
    split at h
    · next drive t _ =>
      split at h
      · next hdrive =>
        obtain ⟨⟨w, r'⟩, hrun, hfr⟩ := Option.map_eq_some_iff.1 h
        obtain ⟨rfl, rfl⟩ : drive :: ':' :: w = f ∧ r' = r := by simpa using hfr
        obtain ⟨rfl, hne, hall⟩ := run?_eq_some hrun
        exact ⟨rfl, .drive hdrive hne hall⟩
      · contradiction
    · contradiction
  · rw [Option.mem_toList] at h
    obtain ⟨rfl, hne, hall⟩ := run?_eq_some h
    exact ⟨rfl, .name hne hall⟩

/-- It is solid if the characters of file names are. -/
theorem mem_fileReadings (hp : ∀ c, p c = true → isSpace c = false)
    (h : (f, r) ∈ fileReadings p s) : s = f ++ r ∧ f ≠ [] ∧ IsSolid f := by
  obtain ⟨hsplit, hfile⟩ := isFile_of_mem_fileReadings h
  exact ⟨hsplit, hfile.ne_nil, hfile.solid hp⟩

/-- The characters of a file name at the start of a line are no blank space. -/
theorem isSpace_eq_false_of_isFileChar {c : Char} (h : isFileChar c = true) :
    isSpace c = false := by
  simp only [isFileChar, Bool.and_eq_true, Bool.not_eq_true'] at h
  exact h.1

/-- A message is the whole of its text: one line that begins with a visible character. -/
theorem message?_eq_some_iff :
    message? s = some m ↔ s = m ∧ m ≠ [] ∧ isIndented m = false ∧ '\n' ∉ m := by
  unfold message?
  constructor
  · intro h
    split at h
    · contradiction
    · next hn =>
      cases h
      simp only [Bool.or_eq_true, List.isEmpty_iff, List.contains_iff_mem, not_or,
        Bool.not_eq_true] at hn
      exact ⟨rfl, hn.1.1, hn.1.2, hn.2⟩
  · rintro ⟨rfl, hne, hi, hl⟩
    rw [if_neg]
    simp only [Bool.or_eq_true, List.isEmpty_iff, List.contains_iff_mem, not_or,
      Bool.not_eq_true]
    exact ⟨⟨hne, hi⟩, hl⟩

end Location

end ElixirDiagnostics
