import ElixirDiagnostics.Json.Reader
import ElixirDiagnostics.Proofs.Location.Written
import Mathlib.Data.List.Basic

/-!
# JSON strings as they are written

A character of a string is written as itself, as a letter behind a backslash, or as its number in
four hexadecimal digits; a character outside the basic plane has two such numbers, a surrogate pair.
Whichever spelling is used for each character, the string is read back, up to its closing quote and
whatever follows it. The spelling that reports use is one of these. It leaves no control character
in the string, and characters that need no escape stay as they are.
-/

namespace ElixirDiagnostics

namespace Text

/-- A number below sixteen is the value of the digit that it is written as. -/
theorem hexDigit?_hexDigit : ∀ n < 16, hexDigit? (hexDigit n) = some n := by
  decide

/-- A text without control characters. -/
def IsPrintable (s : Text) : Prop := ∀ c ∈ s, 0x20 ≤ c.toNat

-- The instance goes through the characters of the text and not through all characters.
instance (s : Text) : Decidable (IsPrintable s) :=
  decidable_of_iff (s.all (0x20 ≤ ·.toNat) = true) (by simp [IsPrintable])

/-- Control characters come into a text by none of its parts. -/
theorem IsPrintable.append {s t : Text} (hs : IsPrintable s) (ht : IsPrintable t) :
    IsPrintable (s ++ t) :=
  List.forall_mem_append.2 ⟨hs, ht⟩

/-- A character is got back from its number. -/
theorem charOfNat?_toNat (c : Char) : charOfNat? c.toNat = some c := by
  have hvalid : c.toNat.isValidChar := c.valid
  rw [charOfNat?, if_pos hvalid, Char.ofNat_toNat]

end Text

namespace Json

open Text

/-- Four hexadecimal digits, in upper or lower case, with their value. -/
structure HexDigits (u : Text) (n : Nat) : Prop where
  /-- There are four of them. -/
  length : u.length = 4
  /-- They have this value. -/
  value : hexValue? u = some n

/-- The letters that stand behind a backslash, with the characters that they stand for. -/
def letters : List (Char × Char) :=
  [('"', '"'), ('\\', '\\'), ('/', '/'), ('b', '\x08'), ('f', '\x0c'), ('n', '\n'), ('r', '\r'),
   ('t', '\t')]

/-- The ways to write a character in a string. -/
inductive Spells : Char → Text → Prop where
  /-- As itself, if it is no control character, no quote and no backslash. -/
  | itself {c : Char} (hcontrol : 0x20 ≤ c.toNat) (hquote : c ≠ '"') (hbackslash : c ≠ '\\') :
      Spells c [c]
  /-- As a letter behind a backslash. -/
  | letter {e c : Char} (h : (e, c) ∈ letters) : Spells c ['\\', e]
  /-- As its number. -/
  | number {c : Char} {u : Text} (h : HexDigits u c.toNat) : Spells c ('\\' :: 'u' :: u)
  /-- As a surrogate pair. -/
  | pair {c : Char} {u v : Text} {high low : Nat} (hu : HexDigits u high) (hv : HexDigits v low)
      (hhigh : 0xd800 ≤ high ∧ high < 0xdc00) (hlow : 0xdc00 ≤ low ∧ low < 0xe000)
      (hc : c.toNat = 0x10000 + (high - 0xd800) * 0x400 + (low - 0xdc00)) :
      Spells c ('\\' :: 'u' :: (u ++ '\\' :: 'u' :: v))

/-- What can stand between the quotes of a string. -/
inductive IsBody : Text → Text → Prop where
  /-- Nothing, for the empty string. -/
  | nil : IsBody [] []
  /-- A character in any spelling, and the rest of the string. -/
  | cons {c : Char} {s w b : Text} (hc : Spells c w) (hs : IsBody s b) : IsBody (c :: s) (w ++ b)

variable {c e : Char} {s b u w r : Text} {n fuel : Nat}

/-- Four digits are read, whatever follows them. -/
theorem unit?_append (h : HexDigits u n) (r : Text) : unit? (u ++ r) = some (n, r) := by
  have hfour : 4 ≤ (u ++ r).length := by
    rw [List.length_append, h.length]
    omega
  rw [unit?, if_pos hfour, ← h.length, List.take_left, List.drop_left, h.value]
  rfl

/-- A letter behind a backslash is read. -/
theorem escape?_of_letter (h : (e, c) ∈ letters) (r : Text) : escape? (e :: r) = some (c, r) := by
  simp only [letters, List.mem_cons, Prod.mk.injEq, List.not_mem_nil, or_false] at h
  rcases h with ⟨rfl, rfl⟩ | ⟨rfl, rfl⟩ | ⟨rfl, rfl⟩ | ⟨rfl, rfl⟩ | ⟨rfl, rfl⟩ | ⟨rfl, rfl⟩ |
    ⟨rfl, rfl⟩ | ⟨rfl, rfl⟩ <;> rfl

/-- The number of a character is read. No character has the number of half a pair. -/
theorem escape?_of_number (h : HexDigits u c.toNat) (r : Text) :
    escape? ('u' :: (u ++ r)) = some (c, r) := by
  have hwhole : ¬(0xd800 ≤ c.toNat ∧ c.toNat < 0xdc00) := by
    have hvalid : c.toNat < 0xd800 ∨ 0xdfff < c.toNat ∧ c.toNat < 0x110000 := c.valid
    omega
  simp only [escape?, numbered?, unit?_append h, Option.bind_eq_bind, Option.bind_some,
    if_neg hwhole, charOfNat?_toNat]
  rfl

/-- Both numbers of a pair are read. -/
theorem escape?_of_pair {v : Text} {high low : Nat} (hu : HexDigits u high) (hv : HexDigits v low)
    (hhigh : 0xd800 ≤ high ∧ high < 0xdc00) (hlow : 0xdc00 ≤ low ∧ low < 0xe000)
    (hc : c.toNat = 0x10000 + (high - 0xd800) * 0x400 + (low - 0xdc00)) (r : Text) :
    escape? ('u' :: (u ++ ("\\u".toList ++ (v ++ r)))) = some (c, r) := by
  simp only [escape?, numbered?, unit?_append hu, Option.bind_eq_bind, Option.bind_some,
    if_pos hhigh, after?_append, unit?_append hv, if_pos hlow, ← hc, charOfNat?_toNat]
  rfl

/-- What is read behind a backslash is the next character of a string. -/
theorem stringBody?_of_escape {t : Text} (h : escape? t = some (c, r)) (fuel : Nat) :
    stringBody? (fuel + 1) ('\\' :: t) =
      (stringBody? fuel r).map fun (s, r) => (c :: s, r) := by
  simp only [stringBody?, h, Option.bind_eq_bind, Option.bind_some]
  cases stringBody? fuel r <;> rfl

/-- Every spelling of a character is read as that character. -/
theorem stringBody?_of_spells (h : Spells c w) (fuel : Nat) (r : Text) :
    stringBody? (fuel + 1) (w ++ r) = (stringBody? fuel r).map fun (s, r) => (c :: s, r) := by
  cases h with
  | itself hcontrol hquote hbackslash =>
    have hprintable : ¬c.toNat < 0x20 := Nat.not_lt.2 hcontrol
    simp only [List.singleton_append, stringBody?, if_neg hprintable]
    cases stringBody? fuel r <;> rfl
  | letter h => exact stringBody?_of_escape (escape?_of_letter h r) fuel
  | number h => exact stringBody?_of_escape (escape?_of_number h r) fuel
  | pair hu hv hhigh hlow hc =>
    have hread := escape?_of_pair hu hv hhigh hlow hc r
    rw [List.cons_append, List.cons_append, List.append_assoc]
    exact stringBody?_of_escape hread fuel

/-- A spelling is not empty. -/
theorem Spells.length_pos (h : Spells c w) : 0 < w.length := by
  cases h <;> simp

/-- What stands between quotes is read up to the closing one, with fuel for its length. -/
theorem stringBody?_of_length_lt (h : IsBody s b) (hfuel : b.length < fuel) (r : Text) :
    stringBody? fuel (b ++ '"' :: r) = some (s, r) := by
  induction h generalizing fuel with
  | nil =>
    cases fuel with
    | zero => contradiction
    | succ fuel => rfl
  | @cons c s w b hc _ ih =>
    cases fuel with
    | zero => contradiction
    | succ fuel =>
      have hpos := hc.length_pos
      have hrest : b.length < fuel := by
        rw [List.length_append] at hfuel
        omega
      rw [List.append_assoc, stringBody?_of_spells hc, ih hrest]
      rfl

/-- There is as much fuel for a string as for all that follows its first quote. -/
theorem stringBody?_of_isBody (h : IsBody s b) (r : Text) :
    stringBody? ((b ++ '"' :: r).length + 1) (b ++ '"' :: r) = some (s, r) := by
  refine stringBody?_of_length_lt h ?_ r
  rw [List.length_append]
  omega

/-- The digits of a number below 256 behind two zeros. -/
theorem hexDigits_of_lt (h : n < 256) :
    HexDigits ['0', '0', hexDigit (n / 16), hexDigit (n % 16)] n where
  length := rfl
  value := by
    have hzero : hexDigit? '0' = some 0 := by decide
    have hhigh := hexDigit?_hexDigit (n / 16) (by omega)
    have hlow := hexDigit?_hexDigit (n % 16) (by omega)
    simp only [hexValue?, List.foldlM_cons, List.foldlM_nil, hzero, hhigh, hlow, Option.map_some,
      Option.bind_eq_bind, Option.bind_some, Option.pure_def, Option.some.injEq]
    omega

/-- Characters that need no escape. -/
def isPlain (c : Char) : Bool := 0x20 ≤ c.toNat && c != '"' && c != '\\'

/-- A character that needs no escape is written as itself. -/
theorem escapeChar_of_isPlain (h : isPlain c = true) : escapeChar c = [c] := by
  simp only [isPlain, Bool.and_eq_true, decide_eq_true_eq, bne_iff_ne] at h
  obtain ⟨⟨hcontrol, hquote⟩, hbackslash⟩ := h
  have hne : ∀ d : Char, d.toNat < 0x20 → c ≠ d := by
    rintro d hd rfl
    omega
  rw [escapeChar, if_neg hquote, if_neg hbackslash, if_neg (hne '\x08' (by decide)),
    if_neg (hne '\t' (by decide)), if_neg (hne '\n' (by decide)), if_neg (hne '\x0c' (by decide)),
    if_neg (hne '\r' (by decide)), if_neg (Nat.not_lt.2 hcontrol)]

/-- The spelling that reports use is one of those that are read. -/
theorem spells_escapeChar (c : Char) : Spells c (escapeChar c) := by
  unfold escapeChar
  split_ifs with hquote hbackslash hb ht hn hf hr hcontrol
  · exact .letter (by simp [letters, hquote])
  · exact .letter (by simp [letters, hbackslash])
  · exact .letter (by simp [letters, hb])
  · exact .letter (by simp [letters, ht])
  · exact .letter (by simp [letters, hn])
  · exact .letter (by simp [letters, hf])
  · exact .letter (by simp [letters, hr])
  · exact .number (hexDigits_of_lt (by omega))
  · exact .itself (Nat.not_lt.1 hcontrol) hquote hbackslash

/-- So is what they put between the quotes of a string. -/
theorem isBody_flatMap (s : Text) : IsBody s (s.flatMap escapeChar) := by
  induction s with
  | nil => exact .nil
  | cons c s ih =>
    rw [List.flatMap_cons]
    exact .cons (spells_escapeChar c) ih

/-- There is no control character among hexadecimal digits. -/
theorem HexDigits.isPrintable (h : HexDigits u n) : IsPrintable u := by
  have hcontrol : ∀ k < 0x20, hexDigit? (Char.ofNat k) = none := by decide
  have hdigits : ∀ (v : Text) (m : Nat),
      v.foldlM (fun n c => (hexDigit? c).map (16 * n + ·)) m = some n → IsPrintable v := by
    intro v
    induction v with
    | nil => exact fun _ _ => nofun
    | cons e v ih =>
      intro m hvalue d hd
      rw [List.foldlM_cons, Option.bind_eq_bind, Option.bind_eq_some_iff] at hvalue
      obtain ⟨k, hk, hrest⟩ := hvalue
      rcases List.mem_cons.1 hd with rfl | hd
      · refine Nat.le_of_not_lt fun hlt => ?_
        have hnone := hcontrol d.toNat hlt
        rw [Char.ofNat_toNat] at hnone
        simp [hnone] at hk
      · exact ih k hrest d hd
  exact hdigits u 0 h.value

/-- There is no control character in a spelling. -/
theorem Spells.isPrintable (h : Spells c w) : IsPrintable w := by
  have hmark : IsPrintable ['\\', 'u'] := by decide
  cases h with
  | itself hcontrol => simpa [IsPrintable] using hcontrol
  | letter h =>
    have hletters : letters.all (IsPrintable ['\\', ·.1]) = true := by decide
    exact of_decide_eq_true (List.all_eq_true.1 hletters _ h)
  | number h => exact hmark.append h.isPrintable
  | pair hu hv => exact hmark.append (hu.isPrintable.append (hmark.append hv.isPrintable))

/-- There is none between the quotes of a string. -/
theorem IsBody.isPrintable (h : IsBody s b) : IsPrintable b := by
  induction h with
  | nil => exact nofun
  | cons hc _ ih => exact hc.isPrintable.append ih

/-- So there is none in a string. -/
theorem isPrintable_quote (s : Text) : IsPrintable (quote s) := by
  have hmark : IsPrintable ['"'] := by decide
  exact (hmark.append (isBody_flatMap s).isPrintable).append hmark

/-- A string of characters that need no escape stands between the quotes as it is. -/
theorem quote_of_isPlain (h : s.all isPlain = true) : quote s = '"' :: s ++ ['"'] := by
  have hplain : ∀ c ∈ s, escapeChar c = [c] := fun c hc =>
    escapeChar_of_isPlain (List.all_eq_true.1 h c hc)
  rw [quote, List.flatMap_congr hplain]
  simp

end Json

end ElixirDiagnostics
