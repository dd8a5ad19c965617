import ElixirDiagnostics.Text.Basic

/-!
# Terminal colour sequences

A colour sequence is the escape character, an opening bracket, any digits and semicolons, and one
ASCII letter. Stripping removes every sequence in one pass from left to right, so what is left of
two sequences around an escape is not looked at again. Painting puts a sequence before a text and
the reset after it.
-/

namespace ElixirDiagnostics

namespace Text

/-- The escape character. -/
def escape : Char := '\x1b'

/-- The characters between the bracket and the final letter of a colour sequence. -/
def isColourParameter (c : Char) : Bool := c.isDigit || c == ';'

/-- What follows the colour sequence at the start of a text, if it starts with one. -/
def afterColour? : Text → Option Text
  | e :: '[' :: s =>
    if e = escape then
      match s.dropWhile isColourParameter with
      | c :: r => if c.isAlpha then some r else none
      | [] => none
    else none
  | _ => none

/-- A colour sequence is not empty, so what follows it is shorter. -/
theorem length_lt_of_afterColour? {s r : Text} (h : afterColour? s = some r) :
    r.length < s.length := by
  unfold afterColour? at h
  split at h
  · rename_i e s
    split at h
    · split at h
      · rename_i c r' hd
        split at h
        · have hle := (List.dropWhile_suffix isColourParameter (l := s)).length_le
          simp only [Option.some.injEq] at h
          rw [hd] at hle
          subst h
          simp only [List.length_cons] at hle ⊢
          omega
        · contradiction
      · contradiction
    · contradiction
  · contradiction

/-- Removes every colour sequence. -/
def stripColour : Text → Text
  | [] => []
  | c :: s =>
    match _h : afterColour? (c :: s) with
    | some r => stripColour r
    | none => c :: stripColour s
termination_by s => s.length
decreasing_by
  · exact length_lt_of_afterColour? _h
  · simp

/-- There is nothing to remove from the empty text. -/
@[simp]
theorem stripColour_nil : stripColour [] = [] := by rw [stripColour]

/-- A colour sequence at the start is removed. -/
theorem stripColour_of_colour {s r : Text} (h : afterColour? s = some r) :
    stripColour s = stripColour r := by
  cases s with
  | nil => contradiction
  | cons c s =>
    rw [stripColour]
    split <;> simp_all

/-- A character that begins no colour sequence is kept. -/
theorem stripColour_of_plain {c : Char} {s : Text} (h : afterColour? (c :: s) = none) :
    stripColour (c :: s) = c :: stripColour s := by
  rw [stripColour]
  split <;> simp_all

/-- Only the escape character begins a colour sequence. -/
theorem afterColour?_of_ne {c : Char} (hc : c ≠ escape) (s : Text) :
    afterColour? (c :: s) = none := by
  unfold afterColour?
  split
  · next e r heq =>
    obtain ⟨rfl, -⟩ : c = e ∧ s = '[' :: r := by simpa using heq
    rw [if_neg hc]
  · rfl

/-- A text without the escape character has no colours. -/
theorem stripColour_of_not_mem {s : Text} (h : escape ∉ s) : stripColour s = s := by
  induction s with
  | nil => rw [stripColour]
  | cons c s ih =>
    have hc : c ≠ escape := fun he => h (he ▸ List.mem_cons_self)
    rw [stripColour_of_plain (afterColour?_of_ne hc s), ih fun hs => h (List.mem_cons_of_mem c hs)]

/-- A way to show text on a terminal, by the parameters of its colour sequence. -/
inductive Style where
  /-- Underlined. -/
  | underline
  /-- Bold and red. -/
  | boldRed
  /-- Bold and yellow. -/
  | boldYellow

/-- The parameters of a style's colour sequence. -/
def Style.parameters : Style → Text
  | underline => "4".toList
  | boldRed => "1;31".toList
  | boldYellow => "1;33".toList

/-- The colour sequence with the given parameters. -/
def colourSequence (parameters : Text) : Text :=
  escape :: '[' :: parameters ++ ['m']

/-- Shows a text in a style: the style's sequence before it, the reset after it. -/
def paint (style : Style) (s : Text) : Text :=
  colourSequence style.parameters ++ s ++ colourSequence ['0']

end Text

end ElixirDiagnostics
