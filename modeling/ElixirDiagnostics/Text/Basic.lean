/-!
# Text

Text is a sequence of characters. This module holds the operations that every reader of compiler
output shares: blank space, known beginnings, longest runs of a character class, and the splitting
into lines. A line ends at a newline; one carriage return right before that newline belongs to the
line end, and any other stays in the line. A final newline opens no further line.
-/

namespace ElixirDiagnostics

/-- Text as the sequence of its characters. -/
abbrev Text := List Char

namespace Text

/-- The characters with the Unicode property White_Space. -/
def isSpace (c : Char) : Bool :=
  (0x09 ≤ c.val && c.val ≤ 0x0d) || c.val == 0x20 || c.val == 0x85 || c.val == 0xa0 ||
  c.val == 0x1680 || (0x2000 ≤ c.val && c.val ≤ 0x200a) || c.val == 0x2028 || c.val == 0x2029 ||
  c.val == 0x202f || c.val == 0x205f || c.val == 0x3000

/-- A text of blank space only; the empty one is blank. -/
def isBlank (s : Text) : Bool := s.all isSpace

/-- A text whose first character is blank space. -/
def isIndented (s : Text) : Bool := s.head?.any isSpace

/-- Drops the blank space at the start. -/
def trimStart (s : Text) : Text := s.dropWhile isSpace

/-- Drops the blank space at the end. -/
def trimEnd (s : Text) : Text := (s.reverse.dropWhile isSpace).reverse

/-- Drops the blank space at both ends. -/
def trim (s : Text) : Text := trimEnd (trimStart s)

/-- What follows a known beginning, if the text begins with it. -/
def after? : Text → Text → Option Text
  | [], s => some s
  | _ :: _, [] => none
  | p :: ps, c :: cs => if p = c then after? ps cs else none

/-- A text begins with `p` and goes on with `r` exactly when `r` is what follows `p`. -/
theorem after?_eq_some_iff {p s r : Text} : after? p s = some r ↔ s = p ++ r := by
  induction p generalizing s with
  | nil => simp [after?]
  | cons c p ih =>
    cases s with
    | nil => simp [after?]
    | cons d s => by_cases h : c = d <;> simp [after?, h, ih, eq_comm]

/-- The longest beginning of characters of one class, and what follows it; it has to hold at
least one character. -/
def run? (p : Char → Bool) (s : Text) : Option (Text × Text) :=
  if (s.takeWhile p).isEmpty then none else some (s.takeWhile p, s.dropWhile p)

/-- A run and what follows it make up the text again. -/
theorem eq_append_of_run? {p : Char → Bool} {s w r : Text} (h : run? p s = some (w, r)) :
    s = w ++ r := by
  unfold run? at h
  split at h
  · contradiction
  · simp only [Option.some.injEq, Prod.mk.injEq] at h
    rw [← h.1, ← h.2, List.takeWhile_append_dropWhile]

/-- The lines of a text, without their line ends. -/
def lines : Text → List Text
  | [] => []
  | '\n' :: r => [] :: lines r
  | '\r' :: '\n' :: r => [] :: lines r
  | c :: r =>
    match lines r with
    | [] => [[c]]
    | l :: ls => (c :: l) :: ls

end Text

end ElixirDiagnostics
