import ElixirDiagnostics.Text.Basic

/-!
# Patterns of shell scripts

A pattern is a text some of whose characters have a meaning: a star stands for any text, a question
mark for any character, and brackets for one character of a set. A pattern fits a text as a whole.
-/

namespace ElixirDiagnostics

namespace Shell

/-- A part of a pattern. -/
inductive GlobPart where
  /-- Any text. -/
  | many
  /-- Any character. -/
  | one
  /-- The character itself. -/
  | exact (c : Char)
  /-- A character within, or else outside, some ranges. -/
  | set (inside : Bool) (ranges : List (Char × Char))
  deriving DecidableEq, Repr

/-- The ranges that stand in brackets. -/
def globRanges : Text → List (Char × Char)
  | a :: '-' :: b :: r => (a, b) :: globRanges r
  | a :: r => (a, a) :: globRanges r
  | [] => []

/-- The characters up to a closing bracket that is not the first one. -/
def bracketBody? : Text → Option Text
  | [] => none
  | c :: r => if r.contains ']' then some (c :: r.takeWhile (· != ']')) else none

/-- A set in brackets. -/
def globSet : Text → GlobPart
  | '!' :: r => .set false (globRanges r)
  | r => .set true (globRanges r)

/-- Reads a pattern, whose characters are marked as having a meaning or not. The fuel is at least
the length of the pattern. -/
def globParts : Nat → List (Char × Bool) → List GlobPart
  | 0, _ | _, [] => []
  | fuel + 1, (c, active) :: r =>
    if !active then .exact c :: globParts fuel r
    else if c = '*' then .many :: globParts fuel r
    else if c = '?' then .one :: globParts fuel r
    else if c = '[' then
      match bracketBody? (r.map (·.1)) with
      | some body => globSet body :: globParts fuel (r.drop (body.length + 1))
      | none => .exact c :: globParts fuel r
    else .exact c :: globParts fuel r

/-- What is left of a text after taking off each of its beginnings, the text itself first. -/
def suffixes : Text → List Text
  | [] => [[]]
  | c :: r => (c :: r) :: suffixes r

/-- Whether a pattern fits a text. -/
def GlobPart.fits : List GlobPart → Text → Bool
  | [], s => s.isEmpty
  | many :: ps, s => (suffixes s).any (fits ps)
  | one :: ps, s => match s with
    | _ :: r => fits ps r
    | [] => false
  | exact c :: ps, s => match s with
    | d :: r => c == d && fits ps r
    | [] => false
  | set inside ranges :: ps, s => match s with
    | d :: r => (ranges.any fun (a, b) => a ≤ d && d ≤ b) == inside && fits ps r
    | [] => false

/-- Whether a pattern with marked characters fits a text. -/
def globFits (pattern : List (Char × Bool)) (s : Text) : Bool :=
  GlobPart.fits (globParts pattern.length pattern) s

/-- Takes off the shortest, or the longest, beginning of a text that a pattern fits. -/
def dropBeginning (longest : Bool) (pattern : List (Char × Bool)) (s : Text) : Text :=
  let rests := (suffixes s).filter fun r => globFits pattern (s.take (s.length - r.length))
  ((if longest then rests.getLast? else rests.head?)).getD s

/-- Takes off the shortest, or the longest, end of a text that a pattern fits. -/
def dropEnding (longest : Bool) (pattern : List (Char × Bool)) (s : Text) : Text :=
  let ends := (suffixes s).filter (globFits pattern)
  match if longest then ends.head? else ends.getLast? with
  | some e => s.take (s.length - e.length)
  | none => s

end Shell

end ElixirDiagnostics
