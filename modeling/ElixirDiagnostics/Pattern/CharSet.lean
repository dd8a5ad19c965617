import ElixirDiagnostics.Unicode.Fold
import ElixirDiagnostics.Unicode.Property
import ElixirDiagnostics.Unicode.Script
import ElixirDiagnostics.Text.Decimal

/-!
# Sets of characters

What one step of a pattern can match: ranges, classes of the Unicode standard, and what the set
operations and case folding make of them.
-/

namespace ElixirDiagnostics

namespace Pattern

/-- A set of characters. -/
inductive CharSet where
  /-- No character. -/
  | none
  /-- The characters from `first` to `last`. -/
  | range (first last : Char)
  /-- The characters of one of some general categories. -/
  | categories (ks : List Unicode.Category)
  /-- The characters of a script. -/
  | script (s : Unicode.Script)
  /-- White space. -/
  | space
  /-- Decimal digits. -/
  | decimal
  /-- The characters of words. -/
  | word
  /-- The characters with a property. -/
  | property (p : Unicode.Property)
  /-- The characters of either set. -/
  | union (a b : CharSet)
  /-- The characters of both sets. -/
  | inter (a b : CharSet)
  /-- The characters outside a set. -/
  | compl (a : CharSet)
  /-- The characters that equal one of the set up to case. -/
  | folded (a : CharSet)
  /-- The characters that equal one of the set up to the case of ASCII letters. -/
  | asciiFolded (a : CharSet)
  deriving Repr

namespace CharSet

/-- An ASCII letter in the other case. -/
def swapAscii (c : Char) : Char := if c.isUpper then c.toLower else c.toUpper

/-- Whether a set holds a character. -/
def mem (s : CharSet) (c : Char) : Bool :=
  match s with
  | none => false
  | range first last => first ≤ c && c ≤ last
  | categories ks => ks.any (·.mem c)
  | script s => s.ranges.any fun (first, last) => first ≤ c.toNat && c.toNat ≤ last
  | space => Text.isSpace c
  | decimal => Text.isDecimal c
  | word => Unicode.isWord c
  | property p => p.mem c
  | union a b => a.mem c || b.mem c
  | inter a b => a.mem c && b.mem c
  | compl a => !a.mem c
  | folded a => (Unicode.caseVariants c).any a.mem
  | asciiFolded a => a.mem c || a.mem (swapAscii c)

/-- One character alone. -/
def single (c : Char) : CharSet := range c c

/-- The characters of a list. -/
def ofList (cs : List Char) : CharSet := cs.foldr (fun c s => union (single c) s) none

/-- The characters of one of some ranges. -/
def ofRanges (rs : List (Char × Char)) : CharSet :=
  rs.foldr (fun (a, b) s => union (range a b) s) none

/-- Every ASCII character. -/
def ascii : CharSet := range '\x00' '\x7f'

/-- The characters of the first set that the second one lacks. -/
def diff (a b : CharSet) : CharSet := inter a (compl b)

/-- The characters of exactly one of two sets. -/
def symDiff (a b : CharSet) : CharSet := union (diff a b) (diff b a)

/-- About how many ranges it takes to write a set down. -/
def weight : CharSet → Nat
  | none => 0
  | range _ _ => 1
  | categories ks => (ks.map fun k => k.ranges.length).sum
  | script s => s.ranges.length
  | property p => (p.categories.map fun k => k.ranges.length).sum + p.ranges.length
  | space => 10
  | decimal => 65
  | word => 770
  | union a b | inter a b => a.weight + b.weight
  | compl a => a.weight + 1
  | folded a | asciiFolded a => 2 * a.weight

end CharSet

end Pattern

end ElixirDiagnostics
