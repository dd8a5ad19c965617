import ElixirDiagnostics.Pattern.CharSet

/-!
# Patterns

A pattern describes texts: sequences, alternatives and repetitions of character sets, with tests on
the place between two characters. A pattern matches a text if some part of the text fits it, so the
order of alternatives and the greed of repetitions do not matter, and matching follows the whole set
of places that a pattern can lead to. More rounds of a repetition than the text has characters lead
to no further place, since one of them must stay where it is.
-/

namespace ElixirDiagnostics

namespace Pattern

/-- A test on the place between two characters. -/
inductive Assertion where
  /-- The start of the text. -/
  | textStart
  /-- The end of the text. -/
  | textEnd
  /-- The start of a line; a carriage return ends lines too if `crlf` holds. -/
  | lineStart (crlf : Bool)
  /-- The end of a line. -/
  | lineEnd (crlf : Bool)
  /-- The edge of a word. -/
  | wordEdge (unicode : Bool)
  /-- Anywhere but at the edge of a word. -/
  | noWordEdge (unicode : Bool)
  /-- The start of a word. -/
  | wordStart (unicode : Bool)
  /-- The end of a word. -/
  | wordEnd (unicode : Bool)
  /-- A place that no word reaches from the left. -/
  | wordStartHalf (unicode : Bool)
  /-- A place that no word reaches from the right. -/
  | wordEndHalf (unicode : Bool)
  deriving DecidableEq, Repr

/-- A pattern. -/
inductive Expr where
  /-- The empty text. -/
  | empty
  /-- One character of a set. -/
  | char (s : CharSet)
  /-- A place that passes a test. -/
  | assert (a : Assertion)
  /-- One pattern after the other. -/
  | seq (a b : Expr)
  /-- Either pattern. -/
  | alt (a b : Expr)
  /-- A pattern at least `least` times, and at most `most` times if that is given. -/
  | repeated (a : Expr) (least : Nat) (most : Option Nat)
  deriving Repr

/-- A place in a text, by what stands on either side of it. -/
structure Place where
  /-- The character before the place. -/
  before : Option Char
  /-- The character after the place. -/
  next : Option Char
  deriving DecidableEq, Repr

/-- Whether a character belongs to a word, for one of the two meanings of words. -/
def isWordChar (unicode : Bool) (c : Option Char) : Bool :=
  c.any fun c => if unicode then Unicode.isWord c else c.isAlphanum || c == '_'

/-- Whether a place passes a test. -/
def Assertion.holds (p : Place) : Assertion → Bool
  | textStart => p.before.isNone
  | textEnd => p.next.isNone
  | lineStart crlf =>
    p.before.all fun c => c == '\n' || (crlf && c == '\r' && p.next != some '\n')
  | lineEnd crlf =>
    p.next.all fun c =>
      if crlf then c == '\r' || (c == '\n' && p.before != some '\r') else c == '\n'
  | wordEdge u => isWordChar u p.before != isWordChar u p.next
  | noWordEdge u => isWordChar u p.before == isWordChar u p.next
  | wordStart u => !isWordChar u p.before && isWordChar u p.next
  | wordEnd u => isWordChar u p.before && !isWordChar u p.next
  | wordStartHalf u => !isWordChar u p.before
  | wordEndHalf u => !isWordChar u p.next

/-- The places of a text, the start first. -/
def places (before : Option Char) : Text → List Place
  | [] => [⟨before, none⟩]
  | c :: r => ⟨before, some c⟩ :: places (some c) r

/-- A choice of places: for each place of a text whether it is chosen. -/
abbrev Marks := List Bool

/-- The places at which a test holds, among those that are chosen. -/
def Marks.keep (test : Place → Bool) (ps : List Place) (ms : Marks) : Marks :=
  List.zipWith (fun p m => m && test p) ps ms

/-- The places that are chosen in either way. -/
def Marks.or (ms ns : Marks) : Marks := List.zipWith (· || ·) ms ns

/-- The places behind one character of a set. -/
def Marks.advance (s : CharSet) (ps : List Place) (ms : Marks) : Marks :=
  false :: (ms.keep (fun p => p.next.any s.mem) ps).dropLast

/-- Does something `n` times. -/
def times {α : Type} (n : Nat) (f : α → α) (a : α) : α :=
  match n with
  | 0 => a
  | n + 1 => times n f (f a)

/-- Where up to `n` rounds of a step lead. A round that leads nowhere new is the last one. -/
def reach (step : Marks → Marks) : Nat → Marks → Marks
  | 0, ms => ms
  | n + 1, ms =>
    let more := ms.or (step ms)
    if more = ms then ms else reach step n more

/-- Where a pattern leads from some places of a text. -/
def Expr.ends (ps : List Place) : Expr → Marks → Marks
  | empty, ms => ms
  | char s, ms => ms.advance s ps
  | assert a, ms => ms.keep a.holds ps
  | seq a b, ms => b.ends ps (a.ends ps ms)
  | alt a b, ms => (a.ends ps ms).or (b.ends ps ms)
  | repeated a least most, ms =>
    let base := times (min least ps.length) (a.ends ps) ms
    match most with
    | none => reach (a.ends ps) ps.length base
    | some most => reach (a.ends ps) (min (most - least) ps.length) base

/-- Whether some part of a text fits a pattern. -/
def Expr.matches (e : Expr) (s : Text) : Bool :=
  let ps := places none s
  (e.ends ps (ps.map fun _ => true)).any id

end Pattern

end ElixirDiagnostics
