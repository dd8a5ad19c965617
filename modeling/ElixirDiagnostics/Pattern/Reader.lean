import ElixirDiagnostics.Pattern.Bracket
import ElixirDiagnostics.Trace.Frame

/-!
# Reading patterns

A pattern is read from left to right, part by part. Flags that stand alone hold to the end of the
group that they stand in, also in later alternatives. Every group name is used once. A pattern that
is nested too deeply or would take up too much room is refused.
-/

namespace ElixirDiagnostics

namespace Pattern

/-- One part of a sequence. -/
inductive Part where
  /-- Something that can be repeated, with the depth of its nesting. -/
  | expr (e : Expr) (depth : Nat)
  /-- Flags, which cannot. -/
  | flags

/-- A sequence of parts, the last one first, as one expression with its depth. -/
def sequence (parts : List Part) : Expr × Nat :=
  let es := parts.filterMap fun
    | .expr e d => some (e, d)
    | .flags => none
  let depth := (es.map (·.2)).foldr max 0
  match es with
  | [] => (.empty, 0)
  | [(e, d)] => (e, if parts.length = 1 then d else d + 1)
  | (e, _) :: rest => (rest.foldl (fun acc (b, _) => .seq b acc) e, depth + 1)

/-- Alternatives, the last one first, as one expression with its depth. -/
def alternatives (last : Expr × Nat) : List (Expr × Nat) → Expr × Nat
  | [] => last
  | rest =>
    (rest.foldl (fun acc (b, _) => .alt b acc) last.1,
      ((last :: rest).map (·.2)).foldr max 0 + 1)

/-- The largest depth of nesting. -/
def depthLimit : Nat := 250

/-- The largest number of bytes that a pattern may take up once it is prepared for matching. -/
def sizeLimit : Nat := 10 * 1024 * 1024

/-- About how many bytes an expression takes up once it is prepared for matching. -/
def Expr.size : Expr → Nat
  | empty => 0
  | char s => if s.weight ≤ 2 then 32 else 64 * s.weight
  | assert _ => 32
  | seq a b => a.size + b.size
  | alt a b => a.size + b.size + 32
  | repeated a least most => (a.size + 32) * max 1 (most.getD least)

/-- A number of up to 32 bits with white space around it. -/
def count? (f : Flags) (s : Text) : Except Error (Option Nat × Text) :=
  let s := Text.trimStart s
  let shown := s.takeWhile fun c => c.isDigit || (f.extended && Text.isSpace c)
  let digits := shown.filter Char.isDigit
  let rest := Text.trimStart (s.drop shown.length)
  if digits.isEmpty then .ok (none, rest)
  else if Text.decimalValue digits < UInt32.size then .ok (some (Text.decimalValue digits), rest)
  else .error .repetition

/-- The counts of a repetition, after its opening brace. -/
def readCounts (f : Flags) (s : Text) : Except Error (Nat × Option Nat × Text) := do
  let (least, r) ← count? f (f.skip s)
  let some least := least | .error .repetition
  let (most, r) ← match r with
    | ',' :: r =>
      match f.skip r with
      | '\x7d' :: r => pure (none, '\x7d' :: r)
      | r => do
        let (most, r) ← count? f r
        let some most := most | .error .repetition
        pure (some most, r)
    | r => pure (some least, r)
  match r with
  | '\x7d' :: r =>
    if most.all (least ≤ ·) then return (least, most, f.skip r) else .error .repetition
  | _ => .error .repetition

/-- Drops the question mark that makes a repetition lazy. -/
def skipLazy (s : Text) : Text :=
  match s with
  | '?' :: r => r
  | r => r

/-- How a group begins. -/
inductive Opening where
  /-- Flags for the rest of the enclosing group. -/
  | flags (f : Flags)
  /-- A group that is read under the given flags, with its name if it has one. -/
  | group (f : Flags) (name : Option Text)

/-- Whether a character can stand in the name of a group. -/
def isNameChar (first : Bool) (c : Char) : Bool :=
  c == '_' || Unicode.isLetter c ||
    (!first && (c == '.' || c == '[' || c == ']' || Text.isDecimal c ||
      Unicode.Category.mem .letterNumber c || Unicode.Category.mem .otherNumber c))

/-- Reads the name of a group up to the closing angle. -/
def readName (names : List Text) (s : Text) : Except Error (Text × Text) :=
  let name := s.takeWhile (· != '>')
  match s.dropWhile (· != '>') with
  | _ :: r =>
    if (name.head?.any (isNameChar true)) && (name.drop 1).all (isNameChar false) && name ∉ names
    then .ok (name, r) else .error .groupName
  | [] => .error .groupName

/-- Reads the beginning of a group, after its opening parenthesis. -/
def readOpen (f : Flags) (names : List Text) (s : Text) : Except Error (Opening × Text) :=
  match f.skip s with
  | '?' :: '=' :: _ | '?' :: '!' :: _ | '?' :: '<' :: '=' :: _ | '?' :: '<' :: '!' :: _ =>
    .error .lookAround
  | '?' :: 'P' :: '<' :: r | '?' :: '<' :: r => do
    let (name, r) ← readName names r
    return (.group f (some name), r)
  | '?' :: r => do
    let (g, seen, stop, r) ← f.read [] r
    if stop = ':' then return (.group g none, r)
    else if seen.isEmpty then .error .nothingToRepeat else return (.flags g, r)
  | r => .ok (.group f none, r)

/-- What an atom matches. -/
def Atom.expr (f : Flags) : Atom → Expr
  | literal c => .char (f.fold (.single c))
  | set s => .char s
  | assert a => .assert a

/-- Repeats the last of some parts. -/
def repeatLast (parts : List Part) (least : Nat) (most : Option Nat) : Except Error (List Part) :=
  match parts with
  | .expr e d :: rest => .ok (.expr (.repeated e least most) (d + 1) :: rest)
  | _ => .error .nothingToRepeat

/-- Reads the parts of a group up to its end, or to the end of the text. The fuel is more than the
characters that are left. -/
def readGroup : Nat → Bool → Flags → List Text → List Part → List (Expr × Nat) → Text →
    Except Error ((Expr × Nat) × List Text × Text)
  | 0, _, _, _, _, _, _ => .error .unclosedGroup
  | fuel + 1, inside, f, names, parts, earlier, s => do
    let more (parts : List Part) (r : Text) := readGroup fuel inside f names parts earlier r
    match f.skip s with
    | [] =>
      if inside then .error .unclosedGroup
      else return (alternatives (sequence parts) earlier, names, [])
    | ')' :: r =>
      if inside then return (alternatives (sequence parts) earlier, names, r)
      else .error .unopenedGroup
    | '|' :: r => readGroup fuel inside f names [] (sequence parts :: earlier) r
    | '(' :: r =>
      match ← readOpen f names r with
      | (.flags g, r) => readGroup fuel inside g names (.flags :: parts) earlier r
      | (.group g name, r) =>
        let ((e, d), names, r) ← readGroup fuel true g (name.toList ++ names) [] [] r
        readGroup fuel inside f names (.expr e (d + 1) :: parts) earlier r
    | '[' :: r =>
      let (s, d, r) ← readBracket f (2 * r.length + 2) r
      more (.expr (.char s) d :: parts) r
    | '*' :: r => do more (← repeatLast parts 0 none) (skipLazy r)
    | '+' :: r => do more (← repeatLast parts 1 none) (skipLazy r)
    | '?' :: r => do more (← repeatLast parts 0 (some 1)) (skipLazy r)
    | '\x7b' :: r =>
      let (least, most, r) ← readCounts f r
      more (← repeatLast parts least most) (skipLazy r)
    | '\\' :: r =>
      let (a, r) ← readEscape f r
      more (.expr (a.expr f) 0 :: parts) r
    | '.' :: r =>
      if f.unicode then more (.expr (.char f.dot) 0 :: parts) r else .error .bytes
    | '^' :: r => more (.expr (.assert f.startAssertion) 0 :: parts) r
    | '$' :: r => more (.expr (.assert f.endAssertion) 0 :: parts) r
    | c :: r => more (.expr (.char (f.fold (.single c))) 0 :: parts) r

/-- The pattern that a text describes. -/
def read (s : Text) : Except Error Expr := do
  let ((e, depth), _, _) ← readGroup (s.length + 1) false {} [] [] [] s
  if depthLimit < depth then .error .tooDeep
  else if sizeLimit < e.size then .error .tooLarge
  else return e

/-- Reads a pattern into the test whether some part of a text fits it. -/
def reader : Trace.PatternReader := fun s => ((read s).map Expr.matches).mapError Error.message

end Pattern

end ElixirDiagnostics
