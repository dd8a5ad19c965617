import ElixirDiagnostics.Pattern.Flags
import ElixirDiagnostics.Pattern.Property
import ElixirDiagnostics.Text.Hex

/-!
# Escapes in patterns

After a backslash stands a character that means itself, a class, a test on the place, or the number
of a character. Letters and digits without a meaning are refused, as are references to groups.
-/

namespace ElixirDiagnostics

namespace Pattern

/-- What one character or escape of a pattern stands for. -/
inductive Atom where
  /-- A character. -/
  | literal (c : Char)
  /-- A class of characters. -/
  | set (s : CharSet)
  /-- A test on the place. -/
  | assert (a : Assertion)
  deriving Repr

/-- Takes characters up to `n`, without what means nothing between them. -/
def takeSpaced (f : Flags) : Nat → Text → Text × Text
  | 0, s => ([], s)
  | _ + 1, [] => ([], [])
  | n + 1, c :: r =>
    let (cs, rest) := takeSpaced f n (f.skip r)
    (c :: cs, rest)

/-- The character with the code point in braces or in the given number of digits. Outside Unicode
two digits stand for a byte, which must be ASCII. -/
def numbered (f : Flags) (digits : Nat) (s : Text) : Except Error (Atom × Text) :=
  let character (ds : Text) (rest : Text) : Except Error (Atom × Text) :=
    match Text.charOfHex? ds with
    | some c => .ok (.literal c, rest)
    | none => .error .escape
  let isByte (c : Char) : Bool := digits == 2 && !f.unicode && 128 ≤ c.toNat
  match f.skip s with
  | '\x7b' :: r =>
    let ds := (r.takeWhile (· != '\x7d')).filter fun c => !(f.extended && Text.isSpace c)
    match r.dropWhile (· != '\x7d') with
    | _ :: rest => if ds.isEmpty then .error .escape else character ds (f.skip rest)
    | [] => .error .escape
  | r =>
    let (ds, rest) := takeSpaced f digits r
    if ds.length ≠ digits then .error .escape
    else if (Text.charOfHex? ds).any isByte then .error .bytes
    else character ds rest

/-- The class of a property, by one letter or a name in braces. -/
def propertySet (f : Flags) (negated : Bool) (s : Text) : Except Error (Atom × Text) := do
  let (name, rest) ← match f.skip s with
    | '\x7b' :: r =>
      match r.dropWhile (· != '\x7d') with
      | _ :: rest => pure (r.takeWhile (· != '\x7d'), rest)
      | [] => .error .escape
    | c :: r => if c = '\\' then .error .escape else pure ([c], f.skip r)
    | [] => .error .escape
  if !f.unicode then .error .bytes
  else match property? name with
    | some s => return (.set (if negated then .compl (f.fold s) else f.fold s), rest)
    | none => .error .property

/-- A class of one letter, in its Unicode or its ASCII meaning. Outside Unicode a class must not
reach beyond ASCII. -/
def classSet (f : Flags) (unicode ascii : CharSet) (negated : Bool) : Except Error Atom :=
  if f.unicode then .ok (.set (if negated then .compl unicode else unicode))
  else if negated then .error .bytes else .ok (.set ascii)

/-- The edge of a word, or one of its sides by a name in braces. Braces that do not begin with a
letter or a dash are left for a repetition. -/
def wordEdge (f : Flags) (s : Text) : Except Error (Atom × Text) :=
  let isNameChar (c : Char) : Bool := c.isAlpha || c == '-'
  match s with
  | '\x7b' :: r =>
    match f.skip r with
    | [] => .error .escape
    | c :: r =>
      if isNameChar c then
        let kept := (c :: r).takeWhile fun c => isNameChar c || (f.extended && Text.isSpace c)
        let name := kept.filter isNameChar
        match (c :: r).drop kept.length with
        | '\x7d' :: rest =>
          match String.ofList name with
          | "start" => .ok (.assert (.wordStart f.unicode), rest)
          | "end" => .ok (.assert (.wordEnd f.unicode), rest)
          | "start-half" => .ok (.assert (.wordStartHalf f.unicode), rest)
          | "end-half" => .ok (.assert (.wordEndHalf f.unicode), rest)
          | _ => .error .escape
        | _ => .error .escape
      else .ok (.assert (.wordEdge f.unicode), s)
  | _ => .ok (.assert (.wordEdge f.unicode), s)

/-- Reads what follows a backslash. -/
def readEscape (f : Flags) : Text → Except Error (Atom × Text)
  | [] => .error .escape
  | c :: r =>
    match c with
    | 'x' => numbered f 2 r
    | 'u' => numbered f 4 r
    | 'U' => numbered f 8 r
    | 'p' => propertySet f false r
    | 'P' => propertySet f true r
    | 'd' => return (← classSet f .decimal (.range '0' '9') false, r)
    | 'D' => return (← classSet f .decimal (.range '0' '9') true, r)
    | 's' => return (← classSet f .space (.ofList [' ', '\t', '\n', '\x0b', '\x0c', '\r']) false, r)
    | 'S' => return (← classSet f .space .none true, r)
    | 'w' => return (← classSet f .word
        (.ofRanges [('0', '9'), ('A', 'Z'), ('_', '_'), ('a', 'z')]) false, r)
    | 'W' => return (← classSet f .word .none true, r)
    | 'a' => .ok (.literal '\x07', r)
    | 'f' => .ok (.literal '\x0c', r)
    | 't' => .ok (.literal '\t', r)
    | 'n' => .ok (.literal '\n', r)
    | 'r' => .ok (.literal '\r', r)
    | 'v' => .ok (.literal '\x0b', r)
    | 'A' => .ok (.assert .textStart, r)
    | 'z' => .ok (.assert .textEnd, r)
    | 'b' => wordEdge f r
    | 'B' => .ok (.assert (.noWordEdge f.unicode), r)
    | '<' => .ok (.assert (.wordStart f.unicode), r)
    | '>' => .ok (.assert (.wordEnd f.unicode), r)
    | c => if c.toNat < 128 ∧ !c.isAlphanum then .ok (.literal c, r) else .error .escape

end Pattern

end ElixirDiagnostics
