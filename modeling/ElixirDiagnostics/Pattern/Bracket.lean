import ElixirDiagnostics.Pattern.Escape

/-!
# Bracketed sets

A set in brackets lists characters, ranges, classes and further brackets, and can combine what
stands on either side of `&&`, `--` and `~~`, from left to right. A closing bracket right at the
start means itself, and so do dashes there.
-/

namespace ElixirDiagnostics

namespace Pattern

/-- How two sets are combined. -/
inductive SetOp where
  /-- Characters of both. -/
  | inter
  /-- Characters of the first alone. -/
  | diff
  /-- Characters of exactly one. -/
  | symDiff

/-- What a bracketed set has on its left, if an operator came before. -/
structure Pending where
  /-- The operator. -/
  op : SetOp
  /-- The set on its left. -/
  left : CharSet

/-- Combines the pending left side with the set on its right. -/
def combine (f : Flags) (pending : Option Pending) (right : CharSet) : CharSet :=
  match pending with
  | none => right
  | some ⟨.inter, left⟩ => .inter (f.fold left) (f.fold right)
  | some ⟨.diff, left⟩ => .diff (f.fold left) (f.fold right)
  | some ⟨.symDiff, left⟩ => .symDiff (f.fold left) (f.fold right)

/-- An ASCII class such as `[:alpha:]`, after its opening bracket. -/
def readAsciiClass (f : Flags) (s : Text) : Option (CharSet × Text) :=
  match s with
  | ':' :: r =>
    let (negated, r) := match r with
      | '^' :: r => (true, r)
      | r => (false, r)
    match Text.after? ":]".toList (r.dropWhile (· != ':')), asciiClass? (r.takeWhile (· != ':')) with
    | some rest, some s => some (if negated then .compl (f.fold s) else f.fold s, rest)
    | _, _ => none
  | _ => none

/-- One character or class in brackets. -/
def readItem (f : Flags) : Text → Except Error (Atom × Text)
  | [] => .error .charSet
  | '\\' :: r => readEscape f r
  | c :: r => .ok (.literal c, r)

/-- The set of an item, which must not be a test. Outside Unicode it must be ASCII. -/
def itemSet (f : Flags) : Atom → Except Error CharSet
  | .literal c => if f.unicode || c.toNat < 128 then .ok (.single c) else .error .bytes
  | .set s => .ok s
  | .assert _ => .error .charSet

/-- One character, range or class in brackets. -/
def readRange (f : Flags) (s : Text) : Except Error (CharSet × Text) := do
  let (first, r) ← readItem f s
  let r := f.skip r
  match r with
  | [] => .error .charSet
  | '-' :: q =>
    match f.skip q with
    | [] => .error .charSet
    | ']' :: _ | '-' :: _ => return (← itemSet f first, r)
    | q =>
      let (last, r) ← readItem f q
      match first, last with
      | .literal a, .literal b =>
        if a ≤ b then
          if f.unicode || b.toNat < 128 then return (.range a b, r) else .error .bytes
        else .error .charSet
      | _, _ => .error .charSet
  | _ => return (← itemSet f first, r)

/-- The dashes and the closing bracket that mean themselves at the start of a set. -/
def readOpening (f : Flags) : Nat → CharSet → Text → CharSet × Text
  | 0, s, r => (s, r)
  | n + 1, s, r =>
    match f.skip r with
    | '-' :: r => readOpening f n (.single '-') r
    | ']' :: q => match s with
      | .none => (.single ']', q)
      | s => (s, ']' :: q)
    | r => (s, r)

/-- What a finished bracket stands for. A negated set reaches beyond ASCII. -/
def closeBracket (f : Flags) (negated : Bool) (s : CharSet) : Except Error CharSet :=
  if negated then (if f.unicode then .ok (.compl (f.fold s)) else .error .bytes)
  else .ok (f.fold s)

/-- Reads a bracketed set after its opening bracket, with the depth of its brackets. -/
def readBracket (f : Flags) : Nat → Text → Except Error (CharSet × Nat × Text)
  | 0, _ => .error .charSet
  | fuel + 1, s =>
    let (negated, r) := match f.skip s with
      | '^' :: r => (true, r)
      | r => (false, r)
    let (start, r) := readOpening f r.length .none r
    readItems f fuel negated none start 1 r
where
  /-- Reads the items of a set up to its closing bracket. -/
  readItems (f : Flags) : Nat → Bool → Option Pending → CharSet → Nat → Text →
      Except Error (CharSet × Nat × Text)
  | 0, _, _, _, _, _ => .error .charSet
  | fuel + 1, negated, pending, union, depth, s => do
    let operator (op : SetOp) (r : Text) :=
      readItems f fuel negated (some ⟨op, combine f pending union⟩) .none (depth + 1) r
    match f.skip s with
    | [] => .error .charSet
    | ']' :: r => return (← closeBracket f negated (combine f pending union), depth, r)
    | '[' :: r =>
      match readAsciiClass f r with
      | some (s, r) => readItems f fuel negated pending (.union union s) depth r
      | none =>
        let (inner, d, r) ← readBracket f fuel r
        readItems f fuel negated pending (.union union inner) (max depth (d + 1)) r
    | '&' :: '&' :: r => operator .inter r
    | '-' :: '-' :: r => operator .diff r
    | '~' :: '~' :: r => operator .symDiff r
    | r =>
      let (s, r) ← readRange f r
      readItems f fuel negated pending (.union union s) depth r

end Pattern

end ElixirDiagnostics
