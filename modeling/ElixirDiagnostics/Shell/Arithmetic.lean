import ElixirDiagnostics.Shell.Word
import ElixirDiagnostics.Text.Decimal
import ElixirDiagnostics.Text.Hex

/-!
# Arithmetic of shell scripts

Expressions over signed words of 64 bits, which wrap around. A variable stands for the number that
its text spells, and for zero if it has none. Division goes toward zero.
-/

namespace ElixirDiagnostics

namespace Shell

/-- Variables with their values; the first entry of a name counts. -/
abbrev Variables := List (Text × Text)

/-- The number that a text spells: decimal, or hexadecimal after a zero and an `x`, or octal after a
zero, with a sign in front of it. -/
def integer? (s : Text) : Option Int :=
  let unsigned? (s : Text) : Option Int :=
    match s with
    | '0' :: 'x' :: r | '0' :: 'X' :: r =>
      if r.isEmpty then none else (Text.hexValue? r).map Int.ofNat
    | '0' :: r =>
      if r.all fun c => '0' ≤ c && c ≤ '7' then
        some (Int.ofNat (r.foldl (fun n c => 8 * n + (c.toNat - '0'.toNat)) 0))
      else none
    | _ => if !s.isEmpty && s.all Char.isDigit then some (Text.decimalValue s) else none
  match Text.trim s with
  | '-' :: r => (unsigned? r).map Neg.neg
  | '+' :: r => unsigned? r
  | s => unsigned? s

/-- A number as a signed word of 64 bits. -/
def wrap (n : Int) : Int := n.bmod UInt64.size

/-- An expression. -/
inductive Expression where
  /-- A number. -/
  | number (n : Int)
  /-- The value of a variable. -/
  | name (x : Text)
  /-- An operator before its operand. -/
  | unary (o : Text) (e : Expression)
  /-- An operator between its operands. -/
  | binary (o : Text) (a b : Expression)
  /-- One of two expressions, as a test turns out. -/
  | choice (test yes no : Expression)
  /-- An assignment, which may combine the old value with another one by an operator. -/
  | assign (x : Text) (o : Text) (e : Expression)
  deriving DecidableEq, Repr

/-- Why an expression has no value. -/
inductive ArithmeticError where
  /-- It is none. -/
  | malformed
  /-- It divides by zero. -/
  | divisionByZero
  /-- A variable holds something that is no number. -/
  | noNumber (s : Text)
  deriving DecidableEq, Repr

/-- What is said about it. -/
def ArithmeticError.message (expression : Text) : ArithmeticError → Text
  | malformed =>
    "arithmetic expression: expecting primary: \"".toList ++ expression ++ ['"']
  | divisionByZero =>
    "arithmetic expression: division by zero: \"".toList ++ expression ++ ['"']
  | noNumber s => "Illegal number: ".toList ++ s

/-- The operators between operands, those that bind least first. -/
def binaryOperators : List (List String) :=
  [["||"], ["&&"], ["|"], ["^"], ["&"], ["==", "!="], ["<=", ">=", "<", ">"], ["<<", ">>"],
    ["+", "-"], ["*", "/", "%"]]

/-- The assignment operators. -/
def assignmentOperators : List String :=
  ["=", "+=", "-=", "*=", "/=", "%=", "&=", "|=", "^=", "<<=", ">>="]

/-- The longest operator at the start of a text. -/
def arithmeticOperator? (s : Text) : Option Text :=
  let known := (assignmentOperators ++ binaryOperators.flatten ++
    ["(", ")", "?", ":", "!", "~"]).map String.toList
  [3, 2, 1].findSome? fun n => if known.contains (s.take n) then some (s.take n) else none

/-- Splits an expression into names, numbers and operators. The fuel is more than the length of the
text. -/
def arithmeticTokens? : Nat → Text → Option (List Text)
  | 0, _ => none
  | _, [] => some []
  | fuel + 1, c :: r =>
    let s := c :: r
    if Text.isSpace c then arithmeticTokens? fuel r
    else if isNameChar c then
      (arithmeticTokens? fuel (s.dropWhile isNameChar)).map (s.takeWhile isNameChar :: ·)
    else do
      let o ← arithmeticOperator? s
      (arithmeticTokens? fuel (s.drop o.length)).map (o :: ·)

mutual

/-- Takes an expression. The fuel of this function and the next ones is more than a multiple of the
number of tokens. -/
def expression? : Nat → List Text → Option (Expression × List Text)
  | 0, _ => none
  | fuel + 1, ts =>
    let assigned := match ts with
      | x :: o :: r =>
        if (x.head?).any isNameStart ∧ assignmentOperators.contains (String.ofList o) then
          some (x, o.dropLast, r)
        else none
      | _ => none
    match assigned with
    | some (x, o, r) => (expression? fuel r).map fun (e, ts) => (.assign x o e, ts)
    | none => do
      let (c, ts) ← level? fuel binaryOperators ts
      match ts with
      | ['?'] :: r => do
        let (a, r) ← expression? fuel r
        let [':'] :: r := r | none
        let (b, r) ← expression? fuel r
        return (.choice c a b, r)
      | _ => return (c, ts)

/-- Takes operands and the operators between them that bind at least as strongly as some. -/
def level? : Nat → List (List String) → List Text → Option (Expression × List Text)
  | 0, _, _ => none
  | fuel + 1, [], ts => primary? fuel ts
  | fuel + 1, os :: tighter, ts => do
    let (a, ts) ← level? fuel tighter ts
    levelRest? fuel os tighter a ts

/-- Takes what follows an operand. -/
def levelRest? : Nat → List String → List (List String) → Expression → List Text →
    Option (Expression × List Text)
  | 0, _, _, _, _ => none
  | fuel + 1, os, tighter, a, ts =>
    match ts with
    | o :: r =>
      if os.contains (String.ofList o) then do
        let (b, ts) ← level? fuel tighter r
        levelRest? fuel os tighter (.binary o a b) ts
      else some (a, ts)
    | [] => some (a, [])

/-- Takes an operand. -/
def primary? : Nat → List Text → Option (Expression × List Text)
  | 0, _ => none
  | fuel + 1, ts =>
    match ts with
    | ['('] :: r => do
      let (e, r) ← expression? fuel r
      let [')'] :: r := r | none
      return (e, r)
    | t :: r =>
      if t = ['-'] ∨ t = ['+'] ∨ t = ['!'] ∨ t = ['~'] then
        (primary? fuel r).map fun (e, ts) => (.unary t e, ts)
      else if (t.head?).any isNameStart then some (.name t, r)
      else (integer? t).map fun n => (.number n, r)
    | [] => none

end

/-- Reads an expression; the empty one is zero. -/
def Expression.read? (s : Text) : Option Expression := do
  let ts ← arithmeticTokens? (s.length + 1) s
  if ts.isEmpty then return .number 0
  let (e, []) ← expression? (16 * ts.length + 16) ts | none
  return e

/-- What a truth value is as a number. -/
def ofTruth (b : Bool) : Int := if b then 1 else 0

/-- Applies an operator to two numbers. -/
def applyBinary (o : Text) (a b : Int) : Except ArithmeticError Int :=
  let bits (f : Nat → Nat → Nat) : Int :=
    wrap (f (a % UInt64.size).toNat (b % UInt64.size).toNat)
  match String.ofList o with
  | "+" => .ok (wrap (a + b))
  | "-" => .ok (wrap (a - b))
  | "*" => .ok (wrap (a * b))
  | "/" => if b = 0 then .error .divisionByZero else .ok (wrap (a.tdiv b))
  | "%" => if b = 0 then .error .divisionByZero else .ok (a.tmod b)
  | "<<" => .ok (wrap (a <<< (b % 64).toNat))
  | ">>" => .ok (a >>> (b % 64).toNat)
  | "<" => .ok (ofTruth (a < b))
  | ">" => .ok (ofTruth (b < a))
  | "<=" => .ok (ofTruth (a ≤ b))
  | ">=" => .ok (ofTruth (b ≤ a))
  | "==" => .ok (ofTruth (a = b))
  | "!=" => .ok (ofTruth (a ≠ b))
  | "&" => .ok (bits Nat.land)
  | "|" => .ok (bits Nat.lor)
  | "^" => .ok (bits Nat.xor)
  | _ => .error .malformed

/-- The number that a variable stands for. -/
def Variables.number (vars : Variables) (x : Text) : Except ArithmeticError Int :=
  match vars.lookup x with
  | none | some [] => .ok 0
  | some s => match integer? s with
    | some n => .ok n
    | none => .error (.noNumber s)

/-- Evaluates an expression. -/
def Expression.eval (vars : Variables) : Expression → Except ArithmeticError (Int × Variables)
  | number n => .ok (wrap n, vars)
  | name x => do return (← vars.number x, vars)
  | unary o e => do
    let (n, vars) ← e.eval vars
    match o with
    | ['-'] => return (wrap (-n), vars)
    | ['!'] => return (ofTruth (n = 0), vars)
    | ['~'] => return (-n - 1, vars)
    | _ => return (n, vars)
  | binary o a b => do
    let (m, vars) ← a.eval vars
    if o = ['&', '&'] ∧ m = 0 then return (0, vars)
    if o = ['|', '|'] ∧ m ≠ 0 then return (1, vars)
    let (n, vars) ← b.eval vars
    if o = ['&', '&'] ∨ o = ['|', '|'] then return (ofTruth (n ≠ 0), vars)
    return (← applyBinary o m n, vars)
  | choice c a b => do
    let (n, vars) ← c.eval vars
    if n ≠ 0 then a.eval vars else b.eval vars
  | assign x o e => do
    let (n, vars) ← e.eval vars
    let n ← if o.isEmpty then pure n else applyBinary o (← vars.number x) n
    return (n, (x, Text.ofInt n) :: vars)

/-- The value of an expression and the variables after it. -/
def evaluate (vars : Variables) (s : Text) : Except ArithmeticError (Int × Variables) :=
  match Expression.read? s with
  | some e => e.eval vars
  | none => .error .malformed

end Shell

end ElixirDiagnostics
