import ElixirDiagnostics.Shell.State

/-!
# Tests

The tests that conditions of scripts are made of: of texts, of numbers and of files, with their
negations and combinations. What a test means depends first on how many arguments it has.
-/

namespace ElixirDiagnostics

namespace Shell

/-- Why a test has no answer. -/
inductive TestError where
  /-- Something is no number. -/
  | noNumber (s : Text)
  /-- Something is no operator. -/
  | noOperator (s : Text)
  deriving DecidableEq, Repr

/-- What is said about it. -/
def TestError.message : TestError → Text
  | noNumber s => "Illegal number: ".toList ++ s
  | noOperator s => s ++ ": unexpected operator".toList

/-- A test of one text or of one file. -/
def unaryTest? (st : State) (o x : Text) : Option Bool :=
  let path := st.pathOf x
  match String.ofList o with
  | "-n" => some (!x.isEmpty)
  | "-z" => some x.isEmpty
  | "-e" | "-r" | "-w" => some (st.tree.get? path).isSome
  | "-f" => some (st.tree.isFile path)
  | "-d" => some (st.tree.isDir path)
  | "-s" => some (((st.tree.bytes? path).map fun bs => !bs.isEmpty).getD (st.tree.isDir path))
  | "-x" => some (st.tree.isRunnable path || st.tree.isDir path)
  | "-t" | "-L" | "-h" => some false
  | _ => none

/-- The tests of two numbers. -/
def numberTest? (o : Text) : Option (Int → Int → Bool) :=
  match String.ofList o with
  | "-eq" => some (· == ·)
  | "-ne" => some (· != ·)
  | "-lt" => some (fun a b => a < b)
  | "-le" => some (fun a b => a ≤ b)
  | "-gt" => some (fun a b => b < a)
  | "-ge" => some (fun a b => b ≤ a)
  | _ => none

/-- The number that a text spells, or a complaint. -/
def testNumber (s : Text) : Except TestError Int :=
  match integer? s with
  | some n => .ok n
  | none => .error (.noNumber s)

/-- A test of two texts or of two numbers. -/
def binaryTest? (a o b : Text) : Option (Except TestError Bool) :=
  if o = ['='] ∨ o = "==".toList then some (.ok (a == b))
  else if o = "!=".toList then some (.ok (a != b))
  else (numberTest? o).map fun f => do return f (← testNumber a) (← testNumber b)

/-- Splits arguments at the first one of a kind. -/
def splitAt? (o : Text) (args : List Text) : Option (List Text × List Text) :=
  let before := args.takeWhile (· != o)
  if before.length < args.length then some (before, args.drop (before.length + 1)) else none

/-- The answer of a test. The fuel is more than the number of arguments. -/
def test (st : State) : Nat → List Text → Except TestError Bool
  | 0, _ => .ok false
  | _, [] => .ok false
  | _, [x] => .ok (!x.isEmpty)
  | fuel + 1, x :: args =>
    let simple : Option (Except TestError Bool) :=
      match args with
      | [y] => (unaryTest? st x y).map .ok
      | [o, y] => binaryTest? x o y
      | _ => none
    match simple with
    | some r => r
    | none =>
      match splitAt? "-o".toList (x :: args), splitAt? "-a".toList (x :: args) with
      | some (as, bs), _ => do return (← test st fuel as) || (← test st fuel bs)
      | none, some (as, bs) => do return (← test st fuel as) && (← test st fuel bs)
      | none, none =>
        if x = ['!'] then (test st fuel args).map not
        else if x = ['('] ∧ args.getLast? = some [')'] then test st fuel args.dropLast
        else .error (.noOperator (if args.length = 1 then x else args.headD []))

end Shell

end ElixirDiagnostics
