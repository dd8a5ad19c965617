import ElixirDiagnostics.Shell.Printf
import ElixirDiagnostics.Shell.Test

/-!
# Utilities

The small programs that scripts are made of. Some of them are part of the shell as well and then
complain in its name. A program gets its arguments and the state it starts in, and ends in another
state.
-/

namespace ElixirDiagnostics

namespace Shell

/-- A program, as what it makes of its arguments and a state. -/
abbrev Utility := List Text → State → State

/-- Complains in the name of a program, which may be part of a shell. -/
def State.complainAs (st : State) (program message : Text) (status : Nat) : State :=
  st.complain (if st.line.isSome then program ++ ": ".toList ++ message else message) status

namespace Utility

/-- Writes arguments on a line; in a shell their escapes have a meaning, else only if that is asked
for. -/
def echo : Utility := fun args st =>
  let isOption (a : Text) : Bool :=
    if st.line.isSome then a == ['-', 'n']
    else 1 < a.length && a.head? == some '-' && (a.drop 1).all fun c => "neE".toList.contains c
  let options := if st.line.isSome then (args.take 1).takeWhile isOption else args.takeWhile isOption
  let text := List.intercalate [' '] (args.drop options.length)
  let escapes := st.line.isSome ||
    ((options.flatMap (·.drop 1)).filter (· != 'n')).getLast? == some 'e'
  let (bytes, stopped) :=
    if escapes then unescape (text.length + 1) text else (Text.Utf8.encode text, false)
  let newline := !stopped && !options.any (·.contains 'n')
  (st.write 1 (bytes ++ if newline then [10] else [])).finish 0

/-- Writes arguments in a format. -/
def printf : Utility := fun args st =>
  let args := if args.head? = some ['-', '-'] then args.drop 1 else args
  match args with
  | [] => st.complainAs "printf".toList "usage: printf format [arg ...]".toList 2
  | format :: args =>
    let p := printAll (args.length + 1) format args
    let st := (st.write 1 p.bytes).finish 0
    let status := if p.stopped then 2 else 1
    p.complaints.foldl (fun st c => st.complainAs "printf".toList c status) st

/-- Answers a test. -/
def testAs (program : String) : Utility := fun args st =>
  let closed := program ≠ "[" ∨ args.getLast? = some [']']
  let args := if program = "[" then args.dropLast else args
  if !closed then st.complainAs program.toList "missing ]".toList 2
  else match test st (args.length + 1) args with
    | .ok b => st.verdict b
    | .error e => st.complainAs program.toList e.message 2

/-- Writes a file, or the input, and whether that could be done. -/
def catOne (st : State) (a : Text) : State :=
  if a = ['-'] then { st.write 1 st.input with input := [] }
  else match st.tree.get? (st.pathOf a) with
    | some (.file content _) => st.write 1 content
    | some .directory => st.complain (a ++ ": Is a directory".toList) 1
    | none => st.complain (a ++ ": No such file or directory".toList) 1

/-- Writes files one after the other. -/
def cat : Utility := fun args st =>
  let files := args.filter fun a => a = ['-'] ∨ a.head? ≠ some '-'
  (if files.isEmpty then [['-']] else files).foldl catOne (st.finish 0)

/-- Writes the directory. -/
def pwd : Utility := fun _ st => (st.say (st.dir ++ ['\n'])).finish 0

/-- Writes the numbers between two numbers. -/
def seq : Utility := fun args st =>
  let numbers := args.filterMap integer?
  let (low, step, high) := match numbers with
    | [h] => (1, 1, h)
    | [l, h] => (l, 1, h)
    | l :: s :: h :: _ => (l, s, h)
    | [] => (1, 1, 0)
  let count := if step = 0 then 0 else ((high - low) / step + 1).toNat
  let lines := (List.range count).map fun (i : Nat) => Text.ofInt (low + step * i) ++ ['\n']
  (st.say lines.flatten).finish 0

/-- How many lines are asked for, and the other arguments. -/
def lineCount : List Text → Nat × List Text
  | ['-', 'n'] :: n :: r => (Text.decimalValue n, r)
  | ('-' :: 'n' :: n) :: r => (Text.decimalValue n, r)
  | ('-' :: c :: n) :: r => if c.isDigit then (Text.decimalValue (c :: n), r) else (10, r)
  | r => (10, r)

/-- The lines of some bytes, with their line ends. -/
def byteLines : List UInt8 → List (List UInt8)
  | [] => []
  | b :: r =>
    if b = 10 then [b] :: byteLines r
    else match byteLines r with
      | [] => [[b]]
      | l :: ls => (b :: l) :: ls

/-- Writes some of the lines of a file or of the input. -/
def someLines (choose : Nat → List (List UInt8) → List (List UInt8)) : Utility := fun args st =>
  let (n, files) := lineCount args
  let (content, st) := match files with
    | f :: _ => ((st.tree.bytes? (st.pathOf f)).getD [], st)
    | [] => (st.input, { st with input := [] })
  (st.write 1 (choose n (byteLines content)).flatten).finish 0

/-- A path without slashes at its end. -/
def trimSlashes (p : Text) : Text := (p.reverse.dropWhile (· == '/')).reverse

/-- Writes the last component of a path, without an ending. -/
def basename : Utility := fun args st =>
  let p := trimSlashes (args.headD [])
  let base := if p.isEmpty then (args.headD []).take 1 else ((List.splitOn '/' p).getLast?).getD []
  let ending := (args.drop 1).headD []
  let base := if ending ≠ base ∧ base.drop (base.length - ending.length) = ending then
      base.take (base.length - ending.length)
    else base
  (st.say (base ++ ['\n'])).finish 0

/-- Writes a path without its last component. -/
def dirname : Utility := fun args st =>
  let p := trimSlashes (args.headD [])
  let dir := if p.contains '/' then
      let d := trimSlashes ((p.reverse.dropWhile (· != '/')).reverse)
      if d.isEmpty then ['/'] else d
    else if p.isEmpty ∧ (args.headD []).head? = some '/' then ['/'] else ['.']
  (st.say (dir ++ ['\n'])).finish 0

/-- Makes directories. -/
def mkdir : Utility := fun args st =>
  (args.filter fun a => a.head? ≠ some '-').foldl (fun st a =>
    match st.tree.makeDir? (st.pathOf a) with
    | some t => { st with tree := t }
    | none => st.complain ("cannot create directory '".toList ++ a ++ "': File exists".toList) 1)
    (st.finish 0)

/-- Makes files that are not there yet. -/
def touch : Utility := fun args st =>
  args.foldl (fun st a =>
    if (st.tree.get? (st.pathOf a)).isSome then st
    else match st.tree.write? (st.pathOf a) [] with
      | some t => { st with tree := t }
      | none => st.complain ("cannot touch '".toList ++ a ++ "': No such file or directory".toList) 1)
    (st.finish 0)

/-- The programs that are part of a shell as well. -/
def builtin? (name : Text) : Option Utility :=
  match String.ofList name with
  | "true" => some fun _ st => st.finish 0
  | "false" => some fun _ st => st.finish 1
  | "echo" => some echo
  | "printf" => some printf
  | "test" => some (testAs "test")
  | "[" => some (testAs "[")
  | "pwd" => some pwd
  | _ => none

/-- The programs of the system that are no shell. -/
def external? (name : Text) : Option Utility :=
  match builtin? name with
  | some u => some u
  | none =>
    match String.ofList name with
    | "cat" => some cat
    | "sleep" => some fun _ st => st.finish 0
    | "seq" => some seq
    | "head" => some (someLines List.take)
    | "tail" => some (someLines fun n ls => ls.drop (ls.length - n))
    | "basename" => some basename
    | "dirname" => some dirname
    | "mkdir" => some mkdir
    | "touch" => some touch
    | _ => none

end Utility

end Shell

end ElixirDiagnostics
