import ElixirDiagnostics.Shell.Expansion
import ElixirDiagnostics.Shell.Reader
import ElixirDiagnostics.Shell.Utility

/-!
# Runs of shell scripts

What commands do to the state of a shell. A command that is no function and not part of the shell is
looked up among the files and run as a program of its own, which sees exported variables only and
leaves nothing behind but its output, its status and its files. A program that takes more steps than
it is given is killed.
-/

namespace ElixirDiagnostics

namespace Shell

open Host

/-- Why a redirection fails. -/
structure RedirectError where
  /-- What is said about it. -/
  message : Text
  deriving DecidableEq, Repr

/-- The file that takes everything and holds nothing. -/
def nullFile : Names := ["dev".toList, "null".toList]

/-- Opens a file for a stream. -/
def openOutput (st : State) (stream : Nat) (keep : Bool) (p : Text) : Except RedirectError State :=
  let path := st.pathOf p
  let old := if keep then (st.tree.bytes? path).getD [] else []
  if st.tree.locate? path = some nullFile then
    .ok { st with sinks := (stream, .nowhere) :: st.sinks }
  else if st.tree.isDir path then
    .error ⟨"cannot create ".toList ++ p ++ ": Is a directory".toList⟩
  else match st.tree.write? path old, st.tree.locate? path with
    | some t, some place => .ok { st with tree := t, sinks := (stream, .file place) :: st.sinks }
    | _, _ => .error ⟨"cannot create ".toList ++ p ++ ": Directory nonexistent".toList⟩

/-- Redirects a stream. -/
def redirect (st : State) (stream : Nat) (d : Direction) (target : Text) :
    Except RedirectError State :=
  match d with
  | .here => .ok { st with input := Text.Utf8.encode target }
  | .input =>
    match st.tree.bytes? (st.pathOf target) with
    | some content => .ok { st with input := content }
    | none => .error ⟨"cannot open ".toList ++ target ++ ": No such file".toList⟩
  | .output => openOutput st stream false target
  | .append => openOutput st stream true target
  | .duplicate =>
    if target = ['-'] then
      if stream = 0 then .ok { st with input := [] }
      else .ok { st with sinks := (stream, .nowhere) :: st.sinks }
    else match integer? target with
      | some n =>
        .ok { st with sinks := (stream, (st.sinks.lookup n.toNat).getD .nowhere) :: st.sinks }
      | none => .error ⟨target ++ ": bad fd number".toList⟩

/-- Redirects streams one after the other. -/
def redirectAll (run : Substitution) : List Redirect → State → Except (RedirectError × State) State
  | [], st => .ok st
  | d :: ds, st =>
    let (target, st) := expandText run d.target st
    match redirect st d.stream d.direction target with
    | .ok st => redirectAll run ds st
    | .error e => .error (e, st)

/-- The state after redirected commands, with the streams as they were before. -/
def State.restoreStreams (before after : State) (ds : List Redirect) : State :=
  { after with
    sinks := before.sinks
    input := if ds.any (·.stream == 0) then before.input else after.input }

/-- The state of a program that a shell runs. -/
def State.child (st : State) (name : Text) (args : List Text) : State where
  tree := st.tree
  dir := st.dir
  name := name
  number := st.number + 1
  arguments := args
  values := st.values.filter fun (x, _) => st.exported.contains x
  exported := st.exported
  input := st.input
  sinks := st.sinks
  written := st.written
  captures := st.captures

/-- Ends a shell whose last command failed, if it is strict. -/
def State.settle (st : State) : State :=
  if st.strict && !st.testing && st.status != 0 && st.isRunning then { st with control := .exited }
  else st

/-- The first file of a name that can be run in the directories of a search path. -/
def search? (t : FileTree) (dirs : List Path) (name : Text) : Option Path :=
  (dirs.map (Path.join · name)).find? t.isRunnable

/-- The directories in which programs are looked up. -/
def searchPath (st : State) : List Path :=
  List.splitOn ':' ((st.value? "PATH".toList).getD "/usr/bin:/bin".toList)

/-- The interpreter that the first line of a file names, with its argument. -/
def interpreter? (content : List UInt8) : Option (Path × List Text) :=
  match (Text.lines (Text.Utf8.decodeLossy content)).head? with
  | some ('#' :: '!' :: r) =>
    let isBlank (c : Char) : Bool := c == ' ' || c == '\t'
    let s := ((r.dropWhile isBlank).reverse.dropWhile isBlank).reverse
    let path := s.takeWhile fun c => !isBlank c
    let arg := (s.dropWhile fun c => !isBlank c).dropWhile isBlank
    if path.isEmpty then none else some (path, if arg.isEmpty then [] else [arg])
  | _ => none

/-- The programs that are shells. -/
def shellNames : List Text := ["sh".toList, "dash".toList]

/-- The name of a program of the system, by its place. -/
def systemProgram? (place : Names) : Option Text :=
  if place.dropLast = ["bin".toList] ∨ place.dropLast = ["usr".toList, "bin".toList] then
    place.getLast?
  else none

/-- Gives the variables of the arguments of an assignment command their values. -/
def assignAll (exporting : Bool) (args : List Text) (st : State) : State :=
  args.foldl (fun st a =>
    let x := a.takeWhile (· != '=')
    let st := if exporting then { st with exported := x :: st.exported } else st
    if a.contains '=' then st.assign x (a.drop (x.length + 1)) else st) (st.finish 0)

/-- Takes options and arguments of the shell itself. -/
def setOptions : List Text → State → State
  | [], st => st
  | a :: args, st =>
    if a = ['-', '-'] then { st with arguments := args }
    else match a with
      | '-' :: o => setOptions args { st with strict := st.strict || o.contains 'e' }
      | '+' :: o => setOptions args { st with strict := st.strict && !o.contains 'e' }
      | _ => { st with arguments := a :: args }

/-- Reads the arguments of a command that sends a signal: the signal, and to which programs it is
sent. -/
def signal? (args : List Text) : Option (Nat × List Text) :=
  let named? (s : Text) : Option Nat :=
    if s.all Char.isDigit then some (Text.decimalValue s)
    else State.signalNames.lookup ((Text.after? "SIG".toList s).getD s)
  match args with
  | ['-', 's'] :: s :: r => (named? s).map fun n => (n, r)
  | ('-' :: s) :: r => (named? s).map fun n => (n, r)
  | r => some (15, r)

/-- Sends a signal to the shell itself. -/
def kill (args : List Text) (st : State) : State :=
  match signal? args with
  | none => st.complain "kill: bad signal".toList 2
  | some (n, targets) =>
    if targets.all (· == Text.ofNat st.number) then
      if n = 0 ∨ targets.isEmpty then st.finish 0 else { st with control := .killed n }
    else st.complain "kill: No such process\n".toList 1

/-- Splits a line into the values of some variables; the last one gets all that is left. -/
def shareOut (separators : Text) : List Text → Text → List (Text × Text)
  | [], _ => []
  | [x], s =>
    [(x, (((s.dropWhile separators.contains).reverse.dropWhile separators.contains).reverse))]
  | x :: xs, s =>
    let s := s.dropWhile separators.contains
    let value := s.takeWhile fun c => !separators.contains c
    (x, value) :: shareOut separators xs (s.drop (value.length + 1))

/-- Reads a line of the input into variables. -/
def readLine (args : List Text) (st : State) : State :=
  let raw := args.head? == some ['-', 'r']
  let names := if raw then args.drop 1 else args
  let line := st.input.takeWhile (· != 10)
  let ended := line.length < st.input.length
  let text := Text.Utf8.decodeLossy line
  let text := if raw then text else text.filter (· != '\\')
  let st := { st with input := st.input.drop (line.length + 1) }
  ((shareOut (separators st) names text).foldl (fun st (x, v) => st.assign x v) st).verdict ended

/-- Moves a shell to another directory. -/
def changeDir (args : List Text) (st : State) : State :=
  let target := args.headD ((st.value? "HOME".toList).getD st.dir)
  match st.tree.locate? (st.pathOf target) with
  | some place =>
    if st.tree.isDirectory place then
      ({ st with dir := '/' :: List.intercalate ['/'] place }).finish 0
    else st.complain ("cd: can't cd to ".toList ++ target) 2
  | none => st.complain ("cd: can't cd to ".toList ++ target) 2

/-- Reads the number that a command gets, or is over with a complaint. -/
def withNumber (command : String) (args : List Text) (usual : Nat) (st : State)
    (f : Nat → State → State) : State :=
  match args with
  | [] => f usual st
  | a :: _ =>
    if !a.isEmpty && a.all Char.isDigit then f (Text.decimalValue a) st
    else st.abort (command.toList ++ ": Illegal number: ".toList ++ a) 2

/-- Leaves loops. -/
def leaveLoops (again : Bool) (n : Nat) (st : State) : State :=
  ({ st with control := if again then .continued n else .broken n }).finish 0

/-- The commands that change the shell itself, as far as they run no others. -/
def special? (name : Text) (args : List Text) (st : State) : Option State :=
  match String.ofList name with
  | ":" | "trap" | "umask" | "wait" | "hash" | "exec" => some (st.finish 0)
  | "exit" => some <| withNumber "exit" args st.status st fun n st =>
      { st.finish (n % 256) with control := .exited }
  | "return" => some <| withNumber "return" args st.status st fun n st =>
      { st.finish (n % 256) with control := .returned }
  | "break" => some (withNumber "break" args 1 st (leaveLoops false))
  | "continue" => some (withNumber "continue" args 1 st (leaveLoops true))
  | "shift" => some <| withNumber "shift" args 1 st fun n st =>
      if st.arguments.length < n then st.abort "shift: can't shift that many".toList 2
      else { st.finish 0 with arguments := st.arguments.drop n }
  | "set" => some ((setOptions args st).finish 0)
  | "export" => some (assignAll true args st)
  | "readonly" | "local" => some (assignAll false args st)
  | "unset" => some { st.finish 0 with
      values := st.values.filter fun (x, _) => !args.contains x }
  | "cd" => some (changeDir args st)
  | "kill" => some (kill args st)
  | "read" => some (readLine args st)
  | _ => none

/-- Whether a part of a word runs a script. -/
def Piece.isCommand : Piece → Bool
  | command _ _ => true
  | _ => false

/-- Assigns the values of words to variables. -/
def assignWords (run : Substitution) (as : List (Text × Word)) (st : State) : State :=
  as.foldl (fun st (x, w) => let (s, st) := expandText run w st; st.assign x s) st

/-- Which of some arms has a pattern that fits a text. -/
def chooseArm (run : Substitution) (s : Text) : List (List Word × Command) → State → Command × State
  | [], st => (.skip, st)
  | (ws, c) :: arms, st =>
    let (fits, st) := ws.foldl (fun (fits, st) w =>
      if fits then (true, st)
      else
        let (p, st) := expandPattern run w st
        (globFits p s, st)) (false, st)
    if fits then (c, st) else chooseArm run s arms st

/-- What goes on after the body of a loop: whether there is another round, and the state. -/
def afterBody (st : State) : Bool × State :=
  match st.control with
  | .running => (true, st)
  | .broken n => (false, { st with control := if n ≤ 1 then .running else .broken (n - 1) })
  | .continued n =>
    if n ≤ 1 then (true, { st with control := .running })
    else (false, { st with control := .continued (n - 1) })
  | _ => (false, st)

/-- The state of a shell after a program that it ran. -/
def State.afterChild (st after : State) : State :=
  match after.control with
  | .killed n =>
    let st := { st.rejoin { after with control := .running } with status := 128 + n }
    match State.signalText? n with
    | some s => st.write 2 (Text.Utf8.encode (s ++ ['\n']))
    | none => st
  | _ => st.rejoin { after with control := .running }

mutual

/-- Runs a command. All these functions get the number of steps that are left. -/
def exec : Nat → Command → State → State
  | 0, _, st => { st with control := .killed 9 }
  | fuel + 1, c, st =>
    if !st.isRunning then st
    else
      let test (c : Command) (st : State) : State :=
        { exec fuel c { st with testing := true } with testing := st.testing }
      match c with
      | .skip => st.finish 0
      | .seq a b => exec fuel b (exec fuel a st)
      | .both a b =>
        let st := test a st
        if st.isRunning && st.status == 0 then exec fuel b st else st
      | .either a b =>
        let st := test a st
        if st.isRunning && st.status != 0 then exec fuel b st else st
      | .negated a =>
        let st := test a st
        if st.isRunning then st.verdict (st.status != 0) else st
      | .choice t a b =>
        let st := test t st
        if !st.isRunning then st else exec fuel (if st.status = 0 then a else b) st
      | .loop untilTrue t a => loop fuel untilTrue t a 0 st
      | .each name words a =>
        let (values, st) := match words with
          | some ws => expandAll (substitute fuel) ws st
          | none => (st.arguments, st)
        each fuel name a values (st.finish 0)
      | .select w arms =>
        let (s, st) := expandText (substitute fuel) w st
        let (c, st) := chooseArm (substitute fuel) s arms st
        exec fuel c st
      | .redirected a ds =>
        match redirectAll (substitute fuel) ds st with
        | .ok inner => st.restoreStreams (exec fuel a inner) ds
        | .error (e, st) => st.complain e.message 2
      | .subshell a => (st.rejoin (exec fuel a st)).settle
      | .pipe a b =>
        let opened := st.beginCapture
        let (bytes, st) := (st.rejoin (exec fuel a opened)).takeCapture opened.captures
        let after := exec fuel b { st with input := bytes }
        { st.rejoin after with input := st.input }.settle
      | .define name a => { st.finish 0 with functions := (name, a) :: st.functions }
      | .simple line as ws ds => (simple fuel line as ws ds st).settle

/-- Runs the rounds of a loop, given the status of the last one. -/
def loop : Nat → Bool → Command → Command → Nat → State → State
  | 0, _, _, _, _, st => { st with control := .killed 9 }
  | fuel + 1, untilTrue, t, a, last, st =>
    let tested := { exec fuel t { st with testing := true } with testing := st.testing }
    if !tested.isRunning then (afterBody tested).2
    else if (tested.status == 0) == untilTrue then tested.finish last
    else
      let (again, st) := afterBody (exec fuel a tested)
      if again then loop fuel untilTrue t a st.status st else st

/-- Runs a command for each of some values. -/
def each : Nat → Text → Command → List Text → State → State
  | 0, _, _, _, st => { st with control := .killed 9 }
  | _, _, _, [], st => st
  | fuel + 1, name, a, v :: vs, st =>
    let (again, st) := afterBody (exec fuel a (st.assign name v))
    if again then each fuel name a vs st else st

/-- Runs a script for its output. -/
def substitute : Nat → Text → State → Text × State
  | 0, _, st => ([], { st with control := .killed 9 })
  | fuel + 1, script, st =>
    let opened := st.beginCapture
    let (bytes, st) := (st.rejoin (runScript fuel script opened)).takeCapture opened.captures
    (Text.Utf8.decodeLossy (bytes.filter (· != 0)), st)

/-- Runs a script. -/
def runScript : Nat → Text → State → State
  | 0, _, st => { st with control := .killed 9 }
  | fuel + 1, script, st =>
    match Command.read script with
    | .ok c => exec fuel c st
    | .error e => st.abort ("Syntax error: ".toList ++ e.message) 2

/-- Runs a simple command. -/
def simple : Nat → Nat → List (Text × Word) → List Word → List Redirect → State → State
  | 0, _, _, _, _, st => { st with control := .killed 9 }
  | fuel + 1, line, as, ws, ds, st =>
    let (fields, st) := expandAll (substitute fuel) ws { st with line := some line }
    if !st.isRunning then st
    else match redirectAll (substitute fuel) ds st with
      | .error (e, st) => st.complain e.message 2
      | .ok opened =>
        match fields with
        | [] =>
          let after := assignWords (substitute fuel) as opened
          let after := if (ws ++ as.map (·.2)).any (·.any Piece.isCommand) then after
            else after.finish 0
          st.restoreStreams after ds
        | name :: args =>
          let assigned := assignWords (substitute fuel) as opened
          let assigned := { assigned with exported := as.map (·.1) ++ assigned.exported }
          let after := invoke fuel name args assigned
          let names := as.map (·.1)
          let after := if names.isEmpty then after else { after with
            values := (st.values.filter fun (x, _) => names.contains x) ++
              after.values.filter fun (x, _) => !names.contains x
            exported := st.exported }
          if name = "exec".toList ∧ args.isEmpty then after else st.restoreStreams after ds

/-- Runs a function, a part of the shell or a program. -/
def invoke : Nat → Text → List Text → State → State
  | 0, _, _, st => { st with control := .killed 9 }
  | fuel + 1, name, args, st =>
    match st.functions.lookup name with
    | some body =>
      let after := exec fuel body { st with arguments := args }
      { after with
        arguments := st.arguments
        control := if after.control == .returned then .running else after.control }
    | none =>
      match String.ofList name with
      | "eval" => runScript fuel (List.intercalate [' '] args) st
      | "." =>
        match st.tree.text? (st.pathOf (args.headD [])) with
        | some script => runScript fuel script st
        | none => st.abort (".: cannot open ".toList ++ args.headD [] ++ ": No such file".toList) 2
      | "command" =>
        match args with
        | ['-', 'v'] :: x :: _ =>
          if (special? x [] st).isSome || (Utility.builtin? x).isSome then
            (st.say (x ++ ['\n'])).finish 0
          else match search? st.tree (searchPath st) x with
            | some p => (st.say (p ++ ['\n'])).finish 0
            | none => st.finish 127
        | x :: r => invoke fuel x r { st with functions := [] }
        | [] => st.finish 0
      | "exec" =>
        match args with
        | [] => st.finish 0
        | x :: r =>
          let after := external fuel x r st
          { after with control := if after.isRunning then .exited else after.control }
      | _ =>
        match special? name args st with
        | some st => st
        | none =>
          match Utility.builtin? name with
          | some u => u args st
          | none => external fuel name args st

/-- Looks a program up and runs it. -/
def external : Nat → Text → List Text → State → State
  | 0, _, _, st => { st with control := .killed 9 }
  | fuel + 1, name, args, st =>
    let path := if name.contains '/' then some (st.pathOf name)
      else search? st.tree (searchPath st) name
    match path with
    | none => st.complain (name ++ ": not found".toList) 127
    | some path =>
      match st.tree.get? path with
      | none => st.complain (name ++ ": not found".toList) 127
      | some .directory => st.complain (name ++ ": Permission denied".toList) 126
      | some (.file _ runnable) =>
        if !runnable then st.complain (name ++ ": Permission denied".toList) 126
        else
          let child := st.child name args
          match program fuel path args child with
          | some after => st.afterChild after
          | none =>
            if (interpreter? ((st.tree.bytes? path).getD [])).isSome then
              st.complain (name ++ ": not found".toList) 127
            else st.afterChild (shell fuel (path :: args) child)

/-- Runs the program in a file; nothing if the file does not say how it is run. -/
def program : Nat → Path → List Text → State → Option State
  | 0, _, _, st => some { st with control := .killed 9 }
  | fuel + 1, path, args, st =>
    let system := (st.tree.locate? path).bind systemProgram?
    match system with
    | some p =>
      if shellNames.contains p then some (shell fuel args st)
      else if p = "env".toList then
        match args.dropWhile (·.contains '=') with
        | x :: r => some (external fuel x r (assignAll true (args.takeWhile (·.contains '=')) st))
        | [] => some (st.finish 0)
      else (Utility.external? p).map fun u => u args { st with line := none }
    | none => do
      let (interpreter, arg) ← interpreter? (← st.tree.bytes? path)
      if !st.tree.isRunnable interpreter then none
      program fuel interpreter (arg ++ path :: args) { st with name := interpreter }

/-- Runs a shell. -/
def shell : Nat → List Text → State → State
  | 0, _, st => { st with control := .killed 9 }
  | fuel + 1, args, st =>
    let st := { st with line := some 1 }
    let isOption (a : Text) : Bool := 1 < a.length && a.head? == some '-'
    let options := args.takeWhile isOption
    let rest := args.dropWhile isOption
    let st := { st with strict := options.any (·.contains 'e') }
    if options.any (·.contains 'c') then
      match rest with
      | [] => { st with line := some 0 }.abort "-c requires an argument".toList 2
      | script :: r =>
        runScript fuel script { st with name := r.headD st.name, arguments := r.drop 1 }
    else match rest with
      | [] => runScript fuel (Text.Utf8.decodeLossy st.input) { st with input := [], arguments := [] }
      | file :: r =>
        match st.tree.bytes? (st.pathOf file) with
        | some content =>
          runScript fuel (Text.Utf8.decodeLossy content) { st with name := file, arguments := r }
        | none =>
          { st with line := some 0 }.abort
            ("cannot open ".toList ++ file ++ ": No such file".toList) 2

end

end Shell

end ElixirDiagnostics
