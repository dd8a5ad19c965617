import ElixirDiagnostics.Command.Options

/-!
# The words of a command line

A command line is read word by word, from left to right. An option waits for its value in the next
word, and what it was given is checked only when the next switch or file comes up, so an unknown
word before that is complained of first. Letters can be joined after one dash, the last one with its
value. Two dashes alone leave all further words to the compiler. Asking for help ends the reading.
-/

namespace ElixirDiagnostics

namespace Command

/-- Why a command line asks for nothing that can be done. -/
inductive UsageError where
  /-- No file is given. -/
  | missingFile
  /-- A word is neither a known option nor expected. -/
  | unknown
  /-- An option has no value, or one that it does not take. -/
  | invalidValue
  /-- An option that is given once at most is given again. -/
  | repeated
  /-- A switch that takes no value is given one. -/
  | unexpectedValue
  /-- Help is asked for, in full or in brief. -/
  | help (full : Bool)
  deriving DecidableEq, Repr

/-- The switches without a value. -/
inductive Flag where
  /-- Show the version. -/
  | version
  /-- Compile the whole project. -/
  | mix
  /-- Read the compiler's output. -/
  | stdin
  /-- Write without colour. -/
  | noColour
  deriving DecidableEq, Repr

/-- The places that values go to. -/
inductive Slot where
  /-- The directory that the compiler runs in. -/
  | cwd
  /-- A directory whose sources are required. -/
  | includeDir
  /-- A code path. -/
  | codePath
  /-- The settings file. -/
  | config
  /-- The compiler program. -/
  | executable
  /-- The frame that traced errors are attributed to. -/
  | anchor
  /-- How the report is written. -/
  | format
  /-- The inspected file. -/
  | file
  /-- The further arguments of the compiler. -/
  | extra
  deriving DecidableEq, Repr

/-- What an option's name stands for. -/
inductive Switch where
  /-- A switch without a value. -/
  | flag (f : Flag)
  /-- An option with a value. -/
  | slot (s : Slot)
  /-- A request for help. -/
  | help
  deriving DecidableEq, Repr

/-- What a name after two dashes stands for. -/
def longSwitch? (name : Text) : Option Switch :=
  match String.ofList name with
  | "version" => some (.flag .version)
  | "cwd" => some (.slot .cwd)
  | "include-dir" => some (.slot .includeDir)
  | "pa" => some (.slot .codePath)
  | "mix" => some (.flag .mix)
  | "config" => some (.slot .config)
  | "executable" => some (.slot .executable)
  | "anchor" => some (.slot .anchor)
  | "stdin" => some (.flag .stdin)
  | "format" => some (.slot .format)
  | "no-color" => some (.flag .noColour)
  | "help" => some .help
  | _ => none

/-- What a letter after one dash stands for. -/
def shortSwitch? : Char → Option Switch
  | 'v' => some (.flag .version)
  | 'C' => some (.slot .cwd)
  | 'I' => some (.slot .includeDir)
  | 'm' => some (.flag .mix)
  | 'c' => some (.slot .config)
  | 'h' => some .help
  | _ => none

namespace Options

/-- Sets a switch, which can be done once. -/
def setFlag (o : Options) (f : Flag) : Except UsageError Options :=
  match f with
  | .version => if o.version then .error .repeated else .ok { o with version := true }
  | .mix => if o.mix then .error .repeated else .ok { o with mix := true }
  | .stdin => if o.stdin then .error .repeated else .ok { o with stdin := true }
  | .noColour => if o.noColour then .error .repeated else .ok { o with noColour := true }

/-- Gives a value to a place that takes one value. -/
def once {α : Type} (old : Option α) (read : Option α) (set : Option α → Options) :
    Except UsageError Options :=
  if old.isSome then .error .repeated
  else if read.isSome then .ok (set read) else .error .invalidValue

/-- A path is not empty. -/
def path? (s : Text) : Option Path := if s.isEmpty then none else some s

/-- Gives a value to a place. -/
def setSlot (o : Options) (slot : Slot) (v : Text) : Except UsageError Options :=
  match slot with
  | .cwd => once o.cwd (path? v) fun r => { o with cwd := r }
  | .includeDir => match path? v with
    | some d => .ok { o with includeDirs := o.includeDirs ++ [d] }
    | none => .error .invalidValue
  | .codePath => match path? v with
    | some d => .ok { o with codePaths := o.codePaths ++ [d] }
    | none => .error .invalidValue
  | .config => once o.config (path? v) fun r => { o with config := r }
  | .executable => once o.executable (some v) fun r => { o with executable := r }
  | .anchor => once o.anchor (Trace.Anchor.ofWord? v) fun r => { o with anchor := r }
  | .format => once o.format (Report.Format.ofWord? v) fun r => { o with format := r }
  | .file => once o.file (path? v) fun r => { o with file := r }
  | .extra => .ok { o with extra := o.extra ++ [v] }

end Options

/-- A place whose value was not checked yet, with the value once it has come up. -/
structure Waiting where
  /-- The place. -/
  slot : Slot
  /-- Its value, if a word for it was read. -/
  value : Option Text

/-- What is known in the middle of a command line. -/
structure Reading where
  /-- What was asked for so far. -/
  options : Options := {}
  /-- The place that was mentioned last, if its value was not checked yet. -/
  waiting : Option Waiting := none
  /-- Whether all further words go to the compiler. -/
  trailing : Bool := false

namespace Reading

/-- Checks the value of the place that was mentioned last. -/
def settle (r : Reading) : Except UsageError Reading :=
  match r.waiting with
  | none => .ok r
  | some ⟨_, none⟩ => .error .invalidValue
  | some ⟨slot, some v⟩ => do
    return { r with options := ← r.options.setSlot slot v, waiting := none }

/-- Mentions a place, with a value or to wait for one. -/
def mention (r : Reading) (slot : Slot) (value : Option Text) : Except UsageError Reading := do
  let r ← r.settle
  let r := { r with waiting := some ⟨slot, value⟩ }
  if value.isSome && slot != .file && slot != .extra then r.settle else return r

/-- Sets a switch. -/
def raise (r : Reading) (f : Flag) : Except UsageError Reading := do
  let r ← r.settle
  return { r with options := ← r.options.setFlag f }

/-- Asks for help. -/
def askHelp (r : Reading) (full : Bool) : Except UsageError Reading := do
  let _ ← r.settle
  .error (.help full)

/-- Reads a word that begins with two dashes, without them. -/
def long (r : Reading) (word : Text) : Except UsageError Reading :=
  let value := match word.dropWhile (· != '=') with
    | _ :: v => some v
    | [] => none
  match longSwitch? (word.takeWhile (· != '=')) with
  | none => .error .unknown
  | some (.slot s) => r.mention s value
  | some (.flag f) => if value.isSome then .error .unexpectedValue else r.raise f
  | some .help => if value.isSome then .error .unexpectedValue else r.askHelp true

/-- Reads the letters after one dash. -/
def short (r : Reading) : Text → Except UsageError Reading
  | [] => .ok r
  | c :: cs =>
    match shortSwitch? c with
    | none => .error .unknown
    | some .help => r.askHelp false
    | some (.flag f) => do (← r.raise f).short cs
    | some (.slot s) => r.mention s <| match cs with
      | [] => none
      | '=' :: v => some v
      | v => some v

/-- Reads a word that is no option: the value that is waited for, or the file. Further files are
not expected. -/
def plain (r : Reading) (word : Text) : Except UsageError Reading :=
  match r.waiting with
  | some ⟨slot, none⟩ => .ok { r with waiting := some ⟨slot, some word⟩ }
  | w =>
    if r.options.file.isSome || w.any (·.slot == .file) then .error .unknown
    else r.mention .file (some word)

/-- Reads one word. -/
def word (r : Reading) (w : Text) : Except UsageError Reading :=
  if r.trailing then r.mention .extra (some w)
  else match w with
    | ['-', '-'] => .ok { r with trailing := true }
    | '-' :: '-' :: rest => r.long rest
    | ['-'] => r.plain w
    | '-' :: rest => r.short rest
    | w => r.plain w

end Reading

/-- Reads the words of a command line. Only to show the version, no file is needed. -/
def Options.read (words : List Text) : Except UsageError Options := do
  let r ← words.foldlM Reading.word {}
  let o := (← r.settle).options
  if o.file.isNone && !o.version then .error .missingFile else return o

end Command

end ElixirDiagnostics
