import ElixirDiagnostics.Shape.Basic

/-!
# Errors under a banner

An error that stops a file from compiling is announced by a banner that names the file,
`== Compilation error in file F ==`, and an error line below it, `** (Kind) rest`. When the rest
begins with the banner's file, a colon and maybe a line number, the error is located right there.
When it has no location of its own, a stack trace follows, and the error belongs to the frame that
the classifier takes for the anchor. Blank lines inside a trace surround dumped arguments: the trace
goes on as long as the next line that is not blank is indented.
-/

namespace ElixirDiagnostics

namespace Shape

/-- The file that a banner names. -/
def bannerFile? (line : Text) : Option Text := do
  let s ← Text.after? "== Compilation error ".toList line
  let s ← (Text.after? "on file ".toList s).or (Text.after? "in file ".toList s)
  let file ← Text.after? "== ".toList (Text.trimEnd s).reverse
  Location.message? file.reverse

/-- The kind of an error in parentheses at the start of a line, and what follows it. -/
def errorKind? (line : Text) : Option (Text × Text) := do
  let (kind, r) ← Text.run? Trace.isAppChar (← Text.after? "** (".toList line)
  return (kind, ← Text.after? ") ".toList r)

/-- What an error line says after the kind of the error. -/
def errorRest? (line : Text) : Option Text := do
  let (_, rest) ← errorKind? line
  if rest.isEmpty || rest.contains '\n' then none else some rest

/-- The line digits and the message that follow the banner's file on an error line. -/
def inlineTail? (s : Text) : Option (Option Text × Text) := do
  let (digits, r) ← match Location.lineDigits? s with
    | some (digits, r) => (Text.after? [':'] (Location.skipColumn r)).map (some digits, ·)
    | none => (Text.after? [':'] s).map (none, ·)
  if Text.isIndented r then (Location.message? (Text.trimStart r)).map (digits, ·) else none

/-- Reads a banner and an error line that repeats the banner's file. -/
def readInline : List Text → Option Evidence
  | banner :: error :: _ => do
    let file ← bannerFile? banner
    let rest ← errorRest? error
    let (digits, message) ← inlineTail? (← Text.after? file rest)
    return ⟨file, digits.bind Text.number?, message, 2⟩
  | _ => none

/-- A text that begins with a location of its own, `file:line: `. -/
def hasLocation (s : Text) : Bool :=
  (Location.fileReadings Location.isFileChar s).any fun (_, r) =>
    match Location.lineDigits? r with
    | some (_, r) => (Text.after? ": ".toList (Location.skipColumn r)).isSome
    | none => false

/-- Whether the first line that is not blank is indented. -/
def resumesIndented (lines : List Text) : Bool :=
  (lines.find? fun l => !Text.isBlank l).any Text.isIndented

/-- The anchor frame of a trace: how many lines stand before it, its file and its line. -/
def anchorFrame? (t : Trace.Classifier) (banner : Text) : List Text → Option (Nat × Text × Nat)
  | [] => none
  | l :: rest =>
    let further := (anchorFrame? t banner rest).map fun (n, place) => (n + 1, place)
    if Text.isBlank l then
      if resumesIndented rest then further else none
    else match t.classify l with
      | none => none
      | some frame => if t.isAnchor frame banner then frame.location.map (0, ·) else further

/-- Reads a banner, an error line without a location, and a trace down to its anchor frame. -/
def readTraced (t : Trace.Classifier) : List Text → Option Evidence
  | banner :: error :: trace => do
    let announced ← bannerFile? banner
    let rest ← errorRest? error
    if hasLocation rest then none
    else
      let (n, file, line) ← anchorFrame? t announced trace
      return ⟨file, some line, rest, n + 3⟩
  | _ => none

/-- Compile errors whose error line repeats the banner's file. -/
def compileErrorInline : Shape := ofReader .compileErrorInline fun _ => readInline

/-- Compile errors that are located by a stack trace. -/
def compileErrorTraced : Shape := ofReader .compileErrorTraced readTraced

end Shape

end ElixirDiagnostics
