import ElixirDiagnostics.Location

/-!
# Trace frames

Below an error that is raised while a module body runs, the compiler prints a stack trace, one
indented frame a line. A frame with a location reads `(app) file:line: function`, where the
application stands only before frames of dependencies. Every other indented line counts as a frame
without a location: a bare function name, an expanded macro, a dumped argument.
-/

namespace ElixirDiagnostics

namespace Trace

/-- One line of a stack trace. -/
inductive Frame where
  /-- A frame inside a dependency, by its application or by its path. -/
  | library (app : Option Text) (file : Text) (line : Nat)
  /-- A frame in a source file of the project. -/
  | source (file : Text) (line : Nat)
  /-- A frame without a location. -/
  | function
  deriving DecidableEq, Repr

/-- The file and line that a frame names. -/
def Frame.location : Frame → Option (Text × Nat)
  | library _ file line => some (file, line)
  | source file line => some (file, line)
  | function => none

/-- Which frame a traced error is attributed to. -/
inductive Anchor where
  /-- The first frame in the file that the banner names. -/
  | bannerFile
  /-- The first frame in a source file of the project. -/
  | firstSourceFrame
  deriving DecidableEq, Repr

/-- The name of an anchor in settings and on the command line. -/
def Anchor.word : Anchor → Text
  | bannerFile => "banner-file".toList
  | firstSourceFrame => "first-source-frame".toList

/-- The anchor with a given name. -/
def Anchor.ofWord? (s : Text) : Option Anchor :=
  [bannerFile, firstSourceFrame].find? (·.word = s)

/-- What decides which lines are frames, which frames are library frames, and which frame is the
anchor. -/
structure Classifier where
  /-- The anchoring rule. -/
  anchor : Anchor := .bannerFile
  /-- Tests on the path of a frame; a path that passes one is library code. -/
  libraryPaths : List (Text → Bool) := []

/-- What reads a pattern: it makes a test on texts of the pattern, or it says why there is none. -/
abbrev PatternReader := Text → Except Text (Text → Bool)

/-- Patterns for library code are read in their order, and a path that matches one of them is
library code. The first one that cannot be read stops the reading. -/
def Classifier.withLibraryPatterns (read : PatternReader) (t : Classifier) (patterns : List Text) :
    Except Text Classifier := do
  return { t with libraryPaths := t.libraryPaths ++ (← patterns.mapM read) }

/-- The characters of a file name in a frame. -/
def isFrameFileChar (c : Char) : Bool :=
  !Text.isSpace c && c != ':' && c != '(' && c != ')'

/-- The characters of an application's name. -/
def isAppChar (c : Char) : Bool := !Text.isSpace c && c != '(' && c != ')'

/-- The application in parentheses at the start of a frame, with the blank space after it. -/
def app? : Text → Option (Text × Text)
  | '(' :: s => do
    let (app, r) ← Text.run? isAppChar s
    let r ← Text.after? [')'] r
    if Text.isIndented r then some (app, Text.trimStart r) else none
  | _ => none

/-- The line number of a frame: it is followed by the end, a colon or blank space. -/
def frameLine? (s : Text) : Option Text := do
  let (digits, r) ← Location.lineDigits? s
  if r.head?.all fun c => c == ':' || Text.isSpace c then some digits else none

/-- The application, file and line digits that an indented line names, if it has the form of a
frame with a location. -/
def frameParts? (line : Text) : Option (Option Text × Text × Text) :=
  let (app, s) := match app? (Text.trimStart line) with
    | some (app, s) => (some app, s)
    | none => (none, Text.trimStart line)
  (Location.fileReadings isFrameFileChar s).findSome? fun (file, r) =>
    (frameLine? r).map fun digits => (app, file, digits)

/-- The frame on a line, or nothing when the line is blank or not indented and so no part of a
trace. A line number that cannot be read makes a frame without a location. -/
def Classifier.classify (t : Classifier) (line : Text) : Option Frame :=
  if Text.isBlank line || !Text.isIndented line then none
  else some <| match frameParts? line with
    | none => .function
    | some (app, file, digits) =>
      match Text.number? digits with
      | none => .function
      | some n =>
        if app.isSome || t.libraryPaths.any (· file) then .library app file n else .source file n

/-- Whether an error announced for the file `banner` belongs to a frame. -/
def Classifier.isAnchor (t : Classifier) (frame : Frame) (banner : Text) : Bool :=
  match t.anchor with
  | .bannerFile => frame.location.any fun (file, _) => file == banner
  | .firstSourceFrame =>
    match frame with
    | .source _ _ => true
    | _ => false

end Trace

end ElixirDiagnostics
