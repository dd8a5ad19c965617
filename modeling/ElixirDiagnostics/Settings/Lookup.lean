import ElixirDiagnostics.Log
import ElixirDiagnostics.Settings.Basic

/-!
# Finding settings

Without a settings file of its own, a file has the settings of the nearest directory above it that
holds one, and else the defaults. The root of the project that a file belongs to is found in the
same way. Looking for files is all that is asked of the file system.
-/

namespace ElixirDiagnostics

namespace Settings

/-- The file that says where a project's root is. -/
def projectFile : Path := "mix.exs".toList

/-- The first path that is a file. -/
def firstFile? {m : Type → Type} [Monad m] (isFile : Path → m Bool) : List Path → m (Option Path)
  | [] => pure none
  | p :: ps => do if ← isFile p then return some p else firstFile? isFile ps

/-- The settings file for a directory: the nearest one in it or above it. -/
def discover {m : Type → Type} [Monad m] (isFile : Path → m Bool) (start : Path) :
    m (Option Path) :=
  firstFile? isFile ((Path.ancestors start).map (Path.join · fileName))

/-- The first directory that holds a project file. -/
def firstRoot? {m : Type → Type} [Monad m] (isFile : Path → m Bool) :
    List Path → m (Option Path)
  | [] => pure none
  | d :: ds => do
    if ← isFile (Path.join d projectFile) then return some d else firstRoot? isFile ds

/-- The root of the project that a file belongs to: the nearest directory above it that holds a
project file. -/
def projectRoot {m : Type → Type} [Monad m] (isFile : Path → m Bool) (file : Path) :
    m (Option Path) :=
  firstRoot? isFile (Path.properAncestors file)

/-- Why there are no settings. -/
inductive LoadError where
  /-- The text is not one of settings. -/
  | invalid
  /-- The file cannot be read as text. -/
  | unreadable (file : Path)
  /-- The text of the file is not one of settings. -/
  | invalidFile (file : Path)
  deriving DecidableEq, Repr

namespace LoadError

/-- The messages of an error, the outermost first. -/
def messages : LoadError → List Text
  | invalid => ["invalid ".toList ++ title ++ " settings".toList]
  | unreadable file => ["failed to read settings file ".toList ++ file]
  | invalidFile file =>
    ["in settings file ".toList ++ file, "invalid ".toList ++ title ++ " settings".toList]

end LoadError

/-- What the search for settings tells the log. -/
inductive Event where
  /-- Settings were read from a file. -/
  | loaded (file : Path) (settings : Settings)
  /-- There is no settings file for a directory. -/
  | notFound (start : Path)

/-- The log record of an event. -/
def Event.record : Event → LogRecord
  | loaded file s =>
    ⟨.debug, "loaded settings from ".toList ++ file ++ ": ".toList ++ s.listing⟩
  | notFound start =>
    ⟨.debug, "no ".toList ++ fileName ++ " found above ".toList ++ start⟩

/-- What the search for settings asks of its surroundings. -/
structure Files (m : Type → Type) where
  /-- Whether a path is a file. -/
  isFile : Path → m Bool
  /-- The text of a file, if it can be read. -/
  read? : Path → m (Option Text)
  /-- Takes a log record. -/
  log : LogRecord → m Unit

/-- The settings in a text. -/
def ofText (read? : Reader) (text : Text) : Except LoadError Settings :=
  match read? text with
  | some s => .ok s
  | none => .error .invalid

/-- Reads a settings file. -/
def load {m : Type → Type} [Monad m] (read? : Reader) (files : Files m) (file : Path) :
    m (Except LoadError Settings) := do
  match ← files.read? file with
  | none => return .error (.unreadable file)
  | some text =>
    match read? text with
    | none => return .error (.invalidFile file)
    | some s => do
      files.log (Event.loaded file s).record
      return .ok s

/-- The settings of a file if one is given, else of the nearest one for a directory, else the
defaults. -/
def resolve {m : Type → Type} [Monad m] (read? : Reader) (files : Files m)
    (explicit : Option Path) (start : Path) : m (Except LoadError Settings) := do
  match explicit with
  | some file => load read? files file
  | none =>
    match ← discover files.isFile start with
    | some file => load read? files file
    | none => do
      files.log (Event.notFound start).record
      return .ok {}

end Settings

end ElixirDiagnostics
