import ElixirDiagnostics.Pattern.Basic

/-!
# Flags of patterns and what can be wrong with a pattern

Flags in parentheses change how the rest of a group is read: letters without regard to case, lines
instead of the whole text, white space and comments between the parts of the pattern.
-/

namespace ElixirDiagnostics

namespace Pattern

/-- Why a text is no pattern. -/
inductive Error where
  /-- A group is opened and not closed. -/
  | unclosedGroup
  /-- A group is closed and not opened. -/
  | unopenedGroup
  /-- The pattern looks around the place it is at, which is not supported. -/
  | lookAround
  /-- A group has an empty, malformed or repeated name. -/
  | groupName
  /-- Flags are unknown, repeated or not closed. -/
  | flags
  /-- There is nothing to repeat. -/
  | nothingToRepeat
  /-- The counts of a repetition are missing, too large or in the wrong order. -/
  | repetition
  /-- A bracketed set is not closed or holds something that is no character. -/
  | charSet
  /-- An escape is unknown or not complete. -/
  | escape
  /-- A property or its value is unknown. -/
  | property
  /-- A set reaches beyond ASCII where only bytes are allowed. -/
  | bytes
  /-- Groups and repetitions are nested too deeply. -/
  | tooDeep
  /-- The pattern is too large. -/
  | tooLarge
  deriving DecidableEq, Repr

/-- What is said about it. -/
def Error.message : Error → Text
  | unclosedGroup => "unclosed group".toList
  | unopenedGroup => "unopened group".toList
  | lookAround => "look-around is not supported".toList
  | groupName => "invalid group name".toList
  | flags => "invalid flags".toList
  | nothingToRepeat => "repetition operator missing expression".toList
  | repetition => "invalid repetition count".toList
  | charSet => "invalid character class".toList
  | escape => "unrecognized escape sequence".toList
  | property => "property not found".toList
  | bytes => "pattern can match invalid text".toList
  | tooDeep => "pattern is nested too deeply".toList
  | tooLarge => "pattern exceeds the size limit".toList

/-- How a part of a pattern is read. -/
structure Flags where
  /-- Letters match in either case. -/
  caseless : Bool := false
  /-- The start and end of lines count as those of the text. -/
  multiLine : Bool := false
  /-- The dot matches line ends too. -/
  dotAll : Bool := false
  /-- Classes have their Unicode meaning. -/
  unicode : Bool := true
  /-- A carriage return ends lines too. -/
  crlf : Bool := false
  /-- White space and comments in the pattern mean nothing. -/
  extended : Bool := false
  deriving DecidableEq, Repr

/-- Drops white space and comments; `comment` tells that a comment has begun. -/
def skipComments (comment : Bool) : Text → Text
  | [] => []
  | c :: r =>
    if comment then skipComments (c != '\n') r
    else if Text.isSpace c then skipComments false r
    else if c = '#' then skipComments true r
    else c :: r

namespace Flags

/-- Drops what means nothing between the parts of a pattern. -/
def skip (f : Flags) (s : Text) : Text := if f.extended then skipComments false s else s

/-- Sets or clears the flag of a letter. -/
def set? (f : Flags) (letter : Char) (value : Bool) : Option Flags :=
  match letter with
  | 'i' => some { f with caseless := value }
  | 'm' => some { f with multiLine := value }
  | 's' => some { f with dotAll := value }
  | 'U' => some f
  | 'u' => some { f with unicode := value }
  | 'R' => some { f with crlf := value }
  | 'x' => some { f with extended := value }
  | _ => none

/-- Reads flags up to the colon or parenthesis that ends them. The first flag after a dash is
cleared and so are all that follow; `seen` holds the letters and the dash so far. -/
def read (f : Flags) (seen : List Char) : Text → Except Error (Flags × List Char × Char × Text)
  | [] => .error .flags
  | c :: r =>
    if c = ':' ∨ c = ')' then
      if seen.head? = some '-' then .error .flags else .ok (f, seen, c, r)
    else if c ∈ seen then .error .flags
    else if c = '-' then read f (c :: seen) r
    else match f.set? c ('-' ∉ seen) with
      | some f => read f (c :: seen) r
      | none => .error .flags

/-- A set as it matches under the flags. -/
def fold (f : Flags) (s : CharSet) : CharSet :=
  if f.caseless then (if f.unicode then .folded s else .asciiFolded s) else s

/-- The set of the dot. -/
def dot (f : Flags) : CharSet :=
  if f.dotAll then .compl .none
  else if f.crlf then .compl (.ofList ['\r', '\n']) else .compl (.single '\n')

/-- The start of the text or line. -/
def startAssertion (f : Flags) : Assertion := if f.multiLine then .lineStart f.crlf else .textStart

/-- The end of the text or line. -/
def endAssertion (f : Flags) : Assertion := if f.multiLine then .lineEnd f.crlf else .textEnd

end Flags

end Pattern

end ElixirDiagnostics
