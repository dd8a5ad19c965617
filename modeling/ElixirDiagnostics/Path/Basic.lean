import ElixirDiagnostics.Text.Basic

/-!
# Paths

A path is kept as text, the way it was given, because reports and commands repeat it unchanged. The
separator is `/`. Pieces between separators that are empty or a single dot name nothing. Joining
replaces the base when the other path is absolute. The ancestors of a path are the path itself and
what is left of it after taking off its last component again and again; `..` is a component like any
other there.
-/

namespace ElixirDiagnostics

/-- A path, as it is written. -/
abbrev Path := Text

namespace Path

/-- The piece that stands for the directory it is in. -/
def current : Text := ['.']

/-- The piece that stands for the directory above. -/
def above : Text := ['.', '.']

/-- Whether a path starts from the root. -/
def isAbsolute (p : Path) : Bool := p.head? == some '/'

/-- The path `p` seen from `base`. -/
def join (base p : Path) : Path :=
  if isAbsolute p then p
  else if base.isEmpty || base.getLast? == some '/' then base ++ p
  else base ++ '/' :: p

/-- The pieces below the root or the start of a path, the last one first. -/
def bodyPieces (p : Path) : List Text :=
  (List.splitOn '/' (if isAbsolute p then p.drop 1 else p)).reverse

/-- Whether the last of some pieces names nothing. At the start of a relative path a dot does name
something: the directory that the path starts from. -/
def isIdle (absolute : Bool) (piece : Text) (before : List Text) : Bool :=
  piece.isEmpty || (piece == current && (absolute || !before.isEmpty))

/-- Drops the pieces at the end that name nothing. -/
def dropIdle (absolute : Bool) : List Text → List Text
  | [] => []
  | w :: ws => if isIdle absolute w ws then dropIdle absolute ws else w :: ws

/-- The path with the given pieces, the last one first, without idle ones at its end. -/
def ofPieces (absolute : Bool) (ps : List Text) : Path :=
  (if absolute then ['/'] else []) ++ List.intercalate ['/'] (dropIdle absolute ps).reverse

/-- The paths above the one with the given pieces, the nearest one first. -/
def ancestorsOf (absolute : Bool) : List Text → List Path
  | [] => []
  | w :: ws =>
    if isIdle absolute w ws then ancestorsOf absolute ws
    else ofPieces absolute ws :: ancestorsOf absolute ws

/-- The proper ancestors of a path, the nearest one first. -/
def properAncestors (p : Path) : List Path := ancestorsOf (isAbsolute p) (bodyPieces p)

/-- A path and its proper ancestors. -/
def ancestors (p : Path) : List Path := p :: properAncestors p

/-- The nearest proper ancestor. -/
def parent? (p : Path) : Option Path := (properAncestors p).head?

end Path

end ElixirDiagnostics
