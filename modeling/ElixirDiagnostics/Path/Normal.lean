import ElixirDiagnostics.Path.Basic

/-!
# Normal forms of paths

The normal form of a path says where it leads without asking the file system: whether it starts from
the root, how many levels it climbs above its start, and the names it then descends. Climbing takes
back the last name, does nothing at the root, and else leaves the start. Two paths with one normal
form mean the same file as long as no symbolic link is involved.
-/

namespace ElixirDiagnostics

namespace Path

/-- Where a path leads. -/
structure NormalForm where
  /-- Whether the path starts from the root. -/
  absolute : Bool
  /-- How many levels the path climbs above its start. -/
  climbs : Nat
  /-- The names that the path then descends, the last one first. -/
  names : List Text
  deriving DecidableEq, Repr

namespace NormalForm

/-- One level up. -/
def climb (f : NormalForm) : NormalForm :=
  match f.names with
  | _ :: rest => { f with names := rest }
  | [] => if f.absolute then f else { f with climbs := f.climbs + 1 }

/-- Follows one piece of a path. -/
def follow (f : NormalForm) (piece : Text) : NormalForm :=
  if piece = [] ∨ piece = current then f
  else if piece = above then f.climb
  else { f with names := piece :: f.names }

/-- The shortest path that leads there; the start itself is the empty path. -/
def toPath (f : NormalForm) : Path :=
  (if f.absolute then ['/'] else []) ++
    List.intercalate ['/'] (List.replicate f.climbs above ++ f.names.reverse)

end NormalForm

/-- Where a path leads. -/
def normalForm (p : Path) : NormalForm :=
  (List.splitOn '/' p).foldl NormalForm.follow ⟨isAbsolute p, 0, []⟩

/-- The shortest path that leads to the same place. -/
def normalize (p : Path) : Path := (normalForm p).toPath

/-- The shortest path that leads where `p` leads from `base`. -/
def resolve (base p : Path) : Path := normalize (join base p)

end Path

end ElixirDiagnostics
