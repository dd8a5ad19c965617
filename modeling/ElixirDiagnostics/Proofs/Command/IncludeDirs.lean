import ElixirDiagnostics.Command.Invocation
import ElixirDiagnostics.Proofs.Path.Components
import Mathlib.Data.List.Forall2

/-!
# Sources below include directories

For each include directory a command requires a pattern that is put together as text: separators are
taken off at the end of the directory, and the pattern's own names are written behind another one.
Read as a path this is the pattern seen from the directory, however the directory is spelled, be it
the root, a dot or a name with separators behind it. Only a directory that is given by the empty
path, which stands for the place it is seen from, leaves nothing before that separator.
-/

namespace ElixirDiagnostics

namespace Command

open ElixirDiagnostics.Path

variable {dir : Path}

/-- The names that stand for all sources below a directory. -/
def sourceNames : Path := "**/*.ex".toList

/-- A pattern for the sources below a directory: it is read as the names of the sources seen from
the directory, and it starts from the root exactly when the directory does. -/
structure Covers (dir : Path) (pattern : Text) : Prop where
  /-- It has the components of the joined path. -/
  components_eq : components pattern = components (join dir sourceNames)
  /-- It is relative to the same place as the directory. -/
  absolute_eq : isAbsolute pattern = isAbsolute dir

/-- A directory is spelled as what is left of it without separators at its end, and separators. -/
theorem eq_append_separators (dir : Path) :
    ∃ s, (∀ c ∈ s, c = '/') ∧ dir = (dir.reverse.dropWhile (· == '/')).reverse ++ s := by
  refine ⟨(dir.reverse.takeWhile (· == '/')).reverse, ?_, ?_⟩
  · intro c hc
    have hall := List.all_eq_true.1 (List.all_takeWhile (p := (· == '/')) (l := dir.reverse))
    simpa using hall c (List.mem_reverse.1 hc)
  · rw [← List.reverse_append, List.takeWhile_append_dropWhile, List.reverse_reverse]

/-- Without backslashes a directory is taken as it is written. -/
theorem sourcesBelow_of_not_mem (h : '\\' ∉ dir) :
    sourcesBelow dir = (dir.reverse.dropWhile (· == '/')).reverse ++ '/' :: sourceNames := by
  have hmap : (dir.map fun c => if c = '\\' then '/' else c) = dir := by
    conv_rhs => rw [← List.map_id dir]
    refine List.map_congr_left fun c hc => if_neg ?_
    rintro rfl
    exact h hc
  rw [sourcesBelow, hmap]
  rfl

/-- The pattern for a directory that is not empty covers it. -/
theorem covers_sourcesBelow (h : '\\' ∉ dir) (hne : dir ≠ []) : Covers dir (sourcesBelow dir) := by
  have hrelative : isAbsolute sourceNames = false := by decide
  have hcomponents : components (sourcesBelow dir) = components (join dir sourceNames) := by
    obtain ⟨s, hs, hdir⟩ := eq_append_separators dir
    rw [sourcesBelow_of_not_mem h, ← components_append_separators _ _ hs, ← hdir,
      components_append_separator hne, components_join hne hrelative]
  refine ⟨hcomponents, ?_⟩
  rw [isAbsolute_eq_of_components hcomponents, isAbsolute_join_of_relative dir hrelative]

/-- A command for single files takes the step. -/
theorem take_includeDirs {d : Draft} (hd : d.compiler = .elixirc) (dirs : List Path) :
    d.take (.includeDirs dirs) = { d with args := d.args ++ (Step.includeDirs dirs).args } := by
  obtain ⟨compiler, program, args, outputDir⟩ := d
  obtain rfl : compiler = .elixirc := hd
  rfl

/-- At any point in the making of a command for single files, include directories add one pair of
arguments each, in their order, and nothing else changes. The second argument of a pair is a pattern
for the sources below the directory, read in its place, unless the directory is the empty path. -/
theorem includeDirs_covered (d : Draft) (hd : d.compiler = .elixirc) (dirs : List Path)
    (hdirs : ∀ dir ∈ dirs, '\\' ∉ dir) :
    ∃ patterns : List Text,
      d.take (.includeDirs dirs) =
        { d with args := d.args ++ patterns.flatMap fun p => ["-r".toList, p] } ∧
      List.Forall₂ (fun dir p => dir ≠ [] → Covers dir p) dirs patterns := by
  refine ⟨dirs.map sourcesBelow, ?_, ?_⟩
  · rw [take_includeDirs hd, List.flatMap_map]
    rfl
  · rw [List.forall₂_map_right_iff, List.forall₂_same]
    intro dir hdir hne
    exact covers_sourcesBelow (hdirs dir hdir) hne

/-- A command to which code paths and a file have been added already. -/
def laterDraft : Draft where
  compiler := .elixirc
  program := some "/opt/elixirc".toList
  args := ["-pa".toList, "ebin".toList, "web/a.ex".toList]
  outputDir := none

/-- Directories that are spelled with separators and dots at their ends, and the root. -/
def awkwardDirs : List Path :=
  ["/".toList, "lib//".toList, ".".toList, "../web/.".toList, "//opt/".toList]

/-- They are covered by the patterns that are added behind the file. -/
theorem includeDirs_covered_awkwardDirs :
    laterDraft.compiler = .elixirc ∧ (∀ dir ∈ awkwardDirs, '\\' ∉ dir) ∧
    ∃ patterns : List Text,
      laterDraft.take (.includeDirs awkwardDirs) =
        { laterDraft with
          args := laterDraft.args ++ patterns.flatMap fun p => ["-r".toList, p] } ∧
      List.Forall₂ Covers awkwardDirs patterns := by
  have hdirs : ∀ dir ∈ awkwardDirs, '\\' ∉ dir := by decide
  have hne : ∀ dir ∈ awkwardDirs, dir ≠ [] := by decide
  obtain ⟨patterns, htake, hcovers⟩ := includeDirs_covered laterDraft rfl awkwardDirs hdirs
  have hboth := (List.forall₂_and_left _ _).2 ⟨hne, hcovers⟩
  exact ⟨rfl, hdirs, patterns, htake, hboth.imp fun _ _ h => h.2 h.1⟩

/-- The pattern for the empty path begins at the root, so it covers nothing that is seen from where
the command runs. -/
theorem includeDirs_uncovered_empty :
    '\\' ∉ ([] : Path) ∧
    ¬∃ patterns : List Text,
      (Draft.new .elixirc).take (.includeDirs [[]]) =
        { Draft.new .elixirc with
          args := (Draft.new .elixirc).args ++ patterns.flatMap fun p => ["-r".toList, p] } ∧
      List.Forall₂ Covers [[]] patterns := by
  refine ⟨by decide, ?_⟩
  rintro ⟨patterns, htake, hcovers⟩
  cases hcovers with
  | @cons _ pattern _ _ hpattern hrest =>
    cases hrest
    have hpair : ["-r".toList, sourcesBelow []] = ["-r".toList, pattern] :=
      List.append_cancel_left (congrArg Draft.args htake)
    obtain rfl : sourcesBelow [] = pattern := by simpa using hpair
    exact absurd hpattern.absolute_eq (by decide)

end Command

end ElixirDiagnostics
