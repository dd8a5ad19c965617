import ElixirDiagnostics.Proofs.Path.Ancestors
import ElixirDiagnostics.Settings.Lookup

/-!
# Where the files of a project are found

In a tree without links, where a path and its normal form are the same file, the settings that are
found for a directory are those of the deepest directory that holds a settings file, among the
directory itself and those above it; and the root of a project is the deepest directory above the
file that holds a project file. This is so as long as no such file lies in a detour of the path,
which is a directory that the path enters and leaves again by two dots. In a detour a file is found
although it lies in no directory above. A path without two dots takes none.
-/

namespace ElixirDiagnostics

namespace Settings

open ElixirDiagnostics.Path

variable {isFile : Path → Bool} {p a : Path}

/-- In a known tree the first file of a list is found without side effects. -/
theorem firstFile?_run (isFile : Path → Bool) (ps : List Path) :
    (firstFile? (m := Id) (fun q => pure (isFile q)) ps).run = ps.find? isFile := by
  induction ps with
  | nil => rfl
  | cons p ps ih =>
    rw [firstFile?, List.find?_cons]
    cases isFile p <;> simp [ih]

/-- And so is the first directory that holds a project file. -/
theorem firstRoot?_run (isFile : Path → Bool) (ds : List Path) :
    (firstRoot? (m := Id) (fun q => pure (isFile q)) ds).run =
      ds.find? fun d => isFile (join d projectFile) := by
  induction ds with
  | nil => rfl
  | cons d ds ih =>
    rw [firstRoot?, List.find?_cons]
    cases isFile (join d projectFile) <;> simp [ih]

/-- The settings file that is found for a directory is that of its first ancestor that holds one. -/
theorem discover_run (isFile : Path → Bool) (p : Path) :
    (discover (m := Id) (fun q => pure (isFile q)) p).run =
      ((ancestors p).find? fun d => isFile (join d fileName)).map (join · fileName) := by
  rw [discover, firstFile?_run, List.find?_map]
  rfl

/-- The project root that is found for a file is its first proper ancestor that holds a project
file. -/
theorem projectRoot_run (isFile : Path → Bool) (p : Path) :
    (projectRoot (m := Id) (fun q => pure (isFile q)) p).run =
      (properAncestors p).find? fun d => isFile (join d projectFile) :=
  firstRoot?_run isFile (properAncestors p)

/-- A tree without links, as its existing files are seen from absolute paths. -/
def Linkless (isFile : Path → Bool) : Prop :=
  ∀ q, isAbsolute q = true → isFile (normalize q) = isFile q

/-- In a tree without links it does not matter how a directory that holds a file is spelled. -/
theorem Linkless.isFile_join {name : Text} (h : Linkless isFile) (hname : IsName name)
    (ha : isAbsolute a = true) : isFile (join (normalize a) name) = isFile (join a name) := by
  rw [← normalize_join_of_isName ha hname, h _ (isAbsolute_join ha name)]

/-- The tree without links that holds the given files, named by their normal forms. -/
def treeOf (files : List Path) (q : Path) : Bool := files.contains (normalize q)

/-- It has no links. -/
theorem linkless_treeOf (files : List Path) : Linkless (treeOf files) := by
  intro q hq
  have hnormal : normalize (normalize q) = normalize q := by
    have habs : isAbsolute (normalize q) = true := by
      rw [normalize_of_absolute hq]
      exact isAbsolute_ofNames _
    rw [normalize_eq_iff habs hq, walkFrom_normalize hq]
  rw [treeOf, treeOf, hnormal]

/-- The name of the settings file is one. -/
theorem isName_fileName : IsName fileName := by decide

/-- The name of the project file is one. -/
theorem isName_projectFile : IsName projectFile := by decide

/-- In a tree without links the search for settings finds the file of the deepest directory that
holds one, unless a settings file lies in a detour. -/
theorem isDeepest_of_discover (hlinks : Linkless isFile) (hp : isAbsolute p = true)
    (hdetour : ∀ a ∈ ancestors p, normalize a ∉ ancestors (normalize p) →
      isFile (join a fileName) = false) :
    (∀ q, (discover (m := Id) (fun q => pure (isFile q)) p).run = some q →
      ∃ d, IsDeepest (fun d => isFile (join d fileName)) (ancestors (normalize p)) d ∧
        normalize q = join d fileName) ∧
    ((discover (m := Id) (fun q => pure (isFile q)) p).run = none ↔
      ∀ d ∈ ancestors (normalize p), isFile (join d fileName) = false) := by
  have hfind := find?_ancestors hp (fun a => hlinks.isFile_join isName_fileName) hdetour
  rw [discover_run]
  constructor
  · intro q hq
    obtain ⟨a, ha, rfl⟩ := Option.map_eq_some_iff.1 hq
    have habs := isAbsolute_of_mem_ancestors hp (List.mem_of_find?_eq_some ha)
    refine ⟨normalize a, ?_, normalize_join_of_isName habs isName_fileName⟩
    rw [ha, Option.map_some, ancestors_normalize hp] at hfind
    rw [ancestors_normalize hp]
    exact isDeepest_of_find? (isName_of_mem_walkFrom p) hfind.symm
  · rw [Option.map_eq_none_iff, ← Option.map_eq_none_iff (f := normalize), hfind,
      List.find?_eq_none]
    simp only [Bool.not_eq_true]

/-- And the search for a project finds the deepest directory above that holds a project file, unless
one lies in a detour. -/
theorem isDeepest_of_projectRoot (hlinks : Linkless isFile) (hp : isAbsolute p = true)
    (hdetour : ∀ a ∈ properAncestors p, normalize a ∉ properAncestors (normalize p) →
      isFile (join a projectFile) = false) :
    (∀ r, (projectRoot (m := Id) (fun q => pure (isFile q)) p).run = some r →
      IsDeepest (fun d => isFile (join d projectFile)) (properAncestors (normalize p))
        (normalize r)) ∧
    ((projectRoot (m := Id) (fun q => pure (isFile q)) p).run = none ↔
      ∀ d ∈ properAncestors (normalize p), isFile (join d projectFile) = false) := by
  have hnames := isName_of_mem_walkFrom p
  have hfind := find?_properAncestors hp (fun a => hlinks.isFile_join isName_projectFile) hdetour
  rw [projectRoot_run]
  constructor
  · intro r hr
    rw [hr, Option.map_some] at hfind
    rw [properAncestors_normalize hp] at hfind ⊢
    cases hs : walkFrom [] p with
    | nil =>
      rw [hs] at hfind
      contradiction
    | cons w s =>
      rw [hs] at hfind hnames
      rw [List.tails_cons, List.tail_cons] at hfind ⊢
      exact isDeepest_of_find? (fun v hv => hnames v (List.mem_cons_of_mem w hv)) hfind.symm
  · rw [← Option.map_eq_none_iff (f := normalize), hfind, List.find?_eq_none]
    simp only [Bool.not_eq_true]

/-- In a tree without links, from an absolute path however it is spelled, the search for settings
finds the file of the deepest directory that holds one, among the one that the path leads to and
those above it, and finds none exactly when none of them holds one, unless a settings file lies in a
detour of the path. And the search for a project finds the deepest directory above that holds a
project file, and none exactly when none does, unless a project file lies in a detour. -/
theorem deepest_found (hlinks : Linkless isFile) (hp : isAbsolute p = true) :
    ((∀ a ∈ ancestors p, normalize a ∉ ancestors (normalize p) →
        isFile (join a fileName) = false) →
      (∀ q, (discover (m := Id) (fun q => pure (isFile q)) p).run = some q →
        ∃ d, IsDeepest (fun d => isFile (join d fileName)) (ancestors (normalize p)) d ∧
          normalize q = join d fileName) ∧
      ((discover (m := Id) (fun q => pure (isFile q)) p).run = none ↔
        ∀ d ∈ ancestors (normalize p), isFile (join d fileName) = false)) ∧
    ((∀ a ∈ properAncestors p, normalize a ∉ properAncestors (normalize p) →
        isFile (join a projectFile) = false) →
      (∀ r, (projectRoot (m := Id) (fun q => pure (isFile q)) p).run = some r →
        IsDeepest (fun d => isFile (join d projectFile)) (properAncestors (normalize p))
          (normalize r)) ∧
      ((projectRoot (m := Id) (fun q => pure (isFile q)) p).run = none ↔
        ∀ d ∈ properAncestors (normalize p), isFile (join d projectFile) = false)) := by
  constructor
  · intro hdetour
    exact isDeepest_of_discover hlinks hp hdetour
  · intro hdetour
    exact isDeepest_of_projectRoot hlinks hp hdetour

/-- Settings and a project file in the directory that holds all applications, and more settings
above it and in another application. -/
def nestedFiles : List Path :=
  ["/apps/.elixirc-lint.toml".toList, "/apps/mix.exs".toList, "/.elixirc-lint.toml".toList,
    "/apps/c/.elixirc-lint.toml".toList]

/-- A path that takes a detour in which there is no file finds the files of the deepest directory,
by names that repeat the detour. -/
theorem deepest_found_nested :
    (Linkless (treeOf nestedFiles) ∧ isAbsolute "/apps/a/.././b".toList = true ∧
      (∀ a ∈ ancestors "/apps/a/.././b".toList,
        normalize a ∉ ancestors (normalize "/apps/a/.././b".toList) →
          treeOf nestedFiles (join a fileName) = false) ∧
      (∀ a ∈ properAncestors "/apps/a/.././b".toList,
        normalize a ∉ properAncestors (normalize "/apps/a/.././b".toList) →
          treeOf nestedFiles (join a projectFile) = false)) ∧
    (∃ d, IsDeepest (fun d => treeOf nestedFiles (join d fileName))
        (ancestors (normalize "/apps/a/.././b".toList)) d ∧
      normalize "/apps/a/../.elixirc-lint.toml".toList = join d fileName) ∧
    IsDeepest (fun d => treeOf nestedFiles (join d projectFile))
      (properAncestors (normalize "/apps/a/.././b".toList)) (normalize "/apps/a/..".toList) := by
  have hlinks := linkless_treeOf nestedFiles
  have hp : isAbsolute "/apps/a/.././b".toList = true := by decide
  have hsettings : ∀ a ∈ ancestors "/apps/a/.././b".toList,
      normalize a ∉ ancestors (normalize "/apps/a/.././b".toList) →
        treeOf nestedFiles (join a fileName) = false := by decide
  have hproject : ∀ a ∈ properAncestors "/apps/a/.././b".toList,
      normalize a ∉ properAncestors (normalize "/apps/a/.././b".toList) →
        treeOf nestedFiles (join a projectFile) = false := by decide
  have hfound := ((deepest_found hlinks hp).1 hsettings).1 "/apps/a/../.elixirc-lint.toml".toList
  have hroot := ((deepest_found hlinks hp).2 hproject).1 "/apps/a/..".toList
  rw [discover_run] at hfound
  rw [projectRoot_run] at hroot
  exact ⟨⟨hlinks, hp, hsettings, hproject⟩, hfound (by decide), hroot (by decide)⟩

/-- A path without two dots takes no detour, so from there the deepest directory is found wherever
files lie. -/
theorem isDeepest_of_straight (hlinks : Linkless isFile) (hp : isAbsolute p = true)
    (hstraight : above ∉ p.splitOn '/') :
    (∀ q, (discover (m := Id) (fun q => pure (isFile q)) p).run = some q →
      ∃ d, IsDeepest (fun d => isFile (join d fileName)) (ancestors (normalize p)) d ∧
        normalize q = join d fileName) ∧
    ∀ r, (projectRoot (m := Id) (fun q => pure (isFile q)) p).run = some r →
      IsDeepest (fun d => isFile (join d projectFile)) (properAncestors (normalize p))
        (normalize r) := by
  have hsettings := isDeepest_of_discover hlinks hp fun a ha hout =>
    absurd (normalize_mem_ancestors hp hstraight ha) hout
  have hproject := isDeepest_of_projectRoot hlinks hp fun a ha hout =>
    absurd (normalize_mem_properAncestors hp hstraight ha) hout
  exact ⟨hsettings.1, hproject.1⟩

/-- A settings file and a project file beside the directory `/apps/b`, in a directory that the path
`/apps/a/../b` enters and leaves. -/
def detourFiles : List Path := ["/apps/a/.elixirc-lint.toml".toList, "/apps/a/mix.exs".toList]

/-- These files are found, although no directory above `/apps/b` holds any. -/
theorem found_beside :
    Linkless (treeOf detourFiles) ∧
    (∀ d ∈ ancestors (normalize "/apps/a/../b".toList),
      treeOf detourFiles (join d fileName) = false) ∧
    (discover (m := Id) (fun q => pure (treeOf detourFiles q)) "/apps/a/../b".toList).run =
      some "/apps/a/.elixirc-lint.toml".toList ∧
    (∀ d ∈ properAncestors (normalize "/apps/a/../b/foo.ex".toList),
      treeOf detourFiles (join d projectFile) = false) ∧
    (projectRoot (m := Id) (fun q => pure (treeOf detourFiles q))
      "/apps/a/../b/foo.ex".toList).run = some "/apps/a".toList := by
  refine ⟨linkless_treeOf _, by decide, ?_, by decide, ?_⟩
  · rw [discover_run]
    decide
  · rw [projectRoot_run]
    decide

/-- Every path that takes a detour finds a file there in some tree in which no directory above the
path's end holds one. -/
theorem exists_tree_of_detour (hp : isAbsolute p = true) (ha : a ∈ ancestors p)
    (hout : normalize a ∉ ancestors (normalize p)) :
    ∃ isFile, Linkless isFile ∧
      (∀ d ∈ ancestors (normalize p), isFile (join d fileName) = false) ∧
      (discover (m := Id) (fun q => pure (isFile q)) p).run ≠ none := by
  have habs := isAbsolute_of_mem_ancestors hp ha
  have hnames := isName_of_mem_walkFrom a
  refine ⟨treeOf [join (normalize a) fileName], linkless_treeOf _, ?_, ?_⟩
  · intro d hd
    rw [ancestors_normalize hp] at hd hout
    obtain ⟨s, hs, rfl⟩ := List.mem_map.1 hd
    have hs' : ∀ w ∈ fileName :: s, IsName w :=
      List.forall_mem_cons.2 ⟨isName_fileName, isName_of_mem_tails p s hs⟩
    have ha' : ∀ w ∈ fileName :: walkFrom [] a, IsName w :=
      List.forall_mem_cons.2 ⟨isName_fileName, hnames⟩
    rw [Bool.eq_false_iff]
    intro hfile
    -- The one file of the tree lies where `a` leads, which is none of the directories above.
    have hsame : normalize (join (ofNames s) fileName) = join (normalize a) fileName := by
      simpa [treeOf] using hfile
    rw [join_ofNames isName_fileName (isName_of_mem_tails p s hs), normalize_of_absolute habs,
      join_ofNames isName_fileName hnames, normalize_of_absolute (isAbsolute_ofNames _),
      walkFrom_ofNames hs', ofNames_inj hs' ha'] at hsame
    obtain rfl : s = walkFrom [] a := (List.cons.inj hsame).2
    exact hout ((mem_of_normalize_mem (isName_of_mem_tails p) habs).2 hs)
  · rw [discover_run, Ne, Option.map_eq_none_iff, List.find?_eq_none]
    intro hnone
    refine hnone a ha ?_
    simp [treeOf, normalize_join_of_isName habs isName_fileName]

end Settings

end ElixirDiagnostics
