import ElixirDiagnostics.Inspection
import ElixirDiagnostics.Proofs.Path.Walk

/-!
# Which diagnostics belong to the inspected file

A diagnostic with a file belongs to the inspected file exactly when its file and the inspected path
lead to the same place from the working directory. How the two paths are spelled has no part in it.
-/

namespace ElixirDiagnostics

namespace Inspection

open ElixirDiagnostics.Path

variable {workingDir : Path}

/-- A diagnostic is accepted when it has a file that resolves like the inspected one. -/
theorem accepts_ofFile_iff (workingDir file : Path) (d : Diagnostic) :
    (ofFile workingDir file).accepts d = true ↔
      d.file ≠ [] ∧ Path.resolve workingDir d.file = Path.resolve workingDir file := by
  simp [accepts, ofFile, resolve]

/-- Under an absolute working directory a diagnostic is accepted exactly when it has a file, and the
walks of its file and of the inspected path end at the same place. So a diagnostic is accepted or
not in whatever way its file and the inspected path are spelled: relative or absolute, with
separators repeated or at the end, with dots, or with names that are taken back by two dots. -/
theorem accepts_iff_walk (hdir : isAbsolute workingDir = true) (file : Path) (d : Diagnostic) :
    ((ofFile workingDir file).accepts d = true ↔
      d.file ≠ [] ∧ walk workingDir d.file = walk workingDir file) ∧
    ∀ (file' : Path) (d' : Diagnostic),
      SameSpelled workingDir file file' → SameSpelled workingDir d.file d'.file →
        d.file ≠ [] → d'.file ≠ [] →
          (ofFile workingDir file').accepts d' = (ofFile workingDir file).accepts d := by
  have hiff : ∀ (f : Path) (e : Diagnostic), (ofFile workingDir f).accepts e = true ↔
      e.file ≠ [] ∧ walk workingDir e.file = walk workingDir f := by
    intro f e
    rw [accepts_ofFile_iff, resolve_eq_iff hdir]
  constructor
  · exact hiff file d
  · intro file' d' hfile hd hne hne'
    have hwalk := walk_of_sameSpelled hdir hfile
    have hwalk' := walk_of_sameSpelled hdir hd
    rw [Bool.eq_iff_iff, hiff, hiff, hwalk, hwalk']
    simp only [hne, hne', ne_eq, not_false_eq_true, true_and]

/-- An error in a file that is spelled with a detour, twice a separator and a dot. -/
def detouredError : Diagnostic := ⟨"lib/../web//./router.ex".toList, 7, .error, "boom".toList⟩

/-- It belongs to the file when that is given by its absolute path, and so does the same error with
the file spelled shortly when that is given relative to the working directory. -/
theorem accepts_detouredError :
    isAbsolute "/proj".toList = true ∧
    (ofFile "/proj".toList "/proj/web/router.ex".toList).accepts detouredError = true ∧
    (ofFile "/proj".toList "web/router.ex".toList).accepts
        { detouredError with file := "web/router.ex".toList } = true := by
  have hdir : isAbsolute "/proj".toList = true := by decide
  have hwalk : walk "/proj".toList detouredError.file =
      walk "/proj".toList "/proj/web/router.ex".toList := by decide
  have haccepts := (accepts_iff_walk hdir "/proj/web/router.ex".toList detouredError).1.2
    ⟨by decide, hwalk⟩
  have hfile : SameSpelled "/proj".toList "/proj/web/router.ex".toList "web/router.ex".toList :=
    .symm _ _ (.rel _ _ (.joined "web/router.ex".toList))
  have hdetour : Respelling "/proj".toList "web//./router.ex".toList detouredError.file :=
    .padded [] ["lib".toList, above] ["web".toList, [], current, "router.ex".toList] (by decide)
      (by decide) (by decide) (.inr (.inr ⟨"lib".toList, by decide, rfl⟩))
  have hdot : Respelling "/proj".toList "web//router.ex".toList "web//./router.ex".toList :=
    .padded ["web".toList, []] [current] ["router.ex".toList] (by decide) (by decide) (by decide)
      (.inr (.inl rfl))
  have hempty : Respelling "/proj".toList "web/router.ex".toList "web//router.ex".toList :=
    .padded ["web".toList] [[]] ["router.ex".toList] (by decide) (by decide) (by decide) (.inl rfl)
  have hspelled : SameSpelled "/proj".toList detouredError.file "web/router.ex".toList :=
    .symm _ _ (.trans _ _ _ (.rel _ _ hempty) (.trans _ _ _ (.rel _ _ hdot) (.rel _ _ hdetour)))
  have hsame := (accepts_iff_walk hdir "/proj/web/router.ex".toList detouredError).2
    "web/router.ex".toList { detouredError with file := "web/router.ex".toList } hfile hspelled
    (by decide) (by decide)
  exact ⟨hdir, haccepts, hsame.trans haccepts⟩

end Inspection

end ElixirDiagnostics
