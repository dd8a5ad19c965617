import ElixirDiagnostics.Proofs.Command.Draft

/-!
# Settings under command lines

Any number of command lines can be laid over the settings of a project, one after the other. Lists
grow by what each command line adds, in that order; whether the whole project is compiled is decided
by the first one that asks for it and never taken back; of the program and the anchor the last one
that is named counts, and those of the settings only where none is. The command that is made of the
result is written down here in full.
-/

namespace ElixirDiagnostics

namespace Command

namespace Options

/-- The settings under some command lines, the first of which is laid over them first. -/
def overrideAll (os : List Options) (s : Settings) : Settings :=
  os.foldl (fun s o => o.override s) s

/-- The first command line is laid over the settings before the others are. -/
theorem overrideAll_cons (o : Options) (os : List Options) (s : Settings) :
    overrideAll (o :: os) s = overrideAll os (o.override s) :=
  rfl

/-- What each of the settings is in the end. -/
theorem overrideAll_eq (os : List Options) (s : Settings) :
    overrideAll os s =
      { includeDirs := s.includeDirs ++ os.flatMap Options.includeDirs
        codePaths := s.codePaths ++ os.flatMap Options.codePaths
        mixProject := s.mixProject || os.any Options.mix
        executable := (lastGiven? Options.executable os).or s.executable
        args := s.args ++ os.flatMap Options.extra
        trace :=
          { anchor := (lastGiven? Options.anchor os).getD s.trace.anchor
            libraryPatterns := s.trace.libraryPatterns } } := by
  induction os generalizing s with
  | nil => simp [overrideAll, lastGiven?]
  | cons o os ih =>
    have hanchor : (lastGiven? Options.anchor os).getD (o.anchor.getD s.trace.anchor) =
        ((lastGiven? Options.anchor os).or o.anchor).getD s.trace.anchor := by
      cases lastGiven? Options.anchor os <;> rfl
    rw [overrideAll_cons, ih, lastGiven?_cons, lastGiven?_cons, ← hanchor]
    simp only [override, List.flatMap_cons, List.any_cons, List.append_assoc, Bool.or_assoc,
      Option.or_assoc]

/-- The whole project is compiled as soon as one of them asks for it. -/
theorem mixProject_overrideAll (os : List Options) (s : Settings) :
    (overrideAll os s).mixProject = true ↔ s.mixProject = true ∨ ∃ o ∈ os, o.mix = true := by
  rw [overrideAll_eq, Bool.or_eq_true, List.any_eq_true]

end Options

variable {s : Settings}

/-- The build tool is chosen to compile the whole project, and for nothing else. -/
theorem compilerOf_eq_mix_iff : compilerOf s = .mix ↔ s.mixProject = true := by
  unfold compilerOf
  split
  · next h => exact iff_of_true rfl h
  · next h => exact iff_of_false nofun h

/-- The command that settings for a whole project make. -/
theorem invocation_of_mixProject (h : s.mixProject = true) (temp file workingDir : Path) :
    invocation temp s file workingDir =
      { program := s.executable.getD "mix".toList
        args := "compile".toList :: s.args
        workingDir := workingDir
        outputDir := none } := by
  have hmix : compilerOf s = .mix := compilerOf_eq_mix_iff.2 h
  rw [invocation, hmix]
  rfl

/-- The command that settings for a single file make. -/
theorem invocation_of_single (h : s.mixProject = false) (temp file workingDir : Path) :
    invocation temp s file workingDir =
      { program := s.executable.getD "elixirc".toList
        args := ["--warnings-as-errors".toList, "--ignore-module-conflict".toList] ++
          ["-o".toList, defaultOutputDir temp] ++
          (s.codePaths.flatMap fun p => ["-pa".toList, p]) ++
          (s.includeDirs.flatMap fun d => ["-r".toList, sourcesBelow d]) ++ s.args ++ [file]
        workingDir := workingDir
        outputDir := some (defaultOutputDir temp) } := by
  have hsingle : compilerOf s = .elixirc := if_neg (by simp [h])
  rw [invocation, hsingle]
  rfl

/-- The command that settings make under any number of command lines. The whole project is compiled
exactly if the settings or one of the command lines ask for it. Then the arguments are the build
tool's task and the further arguments of the settings and of each command line, and nothing is named
where it writes to. Else they are the two usual switches, the usual output directory, the code paths
and then the include directories of the settings and of each command line, their further arguments,
and the file. The program is the last one that a command line names, else that of the settings, else
the usual one. The anchor is the last one that a command line names, else that of the settings, and
the patterns for library code are those of the settings. -/
theorem invocation_overrideAll (temp : Path) (s : Settings) (os : List Options)
    (file workingDir : Path) :
    let r := Options.overrideAll os s
    let wholeProject := s.mixProject = true ∨ ∃ o ∈ os, o.mix = true
    let executable := (lastGiven? Options.executable os).or s.executable
    let further := s.args ++ os.flatMap Options.extra
    (compilerOf r = .mix ↔ wholeProject) ∧
    (wholeProject → invocation temp r file workingDir =
      { program := executable.getD "mix".toList
        args := "compile".toList :: further
        workingDir := workingDir
        outputDir := none }) ∧
    (¬wholeProject → invocation temp r file workingDir =
      { program := executable.getD "elixirc".toList
        args := ["--warnings-as-errors".toList, "--ignore-module-conflict".toList] ++
          ["-o".toList, defaultOutputDir temp] ++
          ((s.codePaths ++ os.flatMap Options.codePaths).flatMap fun p => ["-pa".toList, p]) ++
          ((s.includeDirs ++ os.flatMap Options.includeDirs).flatMap fun d =>
            ["-r".toList, sourcesBelow d]) ++ further ++ [file]
        workingDir := workingDir
        outputDir := some (defaultOutputDir temp) }) ∧
    r.trace.anchor = (lastGiven? Options.anchor os).getD s.trace.anchor ∧
    r.trace.libraryPatterns = s.trace.libraryPatterns := by
  intro r wholeProject executable further
  have hr : r = _ := Options.overrideAll_eq os s
  have hmix : r.mixProject = true ↔ wholeProject := Options.mixProject_overrideAll os s
  refine ⟨compilerOf_eq_mix_iff.trans hmix, fun h => ?_, fun h => ?_, by rw [hr], by rw [hr]⟩
  · rw [invocation_of_mixProject (hmix.2 h), hr]
  · have hsingle : r.mixProject = false := Bool.eq_false_iff.2 fun hr => h (hmix.1 hr)
    rw [invocation_of_single hsingle, hr]

/-- Settings that name a program, a code path and a further argument. -/
def namedSettings : Settings where
  codePaths := ["a".toList]
  executable := some "x".toList
  args := ["-v".toList]
  trace := { libraryPatterns := ["^deps/".toList] }

/-- A command line that names another program, another anchor, a code path and a directory. -/
def namingOptions : Options where
  codePaths := ["b".toList]
  includeDirs := ["lib/".toList]
  executable := some "y".toList
  anchor := some .firstSourceFrame

/-- A command line that asks for the whole project, with a further argument. -/
def projectOptions : Options where
  mix := true
  extra := ["--force".toList]

/-- One of the command lines alone, and then both of them, in which the one that comes first still
names the program. -/
theorem invocation_overrideAll_named :
    invocation "/tmp".toList (Options.overrideAll [namingOptions] namedSettings) "f.ex".toList
        "/p".toList =
      ⟨"y".toList, ["--warnings-as-errors", "--ignore-module-conflict", "-o", "/tmp/elixirc-lint",
        "-pa", "a", "-pa", "b", "-r", "lib/**/*.ex", "-v", "f.ex"].map String.toList, "/p".toList,
        some "/tmp/elixirc-lint".toList⟩ ∧
    invocation "/tmp".toList (Options.overrideAll [namingOptions, projectOptions] namedSettings)
        "f.ex".toList "/p".toList =
      ⟨"y".toList, ["compile", "-v", "--force"].map String.toList, "/p".toList, none⟩ ∧
    (Options.overrideAll [namingOptions, projectOptions] namedSettings).trace.anchor =
      .firstSourceFrame ∧
    (Options.overrideAll [namingOptions, projectOptions] namedSettings).trace.libraryPatterns =
      ["^deps/".toList] := by
  obtain ⟨-, -, hsingle, -⟩ :=
    invocation_overrideAll "/tmp".toList namedSettings [namingOptions] "f.ex".toList "/p".toList
  obtain ⟨-, hmix, -, hanchor, hpatterns⟩ :=
    invocation_overrideAll "/tmp".toList namedSettings [namingOptions, projectOptions] "f.ex".toList
      "/p".toList
  exact ⟨(hsingle (by decide)).trans (by decide), (hmix (by decide)).trans (by decide),
    hanchor.trans (by decide), hpatterns⟩

end Command

end ElixirDiagnostics
