import ElixirDiagnostics.Command.Invocation

/-!
# Commands from steps

A command is made in any number of steps, in any order and with any repetitions. Each step adds its
arguments behind those that are there already, and replaces the program or the output directory or
leaves them alone. So a draft holds the arguments of all its steps in order, and the program and the
output directory that were given last. What a project has no use for leaves no trace in its command.
-/

namespace ElixirDiagnostics

namespace Command

/-- What is given last, if anything is. -/
def lastGiven? {α β : Type} (given : α → Option β) (as : List α) : Option β :=
  (as.filterMap given).getLast?

variable {α β : Type} {given : α → Option β} {as : List α} {b : β}

/-- Only where nothing is given later, the first one counts. -/
theorem lastGiven?_cons (given : α → Option β) (a : α) (as : List α) :
    lastGiven? given (a :: as) = (lastGiven? given as).or (given a) := by
  unfold lastGiven?
  cases hgiven : given a with
  | none => rw [List.filterMap_cons_none hgiven, Option.or_none]
  | some b =>
    rw [List.filterMap_cons_some hgiven, List.getLast?_cons, Option.or_some]

/-- Nothing is given last exactly where nothing is given. -/
theorem lastGiven?_eq_none_iff : lastGiven? given as = none ↔ ∀ a ∈ as, given a = none := by
  rw [lastGiven?, List.getLast?_eq_none_iff, List.filterMap_eq_nil_iff]

/-- What is given last is given somewhere, and nothing is given behind that place. -/
theorem lastGiven?_eq_some_iff :
    lastGiven? given as = some b ↔ ∃ before a after,
      as = before ++ a :: after ∧ given a = some b ∧ ∀ x ∈ after, given x = none := by
  constructor
  · intro h
    obtain ⟨bs, hbs⟩ := List.getLast?_eq_some_iff.1 h
    obtain ⟨before, rest, rfl, -, hrest⟩ := List.filterMap_eq_append_iff.1 hbs
    obtain ⟨skipped, a, after, rfl, -, ha, hafter⟩ := List.filterMap_eq_cons_iff.1 hrest
    refine ⟨before ++ skipped, a, after, ?_, ha, List.filterMap_eq_nil_iff.1 hafter⟩
    rw [List.append_assoc]
  · rintro ⟨before, a, after, rfl, ha, hafter⟩
    rw [lastGiven?, List.filterMap_append, List.filterMap_cons_some ha,
      List.filterMap_eq_nil_iff.2 hafter, List.getLast?_concat]

namespace Step

/-- What a step says about the program: to take the one that it names, or the usual one. -/
def program? : Step → Option (Option Text)
  | program p => some p
  | _ => none

/-- The output directory that a step names. -/
def outputDir? : Step → Option Path
  | outputDir d => some d
  | _ => none

/-- The further arguments that a step hands on. -/
def extraArgs? : Step → Option (List Text)
  | extraArgs as => some as
  | _ => none

/-- The arguments that a step adds for a compiler. For a project it is only the further ones. -/
def argsFor : Compiler → Step → List Text
  | .elixirc, s => s.args
  | .mix, s => s.extraArgs?.getD []

/-- The output directory that a step names for a compiler. A project has its own. -/
def outputDirFor : Compiler → Step → Option Path
  | .elixirc, s => s.outputDir?
  | .mix, _ => none

/-- Only naming an output directory names one. -/
theorem outputDir?_eq_some_iff {s : Step} {d : Path} : s.outputDir? = some d ↔ s = outputDir d := by
  cases s <;> simp [outputDir?]

/-- Steps that name no output directory are all steps but those that do. -/
theorem forall_outputDir?_eq_none_iff {steps : List Step} :
    (∀ s ∈ steps, s.outputDir? = none) ↔ ∀ d, outputDir d ∉ steps := by
  constructor
  · intro h d hd
    have hnone : (outputDir d).outputDir? = none := h _ hd
    contradiction
  · intro h s hs
    cases hdir : s.outputDir? with
    | none => rfl
    | some d =>
      obtain rfl := outputDir?_eq_some_iff.1 hdir
      exact absurd hs (h d)

end Step

namespace Draft

variable {steps : List Step} {dir : Path}

/-- What a step makes of a draft, whatever the compiler and the step are. -/
theorem take_eq (d : Draft) (s : Step) :
    d.take s =
      { compiler := d.compiler
        program := s.program?.getD d.program
        args := d.args ++ s.argsFor d.compiler
        outputDir := (s.outputDirFor d.compiler).or d.outputDir } := by
  obtain ⟨compiler, program, args, outputDir⟩ := d
  cases compiler with
  | elixirc => cases s <;> simp [take, Step.program?, Step.argsFor, Step.args, Step.outputDirFor,
      Step.outputDir?]
  | mix => cases s <;> simp [take, Step.program?, Step.argsFor, Step.extraArgs?, Step.outputDirFor]

/-- What any number of steps make of a draft. -/
theorem foldl_take (steps : List Step) (d : Draft) :
    steps.foldl take d =
      { compiler := d.compiler
        program := (lastGiven? Step.program? steps).getD d.program
        args := d.args ++ steps.flatMap (Step.argsFor d.compiler)
        outputDir := (lastGiven? (Step.outputDirFor d.compiler) steps).or d.outputDir } := by
  induction steps generalizing d with
  | nil => simp [lastGiven?]
  | cons s steps ih =>
    rw [List.foldl_cons, ih, take_eq, lastGiven?_cons, lastGiven?_cons, List.flatMap_cons,
      List.append_assoc, Option.or_assoc]
    cases lastGiven? Step.program? steps <;> rfl

/-- A new command after some steps. -/
def after (c : Compiler) (steps : List Step) : Draft := steps.foldl take (new c)

/-- It holds the arguments of all steps and what was given last. -/
theorem after_eq (c : Compiler) (steps : List Step) :
    after c steps =
      { compiler := c
        program := (lastGiven? Step.program? steps).join
        args := c.firstArgs ++ steps.flatMap (Step.argsFor c)
        outputDir := lastGiven? (Step.outputDirFor c) steps } := by
  rw [after, foldl_take, new]
  simp only [Option.or_none]
  cases lastGiven? Step.program? steps <;> rfl

/-- Further steps leave the arguments that are there and add theirs. -/
theorem args_after_append (c : Compiler) (earlier later : List Step) :
    (after c (earlier ++ later)).args =
      (after c earlier).args ++ later.flatMap (Step.argsFor c) := by
  rw [after_eq, after_eq, List.flatMap_append, ← List.append_assoc]

/-- For a project all that is added are the further arguments. -/
theorem flatMap_argsFor_mix (steps : List Step) :
    steps.flatMap (Step.argsFor .mix) = (steps.filterMap Step.extraArgs?).flatten := by
  induction steps with
  | nil => rfl
  | cons s steps ih =>
    rw [List.flatMap_cons, ih]
    cases hextra : s.extraArgs? with
    | none => simp [Step.argsFor, hextra]
    | some as => simp [Step.argsFor, hextra]

/-- A command for single files writes to the directory that was named last. -/
theorem outputDir_after (steps : List Step) :
    (after .elixirc steps).outputDir = lastGiven? Step.outputDir? steps := by
  rw [after_eq]
  rfl

/-- There is an output directory exactly if one was named. -/
theorem outputDir_after_ne_none_iff :
    (after .elixirc steps).outputDir ≠ none ↔ ∃ d, Step.outputDir d ∈ steps := by
  rw [outputDir_after, Ne, lastGiven?_eq_none_iff, Step.forall_outputDir?_eq_none_iff]
  simp only [Classical.not_forall, Classical.not_not]

/-- The directory that was named last stands in the command behind the switch that its naming
added. -/
theorem outputDir_after_eq_some_iff :
    (after .elixirc steps).outputDir = some dir ↔ ∃ earlier later,
      steps = earlier ++ .outputDir dir :: later ∧ (∀ d, Step.outputDir d ∉ later) ∧
      (after .elixirc steps).args =
        (after .elixirc earlier).args ++ ["-o".toList, dir] ++ later.flatMap Step.args := by
  rw [outputDir_after, lastGiven?_eq_some_iff]
  constructor
  · rintro ⟨earlier, s, later, rfl, hs, hlater⟩
    obtain rfl := Step.outputDir?_eq_some_iff.1 hs
    refine ⟨earlier, later, rfl, Step.forall_outputDir?_eq_none_iff.1 hlater, ?_⟩
    rw [args_after_append, List.flatMap_cons, ← List.append_assoc]
    rfl
  · rintro ⟨earlier, later, rfl, hlater, -⟩
    exact ⟨earlier, _, later, rfl, rfl, Step.forall_outputDir?_eq_none_iff.2 hlater⟩

/-- The command that any steps make. For a project it is the build tool's task with the further
arguments, and nothing is named where it writes to. For single files the arguments of all steps
follow the two usual switches; there is an output directory exactly if one was named, it is the one
that was named last, and it stands behind the switch that this naming added. For both the program is
the one that was named last, or the usual one if that named none; the compiler stays the same; and
the arguments after some of the steps begin those after all of them. -/
theorem command_of_steps (steps : List Step) (workingDir : Path) :
    (after .mix steps).finish workingDir =
      { program := (lastGiven? Step.program? steps).join.getD "mix".toList
        args := "compile".toList :: (steps.filterMap Step.extraArgs?).flatten
        workingDir := workingDir
        outputDir := none } ∧
    (after .elixirc steps).finish workingDir =
      { program := (lastGiven? Step.program? steps).join.getD "elixirc".toList
        args := ["--warnings-as-errors".toList, "--ignore-module-conflict".toList] ++
          steps.flatMap Step.args
        workingDir := workingDir
        outputDir := lastGiven? Step.outputDir? steps } ∧
    (((after .elixirc steps).finish workingDir).outputDir ≠ none ↔
      ∃ dir, Step.outputDir dir ∈ steps) ∧
    (∀ dir, ((after .elixirc steps).finish workingDir).outputDir = some dir ↔ ∃ earlier later,
      steps = earlier ++ .outputDir dir :: later ∧ (∀ d, Step.outputDir d ∉ later) ∧
      ((after .elixirc steps).finish workingDir).args =
        (after .elixirc earlier).args ++ ["-o".toList, dir] ++ later.flatMap Step.args) ∧
    ∀ c, (after c steps).compiler = c ∧
      ∀ earlier, earlier <+: steps → (after c earlier).args <+: (after c steps).args := by
  refine ⟨?_, ?_, outputDir_after_ne_none_iff, fun dir => outputDir_after_eq_some_iff,
    fun c => ⟨?_, ?_⟩⟩
  · have hdir : lastGiven? (Step.outputDirFor .mix) steps = none :=
      lastGiven?_eq_none_iff.2 fun _ _ => rfl
    rw [after_eq, flatMap_argsFor_mix, hdir]
    rfl
  · rw [after_eq]
    rfl
  · rw [after_eq]
  · rintro earlier ⟨later, rfl⟩
    rw [args_after_append]
    exact List.prefix_append _ _

/-- Steps that name two output directories, and a program that is taken back again. -/
def wanderingSteps : List Step :=
  [.extraArgs ["--force".toList], .outputDir "a".toList, .program (some "x".toList),
    .codePaths ["p".toList], .outputDir "b".toList, .program none, .file "f.ex".toList,
    .extraArgs ["-o".toList, "c".toList]]

/-- The second directory counts, although the same switch comes up again among the further
arguments, and what was there before it stays. A project knows of neither. -/
theorem command_of_wanderingSteps :
    (after .mix wanderingSteps).finish "/p".toList =
      ⟨"mix".toList, ["compile", "--force", "-o", "c"].map String.toList, "/p".toList, none⟩ ∧
    (after .elixirc wanderingSteps).finish "/p".toList =
      ⟨"elixirc".toList, ["--warnings-as-errors", "--ignore-module-conflict", "--force", "-o", "a",
        "-pa", "p", "-o", "b", "f.ex", "-o", "c"].map String.toList, "/p".toList,
        some "b".toList⟩ ∧
    (after .elixirc (wanderingSteps.take 3)).args <+: (after .elixirc wanderingSteps).args := by
  obtain ⟨hmix, helixirc, -, -, hboth⟩ := command_of_steps wanderingSteps "/p".toList
  exact ⟨hmix.trans (by decide), helixirc.trans (by decide),
    (hboth .elixirc).2 _ (List.take_prefix 3 _)⟩

end Draft

end Command

end ElixirDiagnostics
