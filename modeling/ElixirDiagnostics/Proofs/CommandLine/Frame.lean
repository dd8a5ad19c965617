import ElixirDiagnostics.CommandLine.InMemory
import Mathlib.Data.List.Infix

/-!
# What a session leaves alone

A session acts on its surroundings by requests alone. So if every request leads from a state to one
that is related to it, so does a whole session, for any relation that holds of equal states and
carries over from one step to the next. A session that reads the output of a compiler from its input
asks for nothing that compiles. On a machine in memory such a session changes no file, and no session
moves the machine to another directory or takes back what was logged.
-/

namespace ElixirDiagnostics

variable {σ α β : Type} {R : σ → σ → Prop}

/-- A relation between earlier and later states. -/
structure IsFrame (R : σ → σ → Prop) : Prop where
  /-- It holds when nothing happens. -/
  refl : ∀ s, R s s
  /-- It carries over from one step to the next. -/
  trans : ∀ {s t u}, R s t → R t u → R s u

/-- An action leads from every state to a related one. -/
def Keeps (R : σ → σ → Prop) (action : StateM σ α) : Prop := ∀ s, R s (action.run s).2

/-- What does nothing keeps everything. -/
theorem IsFrame.keeps_pure (hR : IsFrame R) (a : α) : Keeps R (pure a : StateM σ α) :=
  fun s => hR.refl s

/-- One action after the other keeps what both keep. -/
theorem IsFrame.keeps_bind (hR : IsFrame R) {action : StateM σ α} {next : α → StateM σ β}
    (haction : Keeps R action) (hnext : ∀ a, Keeps R (next a)) : Keeps R (action >>= next) :=
  fun s => hR.trans (haction s) (hnext _ _)

namespace Settings

variable {isFile : Path → StateM σ Bool} {files : Files (StateM σ)}

/-- What looking for settings keeps. -/
structure Files.Keep (R : σ → σ → Prop) (files : Files (StateM σ)) : Prop where
  /-- Looking for a file keeps it. -/
  isFile : ∀ p, Keeps R (files.isFile p)
  /-- Reading a file keeps it. -/
  read? : ∀ p, Keeps R (files.read? p)
  /-- Taking a log record keeps it. -/
  log : ∀ r, Keeps R (files.log r)

/-- Looking for files one after the other keeps what looking for one does. -/
theorem keeps_firstFile? (hR : IsFrame R) (h : ∀ p, Keeps R (isFile p)) (ps : List Path) :
    Keeps R (firstFile? isFile ps) := by
  induction ps with
  | nil => exact hR.keeps_pure none
  | cons p ps ih =>
    refine hR.keeps_bind (h p) fun found => ?_
    cases found with
    | true => exact hR.keeps_pure (some p)
    | false => exact ih

/-- So does looking for the root of a project. -/
theorem keeps_firstRoot? (hR : IsFrame R) (h : ∀ p, Keeps R (isFile p)) (ds : List Path) :
    Keeps R (firstRoot? isFile ds) := by
  induction ds with
  | nil => exact hR.keeps_pure none
  | cons d ds ih =>
    refine hR.keeps_bind (h _) fun found => ?_
    cases found with
    | true => exact hR.keeps_pure (some d)
    | false => exact ih

/-- A settings file is read and its settings are logged. -/
theorem keeps_load (hR : IsFrame R) (h : files.Keep R) (read? : Reader) (file : Path) :
    Keeps R (load read? files file) := by
  refine hR.keeps_bind (h.read? file) fun text? => ?_
  cases text? with
  | none => exact hR.keeps_pure _
  | some text =>
    dsimp only
    cases read? text with
    | none => exact hR.keeps_pure _
    | some s => exact hR.keeps_bind (h.log _) fun _ => hR.keeps_pure _

/-- Finding settings keeps what looking for files, reading and logging do. -/
theorem keeps_resolve (hR : IsFrame R) (h : files.Keep R) (read? : Reader)
    (explicit : Option Path) (start : Path) : Keeps R (resolve read? files explicit start) := by
  cases explicit with
  | some file => exact keeps_load hR h read? file
  | none =>
    refine hR.keeps_bind (keeps_firstFile? hR h.isFile _) fun found => ?_
    cases found with
    | some file => exact keeps_load hR h read? file
    | none => exact hR.keeps_bind (h.log _) fun _ => hR.keeps_pure _

end Settings

namespace Lint

variable {host : Host (StateM σ)}

/-- What linting a file keeps. -/
structure Host.Keep (R : σ → σ → Prop) (host : Host (StateM σ)) : Prop where
  /-- Taking a log record keeps it. -/
  log : ∀ r, Keeps R (host.log r)
  /-- Making a directory keeps it. -/
  createDir : ∀ d, Keeps R (host.createDir d)
  /-- Running a compiler keeps it. -/
  run : ∀ i, Keeps R (host.run i)

/-- Taking log records keeps what taking one does. -/
theorem keeps_logAll (hR : IsFrame R) {log : LogRecord → StateM σ Unit}
    (h : ∀ r, Keeps R (log r)) (rs : List LogRecord) : Keeps R (logAll log rs) := by
  induction rs with
  | nil => exact hR.keeps_pure ()
  | cons r rs ih => exact hR.keeps_bind (h r) fun _ => ih

/-- Making the output directory keeps what making a directory does. -/
theorem keeps_prepare (hR : IsFrame R) (h : host.Keep R) (i : Command.Invocation) :
    Keeps R (prepare host i) := by
  unfold prepare
  cases i.outputDir with
  | none => exact hR.keeps_pure _
  | some d =>
    refine hR.keeps_bind (h.createDir d) fun made => ?_
    cases made <;> exact hR.keeps_pure _

/-- Linting a file keeps what each of its requests does. -/
theorem keeps_lintFile (hR : IsFrame R) (h : host.Keep R) (read : Trace.PatternReader)
    (s : Settings) (inspected workingDir : Path) :
    Keeps R (lintFile read host s inspected workingDir) := by
  unfold lintFile
  cases classifier read s with
  | error e => exact hR.keeps_pure _
  | ok t =>
    refine hR.keeps_bind (keeps_logAll hR h.log _) fun _ => ?_
    refine hR.keeps_bind (keeps_prepare hR h _) fun prepared => ?_
    cases prepared with
    | error e => exact hR.keeps_pure _
    | ok _ =>
      refine hR.keeps_bind (h.run _) fun answer => ?_
      cases answer with
      | error e => exact hR.keeps_pure _
      | ok o => exact hR.keeps_bind (keeps_logAll hR h.log _) fun _ => hR.keeps_pure _

end Lint

namespace Runner

variable {programs : Programs (StateM σ)}

/-- What running programs keeps. -/
structure Programs.Keep (R : σ → σ → Prop) (programs : Programs (StateM σ)) : Prop where
  /-- Taking a log record keeps it. -/
  log : ∀ r, Keeps R (programs.log r)
  /-- Looking a program up keeps it. -/
  which? : ∀ program, Keeps R (programs.which? program)
  /-- Running a program keeps it. -/
  start? : ∀ program i, Keeps R (programs.start? program i)

/-- Running a compiler keeps what each of its requests does. -/
theorem keeps_run (hR : IsFrame R) (h : programs.Keep R) (i : Command.Invocation) :
    Keeps R (run programs i) := by
  refine hR.keeps_bind (h.which? i.program) fun found => ?_
  cases found with
  | none => exact hR.keeps_pure _
  | some program =>
    refine hR.keeps_bind (h.log _) fun _ => hR.keeps_bind (h.start? program i) fun ended => ?_
    cases ended with
    | none => exact hR.keeps_pure _
    | some e => exact hR.keeps_bind (h.log _) fun _ => hR.keeps_pure _

end Runner

namespace CommandLine

variable {readers : Readers} {host : Host (StateM σ)} {o : Command.Options} {args : List Text}

/-- Finding the directory that the compiler runs in keeps what looking for files does. -/
theorem keeps_workingDir (hR : IsFrame R) (h : host.files.Keep R) (o : Command.Options)
    (s : Settings) (file : Path) : Keeps R (workingDir host o s file) := by
  unfold workingDir
  cases o.cwd with
  | some d => exact hR.keeps_pure _
  | none =>
    dsimp only
    split
    · exact hR.keeps_bind (Settings.keeps_firstRoot? hR h.isFile _) fun _ => hR.keeps_pure _
    · exact hR.keeps_pure _

/-- Finding the diagnostics of a file keeps what the requests for files and the input do, and, unless
the output of the compiler stands on the input, what those for the compiler do. -/
theorem keeps_inspect (hR : IsFrame R) (hfiles : host.files.Keep R) (hinput : Keeps R host.input?)
    (hcompiler : o.stdin = false → host.compiler.Keep R) (read : Trace.PatternReader)
    (s : Settings) (file : Path) : Keeps R (inspect read host o s file) := by
  refine hR.keeps_bind (keeps_workingDir hR hfiles o s file) fun dir => ?_
  cases hstdin : o.stdin with
  | true =>
    refine hR.keeps_bind hinput fun text? => ?_
    cases text? with
    | none => exact hR.keeps_pure _
    | some text =>
      dsimp only
      cases Lint.lintOutput read s (pipedOutput text dir) file <;> exact hR.keeps_pure _
  | false =>
    refine hR.keeps_bind (Lint.keeps_lintFile hR (hcompiler hstdin) read s file dir) fun r => ?_
    cases r <;> exact hR.keeps_pure _

/-- A session keeps what its requests do; those for the compiler do not matter if the output of the
compiler stands on the input. -/
theorem keeps_run (hR : IsFrame R) (hfiles : host.files.Keep R) (hinput : Keeps R host.input?)
    (hcompiler : ∀ o, readers.options args = .ok o → o.stdin = false → host.compiler.Keep R) :
    Keeps R (run readers host args) := by
  unfold run
  cases hread : readers.options args with
  | error e => exact hR.keeps_pure e
  | ok o =>
    dsimp only
    split
    · exact hR.keeps_pure _
    · have hlint : Keeps R (lint readers host o) := by
        unfold lint
        cases o.file with
        | none => exact hR.keeps_pure _
        | some f =>
          refine hR.keeps_bind (Settings.keeps_resolve hR hfiles readers.settings _ _) fun s? => ?_
          cases s? with
          | error e => exact hR.keeps_pure _
          | ok s => exact keeps_inspect hR hfiles hinput (hcompiler o hread) readers.pattern _ _
      refine hR.keeps_bind hlint fun ds? => ?_
      cases ds? <;> exact hR.keeps_pure _

namespace Memory

/-- The machine is in the same directory and finds programs in the same places, and what was logged
is still there. -/
structure Follows (m m' : Memory) : Prop where
  /-- The directory is the same. -/
  dir : m'.machine.dir = m.machine.dir
  /-- Programs are looked up in the same places. -/
  searchPath : m'.machine.searchPath = m.machine.searchPath
  /-- The log has only grown. -/
  log : m.log <+: m'.log

/-- Besides, no file has changed. -/
structure Unchanged (m m' : Memory) : Prop where
  /-- The machine is the same. -/
  machine : m'.machine = m.machine
  /-- The log has only grown. -/
  log : m.log <+: m'.log

/-- What was said of one step holds of several. -/
theorem isFrame_follows : IsFrame Follows where
  refl _ := ⟨rfl, rfl, List.prefix_refl _⟩
  trans h h' := ⟨h'.dir.trans h.dir, h'.searchPath.trans h.searchPath, h.log.trans h'.log⟩

/-- Several steps without a change are none. -/
theorem isFrame_unchanged : IsFrame Unchanged where
  refl _ := ⟨rfl, List.prefix_refl _⟩
  trans h h' := ⟨h'.machine.trans h.machine, h.log.trans h'.log⟩

/-- Without a change the machine is in the same directory and finds the same programs. -/
theorem Unchanged.follows {m m' : Memory} (h : Unchanged m m') : Follows m m' :=
  ⟨congrArg _ h.machine, congrArg _ h.machine, h.log⟩

/-- Looking for settings changes no file. -/
theorem files_keep : files.Keep Unchanged where
  isFile _ := isFrame_unchanged.refl
  read? _ := isFrame_unchanged.refl
  log r m := ⟨rfl, List.prefix_append m.log [r]⟩

/-- A machine with another file tree is still in the same directory. -/
theorem follows_withTree (m : Memory) (tree : Host.FileTree) :
    Follows m { m with machine.tree := tree } :=
  ⟨rfl, rfl, List.prefix_refl m.log⟩

/-- A program leaves behind a file tree, if it can be started. -/
theorem programs_keep : programs.Keep Follows where
  log r m := (files_keep.log r m).follows
  which? _ := isFrame_follows.refl
  start? program i m := by
    cases h : m.machine.start? program i.args i.workingDir with
    | none =>
      have hrun : (programs.start? program i).run m = (none, m) := by
        simp only [programs, StateT.run_bind, StateT.run_get, pure_bind, h]
        rfl
      rw [hrun]
      exact isFrame_follows.refl m
    | some r =>
      have hrun : (programs.start? program i).run m =
          (some r.1, { m with machine.tree := r.2 }) := by
        simp only [programs, StateT.run_bind, StateT.run_get, pure_bind, h]
        rfl
      rw [hrun]
      exact follows_withTree m r.2

/-- Making a directory does so too, and all that running a compiler does is to run a program. -/
theorem compiler_keep : compiler.Keep Follows where
  log r m := (files_keep.log r m).follows
  createDir d m := by
    cases h : m.machine.tree.makeDir? (m.machine.pathOf d) with
    | none =>
      have hrun : (compiler.createDir d).run m = (false, m) := by
        simp only [compiler, createDir, StateT.run_bind, StateT.run_get, pure_bind, h]
        rfl
      rw [hrun]
      exact isFrame_follows.refl m
    | some tree =>
      have hrun : (compiler.createDir d).run m = (true, { m with machine.tree := tree }) := by
        simp only [compiler, createDir, StateT.run_bind, StateT.run_get, pure_bind, h]
        rfl
      rw [hrun]
      exact follows_withTree m tree
  run i := Runner.keeps_run isFrame_follows programs_keep i

/-- A session on a machine in memory leaves the machine in its directory and the log as it was, but
for further records behind it. If the output of a compiler stands on its input, it changes no
file. -/
theorem run_follows (readers : Readers) (dir : Path) (input : List UInt8) (args : List Text)
    (m : Memory) :
    Follows m ((run readers (Memory.host dir input) args).run m).2 ∧
      ((∀ o, readers.options args = .ok o → o.stdin = true) →
        Unchanged m ((run readers (Memory.host dir input) args).run m).2) := by
  have hfiles : files.Keep Follows :=
    ⟨fun p s => (files_keep.isFile p s).follows, fun p s => (files_keep.read? p s).follows,
      fun r s => (files_keep.log r s).follows⟩
  constructor
  · exact keeps_run isFrame_follows hfiles (isFrame_follows.keeps_pure _)
      (fun _ _ _ => compiler_keep) m
  · intro hstdin
    refine keeps_run isFrame_unchanged files_keep (isFrame_unchanged.keeps_pure _) ?_ m
    intro o ho hno
    simp [hstdin o ho] at hno

end Memory

end CommandLine

end ElixirDiagnostics
