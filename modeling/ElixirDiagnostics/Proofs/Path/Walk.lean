import ElixirDiagnostics.Path.Normal
import ElixirDiagnostics.Proofs.Text.Pieces
import Mathlib.Data.List.Basic
import Mathlib.Logic.Relation

/-!
# Walks

A path can be walked on the stack of the directories that one is in, the innermost on top: a piece
that names nothing stays, two dots go one level up and stay at the root, and any other piece goes
down. The normal form of an absolute path writes down where the walk from the root ends, and no two
ends are written alike. So two paths have one normal form exactly when their walks end at one place,
however they are spelled.
-/

namespace ElixirDiagnostics

namespace Path

/-- Goes where a piece of a path leads from a stack of directories. -/
def enter (stack : List Text) (piece : Text) : List Text :=
  if piece = [] ∨ piece = current then stack
  else if piece = above then stack.tail
  else piece :: stack

/-- Walks a path, piece by piece. -/
def walkFrom (stack : List Text) (p : Path) : List Text := (List.splitOn '/' p).foldl enter stack

/-- Where a path leads from the directory `base`: an absolute path is walked from the root, any
other from where the walk of `base` ends. -/
def walk (base p : Path) : List Text :=
  walkFrom (if isAbsolute p then [] else walkFrom [] base) p

/-- A piece that leads one level down. -/
structure IsName (w : Text) : Prop where
  /-- It is not empty. -/
  ne_nil : w ≠ []
  /-- It does not stand for the directory itself. -/
  ne_current : w ≠ current
  /-- It does not stand for the directory above. -/
  ne_above : w ≠ above
  /-- It is one piece. -/
  not_mem : '/' ∉ w

instance (w : Text) : Decidable (IsName w) :=
  decidable_of_iff (w ≠ [] ∧ w ≠ current ∧ w ≠ above ∧ '/' ∉ w)
    ⟨fun h => ⟨h.1, h.2.1, h.2.2.1, h.2.2.2⟩, fun h => ⟨h.1, h.2, h.3, h.4⟩⟩

variable {p q base : Path} {w piece : Text} {stack names names' : List Text}

/-- A name does not stay where it is. -/
theorem IsName.not_idle (h : IsName w) : ¬(w = [] ∨ w = current) := by
  rintro (hw | hw)
  · exact h.ne_nil hw
  · exact h.ne_current hw

/-- An empty piece or a dot stays where it is. -/
theorem enter_of_idle (h : piece = [] ∨ piece = current) (stack : List Text) :
    enter stack piece = stack :=
  if_pos h

/-- Two dots go one level up. -/
@[simp]
theorem enter_above (stack : List Text) : enter stack above = stack.tail := by
  rw [enter, if_neg (by decide), if_pos rfl]

/-- A name goes one level down. -/
theorem enter_of_isName (h : IsName w) (stack : List Text) : enter stack w = w :: stack := by
  rw [enter, if_neg h.not_idle, if_neg h.ne_above]

/-- All that a piece can be. -/
theorem idle_or_above_or_isName (h : '/' ∉ piece) :
    (piece = [] ∨ piece = current) ∨ piece = above ∨ IsName piece := by
  by_cases hidle : piece = [] ∨ piece = current
  · exact Or.inl hidle
  · by_cases habove : piece = above
    · exact Or.inr (Or.inl habove)
    · rw [not_or] at hidle
      exact Or.inr (Or.inr ⟨hidle.1, hidle.2, habove, h⟩)

/-- The empty path leads nowhere else. -/
@[simp]
theorem walkFrom_nil (stack : List Text) : walkFrom stack [] = stack := by
  simp [walkFrom, List.splitOn, enter_of_idle]

/-- What stands before a separator is walked first. -/
theorem walkFrom_append_separator (stack : List Text) (a b : Path) :
    walkFrom stack (a ++ '/' :: b) = walkFrom (walkFrom stack a) b := by
  rw [walkFrom, List.splitOn_append_cons_self, List.foldl_append]
  rfl

/-- Behind the root nothing but what follows is walked. -/
theorem walkFrom_root (p : Path) : walkFrom [] ('/' :: p) = walkFrom [] p := by
  have hroot := walkFrom_append_separator [] [] p
  rwa [walkFrom_nil, List.nil_append] at hroot

/-- Where the pieces of a path, the last one first, lead from the root. -/
def placeOf (ps : List Text) : List Text := ps.foldr (fun piece stack => enter stack piece) []

/-- The last piece is entered last. -/
theorem placeOf_cons (w : Text) (ps : List Text) : placeOf (w :: ps) = enter (placeOf ps) w := rfl

/-- A walk down over names stacks them up. -/
theorem placeOf_of_isName (h : ∀ w ∈ names, IsName w) : placeOf names = names := by
  induction names with
  | nil => rfl
  | cons w names ih =>
    have hnames := ih fun v hv => h v (List.mem_cons_of_mem w hv)
    rw [placeOf_cons, hnames, enter_of_isName (h w List.mem_cons_self)]

/-- Pieces that are put together after the root are walked to the place that they lead to. -/
theorem walkFrom_join_pieces {ps : List Text} (h : ∀ w ∈ ps, '/' ∉ w) :
    walkFrom [] ('/' :: List.intercalate ['/'] ps.reverse) = placeOf ps := by
  rw [walkFrom_root]
  by_cases hne : ps = []
  · subst hne
    exact walkFrom_nil []
  · have hreverse : ∀ w ∈ ps.reverse, '/' ∉ w := fun w hw => h w (List.mem_reverse.1 hw)
    rw [walkFrom, List.splitOn_intercalate _ hreverse (by simpa using hne), List.foldl_reverse]
    rfl

/-- A piece leads from a stack of names to one of names. -/
theorem isName_of_mem_enter (hpiece : '/' ∉ piece) (h : ∀ w ∈ stack, IsName w) :
    ∀ w ∈ enter stack piece, IsName w := by
  rcases idle_or_above_or_isName hpiece with hidle | rfl | hname
  · rwa [enter_of_idle hidle]
  · rw [enter_above]
    exact fun w hw => h w (List.mem_of_mem_tail hw)
  · rw [enter_of_isName hname]
    exact List.forall_mem_cons.2 ⟨hname, h⟩

/-- Pieces lead from a stack of names to one of names. -/
theorem isName_of_mem_foldl_enter {pieces : List Text} (hpieces : ∀ v ∈ pieces, '/' ∉ v)
    (h : ∀ w ∈ stack, IsName w) : ∀ w ∈ pieces.foldl enter stack, IsName w := by
  induction pieces generalizing stack with
  | nil => exact h
  | cons v pieces ih =>
    have hv := isName_of_mem_enter (hpieces v List.mem_cons_self) h
    exact ih (fun u hu => hpieces u (List.mem_cons_of_mem v hu)) hv

/-- A walk from the root ends in directories with names. -/
theorem isName_of_mem_walkFrom (p : Path) : ∀ w ∈ walkFrom [] p, IsName w :=
  isName_of_mem_foldl_enter (fun _ => Text.not_mem_of_mem_splitOn) (by simp)

/-- An absolute path begins with a separator. -/
theorem isAbsolute_iff : isAbsolute p = true ↔ ∃ r, p = '/' :: r := by
  cases p with
  | nil => simp [isAbsolute]
  | cons c r => simp [isAbsolute]

/-- A name is no absolute path. -/
theorem isAbsolute_of_isName (h : IsName w) : isAbsolute w = false := by
  rw [Bool.eq_false_iff, Ne, isAbsolute_iff]
  rintro ⟨r, rfl⟩
  exact h.not_mem List.mem_cons_self

/-- Below an absolute directory every path is absolute. -/
theorem isAbsolute_join (h : isAbsolute base = true) (p : Path) :
    isAbsolute (join base p) = true := by
  unfold join
  obtain ⟨r, rfl⟩ := isAbsolute_iff.1 h
  split
  · assumption
  · split <;> rfl

/-- Walking a path from a directory is walking the joined path from the root. -/
theorem walkFrom_join (h : isAbsolute base = true) (p : Path) :
    walkFrom [] (join base p) = walk base p := by
  unfold join walk
  split
  · rfl
  · split
    · next hend =>
      obtain ⟨r, rfl⟩ := isAbsolute_iff.1 h
      -- The base ends with a separator, behind which nothing is left to walk.
      have hlast : ('/' :: r).getLast? = some '/' := by simpa using hend
      have hbase := List.dropLast_append_getLast? _ hlast
      rw [← hbase, List.append_assoc, List.singleton_append, walkFrom_append_separator,
        walkFrom_append_separator, walkFrom_nil]
    · rw [walkFrom_append_separator]

/-- The shortest path to the directory with the given names, the last one first. -/
def ofNames (names : List Text) : Path := NormalForm.toPath ⟨true, 0, names⟩

/-- It begins at the root. -/
theorem ofNames_eq (names : List Text) :
    ofNames names = '/' :: List.intercalate ['/'] names.reverse := by
  simp [ofNames, NormalForm.toPath]

/-- The shortest path to a directory is absolute. -/
theorem isAbsolute_ofNames (names : List Text) : isAbsolute (ofNames names) = true :=
  isAbsolute_iff.2 ⟨_, ofNames_eq names⟩

/-- Following a piece from the root is entering it. -/
theorem follow_of_absolute (names : List Text) (piece : Text) :
    NormalForm.follow ⟨true, 0, names⟩ piece = ⟨true, 0, enter names piece⟩ := by
  unfold NormalForm.follow enter
  split
  · rfl
  · split
    · cases names <;> rfl
    · rfl

/-- An absolute path has the normal form of the place where its walk ends. -/
theorem normalForm_of_absolute (h : isAbsolute p = true) :
    normalForm p = ⟨true, 0, walkFrom [] p⟩ := by
  rw [normalForm, h, walkFrom]
  generalize ([] : List Text) = stack
  induction List.splitOn '/' p generalizing stack with
  | nil => rfl
  | cons piece pieces ih => rw [List.foldl_cons, follow_of_absolute, ih, List.foldl_cons]

/-- An absolute path is normalized to the shortest path to where its walk ends. -/
theorem normalize_of_absolute (h : isAbsolute p = true) :
    normalize p = ofNames (walkFrom [] p) := by
  rw [normalize, normalForm_of_absolute h, ofNames]

/-- The shortest path to a directory leads there. -/
theorem walkFrom_ofNames (h : ∀ w ∈ names, IsName w) : walkFrom [] (ofNames names) = names := by
  rw [ofNames_eq, walkFrom_join_pieces fun w hw => (h w hw).not_mem, placeOf_of_isName h]

/-- No two places have the same shortest path. -/
theorem ofNames_inj (h : ∀ w ∈ names, IsName w) (h' : ∀ w ∈ names', IsName w) :
    ofNames names = ofNames names' ↔ names = names' := by
  constructor
  · intro he
    rw [← walkFrom_ofNames h, he, walkFrom_ofNames h']
  · rintro rfl
    rfl

/-- Two absolute paths have one normal form exactly when their walks end at one place. -/
theorem normalize_eq_iff (hp : isAbsolute p = true) (hq : isAbsolute q = true) :
    normalize p = normalize q ↔ walkFrom [] p = walkFrom [] q := by
  rw [normalize_of_absolute hp, normalize_of_absolute hq,
    ofNames_inj (isName_of_mem_walkFrom p) (isName_of_mem_walkFrom q)]

/-- Two paths resolve to the same path exactly when they lead to the same place. -/
theorem resolve_eq_iff (h : isAbsolute base = true) :
    resolve base p = resolve base q ↔ walk base p = walk base q := by
  rw [resolve, resolve, normalize_eq_iff (isAbsolute_join h p) (isAbsolute_join h q),
    walkFrom_join h, walkFrom_join h]

/-- Normalizing changes nothing about where a path leads. -/
theorem walkFrom_normalize (h : isAbsolute p = true) :
    walkFrom [] (normalize p) = walkFrom [] p := by
  rw [normalize_of_absolute h, walkFrom_ofNames (isName_of_mem_walkFrom p)]

/-- A way to write a path longer: seen from the working directory, or with pieces put in that lead
nowhere, which are an empty one, a dot, or a name and two dots. -/
inductive Respelling (base : Path) : Path → Path → Prop where
  /-- The path is joined to the working directory. -/
  | joined (p : Path) : Respelling base p (join base p)
  /-- Pieces that lead nowhere are put in. -/
  | padded {p q : Path} (before idle after : List Text)
      (hroot : isAbsolute p = isAbsolute q)
      (hp : List.splitOn '/' p = before ++ after)
      (hq : List.splitOn '/' q = before ++ idle ++ after)
      (hidle : idle = [[]] ∨ idle = [current] ∨ ∃ name, IsName name ∧ idle = [name, above]) :
      Respelling base p q

/-- Two spellings of one path. -/
abbrev SameSpelled (base : Path) : Path → Path → Prop := Relation.EqvGen (Respelling base)

/-- Pieces that lead nowhere can be left out. -/
theorem foldl_enter_of_idle {idle : List Text} (stack : List Text)
    (h : idle = [[]] ∨ idle = [current] ∨ ∃ name, IsName name ∧ idle = [name, above]) :
    idle.foldl enter stack = stack := by
  rcases h with rfl | rfl | ⟨name, hname, rfl⟩
  · exact enter_of_idle (Or.inl rfl) stack
  · exact enter_of_idle (Or.inr rfl) stack
  · rw [List.foldl_cons, List.foldl_cons, List.foldl_nil, enter_of_isName hname, enter_above,
      List.tail_cons]

/-- A longer spelling leads to the same place. -/
theorem walk_of_respelling (hbase : isAbsolute base = true) (h : Respelling base p q) :
    walk base p = walk base q := by
  cases h with
  | joined =>
    have habs := isAbsolute_join hbase p
    rw [← walkFrom_join hbase p, walk, if_pos habs]
  | padded before idle after hroot hp hq hidle =>
    have hwalk : ∀ stack, walkFrom stack p = walkFrom stack q := by
      intro stack
      rw [walkFrom, hp, walkFrom, hq, List.foldl_append, List.foldl_append, List.foldl_append,
        foldl_enter_of_idle _ hidle]
    rw [walk, walk, hroot, hwalk]

/-- All spellings of a path lead to the same place. -/
theorem walk_of_sameSpelled (hbase : isAbsolute base = true) (h : SameSpelled base p q) :
    walk base p = walk base q := by
  induction h with
  | rel p q h => exact walk_of_respelling hbase h
  | refl p => rfl
  | symm p q _ ih => exact ih.symm
  | trans p q r _ _ ih ih' => exact ih.trans ih'

end Path

end ElixirDiagnostics
