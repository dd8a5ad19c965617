import ElixirDiagnostics.Proofs.Path.Components

/-!
# Canonical paths

The shortest path to where a path leads is written so that it is read back to the same place: the
root or nothing, the levels that are climbed, and the names. So it holds no dot, two dots stand only
at its start and only if it is relative, and it is its own shortest path. What follows a path goes
on from its place, and a relative path leads from there to where its own shortest path leads.
Therefore a path can be made short before or after it is joined to another one.
-/

namespace ElixirDiagnostics

namespace Path

variable {p a b base : Path} {w piece : Text} {ps names : List Text}

/-- Two dots and names hold no separator. -/
theorem not_mem_of_above_or_isName (h : w = above ∨ IsName w) : '/' ∉ w := by
  rcases h with rfl | hname
  · decide
  · exact hname.not_mem

namespace NormalForm

variable {f g : NormalForm}

/-- A normal form that a path can have. -/
structure IsReached (f : NormalForm) : Prop where
  /-- From the root nothing is climbed. -/
  climbs_eq : f.absolute = true → f.climbs = 0
  /-- All that is descended are names. -/
  isName : ∀ w ∈ f.names, IsName w

/-- The pieces of the shortest path to a place, behind the root if it starts there. -/
def pieces (f : NormalForm) : List Text := List.replicate f.climbs above ++ f.names.reverse

theorem toPath_eq (f : NormalForm) :
    f.toPath = (if f.absolute then ['/'] else []) ++ List.intercalate ['/'] f.pieces := rfl

theorem follow_of_idle (h : piece = [] ∨ piece = current) (f : NormalForm) : f.follow piece = f :=
  if_pos h

theorem follow_above (f : NormalForm) : f.follow above = f.climb := by
  rw [follow, if_neg (by decide), if_pos rfl]

theorem follow_of_isName (h : IsName w) (f : NormalForm) :
    f.follow w = { f with names := w :: f.names } := by
  rw [follow, if_neg h.not_idle, if_neg h.ne_above]

theorem climb_of_names (h : f.names = w :: names) : f.climb = { f with names := names } := by
  rw [climb, h]

theorem climb_of_relative (h : f.names = []) (hrelative : f.absolute = false) :
    f.climb = { f with climbs := f.climbs + 1 } := by
  rw [climb, h, hrelative]
  rfl

theorem climb_of_root (h : f.names = []) (habsolute : f.absolute = true) : f.climb = f := by
  rw [climb, h, habsolute]
  rfl

/-- No piece leads to another start. -/
theorem follow_absolute (f : NormalForm) (piece : Text) :
    (f.follow piece).absolute = f.absolute := by
  have hclimb : f.climb.absolute = f.absolute := by
    unfold climb
    split
    · rfl
    · split <;> rfl
  unfold follow
  split
  · rfl
  · split
    · exact hclimb
    · rfl

/-- Neither do several pieces. -/
theorem foldl_follow_absolute (f : NormalForm) (ps : List Text) :
    (ps.foldl follow f).absolute = f.absolute := by
  induction ps generalizing f with
  | nil => rfl
  | cons piece ps ih => rw [List.foldl_cons, ih, follow_absolute]

/-- A piece leads from a place that can be reached to one that can be reached. -/
theorem IsReached.follow (h : f.IsReached) (hpiece : '/' ∉ piece) : (f.follow piece).IsReached := by
  rcases idle_or_above_or_isName hpiece with hidle | rfl | hname
  · rwa [follow_of_idle hidle]
  · rw [follow_above]
    cases hnames : f.names with
    | cons w names =>
      rw [climb_of_names hnames]
      exact ⟨h.climbs_eq, fun v hv => h.isName v (hnames ▸ List.mem_cons_of_mem w hv)⟩
    | nil =>
      cases habsolute : f.absolute with
      | true => rwa [climb_of_root hnames habsolute]
      | false =>
        rw [climb_of_relative hnames habsolute]
        exact ⟨fun hroot => absurd (habsolute.symm.trans hroot) nofun, h.isName⟩
  · rw [follow_of_isName hname]
    exact ⟨h.climbs_eq, List.forall_mem_cons.2 ⟨hname, h.isName⟩⟩

/-- So do several pieces. -/
theorem IsReached.foldl_follow (h : f.IsReached) (hps : ∀ piece ∈ ps, '/' ∉ piece) :
    (ps.foldl NormalForm.follow f).IsReached := by
  induction ps generalizing f with
  | nil => exact h
  | cons piece ps ih =>
    have hstep := h.follow (hps piece List.mem_cons_self)
    exact ih hstep fun v hv => hps v (List.mem_cons_of_mem _ hv)

/-- The pieces of a shortest path are two dots and names. -/
theorem IsReached.above_or_isName (h : f.IsReached) (hw : w ∈ f.pieces) : w = above ∨ IsName w := by
  rcases List.mem_append.1 hw with hw | hw
  · exact Or.inl (List.eq_of_mem_replicate hw)
  · exact Or.inr (h.isName w (List.mem_reverse.1 hw))

theorem IsReached.not_mem (h : f.IsReached) : ∀ w ∈ f.pieces, '/' ∉ w :=
  fun _ hw => not_mem_of_above_or_isName (h.above_or_isName hw)

/-- Climbing from the start of a relative path is counted. -/
theorem foldl_follow_replicate (k n : Nat) :
    (List.replicate n above).foldl follow ⟨false, k, []⟩ = ⟨false, k + n, []⟩ := by
  induction n generalizing k with
  | zero => rfl
  | succ n ih =>
    rw [List.replicate_succ, List.foldl_cons, follow_above, climb_of_relative rfl rfl, ih]
    simp only [NormalForm.mk.injEq, true_and, and_true]
    omega

/-- Names are descended one below the other. -/
theorem foldl_follow_names (h : ∀ w ∈ names, IsName w) (f : NormalForm) :
    names.reverse.foldl follow f = { f with names := names ++ f.names } := by
  rw [List.foldl_reverse]
  induction names with
  | nil => rfl
  | cons w names ih =>
    have hnames := ih fun v hv => h v (List.mem_cons_of_mem w hv)
    rw [List.foldr_cons, hnames, follow_of_isName (h w List.mem_cons_self)]
    rfl

/-- From its start, the pieces of a shortest path lead to its place. -/
theorem IsReached.foldl_follow_pieces (h : f.IsReached) :
    f.pieces.foldl NormalForm.follow ⟨f.absolute, 0, []⟩ = f := by
  obtain ⟨absolute, climbs, names⟩ := f
  have hclimbs : (List.replicate climbs above).foldl NormalForm.follow ⟨absolute, 0, []⟩ =
      ⟨absolute, climbs, []⟩ := by
    cases absolute with
    | true =>
      obtain rfl : climbs = 0 := h.climbs_eq rfl
      rfl
    | false => rw [foldl_follow_replicate, Nat.zero_add]
  rw [pieces, List.foldl_append, hclimbs, foldl_follow_names h.isName, List.append_nil]

/-- Wherever one is, a piece behind a shortest path leads where the piece leads behind its pieces.
-/
theorem IsReached.foldl_follow_follow (h : f.IsReached) (hrelative : f.absolute = false)
    (hpiece : '/' ∉ piece) (g : NormalForm) :
    (f.follow piece).pieces.foldl NormalForm.follow g =
      (f.pieces.foldl NormalForm.follow g).follow piece := by
  rcases idle_or_above_or_isName hpiece with hidle | rfl | hname
  · rw [follow_of_idle hidle, follow_of_idle hidle]
  · rw [follow_above]
    cases hnames : f.names with
    | cons w names =>
      -- The two dots take back the last name.
      have hw := h.isName w (by rw [hnames]; exact List.mem_cons_self)
      rw [climb_of_names hnames, pieces, pieces, hnames, List.reverse_cons, ← List.append_assoc,
        List.foldl_concat, follow_of_isName hw, follow_above, climb_of_names rfl]
    | nil =>
      rw [climb_of_relative hnames hrelative, pieces, pieces, hnames, List.replicate_succ',
        List.reverse_nil, List.append_nil, List.append_nil, List.foldl_concat]
  · rw [follow_of_isName hname, pieces, pieces, List.reverse_cons, ← List.append_assoc,
      List.foldl_concat]

/-- Wherever one is, the pieces of a relative path lead where those of its shortest path lead. -/
theorem IsReached.foldl_follow_foldl (h : f.IsReached) (hrelative : f.absolute = false)
    (hps : ∀ piece ∈ ps, '/' ∉ piece) (g : NormalForm) :
    (ps.foldl NormalForm.follow f).pieces.foldl NormalForm.follow g =
      ps.foldl NormalForm.follow (f.pieces.foldl NormalForm.follow g) := by
  induction ps generalizing f with
  | nil => rfl
  | cons piece ps ih =>
    have hpiece := hps piece List.mem_cons_self
    have hnext : (f.follow piece).absolute = false := by rw [follow_absolute, hrelative]
    rw [List.foldl_cons, List.foldl_cons,
      ih (h.follow hpiece) hnext fun v hv => hps v (List.mem_cons_of_mem _ hv),
      h.foldl_follow_follow hrelative hpiece]

end NormalForm

open NormalForm

/-- The normal form of a path can be reached. -/
theorem isReached_normalForm (p : Path) : (normalForm p).IsReached := by
  have hstart : IsReached ⟨isAbsolute p, 0, []⟩ := ⟨fun _ => rfl, by simp⟩
  exact hstart.foldl_follow fun _ => Text.not_mem_of_mem_splitOn

theorem normalForm_absolute (p : Path) : (normalForm p).absolute = isAbsolute p :=
  foldl_follow_absolute _ _

/-- Joined pieces lead where the pieces lead. -/
theorem foldl_follow_join (h : ∀ w ∈ ps, '/' ∉ w) (g : NormalForm) :
    (List.splitOn '/' (List.intercalate ['/'] ps)).foldl follow g = ps.foldl follow g := by
  by_cases hne : ps = []
  · subst hne
    exact follow_of_idle (Or.inl rfl) g
  · rw [List.splitOn_intercalate _ h hne]

variable {f : NormalForm}

/-- A shortest path leads, wherever one is, where its pieces lead. -/
theorem foldl_follow_toPath (h : f.IsReached) (g : NormalForm) :
    (List.splitOn '/' f.toPath).foldl follow g = f.pieces.foldl follow g := by
  have hjoin := foldl_follow_join h.not_mem g
  rw [toPath_eq]
  split
  · -- The root stands behind an empty piece.
    rw [List.singleton_append, Text.splitOn_separator, List.foldl_cons,
      follow_of_idle (Or.inl rfl), hjoin]
  · rw [List.nil_append, hjoin]

/-- Two dots and names put together make no absolute path. -/
theorem isAbsolute_join_pieces (h : ∀ w ∈ ps, w = above ∨ IsName w) :
    isAbsolute (List.intercalate ['/'] ps) = false := by
  cases ps with
  | nil => rfl
  | cons w ps =>
    have hw : w ≠ [] ∧ isAbsolute w = false := by
      rcases h w List.mem_cons_self with rfl | hname
      · decide
      · exact ⟨hname.ne_nil, isAbsolute_of_isName hname⟩
    cases ps with
    | nil => simpa using hw.2
    | cons v ps => rw [List.intercalate_cons_cons, List.append_assoc, isAbsolute_append hw.1, hw.2]

/-- A shortest path is absolute if it leads from the root. -/
theorem isAbsolute_toPath (h : f.IsReached) : isAbsolute f.toPath = f.absolute := by
  rw [toPath_eq]
  cases f.absolute with
  | true => rfl
  | false => exact isAbsolute_join_pieces fun _ hw => h.above_or_isName hw

/-- A shortest path is read back to its place. -/
theorem normalForm_toPath (h : f.IsReached) : normalForm f.toPath = f := by
  rw [normalForm, isAbsolute_toPath h, foldl_follow_toPath h, h.foldl_follow_pieces]

theorem normalForm_normalize (p : Path) : normalForm (normalize p) = normalForm p :=
  normalForm_toPath (isReached_normalForm p)

/-- Behind a base one goes on from the place of the base. -/
theorem normalForm_join (a : Path) (hb : isAbsolute b = false) :
    normalForm (join a b) = (List.splitOn '/' b).foldl follow (normalForm a) := by
  rw [normalForm, isAbsolute_join_of_relative a hb, normalForm, join, hb,
    if_neg Bool.false_ne_true]
  by_cases ha : a = []
  · subst ha
    rfl
  split
  · next hend =>
    -- The last piece of the base is empty.
    have hlast : a.getLast? = some '/' := by simpa [ha] using hend
    have hbase := List.dropLast_append_getLast? _ hlast
    rw [← hbase, List.append_assoc, List.singleton_append, List.splitOn_append_cons_self,
      List.splitOn_append_cons_self, List.foldl_append, List.foldl_append]
    rfl
  · rw [List.splitOn_append_cons_self, List.foldl_append]

/-- Joining an absolute path leaves nothing of the base. -/
theorem join_of_absolute (a : Path) (hb : isAbsolute b = true) : join a b = b := if_pos hb

/-- The base of a join can be made short before. -/
theorem normalize_join_normalize (a b : Path) :
    normalize (join (normalize a) b) = normalize (join a b) := by
  cases hb : isAbsolute b with
  | true => rw [join_of_absolute _ hb, join_of_absolute _ hb]
  | false => rw [normalize, normalForm_join _ hb, normalForm_normalize, normalize,
      normalForm_join _ hb]

theorem isAbsolute_normalize (p : Path) : isAbsolute (normalize p) = isAbsolute p := by
  rw [normalize, isAbsolute_toPath (isReached_normalForm p), normalForm_absolute]

/-- Wherever one is, the shortest path of a relative path leads where the path leads. -/
theorem foldl_follow_normalForm (hb : isAbsolute b = false) (g : NormalForm) :
    (normalForm b).pieces.foldl follow g = (List.splitOn '/' b).foldl follow g := by
  have hstart : IsReached ⟨false, 0, []⟩ := ⟨fun _ => rfl, by simp⟩
  rw [normalForm, hb, hstart.foldl_follow_foldl rfl fun _ => Text.not_mem_of_mem_splitOn]
  rfl

/-- So can a relative path that is joined. -/
theorem normalize_join_normalize_of_relative (a : Path) (hb : isAbsolute b = false) :
    normalize (join a (normalize b)) = normalize (join a b) := by
  have hshort : isAbsolute (normalize b) = false := by rw [isAbsolute_normalize, hb]
  have hplace : normalForm (join a (normalize b)) = normalForm (join a b) := by
    rw [normalForm_join a hshort, normalForm_join a hb, normalize,
      foldl_follow_toPath (isReached_normalForm b), foldl_follow_normalForm hb]
  rw [normalize, hplace, normalize]

/-- A path in its shortest form leads to the same place from every absolute directory. -/
theorem walk_normalize (hbase : isAbsolute base = true) (p : Path) :
    walk base (normalize p) = walk base p := by
  cases hp : isAbsolute p with
  | true =>
    rw [walk, walk, isAbsolute_normalize, hp, if_pos rfl, walkFrom_normalize hp]
  | false =>
    rw [← resolve_eq_iff hbase]
    exact normalize_join_normalize_of_relative base hp

/-- The components of joined pieces are those of the pieces. -/
theorem innerComponents_join (h : ∀ w ∈ ps, '/' ∉ w) :
    innerComponents (List.intercalate ['/'] ps) = ps.filterMap component? := by
  by_cases hne : ps = []
  · subst hne
    rfl
  · rw [innerComponents, List.splitOn_intercalate _ h hne]

/-- The components of the pieces of a shortest path. -/
theorem filterMap_component?_pieces (h : f.IsReached) :
    f.pieces.filterMap component? =
      List.replicate f.climbs .above ++ f.names.reverse.map .name := by
  have hnames : f.names.reverse.filterMap component? = f.names.reverse.map .name := by
    rw [← List.filterMap_eq_map]
    exact List.filterMap_congr fun w hw =>
      component?_of_isName (h.isName w (List.mem_reverse.1 hw))
  rw [NormalForm.pieces, List.filterMap_append, hnames,
    List.filterMap_replicate_of_some component?_above]

/-- Two dots and names put together do not start with a dot. -/
theorem firstComponent_join_pieces (h : ∀ w ∈ ps, w = above ∨ IsName w) :
    firstComponent (List.intercalate ['/'] ps) = [] := by
  have hcurrent : (List.splitOn '/' (List.intercalate ['/'] ps)).head? ≠ some current := by
    intro hhead
    by_cases hne : ps = []
    · subst hne
      exact absurd hhead (by decide)
    · rw [List.splitOn_intercalate _ (fun w hw => not_mem_of_above_or_isName (h w hw)) hne] at hhead
      rcases h current (List.mem_of_mem_head? hhead) with habove | hname
      · exact absurd habove (by decide)
      · exact hname.ne_current rfl
  rw [firstComponent, isAbsolute_join_pieces h, if_neg Bool.false_ne_true, if_neg hcurrent]

/-- The components of a shortest path: the root or nothing, the levels that are climbed, and the
names. -/
theorem components_toPath (h : f.IsReached) :
    components f.toPath = (if f.absolute then [.root] else []) ++
      (List.replicate f.climbs .above ++ f.names.reverse.map .name) := by
  have hinner := innerComponents_join h.not_mem
  rw [filterMap_component?_pieces h] at hinner
  rw [toPath_eq]
  cases f.absolute with
  | true => exact (components_separator _).trans (congrArg _ hinner)
  | false =>
    have hfirst := firstComponent_join_pieces fun _ hw => h.above_or_isName hw
    exact congrArg₂ _ hfirst hinner

/-- A path in which nothing can be left out. -/
structure IsCanonical (p : Path) : Prop where
  /-- No component stands for the directory that it is in. -/
  no_current : Component.current ∉ components p
  /-- Two dots stand only at the start. -/
  above_first : ∃ n rest, components p = List.replicate n Component.above ++ rest ∧
    Component.above ∉ rest
  /-- They do so only if the path is relative. -/
  above_relative : isAbsolute p = true → Component.above ∉ components p

/-- A shortest path is canonical. -/
theorem isCanonical_toPath (h : f.IsReached) : IsCanonical f.toPath := by
  have hcomponents := components_toPath h
  have hnames : Component.above ∉ f.names.reverse.map Component.name := by simp
  cases habsolute : f.absolute with
  | true =>
    have hclimbs := h.climbs_eq habsolute
    have hnone : Component.above ∉ components f.toPath := by
      rw [hcomponents, habsolute, hclimbs]
      simp
    exact ⟨by rw [hcomponents, habsolute, hclimbs]; simp, ⟨0, _, rfl, hnone⟩, fun _ => hnone⟩
  | false =>
    rw [habsolute, if_neg Bool.false_ne_true, List.nil_append] at hcomponents
    refine ⟨by rw [hcomponents]; simp [List.mem_replicate], ⟨_, _, hcomponents, hnames⟩, ?_⟩
    intro hroot
    rw [isAbsolute_toPath h, habsolute] at hroot
    contradiction

/-- The shortest path is canonical and absolute or relative like the path that it stands for, it
leads from every directory to the same place, and it is its own shortest path. It can stand for the
path wherever another path is joined to it, and a relative one also where it is joined itself. -/
theorem normalize_canonical (p a b : Path) :
    IsCanonical (normalize p) ∧ isAbsolute (normalize p) = isAbsolute p ∧
      normalize (normalize p) = normalize p ∧
      (∀ base, isAbsolute base = true → walk base (normalize p) = walk base p) ∧
      normalize (join a b) = normalize (join (normalize a) b) ∧
      (isAbsolute b = false → normalize (join a b) = normalize (join a (normalize b))) := by
  have hplace := isReached_normalForm p
  refine ⟨isCanonical_toPath hplace, isAbsolute_normalize p, ?_, ?_, ?_, ?_⟩
  · rw [normalize, normalForm_normalize, normalize]
  · exact fun base hbase => walk_normalize hbase p
  · exact (normalize_join_normalize a b).symm
  · exact fun hb => (normalize_join_normalize_of_relative a hb).symm

example : normalize "a/../b//../../c/".toList = "../c".toList := by decide

/-- Paths that climb above their start can stand for their shortest paths. -/
theorem normalize_canonical_climbing :
    isAbsolute "/proj/lib".toList = true ∧ isAbsolute "./../c/../..".toList = false ∧
    walk "/proj/lib".toList (normalize "x/.././../y//".toList) =
      walk "/proj/lib".toList "x/.././../y//".toList ∧
    normalize (join "../a/./b/../..".toList "./../c/../..".toList) =
      normalize (join "../a/./b/../..".toList (normalize "./../c/../..".toList)) := by
  have hbase : isAbsolute "/proj/lib".toList = true := by decide
  have hrelative : isAbsolute "./../c/../..".toList = false := by decide
  obtain ⟨-, -, -, hwalk, -, hjoin⟩ :=
    normalize_canonical "x/.././../y//".toList "../a/./b/../..".toList "./../c/../..".toList
  exact ⟨hbase, hrelative, hwalk _ hbase, hjoin hrelative⟩

end Path

end ElixirDiagnostics
