import ElixirDiagnostics.Proofs.Path.Walk
import Mathlib.Data.List.Infix

/-!
# Ancestors and the directories above

The ancestors of a path are what is left of its text when components are taken off at the end, and
two dots are a component like any other. So a search through the ancestors visits each place on the
walk of the path, from its end back to the root: all the directories above the end, in their order,
and between them the detours, which the walk has entered and left again. As long as the search finds
nothing in a detour, it finds what a search through the directories above finds.
-/

namespace ElixirDiagnostics

namespace Path

variable {p a d : Path} {w piece : Text} {ps names stack t : List Text} {f : List Text → Bool}

/-- The places above the one that some pieces lead to, as the search through the ancestors visits
them. -/
def placesAbove : List Text → List (List Text)
  | [] => []
  | w :: ps => if isIdle true w ps then placesAbove ps else placeOf ps :: placesAbove ps

/-- From the root an empty piece and a dot are idle, wherever they stand. -/
theorem isIdle_iff (w : Text) (ps : List Text) :
    isIdle true w ps = true ↔ w = [] ∨ w = current := by
  simp [isIdle]

/-- An idle piece changes no place. -/
theorem placeOf_of_isIdle (h : isIdle true w ps = true) : placeOf (w :: ps) = placeOf ps :=
  enter_of_idle ((isIdle_iff w ps).1 h) _

/-- Idle pieces at the end can be dropped. -/
theorem placeOf_dropIdle (ps : List Text) : placeOf (dropIdle true ps) = placeOf ps := by
  induction ps with
  | nil => rfl
  | cons w ps ih =>
    rw [dropIdle]
    split
    · next h => rw [ih, placeOf_of_isIdle h]
    · rfl

/-- Dropping idle pieces leaves no new ones. -/
theorem mem_of_mem_dropIdle {v : Text} (h : v ∈ dropIdle true ps) : v ∈ ps := by
  induction ps with
  | nil => contradiction
  | cons w ps ih =>
    rw [dropIdle] at h
    split at h
    · exact List.mem_cons_of_mem w (ih h)
    · exact h

/-- The path with some pieces leads where the pieces lead. -/
theorem walkFrom_ofPieces (h : ∀ w ∈ ps, '/' ∉ w) :
    walkFrom [] (ofPieces true ps) = placeOf ps := by
  have hdrop : ∀ w ∈ dropIdle true ps, '/' ∉ w := fun w hw => h w (mem_of_mem_dropIdle hw)
  rw [← placeOf_dropIdle, ← walkFrom_join_pieces hdrop]
  rfl

/-- No piece below the root holds a separator. -/
theorem not_mem_of_mem_bodyPieces (p : Path) : ∀ w ∈ bodyPieces p, '/' ∉ w :=
  fun _ hw => Text.not_mem_of_mem_splitOn (List.mem_reverse.1 hw)

/-- An absolute path leads where its pieces below the root lead. -/
theorem placeOf_bodyPieces (h : isAbsolute p = true) : placeOf (bodyPieces p) = walkFrom [] p := by
  obtain ⟨r, rfl⟩ := isAbsolute_iff.1 h
  rw [walkFrom_root, walkFrom, bodyPieces, if_pos h, placeOf, List.foldr_reverse]
  rfl

/-- The ancestors of some pieces lead to the places above. -/
theorem map_walkFrom_ancestorsOf (h : ∀ w ∈ ps, '/' ∉ w) :
    (ancestorsOf true ps).map (walkFrom []) = placesAbove ps := by
  induction ps with
  | nil => rfl
  | cons w ps ih =>
    have hps : ∀ v ∈ ps, '/' ∉ v := fun v hv => h v (List.mem_cons_of_mem w hv)
    rw [ancestorsOf, placesAbove]
    split
    · exact ih hps
    · rw [List.map_cons, walkFrom_ofPieces hps, ih hps]

/-- The proper ancestors of an absolute path lead to the places above it. -/
theorem map_walkFrom_properAncestors (h : isAbsolute p = true) :
    (properAncestors p).map (walkFrom []) = placesAbove (bodyPieces p) := by
  rw [properAncestors, h, map_walkFrom_ancestorsOf (not_mem_of_mem_bodyPieces p)]

/-- One level up from where a piece leads is above where it starts. -/
theorem tail_enter_suffix (stack : List Text) (piece : Text) :
    (enter stack piece).tail <:+ stack := by
  unfold enter
  split
  · exact List.tail_suffix stack
  · split
    · exact (List.tail_suffix _).trans (List.tail_suffix stack)
    · exact List.suffix_refl stack

/-- A suffix is the whole or a suffix of the tail. -/
theorem eq_or_suffix_tail {s u : List Text} (h : u <:+ s) : u = s ∨ u <:+ s.tail := by
  cases s with
  | nil => exact Or.inr h
  | cons v s => exact List.suffix_cons_iff.1 h

/-- A place that is no hit can be left out of the search upwards. -/
theorem find?_tails_tail {s : List Text} (h : f s = false) :
    s.tail.tails.find? f = s.tails.find? f := by
  cases s with
  | nil => rfl
  | cons v s =>
    have hneg : ¬f (v :: s) = true := by simp [h]
    rw [List.tails_cons, List.find?_cons_of_neg hneg, List.tail_cons]

/-- A search that finds nothing in a detour finds the first hit among a place and the directories
above it, if the pieces lead to this place or below it. -/
theorem find?_placesAbove_of_suffix (ht : t <:+ placeOf ps)
    (hdetour : ∀ s ∈ placeOf ps :: placesAbove ps, ¬s <:+ t → f s = false) :
    (placeOf ps :: placesAbove ps).find? f = t.tails.find? f := by
  induction ps generalizing t with
  | nil =>
    obtain rfl : t = [] := List.suffix_nil.1 ht
    rfl
  | cons w ps ih =>
    by_cases hidle : isIdle true w ps = true
    · rw [placeOf_of_isIdle hidle] at ht
      rw [placeOf_of_isIdle hidle, placesAbove, if_pos hidle] at hdetour ⊢
      exact ih ht hdetour
    rw [placesAbove, if_neg hidle] at hdetour ⊢
    have habove : (placeOf (w :: ps)).tail <:+ placeOf ps := tail_enter_suffix (placeOf ps) w
    have hbefore : ∀ s ∈ placeOf ps :: placesAbove ps, ¬s <:+ t → f s = false :=
      fun s hs => hdetour s (List.mem_cons_of_mem _ hs)
    cases hf : f (placeOf (w :: ps)) with
    | true =>
      -- A hit at the end of the walk is no detour, so it is the place itself.
      have hend : placeOf (w :: ps) <:+ t := by
        by_contra hout
        simp [hdetour _ List.mem_cons_self hout] at hf
      obtain rfl : t = placeOf (w :: ps) :=
        ht.eq_of_length (Nat.le_antisymm ht.length_le hend.length_le)
      rw [List.find?_cons_of_pos hf]
      cases hs : placeOf (w :: ps) with
      | nil => simp [← hs, hf]
      | cons v s => rw [List.tails_cons, ← hs, List.find?_cons_of_pos hf]
    | false =>
      rw [List.find?_cons_of_neg (by simp [hf])]
      rcases eq_or_suffix_tail ht with rfl | htail
      · rw [← find?_tails_tail hf]
        refine ih habove fun s hs hout => ?_
        by_cases hst : s <:+ placeOf (w :: ps)
        · obtain rfl := (eq_or_suffix_tail hst).resolve_right hout
          exact hf
        · exact hbefore s hs hst
      · exact ih (htail.trans habove) hbefore

/-- A search through the places above some pieces that finds nothing in a detour finds the first hit
among the directories above. -/
theorem find?_placesAbove
    (hdetour : ∀ s ∈ placesAbove ps, s ∉ (placeOf ps).tails.tail → f s = false) :
    (placesAbove ps).find? f = (placeOf ps).tails.tail.find? f := by
  induction ps with
  | nil => rfl
  | cons w ps ih =>
    by_cases hidle : isIdle true w ps = true
    · rw [placeOf_of_isIdle hidle, placesAbove, if_pos hidle] at hdetour ⊢
      exact ih hdetour
    have habove : (placeOf (w :: ps)).tail <:+ placeOf ps := tail_enter_suffix (placeOf ps) w
    rw [placesAbove, if_neg hidle] at hdetour ⊢
    cases hs : placeOf (w :: ps) with
    | nil =>
      -- The walk ends at the root, so all that the search visits are detours.
      rw [hs] at hdetour
      have hnone : ∀ s ∈ placeOf ps :: placesAbove ps, ¬f s = true := by
        intro s hmem
        simp [hdetour s hmem (by simp)]
      rw [List.find?_eq_none.2 hnone]
      rfl
    | cons v s =>
      rw [hs] at hdetour habove
      rw [List.tails_cons, List.tail_cons] at hdetour ⊢
      refine find?_placesAbove_of_suffix habove fun u hu hout => hdetour u hu ?_
      rwa [List.mem_tails]

/-- A name is not idle. -/
theorem isIdle_of_isName (h : IsName w) (ps : List Text) : isIdle true w ps = false := by
  rw [Bool.eq_false_iff, Ne, isIdle_iff]
  exact h.not_idle

/-- The path with some names as its pieces is the shortest path to the directory. -/
theorem ofPieces_of_isName (h : ∀ w ∈ names, IsName w) : ofPieces true names = ofNames names := by
  rw [ofNames_eq]
  cases names with
  | nil => rfl
  | cons w names =>
    rw [ofPieces, dropIdle, isIdle_of_isName (h w List.mem_cons_self)]
    rfl

/-- The pieces below the root of the shortest path to a directory are its names. -/
theorem bodyPieces_ofNames (hne : names ≠ []) (h : ∀ w ∈ names, IsName w) :
    bodyPieces (ofNames names) = names := by
  have hpieces : ∀ w ∈ names.reverse, '/' ∉ w := fun w hw => (h w (List.mem_reverse.1 hw)).not_mem
  rw [bodyPieces, if_pos (isAbsolute_ofNames names), ofNames_eq, List.drop_succ_cons,
    List.drop_zero, List.splitOn_intercalate _ hpieces (by simpa using hne), List.reverse_reverse]

/-- Names as pieces have the directories above as their ancestors. -/
theorem ancestorsOf_of_isName (h : ∀ w ∈ names, IsName w) :
    ancestorsOf true names = names.tails.tail.map ofNames := by
  induction names with
  | nil => rfl
  | cons w names ih =>
    have hnames : ∀ v ∈ names, IsName v := fun v hv => h v (List.mem_cons_of_mem w hv)
    rw [ancestorsOf, isIdle_of_isName (h w List.mem_cons_self), ih hnames,
      ofPieces_of_isName hnames]
    cases names with
    | nil => rfl
    | cons v names => simp

/-- The proper ancestors of the shortest path to a directory are the shortest paths to the
directories above it. -/
theorem properAncestors_ofNames (h : ∀ w ∈ names, IsName w) :
    properAncestors (ofNames names) = names.tails.tail.map ofNames := by
  rw [properAncestors, isAbsolute_ofNames]
  by_cases hne : names = []
  · subst hne
    rfl
  · rw [bodyPieces_ofNames hne h, ancestorsOf_of_isName h]

/-- With the directory itself these are its ancestors. -/
theorem ancestors_ofNames (h : ∀ w ∈ names, IsName w) :
    ancestors (ofNames names) = names.tails.map ofNames := by
  rw [ancestors, properAncestors_ofNames h]
  cases names <;> simp

/-- A name below a directory is put behind its shortest path. -/
theorem join_ofNames (hw : IsName w) (h : ∀ v ∈ names, IsName v) :
    join (ofNames names) w = ofNames (w :: names) := by
  have hrelative := isAbsolute_of_isName hw
  rw [join, hrelative, if_neg (by simp)]
  cases names with
  | nil => simp [ofNames_eq]
  | cons v names =>
    have hv := h v List.mem_cons_self
    -- The shortest path ends with its last name, so with no separator.
    obtain ⟨before, hbefore⟩ : ∃ before, ofNames (v :: names) = before ++ v := by
      rw [ofNames_eq, List.reverse_cons]
      by_cases hne : names.reverse = []
      · exact ⟨['/'], by simp [hne]⟩
      · rw [Text.intercalate_append_singleton hne]
        exact ⟨'/' :: List.intercalate ['/'] names.reverse ++ ['/'], by simp⟩
    have hlast : (ofNames (v :: names)).getLast? ≠ some '/' := by
      rw [hbefore, List.getLast?_append_of_ne_nil _ hv.ne_nil]
      intro hmem
      exact hv.not_mem (List.mem_of_getLast? hmem)
    have hnonempty : (ofNames (v :: names)).isEmpty = false := by rw [ofNames_eq]; rfl
    rw [if_neg (by simp [hnonempty, hlast]), ofNames_eq, ofNames_eq, List.reverse_cons (a := w),
      Text.intercalate_append_singleton (by simp)]
    rfl

/-- A name in the directory that an absolute path leads to. -/
theorem normalize_join_of_isName (hp : isAbsolute p = true) (hw : IsName w) :
    normalize (join p w) = join (normalize p) w := by
  have hrelative := isAbsolute_of_isName hw
  have hwalk : walkFrom [] (join p w) = w :: walkFrom [] p := by
    rw [walkFrom_join hp, walk, hrelative, if_neg (by simp), walkFrom,
      List.splitOn_eq_singleton hw.not_mem]
    exact enter_of_isName hw _
  have hnames := isName_of_mem_walkFrom p
  rw [normalize_of_absolute (isAbsolute_join hp w), hwalk, normalize_of_absolute hp,
    join_ofNames hw hnames]

/-- All ancestors of an absolute path are absolute. -/
theorem isAbsolute_of_mem_properAncestors (hp : isAbsolute p = true) (h : a ∈ properAncestors p) :
    isAbsolute a = true := by
  rw [properAncestors, hp] at h
  generalize bodyPieces p = ps at h
  induction ps with
  | nil => contradiction
  | cons w ps ih =>
    rw [ancestorsOf] at h
    split at h
    · exact ih h
    · rcases List.mem_cons.1 h with rfl | h
      · rfl
      · exact ih h

/-- The same with the path itself. -/
theorem isAbsolute_of_mem_ancestors (hp : isAbsolute p = true) (h : a ∈ ancestors p) :
    isAbsolute a = true := by
  rcases List.mem_cons.1 h with rfl | h
  · exact hp
  · exact isAbsolute_of_mem_properAncestors hp h

/-- The ancestors of an absolute path lead to the place where it leads and the places above. -/
theorem map_walkFrom_ancestors (hp : isAbsolute p = true) :
    (ancestors p).map (walkFrom []) =
      placeOf (bodyPieces p) :: placesAbove (bodyPieces p) := by
  rw [ancestors, List.map_cons, map_walkFrom_properAncestors hp, placeOf_bodyPieces hp]

/-- The directories of a normalized path, written as names. -/
theorem ancestors_normalize (hp : isAbsolute p = true) :
    ancestors (normalize p) = (walkFrom [] p).tails.map ofNames := by
  rw [normalize_of_absolute hp, ancestors_ofNames (isName_of_mem_walkFrom p)]

/-- The directories above a normalized path, written as names. -/
theorem properAncestors_normalize (hp : isAbsolute p = true) :
    properAncestors (normalize p) = (walkFrom [] p).tails.tail.map ofNames := by
  rw [normalize_of_absolute hp, properAncestors_ofNames (isName_of_mem_walkFrom p)]

/-- Whether a path leads to one of some directories can be seen from its normal form. -/
theorem mem_of_normalize_mem {dirs : List (List Text)} (hdirs : ∀ s ∈ dirs, ∀ w ∈ s, IsName w)
    (ha : isAbsolute a = true) : normalize a ∈ dirs.map ofNames ↔ walkFrom [] a ∈ dirs := by
  rw [normalize_of_absolute ha, List.mem_map]
  constructor
  · rintro ⟨s, hs, he⟩
    rwa [← (ofNames_inj (hdirs s hs) (isName_of_mem_walkFrom a)).1 he]
  · intro h
    exact ⟨_, h, rfl⟩

/-- Every directory above a walk's end has names. -/
theorem isName_of_mem_tails (p : Path) : ∀ s ∈ (walkFrom [] p).tails, ∀ w ∈ s, IsName w := by
  intro s hs w hw
  exact isName_of_mem_walkFrom p w (((List.mem_tails _ _).1 hs).subset hw)

variable {test : Path → Bool}

/-- A test that sees no difference between a path and its normal form is a test of places. -/
theorem map_normalize_find? {paths : List Path} (hpaths : ∀ a ∈ paths, isAbsolute a = true)
    (htest : ∀ a, isAbsolute a = true → test (normalize a) = test a) :
    (paths.find? test).map normalize =
      ((paths.map (walkFrom [])).find? fun s => test (ofNames s)).map ofNames := by
  induction paths with
  | nil => rfl
  | cons a paths ih =>
    have ha := hpaths a List.mem_cons_self
    have hrest := ih fun b hb => hpaths b (List.mem_cons_of_mem a hb)
    have hplace : test (ofNames (walkFrom [] a)) = test a := by
      rw [← normalize_of_absolute ha, htest a ha]
    rw [List.map_cons, List.find?_cons, List.find?_cons, hplace]
    cases test a with
    | true => rw [Option.map_some, Option.map_some, normalize_of_absolute ha]
    | false => exact hrest

/-- A search through the ancestors of a path that finds nothing in a detour finds what a search
through the ancestors of its normal form finds. -/
theorem find?_ancestors (hp : isAbsolute p = true)
    (htest : ∀ a, isAbsolute a = true → test (normalize a) = test a)
    (hdetour : ∀ a ∈ ancestors p, normalize a ∉ ancestors (normalize p) → test a = false) :
    ((ancestors p).find? test).map normalize = (ancestors (normalize p)).find? test := by
  rw [map_normalize_find? (fun a => isAbsolute_of_mem_ancestors hp) htest,
    map_walkFrom_ancestors hp, find?_placesAbove_of_suffix (List.suffix_refl _),
    ancestors_normalize hp, placeOf_bodyPieces hp, List.find?_map]
  · rfl
  · intro s hs hout
    rw [← map_walkFrom_ancestors hp] at hs
    obtain ⟨a, ha, rfl⟩ := List.mem_map.1 hs
    have habs := isAbsolute_of_mem_ancestors hp ha
    rw [← normalize_of_absolute habs, htest a habs]
    refine hdetour a ha ?_
    rwa [ancestors_normalize hp, mem_of_normalize_mem (isName_of_mem_tails p) habs, List.mem_tails,
      ← placeOf_bodyPieces hp]

/-- The same for the directories above. -/
theorem find?_properAncestors (hp : isAbsolute p = true)
    (htest : ∀ a, isAbsolute a = true → test (normalize a) = test a)
    (hdetour : ∀ a ∈ properAncestors p, normalize a ∉ properAncestors (normalize p) →
      test a = false) :
    ((properAncestors p).find? test).map normalize =
      (properAncestors (normalize p)).find? test := by
  have hnames : ∀ s ∈ (walkFrom [] p).tails.tail, ∀ w ∈ s, IsName w :=
    fun s hs => isName_of_mem_tails p s (List.mem_of_mem_tail hs)
  rw [map_normalize_find? (fun a => isAbsolute_of_mem_properAncestors hp) htest,
    map_walkFrom_properAncestors hp, find?_placesAbove, properAncestors_normalize hp,
    placeOf_bodyPieces hp, List.find?_map]
  · rfl
  · intro s hs hout
    rw [← map_walkFrom_properAncestors hp] at hs
    obtain ⟨a, ha, rfl⟩ := List.mem_map.1 hs
    have habs := isAbsolute_of_mem_properAncestors hp ha
    rw [← normalize_of_absolute habs, htest a habs]
    refine hdetour a ha ?_
    rwa [properAncestors_normalize hp, mem_of_normalize_mem hnames habs, ← placeOf_bodyPieces hp]

/-- Pieces without two dots lead straight down, so the places above are those above the end. -/
theorem mem_tails_of_mem_placesAbove {s : List Text} (h : above ∉ ps) (hps : ∀ w ∈ ps, '/' ∉ w)
    (hs : s ∈ placesAbove ps) : s ∈ (placeOf ps).tails.tail := by
  induction ps with
  | nil => contradiction
  | cons w ps ih =>
    rw [List.mem_cons, not_or] at h
    rw [List.forall_mem_cons] at hps
    rcases idle_or_above_or_isName hps.1 with hidle | habove | hname
    · rw [placesAbove, if_pos ((isIdle_iff w ps).2 hidle)] at hs
      rw [placeOf_cons, enter_of_idle hidle]
      exact ih h.2 hps.2 hs
    · exact absurd habove.symm h.1
    · rw [placesAbove, if_neg (by simp [isIdle_of_isName hname])] at hs
      rw [placeOf_cons, enter_of_isName hname, List.tails_cons, List.tail_cons]
      rcases List.mem_cons.1 hs with rfl | hs
      · exact (List.mem_tails _ _).2 (List.suffix_refl _)
      · exact List.mem_of_mem_tail (ih h.2 hps.2 hs)

/-- A path without two dots takes no detour: the directories above it are the places above. -/
theorem normalize_mem_properAncestors (hp : isAbsolute p = true) (h : above ∉ p.splitOn '/')
    (ha : a ∈ properAncestors p) : normalize a ∈ properAncestors (normalize p) := by
  have hpieces : above ∉ bodyPieces p := by
    obtain ⟨r, rfl⟩ := isAbsolute_iff.1 hp
    rw [Text.splitOn_separator, List.mem_cons, not_or] at h
    rw [bodyPieces, if_pos hp, List.mem_reverse]
    exact h.2
  have hnames : ∀ s ∈ (walkFrom [] p).tails.tail, ∀ w ∈ s, IsName w :=
    fun s hs => isName_of_mem_tails p s (List.mem_of_mem_tail hs)
  have hplace : walkFrom [] a ∈ placesAbove (bodyPieces p) := by
    rw [← map_walkFrom_properAncestors hp]
    exact List.mem_map_of_mem ha
  rw [properAncestors_normalize hp,
    mem_of_normalize_mem hnames (isAbsolute_of_mem_properAncestors hp ha), ← placeOf_bodyPieces hp]
  exact mem_tails_of_mem_placesAbove hpieces (not_mem_of_mem_bodyPieces p) hplace

/-- The same with the path itself. -/
theorem normalize_mem_ancestors (hp : isAbsolute p = true) (h : above ∉ p.splitOn '/')
    (ha : a ∈ ancestors p) : normalize a ∈ ancestors (normalize p) := by
  rcases List.mem_cons.1 ha with rfl | ha
  · exact List.mem_cons_self
  · exact List.mem_cons_of_mem _ (normalize_mem_properAncestors hp h ha)

/-- The deepest of some directories that passes a test: all others that do are above it. -/
structure IsDeepest (test : Path → Bool) (dirs : List Path) (d : Path) : Prop where
  /-- It is one of them. -/
  mem : d ∈ dirs
  /-- It passes the test. -/
  passes : test d = true
  /-- Every other one that passes is above it. -/
  above : ∀ d' ∈ dirs, test d' = true → d' ∈ ancestors d

/-- A search upwards finds the deepest directory first. -/
theorem isDeepest_of_find? (hnames : ∀ w ∈ names, IsName w)
    (h : (names.tails.map ofNames).find? test = some d) :
    IsDeepest test (names.tails.map ofNames) d := by
  induction names with
  | nil =>
    have hfound := List.find?_some h
    obtain rfl : d = ofNames [] := by simpa using List.mem_of_find?_eq_some h
    exact ⟨List.mem_cons_self, hfound, fun d' hd' _ => hd'⟩
  | cons w names ih =>
    rw [List.tails_cons, List.map_cons, List.find?_cons] at h
    rw [List.tails_cons, List.map_cons]
    cases hhead : test (ofNames (w :: names)) with
    | true =>
      rw [hhead] at h
      obtain rfl : ofNames (w :: names) = d := Option.some.inj h
      refine ⟨List.mem_cons_self, hhead, fun d' hd' _ => ?_⟩
      rwa [ancestors_ofNames hnames, List.tails_cons, List.map_cons]
    | false =>
      rw [hhead] at h
      have hrest := ih (fun v hv => hnames v (List.mem_cons_of_mem w hv)) h
      refine ⟨List.mem_cons_of_mem _ hrest.mem, hrest.passes, fun d' hd' hpass => ?_⟩
      rcases List.mem_cons.1 hd' with rfl | hd'
      · simp [hhead] at hpass
      · exact hrest.above d' hd' hpass

end Path

end ElixirDiagnostics
