import ElixirDiagnostics.Proofs.Path.Walk

/-!
# Components

Read as a path, a text is the sequence of its components: the root if it is absolute, a dot if it is
relative and starts with one, and then each two dots and each name. Separators that are repeated or
stand at the end, and dots behind the start, make none. So what stands behind a separator adds its
components and changes nothing about those before it, and joining a relative path is the same.
-/

namespace ElixirDiagnostics

namespace Path

/-- What a part of a path stands for. -/
inductive Component where
  /-- The root. -/
  | root
  /-- The directory that a relative path starts from. -/
  | current
  /-- The directory above. -/
  | above
  /-- A name in a directory. -/
  | name (w : Text)
  deriving DecidableEq, Repr

/-- The component of a piece behind the start of a path, if it has one. -/
def component? (piece : Text) : Option Component :=
  if piece = [] ∨ piece = current then none
  else if piece = above then some .above
  else some (.name piece)

/-- The components of a path behind its start. -/
def innerComponents (p : Path) : List Component := (List.splitOn '/' p).filterMap component?

/-- The component that a path starts with, if its start makes one. -/
def firstComponent (p : Path) : List Component :=
  if isAbsolute p then [.root]
  else if (List.splitOn '/' p).head? = some current then [.current]
  else []

/-- The components of a path. -/
def components (p : Path) : List Component := firstComponent p ++ innerComponents p

variable {p q a b : Path} {w s : Text}

theorem component?_above : component? above = some .above := by
  rw [component?, if_neg (by decide), if_pos rfl]

theorem component?_of_isName (h : IsName w) : component? w = some (.name w) := by
  rw [component?, if_neg h.not_idle, if_neg h.ne_above]

/-- Behind the start there is neither the root nor a dot. -/
theorem mem_innerComponents {c : Component} (h : c ∈ innerComponents p) :
    c ≠ .root ∧ c ≠ .current := by
  obtain ⟨piece, -, hc⟩ := List.mem_filterMap.1 h
  unfold component? at hc
  split at hc
  · contradiction
  · split at hc <;> cases hc <;> exact ⟨nofun, nofun⟩

@[simp]
theorem innerComponents_nil : innerComponents [] = [] := rfl

/-- A separator cuts the components apart. -/
theorem innerComponents_append_separator (a b : Path) :
    innerComponents (a ++ '/' :: b) = innerComponents a ++ innerComponents b := by
  rw [innerComponents, List.splitOn_append_cons_self, List.filterMap_append]
  rfl

/-- Separators alone make no components. -/
theorem innerComponents_of_separators (h : ∀ c ∈ s, c = '/') : innerComponents s = [] := by
  induction s with
  | nil => rfl
  | cons c s ih =>
    obtain rfl : c = '/' := h c List.mem_cons_self
    have hcut := innerComponents_append_separator [] s
    rw [List.nil_append, innerComponents_nil, List.nil_append] at hcut
    rw [hcut, ih fun d hd => h d (List.mem_cons_of_mem _ hd)]

/-- What stands behind a text that is not empty does not decide whether it is absolute. -/
theorem isAbsolute_append (ha : a ≠ []) (b : Path) : isAbsolute (a ++ b) = isAbsolute a := by
  obtain ⟨c, a, rfl⟩ := List.exists_cons_of_ne_nil ha
  rfl

/-- Behind a path that is not empty a separator adds the components of what follows it. -/
theorem components_append_separator (ha : a ≠ []) (b : Path) :
    components (a ++ '/' :: b) = components a ++ innerComponents b := by
  have hstart : firstComponent (a ++ '/' :: b) = firstComponent a := by
    have hpieces : (List.splitOn '/' a ++ List.splitOn '/' b).head? = (List.splitOn '/' a).head? :=
      List.head?_append_of_ne_nil _ (List.splitOn_ne_nil '/' a)
    rw [firstComponent, firstComponent, isAbsolute_append ha, List.splitOn_append_cons_self, hpieces]
  rw [components, hstart, innerComponents_append_separator, ← List.append_assoc, components]

/-- Behind the root all components are inner ones. -/
theorem components_separator (b : Path) : components ('/' :: b) = .root :: innerComponents b := by
  have hinner := innerComponents_append_separator [] b
  rw [List.nil_append, innerComponents_nil, List.nil_append] at hinner
  rw [components, hinner]
  rfl

/-- What follows a separator counts only by its components. -/
theorem components_separator_congr (a : Path) (h : innerComponents p = innerComponents q) :
    components (a ++ '/' :: p) = components (a ++ '/' :: q) := by
  by_cases ha : a = []
  · rw [ha, List.nil_append, List.nil_append, components_separator, components_separator, h]
  · rw [components_append_separator ha, components_append_separator ha, h]

/-- More separators before a separator make no difference. -/
theorem components_append_separators (a b : Path) (h : ∀ c ∈ s, c = '/') :
    components (a ++ s ++ '/' :: b) = components (a ++ '/' :: b) := by
  cases s with
  | nil => rw [List.append_nil]
  | cons c s =>
    obtain rfl : c = '/' := h c List.mem_cons_self
    have hs := innerComponents_of_separators fun d hd => h d (List.mem_cons_of_mem _ hd)
    rw [List.append_assoc, List.cons_append]
    refine components_separator_congr a ?_
    rw [innerComponents_append_separator, hs, List.nil_append]

/-- A relative path that is joined adds its components, unless the base is empty. -/
theorem components_join (ha : a ≠ []) (hb : isAbsolute b = false) :
    components (join a b) = components a ++ innerComponents b := by
  rw [join, hb, if_neg Bool.false_ne_true]
  split
  · next hend =>
    -- The base ends with a separator, and without it the components are the same.
    have hlast : a.getLast? = some '/' := by simpa [ha] using hend
    have hbase := List.dropLast_append_getLast? _ hlast
    rw [← hbase, List.append_assoc, List.singleton_append]
    by_cases hdrop : a.dropLast = []
    · rw [hdrop, List.nil_append, List.nil_append, components_separator, components_separator]
      rfl
    · rw [components_append_separator hdrop, components_append_separator hdrop,
        innerComponents_nil, List.append_nil]
  · exact components_append_separator ha b

/-- A joined path is absolute if the base is, unless it is absolute itself. -/
theorem isAbsolute_join_of_relative (a : Path) (hb : isAbsolute b = false) :
    isAbsolute (join a b) = isAbsolute a := by
  rw [join, hb, if_neg Bool.false_ne_true]
  by_cases ha : a = []
  · subst ha
    exact hb
  · split <;> exact isAbsolute_append ha _

/-- A path is absolute exactly when its first component is the root. -/
theorem isAbsolute_iff_head? : isAbsolute p = true ↔ (components p).head? = some .root := by
  unfold components firstComponent
  split
  · next h => simp [h]
  · next h =>
    have hfirst : ∀ c ∈ (if (List.splitOn '/' p).head? = some current then [Component.current]
        else []) ++ innerComponents p, c ≠ .root := by
      intro c hc
      rcases List.mem_append.1 hc with hc | hc
      · split at hc
        · obtain rfl := List.mem_singleton.1 hc
          exact nofun
        · contradiction
      · exact (mem_innerComponents hc).1
    refine iff_of_false h fun hhead => ?_
    exact hfirst _ (List.mem_of_mem_head? hhead) rfl

/-- So the components tell whether a path is absolute. -/
theorem isAbsolute_eq_of_components (h : components p = components q) :
    isAbsolute p = isAbsolute q := by
  rw [Bool.eq_iff_iff, isAbsolute_iff_head?, isAbsolute_iff_head?, h]

end Path

end ElixirDiagnostics
