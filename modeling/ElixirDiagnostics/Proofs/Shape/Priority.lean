import ElixirDiagnostics.Proofs.Shape.Opening
import Mathlib.Data.List.Nodup
import Mathlib.Data.List.Perm.Basic

/-!
# The priority of the shapes

Two shapes that see something at the same position are the two that stand under a banner, and of
these the one with its location on the error line goes first. Therefore a catalog of the same shapes
in any other order, as long as these two keep theirs, sees the same everywhere. And therefore no
evidence outside the lines that a sighting takes up can change it: no other shape can see anything
at its first line.
-/

namespace ElixirDiagnostics

namespace Shape

variable {t : Trace.Classifier} {lines : List Text} {i : Nat} {m : Sighting} {s s' : Shape}

/-- The first hit of a search in which only two candidates, of which one stands first, can both be
hits: any hit, unless it is that of the second while the first is one as well. -/
theorem findSome?_eq_some_iff_of_rivals {α β : Type} {f : α → Option β} {l : List α} {a b : α}
    (hnodup : l.Nodup) (hab : [a, b].Sublist l)
    (hrivals : ∀ x ∈ l, ∀ y ∈ l, (f x).isSome → (f y).isSome →
      x = y ∨ (x = a ∧ y = b) ∨ (x = b ∧ y = a)) {v : β} :
    l.findSome? f = some v ↔ ∃ x ∈ l, f x = some v ∧ (x = b → f a = none) := by
  have hfirst : ∀ {v : β}, l.findSome? f = some v →
      ∃ x ∈ l, f x = some v ∧ (x = b → f a = none) := by
    intro v h
    obtain ⟨before, x, after, rfl, hx, hbefore⟩ := List.findSome?_eq_some_iff.1 h
    refine ⟨x, by simp, hx, ?_⟩
    rintro rfl
    -- The first candidate cannot stand behind the second one, which occurs only once.
    have hafter : x ∉ after :=
      (List.nodup_cons.1 (hnodup.sublist (List.sublist_append_right before _))).1
    obtain ⟨p, q, hpq, hp, hq⟩ := List.sublist_append_iff.1 hab
    cases p with
    | nil =>
      obtain rfl : [a, x] = q := hpq
      have hmem : x ∈ after := List.singleton_sublist.1 (hq.of_cons_cons)
      exact absurd hmem hafter
    | cons c p =>
      obtain rfl : a = c := by simpa using congrArg List.head? hpq
      exact hbefore a (hp.subset (by simp))
  constructor
  · exact hfirst
  · rintro ⟨x, hx, hv, hxb⟩
    cases hfound : l.findSome? f with
    | none => simp [List.findSome?_eq_none_iff.1 hfound x hx] at hv
    | some u =>
      obtain ⟨y, hy, hu, hyb⟩ := hfirst hfound
      rcases hrivals x hx y hy (by simp [hv]) (by simp [hu]) with rfl | ⟨rfl, rfl⟩ | ⟨rfl, rfl⟩
      · rw [← hu, hv]
      · simp [hyb rfl] at hv
      · simp [hxb rfl] at hu

/-- What one of the compiler's shapes sees is what its reader finds from the position on. -/
theorem sightAt_eq_some_iff {tag : Tag} :
    (ofReader tag (readerOf tag)).sightAt t lines i = some m ↔
      ∃ e, readerOf tag t (lines.drop i) = some e ∧
        ⟨tag, e.file, e.line?, e.message, i, i + e.length⟩ = m :=
  Option.map_eq_some_iff

/-- The shapes that the compiler prints take up the lines from the position on. -/
theorem span_of_sightAt (hs : s ∈ Catalog.builtinShapes) (h : s.sightAt t lines i = some m) :
    m.start = i ∧ i < m.stop ∧ m.stop ≤ lines.length := by
  obtain ⟨tag, rfl⟩ := mem_builtinShapes.1 hs
  obtain ⟨e, he, rfl⟩ := sightAt_eq_some_iff.1 h
  have hevident := evident_readerOf he
  have hpos := hevident.length_pos
  have hle := hevident.length_le
  rw [List.length_drop] at hle
  refine ⟨rfl, ?_, ?_⟩
  · dsimp only
    omega
  · dsimp only
    omega

/-- If two of the compiler's shapes see something at the same position, they are the same or the
two that stand under a banner. -/
theorem eq_or_rivals_of_sightAt (hs : s ∈ Catalog.builtinShapes) (hs' : s' ∈ Catalog.builtinShapes)
    (h : (s.sightAt t lines i).isSome) (h' : (s'.sightAt t lines i).isSome) :
    s = s' ∨ (s = compileErrorInline ∧ s' = compileErrorTraced) ∨
      (s = compileErrorTraced ∧ s' = compileErrorInline) := by
  obtain ⟨tag, rfl⟩ := mem_builtinShapes.1 hs
  obtain ⟨tag', rfl⟩ := mem_builtinShapes.1 hs'
  obtain ⟨m, hm⟩ := Option.isSome_iff_exists.1 h
  obtain ⟨m', hm'⟩ := Option.isSome_iff_exists.1 h'
  obtain ⟨e, he, -⟩ := sightAt_eq_some_iff.1 hm
  obtain ⟨e', he', -⟩ := sightAt_eq_some_iff.1 hm'
  cases hlines : lines.drop i with
  | nil =>
    have hle := (evident_readerOf he).length_le
    have hpos := (evident_readerOf he).length_pos
    rw [hlines, List.length_nil] at hle
    omega
  | cons line rest =>
    rw [hlines] at he he'
    rcases eq_or_under_banner (mem_tags_opening he) (mem_tags_opening he') with
      rfl | ⟨rfl, rfl⟩ | ⟨rfl, rfl⟩
    · exact Or.inl rfl
    · exact Or.inr (Or.inl ⟨rfl, rfl⟩)
    · exact Or.inr (Or.inr ⟨rfl, rfl⟩)

/-- The shape with a location on the error line is one of the compiler's. -/
theorem compileErrorInline_mem : compileErrorInline ∈ Catalog.builtinShapes := by
  simp [Catalog.builtinShapes]

/-- What a catalog of the compiler's shapes sees, in any order that looks for a location on the
error line before it looks for one in the trace. -/
theorem firstAt_eq_some_iff {shapes : List Shape} (hp : shapes.Perm Catalog.builtinShapes)
    (horder : [compileErrorInline, compileErrorTraced].Sublist shapes) :
    Catalog.firstAt ⟨shapes, t⟩ lines i = some m ↔
      ∃ s ∈ Catalog.builtinShapes, s.sightAt t lines i = some m ∧
        (s = compileErrorTraced → compileErrorInline.sightAt t lines i = none) := by
  have hbuiltin : Catalog.builtinShapes.Nodup := by
    have htags : (Catalog.builtinShapes.map (·.tag)).Nodup := by
      change Tag.all.Nodup
      decide
    exact htags.of_map
  have hfilter : ∀ s ∈ Catalog.builtinShapes,
      (s.sightAt t lines i).filter (fun m => m.start = i && i < m.stop) = s.sightAt t lines i := by
    intro s hs
    cases hm : s.sightAt t lines i with
    | none => rfl
    | some m =>
      have hspan := span_of_sightAt hs hm
      simp [hspan.1, hspan.2.1]
  rw [Catalog.firstAt, findSome?_eq_some_iff_of_rivals (hp.nodup_iff.2 hbuiltin) horder,
    hfilter _ compileErrorInline_mem]
  · constructor
    · rintro ⟨s, hs, hm⟩
      rw [hfilter s (hp.mem_iff.1 hs)] at hm
      exact ⟨s, hp.mem_iff.1 hs, hm⟩
    · rintro ⟨s, hs, hm⟩
      rw [← hfilter s hs] at hm
      exact ⟨s, hp.mem_iff.2 hs, hm⟩
  · intro x hx y hy
    have hx' := hp.mem_iff.1 hx
    have hy' := hp.mem_iff.1 hy
    rw [hfilter x hx', hfilter y hy']
    exact eq_or_rivals_of_sightAt hx' hy'

/-- The built-in order is one of these. -/
theorem builtin_firstAt_eq_some_iff :
    (Catalog.builtin t).firstAt lines i = some m ↔
      ∃ s ∈ Catalog.builtinShapes, s.sightAt t lines i = some m ∧
        (s = compileErrorTraced → compileErrorInline.sightAt t lines i = none) :=
  firstAt_eq_some_iff (.refl _)
    (List.sublist_append_left [compileErrorInline, compileErrorTraced] _)

/-- What any reader but the one of traces finds from a position on is what the catalog sees there.
-/
theorem builtin_firstAt_of_read {tag : Tag} {e : Evidence} (htag : tag ≠ .compileErrorTraced)
    (h : readerOf tag t (lines.drop i) = some e) :
    (Catalog.builtin t).firstAt lines i =
      some ⟨tag, e.file, e.line?, e.message, i, i + e.length⟩ := by
  refine builtin_firstAt_eq_some_iff.2 ⟨ofReader tag (readerOf tag), mem_builtinShapes.2 ⟨tag, rfl⟩,
    sightAt_eq_some_iff.2 ⟨e, h, rfl⟩, fun hs => ?_⟩
  exact absurd (congrArg Shape.tag hs) htag

/-- Where every shape sees the same up to a change of what is seen, so does the catalog. -/
theorem builtin_firstAt_eq_map {lines' : List Text} {i' : Nat} {g : Sighting → Sighting}
    (h : ∀ s ∈ Catalog.builtinShapes, s.sightAt t lines' i' = (s.sightAt t lines i).map g) :
    (Catalog.builtin t).firstAt lines' i' = ((Catalog.builtin t).firstAt lines i).map g := by
  ext m
  rw [builtin_firstAt_eq_some_iff, Option.map_eq_some_iff]
  constructor
  · rintro ⟨s, hs, hm, hfirst⟩
    rw [h s hs] at hm
    rw [h _ compileErrorInline_mem, Option.map_eq_none_iff] at hfirst
    obtain ⟨m', hm', hg⟩ := Option.map_eq_some_iff.1 hm
    exact ⟨m', builtin_firstAt_eq_some_iff.2 ⟨s, hs, hm', hfirst⟩, hg⟩
  · rintro ⟨m', hm', hg⟩
    obtain ⟨s, hs, hm', hfirst⟩ := builtin_firstAt_eq_some_iff.1 hm'
    refine ⟨s, hs, ?_, ?_⟩
    · rw [h s hs, hm', Option.map_some, hg]
    · rw [h _ compileErrorInline_mem, Option.map_eq_none_iff]
      exact hfirst

/-- A located error under a banner takes up two lines. -/
theorem stop_of_sightAt_inline (h : compileErrorInline.sightAt t lines i = some m) :
    m.stop - i = 2 := by
  obtain ⟨e, he, rfl⟩ := Option.map_eq_some_iff.1 h
  have hlength := length_of_readInline he
  dsimp only
  omega

/-- A traced error takes up the banner, the error line and a line of the trace at least. -/
theorem stop_of_sightAt_traced (h : compileErrorTraced.sightAt t lines i = some m) :
    3 ≤ m.stop - i := by
  obtain ⟨e, he, rfl⟩ := Option.map_eq_some_iff.1 h
  have hlength := le_length_of_readTraced he
  dsimp only
  omega

/-- At no position do two different shapes of the compiler see something, except for the two that
stand under a banner. Therefore every order of the shapes in which the one that reads a location on
the error line precedes the one that reads a trace sees the same at every position. -/
theorem rivals_only_under_banner (t : Trace.Classifier) :
    (∀ (lines : List Text) (i : Nat), ∀ s ∈ Catalog.builtinShapes, ∀ s' ∈ Catalog.builtinShapes,
      s ≠ s' → (s.sightAt t lines i).isSome → (s'.sightAt t lines i).isSome →
        (s = compileErrorInline ∧ s' = compileErrorTraced) ∨
          (s = compileErrorTraced ∧ s' = compileErrorInline)) ∧
    ∀ shapes : List Shape, shapes.Perm Catalog.builtinShapes →
      [compileErrorInline, compileErrorTraced].Sublist shapes →
        ∀ (lines : List Text) (i : Nat),
          Catalog.firstAt ⟨shapes, t⟩ lines i = (Catalog.builtin t).firstAt lines i := by
  constructor
  · intro lines i s hs s' hs' hne h h'
    rcases eq_or_rivals_of_sightAt hs hs' h h' with rfl | h
    · contradiction
    · exact h
  · intro shapes hp horder lines i
    ext m
    rw [firstAt_eq_some_iff hp horder, builtin_firstAt_eq_some_iff]

/-- A banner, an error line that repeats its file without a line, and a frame in the file. -/
def locatedAndTraced : List Text :=
  ["== Compilation error in file a.ex ==".toList, "** (E) a.ex: boom".toList,
    "    a.ex:1: f".toList]

/-- Both shapes under a banner see something there, and moving the four others before them changes
nothing. -/
theorem rivals_of_locatedAndTraced :
    (compileErrorInline.sightAt {} locatedAndTraced 0).isSome ∧
    (compileErrorTraced.sightAt {} locatedAndTraced 0).isSome ∧
    Catalog.firstAt ⟨[compileErrorBare, warningInline, warningBlock, compileErrorBlock,
        compileErrorInline, compileErrorTraced], {}⟩ locatedAndTraced 0 =
      (Catalog.builtin {}).firstAt locatedAndTraced 0 := by
  refine ⟨by decide +kernel, by decide +kernel, ?_⟩
  have hp : ([compileErrorBare, warningInline, warningBlock, compileErrorBlock] ++
      [compileErrorInline, compileErrorTraced]).Perm Catalog.builtinShapes :=
    List.perm_append_comm
  exact (rivals_only_under_banner {}).2 _ hp (List.sublist_append_right _ _) locatedAndTraced 0

/-- Lines before the position shift what a shape of the compiler sees, and do nothing else. -/
theorem sightAt_append_left (hs : s ∈ Catalog.builtinShapes) (before : List Text) :
    s.sightAt t (before ++ lines) (before.length + i) =
      (s.sightAt t lines i).map (Sighting.shift before.length) := by
  obtain ⟨tag, rfl⟩ := mem_builtinShapes.1 hs
  ext m
  rw [sightAt_eq_some_iff, List.drop_length_add_append, Option.map_eq_some_iff]
  constructor
  · rintro ⟨e, he, rfl⟩
    exact ⟨_, sightAt_eq_some_iff.2 ⟨e, he, rfl⟩, by simp [Sighting.shift, Nat.add_assoc]⟩
  · rintro ⟨m', hm', rfl⟩
    obtain ⟨e, he, rfl⟩ := sightAt_eq_some_iff.1 hm'
    exact ⟨e, he, by simp [Sighting.shift, Nat.add_assoc]⟩

/-- Lines before the position shift what the compiler's shapes see, and do nothing else. -/
theorem builtin_firstAt_append_left (before : List Text) :
    (Catalog.builtin t).firstAt (before ++ lines) (before.length + i) =
      ((Catalog.builtin t).firstAt lines i).map (Sighting.shift before.length) :=
  builtin_firstAt_eq_map fun _ hs => sightAt_append_left hs before

/-- What the compiler's shapes see takes up lines from the position on. -/
theorem span_of_builtin_firstAt (h : (Catalog.builtin t).firstAt lines i = some m) :
    m.start = i ∧ i < m.stop ∧ m.stop ≤ lines.length := by
  obtain ⟨s, hs, hm, -⟩ := builtin_firstAt_eq_some_iff.1 h
  exact span_of_sightAt hs hm

/-- A shape of the compiler sees the same wherever the lines that it takes up stand. -/
theorem sightAt_of_window {lines' : List Text} {i' : Nat} (hs : s ∈ Catalog.builtinShapes)
    (h : s.sightAt t lines i = some m)
    (hw : (lines'.drop i').take (m.stop - i) = (lines.drop i).take (m.stop - i)) :
    s.sightAt t lines' i' = some { m with start := i', stop := i' + (m.stop - i) } := by
  obtain ⟨tag, rfl⟩ := mem_builtinShapes.1 hs
  obtain ⟨e, he, rfl⟩ := sightAt_eq_some_iff.1 h
  have hlength : i + e.length - i = e.length := by omega
  dsimp only at hw ⊢
  rw [hlength] at hw ⊢
  refine sightAt_eq_some_iff.2 ⟨e, ?_, rfl⟩
  have hread := (evident_readerOf he).read_take ((lines'.drop i').drop e.length)
  rwa [← hw, List.take_append_drop] at hread

/-- What a sighting tells of its lines is all in them: lines before them shift it, and wherever the
same lines stand, the same is seen, whatever stands around them. -/
theorem firstAt_window (t : Trace.Classifier) (lines : List Text) (i : Nat) :
    (∀ before : List Text,
      (Catalog.builtin t).firstAt (before ++ lines) (before.length + i) =
        ((Catalog.builtin t).firstAt lines i).map (Sighting.shift before.length)) ∧
    ∀ m, (Catalog.builtin t).firstAt lines i = some m →
      m.start = i ∧ i < m.stop ∧ m.stop ≤ lines.length ∧
      ∀ (lines' : List Text) (i' : Nat),
        (lines'.drop i').take (m.stop - i) = (lines.drop i).take (m.stop - i) →
          (Catalog.builtin t).firstAt lines' i' =
            some { m with start := i', stop := i' + (m.stop - i) } := by
  constructor
  · intro before
    exact builtin_firstAt_append_left before
  · intro m h
    obtain ⟨s, hs, hm, hfirst⟩ := builtin_firstAt_eq_some_iff.1 h
    obtain ⟨hstart, hlt, hle⟩ := span_of_sightAt hs hm
    refine ⟨hstart, hlt, hle, ?_⟩
    intro lines' i' hw
    refine builtin_firstAt_eq_some_iff.2 ⟨s, hs, sightAt_of_window hs hm hw, ?_⟩
    rintro rfl
    cases hother : compileErrorInline.sightAt t lines' i' with
    | none => rfl
    | some m' =>
      -- The shape that goes first reads two lines, which are among those that the trace takes up.
      have hstop' : m'.stop - i' = 2 := stop_of_sightAt_inline hother
      have hstop : 3 ≤ m.stop - i := stop_of_sightAt_traced hm
      have hw' : (lines.drop i).take (m'.stop - i') = (lines'.drop i').take (m'.stop - i') := by
        have htake := congrArg (List.take 2) hw
        rw [List.take_take, List.take_take, Nat.min_eq_left (by omega)] at htake
        rw [hstop', htake]
      have hboth := sightAt_of_window compileErrorInline_mem hother hw'
      rw [hfirst rfl] at hboth
      contradiction

/-- A traced error with a dumped argument between blank lines. -/
def tracedWithDump : List Text :=
  ["== Compilation error in file a.ex ==".toList, "** (E) boom".toList, [], "    # 1".toList, [],
    "    a.ex:7: f".toList]

/-- The error is seen with all its six lines, and it is seen again where they stand between others,
although an indented line follows them there. -/
theorem firstAt_tracedWithDump :
    (Catalog.builtin {}).firstAt tracedWithDump 0 =
      some ⟨.compileErrorTraced, "a.ex".toList, some 7, "boom".toList, 0, 6⟩ ∧
    (Catalog.builtin {}).firstAt
        ("Compiling".toList :: tracedWithDump ++ ["    a.ex:8: g".toList]) 1 =
      some ⟨.compileErrorTraced, "a.ex".toList, some 7, "boom".toList, 1, 7⟩ := by
  have h : (Catalog.builtin {}).firstAt tracedWithDump 0 =
      some ⟨.compileErrorTraced, "a.ex".toList, some 7, "boom".toList, 0, 6⟩ := by decide +kernel
  refine ⟨h, ?_⟩
  exact ((firstAt_window {} tracedWithDump 0).2 _ h).2.2.2 _ 1 rfl

end Shape

end ElixirDiagnostics
