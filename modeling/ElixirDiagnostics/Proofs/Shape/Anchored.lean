import ElixirDiagnostics.Proofs.Shape.Priority
import ElixirDiagnostics.Proofs.Shape.Written

/-!
# Traced errors by their first anchor

A traced error is where its first anchor is: below a banner and an error line without a location of
its own, the first line that is an anchor frame, if all lines down to it are blank or indented. The
reader says no more than this. It gives up at a blank line when no indented line comes after the
blank ones, and where it does so there is no anchor to be found.
-/

namespace ElixirDiagnostics

namespace Shape

open Text Location

variable {t : Trace.Classifier} {lines rest trace passed : List Text} {banner file l : Text}
  {i n start line : Nat} {m : Sighting}

/-- The first anchor of a trace: the lines of the trace begin at `start`, and the one at `k` is a
frame that is the anchor, located in a file at a line. -/
structure IsFirstAnchor (t : Trace.Classifier) (banner : Text) (lines : List Text) (start k : Nat)
    (file : Text) (line : Nat) : Prop where
  /-- It stands in the trace. -/
  start_le : start ≤ k
  /-- It is a frame that is an anchor and has this location. -/
  anchors : ∃ l, lines[k]? = some l ∧ Anchors t banner file line l
  /-- No line of the trace above it is a frame that is an anchor. -/
  first : ∀ j l, start ≤ j → j < k → lines[j]? = some l →
    ∀ frame, t.classify l = some frame → t.isAnchor frame banner = false
  /-- Every line of the trace down to it is blank or indented. -/
  indented : ∀ j l, start ≤ j → j ≤ k → lines[j]? = some l →
    isBlank l = true ∨ isIndented l = true

/-- A traced error whose banner is the line with number `i`, and what is to be seen of it: the
location of its first anchor, what the error line says after the kind, and all lines down to the
anchor. -/
inductive TracedAt (t : Trace.Classifier) (lines : List Text) (i : Nat) : Sighting → Prop where
  /-- The error line says something that does not begin with a location. Like every line of an output
  it holds no newline. -/
  | mk {announced banner kind message file : Text} {k line : Nat}
      (hbanner : lines[i]? = some banner) (hannounced : IsBanner announced banner)
      (herror : lines[i + 1]? = some (errorLine kind message)) (hkind : IsKind kind)
      (hne : message ≠ []) (hnewline : '\n' ∉ message) (hlocation : ¬BeginsWithLocation message)
      (hanchor : IsFirstAnchor t announced lines (i + 2) k file line) :
      TracedAt t lines i ⟨.compileErrorTraced, file, some line, message, i, k + 1⟩

/-- The lines that a trace passes are the blank and indented ones that are no anchors. -/
theorem passes_iff_indented :
    Passes t banner l ↔ (isBlank l = true ∨ isIndented l = true) ∧
      ∀ frame, t.classify l = some frame → t.isAnchor frame banner = false := by
  constructor
  · rintro (hblank | ⟨frame, hframe, hanchor⟩)
    · refine ⟨Or.inl hblank, fun frame hframe => ?_⟩
      rw [(visible_of_classify hframe).1] at hblank
      contradiction
    · refine ⟨Or.inr (visible_of_classify hframe).2, fun frame' hframe' => ?_⟩
      obtain rfl := Option.some.inj (hframe.symm.trans hframe')
      exact hanchor
  · rintro ⟨hline, hfirst⟩
    cases hblank : isBlank l with
    | true => exact Or.inl hblank
    | false =>
      have hindented : isIndented l = true := hline.resolve_left (by simp [hblank])
      obtain ⟨frame, hframe⟩ := exists_frame_of_visible t hblank hindented
      exact Or.inr ⟨frame, hframe, hfirst frame hframe⟩

/-- The first anchor is where the descent of the trace ends. -/
theorem isFirstAnchor_iff_descent :
    IsFirstAnchor t banner lines start (start + n) file line ↔
      Descent (Passes t banner) (Anchors t banner file line) (lines.drop start) n := by
  rw [Descent.drop_iff_getElem?]
  constructor
  · intro h
    refine ⟨h.anchors, fun j l hle hlt hl => passes_iff_indented.2 ⟨?_, ?_⟩⟩
    · exact h.indented j l hle (Nat.le_of_lt hlt) hl
    · exact h.first j l hle hlt hl
  · rintro ⟨hanchors, hbefore⟩
    refine ⟨Nat.le_add_right start n, hanchors, fun j l hle hlt hl => ?_, fun j l hle hlt hl => ?_⟩
    · exact (passes_iff_indented.1 (hbefore j l hle hlt hl)).2
    · rcases Nat.lt_or_eq_of_le hlt with hlt | rfl
      · exact (passes_iff_indented.1 (hbefore j l hle hlt hl)).1
      · obtain ⟨l', hl', frame, hframe, -⟩ := hanchors
        obtain rfl := Option.some.inj (hl.symm.trans hl')
        exact Or.inr (visible_of_classify hframe).2

/-- The shape of traced errors sees exactly the errors with a first anchor. -/
theorem sightAt_compileErrorTraced_iff :
    compileErrorTraced.sightAt t lines i = some m ↔ TracedAt t lines i m := by
  have hsight : compileErrorTraced.sightAt t lines i = some m ↔
      ∃ e, readTraced t (lines.drop i) = some e ∧
        ⟨.compileErrorTraced, e.file, e.line?, e.message, i, i + e.length⟩ = m :=
    Option.map_eq_some_iff
  rw [hsight]
  constructor
  · rintro ⟨e, he, rfl⟩
    generalize hdrop : lines.drop i = below at he
    cases readTraced_eq_some_iff.1 he with
    | @mk _ _ _ _ _ _ _ n hannounced hmessage hlocation htrace =>
      obtain ⟨hbanner, hbelow⟩ := drop_eq_cons_iff.1 hdrop
      obtain ⟨herror, rfl⟩ := drop_eq_cons_iff.1 hbelow
      obtain ⟨kind, hkind, rfl, hne, hnewline⟩ := errorRest?_eq_some_iff.1 hmessage
      have hnone : ¬BeginsWithLocation _ := fun h =>
        Bool.false_ne_true (hlocation.symm.trans (hasLocation_iff.2 h))
      have hstop : i + (n + 3) = i + 2 + n + 1 := by omega
      dsimp only
      rw [hstop]
      exact .mk hbanner (bannerFile?_eq_some_iff.1 hannounced) herror hkind hne hnewline hnone
        (isFirstAnchor_iff_descent.2 htrace)
  · intro h
    cases h with
    | mk hbanner hannounced herror hkind hne hnewline hlocation hanchor =>
      obtain ⟨n, rfl⟩ := Nat.exists_eq_add_of_le hanchor.start_le
      have hdrop := drop_eq_cons_iff.2 ⟨hbanner, drop_eq_cons_iff.2 ⟨herror, rfl⟩⟩
      have hread := TracedError.mk (bannerFile?_eq_some_iff.2 hannounced)
        (errorRest?_errorLine hkind hne hnewline)
        (Bool.eq_false_iff.2 fun h => hlocation (hasLocation_iff.1 h))
        (isFirstAnchor_iff_descent.1 hanchor)
      have hstop : i + (n + 3) = i + 2 + n + 1 := by omega
      rw [hdrop]
      refine ⟨_, readTraced_eq_some_iff.2 hread, ?_⟩
      dsimp only
      rw [hstop]

/-- The search for the first anchor that passes every blank line, whatever comes after it. -/
def firstAnchor? (t : Trace.Classifier) (banner : Text) : List Text → Option (Nat × Text × Nat)
  | [] => none
  | l :: rest =>
    let further := (firstAnchor? t banner rest).map (Prod.map (· + 1) id)
    if isBlank l then further
    else match t.classify l with
      | none => none
      | some frame => if t.isAnchor frame banner then frame.location.map (0, ·) else further

/-- The look ahead at blank lines changes nothing: where no indented line comes after them there is
no anchor. -/
theorem anchorFrame?_eq_firstAnchor? (t : Trace.Classifier) (banner : Text) (trace : List Text) :
    anchorFrame? t banner trace = firstAnchor? t banner trace := by
  induction trace with
  | nil => rfl
  | cons l rest ih =>
    rw [anchorFrame?, firstAnchor?, ← ih]
    cases hresumes : resumesIndented rest with
    | true => rfl
    | false =>
      rw [anchorFrame?_eq_none_of_not_resumes hresumes]
      rfl

/-- A line that the trace passes is skipped. -/
theorem firstAnchor?_of_passes (h : Passes t banner l) (rest : List Text) :
    firstAnchor? t banner (l :: rest) = (firstAnchor? t banner rest).map (Prod.map (· + 1) id) := by
  rw [firstAnchor?]
  rcases h with hblank | ⟨frame, hframe, hanchor⟩
  · simp only [hblank, if_true]
  · simp [(visible_of_classify hframe).1, hframe, hanchor]

/-- And so is any number of such lines. -/
theorem anchorFrame?_of_passed (hpassed : ∀ l ∈ passed, Passes t banner l) (rest : List Text) :
    anchorFrame? t banner (passed ++ rest) =
      (anchorFrame? t banner rest).map (Prod.map (passed.length + ·) id) := by
  simp only [anchorFrame?_eq_firstAnchor?]
  induction passed with
  | nil => cases hrest : firstAnchor? t banner rest <;> simp [hrest, Prod.map]
  | cons l passed ih =>
    have hrest : ∀ l ∈ passed, Passes t banner l := fun l hl =>
      hpassed l (List.mem_cons_of_mem _ hl)
    rw [List.cons_append, firstAnchor?_of_passes (hpassed l (by simp)), ih hrest]
    cases firstAnchor? t banner rest <;> simp [Prod.map, Nat.add_right_comm]

/-- A visible line that is not indented ends the trace. -/
theorem anchorFrame?_of_unindented (hblank : isBlank l = false) (hindented : isIndented l = false)
    (rest : List Text) : anchorFrame? t banner (l :: rest) = none := by
  simp [anchorFrame?, hblank, Trace.Classifier.classify, hindented]

/-- Below a banner and an error line the lines that the trace passes only make the error longer. -/
theorem readTraced_of_passed {error : Text} (hbanner : IsBanner file banner)
    (hpassed : ∀ l ∈ passed, Passes t file l) (rest : List Text) :
    readTraced t (banner :: error :: (passed ++ rest)) =
      (readTraced t (banner :: error :: rest)).map fun e =>
        { e with length := e.length + passed.length } := by
  simp only [readTraced, bannerFile?_eq_some_iff.2 hbanner, Option.bind_eq_bind, Option.bind_some]
  cases errorRest? error with
  | none => rfl
  | some message =>
    rw [Option.bind_some, Option.bind_some, anchorFrame?_of_passed hpassed]
    cases hasLocation message with
    | true => rfl
    | false =>
      cases anchorFrame? t file rest with
      | none => rfl
      | some found => simp [Prod.map, Nat.add_comm, Nat.add_left_comm, Nat.add_assoc]

/-- A visible line that is not indented ends them. -/
theorem readTraced_of_unindented {error : Text} (hbanner : IsBanner file banner)
    (hpassed : ∀ l ∈ passed, Passes t file l) (hblank : isBlank l = false)
    (hindented : isIndented l = false) (rest : List Text) :
    readTraced t (banner :: error :: (passed ++ l :: rest)) = none := by
  rw [readTraced_of_passed hbanner hpassed]
  simp only [readTraced, bannerFile?_eq_some_iff.2 hbanner, Option.bind_eq_bind, Option.bind_some,
    anchorFrame?_of_unindented hblank hindented]
  cases errorRest? error with
  | none => rfl
  | some message =>
    rw [Option.bind_some]
    cases hasLocation message <;> rfl

/-- The shape of traced errors sees exactly the errors with a first anchor, and looking ahead at
blank lines changes nothing. In particular blank lines, frames that are no anchor and dumped
arguments before the anchor are skipped, however many there are, and a line that is neither blank
nor indented ends the attempt. -/
theorem traced_seen_iff_firstAnchor (t : Trace.Classifier) :
    (∀ lines i m, compileErrorTraced.sightAt t lines i = some m ↔ TracedAt t lines i m) ∧
    (∀ announced trace, anchorFrame? t announced trace = firstAnchor? t announced trace) ∧
    ∀ announced banner error before passed, IsBanner announced banner →
      (∀ l ∈ passed, Passes t announced l) →
        (∀ rest, compileErrorTraced.sightAt t (before ++ banner :: error :: (passed ++ rest))
          before.length =
            (compileErrorTraced.sightAt t (before ++ banner :: error :: rest) before.length).map
              fun m => { m with stop := m.stop + passed.length }) ∧
        ∀ l rest, isBlank l = false → isIndented l = false →
          compileErrorTraced.sightAt t (before ++ banner :: error :: (passed ++ l :: rest))
            before.length = none := by
  refine ⟨fun _ _ _ => sightAt_compileErrorTraced_iff, anchorFrame?_eq_firstAnchor? t, ?_⟩
  intro announced banner error before passed hbanner hpassed
  refine ⟨fun rest => ?_, fun l rest hblank hindented => ?_⟩
  · simp only [compileErrorTraced, ofReader, List.drop_left]
    rw [readTraced_of_passed hbanner hpassed, Option.map_map, Option.map_map]
    simp [Function.comp_def, Nat.add_assoc]
  · simp only [compileErrorTraced, ofReader, List.drop_left]
    rw [readTraced_of_unindented hbanner hpassed hblank hindented]
    rfl

/-- A trace before its anchor: a frame of a dependency, and dumped arguments between blank lines. -/
def dumpBeforeAnchor : List Text :=
  ["    (x 1.0) lib/x.ex:3: f".toList, [], "    %\x7bb: 1\x7d".toList, "  ".toList]

/-- The anchor below it is found, and not when another line stands in between. -/
theorem traced_seen_dumpBeforeAnchor :
    (∀ l ∈ dumpBeforeAnchor, Passes {} "a.ex".toList l) ∧
    compileErrorTraced.sightAt {} ([] ++ "== Compilation error in file a.ex ==".toList ::
      "** (E) boom".toList :: (dumpBeforeAnchor ++ ["    a.ex:7: g".toList])) 0 =
        some ⟨.compileErrorTraced, "a.ex".toList, some 7, "boom".toList, 0, 7⟩ ∧
    compileErrorTraced.sightAt {} ([] ++ "== Compilation error in file a.ex ==".toList ::
      "** (E) boom".toList :: (dumpBeforeAnchor ++ "done".toList :: ["    a.ex:7: g".toList])) 0 =
        none := by
  have hbanner : IsBanner "a.ex".toList "== Compilation error in file a.ex ==".toList :=
    bannerFile?_eq_some_iff.1 (by decide)
  have hpassed : ∀ l ∈ dumpBeforeAnchor, Passes {} "a.ex".toList l := by
    simp only [dumpBeforeAnchor, List.forall_mem_cons, passes_iff_indented]
    decide
  obtain ⟨hskip, hend⟩ := (traced_seen_iff_firstAnchor {}).2.2 _ _ "** (E) boom".toList []
    dumpBeforeAnchor hbanner hpassed
  refine ⟨hpassed, (hskip _).trans ?_, hend _ _ (by decide) (by decide)⟩
  decide +kernel

end Shape

end ElixirDiagnostics
