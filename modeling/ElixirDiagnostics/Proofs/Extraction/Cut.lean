import ElixirDiagnostics.Proofs.Extraction.Scan
import ElixirDiagnostics.Proofs.Shape.Priority
import ElixirDiagnostics.Proofs.Text.Cut

/-!
# Cutting compiler output

Compiler output can be cut before a line that neither is blank nor can continue a trace or a block,
and before blank lines above such a line, unless a banner stands right before the cut. No shape
reads over such a cut: a trace and a block end there just as they end with the output, and a blank
line before the cut ends a trace since nothing visible follows that is indented. So the leftmost
scan of the whole is that of the first part, followed by that of the second one further down, and
the reports add up.
-/

namespace ElixirDiagnostics

namespace Shape

/-- The lines begin with one that is visible and continues neither a trace nor a block, if there
are any. -/
def Resets (lines : List Text) : Prop :=
  ∀ l ∈ lines.head?, Text.isBlank l = false ∧ Text.isIndented l = false ∧ isSnippet l = false

/-- The lines do not end with a banner. -/
def EndsUnannounced (lines : List Text) : Prop :=
  ∀ l ∈ lines.getLast?, bannerFile? l = none

instance (lines : List Text) : Decidable (Resets lines) :=
  inferInstanceAs (Decidable (∀ l ∈ lines.head?, _))

instance (lines : List Text) : Decidable (EndsUnannounced lines) :=
  inferInstanceAs (Decidable (∀ l ∈ lines.getLast?, _))

variable {t : Trace.Classifier} {banner : Text} {before after : List Text}

/-- No trace and no block that began above goes on in the lines. -/
structure Interrupts (lines : List Text) : Prop where
  /-- The first visible line, if there is one, is not indented. -/
  not_resumes : resumesIndented lines = false
  /-- The first line cannot stand inside a block. -/
  not_body : ∀ l ∈ lines.head?, isBlockBody l = false

/-- A visible line that continues neither interrupts both. -/
theorem Resets.interrupts (h : Resets after) : Interrupts after := by
  cases after with
  | nil => exact ⟨rfl, nofun⟩
  | cons l after =>
    obtain ⟨hblank, hindented, hsnippet⟩ := h l rfl
    refine ⟨by rw [resumesIndented_of_visible hblank, hindented], fun k hk => ?_⟩
    obtain rfl := Option.some.inj hk
    simp [isBlockBody, hindented, hsnippet]

/-- So does a blank line before it. -/
theorem Interrupts.cons_of_isBlank {l : Text} (h : Interrupts after)
    (hblank : Text.isBlank l = true) : Interrupts (l :: after) where
  not_resumes := by rw [resumesIndented_of_isBlank hblank, h.not_resumes]
  not_body := by
    intro k hk
    obtain rfl := Option.some.inj hk
    simp [isBlockBody, hblank]

/-- A trace does not resume behind the cut. -/
theorem resumesIndented_append (h : Interrupts after) (before : List Text) :
    resumesIndented (before ++ after) = resumesIndented before := by
  induction before with
  | nil => exact h.not_resumes
  | cons l before ih =>
    cases hblank : Text.isBlank l with
    | true =>
      rw [List.cons_append, resumesIndented_of_isBlank hblank, resumesIndented_of_isBlank hblank,
        ih]
    | false =>
      rw [List.cons_append, resumesIndented_of_visible hblank, resumesIndented_of_visible hblank]

/-- A trace ends at the cut as it ends with the output. -/
theorem anchorFrame?_append (h : Interrupts after) (before : List Text) :
    anchorFrame? t banner (before ++ after) = anchorFrame? t banner before := by
  induction before with
  | nil => exact anchorFrame?_eq_none_of_not_resumes h.not_resumes
  | cons l before ih =>
    rw [List.cons_append, anchorFrame?, anchorFrame?, resumesIndented_append h, ih]

/-- A block ends at the cut as it ends with the output. -/
theorem blockEnd?_append (h : Interrupts after) (before : List Text) :
    blockEnd? (before ++ after) = blockEnd? before := by
  induction before with
  | nil =>
    cases after with
    | nil => rfl
    | cons l after => simp [blockEnd?, h.not_body l rfl]
  | cons l before ih => rw [List.cons_append, blockEnd?, blockEnd?, ih]

/-- Two lines that are there are all that is read of a located error under a banner. -/
theorem readInline_append (hne : before ≠ []) (hlast : EndsUnannounced before)
    (after : List Text) : readInline (before ++ after) = readInline before := by
  match before with
  | [] => contradiction
  | [l] =>
    have hl : bannerFile? l = none := hlast l rfl
    cases after with
    | nil => rfl
    | cons error after => simp [readInline, hl]
  | _ :: _ :: _ => rfl

/-- A traced error is read before the cut or not at all. -/
theorem readTraced_append (hne : before ≠ []) (hlast : EndsUnannounced before)
    (h : Interrupts after) : readTraced t (before ++ after) = readTraced t before := by
  match before with
  | [] => contradiction
  | [l] =>
    have hl : bannerFile? l = none := hlast l rfl
    cases after with
    | nil => rfl
    | cons error after => simp [readTraced, hl]
  | _ :: _ :: trace =>
    rw [List.cons_append, List.cons_append, readTraced, readTraced]
    simp only [anchorFrame?_append h]

/-- A block is read before the cut or not at all. -/
theorem readBlock_append {severity : Severity} (hne : before ≠ []) (h : Interrupts after) :
    readBlock severity (before ++ after) = readBlock severity before := by
  obtain ⟨head, body, rfl⟩ := List.exists_cons_of_ne_nil hne
  rw [List.cons_append, readBlock, readBlock, blockEnd?_append h]

/-- No reader reads over the cut. -/
theorem readerOf_append {tag : Tag} (hne : before ≠ []) (hlast : EndsUnannounced before)
    (h : Interrupts after) : readerOf tag t (before ++ after) = readerOf tag t before := by
  have hline : ∃ line rest, before = line :: rest := List.exists_cons_of_ne_nil hne
  cases tag with
  | compileErrorInline => exact readInline_append hne hlast after
  | compileErrorTraced => exact readTraced_append hne hlast h
  | compileErrorBare =>
    obtain ⟨line, rest, rfl⟩ := hline
    rfl
  | warningInline =>
    obtain ⟨line, rest, rfl⟩ := hline
    rfl
  | warningBlock => exact readBlock_append hne h
  | compileErrorBlock => exact readBlock_append hne h

/-- At a line before the cut the compiler's shapes see what they see without the lines behind it. -/
theorem firstAt_append_left {i : Nat} (hi : i < before.length) (hlast : EndsUnannounced before)
    (h : Interrupts after) :
    (Catalog.builtin t).firstAt (before ++ after) i = (Catalog.builtin t).firstAt before i := by
  have hdrop : (before ++ after).drop i = before.drop i ++ after :=
    List.drop_append_of_le_length hi.le
  have hne : before.drop i ≠ [] := by simpa [List.drop_eq_nil_iff] using hi
  have hlast' : EndsUnannounced (before.drop i) := by
    intro l hl
    rw [List.getLast?_drop, if_neg (by omega)] at hl
    exact hlast l hl
  have hsight : ∀ s ∈ Catalog.builtinShapes,
      s.sightAt t (before ++ after) i = (s.sightAt t before i).map id := by
    intro s hs
    obtain ⟨tag, rfl⟩ := mem_builtinShapes.1 hs
    simp only [ofReader, Option.map_id_fun, id_eq]
    rw [hdrop, readerOf_append hne hlast' h]
  rw [builtin_firstAt_eq_map hsight, Option.map_id_fun, id_eq]

end Shape

namespace Extraction

variable {t : Trace.Classifier} {before after : List Text} {ms ns : List Sighting}

/-- Lines above shift a leftmost scan, and do nothing else. -/
theorem LeftmostScan.shift (h : LeftmostScan (Catalog.builtin t) after 0 ns)
    (before : List Text) :
    LeftmostScan (Catalog.builtin t) (before ++ after) before.length
      (ns.map (Sighting.shift before.length)) where
  seen := by
    rw [List.forall_mem_map]
    intro n hn
    rw [Sighting.shift, Shape.builtin_firstAt_append_left, h.seen n hn]
    rfl
  nonempty := by
    rw [List.forall_mem_map]
    intro n hn
    exact Nat.add_lt_add_left (h.nonempty n hn) _
  inside := by
    rw [List.forall_mem_map]
    intro n hn
    rw [List.length_append]
    exact ⟨Nat.le_add_right _ _, Nat.add_lt_add_left (h.inside n hn).2 _⟩
  ordered := by
    rw [List.isChain_map]
    exact h.ordered.imp fun _ _ hmn => Nat.add_le_add_left hmn _
  complete := by
    intro j hj hlt hout
    rw [List.length_append] at hlt
    obtain ⟨k, rfl⟩ := Nat.exists_eq_add_of_le hj
    rw [Shape.builtin_firstAt_append_left, Option.map_eq_none_iff]
    refine h.complete k (Nat.zero_le k) (by omega) ?_
    intro n hn hk
    have hshift := hout _ (List.mem_map_of_mem hn)
    simp only [Sighting.shift] at hshift
    omega

/-- Over a cut the leftmost scan is that of the lines before it, followed by that of the lines
behind it, further down by the number of lines before it. -/
theorem LeftmostScan.append (h : LeftmostScan (Catalog.builtin t) before 0 ms)
    (h' : LeftmostScan (Catalog.builtin t) after 0 ns) (hlast : Shape.EndsUnannounced before)
    (hreset : Shape.Interrupts after) :
    LeftmostScan (Catalog.builtin t) (before ++ after) 0
      (ms ++ ns.map (Sighting.shift before.length)) := by
  have hbehind := h'.shift before
  have hleft : ∀ j, j < before.length →
      (Catalog.builtin t).firstAt (before ++ after) j = (Catalog.builtin t).firstAt before j :=
    fun j hj => Shape.firstAt_append_left hj hlast hreset
  have hstop : ∀ m ∈ ms, m.stop ≤ before.length := fun m hm =>
    (Shape.span_of_builtin_firstAt (h.seen m hm)).2.2
  refine ⟨List.forall_mem_append.2 ⟨?_, hbehind.seen⟩,
    List.forall_mem_append.2 ⟨h.nonempty, hbehind.nonempty⟩,
    List.forall_mem_append.2 ⟨?_, ?_⟩, ?_, ?_⟩
  · intro m hm
    rw [hleft _ (h.inside m hm).2]
    exact h.seen m hm
  · intro m hm
    have hin := h.inside m hm
    rw [List.length_append]
    omega
  · intro n hn
    exact ⟨Nat.zero_le _, (hbehind.inside n hn).2⟩
  · refine List.isChain_append.2 ⟨h.ordered, hbehind.ordered, ?_⟩
    intro m hm n hn
    have hle := hstop m (List.mem_of_getLast? hm)
    have hin := hbehind.inside n (List.mem_of_mem_head? hn)
    omega
  · intro j hj hlt hout
    rw [List.forall_mem_append] at hout
    by_cases hcut : j < before.length
    · rw [hleft j hcut]
      exact h.complete j hj hcut hout.1
    · exact hbehind.complete j (Nat.le_of_not_lt hcut) hlt hout.2

/-- What a report tells of two lists of diagnostics is what it tells of each. -/
theorem Report.sorted_append (i : Inspection) (ds ds' : List Diagnostic) :
    Report.sorted i (ds ++ ds') =
      { diagnostics := (Report.sorted i ds).diagnostics ++ (Report.sorted i ds').diagnostics
        foreign := (Report.sorted i ds).foreign ++ (Report.sorted i ds').foreign } := by
  simp [Report.sorted, Inspection.keep]

/-- A sighting further down stands for the same diagnostic. -/
theorem diagnostic_shift (n : Nat) : Sighting.diagnostic ∘ Sighting.shift n = Sighting.diagnostic :=
  rfl

/-- Reports add up over a cut of the output at a line end, if no banner stands right before it and
the line behind it is visible and continues neither a trace nor a block. Nothing that begins before
the cut changes what is reported behind it, and the other way round. -/
theorem report_append (t : Trace.Classifier) (i : Inspection) (a b : Text) (ha : Text.EndsLine a)
    (hlast : Shape.EndsUnannounced (Text.lines (Text.stripColour a)))
    (hfirst : Shape.Resets (Text.lines (Text.stripColour b))) :
    (report (Catalog.builtin t) i (a ++ b)).diagnostics =
      (report (Catalog.builtin t) i a).diagnostics ++
        (report (Catalog.builtin t) i b).diagnostics ∧
    (report (Catalog.builtin t) i (a ++ b)).foreign =
      (report (Catalog.builtin t) i a).foreign ++ (report (Catalog.builtin t) i b).foreign := by
  have hscan := leftmostScan_sightings (Catalog.builtin t) (Text.lines (Text.stripColour a)) 0
  have hscan' := leftmostScan_sightings (Catalog.builtin t) (Text.lines (Text.stripColour b)) 0
  have hboth := hscan.append hscan' hlast hfirst.interrupts
  rw [← Text.lines_stripColour_append ha] at hboth
  rw [report_of_leftmostScan i hscan, report_of_leftmostScan i hscan',
    report_of_leftmostScan i hboth, List.map_append, List.map_map, diagnostic_shift,
    Report.sorted_append]
  exact ⟨rfl, rfl⟩

/-- An error under a banner whose trace has no frame in the banner's file, and a blank line. -/
def unfinishedTrace : Text :=
  "== Compilation error in file a.ex ==\n** (E) boom\n    b.ex:1: g\n\n".toList

/-- A warning in a block, located in the file of that banner. -/
def locatedWarning : Text := "warning: x\n    a.ex:1: f\n".toList

/-- The location of the warning does not end the trace above it. -/
theorem report_unfinishedTrace_append :
    (Text.EndsLine unfinishedTrace ∧
      Shape.EndsUnannounced (Text.lines (Text.stripColour unfinishedTrace)) ∧
      Shape.Resets (Text.lines (Text.stripColour locatedWarning))) ∧
    (report (Catalog.builtin {}) (.ofFile "/p".toList "a.ex".toList)
        (unfinishedTrace ++ locatedWarning)).diagnostics =
      (report (Catalog.builtin {}) (.ofFile "/p".toList "a.ex".toList)
          unfinishedTrace).diagnostics ++
        (report (Catalog.builtin {}) (.ofFile "/p".toList "a.ex".toList)
          locatedWarning).diagnostics ∧
    (report (Catalog.builtin {}) (.ofFile "/p".toList "a.ex".toList)
        (unfinishedTrace ++ locatedWarning)).foreign =
      (report (Catalog.builtin {}) (.ofFile "/p".toList "a.ex".toList)
          unfinishedTrace).foreign ++
        (report (Catalog.builtin {}) (.ofFile "/p".toList "a.ex".toList)
          locatedWarning).foreign := by
  have ha : Text.stripColour unfinishedTrace = unfinishedTrace :=
    Text.stripColour_of_not_mem (by decide)
  have hb : Text.stripColour locatedWarning = locatedWarning :=
    Text.stripColour_of_not_mem (by decide)
  have hlines : Text.lines unfinishedTrace =
      ["== Compilation error in file a.ex ==".toList, "** (E) boom".toList,
        "    b.ex:1: g".toList, []] := by decide
  have hlines' : Text.lines locatedWarning = ["warning: x".toList, "    a.ex:1: f".toList] := by
    decide
  have hends : Text.EndsLine unfinishedTrace := .inr (by decide)
  have hlast : Shape.EndsUnannounced (Text.lines (Text.stripColour unfinishedTrace)) := by
    rw [ha, hlines]
    intro l hl
    obtain rfl : [] = l := by simpa using hl
    decide
  have hfirst : Shape.Resets (Text.lines (Text.stripColour locatedWarning)) := by
    rw [hb, hlines']
    intro l hl
    obtain rfl : "warning: x".toList = l := by simpa using hl
    decide
  exact ⟨⟨hends, hlast, hfirst⟩, report_append {} _ _ _ hends hlast hfirst⟩

end Extraction

end ElixirDiagnostics
