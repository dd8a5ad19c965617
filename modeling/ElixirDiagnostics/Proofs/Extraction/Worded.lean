import ElixirDiagnostics.Proofs.Extraction.Recognised
import ElixirDiagnostics.Proofs.Shape.Written
import ElixirDiagnostics.Proofs.Text.Trim
import Mathlib.Data.List.Infix

/-!
# Records that say something

Every shape but the traced error asks for a message that begins with a visible character. A traced
error takes for its message whatever its error line says after the kind, and that can be blank space
alone, of which trimming leaves nothing. So all records of an output say something, unless there is
a traced error in it whose error line says nothing visible.
-/

namespace ElixirDiagnostics

namespace Text

variable {s : Text}

/-- A text that begins with a visible character is not blank. -/
theorem isBlank_eq_false_of_visible (hne : s ≠ []) (h : isIndented s = false) :
    isBlank s = false := by
  obtain ⟨c, s, rfl⟩ := List.exists_cons_of_ne_nil hne
  have hc : isSpace c = false := by simpa [isIndented] using h
  simp [isBlank, hc]

end Text

namespace Shape

open Text Location

variable {t : Trace.Classifier} {tag : Tag} {lines : List Text} {e : Evidence}

/-- The message of anything but a traced error begins with a visible character. -/
theorem message?_of_readerOf (htag : tag ≠ .compileErrorTraced)
    (h : readerOf tag t lines = some e) : message? e.message = some e.message := by
  have hblock : ∀ severity, readBlock severity lines = some e →
      message? e.message = some e.message := by
    intro severity h
    cases readBlock_eq_some_iff.1 h with
    | mk hhead =>
      obtain ⟨r, -, hm⟩ := Option.bind_eq_some_iff.1 hhead
      exact message?_of_message? hm
  cases tag with
  | compileErrorInline =>
    cases readInline_eq_some_iff.1 h with
    | mk _ _ htail =>
      obtain ⟨rest, -, -, -, hm⟩ := behind_of_inlineTail? htail
      exact hm
  | compileErrorTraced => contradiction
  | compileErrorBare =>
    cases readBare_eq_some_iff.1 h with
    | mk hparts =>
      obtain ⟨r, -, -, -, hm⟩ := behind_of_bareParts? hparts
      exact hm
  | warningInline =>
    cases readWarning_eq_some_iff.1 h with
    | mk hparts =>
      obtain ⟨r, -, -, -, hm⟩ := behind_of_warningParts? hparts
      exact hm
  | warningBlock => exact hblock .warning h
  | compileErrorBlock => exact hblock .error h

/-- The lines begin with a traced error that says nothing: a banner, an error line with nothing but
blank space behind the kind, and a trace down to its anchor. -/
inductive SaysNothing (t : Trace.Classifier) : List Text → Prop where
  /-- The error line stands between the banner and the trace. -/
  | mk {announced banner kind said file : Text} {trace : List Text} {line n : Nat}
      (hbanner : IsBanner announced banner) (hkind : IsKind kind) (hne : said ≠ [])
      (hblank : isBlank said = true)
      (htrace : Descent (Passes t announced) (Anchors t announced file line) trace n) :
      SaysNothing t (banner :: errorLine kind said :: trace)

/-- A traced error with a blank message says nothing. -/
theorem saysNothing_of_readTraced (h : readTraced t lines = some e)
    (hblank : isBlank e.message = true) : SaysNothing t lines := by
  cases readTraced_eq_some_iff.1 h with
  | mk hannounced hmessage _ htrace =>
    obtain ⟨kind, hkind, rfl, hne, -⟩ := errorRest?_eq_some_iff.1 hmessage
    exact .mk (bannerFile?_eq_some_iff.1 hannounced) hkind hne hblank htrace

/-- So a reader whose message leaves nothing when it is trimmed has read such an error. -/
theorem saysNothing_of_trim_eq_nil (h : readerOf tag t lines = some e)
    (htrim : trim e.message = []) : SaysNothing t lines := by
  have hblank := trim_eq_nil_iff.1 htrim
  by_cases htag : tag = .compileErrorTraced
  · subst htag
    exact saysNothing_of_readTraced h hblank
  · obtain ⟨-, hne, hvisible, -⟩ := message?_eq_some_iff.1 (message?_of_readerOf htag h)
    rw [isBlank_eq_false_of_visible hne hvisible] at hblank
    contradiction

end Shape

namespace Extraction

open Text Shape

/-- Every record of a report says something, of the inspected file and of other files, if there is
no traced error in the output that has nothing but blank space to say. -/
theorem message_ne_nil_of_said (t : Trace.Classifier) (i : Inspection) (output : Text)
    (hsaid : ∀ ls, ls <:+ Text.lines (stripColour output) → ¬SaysNothing t ls) :
    ∀ d ∈ (report (Catalog.builtin t) i output).diagnostics ++
      (report (Catalog.builtin t) i output).foreign, d.message ≠ [] := by
  intro d hd htrim
  obtain ⟨s, hs, m, hm, rfl⟩ := exists_shape_of_mem_recognised (mem_recognised_of_mem_report hd)
  obtain ⟨tag, rfl⟩ := mem_builtinShapes.1 hs
  obtain ⟨e, he, hseen⟩ := sightAt_eq_some_iff.1 hm
  have hmessage : e.message = m.message := congrArg Sighting.message hseen
  refine hsaid _ (List.drop_suffix m.start _) (saysNothing_of_trim_eq_nil he ?_)
  rw [hmessage]
  exact htrim

/-- A traced error that says something behind two blanks, and an error line with nothing to say that
no banner stands above. -/
def saidAndUnsaid : Text :=
  "== Compilation error in file a.ex ==\n** (E)   boom \n    a.ex:7: f\n** (E)  \n".toList

/-- The traced error is reported with what it says. -/
theorem message_ne_nil_saidAndUnsaid :
    (∀ ls, ls <:+ Text.lines (stripColour saidAndUnsaid) → ¬SaysNothing {} ls) ∧
    ∀ d ∈ (report (Catalog.builtin {}) (.ofFile "/p".toList "a.ex".toList)
        saidAndUnsaid).diagnostics ++
      (report (Catalog.builtin {}) (.ofFile "/p".toList "a.ex".toList) saidAndUnsaid).foreign,
      d.message ≠ [] := by
  have hlines : Text.lines (stripColour saidAndUnsaid) =
      ["== Compilation error in file a.ex ==".toList, "** (E)   boom ".toList,
        "    a.ex:7: f".toList, "** (E)  ".toList] := by
    rw [stripColour_of_not_mem (by decide)]
    decide
  have hcheck : ∀ ls ∈ (Text.lines (stripColour saidAndUnsaid)).tails, ∀ banner ∈ ls.head?,
      ∀ line ∈ ls.tail.head?, (bannerFile? banner).isSome →
        (errorKind? line).all fun kindAndSaid => !isBlank kindAndSaid.2 := by
    rw [hlines]
    decide
  have hsaid : ∀ ls, ls <:+ Text.lines (stripColour saidAndUnsaid) → ¬SaysNothing {} ls := by
    intro ls hls hnothing
    cases hnothing with
    | @mk _ banner kind said _ _ _ _ hbanner hkind _ hblank =>
      have hfile := bannerFile?_eq_some_iff.2 hbanner
      have herror : errorKind? (errorLine kind said) = some (kind, said) :=
        errorKind?_eq_some_iff.2 ⟨hkind, rfl⟩
      have hvisible := hcheck _ ((List.mem_tails _ _).2 hls) banner rfl _ rfl (by simp [hfile])
      simp [herror, hblank] at hvisible
  exact ⟨hsaid, message_ne_nil_of_said {} _ saidAndUnsaid hsaid⟩

/-- A traced error whose error line has a blank to say and nothing else. -/
def unsaidError : Text :=
  "== Compilation error in file lib/foo.ex ==\n** (RuntimeError)  \n    lib/foo.ex:5: f\n".toList

/-- It is reported without a message. -/
theorem report_unsaidError :
    (report (Catalog.builtin {}) (.ofFile "/proj".toList "lib/foo.ex".toList)
      unsaidError).diagnostics = [⟨"lib/foo.ex".toList, 5, .error, []⟩] := by
  have hlines : Text.lines (stripColour unsaidError) =
      ["== Compilation error in file lib/foo.ex ==".toList, "** (RuntimeError)  ".toList,
        "    lib/foo.ex:5: f".toList] := by
    rw [stripColour_of_not_mem (by decide)]
    decide
  rw [report_eq_sorted_recognised, hlines]
  rw [recognised_of_some
    (m := ⟨.compileErrorTraced, "lib/foo.ex".toList, some 5, [' '], 0, 3⟩) (by decide +kernel)]
  decide +kernel

end Extraction

end ElixirDiagnostics
