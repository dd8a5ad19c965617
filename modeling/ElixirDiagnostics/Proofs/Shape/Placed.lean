import ElixirDiagnostics.Proofs.Shape.Block
import ElixirDiagnostics.Proofs.Shape.WrittenBlock

/-!
# Blocks by their first location

A block is where its first location is: below a head, the first line that is written as a location,
if all lines between are visible and stand behind a margin or belong to a source snippet. The reader
of blocks says no more than this, and what it tells of a block is the message of the head and the
location that it reads from that line.
-/

namespace ElixirDiagnostics

namespace Shape

open Text Location

variable {severity : Severity} {t : Trace.Classifier} {lines : List Text} {i : Nat} {m : Sighting}
  {l file digits : Text}

/-- The shape of blocks of the given severity. -/
def blockOf : Severity → Shape
  | .warning => warningBlock
  | .error => compileErrorBlock

/-- A block whose head is the line with number `i`, and what is to be seen of it: the location that
is read from the first location line below, and all lines down to it. -/
inductive BlockAt (severity : Severity) (lines : List Text) (i : Nat) : Sighting → Prop where
  /-- The lines between are visible, no location lines, and indented or lines of a snippet. -/
  | mk {head message l file digits : Text} {k : Nat} (hhead : lines[i]? = some head)
      (hmessage : IsHeadLine severity message head) (hlt : i < k) (hline : lines[k]? = some l)
      (hplace : blockLocation? l = some (file, digits))
      (hfirst : ∀ j l, i < j → j < k → lines[j]? = some l →
        ¬∃ file digits, IsLocationLine file digits l)
      (hbody : ∀ j l, i < j → j < k → lines[j]? = some l →
        isBlank l = false ∧ (isIndented l = true ∨ IsSnippetLine l)) :
      BlockAt severity lines i ⟨(blockOf severity).tag, file, number? digits, message, i, k + 1⟩

/-- A block is passed down to its location over the lines of its body that are no location lines. -/
theorem continues_iff :
    Continues l ↔ (¬∃ file digits, IsLocationLine file digits l) ∧
      isBlank l = false ∧ (isIndented l = true ∨ IsSnippetLine l) := by
  rw [Continues, isBlockBody_iff, ← Option.not_isSome_iff_eq_none, isSome_blockLocation?_iff,
    and_comm]

/-- It ends at the first location. -/
theorem locates_iff : Locates file digits l ↔ blockLocation? l = some (file, digits) :=
  and_iff_right_of_imp fun h => isBlockBody_of_isLocationLine (isLocationLine_of_blockLocation? h)

/-- What the shape of blocks sees is what the reader of blocks finds from the position on. -/
theorem sightAt_blockOf_eq_some_iff :
    (blockOf severity).sightAt t lines i = some m ↔
      ∃ e, readBlock severity (lines.drop i) = some e ∧
        ⟨(blockOf severity).tag, e.file, e.line?, e.message, i, i + e.length⟩ = m := by
  cases severity with
  | warning => exact Option.map_eq_some_iff
  | error => exact Option.map_eq_some_iff

/-- The shape of blocks sees exactly the blocks. -/
theorem sightAt_blockOf_iff :
    (blockOf severity).sightAt t lines i = some m ↔ BlockAt severity lines i m := by
  rw [sightAt_blockOf_eq_some_iff]
  constructor
  · rintro ⟨e, he, rfl⟩
    generalize hdrop : lines.drop i = below at he
    cases readBlock_eq_some_iff.1 he with
    | @mk _ _ _ _ _ n hhead hbody =>
      obtain ⟨hline, rfl⟩ := drop_eq_cons_iff.1 hdrop
      obtain ⟨⟨l, hl, hlocates⟩, hbetween⟩ := Descent.drop_iff_getElem?.1 hbody
      have hlt : i < i + 1 + n := by omega
      have hstop : i + (n + 2) = i + 1 + n + 1 := by omega
      dsimp only
      rw [hstop]
      refine .mk hline (blockHead?_eq_some_iff.1 hhead) hlt hl (locates_iff.1 hlocates) ?_ ?_
      · exact fun j l hle hlt hl => (continues_iff.1 (hbetween j l hle hlt hl)).1
      · exact fun j l hle hlt hl => (continues_iff.1 (hbetween j l hle hlt hl)).2
  · intro h
    cases h with
    | @mk head message l file digits k hhead hmessage hlt hline hplace hfirst hbody =>
      obtain ⟨n, rfl⟩ := Nat.exists_eq_add_of_le hlt
      have hdescent : Descent Continues (Locates file digits) (lines.drop (i + 1)) n :=
        Descent.drop_iff_getElem?.2 ⟨⟨l, hline, locates_iff.2 hplace⟩, fun j l hle hlt hl =>
          continues_iff.2 ⟨hfirst j l hle hlt hl, hbody j l hle hlt hl⟩⟩
      have hblock := Block.mk (blockHead?_eq_some_iff.2 hmessage) hdescent
      have hstop : i + (n + 2) = i + 1 + n + 1 := by omega
      rw [drop_eq_cons_iff.2 ⟨hhead, rfl⟩]
      refine ⟨_, readBlock_eq_some_iff.2 hblock, ?_⟩
      dsimp only
      rw [hstop]

/-- Blocks are seen exactly where a head stands and the first location line below it is reached over
visible lines that are indented or belong to a snippet. A location is read from the lines that are
written as one and from no others, and it is one of those that can be found in the writing. With a
plain name there is no choice: in either layout, with a column or without, the location is this name
with the number behind it. A line of a snippet is never a location line. -/
theorem block_seen_iff_firstLocation :
    (∀ severity t lines i m,
      (blockOf severity).sightAt t lines i = some m ↔ BlockAt severity lines i m) ∧
    (∀ l, ((blockLocation? l).isSome ↔ ∃ file digits, IsLocationLine file digits l) ∧
      ∀ file digits, blockLocation? l = some (file, digits) → IsLocationLine file digits l) ∧
    (∀ margin file digits column tail n, IsMargin margin → IsPlainBlockFile file →
      Writes digits n → n < UInt64.size → (∀ c ∈ column, IsNumeral c) → EndsPlace tail →
        IsLocationLine file digits (plainLocation margin file digits column tail) ∧
        blockLocation? (plainLocation margin file digits column tail) = some (file, digits) ∧
        number? digits = some n) ∧
    ∀ l, IsSnippetLine l → ¬∃ file digits, IsLocationLine file digits l := by
  refine ⟨fun _ _ _ _ _ => sightAt_blockOf_iff, fun l => ⟨isSome_blockLocation?_iff, ?_⟩, ?_, ?_⟩
  · intro file digits hplace
    exact isLocationLine_of_blockLocation? hplace
  · intro margin file digits column tail n hmargin hfile hdigits hlt hcolumn htail
    have hnumeral : IsNumeral digits := isNumeral_of_writes hdigits
    have hend := htail.columnText_append hcolumn
    have hname : IsFile isBlockFileChar file := .name hfile.ne_nil hfile.chars
    refine ⟨.mk hmargin hname hnumeral hend, ?_, number?_eq_some_iff.2 ⟨hdigits, hlt⟩⟩
    exact blockLocation?_of_plain hmargin hfile hnumeral hend
  · exact fun l hsnippet => not_isLocationLine_of_isSnippetLine hsnippet

/-- A block whose wide line number leaves no indentation for the snippet. -/
def wideBlock : List Text :=
  ["warning: unused alias Foo".toList, "     │".toList, "1204 │   alias a.ex:5".toList,
    "     │         ~".toList, "     └─ lib/big.ex:1204:9: Foo".toList]

/-- It is seen down to the line below the snippet, which is no location line itself. -/
theorem block_seen_wideBlock :
    (¬∃ file digits, IsLocationLine file digits "1204 │   alias a.ex:5".toList) ∧
    blockLocation? "     └─ lib/big.ex:1204:9: Foo".toList =
      some ("lib/big.ex".toList, "1204".toList) ∧
    BlockAt .warning wideBlock 0
      ⟨.warningBlock, "lib/big.ex".toList, some 1204, "unused alias Foo".toList, 0, 5⟩ := by
  obtain ⟨hseen, -, hplain, hsnippet⟩ := block_seen_iff_firstLocation
  have hmargin : IsMargin ("     ".toList ++ ("└─".toList ++ " ".toList)) :=
    .corner (by decide) (by decide) (by decide)
  have hfile : IsPlainBlockFile "lib/big.ex".toList :=
    ⟨by decide, List.all_eq_true.1 (by decide), by simp, by decide⟩
  have hdigits : Writes "1204".toList 1204 :=
    ⟨by decide, List.all_eq_true.1 (by decide), by decide⟩
  have hcolumn : ∀ c ∈ some "9".toList, IsNumeral c := by
    intro c hc
    obtain rfl : "9".toList = c := by simpa using hc
    exact ⟨by decide, List.all_eq_true.1 (by decide)⟩
  have hend : EndsPlace ": Foo".toList := .colon (by decide)
  have hlocation := hplain _ _ _ _ _ _ hmargin hfile hdigits (by decide) hcolumn hend
  have hblock : warningBlock.sightAt {} wideBlock 0 =
      some ⟨.warningBlock, "lib/big.ex".toList, some 1204, "unused alias Foo".toList, 0, 5⟩ := by
    decide +kernel
  refine ⟨hsnippet _ (isSnippet_iff.1 (by decide)), hlocation.2.1, ?_⟩
  exact (hseen .warning {} wideBlock 0 _).1 hblock

end Shape

end ElixirDiagnostics
