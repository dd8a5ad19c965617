import ElixirDiagnostics.Proofs.Shape.Priority
import ElixirDiagnostics.Proofs.Shape.Written

/-!
# Error lines that repeat the announced file

A banner announces a file, and an error line below it that says this file again is read with it,
whatever the file is called. The name may hold blank space, colons, parentheses and even the two
equality signs that end a banner: the reader of banners takes the longest name there is, and the
error line is compared with all of it.
-/

namespace ElixirDiagnostics

namespace Shape

open Text Location

variable {t : Trace.Classifier} {file kind banner m d : Text} {column digits? : Option Text}
  {lines : List Text} {i : Nat} {e : Evidence}

/-- An error line that repeats a file, with its kind before it and a message behind it. -/
def repeatedLine (kind file m : Text) : Text := errorLine kind (file ++ (": ".toList ++ m))

/-- An error line that repeats a file and tells a line number, and maybe a column, before the
message. -/
def repeatedPlaceLine (kind file d : Text) (column : Option Text) (m : Text) : Text :=
  errorLine kind (file ++ (':' :: d ++ columnText column ++ ": ".toList ++ m))

/-- What an error line says is read as what follows the announced file, if this file begins it. -/
theorem readInline_of_repeated {r : Text} (hbanner : IsBanner file banner) (hkind : IsKind kind)
    (hnewline : '\n' ∉ r) (htail : inlineTail? r = some (digits?, m)) (rest : List Text) :
    readInline (banner :: errorLine kind (file ++ r) :: rest) =
      some ⟨file, digits?.bind number?, m, 2⟩ := by
  have hsays : '\n' ∉ file ++ r := by
    intro hmem
    rcases List.mem_append.1 hmem with hmem | hmem
    · exact hbanner.one_line hmem
    · exact hnewline hmem
  have hne : file ++ r ≠ [] := List.append_ne_nil_of_left_ne_nil hbanner.ne_nil r
  have herror := errorRest?_errorLine hkind hne hsays
  exact readInline_eq_some_iff.2 (.mk (bannerFile?_eq_some_iff.2 hbanner) herror htail)

/-- A line number, a column and a message of one line stand on one line. -/
theorem newline_not_mem_place (hline : IsNumeral d) (hcolumn : ∀ c ∈ column, IsNumeral c)
    (hm : '\n' ∉ m) : '\n' ∉ ':' :: d ++ columnText column ++ ": ".toList ++ m := by
  have hline' : IsSolid (':' :: d) := .cons (by decide) (isSolid_of_decimal hline.digits)
  have hplace : '\n' ∉ ':' :: d ++ columnText column :=
    (hline'.append (isSolid_columnText hcolumn)).newline_not_mem
  have hseparator : '\n' ∉ ": ".toList := by decide
  simp only [List.mem_append, not_or] at hplace ⊢
  exact ⟨⟨hplace, hseparator⟩, hm⟩

/-- What is read from a banner and the line below it is seen at the banner. -/
theorem firstAt_of_readInline {error : Text} (hline : lines[i]? = some banner)
    (hbelow : lines[i + 1]? = some error)
    (hread : ∀ rest, readInline (banner :: error :: rest) = some e) :
    (Catalog.builtin t).firstAt lines i =
      some ⟨.compileErrorInline, e.file, e.line?, e.message, i, i + e.length⟩ := by
  have hdrop : lines.drop i = banner :: error :: lines.drop (i + 2) :=
    drop_eq_cons_iff.2 ⟨hline, drop_eq_cons_iff.2 ⟨hbelow, rfl⟩⟩
  have htag : Tag.compileErrorInline ≠ .compileErrorTraced := nofun
  refine builtin_firstAt_of_read htag ?_
  rw [hdrop]
  exact hread (lines.drop (i + 2))

/-- Below a banner that names a file, in either wording and maybe with blank space behind it, an
error line that repeats the file is seen together with the banner, whatever the file is called and
whatever lines stand around them. It is located in this file at its line number, which fits into 64
bits; a column does not count. If it tells no line number, the file alone is known. -/
theorem firstAt_of_repeated (t : Trace.Classifier) (hbanner : IsBanner file banner)
    (hkind : IsKind kind) (hne : m ≠ []) (hvisible : isIndented m = false) (hnewline : '\n' ∉ m)
    (hline : lines[i]? = some banner) :
    (∀ d n column, Writes d n → n < UInt64.size → (∀ c ∈ column, IsNumeral c) →
      lines[i + 1]? = some (repeatedPlaceLine kind file d column m) →
        (Catalog.builtin t).firstAt lines i =
          some ⟨.compileErrorInline, file, some n, m, i, i + 2⟩) ∧
    (lines[i + 1]? = some (repeatedLine kind file m) →
      (Catalog.builtin t).firstAt lines i =
        some ⟨.compileErrorInline, file, none, m, i, i + 2⟩) := by
  have hm : message? m = some m := message?_of_visible hne hvisible hnewline
  constructor
  · intro d n column hdigits hlt hcolumn hbelow
    have hnumber : number? d = some n := number?_eq_some_iff.2 ⟨hdigits, hlt⟩
    have hnumeral : IsNumeral d := isNumeral_of_writes hdigits
    have hread : ∀ rest, readInline (banner :: repeatedPlaceLine kind file d column m :: rest) =
        some ⟨file, number? d, m, 2⟩ := fun rest =>
      readInline_of_repeated hbanner hkind (newline_not_mem_place hnumeral hcolumn hnewline)
        (inlineTail?_numbered hnumeral hcolumn hm) rest
    rw [← hnumber]
    exact firstAt_of_readInline hline hbelow hread
  · intro hbelow
    have hread : ∀ rest, readInline (banner :: repeatedLine kind file m :: rest) =
        some ⟨file, none, m, 2⟩ := fun rest =>
      readInline_of_repeated hbanner hkind (by simp [hnewline]) (inlineTail?_plain hm) rest
    exact firstAt_of_readInline hline hbelow hread

/-- A name that holds parentheses, a colon before a number, and what ends a banner, with blank space
behind it. -/
def awkwardName : Text := "a (b):1 ==: ==  ".toList

/-- Below a banner with a tabulator behind it this name is found again, with the last number of 64
bits and a column behind it, and with the message alone. -/
theorem firstAt_repeatedAwkwardName :
    IsBanner awkwardName "== Compilation error on file a (b):1 ==: ==   ==\t".toList ∧
    (Catalog.builtin {}).firstAt
      ["== Compilation error on file a (b):1 ==: ==   ==\t".toList,
        "** (E) a (b):1 ==: ==  :18446744073709551615:2: 3: boom".toList, "    f".toList] 0 =
      some ⟨.compileErrorInline, awkwardName, some 18446744073709551615, "3: boom".toList, 0, 2⟩ ∧
    (Catalog.builtin {}).firstAt
      [[], "== Compilation error on file a (b):1 ==: ==   ==\t".toList,
        "** (E) a (b):1 ==: ==  : 3: boom".toList] 1 =
      some ⟨.compileErrorInline, awkwardName, none, "3: boom".toList, 1, 3⟩ := by
  have hbanner : IsBanner awkwardName "== Compilation error on file a (b):1 ==: ==   ==\t".toList :=
    bannerFile?_eq_some_iff.1 (by decide)
  have hkind : IsKind ['E'] := ⟨by decide, List.all_eq_true.1 (by decide)⟩
  have hdigits : Writes "18446744073709551615".toList 18446744073709551615 :=
    ⟨by decide, List.all_eq_true.1 (by decide), by decide⟩
  have hcolumn : ∀ c ∈ some "2".toList, IsNumeral c := by
    intro c hc
    obtain rfl : "2".toList = c := by simpa using hc
    exact ⟨by decide, List.all_eq_true.1 (by decide)⟩
  refine ⟨hbanner, ?_, ?_⟩
  · exact (firstAt_of_repeated {} hbanner hkind (m := "3: boom".toList) (by decide) (by decide)
      (by decide) rfl).1 _ _ (some "2".toList) hdigits (by decide) hcolumn rfl
  · exact (firstAt_of_repeated {} hbanner hkind (m := "3: boom".toList) (i := 1) (by decide)
      (by decide) (by decide) rfl).2 rfl

end Shape

end ElixirDiagnostics
