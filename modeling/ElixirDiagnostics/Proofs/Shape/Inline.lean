import ElixirDiagnostics.Proofs.Location
import ElixirDiagnostics.Shape.SingleLine

/-!
# Diagnostics with their place before the message

An error line under a banner, an error on a line of its own and a warning on a line of its own tell
their place before their message. What stands behind the file is the same in all three: a line
number, maybe a column, and a known piece before the message, or this piece alone. Each reader finds
exactly the lines that a judgment describes in these terms.
-/

namespace ElixirDiagnostics

namespace Shape

open Text Location

variable {lines : List Text} {s r f m p : Text} {d : Option Text} {digits : Text} {e : Evidence}

/-- What stands behind a file, with a known piece before the message. -/
inductive Behind (p : Text) : Text → Option Text → Text → Prop where
  /-- The piece stands behind a line number, and behind a column if there is one. -/
  | numbered {r r' digits m : Text} (hdigits : lineDigits? r = some (digits, r'))
      (hm : skipColumn r' = p ++ m) : Behind p r (some digits) m
  /-- The piece stands there alone. -/
  | plain (m : Text) : Behind p (p ++ m) none m

/-- The message behind a file ends the text. -/
theorem Behind.suffix (h : Behind p r d m) : m <:+ r := by
  cases h with
  | @numbered r r' digits m hdigits hm =>
    obtain ⟨rfl, -, -⟩ := lineDigits?_eq_some hdigits
    obtain ⟨w, hw, -⟩ := skipColumn_suffix r'
    have hmessage : m <:+ p ++ m := List.suffix_append p m
    rw [← hm] at hmessage
    exact (hmessage.trans ⟨w, hw.symm⟩).trans (List.suffix_append _ _)
  | plain => exact List.suffix_append p m

/-- A file, a line number and maybe a column are one solid piece of text. -/
theorem Behind.solid (h : Behind p r d m) (hfile : IsSolid f) :
    ∃ w, f ++ r = w ++ (p ++ m) ∧ IsSolid w ∧ (d.isSome → ':' ∈ w) := by
  cases h with
  | @numbered r r' digits m hdigits hm =>
    obtain ⟨rfl, -, hd⟩ := lineDigits?_eq_some hdigits
    obtain ⟨column, hcolumn, hsolid⟩ := skipColumn_suffix r'
    rw [hm] at hcolumn
    refine ⟨f ++ (':' :: digits ++ column), ?_, ?_, by simp⟩
    · rw [hcolumn]
      simp
    · exact hfile.append ((IsSolid.cons (by decide) (isSolid_of_decimal hd)).append hsolid)
  | plain => exact ⟨f, rfl, hfile, nofun⟩

/-- A message is read back from itself. -/
theorem message?_of_message? (h : message? r = some m) : message? m = some m := by
  obtain ⟨rfl, -⟩ := message?_eq_some_iff.1 h
  exact h

/-- A known piece and a message behind it make up the text. -/
theorem eq_append_of_message? (hr : after? p s = some r) (hm : message? r = some m) :
    s = p ++ m := by
  rw [after?_eq_some_iff.1 hr, (message?_eq_some_iff.1 hm).1]

/-- The parts of a bare error are a file and what stands behind it. -/
theorem behind_of_bareParts? (h : bareParts? s = some (f, d, m)) :
    ∃ r, s = f ++ r ∧ IsSolid f ∧ Behind ": ".toList r d m ∧ message? m = some m := by
  obtain ⟨⟨file, r⟩, hmem, hr⟩ := List.exists_of_findSome?_eq_some h
  obtain ⟨rfl, -, hfile⟩ := mem_fileReadings (fun c => isSpace_eq_false_of_isFileChar) hmem
  dsimp only at hr
  split at hr
  · next digits r' hdigits =>
    obtain ⟨s', hs', hr⟩ := Option.bind_eq_some_iff.1 hr
    obtain ⟨m', hm', hr⟩ := Option.bind_eq_some_iff.1 hr
    cases hr
    exact ⟨r, rfl, hfile, .numbered hdigits (eq_append_of_message? hs' hm'),
      message?_of_message? hm'⟩
  · obtain ⟨s', hs', hr⟩ := Option.bind_eq_some_iff.1 hr
    obtain ⟨m', hm', hr⟩ := Option.bind_eq_some_iff.1 hr
    cases hr
    obtain rfl := eq_append_of_message? hs' hm'
    exact ⟨_, rfl, hfile, .plain m, message?_of_message? hm'⟩

/-- So are the parts of a warning on a line of its own, which has a line number. -/
theorem behind_of_warningParts? (h : warningParts? s = some (f, digits, m)) :
    ∃ r, s = f ++ r ∧ IsSolid f ∧ Behind ": warning: ".toList r (some digits) m ∧
      message? m = some m := by
  obtain ⟨⟨file, r⟩, hmem, hr⟩ := List.exists_of_findSome?_eq_some h
  obtain ⟨rfl, -, hfile⟩ := mem_fileReadings (fun c => isSpace_eq_false_of_isFileChar) hmem
  obtain ⟨⟨digits, r'⟩, hdigits, hr⟩ := Option.bind_eq_some_iff.1 hr
  obtain ⟨s', hs', hr⟩ := Option.bind_eq_some_iff.1 hr
  obtain ⟨m', hm', hr⟩ := Option.bind_eq_some_iff.1 hr
  cases hr
  exact ⟨r, rfl, hfile, .numbered hdigits (eq_append_of_message? hs' hm'),
    message?_of_message? hm'⟩

/-- What follows the banner's file on an error line is such a text, with blank space before the
message. -/
theorem behind_of_inlineTail? (h : inlineTail? r = some (d, m)) :
    ∃ rest, Behind [':'] r d rest ∧ isIndented rest = true ∧ m = trimStart rest ∧
      message? m = some m := by
  have hindented : ∀ {d' : Option Text} {rest : Text},
      (if isIndented rest then (message? (trimStart rest)).map (d', ·) else none) = some (d, m) →
        d' = d ∧ isIndented rest = true ∧ m = trimStart rest ∧ message? m = some m := by
    intro d' rest h
    split at h
    · next hblank =>
      obtain ⟨m', hm, h⟩ := Option.map_eq_some_iff.1 h
      cases h
      exact ⟨rfl, hblank, (message?_eq_some_iff.1 hm).1.symm, message?_of_message? hm⟩
    · contradiction
  unfold inlineTail? at h
  split at h
  · next digits r' hdigits =>
    obtain ⟨⟨d', rest⟩, hrest, h⟩ := Option.bind_eq_some_iff.1 h
    obtain ⟨rest', hrest, hd⟩ := Option.map_eq_some_iff.1 hrest
    cases hd
    obtain ⟨rfl, hm⟩ := hindented h
    exact ⟨_, .numbered hdigits (after?_eq_some_iff.1 hrest), hm⟩
  · obtain ⟨⟨d', rest⟩, hrest, h⟩ := Option.bind_eq_some_iff.1 h
    obtain ⟨rest', hrest, hd⟩ := Option.map_eq_some_iff.1 hrest
    cases hd
    obtain ⟨rfl, hm⟩ := hindented h
    obtain rfl := after?_eq_some_iff.1 hrest
    exact ⟨_, .plain _, hm⟩

/-- And every such text is read so: no line number begins with the blank space behind the colon. -/
theorem inlineTail?_of_behind {rest : Text} (h : Behind [':'] r d rest)
    (hindented : isIndented rest = true) (hm : message? (trimStart rest) = some m) :
    inlineTail? r = some (d, m) := by
  cases h with
  | @numbered r r' digits rest hdigits hrest =>
    have hafter : after? [':'] (skipColumn r') = some rest := after?_eq_some_iff.2 hrest
    simp [inlineTail?, hdigits, hafter, hindented, hm]
  | plain rest =>
    obtain ⟨c, rest, rfl⟩ : ∃ c rest', rest = c :: rest' :=
      List.exists_cons_of_ne_nil fun hnil => by simp [hnil, isIndented] at hindented
    have hblank : isSpace c = true := by simpa [isIndented] using hindented
    have hdigit : ¬isDecimal c = true := fun hc =>
      Bool.false_ne_true ((isSpace_eq_false_of_isDecimal hc).symm.trans hblank)
    have hdigits : lineDigits? ([':'] ++ c :: rest) = none := by
      simp [lineDigits?, run?, hdigit]
    have hafter : after? [':'] ([':'] ++ c :: rest) = some (c :: rest) := after?_eq_some_iff.2 rfl
    rw [inlineTail?, hdigits]
    dsimp only
    rw [hafter]
    simp [hindented, hm]

/-- A banner and an error line that repeats the banner's file. -/
inductive InlineError : List Text → Evidence → Prop where
  /-- The error is located on its line, in the banner's file. -/
  | mk {banner error file r message : Text} {digits : Option Text} {rest : List Text}
      (hbanner : bannerFile? banner = some file) (herror : errorRest? error = some (file ++ r))
      (htail : inlineTail? r = some (digits, message)) :
      InlineError (banner :: error :: rest) ⟨file, digits.bind number?, message, 2⟩

/-- The reader of located errors finds exactly these. -/
theorem readInline_eq_some_iff : readInline lines = some e ↔ InlineError lines e := by
  constructor
  · intro h
    match lines with
    | [] => contradiction
    | [_] => contradiction
    | banner :: error :: rest =>
      obtain ⟨file, hfile, h⟩ := Option.bind_eq_some_iff.1 h
      obtain ⟨s, hs, h⟩ := Option.bind_eq_some_iff.1 h
      obtain ⟨r, hr, h⟩ := Option.bind_eq_some_iff.1 h
      obtain ⟨⟨digits, message⟩, htail, h⟩ := Option.bind_eq_some_iff.1 h
      cases h
      obtain rfl := after?_eq_some_iff.1 hr
      exact .mk hfile hs htail
  · intro h
    cases h with
    | @mk _ _ file r _ _ _ hbanner herror htail =>
      have hafter : after? file (file ++ r) = some r := after?_eq_some_iff.2 rfl
      simp [readInline, hbanner, herror, hafter, htail]

/-- What an error line says after its kind, or all of a line without a kind. -/
def saying (line : Text) : Text := ((errorKind? line).map (·.2)).getD line

/-- An error on a line of its own, which is no warning. If it has no line number, it has a kind and
its file is an Elixir source. -/
inductive BareError : List Text → Evidence → Prop where
  /-- The error is located on its line. -/
  | mk {line file message : Text} {digits : Option Text} {rest : List Text}
      (hparts : bareParts? (saying line) = some (file, digits, message))
      (hwarning : "warning:".toList.isPrefixOf message = false)
      (hplace : digits = none → errorKind? line ≠ none ∧ isElixirFile file = true) :
      BareError (line :: rest) ⟨file, digits.bind number?, message, 1⟩

/-- The reader of bare errors finds exactly these. -/
theorem readBare_eq_some_iff : readBare lines = some e ↔ BareError lines e := by
  constructor
  · intro h
    match lines with
    | [] => contradiction
    | line :: rest =>
      obtain ⟨⟨file, digits, message⟩, hparts, h⟩ := Option.bind_eq_some_iff.1 h
      dsimp only at h
      split at h
      · contradiction
      next hwarning =>
      split at h
      · contradiction
      next hplace =>
      cases h
      refine .mk hparts (Bool.eq_false_iff.2 hwarning) ?_
      rintro rfl
      simpa [Option.isNone_iff_eq_none] using hplace
  · intro h
    cases h with
    | @mk line file message digits rest hparts hwarning hplace =>
      have hline : (digits.isNone && ((errorKind? line).isNone || !isElixirFile file)) = false := by
        cases digits with
        | none =>
          obtain ⟨hkind, hfile⟩ := hplace rfl
          simpa [hfile, Option.isSome_iff_ne_none] using hkind
        | some digits => rfl
      have hparts' : bareParts? (((errorKind? line).map (·.2)).getD line) =
          some (file, digits, message) := hparts
      rw [readBare]
      dsimp only
      rw [hparts']
      simp only [Option.bind_eq_bind, Option.bind_some, hwarning, hline]
      rfl

/-- A warning on a line of its own. -/
inductive LineWarning : List Text → Evidence → Prop where
  /-- The warning is located on its line. -/
  | mk {line file digits message : Text} {rest : List Text}
      (hparts : warningParts? line = some (file, digits, message)) :
      LineWarning (line :: rest) ⟨file, number? digits, message, 1⟩

/-- The reader of warnings on one line finds exactly these. -/
theorem readWarning_eq_some_iff : readWarning lines = some e ↔ LineWarning lines e := by
  constructor
  · intro h
    match lines with
    | [] => contradiction
    | line :: rest =>
      obtain ⟨⟨file, digits, message⟩, hparts, h⟩ := Option.bind_eq_some_iff.1 h
      cases h
      exact .mk hparts
  · intro h
    cases h with
    | mk hparts => simp [readWarning, hparts]

end Shape

end ElixirDiagnostics
