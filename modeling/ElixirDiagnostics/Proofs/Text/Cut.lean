import ElixirDiagnostics.Text.Colour
import Mathlib.Data.List.Basic

/-!
# Cutting a text at a line end

A colour sequence is cut short by any character that can be no further part of it, such as a newline
or the escape character of the next sequence, and a newline ends a line whatever follows it. So a
text can be cut behind a newline: stripping the colours and splitting into lines can be done on both
parts alone. A carriage return before the cut belongs to the newline before the cut.
-/

namespace ElixirDiagnostics

namespace Text

variable {a b s : Text} {c : Char}

/-- A text of whole lines: it is empty, or a newline ends it. -/
def EndsLine (s : Text) : Prop := s = [] ∨ s.getLast? = some '\n'

/-- A text that ends with a newline, seen as what stands before it. -/
theorem EndsLine.eq_append (h : EndsLine s) (hne : s ≠ []) : ∃ t, s = t ++ ['\n'] := by
  rcases h with h | h
  · contradiction
  · exact ⟨s.dropLast, (List.dropLast_append_getLast? _ h).symm⟩

/-- A character with which no colour sequence goes on. It may begin one. -/
structure BreaksColour (c : Char) : Prop where
  /-- It is not the bracket behind the escape character. -/
  ne_bracket : c ≠ '['
  /-- It is no parameter. -/
  not_parameter : isColourParameter c = false
  /-- It is not the letter that ends a sequence. -/
  not_letter : c.isAlpha = false

/-- Dropping the parameters of a colour sequence stops there at the latest. -/
theorem dropWhile_isColourParameter_append (hc : BreaksColour c) (s b : Text) :
    (s ++ c :: b).dropWhile isColourParameter = s.dropWhile isColourParameter ++ c :: b := by
  rw [List.dropWhile_append]
  split
  · next h =>
    rw [List.isEmpty_iff.1 h, List.nil_append,
      List.dropWhile_cons_of_neg (by simp [hc.not_parameter])]
  · rfl

/-- It has no part in a colour sequence that begins before it. -/
theorem afterColour?_append (hc : BreaksColour c) (hs : s ≠ []) (b : Text) :
    afterColour? (s ++ c :: b) = (afterColour? s).map (· ++ c :: b) := by
  match s with
  | [e] => simp [afterColour?, hc.ne_bracket]
  | e :: d :: s =>
    by_cases hd : d = '['
    · subst hd
      by_cases he : e = escape
      · simp only [List.cons_append, afterColour?, if_pos he,
          dropWhile_isColourParameter_append hc]
        cases hdrop : s.dropWhile isColourParameter with
        | nil => simp [hc.not_letter]
        | cons l r => by_cases hl : l.isAlpha <;> simp [hl]
      · simp [afterColour?, he]
    · simp [afterColour?, hd]

/-- So colour sequences are removed before it and from it on alone. -/
theorem stripColour_append_cons (hc : BreaksColour c) (a b : Text) :
    stripColour (a ++ c :: b) = stripColour a ++ stripColour (c :: b) := by
  induction a using stripColour.induct with
  | case1 => rw [List.nil_append, stripColour_nil, List.nil_append]
  | case2 d s r h ih =>
    have hr : afterColour? (d :: s ++ c :: b) = some (r ++ c :: b) := by
      rw [afterColour?_append hc (List.cons_ne_nil d s), h]
      rfl
    rw [stripColour_of_colour hr, ih, stripColour_of_colour h]
  | case3 d s h ih =>
    have hr : afterColour? (d :: (s ++ c :: b)) = none := by
      rw [← List.cons_append, afterColour?_append hc (List.cons_ne_nil d s), h]
      rfl
    rw [List.cons_append, stripColour_of_plain hr, ih, stripColour_of_plain h, List.cons_append]

/-- Colour sequences are removed on both sides of a newline alone. -/
theorem stripColour_append_newline (a b : Text) :
    stripColour (a ++ '\n' :: b) = stripColour a ++ '\n' :: stripColour b := by
  have hnewline : BreaksColour '\n' := ⟨by decide, by decide, by decide⟩
  have hplain : afterColour? ('\n' :: b) = none := afterColour?_of_ne (by decide) b
  rw [stripColour_append_cons hnewline, stripColour_of_plain hplain]

/-- Colour sequences do not reach over a line end. -/
theorem stripColour_append (h : EndsLine a) (b : Text) :
    stripColour (a ++ b) = stripColour a ++ stripColour b := by
  by_cases hne : a = []
  · subst hne
    simp
  · obtain ⟨t, rfl⟩ := h.eq_append hne
    have hnil := stripColour_append_newline t []
    rw [List.append_assoc, List.singleton_append, stripColour_append_newline, hnil]
    simp

/-- A text of whole lines is one also without its colours. -/
theorem EndsLine.stripColour (h : EndsLine a) : EndsLine (stripColour a) := by
  by_cases hne : a = []
  · subst hne
    exact Or.inl stripColour_nil
  · obtain ⟨t, rfl⟩ := h.eq_append hne
    rw [stripColour_append_newline]
    exact Or.inr (by simp)

/-- A character that ends no line joins the line that follows it. -/
theorem lines_cons_of_plain {c : Char} {s : Text} (hn : c ≠ '\n')
    (hr : c = '\r' → s.head? ≠ some '\n') :
    lines (c :: s) = (match lines s with | [] => [[c]] | l :: ls => (c :: l) :: ls) := by
  have hpair : ∀ r : Text, c = '\r' → s = '\n' :: r → False := by
    rintro r rfl rfl
    exact hr rfl rfl
  exact lines.eq_4 c s hn hpair

/-- A text with a character has a line. -/
theorem lines_ne_nil {s : Text} (h : s ≠ []) : lines s ≠ [] := by
  unfold lines
  split
  · contradiction
  · simp
  · simp
  · split <;> simp

/-- No line holds a newline. -/
theorem newline_not_mem_of_mem_lines {s l : Text} (h : l ∈ lines s) : '\n' ∉ l := by
  induction s using lines.induct generalizing l with
  | case1 => simp [lines] at h
  | case2 s ih =>
    rcases List.mem_cons.1 (by simpa [lines] using h) with rfl | h
    · exact List.not_mem_nil
    · exact ih h
  | case3 s ih =>
    rcases List.mem_cons.1 (by simpa [lines] using h) with rfl | h
    · exact List.not_mem_nil
    · exact ih h
  | case4 c s hn hr hl ih =>
    rw [lines.eq_4 c s hn hr, hl] at h
    obtain rfl := List.mem_singleton.1 h
    simpa using Ne.symm hn
  | case5 c s hn hr k ks hl ih =>
    rw [lines.eq_4 c s hn hr, hl] at h
    rcases List.mem_cons.1 h with rfl | h
    · have hk := ih (l := k) (by simp [hl])
      simpa [hk] using Ne.symm hn
    · exact ih (by simp [hl, h])

/-- A newline ends its line whatever follows. -/
theorem lines_append_newline (a b : Text) :
    lines (a ++ '\n' :: b) = lines (a ++ ['\n']) ++ lines b := by
  induction a using lines.induct with
  | case1 => simp [lines]
  | case2 s ih => simp [lines, ih]
  | case3 s ih => simp [lines, ih]
  | case4 c s hn hr hl ih =>
    have hs : s = [] := by_contra fun hne => lines_ne_nil hne hl
    subst hs
    by_cases hc : c = '\r'
    · -- A carriage return right before the cut belongs to the line end.
      subst hc
      simp [lines]
    · have hplain : ∀ t : Text, lines (c :: '\n' :: t) = [c] :: lines t := by
        intro t
        rw [lines_cons_of_plain hn (fun h => absurd h hc)]
        simp [lines]
      simp only [List.cons_append, List.nil_append, hplain]
      simp [lines]
  | case5 c s hn hr l ls hl ih =>
    have hplain : ∀ t : Text, c = '\r' → (s ++ t).head? ≠ some '\n' := by
      rintro t rfl hd
      cases s with
      | nil => simp [lines] at hl
      | cons d s =>
        obtain rfl : d = '\n' := by simpa using hd
        exact hr s rfl rfl
    have hne : s ++ ['\n'] ≠ [] := by simp
    obtain ⟨k, ks, hk⟩ := List.exists_cons_of_ne_nil (lines_ne_nil hne)
    rw [List.cons_append, List.cons_append, lines_cons_of_plain hn (hplain _),
      lines_cons_of_plain hn (hplain _), ih, hk]
    rfl

/-- The lines of whole lines and what follows them are those of both parts. -/
theorem lines_append (h : EndsLine a) (b : Text) : lines (a ++ b) = lines a ++ lines b := by
  by_cases hne : a = []
  · subst hne
    simp [lines]
  · obtain ⟨t, rfl⟩ := h.eq_append hne
    rw [List.append_assoc, List.singleton_append, lines_append_newline]

/-- Whole lines of output are stripped and split apart from what follows them. -/
theorem lines_stripColour_append (h : EndsLine a) (b : Text) :
    lines (stripColour (a ++ b)) = lines (stripColour a) ++ lines (stripColour b) := by
  rw [stripColour_append h, lines_append h.stripColour]

end Text

end ElixirDiagnostics
