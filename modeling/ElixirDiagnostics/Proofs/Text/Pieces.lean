import ElixirDiagnostics.Text.Basic

/-!
# Pieces of a text

The pieces between the separators of a text do not hold the separator, and a last piece is joined to
others behind one.
-/

namespace ElixirDiagnostics

namespace Text

variable {separator : Char} {w : Text} {ws : List Text}

/-- A separator at the start has an empty piece before it. -/
theorem splitOn_separator (separator : Char) (s : Text) :
    (separator :: s).splitOn separator = [] :: s.splitOn separator :=
  List.splitOn_append_cons_self [] s

/-- No piece holds the separator. -/
theorem not_mem_of_mem_splitOn {s : Text} (h : w ∈ s.splitOn separator) : separator ∉ w := by
  induction s generalizing w with
  | nil =>
    obtain rfl : w = [] := by simpa using h
    simp
  | cons c s ih =>
    rw [List.splitOn_cons_eq_if_modifyHead] at h
    split at h
    · rcases List.mem_cons.1 h with rfl | h
      · simp
      · exact ih h
    · next hc =>
      obtain ⟨v, vs, hs⟩ := List.exists_cons_of_ne_nil (List.splitOn_ne_nil separator s)
      rw [hs] at h ih
      rcases List.mem_cons.1 h with rfl | h
      · have hv : separator ∉ v := ih List.mem_cons_self
        have hne : separator ≠ c := by
          rintro rfl
          exact hc (beq_self_eq_true separator)
        simp [hne, hv]
      · exact ih (List.mem_cons_of_mem v h)

/-- A last piece is joined behind a separator. -/
theorem intercalate_append_singleton (hne : ws ≠ []) (w : Text) :
    [separator].intercalate (ws ++ [w]) = [separator].intercalate ws ++ separator :: w := by
  induction ws with
  | nil => contradiction
  | cons v vs ih =>
    cases vs with
    | nil => simp
    | cons u us =>
      have hrest := ih (by simp)
      rw [List.cons_append, List.cons_append, List.intercalate_cons_cons,
        List.intercalate_cons_cons, ← List.cons_append, hrest, List.append_assoc,
        List.append_assoc, List.append_assoc]

end Text

end ElixirDiagnostics
