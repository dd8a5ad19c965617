import ElixirDiagnostics.Text.Basic

/-!
# Descents

A trace is read down to its anchor and a block down to its location, and both in the same way: the
reader passes line after line and stops at the first one that it looks for. A descent says this
without reading. It depends on no line below the one where it stops.
-/

namespace ElixirDiagnostics

namespace Shape

/-- A way down over `n` lines that are passed, to a line where the reader stops. -/
inductive Descent (pass stop : Text → Prop) : List Text → Nat → Prop where
  /-- The reader stops at the first line. -/
  | here {l : Text} {rest : List Text} (h : stop l) : Descent pass stop (l :: rest) 0
  /-- The reader passes the first line. -/
  | further {l : Text} {rest : List Text} {n : Nat} (hl : pass l) (h : Descent pass stop rest n) :
      Descent pass stop (l :: rest) (n + 1)

namespace Descent

variable {pass stop : Text → Prop} {lines : List Text} {n : Nat}

/-- A descent ends within the lines. -/
theorem lt_length (h : Descent pass stop lines n) : n < lines.length := by
  induction h with
  | here _ => exact Nat.succ_pos _
  | further _ _ ih => exact Nat.succ_lt_succ ih

/-- A descent is there whatever follows the line where it ends. -/
theorem take_append (h : Descent pass stop lines n) (other : List Text) :
    Descent pass stop (lines.take (n + 1) ++ other) n := by
  induction h with
  | here h => exact .here h
  | further hl _ ih => exact .further hl ih

/-- A descent stops at one of the lines. -/
theorem exists_stop (h : Descent pass stop lines n) : ∃ l ∈ lines, stop l := by
  induction h with
  | @here l rest h => exact ⟨l, by simp, h⟩
  | further _ _ ih =>
    obtain ⟨l, hl, h⟩ := ih
    exact ⟨l, List.mem_cons_of_mem _ hl, h⟩

/-- A descent over `n` lines stops at the line with this number and passes all lines before it. -/
theorem iff_getElem? :
    Descent pass stop lines n ↔
      (∃ l, lines[n]? = some l ∧ stop l) ∧ ∀ j l, j < n → lines[j]? = some l → pass l := by
  constructor
  · intro h
    induction h with
    | @here l rest h => exact ⟨⟨l, rfl, h⟩, fun j _ hj => absurd hj (Nat.not_lt_zero j)⟩
    | further hl _ ih =>
      obtain ⟨hstop, hpass⟩ := ih
      refine ⟨hstop, fun j l' hj hl' => ?_⟩
      cases j with
      | zero =>
        obtain rfl := Option.some.inj hl'
        exact hl
      | succ j => exact hpass j l' (Nat.lt_of_succ_lt_succ hj) hl'
  · rintro ⟨⟨l, hl, hstop⟩, hpass⟩
    induction n generalizing lines with
    | zero =>
      obtain ⟨rest, rfl⟩ := List.head?_eq_some_iff.1 (List.head?_eq_getElem?.trans hl)
      exact .here hstop
    | succ n ih =>
      cases lines with
      | nil => contradiction
      | cons k lines =>
        have hrest : ∀ j l, j < n → lines[j]? = some l → pass l := fun j l hj hl =>
          hpass (j + 1) l (Nat.succ_lt_succ hj) hl
        exact .further (hpass 0 k (Nat.succ_pos n) rfl) (ih hrest hl)

/-- A descent from a position on, by the numbers of all the lines. -/
theorem drop_iff_getElem? {start : Nat} :
    Descent pass stop (lines.drop start) n ↔
      (∃ l, lines[start + n]? = some l ∧ stop l) ∧
        ∀ j l, start ≤ j → j < start + n → lines[j]? = some l → pass l := by
  simp only [iff_getElem?, List.getElem?_drop]
  refine and_congr_right fun _ => ⟨fun h j l hle hlt hl => ?_, fun h j l hlt hl => ?_⟩
  · obtain ⟨d, rfl⟩ := Nat.exists_eq_add_of_le hle
    exact h d l (Nat.lt_of_add_lt_add_left hlt) hl
  · exact h (start + j) l (Nat.le_add_right start j) (Nat.add_lt_add_left hlt start) hl

/-- A descent stays one for a reader that passes and stops at the same lines and maybe at more. -/
theorem imp {pass' stop' : Text → Prop} (hpass : ∀ l, pass l → pass' l)
    (hstop : ∀ l, stop l → stop' l) (h : Descent pass stop lines n) :
    Descent pass' stop' lines n := by
  induction h with
  | here h => exact .here (hstop _ h)
  | further hl _ ih => exact .further (hpass _ hl) ih

/-- A reader that can stop at lines that another one passes, and stops where the other one does,
goes down no further. -/
theorem exists_le {α : Type} {pass' : Text → Prop} {stops : α → Text → Prop}
    (hpass : ∀ l, pass l → pass' l ∨ ∃ place, stops place l)
    (hstop : ∀ l, stop l → ∃ place, stops place l) (h : Descent pass stop lines n) :
    ∃ place k, k ≤ n ∧ Descent pass' (stops place) lines k := by
  induction h with
  | here h =>
    obtain ⟨place, hplace⟩ := hstop _ h
    exact ⟨place, 0, Nat.le_refl 0, .here hplace⟩
  | further hl _ ih =>
    rcases hpass _ hl with hl | ⟨place, hplace⟩
    · obtain ⟨place, k, hk, hdescent⟩ := ih
      exact ⟨place, k + 1, Nat.succ_le_succ hk, .further hl hdescent⟩
    · exact ⟨place, 0, Nat.zero_le _, .here hplace⟩

/-- If the reader passes every line where it does not stop, there is a descent to any place that can
be stopped at. -/
theorem exists_of_mem {α : Type} {stops : α → Text → Prop}
    (hlines : ∀ l ∈ lines, pass l ∨ ∃ place, stops place l)
    (h : ∃ l ∈ lines, ∃ place, stops place l) : ∃ place n, Descent pass (stops place) lines n := by
  induction lines with
  | nil =>
    obtain ⟨l, hl, -⟩ := h
    contradiction
  | cons k lines ih =>
    rcases hlines k (by simp) with hpass | ⟨place, hstop⟩
    · obtain ⟨l, hl, place, hstop⟩ := h
      rcases List.mem_cons.1 hl with rfl | hl
      · exact ⟨place, 0, .here hstop⟩
      · have hrest : ∀ l ∈ lines, pass l ∨ ∃ place, stops place l := fun l hl =>
          hlines l (List.mem_cons_of_mem _ hl)
        obtain ⟨place, n, hdescent⟩ := ih hrest ⟨l, hl, place, hstop⟩
        exact ⟨place, n + 1, .further hpass hdescent⟩
    · exact ⟨place, 0, .here hstop⟩

end Descent

/-- The first of the lines from a position on is the one with this number. -/
theorem drop_eq_cons_iff {lines rest : List Text} {l : Text} {i : Nat} :
    lines.drop i = l :: rest ↔ lines[i]? = some l ∧ lines.drop (i + 1) = rest := by
  rw [← List.head?_drop, ← List.tail_drop]
  cases lines.drop i <;> simp

/-- What was found further down counts one line more. -/
theorem eq_some_of_map_succ {α : Type} {found : Option (Nat × α)} {n : Nat} {place : α}
    (h : found.map (Prod.map (· + 1) id) = some (n, place)) :
    ∃ k, n = k + 1 ∧ found = some (k, place) := by
  obtain ⟨⟨k, place'⟩, hk, hn⟩ := Option.map_eq_some_iff.1 h
  obtain ⟨rfl, rfl⟩ : k + 1 = n ∧ place' = place := by simpa using hn
  exact ⟨k, rfl, hk⟩

end Shape

end ElixirDiagnostics
