import ElixirDiagnostics.Extraction.Run
import Mathlib.Data.List.Chain

/-!
# The leftmost scan

A leftmost scan of the lines is a list of sightings that is described without any reading order:
each one is what the catalog sees on its first line, none begins before the one above it has ended,
and outside their lines the catalog sees nothing. There is exactly one such list for any catalog,
also for one whose shapes name lines that do not exist, and a run sorts its diagnostics into the
two lists of the report. The scan does not depend on the inspected file.
-/

namespace ElixirDiagnostics

namespace Extraction

variable {c : Catalog} {lines : List Text} {cursor : Nat} {m : Sighting} {ms : List Sighting}

/-- No sighting follows exactly when the catalog sees nothing on any line that is left. -/
theorem next?_eq_none_iff :
    next? c lines cursor = none ↔
      ∀ j, cursor ≤ j → j < lines.length → c.firstAt lines j = none := by
  unfold next?
  rw [List.findSome?_eq_none_iff]
  constructor
  · intro h j hc hl
    exact h j (List.mem_range'_1.2 (by omega))
  · intro h j hj
    have hj' := List.mem_range'_1.1 hj
    exact h j hj'.1 (by omega)

/-- The next sighting is what the catalog sees on the first line that is left and shows anything. -/
theorem next?_eq_some_iff :
    next? c lines cursor = some m ↔
      cursor ≤ m.start ∧ m.start < lines.length ∧ c.firstAt lines m.start = some m ∧
        ∀ j, cursor ≤ j → j < m.start → c.firstAt lines j = none := by
  unfold next?
  constructor
  · intro h
    obtain ⟨before, a, after, hsplit, hm, hbefore⟩ := List.findSome?_eq_some_iff.1 h
    have hstart := (Catalog.span_of_firstAt hm).1
    obtain ⟨k, hk, hb, ha⟩ := List.range'_eq_append_iff.1 hsplit
    obtain ⟨ha0, hn, -⟩ := List.range'_eq_cons_iff.1 ha.symm
    subst hb
    rw [hstart]
    refine ⟨by omega, by omega, hm, ?_⟩
    intro j hc hj
    exact hbefore j (List.mem_range'_1.2 (by omega))
  · rintro ⟨hc, hl, hm, hbefore⟩
    have hsplit : List.range' cursor (lines.length - cursor) =
        List.range' cursor (m.start - cursor) ++
          m.start :: List.range' (m.start + 1) (lines.length - m.start - 1) := by
      have he : lines.length - cursor = (m.start - cursor) + (lines.length - m.start) := by omega
      have hs : cursor + (m.start - cursor) = m.start := by omega
      have hn : lines.length - m.start = (lines.length - m.start - 1) + 1 := by omega
      rw [he, ← List.range'_append_1, hs, hn, List.range'_succ]
      simp
    refine List.findSome?_eq_some_iff.2 ⟨_, m.start, _, hsplit, hm, ?_⟩
    intro j hj
    have hj' := List.mem_range'_1.1 hj
    exact hbefore j hj'.1 (by omega)

/-- The sightings that lie in the lines from `cursor` on, as a reader from top to bottom meets
them, said without reading. -/
structure LeftmostScan (c : Catalog) (lines : List Text) (cursor : Nat) (ms : List Sighting) :
    Prop where
  /-- Each sighting is what the catalog sees on its first line. -/
  seen : ∀ m ∈ ms, c.firstAt lines m.start = some m
  /-- Each sighting takes up a line. -/
  nonempty : ∀ m ∈ ms, m.start < m.stop
  /-- Each sighting begins within the lines. -/
  inside : ∀ m ∈ ms, cursor ≤ m.start ∧ m.start < lines.length
  /-- A sighting begins only where the one above it has ended. -/
  ordered : ms.IsChain fun m n => m.stop ≤ n.start
  /-- On every line outside the sightings the catalog sees nothing. -/
  complete : ∀ j, cursor ≤ j → j < lines.length → (∀ m ∈ ms, ¬(m.start ≤ j ∧ j < m.stop)) →
    c.firstAt lines j = none

namespace LeftmostScan

/-- In a scan every later sighting begins below the first one. -/
theorem stop_le_start (h : LeftmostScan c lines cursor (m :: ms)) :
    ∀ n ∈ ms, m.stop ≤ n.start := by
  have hne := h.nonempty
  have ho := h.ordered
  clear h
  induction ms generalizing m with
  | nil => simp
  | cons n ms ih =>
    obtain ⟨hmn, hrest⟩ := List.isChain_cons_cons.1 ho
    intro k hk
    rcases List.mem_cons.1 hk with rfl | hk
    · exact hmn
    · have hn := hne n (by simp)
      have hnk := ih (fun k hk => hne k (List.mem_cons_of_mem _ hk)) hrest k hk
      omega

/-- An empty scan means that nothing follows. -/
theorem next?_of_nil (h : LeftmostScan c lines cursor []) : next? c lines cursor = none :=
  next?_eq_none_iff.2 fun j hc hl => h.complete j hc hl (by simp)

/-- The first sighting of a scan is the next one. -/
theorem next?_of_cons (h : LeftmostScan c lines cursor (m :: ms)) :
    next? c lines cursor = some m := by
  have hin := h.inside m (by simp)
  have hlater := h.stop_le_start
  have hm := h.nonempty m (by simp)
  refine next?_eq_some_iff.2 ⟨hin.1, hin.2, h.seen m (by simp), ?_⟩
  intro j hc hj
  refine h.complete j hc (by omega) ?_
  intro n hn
  rcases List.mem_cons.1 hn with rfl | hn
  · omega
  · have := hlater n hn
    omega

/-- Below its first sighting a scan goes on as the scan of the lines that are left. -/
theorem tail (h : LeftmostScan c lines cursor (m :: ms)) : LeftmostScan c lines m.stop ms where
  seen := fun n hn => h.seen n (List.mem_cons_of_mem _ hn)
  nonempty := fun n hn => h.nonempty n (List.mem_cons_of_mem _ hn)
  inside := fun n hn => ⟨h.stop_le_start n hn, (h.inside n (List.mem_cons_of_mem _ hn)).2⟩
  ordered := h.ordered.tail
  complete := by
    have hin := h.inside m (by simp)
    have hm := h.nonempty m (by simp)
    intro j hc hl hout
    refine h.complete j (by omega) hl ?_
    intro n hn
    rcases List.mem_cons.1 hn with rfl | hn
    · omega
    · exact hout n hn

/-- Nothing but the empty list is a scan of lines that show nothing. -/
theorem nil (h : next? c lines cursor = none) : LeftmostScan c lines cursor [] where
  seen := by simp
  nonempty := by simp
  inside := by simp
  ordered := by simp
  complete := fun j hc hl _ => next?_eq_none_iff.1 h j hc hl

/-- The next sighting, followed by a scan of the lines below it, makes a scan. -/
theorem cons (hm : next? c lines cursor = some m) (h : LeftmostScan c lines m.stop ms) :
    LeftmostScan c lines cursor (m :: ms) := by
  obtain ⟨hc, hl, hseen, hbefore⟩ := next?_eq_some_iff.1 hm
  have hstop := (Catalog.span_of_firstAt hseen).2
  refine ⟨?_, ?_, ?_, ?_, ?_⟩
  · intro n hn
    rcases List.mem_cons.1 hn with rfl | hn
    · exact hseen
    · exact h.seen n hn
  · intro n hn
    rcases List.mem_cons.1 hn with rfl | hn
    · exact hstop
    · exact h.nonempty n hn
  · intro n hn
    rcases List.mem_cons.1 hn with rfl | hn
    · exact ⟨hc, hl⟩
    · have := h.inside n hn
      omega
  · refine List.isChain_cons.2 ⟨?_, h.ordered⟩
    intro n hn
    exact (h.inside n (List.mem_of_mem_head? hn)).1
  · intro j hcj hlj hout
    -- A line outside the first sighting stands above it or is among the lines that are left.
    have hj := hout m (by simp)
    by_cases hlt : j < m.start
    · exact hbefore j hcj hlt
    · refine h.complete j (by omega) hlj ?_
      intro n hn
      exact hout n (List.mem_cons_of_mem _ hn)

end LeftmostScan

/-- The sightings of a run: the next one, and those of the lines below it. -/
def sightings (c : Catalog) (lines : List Text) (cursor : Nat) : List Sighting :=
  match _h : next? c lines cursor with
  | none => []
  | some m => m :: sightings c lines m.stop
termination_by lines.length - cursor
decreasing_by
  have := bounds_of_next? _h
  omega

/-- Where no sighting follows, there are none. -/
theorem sightings_of_none (h : next? c lines cursor = none) : sightings c lines cursor = [] := by
  rw [sightings]
  split
  · rfl
  · simp_all

/-- The next sighting comes first, those of the lines below it follow. -/
theorem sightings_of_some (h : next? c lines cursor = some m) :
    sightings c lines cursor = m :: sightings c lines m.stop := by
  rw [sightings]
  split
  · simp_all
  · next k hk =>
    obtain rfl : k = m := by simpa [h] using hk.symm
    rfl

/-- The sightings of a run are the one leftmost scan of its lines. -/
theorem leftmostScan_iff : LeftmostScan c lines cursor ms ↔ ms = sightings c lines cursor := by
  constructor
  · intro h
    induction ms generalizing cursor with
    | nil => rw [sightings_of_none h.next?_of_nil]
    | cons m ms ih => rw [sightings_of_some h.next?_of_cons, ← ih h.tail]
  · rintro rfl
    induction cursor using sightings.induct c lines with
    | case1 cursor hn =>
      rw [sightings_of_none hn]
      exact LeftmostScan.nil hn
    | case2 cursor m hn ih =>
      rw [sightings_of_some hn]
      exact LeftmostScan.cons hn ih

/-- The sightings of a run are a leftmost scan. -/
theorem leftmostScan_sightings (c : Catalog) (lines : List Text) (cursor : Nat) :
    LeftmostScan c lines cursor (sightings c lines cursor) :=
  leftmostScan_iff.2 rfl

/-- Diagnostics sorted into those of the inspected file and those of other files. -/
def Report.sorted (i : Inspection) (ds : List Diagnostic) : Report where
  diagnostics := i.keep ds
  foreign := ds.filter fun d => !i.accepts d

/-- A report sorts the diagnostics of the sightings; every sighting makes exactly one. -/
theorem runFrom_report (c : Catalog) (i : Inspection) (lines : List Text) (cursor : Nat) :
    (runFrom c i lines cursor).report =
      Report.sorted i ((sightings c lines cursor).map Sighting.diagnostic) := by
  induction cursor using sightings.induct c lines with
  | case1 cursor hn =>
    rw [runFrom_of_none hn, sightings_of_none hn]
    rfl
  | case2 cursor m hn ih =>
    rw [runFrom_of_some hn, sightings_of_some hn]
    by_cases ha : i.accepts m.diagnostic
    · simp [Run.judge, Report.sorted, Inspection.keep, ha, ih]
    · simp [Run.judge, Report.sorted, Inspection.keep, ha, ih]

/-- The report of a leftmost scan of the stripped output. -/
theorem report_of_leftmostScan {output : Text} (i : Inspection)
    (h : LeftmostScan c (Text.lines (Text.stripColour output)) 0 ms) :
    report c i output = Report.sorted i (ms.map Sighting.diagnostic) := by
  rw [leftmostScan_iff.1 h]
  exact runFrom_report c i _ 0

end Extraction

end ElixirDiagnostics
