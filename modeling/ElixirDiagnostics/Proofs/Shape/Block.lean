import ElixirDiagnostics.Proofs.Shape.Descent
import ElixirDiagnostics.Shape.Block

/-!
# Blocks

A block is a head and a descent over body lines without a location to the first one that has one.
-/

namespace ElixirDiagnostics

namespace Shape

variable {severity : Severity} {lines : List Text} {n : Nat} {file digits : Text} {e : Evidence}

/-- A body line without a location. -/
def Continues (l : Text) : Prop := isBlockBody l = true ∧ blockLocation? l = none

/-- A body line with a location. -/
def Locates (file digits l : Text) : Prop :=
  isBlockBody l = true ∧ blockLocation? l = some (file, digits)

/-- The reader of a block's body goes down to the first body line with a location. -/
theorem blockEnd?_eq_some_iff :
    blockEnd? lines = some (n, file, digits) ↔
      Descent Continues (Locates file digits) lines n := by
  constructor
  · intro h
    induction lines generalizing n with
    | nil => contradiction
    | cons l lines ih =>
      rw [blockEnd?] at h
      split at h
      · next hbody =>
        split at h
        · next place hplace =>
          obtain ⟨rfl, rfl⟩ : 0 = n ∧ place = (file, digits) := by simpa using h
          exact .here ⟨hbody, hplace⟩
        · next hplace =>
          obtain ⟨k, rfl, hk⟩ := eq_some_of_map_succ h
          exact .further ⟨hbody, hplace⟩ (ih hk)
      · contradiction
  · intro h
    induction h with
    | here h => simp [blockEnd?, h.1, h.2]
    | further hl _ ih => simp [blockEnd?, hl.1, hl.2, ih]

/-- Body lines with a location among them have a descent to one. -/
theorem exists_descent_of_isBlockBody (hlines : ∀ l ∈ lines, isBlockBody l = true)
    (h : ∃ l ∈ lines, (blockLocation? l).isSome) :
    ∃ (place : Text × Text) (n : Nat), Descent Continues (Locates place.1 place.2) lines n := by
  refine Descent.exists_of_mem (α := Text × Text) ?_ ?_
  · intro l hl
    cases hplace : blockLocation? l with
    | none => exact Or.inl ⟨hlines l hl, hplace⟩
    | some place => exact Or.inr ⟨place, hlines l hl, hplace⟩
  · obtain ⟨l, hl, hsome⟩ := h
    obtain ⟨place, hplace⟩ := Option.isSome_iff_exists.1 hsome
    exact ⟨l, hl, place, hlines l hl, hplace⟩

/-- A head, body lines without a location, and one with a location. -/
inductive Block (severity : Severity) : List Text → Evidence → Prop where
  /-- The block ends where the descent of its body ends. -/
  | mk {head message file digits : Text} {body : List Text} {n : Nat}
      (hhead : blockHead? severity head = some message)
      (hbody : Descent Continues (Locates file digits) body n) :
      Block severity (head :: body) ⟨file, Text.number? digits, message, n + 2⟩

/-- The reader of blocks finds exactly these. -/
theorem readBlock_eq_some_iff : readBlock severity lines = some e ↔ Block severity lines e := by
  constructor
  · intro h
    match lines with
    | [] => contradiction
    | head :: body =>
      obtain ⟨message, hmessage, h⟩ := Option.bind_eq_some_iff.1 h
      obtain ⟨⟨n, file, digits⟩, hend, h⟩ := Option.bind_eq_some_iff.1 h
      cases h
      exact .mk hmessage (blockEnd?_eq_some_iff.1 hend)
  · intro h
    cases h with
    | mk hhead hbody =>
      have hend := blockEnd?_eq_some_iff.2 hbody
      simp [readBlock, hhead, hend]

end Shape

end ElixirDiagnostics
