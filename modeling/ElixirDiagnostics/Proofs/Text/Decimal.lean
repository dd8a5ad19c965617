import ElixirDiagnostics.Text.Decimal

/-!
# Numbers in decimal digits

A number is read from ASCII digits that write it, if it fits into 64 bits, and the digits that a
number is written in are read back. Digits from which no number is read are of another script or
write a number that is too large.
-/

namespace ElixirDiagnostics

namespace Text

variable {d : Text} {n : Nat} {c : Char}

/-- ASCII digits that write a number, maybe with zeros before it. -/
structure Writes (d : Text) (n : Nat) : Prop where
  /-- There is a digit. -/
  ne_nil : d ≠ []
  /-- All digits are ASCII. -/
  ascii : ∀ c ∈ d, c.isDigit = true
  /-- They have this value, the most significant digit first. -/
  value : decimalValue d = n

/-- A number is read from the digits that write it, unless it needs more than 64 bits. -/
theorem number?_eq_some_iff : number? d = some n ↔ Writes d n ∧ n < UInt64.size := by
  have hcond : (!d.isEmpty && d.all Char.isDigit && decimalValue d < UInt64.size) = true ↔
      (d ≠ [] ∧ ∀ c ∈ d, c.isDigit = true) ∧ decimalValue d < UInt64.size := by
    simp
  unfold number?
  constructor
  · intro h
    split at h
    · next hd =>
      obtain rfl := Option.some.inj h
      obtain ⟨⟨hne, hall⟩, hlt⟩ := hcond.1 hd
      exact ⟨⟨hne, hall, rfl⟩, hlt⟩
    · contradiction
  · rintro ⟨⟨hne, hall, rfl⟩, hlt⟩
    rw [if_pos (hcond.2 ⟨⟨hne, hall⟩, hlt⟩)]

/-- What is read from the digits that write a number: the number, if it fits into 64 bits. -/
theorem number?_of_writes (h : Writes d n) :
    number? d = if n < UInt64.size then some n else none := by
  split
  · next hlt => exact number?_eq_some_iff.2 ⟨h, hlt⟩
  · next hlarge =>
    cases hread : number? d with
    | none => rfl
    | some k =>
      obtain ⟨hk, hlt⟩ := number?_eq_some_iff.1 hread
      rw [← hk.value, h.value] at hlt
      exact absurd hlt hlarge

/-- From digits no number is read if one is no ASCII digit or the number is too large. -/
theorem exists_of_number?_eq_none (hne : d ≠ []) (h : number? d = none) :
    (∃ c ∈ d, c.isDigit = false) ∨ ∃ n, Writes d n ∧ UInt64.size ≤ n := by
  by_cases hall : ∀ c ∈ d, c.isDigit = true
  · have hwrites : Writes d (decimalValue d) := ⟨hne, hall, rfl⟩
    refine Or.inr ⟨decimalValue d, hwrites, Nat.le_of_not_lt fun hlt => ?_⟩
    have hread := number?_eq_some_iff.2 ⟨hwrites, hlt⟩
    rw [h] at hread
    contradiction
  · simp only [Classical.not_forall, Bool.not_eq_true] at hall
    obtain ⟨c, hc, hdigit⟩ := hall
    exact Or.inl ⟨c, hc, hdigit⟩

/-- The digits of a number write it. -/
theorem writes_ofNat (n : Nat) : Writes (ofNat n) n where
  ne_nil := Nat.toDigits_ne_nil
  ascii := fun _ hc => Nat.isDigit_of_mem_toDigits (by decide) (by decide) hc
  value := Nat.ofDigitChars_toDigits (by decide) (by decide)

/-- A character that is no ASCII digit is none of them. -/
theorem not_mem_ofNat (hc : c.isDigit = false) (n : Nat) : c ∉ ofNat n := by
  intro h
  rw [(writes_ofNat n).ascii c h] at hc
  contradiction

/-- They are read back if the number fits into 64 bits. -/
theorem number?_ofNat (h : n < UInt64.size) : number? (ofNat n) = some n :=
  number?_eq_some_iff.2 ⟨writes_ofNat n, h⟩

/-- An ASCII digit is a decimal digit. -/
theorem isDecimal_of_isDigit (h : c.isDigit = true) : isDecimal c = true := by
  have hcode : 0x30 ≤ c.toNat ∧ c.toNat ≤ 0x39 := by
    obtain ⟨hlow, hhigh⟩ := Bool.and_eq_true_iff.1 h
    exact ⟨of_decide_eq_true hlow, of_decide_eq_true hhigh⟩
  refine List.any_eq_true.2 ⟨0x30, by simp [decimalZeros], ?_⟩
  simp only [Bool.and_eq_true, decide_eq_true_eq]
  omega

end Text

end ElixirDiagnostics
