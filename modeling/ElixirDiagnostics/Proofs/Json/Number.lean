import ElixirDiagnostics.Json.Reader
import ElixirDiagnostics.Proofs.Location.Written

/-!
# JSON numbers as they are written

A number is written as a whole part, which has no zero before its first digit, maybe with a minus
sign before it and a fraction and an exponent behind it. It is read to its end if what follows it
cannot belong to it. A whole number in decimal digits is one of these, and it is read as a whole
number; a fraction, an exponent or a minus sign before zero keeps the number as it is written.
-/

namespace ElixirDiagnostics

namespace Text

/-- The digits that write a number begin with a digit. -/
theorem Writes.exists_cons {d : Text} {n : Nat} (h : Writes d n) :
    ∃ c t, d = c :: t ∧ c.isDigit = true := by
  obtain ⟨c, t, rfl⟩ := List.exists_cons_of_ne_nil h.ne_nil
  exact ⟨c, t, rfl, h.ascii c List.mem_cons_self⟩

/-- The digits of a number that is not zero do not begin with a zero. -/
theorem head?_ofNat_ne {n : Nat} (h : n ≠ 0) : (ofNat n).head? ≠ some '0' := by
  induction n using Nat.strongRecOn with
  | ind n ih =>
    unfold ofNat
    rcases Nat.lt_or_ge n 10 with hlt | hge
    · have hdigits : ∀ k < 10, k ≠ 0 → (Nat.toDigits 10 k).head? ≠ some '0' := by decide
      exact hdigits n hlt h
    · have hquotient : (ofNat (n / 10)).head? ≠ some '0' := ih (n / 10) (by omega) (by omega)
      obtain ⟨c, d, hdigits, -⟩ := (writes_ofNat (n / 10)).exists_cons
      rw [hdigits] at hquotient
      rw [Nat.toDigits_of_base_le (by decide) hge, ← ofNat, hdigits]
      exact hquotient

end Text

namespace Json

open Text

/-- The whole part of a number. -/
inductive IsWhole : Text → Prop where
  /-- Zero. -/
  | zero : IsWhole ['0']
  /-- Digits that do not begin with a zero. -/
  | digits {d : Text} {n : Nat} (hd : Writes d n) (hzero : d.head? ≠ some '0') : IsWhole d

/-- The fraction of a number. -/
inductive IsFraction : Text → Prop where
  /-- None. -/
  | none : IsFraction []
  /-- Digits behind a point. -/
  | digits {d : Text} {n : Nat} (hd : Writes d n) : IsFraction ('.' :: d)

/-- The exponent of a number. -/
inductive IsExponent : Text → Prop where
  /-- None. -/
  | none : IsExponent []
  /-- Digits behind the letter, maybe with a sign before them. -/
  | digits {e : Char} {sign d : Text} {n : Nat} (he : e = 'e' ∨ e = 'E')
      (hsign : sign = [] ∨ sign = ['+'] ∨ sign = ['-']) (hd : Writes d n) :
      IsExponent (e :: (sign ++ d))

/-- The sign of a number. -/
def sign (negative : Bool) : Text := if negative then ['-'] else []

/-- The ways to write a number. -/
inductive IsNumber : Json → Text → Prop where
  /-- A whole number in decimal digits. -/
  | integer (n : Int) : IsNumber (.integer n) (ofInt n)
  /-- A number with a fraction or an exponent, or the negative zero. -/
  | decimal {negative : Bool} {whole fraction exponent : Text} (hwhole : IsWhole whole)
      (hfraction : IsFraction fraction) (hexponent : IsExponent exponent)
      (hform : fraction ≠ [] ∨ exponent ≠ [] ∨ negative = true ∧ whole = ['0']) :
      IsNumber (.decimal (sign negative ++ (whole ++ (fraction ++ exponent))))
        (sign negative ++ (whole ++ (fraction ++ exponent)))

/-- Characters that can go on with a number. -/
def isNumberChar (c : Char) : Bool := c.isDigit || c == '.' || c == 'e' || c == 'E'

/-- A text that does not go on with a number before it. -/
def EndsNumber (r : Text) : Prop := ∀ c, r.head? = some c → isNumberChar c = false

variable {j : Json} {d f e r w : Text} {c : Char}

/-- A digit is none of the other characters. -/
theorem ne_of_isDigit {d : Char} (hc : c.isDigit = true) (hd : d.isDigit = false) : c ≠ d := by
  rintro rfl
  rw [hc] at hd
  contradiction

/-- A text that ends a number does not begin with a digit. -/
theorem EndsNumber.not_digit (h : EndsNumber r) : ∀ c, r.head? = some c → c.isDigit = false := by
  intro c hc
  have hchar := h c hc
  simp only [isNumberChar, Bool.or_eq_false_iff] at hchar
  exact hchar.1.1.1

/-- A whole part begins with a digit. -/
theorem IsWhole.exists_cons (h : IsWhole d) : ∃ c t, d = c :: t ∧ c.isDigit = true := by
  cases h with
  | zero => exact ⟨'0', [], rfl, rfl⟩
  | digits hd => exact hd.exists_cons

/-- A whole part is read to its end. -/
theorem whole?_append (h : IsWhole d) (hr : ∀ c, r.head? = some c → c.isDigit = false) :
    whole? (d ++ r) = some (d, r) := by
  cases h with
  | zero => rfl
  | digits hd hzero =>
    have hrun := run?_append hd.ne_nil hd.ascii hr
    unfold whole?
    split
    · next hsplit =>
      obtain ⟨c, d, rfl, -⟩ := hd.exists_cons
      obtain ⟨rfl, -⟩ := List.cons.inj hsplit
      exact absurd rfl hzero
    · exact hrun

/-- A fraction is read to its end. -/
theorem fraction?_append (h : IsFraction f)
    (hr : ∀ c, r.head? = some c → c.isDigit = false ∧ c ≠ '.') :
    fraction? (f ++ r) = some (f, r) := by
  cases h with
  | none =>
    rw [List.nil_append]
    unfold fraction?
    split
    · exact absurd rfl (hr _ rfl).2
    · rfl
  | digits hd =>
    have hrun := run?_append hd.ne_nil hd.ascii fun c hc => (hr c hc).1
    simp only [List.cons_append, fraction?, hrun, Option.map_some]

/-- An exponent is read to its end. -/
theorem exponent?_append (h : IsExponent e) (hr : EndsNumber r) :
    exponent? (e ++ r) = some (e, r) := by
  cases h with
  | none =>
    rw [List.nil_append]
    unfold exponent?
    split
    · next c r =>
      have hc := hr c rfl
      simp only [isNumberChar, Bool.or_eq_false_iff, beq_eq_false_iff_ne] at hc
      rw [if_neg (by simp [hc])]
    · rfl
  | @digits e sign d n he hsign hd =>
    have hrun := run?_append hd.ne_nil hd.ascii hr.not_digit
    simp only [List.cons_append, exponent?, if_pos he, List.append_assoc]
    rcases hsign with rfl | rfl | rfl
    · obtain ⟨c, d, rfl, hdigit⟩ := hd.exists_cons
      have hplus : c ≠ '+' := ne_of_isDigit hdigit (by decide)
      have hminus : c ≠ '-' := ne_of_isDigit hdigit (by decide)
      rw [List.cons_append] at hrun
      simp [hplus, hminus, hrun]
    · simp [hrun]
    · simp [hrun]

/-- Behind a whole part no digit stands. -/
theorem not_digit_of_fraction (hf : IsFraction f)
    (hr : ∀ c, r.head? = some c → c.isDigit = false ∧ c ≠ '.') :
    ∀ c, (f ++ r).head? = some c → c.isDigit = false := by
  cases hf with
  | none => exact fun c hc => (hr c hc).1
  | digits =>
    intro c hc
    obtain rfl : '.' = c := by simpa using hc
    decide

/-- Behind a fraction there is neither a digit nor another point. -/
theorem not_digit_of_exponent (he : IsExponent e) (hr : EndsNumber r) :
    ∀ c, (e ++ r).head? = some c → c.isDigit = false ∧ c ≠ '.' := by
  intro c hc
  cases he with
  | none =>
    have hchar := hr c hc
    simp only [isNumberChar, Bool.or_eq_false_iff, beq_eq_false_iff_ne] at hchar
    exact ⟨hchar.1.1.1, hchar.1.1.2⟩
  | digits he =>
    obtain rfl : _ = c := by simpa using hc
    rcases he with rfl | rfl <;> decide

/-- All parts of a number are read. It is a whole number if it has no fraction and no exponent and
is not the negative zero. -/
theorem number?_of_parts (negative : Bool) (hw : IsWhole w) (hf : IsFraction f) (he : IsExponent e)
    (hr : EndsNumber r) :
    number? (sign negative ++ (w ++ (f ++ (e ++ r)))) =
      if f.isEmpty && e.isEmpty && !(negative && decimalValue w == 0) then
        some (.integer (if negative then -(decimalValue w : Int) else decimalValue w), r)
      else some (.decimal (sign negative ++ w ++ f ++ e), r) := by
  have hpoint := not_digit_of_exponent he hr
  have hwhole := whole?_append hw (not_digit_of_fraction hf hpoint)
  have hfraction := fraction?_append hf hpoint
  have hexponent := exponent?_append he hr
  cases negative with
  | true =>
    simp only [sign, if_true, List.singleton_append, number?, hwhole, hfraction, hexponent,
      Option.bind_eq_bind, Option.bind_some]
    rfl
  | false =>
    obtain ⟨c, d, rfl, hdigit⟩ := hw.exists_cons
    have hminus : c ≠ '-' := ne_of_isDigit hdigit (by decide)
    simp only [sign, Bool.false_eq_true, if_false, List.nil_append, number?]
    rw [List.cons_append] at hwhole ⊢
    simp [hminus, hwhole, hfraction, hexponent]

/-- The digits that a number is written in are a whole part. -/
theorem isWhole_ofNat (n : Nat) : IsWhole (ofNat n) := by
  rcases Nat.eq_zero_or_pos n with rfl | hpos
  · exact .zero
  · exact .digits (writes_ofNat n) (head?_ofNat_ne (Nat.ne_of_gt hpos))

/-- Every spelling of a number is read as that number. -/
theorem number?_of_isNumber (h : IsNumber j w) (hr : EndsNumber r) :
    number? (w ++ r) = some (j, r) := by
  cases h with
  | integer n =>
    cases n with
    | ofNat n =>
      have hread := number?_of_parts false (isWhole_ofNat n) .none .none hr
      simpa [sign, ofInt, (writes_ofNat n).value] using hread
    | negSucc n =>
      have hread := number?_of_parts true (isWhole_ofNat (n + 1)) .none .none hr
      simpa [sign, ofInt, (writes_ofNat (n + 1)).value, Int.negSucc_eq] using hread
  | @decimal negative w f e hwhole hfraction hexponent hform =>
    have hread := number?_of_parts negative hwhole hfraction hexponent hr
    have hdecimal : (f.isEmpty && e.isEmpty && !(negative && decimalValue w == 0)) = false := by
      rcases hform with hf | he | ⟨rfl, rfl⟩
      · simp [hf]
      · simp [he]
      · simp [decimalValue]
    rw [hdecimal] at hread
    simpa using hread

/-- A number begins with a minus sign or a digit. -/
theorem IsNumber.exists_cons (h : IsNumber j w) :
    ∃ c t, w = c :: t ∧ (c = '-' ∨ c.isDigit = true) := by
  cases h with
  | integer n =>
    cases n with
    | ofNat n =>
      obtain ⟨c, t, ht, hc⟩ := (writes_ofNat n).exists_cons
      exact ⟨c, t, ht, Or.inr hc⟩
    | negSucc n => exact ⟨'-', _, rfl, Or.inl rfl⟩
  | @decimal negative w f e hw =>
    cases negative with
    | true => exact ⟨'-', _, rfl, Or.inl rfl⟩
    | false =>
      obtain ⟨c, t, rfl, hc⟩ := hw.exists_cons
      exact ⟨c, t ++ (f ++ e), rfl, Or.inr hc⟩

/-- So it begins with none of the other characters. -/
theorem IsNumber.exists_cons_ne (h : IsNumber j w) :
    ∃ c t, w = c :: t ∧ ∀ d : Char, d ≠ '-' → d.isDigit = false → c ≠ d := by
  obtain ⟨c, t, rfl, hc⟩ := h.exists_cons
  refine ⟨c, t, rfl, fun d hminus hdigit => ?_⟩
  rcases hc with rfl | hc
  · exact Ne.symm hminus
  · exact ne_of_isDigit hc hdigit

end Json

end ElixirDiagnostics
